import ChordChart.Proofs.Slot.Laid
import Mathlib

/-! The slots of a progression beside its entries and beside the voicings of its chords alone. The
keys that a chord is led from are the only thing the two runs thread, and a silent slot hands them
on as it got them. -/
namespace ChordChart

def Entry.resolved? (transpose : Int) (entry : Entry) : Option Chord :=
  match entry.kind with
  | .rest => none
  | .chord symbol => (Chord.resolve symbol transpose).toOption

namespace Slot

structure IsSilent (slot : Slot) : Prop where
  tones : slot.toneSet = []
  voicing : slot.voicing = []
  bass : slot.bass = none

def Reflects (options : Options) (entry : Entry) (slot : Slot) : Prop :=
  slot.symbol = entry.symbol ∧ slot.duration = entry.duration ∧
    match entry.kind with
    | .rest => slot.isRest ∧ slot.isValid ∧ slot.error = none ∧ slot.IsSilent
    | .chord symbol =>
      ¬ slot.isRest ∧
        match Chord.resolve symbol options.transpose with
        | .error cause => ¬ slot.isValid ∧ slot.error = some cause.message ∧ slot.IsSilent
        | .ok chord => slot.isValid ∧ slot.error = none ∧ slot.toneSet = chord.toneSet

theorem laidReflects {options : Options} {tick : Nat} {previous : List Key} {entries : List Entry}
    {slots : List Slot} (laid : Laid options tick previous entries slots) :
    List.Forall₂ (Reflects options) entries slots := by
  induction laid with
  | nil => exact .nil
  | rest kind room next ih =>
    refine .cons ?_ ih
    simp only [Reflects, kind]
    exact ⟨rfl, rfl, rfl, rfl, rfl, ⟨rfl, rfl, rfl⟩⟩
  | unknown kind refused room next ih =>
    refine .cons ?_ ih
    simp only [Reflects, kind, refused]
    exact ⟨rfl, rfl, Bool.false_ne_true, Bool.false_ne_true, rfl, ⟨rfl, rfl, rfl⟩⟩
  | sounding kind resolved voiced room next ih =>
    refine .cons ?_ ih
    simp only [Reflects, kind, resolved]
    exact ⟨rfl, rfl, Bool.false_ne_true, rfl, rfl, rfl⟩

def voices (slots : List Slot) : List (List Key × Option Key) :=
  (slots.filter isAudible).map fun slot => (slot.voicing, slot.bass)

theorem laidVoices {options : Options} {tick : Nat} {previous : List Key} {entries : List Entry}
    {slots : List Slot} (laid : Laid options tick previous entries slots) :
    voices slots =
      (Voicing.ofChords options.strategy options.baseOctave previous
        (entries.filterMap (Entry.resolved? options.transpose))).map
          fun voicing => (voicing.notes, some voicing.bass) := by
  induction laid with
  | nil => rfl
  | @rest tick previous entry entries slots kind room next ih =>
    have silent : entry.resolved? options.transpose = none := by simp [Entry.resolved?, kind]
    rw [List.filterMap_cons_none silent, ← ih]
    rfl
  | @unknown tick previous entry entries slots symbol cause kind refused room next ih =>
    have silent : entry.resolved? options.transpose = none := by
      simp [Entry.resolved?, kind, refused, Except.toOption]
    rw [List.filterMap_cons_none silent, ← ih]
    rfl
  | @sounding tick previous entry entries slots symbol chord voicing kind resolved voiced room next
      ih =>
    have named : entry.resolved? options.transpose = some chord := by
      simp [Entry.resolved?, kind, resolved, Except.toOption]
    rw [List.filterMap_cons_some named, Voicing.ofChords, voiced, List.map_cons, ← ih]
    rfl

theorem slotsOfChordsAlone {options : Options} {slots : List Slot}
    (ok : ofOptions options = .ok slots) :
    ∃ entries,
      Progression.parse options.progression options.chordDuration options.meter = .ok entries ∧
        List.Forall₂ (Reflects options) entries slots ∧
        voices slots =
          (Voicing.ofChords options.strategy options.baseOctave []
            (entries.filterMap (Entry.resolved? options.transpose))).map
              fun voicing => (voicing.notes, some voicing.bass) := by
  obtain ⟨-, entries, parsed, laid⟩ := optionsLaid ok
  exact ⟨entries, parsed, laidReflects laid, laidVoices laid⟩

def apart : Options := { progression := "C R:1 Cxyz Am", strategy := .smooth }

def apartEntries : List Entry :=
  [⟨"C", .chord ⟨some 0, "", none⟩, 512⟩, ⟨"R", .rest, 512⟩,
    ⟨"Cxyz", .chord ⟨some 0, "xyz", none⟩, 512⟩, ⟨"Am", .chord ⟨some 9, "m", none⟩, 512⟩]

theorem apartParsed :
    Progression.parse apart.progression apart.chordDuration apart.meter = .ok apartEntries :=
  okOfSome (by decide +kernel)

def apartSlots : List Slot :=
  [sounding ⟨"C", .chord ⟨some 0, "", none⟩, 512⟩ 0 ⟨0, [0, 4, 7], 0⟩ ⟨[48, 52, 55], 36⟩,
    rest ⟨"R", .rest, 512⟩ 512,
    unknown ⟨"Cxyz", .chord ⟨some 0, "xyz", none⟩, 512⟩ 1024 (.unknownQuality "xyz"),
    sounding ⟨"Am", .chord ⟨some 9, "m", none⟩, 512⟩ 1536 ⟨9, [9, 0, 4], 9⟩ ⟨[48, 52, 57], 45⟩]

theorem apartLaid : Laid apart 0 [] apartEntries apartSlots := by
  have first : Voicing.ofChord ⟨0, [0, 4, 7], 0⟩ .smooth 4 [] = ⟨[48, 52, 55], 36⟩ := by cbv
  have minor : Chord.resolve ⟨some 9, "m", none⟩ 0 = .ok ⟨9, [9, 0, 4], 9⟩ := by cbv
  have nearest : Voicing.pitches ⟨9, [9, 0, 4], 9⟩ .smooth 48 [48, 52, 55] = [57, 48, 52] := by
    decide +kernel
  have second : Voicing.ofChord ⟨9, [9, 0, 4], 9⟩ .smooth 4 [48, 52, 55] = ⟨[48, 52, 57], 45⟩ := by
    have base : (12 * (4 : UInt8).toNat : Int) = 48 := rfl
    simp only [Voicing.ofChord, base, nearest]
    cbv
  exact .sounding rfl (by cbv) first (by decide) <| .rest rfl (by decide) <|
    .unknown rfl (by cbv) (by decide) <| .sounding rfl minor second (by decide) (.nil _ _)

theorem apartVoices :
    voices apartSlots =
      (Voicing.ofChords .smooth 4 [] [⟨0, [0, 4, 7], 0⟩, ⟨9, [9, 0, 4], 9⟩]).map
        fun voicing => (voicing.notes, some voicing.bass) := by
  have ok := laidOptions (by decide) apartParsed apartLaid
  obtain ⟨entries, parsed, -, same⟩ := slotsOfChordsAlone ok
  cases apartParsed.symm.trans parsed
  have chords : apartEntries.filterMap (Entry.resolved? apart.transpose) =
      [⟨0, [0, 4, 7], 0⟩, ⟨9, [9, 0, 4], 9⟩] := by
    cbv
  rw [same, chords]
  rfl

end Slot

end ChordChart
