import ChordChart.Proofs.Slot.Bass
import ChordChart.Proofs.Slot.Placed

/-! One progression under two transpositions. What is read of it and where it lies in time do not
depend on them, and neither does which chords are unknown. The classes move by the difference; the
keys need not, since the keys that a chord is led from move by other amounts. -/
namespace ChordChart

def Options.moved (options : Options) (semitones : Int) : Options :=
  { options with transpose := semitones }

namespace Slot

structure Shifted (semitones : Int) (slot moved : Slot) : Prop where
  symbol : moved.symbol = slot.symbol
  isValid : moved.isValid = slot.isValid
  isRest : moved.isRest = slot.isRest
  start : moved.start = slot.start
  duration : moved.duration = slot.duration
  error : moved.error = slot.error
  tones : moved.toneSet = ascendingSet (slot.toneSet.map (transposed · semitones))
  bass : moved.bass.map (· % 12) = slot.bass.map fun key => transposed (key % 12) semitones

theorem silentShifted (semitones : Int) {slot : Slot} (silent : slot.IsSilent) :
    Shifted semitones slot slot := by
  refine ⟨rfl, rfl, rfl, rfl, rfl, rfl, ?_, ?_⟩
  · simp [silent.tones, ascendingSet]
  · simp [silent.bass]

theorem laidShifted {options : Options} {first second : Int} (near : first.natAbs ≤ 24)
    (further : second.natAbs ≤ 24) {tick : Nat} {previous : List Key} {entries : List Entry}
    {slots : List Slot} (laid : Laid (options.moved first) tick previous entries slots)
    (other : List Key) :
    ∃ moved, Laid (options.moved second) tick other entries moved ∧
      List.Forall₂ (Shifted (second - first)) slots moved := by
  -- the two runs lead their chords from different keys, so these are general in the induction
  induction laid generalizing other with
  | nil => exact ⟨[], .nil _ _, .nil⟩
  | rest kind room next ih =>
    obtain ⟨moved, later, shifted⟩ := ih other
    exact ⟨_, .rest kind room later, .cons (silentShifted _ ⟨rfl, rfl, rfl⟩) shifted⟩
  | unknown kind refused room next ih =>
    obtain ⟨moved, later, shifted⟩ := ih other
    have unknown := Chord.refusedMoved refused second
    exact ⟨_, .unknown kind unknown room later, .cons (silentShifted _ ⟨rfl, rfl, rfl⟩) shifted⟩
  | @sounding tick previous entry entries slots symbol chord voicing kind resolved voiced room next
      ih =>
    obtain ⟨high, named, tones, bass⟩ := Chord.resolvedMoved near further resolved
    obtain ⟨moved, later, shifted⟩ :=
      ih (Voicing.ofChord high options.strategy options.baseOctave other).notes
    refine ⟨_, .sounding kind named rfl room later, .cons ⟨rfl, rfl, rfl, rfl, rfl, rfl, tones, ?_⟩
      shifted⟩
    have low := (Voicing.bassFounded (Chord.resolvedFormed resolved) options.strategy
      options.baseOctave previous).1
    have raised := (Voicing.bassFounded (Chord.resolvedFormed named) options.strategy
      options.baseOctave other).1
    subst voiced
    simp only [sounding, Option.map_some, Options.moved, low, raised, bass]

theorem movedProblem (options : Options) {first second : Int} (near : first.natAbs ≤ 24)
    (further : second.natAbs ≤ 24) :
    (options.moved first).problem? = (options.moved second).problem? := by
  have low : ¬ 24 < first.natAbs := Nat.not_lt.mpr near
  have high : ¬ 24 < second.natAbs := Nat.not_lt.mpr further
  simp only [Options.problem?, Options.moved, Options.maxTranspose, low, high, if_false]
  rfl

theorem movedReads {options : Options} {first second : Int} (near : first.natAbs ≤ 24)
    (further : second.natAbs ≤ 24) {entries : List Entry}
    (reads : (options.moved first).Reads entries) : (options.moved second).Reads entries :=
  ⟨movedProblem options further near ▸ reads.valid, reads.parsed⟩

theorem movedRefused {options : Options} {first second : Int} (near : first.natAbs ≤ 24)
    (further : second.natAbs ≤ 24) {cause : GenerateError}
    (refused : ofOptions (options.moved first) = .error cause) :
    ofOptions (options.moved second) = .error cause := by
  have answer := optionsAnswer (options.moved first)
  have same := movedProblem options near further
  rw [refused] at answer
  cases answer with
  | unusable problem => exact unusableIff.mpr (same ▸ problem)
  | unread valid unread => exact unreadIff.mpr ⟨same ▸ valid, unread⟩
  | long reads beyond => exact longIff.mpr ⟨_, movedReads near further reads, beyond⟩

theorem movedShifted {options : Options} {first second : Int} (near : first.natAbs ≤ 24)
    (further : second.natAbs ≤ 24) {slots : List Slot}
    (ok : ofOptions (options.moved first) = .ok slots) :
    ∃ moved, ofOptions (options.moved second) = .ok moved ∧
      List.Forall₂ (Shifted (second - first)) slots moved := by
  obtain ⟨valid, entries, parsed, laid⟩ := optionsLaid ok
  obtain ⟨moved, later, shifted⟩ := laidShifted near further laid []
  exact ⟨moved, laidOptions (movedProblem options near further ▸ valid) parsed later, shifted⟩

theorem entriesOctaves {options : Options} {first second : Int}
    (same : ∀ symbol, Chord.resolve symbol first = Chord.resolve symbol second) (tick : Nat)
    (previous : List Key) (entries : List Entry) :
    ofEntries (options.moved first) tick previous entries =
      ofEntries (options.moved second) tick previous entries := by
  induction entries generalizing tick previous with
  | nil => rfl
  | cons entry entries ih =>
    have here : ofEntry (options.moved first) tick previous entry =
        ofEntry (options.moved second) tick previous entry := by
      simp only [ofEntry, Options.moved, same]
    simp only [ofEntries, here, ih]

theorem movedOctaves (options : Options) {first second : Int} (near : first.natAbs ≤ 24)
    (further : second.natAbs ≤ 24) (same : first % 12 = second % 12) :
    ofOptions (options.moved first) = ofOptions (options.moved second) := by
  have problem := movedProblem options near further
  have resolved := fun symbol => Chord.resolvedOctaves symbol near further same
  simp only [ofOptions, problem, entriesOctaves resolved]
  rfl

theorem transposedAlone (options : Options) {first second : Int}
    (near : first.natAbs ≤ Options.maxTranspose) (further : second.natAbs ≤ Options.maxTranspose) :
    (∀ cause, ofOptions (options.moved first) = .error cause ↔
        ofOptions (options.moved second) = .error cause) ∧
      (∀ slots, ofOptions (options.moved first) = .ok slots →
        ∃ moved, ofOptions (options.moved second) = .ok moved ∧
          List.Forall₂ (Shifted (second - first)) slots moved) ∧
      (first % 12 = second % 12 →
        ofOptions (options.moved first) = ofOptions (options.moved second)) :=
  ⟨fun _ => ⟨movedRefused near further, movedRefused further near⟩,
    fun _ ok => movedShifted near further ok, movedOctaves options near further⟩

theorem apartMoved :
    (0 : Int).natAbs ≤ Options.maxTranspose ∧ (7 : Int).natAbs ≤ Options.maxTranspose ∧
      (∃ moved, ofOptions (apart.moved 7) = .ok moved ∧
        List.Forall₂ (Shifted 7) apartSlots moved) ∧
      ofOptions (apart.moved (-12)) = .ok apartSlots := by
  have within : (0 : Int).natAbs ≤ Options.maxTranspose := by decide
  have fifth : (7 : Int).natAbs ≤ Options.maxTranspose := by decide
  have octave : (-12 : Int).natAbs ≤ Options.maxTranspose := by decide
  have ok : ofOptions (apart.moved 0) = .ok apartSlots :=
    laidOptions (by decide) apartParsed apartLaid
  obtain ⟨-, shifted, -⟩ := transposedAlone apart within fifth
  obtain ⟨-, -, same⟩ := transposedAlone apart within octave
  exact ⟨within, fifth, shifted apartSlots ok, (same (by decide)).symm.trans ok⟩

end Slot

end ChordChart
