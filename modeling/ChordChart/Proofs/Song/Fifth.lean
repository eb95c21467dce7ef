import ChordChart.Proofs.Slot.Bass
import ChordChart.Proofs.Song.Encoded
import ChordChart.Proofs.Voicing.Bass

/-! The fifths of a song. A bass starts an octave below the base and only goes down from there, so
that options that can be used keep it below the highest fifth that is a key. -/
namespace ChordChart

theorem fifthWhole {bass : Key} (room : bass.toNat ≤ 120) :
    (fifthAbove bass).toNat = bass.toNat + 7 := by
  rw [fifthAbove, UInt8.toNat_ofNat']
  omega

theorem velocityLowered (velocity : UInt8) : (min velocity 127).toNat = min velocity.toNat 127 := by
  rw [Std.min_eq_if]
  split
  · rename_i inside
    have bound : velocity.toNat ≤ 127 := inside
    omega
  · rename_i beyond
    have bound : ¬ velocity.toNat ≤ 127 := beyond
    rw [Nat.min_eq_right (by omega)]
    rfl

theorem velocityClamped (velocity : UInt8) :
    (clampVelocity velocity).toNat = max 1 (min velocity.toNat 127) := by
  have larger : clampVelocity velocity =
    if 1 ≤ min velocity 127 then min velocity 127 else 1 := rfl
  rw [larger, ← velocityLowered]
  split
  · rename_i struck
    have bound : 1 ≤ (min velocity 127).toNat := struck
    omega
  · rename_i silent
    have bound : ¬ 1 ≤ (min velocity 127).toNat := silent
    rw [Nat.max_eq_left (by omega)]
    rfl

namespace Voicing

open Placement

theorem bassCeiling {chord : Chord} (formed : chord.WellFormed) (strategy : Strategy) {octave : UInt8}
    (register : octave.toNat ≤ Options.maxBaseOctave) (previous : List Key) :
    (ofChord chord strategy octave previous).bass.toNat ≤ 107 := by
  have small : chord.bass.toNat < 12 := formed.bass
  unfold Options.maxBaseOctave at register
  obtain ⟨lowest, found, -⟩ := lowestVoiced formed strategy octave previous
  obtain ⟨⟨-, -, down⟩, -⟩ := lowerBelowGreatest lowest.toNat (bassStart octave chord.bass)
  have places := foldPlaces (lowerBelow lowest.toNat (bassStart octave chord.bass))
  have folded : (ofChord chord strategy octave previous).bass =
      foldIntoRange (lowerBelow lowest.toNat (bassStart octave chord.bass)) := bassFolded found
  unfold bassStart at down places folded
  rw [folded]
  omega

end Voicing

namespace Slot

theorem ledCeiling {options : Options} (register : options.baseOctave.toNat ≤ Options.maxBaseOctave)
    {previous : List Key} {slots : List Slot} (led : Led options previous slots) :
    ∀ slot ∈ slots, ∃ bass, slot.bass = some bass ∧ bass.toNat ≤ 107 := by
  intro slot member
  obtain ⟨chord, formed, before, strikes⟩ := ledStrikes led slot member
  exact ⟨_, strikes.2, Voicing.bassCeiling formed options.strategy register before⟩

structure Plays (velocity : UInt8) (slot : Slot) (note : Note) : Prop where
  start : note.start = slot.start
  duration : note.duration = slot.duration
  velocity : note.velocity.toNat = max 1 (min velocity.toNat 127)

theorem playsNote {velocity : UInt8} {slot : Slot} {note : Note} (plays : slot.Plays velocity note) :
    note = ⟨note.key, slot.start, slot.duration, clampVelocity velocity⟩ := by
  have struck : note.velocity = clampVelocity velocity :=
    UInt8.toNat_inj.mp (plays.velocity.trans (velocityClamped velocity).symm)
  rw [← plays.start, ← plays.duration, ← struck]

structure Fifth (velocity : UInt8) (slot : Slot) (pair : Note × Note) : Prop where
  low : slot.Plays velocity pair.1
  high : slot.Plays velocity pair.2
  bass : slot.bass = some pair.1.key
  fifth : pair.2.key.toNat = pair.1.key.toNat + 7
  inside : pair.2.key.toNat < 127

theorem slotFifth {slot : Slot} {bass : Key} (sounds : slot.bass = some bass)
    (ceiling : bass.toNat ≤ 107) (velocity : UInt8) :
    ∃ pair, slot.Fifth velocity pair ∧ slot.notes .bassAndFifth velocity = [pair.1, pair.2] := by
  have fifth := @fifthWhole bass (by omega)
  have plays : ∀ key, slot.Plays velocity ⟨key, slot.start, slot.duration, clampVelocity velocity⟩ :=
    fun key => ⟨rfl, rfl, velocityClamped velocity⟩
  refine ⟨(_, _), ⟨plays bass, plays (fifthAbove bass), sounds, fifth, ?_⟩, ?_⟩
  · dsimp only
    omega
  · simp only [notes, keys, sounds, List.map_cons, List.map_nil]

theorem collectFifths {velocity : UInt8} {slots : List Slot}
    (ceiling : ∀ slot ∈ slots, ∃ bass, slot.bass = some bass ∧ bass.toNat ≤ 107) :
    ∃ pairs, List.Forall₂ (Fifth velocity) slots pairs ∧
      slots.flatMap (notes .bassAndFifth velocity) = pairs.flatMap fun pair => [pair.1, pair.2] := by
  induction slots with
  | nil => exact ⟨[], .nil, rfl⟩
  | cons slot slots ih =>
    obtain ⟨⟨bass, sounds, low⟩, others⟩ := List.forall_mem_cons.mp ceiling
    obtain ⟨pair, fifth, played⟩ := slotFifth sounds low velocity
    obtain ⟨pairs, fifths, collected⟩ := ih others
    refine ⟨pair :: pairs, .cons fifth fifths, ?_⟩
    rw [List.flatMap_cons, List.flatMap_cons, played, collected]

end Slot

namespace Song

theorem fifthsGenerated {options : Options} (asked : options.output = .bassAndFifth) {song : Song}
    (ok : generate options = .ok song) :
    ∃ pairs,
      List.Forall₂ (Slot.Fifth options.velocity) (song.slots.filter Slot.isAudible) pairs ∧
        song.notes = pairs.flatMap fun pair => [pair.1, pair.2] := by
  obtain ⟨slotted, -, collected⟩ := generateParts ok
  obtain ⟨valid, entries, -, laid⟩ := Slot.optionsLaid slotted
  have register := (Options.usableIff.mp valid).octave
  rw [collected, asked]
  exact Slot.collectFifths (Slot.ledCeiling register (Slot.laidLed laid))

def highest : Options :=
  { progression := "C/B R:1", output := .bassAndFifth, baseOctave := 9, velocity := 200 }

def highestSlot : Slot :=
  Slot.sounding ⟨"C/B", .chord ⟨some 0, "", some 11⟩, 512⟩ 0 ⟨0, [0, 4, 7], 11⟩
    ⟨[108, 112, 115], 107⟩

theorem highestSlots :
    Slot.ofOptions highest = .ok [highestSlot, Slot.rest ⟨"R", .rest, 512⟩ 512] := by
  have chord : Chord.resolve ⟨some 0, "", some 11⟩ 0 = .ok ⟨0, [0, 4, 7], 11⟩ := by cbv
  have voiced : Voicing.ofChord ⟨0, [0, 4, 7], 11⟩ .rootPosition 9 [] = ⟨[108, 112, 115], 107⟩ := by
    cbv
  exact Slot.laidOptions (by decide) (okOfSome (by decide +kernel)) <|
    .sounding rfl chord voiced (by decide) (.rest rfl (by decide) (.nil _ _))

theorem highestFifth :
    highest.output = .bassAndFifth ∧ ∃ song, generate highest = .ok song ∧
      song.notes = [⟨107, 0, 512, 127⟩, ⟨114, 0, 512, 127⟩] := by
  have fits := slotsFit highestSlots (Midi.nameableIff.mpr (by decide +kernel)) (by decide +kernel)
  obtain ⟨song, ok⟩ := slotsGenerate highestSlots fits
  obtain ⟨pairs, fifths, notes⟩ := @fifthsGenerated highest rfl song ok
  have slots : song.slots = [highestSlot, Slot.rest ⟨"R", .rest, 512⟩ 512] :=
    Except.ok.inj ((generateParts ok).1.symm.trans highestSlots)
  have sounds : song.slots.filter Slot.isAudible = [highestSlot] := by
    rw [slots]
    rfl
  rw [sounds] at fifths
  cases fifths with
  | @cons _ pair _ _ fifth none =>
    cases none
    have low : pair.1.key = 107 := (Option.some.inj fifth.bass).symm
    have fifth' := fifth.fifth
    rw [low] at fifth'
    have high : pair.2.key = 114 := UInt8.toNat_inj.mp fifth'
    have bass := Slot.playsNote fifth.low
    have above := Slot.playsNote fifth.high
    rw [low] at bass
    rw [high] at above
    refine ⟨rfl, song, ok, notes.trans ?_⟩
    rw [List.flatMap_cons, bass, above]
    rfl

end Song

end ChordChart
