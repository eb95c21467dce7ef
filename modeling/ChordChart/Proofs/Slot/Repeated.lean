import ChordChart.Proofs.Slot.Bass
import ChordChart.Proofs.Voicing.Movement

/-! Chords repeated in a progression. With nearest pitches a chord led from its own keys keeps them.
So chords with the same pitch classes and bass that sound one after the other are voiced as the
first of them is. -/
namespace ChordChart.Slot

structure Repeats (first slot : Slot) : Prop where
  tones : slot.toneSet = first.toneSet
  bass : slot.bass.map (· % 12) = first.bass.map (· % 12)

theorem ledStill {options : Options} (smooth : options.strategy = .smooth) {previous : List Key}
    {first second : Slot} {rest : List Slot} (led : Led options previous (first :: second :: rest))
    (repeats : first.Repeats second) :
    second.voicing = first.voicing ∧ second.bass = first.bass ∧
      Led options previous (first :: rest) := by
  cases led with
  | cons formed tones strikes next =>
    cases next with
    | cons twin classes struck further =>
      rename_i chord other
      have alike : chord.Alike other := by
        refine ⟨classes ▸ tones ▸ repeats.tones, Option.some.inj ?_⟩
        rw [← strikesBass twin struck, ← strikesBass formed strikes]
        exact repeats.bass
      rw [smooth] at strikes struck
      rw [strikes.1, Voicing.smoothStill formed twin alike] at struck
      have voicing : second.voicing = first.voicing := struck.1.trans strikes.1.symm
      refine ⟨voicing, struck.2.trans strikes.2.symm, ?_⟩
      rw [voicing] at further
      exact .cons formed tones (smooth ▸ strikes) further

theorem repeatsStill {options : Options} (smooth : options.strategy = .smooth) {previous : List Key}
    {first : Slot} {run rest : List Slot} (led : Led options previous (first :: (run ++ rest)))
    (repeats : ∀ slot ∈ run, first.Repeats slot) :
    ∀ slot ∈ run, slot.voicing = first.voicing ∧ slot.bass = first.bass := by
  induction run with
  | nil => simp
  | cons slot run ih =>
    obtain ⟨same, others⟩ := List.forall_mem_cons.mp repeats
    obtain ⟨voicing, bass, without⟩ := ledStill smooth led same
    exact List.forall_mem_cons.mpr ⟨⟨voicing, bass⟩, ih without others⟩

theorem repeatedHeld :
    (∀ chord : Chord, chord.Made → ∀ octave previous,
        let voicing := Voicing.ofChord chord .smooth octave previous
        Voicing.ofChord chord .smooth octave voicing.notes = voicing) ∧
      ∀ options slots, options.strategy = .smooth → ofOptions options = .ok slots →
        ∀ before first run after,
          slots.filter isAudible = before ++ first :: (run ++ after) →
            (∀ slot ∈ run, first.Repeats slot) →
              ∀ slot ∈ run, slot.voicing = first.voicing ∧ slot.bass = first.bass := by
  refine ⟨fun chord made octave previous => ?_, ?_⟩
  · have formed := Chord.madeFormed made
    exact Voicing.smoothStill formed formed ⟨rfl, rfl⟩ octave previous
  · intro options slots smooth ok before first run after sounds repeats
    obtain ⟨-, entries, -, laid⟩ := optionsLaid ok
    have led := laidLed laid
    rw [sounds] at led
    obtain ⟨previous, behind⟩ := ledBehind led
    exact repeatsStill smooth behind repeats

def renamed : Options := { progression := "C Am7 R:1 Cxyz C6/A", strategy := .smooth }

def renamedEntries : List Entry :=
  [⟨"C", .chord ⟨some 0, "", none⟩, 512⟩, ⟨"Am7", .chord ⟨some 9, "m7", none⟩, 512⟩,
    ⟨"R", .rest, 512⟩, ⟨"Cxyz", .chord ⟨some 0, "xyz", none⟩, 512⟩,
    ⟨"C6/A", .chord ⟨some 0, "6", some 9⟩, 512⟩]

def leadingC : Slot :=
  sounding ⟨"C", .chord ⟨some 0, "", none⟩, 512⟩ 0 ⟨0, [0, 4, 7], 0⟩ ⟨[48, 52, 55], 36⟩

def minorSeventh : Slot :=
  sounding ⟨"Am7", .chord ⟨some 9, "m7", none⟩, 512⟩ 512 ⟨9, [9, 0, 4, 7], 9⟩
    ⟨[48, 52, 55, 57], 45⟩

def sixthOverA : Slot :=
  sounding ⟨"C6/A", .chord ⟨some 0, "6", some 9⟩, 512⟩ 2048 ⟨0, [0, 4, 7, 9], 9⟩
    ⟨[48, 52, 55, 57], 45⟩

def renamedSlots : List Slot :=
  [leadingC, minorSeventh, rest ⟨"R", .rest, 512⟩ 1024,
    unknown ⟨"Cxyz", .chord ⟨some 0, "xyz", none⟩, 512⟩ 1536 (.unknownQuality "xyz"), sixthOverA]

theorem renamedLaid : Laid renamed 0 [] renamedEntries renamedSlots := by
  have minor : Chord.resolve ⟨some 9, "m7", none⟩ 0 = .ok ⟨9, [9, 0, 4, 7], 9⟩ := by cbv
  have sixth : Chord.resolve ⟨some 0, "6", some 9⟩ 0 = .ok ⟨0, [0, 4, 7, 9], 9⟩ := by cbv
  have first : Voicing.ofChord ⟨0, [0, 4, 7], 0⟩ .smooth 4 [] = ⟨[48, 52, 55], 36⟩ := by cbv
  have second : Voicing.ofChord ⟨9, [9, 0, 4, 7], 9⟩ .smooth 4 [48, 52, 55] =
      ⟨[48, 52, 55, 57], 45⟩ := by cbv
  have third : Voicing.ofChord ⟨0, [0, 4, 7, 9], 9⟩ .smooth 4 [48, 52, 55, 57] =
      ⟨[48, 52, 55, 57], 45⟩ := by cbv
  exact .sounding rfl (by cbv) first (by decide) <| .sounding rfl minor second (by decide) <|
    .rest rfl (by decide) <| .unknown rfl (by cbv) (by decide) <|
      .sounding rfl sixth third (by decide) (.nil _ _)

theorem renamedHeld :
    ofOptions renamed = .ok renamedSlots ∧
      renamedSlots.filter isAudible = [leadingC] ++ minorSeventh :: ([sixthOverA] ++ []) ∧
      minorSeventh.Repeats sixthOverA ∧ sixthOverA.voicing = minorSeventh.voicing ∧
      sixthOverA.bass = minorSeventh.bass := by
  have ok : ofOptions renamed = .ok renamedSlots :=
    laidOptions (by decide) (okOfSome (by decide +kernel)) renamedLaid
  have sounds : renamedSlots.filter isAudible =
      [leadingC] ++ minorSeventh :: ([sixthOverA] ++ []) := rfl
  have repeats : minorSeventh.Repeats sixthOverA := ⟨by cbv, by decide⟩
  obtain ⟨voicing, bass⟩ := repeatedHeld.2 renamed renamedSlots rfl ok [leadingC] minorSeventh
    [sixthOverA] [] sounds (by simpa using repeats) sixthOverA (by simp)
  exact ⟨ok, sounds, repeats, voicing, bass⟩

end ChordChart.Slot
