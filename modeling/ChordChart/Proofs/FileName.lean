import ChordChart.Proofs.Text.Words
import ChordChart.Song
import Mathlib

/-! The names of the files written. Each ends in `.mid`, has no blanks around it and so stands for
itself when it is asked for; a name made of chords has no characters but letters, digits and three
marks before its ending. -/
namespace ChordChart

theorem Text.lowerPlain {c lowered : Char} (same : Text.lowerChar c = lowered)
    (plain : lowered ≠ 'k') : c.toLower = lowered := by
  unfold Text.lowerChar at same
  split at same
  · exact absurd same.symm plain
  · exact same

namespace FileName

open Text (isBlank Bare)

structure Whole (name : String) : Prop where
  ending : Text.endsNamed name ".mid"
  bare : Bare name.toList

def Plain (c : Char) : Prop := c.isAlphanum ∨ c = '_' ∨ c = '#' ∨ c = '-'

instance : DecidablePred Plain := fun c =>
  inferInstanceAs (Decidable (c.isAlphanum ∨ c = '_' ∨ c = '#' ∨ c = '-'))

theorem safePlain (c : Char) : Plain (safeChar c) := by
  unfold safeChar
  split
  · rename_i kept
    simpa [Plain, or_assoc] using kept
  · exact .inr (.inl rfl)

theorem plainFilled {c : Char} (plain : Plain c) : ¬ isBlank c := by
  have printed : 0x23 ≤ c.toNat ∧ c.toNat ≤ 0x7A := by
    rcases plain with named | rfl | rfl | rfl
    · simp only [Char.isAlphanum, Char.isAlpha, Char.isUpper, Char.isLower, Char.isDigit,
        Bool.or_eq_true, Bool.and_eq_true, decide_eq_true_eq, ge_iff_le, UInt32.le_iff_toNat_le,
        Char.reduceVal, UInt32.reduceToNat] at named
      rw [Char.toNat]
      omega
    all_goals decide
  simp only [isBlank, Text.inRanges, Text.blankRanges, List.any_cons, List.any_nil, Bool.or_eq_true,
    Bool.and_eq_true, decide_eq_true_eq, Bool.false_eq_true, or_false]
  omega

theorem plainText {text : String} (all : text.toList.all fun c => decide (Plain c)) :
    ∀ c ∈ text.toList, Plain c := fun c member =>
  of_decide_eq_true (List.all_eq_true.mp all c member)

theorem endingFilled : ∀ c ∈ ".mid".toList, ¬ isBlank c := by
  simp [isBlank, Text.inRanges, Text.blankRanges]

theorem derivedStem (output : Output) (slots : List Slot) :
    ∃ stem, derived output slots = stem ++ ".mid" ∧ ∀ c ∈ stem.toList, Plain c := by
  refine ⟨_, rfl, ?_⟩
  simp only [String.toList_append, List.forall_mem_append]
  refine ⟨⟨?_, plainText (by decide)⟩, ?_⟩
  · split
    · exact plainText (by decide)
    · rw [safe, String.toList_map]
      exact List.forall_mem_map.mpr fun c _ => safePlain c
  · cases output <;> exact plainText (by decide)

theorem endingAdded (name : String) : Text.endsNamed (name ++ ".mid") ".mid" := by
  rw [Text.endsNamed, List.isSuffixOf_iff_suffix, Text.lower, String.toList_append, List.map_append]
  exact ⟨_, rfl⟩

theorem derivedWhole (output : Output) (slots : List Slot) : Whole (derived output slots) := by
  obtain ⟨stem, made, plain⟩ := derivedStem output slots
  rw [made]
  refine ⟨endingAdded stem, Text.bareClean ?_⟩
  rw [String.toList_append, List.forall_mem_append]
  exact ⟨fun c member => plainFilled (plain c member), endingFilled⟩

theorem endedWhole {given : String} (filled : Text.trimmed given ≠ "") :
    Whole (withEnding (Text.trimmed given)) := by
  have bare : Bare (Text.trimmed given).toList := by
    rw [Text.trimmed, String.toList_ofList]
    exact Text.trimBare _
  unfold withEnding
  split
  · rename_i ended
    exact ⟨ended, bare⟩
  · refine ⟨endingAdded _, ?_, ?_⟩
    · rw [String.toList_append, List.head?_append_of_ne_nil _ (by simpa using filled)]
      exact bare.first
    · rw [String.toList_append, List.getLast?_append_of_ne_nil _ (by decide)]
      exact fun c foot => endingFilled c (List.mem_of_mem_getLast? foot)

theorem finalWhole (options : Options) (slots : List Slot) : Whole (final options slots) := by
  unfold final
  split
  · rename_i name given
    obtain ⟨text, -, rfl⟩ := Option.map_eq_some_iff.mp given
    split
    · exact derivedWhole _ _
    · rename_i filled
      exact endedWhole filled
  · exact derivedWhole _ _

theorem wholeFinal {name : String} (whole : Whole name) {options : Options}
    (given : options.fileName = some name) (slots : List Slot) : final options slots = name := by
  have kept : Text.trimmed name = name := by
    rw [Text.trimmed, Text.trimKept whole.bare, String.ofList_toList]
  have filled : name ≠ "" := by
    rintro rfl
    exact absurd whole.ending (by decide)
  rw [final, given, Option.map_some, kept]
  simp only [if_neg filled, withEnding, if_pos whole.ending]

theorem blankDerived {options : Options}
    (blank : ∀ given ∈ options.fileName, ∀ c ∈ given.toList, isBlank c) (slots : List Slot) :
    final options slots = derived options.output slots := by
  unfold final
  cases named : options.fileName with
  | none => rfl
  | some given =>
    have none : Text.trimmed given = "" := by
      rw [Text.trimmed, Text.trimBlank (blank given named), String.ofList_nil]
    simp only [Option.map_some, if_pos none]

theorem endingSplit {name : String} (ended : Text.endsNamed name ".mid") :
    ∃ stem ending, name = stem ++ ending ∧ ending.toList.map Char.toLower = ".mid".toList := by
  rw [Text.endsNamed, List.isSuffixOf_iff_suffix, Text.lower] at ended
  obtain ⟨front, lowered⟩ := ended
  obtain ⟨stem, ending, parts, -, same⟩ := List.map_eq_append_iff.mp lowered.symm
  refine ⟨String.ofList stem, String.ofList ending, ?_, ?_⟩
  · rw [← String.ofList_append, ← parts, String.ofList_toList]
  · rw [String.toList_ofList, ← same]
    refine List.map_congr_left fun c member => Text.lowerPlain rfl ?_
    have among : Text.lowerChar c ∈ ".mid".toList := same ▸ List.mem_map_of_mem member
    intro kelvin
    exact absurd (kelvin ▸ among) (by decide)

theorem finalStable (options : Options) (slots : List Slot) :
    let name := final options slots
    (∃ stem ending, name = stem ++ ending ∧ ending.toList.map Char.toLower = ".mid".toList) ∧
      Bare name.toList ∧
      ((∀ given ∈ options.fileName, ∀ c ∈ given.toList, isBlank c) →
        ∃ stem, name = stem ++ ".mid" ∧ ∀ c ∈ stem.toList, Plain c) ∧
      ∀ others : Options, others.fileName = some name → ∀ played, final others played = name := by
  intro name
  have whole : Whole name := finalWhole options slots
  refine ⟨endingSplit whole.ending, whole.bare, fun blank => ?_, fun others => wholeFinal whole⟩
  rw [show name = _ from blankDerived blank slots]
  exact derivedStem _ _

example : final { fileName := some " Ça\u3000va.MiD\u3000" } [] = "Ça\u3000va.MiD" := by decide

end FileName

end ChordChart
