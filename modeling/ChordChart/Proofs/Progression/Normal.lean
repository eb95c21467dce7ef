import ChordChart.Proofs.Progression.Tokens
import ChordChart.Proofs.Text.Spaced

/-! The normal form of a progression text: its tokens with one space between each two. A text is
normal where it has no separator but single spaces between words, and those texts are the ones that
normalizing keeps. -/
namespace ChordChart.Progression

open Text (isBlank words joinWords Spaced IsWord)

structure Normal (cs : List Char) : Prop extends Spaced cs where
  marks : ∀ c ∈ cs, c ≠ ',' ∧ c ≠ '|'
  arrows : ¬ ['-', '>'] <:+: cs
  dash : ['-'] ∉ words cs

theorem tokensWords {cs : List Char} (normal : Normal cs) : tokens cs = words cs := by
  rw [tokens, arrowsAlone normal.arrows, marksAlone normal.marks, List.filter_eq_self]
  intro word member
  have other : word ≠ ['-'] := by
    intro same
    exact normal.dash (same ▸ member)
  simpa using other

theorem tokensAre {cs token : List Char} (member : token ∈ tokens cs) : IsWord token :=
  ⟨(tokenMember member).filled, (tokenMember member).blanks⟩

theorem arrowsJoined {pieces : List (List Char)} (free : ∀ piece ∈ pieces, ¬ ['-', '>'] <:+: piece) :
    spaceArrows (joinWords pieces) = joinWords pieces := by
  induction pieces with
  | nil => rfl
  | cons piece pieces ih =>
    obtain ⟨first, rest⟩ := List.forall_mem_cons.mp free
    by_cases more : pieces = []
    · rw [more, Text.joinOne, arrowsAlone first]
    · have head : (' ' :: joinWords pieces).head? ≠ some '>' := by simp
      rw [Text.joinMore piece more, arrowsAppend piece head, arrowsAlone first,
        arrowsKept (by decide), ih rest]

theorem tokensNormal (cs : List Char) : Normal (joinWords (tokens cs)) := by
  obtain ⟨spaced, same⟩ := Text.joinedSpaced fun token member => @tokensAre cs token member
  have free := arrowsJoined fun token member => (@tokenMember cs token member).arrows
  refine ⟨spaced, ?_, free ▸ (arrowsGone _).1, ?_⟩
  · intro c member
    rcases Text.joinedMember member with rfl | ⟨token, among, inside⟩
    · decide
    · exact (tokenMember among).marks c inside
  · rw [same]
    intro member
    exact (tokenMember member).dash rfl

theorem normalizeList (text : String) : (normalize text).toList = joinWords (tokens text.toList) := by
  rw [normalize, String.toList_ofList]

theorem normalIff {text : String} : normalize text = text ↔ Normal text.toList := by
  rw [← String.toList_inj, normalizeList]
  constructor
  · intro same
    exact same ▸ tokensNormal text.toList
  · intro normal
    rw [tokensWords normal, Text.wordsJoined normal.toSpaced]

theorem normalizedNormal (text : String) : Normal (normalize text).toList := by
  rw [normalizeList]
  exact tokensNormal text.toList

theorem normalizedWords (text : String) : words (normalize text).toList = tokens text.toList := by
  rw [normalizeList]
  exact (Text.joinedSpaced fun token member => tokensAre member).2

theorem unseparated {text : String} (filled : ∀ c ∈ text.toList, ¬ isBlank c ∧ c ≠ ',' ∧ c ≠ '|')
    (arrows : ¬ ['-', '>'] <:+: text.toList) :
    normalize text = if text = "-" then "" else text := by
  split
  · rename_i dash
    subst dash
    decide
  · rename_i other
    have clean : ∀ c ∈ text.toList, ¬ isBlank c := fun c member => (filled c member).1
    apply normalIff.mpr
    constructor
    · exact Text.spacedClean clean
    · intro c member
      exact (filled c member).2
    · exact arrows
    · intro dash
      exact other (String.toList_inj.mp (Text.wordWhole clean dash).symm)

theorem normalForm (text : String) :
    normalize (normalize text) = normalize text ∧ Normal (normalize text).toList ∧
      (normalize text = text ↔ Normal text.toList) ∧
      ((∀ c ∈ text.toList, ¬ isBlank c ∧ c ≠ ',' ∧ c ≠ '|') → ¬ ['-', '>'] <:+: text.toList →
        normalize text = if text = "-" then "" else text) ∧
      ∀ a b sep : String, Separates sep.toList →
        words (normalize (a ++ sep ++ b)).toList =
          words (normalize a).toList ++ words (normalize b).toList := by
  have normal := normalizedNormal text
  refine ⟨normalIff.mpr normal, normal, normalIff, unseparated, ?_⟩
  intro a b sep separates
  simp only [normalizedWords, String.toList_append]
  exact tokensJoin separates a.toList b.toList

example : normalize "C-->G, - -,> |D" = "C- G > D" := by decide

end ChordChart.Progression
