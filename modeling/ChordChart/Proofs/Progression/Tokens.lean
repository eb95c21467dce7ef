import ChordChart.Progression
import ChordChart.Proofs.Text.Words
import Mathlib.Data.List.Infix

/-! The tokens of a progression. A separator between two texts parts their tokens, whatever stands
beside it; a token read on its own is itself, and so the tokens of a text are those of its normal
form. -/
namespace ChordChart.Progression

open Text (isBlank words)

inductive Separates : List Char → Prop where
  | blank {c} (blank : isBlank c) : Separates [c]
  | comma : Separates [',']
  | bar : Separates ['|']
  | arrow : Separates ['-', '>']
  | dash : Separates [' ', '-', ' ']

theorem arrowsAppend (a : List Char) {b : List Char} (apart : b.head? ≠ some '>') :
    spaceArrows (a ++ b) = spaceArrows a ++ spaceArrows b := by
  fun_induction spaceArrows a with
  | case1 cs ih => simp [spaceArrows, ih]
  | case2 c cs other ih =>
    rw [List.cons_append, spaceArrows, ih]
    · rfl
    · rintro rest rfl same
      cases cs with
      | nil => exact apart (by simp_all)
      | cons next cs => exact other cs rfl (by simp_all)
  | case3 => rfl

theorem arrowsKept {c : Char} (dash : c ≠ '-') (cs : List Char) :
    spaceArrows (c :: cs) = c :: spaceArrows cs := by
  rw [spaceArrows]
  intro rest same
  exact absurd same dash

theorem tokensParted {cs a b : List Char} {c : Char}
    (parted : spaceArrows cs = spaceArrows a ++ c :: spaceArrows b)
    (blank : isBlank (spaceMark c)) : tokens cs = tokens a ++ tokens b := by
  rw [tokens, parted, List.map_append, List.map_cons, Text.wordsJoin _ _ blank, List.filter_append]
  rfl

theorem tokensCut (a b : List Char) {c : Char} (blank : isBlank (spaceMark c)) :
    tokens (a ++ c :: b) = tokens a ++ tokens b := by
  have dash : c ≠ '-' := by
    rintro rfl
    exact absurd blank (by decide)
  have head : (c :: b).head? ≠ some '>' := by
    rintro same
    cases same
    exact absurd blank (by decide)
  exact tokensParted (by rw [arrowsAppend a head, arrowsKept dash]) blank

theorem tokensJoin {sep : List Char} (separates : Separates sep) (a b : List Char) :
    tokens (a ++ sep ++ b) = tokens a ++ tokens b := by
  rw [List.append_assoc]
  cases separates with
  | blank blank =>
    refine tokensCut a b ?_
    unfold spaceMark
    split
    · decide
    · exact blank
  | comma | bar => exact tokensCut a b (by decide)
  | arrow =>
    have head : ('-' :: '>' :: b).head? ≠ some '>' := by simp
    exact @tokensParted _ a b ' ' (arrowsAppend a head) (by decide)
  | dash =>
    have lone : tokens ['-'] = [] := by decide
    have space : isBlank (spaceMark ' ') := by decide
    have behind := tokensCut ['-'] b space
    rw [lone, List.nil_append] at behind
    exact (tokensCut a ('-' :: ' ' :: b) space).trans (congrArg (tokens a ++ ·) behind)

theorem tokensApart : Text.Parted tokens where
  none := rfl
  blank a b c blank := by
    rw [← tokensJoin (.blank blank) a b, List.append_assoc]
    rfl

theorem tokensBlank {cs : List Char} (blank : ∀ c ∈ cs, isBlank c) : tokens cs = [] :=
  Text.readBlank tokensApart blank

structure IsToken (cs : List Char) : Prop where
  filled : cs ≠ []
  dash : cs ≠ ['-']
  blanks : ∀ c ∈ cs, ¬ isBlank c
  marks : ∀ c ∈ cs, c ≠ ',' ∧ c ≠ '|'
  arrows : ¬ ['-', '>'] <:+: cs

theorem arrowsGone (cs : List Char) :
    ¬ ['-', '>'] <:+: spaceArrows cs ∧
      ((spaceArrows cs).head? = some '>' → cs.head? = some '>') := by
  fun_induction spaceArrows cs with
  | case1 cs ih => simp [List.infix_cons_iff, ih.1]
  | case2 c cs other ih =>
    refine ⟨fun arrow => ?_, by simp⟩
    rcases List.infix_cons_iff.mp arrow with front | later
    · obtain ⟨rfl, point⟩ := List.cons_prefix_cons.mp front
      obtain ⟨rest, follows⟩ := point
      have head := ih.2 (by rw [← follows]; rfl)
      obtain ⟨behind, rfl⟩ := List.head?_eq_some_iff.mp head
      exact other behind rfl rfl
    · exact ih.1 later
  | case3 => simp

theorem arrowsAlone {cs : List Char} (free : ¬ ['-', '>'] <:+: cs) : spaceArrows cs = cs := by
  fun_induction spaceArrows cs with
  | case1 cs ih => exact absurd ⟨[], cs, rfl⟩ free
  | case2 c cs other ih => rw [ih fun later => free (List.infix_cons later)]
  | case3 => rfl

theorem marksGone (c : Char) : spaceMark c ≠ ',' ∧ spaceMark c ≠ '|' := by
  unfold spaceMark
  split
  · decide
  · rename_i kept
    exact not_or.mp kept

theorem markSame {c mark : Char} (same : spaceMark mark = c) (filled : c ≠ ' ') : mark = c := by
  unfold spaceMark at same
  split at same
  · exact absurd same.symm filled
  · exact same

theorem tokenMember {cs token : List Char} (member : token ∈ tokens cs) : IsToken token := by
  obtain ⟨word, dash⟩ := List.mem_filter.mp member
  obtain ⟨inside, filled, blanks⟩ := Text.wordInside word
  refine ⟨filled, by simpa using dash, blanks, fun c among => ?_, fun arrow => ?_⟩
  · obtain ⟨mark, -, rfl⟩ := List.mem_map.mp (inside.subset among)
    exact marksGone mark
  · obtain ⟨marks, there, same⟩ := List.infix_map_iff.mp (arrow.trans inside)
    obtain ⟨first, rest, rfl, one, more⟩ := List.map_eq_cons_iff.mp same.symm
    obtain ⟨second, last, rfl, two, none⟩ := List.map_eq_cons_iff.mp more
    cases markSame one (by decide)
    cases markSame two (by decide)
    cases List.map_eq_nil_iff.mp none
    exact (arrowsGone cs).1 there

theorem marksAlone {cs : List Char} (free : ∀ c ∈ cs, c ≠ ',' ∧ c ≠ '|') : cs.map spaceMark = cs := by
  refine (List.map_congr_left fun c member => ?_).trans (List.map_id cs)
  have kept := free c member
  simp [spaceMark, kept]

theorem tokenAlone {token : List Char} (is : IsToken token) : tokens token = [token] := by
  rw [tokens, arrowsAlone is.arrows, marksAlone is.marks, Text.wordsAlone is.filled is.blanks]
  simpa using is.dash

def normalTokens (text : String) : List (List Char) :=
  (normalize text).toList.splitOnP (· == ' ')

theorem normalTokensSame {text : String} (some : tokens text.toList ≠ []) :
    normalTokens text = tokens text.toList := by
  have spaces : ∀ token ∈ tokens text.toList, ' ' ∉ token := fun token member space =>
    (tokenMember member).blanks ' ' space (by decide)
  rw [normalTokens, normalize, String.toList_ofList, Text.joinWords]
  exact List.splitOn_intercalate ' ' spaces some

end ChordChart.Progression
