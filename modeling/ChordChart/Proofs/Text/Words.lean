import ChordChart.Text.Basic
import Mathlib.Data.List.TakeWhile

/-! Words and trimming. A blank anywhere in a text parts its words into those before it and those
behind it, and a text without blanks is one word. A text is what trimming keeps with blanks before
and behind it, and it is kept whole where it neither starts nor ends with a blank. -/
namespace ChordChart.Text

theorem pieceFirst (mark : Char → Bool) (cs : List Char) :
    ∃ rest, cs.splitOnP mark = cs.takeWhile (fun c => !mark c) :: rest := by
  induction cs with
  | nil => exact ⟨[], rfl⟩
  | cons c cs ih =>
    obtain ⟨rest, split⟩ := ih
    rw [List.splitOnP_cons_eq_if_modifyHead, split]
    by_cases cut : mark c
    · exact ⟨_, by rw [if_pos cut, List.takeWhile_cons_of_neg (by simp [cut])]⟩
    · refine ⟨rest, ?_⟩
      rw [if_neg cut, List.takeWhile_cons_of_pos (by simp [cut]), List.modifyHead_cons]

theorem pieceInside {mark : Char → Bool} {cs piece : List Char} (member : piece ∈ cs.splitOnP mark) :
    piece <:+: cs ∧ ∀ c ∈ piece, ¬ mark c := by
  induction cs generalizing piece with
  | nil =>
    cases List.mem_singleton.mp member
    simp
  | cons c cs ih =>
    obtain ⟨rest, split⟩ := pieceFirst mark cs
    rw [List.splitOnP_cons_eq_if_modifyHead] at member
    split at member
    · rcases List.mem_cons.mp member with rfl | later
      · simp
      · exact ⟨(ih later).1.trans (List.infix_cons List.infix_rfl), (ih later).2⟩
    · rename_i kept
      rw [split, List.modifyHead_cons] at member
      rw [split] at ih
      rcases List.mem_cons.mp member with rfl | later
      · have clean := (ih List.mem_cons_self).2
        exact ⟨((List.prefix_cons_inj c).mpr (List.takeWhile_prefix _)).isInfix,
          List.forall_mem_cons.mpr ⟨kept, clean⟩⟩
      · have inside := ih (List.mem_cons_of_mem _ later)
        exact ⟨inside.1.trans (List.infix_cons List.infix_rfl), inside.2⟩

theorem pieceAlone {mark : Char} {cs : List Char} (free : mark ∉ cs) :
    cs.splitOnP (· == mark) = [cs] :=
  List.splitOnP_eq_singleton fun c member => by
    simpa using fun same : c = mark => free (same ▸ member)

theorem wordInside {cs word : List Char} (member : word ∈ words cs) :
    word <:+: cs ∧ word ≠ [] ∧ ∀ c ∈ word, ¬ isBlank c := by
  obtain ⟨piece, some⟩ := List.mem_filter.mp member
  obtain ⟨inside, clean⟩ := pieceInside piece
  exact ⟨inside, by simpa using some, clean⟩

theorem wordsJoin (a b : List Char) {c : Char} (blank : isBlank c) :
    words (a ++ c :: b) = words a ++ words b := by
  rw [words, List.splitOnP_append_cons a b blank, List.filter_append]
  rfl

theorem wordsAlone {word : List Char} (some : word ≠ []) (clean : ∀ c ∈ word, ¬ isBlank c) :
    words word = [word] := by
  rw [words, List.splitOnP_eq_singleton (by simpa using clean)]
  simpa using some

theorem wordWhole {cs word : List Char} (clean : ∀ c ∈ cs, ¬ isBlank c) (member : word ∈ words cs) :
    word = cs := by
  rw [words, List.splitOnP_eq_singleton (by simpa using clean)] at member
  simpa using (List.mem_filter.mp member).1

structure Parted {α : Type} (read : List Char → List α) : Prop where
  none : read [] = []
  blank : ∀ (a b : List Char) {c : Char}, isBlank c → read (a ++ c :: b) = read a ++ read b

theorem wordsParted : Parted words := ⟨rfl, fun a b _ => wordsJoin a b⟩

section

variable {α : Type} {read : List Char → List α} (parted : Parted read)

include parted

theorem readFront {front : List Char} (blank : ∀ c ∈ front, isBlank c) (cs : List Char) :
    read (front ++ cs) = read cs := by
  induction front with
  | nil => rfl
  | cons c front ih =>
    obtain ⟨first, rest⟩ := List.forall_mem_cons.mp blank
    have cut := parted.blank [] (front ++ cs) first
    rwa [parted.none, List.nil_append, List.nil_append, ih rest] at cut

theorem readBlank {cs : List Char} (blank : ∀ c ∈ cs, isBlank c) : read cs = [] := by
  rw [← List.append_nil cs, readFront parted blank, parted.none]

theorem readBack (cs : List Char) {back : List Char} (blank : ∀ c ∈ back, isBlank c) :
    read (cs ++ back) = read cs := by
  cases back with
  | nil => rw [List.append_nil]
  | cons c back =>
    obtain ⟨first, rest⟩ := List.forall_mem_cons.mp blank
    rw [parted.blank cs back first, readBlank parted rest, List.append_nil]

theorem readWords (cs : List Char) : read cs = (words cs).flatMap read := by
  induction size : cs.length using Nat.strong_induction_on generalizing cs with
  | _ count ih =>
    by_cases clean : ∀ c ∈ cs, ¬ isBlank c
    · by_cases none : cs = []
      · subst none
        exact parted.none
      · rw [wordsAlone none clean, List.flatMap_singleton]
    · simp only [not_forall, not_not] at clean
      obtain ⟨c, member, blank⟩ := clean
      obtain ⟨front, back, rfl⟩ := List.append_of_mem member
      simp only [List.length_append, List.length_cons] at size
      rw [parted.blank front back blank, wordsJoin front back blank, List.flatMap_append,
        ← ih _ (by omega) front rfl, ← ih _ (by omega) back rfl]

end

structure Bare (cs : List Char) : Prop where
  first : ∀ c ∈ cs.head?, ¬ isBlank c
  last : ∀ c ∈ cs.getLast?, ¬ isBlank c

theorem startKept {cs : List Char} (first : ∀ c ∈ cs.head?, ¬ isBlank c) : trimStart cs = cs := by
  cases cs with
  | nil => rfl
  | cons c cs => exact List.dropWhile_cons_of_neg (first c rfl)

theorem startFirst (cs : List Char) : ∀ c ∈ (trimStart cs).head?, ¬ isBlank c := by
  intro c head
  have kept := List.head?_dropWhile_not isBlank cs
  rw [← trimStart, Option.mem_def.mp head] at kept
  simp [kept]

theorem trimEndReversed (cs : List Char) : trimEnd cs = (trimStart cs.reverse).reverse := rfl

theorem endKept {cs : List Char} (last : ∀ c ∈ cs.getLast?, ¬ isBlank c) : trimEnd cs = cs := by
  rw [trimEndReversed, startKept (List.head?_reverse ▸ last), List.reverse_reverse]

theorem endLast (cs : List Char) : ∀ c ∈ (trimEnd cs).getLast?, ¬ isBlank c := by
  rw [trimEndReversed, List.getLast?_reverse]
  exact startFirst _

theorem startParts (cs : List Char) :
    ∃ front, cs = front ++ trimStart cs ∧ ∀ c ∈ front, isBlank c :=
  ⟨cs.takeWhile isBlank, List.takeWhile_append_dropWhile.symm, fun _ => List.mem_takeWhile_imp⟩

theorem endParts (cs : List Char) : ∃ back, cs = trimEnd cs ++ back ∧ ∀ c ∈ back, isBlank c := by
  obtain ⟨back, parts, blank⟩ := startParts cs.reverse
  refine ⟨back.reverse, ?_, by simpa using blank⟩
  rw [trimEndReversed, ← List.reverse_append, ← parts, List.reverse_reverse]

theorem trimParts (cs : List Char) : ∃ front back, cs = front ++ trim cs ++ back ∧
    (∀ c ∈ front, isBlank c) ∧ ∀ c ∈ back, isBlank c := by
  obtain ⟨front, split, before⟩ := startParts cs
  obtain ⟨back, cut, behind⟩ := endParts (trimStart cs)
  refine ⟨front, back, ?_, before, behind⟩
  rw [List.append_assoc, trim, ← cut, ← split]

theorem trimNone {cs : List Char} (none : trim cs = []) : ∀ c ∈ cs, isBlank c := by
  obtain ⟨front, back, parts, before, behind⟩ := trimParts cs
  rw [none, List.append_nil] at parts
  rw [parts]
  exact List.forall_mem_append.mpr ⟨before, behind⟩

theorem trimBare (cs : List Char) : Bare (trim cs) := by
  refine ⟨fun c head => ?_, endLast _⟩
  obtain ⟨back, parts, -⟩ := endParts (trimStart cs)
  refine startFirst cs c ?_
  rw [parts, List.head?_append, ← trim, Option.mem_def.mp head]
  rfl

theorem trimKept {cs : List Char} (bare : Bare cs) : trim cs = cs := by
  rw [trim, startKept bare.first, endKept bare.last]

theorem bareClean {cs : List Char} (clean : ∀ c ∈ cs, ¬ isBlank c) : Bare cs :=
  ⟨fun c head => clean c (List.mem_of_mem_head? head),
    fun c foot => clean c (List.mem_of_mem_getLast? foot)⟩

theorem trimBlank {cs : List Char} (blank : ∀ c ∈ cs, isBlank c) : trim cs = [] := by
  rw [trim, trimStart, List.dropWhile_eq_nil_iff.mpr blank]
  rfl

theorem readTrimmed {α : Type} {read : List Char → List α} (parted : Parted read) (cs : List Char) :
    read (trim cs) = read cs := by
  obtain ⟨front, back, parts, before, behind⟩ := trimParts cs
  calc
    read (trim cs) = read (trim cs ++ back) := (readBack parted _ behind).symm
    _ = read (front ++ (trim cs ++ back)) := (readFront parted before _).symm
    _ = read cs := by rw [← List.append_assoc, ← parts]

theorem endBehind (cs : List Char) {c : Char} (blank : isBlank c) :
    trimEnd (cs ++ [c]) = trimEnd cs := by
  rw [trimEndReversed, List.reverse_append, List.reverse_singleton, List.singleton_append,
    trimStart, List.dropWhile_cons_of_pos blank]
  rfl

theorem trimBehind (cs : List Char) {c : Char} (blank : isBlank c) :
    trim (cs ++ [c]) = trim cs := by
  rw [trim, trim, trimStart, List.dropWhile_append, ← trimStart]
  split
  · rename_i none
    rw [List.isEmpty_iff.mp none, List.dropWhile_cons_of_pos blank]
    rfl
  · exact endBehind _ blank

end ChordChart.Text
