import ChordChart.Proofs.Text.Words
import Mathlib.Data.List.Chain

/-! Texts whose blanks are single spaces strictly between words. They are the texts that are their
own words with one space between each two. -/
namespace ChordChart.Text

structure Spaced (cs : List Char) : Prop where
  spaces : ∀ c ∈ cs, isBlank c → c = ' '
  first : ∀ c ∈ cs.head?, ¬ isBlank c
  last : ∀ c ∈ cs.getLast?, ¬ isBlank c
  single : cs.IsChain fun a b => ¬ (isBlank a ∧ isBlank b)

structure IsWord (word : List Char) : Prop where
  filled : word ≠ []
  clean : ∀ c ∈ word, ¬ isBlank c

theorem joinMore (piece : List Char) {pieces : List (List Char)} (more : pieces ≠ []) :
    joinWords (piece :: pieces) = piece ++ ' ' :: joinWords pieces := by
  rw [joinWords, List.intercalate_cons_of_ne_nil more, List.append_assoc]
  rfl

theorem joinOne (piece : List Char) : joinWords [piece] = piece := by
  simp [joinWords]

theorem joinedMember {c : Char} {pieces : List (List Char)} (member : c ∈ joinWords pieces) :
    c = ' ' ∨ ∃ piece ∈ pieces, c ∈ piece := by
  induction pieces with
  | nil => contradiction
  | cons piece pieces ih =>
    by_cases more : pieces = []
    · rw [more, joinOne] at member
      exact .inr ⟨piece, by simp, member⟩
    · rw [joinMore piece more, List.mem_append, List.mem_cons] at member
      rcases member with inside | space | behind
      · exact .inr ⟨piece, by simp, inside⟩
      · exact .inl space
      · rcases ih behind with space | ⟨other, among, inside⟩
        · exact .inl space
        · exact .inr ⟨other, by simp [among], inside⟩

theorem readJoined {α : Type} {read : List Char → List α} (parted : Parted read)
    (pieces : List (List Char)) : read (joinWords pieces) = pieces.flatMap read := by
  induction pieces with
  | nil => exact parted.none
  | cons piece pieces ih =>
    rw [List.flatMap_cons, ← ih]
    by_cases more : pieces = []
    · rw [more, joinOne, joinWords, List.intercalate_nil, parted.none, List.append_nil]
    · rw [joinMore piece more, parted.blank piece _ (by decide)]

theorem spacedClean {cs : List Char} (clean : ∀ c ∈ cs, ¬ isBlank c) : Spaced cs := by
  obtain ⟨first, last⟩ := bareClean clean
  refine ⟨?_, first, last, ?_⟩
  · intro c member blank
    exact absurd blank (clean c member)
  · apply List.Pairwise.isChain
    apply List.pairwise_of_forall_mem_list
    intro a one b other both
    exact clean a one both.1

theorem spacedMore {word rest : List Char} (is : IsWord word) (more : rest ≠ []) :
    Spaced (word ++ ' ' :: rest) ↔ Spaced rest := by
  have alone := spacedClean is.clean
  have head : (word ++ ' ' :: rest).head? = word.head? :=
    List.head?_append_of_ne_nil word is.filled
  have foot : (word ++ ' ' :: rest).getLast? = rest.getLast? := by
    obtain ⟨c, behind, rfl⟩ := List.exists_cons_of_ne_nil more
    rw [List.getLast?_append_of_ne_nil word (by simp), List.getLast?_cons_cons]
  have pairs : ((word ++ ' ' :: rest).IsChain fun a b => ¬ (isBlank a ∧ isBlank b)) ↔
      (∀ c ∈ rest.head?, ¬ isBlank c) ∧ rest.IsChain fun a b => ¬ (isBlank a ∧ isBlank b) := by
    have space : isBlank ' ' := by decide
    rw [List.isChain_append, List.isChain_cons]
    constructor
    · intro chain
      obtain ⟨-, ⟨first, single⟩, -⟩ := chain
      exact ⟨fun c head blank => first c head ⟨space, blank⟩, single⟩
    · intro behind
      obtain ⟨first, single⟩ := behind
      exact ⟨alone.single, ⟨fun c head both => first c head both.2, single⟩,
        fun c foot _ _ both => alone.last c foot both.1⟩
  constructor
  · intro spaced
    obtain ⟨first, single⟩ := pairs.mp spaced.single
    constructor
    · intro c member
      exact spaced.spaces c (by simp [member])
    · exact first
    · exact foot ▸ spaced.last
    · exact single
  · intro spaced
    constructor
    · intro c member blank
      rcases List.mem_append.mp member with inside | behind
      · exact absurd blank (is.clean c inside)
      · rcases List.mem_cons.mp behind with rfl | later
        · rfl
        · exact spaced.spaces c later blank
    · exact head ▸ alone.first
    · exact foot ▸ spaced.last
    · exact pairs.mpr ⟨spaced.first, spaced.single⟩

theorem joinedSpaced {pieces : List (List Char)} (are : ∀ piece ∈ pieces, IsWord piece) :
    Spaced (joinWords pieces) ∧ words (joinWords pieces) = pieces := by
  induction pieces with
  | nil => exact ⟨spacedClean (by simp [joinWords]), rfl⟩
  | cons piece pieces ih =>
    obtain ⟨is, rest⟩ := List.forall_mem_cons.mp are
    obtain ⟨spaced, same⟩ := ih rest
    by_cases more : pieces = []
    · subst more
      rw [joinOne]
      exact ⟨spacedClean is.clean, wordsAlone is.filled is.clean⟩
    · have behind : joinWords pieces ≠ [] := by
        intro none
        rw [none] at same
        exact more same.symm
      rw [joinMore piece more, wordsJoin _ _ (by decide), wordsAlone is.filled is.clean, same]
      exact ⟨(spacedMore is behind).mpr spaced, rfl⟩

theorem wordsJoined {cs : List Char} (spaced : Spaced cs) : joinWords (words cs) = cs := by
  induction size : cs.length using Nat.strong_induction_on generalizing cs with
  | _ count ih =>
    by_cases space : ' ' ∈ cs
    · -- the first space has a word in front of it and a shorter text behind it
      obtain ⟨word, rest, rfl, free⟩ := List.eq_append_cons_of_mem space
      have is : IsWord word := by
        constructor
        · intro none
          subst none
          exact spaced.first ' ' rfl (by decide)
        · intro c inside blank
          have same := spaced.spaces c (List.mem_append_left _ inside) blank
          exact free (same ▸ inside)
      have more : rest ≠ [] := by
        intro none
        subst none
        exact spaced.last ' ' (by simp) (by decide)
      have shorter : rest.length < count := by
        simp only [← size, List.length_append, List.length_cons]
        omega
      have behind := ih _ shorter ((spacedMore is more).mp spaced) rfl
      have others : words rest ≠ [] := by
        intro none
        rw [none] at behind
        exact more behind.symm
      rw [wordsJoin _ _ (by decide), wordsAlone is.filled is.clean, List.singleton_append,
        joinMore word others, behind]
    · have clean : ∀ c ∈ cs, ¬ isBlank c := by
        intro c inside blank
        exact space (spaced.spaces c inside blank ▸ inside)
      by_cases none : cs = []
      · subst none
        rfl
      · rw [wordsAlone none clean, joinOne]

end ChordChart.Text
