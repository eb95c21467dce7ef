import ChordChart.Disk
import ChordChart.Proofs.Disk.Tree
import ChordChart.Proofs.Text.Words
import Mathlib.Data.List.TakeWhile

/-! The last name of a path and its ending. A path is cut behind its last slash, and another ending
is put behind what is left of the name there. Two paths that differ in their last names only are
walked through the same directory, so they lead to different places there, or one of them leads out
of it. -/
namespace ChordChart

namespace Path

inductive Opens : List Char → Prop where
  | start : Opens []
  | slash (front : List Char) : Opens (front ++ ['/'])

theorem cutLast (cs : List Char) :
    ∃ before name, Opens before ∧ '/' ∉ name ∧ cs = before ++ name := by
  by_cases slash : '/' ∈ cs.reverse
  · obtain ⟨last, front, parted, free⟩ := List.eq_append_cons_of_mem slash
    refine ⟨front.reverse ++ ['/'], last.reverse, .slash _, by simpa using free, ?_⟩
    rw [← List.reverse_reverse cs, parted]
    simp
  · exact ⟨[], cs, .start, by simpa using slash, rfl⟩

theorem reversedFree {mark : Char} {cs : List Char} (free : mark ∉ cs) :
    ∀ c ∈ cs.reverse, decide (c ≠ mark) = true := fun _ member =>
  decide_eq_true fun same => free (same ▸ List.mem_reverse.mp member)

theorem dropTrailingKept {before name : List Char} (free : '/' ∉ name) (some : name ≠ [])
    (dot : name ≠ ['.']) :
    dropTrailing (before ++ name).reverse = (before ++ name).reverse := by
  have clean : '/' ∉ name.reverse := by simpa using free
  rw [List.reverse_append]
  cases reversed : name.reverse with
  | nil => exact absurd (List.reverse_eq_nil_iff.mp reversed) some
  | cons last rest =>
    rw [reversed] at clean
    unfold dropTrailing
    split
    · rename_i same
      cases same
      exact absurd List.mem_cons_self clean
    · rename_i behind same
      obtain ⟨rfl, next⟩ := List.cons.inj same
      cases rest with
      | nil => exact absurd (List.reverse_eq_iff.mp reversed) dot
      | cons second rest =>
        cases next
        exact absurd (by simp) clean
    · rfl

section

variable {before name : List Char} (opened : Opens before) (free : '/' ∉ name)

include opened

theorem opensReversed : before.reverse.takeWhile (· ≠ '/') = [] ∧
    before.reverse.dropWhile (· ≠ '/') = before.reverse := by
  cases opened with
  | start => exact ⟨rfl, rfl⟩
  | slash front => simp

include free

theorem lastTaken :
    ((before ++ name).reverse.takeWhile (· ≠ '/')).reverse = name ∧
      ((before ++ name).reverse.dropWhile (· ≠ '/')).reverse = before := by
  obtain ⟨taken, left⟩ := opensReversed opened
  rw [List.reverse_append, List.takeWhile_append_of_pos (reversedFree free),
    List.dropWhile_append_of_pos (reversedFree free), taken, left]
  simp

theorem cutUnique {other last : List Char} (opens : Opens other) (clean : '/' ∉ last)
    (same : before ++ name = other ++ last) : before = other ∧ name = last := by
  obtain ⟨name₁, before₁⟩ := lastTaken opened free
  obtain ⟨name₂, before₂⟩ := lastTaken opens clean
  rw [same] at name₁ before₁
  exact ⟨before₁.symm.trans before₂, name₁.symm.trans name₂⟩

theorem lastNameWhole (some : name ≠ []) (dot : name ≠ ['.']) :
    lastName? (before ++ name) =
      if name = ['.', '.'] then none else Option.some (before, name) := by
  obtain ⟨taken, left⟩ := lastTaken opened free
  rw [lastName?, dropTrailingKept free some dot]
  simp only [taken, left, some, dot, false_or]

end

theorem stemFront (name : List Char) : stem name <+: name := by
  unfold stem
  dsimp only
  split
  · exact List.prefix_rfl
  · rw [← List.reverse_suffix, List.reverse_reverse]
    exact (List.drop_suffix _ _).trans (List.dropWhile_suffix _)

theorem stemSome {name : List Char} (some : name ≠ []) : stem name ≠ [] := by
  unfold stem
  dsimp only
  split
  · exact some
  · assumption

theorem stemEnding {front ending : List Char} (some : front ≠ []) (dotless : '.' ∉ ending) :
    stem (front ++ '.' :: ending) = front := by
  have whole : (front ++ '.' :: ending).reverse = ending.reverse ++ '.' :: front.reverse := by simp
  unfold stem
  rw [whole, List.dropWhile_append_of_pos (reversedFree dotless),
    List.dropWhile_cons_of_neg (by simp)]
  simp [some]

def renamed (name ending : List Char) : List Char :=
  if name = ['.', '.'] ∨ stem name = ['.'] then ['.', '.'] else stem name ++ '.' :: ending

theorem withEndingNamed {before name : List Char} (opened : Opens before) (free : '/' ∉ name)
    (some : name ≠ []) (dot : name ≠ ['.']) (ending : String) :
    withEnding (String.ofList (before ++ name)) ending =
      String.ofList (before ++ renamed name ending.toList) := by
  rw [withEnding, String.toList_ofList, lastNameWhole opened free some dot, renamed]
  by_cases dots : name = ['.', '.']
  · simp only [dots, if_pos, true_or]
  · rw [if_neg dots]
    by_cases lone : stem name = ['.']
    · simp only [lone, and_self, if_pos, or_true]
    · simp only [dots, lone, false_and, if_false, or_self]
      exact String.toList_inj.mp (by simp)

theorem renamedFree {name ending : List Char} (free : '/' ∉ name) (clean : '/' ∉ ending) :
    '/' ∉ renamed name ending := by
  unfold renamed
  split
  · decide
  · have front : '/' ∉ stem name := fun slash => free ((stemFront name).subset slash)
    simp [front, clean]

theorem renamedLong {name : List Char} (some : name ≠ []) (ending : List Char) :
    2 ≤ (renamed name ending).length := by
  have front := List.length_pos_iff.mpr (stemSome some)
  unfold renamed
  split
  · simp
  · simp only [List.length_append, List.length_cons]
    omega

theorem renamedSame {name ending : List Char} (some : name ≠ []) (dots : name ≠ ['.', '.'])
    (lone : stem name ≠ ['.']) (dotless : '.' ∉ ending) :
    renamed name ending = name ↔ ∃ front, front ≠ [] ∧ name = front ++ '.' :: ending := by
  rw [renamed, if_neg (by simp [dots, lone])]
  constructor
  · intro same
    exact ⟨stem name, stemSome some, same.symm⟩
  · rintro ⟨front, filled, rfl⟩
    rw [stemEnding filled dotless]

end Path

namespace Tree

open ChordChart.Path (Opens)

theorem walkParent {tree : Tree} {location last : Location} {names : List String} {name : String}
    (ok : tree.walk location (names ++ [name]) = .ok last) :
    ∃ parent, tree.walk location names = .ok parent ∧ tree.step parent name = .ok last := by
  induction names generalizing location with
  | nil =>
    refine ⟨location, rfl, ?_⟩
    simp only [List.nil_append, walk] at ok
    split at ok
    · contradiction
    · rename_i next stepped
      rw [stepped, ok]
  | cons first names ih =>
    simp only [List.cons_append, walk] at ok
    split at ok
    · contradiction
    · rename_i next stepped
      obtain ⟨parent, walked, further⟩ := ih ok
      exact ⟨parent, by simp only [walk, stepped, walked], further⟩

theorem namesOpened {before : List Char} (opened : Opens before) :
    ∃ parents, ∀ name : List Char, '/' ∉ name →
      names (String.ofList (before ++ name)) = parents ++ [String.ofList name] := by
  cases opened with
  | start => exact ⟨[], fun name free => by simp [names, Text.pieceAlone free]⟩
  | slash front =>
    refine ⟨(front.splitOnP (· == '/')).map String.ofList, fun name free => ?_⟩
    rw [names, String.toList_ofList, List.append_assoc, List.singleton_append,
      List.splitOnP_append_cons front name (by decide), Text.pieceAlone free, List.map_append]
    rfl

structure Inside (tree : Tree) (parent : Location) (name : List Char) (location : Location) :
    Prop where
  directory : tree.node? parent = some .directory
  place : location =
    if name = [] ∨ name = ['.'] then parent
    else if name = ['.', '.'] then parent.dropLast
    else parent ++ [String.ofList name]

theorem stepInside {tree : Tree} {parent location : Location} {name : List Char}
    (ok : tree.step parent (String.ofList name) = .ok location) :
    tree.Inside parent name location := by
  have directory := stepFrom ok
  refine ⟨directory, ?_⟩
  have texts : ∀ other : List Char, String.ofList name = String.ofList other ↔ name = other := by
    intro other
    rw [← String.toList_inj, String.toList_ofList, String.toList_ofList]
  have empty : String.ofList name = "" ↔ name = [] := texts []
  have dot : String.ofList name = "." ↔ name = ['.'] := texts ['.']
  have dots : String.ofList name = ".." ↔ name = ['.', '.'] := texts ['.', '.']
  simp only [step, directory, empty, dot, dots] at ok
  split at ok
  · rename_i stays
    rw [if_pos stays, Except.ok.inj ok]
  · rename_i moves
    rw [if_neg moves]
    split at ok
    · rename_i up
      rw [if_pos up, Except.ok.inj ok]
    · rename_i down
      rw [if_neg down]
      split at ok
      · contradiction
      · rw [Except.ok.inj ok]

theorem insideDown {tree : Tree} {parent location : Location} {name : List Char}
    (some : name ≠ []) (dot : name ≠ ['.']) (dots : name ≠ ['.', '.'])
    (inside : tree.Inside parent name location) : location = parent ++ [String.ofList name] := by
  have place := inside.place
  rwa [if_neg (not_or.mpr ⟨some, dot⟩), if_neg dots] at place

theorem insideUp {tree : Tree} {parent location : Location}
    (inside : tree.Inside parent ['.', '.'] location) : location = parent.dropLast := by
  have place := inside.place
  rwa [if_neg (by decide), if_pos rfl] at place

theorem startOpened (tree : Tree) {before name other : List Char} (opened : Opens before)
    (free : '/' ∉ name) (clean : '/' ∉ other) :
    tree.start (String.ofList (before ++ name)) = tree.start (String.ofList (before ++ other)) := by
  have relative : ∀ name : List Char, '/' ∉ name → name.head? ≠ some '/' :=
    fun name free head => free (List.mem_of_head? head)
  simp only [start, isAbsolute, String.toList_ofList]
  cases opened with
  | start => simp only [List.nil_append, relative name free, relative other clean]
  | slash front => cases front <;> rfl

theorem leadsInside {tree : Tree} {before name : List Char} {location : Location}
    (opened : Opens before) (free : '/' ∉ name)
    (leads : tree.Leads (String.ofList (before ++ name)) location) :
    ∃ parent, tree.Inside parent name location ∧
      ∀ other place, '/' ∉ other → tree.Leads (String.ofList (before ++ other)) place →
        tree.Inside parent other place := by
  obtain ⟨parents, named⟩ := namesOpened opened
  have walked := leads.walked
  rw [named name free] at walked
  obtain ⟨parent, through, last⟩ := walkParent walked
  refine ⟨parent, stepInside last, fun other place clean leads => ?_⟩
  have walked := leads.walked
  rw [named other clean, ← startOpened tree opened free clean] at walked
  obtain ⟨same, again, last⟩ := walkParent walked
  cases through.symm.trans again
  exact stepInside last

theorem fileNamed {tree : Tree} {path : String} {location : Location} {content : Midi.Bytes}
    (leads : tree.Leads path location) (there : tree.node? location = some (.file content)) :
    ∃ before name, Opens before ∧ '/' ∉ name ∧ name ≠ [] ∧ name ≠ ['.'] ∧
      path = String.ofList (before ++ name) := by
  obtain ⟨before, name, opened, free, parted⟩ := Path.cutLast path.toList
  have whole : path = String.ofList (before ++ name) := by rw [← parted, String.ofList_toList]
  obtain ⟨parent, inside, -⟩ := leadsInside opened free (whole ▸ leads)
  have named : ¬ (name = [] ∨ name = ['.']) := by
    intro stays
    have place := inside.place
    rw [if_pos stays] at place
    rw [place, inside.directory] at there
    cases there
  exact ⟨before, name, opened, free, (not_or.mp named).1, (not_or.mp named).2, whole⟩

theorem placesApart {tree : Tree} {parent location place : Location} {name other : List Char}
    (some : name ≠ []) (dot : name ≠ ['.']) (dots : name ≠ ['.', '.'])
    (long : 2 ≤ other.length) (differ : other ≠ name) (inside : tree.Inside parent name location)
    (beside : tree.Inside parent other place) : place ≠ location := by
  rw [insideDown some dot dots inside]
  by_cases up : other = ['.', '.']
  · subst up
    rw [insideUp beside]
    intro same
    have lengths := congrArg List.length same
    simp only [List.length_dropLast, List.length_append, List.length_singleton] at lengths
    omega
  · have filled : other ≠ [] := by
      rintro rfl
      simp at long
    have single : other ≠ ['.'] := by
      rintro rfl
      simp at long
    rw [insideDown filled single up beside]
    intro same
    have texts := List.append_cancel_left same
    simp only [List.cons.injEq, and_true] at texts
    exact differ (by simpa using congrArg String.toList texts)

def Rooted (tree : Tree) : Prop :=
  ∀ location node, tree.node? location = some node → tree.node? location.dropLast = some .directory

end Tree

end ChordChart
