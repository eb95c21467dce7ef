import ChordChart.Disk.Tree
import Mathlib.Data.List.Basic

/-! A tree before and after a file is written. What was a directory still is one, so every path that
led somewhere still leads there; only at the place of the file something else may be found. -/
namespace ChordChart.Tree

theorem setNode (tree : Tree) {location : Location} (below : location ≠ []) (node : Node)
    (other : Location) :
    (tree.set location node).node? other =
      if other = location then some node else tree.node? other := by
  unfold node? set
  by_cases root : other = []
  · rw [if_pos root, if_pos root, if_neg (root ▸ below.symm)]
  · rw [if_neg root, if_neg root]
    by_cases same : other = location
    · rw [if_pos same, List.find?_cons_of_pos (by simp [same])]
      rfl
    · rw [if_neg same, List.find?_cons_of_neg (by simpa using Ne.symm same), List.find?_filter]
      congr 2
      funext entry
      by_cases found : entry.1 = other <;> simp [found, same]

structure Keeps (tree later : Tree) : Prop where
  here : later.here = tree.here
  directories : ∀ location, tree.node? location = some .directory →
    later.node? location = some .directory

theorem stepFrom {tree : Tree} {location next : Location} {name : String}
    (ok : tree.step location name = .ok next) : tree.node? location = some .directory := by
  unfold step at ok
  split at ok
  · contradiction
  · contradiction
  · assumption

theorem stepKept {tree later : Tree} (keeps : tree.Keeps later) {location next : Location}
    {name : String} (ok : tree.step location name = .ok next) :
    later.step location name = .ok next := by
  have inside := stepFrom ok
  simp only [step, inside, keeps.directories location inside] at ok ⊢
  exact ok

theorem walkKept {tree later : Tree} (keeps : tree.Keeps later) {location last : Location}
    {names : List String} (ok : tree.walk location names = .ok last) :
    later.walk location names = .ok last := by
  induction names generalizing location with
  | nil => exact ok
  | cons name names ih =>
    unfold walk at ok ⊢
    split at ok
    · contradiction
    · rename_i next stepped
      rw [stepKept keeps stepped]
      exact ih ok

theorem walkFurther {tree : Tree} {location parent last : Location} {names : List String}
    {name : String} (ok : tree.walk location names = .ok parent)
    (further : tree.step parent name = .ok last) :
    tree.walk location (names ++ [name]) = .ok last := by
  induction names generalizing location with
  | nil =>
    cases ok
    simp only [List.nil_append, walk, further]
  | cons first names ih =>
    unfold walk at ok
    split at ok
    · contradiction
    · rename_i next stepped
      simp only [List.cons_append, walk, stepped]
      exact ih ok

structure Leads (tree : Tree) (path : String) (location : Location) : Prop where
  usable : FileError.ofPath? path = none
  walked : tree.walk (tree.start path) (names path) = .ok location

theorem leadsKept {tree later : Tree} (keeps : tree.Keeps later) {path : String}
    {location : Location} (leads : tree.Leads path location) : later.Leads path location := by
  refine ⟨leads.usable, ?_⟩
  rw [start, keeps.here]
  exact walkKept keeps leads.walked

theorem findLeads {tree : Tree} {path : String} {location : Location} {node : Node} :
    tree.find path = .ok (location, node) ↔
      tree.Leads path location ∧ tree.node? location = some node := by
  constructor
  · intro found
    unfold find reach at found
    split at found <;> try contradiction
    rename_i usable
    split at found <;> try contradiction
    rename_i walked
    split at found <;> try contradiction
    rename_i there
    cases found
    exact ⟨⟨usable, walked⟩, there⟩
  · rintro ⟨leads, there⟩
    simp only [find, reach, leads.usable, leads.walked, there]

theorem targetLeads {tree : Tree} {path : String} {location : Location}
    (ok : tree.target path = .ok location) (file : tree.node? location ≠ some .directory) :
    tree.Leads path location := by
  unfold target at ok
  split at ok
  · contradiction
  · rename_i usable
    dsimp only at ok
    split at ok
    · contradiction
    · rename_i parent walked
      refine ⟨usable, ?_⟩
      split at ok
      · have inside := stepFrom ok
        have stays : parent = location := by simpa [step, inside] using ok
        exact absurd (stays ▸ inside) file
      · rename_i whole
        have some : names path ≠ [] := by simp [names]
        have same : (names path).reverse.dropWhile (fun name => decide (name = "")) =
            (names path).reverse :=
          (List.dropWhile_suffix _).eq_of_length_le (by simpa using whole)
        rw [same, List.reverse_reverse] at ok walked
        rw [← List.dropLast_append_getLast some]
        refine walkFurther walked ?_
        rwa [List.getLastD_eq_getLast?, List.getLast?_eq_getLast_of_ne_nil some] at ok

structure Written (tree : Tree) (path : String) (content : Midi.Bytes) (later : Tree) : Prop where
  keeps : tree.Keeps later
  placed : ∃ location, later.Leads path location ∧
    ∀ other, later.node? other =
      if other = location then some (.file content) else tree.node? other

theorem writeLeaves {tree later : Tree} {path : String} {content : Midi.Bytes}
    (ok : tree.write path content = .ok later) : tree.Written path content later := by
  unfold write at ok
  split at ok
  · contradiction
  · rename_i location target
    split at ok
    · contradiction
    · rename_i file
      cases ok
      have below : location ≠ [] := by
        rintro rfl
        exact file rfl
      have nodes := setNode tree below (.file content)
      have keeps : tree.Keeps (tree.set location (.file content)) := by
        refine ⟨rfl, fun other directory => ?_⟩
        have apart : other ≠ location := fun same => file (same ▸ directory)
        rw [nodes, if_neg apart, directory]
      exact ⟨keeps, location, leadsKept keeps (targetLeads target file), nodes⟩

theorem readSource {tree : Tree} {path text : String} (read : tree.readText path = .ok text) :
    ∃ location content, tree.find path = .ok (location, .file content) ∧
      textOf content = .ok text := by
  unfold readText at read
  split at read
  · contradiction
  · contradiction
  · rename_i location content found
    exact ⟨location, content, found, read⟩

theorem readBehind {tree later : Tree} {path other text : String} {content : Midi.Bytes}
    (written : tree.Written path content later) (read : tree.readText other = .ok text) :
    later.readText other = .ok text ∨ later.readText other = textOf content := by
  obtain ⟨location, before, found, known⟩ := readSource read
  obtain ⟨leads, there⟩ := findLeads.mp found
  obtain ⟨place, -, nodes⟩ := written.placed
  have still := leadsKept written.keeps leads
  by_cases same : location = place
  · have now : later.find other = .ok (location, .file content) :=
      findLeads.mpr ⟨still, by rw [nodes, if_pos same]⟩
    exact .inr (by simp only [readText, now])
  · have now : later.find other = .ok (location, .file before) :=
      findLeads.mpr ⟨still, by rw [nodes, if_neg same, there]⟩
    exact .inl (by simp only [readText, now, known])

end ChordChart.Tree
