import ChordChart.Proofs.Basic
import ChordChart.Proofs.Session.Effect

/-! How a line finds its command. Registering keeps longer names in front and the commands of one
name in the order they came in, so that the first entry a line calls is the earliest command of the
longest name it calls. Two names that a line calls both start it, which leaves one of each length.
-/
namespace ChordChart

namespace Registry

variable {α : Type}

def Calls (line name : String) : Prop := line = name ∨ ∃ rest, line = name ++ " " ++ rest

structure Answers (commands : List (String × α)) (line name : String) (call : α × String) : Prop where
  calls : Calls line name
  longest : ∀ other ∈ commands, Calls line other.1 → other.1 = name ∨ other.1.length < name.length
  first : commands.find? (fun entry => entry.1 = name) = some (name, call.1)
  behind : ∃ rest, line = name ++ rest ∧ call.2 = Text.trimmed rest

theorem argumentWhole (name : List Char) : argument? name name = some [] := by
  induction name with
  | nil => rfl
  | cons c name ih => rw [argument?, if_pos rfl, ih]

theorem argumentBehind (name rest : List Char) :
    argument? name (name ++ ' ' :: rest) = some (Text.trim rest) := by
  induction name with
  | nil => exact if_pos rfl
  | cons c name ih => rw [List.cons_append, argument?, if_pos rfl, ih]

theorem argumentRead {name line argument : List Char} (read : argument? name line = some argument) :
    (line = name ∧ argument = []) ∨ ∃ rest, line = name ++ ' ' :: rest ∧ argument = Text.trim rest := by
  fun_induction argument? name line with
  | case1 =>
    cases read
    exact .inl ⟨rfl, rfl⟩
  | case2 rest =>
    cases read
    exact .inr ⟨rest, rfl, rfl⟩
  | case3 | case4 | case6 => contradiction
  | case5 n name line ih =>
    rcases ih read with ⟨rfl, rfl⟩ | ⟨rest, rfl, rfl⟩
    · exact .inl ⟨rfl, rfl⟩
    · exact .inr ⟨rest, rfl, rfl⟩

theorem callsList {line name : String} :
    Calls line name ↔
      line.toList = name.toList ∨ ∃ rest, line.toList = name.toList ++ ' ' :: rest := by
  constructor
  · rintro (rfl | ⟨rest, rfl⟩)
    · exact .inl rfl
    · exact .inr ⟨rest.toList, by simp⟩
  · rintro (same | ⟨rest, split⟩)
    · exact .inl (String.toList_inj.mp same)
    · exact .inr ⟨String.ofList rest, String.toList_inj.mp (by simp [split])⟩

theorem callsRead {line name : String} :
    Calls line name ↔ ∃ argument, argument? name.toList line.toList = some argument := by
  rw [callsList]
  constructor
  · rintro (same | ⟨rest, split⟩)
    · exact ⟨[], same ▸ argumentWhole _⟩
    · exact ⟨Text.trim rest, split ▸ argumentBehind _ _⟩
  · rintro ⟨argument, read⟩
    exact (argumentRead read).imp And.left fun ⟨rest, split, _⟩ => ⟨rest, split⟩

theorem trimSpace (rest : List Char) : Text.trim (' ' :: rest) = Text.trim rest := by
  rw [Text.trim, Text.trimStart, List.dropWhile_cons_of_pos (by decide)]
  rfl

theorem readBehind {line name : String} {argument : List Char}
    (read : argument? name.toList line.toList = some argument) :
    ∃ rest, line = name ++ rest ∧ String.ofList argument = Text.trimmed rest := by
  rcases argumentRead read with ⟨same, rfl⟩ | ⟨rest, split, rfl⟩
  · exact ⟨"", String.toList_inj.mp (by simpa using same), rfl⟩
  · refine ⟨String.ofList (' ' :: rest), String.toList_inj.mp (by simpa using split), ?_⟩
    rw [Text.trimmed, String.toList_ofList, trimSpace]

theorem callsStart {line name : String} (calls : Calls line name) : name.toList <+: line.toList := by
  rcases callsList.mp calls with same | ⟨rest, split⟩
  · rw [same]
  · exact ⟨_, split.symm⟩

theorem callsShorter {line name other : String} (calls : Calls line name) (also : Calls line other)
    (size : other.utf8ByteSize ≤ name.utf8ByteSize) : other = name ∨ other.length < name.length := by
  rcases List.prefix_or_prefix_of_prefix (callsStart also) (callsStart calls) with starts | longer
  · rcases Nat.lt_or_ge other.length name.length with shorter | whole
    · exact .inr shorter
    · exact .inl (String.toList_inj.mp (starts.eq_of_length_le whole))
  · obtain ⟨rest, split⟩ := longer
    have whole : name ++ String.ofList rest = other := String.toList_inj.mp (by simpa using split)
    rw [← whole, String.utf8ByteSize_append] at size
    have none : String.ofList rest = "" := String.utf8ByteSize_eq_zero_iff.mp (by omega)
    exact .inl (by rw [← whole, none, String.append_empty])

def named (name : String) (commands : List (String × α)) : List (String × α) :=
  commands.filter fun entry => entry.1 = name

structure Holds (registry : Registry α) (commands : List (String × α)) : Prop where
  sorted : registry.entries.Pairwise fun a b => b.1.utf8ByteSize ≤ a.1.utf8ByteSize
  kept : ∀ name, named name registry.entries = named name commands

theorem namedMember {name : String} {commands : List (String × α)} {entry : String × α} :
    entry ∈ named name commands ↔ entry ∈ commands ∧ entry.1 = name := by
  simp [named]

def noShorter (a b : String × α) : Bool := b.1.utf8ByteSize ≤ a.1.utf8ByteSize

theorem noShorterThrough (a b c : String × α) (first : noShorter a b) (second : noShorter b c) :
    noShorter a c := by
  simp only [noShorter, decide_eq_true_eq] at first second ⊢
  omega

theorem noShorterTotal (a b : String × α) : noShorter a b || noShorter b a := by
  simp only [noShorter, Bool.or_eq_true, decide_eq_true_eq]
  omega

theorem sortedNamed (name : String) (entries : List (String × α)) :
    named name (entries.mergeSort noShorter) = named name entries := by
  refine sortedStable noShorterThrough noShorterTotal fun a _ b _ one other => ?_
  simp only [decide_eq_true_eq] at one other
  simp [noShorter, one, other]

theorem registerHolds {registry : Registry α} {commands : List (String × α)}
    (holds : registry.Holds commands) (name : String) (command : α) :
    (registry.register name command).Holds (commands ++ [(name, command)]) where
  sorted := (List.pairwise_mergeSort noShorterThrough noShorterTotal _).imp of_decide_eq_true
  kept other := by
    have sorted : (registry.register name command).entries =
        (registry.entries ++ [(name, command)]).mergeSort noShorter := rfl
    rw [sorted, sortedNamed, named, named, List.filter_append, List.filter_append]
    exact congrArg (· ++ _) (holds.kept other)

theorem listHolds (commands : List (String × α)) : (ofList commands).Holds commands := by
  induction commands using List.reverseRecOn with
  | nil => exact ⟨.nil, fun _ => rfl⟩
  | append_singleton commands command ih =>
    rw [ofList, List.foldl_concat]
    exact registerHolds ih command.1 command.2

theorem holdsMember {registry : Registry α} {commands : List (String × α)}
    (holds : registry.Holds commands) {entry : String × α} :
    entry ∈ registry.entries ↔ entry ∈ commands := by
  have same := holds.kept entry.1
  have both : entry ∈ named entry.1 registry.entries ↔ entry ∈ named entry.1 commands := by rw [same]
  simpa [namedMember] using both

theorem findAnswers {registry : Registry α} {commands : List (String × α)}
    (holds : registry.Holds commands) {line : String} {call : α × String}
    (found : registry.find? line = some call) : ∃ name, Answers commands line name call := by
  obtain ⟨front, entry, rest, split, answered, silent⟩ := List.findSome?_eq_some_iff.mp found
  obtain ⟨argument, read, rfl⟩ := Option.map_eq_some_iff.mp answered
  have calls : Calls line entry.1 := callsRead.mpr ⟨argument, read⟩
  have uncalled : ∀ other ∈ front, ¬ Calls line other.1 := by
    intro other member also
    obtain ⟨argument, read⟩ := callsRead.mp also
    have none := silent other member
    rw [read] at none
    contradiction
  refine ⟨entry.1, calls, ?_, ?_, readBehind read⟩
  · intro other member also
    have among := (holdsMember holds).mpr member
    have sorted := holds.sorted
    rw [split] at among sorted
    rcases List.mem_append.mp among with before | behind
    · exact absurd also (uncalled other before)
    · rcases List.mem_cons.mp behind with rfl | later
      · exact .inl rfl
      · have ordered := (List.pairwise_append.mp sorted).2.1
        exact callsShorter calls also (List.rel_of_pairwise_cons ordered later)
  · -- what stands in front of the entry is called by no line that calls its name
    have none : named entry.1 front = [] := by
      refine List.filter_eq_nil_iff.mpr fun other member => ?_
      rw [decide_eq_true_iff]
      exact fun same => uncalled other member (same ▸ calls)
    have first : (named entry.1 registry.entries).head? = some entry := by
      rw [split, named, List.filter_append, ← named, none, List.nil_append,
        List.filter_cons_of_pos (by simp)]
      rfl
    rw [← List.head?_filter]
    exact (congrArg List.head? (holds.kept entry.1)).symm.trans first

theorem answersMember {commands : List (String × α)} {line name : String} {call : α × String}
    (answers : Answers commands line name call) : (name, call.1) ∈ commands :=
  List.mem_of_find?_eq_some answers.first

theorem answersUnique {commands : List (String × α)} {line name other : String}
    {call also : α × String} (answers : Answers commands line name call)
    (twin : Answers commands line other also) : call = also := by
  have same : other = name := by
    rcases answers.longest _ (answersMember twin) twin.calls with same | shorter
    · exact same
    · rcases twin.longest _ (answersMember answers) answers.calls with same | longer
      · exact same.symm
      · exact absurd shorter (Nat.lt_asymm longer)
  subst same
  have command : call.1 = also.1 := by
    have both := answers.first.symm.trans twin.first
    simpa using both
  obtain ⟨rest, split, argument⟩ := answers.behind
  obtain ⟨tail, again, text⟩ := twin.behind
  have behind : rest = tail := (String.append_right_inj other).mp (split.symm.trans again)
  exact Prod.ext command (by rw [argument, text, behind])

theorem findNone {registry : Registry α} {commands : List (String × α)}
    (holds : registry.Holds commands) {line : String} :
    registry.find? line = none ↔ ∀ entry ∈ commands, ¬ Calls line entry.1 := by
  rw [find?, List.findSome?_eq_none_iff]
  simp only [holdsMember holds, Option.map_eq_none_iff, callsRead, ← Option.eq_none_iff_forall_ne_some,
    not_exists]

theorem findIff {registry : Registry α} {commands : List (String × α)}
    (holds : registry.Holds commands) {line : String} {call : α × String} :
    registry.find? line = some call ↔ ∃ name, Answers commands line name call := by
  refine ⟨findAnswers holds, ?_⟩
  rintro ⟨name, answers⟩
  cases found : registry.find? line with
  | none => exact absurd answers.calls ((findNone holds).mp found _ (answersMember answers))
  | some also =>
    obtain ⟨other, twin⟩ := findAnswers holds found
    rw [answersUnique answers twin]

theorem holdsAlike {registry : Registry α} {commands other : List (String × α)}
    (same : ∀ name, named name other = named name commands) (holds : registry.Holds commands) :
    registry.Holds other :=
  ⟨holds.sorted, fun name => (holds.kept name).trans (same name).symm⟩

theorem findAlike {first second : Registry α} {commands : List (String × α)}
    (one : first.Holds commands) (two : second.Holds commands) (line : String) :
    first.find? line = second.find? line :=
  Option.ext fun _ => (findIff one).trans (findIff two).symm

end Registry

namespace Command

open Registry

/-- A line is answered by the earliest command of the longest name it calls, with the rest of the
line trimmed, and by none where it calls no name. The order in which commands of different names are
registered does not matter. -/
theorem dispatchExact {α : Type} (commands : List (String × α)) (line : String) :
    (∀ call, (ofList commands).find? line = some call ↔ ∃ name, Answers commands line name call) ∧
      ((ofList commands).find? line = none ↔ ∀ entry ∈ commands, ¬ Calls line entry.1) ∧
      (∀ other, (∀ name, named name other = named name commands) →
        (ofList other).find? line = (ofList commands).find? line) ∧
      ∀ color session (disk : Tree),
        let answer := (execute color line session : StateM Tree (Reply × Session)) disk
        (∀ name call, Answers all line name call →
            answer = (call.1.run color call.2 session : StateM Tree (Reply × Session)) disk) ∧
          (answer.1.1 = .notACommand ↔ ∀ entry ∈ all, ¬ Calls line entry.1) := by
  refine ⟨fun call => findIff (listHolds commands), findNone (listHolds commands),
    fun other same => ?_, fun color session disk => ⟨fun name call answers => ?_, ?_⟩⟩
  · exact findAlike (listHolds other) (holdsAlike same (listHolds commands)) line
  · have found : registry.find? line = some call := (findIff (listHolds all)).mpr ⟨name, answers⟩
    simp only [execute, found]
  · have uncalled : registry.find? line = none ↔ _ := findNone (listHolds all)
    rw [← uncalled]
    cases found : registry.find? line with
    | none => simp [execute, found, pure, StateT.pure]
    | some call =>
      have replied := Session.commandReply color call.1 call.2 session disk
      simpa [execute, found] using replied

def overlapping : List (String × Nat) := [("a", 0), ("a b", 1), ("", 2), ("a b", 3)]

def reordered : List (String × Nat) := [("a b", 1), ("", 2), ("a b", 3), ("a", 0)]

theorem overlappingDispatched :
    (∀ name, named name reordered = named name overlapping) ∧
      (ofList overlapping).find? "a b  c " = some (1, "c") ∧
      (ofList reordered).find? "a b  c " = some (1, "c") := by
  obtain ⟨found, -, ordered, -⟩ := dispatchExact overlapping "a b  c "
  have same : ∀ name, named name reordered = named name overlapping := by
    intro name
    by_cases short : "a" = name
    · subst short
      rfl
    · simp [named, reordered, overlapping, short, List.filter_cons]
  have answers : Answers overlapping "a b  c " "a b" (1, "c") := by
    have shorter : ∀ other ∈ overlapping, other.1 = "a b" ∨ other.1.length < "a b".length := by
      decide
    exact ⟨.inr ⟨" c ", by decide⟩, fun other member _ => shorter other member, by decide, "  c ",
      by decide, by decide⟩
  have called := (found (1, "c")).mpr ⟨_, answers⟩
  exact ⟨same, called, (ordered reordered same).trans called⟩

end Command

end ChordChart
