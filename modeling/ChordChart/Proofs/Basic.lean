import Mathlib.Data.List.Sort

/-! Results taken apart into the steps behind one that succeeded and the step that one failed at,
and stable sorting: entries that the order does not tell apart stay as they came. -/
namespace ChordChart

variable {ε δ α β : Type}

theorem okOfSome {result : Except ε α} {value : α}
    (found : result.toOption = some value) : result = .ok value := by
  cases result with
  | error cause => simp [Except.toOption] at found
  | ok other =>
    simp only [Except.toOption, Option.some.injEq] at found
    rw [found]

theorem bindOk {result : Except ε α} {next : α → Except ε β} {value : β}
    (ok : result.bind next = .ok value) :
    ∃ middle, result = .ok middle ∧ next middle = .ok value := by
  cases result with
  | error cause => cases ok
  | ok middle => exact ⟨middle, rfl, ok⟩

theorem bindRefused {result : Except ε α} {next : α → Except ε β} {cause : ε}
    (refused : result.bind next = .error cause) :
    result = .error cause ∨ ∃ middle, result = .ok middle ∧ next middle = .error cause := by
  cases result with
  | error other => exact .inl (congrArg Except.error (Except.error.inj refused))
  | ok middle => exact .inr ⟨middle, rfl, refused⟩

theorem mapOk {result : Except ε α} {f : α → β} {value : β} (ok : result.map f = .ok value) :
    ∃ middle, result = .ok middle ∧ f middle = value := by
  cases result with
  | error cause => cases ok
  | ok middle => exact ⟨middle, rfl, Except.ok.inj ok⟩

theorem mapRefused {result : Except ε α} {f : α → β} {cause : ε}
    (refused : result.map f = .error cause) : result = .error cause := by
  cases result with
  | error other => exact congrArg Except.error (Except.error.inj refused)
  | ok middle => cases refused

theorem mapErrorOk {result : Except ε α} {f : ε → δ} {value : α}
    (ok : result.mapError f = .ok value) : result = .ok value := by
  cases result with
  | error cause => cases ok
  | ok middle =>
    cases ok
    rfl

theorem mapErrorRefused {result : Except ε α} {f : ε → δ} {cause : δ}
    (refused : result.mapError f = .error cause) :
    ∃ inner, result = .error inner ∧ f inner = cause := by
  cases result with
  | error inner => exact ⟨inner, rfl, Except.error.inj refused⟩
  | ok middle => cases refused

theorem sortedStable {α : Type} {le : α → α → Bool} (through : ∀ a b c, le a b → le b c → le a c)
    (total : ∀ a b, le a b || le b a) {entries : List α} {chosen : α → Bool}
    (alike : ∀ a ∈ entries, ∀ b ∈ entries, chosen a → chosen b → le a b) :
    (entries.mergeSort le).filter chosen = entries.filter chosen := by
  have ordered : (entries.filter chosen).Pairwise fun a b => le a b := by
    apply List.pairwise_of_forall_mem_list
    intro a first b second
    obtain ⟨one, here⟩ := List.mem_filter.mp first
    obtain ⟨other, there⟩ := List.mem_filter.mp second
    exact alike a one b other here there
  have kept : (entries.filter chosen).Sublist (entries.mergeSort le) :=
    List.sublist_mergeSort through total ordered List.filter_sublist
  have inside := kept.filter chosen
  rw [List.filter_filter] at inside
  simp only [Bool.and_self] at inside
  have count := ((List.mergeSort_perm entries le).filter chosen).length_eq
  exact (inside.eq_of_length count.symm).symm

end ChordChart
