import ChordChart.Midi.File
import ChordChart.Proofs.Basic
import ChordChart.Proofs.Midi.Events
import ChordChart.Proofs.Slot.Placed

/-! Notes in another order. Events that the order of a file does not tell apart are the same event
as long as two notes that start together on one key are struck alike, and then the file does not
depend on the order of its notes. Where two of them are struck differently, the events show which
came first. -/
namespace ChordChart.Midi

def StruckAlike (notes : List Note) : Prop :=
  ∀ a ∈ notes, ∀ b ∈ notes, a.start = b.start → min a.key 127 = min b.key 127 →
    clampVelocity a.velocity = clampVelocity b.velocity

instance (notes : List Note) : Decidable (StruckAlike notes) :=
  inferInstanceAs (Decidable (∀ a ∈ notes, ∀ b ∈ notes, a.start = b.start →
    min a.key 127 = min b.key 127 → clampVelocity a.velocity = clampVelocity b.velocity))

namespace NoteEvent

def unsorted (notes : List Note) : List NoteEvent :=
  (lasting notes).flatMap fun note => [strike note, release note]

theorem sortedUnsorted (notes : List Note) : (ofNotes notes).Perm (unsorted notes) :=
  List.mergeSort_perm _ _

theorem ranksSame {a b : NoteEvent} :
    a.rank = b.rank ↔ a.tick = b.tick ∧ a.kind = b.kind ∧ a.key = b.key := by
  have low := a.key.toNat_lt
  have high := b.key.toNat_lt
  have keys : a.key = b.key ↔ a.key.toNat = b.key.toNat := UInt8.toNat_inj.symm
  unfold rank
  cases one : a.kind <;> cases other : b.kind <;> simp [keys] <;> omega

theorem eventsAlike {notes : List Note} (alike : StruckAlike (lasting notes)) {a b : NoteEvent}
    (first : a ∈ ofNotes notes) (second : b ∈ ofNotes notes) (same : a.rank = b.rank) : a = b := by
  obtain ⟨tick, kind, key⟩ := ranksSame.mp same
  obtain ⟨note, among, made⟩ := eventsOfNotes.mp first
  obtain ⟨other, inside, done⟩ := eventsOfNotes.mp second
  rcases made with rfl | rfl <;> rcases done with rfl | rfl
  · have start : note.start = other.start := UInt32.toNat_inj.mp tick
    have velocity := alike note among other inside start key
    simp only [strike, start, velocity, NoteEvent.mk.injEq, true_and, and_true]
    exact key
  · contradiction
  · contradiction
  · simp only [release, NoteEvent.mk.injEq, true_and, and_true]
    exact ⟨tick, key⟩

theorem eventsPermuted {first second : List Note} (permuted : first.Perm second)
    (alike : StruckAlike (lasting first)) : ofNotes first = ofNotes second := by
  have same : (ofNotes first).Perm (ofNotes second) :=
    (sortedUnsorted first).trans
      (((permuted.filter _).flatMap_right _).trans (sortedUnsorted second).symm)
  apply same.eq_of_pairwise
  · intro a b one other before after
    exact eventsAlike alike one (same.mem_iff.mpr other) (Nat.le_antisymm before after)
  · exact eventsRanked first
  · exact eventsRanked second

/- The sort keeps the order of the notes between events that it does not tell apart. -/
theorem rankedStable (rank : Nat) (notes : List Note) :
    (ofNotes notes).filter (fun event => event.rank = rank) =
      (unsorted notes).filter fun event => event.rank = rank := by
  refine sortedStable rankThrough rankTotal fun a _ b _ one other => ?_
  simp only [decide_eq_true_eq] at one other ⊢
  omega

theorem permutedAlike {notes : List Note}
    (same : ∀ others, notes.Perm others → ofNotes notes = ofNotes others) :
    StruckAlike (lasting notes) := by
  intro a first b second start key
  by_contra apart
  obtain ⟨among, long⟩ := List.mem_filter.mp first
  obtain ⟨inside, wide⟩ := List.mem_filter.mp second
  have other : b ≠ a := by
    intro one
    exact apart (by rw [one])
  have front := (List.perm_cons_erase among).trans
    ((List.perm_cons_erase ((List.mem_erase_of_ne other).mpr inside)).cons a)
  have swapped := front.trans (List.Perm.swap b a _)
  have ranks : (strike b).rank = (strike a).rank :=
    ranksSame.mpr ⟨congrArg UInt32.toNat start.symm, rfl, key.symm⟩
  have heads := congrArg (fun events => (events.filter fun event =>
    event.rank = (strike a).rank).head?) ((same _ front).symm.trans (same _ swapped))
  simp only [rankedStable] at heads
  simp only [unsorted, lasting, List.filter_cons, long, wide, if_true, List.flatMap_cons,
    List.cons_append, decide_true, ranks, List.head?_cons, Option.some.injEq] at heads
  exact apart (congrArg velocity heads)

end NoteEvent

theorem collectedAlike (output : Output) (velocity : UInt8) (slots : List Slot) :
    StruckAlike (Slot.collectNotes output velocity slots) := by
  intro a first b second start key
  obtain ⟨-, -, -, -, one⟩ := Slot.noteSource first
  obtain ⟨-, -, -, -, other⟩ := Slot.noteSource second
  rw [one, other]

/-- The file of some notes, or the tick that refuses it, does not depend on their order if two that
start together on one key are struck alike, as all notes of slots are. The events depend on it
wherever two notes with a length are not. -/
theorem encodePermuted (notes : List Note) :
    (StruckAlike notes → ∀ others settings, notes.Perm others →
        encode notes settings = encode others settings) ∧
      ((∀ others, notes.Perm others → NoteEvent.ofNotes notes = NoteEvent.ofNotes others) ↔
        StruckAlike (NoteEvent.lasting notes)) ∧
      ∀ output velocity slots, StruckAlike (Slot.collectNotes output velocity slots) := by
  constructor
  · intro alike others settings permuted
    have lasting : StruckAlike (NoteEvent.lasting notes) := fun a first b second =>
      alike a (List.mem_of_mem_filter first) b (List.mem_of_mem_filter second)
    rw [encode, encode, NoteEvent.eventsPermuted permuted lasting]
  constructor
  · constructor
    · exact NoteEvent.permutedAlike
    · intro alike others permuted
      exact NoteEvent.eventsPermuted permuted alike
  · exact collectedAlike

def clamped : List Note := [⟨200, 0, 4, 0⟩, ⟨127, 0, 2, 1⟩]

theorem clampedPermuted : clamped.Perm clamped.reverse ∧ StruckAlike clamped ∧
    encode clamped {} = encode clamped.reverse {} := by
  have permuted : clamped.Perm clamped.reverse := (List.reverse_perm clamped).symm
  have alike : StruckAlike clamped := by decide
  exact ⟨permuted, alike, (encodePermuted clamped).1 alike _ _ permuted⟩

end ChordChart.Midi
