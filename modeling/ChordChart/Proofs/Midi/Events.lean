import ChordChart.Midi.File
import Mathlib.Data.List.Chain
import Mathlib.Data.List.Induction

/-! The events of some notes in the order of a file. Counting does not see the order, so counts are
taken over the notes; the order enters once, for the events in front of one that releases a key. -/
namespace ChordChart.Midi.NoteEvent

def strikes (key : Key) (events : List NoteEvent) : Nat :=
  events.countP fun event => event.kind = .on ∧ event.key = key

def releases (key : Key) (events : List NoteEvent) : Nat :=
  events.countP fun event => event.kind = .off ∧ event.key = key

def upTo (tick : Nat) (events : List NoteEvent) : List NoteEvent :=
  events.filter fun event => event.tick ≤ tick

def held (key : Key) (tick : Nat) (notes : List Note) : Nat :=
  notes.countP fun note =>
    min note.key 127 = key ∧ note.start.toNat ≤ tick ∧
      tick < note.start.toNat + note.duration.toNat

def lasting (notes : List Note) : List Note := notes.filter fun note => 0 < note.duration

theorem countPairs (p : NoteEvent → Bool) (notes : List Note) :
    (notes.flatMap fun note => [strike note, release note]).countP p =
      notes.countP (fun note => p (strike note)) + notes.countP fun note => p (release note) := by
  induction notes with
  | nil => rfl
  | cons note notes ih =>
    simp only [List.flatMap_cons, List.countP_append, List.countP_cons, List.countP_nil, ih]
    omega

theorem countEvents (p : NoteEvent → Bool) (notes : List Note) :
    (ofNotes notes).countP p =
      (lasting notes).countP (fun note => p (strike note)) +
        (lasting notes).countP fun note => p (release note) := by
  rw [← countPairs]
  exact (List.mergeSort_perm _ _).countP_eq p

theorem strikesUpTo (key : Key) (tick : Nat) (notes : List Note) :
    strikes key (upTo tick (ofNotes notes)) =
      (lasting notes).countP fun note => min note.key 127 = key ∧ note.start.toNat ≤ tick := by
  rw [strikes, upTo, List.countP_filter, countEvents]
  simp only [strike, release, reduceCtorEq, true_and, false_and, decide_false, Bool.false_and,
    List.countP_false, Function.const_apply, Nat.add_zero]
  refine List.countP_congr fun note _ => ?_
  rw [Bool.and_eq_true, decide_eq_true_iff, decide_eq_true_iff]
  exact and_congr_right fun _ => decide_eq_true_iff

theorem releasesUpTo (key : Key) (tick : Nat) (notes : List Note) :
    releases key (upTo tick (ofNotes notes)) =
      (lasting notes).countP fun note =>
        min note.key 127 = key ∧ note.start.toNat + note.duration.toNat ≤ tick := by
  rw [releases, upTo, List.countP_filter, countEvents]
  simp only [strike, release, reduceCtorEq, true_and, false_and, decide_false, Bool.false_and,
    List.countP_false, Function.const_apply, Nat.zero_add]
  refine List.countP_congr fun note _ => ?_
  rw [Bool.and_eq_true, decide_eq_true_iff, decide_eq_true_iff]
  exact and_congr_right fun _ => decide_eq_true_iff

theorem heldLasting (key : Key) (tick : Nat) (notes : List Note) :
    held key tick notes = held key tick (lasting notes) := by
  unfold held lasting
  rw [List.countP_filter]
  refine List.countP_congr fun note _ => ?_
  simp only [UInt32.lt_iff_toNat_lt, UInt32.toNat_zero, Bool.and_eq_true, decide_eq_true_eq]
  constructor
  · intro holds
    exact ⟨holds, by omega⟩
  · exact And.left

theorem strikesReleases (key : Key) (tick : Nat) (notes : List Note) :
    strikes key (upTo tick (ofNotes notes)) =
      releases key (upTo tick (ofNotes notes)) + held key tick notes := by
  rw [strikesUpTo, releasesUpTo, heldLasting]
  unfold held
  induction lasting notes with
  | nil => rfl
  | cons note notes ih =>
    simp only [List.countP_cons, ih, decide_eq_true_eq]
    by_cases keyed : min note.key 127 = key
    · simp only [keyed, true_and]
      split <;> split <;> split <;> omega
    · simp only [keyed, false_and, if_false]
      omega

theorem keyRange (key : Key) : min key 127 < 0x80 := by
  have high : min key 127 ≤ 127 := Std.min_le_right
  exact Nat.lt_succ_of_le (UInt8.le_iff_toNat_le.mp high)

theorem velocityRange (velocity : UInt8) :
    clampVelocity velocity < 0x80 ∧ clampVelocity velocity ≠ 0 := by
  have larger : clampVelocity velocity =
    if 1 ≤ min velocity 127 then min velocity 127 else 1 := rfl
  rw [larger]
  split
  · rename_i struck
    refine ⟨keyRange velocity, fun silent => ?_⟩
    rw [silent] at struck
    contradiction
  · decide

theorem eventsOfNotes {event : NoteEvent} {notes : List Note} :
    event ∈ ofNotes notes ↔ ∃ note ∈ lasting notes, event = strike note ∨ event = release note := by
  simp [ofNotes, lasting]

theorem eventsPlayable {event : NoteEvent} {notes : List Note} (member : event ∈ ofNotes notes) :
    event.key < 0x80 ∧ event.velocity < 0x80 ∧ (event.kind = .on → event.velocity ≠ 0) := by
  obtain ⟨note, -, rfl | rfl⟩ := eventsOfNotes.mp member
  · have range := velocityRange note.velocity
    exact ⟨keyRange note.key, range.1, fun _ => range.2⟩
  · have silent : (0 : UInt8) < 0x80 := by decide
    refine ⟨keyRange note.key, silent, fun struck => ?_⟩
    contradiction

theorem rankTick {a b : NoteEvent} (order : a.rank ≤ b.rank) : a.tick ≤ b.tick := by
  have high := a.key.toNat_lt
  have low := b.key.toNat_lt
  unfold rank at order
  split at order <;> split at order <;> omega

theorem rankThrough (a b c : NoteEvent) (first : decide (a.rank ≤ b.rank))
    (second : decide (b.rank ≤ c.rank)) : decide (a.rank ≤ c.rank) := by
  simp only [decide_eq_true_eq] at first second ⊢
  omega

theorem rankTotal (a b : NoteEvent) : decide (a.rank ≤ b.rank) || decide (b.rank ≤ a.rank) := by
  simp only [Bool.or_eq_true, decide_eq_true_eq]
  omega

theorem eventsRanked (notes : List Note) :
    (ofNotes notes).Pairwise fun a b => a.rank ≤ b.rank :=
  (List.pairwise_mergeSort rankThrough rankTotal _).imp of_decide_eq_true

theorem eventsAscending (notes : List Note) :
    (0 :: (ofNotes notes).map tick).IsChain (· ≤ ·) := by
  refine List.Pairwise.isChain (List.pairwise_cons.mpr ⟨fun _ _ => Nat.zero_le _, ?_⟩)
  exact List.pairwise_map.mpr ((eventsRanked notes).imp rankTick)

theorem releasesFront {key : Key} {tick : Nat} {notes : List Note} {before after : List NoteEvent}
    (split : ofNotes notes = before ++ after) (early : ∀ event ∈ before, event.tick ≤ tick) :
    releases key before ≤
      (lasting notes).countP fun note =>
        min note.key 127 = key ∧ note.start.toNat + note.duration.toNat ≤ tick := by
  have whole : upTo tick before = before :=
    List.filter_eq_self.mpr fun event member => decide_eq_true (early event member)
  rw [← releasesUpTo, split]
  unfold upTo at whole ⊢
  rw [List.filter_append, whole]
  unfold releases
  rw [List.countP_append]
  exact Nat.le_add_right _ _

theorem strikesFront {key : Key} {tick : Nat} {notes : List Note} {before after : List NoteEvent}
    (split : ofNotes notes = before ++ after) (late : ∀ event ∈ after, tick ≤ event.tick) :
    ((lasting notes).countP fun note => min note.key 127 = key ∧ note.start.toNat < tick) ≤
      strikes key before := by
  have total := countEvents
    (fun event => event.kind = .on ∧ event.key = key ∧ event.tick < tick) notes
  have none : (after.countP fun event => event.kind = .on ∧ event.key = key ∧ event.tick < tick) =
      0 := by
    rw [List.countP_eq_zero]
    intro event member
    have := late event member
    simp only [decide_eq_true_eq]
    omega
  rw [split, List.countP_append, none] at total
  simp only [strike, release, reduceCtorEq, true_and, false_and, decide_false, Nat.add_zero,
    List.countP_false, Function.const_apply] at total
  rw [← total]
  refine List.countP_mono_left fun event _ counted => ?_
  simp only [decide_eq_true_eq] at counted ⊢
  exact ⟨counted.1, counted.2.1⟩

theorem releasesStrikes (key : Key) (notes : List Note) {before after : List NoteEvent}
    (split : ofNotes notes = before ++ after) : releases key before ≤ strikes key before := by
  rcases List.eq_nil_or_concat before with rfl | ⟨front, event, rfl⟩
  · exact Nat.le_refl 0
  · rw [List.concat_eq_append] at split ⊢
    -- A note released up to the last event in front was struck at an earlier tick than that event,
    -- so its stroke stands in front too.
    have ranked := eventsRanked notes
    rw [split, List.pairwise_append] at ranked
    obtain ⟨inFront, -, across⟩ := ranked
    have early : ∀ other ∈ front ++ [event], other.tick ≤ event.tick := by
      intro other member
      rcases List.mem_append.mp member with inside | last
      · exact rankTick ((List.pairwise_append.mp inFront).2.2 other inside event (by simp))
      · exact Nat.le_of_eq (congrArg tick (List.mem_singleton.mp last))
    have late : ∀ other ∈ after, event.tick ≤ other.tick :=
      fun other member => rankTick (across event (by simp) other member)
    calc
      releases key (front ++ [event]) ≤ _ := releasesFront split early
      _ ≤ (lasting notes).countP fun note =>
          min note.key 127 = key ∧ note.start.toNat < event.tick := by
        refine List.countP_mono_left fun note member ended => ?_
        have length := (List.mem_filter.mp member).2
        simp only [decide_eq_true_eq, UInt32.lt_iff_toNat_lt, UInt32.toNat_zero] at length ended ⊢
        exact ⟨ended.1, by omega⟩
      _ ≤ strikes key (front ++ [event]) := strikesFront split late

def Precedes (a b : NoteEvent) : Prop :=
  a.tick < b.tick ∨
    a.tick = b.tick ∧ (a.kind = .off ∧ b.kind = .on ∨ a.kind = b.kind ∧ a.key ≤ b.key)

theorem rankPrecedes {a b : NoteEvent} : a.rank ≤ b.rank ↔ Precedes a b := by
  have first := a.key.toNat_lt
  have second := b.key.toNat_lt
  unfold rank Precedes
  rw [UInt8.le_iff_toNat_le]
  cases kind : a.kind <;> cases other : b.kind <;>
    simp only [reduceCtorEq, if_true, if_false, true_and, false_and, and_false, or_false,
      false_or, and_true] <;> omega

theorem notesReplayed (notes : List Note) :
    let events := ofNotes notes
    let long := notes.filter fun note => 0 < note.duration
    events.Pairwise Precedes ∧
      events.Perm (long.flatMap fun note =>
        [⟨note.start.toNat, .on, min note.key 127, clampVelocity note.velocity⟩,
          ⟨note.start.toNat + note.duration.toNat, .off, min note.key 127, 0⟩]) ∧
      (∀ tick key, strikes key (upTo tick events) =
        releases key (upTo tick events) + long.countP fun note =>
          min note.key 127 = key ∧ note.start.toNat ≤ tick ∧
            tick < note.start.toNat + note.duration.toNat) ∧
      ∀ key before after, events = before ++ after → releases key before ≤ strikes key before := by
  refine ⟨(eventsRanked notes).imp rankPrecedes.mp, List.mergeSort_perm _ _, fun tick key => ?_,
    fun key before after => releasesStrikes key notes⟩
  rw [strikesReleases, heldLasting]
  rfl

end ChordChart.Midi.NoteEvent
