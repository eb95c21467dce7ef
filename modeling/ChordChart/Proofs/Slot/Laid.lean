import ChordChart.Proofs.Basic
import ChordChart.Song
import Mathlib.Data.List.Chain

/-! The slots of a progression in time. `Laid` says for each kind of entry what its slot is and what
the entries behind it start from; every law about slots is an induction on it. Slots follow one
another from tick 0 without gap or overlap, so that a tick before the end lies in one slot and a
tick behind it in none. -/
namespace ChordChart

namespace Slot

def rest (entry : Entry) (tick : Nat) : Slot := { silent entry tick with isRest := true }

def unknown (entry : Entry) (tick : Nat) (cause : ResolveError) : Slot :=
  { silent entry tick with isValid := false, error := some cause.message }

def sounding (entry : Entry) (tick : Nat) (chord : Chord) (voicing : Voicing) : Slot :=
  { silent entry tick with
    toneSet := chord.toneSet
    voicing := voicing.notes
    bass := some voicing.bass }

inductive Laid (options : Options) : Nat → List Key → List Entry → List Slot → Prop where
  | nil (tick previous) : Laid options tick previous [] []
  | rest {tick previous entry entries slots} (kind : entry.kind = .rest)
      (room : tick + entry.duration.toNat ≤ maxTicks)
      (next : Laid options (tick + entry.duration.toNat) previous entries slots) :
      Laid options tick previous (entry :: entries) (rest entry tick :: slots)
  | unknown {tick previous entry entries slots symbol cause} (kind : entry.kind = .chord symbol)
      (refused : Chord.resolve symbol options.transpose = .error cause)
      (room : tick + entry.duration.toNat ≤ maxTicks)
      (next : Laid options (tick + entry.duration.toNat) previous entries slots) :
      Laid options tick previous (entry :: entries) (unknown entry tick cause :: slots)
  | sounding {tick previous entry entries slots symbol chord voicing}
      (kind : entry.kind = .chord symbol)
      (resolved : Chord.resolve symbol options.transpose = .ok chord)
      (voiced : Voicing.ofChord chord options.strategy options.baseOctave previous = voicing)
      (room : tick + entry.duration.toNat ≤ maxTicks)
      (next : Laid options (tick + entry.duration.toNat) voicing.notes entries slots) :
      Laid options tick previous (entry :: entries) (sounding entry tick chord voicing :: slots)

theorem entriesLaid {options : Options} {tick : Nat} {previous : List Key} {entries : List Entry}
    {slots : List Slot} (ok : ofEntries options tick previous entries = .ok slots) :
    Laid options tick previous entries slots := by
  induction entries generalizing tick previous slots with
  | nil =>
    cases ok
    exact .nil tick previous
  | cons entry entries ih =>
    simp only [ofEntries] at ok
    split at ok
    · contradiction
    · rename_i inside
      have room : tick + entry.duration.toNat ≤ maxTicks := by omega
      obtain ⟨others, later, rfl⟩ := mapOk ok
      have next := ih later
      cases kind : entry.kind with
      | rest =>
        simp only [ofEntry, kind] at next ⊢
        exact .rest kind room next
      | chord symbol =>
        cases named : Chord.resolve symbol options.transpose with
        | error cause =>
          simp only [ofEntry, kind, named] at next ⊢
          exact .unknown kind named room next
        | ok chord =>
          simp only [ofEntry, kind, named] at next ⊢
          exact .sounding kind named rfl room next

theorem laidEntries {options : Options} {tick : Nat} {previous : List Key} {entries : List Entry}
    {slots : List Slot} (laid : Laid options tick previous entries slots) :
    ofEntries options tick previous entries = .ok slots := by
  induction laid with
  | nil => rfl
  | rest kind room next ih =>
    simp only [ofEntries, ofEntry, kind, if_neg (Nat.not_lt.mpr room), leading, silent,
      Option.isSome_none, Bool.false_eq_true, if_false, ih]
    rfl
  | unknown kind refused room next ih =>
    simp only [ofEntries, ofEntry, kind, refused, if_neg (Nat.not_lt.mpr room), leading, silent,
      Option.isSome_none, Bool.false_eq_true, if_false, ih]
    rfl
  | sounding kind resolved voiced room next ih =>
    subst voiced
    simp only [ofEntries, ofEntry, kind, resolved, if_neg (Nat.not_lt.mpr room), leading,
      Option.isSome_some, if_true, ih]
    rfl

theorem optionsLaid {options : Options} {slots : List Slot} (ok : ofOptions options = .ok slots) :
    options.problem? = none ∧ ∃ entries,
      Progression.parse options.progression options.chordDuration options.meter = .ok entries ∧
        Laid options 0 [] entries slots := by
  unfold ofOptions at ok
  split at ok
  · contradiction
  · rename_i valid
    split at ok
    · contradiction
    · rename_i entries parsed
      exact ⟨valid, entries, parsed, entriesLaid ok⟩

theorem laidOptions {options : Options} {entries : List Entry} {slots : List Slot}
    (valid : options.problem? = none)
    (parsed :
      Progression.parse options.progression options.chordDuration options.meter = .ok entries)
    (laid : Laid options 0 [] entries slots) : ofOptions options = .ok slots := by
  simp only [ofOptions, valid, parsed]
  exact laidEntries laid

inductive Span : Nat → List Slot → Nat → Prop where
  | nil (tick) : Span tick [] tick
  | cons {tick slot slots stop} (starts : slot.start.toNat = tick)
      (next : Span (tick + slot.duration.toNat) slots stop) : Span tick (slot :: slots) stop

def covers (tick : Nat) (slot : Slot) : Bool :=
  slot.start.toNat ≤ tick ∧ tick < slot.start.toNat + slot.duration.toNat

theorem coversIff {tick : Nat} {slot : Slot} :
    slot.covers tick ↔
      slot.start.toNat ≤ tick ∧ tick < slot.start.toNat + slot.duration.toNat :=
  decide_eq_true_iff

theorem startKept {tick : Nat} (inside : tick ≤ maxTicks) : (UInt32.ofNat tick).toNat = tick := by
  unfold maxTicks at inside
  rw [UInt32.toNat_ofNat']
  omega

theorem laidSpan {options : Options} {tick : Nat} {previous : List Key} {entries : List Entry}
    {slots : List Slot} (laid : Laid options tick previous entries slots)
    (inside : tick ≤ maxTicks) : ∃ stop ≤ maxTicks, Span tick slots stop := by
  induction laid with
  | nil tick => exact ⟨tick, inside, .nil tick⟩
  | rest kind room next ih | unknown kind refused room next ih
  | sounding kind resolved voiced room next ih =>
    obtain ⟨stop, bound, span⟩ := ih room
    exact ⟨stop, bound, .cons (startKept inside) span⟩

theorem spanOrdered {tick stop : Nat} {slots : List Slot} (span : Span tick slots stop) :
    tick ≤ stop := by
  induction span with
  | nil => exact Nat.le_refl _
  | cons starts next ih => exact Nat.le_of_add_right_le ih

theorem spanBefore {tick start stop : Nat} {slots : List Slot} (span : Span start slots stop)
    (early : tick < start) : slots.filter (covers tick) = [] := by
  induction span with
  | nil => rfl
  | @cons start slot slots stop starts next ih =>
    have outside : ¬ covers tick slot := by
      rw [coversIff]
      omega
    rw [List.filter_cons_of_neg outside]
    exact ih (by omega)

theorem spanBehind {tick start stop : Nat} {slots : List Slot} (span : Span start slots stop)
    (late : stop ≤ tick) : slots.filter (covers tick) = [] := by
  induction span with
  | nil => rfl
  | @cons start slot slots stop starts next ih =>
    have ordered := spanOrdered next
    have outside : ¬ covers tick slot := by
      rw [coversIff]
      omega
    rw [List.filter_cons_of_neg outside]
    exact ih late

theorem spanCovers {tick start stop : Nat} {slots : List Slot} (span : Span start slots stop)
    (reached : start ≤ tick) (inside : tick < stop) :
    ∃ slot, slots.filter (covers tick) = [slot] := by
  induction span with
  | nil => omega
  | @cons start slot slots stop starts next ih =>
    by_cases first : tick < start + slot.duration.toNat
    · have here : covers tick slot := by
        rw [coversIff]
        omega
      rw [List.filter_cons_of_pos here, spanBefore next first]
      exact ⟨slot, rfl⟩
    · have outside : ¬ covers tick slot := by
        rw [coversIff]
        omega
      rw [List.filter_cons_of_neg outside]
      exact ih (by omega) inside

theorem spanBounds {start stop : Nat} {slots : List Slot} (span : Span start slots stop) :
    ∀ slot ∈ slots,
      start ≤ slot.start.toNat ∧ slot.start.toNat + slot.duration.toNat ≤ stop := by
  induction span with
  | nil => simp
  | @cons start slot slots stop starts next ih =>
    have ordered := spanOrdered next
    refine List.forall_mem_cons.mpr ⟨by omega, fun other member => ?_⟩
    have bounds := ih other member
    omega

theorem stopKept {slot : Slot}
    (inside : slot.start.toNat + slot.duration.toNat ≤ maxTicks) :
    slot.stop.toNat = slot.start.toNat + slot.duration.toNat := by
  unfold maxTicks at inside
  rw [Slot.stop, UInt32.toNat_add]
  omega

theorem spanStops {start stop : Nat} {slots : List Slot} (span : Span start slots stop)
    (bound : stop ≤ maxTicks) :
    ∀ slot ∈ slots, slot.stop.toNat = slot.start.toNat + slot.duration.toNat :=
  fun slot member => stopKept (Nat.le_trans (spanBounds span slot member).2 bound)

theorem spanApart {start stop : Nat} {slots : List Slot} (span : Span start slots stop)
    (bound : stop ≤ maxTicks) : slots.Pairwise fun a b => a.stop ≤ b.start := by
  induction span with
  | nil => exact .nil
  | @cons start slot slots stop starts next ih =>
    have ends := spanStops (.cons starts next) bound slot (List.mem_cons_self ..)
    refine .cons (fun other member => ?_) (ih bound)
    have later := (spanBounds next other member).1
    rw [UInt32.le_iff_toNat_le]
    omega

theorem spanJoined {start stop : Nat} {slots : List Slot} (span : Span start slots stop)
    (bound : stop ≤ maxTicks) : slots.IsChain fun a b => a.stop = b.start := by
  induction span with
  | nil => exact .nil
  | @cons start slot slots stop starts next ih =>
    have ends := spanStops (.cons starts next) bound slot (List.mem_cons_self ..)
    cases next with
    | nil => exact .singleton slot
    | @cons _ second rest _ follows further =>
      refine .cons_cons (UInt32.toNat_inj.mp ?_) (ih bound)
      omega

theorem spanTotal {start stop : Nat} {slots : List Slot} (span : Span start slots stop)
    (bound : stop ≤ maxTicks) {last : UInt32} (before : last.toNat = start) :
    ((slots.getLast?.map Slot.stop).getD last).toNat = stop := by
  induction span generalizing last with
  | nil => exact before
  | @cons start slot slots stop starts next ih =>
    have ends := spanStops (.cons starts next) bound slot (List.mem_cons_self ..)
    have rest := ih bound (starts ▸ ends)
    cases slots <;> simpa [List.getLast?_cons] using rest

end Slot

end ChordChart
