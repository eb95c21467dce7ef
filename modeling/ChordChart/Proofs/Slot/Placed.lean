import ChordChart.Proofs.Options
import ChordChart.Proofs.Progression.Entries
import ChordChart.Proofs.Slot.Laid
import Mathlib

/-! Where the entries of a progression come to lie, and when there is no room for them. A slot
starts at the sum of the lengths before it; there are slots as long as the sum of all lengths is
within the last tick, whatever the entries are. -/
namespace ChordChart

namespace Progression

def length (entries : List Entry) : Nat :=
  (entries.map fun entry => entry.duration.toNat).sum

@[simp]
theorem lengthNil : length [] = 0 := rfl

@[simp]
theorem lengthCons (entry : Entry) (entries : List Entry) :
    length (entry :: entries) = entry.duration.toNat + length entries := rfl

def KeepsWords (entries : List Entry) : Prop :=
  ∀ before entry after, entries = before ++ entry :: after → length before ≤ maxTicks →
    length before + entry.duration.toNat < UInt32.size

end Progression

open Progression (length)

structure Options.Reads (options : Options) (entries : List Entry) : Prop where
  valid : options.problem? = none
  parsed : Progression.parse options.progression options.chordDuration options.meter = .ok entries

theorem Options.readsRange {options : Options} {entries : List Entry}
    (reads : options.Reads entries) :
    ∀ entry ∈ entries, 0 < entry.duration ∧ entry.duration.toNat ≤ maxTicks :=
  Progression.parseRange reads.parsed (meterBeats (usableIff.mp reads.valid))

theorem Options.readsWords {options : Options} {entries : List Entry}
    (reads : options.Reads entries) : Progression.KeepsWords entries := by
  rintro before entry after rfl reached
  have bound := (readsRange reads entry (by simp)).2
  unfold maxTicks at reached bound
  rw [UInt32.size]
  omega

namespace Slot

theorem laidDurations {options : Options} {tick : Nat} {previous : List Key}
    {entries : List Entry} {slots : List Slot} (laid : Laid options tick previous entries slots) :
    slots.map duration = entries.map Entry.duration := by
  induction laid with
  | nil => rfl
  | rest kind room next ih | unknown kind refused room next ih
  | sounding kind resolved voiced room next ih =>
    rw [List.map_cons, List.map_cons, ih]
    rfl

theorem laidLength {options : Options} {tick : Nat} {previous : List Key} {entries : List Entry}
    {slots : List Slot} (laid : Laid options tick previous entries slots) (i : Nat) :
    ((slots.take i).map fun slot => slot.duration.toNat).sum = length (entries.take i) := by
  have same := congrArg (fun durations => ((durations.take i).map UInt32.toNat).sum)
    (laidDurations laid)
  simpa [length, ← List.map_take, Function.comp_def] using same

theorem spanLength {start stop : Nat} {slots : List Slot} (span : Span start slots stop) :
    start + (slots.map fun slot => slot.duration.toNat).sum = stop := by
  induction span with
  | nil => simp
  | cons starts next ih => simpa [Nat.add_assoc] using ih

theorem spanAt {start stop : Nat} {slots : List Slot} (span : Span start slots stop) {i : Nat}
    {slot : Slot} (found : slots[i]? = some slot) :
    slot.start.toNat = start + ((slots.take i).map fun slot => slot.duration.toNat).sum := by
  induction span generalizing i with
  | nil => simp at found
  | cons starts next ih =>
    cases i with
    | zero =>
      cases found
      simpa using starts
    | succ i => simpa [Nat.add_assoc] using ih found

theorem laidTotal {options : Options} {entries : List Entry} {slots : List Slot}
    (laid : Laid options 0 [] entries slots) : (totalTicks slots).toNat = length entries := by
  obtain ⟨stop, bound, span⟩ := laidSpan laid (Nat.zero_le _)
  have count : slots.length = entries.length := by
    simpa using congrArg List.length (laidDurations laid)
  have whole := laidLength laid slots.length
  rw [List.take_length, count, List.take_length] at whole
  have total : (totalTicks slots).toNat = stop := spanTotal span bound rfl
  rw [total, ← whole, ← spanLength span, Nat.zero_add]

theorem roomLaid {options : Options} {tick : Nat} {previous : List Key} {entries : List Entry}
    (room : tick + length entries ≤ maxTicks) :
    ∃ slots, ofEntries options tick previous entries = .ok slots := by
  induction entries generalizing tick previous with
  | nil => exact ⟨[], rfl⟩
  | cons entry entries ih =>
    rw [Progression.lengthCons, ← Nat.add_assoc] at room
    have inside : ¬ maxTicks < tick + entry.duration.toNat := by omega
    obtain ⟨slots, later⟩ :=
      @ih _ ((ofEntry options tick previous entry).leading previous) room
    refine ⟨ofEntry options tick previous entry :: slots, ?_⟩
    simp only [ofEntries, if_neg inside, later]
    rfl

theorem entriesRefused {options : Options} {tick : Nat} {previous : List Key}
    {entries : List Entry} {cause : GenerateError}
    (refused : ofEntries options tick previous entries = .error cause) : cause = .tooLong := by
  induction entries generalizing tick previous with
  | nil => cases refused
  | cons entry entries ih =>
    simp only [ofEntries] at refused
    split at refused
    · exact (Except.error.inj refused).symm
    · exact ih (mapRefused refused)

/-- The slots of some entries in time. No end is cut to 32 bits, neither that of a slot nor that of
a note that an output takes from one. -/
structure Placed (entries : List Entry) (slots : List Slot) : Prop where
  count : slots.length = entries.length
  place : ∀ i entry, entries[i]? = some entry →
    ∃ slot, slots[i]? = some slot ∧ slot.duration = entry.duration ∧ 0 < slot.duration ∧
      slot.start.toNat = length (entries.take i)
  joined : slots.IsChain fun a b => a.stop = b.start
  apart : slots.Pairwise fun a b => a.stop ≤ b.start
  total : (totalTicks slots).toNat = length entries
  stops : ∀ slot ∈ slots, slot.stop.toNat = slot.start.toNat + slot.duration.toNat
  noteStops : ∀ output velocity, ∀ note ∈ collectNotes output velocity slots,
    note.stop.toNat = note.start.toNat + note.duration.toNat

theorem noteSource {output : Output} {velocity : UInt8} {slots : List Slot} {note : Note}
    (member : note ∈ collectNotes output velocity slots) :
    ∃ slot ∈ slots, note.start = slot.start ∧ note.duration = slot.duration ∧
      note.velocity = clampVelocity velocity := by
  obtain ⟨slot, among, taken⟩ := List.mem_flatMap.mp member
  obtain ⟨key, -, rfl⟩ := List.mem_map.mp taken
  exact ⟨slot, List.mem_of_mem_filter among, rfl, rfl, rfl⟩

theorem laidPlaced {options : Options} {entries : List Entry} {slots : List Slot}
    (positive : ∀ entry ∈ entries, 0 < entry.duration)
    (laid : Laid options 0 [] entries slots) : Placed entries slots := by
  obtain ⟨stop, bound, span⟩ := laidSpan laid (Nat.zero_le _)
  have stops := spanStops span bound
  have same := laidDurations laid
  have count : slots.length = entries.length := by simpa using congrArg List.length same
  refine ⟨count, fun i entry found => ?_, spanJoined span bound, spanApart span bound, ?_, stops,
    fun output velocity note member => ?_⟩
  · have durations := congrArg (fun durations => durations[i]?) same
    simp only [List.getElem?_map, found, Option.map_some, Option.map_eq_some_iff] at durations
    obtain ⟨slot, there, duration⟩ := durations
    have some := positive entry (List.mem_of_getElem? found)
    refine ⟨slot, there, duration, duration ▸ some, ?_⟩
    rw [spanAt span there, laidLength laid, Nat.zero_add]
  · exact laidTotal laid
  · obtain ⟨slot, among, start, duration, -⟩ := noteSource member
    have ends := stops slot among
    rw [Note.stop, start, duration]
    exact ends

theorem readsEntries {options : Options} {entries : List Entry} (reads : options.Reads entries) :
    ofOptions options = ofEntries options 0 [] entries := by
  simp only [ofOptions, reads.valid, reads.parsed]

theorem readsSlots {options : Options} {entries : List Entry} (reads : options.Reads entries) :
    (length entries ≤ maxTicks ∧ ∃ slots, ofOptions options = .ok slots ∧ Placed entries slots) ∨
      maxTicks < length entries ∧ ofOptions options = .error .tooLong := by
  rw [readsEntries reads]
  cases laid : ofEntries options 0 [] entries with
  | ok slots =>
    have positive := fun entry member => (Options.readsRange reads entry member).1
    have placed := laidPlaced positive (entriesLaid laid)
    obtain ⟨stop, bound, span⟩ := laidSpan (entriesLaid laid) (Nat.zero_le _)
    have total : (totalTicks slots).toNat = stop := spanTotal span bound rfl
    exact .inl ⟨placed.total ▸ total ▸ bound, slots, rfl, placed⟩
  | error cause =>
    cases entriesRefused laid
    refine .inr ⟨Nat.lt_of_not_le fun room => ?_, rfl⟩
    have inside : 0 + length entries ≤ maxTicks := by rwa [Nat.zero_add]
    obtain ⟨slots, ok⟩ := @roomLaid options 0 [] entries inside
    rw [laid] at ok
    contradiction

inductive Answer (options : Options) : Except GenerateError (List Slot) → Prop where
  | unusable {cause} (problem : options.problem? = some cause) :
      Answer options (.error (.invalidOptions cause))
  | unread {cause} (valid : options.problem? = none)
      (refused : Progression.parse options.progression options.chordDuration options.meter =
        .error cause) : Answer options (.error (.parse cause))
  | long {entries} (reads : options.Reads entries) (beyond : maxTicks < length entries) :
      Answer options (.error .tooLong)
  | placed {entries slots} (reads : options.Reads entries) (room : length entries ≤ maxTicks)
      (placed : Placed entries slots) : Answer options (.ok slots)

theorem optionsAnswer (options : Options) : Answer options (ofOptions options) := by
  cases valid : options.problem? with
  | some cause =>
    simp only [ofOptions, valid]
    exact .unusable valid
  | none =>
    cases parsed : Progression.parse options.progression options.chordDuration options.meter with
    | error cause =>
      simp only [ofOptions, valid, parsed]
      exact .unread valid parsed
    | ok entries =>
      have reads : options.Reads entries := ⟨valid, parsed⟩
      rcases readsSlots reads with ⟨room, slots, ok, placed⟩ | ⟨beyond, long⟩
      · rw [ok]
        exact .placed reads room placed
      · rw [long]
        exact .long reads beyond

theorem unusableIff {options : Options} {cause : OptionsError} :
    ofOptions options = .error (.invalidOptions cause) ↔ options.problem? = some cause := by
  constructor
  · intro refused
    have answer := optionsAnswer options
    rw [refused] at answer
    cases answer with
    | unusable problem => exact problem
  · intro problem
    simp only [ofOptions, problem]

theorem unreadIff {options : Options} {cause : ParseError} :
    ofOptions options = .error (.parse cause) ↔
      options.problem? = none ∧
        Progression.parse options.progression options.chordDuration options.meter =
          .error cause := by
  constructor
  · intro refused
    have answer := optionsAnswer options
    rw [refused] at answer
    cases answer with
    | unread valid refused => exact ⟨valid, refused⟩
  · rintro ⟨valid, refused⟩
    simp only [ofOptions, valid, refused]

theorem longIff {options : Options} :
    ofOptions options = .error .tooLong ↔
      ∃ entries, options.Reads entries ∧ maxTicks < length entries := by
  constructor
  · intro refused
    have answer := optionsAnswer options
    rw [refused] at answer
    cases answer with
    | long reads beyond => exact ⟨_, reads, beyond⟩
  · rintro ⟨entries, reads, beyond⟩
    rcases readsSlots reads with ⟨room, -⟩ | ⟨-, long⟩
    · omega
    · exact long

theorem placedIff {options : Options} :
    (∃ slots, ofOptions options = .ok slots) ↔
      ∃ entries, options.Reads entries ∧ length entries ≤ maxTicks := by
  constructor
  · rintro ⟨slots, ok⟩
    have answer := optionsAnswer options
    rw [ok] at answer
    cases answer with
    | placed reads room placed => exact ⟨_, reads, room⟩
  · rintro ⟨entries, reads, room⟩
    rcases readsSlots reads with ⟨-, slots, ok, -⟩ | ⟨beyond, -⟩
    · exact ⟨slots, ok⟩
    · omega

/-- What becomes of options, and where the slots lie if there are any. A problem of the options
comes before one of the text, and that before a length beyond the last tick. -/
theorem timelineExact (options : Options) :
    (∀ cause, ofOptions options = .error (.invalidOptions cause) ↔
        options.problem? = some cause) ∧
      (∀ cause, ofOptions options = .error (.parse cause) ↔
        options.problem? = none ∧
          Progression.parse options.progression options.chordDuration options.meter =
            .error cause) ∧
      (ofOptions options = .error .tooLong ↔
        ∃ entries, options.Reads entries ∧ maxTicks < length entries) ∧
      ((∃ slots, ofOptions options = .ok slots) ↔
        ∃ entries, options.Reads entries ∧ length entries ≤ maxTicks) ∧
      ∀ entries, options.Reads entries → Progression.KeepsWords entries ∧
        ∀ slots, ofOptions options = .ok slots → Placed entries slots := by
  refine ⟨fun cause => unusableIff, fun cause => unreadIff, longIff, placedIff,
    fun entries reads => ⟨Options.readsWords reads, fun slots ok => ?_⟩⟩
  rcases readsSlots reads with ⟨-, others, same, placed⟩ | ⟨-, long⟩
  · cases ok.symm.trans same
    exact placed
  · cases ok.symm.trans long

def measured : Options := { progression := "C:0.5 G:h Am:T128 F" }

def measuredEntries : List Entry :=
  [⟨"C", .chord ⟨some 0, "", none⟩, 256⟩, ⟨"G", .chord ⟨some 7, "", none⟩, 256⟩,
    ⟨"Am", .chord ⟨some 9, "m", none⟩, 128⟩, ⟨"F", .chord ⟨some 5, "", none⟩, 512⟩]

theorem measuredReads : measured.Reads measuredEntries :=
  ⟨by decide, okOfSome (by decide +kernel)⟩

theorem measuredPlaced :
    ∃ slots slot, ofOptions measured = .ok slots ∧ slots[3]? = some slot ∧
      slot.start.toNat = 640 ∧ (totalTicks slots).toNat = 1152 := by
  obtain ⟨-, -, -, room, placed⟩ := timelineExact measured
  obtain ⟨slots, ok⟩ := room.mpr ⟨measuredEntries, measuredReads, by decide⟩
  have timeline := (placed measuredEntries measuredReads).2 slots ok
  obtain ⟨slot, there, -, -, start⟩ := timeline.place 3 _ rfl
  exact ⟨slots, slot, ok, there, start, timeline.total⟩

end Slot

end ChordChart
