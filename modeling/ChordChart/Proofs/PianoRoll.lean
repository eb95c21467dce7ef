import ChordChart.Proofs.Midi.Events
import ChordChart.Proofs.Midi.RoundTrip
import ChordChart.Proofs.Options
import ChordChart.Proofs.Slot.Laid
import ChordChart.Proofs.Voicing.Content

/-! The file of a song beside its slots. At every tick the keys that are down in the file are those
that the output selects from the slot of the tick, counted with repetition, and no key goes up more
often than down. -/
namespace ChordChart

def Output.selection (output : Output) (voicing : List Key) (bass : Key) : List Key :=
  match output with
  | .chordsOnly => voicing
  | .chordsAndBass => bass :: voicing
  | .bassOnly => [bass]
  | .bassAndFifth => [bass, fifthAbove bass]

theorem voicedRange (chord : Chord) (strategy : Strategy) (octave : UInt8) (previous : List Key) :
    let voicing := Voicing.ofChord chord strategy octave previous
    voicing.bass.toNat ≤ 127 ∧ ∀ key ∈ voicing.notes, key.toNat ≤ 127 := by
  refine ⟨foldRange _, fun key member => ?_⟩
  exact UInt8.le_iff_toNat_le.mp (Voicing.notesRange chord strategy octave previous key member)

namespace Slot

def Voiced (slot : Slot) : Prop :=
  slot.isAudible → ∃ bass, slot.bass = some bass ∧ bass.toNat ≤ 127 ∧
    ∀ key ∈ slot.voicing, key.toNat ≤ 127

theorem laidVoiced {options : Options} {tick : Nat} {previous : List Key} {entries : List Entry}
    {slots : List Slot} (laid : Laid options tick previous entries slots) :
    ∀ slot ∈ slots, slot.Voiced := by
  induction laid with
  | nil => simp
  | rest kind room next ih | unknown kind refused room next ih =>
    refine List.forall_mem_cons.mpr ⟨fun audible => ?_, ih⟩
    contradiction
  | sounding kind resolved voiced room next ih =>
    refine List.forall_mem_cons.mpr ⟨fun _ => ?_, ih⟩
    subst voiced
    exact ⟨_, rfl, voicedRange _ _ _ _⟩

def Sounds (output : Output) (slot : Slot) (keys : List Key) : Prop :=
  (slot.isAudible ∧ ∃ bass, slot.bass = some bass ∧ keys = output.selection slot.voicing bass) ∨
    (¬ slot.isAudible ∧ keys = [])

open Midi.NoteEvent (held)

theorem heldAppend (key : Key) (tick : Nat) (a b : List Note) :
    held key tick (a ++ b) = held key tick a + held key tick b := List.countP_append

theorem keyKept {key : Key} (range : key.toNat ≤ 127) : min key 127 = key := by
  rw [Std.min_eq_if, if_pos (UInt8.le_iff_toNat_le.mpr range)]

theorem heldOutside (output : Output) (velocity : UInt8) {slot : Slot} (key : Key) {tick : Nat}
    (outside : ¬ slot.covers tick) : held key tick (slot.notes output velocity) = 0 := by
  rw [held, List.countP_eq_zero]
  intro note member
  obtain ⟨struck, -, rfl⟩ := List.mem_map.mp member
  rw [decide_eq_true_iff]
  exact fun holds => outside (coversIff.mpr holds.2)

theorem heldInside (output : Output) (velocity : UInt8) {slot : Slot} (key : Key) {tick : Nat}
    (inside : slot.covers tick) (range : ∀ key ∈ slot.keys output, key.toNat ≤ 127) :
    held key tick (slot.notes output velocity) = (slot.keys output).count key := by
  rw [held, notes, List.countP_map, List.count]
  refine List.countP_congr fun struck member => ?_
  rw [coversIff] at inside
  simp [keyKept (range struck member), inside]

theorem collectCons (output : Output) (velocity : UInt8) (slot : Slot) (slots : List Slot) :
    collectNotes output velocity (slot :: slots) =
      (if slot.isAudible then slot.notes output velocity else []) ++
        collectNotes output velocity slots := by
  unfold collectNotes
  split
  · rename_i audible
    rw [List.filter_cons_of_pos audible, List.flatMap_cons]
  · rename_i silent
    rw [List.filter_cons_of_neg silent, List.nil_append]

theorem heldCovering (output : Output) (velocity : UInt8) (key : Key) (tick : Nat)
    (slots : List Slot) :
    held key tick (collectNotes output velocity slots) =
      held key tick (collectNotes output velocity (slots.filter (covers tick))) := by
  induction slots with
  | nil => rfl
  | cons slot slots ih =>
    by_cases inside : slot.covers tick
    · rw [List.filter_cons_of_pos inside, collectCons, collectCons, heldAppend, heldAppend, ih]
    · rw [List.filter_cons_of_neg inside, collectCons, heldAppend, ← ih]
      split
      · rw [heldOutside output velocity key inside, Nat.zero_add]
      · exact Nat.zero_add _

theorem keysSelected {output : Output} {slot : Slot} {bass : Key} (found : slot.bass = some bass) :
    slot.keys output = output.selection slot.voicing bass := by
  cases output <;> simp [keys, Output.selection, found]

theorem selectedRange {output : Output} {voicing : List Key} {bass : Key}
    (low : bass.toNat ≤ 127) (range : ∀ key ∈ voicing, key.toNat ≤ 127) :
    ∀ key ∈ output.selection voicing bass, key.toNat ≤ 127 := by
  cases output with
  | chordsOnly => exact range
  | chordsAndBass => exact List.forall_mem_cons.mpr ⟨low, range⟩
  | bassOnly => simpa [Output.selection] using low
  | bassAndFifth => simpa [Output.selection] using ⟨low, fifthRange bass⟩

theorem slotSounds {slot : Slot} (voiced : slot.Voiced) {tick : Nat} (inside : slot.covers tick)
    (output : Output) (velocity : UInt8) :
    ∃ keys, slot.Sounds output keys ∧
      ∀ key, held key tick (collectNotes output velocity [slot]) = keys.count key := by
  by_cases audible : slot.isAudible
  · obtain ⟨bass, found, low, range⟩ := voiced audible
    refine ⟨output.selection slot.voicing bass, .inl ⟨audible, bass, found, rfl⟩, fun key => ?_⟩
    have selected : slot.keys output = output.selection slot.voicing bass := keysSelected found
    have whole := heldInside output velocity key inside (selected ▸ selectedRange low range)
    rw [collectCons, if_pos audible, ← selected, ← whole]
    exact heldAppend key tick _ []
  · refine ⟨[], .inr ⟨audible, rfl⟩, fun key => ?_⟩
    rw [collectCons, if_neg audible]
    rfl

end Slot

namespace Song

open Midi Midi.NoteEvent

theorem generateParts {options : Options} {song : Song} (ok : generate options = .ok song) :
    Slot.ofOptions options = .ok song.slots ∧
      encode song.notes (settings options song.fileName) = .ok song.bytes ∧
      song.notes = Slot.collectNotes options.output options.velocity song.slots := by
  obtain ⟨slots, laid, rest⟩ := bindOk ok
  unfold ofSlots at rest
  dsimp only at rest
  split at rest
  · contradiction
  · rename_i bytes encoded
    cases rest
    exact ⟨laid, encoded, rfl⟩

theorem channelKept {options : Options} (valid : options.problem? = none) (fileName : String) :
    (settings options fileName).channelNibble = options.channel := by
  have inside := (Options.usableIff.mp valid).channel
  rw [Settings.channelNibble, settings, Std.min_eq_if, if_pos inside]

theorem pianoRoll {options : Options} {song : Song} (ok : generate options = .ok song) :
    ∃ track, Document.read? song.bytes = some ⟨0, 128, [track]⟩ ∧
      (∀ other < 16, other ≠ options.channel → track.noteEvents other = []) ∧
      (∀ tick < (Slot.totalTicks song.slots).toNat, ∃ slot keys,
        song.slots.filter (Slot.covers tick) = [slot] ∧ slot.Sounds options.output keys ∧
          ∀ key, strikes key (upTo tick (track.noteEvents options.channel)) =
            releases key (upTo tick (track.noteEvents options.channel)) + keys.count key) ∧
      (∀ tick ≥ (Slot.totalTicks song.slots).toNat,
        song.slots.filter (Slot.covers tick) = [] ∧
          ∀ key, strikes key (upTo tick (track.noteEvents options.channel)) =
            releases key (upTo tick (track.noteEvents options.channel))) ∧
      ∀ key before after, track.noteEvents options.channel = before ++ after →
        releases key before ≤ strikes key before := by
  obtain ⟨slotted, encoded, collected⟩ := generateParts ok
  obtain ⟨valid, entries, -, laid⟩ := Slot.optionsLaid slotted
  obtain ⟨stop, bound, span⟩ := Slot.laidSpan laid (by decide)
  have total : (Slot.totalTicks song.slots).toNat = stop := Slot.spanTotal span bound rfl
  have channel := channelKept valid song.fileName
  have heard := trackEvents (settings options song.fileName) song.notes
  rw [channel] at heard
  refine ⟨_, Document.encodedRead encoded, ?_, ?_, ?_, ?_⟩
  · intro other inside apart
    exact trackEventsOther inside (channel.symm ▸ apart) song.notes
  · intro tick inside
    obtain ⟨slot, covering⟩ := Slot.spanCovers span (Nat.zero_le tick) (total ▸ inside)
    have member : slot ∈ song.slots.filter (Slot.covers tick) := by simp [covering]
    obtain ⟨among, covered⟩ := List.mem_filter.mp member
    obtain ⟨keys, sounds, count⟩ := Slot.slotSounds (Slot.laidVoiced laid slot among) covered
      options.output options.velocity
    refine ⟨slot, keys, covering, sounds, fun key => ?_⟩
    rw [heard, strikesReleases, collected, Slot.heldCovering, covering, count]
  · intro tick late
    have covering := Slot.spanBehind span (total ▸ late)
    refine ⟨covering, fun key => ?_⟩
    rw [heard, strikesReleases, collected, Slot.heldCovering, covering]
    rfl
  · intro key before after split
    exact releasesStrikes key song.notes (heard ▸ split)

def pause : Options := { progression := "C R:1 C", output := .bassOnly }

def pauseSlots : List Slot :=
  [⟨"C", true, false, 0, 512, [0, 4, 7], [48, 52, 55], some 36, none⟩,
    ⟨"R", true, true, 512, 512, [], [], none, none⟩,
    ⟨"C", true, false, 1024, 512, [0, 4, 7], [48, 52, 55], some 36, none⟩]

def pauseBytes : Bytes :=
  [77, 84, 104, 100, 0, 0, 0, 6, 0, 0, 0, 1, 0, 128, 77, 84, 114, 107, 0, 0, 0, 50,
    0, 255, 3, 8, 67, 45, 67, 95, 98, 97, 115, 115, 0, 255, 81, 3, 7, 161, 32,
    0, 255, 88, 4, 4, 2, 24, 8, 0, 144, 36, 100, 132, 0, 128, 36, 0,
    132, 0, 144, 36, 100, 132, 0, 128, 36, 0, 0, 255, 47, 0]

def pauseSong : Song :=
  ⟨pauseBytes, "C-C_bass.mid", [⟨36, 0, 512, 100⟩, ⟨36, 1024, 512, 100⟩], pauseSlots⟩

theorem pauseGenerated : generate pause = .ok pauseSong := by
  have parsed : Progression.parse pause.progression pause.chordDuration pause.meter = .ok
      [⟨"C", .chord ⟨some 0, "", none⟩, 512⟩, ⟨"R", .rest, 512⟩,
        ⟨"C", .chord ⟨some 0, "", none⟩, 512⟩] := okOfSome (by decide +kernel)
  have entries : Slot.ofEntries pause 0 []
      [⟨"C", .chord ⟨some 0, "", none⟩, 512⟩, ⟨"R", .rest, 512⟩,
        ⟨"C", .chord ⟨some 0, "", none⟩, 512⟩] = .ok pauseSlots := by
    cbv
  have slotted : Slot.ofOptions pause = .ok pauseSlots :=
    Slot.laidOptions (by decide) parsed (Slot.entriesLaid entries)
  have written : ofSlots pause pauseSlots = .ok pauseSong := by cbv
  rw [generate, slotted]
  exact written

theorem pauseDown :
    ∃ track, Document.read? pauseSong.bytes = some ⟨0, 128, [track]⟩ ∧
      strikes 36 (upTo 1024 (track.noteEvents 0)) =
        releases 36 (upTo 1024 (track.noteEvents 0)) + 1 := by
  obtain ⟨track, read, -, inside, -, -⟩ := pianoRoll pauseGenerated
  obtain ⟨slot, keys, covering, sounds, count⟩ := inside 1024 (by decide)
  refine ⟨track, read, ?_⟩
  have third : pauseSong.slots.filter (Slot.covers 1024) =
      [⟨"C", true, false, 1024, 512, [0, 4, 7], [48, 52, 55], some 36, none⟩] := by decide +kernel
  rw [third] at covering
  cases covering
  rcases sounds with ⟨-, bass, same, rfl⟩ | ⟨silent, -⟩
  · cases same
    exact count 36
  · exact absurd rfl silent

end Song

end ChordChart
