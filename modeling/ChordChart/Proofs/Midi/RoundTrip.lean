import ChordChart.Proofs.Midi.Events
import ChordChart.Proofs.Midi.Messages
import Mathlib

/-! A file read back: the header, then one track with its settings, its note events and its end.
What the writer took fits the fields of a file, so that the reader never loses its place. -/
namespace ChordChart.Midi

def Settings.Nameable (settings : Settings) : Prop :=
  ∀ name, settings.trackName = some name → name.toUTF8.data.toList.length < 0x10000000

def elapsed : Nat → List NoteEvent → List (Nat × NoteEvent)
  | _, [] => []
  | now, event :: events => (event.tick - now, event) :: elapsed event.tick events

structure Settings.Fits (settings : Settings) (notes : List Note) : Prop where
  name : settings.Nameable
  track : (trackContent settings (elapsed 0 (NoteEvent.ofNotes notes))).length < 0x100000000

theorem nameableIff {settings : Settings} : settings.Nameable ↔ settings.nameSize < 0x10000000 := by
  unfold Settings.Nameable Settings.nameSize
  cases settings.trackName with
  | none => simp
  | some given => simp

theorem channelRange (settings : Settings) : settings.channelNibble < 16 := by
  have high : settings.channelNibble ≤ 15 := Std.min_le_right
  exact Nat.lt_succ_of_le (UInt8.le_iff_toNat_le.mp high)

def Settings.messages (settings : Settings) : Track :=
  (settings.trackName.map fun name => (0, .notice 0x03 name.toUTF8.data.toList)).toList ++
    [(0, .notice 0x51 (bigEndian 3 settings.quarterMicros)),
      (0, .notice 0x58 [settings.meter.numerator, settings.meter.denominatorPower, 24, 8])]

def Track.ofNotes (settings : Settings) (notes : List Note) : Track :=
  let events := NoteEvent.ofNotes notes
  settings.messages ++
    events.map (fun event => (event.tick, Document.noteMessage settings.channelNibble event)) ++
    [(Document.lastTick 0 events, .notice 0x2F [])]

namespace Document

theorem noticeStep (room now : Nat) (running : Option UInt8) (type : UInt8) (content rest : Bytes)
    (bound : content.length < 0x10000000) :
    readMessages? (room + 1) now running (metaEvent type content ++ rest) =
      (readMessages? room now none rest).map ((now, .notice type content) :: ·) := by
  have time := quantityRead 0 (0xFF :: type :: (quantity content.length ++ content ++ rest))
    (by decide)
  have zero : quantity 0 = [0] := by
    rw [quantity, leading]
    rfl
  rw [zero] at time
  have step := messagesStep room now time (noticeRead running type content rest bound)
  simp only [metaEvent, List.append_assoc, List.cons_append, List.nil_append] at step ⊢
  exact step

theorem endRead (room now : Nat) (running : Option UInt8) :
    readMessages? (room + 1) now running endOfTrack = some [(now, .notice 0x2F [])] := by
  have step := noticeStep room now running 0x2F [] [] (by decide)
  rw [List.append_nil] at step
  rw [endOfTrack, step]
  cases room <;> rfl

theorem headRead {settings : Settings} (named : settings.Nameable) (room : Nat) (rest : Bytes) :
    readMessages? (room + settings.messages.length) 0 none (headEvents settings ++ rest) =
      (readMessages? room 0 none rest).map (settings.messages ++ ·) := by
  have meter := noticeStep room 0 none 0x58
    [settings.meter.numerator, settings.meter.denominatorPower, 24, 8] rest (by simp)
  have tempo := noticeStep (room + 1) 0 none 0x51 (bigEndian 3 settings.quarterMicros)
    (meterEvent settings.meter ++ rest) (by simp [bigEndianLength])
  rw [meterEvent, meter] at tempo
  cases given : settings.trackName with
  | none =>
    simp only [headEvents, Settings.messages, given, tempoEvent, meterEvent, Option.map_none,
      Option.getD_none, Option.toList_none, List.nil_append, List.append_assoc]
    refine tempo.trans ?_
    simp [Option.map_map, Function.comp_def]
  | some name =>
    have first := noticeStep (room + 2) 0 none 0x03 _ (tempoEvent settings.quarterMicros ++
      (meterEvent settings.meter ++ rest)) (named name given)
    simp only [headEvents, Settings.messages, given, trackNameEvent, tempoEvent, meterEvent,
      Option.map_some, Option.getD_some, Option.toList_some, List.append_assoc] at first ⊢
    refine first.trans ?_
    rw [tempo]
    simp [Option.map_map, Function.comp_def]

theorem trackRead {settings : Settings} {notes : List Note} {timed : List (Nat × NoteEvent)}
    (ok : withDeltas 0 (NoteEvent.ofNotes notes) = .ok timed) (named : settings.Nameable)
    {room : Nat}
    (enough : settings.messages.length + (NoteEvent.ofNotes notes).length + 1 ≤ room) :
    readMessages? room 0 none
        (headEvents settings ++ noteBytes settings.channelNibble none timed ++ endOfTrack) =
      some (Track.ofNotes settings notes) := by
  obtain ⟨spare, rfl⟩ := Nat.exists_eq_add_of_le' enough
  obtain ⟨after, body⟩ := notesRead (channelRange settings) ok (NoteEvent.eventsAscending notes)
    (fun event member =>
      ⟨(NoteEvent.eventsPlayable member).1, (NoteEvent.eventsPlayable member).2.1⟩)
    none (spare + 1) endOfTrack
  have room : spare + (settings.messages.length + (NoteEvent.ofNotes notes).length + 1) =
      spare + 1 + (NoteEvent.ofNotes notes).length + settings.messages.length := by omega
  rw [room, List.append_assoc, headRead named, body, endRead]
  simp [Track.ofNotes]

theorem chunkRead (type : String) (size : type.toUTF8.data.toList.length = 4) {content : Bytes}
    (bound : content.length < 0x100000000) (rest : Bytes) :
    readChunk? type
        (type.toUTF8.data.toList ++ bigEndian 4 content.length ++ content ++ rest) =
      some (content, rest) := by
  have length := bigEndianBounded 4 bound
  unfold readChunk?
  generalize type.toUTF8.data.toList = start at size ⊢
  simp [takeAppend size, takeAppend (bigEndianLength 4 content.length), length, takeAppend rfl]

theorem notesLength (channel : UInt8) (running : Option UInt8) (timed : List (Nat × NoteEvent)) :
    timed.length ≤ (noteBytes channel running timed).length := by
  induction timed generalizing running with
  | nil => exact Nat.le_refl 0
  | cons entry timed ih =>
    have rest := ih (some (statusByte channel entry.2.kind))
    simp only [noteBytes, List.length_append, List.length_cons]
    omega

theorem deltasLength {now : Nat} {events : List NoteEvent} {timed : List (Nat × NoteEvent)}
    (ok : withDeltas now events = .ok timed) : timed.length = events.length := by
  induction events generalizing now timed with
  | nil =>
    cases ok
    rfl
  | cons event events ih =>
    obtain ⟨-, others, later, rfl⟩ := deltasCons ok
    simp [ih later]

theorem headLength (settings : Settings) :
    settings.messages.length ≤ (headEvents settings).length := by
  cases given : settings.trackName <;>
    simp only [headEvents, Settings.messages, given, trackNameEvent, tempoEvent, meterEvent,
      metaEvent, Option.map_none, Option.map_some, Option.getD_none, Option.getD_some,
      Option.toList_none, Option.toList_some, List.length_append, List.length_cons,
      List.length_nil] <;> omega

def headerContent : Bytes := [0, 0, 0, 1, 0, 128]

theorem headerBytes :
    headerChunk =
      "MThd".toUTF8.data.toList ++ bigEndian 4 headerContent.length ++ headerContent := by
  decide +kernel

theorem deltasElapsed {now : Nat} {events : List NoteEvent} {timed : List (Nat × NoteEvent)}
    (ok : withDeltas now events = .ok timed) : timed = elapsed now events := by
  induction events generalizing now timed with
  | nil =>
    cases ok
    rfl
  | cons event events ih =>
    obtain ⟨-, others, later, rfl⟩ := deltasCons ok
    rw [ih later, elapsed]

theorem encodeDeltas {notes : List Note} {settings : Settings} {timed : List (Nat × NoteEvent)}
    (deltas : withDeltas 0 (NoteEvent.ofNotes notes) = .ok timed) :
    encode notes settings = write settings (elapsed 0 (NoteEvent.ofNotes notes)) := by
  rw [encode, deltas, deltasElapsed deltas]
  rfl

section

variable {notes : List Note} {settings : Settings} {timed : List (Nat × NoteEvent)}
  (deltas : withDeltas 0 (NoteEvent.ofNotes notes) = .ok timed)

include deltas

theorem encodeTaken (fits : settings.Fits notes) :
    encode notes settings = .ok (headerChunk ++
      trackChunk (trackContent settings (elapsed 0 (NoteEvent.ofNotes notes)))) := by
  rw [encodeDeltas deltas, write, if_neg (Nat.not_le.mpr (nameableIff.mp fits.name))]
  exact if_neg (Nat.not_le.mpr fits.track)

theorem encodeNameless (long : ¬ settings.Nameable) :
    encode notes settings = .error (.write .longText) := by
  rw [nameableIff, Nat.not_lt] at long
  rw [encodeDeltas deltas, write, if_pos long]

theorem encodeTrackless (named : settings.Nameable) (long : ¬ settings.Fits notes) :
    encode notes settings = .error (.write .longTrack) := by
  rw [encodeDeltas deltas, write, if_neg (Nat.not_le.mpr (nameableIff.mp named))]
  exact if_pos (Nat.not_lt.mp fun short => long ⟨named, short⟩)

end

theorem encodeParts {notes : List Note} {settings : Settings} {bytes : Bytes}
    (ok : encode notes settings = .ok bytes) :
    withDeltas 0 (NoteEvent.ofNotes notes) = .ok (elapsed 0 (NoteEvent.ofNotes notes)) ∧
      settings.Fits notes ∧
      bytes = headerChunk ++
        trackChunk (trackContent settings (elapsed 0 (NoteEvent.ofNotes notes))) := by
  obtain ⟨timed, deltas, -⟩ := bindOk ok
  cases deltasElapsed deltas
  by_cases named : settings.Nameable
  · by_cases fits : settings.Fits notes
    · exact ⟨deltas, fits, Except.ok.inj (ok.symm.trans (encodeTaken deltas fits))⟩
    · cases ok.symm.trans (encodeTrackless deltas named fits)
  · cases ok.symm.trans (encodeNameless deltas named)

theorem headerLength : headerChunk.length = 14 := by decide +kernel

theorem trackStart : "MTrk".toUTF8.data.toList.length = 4 := by decide +kernel

theorem trackChunkLength (content : Bytes) :
    (headerChunk ++ trackChunk content).length = 22 + content.length := by
  rw [List.length_append, headerLength, trackChunk, List.length_append, List.length_append,
    trackStart, bigEndianLength]
  omega

theorem documentRead {content : Bytes} {track : Track} (bound : content.length < 0x100000000)
    (read : readMessages? content.length 0 none content = some track) :
    read? (headerChunk ++ trackChunk content) = some ⟨0, ticksPerQuarter, [track]⟩ := by
  have header : readChunk? "MThd" (headerChunk ++ trackChunk content) =
      some (headerContent, trackChunk content) := by
    rw [headerBytes]
    exact chunkRead "MThd" (by decide +kernel) (by decide) (trackChunk content)
  have body : readChunk? "MTrk" (trackChunk content) = some (content, []) := by
    have chunk := chunkRead "MTrk" trackStart bound []
    rwa [List.append_nil] at chunk
  have tracks : readTracks? 1 (trackChunk content) = some ([track], []) := by
    simp [readTracks?, body, read]
  have format : take? 2 headerContent = some ([0, 0], [0, 1, 0, 128]) := rfl
  have count : take? 2 [0, 1, 0, 128] = some ([0, 1], [0, 128]) := rfl
  have division : take? 2 [0, 128] = some ([0, 128], []) := rfl
  have one : ofBigEndian [0, 1] = 1 := rfl
  simp only [read?, bind, Option.bind, header, format, count, division, one, tracks]
  rfl

theorem encodedRead {notes : List Note} {settings : Settings} {bytes : Bytes}
    (ok : encode notes settings = .ok bytes) :
    read? bytes = some ⟨0, ticksPerQuarter, [Track.ofNotes settings notes]⟩ := by
  obtain ⟨deltas, fits, rfl⟩ := encodeParts ok
  refine documentRead fits.track (trackRead deltas fits.name ?_)
  have head := headLength settings
  have events := notesLength settings.channelNibble none (elapsed 0 (NoteEvent.ofNotes notes))
  have stop : 1 ≤ endOfTrack.length := by simp [endOfTrack, metaEvent]
  rw [deltasLength deltas] at events
  simp only [trackContent, List.length_append]
  omega

end Document

theorem noteEventRead (channel : UInt8) (event : NoteEvent)
    (struck : event.kind = .on → event.velocity ≠ 0) :
    (Document.noteMessage channel event).noteEvent? channel event.tick = some event := by
  obtain ⟨tick, kind, key, velocity⟩ := event
  cases kind with
  | off => simp [Document.noteMessage, statusByte, Message.noteEvent?]
  | on =>
    have loud : velocity ≠ 0 := struck rfl
    simp [Document.noteMessage, statusByte, Message.noteEvent?, loud]

theorem statusApart {channel other : UInt8} (bound : channel < 16) (inside : other < 16)
    (apart : other ≠ channel) (kind : EventKind) :
    statusByte channel kind ≠ 0x80 + other ∧ statusByte channel kind ≠ 0x90 + other := by
  rw [UInt8.lt_iff_toNat_lt] at bound inside
  rw [ne_eq, ← UInt8.toNat_inj] at apart
  simp only [UInt8.reduceToNat] at bound inside
  cases kind <;>
    simp only [statusByte, ne_eq, ← UInt8.toNat_inj, UInt8.toNat_add, UInt8.reduceToNat] <;>
    omega

theorem noteEventOther {channel other : UInt8} (bound : channel < 16) (inside : other < 16)
    (apart : other ≠ channel) (event : NoteEvent) :
    (Document.noteMessage channel event).noteEvent? other event.tick = none := by
  have status := statusApart bound inside apart event.kind
  simp [Document.noteMessage, Message.noteEvent?, status]

theorem messagesSilent (channel : UInt8) (settings : Settings) :
    settings.messages.noteEvents channel = [] := by
  cases given : settings.trackName <;>
    simp [Settings.messages, given, Track.noteEvents, Message.noteEvent?]

theorem trackHeard (channel : UInt8) (settings : Settings) (notes : List Note) :
    (Track.ofNotes settings notes).noteEvents channel =
      (NoteEvent.ofNotes notes).filterMap fun event =>
        (Document.noteMessage settings.channelNibble event).noteEvent? channel event.tick := by
  have head := messagesSilent channel settings
  have stop : Track.noteEvents channel
      [(Document.lastTick 0 (NoteEvent.ofNotes notes), .notice 0x2F [])] = [] := rfl
  unfold Track.noteEvents at head stop ⊢
  rw [Track.ofNotes, List.filterMap_append, List.filterMap_append, head, stop, List.filterMap_map,
    List.nil_append, List.append_nil]
  rfl

theorem trackEvents (settings : Settings) (notes : List Note) :
    (Track.ofNotes settings notes).noteEvents settings.channelNibble = NoteEvent.ofNotes notes := by
  rw [trackHeard, List.filterMap_congr fun event member =>
    noteEventRead _ event (NoteEvent.eventsPlayable member).2.2]
  exact List.filterMap_some

theorem trackEventsOther {settings : Settings} {channel : UInt8} (inside : channel < 16)
    (apart : channel ≠ settings.channelNibble) (notes : List Note) :
    (Track.ofNotes settings notes).noteEvents channel = [] := by
  rw [trackHeard, List.filterMap_eq_nil_iff]
  intro event _
  exact noteEventOther (channelRange settings) inside apart event

theorem denominatorHalved (meter : Meter) :
    Nat.pow 2 meter.denominatorPower.toNat ∣ max meter.denominator.toNat 1 ∧
      ¬ Nat.pow 2 (meter.denominatorPower.toNat + 1) ∣ max meter.denominator.toNat 1 := by
  have all : ∀ denominator : Fin 256,
      let power := (Meter.denominatorPower ⟨1, .ofFin denominator⟩).toNat
      Nat.pow 2 power ∣ max denominator.val 1 ∧
        ¬ Nat.pow 2 (power + 1) ∣ max denominator.val 1 := by
    decide +kernel
  exact all meter.denominator.toFin

theorem deltasTimed {now : Nat} {events : List NoteEvent} {timed : List (Nat × NoteEvent)}
    (ok : withDeltas now events = .ok timed)
    (ascending : (now :: events.map NoteEvent.tick).IsChain (· ≤ ·)) :
    (now :: events.map NoteEvent.tick).IsChain fun before tick =>
      before ≤ tick ∧ tick - before < 0x10000000 := by
  induction events generalizing now timed with
  | nil => exact .singleton now
  | cons event events ih =>
    obtain ⟨short, others, later, -⟩ := Document.deltasCons ok
    obtain ⟨reached, next⟩ := List.isChain_cons_cons.mp ascending
    exact List.isChain_cons_cons.mpr ⟨⟨reached, Nat.lt_succ_of_le short⟩, ih later next⟩

/-- Numbers that their fields hold whole: four bits of a channel, 24 of a tempo, seven of a key and
of a velocity, 28 of the time between two events. -/
structure Whole (settings : Settings) (events : List NoteEvent) : Prop where
  channel : settings.channelNibble < 16
  tempo : settings.quarterMicros < 0x1000000
  data : ∀ event ∈ events, event.key < 0x80 ∧ event.velocity < 0x80
  times : (0 :: events.map NoteEvent.tick).IsChain fun before tick =>
    before ≤ tick ∧ tick - before < 0x10000000

theorem encodedWhole {notes : List Note} {settings : Settings} {bytes : Bytes}
    (ok : encode notes settings = .ok bytes) : Whole settings (NoteEvent.ofNotes notes) := by
  obtain ⟨deltas, -, -⟩ := Document.encodeParts ok
  refine ⟨channelRange settings, ?_, fun event member => ?_, ?_⟩
  · exact Nat.lt_succ_of_le (Nat.min_le_right _ _)
  · obtain ⟨key, velocity, -⟩ := NoteEvent.eventsPlayable member
    exact ⟨key, velocity⟩
  · exact deltasTimed deltas (NoteEvent.eventsAscending notes)

theorem trackLength {notes : List Note} {settings : Settings} {bytes : Bytes}
    (ok : encode notes settings = .ok bytes) :
    ofBigEndian ((bytes.drop 18).take 4) = (bytes.drop 22).length := by
  obtain ⟨-, fits, rfl⟩ := Document.encodeParts ok
  rw [List.length_drop, Document.trackChunkLength]
  have front : (headerChunk ++ "MTrk".toUTF8.data.toList).length = 18 := by
    rw [List.length_append, Document.headerLength, Document.trackStart]
  rw [trackChunk, List.append_assoc, ← List.append_assoc, List.drop_left' front,
    List.take_left' (bigEndianLength 4 _), bigEndianBounded 4 fits.track]
  omega

theorem decodeEncode {notes : List Note} {settings : Settings} {bytes : Bytes}
    (ok : encode notes settings = .ok bytes) :
    Document.read? bytes = some ⟨0, 128, [Track.ofNotes settings notes]⟩ ∧
      (Track.ofNotes settings notes).noteEvents settings.channelNibble = NoteEvent.ofNotes notes ∧
      ofBigEndian (bigEndian 3 settings.quarterMicros) =
        min (60000000 / max settings.tempo.toNat 1) 0xFFFFFF ∧
      (Nat.pow 2 settings.meter.denominatorPower.toNat ∣ max settings.meter.denominator.toNat 1 ∧
        ¬ Nat.pow 2 (settings.meter.denominatorPower.toNat + 1) ∣
          max settings.meter.denominator.toNat 1) ∧
      ofBigEndian ((bytes.drop 18).take 4) = (bytes.drop 22).length ∧
      Whole settings (NoteEvent.ofNotes notes) ∧ settings.Fits notes := by
  have whole := encodedWhole ok
  exact ⟨Document.encodedRead ok, trackEvents settings notes,
    bigEndianBounded 3 whole.tempo, denominatorHalved settings.meter,
    trackLength ok, whole, (Document.encodeParts ok).2.1⟩

def third : List Note := [⟨60, 0, 128, 100⟩, ⟨64, 0, 128, 100⟩]

def thirdBytes : Bytes :=
  [77, 84, 104, 100, 0, 0, 0, 6, 0, 0, 0, 1, 0, 128, 77, 84, 114, 107, 0, 0, 0, 39,
    0, 255, 3, 1, 65, 0, 255, 81, 3, 7, 161, 32, 0, 255, 88, 4, 4, 2, 24, 8,
    0, 144, 60, 100, 0, 64, 100, 129, 0, 128, 60, 0, 0, 64, 0, 0, 255, 47, 0]

theorem decodeEncodeThird :
    encode third { trackName := some "A" } = .ok thirdBytes ∧
      Document.read? thirdBytes =
        some ⟨0, 128, [Track.ofNotes { trackName := some "A" } third]⟩ := by
  have ok : encode third { trackName := some "A" } = .ok thirdBytes := by cbv
  exact ⟨ok, (decodeEncode ok).1⟩

end ChordChart.Midi
