import ChordChart.Midi.File
/-! What a MIDI file says: its tracks as messages at ticks. Files of any format and division are
read, with or without running status; a file with anything behind its last track is not. -/
namespace ChordChart.Midi

inductive Message where
  | notice (type : UInt8) (content : Bytes)
  | exclusive (start : UInt8) (content : Bytes)
  | voice (status : UInt8) (data : Bytes)
  deriving DecidableEq, Repr

abbrev Track := List (Nat × Message)

structure Document where
  format : Nat
  division : Nat
  tracks : List Track
  deriving DecidableEq, Repr

namespace Document

def dataCount (status : UInt8) : Nat := if 0xC0 ≤ status ∧ status < 0xE0 then 1 else 2

def readVoice? (status : UInt8) (bytes : Bytes) : Option (Message × Bytes) := do
  let (data, rest) ← take? (dataCount status) bytes
  if data.all (· < 0x80) then some (.voice status data, rest) else none

def readContent? (bytes : Bytes) : Option (Bytes × Bytes) := do
  let (length, rest) ← readQuantity? 4 0 bytes
  take? length rest

def readMessage? (running : Option UInt8) : Bytes → Option (Message × Option UInt8 × Bytes)
  | [] => none
  | 0xFF :: bytes => do
    let (type, rest) ← take? 1 bytes
    let (content, rest) ← readContent? rest
    some (.notice (type.headD 0) content, none, rest)
  | first :: bytes =>
    if first = 0xF0 ∨ first = 0xF7 then do
      let (content, rest) ← readContent? bytes
      some (.exclusive first content, none, rest)
    else if 0xF0 ≤ first then none
    else if 0x80 ≤ first then do
      let (message, rest) ← readVoice? first bytes
      some (message, some first, rest)
    else do
      let status ← running
      let (message, rest) ← readVoice? status (first :: bytes)
      some (message, some status, rest)

/-- The messages of a track's content, as many as `room` at most. Each has the time since the one
before it in front. -/
def readMessages? : (room now : Nat) → Option UInt8 → Bytes → Option Track
  | _, _, _, [] => some []
  | 0, _, _, _ :: _ => none
  | room + 1, now, running, bytes => do
    let (delta, rest) ← readQuantity? 4 0 bytes
    let (message, running, rest) ← readMessage? running rest
    return (now + delta, message) :: (← readMessages? room (now + delta) running rest)

def readChunk? (type : String) (bytes : Bytes) : Option (Bytes × Bytes) := do
  let (start, rest) ← take? 4 bytes
  if start = type.toUTF8.data.toList then do
    let (length, rest) ← take? 4 rest
    take? (ofBigEndian length) rest
  else none

def readTracks? : Nat → Bytes → Option (List Track × Bytes)
  | 0, bytes => some ([], bytes)
  | count + 1, bytes => do
    let (content, rest) ← readChunk? "MTrk" bytes
    let track ← readMessages? content.length 0 none content
    let (tracks, rest) ← readTracks? count rest
    some (track :: tracks, rest)

def read? (bytes : Bytes) : Option Document := do
  let (header, rest) ← readChunk? "MThd" bytes
  let (format, header) ← take? 2 header
  let (count, header) ← take? 2 header
  let (division, _) ← take? 2 header
  let (tracks, rest) ← readTracks? (ofBigEndian count) rest
  if rest.isEmpty then some ⟨ofBigEndian format, ofBigEndian division, tracks⟩ else none

end Document

def Message.noteEvent? (channel : UInt8) (tick : Nat) : Message → Option NoteEvent
  | .voice status [key, velocity] =>
    if status = 0x80 + channel ∨ status = 0x90 + channel ∧ velocity = 0 then
      some ⟨tick, .off, key, velocity⟩
    else if status = 0x90 + channel then some ⟨tick, .on, key, velocity⟩
    else none
  | _ => none

def Track.noteEvents (channel : UInt8) (track : Track) : List NoteEvent :=
  track.filterMap fun entry => entry.2.noteEvent? channel entry.1

end ChordChart.Midi
