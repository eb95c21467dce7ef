import ChordChart.Slot
/-! Standard MIDI files of one track, 128 ticks to the quarter note. Numbers are bytes of fixed
count, the highest first, or quantities of as many bytes as they need, seven bits to the byte and
the eighth set on all but the last. The track states its name, the tempo and the meter, then strikes
and releases keys, then ends. At one tick releases come before strikes, and lower keys before higher
ones. A status byte is written only where it differs from that of the event before. -/
namespace ChordChart.Midi

abbrev Bytes := List UInt8

def bigEndian : Nat → Nat → Bytes
  | 0, _ => []
  | count + 1, n => bigEndian count (n / 256) ++ [UInt8.ofNat n]

def leading (n : Nat) : Bytes :=
  if n = 0 then [] else leading (n / 128) ++ [UInt8.ofNat (128 + n % 128)]
termination_by n

def quantity (n : Nat) : Bytes := leading (n / 128) ++ [UInt8.ofNat (n % 128)]

def readQuantity? : (room above : Nat) → Bytes → Option (Nat × Bytes)
  | 0, _, _ => none
  | _ + 1, _, [] => none
  | room + 1, above, byte :: rest =>
    let value := 128 * above + byte.toNat % 128
    if byte < 128 then some (value, rest) else readQuantity? room value rest

def ofBigEndian (bytes : Bytes) : Nat :=
  bytes.foldl (fun value byte => 256 * value + byte.toNat) 0

def take? (count : Nat) (bytes : Bytes) : Option (Bytes × Bytes) :=
  if count ≤ bytes.length then some (bytes.splitAt count) else none

inductive EventKind where
  | off
  | on
  deriving DecidableEq, Repr

structure NoteEvent where
  tick : Nat
  kind : EventKind
  key : Key
  velocity : UInt8
  deriving DecidableEq, Repr

namespace NoteEvent

def strike (note : Note) : NoteEvent :=
  ⟨note.start.toNat, .on, min note.key 127, clampVelocity note.velocity⟩

def release (note : Note) : NoteEvent :=
  ⟨note.start.toNat + note.duration.toNat, .off, min note.key 127, 0⟩

def rank (event : NoteEvent) : Nat :=
  (2 * event.tick + if event.kind = .on then 1 else 0) * 256 + event.key.toNat

def ofNotes (notes : List Note) : List NoteEvent :=
  ((notes.filter fun note => 0 < note.duration).flatMap fun note =>
    [strike note, release note]).mergeSort fun a b => decide (a.rank ≤ b.rank)

end NoteEvent

structure Settings where
  tempo : UInt32 := 120
  meter : Meter := .common
  channel : UInt8 := 0
  trackName : Option String := none
  deriving DecidableEq, Repr

inductive WriteError where
  | longText
  | longTrack
  deriving DecidableEq, Repr

def WriteError.message : WriteError → String
  | longText => "varlen slice exceeds 28 bits"
  | longTrack => "midi chunk size exceeds 32 bit range"

inductive EncodeError where
  | tickOutOfRange (tick : Nat)
  | write (cause : WriteError)
  deriving DecidableEq, Repr

def EncodeError.message : EncodeError → String
  | tickOutOfRange tick =>
    "tick " ++ toString tick ++ " is beyond the range of a MIDI delta time"
  | write cause => "failed to write MIDI data: " ++ cause.message

namespace Settings

def quarterMicros (settings : Settings) : Nat :=
  min (60000000 / max settings.tempo.toNat 1) 0xFFFFFF

def channelNibble (settings : Settings) : UInt8 := min settings.channel 15

def nameSize (settings : Settings) : Nat := (settings.trackName.map String.utf8ByteSize).getD 0

end Settings

def metaEvent (type : UInt8) (content : Bytes) : Bytes :=
  [0, 0xFF, type] ++ quantity content.length ++ content

def trackNameEvent (name : String) : Bytes := metaEvent 0x03 name.toUTF8.data.toList

def tempoEvent (micros : Nat) : Bytes := metaEvent 0x51 (bigEndian 3 micros)

def meterEvent (meter : Meter) : Bytes :=
  metaEvent 0x58 [meter.numerator, meter.denominatorPower, 24, 8]

def endOfTrack : Bytes := metaEvent 0x2F []

def headEvents (settings : Settings) : Bytes :=
  (settings.trackName.map trackNameEvent).getD [] ++ tempoEvent settings.quarterMicros ++
    meterEvent settings.meter

def withDeltas : Nat → List NoteEvent → Except EncodeError (List (Nat × NoteEvent))
  | _, [] => .ok []
  | now, event :: events =>
    let delta := event.tick - now
    if maxTicks < delta then .error (.tickOutOfRange event.tick)
    else (withDeltas event.tick events).map ((delta, event) :: ·)

def statusByte (channel : UInt8) : EventKind → UInt8
  | .off => 0x80 + channel
  | .on => 0x90 + channel

def noteBytes (channel : UInt8) : Option UInt8 → List (Nat × NoteEvent) → Bytes
  | _, [] => []
  | running, (delta, event) :: events =>
    let status := statusByte channel event.kind
    quantity delta ++ (if running = some status then [] else [status]) ++
      [event.key, event.velocity] ++ noteBytes channel (some status) events

def headerChunk : Bytes :=
  "MThd".toUTF8.data.toList ++ bigEndian 4 6 ++ bigEndian 2 0 ++ bigEndian 2 1 ++
    bigEndian 2 ticksPerQuarter

def trackChunk (content : Bytes) : Bytes :=
  "MTrk".toUTF8.data.toList ++ bigEndian 4 content.length ++ content

def trackContent (settings : Settings) (events : List (Nat × NoteEvent)) : Bytes :=
  headEvents settings ++ noteBytes settings.channelNibble none events ++ endOfTrack

/-- The file of a track. The length of a name has 28 bits and that of a track 32. -/
def write (settings : Settings) (events : List (Nat × NoteEvent)) : Except EncodeError Bytes :=
  if 0x10000000 ≤ settings.nameSize then .error (.write .longText)
  else
    let content := trackContent settings events
    if 0x100000000 ≤ content.length then .error (.write .longTrack)
    else .ok (headerChunk ++ trackChunk content)

def encode (notes : List Note) (settings : Settings) : Except EncodeError Bytes :=
  (withDeltas 0 (NoteEvent.ofNotes notes)).bind (write settings)

end ChordChart.Midi
