import ChordChart.Chord
import ChordChart.Song
import ChordChart.Text.Shown
/-! What a terminal is shown of songs, options and the vocabulary. -/
namespace ChordChart.Report

open Text

def listing (color : Bool) (heading : String) (rows : List String) : String :=
  let text := paint color [.bold] heading ++ "\n" ++ String.join (rows.map fun row => row ++ "\n")
  String.ofList (trimEnd text.toList)

def warning (color : Bool) (slot : Slot) : String :=
  "\n  " ++ paint color [.yellow] "⚠" ++ " " ++ paint color [.yellow] slot.symbol ++ ": " ++
    slot.error.getD "invalid chord"

def summary (color : Bool) (song : Song) (meter : Meter) : String :=
  paint color [.brightGreen] "✓" ++ " " ++ paint color [.brightGreen] song.fileName ++ ": " ++
    toString (song.slots.filter fun slot => !slot.isRest).length ++ " chords, " ++
    toString song.notes.length ++ " notes, " ++
    quotient (Slot.totalTicks song.slots).toNat meter.ticksPerBar ++ " bars" ++
    String.join ((Slot.invalid song.slots).map (warning color))

def slotRow (color : Bool) (slot : Slot) (index : Nat) : String :=
  let line :=
    if slot.isRest then paint color [.dimmed] slot.shown
    else if !slot.isValid then paint color [.red] slot.shown
    else slot.shown
  "  " ++ padLeft 2 (toString (index + 1)) ++ ". " ++ line

def details (color : Bool) (slots : List Slot) : String :=
  listing color "🎼 Chords:" (slots.mapIdx fun index slot => slotRow color slot index)

def noteRow (color : Bool) (note : Note) : String :=
  "  " ++ padLeft 6 (toString note.start.toNat) ++ " +" ++
    padRight 5 (toString note.duration.toNat) ++ " " ++
    paintColumn color [.cyan] 4 (keyName note.key) ++ " vel " ++ toString note.velocity.toNat

def notes (color : Bool) (notes : List Note) : String :=
  if notes.isEmpty then paint color [.yellow] "No notes (every chord is a rest or invalid)"
  else listing color "🎹 Notes:" (notes.map (noteRow color))

def optionalText : Option String → Json
  | some text => .text text
  | none => .null

def bytesJson (values : List UInt8) : Json := .array (values.map fun value => .number value.toNat)

def slotJson (slot : Slot) : Json :=
  .object
    [("adjustedVoicing", bytesJson slot.voicing),
     ("calculatedBassNote", (slot.bass.map fun key => Json.number key.toNat).getD .null),
     ("durationTicks", .number slot.duration.toNat),
     ("error", optionalText slot.error),
     ("isRest", .bool slot.isRest),
     ("isValid", .bool slot.isValid),
     ("pitchClassSet", bytesJson slot.toneSet),
     ("startTimeTicks", .number slot.start.toNat),
     ("symbol", .text slot.symbol)]

def noteJson (note : Note) : Json :=
  .object
    [("durationTicks", .number note.duration.toNat),
     ("midiNote", .number note.key.toNat),
     ("startTimeTicks", .number note.start.toNat),
     ("velocity", .number note.velocity.toNat)]

def json (song : Song) : String :=
  Json.render <| .object
    [("chordDetails", .array (song.slots.map slotJson)),
     ("finalFileName", .text song.fileName),
     ("notes", .array (song.notes.map noteJson)),
     ("sizeBytes", .number song.bytes.length),
     ("totalTicks", .number (Slot.totalTicks song.slots).toNat)]

def channelNumber (channel : UInt8) : String := toString (channel + 1).toNat

def optionRows (color : Bool) (options : Options) : List (String × String) :=
  [("progression",
      if options.progression = "" then paint color [.dimmed] "(none)"
      else paint color [.cyan] options.progression),
   ("name", options.fileName.getD "(derived)"),
   ("voicing", options.strategy.name),
   ("output", options.output.name),
   ("octave", toString options.baseOctave.toNat),
   ("duration", options.chordDuration),
   ("tempo", toString options.tempo.toNat ++ " BPM"),
   ("timesig", options.meter.shown),
   ("velocity", toString options.velocity.toNat),
   ("transpose", signed options.transpose),
   ("channel", channelNumber options.channel)]

def options (color : Bool) (options : Options) : String :=
  listing color "⚙️  Options:" <|
    (optionRows color options).map fun row =>
      "  " ++ paintColumn color [.green] 12 row.1 ++ " " ++ row.2

def qualityRow (color : Bool) (token : String) (intervals : List UInt8) : String :=
  "  " ++ paintColumn color [.cyan] 10 (if token = "" then "(major)" else token) ++ " " ++
    " ".intercalate (intervals.map fun interval => toString interval.toNat)

def qualities (color : Bool) : String :=
  listing color "🎼 Chord qualities (C root):" <|
    Quality.table.map fun entry => qualityRow color entry.1 entry.2

end ChordChart.Report
