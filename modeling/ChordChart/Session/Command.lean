import ChordChart.Disk
import ChordChart.Session
import ChordChart.Text.Basic
import ChordChart.Text.Shown
/-! The commands of a session, their names, and what each does with its argument. A line calls a
command when it is its name, or starts with its name and a space; of several such names the longest
counts, and of equal ones the first registered. -/
namespace ChordChart

structure Registry (α : Type) where
  entries : List (String × α)

namespace Registry

def empty {α : Type} : Registry α := ⟨[]⟩

def register {α : Type} (registry : Registry α) (name : String) (command : α) : Registry α :=
  ⟨(registry.entries ++ [(name, command)]).mergeSort fun a b =>
    decide (b.1.utf8ByteSize ≤ a.1.utf8ByteSize)⟩

def ofList {α : Type} (commands : List (String × α)) : Registry α :=
  commands.foldl (fun registry command => registry.register command.1 command.2) empty

def names {α : Type} (registry : Registry α) : List String := registry.entries.map Prod.fst

def argument? : (name line : List Char) → Option (List Char)
  | [], [] => some []
  | [], c :: rest => if c = ' ' then some (Text.trim rest) else none
  | _ :: _, [] => none
  | n :: name, c :: line => if n = c then argument? name line else none

def find? {α : Type} (registry : Registry α) (line : String) : Option (α × String) :=
  registry.entries.findSome? fun entry =>
    (argument? entry.1.toList line.toList).map fun rest => (entry.2, String.ofList rest)

end Registry

namespace Help

open Text

structure Item where
  ink : Ink
  sample : String
  note : String

structure Topic where
  title : String
  items : List Item

def progressions : Topic :=
  ⟨"Progressions:",
   [⟨.cyan, "C Am F G", "             - Generate from a progression"⟩,
    ⟨.cyan, "gen C Am F G", "         - Same, as a command"⟩,
    ⟨.cyan, "C, Am | F -> G", "  - Separators: space , | -> -"⟩,
    ⟨.cyan, "C:0.5 G:h Am:T64", "   - Durations in bars, named codes or ticks"⟩,
    ⟨.cyan, "C:1 R:1 G", "        - Rest (duration required)"⟩,
    ⟨.cyan, "Am/E C/G", "          - Slash chord"⟩,
    ⟨.cyan, "C1", "                 - Single note"⟩]⟩

def durations : Topic :=
  ⟨"Durations:",
   [⟨.cyan, "1 0.5 1.5 .25", "  - Bars"⟩,
    ⟨.cyan, "w h q e s dh dq de 2w 4w", "  - Named (whole .. sixteenth, dotted)"⟩,
    ⟨.cyan, "T<n>", "          - Absolute ticks (128 per quarter)"⟩]⟩

def results : Topic :=
  ⟨"Results:",
   [⟨.cyan, "save [path]", "      - Write the last MIDI file"⟩,
    ⟨.cyan, "details", "          - Per-chord voicing and bass"⟩,
    ⟨.cyan, "notes", "            - Flattened note list"⟩,
    ⟨.cyan, "json", "             - Result as JSON"⟩]⟩

def settings : Topic :=
  ⟨"Options:",
   [⟨.cyan, "options", "          - Show all options"⟩,
    ⟨.cyan, "voicing <name>", " - root first second smooth pianist open spread cocktail"⟩,
    ⟨.cyan, "output <type>", "   - chords chords+bass bass bass+fifth"⟩,
    ⟨.cyan, "tempo <bpm>", "       - Tempo (4-960)"⟩,
    ⟨.cyan, "octave <n>", "       - Base octave (0-9)"⟩,
    ⟨.cyan, "duration <code>", "  - Default chord duration"⟩,
    ⟨.cyan, "velocity <n>", "     - Note velocity (1-127)"⟩,
    ⟨.cyan, "transpose <n>", "   - Transpose (-24..24)"⟩,
    ⟨.cyan, "channel <n>", "      - MIDI channel (1-16)"⟩,
    ⟨.cyan, "timesig <n/d>", "      - Time signature, e.g. 3/4"⟩,
    ⟨.cyan, "name <file|auto>", " - File name ('auto' to derive)"⟩]⟩

def others : Topic :=
  ⟨"Other Commands:",
   [⟨.brightGreen, "qualities", "        - List chord qualities"⟩,
    ⟨.brightGreen, "watch <file>", "     - Regenerate <file>.mid on every save"⟩,
    ⟨.brightGreen, "help", "             - Show this help"⟩,
    ⟨.brightRed, "quit", "             - Exit the REPL"⟩]⟩

def topicText (color : Bool) (topic : Topic) : String :=
  "\n" ++ paint color [.green] topic.title ++ "\n" ++
    String.join (topic.items.map fun item =>
      "  " ++ paint color [item.ink] item.sample ++ item.note ++ "\n")

def text (color : Bool) : String :=
  paint color [.bold] "🎵 Chordsmith Help" ++ "\n" ++
    paint color [.bold] "==================" ++ "\n" ++
    String.join ([progressions, durations, results, settings, others].map (topicText color))

end Help

inductive Command where
  | gen
  | save
  | details
  | notes
  | json
  | options
  | set (setting : Setting)
  | qualities
  | help
  | quit
  | watch
  deriving DecidableEq, Repr

namespace Command

def all : List (String × Command) :=
  [("gen", gen), ("save", save), ("details", details), ("notes", notes), ("json", json),
   ("options", options), ("tempo", set .tempo), ("octave", set .octave),
   ("voicing", set .voicing), ("output", set .output), ("velocity", set .velocity),
   ("duration", set .duration), ("transpose", set .transpose), ("channel", set .channel),
   ("timesig", set .meter), ("name", set .name),
   ("qualities", qualities), ("help", help), ("quit", quit), ("exit", quit), ("watch", watch)]

def registry : Registry Command := .ofList all

section
variable {m : Type → Type} [Monad m] [Disk m]

def savePath (argument fileName : String) : m String := do
  if argument = "" then return fileName
  else if ← Disk.isDirectory argument then return Path.join argument fileName
  else return argument

def savedText (color : Bool) (path : String) (song : Song) : String :=
  "💾 Saved " ++ Text.paint color [.brightGreen] path ++ " (" ++ toString song.bytes.length ++
    " bytes)"

def runSave (color : Bool) (argument : String) (session : Session) : m (Reply × Session) := do
  match session.current with
  | (.error cause, session) => return (.error cause.message, session)
  | (.ok song, session) =>
    let path ← savePath argument song.fileName
    match ← Disk.write path song.bytes with
    | .ok () => return (.message (savedText color path song), session)
    | .error cause =>
      return (.error ("Failed to write " ++ path ++ ": " ++ cause.message), session)

def run (color : Bool) (command : Command) (argument : String) (session : Session) :
    m (Reply × Session) :=
  match command with
  | gen => pure (session.play color argument)
  | save => runSave color argument session
  | details => pure (session.inspect fun song => Report.details color song.slots)
  | notes => pure (session.inspect fun song => Report.notes color song.notes)
  | json => pure (session.inspect Report.json)
  | options => pure (.message (Report.options color session.options), session)
  | set setting => pure (setting.run color argument session)
  | qualities => pure (.message (Report.qualities color), session)
  | help => pure (.success (Help.text color), session)
  | quit => pure (.exit, session)
  | watch => pure (if argument = "" then .error "Usage: watch <file>" else .watch argument, session)

def execute (color : Bool) (line : String) (session : Session) : m (Reply × Session) :=
  match registry.find? line with
  | some (command, argument) => command.run color argument session
  | none => pure (.notACommand, session)

end

end Command

end ChordChart
