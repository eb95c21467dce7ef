import ChordChart.Convert
import ChordChart.Disk
import ChordChart.Session.Command
import ChordChart.Text.Cluster
/-! The console: a session that reads lines, a progression wherever a line is no command, and
watches progression files. Every step gives the text it prints. Editors write in place or put a new
file in the old one's place, so both count as changes of a watched file. -/
namespace ChordChart

inductive EventKind where
  | any
  | access
  | create
  | modify
  | remove
  | other
  deriving DecidableEq, Repr

def EventKind.isChange : EventKind → Bool
  | create | modify => true
  | any | access | remove | other => false

abbrev Watcher := List String

namespace Watcher

def holds (watcher : Watcher) (path : String) : Bool :=
  watcher.any fun watched => Path.same watched path

def dropRepeats : List String → List String
  | [] => []
  | path :: paths => path :: dropFrom path paths
where
  dropFrom (kept : String) : List String → List String
    | [] => []
    | path :: paths =>
      if Path.same kept path then dropFrom kept paths else path :: dropFrom path paths

section
variable {m : Type → Type} [Monad m] [Disk m]

def canonical (path : String) : m String := do return (← Disk.canonical? path).getD path

def watch (watcher : Watcher) (path : String) : m (Except WatchError String × Watcher) := do
  let path ← canonical path
  match ← Disk.observe path with
  | .error error => return (.error error, watcher)
  | .ok () => return (.ok path, if watcher.holds path then watcher else watcher ++ [path])

def changed (watcher : Watcher) (kind : EventKind) (paths : List String) : m (List String) := do
  if kind.isChange then
    return dropRepeats ((← paths.mapM canonical).filter watcher.holds)
  else return []

end

end Watcher

structure Console where
  session : Session := {}
  watcher : Watcher := []
  loaded : List (String × String) := []
  color : Bool := false
  deriving DecidableEq, Repr

namespace Console

def loaded? (console : Console) (path : String) : Option String :=
  (console.loaded.find? fun entry => Path.same entry.1 path).map Prod.snd

def setLoaded (console : Console) (path progression : String) : Console :=
  { console with
    loaded := (path, progression) :: console.loaded.filter fun entry => !Path.same entry.1 path }

def problem (color : Bool) (text : String) : String :=
  Text.paint color [.red] "Error:" ++ " " ++ text ++ "\n"

def failure (color : Bool) : String := Text.paint color [.bold, .brightRed] "Error:"

def converted (color : Bool) (path output : String) (song : Song) (meter : Meter) : String :=
  Text.paint color [.brightYellow] "⚡" ++ " " ++ path ++ " → " ++
    Text.paint color [.brightGreen] output ++ "\n" ++ Report.summary color song meter ++ "\n"

section
variable {m : Type → Type} [Monad m] [Disk m]

def afterReload (console : Console) (path progression : String) (song : Song) : Console :=
  let options := { console.session.options with progression := progression }
  { console.setLoaded path progression with session := ⟨options, some song⟩ }

def reload (console : Console) (path : String) : m (String × Console) := do
  let color := console.color
  match ← Convert.readProgression path with
  | .error error => return (problem color error.message, console)
  | .ok progression =>
    if console.loaded? path = some progression then return ("", console)
    else
      match ← Convert.file path none console.session.options with
      | .error error => return (failure color ++ " " ++ error.message ++ "\n", console)
      | .ok (output, song) =>
        return (converted color path output song console.session.options.meter,
          console.afterReload path progression song)

def watch (console : Console) (path : String) : m (String × Console) := do
  let color := console.color
  let (result, watcher) ← console.watcher.watch path
  match result with
  | .error error =>
    return (problem color ("Failed to watch " ++ path ++ ": " ++ error.message), console)
  | .ok canonical =>
    let (printed, console) ← { console with watcher := watcher }.reload canonical
    return (Text.paint color [.brightCyan] "👀" ++ " Watching " ++
      Text.paint color [.brightGreen] path ++ " for changes...\n" ++ printed, console)

def reloadAll (console : Console) : List String → m (String × Console)
  | [] => return ("", console)
  | path :: paths => do
    let (printed, console) ← console.reload path
    let (rest, console) ← reloadAll console paths
    return (printed ++ rest, console)

def handleEvent (console : Console) (kind : EventKind) (paths : List String) :
    m (String × Console) := do
  console.reloadAll (← console.watcher.changed kind paths)

def reply (color : Bool) (line : String) (session : Session) : m (Reply × Session) := do
  match ← Command.execute color line session with
  | (.notACommand, session) => return session.play color line
  | other => return other

def handleLine (console : Console) (line : String) : m (String × Bool × Console) := do
  let color := console.color
  let (reply, session) ← reply color line console.session
  let console := { console with session := session }
  match reply with
  | .success printed => return (printed, true, console)
  | .notACommand => return ("", true, console)
  | .message text => return (text ++ "\n", true, console)
  | .exit => return ("", false, console)
  | .error text =>
    return (failure color ++ " " ++ Text.paint color [.red] text ++ "\n", true, console)
  | .watch path =>
    let (printed, console) ← console.watch path
    return (printed, true, console)

end

def banner (color : Bool) : String :=
  Text.paint color [.brightYellow] "🎵" ++ " " ++
    Text.paint color [.bold, .brightCyan] "Chordsmith: chord progressions to MIDI" ++ "\n" ++
    "Type progressions like: " ++ Text.paint color [.cyan] "C Am F G" ++ ", " ++
    Text.paint color [.cyan] "Dm7:h G7:h Cmaj7" ++ ", " ++
    Text.paint color [.cyan] "C:1 R:1 Am/E" ++ "\n" ++
    "Type '" ++ Text.paint color [.brightGreen] "help" ++ "' for more information, '" ++
    Text.paint color [.brightRed] "quit" ++ "' or " ++
    Text.paint color [.brightRed] "Ctrl+C" ++ " to exit.\n\n"

def farewell (color : Bool) : String := Text.paint color [.brightCyan] "Goodbye!" ++ " 🎵\n"

def greeting (color : Bool) : String := Text.paint color [.bold, .brightMagenta] "chordsmith>" ++ " "

def typed (line : List Char) : String := String.ofList (Text.trim (Text.takeBack line))

def unreadable (color : Bool) (cause : String) : String :=
  Text.paint color [.bold, .brightRed] "Error reading input:" ++ " " ++
    Text.paint color [.red] cause ++ "\n"

section
variable {m : Type → Type} [Monad m] [Disk m]

def handleTyped (console : Console) (line : List Char) : m (String × Bool × Console) :=
  if typed line = "" then return ("", true, console) else console.handleLine (typed line)

def handleLines (console : Console) : List (List Char) → m String
  | [] => return ""
  | line :: lines => do
    let (printed, goesOn, console) ← console.handleTyped line
    if goesOn then return printed ++ (← handleLines console lines) else return printed

def run (console : Console) (input : String) : m String := do
  let printed ← console.handleLines (Text.lines input.toList)
  return banner console.color ++ printed ++ farewell console.color

end

end Console

end ChordChart
