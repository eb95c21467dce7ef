import ChordChart.CommandLine
import ChordChart.Disk
/-! The program on the disk of the machine. A console answers each line as it is typed, and looks
after the watched files while it waits for the next one. -/
namespace ChordChart

def FileError.ofNumber (number : Nat) (text : String) : FileError :=
  match number with
  | 2 => notFound
  | 13 => permissionDenied
  | 20 => notADirectory
  | 21 => isADirectory
  | 36 => nameTooLong
  | number => other (text ++ " (os error " ++ toString number ++ ")")

namespace Machine

def errorNumber (code : UInt32) : Nat := if code < 0x80000000 then code.toNat else (-code).toNat

def fileError : IO.Error → FileError
  | .noFileOrDirectory _ code text | .interrupted _ code text
  | .alreadyExists _ code text | .invalidArgument _ code text | .permissionDenied _ code text
  | .resourceExhausted _ code text | .inappropriateType _ code text | .noSuchThing _ code text
  | .otherError code text | .resourceBusy code text | .resourceVanished code text
  | .unsupportedOperation code text | .hardwareFault code text
  | .unsatisfiedConstraints code text | .illegalOperation code text | .protocolError code text
  | .timeExpired code text => .ofNumber (errorNumber code) text
  | .unexpectedEof => .other "unexpected end of file"
  | .userError text => .other text

def onFile {α : Type} (path : String) (action : IO α) : IO (Except FileError α) := do
  if path.toList.contains '\x00' then return .error .nulInName
  try return .ok (← action)
  catch error => return .error (fileError error)

def realPath (path : String) : IO (Except FileError String) :=
  onFile path do return (← IO.FS.realPath path).toString

def found (path : String) : IO (Except FileError String) := do
  match FileError.ofPath? path with
  | some cause => return .error cause
  | none =>
    match ← realPath path with
    | .ok path => return .ok path
    | .error _ => onFile path do
      discard <| IO.FS.Handle.mk path .read
      return path

def absolutePath (path : String) : IO String := do
  if path.toList.head? = some '/' then return path
  else return (← IO.currentDir).toString ++ "/" ++ path

end Machine

open Machine

instance : Disk IO where
  readText path := do
    match ← onFile path (IO.FS.readBinFile path) with
    | .error cause => return .error cause
    | .ok content =>
      match String.fromUTF8? content with
      | some text => return .ok text
      | none => return .error .notText
  write path content := onFile path (IO.FS.writeBinFile path ⟨content.toArray⟩)
  isDirectory path := do
    match ← found path with
    | .ok path => return (← onFile path do (← IO.FS.realPath path).isDir).toOption.getD false
    | .error _ => return false
  canonical? path := return (← realPath path).toOption
  observe path := do
    let path ← absolutePath path
    match ← found path with
    | .ok _ => return .ok ()
    | .error cause => return .error ⟨cause, path⟩

namespace Main

def emit (text : String) : IO Unit := do
  let output ← IO.getStdout
  output.putStr text
  output.flush

abbrev Stamps := List (String × Option IO.FS.SystemTime)

def written? (path : String) : IO (Option IO.FS.SystemTime) := do
  try return some (← (← IO.FS.realPath path).metadata).modified
  catch _ => return none

def stampsOf (watcher : Watcher) : IO Stamps :=
  watcher.mapM fun path => return (path, ← written? path)

def kindOf : Option IO.FS.SystemTime → Option IO.FS.SystemTime → EventKind
  | none, some _ => .create
  | some _, none => .remove
  | _, _ => .modify

def lookAfter (console : Console) : Stamps → IO Console
  | [] => return console
  | (path, before) :: stamps => do
    let now ← written? path
    if now == before then lookAfter console stamps
    else
      let (printed, console) ← console.handleEvent (kindOf before now) [path]
      emit printed
      lookAfter console stamps

partial def await (console : Console) (stamps : Stamps) (typing : Task (Except IO.Error String)) :
    IO (Except IO.Error String × Console) := do
  if stamps.isEmpty || (← IO.hasFinished typing) then return (← IO.wait typing, console)
  IO.sleep 20
  let now ← stampsOf console.watcher
  let console ← lookAfter console stamps
  await console now typing

partial def converse (prompting : Bool) (console : Console) : IO Unit := do
  if prompting then emit (Console.greeting console.color)
  let input ← IO.getStdin
  let typing ← IO.asTask input.getLine .dedicated
  let (line, console) ← await console (← stampsOf console.watcher) typing
  match line with
  | .error error => emit (Console.unreadable console.color (toString error))
  | .ok "" => emit (Console.farewell console.color)
  | .ok line =>
    let (printed, goesOn, console) ← console.handleTyped line.toList
    emit printed
    if goesOn then converse prompting console else emit (Console.farewell console.color)

def start (arguments : List String) : IO UInt8 := do
  let shown ← (← IO.getStdout).isTty
  let color := shown && (← IO.getEnv "NO_COLOR").isNone
  match Invocation.ofArguments arguments with
  | .converse watching =>
    let (printed, console) ← Invocation.opened color watching
    emit (printed ++ Console.banner color)
    converse (shown && (← (← IO.getStdin).isTty)) console
    return 0
  | invocation =>
    let outcome ← invocation.run color ""
    emit outcome.stdout
    (← IO.getStderr).putStr outcome.stderr
    return outcome.code

end Main

end ChordChart

def main (arguments : List String) : IO UInt32 := return (← ChordChart.Main.start arguments).toUInt32
