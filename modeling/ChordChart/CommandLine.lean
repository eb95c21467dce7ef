import ChordChart.Console
/-! The command line: what its arguments ask for, and what the program then prints and returns. -/
namespace ChordChart

inductive Invocation where
  | converse (watching : Option String)
  | help
  | version
  | convert (input : String) (output : Option String)
  | misuse
  deriving DecidableEq, Repr

structure Outcome where
  code : UInt8
  stdout : String
  stderr : String
  deriving DecidableEq, Repr

namespace Invocation

def isFlag (argument : String) : Bool := argument.toList.head? = some '-'

def ofArguments : List String → Invocation
  | [] => converse none
  | [argument] =>
    if argument = "-h" ∨ argument = "--help" then help
    else if argument = "-V" ∨ argument = "--version" then version
    else if isFlag argument then misuse
    else convert argument none
  | [first, second] =>
    if first = "--watch" ∨ first = "-w" then converse (some second)
    else if isFlag first then misuse
    else convert first (some second)
  | _ => misuse

def usage : String :=
  "Usage:\n" ++
  "  chordsmith                     Interactive REPL\n" ++
  "  chordsmith <file> [out.mid]    Convert a progression file to MIDI\n" ++
  "  chordsmith --watch <file>      REPL that regenerates <file>.mid on every save\n\n" ++
  "Set RUST_LOG (e.g. RUST_LOG=chordsmith=debug) for diagnostics.\n"

def versionText : String := "chordsmith 0.1.0\n"

def failed (error : ConvertError) : Outcome :=
  ⟨1, "", "Error: " ++ error.context ++ "\n\nCaused by:\n    " ++ error.cause ++ "\n"⟩

def converted (color : Bool) (path : String) (song : Song) : Outcome :=
  ⟨0, Report.summary color song Meter.common ++ "\n" ++
    Text.paint color [.brightGreen] "💾 Wrote" ++ " " ++ path ++ "\n", ""⟩

section
variable {m : Type → Type} [Monad m] [Disk m]

def runConvert (color : Bool) (input : String) (output : Option String) : m Outcome := do
  match ← Convert.file input output {} with
  | .error error => return failed error
  | .ok (path, song) => return converted color path song

def opened (color : Bool) (watching : Option String) : m (String × Console) := do
  let console : Console := { color := color }
  match watching with
  | none => return ("", console)
  | some path => console.watch path

def run (color : Bool) (invocation : Invocation) (input : String) : m Outcome := do
  match invocation with
  | help => return ⟨0, usage, ""⟩
  | version => return ⟨0, versionText, ""⟩
  | misuse => return ⟨2, "", usage⟩
  | convert input output => runConvert color input output
  | converse watching =>
    let (printed, console) ← opened color watching
    return ⟨0, printed ++ (← console.run input), ""⟩

end

end Invocation

end ChordChart
