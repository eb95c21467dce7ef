import ChordChart.Disk
import ChordChart.Song
/-! Progression files to MIDI files. A progression may be spread over lines, with blank lines and
comments between them. -/
namespace ChordChart

def progressionOfText (text : String) : String :=
  String.ofList <| Text.joinWords <|
    ((Text.lines text.toList).map Text.trim).filter fun line =>
      !line.isEmpty && !(['/', '/'].isPrefixOf line)

inductive ConvertError where
  | read (path : String) (cause : FileError)
  | generate (path : String) (cause : GenerateError)
  | write (path : String) (cause : FileError)
  deriving DecidableEq, Repr

namespace ConvertError

def context : ConvertError → String
  | read path _ => "failed to read " ++ path
  | generate path _ => "failed to generate " ++ path
  | write path _ => "failed to write " ++ path

def cause : ConvertError → String
  | read _ cause | write _ cause => cause.message
  | generate _ cause => cause.message

def message (error : ConvertError) : String := error.context ++ ": " ++ error.cause

end ConvertError

namespace Convert

def defaultOutput (input : String) : String := Path.withEnding input "mid"

section
variable {m : Type → Type} [Monad m] [Disk m]

def readProgression (path : String) : m (Except ConvertError String) := do
  match ← Disk.readText path with
  | .error cause => return .error (.read path cause)
  | .ok text => return .ok (progressionOfText text)

def file (input : String) (output : Option String) (options : Options) :
    m (Except ConvertError (String × Song)) := do
  match ← readProgression input with
  | .error error => return .error error
  | .ok progression =>
    match Song.generate { options with progression := progression } with
    | .error cause => return .error (.generate input cause)
    | .ok song =>
      let path := output.getD (defaultOutput input)
      match ← Disk.write path song.bytes with
      | .error cause => return .error (.write path cause)
      | .ok () => return .ok (path, song)

end

end Convert

end ChordChart
