import ChordChart.Chord
import ChordChart.Duration
/-! Progression text: tokens between separators, each a chord symbol or the rest R, with a duration
after a colon where the default is not meant. Commas, bars, arrows and lone dashes separate like a
space. The first faulty token fails the whole text. -/
namespace ChordChart

inductive EntryKind where
  | rest
  | chord (symbol : ChordSymbol)
  deriving DecidableEq, Repr

structure Entry where
  symbol : String
  kind : EntryKind
  duration : UInt32
  deriving DecidableEq, Repr

namespace Entry

def chord? (entry : Entry) : Option ChordSymbol :=
  match entry.kind with
  | .rest => none
  | .chord symbol => some symbol

def isRest (entry : Entry) : Bool := entry.chord?.isNone

end Entry

inductive TokenError where
  | secondColon
  | noSymbol
  | symbol (cause : SymbolError)
  deriving DecidableEq, Repr

def TokenError.message : TokenError → String
  | secondColon => "more than one ':'"
  | noSymbol => "missing chord symbol"
  | symbol cause => cause.message

inductive ParseError where
  | empty
  | malformed (token : String) (cause : TokenError)
  | invalidDuration (token : String) (cause : DurationError)
  | restWithoutDuration (token : String)
  | invalidDefault (duration : String) (cause : DurationError)
  deriving DecidableEq, Repr

namespace ParseError

def message : ParseError → String
  | empty => "progression is empty"
  | malformed token cause => "malformed token '" ++ token ++ "': " ++ cause.message
  | invalidDuration token cause => "invalid duration in token '" ++ token ++ "': " ++ cause.message
  | restWithoutDuration token => "rest '" ++ token ++ "' needs an explicit duration, e.g. R:1"
  | invalidDefault duration cause =>
    "invalid default chord duration '" ++ duration ++ "': " ++ cause.message

def token? : ParseError → Option String
  | malformed token _ | invalidDuration token _ | restWithoutDuration token => some token
  | empty | invalidDefault _ _ => none

end ParseError

namespace Progression

def spaceArrows : List Char → List Char
  | '-' :: '>' :: cs => ' ' :: spaceArrows cs
  | c :: cs => c :: spaceArrows cs
  | [] => []

def spaceMark (c : Char) : Char := if c = ',' ∨ c = '|' then ' ' else c

def tokens (cs : List Char) : List (List Char) :=
  (Text.words ((spaceArrows cs).map spaceMark)).filter fun word => word ≠ ['-']

def normalize (text : String) : String := String.ofList (Text.joinWords (tokens text.toList))

def readSymbol (token : String) (symbol : List Char) : Except ParseError ChordSymbol :=
  (ChordSymbol.parse symbol).mapError fun cause => .malformed token (.symbol cause)

def readKind (token : String) (symbol : List Char) : Except ParseError EntryKind :=
  if symbol = ['R'] then .ok .rest else (readSymbol token symbol).map .chord

def readDuration (token : String) (meter : Meter) (default : UInt32) (symbol : List Char) :
    Option (List Char) → Except ParseError UInt32
  | some duration =>
    (Duration.parse (String.ofList duration) meter).mapError (.invalidDuration token)
  | none => if symbol = ['R'] then .error (.restWithoutDuration token) else .ok default

def readParts (token : String) (meter : Meter) (default : UInt32) (symbol : List Char)
    (duration? : Option (List Char)) : Except ParseError Entry :=
  if symbol.isEmpty then .error (.malformed token .noSymbol)
  else do
    let duration ← readDuration token meter default symbol duration?
    let kind ← readKind token symbol
    return ⟨String.ofList symbol, kind, duration⟩

def readToken (meter : Meter) (default : UInt32) (cs : List Char) : Except ParseError Entry :=
  let token := String.ofList cs
  match cs.splitOnP (· == ':') with
  | [symbol] => readParts token meter default symbol none
  | [symbol, duration] => readParts token meter default symbol (some duration)
  | _ => .error (.malformed token .secondColon)

def readTokens (meter : Meter) (default : UInt32) (tokens : List (List Char)) :
    Except ParseError (List Entry) :=
  if tokens.isEmpty then .error .empty else tokens.mapM (readToken meter default)

def parse (text default : String) (meter : Meter) : Except ParseError (List Entry) := do
  let ticks ← (Duration.parse default meter).mapError (.invalidDefault default)
  readTokens meter ticks (tokens text.toList)

end Progression

end ChordChart
