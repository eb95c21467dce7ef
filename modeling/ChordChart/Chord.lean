import ChordChart.Pitch
import ChordChart.Text.Basic
/-! Chords as pitch classes: a root, the tones in stacking order with the root first and none twice,
and a bass. A symbol is read for its structure alone; whether its quality is in the vocabulary,
whose tokens are told apart by case, is settled when the chord is resolved. -/
namespace ChordChart

namespace Quality

def table : List (String × List UInt8) :=
  [("", [0, 4, 7]), ("maj", [0, 4, 7]), ("M", [0, 4, 7]),
   ("m", [0, 3, 7]), ("min", [0, 3, 7]),
   ("dim", [0, 3, 6]), ("°", [0, 3, 6]),
   ("aug", [0, 4, 8]), ("+", [0, 4, 8]),
   ("sus2", [0, 2, 7]), ("sus4", [0, 5, 7]), ("sus", [0, 5, 7]),
   -- a single note and the power chord
   ("1", [0]), ("5", [0, 7]),
   -- sixths
   ("6", [0, 4, 7, 9]), ("m6", [0, 3, 7, 9]), ("69", [0, 4, 7, 9, 14]),
   -- sevenths
   ("7", [0, 4, 7, 10]), ("maj7", [0, 4, 7, 11]), ("M7", [0, 4, 7, 11]), ("^7", [0, 4, 7, 11]),
   ("m7", [0, 3, 7, 10]), ("min7", [0, 3, 7, 10]),
   ("mMaj7", [0, 3, 7, 11]), ("m(maj7)", [0, 3, 7, 11]),
   ("m7b5", [0, 3, 6, 10]), ("ø", [0, 3, 6, 10]), ("ø7", [0, 3, 6, 10]),
   ("dim7", [0, 3, 6, 9]), ("°7", [0, 3, 6, 9]),
   ("aug7", [0, 4, 8, 10]), ("7#5", [0, 4, 8, 10]), ("7b5", [0, 4, 6, 10]),
   ("7sus4", [0, 5, 7, 10]), ("7sus2", [0, 2, 7, 10]),
   -- added tones
   ("add9", [0, 4, 7, 14]), ("madd9", [0, 3, 7, 14]), ("add11", [0, 4, 7, 17]),
   -- extensions
   ("9", [0, 4, 7, 10, 14]), ("maj9", [0, 4, 7, 11, 14]), ("M9", [0, 4, 7, 11, 14]),
   ("m9", [0, 3, 7, 10, 14]), ("7b9", [0, 4, 7, 10, 13]), ("7#9", [0, 4, 7, 10, 15]),
   ("11", [0, 4, 7, 10, 14, 17]), ("m11", [0, 3, 7, 10, 14, 17]), ("maj11", [0, 4, 7, 11, 14, 17]),
   ("13", [0, 4, 7, 10, 14, 21]), ("m13", [0, 3, 7, 10, 14, 21]), ("maj13", [0, 4, 7, 11, 14, 21])]

def intervals? (token : String) : Option (List UInt8) :=
  (table.find? fun entry => entry.1 == token).map Prod.snd

end Quality

structure ChordSymbol where
  root : Option PitchClass
  quality : String
  bass : Option PitchClass
  deriving DecidableEq, Repr

inductive SymbolError where
  | unexpectedCharacter (c : Char)
  | secondSlash
  | nothingBeforeSlash
  | invalidBass (text : String)
  deriving DecidableEq, Repr

def SymbolError.message : SymbolError → String
  | unexpectedCharacter c => "unexpected character '" ++ c.toString ++ "'"
  | secondSlash => "more than one '/'"
  | nothingBeforeSlash => "missing chord before '/'"
  | invalidBass text => "invalid bass note '" ++ text ++ "'"

namespace ChordSymbol

def isSymbolChar (c : Char) : Bool := c.isAlphanum || "#+°ø^()-/".toList.contains c

def ofHead (head : List Char) (bass : Option PitchClass) : ChordSymbol :=
  match readNote? head with
  | some (root, quality) => ⟨some root, String.ofList quality, bass⟩
  | none => ⟨none, String.ofList head, bass⟩

def parse (cs : List Char) : Except SymbolError ChordSymbol :=
  match cs.find? fun c => !isSymbolChar c with
  | some c => .error (.unexpectedCharacter c)
  | none =>
    match Text.splitOnce '/' cs with
    | none => .ok (ofHead cs none)
    | some (head, bassText) =>
      if bassText.contains '/' then .error .secondSlash
      else if head.isEmpty then .error .nothingBeforeSlash
      else
        match noteNamed? bassText with
        | some bass => .ok (ofHead head (some bass))
        | none => .error (.invalidBass (String.ofList bassText))

end ChordSymbol

inductive ResolveError where
  | missingRoot (quality : String)
  | unknownQuality (quality : String)
  deriving DecidableEq, Repr

def ResolveError.message : ResolveError → String
  | missingRoot quality => "'" ++ quality ++ "' does not start with a note name (A-G)"
  | unknownQuality quality => "unknown chord quality '" ++ quality ++ "'"

structure Chord where
  root : PitchClass
  tones : List PitchClass
  bass : PitchClass
  deriving DecidableEq, Repr

namespace Chord

def rootFirst (root : PitchClass) (tones : List PitchClass) : List PitchClass :=
  if tones.head? = some root then tones else root :: tones.filter fun pc => pc ≠ root

def ofIntervals (root : PitchClass) (intervals : List UInt8) (bass : PitchClass) : Chord where
  root := root
  tones := rootFirst root (intervals.map fun interval => transposed root interval.toNat).eraseDups
  bass := bass % 12

def resolve (symbol : ChordSymbol) (transpose : Int) : Except ResolveError Chord :=
  match symbol.root with
  | none => .error (.missingRoot symbol.quality)
  | some root =>
    match Quality.intervals? symbol.quality with
    | none => .error (.unknownQuality symbol.quality)
    | some intervals =>
      let root := transposed root transpose
      let bass := (symbol.bass.map fun pc => transposed pc transpose).getD root
      .ok (ofIntervals root intervals bass)

def hasSlashBass (chord : Chord) : Bool := chord.bass ≠ chord.root

def hasInterval (chord : Chord) (semitones : Nat) : Bool :=
  chord.tones.contains (transposed chord.root semitones)

def toneSet (chord : Chord) : List PitchClass := ascendingSet chord.tones

def shown (chord : Chord) : String :=
  "[" ++ ", ".intercalate (chord.tones.map pitchClassName) ++ "]" ++
    if chord.hasSlashBass then "/" ++ pitchClassName chord.bass else ""

end Chord

end ChordChart
