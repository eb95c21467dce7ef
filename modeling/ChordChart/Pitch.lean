/-! Pitch classes and keys. A pitch class counts semitones above C; a key is a MIDI note number, and
octave n starts at key 12 n. Both are kept as bytes. A pitch that is still being placed is an
integer, and folding brings it among the keys 0 to 127. -/
namespace ChordChart

abbrev PitchClass := UInt8

abbrev Key := UInt8

def sharpNames : List String :=
  ["C", "C#", "D", "D#", "E", "F", "F#", "G", "G#", "A", "A#", "B"]

def pitchClassName (pc : PitchClass) : String := sharpNames.getD (pc.toNat % 12) ""

def keyName (key : Key) : String := pitchClassName key ++ toString (key.toNat / 12)

/-- The pitch class some semitones away. The sum is taken in 32-bit words, which matters only for
shifts beyond two thousand million. -/
def transposed (pc : PitchClass) (semitones : Int) : PitchClass :=
  UInt8.ofNat ((pc.toNat + semitones).bmod UInt32.size % 12).toNat

def foldIntoRange (pitch : Int) : Key :=
  UInt8.ofNat
    (if pitch < 0 then pitch % 12 else if pitch ≤ 127 then pitch else 116 + (pitch - 116) % 12).toNat

def fifthAbove (bass : Key) : Key := UInt8.ofNat (min (bass.toNat + 7) 127)

def naturalSemitones? : Char → Option Nat
  | 'C' => some 0
  | 'D' => some 2
  | 'E' => some 4
  | 'F' => some 5
  | 'G' => some 7
  | 'A' => some 9
  | 'B' => some 11
  | _ => none

def readAccidental : List Char → Nat × List Char
  | '#' :: rest => (1, rest)
  | 'b' :: rest => (11, rest)
  | rest => (0, rest)

def readNote? : List Char → Option (PitchClass × List Char)
  | [] => none
  | letter :: behind =>
    (naturalSemitones? letter).map fun semitones =>
      let (accidental, rest) := readAccidental behind
      (UInt8.ofNat ((semitones + accidental) % 12), rest)

def noteNamed? (cs : List Char) : Option PitchClass :=
  match readNote? cs with
  | some (pc, []) => some pc
  | _ => none

def ascendingSet (values : List UInt8) : List UInt8 :=
  values.eraseDups.mergeSort fun a b => decide (a ≤ b)

end ChordChart
