import ChordChart.Text.Basic
/-! Meters, the exact length of bars in ticks, 128 to the quarter note, and durations as a
progression writes them: a decimal count of bars, a named share of a bar, or a tick count after the
letter T. A length in bars is a rational number; one that does not land on a whole tick has no tick
count. -/
namespace ChordChart

def ticksPerQuarter : Nat := 128

def maxTicks : Nat := 0x0FFFFFFF

/-- A number whose lowest terms are kept in 64-bit words. It is the number itself as long as both
terms are below 2^63. -/
def inWords (q : Rat) : Rat := Rat.divInt (q.num.bmod UInt64.size) ((q.den : Int).bmod UInt64.size)

structure Meter where
  numerator : UInt8
  denominator : UInt8
  deriving DecidableEq, Repr

namespace Meter

def common : Meter := ⟨4, 4⟩

def isValid (meter : Meter) : Bool :=
  0 < meter.numerator && [1, 2, 4, 8, 16, 32, 64].contains meter.denominator

def ticksPerBeat (meter : Meter) : Nat := 4 * ticksPerQuarter / max meter.denominator.toNat 1

def ticksPerBar (meter : Meter) : Nat := meter.ticksPerBeat * meter.numerator.toNat

def denominatorPower (meter : Meter) : UInt8 :=
  UInt8.ofNat
    ((List.range 8).takeWhile fun k => max meter.denominator.toNat 1 % Nat.pow 2 (k + 1) = 0).length

def ticks? (meter : Meter) (bars : Rat) : Option UInt32 :=
  let count := inWords (bars * (meter.ticksPerBar : Rat))
  if 0 < bars ∧ count.den = 1 ∧ 0 ≤ count.num ∧ count.num < UInt32.size then
    some (UInt32.ofNat count.num.toNat)
  else none

def shown (meter : Meter) : String :=
  toString meter.numerator.toNat ++ "/" ++ toString meter.denominator.toNat

def parse? (text : String) : Option Meter := do
  let (above, below) ← Text.splitOnce '/' text.toList
  let numerator ← Text.natural? 255 (Text.trim above)
  let denominator ← Text.natural? 255 (Text.trim below)
  let meter : Meter := ⟨UInt8.ofNat numerator, UInt8.ofNat denominator⟩
  if meter.isValid then some meter else none

end Meter

def bars? (num den : Int) : Option Rat :=
  if den = 0 then none else some (inWords (Rat.divInt num den))

def seconds (ticks tempo : UInt32) : Float :=
  if tempo = 0 then 0.0
  else Float.ofNat ticks.toNat / Float.ofNat ticksPerQuarter * 60.0 / Float.ofNat tempo.toNat

inductive DurationError where
  | empty
  | unrecognized (text : String)
  | notPositive
  | fractionalTicks (text : String)
  | tooLong
  deriving DecidableEq, Repr

def DurationError.message : DurationError → String
  | empty => "duration is empty"
  | unrecognized text => "'" ++ text ++ "' is not a bar count, a named duration or T<ticks>"
  | notPositive => "duration must be greater than zero"
  | fractionalTicks text => text ++ " bars does not land on a whole tick"
  | tooLong => "duration is too long"

namespace Duration

def named : List (String × Nat × Nat) :=
  [("4w", 4, 1), ("2w", 2, 1), ("w", 1, 1), ("dh", 3, 4), ("h", 1, 2), ("dq", 3, 8), ("q", 1, 4),
   ("de", 3, 16), ("e", 1, 8), ("s", 1, 16)]

def maxBars : Nat := 4096

def maxDigits : Nat := 9

def namedBars? (code : String) : Option Rat :=
  (named.find? fun entry => entry.1 == code).map fun entry => mkRat entry.2.1 entry.2.2

def withinLimit (ticks : UInt32) : Except DurationError UInt32 :=
  if maxTicks < ticks.toNat then .error .tooLong else .ok ticks

def parseTicks (text : String) (digits : List Char) : Except DurationError UInt32 :=
  if !Text.isNumeral digits then .error (.unrecognized text)
  else if maxTicks < Text.numeralValue digits then .error .tooLong
  else if Text.numeralValue digits = 0 then .error .notPositive
  else .ok (UInt32.ofNat (Text.numeralValue digits))

def parseDecimal (text : String) (cs : List Char) : Except DurationError Rat :=
  let (whole, fraction) := (Text.splitOnce '.' cs).getD (cs, [])
  let digits := whole ++ fraction
  if !Text.isNumeral digits then .error (.unrecognized text)
  else if maxDigits < digits.length then .error .tooLong
  else if Text.numeralValue digits = 0 then .error .notPositive
  else .ok (mkRat (Text.numeralValue digits) (Nat.pow 10 fraction.length))

def parseBars (text : String) (cs : List Char) : Except DurationError Rat :=
  match namedBars? text with
  | some bars => .ok bars
  | none => parseDecimal text cs

def ofBars (text : String) (meter : Meter) (bars : Rat) : Except DurationError UInt32 :=
  if (maxBars : Rat) < bars then .error .tooLong
  else
    match meter.ticks? bars with
    | none => .error (.fractionalTicks text)
    | some ticks => withinLimit ticks

def parse (text : String) (meter : Meter) : Except DurationError UInt32 :=
  let cs := Text.trim text.toList
  let code := String.ofList cs
  match cs with
  | [] => .error .empty
  | first :: digits =>
    if first = 'T' ∨ first = 't' then parseTicks code digits
    else (parseBars code cs).bind (ofBars code meter)

end Duration

end ChordChart
