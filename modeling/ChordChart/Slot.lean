import ChordChart.Options
import ChordChart.Pitch
/-! Slots: the entries of a progression once they have a place in time and keys to strike, and the
notes that an output takes from them. -/
namespace ChordChart

structure Slot where
  symbol : String
  isValid : Bool
  isRest : Bool
  start : UInt32
  duration : UInt32
  toneSet : List PitchClass
  voicing : List Key
  bass : Option Key
  error : Option String
  deriving DecidableEq, Repr

structure Note where
  key : Key
  start : UInt32
  duration : UInt32
  velocity : UInt8
  deriving DecidableEq, Repr

def Note.stop (note : Note) : UInt32 := note.start + note.duration

def clampVelocity (velocity : UInt8) : UInt8 := max 1 (min velocity 127)

namespace Slot

def stop (slot : Slot) : UInt32 := slot.start + slot.duration

def isAudible (slot : Slot) : Bool := slot.isValid && !slot.isRest

def keys (output : Output) (slot : Slot) : List Key :=
  match output, slot.bass with
  | .chordsOnly, _ => slot.voicing
  | .chordsAndBass, some bass => bass :: slot.voicing
  | .chordsAndBass, none => slot.voicing
  | .bassOnly, some bass => [bass]
  | .bassAndFifth, some bass => [bass, fifthAbove bass]
  | .bassOnly, none | .bassAndFifth, none => []

def notes (output : Output) (velocity : UInt8) (slot : Slot) : List Note :=
  (slot.keys output).map fun key => ⟨key, slot.start, slot.duration, clampVelocity velocity⟩

def collectNotes (output : Output) (velocity : UInt8) (slots : List Slot) : List Note :=
  (slots.filter isAudible).flatMap (notes output velocity)

def totalTicks (slots : List Slot) : UInt32 := (slots.getLast?.map stop).getD 0

def invalid (slots : List Slot) : List Slot := slots.filter fun slot => !slot.isValid

def shownSound (slot : Slot) : String :=
  " \x7b" ++ ", ".intercalate (slot.toneSet.map pitchClassName) ++ "\x7d [" ++
    " ".intercalate (slot.voicing.map keyName) ++ "]" ++
    match slot.bass with
    | some bass => " bass " ++ keyName bass
    | none => ""

def shown (slot : Slot) : String :=
  slot.symbol ++ " @" ++ toString slot.start.toNat ++ "+" ++ toString slot.duration.toNat ++
    if slot.isRest then " (rest)"
    else
      match slot.error with
      | some error => " invalid: " ++ error
      | none => slot.shownSound

end Slot

end ChordChart
