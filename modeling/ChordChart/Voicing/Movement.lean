import ChordChart.Pitch
/-! How far the voices move from one chord to the next. Distances are those to the nearest key of
the chord before, and of several pitches as near the lowest is taken. -/
namespace ChordChart

namespace Placement

def noDistance : Nat := UInt32.size - 1

def distanceToNearest (pitch : Int) (keys : List Key) : Nat :=
  (keys.map fun key => (pitch - key.toNat).natAbs).min?.getD noDistance

def keysOfClass (pc : PitchClass) : List Int :=
  ((List.range 11).map fun octave => ((12 * octave + pc.toNat : Nat) : Int)).filter (· ≤ 127)

def nearer (previous : List Key) (first second : Int) : Int :=
  if distanceToNearest second previous < distanceToNearest first previous then second else first

def nearest (previous : List Key) (pc : PitchClass) : Int :=
  match keysOfClass pc with
  | [] => pc.toNat
  | lowest :: others => others.foldl (nearer previous) lowest

end Placement

namespace Movement

def total (previous next : List Key) : UInt32 :=
  UInt32.ofNat <|
    next.foldl (fun sum key => sum + Placement.distanceToNearest key.toNat previous) 0

def common (previous next : List Key) : List Key := next.filter previous.contains

end Movement

end ChordChart
