import ChordChart.Chord
import ChordChart.Options
import ChordChart.Voicing.Movement
/-! Voicings: a chord placed on keys, with a bass under it. While they are laid out pitches are
integers, so that a layout may leave the range of keys; the base is the pitch of C in the octave
asked for. The only thing a voicing takes from its predecessor is the keys of that one, and only the
smooth strategy looks at them. -/
namespace ChordChart

namespace Placement

def atOrAbove (pc : PitchClass) (floor : Int) : Int :=
  let candidate := floor - floor % 12 + pc.toNat
  if candidate < floor then candidate + 12 else candidate

def stack (gap : Int) : Int → List PitchClass → List Int
  | _, [] => []
  | floor, pc :: pcs =>
    let pitch := atOrAbove pc floor
    pitch :: stack gap (pitch + gap) pcs

def close (base : Int) (tones : List PitchClass) : List Int := stack 1 base tones

def spread (base : Int) (tones : List PitchClass) : List Int := stack 12 base tones

def invert (count : Nat) (pitches : List Int) : List Int :=
  let raised := min count (pitches.length - 1)
  (pitches.take raised).map (· + 12) ++ pitches.drop raised

def raiseAlternate : List Int → List Int
  | low :: next :: rest => low :: (next + 12) :: raiseAlternate rest
  | pitches => pitches

def pianist (base : Int) : List PitchClass → List Int
  | [] => []
  | root :: others =>
    let upper := if 2 ≤ others.length then others else root :: others
    atOrAbove root (base - 12) :: upper.map fun pc => atOrAbove pc base

def shell? (chord : Chord) : Option PitchClass :=
  (([10, 11, 7] : List UInt8).find? fun interval => chord.hasInterval interval.toNat).map
    fun interval => (chord.root + interval) % 12

def doubledTop (pitches : List Int) : List Int :=
  match pitches.getLast? with
  | some top => if top + 12 ≤ 127 then [top + 12] else []
  | none => []

def cocktail (base : Int) (chord : Chord) : List Int :=
  let left := atOrAbove chord.root (base - 12)
  let shell := shell? chord
  let upper := chord.tones.filter fun pc => pc ≠ chord.root ∧ some pc ≠ shell
  let right := stack 1 base upper
  left :: shell.toList.map (fun pc => atOrAbove pc (left + 1)) ++ doubledTop right ++ right

def lowerBelow (ceiling pitch : Int) : Int :=
  if pitch < ceiling then pitch else pitch - 12 * ((pitch - ceiling) / 12 + 1)

def bassBelow (base : Int) (lowest : Option Key) (pc : PitchClass) : Int :=
  let bass := base - 12 + pc.toNat
  match lowest with
  | some key => lowerBelow key.toNat bass
  | none => bass

end Placement

structure Voicing where
  notes : List Key
  bass : Key
  deriving DecidableEq, Repr

namespace Voicing

open Placement

def pitches (chord : Chord) (strategy : Strategy) (base : Int) (previous : List Key) : List Int :=
  match strategy with
  | .rootPosition => close base chord.tones
  | .firstInversion => invert 1 (close base chord.tones)
  | .secondInversion => invert 2 (close base chord.tones)
  | .smooth =>
    if previous.isEmpty then close base chord.tones else chord.tones.map (nearest previous)
  | .pianist => pianist base chord.tones
  | .openPosition => raiseAlternate (close base chord.tones)
  | .spread => spread base chord.tones
  | .cocktail => cocktail base chord

def ascending (keys : List Key) : List Key := keys.mergeSort fun a b => decide (a ≤ b)

def ofChord (chord : Chord) (strategy : Strategy) (octave : UInt8) (previous : List Key) :
    Voicing :=
  let base : Int := 12 * octave.toNat
  let notes := ascending ((pitches chord strategy base previous).map foldIntoRange)
  ⟨notes, foldIntoRange (bassBelow base notes.head? chord.bass)⟩

def lowest? (voicing : Voicing) : Option Key := voicing.notes.head?

def ofChords (strategy : Strategy) (octave : UInt8) : List Key → List Chord → List Voicing
  | _, [] => []
  | previous, chord :: chords =>
    let voicing := ofChord chord strategy octave previous
    voicing :: ofChords strategy octave voicing.notes chords

end Voicing

end ChordChart
