import ChordChart.Duration
import ChordChart.Text.Basic
/-! What a generation is asked for: the progression and everything that shapes its sound and its
file. The values given by default generate once a progression is set. -/
namespace ChordChart

inductive Strategy where
  | rootPosition
  | firstInversion
  | secondInversion
  | smooth
  | pianist
  | openPosition
  | spread
  | cocktail
  deriving DecidableEq, Repr

namespace Strategy

def all : List Strategy :=
  [rootPosition, firstInversion, secondInversion, smooth, pianist, openPosition, spread, cocktail]

def name : Strategy → String
  | rootPosition => "root"
  | firstInversion => "first"
  | secondInversion => "second"
  | smooth => "smooth"
  | pianist => "pianist"
  | openPosition => "open"
  | spread => "spread"
  | cocktail => "cocktail"

def names : Strategy → List String
  | rootPosition => ["root", "none", "rootposition", "root-position"]
  | firstInversion => ["first", "1st", "firstinversion", "first-inversion"]
  | secondInversion => ["second", "2nd", "secondinversion", "second-inversion"]
  | smooth => ["smooth", "voice-leading", "voiceleading"]
  | pianist => ["pianist"]
  | openPosition => ["open"]
  | spread => ["spread"]
  | cocktail => ["cocktail"]

def named? (text : String) : Option Strategy :=
  all.find? fun strategy => strategy.names.any (Text.isNamed text)

end Strategy

inductive Output where
  | chordsOnly
  | chordsAndBass
  | bassOnly
  | bassAndFifth
  deriving DecidableEq, Repr

namespace Output

def all : List Output := [chordsOnly, chordsAndBass, bassOnly, bassAndFifth]

def name : Output → String
  | chordsOnly => "chords"
  | chordsAndBass => "chords+bass"
  | bassOnly => "bass"
  | bassAndFifth => "bass+fifth"

def slug : Output → String
  | chordsOnly => "chords"
  | chordsAndBass => "chords_bass"
  | bassOnly => "bass"
  | bassAndFifth => "bass_fifth"

def names : Output → List String
  | chordsOnly => ["chords", "chordsonly", "chords-only"]
  | chordsAndBass => ["chords+bass", "chordsandbass", "chords-and-bass"]
  | bassOnly => ["bass", "bassonly", "bass-only"]
  | bassAndFifth => ["bass+fifth", "bassandfifth", "bass-and-fifth", "power"]

def named? (text : String) : Option Output :=
  all.find? fun output => output.names.any (Text.isNamed text)

end Output

structure Options where
  progression : String := ""
  fileName : Option String := none
  output : Output := .chordsOnly
  strategy : Strategy := .rootPosition
  baseOctave : UInt8 := 4
  chordDuration : String := "1"
  tempo : UInt32 := 120
  velocity : UInt8 := 100
  channel : UInt8 := 0
  transpose : Int := 0
  meter : Meter := .common
  deriving DecidableEq, Repr

inductive OptionsError where
  | tempo (given : UInt32)
  | baseOctave (given : UInt8)
  | channel (given : UInt8)
  | transpose (given : Int)
  | meter (given : Meter)
  deriving DecidableEq, Repr

namespace Options

def minTempo : Nat := 4

def maxTempo : Nat := 960

def maxBaseOctave : Nat := 9

def maxTranspose : Nat := 24

def problem? (options : Options) : Option OptionsError :=
  if options.tempo.toNat < minTempo ∨ maxTempo < options.tempo.toNat then
    some (.tempo options.tempo)
  else if maxBaseOctave < options.baseOctave.toNat then some (.baseOctave options.baseOctave)
  else if 15 < options.channel then some (.channel options.channel)
  else if maxTranspose < options.transpose.natAbs then some (.transpose options.transpose)
  else if !options.meter.isValid then some (.meter options.meter)
  else none

end Options

def OptionsError.message : OptionsError → String
  | tempo given =>
    "tempo must be " ++ toString Options.minTempo ++ "-" ++ toString Options.maxTempo ++
      " BPM, got " ++ toString given.toNat
  | baseOctave given =>
    "base octave must be 0-" ++ toString Options.maxBaseOctave ++ ", got " ++ toString given.toNat
  | channel given => "channel must be 0-15, got " ++ toString given.toNat
  | transpose given =>
    "transpose must be within ±" ++ toString Options.maxTranspose ++ " semitones, got " ++
      toString given
  | meter given => "invalid time signature " ++ given.shown

end ChordChart
