import ChordChart.Midi.File
import ChordChart.Progression
import ChordChart.Slot
import ChordChart.Text.Basic
import ChordChart.Voicing
/-! From options to a song: the progression is read, each chord is resolved, voiced from the one
before it and given its place in time, and the notes are written to a file under the name asked for,
or one made of the first chords and the output. -/
namespace ChordChart

namespace FileName

def namedChords : Nat := 4

def safeChar (c : Char) : Char :=
  if c.isAlphanum || c = '_' || c = '#' || c = '-' then c else '_'

def safe (name : String) : String := name.map safeChar

def derived (output : Output) (slots : List Slot) : String :=
  let symbols := ((slots.filter fun slot => !slot.isRest).take namedChords).map Slot.symbol
  let stem := if symbols.isEmpty then "progression" else safe ("-".intercalate symbols)
  stem ++ "_" ++ output.slug ++ ".mid"

def withEnding (name : String) : String :=
  if Text.endsNamed name ".mid" then name else name ++ ".mid"

def final (options : Options) (slots : List Slot) : String :=
  match options.fileName.map Text.trimmed with
  | some name => if name = "" then derived options.output slots else withEnding name
  | none => derived options.output slots

def dropEndings : List Char → List Char
  | 'd' :: 'i' :: 'm' :: '.' :: rest => dropEndings rest
  | rest => rest

def track (name : String) : String := String.ofList (dropEndings name.toList.reverse).reverse

end FileName

inductive GenerateError where
  | parse (cause : ParseError)
  | invalidOptions (cause : OptionsError)
  | tooLong
  | encode (cause : Midi.EncodeError)
  deriving DecidableEq, Repr

def GenerateError.message : GenerateError → String
  | parse cause => cause.message
  | invalidOptions cause => "invalid options: " ++ cause.message
  | tooLong => "progression is longer than " ++ toString maxTicks ++ " ticks"
  | encode cause => "MIDI encoding failed: " ++ cause.message

namespace Slot

def silent (entry : Entry) (start : Nat) : Slot where
  symbol := entry.symbol
  isValid := true
  isRest := false
  start := UInt32.ofNat start
  duration := entry.duration
  toneSet := []
  voicing := []
  bass := none
  error := none

def ofEntry (options : Options) (start : Nat) (previous : List Key) (entry : Entry) : Slot :=
  let slot := silent entry start
  match entry.kind with
  | .rest => { slot with isRest := true }
  | .chord symbol =>
    match Chord.resolve symbol options.transpose with
    | .error cause => { slot with isValid := false, error := some cause.message }
    | .ok chord =>
      let voicing := Voicing.ofChord chord options.strategy options.baseOctave previous
      { slot with toneSet := chord.toneSet, voicing := voicing.notes, bass := some voicing.bass }

def leading (previous : List Key) (slot : Slot) : List Key :=
  if slot.bass.isSome then slot.voicing else previous

def ofEntries (options : Options) : Nat → List Key → List Entry → Except GenerateError (List Slot)
  | _, _, [] => .ok []
  | start, previous, entry :: entries =>
    let stop := start + entry.duration.toNat
    if maxTicks < stop then .error .tooLong
    else
      let slot := ofEntry options start previous entry
      (ofEntries options stop (slot.leading previous) entries).map (slot :: ·)

def ofOptions (options : Options) : Except GenerateError (List Slot) :=
  match options.problem? with
  | some cause => .error (.invalidOptions cause)
  | none =>
    match Progression.parse options.progression options.chordDuration options.meter with
    | .error cause => .error (.parse cause)
    | .ok entries => ofEntries options 0 [] entries

end Slot

structure Song where
  bytes : Midi.Bytes
  fileName : String
  notes : List Note
  slots : List Slot
  deriving DecidableEq, Repr

namespace Song

def settings (options : Options) (fileName : String) : Midi.Settings :=
  ⟨options.tempo, options.meter, options.channel, some (FileName.track fileName)⟩

def ofSlots (options : Options) (slots : List Slot) : Except GenerateError Song :=
  let fileName := FileName.final options slots
  let notes := Slot.collectNotes options.output options.velocity slots
  match Midi.encode notes (settings options fileName) with
  | .error cause => .error (.encode cause)
  | .ok bytes => .ok ⟨bytes, fileName, notes, slots⟩

def generate (options : Options) : Except GenerateError Song :=
  (Slot.ofOptions options).bind (ofSlots options)

end Song

end ChordChart
