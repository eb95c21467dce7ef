import ChordChart.Report
import ChordChart.Song
/-! The state of a session: the options in force, and the last song as long as no option was set
since. Each setting shows its value when asked without an argument, and takes a new one otherwise.
-/
namespace ChordChart

inductive Reply where
  | success (printed : String)
  | message (text : String)
  | exit
  | notACommand
  | error (text : String)
  | watch (path : String)
  deriving DecidableEq, Repr

inductive SessionError where
  | noProgression
  | generate (cause : GenerateError)
  deriving DecidableEq, Repr

def SessionError.message : SessionError → String
  | noProgression => "no progression yet; type one, e.g. C Am F G"
  | generate cause => cause.message

structure Session where
  options : Options := {}
  last : Option Song := none
  deriving DecidableEq, Repr

namespace Session

def generate (session : Session) : Except GenerateError Song × Session :=
  match Song.generate session.options with
  | .ok song => (.ok song, { session with last := some song })
  | .error cause => (.error cause, session)

def current (session : Session) : Except SessionError Song × Session :=
  if Text.trimmed session.options.progression = "" then (.error .noProgression, session)
  else
    match session.last with
    | some song => (.ok song, session)
    | none =>
      let (result, session) := session.generate
      (result.mapError .generate, session)

def play (color : Bool) (progression : String) (session : Session) : Reply × Session :=
  if progression = "" then (.error "Usage: gen <progression>, e.g. gen C Am F G", session)
  else
    let options := { session.options with progression := progression }
    match { session with options := options }.generate with
    | (.ok song, session) => (.message (Report.summary color song options.meter), session)
    | (.error cause, session) => (.error cause.message, session)

def inspect (view : Song → String) (session : Session) : Reply × Session :=
  match session.current with
  | (.ok song, session) => (.message (view song), session)
  | (.error cause, session) => (.error cause.message, session)

end Session

inductive Setting where
  | tempo
  | octave
  | voicing
  | output
  | velocity
  | duration
  | transpose
  | channel
  | meter
  | name
  deriving DecidableEq, Repr

inductive Change where
  | changed (options : Options) (text : String)
  | refused (text : String)
  deriving DecidableEq, Repr

namespace Setting

def marked (color : Bool) (name : String) (isCurrent : Bool) : String :=
  if isCurrent then Text.paint color [.brightGreen] ("[" ++ name ++ "]") else name

def shown (color : Bool) (options : Options) : Setting → String
  | tempo => "Current tempo: " ++ toString options.tempo.toNat ++ " BPM"
  | octave => "Base octave: " ++ toString options.baseOctave.toNat
  | voicing =>
    "Voicing: " ++ " ".intercalate (Strategy.all.map fun strategy =>
      marked color strategy.name (strategy = options.strategy))
  | output =>
    "Output: " ++ " ".intercalate (Output.all.map fun output =>
      marked color output.name (output = options.output))
  | velocity => "Velocity: " ++ toString options.velocity.toNat
  | duration => "Default chord duration: " ++ options.chordDuration
  | transpose => "Transpose: " ++ Text.signed options.transpose
  | channel => "MIDI channel: " ++ Report.channelNumber options.channel
  | meter => "Time signature: " ++ options.meter.shown
  | name =>
    match options.fileName with
    | some given => "File name: " ++ given
    | none => "File name: derived from the progression"

def changeTempo (argument : String) (options : Options) : Change :=
  match Text.natural? (UInt32.size - 1) argument.toList with
  | some value =>
    if Options.minTempo ≤ value ∧ value ≤ Options.maxTempo then
      .changed { options with tempo := UInt32.ofNat value }
        ("🎵 Tempo set to " ++ toString value ++ " BPM")
    else .refused "Invalid tempo. Use a value between 4-960 BPM"
  | none => .refused "Invalid tempo. Use a value between 4-960 BPM"

def changeOctave (argument : String) (options : Options) : Change :=
  match Text.natural? Options.maxBaseOctave argument.toList with
  | some value =>
    .changed { options with baseOctave := UInt8.ofNat value }
      ("Base octave set to " ++ toString value)
  | none => .refused "Invalid octave. Use 0-9"

def changeVoicing (argument : String) (options : Options) : Change :=
  match Strategy.named? argument with
  | some value =>
    .changed { options with strategy := value } ("Voicing set to " ++ value.name)
  | none =>
    .refused ("Unknown voicing '" ++ argument ++ "'. Options: " ++
      ", ".intercalate (Strategy.all.map Strategy.name))

def changeOutput (argument : String) (options : Options) : Change :=
  match Output.named? argument with
  | some value => .changed { options with output := value } ("Output set to " ++ value.name)
  | none =>
    .refused ("Unknown output type '" ++ argument ++ "'. Options: " ++
      ", ".intercalate (Output.all.map Output.name))

def changeVelocity (argument : String) (options : Options) : Change :=
  match Text.natural? 127 argument.toList with
  | some value =>
    if 1 ≤ value then
      .changed { options with velocity := UInt8.ofNat value }
        ("Velocity set to " ++ toString value)
    else .refused "Invalid velocity. Use 1-127"
  | none => .refused "Invalid velocity. Use 1-127"

def changeDuration (argument : String) (options : Options) : Change :=
  match Duration.parse argument options.meter with
  | .ok ticks =>
    .changed { options with chordDuration := argument }
      ("Default chord duration set to " ++ argument ++ " (" ++ toString ticks.toNat ++ " ticks)")
  | .error cause => .refused ("Invalid duration: " ++ cause.message)

def changeTranspose (argument : String) (options : Options) : Change :=
  match Text.integer? (-24) 24 (argument.toList.dropWhile (· = '+')) with
  | some value =>
    .changed { options with transpose := value }
      ("Transpose set to " ++ Text.signed value ++ " semitones")
  | none => .refused "Invalid transpose. Use -24..24"

def changeChannel (argument : String) (options : Options) : Change :=
  match Text.natural? 16 argument.toList with
  | some value =>
    if 1 ≤ value then
      .changed { options with channel := UInt8.ofNat (value - 1) }
        ("🎹 MIDI channel set to " ++ toString value)
    else .refused "Invalid channel. Use 1-16"
  | none => .refused "Invalid channel. Use 1-16"

def changeMeter (argument : String) (options : Options) : Change :=
  match Meter.parse? argument with
  | some value =>
    .changed { options with meter := value } ("Time signature set to " ++ value.shown)
  | none =>
    .refused "Invalid time signature. Use n/d with d a power of two, e.g. 3/4 or 6/8"

def changeName (argument : String) (options : Options) : Change :=
  if argument = "auto" ∨ argument = "-" then
    .changed { options with fileName := none } "File name will be derived from the progression"
  else
    .changed { options with fileName := some argument } ("File name set to " ++ argument)

def change (setting : Setting) (argument : String) (options : Options) : Change :=
  match setting with
  | tempo => changeTempo argument options
  | octave => changeOctave argument options
  | voicing => changeVoicing argument options
  | output => changeOutput argument options
  | velocity => changeVelocity argument options
  | duration => changeDuration argument options
  | transpose => changeTranspose argument options
  | channel => changeChannel argument options
  | meter => changeMeter argument options
  | name => changeName argument options

def run (color : Bool) (setting : Setting) (argument : String) (session : Session) :
    Reply × Session :=
  if argument = "" then (.message (setting.shown color session.options), session)
  else
    match setting.change argument session.options with
    | .changed options text => (.message (Text.paint color [.brightGreen] text), ⟨options, none⟩)
    | .refused text => (.error text, session)

end Setting

end ChordChart
