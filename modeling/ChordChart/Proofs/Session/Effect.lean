import ChordChart.Console
import ChordChart.Disk.Tree
import Mathlib

/-! Everything that a line of input can do to a session: once for all commands, so that a law about
sessions looks at five effects and never at the commands. The disk is a tree; what is written to it
is not followed here. -/
namespace ChordChart

def Command.sorted : Registry Command :=
  ⟨[("transpose", .set .transpose), ("qualities", .qualities), ("velocity", .set .velocity),
    ("duration", .set .duration), ("details", .details), ("options", .options),
    ("voicing", .set .voicing), ("channel", .set .channel), ("timesig", .set .meter),
    ("octave", .set .octave), ("output", .set .output), ("notes", .notes),
    ("tempo", .set .tempo), ("watch", .watch), ("save", .save), ("json", .json),
    ("name", .set .name), ("help", .help), ("quit", .quit), ("exit", .quit), ("gen", .gen)]⟩

theorem Command.registrySorted : registry = sorted := by
  cbv

theorem Command.sortedFinds {line : String} {call : Command × String}
    (found : sorted.find? line = some call) : registry.find? line = some call :=
  registrySorted ▸ found

def Command.progression? (line : String) : Option String :=
  match registry.find? line with
  | some (.gen, argument) => some argument
  | some _ => none
  | none => some line

namespace Session

def answered (color : Bool) (session : Session) (line : String) (disk : Tree) : Session :=
  ((Console.reply color line session : StateM Tree (Reply × Session)) disk).1.2

/-- The session after some lines. Each meets the disk as the lines before it and other programs left
it, which may be any disk. -/
def run (color : Bool) (session : Session) (lines : List (String × Tree)) : Session :=
  lines.foldl (fun session line => answered color session line.1 line.2) session

def executed (color : Bool) (session : Session) (line : String) (disk : Tree) : Session :=
  ((Command.execute color line session : StateM Tree (Reply × Session)) disk).1.2

def commanded (color : Bool) (session : Session) (lines : List (String × Tree)) : Session :=
  lines.foldl (fun session line => executed color session line.1 line.2) session

def asked (session : Session) (progression : String) : Options :=
  { session.options with progression := progression }

inductive Effect (session : Session) (line : String) : Session → Prop where
  | kept : Effect session line session
  | recalled {song} (stale : session.last = none)
      (made : Song.generate session.options = .ok song) :
      Effect session line ⟨session.options, some song⟩
  | changed {setting argument options text}
      (called : Command.registry.find? line = some (.set setting, argument))
      (accepted : Setting.change setting argument session.options = .changed options text) :
      Effect session line ⟨options, none⟩
  | played {progression song} (named : Command.progression? line = some progression)
      (given : progression ≠ "")
      (made : Song.generate (session.asked progression) = .ok song) :
      Effect session line ⟨session.asked progression, some song⟩
  | failed {progression cause} (named : Command.progression? line = some progression)
      (given : progression ≠ "")
      (refused : Song.generate (session.asked progression) = .error cause) :
      Effect session line ⟨session.asked progression, session.last⟩

theorem effectKeeps {P : Options → Prop} {session next : Session} {line : String}
    (asks : ∀ progression, P session.options → P (session.asked progression))
    (sets : ∀ {setting argument options text},
      Setting.change setting argument session.options = .changed options text →
        P session.options → P options)
    (holds : P session.options) (effect : Effect session line next) : P next.options := by
  cases effect with
  | kept | recalled => exact holds
  | changed called accepted => exact sets accepted holds
  | played | failed => exact asks _ holds

theorem generateSession (session : Session) :
    session.generate =
      (Song.generate session.options,
        { session with last := (Song.generate session.options).toOption.or session.last }) := by
  unfold generate
  cases Song.generate session.options <;> rfl

theorem currentEffect (session : Session) (line : String) :
    Effect session line session.current.2 := by
  unfold current
  split
  · exact .kept
  · split
    · exact .kept
    · rename_i stale
      simp only [generateSession, stale]
      cases made : Song.generate session.options with
      | ok song => exact .recalled stale made
      | error cause =>
        have same : (⟨session.options, none⟩ : Session) = session := by rw [← stale]
        simpa [Except.toOption, same] using Effect.kept

theorem inspectSession (view : Song → String) (session : Session) :
    (session.inspect view).2 = session.current.2 := by
  unfold inspect
  split <;> simp [*]

theorem playSession (color : Bool) (session : Session) {progression : String}
    (given : progression ≠ "") :
    (session.play color progression).2 =
      ⟨session.asked progression,
        (Song.generate (session.asked progression)).toOption.or session.last⟩ := by
  unfold play
  rw [if_neg given]
  simp only [generateSession, ← asked.eq_1]
  cases Song.generate (session.asked progression) <;> rfl

theorem playEffect {line progression : String} (color : Bool) (session : Session)
    (named : Command.progression? line = some progression) :
    Effect session line (session.play color progression).2 := by
  by_cases given : progression = ""
  · have same : (session.play color progression).2 = session := by simp [play, given]
    rw [same]
    exact .kept
  · rw [playSession color session given]
    cases made : Song.generate (session.asked progression) with
    | ok song => exact .played named given made
    | error cause => exact .failed named given made

theorem setEffect {line argument : String} {setting : Setting} (color : Bool) (session : Session)
    (called : Command.registry.find? line = some (.set setting, argument)) :
    Effect session line (setting.run color argument session).2 := by
  unfold Setting.run
  split
  · exact .kept
  · split
    · rename_i accepted
      exact .changed called accepted
    · exact .kept

theorem saveSession (color : Bool) (argument : String) (session : Session) (disk : Tree) :
    ((Command.runSave color argument session : StateM Tree (Reply × Session)) disk).1.2 =
      session.current.2 := by
  unfold Command.runSave
  obtain ⟨result, later⟩ := session.current
  cases result with
  | error cause => rfl
  | ok song =>
    simp only [bind, StateT.bind]
    split
    split
    split <;> rfl

theorem commandEffect {line argument : String} {command : Command} (color : Bool)
    (session : Session) (disk : Tree)
    (called : Command.registry.find? line = some (command, argument)) :
    Effect session line
      ((command.run color argument session : StateM Tree (Reply × Session)) disk).1.2 := by
  cases command with
  | gen => exact playEffect color session (by simp [Command.progression?, called])
  | save =>
    simp only [Command.run, saveSession]
    exact currentEffect session line
  | details | notes | json =>
    simp only [Command.run, pure, StateT.pure, inspectSession]
    exact currentEffect session line
  | set setting => exact setEffect color session called
  | options | qualities | help | quit | watch => exact .kept

theorem commandReply (color : Bool) (command : Command) (argument : String) (session : Session)
    (disk : Tree) :
    ((command.run color argument session : StateM Tree (Reply × Session)) disk).1.1 ≠
      .notACommand := by
  cases command with
  | gen =>
    simp only [Command.run, pure, StateT.pure, play]
    repeat' split
    all_goals simp
  | save =>
    simp only [Command.run, Command.runSave]
    obtain ⟨result, later⟩ := session.current
    cases result with
    | error cause => simp [pure, StateT.pure]
    | ok song =>
      simp only [bind, StateT.bind]
      split
      split
      split <;> simp [pure, StateT.pure]
  | details | notes | json =>
    simp only [Command.run, pure, StateT.pure, inspect]
    split <;> simp
  | set setting =>
    simp only [Command.run, pure, StateT.pure, Setting.run]
    repeat' split
    all_goals simp
  | watch =>
    simp only [Command.run, pure, StateT.pure]
    split <;> simp
  | options | qualities | help | quit => simp [Command.run, pure, StateT.pure]

theorem answeredCall {line argument : String} {command : Command} (color : Bool)
    (session : Session) (disk : Tree)
    (called : Command.registry.find? line = some (command, argument)) :
    answered color session line disk =
      ((command.run color argument session : StateM Tree (Reply × Session)) disk).1.2 := by
  have replied := commandReply color command argument session disk
  unfold answered Console.reply Command.execute
  simp only [called, bind, StateT.bind]
  generalize (command.run color argument session : StateM Tree (Reply × Session)) disk = outcome
    at replied ⊢
  obtain ⟨⟨reply, later⟩, reached⟩ := outcome
  cases reply with
  | notACommand => exact absurd rfl replied
  | success | message | exit | error | watch => rfl

theorem answeredEffect (color : Bool) (session : Session) (line : String) (disk : Tree) :
    Effect session line (answered color session line disk) := by
  cases found : Command.registry.find? line with
  | none =>
    unfold answered Console.reply Command.execute
    simp only [found]
    exact playEffect color session (by simp [Command.progression?, found])
  | some call =>
    rw [answeredCall color session disk found]
    exact commandEffect color session disk found

theorem executedCall {line argument : String} {command : Command} (color : Bool)
    (session : Session) (disk : Tree)
    (called : Command.registry.find? line = some (command, argument)) :
    executed color session line disk =
      ((command.run color argument session : StateM Tree (Reply × Session)) disk).1.2 := by
  unfold executed Command.execute
  rw [called]

theorem executedEffect (color : Bool) (session : Session) (line : String) (disk : Tree) :
    Effect session line (executed color session line disk) := by
  cases found : Command.registry.find? line with
  | none =>
    unfold executed Command.execute
    rw [found]
    exact .kept
  | some call =>
    rw [executedCall color session disk found]
    exact commandEffect color session disk found

theorem executedSet {line argument : String} {setting : Setting} {session : Session}
    {options : Options} {text : String} (color : Bool) (disk : Tree)
    (called : Command.registry.find? line = some (.set setting, argument)) (given : argument ≠ "")
    (accepted : setting.change argument session.options = .changed options text) :
    executed color session line disk = ⟨options, none⟩ := by
  rw [executedCall color session disk called]
  simp only [Command.run, pure, StateT.pure, Setting.run, if_neg given, accepted]

theorem answeredGen {line progression : String} (color : Bool) (session : Session) (disk : Tree)
    (called : Command.registry.find? line = some (.gen, progression)) (given : progression ≠ "") :
    answered color session line disk =
      ⟨session.asked progression,
        (Song.generate (session.asked progression)).toOption.or session.last⟩ := by
  rw [answeredCall color session disk called]
  exact playSession color session given

end Session

end ChordChart
