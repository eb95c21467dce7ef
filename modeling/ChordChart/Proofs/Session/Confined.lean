import ChordChart.Proofs.Options
import ChordChart.Proofs.PianoRoll
import ChordChart.Proofs.Progression.Entries
import ChordChart.Proofs.Progression.Tokens
import ChordChart.Proofs.Session.Effect
import ChordChart.Proofs.Text.Words

/-! What a command can change of a session. A setting that is refused or only asked for changes
nothing, and one that is accepted its own option and the last song, which is then gone. Commands
that show or save the song of the options can only make it the last one. -/
namespace ChordChart

theorem Song.blankRefused {options : Options} (blank : Text.trimmed options.progression = "")
    (song : Song) : generate options ≠ .ok song := by
  intro made
  obtain ⟨-, entries, parsed, -⟩ := Slot.optionsLaid (generateParts made).1
  obtain ⟨-, -, some, -⟩ := Progression.parseSource parsed
  have none : Text.trim options.progression.toList = [] := String.ofList_eq_empty_iff.mp blank
  exact some (Progression.tokensBlank (Text.trimNone none))

def Setting.Owned (before after : Options) : Setting → Prop
  | tempo => after = { before with tempo := after.tempo }
  | octave => after = { before with baseOctave := after.baseOctave }
  | voicing => after = { before with strategy := after.strategy }
  | output => after = { before with output := after.output }
  | velocity => after = { before with velocity := after.velocity }
  | duration => after = { before with chordDuration := after.chordDuration }
  | transpose => after = { before with transpose := after.transpose }
  | channel => after = { before with channel := after.channel }
  | meter => after = { before with meter := after.meter }
  | name => after = { before with fileName := after.fileName }

theorem Setting.acceptsOwned {setting : Setting} {argument : String} {options changed : Options}
    (accepts : Accepts argument options setting changed) : setting.Owned options changed := by
  cases accepts <;> rfl

namespace Session

def withSong (session : Session) : Session :=
  ⟨session.options, session.last.or (Song.generate session.options).toOption⟩

theorem currentSession (session : Session) : session.current.2 = session.withSong := by
  unfold current withSong
  cases held : session.last with
  | some song =>
    have same : session = ⟨session.options, some song⟩ := by rw [← held]
    split
    · exact same
    · exact same
  | none =>
    rw [Option.none_or]
    split
    · rename_i blank
      cases made : Song.generate session.options with
      | ok song => exact absurd made (Song.blankRefused blank song)
      | error cause => rw [Except.toOption, ← held]
    · rw [generateSession, held, Option.or_none]

end Session

namespace Command

def Confined (argument : String) (before : Session) (reply : Reply) (after : Session) :
    Command → Prop
  | gen => after.options = before.asked after.options.progression
  | save | details | notes | json => after = before.withSong
  | set setting =>
    (argument = "" ∨ (∃ text, reply = .error text) → after = before) ∧
      (argument ≠ "" ∧ (∀ text, reply ≠ .error text) →
        after.last = none ∧ setting.Owned before.options after.options)
  | options | qualities | help | quit | watch => after = before

theorem setConfined (color : Bool) (setting : Setting) (argument : String) (session : Session) :
    (set setting).Confined argument session (setting.run color argument session).1
      (setting.run color argument session).2 := by
  unfold Setting.run
  split
  · rename_i asked
    exact ⟨fun _ => rfl, fun given => absurd asked given.1⟩
  · rename_i given
    cases accepted : setting.change argument session.options with
    | changed options text =>
      refine ⟨?_, fun _ => ⟨rfl, Setting.acceptsOwned (Setting.changeAccepts accepted)⟩⟩
      rintro (asked | ⟨text, refused⟩)
      · exact absurd asked given
      · contradiction
    | refused text => exact ⟨fun _ => rfl, fun accepted => absurd rfl (accepted.2 text)⟩

theorem runConfined (color : Bool) (command : Command) (argument : String) (session : Session)
    (disk : Tree) :
    let outcome := (command.run color argument session : StateM Tree (Reply × Session)) disk
    command.Confined argument session outcome.1.1 outcome.1.2 := by
  cases command with
  | gen =>
    by_cases given : argument = ""
    · simp [Confined, run, pure, StateT.pure, Session.play, given, Session.asked]
    · simp only [Confined, run, pure, StateT.pure, Session.playSession color session given]
      rfl
  | save => simp only [Confined, run, Session.saveSession, Session.currentSession]
  | details | notes | json =>
    simp only [Confined, run, pure, StateT.pure, Session.inspectSession, Session.currentSession]
  | set setting => exact setConfined color setting argument session
  | options | qualities | help | quit | watch => rfl

end Command

end ChordChart
