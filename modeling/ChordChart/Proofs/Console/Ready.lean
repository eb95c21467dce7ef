import ChordChart.Proofs.Console.Reload
import ChordChart.Proofs.Options
import ChordChart.Proofs.Song.Encoded

/-! The options of a console that is used in any way and any order. Every setting asks for what the
generator asks for, and nothing else but the progression is ever put in their place; so options that
were usable stay so, and no song fails for them. -/
namespace ChordChart

structure Options.Ready (options : Options) : Prop extends options.Usable where
  softest : 1 ≤ options.velocity
  loudest : options.velocity ≤ 127

theorem Setting.acceptsReady {setting : Setting} {argument : String} {options changed : Options}
    (accepts : Accepts argument options setting changed) (ready : options.Ready) :
    changed.Ready := by
  have usable := acceptsUsable accepts ready.toUsable
  cases accepts with
  | @velocity value read sounds =>
    have highest := Text.naturalBelow read
    have whole : (UInt8.ofNat value).toNat = value :=
      UInt8.toNat_ofNat_of_lt' (Nat.lt_of_le_of_lt highest (by decide))
    exact ⟨usable, UInt8.le_iff_toNat_le.mpr (by simpa [whole]),
      UInt8.le_iff_toNat_le.mpr (by simpa [whole])⟩
  | tempo | octave | voicing | output | duration | transpose | channel | meter | derived | named =>
    exact ⟨usable, ready.softest, ready.loudest⟩

namespace Session

theorem askedReady {session : Session} (ready : session.options.Ready) (progression : String) :
    (session.asked progression).Ready :=
  { ready with }

theorem effectReady {session next : Session} {line : String} (ready : session.options.Ready)
    (effect : Effect session line next) : next.options.Ready := by
  refine effectKeeps (fun progression ready => askedReady ready progression) ?_ ready effect
  intro setting argument options text accepted
  exact Setting.acceptsReady (Setting.changeAccepts accepted)

theorem readyGenerates {session : Session} (ready : session.options.Ready) (progression : String)
    (cause : OptionsError) :
    Song.generate (session.asked progression) ≠ .error (.invalidOptions cause) := by
  have valid := Options.usableIff.mpr (askedReady ready progression).toUsable
  intro refused
  rw [Song.refusedIff (.invalidOptions cause) nofun, Slot.unusableIff, valid] at refused
  contradiction

end Session

namespace Console

inductive Action where
  | line (text : String)
  | watch (path : String)
  | reload (path : String)
  | event (kind : EventKind) (paths : List String)

def act (console : Console) (disk : Tree) : Action → Console
  | .line text => ((console.handleLine text : StateM Tree (String × Bool × Console)) disk).1.2.2
  | .watch path => ((console.watch path : StateM Tree (String × Console)) disk).1.2
  | .reload path => (console.reloaded path disk).1
  | .event kind paths =>
    ((console.handleEvent kind paths : StateM Tree (String × Console)) disk).1.2

/-- The console after some actions. Each meets the disk as the actions before it and other programs
left it, which may be any disk. -/
def acts (console : Console) (actions : List (Action × Tree)) : Console :=
  actions.foldl (fun console action => console.act action.2 action.1) console

theorem reloadReady {console : Console} (ready : console.session.options.Ready) (path : String)
    (disk : Tree) : (console.act disk (.reload path)).session.options.Ready := by
  dsimp only [act]
  rcases reloadOutcome console path disk with ⟨-, same⟩ | ⟨text, song, written, -, same⟩
  · rw [same]
    exact ready
  · rw [same]
    exact Session.askedReady ready _

theorem watchReady {console : Console} (ready : console.session.options.Ready) (path : String)
    (disk : Tree) : (console.act disk (.watch path)).session.options.Ready := by
  dsimp only [act]
  rw [watch, Tree.bindAt]
  generalize (console.watcher.watch path :
    StateM Tree (Except WatchError String × Watcher)) disk = observed
  obtain ⟨⟨result, watcher⟩, disk⟩ := observed
  cases result with
  | error error => exact ready
  | ok canonical => exact @reloadReady { console with watcher := watcher } ready canonical disk

theorem reloadAllReady {console : Console} (ready : console.session.options.Ready)
    (paths : List String) (disk : Tree) :
    ((console.reloadAll paths : StateM Tree (String × Console)) disk).1.2.session.options.Ready := by
  induction paths generalizing console disk with
  | nil => exact ready
  | cons path paths ih =>
    have first := reloadReady ready path disk
    rw [reloadAll, Tree.bindAt]
    exact ih first _

theorem lineReady {console : Console} (ready : console.session.options.Ready) (text : String)
    (disk : Tree) : (console.act disk (.line text)).session.options.Ready := by
  have effect := Session.answeredEffect console.color console.session text disk
  have answered := Session.effectReady ready effect
  unfold Session.answered at answered
  dsimp only [act]
  rw [handleLine, Tree.bindAt]
  generalize (reply console.color text console.session : StateM Tree (Reply × Session)) disk =
    outcome at answered ⊢
  obtain ⟨⟨reply, session⟩, disk⟩ := outcome
  cases reply with
  | success | message | exit | notACommand | error => exact answered
  | watch path =>
    have watched := @watchReady { console with session := session } answered path disk
    dsimp only [act] at watched ⊢
    rw [Tree.bindAt]
    generalize (watch _ path : StateM Tree (String × Console)) disk = outcome at watched ⊢
    exact watched

theorem actReady {console : Console} (ready : console.session.options.Ready) (disk : Tree)
    (action : Action) : (console.act disk action).session.options.Ready := by
  cases action with
  | line text => exact lineReady ready text disk
  | watch path => exact watchReady ready path disk
  | reload path => exact reloadReady ready path disk
  | event kind paths =>
    dsimp only [act]
    rw [handleEvent, Tree.bindAt]
    exact reloadAllReady ready _ _

theorem readyThroughout {console : Console} (ready : console.session.options.Ready)
    (actions : List (Action × Tree)) : (console.acts actions).session.options.Ready := by
  induction actions generalizing console with
  | nil => exact ready
  | cons action rest ih => exact ih (actReady ready action.2 action.1)

theorem actsReady {console : Console} (valid : console.session.options.problem? = none)
    (softest : 1 ≤ console.session.options.velocity)
    (loudest : console.session.options.velocity ≤ 127) (actions : List (Action × Tree)) :
    let session := (console.acts actions).session
    session.options.problem? = none ∧ 1 ≤ session.options.velocity ∧
      session.options.velocity ≤ 127 ∧
      ∀ progression cause,
        Song.generate (session.asked progression) ≠ .error (.invalidOptions cause) := by
  have start : console.session.options.Ready := ⟨Options.usableIff.mp valid, softest, loudest⟩
  have ready := readyThroughout start actions
  exact ⟨Options.usableIff.mpr ready.toUsable, ready.softest, ready.loudest,
    Session.readyGenerates ready⟩

def outermost : Options :=
  { tempo := 960, baseOctave := 9, velocity := 127, transpose := -24, channel := 15,
    meter := ⟨255, 64⟩ }

def handled : List (Action × Tree) :=
  [(.line "velocity 1", itself), (.line "transpose +24", itself), (.line "tempo 3", itself),
    (.watch "/song.mid", itself), (.event .modify ["/song.mid"], itself), (.line "C G:zz", itself)]

theorem outermostReady :
    let session := (acts { session := ⟨outermost, none⟩ } handled).session
    session.options.problem? = none ∧ 1 ≤ session.options.velocity ∧
      session.options.velocity ≤ 127 ∧
      ∀ progression cause,
        Song.generate (session.asked progression) ≠ .error (.invalidOptions cause) :=
  actsReady (by decide) (by decide) (by decide) handled

end Console

end ChordChart
