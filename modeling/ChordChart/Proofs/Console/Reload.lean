import ChordChart.Console
import ChordChart.Proofs.Convert
import ChordChart.Proofs.Disk.Tree
import ChordChart.Proofs.PianoRoll
import ChordChart.Proofs.Session.Coherence

/-! Reloading a watched file. Either nothing changes, for one of four reasons, or the song of the
file is written, kept and recorded together. The same file reloaded at once changes nothing: it
holds the progression just recorded, or it is the file just written, which is no text. -/
namespace ChordChart

namespace Console

def reloaded (console : Console) (path : String) (disk : Tree) : Console × Tree :=
  let outcome := (console.reload path : StateM Tree (String × Console)) disk
  (outcome.1.2, outcome.2)

inductive Idle (console : Console) (path : String) (disk : Tree) : Prop where
  | unreadable {cause} (failed : disk.readText path = .error cause)
  | unchanged {text} (read : disk.readText path = .ok text)
      (known : console.loaded? path = some (progressionOfText text))
  | refused {text cause} (read : disk.readText path = .ok text)
      (failed : Song.generate (console.session.asked (progressionOfText text)) = .error cause)
  | unwritable {text song cause} (read : disk.readText path = .ok text)
      (made : Song.generate (console.session.asked (progressionOfText text)) = .ok song)
      (failed : disk.write (Convert.defaultOutput path) song.bytes = .error cause)

structure Stirred (console : Console) (path : String) (disk : Tree) (text : String) (song : Song)
    (written : Tree) : Prop where
  read : disk.readText path = .ok text
  fresh : console.loaded? path ≠ some (progressionOfText text)
  made : Song.generate (console.session.asked (progressionOfText text)) = .ok song
  wrote : disk.write (Convert.defaultOutput path) song.bytes = .ok written

theorem reloadOutcome (console : Console) (path : String) (disk : Tree) :
    Idle console path disk ∧ console.reloaded path disk = (console, disk) ∨
      ∃ text song written, Stirred console path disk text song written ∧
        console.reloaded path disk =
          (console.afterReload path (progressionOfText text) song, written) := by
  unfold reloaded reload
  rw [Tree.bindAt, Convert.readProgressionAt]
  cases read : disk.readText path with
  | error cause => exact .inl ⟨.unreadable read, rfl⟩
  | ok text =>
    dsimp only [Except.mapError, Except.map]
    by_cases known : console.loaded? path = some (progressionOfText text)
    · rw [if_pos known]
      exact .inl ⟨.unchanged read known, rfl⟩
    · rw [if_neg known, Tree.bindAt]
      have outcome := Convert.fileOutcome path none console.session.options disk
      generalize (Convert.file path none console.session.options :
        StateM Tree (Except ConvertError (String × Song))) disk = result at outcome ⊢
      cases outcome with
      | unreadable failed => cases read.symm.trans failed
      | refused again failed =>
        cases read.symm.trans again
        exact .inl ⟨.refused read failed, rfl⟩
      | unwritable again made failed =>
        cases read.symm.trans again
        exact .inl ⟨.unwritable read made failed, rfl⟩
      | done again made wrote =>
        cases read.symm.trans again
        exact .inr ⟨_, _, _, ⟨read, known, made, wrote⟩, rfl⟩

def itself : Tree := ⟨[(["song.mid"], .file [67])], []⟩

end Console

end ChordChart
