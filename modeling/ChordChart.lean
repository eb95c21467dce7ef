import ChordChart.Check
import ChordChart.Disk.Tree
import ChordChart.Main
import ChordChart.Midi.Document
import ChordChart.Proofs.Check
import ChordChart.Proofs.Chord
import ChordChart.Proofs.Console.Ready
import ChordChart.Proofs.Console.Reload
import ChordChart.Proofs.Convert
import ChordChart.Proofs.Convert.Layout
import ChordChart.Proofs.Convert.Source
import ChordChart.Proofs.Disk.Tree
import ChordChart.Proofs.Duration.Exact
import ChordChart.Proofs.FileName
import ChordChart.Proofs.Lengths
import ChordChart.Proofs.Midi.Permuted
import ChordChart.Proofs.Midi.Silence
import ChordChart.Proofs.Options
import ChordChart.Proofs.PianoRoll
import ChordChart.Proofs.Pitch
import ChordChart.Proofs.Progression.Entries
import ChordChart.Proofs.Progression.Joined
import ChordChart.Proofs.Progression.Normal
import ChordChart.Proofs.Progression.Tokens
import ChordChart.Proofs.Session.Coherence
import ChordChart.Proofs.Session.Confined
import ChordChart.Proofs.Session.DefaultDuration
import ChordChart.Proofs.Session.Dispatch
import ChordChart.Proofs.Slot.Appended
import ChordChart.Proofs.Slot.Bass
import ChordChart.Proofs.Slot.Placed
import ChordChart.Proofs.Slot.Repeated
import ChordChart.Proofs.Slot.Transposed
import ChordChart.Proofs.Slot.Voices
import ChordChart.Proofs.Song.Encoded
import ChordChart.Proofs.Song.Fifth
import ChordChart.Proofs.Symbol
import ChordChart.Proofs.Text.Spaced
import ChordChart.Proofs.Voicing.Bass
import ChordChart.Proofs.Voicing.Content
import ChordChart.Proofs.Voicing.Movement
import ChordChart.Proofs.Voicing.Octave
import ChordChart.Proofs.Voicing.Placement
import ChordChart.Voicing.Movement
