import ChordChart.Chord
import ChordChart.Progression
/-! Checking a progression without generating it: a text that cannot be read has one fatal issue, a
text that can has one issue for each chord that would stay silent. -/
namespace ChordChart

structure Issue where
  message : String
  token : Option String
  isFatal : Bool
  deriving DecidableEq, Repr

structure Check where
  success : Bool
  chordCount : Nat
  issues : List Issue
  deriving DecidableEq, Repr

namespace Check

def issue? (entry : Entry) : Option Issue :=
  match entry.chord?.map fun symbol => Chord.resolve symbol 0 with
  | some (.error cause) => some ⟨cause.message, some entry.symbol, false⟩
  | _ => none

def ofEntries (entries : List Entry) : Check :=
  let issues := entries.filterMap issue?
  ⟨issues.isEmpty, (entries.filter fun entry => !entry.isRest).length, issues⟩

def ofText (text default : String) (meter : Meter) : Check :=
  match Progression.parse text default meter with
  | .error cause => ⟨false, 0, [⟨cause.message, cause.token?, true⟩]⟩
  | .ok entries => ofEntries entries

end Check

end ChordChart
