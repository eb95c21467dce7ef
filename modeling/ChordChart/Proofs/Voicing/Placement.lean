import ChordChart.Proofs.Chord
import ChordChart.Voicing
import ChordChart.Voicing.Movement
import Mathlib.Data.List.Chain
import Mathlib.Data.List.Nodup
import Mathlib.Tactic.Linarith
import Mathlib.Tactic.Ring

/-! What the layouts do to the classes of a chord and how low they reach. Each layout keeps the
class of every tone, and none goes further below its base than the octave of a left hand. A stack
gives each class the first pitch it can have, and no choice of higher pitches lets a later class
come lower. -/
namespace ChordChart.Placement

theorem atOrAboveFloor (pc : PitchClass) (floor : Int) : floor ≤ atOrAbove pc floor := by
  unfold atOrAbove
  dsimp only
  split <;> omega

theorem atOrAboveClass {pc : PitchClass} (known : pc < 12) (floor : Int) :
    classOf (atOrAbove pc floor) = pc := by
  have small : pc.toNat < 12 := known
  refine classKnown ?_
  unfold atOrAbove
  dsimp only
  split <;> omega

theorem atOrAboveClasses {pcs : List PitchClass} (known : ∀ pc ∈ pcs, pc < 12) (floor : Int) :
    (pcs.map fun pc => atOrAbove pc floor).map classOf = pcs := by
  induction pcs with
  | nil => rfl
  | cons pc pcs ih =>
    obtain ⟨first, others⟩ := List.forall_mem_cons.mp known
    rw [List.map_cons, List.map_cons, atOrAboveClass first, ih others]

theorem atOrAboveOctave {pc : PitchClass} (known : pc < 12) (octave : Int) :
    atOrAbove pc (12 * octave) = 12 * octave + pc.toNat := by
  have small : pc.toNat < 12 := known
  unfold atOrAbove
  dsimp only
  split <;> omega

structure Placed (follows : Int → Int → Prop) (floor : Int) (pcs : List PitchClass)
    (pitches : List Int) : Prop where
  classes : pitches.map classOf = pcs
  first : ∀ pitch ∈ pitches.head?, floor ≤ pitch
  next : pitches.IsChain follows

def Apart (gap low high : Int) : Prop := low + gap ≤ high

theorem placedCons {gap floor pitch : Int} {pc : PitchClass} {pcs : List PitchClass}
    {pitches : List Int} :
    Placed (Apart gap) floor (pc :: pcs) (pitch :: pitches) ↔
      classOf pitch = pc ∧ floor ≤ pitch ∧ Placed (Apart gap) (pitch + gap) pcs pitches := by
  constructor
  · intro placed
    obtain ⟨classed, others⟩ := List.cons.inj placed.classes
    obtain ⟨second, rest⟩ := List.isChain_cons.mp placed.next
    exact ⟨classed, placed.first pitch rfl, others, second, rest⟩
  · rintro ⟨rfl, high, placed⟩
    refine ⟨congrArg _ placed.classes, ?_, List.isChain_cons.mpr ⟨placed.first, placed.next⟩⟩
    rintro _ ⟨⟩
    exact high

theorem stackPlaced {gap floor : Int} {pcs : List PitchClass} (known : ∀ pc ∈ pcs, pc < 12) :
    Placed (Apart gap) floor pcs (stack gap floor pcs) := by
  induction pcs generalizing floor with
  | nil => exact ⟨rfl, nofun, .nil⟩
  | cons pc pcs ih =>
    obtain ⟨first, others⟩ := List.forall_mem_cons.mp known
    exact placedCons.mpr ⟨atOrAboveClass first floor, atOrAboveFloor pc floor, ih others⟩

theorem stackClasses {gap floor : Int} {pcs : List PitchClass} (known : ∀ pc ∈ pcs, pc < 12) :
    (stack gap floor pcs).map classOf = pcs :=
  (stackPlaced known).classes

theorem stackFloor {gap : Int} (upward : 0 ≤ gap) {floor : Int} {pcs : List PitchClass} :
    ∀ pitch ∈ stack gap floor pcs, floor ≤ pitch := by
  induction pcs generalizing floor with
  | nil => simp [stack]
  | cons pc pcs ih =>
    have first := atOrAboveFloor pc floor
    refine List.forall_mem_cons.mpr ⟨first, fun pitch member => ?_⟩
    have later := ih pitch member
    omega

def Raised (pitches raised : List Int) : Prop :=
  List.Forall₂ (fun pitch up => up = pitch ∨ up = pitch + 12) pitches raised

theorem raisedClasses {pitches raised : List Int} (moved : Raised pitches raised) :
    raised.map classOf = pitches.map classOf := by
  induction moved with
  | nil => rfl
  | cons step next ih =>
    rw [List.map_cons, List.map_cons, ih]
    rcases step with rfl | rfl <;> simp

theorem raisedFloor {pitches raised : List Int} (moved : Raised pitches raised) {floor : Int}
    (bounded : ∀ pitch ∈ pitches, floor ≤ pitch) : ∀ pitch ∈ raised, floor ≤ pitch := by
  induction moved with
  | nil => exact bounded
  | cons step next ih =>
    obtain ⟨first, others⟩ := List.forall_mem_cons.mp bounded
    exact List.forall_mem_cons.mpr ⟨by omega, ih others⟩

theorem raisedSame (pitches : List Int) : Raised pitches pitches := by
  induction pitches with
  | nil => exact .nil
  | cons pitch pitches ih => exact .cons (.inl rfl) ih

theorem takeRaised (pitches : List Int) (count : Nat) :
    Raised pitches ((pitches.take count).map (· + 12) ++ pitches.drop count) := by
  induction pitches generalizing count with
  | nil => simpa using raisedSame []
  | cons pitch pitches ih =>
    cases count with
    | zero => exact raisedSame _
    | succ count => exact .cons (.inr rfl) (ih count)

theorem alternateRaised (pitches : List Int) : Raised pitches (raiseAlternate pitches) := by
  fun_induction raiseAlternate pitches with
  | case1 low next rest ih => exact .cons (.inl rfl) (.cons (.inr rfl) ih)
  | case2 pitches => exact raisedSame pitches

theorem keysOfClassIff {pc : PitchClass} (known : pc < 12) {pitch : Int} :
    pitch ∈ keysOfClass pc ↔ classOf pitch = pc ∧ 0 ≤ pitch ∧ pitch ≤ 127 := by
  have small : pc.toNat < 12 := known
  simp only [keysOfClass, List.mem_filter, List.mem_map, List.mem_range, decide_eq_true_eq]
  constructor
  · rintro ⟨⟨octave, -, rfl⟩, high⟩
    exact ⟨classKnown (by omega), by omega, high⟩
  · rintro ⟨rfl, low, high⟩
    have same := classNat pitch
    exact ⟨⟨(pitch / 12).toNat, by omega, by omega⟩, high⟩

theorem placedFrom {follows : Int → Int → Prop} {floor lower : Int} {pcs : List PitchClass}
    {pitches : List Int} (placed : Placed follows floor pcs pitches) (under : lower ≤ floor) :
    Placed follows lower pcs pitches :=
  ⟨placed.classes, fun pitch head => under.trans (placed.first pitch head), placed.next⟩

theorem atOrAboveLeast {pitch floor : Int} (high : floor ≤ pitch) :
    atOrAbove (classOf pitch) floor ≤ pitch := by
  have same := classNat pitch
  unfold atOrAbove
  dsimp only
  split <;> omega

theorem stackLeast {gap floor : Int} {pcs : List PitchClass} {pitches : List Int}
    (placed : Placed (Apart gap) floor pcs pitches) :
    List.Forall₂ (· ≤ ·) (stack gap floor pcs) pitches := by
  induction pitches generalizing floor pcs with
  | nil =>
    cases placed.classes
    exact .nil
  | cons pitch pitches ih =>
    cases placed.classes
    obtain ⟨-, high, behind⟩ := placedCons.mp placed
    have lowest := atOrAboveLeast high
    exact .cons lowest (ih (placedFrom behind (Int.add_le_add_right lowest gap)))

theorem stackCeiling {gap floor : Int} (some : 0 < gap) {pcs : List PitchClass}
    (known : ∀ pc ∈ pcs, pc < 12) :
    ∀ pitch ∈ stack gap floor pcs, pitch < floor + (11 + gap) * pcs.length := by
  induction pcs generalizing floor with
  | nil => nofun
  | cons pc pcs ih =>
    obtain ⟨first, others⟩ := List.forall_mem_cons.mp known
    have small : pc.toNat < 12 := first
    have low : atOrAbove pc floor ≤ floor + 11 := by
      unfold atOrAbove
      dsimp only
      split <;> omega
    have wide : 0 ≤ (11 + gap) * (pcs.length : Int) := by positivity
    have further :
        (11 + gap) * ((pc :: pcs).length : Int) = 11 + gap + (11 + gap) * pcs.length := by
      push_cast [List.length_cons]
      ring
    rw [further]
    refine List.forall_mem_cons.mpr ⟨by linarith, fun pitch member => ?_⟩
    have later := ih others pitch member
    linarith

theorem stackedLowest {pcs : List PitchClass} (known : ∀ pc ∈ pcs, pc < 12) (start : Int) :
    (Placed (· < ·) start pcs (close start pcs) ∧
      (∀ pitches, Placed (· < ·) start pcs pitches →
        List.Forall₂ (· ≤ ·) (close start pcs) pitches) ∧
      ∀ pitch ∈ close start pcs, pitch < start + 12 * pcs.length) ∧
    Placed (fun low high => low + 12 ≤ high) start pcs (spread start pcs) ∧
      (∀ pitches, Placed (fun low high => low + 12 ≤ high) start pcs pitches →
        List.Forall₂ (· ≤ ·) (spread start pcs) pitches) ∧
      ∀ pitch ∈ spread start pcs, pitch < start + 23 * pcs.length := by
  refine ⟨⟨@stackPlaced 1 _ _ known, fun pitches => @stackLeast 1 _ _ pitches, ?_⟩,
    stackPlaced known, fun pitches => stackLeast, ?_⟩
  · exact stackCeiling (by decide) known
  · exact stackCeiling (by decide) known

theorem repeatedStacked :
    (∀ pc ∈ ([7, 7, 2] : List PitchClass), pc < 12) ∧
      close (-5) [7, 7, 2] = [-5, 7, 14] ∧
      List.Forall₂ (· ≤ ·) (close (-5) [7, 7, 2]) [7, 19, 26] ∧
      spread (-5) [7, 7, 2] = [-5, 7, 26] ∧
      List.Forall₂ (· ≤ ·) (spread (-5) [7, 7, 2]) [-5, 19, 38] := by
  have known : ∀ pc ∈ ([7, 7, 2] : List PitchClass), pc < 12 := by simp
  obtain ⟨⟨-, lowest, -⟩, -, lowestSpread, -⟩ := stackedLowest known (-5)
  have higher : Placed (· < ·) (-5) [7, 7, 2] [7, 19, 26] := ⟨by decide, by simp, by simp⟩
  have wider : Placed (fun low high => low + 12 ≤ high) (-5) [7, 7, 2] [-5, 19, 38] :=
    ⟨by decide, by simp, by simp⟩
  exact ⟨known, by decide, lowest _ higher, by decide, lowestSpread _ wider⟩

end ChordChart.Placement
