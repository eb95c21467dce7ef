import ChordChart.Proofs.Voicing.Content
import Mathlib

/-! The bass of a voicing. It starts an octave below the base and goes down by octaves until it is
below the chord; so it is the highest key of its class that is below both, and where the way down
leaves the keys it is the lowest key of its class. -/
namespace ChordChart

namespace Placement

theorem lowerBelowUnder (ceiling pitch : Int) : lowerBelow ceiling pitch < ceiling := by
  unfold lowerBelow
  split <;> omega

theorem lowerBelowOctaves (ceiling pitch : Int) :
    lowerBelow ceiling pitch % 12 = pitch % 12 := by
  unfold lowerBelow
  split <;> omega

theorem bassPlaced (octave : Nat) {key : Key} (range : key ≤ 127) {pc : PitchClass}
    (known : pc < 12) :
    let bass := foldIntoRange (bassBelow (12 * octave) (some key) pc)
    bass % 12 = pc ∧ (bass < key ↔ pc < key) ∧ (¬ bass < key → bass = pc) := by
  have small : pc.toNat < 12 := known
  have high : key.toNat ≤ 127 := range
  have under : bassBelow (12 * octave) (some key) pc < key.toNat := lowerBelowUnder _ _
  have octaves : bassBelow (12 * octave) (some key) pc % 12 = pc.toNat :=
    (lowerBelowOctaves _ _).trans (by omega)
  have same := (foldClass _).trans (classKnown octaves)
  simp only [UInt8.lt_iff_toNat_lt]
  rcases Int.lt_or_le (bassBelow (12 * octave) (some key) pc) 0 with below | room
  · have kept := foldBelow below
    have lowest : foldIntoRange (bassBelow (12 * octave) (some key) pc) = pc :=
      UInt8.toNat_inj.mp (by omega)
    rw [lowest] at same ⊢
    exact ⟨same, Iff.rfl, fun _ => rfl⟩
  · have kept := foldInside room (by omega)
    exact ⟨same, by omega, by omega⟩

end Placement

namespace Voicing

open Placement

def Founded (voicing : Voicing) : Prop := ∀ key ∈ voicing.notes, voicing.bass < key

theorem lowestVoiced {chord : Chord} (formed : chord.WellFormed) (strategy : Strategy)
    (octave : UInt8) (previous : List Key) :
    let voicing := ofChord chord strategy octave previous
    ∃ lowest, voicing.lowest? = some lowest ∧ lowest ∈ voicing.notes ∧
      ∀ key ∈ voicing.notes, lowest ≤ key := by
  intro voicing
  have sorted : voicing.notes.Pairwise (· ≤ ·) := notesAscending chord strategy octave previous
  obtain ⟨lowest, keys, notes⟩ :=
    List.exists_cons_of_ne_nil (notesSome formed strategy octave previous)
  have split : voicing.notes = lowest :: keys := notes
  rw [split] at sorted
  rw [lowest?, split]
  refine ⟨lowest, rfl, List.mem_cons_self, List.forall_mem_cons.mpr ⟨UInt8.le_refl _, ?_⟩⟩
  exact fun key member => List.rel_of_pairwise_cons sorted member

theorem bassFolded {chord : Chord} {strategy : Strategy} {octave : UInt8} {previous : List Key}
    {lowest : Key} (found : (ofChord chord strategy octave previous).lowest? = some lowest) :
    (ofChord chord strategy octave previous).bass =
      foldIntoRange (bassBelow (12 * octave.toNat) (some lowest) chord.bass) := by
  rw [← found]
  rfl

theorem bassFounded {chord : Chord} (formed : chord.WellFormed) (strategy : Strategy)
    (octave : UInt8) (previous : List Key) :
    let voicing := ofChord chord strategy octave previous
    voicing.bass % 12 = chord.bass ∧
      (voicing.Founded ↔ ∀ key ∈ voicing.notes, chord.bass < key) ∧
      (¬ voicing.Founded → voicing.bass = chord.bass) := by
  intro voicing
  obtain ⟨lowest, found, member, least⟩ := lowestVoiced formed strategy octave previous
  have below : ∀ bass, (∀ key ∈ voicing.notes, bass < key) ↔ bass < lowest := fun bass =>
    ⟨fun under => under lowest member,
      fun under key inside => UInt8.lt_of_lt_of_le under (least key inside)⟩
  rw [Founded, below, below, show voicing.bass = _ from bassFolded found]
  exact bassPlaced octave.toNat (notesRange chord strategy octave previous lowest member) formed.bass

end Voicing

namespace Placement

def descent (ceiling pitch : Int) : List Int :=
  if pitch < ceiling then [pitch] else pitch :: descent ceiling (pitch - 12)
termination_by (pitch - ceiling + 1).toNat
decreasing_by omega

theorem lowerBelowFurther {ceiling pitch : Int} (reaches : ¬ pitch < ceiling) :
    lowerBelow ceiling pitch = lowerBelow ceiling (pitch - 12) := by
  unfold lowerBelow
  rw [if_neg reaches]
  split <;> omega

theorem descentStops (ceiling pitch : Int) :
    (descent ceiling pitch).getLast? = some (lowerBelow ceiling pitch) := by
  fun_induction descent ceiling pitch with
  | case1 pitch below => rw [lowerBelow, if_pos below, List.getLast?_singleton]
  | case2 pitch reaches ih =>
    rw [lowerBelowFurther reaches, List.getLast?_cons, ih, Option.getD_some]

theorem descentWithin {ceiling pitch : Int} :
    ∀ passed ∈ descent ceiling pitch,
      passed ≤ pitch ∧ (pitch ≤ passed ∨ ceiling - 12 ≤ passed) := by
  fun_induction descent ceiling pitch with
  | case1 pitch below => simp
  | case2 pitch reaches ih =>
    refine List.forall_mem_cons.mpr ⟨⟨Int.le_refl _, .inl (Int.le_refl _)⟩, fun passed member => ?_⟩
    have later := ih passed member
    omega

theorem lowerBelowGreatest (ceiling pitch : Int) :
    IsGreatest {other | other % 12 = pitch % 12 ∧ other < ceiling ∧ other ≤ pitch}
      (lowerBelow ceiling pitch) := by
  have under := lowerBelowUnder ceiling pitch
  have octaves := lowerBelowOctaves ceiling pitch
  refine ⟨⟨octaves, under, ?_⟩, ?_⟩
  · unfold lowerBelow
    split <;> omega
  · rintro other ⟨same, below, high⟩
    unfold lowerBelow
    split <;> omega

def bassStart (octave : UInt8) (pc : PitchClass) : Int := 12 * octave.toNat - 12 + pc.toNat

structure BassKey (octave : UInt8) (pc : PitchClass) (lowest : Key) (key : Int) : Prop where
  low : 0 ≤ key
  high : key ≤ 127
  same : key % 12 = pc.toNat
  below : key < lowest.toNat
  start : key ≤ bassStart octave pc

theorem bassKeyGreatest {octave : UInt8} {pc : PitchClass} (known : pc < 12) {lowest : Key}
    (range : lowest ≤ 127) :
    let bass := foldIntoRange (lowerBelow lowest.toNat (bassStart octave pc))
    ((∃ key, BassKey octave pc lowest key) →
        IsGreatest {key | BassKey octave pc lowest key} (bass.toNat : Int)) ∧
      ((¬ ∃ key, BassKey octave pc lowest key) → bass = pc) := by
  intro bass
  have small : pc.toNat < 12 := known
  have top : lowest.toNat ≤ 127 := range
  have classed : bassStart octave pc % 12 = pc.toNat := by
    unfold bassStart
    omega
  obtain ⟨⟨octaves, under, high⟩, greatest⟩ :=
    lowerBelowGreatest lowest.toNat (bassStart octave pc)
  have reached : ∀ key, BassKey octave pc lowest key →
      key ≤ lowerBelow lowest.toNat (bassStart octave pc) := fun key taken =>
    greatest ⟨taken.same.trans classed.symm, taken.below, taken.start⟩
  rcases Int.lt_or_le (lowerBelow lowest.toNat (bassStart octave pc)) 0 with left | inside
  · -- the way down has left the keys, and folding comes back to the lowest octave
    have none : ¬ ∃ key, BassKey octave pc lowest key := by
      rintro ⟨key, taken⟩
      have bound := reached key taken
      have low := taken.low
      omega
    have folded : (bass.toNat : Int) = lowerBelow lowest.toNat (bassStart octave pc) % 12 :=
      foldBelow left
    exact ⟨fun some => absurd some none, fun _ => UInt8.toNat_inj.mp (by omega)⟩
  · have kept : (bass.toNat : Int) = lowerBelow lowest.toNat (bassStart octave pc) :=
      foldInside inside (by omega)
    have taken : BassKey octave pc lowest (bass.toNat : Int) := by
      rw [kept]
      exact ⟨inside, by omega, octaves.trans classed, under, high⟩
    refine ⟨fun _ => ⟨taken, fun key other => ?_⟩, fun none => absurd ⟨_, taken⟩ none⟩
    rw [kept]
    exact reached key other

end Placement

namespace Voicing

open Placement

def Fits (pitch : Int) : Prop := -0x80000000 ≤ pitch ∧ pitch < 0x80000000

theorem descentFits (octave : UInt8) {pc : PitchClass} (known : pc < 12) (lowest : Key) :
    ∀ pitch ∈ descent lowest.toNat (bassStart octave pc), Fits pitch := by
  intro pitch passed
  have small : pc.toNat < 12 := known
  have byte := octave.toNat_lt
  have within := descentWithin pitch passed
  unfold bassStart at within
  unfold Fits
  omega

/-- The bass of a voicing is the highest key of its class that is below the chord and no higher than
the octave below the base, or the lowest key of its class where there is no such key. The way down
to it ends, and no pitch on it leaves the words it is computed in. -/
theorem bassExact {chord : Chord} (made : chord.Made) (strategy : Strategy) (octave : UInt8)
    (previous : List Key) :
    let voicing := ofChord chord strategy octave previous
    ∃ lowest, voicing.lowest? = some lowest ∧ lowest ∈ voicing.notes ∧
      (∀ key ∈ voicing.notes, lowest ≤ key) ∧
      ((∃ key, BassKey octave chord.bass lowest key) →
        IsGreatest {key | BassKey octave chord.bass lowest key} (voicing.bass.toNat : Int)) ∧
      ((¬ ∃ key, BassKey octave chord.bass lowest key) → voicing.bass = chord.bass) ∧
      voicing.bass % 12 = chord.bass ∧ (voicing.bass < lowest ↔ chord.bass < lowest) ∧
      (∃ stop, (descent lowest.toNat (bassStart octave chord.bass)).getLast? = some stop ∧
        stop < lowest.toNat ∧ voicing.bass = foldIntoRange stop) ∧
      ∀ pitch ∈ descent lowest.toNat (bassStart octave chord.bass), Fits pitch := by
  intro voicing
  have formed := Chord.madeFormed made
  obtain ⟨lowest, found, member, least⟩ := lowestVoiced formed strategy octave previous
  have range : lowest ≤ 127 := notesRange chord strategy octave previous lowest member
  obtain ⟨highest, none⟩ := @bassKeyGreatest octave _ formed.bass _ range
  obtain ⟨same, room, -⟩ := bassPlaced octave.toNat range formed.bass
  refine ⟨lowest, found, member, least, ?_⟩
  rw [show voicing.bass = _ from bassFolded found]
  exact ⟨highest, none, same, room, ⟨_, descentStops _ _, lowerBelowUnder _ _, rfl⟩,
    descentFits octave formed.bass lowest⟩

def overBass : Chord := Chord.ofIntervals 2 [0, 4, 7] 11

theorem overBassPlaced :
    (ofChord overBass .pianist 2 []).lowest? = some 14 ∧
      IsGreatest {key | BassKey 2 11 14 key} ((ofChord overBass .pianist 2 []).bass.toNat : Int) ∧
      (ofChord overBass .pianist 1 []).lowest? = some 2 ∧
      (ofChord overBass .pianist 1 []).bass = 11 := by
  have made : overBass.Made := .stacked (by decide)
  have second : (ofChord overBass .pianist 2 []).lowest? = some 14 := by cbv
  have first : (ofChord overBass .pianist 1 []).lowest? = some 2 := by cbv
  obtain ⟨low, found, -, -, highest, -⟩ := bassExact made .pianist 2 []
  obtain ⟨deep, reached, -, -, -, none, -⟩ := bassExact made .pianist 1 []
  cases second.symm.trans found
  cases first.symm.trans reached
  have room : BassKey 2 overBass.bass 14 11 :=
    ⟨by decide, by decide, by decide, by decide, by decide⟩
  refine ⟨second, highest ⟨11, room⟩, first, none ?_⟩
  rintro ⟨key, low, -, same, below, -⟩
  have tone : (overBass.bass.toNat : Int) = 11 := by decide
  have hand : ((2 : Key).toNat : Int) = 2 := rfl
  omega

end Voicing

end ChordChart
