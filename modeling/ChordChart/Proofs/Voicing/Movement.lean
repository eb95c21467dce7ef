import ChordChart.Proofs.Voicing.Content
import ChordChart.Voicing.Movement
import Mathlib

/-! Smooth voice leading is the least movement. Each tone takes the nearest key of its class, so no
keys with the same classes are nearer to the keys before, tone by tone or summed up. A chord led
from its own keys holds every one of them, and its bass hangs on the keys alone and holds too. -/
namespace ChordChart

namespace Movement

def sum (previous next : List Key) : Nat :=
  (next.map fun key => Placement.distanceToNearest key.toNat previous).sum

theorem distanceSmall {previous : List Key} (some : previous ≠ []) (key : Key) :
    Placement.distanceToNearest key.toNat previous ≤ 255 := by
  obtain ⟨before, -, distance⟩ := Placement.distanceReached some key.toNat
  have one := key.toNat_lt
  have other := before.toNat_lt
  omega

theorem totalSum {previous next : List Key} (some : previous ≠ []) (few : next.length ≤ 12) :
    (total previous next).toNat = sum previous next := by
  have bound : sum previous next ≤ next.length * 255 := by
    have each := List.sum_le_card_nsmul
      (next.map fun key => Placement.distanceToNearest key.toNat previous) 255 (by
        intro distance member
        obtain ⟨key, -, rfl⟩ := List.mem_map.mp member
        exact distanceSmall some key)
    simpa [sum] using each
  have whole : next.foldl (fun sum key => sum + Placement.distanceToNearest key.toNat previous) 0 =
      sum previous next := by
    rw [sum, List.sum_eq_foldl, List.foldl_map]
  rw [total, whole, UInt32.toNat_ofNat_of_lt']
  rw [UInt32.size]
  omega

end Movement

namespace Voicing

open Placement

theorem tonesFew {chord : Chord} (formed : chord.WellFormed) : chord.tones.length ≤ 12 := by
  have classes : chord.tones ⊆ (List.range 12).map UInt8.ofNat := by
    intro pc member
    have small : pc.toNat < 12 := formed.classes pc member
    exact List.mem_map.mpr ⟨pc.toNat, List.mem_range.mpr small, UInt8.ofNat_toNat⟩
  simpa using (formed.apart.subperm classes).length_le

theorem nearestKey (previous : List Key) {pc : PitchClass} (known : pc < 12) :
    ((foldIntoRange (nearest previous pc)).toNat : Int) = nearest previous pc := by
  obtain ⟨-, low, high⟩ := (keysOfClassIff known).mp (nearestMember previous known)
  exact foldInside low high

theorem smoothNotes (chord : Chord) (octave : UInt8) {previous : List Key} (some : previous ≠ []) :
    (ofChord chord .smooth octave previous).notes.Perm
      (chord.tones.map fun pc => foldIntoRange (nearest previous pc)) := by
  have struck := notesPitches chord .smooth octave previous
  simp only [pitches, List.isEmpty_iff, if_neg some, List.map_map] at struck
  exact struck

theorem smoothNearest {chord : Chord} (formed : chord.WellFormed) (octave : UInt8)
    {previous : List Key} (some : previous ≠ []) {key : Key}
    (member : key ∈ (ofChord chord .smooth octave previous).notes) :
    key % 12 < 12 ∧ (key.toNat : Int) = nearest previous (key % 12) := by
  obtain ⟨pc, among, rfl⟩ := List.mem_map.mp ((smoothNotes chord octave some).mem_iff.mp member)
  have known := formed.classes pc among
  rw [foldClass, nearestClass previous known]
  exact ⟨known, nearestKey previous known⟩

theorem keyAmong {key : Key} (range : key ≤ 127) : (key.toNat : Int) ∈ keysOfClass (key % 12) := by
  have high : key.toNat ≤ 127 := range
  have known : key % 12 < 12 := by
    rw [UInt8.lt_iff_toNat_lt]
    simp only [UInt8.toNat_mod, UInt8.reduceToNat]
    omega
  refine (keysOfClassIff known).mpr ⟨classKnown ?_, by omega, by omega⟩
  simp

theorem smoothSum {chord : Chord} (formed : chord.WellFormed) (octave : UInt8) {previous : List Key}
    (some : previous ≠ []) {other : List Key} (range : ∀ key ∈ other, key ≤ 127)
    (classes : (other.map (· % 12)).Perm chord.tones) :
    Movement.sum previous (ofChord chord .smooth octave previous).notes ≤
      Movement.sum previous other := by
  have known : ∀ key ∈ other, key % 12 < 12 := fun key member =>
    formed.classes _ (classes.mem_iff.mp (List.mem_map_of_mem member))
  calc
    Movement.sum previous (ofChord chord .smooth octave previous).notes =
        (chord.tones.map fun pc => distanceToNearest (nearest previous pc) previous).sum := by
      rw [Movement.sum, ((smoothNotes chord octave some).map _).sum_eq, List.map_map]
      refine congrArg List.sum (List.map_congr_left fun pc member => ?_)
      rw [Function.comp_apply, nearestKey previous (formed.classes pc member)]
    _ = (other.map fun key => distanceToNearest (nearest previous (key % 12)) previous).sum := by
      rw [← (classes.map _).sum_eq, List.map_map]
      rfl
    _ ≤ Movement.sum previous other :=
      List.sum_le_sum fun key member =>
        beatsClosest (nearestBeats previous (known key member) (keyAmong (range key member)))

theorem smoothLeast {chord : Chord} (formed : chord.WellFormed) (octave : UInt8)
    {previous : List Key} (some : previous ≠ []) {other : List Key}
    (range : ∀ key ∈ other, key ≤ 127) (classes : (other.map (· % 12)).Perm chord.tones) :
    Movement.total previous (ofChord chord .smooth octave previous).notes ≤
      Movement.total previous other := by
  have few := tonesFew formed
  have struck : (ofChord chord .smooth octave previous).notes.length ≤ 12 := by
    rw [(smoothNotes chord octave some).length_eq, List.length_map]
    exact few
  have others : other.length ≤ 12 := by
    rw [← List.length_map (· % 12), classes.length_eq]
    exact few
  rw [UInt32.le_iff_toNat_le, Movement.totalSum some struck, Movement.totalSum some others]
  exact smoothSum formed octave some range classes

def settled : List Strategy :=
  [.rootPosition, .firstInversion, .secondInversion, .openPosition, .spread]

theorem settledClasses {chord : Chord} (formed : chord.WellFormed) {strategy : Strategy}
    (listed : strategy ∈ settled) (octave : UInt8) (before : List Key) :
    ((ofChord chord strategy octave before).notes.map (· % 12)).Perm chord.tones := by
  have classes := notesContent formed strategy octave before
  simp only [settled, List.mem_cons, List.not_mem_nil, or_false] at listed
  rcases listed with rfl | rfl | rfl | rfl | rfl <;> exact classes

theorem smoothOptimal {chord : Chord} (made : chord.Made) (octave : UInt8) {previous : List Key}
    (some : previous ≠ []) :
    let notes := (ofChord chord .smooth octave previous).notes
    (∀ p ∈ notes, ∀ q : Key, q ≤ 127 → q % 12 = p % 12 →
        distanceToNearest p.toNat previous < distanceToNearest q.toNat previous ∨
          distanceToNearest p.toNat previous = distanceToNearest q.toNat previous ∧ p ≤ q) ∧
      (∀ other : List Key, (∀ key ∈ other, key ≤ 127) → (other.map (· % 12)).Perm chord.tones →
        Movement.total previous notes ≤ Movement.total previous other) ∧
      (∀ strategy ∈ settled, ∀ register before, Movement.total previous notes ≤
        Movement.total previous (ofChord chord strategy register before).notes) ∧
      ((∃ key ∈ previous, 6 ≤ key ∧ key ≤ 121) →
        ∀ p ∈ notes, ∃ key ∈ previous, ((p.toNat : Int) - key.toNat).natAbs ≤ 6) := by
  have formed := Chord.madeFormed made
  refine ⟨fun p member q range same => ?_, fun other => smoothLeast formed octave some,
    fun strategy listed register before => ?_, ?_⟩
  · obtain ⟨known, near⟩ := smoothNearest formed octave some member
    have beats := nearestBeats previous known (same ▸ keyAmong range)
    rw [← near, Beats, Int.ofNat_le] at beats
    exact beats
  · exact smoothLeast formed octave some (notesRange _ _ _ _)
      (settledClasses formed listed register before)
  · rintro ⟨middle, member, low, high⟩ p struck
    obtain ⟨known, near⟩ := smoothNearest formed octave some struck
    have reach := nearestReach member low high known
    rw [← near] at reach
    obtain ⟨key, among, distance⟩ := distanceReached some p.toNat
    exact ⟨key, among, distance ▸ reach⟩

theorem smoothTie :
    ([57, 63] : List Key) ≠ [] ∧
      (ofChord (Chord.ofIntervals 6 [0, 3] 6) .smooth 5 [57, 63]).notes = [54, 57] ∧
      (distanceToNearest 54 [57, 63] < distanceToNearest 66 [57, 63] ∨
        distanceToNearest 54 [57, 63] = distanceToNearest 66 [57, 63] ∧ (54 : Key) ≤ 66) ∧
      Movement.total [57, 63] [54, 57] ≤ Movement.total [57, 63] [66, 69] ∧
      ∀ p ∈ ([54, 57] : List Key), ∃ key ∈ ([57, 63] : List Key),
        ((p.toNat : Int) - key.toNat).natAbs ≤ 6 := by
  have some : ([57, 63] : List Key) ≠ [] := by decide
  have struck : (ofChord (Chord.ofIntervals 6 [0, 3] 6) .smooth 5 [57, 63]).notes = [54, 57] := by
    cbv
  obtain ⟨near, least, -, reach⟩ :=
    smoothOptimal (.stacked (by decide) : (Chord.ofIntervals 6 [0, 3] 6).Made) 5 some
  rw [struck] at near least reach
  refine ⟨some, struck, near 54 (by decide) 66 (by decide) (by decide), ?_, ?_⟩
  · exact least [66, 69] (by simp) (.of_eq (by decide))
  · exact reach ⟨57, by decide, by decide, by decide⟩

end Voicing

def Chord.Alike (chord other : Chord) : Prop :=
  other.toneSet = chord.toneSet ∧ other.bass = chord.bass

theorem Chord.alikeTones {chord other : Chord} (alike : chord.Alike other) (pc : PitchClass) :
    pc ∈ other.tones ↔ pc ∈ chord.tones := by
  rw [← ascendingMember, ← @ascendingMember _ chord.tones]
  exact Eq.to_iff (congrArg (pc ∈ ·) alike.1)

namespace Placement

theorem nearestHeld {previous : List Key} {key : Key} (range : key ≤ 127) (member : key ∈ previous)
    (alone : ∀ other ∈ previous, other % 12 = key % 12 → other = key) :
    nearest previous (key % 12) = key.toNat := by
  have known : key % 12 < 12 := UInt8.mod_lt key (by decide)
  have among := Voicing.keyAmong range
  have held : distanceToNearest key.toNat previous ≤ 0 := by
    simpa using distanceBound member key.toNat
  have closest := beatsClosest (nearestBeats previous known among)
  obtain ⟨other, struck, distance⟩ :=
    distanceReached (List.ne_nil_of_mem member) (nearest previous (key % 12))
  have reached : nearest previous (key % 12) = other.toNat := by omega
  have classed : classOf other.toNat = key % 12 := reached ▸ nearestClass previous known
  have own : classOf (other.toNat : Int) = other % 12 := classKnown (by simp)
  rw [reached, alone other struck (own.symm.trans classed)]

end Placement

namespace Voicing

open Placement

theorem heldTones {tones : List PitchClass} {keys : List Key} (apart : (keys.map (· % 12)).Nodup)
    (range : ∀ key ∈ keys, key ≤ 127) (classes : (keys.map (· % 12)).Perm tones) :
    (tones.map fun pc => foldIntoRange (nearest keys pc)).Perm keys := by
  have held : ∀ key ∈ keys, foldIntoRange (nearest keys (key % 12)) = id key := by
    intro key member
    rw [nearestHeld (range key member) member fun other among same =>
      List.inj_on_of_nodup_map apart among member same]
    have high : key.toNat ≤ 127 := range key member
    exact UInt8.toNat_inj.mp (Int.ofNat_inj.mp (foldInside (by omega) (by omega)))
  refine (classes.symm.map _).trans (.of_eq ?_)
  rw [List.map_map]
  calc
    _ = keys.map id := List.map_congr_left held
    _ = keys := List.map_id keys

theorem notesHeld {chord other : Chord} (formed : chord.WellFormed) (twin : other.WellFormed)
    (alike : chord.Alike other) (octave : UInt8) (previous : List Key) :
    (ofChord other .smooth octave (ofChord chord .smooth octave previous).notes).notes =
      (ofChord chord .smooth octave previous).notes := by
  have classes : ((ofChord chord .smooth octave previous).notes.map (· % 12)).Perm chord.tones :=
    notesContent formed .smooth octave previous
  have tones : chord.tones.Perm other.tones :=
    (List.perm_ext_iff_of_nodup formed.apart twin.apart).mpr fun pc =>
      (Chord.alikeTones alike pc).symm
  have some := notesSome formed .smooth octave previous
  have struck := (smoothNotes other octave some).trans
    (heldTones (classes.nodup_iff.mpr formed.apart) (notesRange chord .smooth octave previous)
      (classes.trans tones))
  exact struck.eq_of_pairwise (fun _ _ _ _ => UInt8.le_antisymm)
    (notesAscending other .smooth octave _) (notesAscending chord .smooth octave previous)

theorem bassHeld {chord other : Chord} {strategy : Strategy} {octave : UInt8}
    {previous before : List Key} (bass : other.bass = chord.bass)
    (notes : (ofChord other strategy octave before).notes =
      (ofChord chord strategy octave previous).notes) :
    ofChord other strategy octave before = ofChord chord strategy octave previous := by
  have under : (ofChord other strategy octave before).bass =
      (ofChord chord strategy octave previous).bass :=
    calc
      _ = foldIntoRange (bassBelow (12 * octave.toNat)
            (ofChord other strategy octave before).notes.head? other.bass) := rfl
      _ = foldIntoRange (bassBelow (12 * octave.toNat)
            (ofChord chord strategy octave previous).notes.head? chord.bass) := by rw [notes, bass]
      _ = _ := rfl
  calc
    ofChord other strategy octave before =
        ⟨(ofChord other strategy octave before).notes, (ofChord other strategy octave before).bass⟩ :=
      rfl
    _ = ofChord chord strategy octave previous := by rw [notes, under]

theorem smoothStill {chord other : Chord} (formed : chord.WellFormed) (twin : other.WellFormed)
    (alike : chord.Alike other) (octave : UInt8) (previous : List Key) :
    ofChord other .smooth octave (ofChord chord .smooth octave previous).notes =
      ofChord chord .smooth octave previous :=
  bassHeld alike.2 (notesHeld formed twin alike octave previous)

end Voicing

end ChordChart
