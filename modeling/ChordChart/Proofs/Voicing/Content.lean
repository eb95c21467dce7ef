import ChordChart.Proofs.Voicing.Nearest
import ChordChart.Voicing
import Mathlib.Data.List.Perm.Basic
import Mathlib.Data.List.Perm.Subperm

/-! What a voicing holds: every tone of its chord once, and at most one tone a second time, which is
the root of a small chord or the top of a right hand. -/
namespace ChordChart

namespace Placement

def rightTones (chord : Chord) : List PitchClass :=
  chord.tones.filter fun pc => pc ≠ chord.root ∧ some pc ≠ shell? chord

def doubledTone (base : Int) (chord : Chord) : List PitchClass :=
  match (rightTones chord).getLast?, (stack 1 base (rightTones chord)).getLast? with
  | some tone, some pitch => if pitch + 12 ≤ 127 then [tone] else []
  | _, _ => []

def hands (base : Int) (chord : Chord) : List Int :=
  let left := atOrAbove chord.root (base - 12)
  left :: (shell? chord).toList.map (fun pc => atOrAbove pc (left + 1)) ++
    stack 1 base (rightTones chord)

theorem cocktailHands (base : Int) (chord : Chord) :
    (cocktail base chord).Perm
      (doubledTop (stack 1 base (rightTones chord)) ++ hands base chord) := by
  rw [hands, ← List.append_assoc]
  exact List.perm_append_comm.append_right _

theorem shellTone {chord : Chord} (formed : chord.WellFormed) {pc : PitchClass}
    (found : shell? chord = some pc) : pc ∈ chord.tones ∧ pc ≠ chord.root := by
  have small : chord.root.toNat < 12 := formed.root
  obtain ⟨interval, first, rfl⟩ := Option.map_eq_some_iff.mp found
  have among := List.mem_of_find?_eq_some first
  have held := List.find?_some first
  have inside : 0 < interval.toNat ∧ interval.toNat < 12 := by
    simp only [List.mem_cons, List.not_mem_nil, or_false] at among
    rcases among with rfl | rfl | rfl <;> decide
  have same : transposed chord.root interval.toNat = (chord.root + interval) % 12 := by
    refine UInt8.toNat_inj.mp ?_
    rw [transposedNat]
    simp only [UInt8.toNat_mod, UInt8.toNat_add, UInt8.reduceToNat]
    omega
  rw [← same]
  refine ⟨by simpa [Chord.hasInterval] using held, fun root => ?_⟩
  have nat := transposedNat chord.root interval
  rw [root] at nat
  omega

theorem handsShare {chord : Chord} (formed : chord.WellFormed) :
    (chord.root :: (shell? chord).toList ++ rightTones chord).Perm chord.tones := by
  obtain ⟨others, lead⟩ := formed.lead
  have rootIn : chord.root ∈ chord.tones := lead ▸ List.mem_cons_self
  have rest : (rightTones chord).Nodup := formed.apart.sublist List.filter_sublist
  have parts : (chord.root :: (shell? chord).toList ++ rightTones chord).Nodup := by
    cases shell : shell? chord with
    | none => simpa [rightTones, shell] using rest
    | some pc =>
      have other := (shellTone formed shell).2
      simpa [rightTones, shell, other.symm] using rest
  refine (List.perm_ext_iff_of_nodup parts formed.apart).mpr fun pc => ?_
  cases shell : shell? chord with
  | none =>
    by_cases root : pc = chord.root <;> simp [rightTones, shell, root, rootIn]
  | some tone =>
    have shellIn := (shellTone formed shell).1
    by_cases root : pc = chord.root
    · simp [root, rootIn]
    · by_cases left : pc = tone <;> simp [rightTones, shell, root, left, shellIn]

theorem rightKnown {chord : Chord} (formed : chord.WellFormed) :
    ∀ pc ∈ rightTones chord, pc < 12 :=
  fun pc member => formed.classes pc (List.mem_filter.mp member).1

theorem handsClasses {base : Int} {chord : Chord} (formed : chord.WellFormed) :
    ((hands base chord).map classOf).Perm chord.tones := by
  have shell : ∀ pc ∈ (shell? chord).toList, pc < 12 := fun pc member =>
    formed.classes pc (shellTone formed (Option.mem_toList.mp member)).1
  rw [hands, List.map_append, List.map_cons, atOrAboveClass formed.root, atOrAboveClasses shell,
    stackClasses (rightKnown formed)]
  exact handsShare formed

theorem doubledClasses {base : Int} {chord : Chord} (formed : chord.WellFormed) :
    (doubledTop (stack 1 base (rightTones chord))).map classOf = doubledTone base chord := by
  have tops := congrArg List.getLast? (@stackClasses 1 base _ (rightKnown formed))
  rw [List.getLast?_map] at tops
  unfold doubledTop doubledTone
  rw [← tops]
  cases (stack 1 base (rightTones chord)).getLast? with
  | none => rfl
  | some top =>
    dsimp only [Option.map_some]
    split <;> simp

theorem cocktailClasses {base : Int} {chord : Chord} (formed : chord.WellFormed) :
    ((cocktail base chord).map classOf).Perm (doubledTone base chord ++ chord.tones) := by
  refine ((cocktailHands base chord).map classOf).trans ?_
  rw [List.map_append, doubledClasses formed]
  exact (handsClasses formed).append_left _

theorem pianistClasses {base : Int} {chord : Chord} (formed : chord.WellFormed) :
    (pianist base chord.tones).map classOf =
      if chord.tones.length < 3 then chord.root :: chord.tones else chord.tones := by
  obtain ⟨others, lead⟩ := formed.lead
  have known := formed.classes
  rw [lead] at known ⊢
  rw [pianist, List.map_cons, atOrAboveClass formed.root, List.length_cons]
  by_cases full : 2 ≤ others.length
  · have some := (List.forall_mem_cons.mp known).2
    rw [if_pos full, atOrAboveClasses some, if_neg (by omega)]
  · rw [if_neg full, atOrAboveClasses known, if_pos (by omega)]

theorem foldClasses (pitches : List Int) :
    (pitches.map foldIntoRange).map (· % 12) = pitches.map classOf := by
  rw [List.map_map]
  exact List.map_congr_left fun pitch _ => foldClass pitch

theorem foldedApart {pitches : List Int} (apart : (pitches.map classOf).Nodup) :
    (pitches.map foldIntoRange).Nodup := by
  refine List.Nodup.of_map (· % 12) ?_
  rwa [foldClasses]

theorem foldedTwice {pitches : List Int} (apart : (pitches.map classOf).Nodup) {pitch again : Int}
    (member : pitch ∈ pitches) (same : classOf again = classOf pitch)
    (differ : foldIntoRange again ≠ foldIntoRange pitch) :
    ((again :: pitches).map foldIntoRange).Nodup := by
  refine List.nodup_cons.mpr ⟨fun struck => ?_, foldedApart apart⟩
  obtain ⟨other, among, key⟩ := List.mem_map.mp struck
  have classes : classOf other = classOf pitch := by
    rw [← same, ← foldClass, ← foldClass, key]
  rw [List.inj_on_of_nodup_map apart among member classes] at key
  exact differ key.symm

theorem cocktailApart {base : Int} (low : 0 ≤ base) {chord : Chord} (formed : chord.WellFormed) :
    ((cocktail base chord).map foldIntoRange).Nodup := by
  have apart : ((hands base chord).map classOf).Nodup :=
    (handsClasses formed).nodup_iff.mpr formed.apart
  refine ((cocktailHands base chord).map foldIntoRange).nodup_iff.mpr ?_
  unfold doubledTop
  split
  · rename_i top last
    have member := List.mem_of_getLast? last
    have floor := stackFloor (by decide) top member
    split
    · rename_i high
      have first := foldInside (Int.le_trans low floor) (by omega)
      have second : ((foldIntoRange (top + 12)).toNat : Int) = top + 12 :=
        foldInside (by omega) high
      refine foldedTwice apart (List.mem_append_right _ member) (classOctave top) fun same => ?_
      rw [same] at second
      omega
    · exact foldedApart apart
  · exact foldedApart apart

theorem rootTwice {octave : Nat} (register : octave ≤ 9) {pc : PitchClass} (known : pc < 12) :
    foldIntoRange (atOrAbove pc (12 * octave - 12)) = foldIntoRange (atOrAbove pc (12 * octave)) ↔
      octave = 0 := by
  have small : pc.toNat < 12 := known
  have lower := atOrAboveOctave known (octave - 1)
  rw [Int.mul_sub, Int.mul_one] at lower
  rw [← UInt8.toNat_inj, lower, atOrAboveOctave known]
  have upper : ((foldIntoRange (12 * octave + pc.toNat)).toNat : Int) = 12 * octave + pc.toNat :=
    foldInside (by omega) (by omega)
  cases octave with
  | zero =>
    have folded := @foldBelow (12 * (0 : Nat) - 12 + pc.toNat) (by omega)
    omega
  | succ octave =>
    have kept := @foldInside (12 * (octave + 1 : Nat) - 12 + pc.toNat) (by omega) (by omega)
    omega

theorem pianistApart {octave : Nat} (register : octave ≤ 9) {chord : Chord}
    (formed : chord.WellFormed) :
    ((pianist (12 * octave) chord.tones).map foldIntoRange).Nodup ↔
      ¬ (chord.tones.length < 3 ∧ octave = 0) := by
  by_cases small : chord.tones.length < 3
  · obtain ⟨others, lead⟩ := formed.lead
    have apart : ((chord.tones.map fun pc => atOrAbove pc (12 * octave)).map classOf).Nodup := by
      rw [atOrAboveClasses formed.classes]
      exact formed.apart
    have few : ¬ 2 ≤ others.length := by
      rw [lead, List.length_cons] at small
      omega
    rw [lead] at apart ⊢
    simp only [pianist, if_neg few]
    constructor
    · rintro struck ⟨-, rfl⟩
      refine (List.nodup_cons.mp struck).1 (List.mem_map.mpr ⟨_, List.mem_cons_self, ?_⟩)
      exact ((rootTwice register formed.root).mpr rfl).symm
    · intro room
      refine foldedTwice apart List.mem_cons_self ?_ fun same => ?_
      · rw [atOrAboveClass formed.root, atOrAboveClass formed.root]
      · exact room ⟨lead ▸ small, (rootTwice register formed.root).mp same⟩
  · have apart : ((pianist (12 * octave) chord.tones).map classOf).Nodup := by
      rw [pianistClasses formed, if_neg small]
      exact formed.apart
    simp [foldedApart apart, small]

end Placement

namespace Voicing

open Placement

def content (strategy : Strategy) (base : Int) (chord : Chord) : List PitchClass :=
  match strategy with
  | .pianist => if chord.tones.length < 3 then chord.root :: chord.tones else chord.tones
  | .cocktail => doubledTone base chord ++ chord.tones
  | _ => chord.tones

theorem pitchesContent {chord : Chord} (formed : chord.WellFormed) (strategy : Strategy) (base : Int)
    (previous : List Key) :
    ((pitches chord strategy base previous).map classOf).Perm (content strategy base chord) := by
  have closed : (close base chord.tones).map classOf = chord.tones := stackClasses formed.classes
  cases strategy with
  | rootPosition => exact .of_eq closed
  | firstInversion | secondInversion =>
    exact .of_eq ((raisedClasses (takeRaised _ _)).trans closed)
  | smooth =>
    unfold pitches content
    dsimp only
    split
    · exact .of_eq closed
    · have near : ∀ pc ∈ chord.tones, (classOf ∘ nearest previous) pc = id pc := fun pc member =>
        nearestClass previous (formed.classes pc member)
      rw [List.map_map, List.map_congr_left near, List.map_id]
  | pianist => exact .of_eq (pianistClasses formed)
  | openPosition => exact .of_eq ((raisedClasses (alternateRaised _)).trans closed)
  | spread => exact .of_eq (stackClasses formed.classes)
  | cocktail => exact cocktailClasses formed

theorem pitchesApart {octave : Nat} (register : octave ≤ 9) {chord : Chord}
    (formed : chord.WellFormed) (strategy : Strategy) (previous : List Key) :
    ((pitches chord strategy (12 * octave) previous).map foldIntoRange).Nodup ↔
      ¬ (strategy = .pianist ∧ chord.tones.length < 3 ∧ octave = 0) := by
  have perm := pitchesContent formed strategy (12 * octave) previous
  cases strategy with
  | pianist => simpa [pitches] using pianistApart register formed
  | cocktail => simpa [pitches] using cocktailApart (by omega) formed
  | rootPosition | firstInversion | secondInversion | smooth | openPosition | spread =>
    simpa using foldedApart (perm.nodup_iff.mpr formed.apart)

theorem tonesStruck (strategy : Strategy) (base : Int) (chord : Chord) :
    chord.tones ⊆ content strategy base chord := by
  intro pc member
  cases strategy with
  | pianist =>
    simp only [content]
    split <;> simp [member]
  | cocktail => exact List.mem_append_right _ member
  | rootPosition | firstInversion | secondInversion | smooth | openPosition | spread => exact member

theorem notesPitches (chord : Chord) (strategy : Strategy) (octave : UInt8) (previous : List Key) :
    (ofChord chord strategy octave previous).notes.Perm
      ((pitches chord strategy (12 * octave.toNat) previous).map foldIntoRange) :=
  List.mergeSort_perm _ _

theorem notesAscending (chord : Chord) (strategy : Strategy) (octave : UInt8)
    (previous : List Key) : (ofChord chord strategy octave previous).notes.Pairwise (· ≤ ·) :=
  bytesAscending _

theorem notesContent {chord : Chord} (formed : chord.WellFormed) (strategy : Strategy)
    (octave : UInt8) (previous : List Key) :
    ((ofChord chord strategy octave previous).notes.map (· % 12)).Perm
      (content strategy (12 * octave.toNat) chord) := by
  have classes := (notesPitches chord strategy octave previous).map (· % 12)
  rw [foldClasses] at classes
  exact classes.trans (pitchesContent formed strategy _ previous)

theorem notesSome {chord : Chord} (formed : chord.WellFormed) (strategy : Strategy)
    (octave : UInt8) (previous : List Key) :
    (ofChord chord strategy octave previous).notes ≠ [] := by
  intro none
  obtain ⟨others, lead⟩ := formed.lead
  have root := tonesStruck strategy (12 * octave.toNat) chord (lead ▸ List.mem_cons_self)
  have struck := (notesContent formed strategy octave previous).symm.subset root
  simp [none] at struck

theorem notesRange (chord : Chord) (strategy : Strategy) (octave : UInt8) (previous : List Key) :
    ∀ key ∈ (ofChord chord strategy octave previous).notes, key ≤ 127 := by
  intro key member
  have struck := (notesPitches chord strategy octave previous).mem_iff.mp member
  obtain ⟨pitch, -, rfl⟩ := List.mem_map.mp struck
  exact UInt8.le_iff_toNat_le.mpr (foldRange pitch)

theorem voicingContent {chord : Chord} (made : chord.Made) (strategy : Strategy) {octave : UInt8}
    (register : octave ≤ 9) (previous : List Key) :
    let notes := (ofChord chord strategy octave previous).notes
    notes ≠ [] ∧ (∀ key ∈ notes, key ≤ 127) ∧ notes.Pairwise (· ≤ ·) ∧ chord.tones.Nodup ∧
      (notes.map (· % 12)).Perm (content strategy (12 * octave.toNat) chord) ∧
      (¬ notes.Nodup ↔ strategy = .pianist ∧ chord.tones.length < 3 ∧ octave = 0) := by
  have formed := Chord.madeFormed made
  refine ⟨notesSome formed _ _ _, notesRange _ _ _ _, notesAscending _ _ _ _, formed.apart,
    notesContent formed _ _ _, ?_⟩
  have bound : octave.toNat ≤ 9 := UInt8.le_iff_toNat_le.mp register
  have same : octave = 0 ↔ octave.toNat = 0 := UInt8.toNat_inj.symm
  rw [(notesPitches chord strategy octave previous).nodup_iff, pitchesApart bound formed,
    Classical.not_not, same]

theorem seventhDoubled :
    (5 : UInt8) ≤ 9 ∧
      ((ofChord (Chord.ofIntervals 0 [0, 4, 7, 11] 0) .cocktail 5 [60]).notes.map (· % 12)).Perm
        [7, 0, 4, 7, 11] ∧
      (ofChord (Chord.ofIntervals 0 [0, 4, 7, 11] 0) .cocktail 5 [60]).notes.Nodup := by
  have register : (5 : UInt8) ≤ 9 := by decide
  have tones : content .cocktail 60 (Chord.ofIntervals 0 [0, 4, 7, 11] 0) = [7, 0, 4, 7, 11] := by
    decide
  obtain ⟨-, -, -, -, classes, apart⟩ :=
    voicingContent (.stacked (by decide) : (Chord.ofIntervals 0 [0, 4, 7, 11] 0).Made) .cocktail
      register [60]
  refine ⟨register, tones ▸ classes, Classical.not_not.mp fun twice => ?_⟩
  cases (apart.mp twice).1

end Voicing

end ChordChart
