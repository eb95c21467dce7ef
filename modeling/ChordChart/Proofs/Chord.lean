import ChordChart.Chord
import ChordChart.Proofs.Basic
import ChordChart.Proofs.Pitch
import Mathlib.Data.List.Perm.Basic

/-! Chords however they are made: the tones are distinct pitch classes with the root in front, every
other class has the place of the first interval that leads there, and a transposed chord has the
same tones and bass as many semitones away. -/
namespace ChordChart

theorem firstKept {keep : UInt8 → Bool} {values : List UInt8} {a b : UInt8} (keptA : keep a)
    (keptB : keep b) (before : (values.filter keep).idxOf a < (values.filter keep).idxOf b) :
    values.idxOf a < values.idxOf b := by
  induction values with
  | nil => exact before
  | cons value values ih =>
    by_cases second : value = b
    · subst second
      rw [List.filter_cons_of_pos keptB, List.idxOf_cons_self] at before
      contradiction
    rw [List.idxOf_cons_ne _ second]
    by_cases first : value = a
    · subst first
      rw [List.idxOf_cons_self]
      exact Nat.succ_pos _
    · rw [List.idxOf_cons_ne _ first]
      refine Nat.succ_lt_succ (ih ?_)
      by_cases kept : keep value
      · rw [List.filter_cons_of_pos kept, List.idxOf_cons_ne _ first,
          List.idxOf_cons_ne _ second] at before
        exact Nat.lt_of_succ_lt_succ before
      · rwa [List.filter_cons_of_neg kept] at before

theorem dupsOrdered (values : List UInt8) :
    values.eraseDups.Pairwise fun a b => values.idxOf a < values.idxOf b := by
  cases values with
  | nil => exact .nil
  | cons value values =>
    rw [List.eraseDups_cons, List.pairwise_cons]
    have other : ∀ b ∈ (values.filter fun b => !b == value).eraseDups, value ≠ b := by
      rintro b member rfl
      simp at member
    refine ⟨fun b member => ?_, (dupsOrdered _).imp_of_mem fun memberA memberB before => ?_⟩
    · rw [List.idxOf_cons_self, List.idxOf_cons_ne _ (other b member)]
      exact Nat.succ_pos _
    · rw [List.idxOf_cons_ne _ (other _ memberA), List.idxOf_cons_ne _ (other _ memberB)]
      have keptA := (List.mem_filter.mp (List.mem_eraseDups.mp memberA)).2
      have keptB := (List.mem_filter.mp (List.mem_eraseDups.mp memberB)).2
      exact Nat.succ_lt_succ (firstKept keptA keptB before)
termination_by values.length
decreasing_by exact Nat.lt_succ_of_le (List.length_filter_le _ _)

theorem eraseDupsApart (values : List UInt8) : values.eraseDups.Nodup := by
  rw [List.nodup_iff_pairwise_ne]
  refine (dupsOrdered values).imp fun before same => ?_
  rw [same] at before
  exact Nat.lt_irrefl _ before

theorem ascendingMember {value : UInt8} {values : List UInt8} :
    value ∈ ascendingSet values ↔ value ∈ values := by
  rw [ascendingSet, List.mem_mergeSort, List.mem_eraseDups]

theorem ascendingSame {a b : List UInt8} (same : ∀ value, value ∈ a ↔ value ∈ b) :
    ascendingSet a = ascendingSet b := by
  have distinct : a.eraseDups.Perm b.eraseDups :=
    (List.perm_ext_iff_of_nodup (eraseDupsApart a) (eraseDupsApart b)).mpr (by simpa using same)
  have perm : (ascendingSet a).Perm (ascendingSet b) :=
    (List.mergeSort_perm _ _).trans (distinct.trans (List.mergeSort_perm _ _).symm)
  exact perm.eq_of_pairwise (fun _ _ _ _ => UInt8.le_antisymm) (bytesAscending _)
    (bytesAscending _)

namespace Chord

structure WellFormed (chord : Chord) : Prop where
  root : chord.root < 12
  lead : ∃ others, chord.tones = chord.root :: others
  apart : chord.tones.Nodup
  classes : ∀ pc ∈ chord.tones, pc < 12
  bass : chord.bass < 12

inductive Made : Chord → Prop where
  | named {symbol transpose chord} (resolved : resolve symbol transpose = .ok chord) : Made chord
  | stacked {root intervals bass} (known : root < 12) : Made (ofIntervals root intervals bass)

theorem rootBehind {root : PitchClass} {tones : List PitchClass} (apart : tones.Nodup) :
    rootFirst root tones = root :: tones.filter fun pc => pc ≠ root := by
  unfold rootFirst
  split
  · rename_i leads
    obtain ⟨others, rfl⟩ := List.head?_eq_some_iff.mp leads
    have absent := (List.nodup_cons.mp apart).1
    have whole : (others.filter fun pc => pc ≠ root) = others :=
      List.filter_eq_self.mpr fun pc member => by
        simpa using fun same : pc = root => absent (same ▸ member)
    rw [List.filter_cons_of_neg (by simp), whole]
  · rfl

theorem rootApart {root : PitchClass} {tones : List PitchClass} (apart : tones.Nodup) :
    (rootFirst root tones).Nodup := by
  rw [rootBehind apart]
  exact List.nodup_cons.mpr ⟨by simp, apart.sublist List.filter_sublist⟩

theorem rootMember {root pc : PitchClass} {tones : List PitchClass} :
    pc ∈ rootFirst root tones ↔ pc = root ∨ pc ∈ tones := by
  unfold rootFirst
  split
  · rename_i leads
    have among : root ∈ tones := List.mem_of_head? leads
    refine ⟨.inr, fun listed => ?_⟩
    rcases listed with rfl | listed
    · exact among
    · exact listed
  · by_cases same : pc = root <;> simp [same]

theorem toneMember {root bass pc : PitchClass} {intervals : List UInt8} :
    pc ∈ (ofIntervals root intervals bass).tones ↔
      pc = root ∨ ∃ interval ∈ intervals, transposed root interval.toNat = pc := by
  rw [ofIntervals, rootMember, List.mem_eraseDups, List.mem_map]

theorem intervalsFormed {root : PitchClass} (known : root < 12) (intervals : List UInt8)
    (bass : PitchClass) : (ofIntervals root intervals bass).WellFormed where
  root := known
  lead := ⟨_, rootBehind (eraseDupsApart _)⟩
  apart := rootApart (eraseDupsApart _)
  classes pc member := by
    rcases toneMember.mp member with rfl | ⟨interval, -, rfl⟩
    · exact known
    · exact transposedBelow _ _
  bass := by
    rw [UInt8.lt_iff_toNat_lt]
    simp only [ofIntervals, UInt8.toNat_mod, UInt8.reduceToNat]
    omega

theorem resolvedFormed {symbol : ChordSymbol} {transpose : Int} {chord : Chord}
    (resolved : resolve symbol transpose = .ok chord) : chord.WellFormed := by
  unfold resolve at resolved
  split at resolved
  · contradiction
  · split at resolved
    · contradiction
    · cases resolved
      exact intervalsFormed (transposedBelow _ _) _ _

theorem transposedTones (root : PitchClass) (intervals : List UInt8) (one other : PitchClass)
    {semitones : Int} (near : semitones.natAbs < 0x1000) :
    (ofIntervals (transposed root semitones) intervals other).toneSet =
      ascendingSet ((ofIntervals root intervals one).toneSet.map (transposed · semitones)) := by
  have either : ∀ interval : UInt8,
      transposed (transposed root semitones) interval.toNat =
        transposed (transposed root interval.toNat) semitones := by
    intro interval
    have byte := interval.toNat_lt
    rw [transposedTwice root near (by omega), transposedTwice root (by omega) near, Int.add_comm]
  refine ascendingSame fun pc => ?_
  simp only [toneSet, toneMember, List.mem_map, ascendingMember, either]
  constructor
  · rintro (rfl | ⟨interval, listed, rfl⟩)
    · exact ⟨root, .inl rfl, rfl⟩
    · exact ⟨_, .inr ⟨interval, listed, rfl⟩, rfl⟩
  · rintro ⟨tone, rfl | ⟨interval, listed, rfl⟩, rfl⟩
    · exact .inl rfl
    · exact .inr ⟨interval, listed, rfl⟩

theorem resolvedMoved {symbol : ChordSymbol} {first second : Int} (near : first.natAbs ≤ 24)
    (further : second.natAbs ≤ 24) {chord : Chord} (resolved : resolve symbol first = .ok chord) :
    ∃ moved, resolve symbol second = .ok moved ∧
      moved.toneSet = ascendingSet (chord.toneSet.map (transposed · (second - first))) ∧
      moved.bass = transposed chord.bass (second - first) := by
  have along : ∀ pc, transposed (transposed pc first) (second - first) = transposed pc second := by
    intro pc
    have whole : first + (second - first) = second := by omega
    rw [transposedTwice pc (by omega) (by omega), whole]
  unfold resolve at resolved ⊢
  split at resolved
  · contradiction
  · rename_i root named
    split at resolved
    · contradiction
    · rename_i intervals listed
      cases resolved
      refine ⟨_, rfl, ?_, ?_⟩
      · rw [← along root]
        exact transposedTones _ _ _ _ (by omega)
      · cases symbol.bass <;> simp [ofIntervals, transposedKept, along]

theorem refusedMoved {symbol : ChordSymbol} {semitones : Int} {cause : ResolveError}
    (refused : resolve symbol semitones = .error cause) (other : Int) :
    resolve symbol other = .error cause := by
  unfold resolve at refused ⊢
  split at refused
  · exact refused
  · split at refused
    · exact refused
    · contradiction

theorem resolvedAnywhere {symbol : ChordSymbol} {semitones : Int} {chord : Chord}
    (resolved : resolve symbol semitones = .ok chord) (other : Int) :
    ∃ moved, resolve symbol other = .ok moved := by
  cases found : resolve symbol other with
  | ok moved => exact ⟨moved, rfl⟩
  | error cause => cases resolved.symm.trans (refusedMoved found semitones)

theorem resolvedOctaves (symbol : ChordSymbol) {first second : Int} (near : first.natAbs ≤ 24)
    (further : second.natAbs ≤ 24) (same : first % 12 = second % 12) :
    resolve symbol first = resolve symbol second := by
  have equal : ∀ pc, transposed pc first = transposed pc second := fun pc =>
    transposedOctaves pc (by omega) (by omega) same
  simp only [resolve, equal]

theorem madeFormed {chord : Chord} (made : chord.Made) : chord.WellFormed := by
  cases made with
  | named resolved => exact resolvedFormed resolved
  | stacked known => exact intervalsFormed known _ _

def firstPlace (root : PitchClass) (intervals : List UInt8) (pc : PitchClass) : Nat :=
  intervals.findIdx fun interval => (root.toNat + interval.toNat) % 12 == pc.toNat

theorem firstPlaced (root : PitchClass) (intervals : List UInt8) (pc : PitchClass) :
    (intervals.map fun interval => transposed root interval.toNat).idxOf pc =
      firstPlace root intervals pc := by
  have leads : (fun interval : UInt8 => transposed root interval.toNat == pc) =
      fun interval => (root.toNat + interval.toNat) % 12 == pc.toNat := by
    funext interval
    rw [Bool.eq_iff_iff, beq_iff_eq, beq_iff_eq, ← UInt8.toNat_inj, transposedNat]
  rw [firstPlace, ← leads]
  exact List.findIdx_map _ _ _

theorem tonesOrdered (root : PitchClass) (intervals : List UInt8) (bass : PitchClass) :
    (ofIntervals root intervals bass).tones.tail.Pairwise fun a b =>
      firstPlace root intervals a < firstPlace root intervals b := by
  simp only [← firstPlaced]
  rw [ofIntervals, rootBehind (eraseDupsApart _), List.tail_cons]
  exact (dupsOrdered _).sublist List.filter_sublist

theorem intervalIff {root : PitchClass} (known : root < 12) (intervals : List UInt8)
    (bass : PitchClass) (semitones : UInt8) :
    (ofIntervals root intervals bass).hasInterval semitones.toNat ↔
      semitones.toNat % 12 = 0 ∨
        ∃ interval ∈ intervals, interval.toNat % 12 = semitones.toNat % 12 := by
  have small : root.toNat < 12 := known
  have kept : (ofIntervals root intervals bass).root = root := rfl
  rw [hasInterval, List.contains_iff_mem, toneMember, kept]
  simp only [← UInt8.toNat_inj, transposedNat]
  exact or_congr (by omega) (exists_congr fun interval => and_congr_right fun _ => by omega)

theorem tonesExact {root : PitchClass} (known : root < 12) (intervals : List UInt8)
    (bass : PitchClass) :
    let chord := ofIntervals root intervals bass
    (∀ pc ∈ chord.tones, pc < 12) ∧ chord.tones.Nodup ∧ chord.tones.head? = some root ∧
      (∀ pc, pc ∈ chord.tones ↔ pc = root ∨
        ∃ interval ∈ intervals, pc.toNat = (root.toNat + interval.toNat) % 12) ∧
      (chord.tones.tail.Pairwise fun a b =>
        firstPlace root intervals a < firstPlace root intervals b) ∧
      chord.bass < 12 ∧
      ∀ semitones : UInt8, chord.hasInterval semitones.toNat ↔ semitones.toNat % 12 = 0 ∨
        ∃ interval ∈ intervals, interval.toNat % 12 = semitones.toNat % 12 := by
  intro chord
  have formed := intervalsFormed known intervals bass
  obtain ⟨others, lead⟩ := formed.lead
  refine ⟨formed.classes, formed.apart, ?_, fun pc => ?_, tonesOrdered root intervals bass,
    formed.bass, intervalIff known intervals bass⟩
  · rw [show chord.tones = _ from lead]
    rfl
  · simp only [chord, toneMember, ← UInt8.toNat_inj, transposedNat, eq_comm]

theorem strayRoot :
    (9 : PitchClass) < 12 ∧
      (ofIntervals 9 [10, 3, 22, 24, 7] 16).tones = [9, 7, 0, 4] ∧
      (ofIntervals 9 [10, 3, 22, 24, 7] 16).bass < 12 ∧
      (ofIntervals 9 [10, 3, 22, 24, 7] 16).hasInterval 15 := by
  have known : (9 : PitchClass) < 12 := by decide
  obtain ⟨-, -, -, -, -, bass, has⟩ := tonesExact known [10, 3, 22, 24, 7] 16
  exact ⟨known, by decide, bass, (has 15).mpr (.inr ⟨3, by simp, by decide⟩)⟩

end Chord

end ChordChart
