import ChordChart.Pitch
import Mathlib.Order.Bounds.Basic

/-! Pitches, their classes and folding. A key stays as it is, a pitch below the keys comes to the
lowest octave and one above them to the highest. In 32-bit words a pitch goes up by octaves while it
is below the keys, then down while it is above them; each way ends, no turn on it overflows, and
none changes the key that the word folds to. -/
namespace ChordChart

def classOf (pitch : Int) : PitchClass := UInt8.ofNat (pitch % 12).toNat

theorem classNat (pitch : Int) : ((classOf pitch).toNat : Int) = pitch % 12 := by
  rw [classOf, UInt8.toNat_ofNat']
  omega

theorem classKnown {pc : PitchClass} {pitch : Int} (same : pitch % 12 = pc.toNat) :
    classOf pitch = pc := by
  have kept := classNat pitch
  exact UInt8.toNat_inj.mp (by omega)

@[simp]
theorem classOctave (pitch : Int) : classOf (pitch + 12) = classOf pitch := by
  rw [classOf, classOf, Int.add_emod_right]

theorem foldBelow {pitch : Int} (below : pitch < 0) :
    ((foldIntoRange pitch).toNat : Int) = pitch % 12 := by
  rw [foldIntoRange, if_pos below, UInt8.toNat_ofNat']
  omega

theorem foldInside {pitch : Int} (low : 0 ≤ pitch) (high : pitch ≤ 127) :
    ((foldIntoRange pitch).toNat : Int) = pitch := by
  rw [foldIntoRange, if_neg (Int.not_lt.mpr low), if_pos high, UInt8.toNat_ofNat']
  omega

theorem foldAbove {pitch : Int} (above : 127 < pitch) :
    ((foldIntoRange pitch).toNat : Int) = 116 + (pitch - 116) % 12 := by
  have low : ¬ pitch < 0 := by omega
  rw [foldIntoRange, if_neg low, if_neg (Int.not_le.mpr above), UInt8.toNat_ofNat']
  omega

theorem foldPlaces (pitch : Int) :
    let key : Int := (foldIntoRange pitch).toNat
    (pitch < 0 ∧ key = pitch % 12) ∨ ((0 ≤ pitch ∧ pitch ≤ 127) ∧ key = pitch) ∨
      (127 < pitch ∧ key = 116 + (pitch - 116) % 12) := by
  rcases Int.lt_or_le pitch 0 with below | low
  · exact .inl ⟨below, foldBelow below⟩
  · rcases Int.lt_or_le 127 pitch with above | high
    · exact .inr (.inr ⟨above, foldAbove above⟩)
    · exact .inr (.inl ⟨⟨low, high⟩, foldInside low high⟩)

theorem foldRange (pitch : Int) : (foldIntoRange pitch).toNat ≤ 127 := by
  have places := foldPlaces pitch
  omega

theorem foldClass (pitch : Int) : foldIntoRange pitch % 12 = classOf pitch := by
  refine (classKnown ?_).symm
  simp only [UInt8.toNat_mod, UInt8.reduceToNat]
  have places := foldPlaces pitch
  omega

theorem foldFloor {floor pitch : Int} (reach : floor ≤ 116) (bounded : floor ≤ pitch) :
    floor ≤ (foldIntoRange pitch).toNat := by
  have places := foldPlaces pitch
  omega

theorem fifthRange (bass : Key) : (fifthAbove bass).toNat ≤ 127 := by
  rw [fifthAbove, UInt8.toNat_ofNat']
  omega

theorem transposedBelow (pc : PitchClass) (semitones : Int) : transposed pc semitones < 12 := by
  simp only [UInt8.lt_iff_toNat_lt, transposed, UInt8.toNat_ofNat', UInt8.reduceToNat]
  omega

theorem transposedKept (pc : PitchClass) (semitones : Int) :
    transposed pc semitones % 12 = transposed pc semitones :=
  UInt8.mod_eq_of_lt (transposedBelow pc semitones)

theorem transposedClass (pc : PitchClass) (semitones : Int) (near : semitones.natAbs < 0x10000) :
    ((transposed pc semitones).toNat : Int) = (pc.toNat + semitones) % 12 := by
  have small : ((pc.toNat : Int) + semitones).bmod UInt32.size = pc.toNat + semitones := by
    have byte := pc.toNat_lt
    refine Int.bmod_eq_of_le ?_ ?_ <;> rw [UInt32.size] <;> omega
  rw [transposed, small, UInt8.toNat_ofNat']
  omega

theorem transposedNat (pc interval : UInt8) :
    (transposed pc interval.toNat).toNat = (pc.toNat + interval.toNat) % 12 := by
  have byte := interval.toNat_lt
  have same := transposedClass pc interval.toNat (by omega)
  omega

theorem transposedTwice (pc : PitchClass) {first second : Int} (near : first.natAbs < 0x1000)
    (further : second.natAbs < 0x1000) :
    transposed (transposed pc first) second = transposed pc (first + second) := by
  have once := transposedClass pc first (by omega)
  have twice := transposedClass (transposed pc first) second (by omega)
  have whole := transposedClass pc (first + second) (by omega)
  exact UInt8.toNat_inj.mp (by omega)

theorem transposedOctaves (pc : PitchClass) {first second : Int} (near : first.natAbs < 0x1000)
    (further : second.natAbs < 0x1000) (same : first % 12 = second % 12) :
    transposed pc first = transposed pc second := by
  have one := transposedClass pc first (by omega)
  have other := transposedClass pc second (by omega)
  exact UInt8.toNat_inj.mp (by omega)

theorem bytesAscending (values : List UInt8) :
    (values.mergeSort fun a b => decide (a ≤ b)).Pairwise (· ≤ ·) := by
  refine List.Pairwise.imp of_decide_eq_true (List.pairwise_mergeSort ?_ ?_ _)
  · simp only [decide_eq_true_eq]
    exact fun a b c => UInt8.le_trans
  · intro a b
    simpa using UInt8.le_total a b

/-- A whole run of a loop over words, from its first word to the one that ends it. There is none
where a turn has no word to go to, nor where the loop never ends. -/
inductive Turned (goes : Int32 → Prop) (turn : Int32 → Option Int32) : Int32 → Int32 → Prop where
  | stop {word} (ends : ¬ goes word) : Turned goes turn word word
  | step {word next last} (further : goes word) (leads : turn word = some next)
      (behind : Turned goes turn next last) : Turned goes turn word last

def shifted? (semitones word : Int32) : Option Int32 :=
  if word.toBitVec.saddOverflow semitones.toBitVec then none else some (word + semitones)

inductive Folded (pitch : Int32) : Key → Prop where
  | run {raised lowered} (up : Turned (· < 0) (shifted? 12) pitch raised)
      (down : Turned (127 < ·) (shifted? (-12)) raised lowered) :
      Folded pitch lowered.toUInt32.toUInt8

theorem turnedUnique {goes : Int32 → Prop} {turn : Int32 → Option Int32} {word last other : Int32}
    (one : Turned goes turn word last) (second : Turned goes turn word other) : last = other := by
  induction one with
  | stop ends =>
    cases second with
    | stop => rfl
    | step further => exact absurd further ends
  | step further leads behind ih =>
    cases second with
    | stop ends => exact absurd further ends
    | step _ leadsOther behindOther =>
      cases leads.symm.trans leadsOther
      exact ih behindOther

theorem turnsEnd {goes : Int32 → Prop} {turn : Int32 → Option Int32} {kept : Int32 → Prop}
    (left : Int32 → Nat)
    (step : ∀ word, kept word → goes word →
      ∃ next, turn word = some next ∧ kept next ∧ left next < left word)
    {word : Int32} (start : kept word) :
    ∃ last, Turned goes turn word last ∧ kept last ∧ ¬ goes last := by
  induction distance : left word using Nat.strong_induction_on generalizing word with
  | h _ ih =>
    by_cases further : goes word
    · obtain ⟨next, leads, keeps, nearer⟩ := step word start further
      obtain ⟨last, behind, held, ends⟩ := ih (left next) (distance ▸ nearer) keeps rfl
      exact ⟨last, .step further leads behind, held, ends⟩
    · exact ⟨word, .stop further, start, further⟩

theorem shiftedWord {semitones word : Int32}
    (low : -0x80000000 ≤ word.toInt + semitones.toInt)
    (high : word.toInt + semitones.toInt < 0x80000000) :
    ∃ next, shifted? semitones word = some next ∧ next.toInt = word.toInt + semitones.toInt := by
  have fits : ¬ word.toBitVec.saddOverflow semitones.toBitVec := by
    simp only [BitVec.saddOverflow, Int32.toInt_toBitVec, Bool.or_eq_true, decide_eq_true_eq]
    omega
  exact ⟨word + semitones, if_neg fits, BitVec.toInt_add_of_not_saddOverflow fits⟩

theorem foldRaised {pitch : Int} (below : pitch < 0) :
    foldIntoRange (pitch + 12) = foldIntoRange pitch := by
  have once := foldPlaces pitch
  have higher := foldPlaces (pitch + 12)
  exact UInt8.toNat_inj.mp (by omega)

theorem foldLowered {pitch : Int} (above : 127 < pitch) :
    foldIntoRange (pitch - 12) = foldIntoRange pitch := by
  have once := foldPlaces pitch
  have lower := foldPlaces (pitch - 12)
  exact UInt8.toNat_inj.mp (by omega)

theorem raisingTurn (key : Key) (word : Int32) (same : foldIntoRange word.toInt = key)
    (further : word < 0) :
    ∃ next, shifted? 12 word = some next ∧ foldIntoRange next.toInt = key ∧
      (-next.toInt).toNat < (-word.toInt).toNat := by
  have octave : (12 : Int32).toInt = 12 := rfl
  have below : word.toInt < 0 := Int32.lt_iff_toInt_lt.mp further
  have low := word.le_toInt
  obtain ⟨next, leads, higher⟩ := @shiftedWord 12 word (by omega) (by omega)
  rw [octave] at higher
  refine ⟨next, leads, ?_, by omega⟩
  rw [higher, foldRaised below, same]

theorem loweringTurn (key : Key) (word : Int32)
    (kept : 0 ≤ word.toInt ∧ foldIntoRange word.toInt = key) (further : 127 < word) :
    ∃ next, shifted? (-12) word = some next ∧
      (0 ≤ next.toInt ∧ foldIntoRange next.toInt = key) ∧ next.toInt.toNat < word.toInt.toNat := by
  have octave : (-12 : Int32).toInt = -12 := rfl
  have above : 127 < word.toInt := Int32.lt_iff_toInt_lt.mp further
  have high := word.toInt_lt
  obtain ⟨next, leads, lower⟩ := @shiftedWord (-12) word (by omega) (by omega)
  rw [octave, ← Int.sub_eq_add_neg] at lower
  refine ⟨next, leads, ⟨by omega, ?_⟩, by omega⟩
  rw [lower, foldLowered above, kept.2]

theorem wordRaised (pitch : Int32) :
    ∃ raised, Turned (· < 0) (shifted? 12) pitch raised ∧ 0 ≤ raised.toInt ∧
      foldIntoRange raised.toInt = foldIntoRange pitch.toInt := by
  obtain ⟨raised, ends, same, stops⟩ :=
    turnsEnd (fun word => (-word.toInt).toNat) (raisingTurn (foldIntoRange pitch.toInt)) rfl
  refine ⟨raised, ends, ?_, same⟩
  simpa [Int32.lt_iff_toInt_lt] using stops

theorem wordLowered {pitch : Int32} (low : 0 ≤ pitch.toInt) :
    ∃ lowered, Turned (127 < ·) (shifted? (-12)) pitch lowered ∧ 0 ≤ lowered.toInt ∧
      lowered.toInt ≤ 127 ∧ foldIntoRange lowered.toInt = foldIntoRange pitch.toInt := by
  obtain ⟨lowered, ends, ⟨floor, same⟩, stops⟩ :=
    turnsEnd (fun word => word.toInt.toNat) (loweringTurn (foldIntoRange pitch.toInt)) ⟨low, rfl⟩
  refine ⟨lowered, ends, floor, ?_, same⟩
  simpa [Int32.lt_iff_toInt_lt] using stops

theorem wordByte {word : Int32} (low : 0 ≤ word.toInt) (high : word.toInt ≤ 127) :
    (word.toUInt32.toUInt8.toNat : Int) = word.toInt := by
  have natural : word.toUInt32.toNat = word.toInt.toNat :=
    Int32.toNat_toUInt32_of_le (Int32.le_iff_toInt_le.mpr low)
  rw [UInt32.toNat_toUInt8, natural]
  omega

theorem foldedIff {pitch : Int32} {key : Key} :
    Folded pitch key ↔ key = foldIntoRange pitch.toInt := by
  obtain ⟨raised, up, floor, same⟩ := wordRaised pitch
  obtain ⟨lowered, down, low, high, kept⟩ := wordLowered floor
  have folded : lowered.toUInt32.toUInt8 = foldIntoRange pitch.toInt := by
    have byte := wordByte low high
    have inside := foldInside low high
    rw [← same, ← kept]
    exact UInt8.toNat_inj.mp (by omega)
  rw [← folded]
  constructor
  · rintro ⟨upOther, downOther⟩
    cases turnedUnique up upOther
    cases turnedUnique down downOther
    rfl
  · rintro rfl
    exact .run up down

def keysLike (pitch : Int) : Set Int := {key | 0 ≤ key ∧ key ≤ 127 ∧ key % 12 = pitch % 12}

theorem foldAlike (pitch : Int) : ((foldIntoRange pitch).toNat : Int) ∈ keysLike pitch := by
  have places := foldPlaces pitch
  refine ⟨?_, ?_, ?_⟩ <;> omega

theorem foldNearest {pitch key : Int} (alike : key ∈ keysLike pitch)
    (other : key ≠ (foldIntoRange pitch).toNat) :
    (pitch - (foldIntoRange pitch).toNat).natAbs < (pitch - key).natAbs := by
  obtain ⟨low, high, same⟩ := alike
  have places := foldPlaces pitch
  omega

theorem foldLowest {pitch : Int} (below : pitch < 0) :
    IsLeast (keysLike pitch) ((foldIntoRange pitch).toNat : Int) := by
  refine ⟨foldAlike pitch, fun key ⟨low, high, same⟩ => ?_⟩
  have folded := foldBelow below
  omega

theorem foldHighest {pitch : Int} (above : 127 < pitch) :
    IsGreatest (keysLike pitch) ((foldIntoRange pitch).toNat : Int) := by
  refine ⟨foldAlike pitch, fun key ⟨low, high, same⟩ => ?_⟩
  have folded := foldAbove above
  omega

theorem foldedNearest (pitch : Int32) :
    ∃ key, (∀ other, Folded pitch other ↔ other = key) ∧ foldIntoRange pitch.toInt = key ∧
      (key.toNat : Int) ∈ keysLike pitch.toInt ∧
      (∀ other ∈ keysLike pitch.toInt, other ≠ key.toNat →
        (pitch.toInt - key.toNat).natAbs < (pitch.toInt - other).natAbs) ∧
      (0 ≤ pitch.toInt → pitch.toInt ≤ 127 → (key.toNat : Int) = pitch.toInt) ∧
      (pitch.toInt < 0 → IsLeast (keysLike pitch.toInt) (key.toNat : Int) ∧ key.toNat < 12) ∧
      (127 < pitch.toInt →
        IsGreatest (keysLike pitch.toInt) (key.toNat : Int) ∧ 116 ≤ key.toNat) := by
  refine ⟨_, fun other => foldedIff, rfl, foldAlike _, fun other alike => foldNearest alike,
    foldInside, fun below => ⟨foldLowest below, ?_⟩, fun above => ⟨foldHighest above, ?_⟩⟩
  · have folded := foldBelow below
    omega
  · have folded := foldAbove above
    omega

example : foldIntoRange Int32.minValue.toInt = 4 ∧ foldIntoRange Int32.maxValue.toInt = 127 := by
  decide

end ChordChart
