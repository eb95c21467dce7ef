import ChordChart.Duration
import ChordChart.Proofs.Basic
import ChordChart.Proofs.Text.Numeral
import Mathlib

/-! What a duration that was read is worth. A count of bars is a quotient of numbers of few digits,
so that its product with the bar stays in 64-bit words and is the exact count of ticks. -/
namespace ChordChart

theorem wordsKept {num den : Nat} (above : num < 0x8000000000000000) (positive : 0 < den)
    (below : den < 0x8000000000000000) : inWords (mkRat num den) = mkRat num den := by
  have nonzero : (den : Int) ≠ 0 := by omega
  have least : 0 ≤ (mkRat num den).num := by
    rw [Rat.num_nonneg, Rat.mkRat_eq_divInt]
    exact Rat.divInt_nonneg (by omega) (by omega)
  have most : (mkRat num den).num ≤ num := by
    rcases Nat.eq_zero_or_pos num with rfl | some
    · simp
    · rw [Rat.mkRat_eq_divInt]
      exact Int.le_of_dvd (by omega) (Rat.num_dvd num nonzero)
  have lowest : ((mkRat num den).den : Int) ≤ den := by
    rw [Rat.mkRat_eq_divInt]
    exact Int.le_of_dvd (by omega) (Rat.den_dvd num den)
  rw [inWords, Int.bmod_eq_of_le, Int.bmod_eq_of_le, Rat.num_divInt_den] <;>
    simp only [UInt64.size] <;> omega

namespace Meter

theorem barPositive {meter : Meter} : 0 < meter.ticksPerBar ↔ 0 < meter.numerator := by
  have high := meter.denominator.toNat_lt
  have beat : 0 < meter.ticksPerBeat :=
    Nat.div_pos (by simp [ticksPerQuarter]; omega) (by omega)
  rw [ticksPerBar, Nat.mul_pos_iff_of_pos_left beat, UInt8.lt_iff_toNat_lt, UInt8.toNat_zero]

theorem barBelow (meter : Meter) : meter.ticksPerBar ≤ 512 * 255 := by
  have high := meter.numerator.toNat_lt
  exact Nat.mul_le_mul (Nat.div_le_self _ _) (by omega)

end Meter

namespace Duration

inductive Written : Rat → Prop where
  | quotient {num den : Nat} (some : 0 < num) (above : num < 1000000000) (positive : 0 < den)
      (below : den ≤ 1000000000) : Written (mkRat num den)

theorem writtenPositive {bars : Rat} (written : Written bars) : 0 < bars := by
  obtain ⟨some, above, positive, below⟩ := written
  exact Rat.mkRat_pos (by omega) (by omega)

theorem termsKept {num den : Nat} (above : num < 1000000000) (positive : 0 < den)
    (below : den ≤ 1000000000) (meter : Meter) :
    num * meter.ticksPerBar < 0x8000000000000000 ∧
      inWords (mkRat num den * meter.ticksPerBar) = mkRat num den * meter.ticksPerBar := by
  have bar := meter.barBelow
  have inside : num * meter.ticksPerBar < 0x8000000000000000 := by
    calc
      num * meter.ticksPerBar ≤ 1000000000 * (512 * 255) := Nat.mul_le_mul (by omega) bar
      _ < 0x8000000000000000 := by decide
  have product : mkRat num den * (meter.ticksPerBar : Rat) =
      mkRat (num * meter.ticksPerBar : Nat) den := by
    rw [Rat.mkRat_eq_div, Rat.mkRat_eq_div]
    push_cast
    ring
  rw [product]
  exact ⟨inside, wordsKept inside positive (by omega)⟩

theorem writtenKept {bars : Rat} (written : Written bars) (meter : Meter) :
    inWords (bars * meter.ticksPerBar) = bars * meter.ticksPerBar := by
  obtain ⟨-, above, positive, below⟩ := written
  exact (termsKept above positive below meter).2

theorem ticksIff {bars : Rat} {meter : Meter} {ticks : UInt32} (written : Written bars) :
    meter.ticks? bars = some ticks ↔ bars * meter.ticksPerBar = ticks.toNat := by
  have some := writtenPositive written
  simp only [Meter.ticks?, writtenKept written]
  generalize bars * (meter.ticksPerBar : Rat) = count
  constructor
  · intro ok
    split at ok
    · rename_i whole
      obtain ⟨-, single, least, most⟩ := whole
      have value : ticks.toNat = count.num.toNat := by
        rw [UInt32.size] at most
        rw [← Option.some.inj ok, UInt32.toNat_ofNat']
        omega
      calc
        count = count.num := (Rat.coe_int_num_of_den_eq_one single).symm
        _ = ((count.num.toNat : Int) : Rat) := by rw [Int.toNat_of_nonneg least]
        _ = ticks.toNat := by rw [value, Int.cast_natCast]
    · cases ok
  · rintro rfl
    have inside : ticks.toNat < UInt32.size := ticks.toNat_lt
    simp [some, inside]

structure WordSized (meter : Meter) (bars : Rat) (num den : Nat) : Prop where
  read : bars? num den = some bars
  above : num < 0x8000000000000000
  below : den < 0x8000000000000000
  product : num * meter.ticksPerBar < 0x8000000000000000
  kept : inWords (bars * meter.ticksPerBar) = bars * meter.ticksPerBar

theorem smallSized {num den : Nat} (above : num < 1000000000) (positive : 0 < den)
    (below : den ≤ 1000000000) (meter : Meter) : WordSized meter (num / den) num den := by
  have value : (num / den : Rat) = mkRat num den := by rw [Rat.mkRat_eq_div, Int.cast_natCast]
  obtain ⟨product, kept⟩ := termsKept above positive below meter
  rw [value]
  refine ⟨?_, by omega, by omega, product, kept⟩
  rw [bars?, if_neg (by omega), ← Rat.mkRat_eq_divInt, wordsKept (by omega) positive (by omega)]

theorem ofBarsFew (text : String) {meter : Meter} {bars : Rat} (few : bars ≤ 4096) :
    ofBars text meter bars =
      match meter.ticks? bars with
      | none => .error (.fractionalTicks text)
      | some ticks => withinLimit ticks :=
  if_neg (by simpa [maxBars] using few)

theorem ofBarsWhole (text : String) {meter : Meter} {bars : Rat} (written : Written bars)
    (few : bars ≤ 4096) {ticks : Nat} (whole : bars * meter.ticksPerBar = ticks) :
    ofBars text meter bars =
      if maxTicks < ticks then .error .tooLong else .ok (UInt32.ofNat ticks) := by
  have fits : ticks < UInt32.size := by
    have bar : (meter.ticksPerBar : Rat) ≤ (512 * 255 : Nat) := Nat.cast_le.mpr meter.barBelow
    have most : (ticks : Rat) ≤ 4096 * (512 * 255 : Nat) := by
      calc
        (ticks : Rat) = bars * meter.ticksPerBar := whole.symm
        _ ≤ 4096 * (512 * 255 : Nat) := mul_le_mul few bar (Nat.cast_nonneg _) (by norm_num)
    have bound : ticks ≤ 4096 * (512 * 255) := by exact_mod_cast most
    rw [UInt32.size]
    omega
  have same : (UInt32.ofNat ticks).toNat = ticks := UInt32.toNat_ofNat_of_lt' fits
  rw [ofBarsFew text few, (ticksIff written).mpr (whole.trans (by rw [same]))]
  simp only [withinLimit, same]

theorem ofBarsBetween (text : String) {meter : Meter} {bars : Rat} (written : Written bars)
    (few : bars ≤ 4096) (apart : ∀ ticks : Nat, bars * meter.ticksPerBar ≠ ticks) :
    ofBars text meter bars = .error (.fractionalTicks text) := by
  rw [ofBarsFew text few]
  cases counted : meter.ticks? bars with
  | none => rfl
  | some ticks => exact absurd ((ticksIff written).mp counted) (apart _)

end Duration

end ChordChart
