import ChordChart.Text.Basic
import Mathlib.Data.List.Induction
import Mathlib.Data.Nat.Digits.Defs

/-! Numerals. What a reader sums up digit by digit is the number in places of ten, and a text is
parted at the first mark in it. -/
namespace ChordChart.Text

structure Digits (cs : List Char) : Prop where
  filled : cs ≠ []
  decimal : ∀ c ∈ cs, c.isDigit

theorem numeralIff {cs : List Char} : isNumeral cs ↔ Digits cs := by
  simp only [isNumeral, Bool.and_eq_true, List.all_eq_true, Bool.not_eq_true',
    List.isEmpty_eq_false_iff]
  exact ⟨fun numeral => ⟨numeral.1, numeral.2⟩, fun digits => ⟨digits.filled, digits.decimal⟩⟩

def placeValue (digits : List Char) : Nat :=
  Nat.ofDigits 10 (digits.reverse.map fun digit => digit.toNat - '0'.toNat)

theorem numeralAppend (digits : List Char) (digit : Char) :
    numeralValue (digits ++ [digit]) =
      10 * numeralValue digits + (digit.toNat - '0'.toNat) := by
  simp [numeralValue, List.foldl_append]

theorem numeralPlaces (digits : List Char) : numeralValue digits = placeValue digits := by
  induction digits using List.reverseRecOn with
  | nil => rfl
  | append_singleton digits digit ih =>
    rw [numeralAppend, ih, placeValue, placeValue, List.reverse_concat, List.map_cons,
      Nat.ofDigits_cons, Nat.add_comm]

theorem placesAppend (a b : List Char) :
    placeValue (a ++ b) = placeValue a * 10 ^ b.length + placeValue b := by
  rw [placeValue, List.reverse_append, List.map_append, Nat.ofDigits_append, List.length_map,
    List.length_reverse, Nat.mul_comm, Nat.add_comm]
  rfl

theorem digitBelow {digit : Char} (decimal : digit.isDigit) : digit.toNat - '0'.toNat < 10 := by
  have high : digit.toNat ≤ '9'.toNat := (Char.isDigit_iff_toNat.mp decimal).2
  have nine : '9'.toNat = '0'.toNat + 9 := rfl
  omega

theorem numeralBelow {digits : List Char} (decimal : ∀ digit ∈ digits, digit.isDigit) :
    numeralValue digits < 10 ^ digits.length := by
  rw [numeralPlaces, placeValue]
  have bound := @Nat.ofDigits_lt_base_pow_length 10
    (digits.reverse.map fun digit => digit.toNat - '0'.toNat) (by decide) (by
      intro place member
      obtain ⟨digit, among, rfl⟩ := List.mem_map.mp member
      exact digitBelow (decimal digit (List.mem_reverse.mp among)))
  simpa using bound

theorem splitOnceNone {mark : Char} {cs : List Char} (free : mark ∉ cs) : splitOnce mark cs = none := by
  induction cs with
  | nil => rfl
  | cons c cs ih =>
    obtain ⟨other, rest⟩ := not_or.mp (List.mem_cons.not.mp free)
    rw [splitOnce, if_neg (Ne.symm other), ih rest]
    rfl

theorem splitOnceFirst {mark : Char} {before : List Char} (free : mark ∉ before) (behind : List Char) :
    splitOnce mark (before ++ mark :: behind) = some (before, behind) := by
  induction before with
  | nil => simp [splitOnce]
  | cons c before ih =>
    obtain ⟨other, rest⟩ := not_or.mp (List.mem_cons.not.mp free)
    rw [List.cons_append, splitOnce, if_neg (Ne.symm other), ih rest]
    rfl

theorem splitOnceParts {mark : Char} {cs before behind : List Char}
    (split : splitOnce mark cs = some (before, behind)) : cs = before ++ mark :: behind := by
  induction cs generalizing before with
  | nil => contradiction
  | cons c cs ih =>
    rw [splitOnce] at split
    split at split
    · rename_i same
      cases split
      rw [same, List.nil_append]
    · obtain ⟨halves, later, same⟩ := Option.map_eq_some_iff.mp split
      cases same
      rw [List.cons_append, ← ih later]

end ChordChart.Text
