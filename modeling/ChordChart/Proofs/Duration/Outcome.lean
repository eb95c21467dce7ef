import ChordChart.Proofs.Duration.Notation

/-! What becomes of a duration text. It is a tick count, a bar count or neither, and the number it
denotes settles which length or which refusal is the answer. -/
namespace ChordChart.Duration

open Text (placeValue)

inductive Outcome (meter : Meter) : List Char → Except DurationError UInt32 → Prop where
  | empty : Outcome meter [] (.error .empty)
  | ticks {cs} {ticks : UInt32} (counted : TickCount cs ticks.toNat) (some : 0 < ticks.toNat)
      (inside : ticks.toNat ≤ maxTicks) : Outcome meter cs (.ok ticks)
  | noTicks {cs} (counted : TickCount cs 0) : Outcome meter cs (.error .notPositive)
  | lateTicks {cs ticks} (counted : TickCount cs ticks) (beyond : maxTicks < ticks) :
      Outcome meter cs (.error .tooLong)
  | manyDigits {cs bars} (counted : BarCount cs bars) (long : 9 < cs.countP Char.isDigit) :
      Outcome meter cs (.error .tooLong)
  | noBars {cs} (counted : BarCount cs 0) (short : cs.countP Char.isDigit ≤ 9) :
      Outcome meter cs (.error .notPositive)
  | manyBars {cs bars} (counted : BarCount cs bars) (short : cs.countP Char.isDigit ≤ 9)
      (beyond : 4096 < bars) : Outcome meter cs (.error .tooLong)
  | between {cs bars} (counted : BarCount cs bars) (short : cs.countP Char.isDigit ≤ 9)
      (some : 0 < bars) (few : bars ≤ 4096)
      (apart : ∀ ticks : Nat, bars * meter.ticksPerBar ≠ ticks) :
      Outcome meter cs (.error (.fractionalTicks (String.ofList cs)))
  | lateBars {cs bars} {ticks : Nat} (counted : BarCount cs bars)
      (short : cs.countP Char.isDigit ≤ 9) (some : 0 < bars) (few : bars ≤ 4096)
      (whole : bars * meter.ticksPerBar = ticks) (beyond : maxTicks < ticks) :
      Outcome meter cs (.error .tooLong)
  | bars {cs bars} {ticks : UInt32} (counted : BarCount cs bars)
      (short : cs.countP Char.isDigit ≤ 9) (some : 0 < bars) (few : bars ≤ 4096)
      (whole : bars * meter.ticksPerBar = ticks.toNat) (inside : ticks.toNat ≤ maxTicks) :
      Outcome meter cs (.ok ticks)
  | unknown {cs} (filled : cs ≠ []) (noTicks : ∀ ticks, ¬ TickCount cs ticks)
      (noBars : ∀ bars, ¬ BarCount cs bars) :
      Outcome meter cs (.error (.unrecognized (String.ofList cs)))

theorem outcomeParsed {text : String} {meter : Meter} {result : Except DurationError UInt32}
    (outcome : Outcome meter (Text.trim text.toList) result) : parse text meter = result := by
  generalize trimmed : Text.trim text.toList = cs at outcome
  cases outcome with
  | empty => rw [parse, trimmed]
  | ticks counted some inside =>
    rw [ticksParsed trimmed counted, if_neg (Nat.not_lt.mpr inside), if_neg (Nat.ne_of_gt some),
      UInt32.ofNat_toNat]
  | noTicks counted => exact ticksParsed trimmed counted meter
  | lateTicks counted beyond => rw [ticksParsed trimmed counted, if_pos beyond]
  | manyDigits counted long => rw [barsParsed trimmed counted, if_pos long]
  | noBars counted short =>
    rw [barsParsed trimmed counted, if_neg (Nat.not_lt.mpr short), if_pos rfl]
  | manyBars counted short beyond =>
    rw [barsShort trimmed counted short (by linarith)]
    exact if_pos beyond
  | between counted short some few apart =>
    rw [barsShort trimmed counted short some,
      ofBarsBetween _ (countedWritten counted short some) few apart]
  | lateBars counted short some few whole beyond =>
    rw [barsShort trimmed counted short some,
      ofBarsWhole _ (countedWritten counted short some) few whole, if_pos beyond]
  | bars counted short some few whole inside =>
    rw [barsShort trimmed counted short some,
      ofBarsWhole _ (countedWritten counted short some) few whole,
      if_neg (Nat.not_lt.mpr inside), UInt32.ofNat_toNat]
  | unknown filled noTicks noBars => exact unknownParsed trimmed filled noTicks noBars meter

theorem ticksFit {ticks : Nat} (inside : ticks ≤ maxTicks) :
    (UInt32.ofNat ticks).toNat = ticks := by
  rw [maxTicks] at inside
  exact UInt32.toNat_ofNat_of_lt' (by rw [UInt32.size]; omega)

theorem ticksOutcome (meter : Meter) {cs : List Char} {ticks : Nat} (counted : TickCount cs ticks) :
    ∃ result, Outcome meter cs result := by
  rcases Nat.eq_zero_or_pos ticks with rfl | some
  · exact ⟨_, .noTicks counted⟩
  · rcases Nat.lt_or_ge maxTicks ticks with beyond | inside
    · exact ⟨_, .lateTicks counted beyond⟩
    · have same := ticksFit inside
      exact ⟨.ok (UInt32.ofNat ticks),
        .ticks (same.symm ▸ counted) (same.symm ▸ some) (same.symm ▸ inside)⟩

theorem barsOutcome (meter : Meter) {cs : List Char} {bars : Rat} (counted : BarCount cs bars) :
    ∃ result, Outcome meter cs result := by
  rcases Nat.lt_or_ge 9 (cs.countP Char.isDigit) with long | short
  · exact ⟨_, .manyDigits counted long⟩
  · rcases (barsNotNegative counted).eq_or_lt with rfl | some
    · exact ⟨_, .noBars counted short⟩
    · rcases lt_or_ge 4096 bars with beyond | few
      · exact ⟨_, .manyBars counted short beyond⟩
      · by_cases landed : ∃ ticks : Nat, bars * meter.ticksPerBar = ticks
        · obtain ⟨ticks, whole⟩ := landed
          rcases Nat.lt_or_ge maxTicks ticks with beyond | inside
          · exact ⟨_, .lateBars counted short some few whole beyond⟩
          · have same := ticksFit inside
            exact ⟨.ok (UInt32.ofNat ticks), .bars counted short some few
              (same.symm ▸ whole) (same.symm ▸ inside)⟩
        · exact ⟨_, .between counted short some few (not_exists.mp landed)⟩

theorem parseOutcome (text : String) (meter : Meter) :
    Outcome meter (Text.trim text.toList) (parse text meter) := by
  have some : ∃ result, Outcome meter (Text.trim text.toList) result := by
    by_cases filled : Text.trim text.toList = []
    · rw [filled]
      exact ⟨_, .empty⟩
    · by_cases ticks : ∃ count, TickCount (Text.trim text.toList) count
      · exact ticksOutcome meter ticks.choose_spec
      · by_cases bars : ∃ count, BarCount (Text.trim text.toList) count
        · exact barsOutcome meter bars.choose_spec
        · exact ⟨_, .unknown filled (not_exists.mp ticks) (not_exists.mp bars)⟩
  obtain ⟨result, outcome⟩ := some
  rwa [outcomeParsed outcome]

theorem parseIff {text : String} {meter : Meter} {result : Except DurationError UInt32} :
    parse text meter = result ↔ Outcome meter (Text.trim text.toList) result :=
  ⟨fun same => same ▸ parseOutcome text meter, outcomeParsed⟩

variable {meter : Meter} {cs : List Char}

theorem okIff {ticks : UInt32} :
    Outcome meter cs (.ok ticks) ↔
      (TickCount cs ticks.toNat ∧ 0 < ticks.toNat ∧ ticks.toNat ≤ maxTicks) ∨
        ∃ bars, BarCount cs bars ∧ cs.countP Char.isDigit ≤ 9 ∧ 0 < bars ∧ bars ≤ 4096 ∧
          bars * meter.ticksPerBar = ticks.toNat ∧ ticks.toNat ≤ maxTicks := by
  constructor
  · intro outcome
    cases outcome with
    | ticks counted some inside => exact .inl ⟨counted, some, inside⟩
    | bars counted short some few whole inside =>
      exact .inr ⟨_, counted, short, some, few, whole, inside⟩
  · rintro (⟨counted, some, inside⟩ | ⟨bars, counted, short, some, few, whole, inside⟩)
    · exact .ticks counted some inside
    · exact .bars counted short some few whole inside

theorem parseLimit {text : String} {ticks : UInt32} (ok : parse text meter = .ok ticks) :
    ticks.toNat ≤ maxTicks := by
  rcases okIff.mp (parseIff.mp ok) with ⟨-, -, inside⟩ | ⟨-, -, -, -, -, -, inside⟩ <;>
    exact inside

theorem parsePositive {text : String} {ticks : UInt32} (ok : parse text meter = .ok ticks) :
    0 < ticks.toNat ↔
      0 < meter.numerator ∨ ∃ count, TickCount (Text.trim text.toList) count := by
  rcases okIff.mp (parseIff.mp ok) with ⟨counted, some, -⟩ | ⟨bars, counted, -, some, -, whole, -⟩
  · exact ⟨fun _ => .inr ⟨_, counted⟩, fun _ => some⟩
  · have noTicks : ¬ ∃ count, TickCount (Text.trim text.toList) count :=
      fun ⟨_, marked⟩ => ticksNoBars marked bars counted
    rw [← @Nat.cast_pos Rat, ← whole, mul_pos_iff_of_pos_left some, Nat.cast_pos,
      Meter.barPositive]
    exact (or_iff_left noTicks).symm

theorem emptyIff : Outcome meter cs (.error .empty) ↔ cs = [] := by
  constructor
  · intro outcome
    cases outcome
    rfl
  · rintro rfl
    exact .empty

theorem unrecognizedIff {given : String} :
    Outcome meter cs (.error (.unrecognized given)) ↔
      given = String.ofList cs ∧ cs ≠ [] ∧ (∀ ticks, ¬ TickCount cs ticks) ∧
        ∀ bars, ¬ BarCount cs bars := by
  constructor
  · intro outcome
    cases outcome with
    | unknown filled noTicks noBars => exact ⟨rfl, filled, noTicks, noBars⟩
  · rintro ⟨rfl, filled, noTicks, noBars⟩
    exact .unknown filled noTicks noBars

theorem notPositiveIff :
    Outcome meter cs (.error .notPositive) ↔
      TickCount cs 0 ∨ ∃ whole fraction, Decimal cs whole fraction ∧
        decimalBars whole fraction = 0 ∧ cs.countP Char.isDigit ≤ 9 := by
  constructor
  · intro outcome
    cases outcome with
    | noTicks counted => exact .inl counted
    | noBars counted short =>
      obtain ⟨whole, fraction, written, none⟩ := nothingWritten counted rfl
      exact .inr ⟨whole, fraction, written, none, short⟩
  · rintro (counted | ⟨whole, fraction, written, none, short⟩)
    · exact .noTicks counted
    · exact .noBars (none ▸ .decimal written) short

theorem fractionalIff {given : String} :
    Outcome meter cs (.error (.fractionalTicks given)) ↔
      given = String.ofList cs ∧ ∃ bars, BarCount cs bars ∧ cs.countP Char.isDigit ≤ 9 ∧
        0 < bars ∧ bars ≤ 4096 ∧ ∀ ticks : Nat, bars * meter.ticksPerBar ≠ ticks := by
  constructor
  · intro outcome
    cases outcome with
    | between counted short some few apart => exact ⟨rfl, _, counted, short, some, few, apart⟩
  · rintro ⟨rfl, bars, counted, short, some, few, apart⟩
    exact .between counted short some few apart

theorem tooLongIff :
    Outcome meter cs (.error .tooLong) ↔
      (∃ ticks, TickCount cs ticks ∧ maxTicks < ticks) ∨ ∃ bars, BarCount cs bars ∧
        (9 < cs.countP Char.isDigit ∨ 4096 < bars ∨
          ∃ ticks : Nat, bars * meter.ticksPerBar = ticks ∧ maxTicks < ticks) := by
  constructor
  · intro outcome
    cases outcome with
    | lateTicks counted beyond => exact .inl ⟨_, counted, beyond⟩
    | manyDigits counted long => exact .inr ⟨_, counted, .inl long⟩
    | manyBars counted short beyond => exact .inr ⟨_, counted, .inr (.inl beyond)⟩
    | lateBars counted short some few whole beyond =>
      exact .inr ⟨_, counted, .inr (.inr ⟨_, whole, beyond⟩)⟩
  · rintro (⟨ticks, counted, beyond⟩ | ⟨bars, counted, why⟩)
    · exact .lateTicks counted beyond
    · rcases Nat.lt_or_ge 9 (cs.countP Char.isDigit) with long | short
      · exact .manyDigits counted long
      · rcases lt_or_ge 4096 bars with beyond | few
        · exact .manyBars counted short beyond
        · obtain ⟨ticks, whole, late⟩ := (why.resolve_left short.not_gt).resolve_left few.not_gt
          refine .lateBars counted short ((barsNotNegative counted).lt_of_ne' ?_) few whole late
          rintro rfl
          rw [zero_mul, eq_comm, Nat.cast_eq_zero] at whole
          omega

/-- Durations are exact. A text is read as a number of ticks, as a number of bars whose product with
the bar is that number of ticks, or refused; each refusal has its own cause, and what is too long is
what has no other. Names have one digit at most, so the limit of nine is a limit on decimals. On the
way the terms of a bar count stay in 64-bit words. -/
theorem durationsExact (text : String) (meter : Meter) :
    let cs := Text.trim text.toList
    (∀ ticks : UInt32, parse text meter = .ok ticks ↔
        (TickCount cs ticks.toNat ∧ 1 ≤ ticks.toNat ∧ ticks.toNat ≤ 0x0FFFFFFF) ∨
          ∃ bars, BarCount cs bars ∧ cs.countP Char.isDigit ≤ 9 ∧ 0 < bars ∧ bars ≤ 4096 ∧
            bars * meter.ticksPerBar = ticks.toNat ∧ ticks.toNat ≤ 0x0FFFFFFF) ∧
      (parse text meter = .error .empty ↔ cs = []) ∧
      (∀ given, parse text meter = .error (.unrecognized given) ↔
        given = String.ofList cs ∧ cs ≠ [] ∧ (∀ ticks, ¬ TickCount cs ticks) ∧
          ∀ bars, ¬ BarCount cs bars) ∧
      (parse text meter = .error .notPositive ↔
        TickCount cs 0 ∨ ∃ whole fraction, Decimal cs whole fraction ∧
          decimalBars whole fraction = 0 ∧ cs.countP Char.isDigit ≤ 9) ∧
      (∀ given, parse text meter = .error (.fractionalTicks given) ↔
        given = String.ofList cs ∧ ∃ bars, BarCount cs bars ∧ cs.countP Char.isDigit ≤ 9 ∧
          0 < bars ∧ bars ≤ 4096 ∧ ∀ ticks : Nat, bars * meter.ticksPerBar ≠ ticks) ∧
      (parse text meter = .error .tooLong ↔
        (∃ ticks, TickCount cs ticks ∧ 0x0FFFFFFF < ticks) ∨ ∃ bars, BarCount cs bars ∧
          (9 < cs.countP Char.isDigit ∨ 4096 < bars ∨
            ∃ ticks : Nat, bars * meter.ticksPerBar = ticks ∧ 0x0FFFFFFF < ticks)) ∧
      (∀ whole fraction, Decimal cs whole fraction → cs.countP Char.isDigit ≤ 9 →
        WordSized meter (decimalBars whole fraction) (placeValue (whole ++ fraction))
          (10 ^ fraction.length)) ∧
      ∀ code num den, (code, num, den) ∈ named → WordSized meter (num / den) num den := by
  simp only [parseIff]
  refine ⟨fun ticks => okIff, emptyIff, fun given => unrecognizedIff, notPositiveIff,
    fun given => fractionalIff, tooLongIff, fun whole fraction written short => ?_,
    fun code num den listed => ?_⟩
  · obtain ⟨above, below⟩ := decimalSmall written short
    have sized := smallSized above (Nat.pow_pos (by decide)) below meter
    rwa [← Int.cast_natCast (placeValue _), ← Rat.mkRat_eq_div, ← decimalTerms] at sized
  · obtain ⟨-, above, positive, below⟩ := namedSmall listed
    exact smallSized above positive below meter

end ChordChart.Duration
