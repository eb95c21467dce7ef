import ChordChart.Proofs.Duration.Exact

/-! The notation of durations: tick counts, decimals and names. What a text denotes is told from its
spelling alone, and the reader takes each kind of text for what it is. -/
namespace ChordChart.Duration

open Text (Digits placeValue)

inductive TickCount : List Char → Nat → Prop where
  | marked {mark digits} (letter : mark = 'T' ∨ mark = 't') (numeral : Digits digits) :
      TickCount (mark :: digits) (placeValue digits)

inductive Decimal : List Char → List Char → List Char → Prop where
  | whole {digits} (numeral : Digits digits) : Decimal digits digits []
  | pointed {whole fraction} (numeral : Digits (whole ++ fraction)) :
      Decimal (whole ++ '.' :: fraction) whole fraction

def decimalBars (whole fraction : List Char) : Rat :=
  placeValue whole + placeValue fraction / 10 ^ fraction.length

inductive BarCount : List Char → Rat → Prop where
  | named {code num den} (listed : (code, num, den) ∈ named) : BarCount code.toList (num / den)
  | decimal {cs whole fraction} (written : Decimal cs whole fraction) :
      BarCount cs (decimalBars whole fraction)

theorem digitsFree {digits : List Char} (numeral : Digits digits) {c : Char}
    (other : c.isDigit = false) : c ∉ digits := by
  intro member
  have digit := numeral.decimal c member
  rw [other] at digit
  contradiction

theorem decimalParts {cs whole fraction : List Char} (written : Decimal cs whole fraction) :
    (Text.splitOnce '.' cs).getD (cs, []) = (whole, fraction) ∧ Digits (whole ++ fraction) ∧
      cs.countP Char.isDigit = (whole ++ fraction).length := by
  have counted {digits} (numeral : Digits digits) : digits.countP Char.isDigit = digits.length :=
    List.countP_eq_length.mpr numeral.decimal
  cases written with
  | whole numeral =>
    rw [Text.splitOnceNone (digitsFree numeral (by decide)), List.append_nil]
    exact ⟨rfl, numeral, counted numeral⟩
  | pointed numeral =>
    have free : '.' ∉ whole := fun member =>
      digitsFree numeral (by decide) (List.mem_append_left _ member)
    refine ⟨by rw [Text.splitOnceFirst free]; rfl, numeral, ?_⟩
    rw [← counted numeral, List.countP_append, List.countP_append, List.countP_cons_of_neg]
    decide

theorem partsDecimal {cs whole fraction : List Char}
    (split : (Text.splitOnce '.' cs).getD (cs, []) = (whole, fraction))
    (numeral : Digits (whole ++ fraction)) : Decimal cs whole fraction := by
  cases point : Text.splitOnce '.' cs with
  | none =>
    rw [point] at split
    cases split
    rw [List.append_nil] at numeral
    exact .whole numeral
  | some halves =>
    rw [point] at split
    cases split
    rw [Text.splitOnceParts point]
    exact .pointed numeral

theorem decimalTerms (whole fraction : List Char) :
    decimalBars whole fraction =
      mkRat (placeValue (whole ++ fraction)) (10 ^ fraction.length) := by
  have positive : (10 ^ fraction.length : Rat) ≠ 0 := pow_ne_zero _ (by norm_num)
  rw [decimalBars, Text.placesAppend, Rat.mkRat_eq_div]
  push_cast
  field_simp

theorem decimalSmall {cs whole fraction : List Char} (written : Decimal cs whole fraction)
    (short : cs.countP Char.isDigit ≤ 9) :
    placeValue (whole ++ fraction) < 1000000000 ∧ 10 ^ fraction.length ≤ 1000000000 := by
  obtain ⟨-, numeral, counted⟩ := decimalParts written
  rw [counted] at short
  have digits := Text.numeralBelow numeral.decimal
  rw [Text.numeralPlaces] at digits
  have longest : 10 ^ (whole ++ fraction).length ≤ 10 ^ 9 := Nat.pow_le_pow_right (by decide) short
  have places : 10 ^ fraction.length ≤ 10 ^ 9 := by
    refine Nat.pow_le_pow_right (by decide) ?_
    rw [List.length_append] at short
    omega
  omega

theorem decimalRead {cs whole fraction : List Char} (written : Decimal cs whole fraction)
    (text : String) :
    parseDecimal text cs =
      if 9 < cs.countP Char.isDigit then .error .tooLong
      else if decimalBars whole fraction = 0 then .error .notPositive
      else .ok (decimalBars whole fraction) := by
  obtain ⟨split, numeral, counted⟩ := decimalParts written
  have nothing : decimalBars whole fraction = 0 ↔ placeValue (whole ++ fraction) = 0 := by
    rw [decimalTerms, Rat.mkRat_eq_zero (by positivity)]
    exact Int.natCast_eq_zero
  simp only [nothing]
  rw [parseDecimal, split, counted, decimalTerms]
  simp only [Text.numeralIff.mpr numeral, Text.numeralPlaces, maxDigits]
  rfl

theorem decimalSpelled {cs whole fraction : List Char} (written : Decimal cs whole fraction) :
    cs ≠ [] ∧ ∀ c ∈ cs, c.isDigit ∨ c = '.' := by
  cases written with
  | whole numeral => exact ⟨numeral.filled, fun c member => .inl (numeral.decimal c member)⟩
  | pointed numeral =>
    refine ⟨by simp, fun c member => ?_⟩
    rcases List.mem_append.mp member with before | behind
    · exact .inl (numeral.decimal c (List.mem_append_left _ before))
    · rcases List.mem_cons.mp behind with point | after
      · exact .inr point
      · exact .inl (numeral.decimal c (List.mem_append_right _ after))

theorem namedSmall {code : String} {num den : Nat} (listed : (code, num, den) ∈ named) :
    0 < num ∧ num < 1000000000 ∧ 0 < den ∧ den ≤ 1000000000 := by
  have all : ∀ entry ∈ named,
      0 < entry.2.1 ∧ entry.2.1 < 1000000000 ∧ 0 < entry.2.2 ∧ entry.2.2 ≤ 1000000000 := by
    decide
  exact all _ listed

theorem namedRead {code : String} {num den : Nat} (listed : (code, num, den) ∈ named) :
    namedBars? code = some (num / den : Rat) ∧ (num / den : Rat) ≠ 0 := by
  have all : ∀ entry ∈ named, namedBars? entry.1 = some (mkRat entry.2.1 entry.2.2) ∧
      mkRat entry.2.1 entry.2.2 ≠ 0 := by
    decide +kernel
  have found := all _ listed
  rwa [Rat.mkRat_eq_div, Int.cast_natCast] at found

theorem namedSpelled {code : String} {num den : Nat} (listed : (code, num, den) ∈ named) :
    code.toList ≠ [] ∧ (∀ c ∈ code.toList, c ≠ 'T' ∧ c ≠ 't') ∧
      code.toList.countP Char.isDigit ≤ 9 ∧ ∃ c ∈ code.toList, ¬ c.isDigit ∧ c ≠ '.' := by
  have all : ∀ entry ∈ named, entry.1.toList ≠ [] ∧ (∀ c ∈ entry.1.toList, c ≠ 'T' ∧ c ≠ 't') ∧
      entry.1.toList.countP Char.isDigit ≤ 9 ∧ ∃ c ∈ entry.1.toList, ¬ c.isDigit ∧ c ≠ '.' := by
    simp [named]
  exact all _ listed

theorem decimalUnnamed {cs whole fraction : List Char} (written : Decimal cs whole fraction) :
    namedBars? (String.ofList cs) = none := by
  cases found : namedBars? (String.ofList cs) with
  | none => rfl
  | some bars =>
    obtain ⟨entry, hit, -⟩ := Option.map_eq_some_iff.mp found
    have same : entry.1 = String.ofList cs := by simpa using List.find?_some hit
    obtain ⟨-, -, -, c, among, letter⟩ := namedSpelled (List.mem_of_find?_eq_some hit)
    rw [same, String.toList_ofList] at among
    rcases (decimalSpelled written).2 c among with digit | point
    · exact absurd digit letter.1
    · exact absurd point letter.2

theorem barSpelled {cs : List Char} {bars : Rat} (counted : BarCount cs bars) :
    cs ≠ [] ∧ ∀ c ∈ cs, ¬ (c = 'T' ∨ c = 't') := by
  cases counted with
  | named listed =>
    obtain ⟨filled, free, -⟩ := namedSpelled listed
    exact ⟨filled, fun c member => not_or.mpr (free c member)⟩
  | decimal written =>
    obtain ⟨filled, spelled⟩ := decimalSpelled written
    refine ⟨filled, fun c member marked => ?_⟩
    have plain := spelled c member
    rcases marked with rfl | rfl <;> simp at plain

theorem ticksNoBars {cs : List Char} {ticks : Nat} (counted : TickCount cs ticks) (bars : Rat) :
    ¬ BarCount cs bars := by
  intro read
  cases counted with
  | marked letter numeral => exact (barSpelled read).2 _ List.mem_cons_self letter

theorem barsNotNegative {cs : List Char} {bars : Rat} (counted : BarCount cs bars) : 0 ≤ bars := by
  cases counted with
  | named listed => positivity
  | decimal written =>
    unfold decimalBars
    positivity

theorem nothingWritten {cs : List Char} {bars : Rat} (counted : BarCount cs bars)
    (none : bars = 0) :
    ∃ whole fraction, Decimal cs whole fraction ∧ decimalBars whole fraction = 0 := by
  cases counted with
  | named listed => exact absurd none (namedRead listed).2
  | decimal written => exact ⟨_, _, written, none⟩

theorem countedWritten {cs : List Char} {bars : Rat} (counted : BarCount cs bars)
    (short : cs.countP Char.isDigit ≤ 9) (some : 0 < bars) : Written bars := by
  cases counted with
  | named listed =>
    obtain ⟨first, above, positive, below⟩ := namedSmall listed
    rw [← Int.cast_natCast, ← Rat.mkRat_eq_div]
    exact .quotient first above positive below
  | decimal written =>
    obtain ⟨above, below⟩ := decimalSmall written short
    rw [decimalTerms] at some ⊢
    refine .quotient (Nat.pos_of_ne_zero fun none => ?_) above (Nat.pow_pos (by decide)) below
    rw [none, Nat.cast_zero, Rat.zero_mkRat] at some
    exact lt_irrefl _ some

theorem barsRead {cs : List Char} {bars : Rat} (counted : BarCount cs bars) :
    parseBars (String.ofList cs) cs =
      if 9 < cs.countP Char.isDigit then .error .tooLong
      else if bars = 0 then .error .notPositive
      else .ok bars := by
  cases counted with
  | named listed =>
    obtain ⟨-, -, short, -⟩ := namedSpelled listed
    obtain ⟨found, some⟩ := namedRead listed
    rw [parseBars, String.ofList_toList, found, if_neg (Nat.not_lt.mpr short), if_neg some]
  | decimal written =>
    rw [parseBars, decimalUnnamed written]
    exact decimalRead written _

theorem barsParsed {text : String} {cs : List Char} (trimmed : Text.trim text.toList = cs)
    {bars : Rat} (counted : BarCount cs bars) (meter : Meter) :
    parse text meter =
      if 9 < cs.countP Char.isDigit then .error .tooLong
      else if bars = 0 then .error .notPositive
      else ofBars (String.ofList cs) meter bars := by
  obtain ⟨filled, plain⟩ := barSpelled counted
  obtain ⟨first, rest, rfl⟩ := List.exists_cons_of_ne_nil filled
  simp only [parse, trimmed, if_neg (plain first List.mem_cons_self), barsRead counted]
  split
  · rfl
  · split <;> rfl

theorem barsShort {text : String} {cs : List Char} (trimmed : Text.trim text.toList = cs)
    {bars : Rat} (counted : BarCount cs bars) (short : cs.countP Char.isDigit ≤ 9)
    (some : 0 < bars) (meter : Meter) :
    parse text meter = ofBars (String.ofList cs) meter bars := by
  rw [barsParsed trimmed counted, if_neg (Nat.not_lt.mpr short), if_neg some.ne']

theorem ticksParsed {text : String} {cs : List Char} (trimmed : Text.trim text.toList = cs)
    {ticks : Nat} (counted : TickCount cs ticks) (meter : Meter) :
    parse text meter =
      if maxTicks < ticks then .error .tooLong
      else if ticks = 0 then .error .notPositive
      else .ok (UInt32.ofNat ticks) := by
  cases counted with
  | marked letter numeral =>
    simp only [parse, trimmed, if_pos letter, parseTicks, Text.numeralIff.mpr numeral,
      Text.numeralPlaces]
    rfl

theorem unknownRead {cs : List Char} (noBars : ∀ bars, ¬ BarCount cs bars) :
    parseBars (String.ofList cs) cs = .error (.unrecognized (String.ofList cs)) := by
  unfold parseBars
  cases found : namedBars? (String.ofList cs) with
  | some bars =>
    obtain ⟨⟨code, num, den⟩, hit, -⟩ := Option.map_eq_some_iff.mp found
    have same : code = String.ofList cs := by simpa using List.find?_some hit
    have counted := BarCount.named (List.mem_of_find?_eq_some hit)
    rw [same, String.toList_ofList] at counted
    exact absurd counted (noBars _)
  | none =>
    dsimp only
    unfold parseDecimal
    cases split : (Text.splitOnce '.' cs).getD (cs, []) with
    | mk whole fraction =>
      have other : Text.isNumeral (whole ++ fraction) = false := by
        refine Bool.eq_false_iff.mpr fun numeral => noBars (decimalBars whole fraction) ?_
        exact .decimal (partsDecimal split (Text.numeralIff.mp numeral))
      simp [other]

theorem unknownParsed {text : String} {cs : List Char} (trimmed : Text.trim text.toList = cs)
    (filled : cs ≠ []) (noTicks : ∀ ticks, ¬ TickCount cs ticks)
    (noBars : ∀ bars, ¬ BarCount cs bars) (meter : Meter) :
    parse text meter = .error (.unrecognized (String.ofList cs)) := by
  obtain ⟨first, rest, rfl⟩ := List.exists_cons_of_ne_nil filled
  by_cases letter : first = 'T' ∨ first = 't'
  · have other : ¬ Text.isNumeral rest := fun numeral =>
      noTicks _ (.marked letter (Text.numeralIff.mp numeral))
    simp [parse, trimmed, letter, parseTicks, other]
  · simp only [parse, trimmed, if_neg letter, unknownRead noBars]
    rfl

end ChordChart.Duration
