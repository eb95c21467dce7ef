import ChordChart.Options
import ChordChart.Session
import Mathlib

/-! What options without a problem are, and what each setting accepts: the value it reads from its
argument, within the range it asks for, and the options with that value in its own field. -/
namespace ChordChart

namespace Options

structure Usable (options : Options) : Prop where
  slowest : minTempo ≤ options.tempo.toNat
  fastest : options.tempo.toNat ≤ maxTempo
  octave : options.baseOctave.toNat ≤ maxBaseOctave
  channel : options.channel ≤ 15
  transpose : options.transpose.natAbs ≤ maxTranspose
  meter : options.meter.isValid

theorem usableIff {options : Options} : options.problem? = none ↔ options.Usable := by
  unfold problem?
  constructor
  · intro none
    split at none <;> try contradiction
    rename_i tempo
    split at none <;> try contradiction
    rename_i octave
    split at none <;> try contradiction
    rename_i channel
    split at none <;> try contradiction
    rename_i transpose
    split at none <;> try contradiction
    rename_i meter
    exact ⟨by omega, by omega, by omega, UInt8.not_lt.mp channel, by omega, by simpa using meter⟩
  · rintro ⟨slowest, fastest, octave, channel, transpose, meter⟩
    rw [if_neg (by omega), if_neg (by omega), if_neg (UInt8.not_lt.mpr channel),
      if_neg (by omega), if_neg (by simp [meter])]

theorem meterBeats {options : Options} (usable : options.Usable) : 0 < options.meter.numerator := by
  have valid := usable.meter
  simp only [Meter.isValid, Bool.and_eq_true, decide_eq_true_eq] at valid
  exact valid.1

end Options

theorem Text.naturalBelow {most value : Nat} {cs : List Char}
    (read : Text.natural? most cs = some value) : value ≤ most := by
  simp only [Text.natural?, Option.ite_none_right_eq_some, Bool.and_eq_true, decide_eq_true_eq,
    Option.some.injEq] at read
  obtain ⟨⟨-, below⟩, rfl⟩ := read
  exact below

theorem Text.integerWithin {least most value : Int} {cs : List Char}
    (read : Text.integer? least most cs = some value) : least ≤ value ∧ value ≤ most := by
  simp only [Text.integer?, Option.ite_none_right_eq_some, Bool.and_eq_true, decide_eq_true_eq,
    Option.some.injEq] at read
  obtain ⟨⟨⟨-, above⟩, below⟩, rfl⟩ := read
  exact ⟨above, below⟩

theorem Meter.parseValid {text : String} {meter : Meter} (read : Meter.parse? text = some meter) :
    meter.isValid := by
  simp only [Meter.parse?, bind, Option.bind_eq_some_iff, Option.ite_none_right_eq_some,
    Option.some.injEq] at read
  obtain ⟨halves, -, above, -, below, -, valid, rfl⟩ := read
  exact valid

namespace Setting

inductive Accepts (argument : String) (options : Options) : Setting → Options → Prop where
  | tempo {value} (read : Text.natural? (UInt32.size - 1) argument.toList = some value)
      (slowest : Options.minTempo ≤ value) (fastest : value ≤ Options.maxTempo) :
      Accepts argument options .tempo { options with tempo := UInt32.ofNat value }
  | octave {value} (read : Text.natural? Options.maxBaseOctave argument.toList = some value) :
      Accepts argument options .octave { options with baseOctave := UInt8.ofNat value }
  | voicing {value} (read : Strategy.named? argument = some value) :
      Accepts argument options .voicing { options with strategy := value }
  | output {value} (read : Output.named? argument = some value) :
      Accepts argument options .output { options with output := value }
  | velocity {value} (read : Text.natural? 127 argument.toList = some value)
      (sounds : 1 ≤ value) :
      Accepts argument options .velocity { options with velocity := UInt8.ofNat value }
  | duration {ticks} (read : Duration.parse argument options.meter = .ok ticks) :
      Accepts argument options .duration { options with chordDuration := argument }
  | transpose {value}
      (read : Text.integer? (-24) 24 (argument.toList.dropWhile (· = '+')) = some value) :
      Accepts argument options .transpose { options with transpose := value }
  | channel {value} (read : Text.natural? 16 argument.toList = some value) (first : 1 ≤ value) :
      Accepts argument options .channel { options with channel := UInt8.ofNat (value - 1) }
  | meter {value} (read : Meter.parse? argument = some value) :
      Accepts argument options .meter { options with meter := value }
  | derived (word : argument = "auto" ∨ argument = "-") :
      Accepts argument options .name { options with fileName := none }
  | named (word : ¬ (argument = "auto" ∨ argument = "-")) :
      Accepts argument options .name { options with fileName := some argument }

theorem changeAccepts {setting : Setting} {argument text : String} {options changed : Options}
    (accepted : setting.change argument options = .changed changed text) :
    Accepts argument options setting changed := by
  cases setting with
  | tempo =>
    rw [change] at accepted
    unfold changeTempo at accepted
    split at accepted <;> try contradiction
    rename_i read
    split at accepted <;> try contradiction
    rename_i range
    cases accepted
    exact .tempo read range.1 range.2
  | octave =>
    rw [change] at accepted
    unfold changeOctave at accepted
    split at accepted <;> try contradiction
    rename_i read
    cases accepted
    exact .octave read
  | voicing =>
    rw [change] at accepted
    unfold changeVoicing at accepted
    split at accepted <;> try contradiction
    rename_i read
    cases accepted
    exact .voicing read
  | output =>
    rw [change] at accepted
    unfold changeOutput at accepted
    split at accepted <;> try contradiction
    rename_i read
    cases accepted
    exact .output read
  | velocity =>
    rw [change] at accepted
    unfold changeVelocity at accepted
    split at accepted <;> try contradiction
    rename_i read
    split at accepted <;> try contradiction
    rename_i sounds
    cases accepted
    exact .velocity read sounds
  | duration =>
    rw [change] at accepted
    unfold changeDuration at accepted
    split at accepted <;> try contradiction
    rename_i read
    cases accepted
    exact .duration read
  | transpose =>
    rw [change] at accepted
    unfold changeTranspose at accepted
    split at accepted <;> try contradiction
    rename_i read
    cases accepted
    exact .transpose read
  | channel =>
    rw [change] at accepted
    unfold changeChannel at accepted
    split at accepted <;> try contradiction
    rename_i read
    split at accepted <;> try contradiction
    rename_i first
    cases accepted
    exact .channel read first
  | meter =>
    rw [change] at accepted
    unfold changeMeter at accepted
    split at accepted <;> try contradiction
    rename_i read
    cases accepted
    exact .meter read
  | name =>
    rw [change] at accepted
    unfold changeName at accepted
    split at accepted
    · rename_i word
      cases accepted
      exact .derived word
    · rename_i word
      cases accepted
      exact .named word

theorem acceptsUsable {setting : Setting} {argument : String} {options changed : Options}
    (accepts : Accepts argument options setting changed) (usable : options.Usable) :
    changed.Usable := by
  cases accepts with
  | @tempo value read slowest fastest =>
    have whole : (UInt32.ofNat value).toNat = value :=
      UInt32.toNat_ofNat_of_lt' (Nat.lt_of_le_of_lt fastest (by decide))
    exact { usable with slowest := by simpa [whole], fastest := by simpa [whole] }
  | @octave value read =>
    have highest := Text.naturalBelow read
    have whole : (UInt8.ofNat value).toNat = value :=
      UInt8.toNat_ofNat_of_lt' (Nat.lt_of_le_of_lt highest (by decide))
    exact { usable with octave := by simpa [whole] }
  | @channel value read first =>
    have last := Text.naturalBelow read
    have whole : (UInt8.ofNat (value - 1)).toNat = value - 1 :=
      UInt8.toNat_ofNat_of_lt' (by rw [UInt8.size]; omega)
    have below : (UInt8.ofNat (value - 1)).toNat ≤ (15 : UInt8).toNat := by
      rw [whole]
      exact Nat.sub_le_of_le_add last
    exact { usable with channel := UInt8.le_iff_toNat_le.mpr below }
  | transpose read =>
    have range := Text.integerWithin read
    exact { usable with transpose := by dsimp only [Options.maxTranspose]; omega }
  | meter read => exact { usable with meter := Meter.parseValid read }
  | voicing | output | velocity | duration | derived | named => exact { usable with }

end Setting

end ChordChart
