import ChordChart.Proofs.Check
import ChordChart.Proofs.Options

/-! How long the lengths are that progressions, checks and settings accept. None is beyond the last
tick. One is nothing exactly where a number of bars is measured in a meter without beats, which is
no valid meter and is not refused by a reader. -/
namespace ChordChart

open Progression (tokens durationText)

structure Duration.Ranged (meter : Meter) (text : String) (ticks : UInt32) : Prop where
  most : ticks.toNat ≤ 0x0FFFFFFF
  least : 1 ≤ ticks.toNat ↔
    1 ≤ meter.numerator.toNat ∨ ∃ count, TickCount (Text.trim text.toList) count

theorem Duration.parseRanged {text : String} {meter : Meter} {ticks : UInt32}
    (ok : parse text meter = .ok ticks) : Ranged meter text ticks where
  most := parseLimit ok
  least := by
    rw [Nat.one_le_iff_ne_zero, ← Nat.pos_iff_ne_zero, parsePositive ok, UInt8.lt_iff_toNat_lt]
    rfl

def Progression.RangedEntries (text default : String) (meter : Meter) (entries : List Entry) : Prop :=
  List.Forall₂ (fun token entry => Duration.Ranged meter (durationText default token) entry.duration)
    (tokens text.toList) entries

theorem Progression.parseRanged {text default : String} {meter : Meter} {entries : List Entry}
    (ok : parse text default meter = .ok entries) : RangedEntries text default meter entries :=
  (parseDurations ok).imp fun _ _ => Duration.parseRanged

theorem lengthsRanged (meter : Meter) :
    (∀ text default entries, Progression.parse text default meter = .ok entries →
        Progression.RangedEntries text default meter entries) ∧
      (∀ text default, (Check.ofText text default meter).Stops ∨
        ∃ entries, Check.ofText text default meter = Check.ofEntries entries ∧
          Progression.RangedEntries text default meter entries) ∧
      ∀ argument options changed text, options.meter = meter →
        Setting.duration.change argument options = .changed changed text →
          ∃ ticks, Duration.Ranged meter argument ticks ∧
            changed = { options with chordDuration := argument } ∧
            text = "Default chord duration set to " ++ argument ++ " (" ++
              toString ticks.toNat ++ " ticks)" := by
  refine ⟨fun text default entries => Progression.parseRanged, fun text default => ?_, ?_⟩
  · cases parsed : Progression.parse text default meter with
    | error cause => exact .inl (Check.stopsIff.mpr ⟨cause, parsed⟩)
    | ok entries =>
      exact .inr ⟨entries, by rw [Check.ofText, parsed], Progression.parseRanged parsed⟩
  · rintro argument options changed text rfl accepted
    rw [Setting.change, Setting.changeDuration] at accepted
    split at accepted <;> try contradiction
    rename_i ticks read
    cases accepted
    exact ⟨ticks, Duration.parseRanged read, rfl, rfl⟩

def beatless : Meter := ⟨0, 4⟩

def beatlessEntries : List Entry :=
  [⟨"C", .chord ⟨some 0, "", none⟩, 0⟩, ⟨"G", .chord ⟨some 7, "", none⟩, 96⟩]

theorem beatlessParsed : Progression.parse "C G:T96" "1" beatless = .ok beatlessEntries :=
  okOfSome (by decide +kernel)

theorem beatlessRanged :
    Progression.parse "C G:T96" "1" beatless = .ok beatlessEntries ∧
      (¬ ∃ count, Duration.TickCount ['1'] count) ∧
        ∃ count, Duration.TickCount ['T', '9', '6'] count := by
  have ranged := (lengthsRanged beatless).1 _ _ _ beatlessParsed
  have alone : tokens "C G:T96".toList = [['C'], ['G', ':', 'T', '9', '6']] := by decide +kernel
  rw [Progression.RangedEntries, alone, beatlessEntries] at ranged
  obtain ⟨first, rest⟩ := List.forall₂_cons.mp ranged
  obtain ⟨second, -⟩ := List.forall₂_cons.mp rest
  have usual : Text.trim (durationText "1" ['C']).toList = ['1'] := by decide +kernel
  have own : Text.trim (durationText "1" ['G', ':', 'T', '9', '6']).toList = ['T', '9', '6'] := by
    decide +kernel
  have bar := first.least
  have ticks := second.least
  rw [usual] at bar
  rw [own] at ticks
  refine ⟨beatlessParsed, fun counted => ?_, (ticks.mp (by decide)).resolve_left (by decide)⟩
  exact absurd (bar.mpr (.inr counted)) (by decide)

theorem beatlessNothing :
    Progression.parse "C" "1" beatless = .ok [⟨"C", .chord ⟨some 0, "", none⟩, 0⟩] ∧
      Check.ofText "C" "1" beatless = ⟨true, 1, []⟩ ∧
      Setting.duration.change "1" { meter := beatless } =
        .changed { meter := beatless } "Default chord duration set to 1 (0 ticks)" ∧
      ¬ ∀ entry ∈ [(⟨"C", .chord ⟨some 0, "", none⟩, 0⟩ : Entry)],
        1 ≤ entry.duration.toNat ∧ entry.duration.toNat ≤ 0x0FFFFFFF := by
  have parsed : Progression.parse "C" "1" beatless =
      .ok [⟨"C", .chord ⟨some 0, "", none⟩, 0⟩] := okOfSome (by decide +kernel)
  refine ⟨parsed, ?_, by decide +kernel, by simp⟩
  rw [Check.ofText, parsed]
  decide +kernel

end ChordChart
