import ChordChart.Proofs.Progression.Joined
import ChordChart.Proofs.Slot.Placed

/-! Progressions continued. What is appended to a progression comes behind its slots and changes
none of them; where no chord is led from the one before, it is itself as it would be alone, only
later. -/
namespace ChordChart

theorem Voicing.settledAlone {strategy : Strategy} (settled : strategy ≠ .smooth) (chord : Chord)
    (octave : UInt8) (previous other : List Key) :
    ofChord chord strategy octave previous = ofChord chord strategy octave other := by
  cases strategy with
  | smooth => contradiction
  | rootPosition | firstInversion | secondInversion | pianist | openPosition | spread | cocktail =>
    rfl

namespace Slot

open Progression (length)

def later (ticks : UInt32) (slot : Slot) : Slot := { slot with start := slot.start + ticks }

theorem laidText {options : Options} (text : String) {tick : Nat} {previous : List Key}
    {entries : List Entry} {slots : List Slot}
    (laid : Laid options tick previous entries slots) :
    Laid { options with progression := text } tick previous entries slots := by
  induction laid with
  | nil tick previous => exact .nil tick previous
  | rest kind room next ih => exact .rest kind room ih
  | unknown kind refused room next ih => exact .unknown kind refused room ih
  | sounding kind resolved voiced room next ih => exact .sounding kind resolved voiced room ih

theorem laidSplit {options : Options} {tick : Nat} {previous : List Key} {xs ys : List Entry}
    {slots : List Slot} (laid : Laid options tick previous (xs ++ ys) slots) :
    ∃ first rest before, slots = first ++ rest ∧ Laid options tick previous xs first ∧
      Laid options (tick + length xs) before ys rest := by
  induction xs generalizing tick previous slots with
  | nil => exact ⟨[], slots, previous, rfl, .nil _ _, laid⟩
  | cons entry xs ih =>
    rw [Progression.lengthCons, ← Nat.add_assoc]
    cases laid with
    | rest kind room next =>
      obtain ⟨first, rest, before, rfl, one, two⟩ := ih next
      exact ⟨_, rest, before, rfl, .rest kind room one, two⟩
    | unknown kind refused room next =>
      obtain ⟨first, rest, before, rfl, one, two⟩ := ih next
      exact ⟨_, rest, before, rfl, .unknown kind refused room one, two⟩
    | sounding kind resolved voiced room next =>
      obtain ⟨first, rest, before, rfl, one, two⟩ := ih next
      exact ⟨_, rest, before, rfl, .sounding kind resolved voiced room one, two⟩

@[simp]
theorem laterRest (entry : Entry) (tick more : Nat) :
    (rest entry tick).later (UInt32.ofNat more) = rest entry (tick + more) := by
  simp [rest, silent, later, UInt32.ofNat_add]

@[simp]
theorem laterUnknown (entry : Entry) (tick more : Nat) (cause : ResolveError) :
    (unknown entry tick cause).later (UInt32.ofNat more) = unknown entry (tick + more) cause := by
  simp [unknown, silent, later, UInt32.ofNat_add]

@[simp]
theorem laterSounding (entry : Entry) (tick more : Nat) (chord : Chord) (voicing : Voicing) :
    (sounding entry tick chord voicing).later (UInt32.ofNat more) =
      sounding entry (tick + more) chord voicing := by
  simp [sounding, silent, later, UInt32.ofNat_add]

theorem laidEarlier {options : Options} (settled : options.strategy ≠ .smooth) {tick more : Nat}
    {previous other : List Key} {entries : List Entry} {slots : List Slot}
    (laid : Laid options (tick + more) previous entries slots) :
    ∃ alone, Laid options tick other entries alone ∧
      slots = alone.map (later (UInt32.ofNat more)) := by
  -- the two runs have the entries in common and differ in the tick and the keys before
  generalize start : tick + more = at_ at laid
  induction laid generalizing tick other with
  | nil => exact ⟨[], .nil _ _, rfl⟩
  | @rest _ _ entry _ _ kind room next ih =>
    subst start
    obtain ⟨alone, laid, rfl⟩ := @ih (tick + entry.duration.toNat) other (by omega)
    exact ⟨_, .rest kind (by omega) laid, by simp⟩
  | @unknown _ _ entry _ _ _ _ kind refused room next ih =>
    subst start
    obtain ⟨alone, laid, rfl⟩ := @ih (tick + entry.duration.toNat) other (by omega)
    exact ⟨_, .unknown kind refused (by omega) laid, by simp⟩
  | @sounding _ _ entry _ _ _ _ voicing kind resolved voiced room next ih =>
    subst start
    obtain ⟨alone, laid, rfl⟩ := @ih (tick + entry.duration.toNat) voicing.notes (by omega)
    have same := (Voicing.settledAlone settled _ _ other _).trans voiced
    exact ⟨_, .sounding kind resolved same (by omega) laid, by simp⟩

theorem laterStart {options : Options} {entries : List Entry} {slots : List Slot} {ticks : UInt32}
    (inside : ticks.toNat ≤ maxTicks) (laid : Laid options 0 [] entries slots) :
    ∀ slot ∈ slots, (slot.later ticks).start.toNat = slot.start.toNat + ticks.toNat := by
  intro slot member
  obtain ⟨stop, bound, span⟩ := laidSpan laid (Nat.zero_le _)
  have bounds := spanBounds span slot member
  unfold maxTicks at inside bound
  rw [later, UInt32.toNat_add]
  omega

theorem appendedBehind {options : Options} {a b sep : String}
    (separates : Progression.Separates sep.toList) (someA : Progression.tokens a.toList ≠ [])
    (someB : Progression.tokens b.toList ≠ []) {slots : List Slot}
    (ok : ofOptions { options with progression := a ++ sep ++ b } = .ok slots) :
    ∃ first rest, ofOptions { options with progression := a } = .ok first ∧
      slots = first ++ rest ∧
        (options.strategy ≠ .smooth →
          ∃ alone, ofOptions { options with progression := b } = .ok alone ∧
            rest = alone.map (later (totalTicks first)) ∧
              ∀ slot ∈ alone, (slot.later (totalTicks first)).start.toNat =
                slot.start.toNat + (totalTicks first).toNat) := by
  obtain ⟨valid, entries, parsed, laid⟩ := optionsLaid ok
  obtain ⟨ticks, usual, -, -⟩ := Progression.parseSource parsed
  dsimp only at parsed usual
  rw [Progression.parseJoin usual separates someA someB] at parsed
  obtain ⟨xs, parsedA, others⟩ := bindOk parsed
  obtain ⟨ys, parsedB, joined⟩ := bindOk others
  cases joined
  have plain := laidText options.progression laid
  obtain ⟨first, rest, before, rfl, laidA, laidB⟩ := laidSplit plain
  refine ⟨first, rest, laidOptions valid parsedA (laidText a laidA), rfl, fun settled => ?_⟩
  obtain ⟨alone, earlier, rfl⟩ := @laidEarlier options settled 0 _ before [] ys rest laidB
  have total : UInt32.ofNat (length xs) = totalTicks first := by
    rw [← laidTotal laidA, UInt32.ofNat_toNat]
  obtain ⟨stop, bound, span⟩ := laidSpan laidA (Nat.zero_le _)
  have inside : (totalTicks first).toNat = stop := spanTotal span bound rfl
  rw [total]
  exact ⟨alone, laidOptions valid parsedB (laidText b earlier), rfl,
    laterStart (inside ▸ bound) earlier⟩

theorem measuredAppended :
    ∃ slots first alone, ofOptions measured = .ok slots ∧
      ofOptions { measured with progression := "C:0.5 G:h" } = .ok first ∧
        ofOptions { measured with progression := "Am:T128 F" } = .ok alone ∧
          slots = first ++ alone.map (later (totalTicks first)) := by
  have someA : Progression.tokens "C:0.5 G:h".toList ≠ [] := by decide +kernel
  have someB : Progression.tokens "Am:T128 F".toList ≠ [] := by decide +kernel
  have space : Progression.Separates " ".toList := .blank (by decide)
  have text : "C:0.5 G:h" ++ " " ++ "Am:T128 F" = measured.progression := by decide +kernel
  obtain ⟨slots, ok⟩ := placedIff.mpr ⟨measuredEntries, measuredReads, by decide⟩
  have joined : ofOptions { measured with progression := "C:0.5 G:h" ++ " " ++ "Am:T128 F" } =
      .ok slots := by
    rw [text]
    exact ok
  obtain ⟨first, rest, before, rfl, settled⟩ := appendedBehind space someA someB joined
  obtain ⟨alone, behind, rfl, -⟩ := settled (by decide)
  exact ⟨_, first, alone, ok, before, behind, rfl⟩

end Slot

end ChordChart
