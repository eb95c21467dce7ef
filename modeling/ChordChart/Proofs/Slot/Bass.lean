import ChordChart.Proofs.Options
import ChordChart.Proofs.Slot.Voices
import ChordChart.Proofs.Voicing.Register

/-! The bass of a slot beside its chord. From the third octave on every strategy leaves room for the
bass below the chord, except that a long run of nearest pitches can sink until a chord is so low
that no key of the bass's class is below it. What sounds is led from what sounded before; rests and
unknown chords are passed by. -/
namespace ChordChart.Slot

def Founded (slot : Slot) : Prop :=
  ∃ bass, slot.bass = some bass ∧ ∀ key ∈ slot.voicing, bass < key

def HasRoom (slot : Slot) : Prop :=
  ∃ bass, slot.bass = some bass ∧ ∀ key ∈ slot.voicing, bass % 12 < key

theorem resolvedChords (transpose : Int) (entries : List Entry) :
    ∀ chord ∈ entries.filterMap (Entry.resolved? transpose), chord.WellFormed := by
  intro chord member
  obtain ⟨entry, -, resolved⟩ := List.mem_filterMap.mp member
  unfold Entry.resolved? at resolved
  split at resolved
  · contradiction
  · exact Chord.resolvedFormed (okOfSome resolved)

def Strikes (slot : Slot) (voicing : Voicing) : Prop :=
  slot.voicing = voicing.notes ∧ slot.bass = some voicing.bass

theorem audibleStrikes {options : Options} {slots : List Slot}
    (ok : ofOptions options = .ok slots) :
    ∃ chords : List Chord, (∀ chord ∈ chords, chord.WellFormed) ∧
      ∀ (i : Nat) (slot : Slot), (slots.filter isAudible)[i]? = some slot →
        ∃ voicing, (Voicing.ofChords options.strategy options.baseOctave [] chords)[i]? =
          some voicing ∧ slot.Strikes voicing := by
  obtain ⟨-, entries, -, laid⟩ := optionsLaid ok
  refine ⟨_, resolvedChords options.transpose entries, fun i slot found => ?_⟩
  have same := congrArg (fun voices => voices[i]?) (laidVoices laid)
  simp only [voices, List.getElem?_map, found, Option.map_some] at same
  obtain ⟨voicing, there, parts⟩ := Option.map_eq_some_iff.mp same.symm
  obtain ⟨notes, bass⟩ := Prod.mk.inj parts
  exact ⟨voicing, there, notes.symm, bass.symm⟩

theorem strikesFounded {slot : Slot} {voicing : Voicing} (strikes : slot.Strikes voicing) :
    slot.Founded ↔ voicing.Founded := by
  simp [Founded, Voicing.Founded, strikes.1, strikes.2]

theorem strikesRoom {slot : Slot} {chord : Chord} (formed : chord.WellFormed) {strategy : Strategy}
    {octave : UInt8} {previous : List Key}
    (strikes : slot.Strikes (Voicing.ofChord chord strategy octave previous)) :
    (slot.Founded ↔ slot.HasRoom) ∧
      (¬ slot.Founded → ∃ bass, slot.bass = some bass ∧ bass < 12) := by
  obtain ⟨same, room, lowest⟩ := Voicing.bassFounded formed strategy octave previous
  rw [strikesFounded strikes, room]
  refine ⟨by simp [HasRoom, strikes.1, strikes.2, same], fun sunk => ?_⟩
  rw [← room] at sunk
  exact ⟨_, strikes.2, lowest sunk ▸ formed.bass⟩

theorem foundedApart {slot : Slot} (founded : slot.Founded) :
    (slot.keys .chordsAndBass).Nodup ↔ slot.voicing.Nodup := by
  obtain ⟨bass, sounds, below⟩ := founded
  have apart : bass ∉ slot.voicing := fun member => UInt8.lt_irrefl _ (below bass member)
  simp [keys, sounds, apart]

theorem bassBelowChord {options : Options} {slots : List Slot}
    (ok : ofOptions options = .ok slots) (register : 2 ≤ options.baseOctave) :
    (options.strategy ≠ .smooth → ∀ slot ∈ slots.filter isAudible, slot.Founded) ∧
      (∀ i slot, (slots.filter isAudible)[i]? = some slot →
        i < 2 * options.baseOctave.toNat - 1 → slot.Founded) ∧
      ∀ slot ∈ slots.filter isAudible,
        (slot.Founded ↔ slot.HasRoom) ∧
          (¬ slot.Founded → ∃ bass, slot.bass = some bass ∧ bass < 12) ∧
          (slot.Founded → ((slot.keys .chordsAndBass).Nodup ↔ slot.voicing.Nodup)) := by
  have low : 2 ≤ options.baseOctave.toNat := register
  have high := (Options.usableIff.mp (optionsLaid ok).1).octave
  unfold Options.maxBaseOctave at high
  obtain ⟨chords, formed, struck⟩ := audibleStrikes ok
  refine ⟨fun settled slot member => ?_, fun i slot found early => ?_, fun slot member => ?_⟩
  · obtain ⟨i, found⟩ := List.mem_iff_getElem?.mp member
    obtain ⟨voicing, there, strikes⟩ := struck i slot found
    exact (strikesFounded strikes).mpr
      (Voicing.chordsFounded low high formed there fun smooth => absurd smooth settled)
  · obtain ⟨voicing, there, strikes⟩ := struck i slot found
    exact (strikesFounded strikes).mpr
      (Voicing.chordsFounded low high formed there fun _ => early)
  · obtain ⟨i, found⟩ := List.mem_iff_getElem?.mp member
    obtain ⟨voicing, there, strikes⟩ := struck i slot found
    obtain ⟨chord, among, before, rfl⟩ := Voicing.chordsVoiced voicing (List.mem_of_getElem? there)
    obtain ⟨room, lowest⟩ := strikesRoom (formed chord among) strikes
    exact ⟨room, lowest, foundedApart⟩

def sinking : Options :=
  { progression := "C1 F#1 C1 F#1", strategy := .smooth, baseOctave := 2 }

def sinkingEntries : List Entry :=
  [⟨"C1", .chord ⟨some 0, "1", none⟩, 512⟩, ⟨"F#1", .chord ⟨some 6, "1", none⟩, 512⟩,
    ⟨"C1", .chord ⟨some 0, "1", none⟩, 512⟩, ⟨"F#1", .chord ⟨some 6, "1", none⟩, 512⟩]

def sunk : List Slot :=
  [sounding ⟨"C1", .chord ⟨some 0, "1", none⟩, 512⟩ 0 ⟨0, [0], 0⟩ ⟨[24], 12⟩,
    sounding ⟨"F#1", .chord ⟨some 6, "1", none⟩, 512⟩ 512 ⟨6, [6], 6⟩ ⟨[18], 6⟩,
    sounding ⟨"C1", .chord ⟨some 0, "1", none⟩, 512⟩ 1024 ⟨0, [0], 0⟩ ⟨[12], 0⟩,
    sounding ⟨"F#1", .chord ⟨some 6, "1", none⟩, 512⟩ 1536 ⟨6, [6], 6⟩ ⟨[6], 6⟩]

theorem sinkingLaid : Laid sinking 0 [] sinkingEntries sunk := by
  have low : Chord.resolve ⟨some 0, "1", none⟩ 0 = .ok ⟨0, [0], 0⟩ := by cbv
  have high : Chord.resolve ⟨some 6, "1", none⟩ 0 = .ok ⟨6, [6], 6⟩ := by cbv
  have first : Voicing.ofChord ⟨0, [0], 0⟩ .smooth 2 [] = ⟨[24], 12⟩ := by cbv
  have second : Voicing.ofChord ⟨6, [6], 6⟩ .smooth 2 [24] = ⟨[18], 6⟩ := by cbv
  have third : Voicing.ofChord ⟨0, [0], 0⟩ .smooth 2 [18] = ⟨[12], 0⟩ := by cbv
  have fourth : Voicing.ofChord ⟨6, [6], 6⟩ .smooth 2 [12] = ⟨[6], 6⟩ := by cbv
  exact .sounding rfl low first (by decide) <| .sounding rfl high second (by decide) <|
    .sounding rfl low third (by decide) <| .sounding rfl high fourth (by decide) (.nil _ _)

theorem sinkingSlots : ofOptions sinking = .ok sunk :=
  laidOptions (by decide) (okOfSome (by decide +kernel)) sinkingLaid

theorem lastUnfounded : ¬ sunk[3].Founded := by
  rintro ⟨bass, sounds, below⟩
  cases sounds
  exact UInt8.lt_irrefl 6 (below 6 List.mem_cons_self)

theorem runSinks :
    2 ≤ sinking.baseOctave ∧ sinking.baseOctave ≤ 9 ∧ ofOptions sinking = .ok sunk ∧
      ∃ slot ∈ sunk, slot.isAudible ∧ slot.voicing = [6] ∧ slot.bass = some 6 ∧
        ¬ slot.Founded :=
  ⟨by decide, by decide, sinkingSlots, sunk[3], by simp, rfl, rfl, rfl, lastUnfounded⟩

theorem sinkingFounded :
    ofOptions sinking = .ok sunk ∧ 2 ≤ sinking.baseOctave ∧ sunk[2].Founded ∧
      ¬ sunk[3].HasRoom := by
  have register : 2 ≤ sinking.baseOctave := by decide
  obtain ⟨-, early, always⟩ := bassBelowChord sinkingSlots register
  have last := always sunk[3] (List.mem_filter.mpr ⟨by simp, rfl⟩)
  exact ⟨sinkingSlots, register, early 2 sunk[2] rfl (by decide),
    fun room => lastUnfounded (last.1.mpr room)⟩

inductive Led (options : Options) : List Key → List Slot → Prop where
  | nil (previous) : Led options previous []
  | cons {previous chord slot slots} (formed : chord.WellFormed) (tones : slot.toneSet = chord.toneSet)
      (strikes :
        slot.Strikes (Voicing.ofChord chord options.strategy options.baseOctave previous))
      (next : Led options slot.voicing slots) : Led options previous (slot :: slots)

theorem laidLed {options : Options} {tick : Nat} {previous : List Key} {entries : List Entry}
    {slots : List Slot} (laid : Laid options tick previous entries slots) :
    Led options previous (slots.filter isAudible) := by
  induction laid with
  | nil tick previous => exact .nil previous
  | rest kind room next ih | unknown kind refused room next ih => exact ih
  | sounding kind resolved voiced room next ih =>
    subst voiced
    exact .cons (Chord.resolvedFormed resolved) rfl ⟨rfl, rfl⟩ ih

theorem ledBehind {options : Options} {previous : List Key} {slots rest : List Slot}
    (led : Led options previous (slots ++ rest)) : ∃ before, Led options before rest := by
  induction slots generalizing previous with
  | nil => exact ⟨previous, led⟩
  | cons slot slots ih =>
    cases led with
    | cons formed tones strikes next => exact ih next

theorem ledStrikes {options : Options} {previous : List Key} {slots : List Slot}
    (led : Led options previous slots) :
    ∀ slot ∈ slots, ∃ chord : Chord, chord.WellFormed ∧ ∃ before,
      slot.Strikes (Voicing.ofChord chord options.strategy options.baseOctave before) := by
  induction led with
  | nil => simp
  | @cons previous chord slot slots formed tones strikes next ih =>
    exact List.forall_mem_cons.mpr ⟨⟨chord, formed, previous, strikes⟩, ih⟩

theorem strikesBass {options : Options} {previous : List Key} {chord : Chord} {slot : Slot}
    (formed : chord.WellFormed)
    (strikes : slot.Strikes (Voicing.ofChord chord options.strategy options.baseOctave previous)) :
    slot.bass.map (· % 12) = some chord.bass := by
  rw [strikes.2, Option.map_some]
  exact congrArg some
    (Voicing.bassFounded formed options.strategy options.baseOctave previous).1

end ChordChart.Slot
