import ChordChart.Check
import ChordChart.Proofs.Slot.Voices
import ChordChart.Proofs.Song.Encoded

/-! The check of a progression beside its generation. Both read the text; the check never adds the
lengths up, so that a progression beyond the last tick is refused and was not announced. The one
resolves each chord as it is written and the other transposed, and whether a chord is known does not
hang on that. -/
namespace ChordChart.Check

open Progression (length)

def Stops (check : Check) : Prop := ∃ issue ∈ check.issues, issue.isFatal

def ofOptions (options : Options) : Check :=
  ofText options.progression options.chordDuration options.meter

theorem issueMild {entry : Entry} {issue : Issue} (found : issue? entry = some issue) :
    ¬ issue.isFatal := by
  unfold issue? at found
  split at found
  · cases found
    exact Bool.false_ne_true
  · contradiction

theorem entriesPass (entries : List Entry) : ¬ (ofEntries entries).Stops := by
  rintro ⟨issue, listed, fatal⟩
  obtain ⟨entry, -, found⟩ := List.mem_filterMap.mp listed
  exact issueMild found fatal

theorem stopsIff {text default : String} {meter : Meter} :
    (ofText text default meter).Stops ↔
      ∃ cause, Progression.parse text default meter = .error cause := by
  unfold ofText
  cases Progression.parse text default meter with
  | error cause => simp [Stops]
  | ok entries => simpa using entriesPass entries

theorem refusedIff {options : Options} (valid : options.problem? = none) :
    (∃ cause, Slot.ofOptions options = .error cause) ↔
      (ofOptions options).Stops ∨
        ∃ entries, options.Reads entries ∧ maxTicks < length entries := by
  unfold ofOptions
  rw [stopsIff]
  constructor
  · rintro ⟨cause, failed⟩
    have answer := Slot.optionsAnswer options
    rw [failed] at answer
    cases answer with
    | unusable problem => simp [valid] at problem
    | unread valid refused => exact .inl ⟨_, refused⟩
    | long reads beyond => exact .inr ⟨_, reads, beyond⟩
  · rintro (⟨cause, refused⟩ | long)
    · exact ⟨_, Slot.unreadIff.mpr ⟨valid, refused⟩⟩
    · exact ⟨_, Slot.longIff.mpr long⟩

theorem longPasses {options : Options} {entries : List Entry} (reads : options.Reads entries) :
    ¬ (ofOptions options).Stops := by
  unfold ofOptions
  rw [stopsIff, reads.parsed]
  simp

theorem generateRefused {options : Options} :
    (∃ cause, Song.generate options = .error cause) ↔
      (∃ cause, Slot.ofOptions options = .error cause) ∨
        ∃ slots, Slot.ofOptions options = .ok slots ∧ ¬ Song.Fits options slots := by
  constructor
  · rintro ⟨cause, refused⟩
    rcases Song.refusedWhy refused with early | ⟨slots, ok, unfit, -⟩
    · exact .inl ⟨cause, early⟩
    · exact .inr ⟨slots, ok, unfit⟩
  · rintro (⟨cause, refused⟩ | ⟨slots, ok, unfit⟩)
    · exact ⟨cause, Song.unresolved refused⟩
    · obtain ⟨length, unwritten⟩ := Song.slotsRefused ok unfit
      exact ⟨_, unwritten⟩

/-- Options that can be used give slots unless the check of their text stops or the text is longer
than the last tick, and a song unless there are no slots or no room for them in a file. The two
never meet, so the check foretells that there are no slots for every text but those beyond the last
tick, and for these it foretells nothing. -/
theorem stopsForetell {options : Options} (valid : options.problem? = none) :
    ((∃ cause, Slot.ofOptions options = .error cause) ↔
        (ofOptions options).Stops ∨
          ∃ entries, options.Reads entries ∧ maxTicks < length entries) ∧
      ((∃ cause, Song.generate options = .error cause) ↔
        (∃ cause, Slot.ofOptions options = .error cause) ∨
          ∃ slots, Slot.ofOptions options = .ok slots ∧ ¬ Song.Fits options slots) ∧
      (((ofOptions options).Stops ↔ ∃ cause, Slot.ofOptions options = .error cause) ↔
        ¬ ∃ entries, options.Reads entries ∧ maxTicks < length entries) ∧
      ∀ entries, options.Reads entries → maxTicks < length entries →
        ¬ (ofOptions options).Stops ∧ Song.generate options = .error .tooLong := by
  refine ⟨refusedIff valid, generateRefused, ?_,
    fun entries reads beyond => ⟨longPasses reads, ?_⟩⟩
  · rw [refusedIff valid]
    constructor
    · rintro foretold ⟨entries, reads, beyond⟩
      exact longPasses reads (foretold.mpr (.inr ⟨entries, reads, beyond⟩))
    · intro short
      simp [short]
  · exact Song.unresolved (Slot.longIff.mpr ⟨entries, reads, beyond⟩)

def overlong : Options := { progression := "C:T268435455 C:T268435455" }

def overlongEntries : List Entry :=
  [⟨"C", .chord ⟨some 0, "", none⟩, 268435455⟩, ⟨"C", .chord ⟨some 0, "", none⟩, 268435455⟩]

theorem overlongReads : overlong.Reads overlongEntries :=
  ⟨by decide, okOfSome (by decide +kernel)⟩

theorem overlongForetold :
    ¬ (ofOptions overlong).Stops ∧ Song.generate overlong = .error .tooLong := by
  obtain ⟨-, -, -, long⟩ := stopsForetell overlongReads.valid
  exact long overlongEntries overlongReads (by decide)

theorem overlongUnnoticed :
    overlong.problem? = none ∧
      ¬ ((ofText overlong.progression overlong.chordDuration overlong.meter).Stops ↔
        ∃ cause, Slot.ofOptions overlong = .error cause) := by
  have long := Slot.longIff.mpr ⟨overlongEntries, overlongReads, by decide⟩
  refine ⟨overlongReads.valid, fun foretold => ?_⟩
  exact longPasses overlongReads (foretold.mpr ⟨.tooLong, long⟩)

structure Reports (slot : Slot) (issue : Issue) : Prop where
  token : issue.token = some slot.symbol
  message : slot.error = some issue.message
  mild : ¬ issue.isFatal

theorem restPasses {entry : Entry} (kind : entry.kind = .rest) : issue? entry = none := by
  simp only [issue?, Entry.chord?, kind, Option.map_none]

theorem knownPasses {entry : Entry} {symbol : ChordSymbol} (kind : entry.kind = .chord symbol)
    {semitones : Int} {chord : Chord} (resolved : Chord.resolve symbol semitones = .ok chord) :
    issue? entry = none := by
  obtain ⟨moved, known⟩ := Chord.resolvedAnywhere resolved 0
  simp only [issue?, Entry.chord?, kind, Option.map_some, known]

theorem unknownReported {entry : Entry} {symbol : ChordSymbol} (kind : entry.kind = .chord symbol)
    {semitones : Int} {cause : ResolveError}
    (refused : Chord.resolve symbol semitones = .error cause) :
    issue? entry = some ⟨cause.message, some entry.symbol, false⟩ := by
  have same := Chord.refusedMoved refused 0
  simp only [issue?, Entry.chord?, kind, Option.map_some, same]

theorem laidReported {options : Options} {tick : Nat} {previous : List Key} {entries : List Entry}
    {slots : List Slot} (laid : Slot.Laid options tick previous entries slots) :
    List.Forall₂ Reports (Slot.invalid slots) (entries.filterMap issue?) := by
  induction laid with
  | nil => exact .nil
  | rest kind room next ih =>
    rw [List.filterMap_cons_none (restPasses kind)]
    exact ih
  | unknown kind refused room next ih =>
    rw [List.filterMap_cons_some (unknownReported kind refused)]
    exact .cons ⟨rfl, rfl, Bool.false_ne_true⟩ ih
  | sounding kind resolved voiced room next ih =>
    rw [List.filterMap_cons_none (knownPasses kind resolved)]
    exact ih

theorem laidCounted {options : Options} {tick : Nat} {previous : List Key} {entries : List Entry}
    {slots : List Slot} (laid : Slot.Laid options tick previous entries slots) :
    (entries.filter fun entry => !entry.isRest).length =
      (slots.filter fun slot => !slot.isRest).length := by
  induction laid with
  | nil => rfl
  | rest kind room next ih =>
    rw [List.filter_cons_of_neg (by simp [Entry.isRest, Entry.chord?, kind]), ih]
    rfl
  | unknown kind refused room next ih | sounding kind resolved voiced room next ih =>
    rw [List.filter_cons_of_pos (by simp [Entry.isRest, Entry.chord?, kind]), List.length_cons, ih]
    rfl

theorem reportedNone {slots : List Slot} {issues : List Issue}
    (reported : List.Forall₂ Reports (Slot.invalid slots) issues) :
    issues.isEmpty ↔ ∀ slot ∈ slots, slot.isValid := by
  have same := reported.length_eq
  rw [List.isEmpty_iff, ← List.length_eq_zero_iff, ← same, List.length_eq_zero_iff, Slot.invalid,
    List.filter_eq_nil_iff]
  simp

theorem issuesSilenced {options : Options} {slots : List Slot}
    (ok : Slot.ofOptions options = .ok slots) :
    let check := ofOptions options
    List.Forall₂ Reports (Slot.invalid slots) check.issues ∧
      (check.success ↔ ∀ slot ∈ slots, slot.isValid) ∧
      check.chordCount = (slots.filter fun slot => !slot.isRest).length := by
  obtain ⟨-, entries, parsed, laid⟩ := Slot.optionsLaid ok
  simp only [ofOptions, ofText, parsed]
  exact ⟨laidReported laid, reportedNone (laidReported laid), laidCounted laid⟩

def astray : Options := { progression := "Hm R:1 Cxyz C", transpose := 5 }

def astrayEntries : List Entry :=
  [⟨"Hm", .chord ⟨none, "Hm", none⟩, 512⟩, ⟨"R", .rest, 512⟩,
    ⟨"Cxyz", .chord ⟨some 0, "xyz", none⟩, 512⟩, ⟨"C", .chord ⟨some 0, "", none⟩, 512⟩]

def astraySlots : List Slot :=
  [Slot.unknown ⟨"Hm", .chord ⟨none, "Hm", none⟩, 512⟩ 0 (.missingRoot "Hm"),
    Slot.rest ⟨"R", .rest, 512⟩ 512,
    Slot.unknown ⟨"Cxyz", .chord ⟨some 0, "xyz", none⟩, 512⟩ 1024 (.unknownQuality "xyz"),
    Slot.sounding ⟨"C", .chord ⟨some 0, "", none⟩, 512⟩ 1536 ⟨5, [5, 9, 0], 5⟩ ⟨[53, 57, 60], 41⟩]

theorem astraySlotted : Slot.ofOptions astray = .ok astraySlots := by
  have parsed : Progression.parse astray.progression astray.chordDuration astray.meter =
      .ok astrayEntries := okOfSome (by decide +kernel)
  have moved : Chord.resolve ⟨some 0, "", none⟩ 5 = .ok ⟨5, [5, 9, 0], 5⟩ := by cbv
  have voiced : Voicing.ofChord ⟨5, [5, 9, 0], 5⟩ .rootPosition 4 [] = ⟨[53, 57, 60], 41⟩ := by cbv
  exact Slot.laidOptions (by decide) parsed <|
    .unknown rfl rfl (by decide) <| .rest rfl (by decide) <| .unknown rfl (by cbv) (by decide) <|
      .sounding rfl moved voiced (by decide) (.nil _ _)

theorem astrayReported :
    Slot.ofOptions astray = .ok astraySlots ∧
      List.Forall₂ Reports [astraySlots[0], astraySlots[2]] (ofOptions astray).issues ∧
      ¬ (ofOptions astray).success ∧ (ofOptions astray).chordCount = 3 := by
  obtain ⟨reported, success, counted⟩ := issuesSilenced astraySlotted
  refine ⟨astraySlotted, reported, fun passed => ?_, counted⟩
  exact absurd (success.mp passed astraySlots[0] List.mem_cons_self) (by decide)

end ChordChart.Check
