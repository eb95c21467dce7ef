import ChordChart.Proofs.FileName
import ChordChart.Proofs.Midi.Silence
import ChordChart.Proofs.PianoRoll
import ChordChart.Proofs.Slot.Placed

/-! A song wherever there are slots and room for them in a file. The last tick is also the longest
time between two events of a file, so that the encoder takes every event of a song, after a silence
of any length; what it can refuse is the length of the track or of its name. -/
namespace ChordChart

namespace Midi

theorem deltasExist {now : Nat} {events : List NoteEvent}
    (inside : ∀ event ∈ events, event.tick ≤ maxTicks) :
    ∃ timed, withDeltas now events = .ok timed := by
  induction events generalizing now with
  | nil => exact ⟨[], rfl⟩
  | cons event events ih =>
    obtain ⟨here, there⟩ := List.forall_mem_cons.mp inside
    obtain ⟨timed, later⟩ := @ih event.tick there
    have short : ¬ maxTicks < event.tick - now := by omega
    refine ⟨(event.tick - now, event) :: timed, ?_⟩
    simp only [withDeltas, if_neg short, later]
    rfl

theorem eventsInside {notes : List Note}
    (inside : ∀ note ∈ notes, note.start.toNat + note.duration.toNat ≤ maxTicks) :
    ∀ event ∈ NoteEvent.ofNotes notes, event.tick ≤ maxTicks := by
  intro event member
  obtain ⟨note, among, made⟩ := NoteEvent.eventsOfNotes.mp member
  have ends := inside note (List.mem_of_mem_filter among)
  rcases made with rfl | rfl
  · exact Nat.le_trans (Nat.le_add_right _ _) ends
  · exact ends

end Midi

namespace Slot

theorem notesInside {options : Options} {slots : List Slot} (ok : ofOptions options = .ok slots)
    (output : Output) (velocity : UInt8) :
    ∀ note ∈ collectNotes output velocity slots,
      note.start.toNat + note.duration.toNat ≤ maxTicks := by
  obtain ⟨-, entries, -, laid⟩ := optionsLaid ok
  obtain ⟨stop, bound, span⟩ := laidSpan laid (Nat.zero_le _)
  intro note member
  obtain ⟨slot, among, start, duration, -⟩ := noteSource member
  rw [start, duration]
  exact Nat.le_trans (spanBounds span slot among).2 bound

end Slot

namespace Song

open Midi

def Fits (options : Options) (slots : List Slot) : Prop :=
  (settings options (FileName.final options slots)).Fits
    (Slot.collectNotes options.output options.velocity slots)

section

variable {options : Options} {slots : List Slot} (ok : Slot.ofOptions options = .ok slots)

include ok

theorem slotsTimed : ∃ timed, withDeltas 0
    (NoteEvent.ofNotes (Slot.collectNotes options.output options.velocity slots)) = .ok timed :=
  deltasExist (eventsInside (Slot.notesInside ok options.output options.velocity))

theorem slotsFit (named : (settings options (FileName.final options slots)).Nameable)
    (few : (Slot.collectNotes options.output options.velocity slots).length ≤ 0x10000000) :
    Fits options slots := by
  obtain ⟨timed, deltas⟩ := slotsTimed ok
  exact fitsFew deltas named few

theorem slotsGenerate (fits : Fits options slots) : ∃ song, generate options = .ok song := by
  obtain ⟨timed, deltas⟩ := slotsTimed ok
  simp only [generate, ok, Except.bind, ofSlots, Document.encodeTaken deltas fits]
  exact ⟨_, rfl⟩

theorem encoderRefuses {cause : EncodeError}
    (refused : encode (Slot.collectNotes options.output options.velocity slots)
      (settings options (FileName.final options slots)) = .error cause) :
    generate options = .error (.encode cause) := by
  simp only [generate, ok, Except.bind, ofSlots, refused]

theorem slotsRefused (unfit : ¬ Fits options slots) :
    ∃ cause, generate options = .error (.encode (.write cause)) := by
  obtain ⟨timed, deltas⟩ := slotsTimed ok
  by_cases named : (settings options (FileName.final options slots)).Nameable
  · exact ⟨.longTrack, encoderRefuses ok (Document.encodeTrackless deltas named unfit)⟩
  · exact ⟨.longText, encoderRefuses ok (Document.encodeNameless deltas named)⟩

end

section

variable {options : Options}

theorem unresolved {cause : GenerateError} (refused : Slot.ofOptions options = .error cause) :
    generate options = .error cause := by
  rw [generate, refused]
  rfl

theorem refusedWhy {cause : GenerateError} (refused : generate options = .error cause) :
    Slot.ofOptions options = .error cause ∨
      ∃ slots, Slot.ofOptions options = .ok slots ∧ ¬ Fits options slots ∧
        ∃ length, cause = .encode (.write length) := by
  rcases bindRefused refused with early | ⟨slots, ok, -⟩
  · exact .inl early
  · by_cases fits : Fits options slots
    · obtain ⟨song, made⟩ := slotsGenerate ok fits
      cases refused.symm.trans made
    · obtain ⟨length, unwritten⟩ := slotsRefused ok fits
      cases refused.symm.trans unwritten
      exact .inr ⟨slots, ok, fits, length, rfl⟩

theorem refusedIff (cause : GenerateError) (read : ∀ length, cause ≠ .encode (.write length)) :
    generate options = .error cause ↔ Slot.ofOptions options = .error cause := by
  refine ⟨fun refused => ?_, unresolved⟩
  rcases refusedWhy refused with early | ⟨-, -, -, length, late⟩
  · exact early
  · exact absurd late (read length)

theorem generateIff :
    (∃ song, generate options = .ok song) ↔
      ∃ slots, Slot.ofOptions options = .ok slots ∧ Fits options slots := by
  constructor
  · rintro ⟨song, ok⟩
    obtain ⟨slots, laid, -⟩ := bindOk ok
    by_cases fits : Fits options slots
    · exact ⟨slots, laid, fits⟩
    · obtain ⟨length, unwritten⟩ := slotsRefused laid fits
      cases ok.symm.trans unwritten
  · rintro ⟨slots, laid, fits⟩
    exact slotsGenerate laid fits

end

theorem tempoWhole {options : Options} (usable : options.Usable) (fileName : String) :
    (settings options fileName).quarterMicros = 60000000 / options.tempo.toNat ∧
      60000000 / options.tempo.toNat < 0x1000000 := by
  have slowest : 4 ≤ options.tempo.toNat := usable.slowest
  have fits : 60000000 / options.tempo.toNat ≤ 60000000 / 4 :=
    Nat.div_le_div_left slowest (by decide)
  have tempo : max options.tempo.toNat 1 = options.tempo.toNat := by omega
  refine ⟨?_, by omega⟩
  rw [Settings.quarterMicros, settings, tempo]
  omega

/-- What refuses the slots of options refuses their song. Where there are slots there is a song if
its name and its track have room in a file, as they have where the name does and there are up to
2^28 notes, and else the writer refuses it. A file holds the tempo as it is, and no event is earlier
than the one before it or too long after it. -/
theorem generateWhereSlots (options : Options) :
    (∀ cause, Slot.ofOptions options = .error cause → generate options = .error cause) ∧
      (∀ cause, generate options = .error cause → Slot.ofOptions options = .error cause ∨
        ∃ slots, Slot.ofOptions options = .ok slots ∧ ¬ Fits options slots ∧
          ∃ length, cause = .encode (.write length)) ∧
      ((∃ song, generate options = .ok song) ↔
        ∃ slots, Slot.ofOptions options = .ok slots ∧ Fits options slots) ∧
      (∀ tick, generate options ≠ .error (.encode (.tickOutOfRange tick))) ∧
      ∀ slots, Slot.ofOptions options = .ok slots →
        let written := settings options (FileName.final options slots)
        let notes := Slot.collectNotes options.output options.velocity slots
        written.quarterMicros = 60000000 / options.tempo.toNat ∧
          60000000 / options.tempo.toNat < 0x1000000 ∧
          ((0 :: (NoteEvent.ofNotes notes).map NoteEvent.tick).IsChain fun before tick =>
            before ≤ tick ∧ tick - before ≤ maxTicks) ∧
          (written.Nameable → notes.length ≤ 0x10000000 → Fits options slots) := by
  refine ⟨fun cause => unresolved, fun cause => refusedWhy, generateIff, fun tick refused => ?_,
    fun slots ok => ?_⟩
  · have answer := Slot.optionsAnswer options
    rw [(refusedIff (.encode (.tickOutOfRange tick)) nofun).mp refused] at answer
    cases answer
  · intro written notes
    have tempo := tempoWhole (Options.usableIff.mp (Slot.optionsLaid ok).1)
      (FileName.final options slots)
    obtain ⟨timed, deltas⟩ := slotsTimed ok
    have times := deltasTimed deltas (NoteEvent.eventsAscending notes)
    exact ⟨tempo.1, tempo.2, times.imp fun before tick step => ⟨step.1, Nat.le_of_lt_succ step.2⟩,
      slotsFit ok⟩

def distant : Options := { progression := "R:T268434943 C" }

theorem distantSlots : Slot.ofOptions distant = .ok
    [Slot.rest ⟨"R", .rest, 268434943⟩ 0, Slot.sounding ⟨"C", .chord ⟨some 0, "", none⟩, 512⟩
      268434943 ⟨0, [0, 4, 7], 0⟩ ⟨[48, 52, 55], 36⟩] := by
  have chord : Chord.resolve ⟨some 0, "", none⟩ 0 = .ok ⟨0, [0, 4, 7], 0⟩ := by cbv
  have voiced : Voicing.ofChord ⟨0, [0, 4, 7], 0⟩ .rootPosition 4 [] = ⟨[48, 52, 55], 36⟩ := by cbv
  exact Slot.laidOptions (by decide) (okOfSome (by decide +kernel)) <|
    .rest rfl (by decide) (.sounding rfl chord voiced (by decide) (.nil _ _))

theorem distantGenerated :
    ∃ slots, Slot.ofOptions distant = .ok slots ∧ (∃ song, generate distant = .ok song) := by
  obtain ⟨-, -, made, -, whole⟩ := generateWhereSlots distant
  obtain ⟨-, -, -, fits⟩ := whole _ distantSlots
  have room := fits (nameableIff.mpr (by decide +kernel)) (by decide +kernel)
  exact ⟨_, distantSlots, made.mpr ⟨_, distantSlots, room⟩⟩

def longNamed : Options := { progression := "C", fileName := some (longName ++ ".mid") }

theorem sizedWhole (size : Nat) : FileName.Whole (nameOfSize size ++ ".mid") := by
  refine ⟨FileName.endingAdded _, Text.bareClean ?_⟩
  rw [String.toList_append, List.forall_mem_append, nameOfSize, String.toList_ofList]
  refine ⟨fun c member => ?_, FileName.endingFilled⟩
  rw [List.eq_of_mem_replicate member]
  exact FileName.plainFilled (.inl (by decide))

theorem sizedTrack (size : Nat) : FileName.track (nameOfSize size ++ ".mid") = nameOfSize size := by
  have kept : FileName.dropEndings (List.replicate size 'a') = List.replicate size 'a' := by
    cases size <;> rfl
  have ending : ".mid".toList.reverse = ['d', 'i', 'm', '.'] := by decide
  rw [FileName.track, String.toList_append, List.reverse_append, ending, nameOfSize,
    String.toList_ofList, List.reverse_replicate]
  simp only [List.cons_append, List.nil_append, FileName.dropEndings, kept, List.reverse_replicate]

theorem longNameUnwritten :
    (∃ slots, Slot.ofOptions longNamed = .ok slots) ∧
      generate longNamed = .error (.encode (.write .longText)) := by
  have reads : longNamed.Reads [⟨"C", .chord ⟨some 0, "", none⟩, 512⟩] :=
    ⟨by decide, okOfSome (by decide +kernel)⟩
  obtain ⟨slots, ok⟩ := Slot.placedIff.mpr ⟨_, reads, by decide⟩
  have titled : (settings longNamed (FileName.final longNamed slots)).trackName = some longName := by
    rw [FileName.wholeFinal (sizedWhole _) rfl]
    exact congrArg some (sizedTrack _)
  obtain ⟨timed, deltas⟩ := slotsTimed ok
  have refused := Document.encodeNameless deltas (longNameless titled)
  exact ⟨⟨slots, ok⟩, encoderRefuses ok refused⟩

end Song

end ChordChart
