import ChordChart.Proofs.Midi.RoundTrip
import Mathlib

/-! What the encoder answers. It walks over the sorted events with the tick of the last one in hand;
here its answer is said of the notes as they come, which overlap and have no order. An event takes
seven bytes at most and a note two events, so that a track fits its field unless the notes are
hundreds of millions. -/
namespace ChordChart.Midi

theorem leadingLength (digits : Nat) {n : Nat} (bound : n < Nat.pow 128 digits) :
    (leading n).length ≤ digits := by
  induction digits generalizing n with
  | zero =>
    have zero : n = 0 := Nat.lt_one_iff.mp bound
    simp [zero, leading]
  | succ digits ih =>
    rw [leading]
    split
    · exact Nat.zero_le _
    · have step : Nat.pow 128 (digits + 1) = Nat.pow 128 digits * 128 := rfl
      have high := @ih (n / 128) (Nat.div_lt_of_lt_mul (by omega))
      rw [List.length_append, List.length_singleton]
      omega

theorem quantityLength {n : Nat} (bound : n < 0x10000000) : (quantity n).length ≤ 4 := by
  have high := @leadingLength 3 (n / 128) (by simp only [Nat.pow_eq]; omega)
  rw [quantity, List.length_append, List.length_singleton]
  omega

theorem noticeLength (type : UInt8) {content : Bytes} (bound : content.length < 0x10000000) :
    (metaEvent type content).length ≤ 7 + content.length := by
  have length := quantityLength bound
  simp only [metaEvent, List.length_append, List.length_cons, List.length_nil]
  omega

theorem headShort {settings : Settings} (named : settings.Nameable) :
    (headEvents settings).length < 28 + 0x10000000 := by
  have tempo := @noticeLength 0x51 (bigEndian 3 settings.quarterMicros) (by
    simp [bigEndianLength])
  have meter := @noticeLength 0x58
    [settings.meter.numerator, settings.meter.denominatorPower, 24, 8] (by simp)
  rw [bigEndianLength] at tempo
  simp only [List.length_cons, List.length_nil] at meter
  cases given : settings.trackName with
  | none =>
    simp only [headEvents, given, tempoEvent, meterEvent, Option.map_none, Option.getD_none,
      List.length_append, List.length_nil]
    omega
  | some name =>
    have bound := named name given
    have title := noticeLength 0x03 bound
    simp only [headEvents, given, trackNameEvent, tempoEvent, meterEvent, Option.map_some,
      Option.getD_some, List.length_append]
    omega

theorem notesShort {now : Nat} {events : List NoteEvent} {timed : List (Nat × NoteEvent)}
    (ok : withDeltas now events = .ok timed) (channel : UInt8) (running : Option UInt8) :
    (noteBytes channel running timed).length ≤ 7 * events.length := by
  induction events generalizing now running timed with
  | nil =>
    cases ok
    exact Nat.le_refl 0
  | cons event events ih =>
    obtain ⟨short, others, later, rfl⟩ := Document.deltasCons ok
    have time := quantityLength (Nat.lt_succ_of_le short)
    have rest := ih later (some (statusByte channel event.kind))
    simp only [noteBytes, List.length_append, List.length_cons, List.length_nil]
    split <;> simp only [List.length_cons, List.length_nil] <;> omega

theorem eventsShort (notes : List Note) :
    (NoteEvent.ofNotes notes).length ≤ 2 * notes.length := by
  have kept := List.length_filter_le (fun note : Note => decide (0 < note.duration)) notes
  simp only [NoteEvent.ofNotes, List.length_mergeSort, List.length_flatMap, List.length_cons,
    List.length_nil, List.map_const', List.sum_replicate, smul_eq_mul]
  omega

theorem fitsFew {notes : List Note} {settings : Settings} {timed : List (Nat × NoteEvent)}
    (deltas : withDeltas 0 (NoteEvent.ofNotes notes) = .ok timed) (named : settings.Nameable)
    (few : notes.length ≤ 0x10000000) : settings.Fits notes := by
  refine ⟨named, ?_⟩
  have head := headShort named
  have body := notesShort deltas settings.channelNibble none
  have events := eventsShort notes
  have stop : endOfTrack.length ≤ 7 := noticeLength 0x2F (by simp)
  rw [← Document.deltasElapsed deltas, trackContent, List.length_append, List.length_append]
  omega

structure Gap (ticks : Set Nat) (before after : Nat) : Prop where
  first : before ∈ ticks
  last : after ∈ ticks
  between : ∀ tick ∈ ticks, tick ≤ before ∨ after ≤ tick
  long : before + maxTicks < after

def Gapless (ticks : Set Nat) : Prop := ∀ before after, ¬ Gap ticks before after

def gapEnds (ticks : Set Nat) : Set Nat := {after | ∃ before, Gap ticks before after}

/-- The start of a file, and where the notes that have a length begin and end. Ends are not kept in
words here. -/
def moments (notes : List Note) : Set Nat :=
  {tick | tick = 0 ∨ ∃ note ∈ notes, 0 < note.duration ∧
    (tick = note.start.toNat ∨ tick = note.start.toNat + note.duration.toNat)}

section

variable {ticks : Set Nat} {before after now next : Nat} (least : IsLeast ticks next)

include least

theorem gapNow (far : now + maxTicks < next) : IsLeast (gapEnds (insert now ticks)) next := by
  have known : ∀ tick ∈ insert now ticks, tick = now ∨ next ≤ tick := by
    intro tick member
    exact member.imp_right fun behind => least.2 behind
  constructor
  · refine ⟨now, .inl rfl, .inr least.1, fun tick member => ?_, far⟩
    have := known tick member
    omega
  · intro after reached
    obtain ⟨before, gap⟩ := reached
    have starts := known before gap.first
    have ends := known after gap.last
    have long := gap.long
    omega

theorem gapLater (order : now ≤ next) (near : next ≤ now + maxTicks) :
    Gap (insert now ticks) before after ↔ Gap ticks before after := by
  constructor
  · intro gap
    have long := gap.long
    have step := gap.between next (.inr least.1)
    -- a gap from the tick in hand would end behind the next one, unless they are the same
    have starts : before ∈ ticks := by
      rcases gap.first with rfl | behind
      · have same : before = next := by omega
        exact same ▸ least.1
      · exact behind
    have early := least.2 starts
    have ends : after ∈ ticks := by
      rcases gap.last with rfl | behind
      · omega
      · exact behind
    exact ⟨starts, ends, fun tick member => gap.between tick (.inr member), long⟩
  · intro gap
    have early := least.2 gap.first
    refine ⟨.inr gap.first, .inr gap.last, fun tick member => ?_, gap.long⟩
    rcases member with rfl | behind
    · exact .inl (order.trans early)
    · exact gap.between tick behind

end

def Walked {α : Type} (ticks : Set Nat) : Except EncodeError α → Prop
  | .ok _ => Gapless ticks
  | .error (.tickOutOfRange tick) => IsLeast (gapEnds ticks) tick
  | .error (.write _) => False

section

variable {α β : Type} {ticks others : Set Nat} {result : Except EncodeError α}

theorem walkedMap (f : α → β) (walked : Walked ticks result) : Walked ticks (result.map f) := by
  cases result with
  | error cause => cases cause <;> exact walked
  | ok value => exact walked

theorem walkedSame (same : ∀ before after, Gap ticks before after ↔ Gap others before after)
    (walked : Walked others result) : Walked ticks result := by
  cases result with
  | error cause =>
    cases cause with
    | tickOutOfRange tick => simpa only [Walked, gapEnds, same] using walked
    | write cause => exact walked
  | ok value => simpa only [Walked, Gapless, same] using walked

end

theorem headLeast {head : Nat} {tail : List Nat} (ascending : (head :: tail).Pairwise (· ≤ ·)) :
    IsLeast {tick | tick ∈ head :: tail} head := by
  constructor
  · simp
  · intro tick member
    rcases List.mem_cons.mp member with rfl | behind
    · exact Nat.le_refl _
    · exact (List.pairwise_cons.mp ascending).1 tick behind

theorem aloneGapless (now : Nat) : Gapless {tick | tick ∈ [now]} := by
  intro before after gap
  have first := gap.first
  have last := gap.last
  have long := gap.long
  simp at first last
  omega

theorem deltasWalked (now : Nat) (events : List NoteEvent)
    (ascending : (now :: events.map NoteEvent.tick).Pairwise (· ≤ ·)) :
    Walked {tick | tick ∈ now :: events.map NoteEvent.tick} (withDeltas now events) := by
  -- the ticks behind the one in hand are those of a walk that starts from the next event
  induction events generalizing now with
  | nil => exact aloneGapless now
  | cons event events ih =>
    obtain ⟨order, rest⟩ := List.pairwise_cons.mp ascending
    have forward := order event.tick (by simp)
    have least := headLeast rest
    have parted : {tick | tick ∈ now :: (event :: events).map NoteEvent.tick} =
        insert now {tick | tick ∈ (event :: events).map NoteEvent.tick} := by
      ext tick
      simp
    rw [parted, withDeltas]
    split
    · exact gapNow least (by omega)
    · exact walkedSame (fun before after => gapLater least forward (by omega))
        (walkedMap _ (ih event.tick rest))

theorem momentsOfEvents (notes : List Note) :
    {tick | tick ∈ 0 :: (NoteEvent.ofNotes notes).map NoteEvent.tick} = moments notes := by
  ext tick
  simp only [Set.mem_ofPred_eq, List.mem_cons, List.mem_map, NoteEvent.eventsOfNotes,
    NoteEvent.lasting, List.mem_filter, decide_eq_true_eq, and_assoc, moments]
  apply or_congr_right
  constructor
  · intro there
    obtain ⟨event, ⟨note, among, long, made⟩, same⟩ := there
    refine ⟨note, among, long, ?_⟩
    rcases made with rfl | rfl
    · exact .inl same.symm
    · exact .inr same.symm
  · intro there
    obtain ⟨note, among, long, same⟩ := there
    rcases same with rfl | rfl
    · exact ⟨NoteEvent.strike note, ⟨note, among, long, .inl rfl⟩, rfl⟩
    · exact ⟨NoteEvent.release note, ⟨note, among, long, .inr rfl⟩, rfl⟩

theorem notesTimed (notes : List Note) :
    (∃ tick, IsLeast (gapEnds (moments notes)) tick ∧
        withDeltas 0 (NoteEvent.ofNotes notes) = .error (.tickOutOfRange tick)) ∨
      Gapless (moments notes) ∧ ∃ timed, withDeltas 0 (NoteEvent.ofNotes notes) = .ok timed := by
  have ascending := List.isChain_iff_pairwise.mp (NoteEvent.eventsAscending notes)
  have walked := deltasWalked 0 _ ascending
  rw [momentsOfEvents] at walked
  cases deltas : withDeltas 0 (NoteEvent.ofNotes notes) with
  | error cause =>
    rw [deltas] at walked
    cases cause with
    | tickOutOfRange tick => exact .inl ⟨tick, walked, rfl⟩
    | write cause => exact walked.elim
  | ok timed =>
    rw [deltas] at walked
    exact .inr ⟨walked, timed, rfl⟩

inductive Answer (notes : List Note) (settings : Settings) : Except EncodeError Bytes → Prop where
  | silent {tick : Nat} (first : IsLeast (gapEnds (moments notes)) tick) :
      Answer notes settings (.error (.tickOutOfRange tick))
  | nameless (gapless : Gapless (moments notes)) (long : ¬ settings.Nameable) :
      Answer notes settings (.error (.write .longText))
  | trackless (gapless : Gapless (moments notes)) (named : settings.Nameable)
      (long : ¬ settings.Fits notes) : Answer notes settings (.error (.write .longTrack))
  | whole {bytes : Bytes} (gapless : Gapless (moments notes)) (fits : settings.Fits notes) :
      Answer notes settings (.ok bytes)

theorem encodeAnswer (notes : List Note) (settings : Settings) :
    Answer notes settings (encode notes settings) := by
  rcases notesTimed notes with ⟨tick, first, refused⟩ | ⟨gapless, timed, deltas⟩
  · rw [encode, refused]
    exact .silent first
  · by_cases named : settings.Nameable
    · by_cases fits : settings.Fits notes
      · rw [Document.encodeTaken deltas fits]
        exact .whole gapless fits
      · rw [Document.encodeTrackless deltas named fits]
        exact .trackless gapless named fits
    · rw [Document.encodeNameless deltas named]
      exact .nameless gapless named

theorem gaplessTimed {notes : List Note} (gapless : Gapless (moments notes)) :
    ∃ timed, withDeltas 0 (NoteEvent.ofNotes notes) = .ok timed := by
  rcases notesTimed notes with ⟨tick, ⟨⟨before, gap⟩, -⟩, -⟩ | ⟨-, timed⟩
  · exact absurd gap (gapless before tick)
  · exact timed

section

variable {notes : List Note} {settings : Settings}

theorem silentIff {tick : Nat} :
    encode notes settings = .error (.tickOutOfRange tick) ↔
      IsLeast (gapEnds (moments notes)) tick := by
  constructor
  · intro refused
    have answer := encodeAnswer notes settings
    rw [refused] at answer
    cases answer with
    | silent first => exact first
  · intro least
    rcases notesTimed notes with ⟨first, leads, refused⟩ | ⟨gapless, -⟩
    · rw [encode, refused, leads.unique least]
      rfl
    · obtain ⟨before, gap⟩ := least.1
      exact absurd gap (gapless before tick)

theorem wholeIff :
    (∃ bytes, encode notes settings = .ok bytes) ↔
      Gapless (moments notes) ∧ settings.Fits notes := by
  constructor
  · rintro ⟨bytes, ok⟩
    have answer := encodeAnswer notes settings
    rw [ok] at answer
    cases answer with
    | whole gapless fits => exact ⟨gapless, fits⟩
  · rintro ⟨gapless, fits⟩
    obtain ⟨timed, deltas⟩ := gaplessTimed gapless
    exact ⟨_, Document.encodeTaken deltas fits⟩

theorem namelessIff :
    encode notes settings = .error (.write .longText) ↔
      Gapless (moments notes) ∧ ¬ settings.Nameable := by
  constructor
  · intro refused
    have answer := encodeAnswer notes settings
    rw [refused] at answer
    cases answer with
    | nameless gapless long => exact ⟨gapless, long⟩
  · rintro ⟨gapless, long⟩
    obtain ⟨timed, deltas⟩ := gaplessTimed gapless
    exact Document.encodeNameless deltas long

theorem tracklessIff :
    encode notes settings = .error (.write .longTrack) ↔
      Gapless (moments notes) ∧ settings.Nameable ∧ ¬ settings.Fits notes := by
  constructor
  · intro refused
    have answer := encodeAnswer notes settings
    rw [refused] at answer
    cases answer with
    | trackless gapless named long => exact ⟨gapless, named, long⟩
  · rintro ⟨gapless, named, long⟩
    obtain ⟨timed, deltas⟩ := gaplessTimed gapless
    exact Document.encodeTrackless deltas named long

end

/-- A file is refused where two neighbouring moments of its notes lie too far apart, at the later
moment of the earliest such pair. Where there is none it is written if its name and its track have
room, and refused by the writer if not; the time since the last event is never negative. A track has
room if its name does and the notes are not too many. -/
theorem encodeUnlessSilent (notes : List Note) (settings : Settings) :
    (∀ tick, encode notes settings = .error (.tickOutOfRange tick) ↔
        IsLeast {after | ∃ before, Gap (moments notes) before after} tick) ∧
      ((∃ bytes, encode notes settings = .ok bytes) ↔
        Gapless (moments notes) ∧ settings.Fits notes) ∧
      (encode notes settings = .error (.write .longText) ↔
        Gapless (moments notes) ∧ ¬ settings.Nameable) ∧
      (encode notes settings = .error (.write .longTrack) ↔
        Gapless (moments notes) ∧ settings.Nameable ∧ ¬ settings.Fits notes) ∧
      (0 :: (NoteEvent.ofNotes notes).map NoteEvent.tick).IsChain (· ≤ ·) ∧
      (Gapless (moments notes) → settings.Nameable → notes.length ≤ 0x10000000 →
        settings.Fits notes) := by
  refine ⟨fun tick => silentIff, wholeIff, namelessIff, tracklessIff,
    NoteEvent.eventsAscending notes, fun gapless named few => ?_⟩
  obtain ⟨timed, deltas⟩ := gaplessTimed gapless
  exact fitsFew deltas named few

def nameOfSize (size : Nat) : String := String.ofList (List.replicate size 'a')

theorem nameOfSizeSize (size : Nat) : (nameOfSize size).utf8ByteSize = size := by
  rw [nameOfSize, String.utf8ByteSize_ofList]
  induction size with
  | zero => rfl
  | succ size ih =>
    rw [List.replicate_succ, String.utf8Len_cons, ih]
    rfl

def longName : String := nameOfSize 0x10000000

theorem longNameless {settings : Settings} (named : settings.trackName = some longName) :
    ¬ settings.Nameable := by
  rw [nameableIff, Settings.nameSize, named, Option.map_some, Option.getD_some, longName,
    nameOfSizeSize]
  exact Nat.lt_irrefl _

theorem longNameRefused :
    Gapless (moments []) ∧
      encode [] { trackName := some longName } = .error (.write .longText) := by
  have none : NoteEvent.ofNotes [] = [] := by
    simp [NoteEvent.ofNotes]
  have gapless : Gapless (moments []) := by
    rw [← momentsOfEvents, none]
    exact aloneGapless 0
  exact ⟨gapless, namelessIff.mpr ⟨gapless, longNameless rfl⟩⟩

end ChordChart.Midi
