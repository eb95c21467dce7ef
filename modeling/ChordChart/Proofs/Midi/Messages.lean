import ChordChart.Midi.Document
import ChordChart.Midi.File
import ChordChart.Proofs.Basic
import Mathlib.Data.List.Chain

/-! Numbers and messages read back from the bytes of a track. A reader stands at a tick, with or
without a status byte that runs on, in front of bytes of which only the first number or message is
known. -/
namespace ChordChart.Midi

theorem takeAppend {count : Nat} {bytes : Bytes} (length : bytes.length = count) (rest : Bytes) :
    take? count (bytes ++ rest) = some (bytes, rest) := by
  subst length
  simp [take?]

theorem bigEndianLength (count n : Nat) : (bigEndian count n).length = count := by
  induction count generalizing n with
  | zero => rfl
  | succ count ih => simp [bigEndian, ih]

theorem ofBigEndianAppend (bytes : Bytes) (byte : UInt8) :
    ofBigEndian (bytes ++ [byte]) = 256 * ofBigEndian bytes + byte.toNat := by
  simp [ofBigEndian, List.foldl_append]

theorem bigEndianRead (count n : Nat) :
    ofBigEndian (bigEndian count n) = n % Nat.pow 256 count := by
  induction count generalizing n with
  | zero => simp [bigEndian, ofBigEndian, Nat.mod_one]
  | succ count ih =>
    rw [bigEndian, ofBigEndianAppend, ih, UInt8.toNat_ofNat']
    have step : Nat.pow 256 (count + 1) = 256 * Nat.pow 256 count := Nat.mul_comm _ _
    rw [step, Nat.mod_mul]
    omega

theorem bigEndianBounded (count : Nat) {n : Nat} (bound : n < Nat.pow 256 count) :
    ofBigEndian (bigEndian count n) = n := by
  rw [bigEndianRead, Nat.mod_eq_of_lt bound]

theorem leadingRead (digits n room : Nat) (rest : Bytes) (bound : n < Nat.pow 128 digits) :
    ∃ spare, readQuantity? (room + digits) 0 (leading n ++ rest) =
      readQuantity? (room + spare) n rest := by
  induction digits generalizing n room rest with
  | zero =>
    have zero : n = 0 := Nat.lt_one_iff.mp bound
    exact ⟨0, by rw [zero, leading]; rfl⟩
  | succ digits ih =>
    rw [leading]
    split
    · rename_i zero
      exact ⟨digits + 1, by rw [zero]; rfl⟩
    · have step : Nat.pow 128 (digits + 1) = Nat.pow 128 digits * 128 := rfl
      have high : n / 128 < Nat.pow 128 digits := Nat.div_lt_of_lt_mul (by omega)
      obtain ⟨spare, same⟩ := ih (n / 128) (room + 1) (UInt8.ofNat (128 + n % 128) :: rest) high
      refine ⟨spare, ?_⟩
      have value : (UInt8.ofNat (128 + n % 128)).toNat = 128 + n % 128 := by
        rw [UInt8.toNat_ofNat']
        omega
      have follows : ¬ UInt8.ofNat (128 + n % 128) < 128 := by
        rw [UInt8.lt_iff_toNat_lt, value]
        simp
      rw [List.append_assoc, List.singleton_append, Nat.add_comm digits, ← Nat.add_assoc, same,
        Nat.add_right_comm, readQuantity?, if_neg follows, value]
      congr 1
      omega

theorem quantityRead (n : Nat) (rest : Bytes) (bound : n < 0x10000000) :
    readQuantity? 4 0 (quantity n ++ rest) = some (n, rest) := by
  obtain ⟨spare, same⟩ := leadingRead 3 (n / 128) 1 (UInt8.ofNat (n % 128) :: rest) (by
    simp only [Nat.pow_eq]
    omega)
  have value : (UInt8.ofNat (n % 128)).toNat = n % 128 := by
    rw [UInt8.toNat_ofNat']
    omega
  have last : UInt8.ofNat (n % 128) < 128 := by
    rw [UInt8.lt_iff_toNat_lt, value]
    exact Nat.mod_lt n (by decide)
  rw [quantity, List.append_assoc, List.singleton_append, same, Nat.add_comm, readQuantity?,
    if_pos last, value]
  simp only [Option.some.injEq, Prod.mk.injEq, and_true]
  omega

namespace Document

def noteMessage (channel : UInt8) (event : NoteEvent) : Message :=
  .voice (statusByte channel event.kind) [event.key, event.velocity]

theorem noticeRead (running : Option UInt8) (type : UInt8) (content rest : Bytes)
    (bound : content.length < 0x10000000) :
    readMessage? running (0xFF :: type :: (quantity content.length ++ content ++ rest)) =
      some (.notice type content, none, rest) := by
  have tail : readContent? (quantity content.length ++ (content ++ rest)) =
      some (content, rest) := by
    simp [readContent?, quantityRead content.length _ bound, takeAppend rfl]
  simp [readMessage?, take?, tail]

theorem statusRange (channel : UInt8) (kind : EventKind) (bound : channel < 16) :
    0x80 ≤ statusByte channel kind ∧ statusByte channel kind < 0xA0 := by
  have small : channel.toNat < 16 := by simpa [UInt8.lt_iff_toNat_lt] using bound
  cases kind <;>
    simp only [statusByte, UInt8.le_iff_toNat_le, UInt8.lt_iff_toNat_lt, UInt8.toNat_add,
      UInt8.reduceToNat] <;> omega

theorem voiceRead {status : UInt8} (range : 0x80 ≤ status ∧ status < 0xA0) {key velocity : UInt8}
    (keyBound : key < 0x80) (velocityBound : velocity < 0x80) (rest : Bytes) :
    readVoice? status (key :: velocity :: rest) = some (.voice status [key, velocity], rest) := by
  have count : dataCount status = 2 := by
    unfold dataCount
    split
    · rename_i narrow
      have low := UInt8.le_iff_toNat_le.mp narrow.1
      have high := UInt8.lt_iff_toNat_lt.mp range.2
      simp only [UInt8.reduceToNat] at low high
      omega
    · rfl
  simp [readVoice?, count, take?, keyBound, velocityBound]

theorem statusRead {status : UInt8} (range : 0x80 ≤ status ∧ status < 0xA0) {key velocity : UInt8}
    (keyBound : key < 0x80) (velocityBound : velocity < 0x80) (running : Option UInt8)
    (rest : Bytes) :
    readMessage? running (status :: key :: velocity :: rest) =
      some (.voice status [key, velocity], some status, rest) := by
  have high := UInt8.lt_iff_toNat_lt.mp range.2
  have named : status ≠ 0xFF ∧ ¬ (status = 0xF0 ∨ status = 0xF7) ∧ ¬ 0xF0 ≤ status := by
    simp only [ne_eq, UInt8.le_iff_toNat_le, ← UInt8.toNat_inj, UInt8.reduceToNat] at high ⊢
    omega
  rw [readMessage?.eq_3 _ _ _ named.1, if_neg named.2.1, if_neg named.2.2, if_pos range.1,
    voiceRead range keyBound velocityBound]
  rfl

theorem runningRead {status : UInt8} (range : 0x80 ≤ status ∧ status < 0xA0)
    {key velocity : UInt8} (keyBound : key < 0x80) (velocityBound : velocity < 0x80)
    (rest : Bytes) :
    readMessage? (some status) (key :: velocity :: rest) =
      some (.voice status [key, velocity], some status, rest) := by
  have low := UInt8.lt_iff_toNat_lt.mp keyBound
  have data : key ≠ 0xFF ∧ ¬ (key = 0xF0 ∨ key = 0xF7) ∧ ¬ 0xF0 ≤ key ∧ ¬ 0x80 ≤ key := by
    simp only [ne_eq, UInt8.le_iff_toNat_le, ← UInt8.toNat_inj, UInt8.reduceToNat] at low ⊢
    omega
  rw [readMessage?.eq_3 _ _ _ data.1, if_neg data.2.1, if_neg data.2.2.1, if_neg data.2.2.2]
  simp only [bind, Option.bind, voiceRead range keyBound velocityBound]

theorem eventRead {channel : UInt8} (bound : channel < 16) {event : NoteEvent}
    (keyBound : event.key < 0x80) (velocityBound : event.velocity < 0x80)
    (running : Option UInt8) (rest : Bytes) :
    readMessage? running
        ((if running = some (statusByte channel event.kind) then []
          else [statusByte channel event.kind]) ++ event.key :: event.velocity :: rest) =
      some (noteMessage channel event, some (statusByte channel event.kind), rest) := by
  have range := statusRange channel event.kind bound
  split
  · rename_i same
    rw [same]
    exact runningRead range keyBound velocityBound rest
  · exact statusRead range keyBound velocityBound running rest

theorem messagesStep (room now : Nat) {delta : Nat} {running after : Option UInt8}
    {message : Message} {bytes body rest : Bytes}
    (time : readQuantity? 4 0 bytes = some (delta, body))
    (first : readMessage? running body = some (message, after, rest)) :
    readMessages? (room + 1) now running bytes =
      (readMessages? room (now + delta) after rest).map ((now + delta, message) :: ·) := by
  cases bytes with
  | nil => simp [readQuantity?] at time
  | cons byte bytes =>
    rw [readMessages?.eq_3 _ _ _ _ (by simp), time]
    simp only [bind, Option.bind, first]
    cases readMessages? room (now + delta) after rest <;> rfl

def lastTick (now : Nat) (events : List NoteEvent) : Nat :=
  (events.getLast?.map NoteEvent.tick).getD now

theorem lastTickCons (now : Nat) (event : NoteEvent) (events : List NoteEvent) :
    lastTick now (event :: events) = lastTick event.tick events := by
  cases events <;> simp [lastTick, List.getLast?_cons]

theorem deltasCons {now : Nat} {event : NoteEvent} {events : List NoteEvent}
    {timed : List (Nat × NoteEvent)} (ok : withDeltas now (event :: events) = .ok timed) :
    event.tick - now ≤ maxTicks ∧ ∃ others, withDeltas event.tick events = .ok others ∧
      timed = (event.tick - now, event) :: others := by
  simp only [withDeltas] at ok
  split at ok
  · contradiction
  · rename_i inside
    obtain ⟨others, later, rfl⟩ := mapOk ok
    exact ⟨Nat.not_lt.mp inside, others, later, rfl⟩

theorem notesRead {channel : UInt8} (bound : channel < 16) {now : Nat} {events : List NoteEvent}
    {timed : List (Nat × NoteEvent)} (ok : withDeltas now events = .ok timed)
    (ascending : (now :: events.map NoteEvent.tick).IsChain (· ≤ ·))
    (playable : ∀ event ∈ events, event.key < 0x80 ∧ event.velocity < 0x80)
    (running : Option UInt8) (room : Nat) (tail : Bytes) :
    ∃ after, readMessages? (room + events.length) now running
        (noteBytes channel running timed ++ tail) =
      (readMessages? room (lastTick now events) after tail).map
        (events.map (fun event => (event.tick, noteMessage channel event)) ++ ·) := by
  induction events generalizing now running timed with
  | nil =>
    cases ok
    exact ⟨running, by simp [noteBytes, lastTick]⟩
  | cons event events ih =>
    obtain ⟨short, others, later, rfl⟩ := deltasCons ok
    obtain ⟨reached, next⟩ := List.isChain_cons_cons.mp ascending
    obtain ⟨here, there⟩ := List.forall_mem_cons.mp playable
    -- Writer and reader carry the same status byte on: that of this event.
    obtain ⟨after, read⟩ := ih later next there (some (statusByte channel event.kind))
    refine ⟨after, ?_⟩
    have time := quantityRead (event.tick - now)
      ((if running = some (statusByte channel event.kind) then []
        else [statusByte channel event.kind]) ++ event.key :: event.velocity ::
          (noteBytes channel (some (statusByte channel event.kind)) others ++ tail))
      (Nat.lt_succ_of_le short)
    have first := eventRead bound here.1 here.2 running
      (noteBytes channel (some (statusByte channel event.kind)) others ++ tail)
    have step := messagesStep (room + events.length) now time first
    rw [Nat.add_sub_cancel' reached, read] at step
    rw [lastTickCons, noteBytes, List.length_cons, ← Nat.add_assoc]
    simp only [List.append_assoc, List.cons_append, List.nil_append] at step ⊢
    rw [step]
    cases readMessages? room (lastTick event.tick events) after tail <;> rfl

end Document

end ChordChart.Midi
