import ChordChart.Convert
import ChordChart.Disk.Tree
import ChordChart.Proofs.Disk.Tree
import ChordChart.Proofs.Midi.RoundTrip

/-! What becomes of converting a progression file. It fails to be read, to generate or to be
written, and then the disk is as it was, or it writes the one file that its output names; the
progression that its options bring along has no part in it. No file that the encoder makes can be
read as a text: its header ends in a byte that starts no character and stands behind whole ones. -/
namespace ChordChart

theorem Tree.bindAt {α β : Type} (first : StateM Tree α) (next : α → StateM Tree β) (disk : Tree) :
    (first >>= next) disk = next (first disk).1 (first disk).2 := rfl

theorem Tree.readAt (path : String) (disk : Tree) :
    (Disk.readText path : StateM Tree (Except FileError String)) disk =
      (disk.readText path, disk) := rfl

theorem Tree.writeAt (path : String) (content : Midi.Bytes) (disk : Tree) :
    (Disk.write path content : StateM Tree (Except FileError Unit)) disk =
      match disk.write path content with
      | .error cause => (.error cause, disk)
      | .ok written => (.ok (), written) := rfl

namespace Convert

theorem readProgressionAt (path : String) (disk : Tree) :
    (readProgression path : StateM Tree (Except ConvertError String)) disk =
      (((disk.readText path).mapError (.read path)).map progressionOfText, disk) := by
  rw [readProgression, Tree.bindAt, Tree.readAt]
  cases disk.readText path <;> rfl

inductive Outcome (input : String) (output : Option String) (options : Options) (disk : Tree) :
    Except ConvertError (String × Song) × Tree → Prop where
  | unreadable {cause} (failed : disk.readText input = .error cause) :
      Outcome input output options disk (.error (.read input cause), disk)
  | refused {text cause} (read : disk.readText input = .ok text)
      (failed : Song.generate { options with progression := progressionOfText text } =
        .error cause) :
      Outcome input output options disk (.error (.generate input cause), disk)
  | unwritable {text song cause} (read : disk.readText input = .ok text)
      (made : Song.generate { options with progression := progressionOfText text } = .ok song)
      (failed : disk.write (output.getD (defaultOutput input)) song.bytes = .error cause) :
      Outcome input output options disk
        (.error (.write (output.getD (defaultOutput input)) cause), disk)
  | done {text song later} (read : disk.readText input = .ok text)
      (made : Song.generate { options with progression := progressionOfText text } = .ok song)
      (ok : disk.write (output.getD (defaultOutput input)) song.bytes = .ok later) :
      Outcome input output options disk (.ok (output.getD (defaultOutput input), song), later)

theorem fileOutcome (input : String) (output : Option String) (options : Options) (disk : Tree) :
    Outcome input output options disk
      ((file input output options : StateM Tree (Except ConvertError (String × Song))) disk) := by
  rw [file, Tree.bindAt, readProgressionAt]
  cases read : disk.readText input with
  | error cause => exact .unreadable read
  | ok text =>
    dsimp only [Except.mapError, Except.map]
    cases made : Song.generate { options with progression := progressionOfText text } with
    | error cause => exact .refused read made
    | ok song =>
      dsimp only
      rw [Tree.bindAt, Tree.writeAt]
      cases wrote : disk.write (output.getD (defaultOutput input)) song.bytes with
      | error cause => exact .unwritable read made wrote
      | ok later => exact .done read made wrote

theorem outcomeUnique {input : String} {output : Option String} {options : Options} {disk : Tree}
    {first second : Except ConvertError (String × Song) × Tree}
    (one : Outcome input output options disk first)
    (other : Outcome input output options disk second) : first = second := by
  cases one with
  | unreadable failed => cases other <;> simp_all
  | refused read failed => cases other <;> simp_all
  | unwritable read made failed => cases other <;> simp_all
  | done read made ok => cases other <;> simp_all

theorem outcomeAnswer {input : String} {output : Option String} {options : Options} {disk : Tree}
    {result : Except ConvertError (String × Song) × Tree} :
    (file input output options : StateM Tree (Except ConvertError (String × Song))) disk = result ↔
      Outcome input output options disk result := by
  constructor
  · intro same
    exact same ▸ fileOutcome input output options disk
  · exact outcomeUnique (fileOutcome input output options disk)

end Convert

theorem Text.encodedBehind (cs : List Char) (bytes : ByteArray) :
    (cs.utf8Encode ++ bytes).IsValidUTF8 ↔ bytes.IsValidUTF8 := by
  induction cs with
  | nil => simp
  | cons c cs ih =>
    rw [List.utf8Encode_cons, ByteArray.append_assoc,
      ByteArray.isValidUTF8_utf8Encode_singleton_append_iff, ih]

namespace Midi

def headerText : List Char := "MThd\x00\x00\x00\x06\x00\x00\x00\x01\x00".toList

theorem headerEncoded (behind : Bytes) :
    ByteArray.mk (headerChunk ++ behind).toArray =
      headerText.utf8Encode ++ (0x80 :: behind).toByteArray := by
  have header : headerChunk = headerText.flatMap String.utf8EncodeChar ++ [0x80] := by
    decide +kernel
  rw [header, List.append_assoc, List.utf8Encode, ← List.toByteArray_append]
  exact ByteArray.ext (by simp)

theorem headerNoText (behind : Bytes) : Tree.textOf (headerChunk ++ behind) = .error .notText := by
  have invalid : ¬ (ByteArray.mk (headerChunk ++ behind).toArray).IsValidUTF8 := by
    rw [headerEncoded, Text.encodedBehind]
    intro valid
    have first := valid.isUTF8FirstByte_getElem_zero (by simp)
    rw [List.getElem_toByteArray, List.getElem_cons_zero] at first
    exact absurd first (by decide)
  simp only [Tree.textOf, String.fromUTF8?, dif_neg invalid]

theorem encodedNoText {notes : List Note} {settings : Settings} {bytes : Bytes}
    (ok : encode notes settings = .ok bytes) : Tree.textOf bytes = .error .notText := by
  obtain ⟨-, -, rfl⟩ := Document.encodeParts ok
  exact headerNoText _

end Midi

namespace Convert

def onDisk (input : String) (output : Option String) (options : Options) (disk : Tree) :
    Except ConvertError (String × Song) × Tree :=
  (file input output options : StateM Tree (Except ConvertError (String × Song))) disk

def Makes (options : Options) (disk : Tree) (input : String) (song : Song) : Prop :=
  ∃ text, disk.readText input = .ok text ∧
    Song.generate { options with progression := progressionOfText text } = .ok song

def Stops (input : String) (output : Option String) (options : Options) (disk : Tree) :
    ConvertError → Prop
  | .read path cause => path = input ∧ disk.readText input = .error cause
  | .generate path cause => path = input ∧ ∃ text, disk.readText input = .ok text ∧
      Song.generate { options with progression := progressionOfText text } = .error cause
  | .write path cause => path = output.getD (defaultOutput input) ∧
      ∃ song, Makes options disk input song ∧ disk.write path song.bytes = .error cause

variable {input : String} {output : Option String} {options : Options} {disk later : Tree}

theorem stopsIff {error : ConvertError} :
    onDisk input output options disk = (.error error, later) ↔
      later = disk ∧ Stops input output options disk error := by
  constructor
  · intro stopped
    cases outcomeAnswer.mp stopped with
    | unreadable failed => exact ⟨rfl, rfl, failed⟩
    | refused read failed => exact ⟨rfl, rfl, _, read, failed⟩
    | unwritable read made failed => exact ⟨rfl, rfl, _, ⟨_, read, made⟩, failed⟩
  · intro stopped
    obtain ⟨rfl, stops⟩ := stopped
    apply outcomeAnswer.mpr
    cases error with
    | read path cause =>
      obtain ⟨rfl, failed⟩ := stops
      exact .unreadable failed
    | generate path cause =>
      obtain ⟨rfl, text, read, failed⟩ := stops
      exact .refused read failed
    | write path cause =>
      obtain ⟨rfl, song, ⟨text, read, made⟩, failed⟩ := stops
      exact .unwritable read made failed

end Convert

end ChordChart
