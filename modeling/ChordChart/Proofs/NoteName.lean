import ChordChart.Proofs.Pitch

/-! Note names as they are written: a letter and at most one accidental. A name is read from the
start of a text exactly where it is written there, with the accidental that follows its letter. -/
namespace ChordChart

inductive Letter where
  | c | d | e | f | g | a | b
  deriving DecidableEq, Repr

namespace Letter

def mark : Letter → Char
  | c => 'C'
  | d => 'D'
  | e => 'E'
  | f => 'F'
  | g => 'G'
  | a => 'A'
  | b => 'B'

def semitones : Letter → Nat
  | c => 0
  | d => 2
  | e => 4
  | f => 5
  | g => 7
  | a => 9
  | b => 11

theorem markRead (letter : Letter) : naturalSemitones? letter.mark = some letter.semitones := by
  cases letter <;> rfl

theorem readMark {c : Char} {n : Nat} (read : naturalSemitones? c = some n) :
    ∃ letter : Letter, letter.mark = c ∧ letter.semitones = n := by
  unfold naturalSemitones? at read
  split at read <;> cases read
  · exact ⟨.c, rfl, rfl⟩
  · exact ⟨.d, rfl, rfl⟩
  · exact ⟨.e, rfl, rfl⟩
  · exact ⟨.f, rfl, rfl⟩
  · exact ⟨.g, rfl, rfl⟩
  · exact ⟨.a, rfl, rfl⟩
  · exact ⟨.b, rfl, rfl⟩

end Letter

inductive Accidental where
  | natural | sharp | flat
  deriving DecidableEq, Repr

namespace Accidental

def marks : Accidental → List Char
  | natural => []
  | sharp => ['#']
  | flat => ['b']

def shift : Accidental → Int
  | natural => 0
  | sharp => 1
  | flat => -1

end Accidental

structure NoteName where
  letter : Letter
  accidental : Accidental
  deriving DecidableEq, Repr

namespace NoteName

def text (name : NoteName) : List Char := name.letter.mark :: name.accidental.marks

def pitchClass (name : NoteName) : PitchClass :=
  classOf (name.letter.semitones + name.accidental.shift)

def Ends (name : NoteName) (rest : List Char) : Prop :=
  name.accidental = .natural → rest.head? ≠ some '#' ∧ rest.head? ≠ some 'b'

theorem accidentalRead {accidental : Accidental} {rest : List Char}
    (ends : accidental = .natural → rest.head? ≠ some '#' ∧ rest.head? ≠ some 'b') :
    readAccidental (accidental.marks ++ rest) = ((accidental.shift % 12).toNat, rest) := by
  cases accidental with
  | sharp => rfl
  | flat => rfl
  | natural =>
    obtain ⟨sharp, flat⟩ := ends rfl
    unfold readAccidental
    split
    · rename_i same
      exact absurd (congrArg List.head? same) sharp
    · rename_i same
      exact absurd (congrArg List.head? same) flat
    · rfl

theorem readAccidentalParts (cs : List Char) :
    ∃ accidental : Accidental, cs = accidental.marks ++ (readAccidental cs).2 ∧
      (accidental = .natural →
        (readAccidental cs).2.head? ≠ some '#' ∧ (readAccidental cs).2.head? ≠ some 'b') := by
  unfold readAccidental
  split
  · exact ⟨.sharp, rfl, nofun⟩
  · exact ⟨.flat, rfl, nofun⟩
  · rename_i sharp flat
    refine ⟨.natural, rfl, fun _ => ⟨fun head => ?_, fun head => ?_⟩⟩
    · obtain ⟨rest, same⟩ := List.head?_eq_some_iff.mp head
      exact sharp rest same
    · obtain ⟨rest, same⟩ := List.head?_eq_some_iff.mp head
      exact flat rest same

theorem noteRead {name : NoteName} {rest : List Char} (ends : name.Ends rest) :
    readNote? (name.text ++ rest) = some (name.pitchClass, rest) := by
  rw [text, List.cons_append, readNote?, Letter.markRead, Option.map_some, accidentalRead ends]
  refine congrArg (fun pc => some (pc, rest)) (classKnown ?_).symm
  rw [UInt8.toNat_ofNat']
  omega

theorem readNoteParts {cs rest : List Char} {pc : PitchClass}
    (read : readNote? cs = some (pc, rest)) :
    ∃ name : NoteName, cs = name.text ++ rest ∧ name.Ends rest ∧ name.pitchClass = pc := by
  cases cs with
  | nil => contradiction
  | cons first behind =>
    obtain ⟨semitones, known, -⟩ := Option.map_eq_some_iff.mp read
    obtain ⟨letter, rfl, -⟩ := Letter.readMark known
    obtain ⟨accidental, parted, ends⟩ := readAccidentalParts behind
    have whole : letter.mark :: behind =
        text ⟨letter, accidental⟩ ++ (readAccidental behind).2 := by
      rw [text, List.cons_append, ← parted]
    have complete : Ends ⟨letter, accidental⟩ (readAccidental behind).2 := ends
    have again := noteRead complete
    rw [← whole, read] at again
    cases again
    exact ⟨⟨letter, accidental⟩, whole, complete, rfl⟩

theorem readNoteNone {cs : List Char} :
    readNote? cs = none ↔ ∀ letter : Letter, cs.head? ≠ some letter.mark := by
  cases cs with
  | nil => simp [readNote?]
  | cons first behind =>
    rw [readNote?, Option.map_eq_none_iff]
    constructor
    · intro none letter same
      cases same
      cases none.symm.trans letter.markRead
    · intro other
      refine Option.eq_none_iff_forall_not_mem.mpr fun semitones known => ?_
      obtain ⟨letter, rfl, -⟩ := Letter.readMark known
      exact other letter rfl

theorem namedIff {cs : List Char} {pc : PitchClass} :
    noteNamed? cs = some pc ↔ ∃ name : NoteName, name.text = cs ∧ name.pitchClass = pc := by
  constructor
  · intro named
    unfold noteNamed? at named
    split at named
    · rename_i read
      cases named
      obtain ⟨name, rfl, -, same⟩ := readNoteParts read
      exact ⟨name, (List.append_nil _).symm, same⟩
    · contradiction
  · rintro ⟨name, rfl, rfl⟩
    have complete : name.Ends [] := fun _ => ⟨nofun, nofun⟩
    have read := noteRead complete
    rw [List.append_nil] at read
    rw [noteNamed?, read]

end NoteName

end ChordChart
