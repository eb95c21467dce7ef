import ChordChart.Progression
import ChordChart.Proofs.Basic
import ChordChart.Proofs.NoteName
import ChordChart.Proofs.Text.Numeral
import Mathlib

/-! Chord symbols beside what is written in them. From left to right a symbol is a note name, where
it starts with one, then a quality, then a slash and a second note name, where it has a slash. Which
symbols are read is told by their characters and their slash alone, and nothing written is lost. -/
namespace ChordChart

namespace ChordSymbol

open NoteName (pitchClass)
open Progression (readSymbol)

def SymbolChar (c : Char) : Prop :=
  ('A' ≤ c ∧ c ≤ 'Z') ∨ ('a' ≤ c ∧ c ≤ 'z') ∨ ('0' ≤ c ∧ c ≤ '9') ∨
    c ∈ ['#', '+', '°', 'ø', '^', '(', ')', '-', '/']

theorem charIff {c : Char} : isSymbolChar c ↔ SymbolChar c := by
  have marks : "#+°ø^()-/".toList = ['#', '+', '°', 'ø', '^', '(', ')', '-', '/'] := by decide
  simp only [isSymbolChar, SymbolChar, marks, Char.isAlphanum, Char.isAlpha, Char.isUpper,
    Char.isLower, Char.isDigit, Bool.or_eq_true, Bool.and_eq_true, decide_eq_true_eq,
    List.contains_iff_mem, or_assoc]
  rfl

def rootText (root : Option NoteName) : List Char := (root.map NoteName.text).getD []

def bassText (bass : Option NoteName) : List Char :=
  (bass.map fun name => '/' :: name.text).getD []

structure HeadParts (head : List Char) (root : Option NoteName) (quality : List Char) : Prop where
  text : head = rootText root ++ quality
  rootless : root = none → ∀ letter : Letter, quality.head? ≠ some letter.mark
  ends : ∀ name, root = some name → name.Ends quality

theorem headParts (head : List Char) : ∃ root quality, HeadParts head root quality := by
  cases read : readNote? head with
  | none => exact ⟨none, head, rfl, fun _ => NoteName.readNoteNone.mp read, nofun⟩
  | some found =>
    obtain ⟨pc, quality⟩ := found
    obtain ⟨name, parted, ends, -⟩ := NoteName.readNoteParts read
    refine ⟨some name, quality, parted, nofun, fun other same => ?_⟩
    cases same
    exact ends

theorem headRead {head quality : List Char} {root : Option NoteName}
    (parts : HeadParts head root quality) (bass : Option PitchClass) :
    ofHead head bass = ⟨root.map pitchClass, String.ofList quality, bass⟩ := by
  obtain ⟨rfl, rootless, ends⟩ := parts
  cases root with
  | none =>
    have read : readNote? quality = none := NoteName.readNoteNone.mpr (rootless rfl)
    simp only [ofHead, rootText, Option.map_none, Option.getD_none, List.nil_append, read]
  | some name =>
    have read := NoteName.noteRead (ends name rfl)
    simp only [ofHead, rootText, Option.map_some, Option.getD_some, read]

theorem headRooted {head quality : List Char} {root : Option NoteName}
    (parts : HeadParts head root quality) :
    root ≠ none ↔ ∃ letter : Letter, head.head? = some letter.mark := by
  obtain ⟨rfl, rootless, -⟩ := parts
  cases root with
  | none => simpa [rootText] using rootless rfl
  | some name => exact ⟨fun _ => ⟨name.letter, rfl⟩, fun _ => nofun⟩

theorem nameChars (name : NoteName) : ∀ c ∈ name.text, SymbolChar c ∧ c ≠ '/' := by
  obtain ⟨letter, accidental⟩ := name
  refine List.forall_mem_cons.mpr ⟨?_, ?_⟩
  · cases letter <;> simp [Letter.mark, SymbolChar]
  · cases accidental <;> simp [Accidental.marks, SymbolChar]

theorem nameSlash (name : NoteName) : '/' ∉ name.text :=
  fun slash => (nameChars name _ slash).2 rfl

theorem bassChars (bass : Option NoteName) : ∀ c ∈ bassText bass, SymbolChar c := by
  cases bass with
  | none => exact nofun
  | some name =>
    refine List.forall_mem_cons.mpr ⟨by simp [SymbolChar], fun c member => ?_⟩
    exact (nameChars name c member).1

theorem parseChars {cs : List Char} {parsed : ChordSymbol} (ok : parse cs = .ok parsed) :
    ∀ c ∈ cs, SymbolChar c := by
  unfold parse at ok
  split at ok
  · contradiction
  · rename_i none
    intro c member
    have known := List.find?_eq_none.mp none c member
    exact charIff.mp (by simpa using known)

section

variable {cs : List Char} (chars : ∀ c ∈ cs, SymbolChar c)

include chars

theorem charsFound : cs.find? (fun c => !isSymbolChar c) = none :=
  List.find?_eq_none.mpr fun c member => by simpa using charIff.mpr (chars c member)

theorem parsePlain (plain : '/' ∉ cs) : parse cs = .ok (ofHead cs none) := by
  simp only [parse, charsFound chars, Text.splitOnceNone plain]

theorem parseSlash {head behind : List Char} (parted : cs = head ++ '/' :: behind)
    (plain : '/' ∉ head) {parsed : ChordSymbol} :
    parse cs = .ok parsed ↔
      head ≠ [] ∧ ∃ name : NoteName, name.text = behind ∧
        ofHead head (some name.pitchClass) = parsed := by
  have split := parted ▸ Text.splitOnceFirst plain behind
  simp only [parse, charsFound chars, split]
  constructor
  · intro ok
    split at ok
    · contradiction
    · split at ok
      · contradiction
      · rename_i filled
        split at ok
        · rename_i bass named
          obtain ⟨name, written, rfl⟩ := NoteName.namedIff.mp named
          exact ⟨by simpa using filled, name, written, Except.ok.inj ok⟩
        · contradiction
  · rintro ⟨filled, name, rfl, rfl⟩
    have named := NoteName.namedIff.mpr ⟨name, rfl, rfl⟩
    simp [nameSlash name, filled, named]

end

theorem parseIff {cs : List Char} {parsed : ChordSymbol} :
    parse cs = .ok parsed ↔
      (∀ c ∈ cs, SymbolChar c) ∧ ∃ head bass, '/' ∉ head ∧ (bass = none ∨ head ≠ []) ∧
        cs = head ++ bassText bass ∧ ofHead head (bass.map pitchClass) = parsed := by
  constructor
  · intro ok
    have chars := parseChars ok
    refine ⟨chars, ?_⟩
    by_cases slash : '/' ∈ cs
    · obtain ⟨head, behind, parted, plain⟩ := List.eq_append_cons_of_mem slash
      obtain ⟨filled, name, rfl, same⟩ := (parseSlash chars parted plain).mp ok
      exact ⟨head, some name, plain, .inr filled, parted, same⟩
    · rw [parsePlain chars slash] at ok
      exact ⟨cs, none, slash, .inl rfl, (List.append_nil cs).symm, Except.ok.inj ok⟩
  · rintro ⟨chars, head, bass, plain, filled, parted, same⟩
    cases bass with
    | none =>
      have whole : cs = head := parted.trans (List.append_nil head)
      rw [parsePlain chars (whole ▸ plain), whole]
      exact congrArg Except.ok same
    | some name =>
      exact (parseSlash chars parted plain).mpr ⟨filled.resolve_left nofun, name, rfl, same⟩

theorem readIff {token : String} {cs : List Char} {parsed : ChordSymbol} :
    readSymbol token cs = .ok parsed ↔ parse cs = .ok parsed := by
  refine ⟨mapErrorOk, fun ok => ?_⟩
  rw [readSymbol, ok]
  rfl

theorem accepted {cs : List Char} :
    (∃ parsed, parse cs = .ok parsed) ↔
      (∀ c ∈ cs, SymbolChar c) ∧
        ('/' ∉ cs ∨ ∃ head bass, head ≠ [] ∧ '/' ∉ head ∧ cs = head ++ '/' :: NoteName.text bass) := by
  simp only [parseIff]
  constructor
  · rintro ⟨parsed, chars, head, bass, plain, filled, parted, -⟩
    refine ⟨chars, ?_⟩
    cases bass with
    | none => exact .inl (parted.trans (List.append_nil head) ▸ plain)
    | some name => exact .inr ⟨head, name, filled.resolve_left nofun, plain, parted⟩
  · rintro ⟨chars, plain | ⟨head, name, filled, plain, parted⟩⟩
    · exact ⟨_, chars, cs, none, plain, .inl rfl, (List.append_nil cs).symm, rfl⟩
    · exact ⟨_, chars, head, some name, plain, .inr filled, parted, rfl⟩

structure Written (cs : List Char) (root bass : Option NoteName) (parsed : ChordSymbol) : Prop where
  text : cs = rootText root ++ parsed.quality.toList ++ bassText bass
  slash : '/' ∉ parsed.quality.toList
  rooted : root ≠ none ↔ ∃ letter : Letter, cs.head? = some letter.mark
  ends : ∀ name, root = some name → name.Ends parsed.quality.toList
  root : parsed.root = root.map pitchClass
  bass : parsed.bass = bass.map pitchClass

theorem parseWritten {cs : List Char} {parsed : ChordSymbol} (ok : parse cs = .ok parsed) :
    ∃ root bass, Written cs root bass parsed := by
  obtain ⟨-, head, bass, plain, filled, rfl, same⟩ := parseIff.mp ok
  obtain ⟨root, quality, parts⟩ := headParts head
  rw [headRead parts] at same
  subst same
  have rooted := headRooted parts
  obtain ⟨rfl, -, ends⟩ := parts
  refine ⟨root, bass, ⟨?_, ?_, ?_, ?_, rfl, rfl⟩⟩
  · rw [String.toList_ofList]
  · rw [String.toList_ofList]
    exact fun slash => plain (List.mem_append_right _ slash)
  · rw [rooted]
    cases bass with
    | none => rw [bassText, Option.map_none, Option.getD_none, List.append_nil]
    | some name =>
      obtain ⟨first, rest, start⟩ := List.exists_cons_of_ne_nil (filled.resolve_left nofun)
      rw [start, List.cons_append, List.head?_cons, List.head?_cons]
  · rwa [String.toList_ofList]

theorem writtenParsed {root : NoteName} {quality : List Char} (bass : Option NoteName)
    (chars : ∀ c ∈ quality, SymbolChar c ∧ c ≠ '/') (ends : root.Ends quality) :
    parse (root.text ++ quality ++ bassText bass) =
      .ok ⟨some root.pitchClass, String.ofList quality, bass.map pitchClass⟩ := by
  have parts : HeadParts (root.text ++ quality) (some root) quality := by
    refine ⟨rfl, nofun, fun other same => ?_⟩
    cases same
    exact ends
  have head : ∀ c ∈ root.text ++ quality, SymbolChar c ∧ c ≠ '/' :=
    List.forall_mem_append.mpr ⟨nameChars root, chars⟩
  have whole : ∀ c ∈ root.text ++ quality ++ bassText bass, SymbolChar c :=
    List.forall_mem_append.mpr ⟨fun c member => (head c member).1, bassChars bass⟩
  exact parseIff.mpr ⟨whole, root.text ++ quality, bass, fun slash => (head _ slash).2 rfl,
    .inr (List.cons_ne_nil _ _), rfl, headRead parts _⟩

theorem symbolsWritten (token : String) (cs : List Char) :
    ((∃ parsed, readSymbol token cs = .ok parsed) ↔
        (∀ c ∈ cs, SymbolChar c) ∧
          ('/' ∉ cs ∨
            ∃ head bass, head ≠ [] ∧ '/' ∉ head ∧ cs = head ++ '/' :: NoteName.text bass)) ∧
      (∀ parsed, readSymbol token cs = .ok parsed → ∃ root bass, Written cs root bass parsed) ∧
      ∀ (root : NoteName) (quality : List Char) (bass : Option NoteName),
        (∀ c ∈ quality, SymbolChar c ∧ c ≠ '/') → root.Ends quality →
          readSymbol token (root.text ++ quality ++ bassText bass) =
            .ok ⟨some root.pitchClass, String.ofList quality, bass.map pitchClass⟩ := by
  simp only [readIff]
  exact ⟨accepted, fun parsed => parseWritten, fun root quality bass => writtenParsed bass⟩

theorem flatFifth :
    (∀ c ∈ ['b', '5'], SymbolChar c ∧ c ≠ '/') ∧ NoteName.Ends ⟨.b, .flat⟩ ['b', '5'] ∧
      readSymbol "Bbb5/F#:h" "Bbb5/F#".toList = .ok ⟨some 10, "b5", some 6⟩ := by
  have chars : ∀ c ∈ ['b', '5'], SymbolChar c ∧ c ≠ '/' := by simp [SymbolChar]
  have ends : NoteName.Ends ⟨.b, .flat⟩ ['b', '5'] := nofun
  obtain ⟨-, -, read⟩ := symbolsWritten "Bbb5/F#:h" []
  exact ⟨chars, ends, read ⟨.b, .flat⟩ ['b', '5'] (some ⟨.f, .sharp⟩) chars ends⟩

end ChordSymbol

end ChordChart
