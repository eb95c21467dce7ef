import ChordChart.Convert
import ChordChart.Proofs.Progression.Normal
import ChordChart.Proofs.Text.Words

/-! The layout of a progression file. Lines are read each for itself, the comments not at all, and
where a line ends means no more than a blank does; so a progression is read the same however its
words are spread over lines, and from a text that has been read already nothing is taken away. -/
namespace ChordChart.Convert

open Text (isBlank dropReturn joinWords trim Bare)
open Progression (parse tokens)

inductive Joined : List (List Char) → List Char → Prop where
  | none : Joined [] []
  | last {line} (plain : '\n' ∉ line) : Joined [line] line
  | feed {line lines rest} (plain : '\n' ∉ line) (others : lines ≠ [])
      (behind : Joined lines rest) : Joined (line :: lines) (line ++ '\n' :: rest)
  | returned {line lines rest} (plain : '\n' ∉ line) (others : lines ≠ [])
      (behind : Joined lines rest) : Joined (line :: lines) (line ++ '\r' :: '\n' :: rest)

def Comment (line : List Char) : Prop := ['/', '/'] <+: trim line

instance : DecidablePred Comment := fun line =>
  inferInstanceAs (Decidable (['/', '/'] <+: trim line))

inductive Laid : List (List Char) → List (List Char) → Prop where
  | none : Laid [] []
  | blank {words line lines} (blank : ∀ c ∈ line, isBlank c) (behind : Laid words lines) :
      Laid words (line :: lines)
  | comment {words line lines} (comment : Comment line) (behind : Laid words lines) :
      Laid words (line :: lines)
  | phrase {words line lines} (phrase : ¬ Comment line) (behind : Laid words lines) :
      Laid (Text.words line ++ words) (line :: lines)

def lineTokens (line : List Char) : List (List Char) := if Comment line then [] else tokens line

theorem commentTokens {line : List Char} (comment : Comment line) : lineTokens line = [] :=
  if_pos comment

theorem phraseTokens {line : List Char} (phrase : ¬ Comment line) : lineTokens line = tokens line :=
  if_neg phrase

theorem lineSame {a b : List Char} (same : trim a = trim b) : lineTokens a = lineTokens b := by
  have alike : Comment a ↔ Comment b := by rw [Comment, Comment, same]
  by_cases comment : Comment a
  · rw [commentTokens comment, commentTokens (alike.mp comment)]
  · rw [phraseTokens comment, phraseTokens (mt alike.mpr comment),
      ← Text.readTrimmed Progression.tokensApart a, same, Text.readTrimmed Progression.tokensApart]

theorem returnTrimmed (line : List Char) : trim (dropReturn line) = trim line := by
  unfold dropReturn
  split
  · rename_i ends
    obtain ⟨front, rfl⟩ := List.getLast?_eq_some_iff.mp ends
    rw [List.dropLast_concat, Text.trimBehind front (by decide)]
  · rfl

theorem linesTokens (cs : List Char) :
    (Text.lines cs).flatMap lineTokens = (cs.splitOnP (· == '\n')).flatMap lineTokens := by
  have bare : ∀ line, lineTokens (dropReturn line) = lineTokens line := fun line =>
    lineSame (returnTrimmed line)
  obtain ⟨front, last, pieces⟩ : ∃ front last, cs.splitOnP (· == '\n') = front ++ [last] :=
    ⟨_, _, (List.dropLast_append_getLast (List.splitOnP_ne_nil _ cs)).symm⟩
  simp only [Text.lines, pieces, List.dropLast_concat, List.getLast?_concat, List.flatMap_append,
    List.flatMap_map, bare]
  cases last <;> rfl

theorem feedTokens {line : List Char} (plain : '\n' ∉ line) (rest : List Char) :
    ((line ++ '\n' :: rest).splitOnP (· == '\n')).flatMap lineTokens =
      lineTokens line ++ (rest.splitOnP (· == '\n')).flatMap lineTokens := by
  rw [List.splitOnP_append_cons _ _ (by decide), Text.pieceAlone plain]
  rfl

theorem joinedTokens {lines : List (List Char)} {file : List Char} (joined : Joined lines file) :
    (file.splitOnP (· == '\n')).flatMap lineTokens = lines.flatMap lineTokens := by
  induction joined with
  | none => rfl
  | last plain => rw [Text.pieceAlone plain]
  | feed plain others behind ih => rw [feedTokens plain, ih, List.flatMap_cons]
  | @returned line lines rest plain others behind ih =>
    have whole : '\n' ∉ line ++ ['\r'] := by simp [plain]
    rw [List.append_cons, feedTokens whole, ih, List.flatMap_cons,
      lineSame (Text.trimBehind line (by decide))]

theorem textLines (text : String) :
    progressionOfText text =
      String.ofList (joinWords (((Text.lines text.toList).map trim).filter fun line =>
        line ≠ [] ∧ ¬ ['/', '/'] <+: line)) := by
  have same : (fun line : List Char => !line.isEmpty && !(['/', '/'].isPrefixOf line)) =
      fun line => decide (line ≠ [] ∧ ¬ ['/', '/'] <+: line) := by
    funext line
    rw [Bool.eq_iff_iff]
    simp [← List.isPrefixOf_iff_prefix]
  rw [progressionOfText, same]

theorem keptRead {α β : Type} {keep : α → Bool} {one other : α → List β}
    (kept : ∀ x, keep x → one x = other x) (gone : ∀ x, ¬ keep x → other x = []) (xs : List α) :
    (xs.filter keep).flatMap one = xs.flatMap other := by
  induction xs with
  | nil => rfl
  | cons x xs ih =>
    by_cases stays : keep x
    · rw [List.filter_cons_of_pos stays, List.flatMap_cons, List.flatMap_cons, kept x stays, ih]
    · rw [List.filter_cons_of_neg stays, List.flatMap_cons, gone x stays, List.nil_append, ih]

theorem blankTokens {line : List Char} (blank : ∀ c ∈ line, isBlank c) : lineTokens line = [] := by
  by_cases comment : Comment line
  · exact commentTokens comment
  · rw [phraseTokens comment, Progression.tokensBlank blank]

theorem textTokens (text : String) :
    tokens (progressionOfText text).toList = (Text.lines text.toList).flatMap lineTokens := by
  rw [textLines, String.toList_ofList, Text.readJoined Progression.tokensApart, List.filter_map,
    List.flatMap_map]
  refine keptRead (fun line stays => ?_) (fun line stays => ?_) _
  · obtain ⟨-, phrase⟩ := of_decide_eq_true stays
    rw [Text.readTrimmed Progression.tokensApart, phraseTokens phrase]
  · have gone : trim line = [] ∨ Comment line := by
      simpa [Comment, or_iff_not_imp_left] using stays
    rcases gone with none | comment
    · exact blankTokens (Text.trimNone none)
    · exact commentTokens comment

theorem fileTokens {lines : List (List Char)} {file : String} (joined : Joined lines file.toList) :
    tokens (progressionOfText file).toList = lines.flatMap lineTokens := by
  rw [textTokens, linesTokens, joinedTokens joined]

theorem phrasesTokens (lines : List (List Char)) :
    tokens (joinWords (lines.filter fun line => ¬ Comment line)) = lines.flatMap lineTokens := by
  rw [Text.readJoined Progression.tokensApart]
  refine keptRead (fun line stays => ?_) (fun line stays => ?_) _
  · exact (phraseTokens (of_decide_eq_true stays)).symm
  · exact commentTokens (by simpa using stays)

theorem commentWord {line : List Char} (comment : Comment line) :
    ∃ word ∈ Text.words line, ['/', '/'] <+: word := by
  obtain ⟨rest, starts⟩ := comment
  obtain ⟨others, pieces⟩ := Text.pieceFirst isBlank (trim line)
  rw [← Text.readTrimmed Text.wordsParted, Text.words, pieces, ← starts]
  exact ⟨'/' :: '/' :: _, List.mem_cons_self, ⟨_, rfl⟩⟩

theorem splitLaid {phrases : List (List Char)}
    (clear : ∀ word ∈ phrases.flatMap Text.words, ¬ ['/', '/'] <+: word) :
    Laid (phrases.flatMap Text.words) phrases := by
  induction phrases with
  | nil => exact .none
  | cons line phrases ih =>
    rw [List.flatMap_cons, List.forall_mem_append] at clear
    refine .phrase (fun comment => ?_) (ih clear.2)
    obtain ⟨word, member, starts⟩ := commentWord comment
    exact clear.1 word member starts

theorem laidTokens {words lines : List (List Char)} (laid : Laid words lines) :
    lines.flatMap lineTokens = words.flatMap tokens := by
  induction laid with
  | none => rfl
  | blank blank behind ih => rw [List.flatMap_cons, blankTokens blank, ih, List.nil_append]
  | comment comment behind ih =>
    rw [List.flatMap_cons, commentTokens comment, ih, List.nil_append]
  | phrase phrase behind ih =>
    rw [List.flatMap_cons, phraseTokens phrase, ih, List.flatMap_append,
      ← Text.readWords Progression.tokensApart]

structure Line (cs : List Char) : Prop where
  plain : '\n' ∉ cs
  filled : cs ≠ []
  bare : Bare cs
  phrase : ¬ ['/', '/'] <+: cs

theorem lineRead {cs : List Char} (line : Line cs) :
    progressionOfText (String.ofList cs) = String.ofList cs := by
  have one : Text.lines cs = [cs] := by
    rw [Text.lines, Text.pieceAlone line.plain]
    simpa using line.filled
  rw [textLines, String.toList_ofList, one, List.map_singleton, Text.trimKept line.bare,
    List.filter_cons_of_pos (by simpa using ⟨line.filled, line.phrase⟩), List.filter_nil,
    Text.joinOne]

theorem lineJoin {a b : List Char} (first : Line a) (second : Line b) : Line (a ++ ' ' :: b) where
  plain := by simp [first.plain, second.plain]
  filled := by simp
  bare := by
    obtain ⟨c, cs, rfl⟩ := List.exists_cons_of_ne_nil second.filled
    constructor
    · rw [List.head?_append_of_ne_nil _ first.filled]
      exact first.bare.first
    · rw [List.getLast?_append_cons, List.getLast?_cons_cons]
      exact second.bare.last
  phrase starts := by
    obtain ⟨c, cs, rfl⟩ := List.exists_cons_of_ne_nil first.filled
    cases cs with
    | nil => simp at starts
    | cons next cs => exact first.phrase (by simpa using starts)

theorem linesJoin {pieces : List (List Char)} (some : pieces ≠ [])
    (are : ∀ piece ∈ pieces, Line piece) : Line (joinWords pieces) := by
  induction pieces with
  | nil => contradiction
  | cons piece pieces ih =>
    obtain ⟨first, others⟩ := List.forall_mem_cons.mp are
    by_cases more : pieces = []
    · rw [more, Text.joinOne]
      exact first
    · rw [Text.joinMore piece more]
      exact lineJoin first (ih more others)

theorem linePlain {cs line : List Char} (member : line ∈ Text.lines cs) : '\n' ∉ line := by
  have plain : ∀ piece ∈ cs.splitOnP (· == '\n'), '\n' ∉ piece := fun piece cut feed =>
    (Text.pieceInside cut).2 _ feed (by decide)
  rcases List.mem_append.mp member with ended | unended
  · obtain ⟨piece, among, rfl⟩ := List.mem_map.mp ended
    intro feed
    refine plain piece (List.mem_of_mem_dropLast among) ?_
    unfold dropReturn at feed
    split at feed
    · exact List.mem_of_mem_dropLast feed
    · exact feed
  · obtain ⟨last, -⟩ := List.mem_filter.mp unended
    exact plain line (List.mem_of_mem_getLast? (Option.mem_toList.mp last))

theorem readTwice (text : String) :
    progressionOfText (progressionOfText text) = progressionOfText text := by
  rw [textLines text]
  by_cases none : (((Text.lines text.toList).map trim).filter
    fun line => line ≠ [] ∧ ¬ ['/', '/'] <+: line) = []
  · rw [none]
    rfl
  · refine lineRead (linesJoin none fun piece member => ?_)
    obtain ⟨trimmed, kept⟩ := List.mem_filter.mp member
    obtain ⟨line, among, rfl⟩ := List.mem_map.mp trimmed
    obtain ⟨filled, phrase⟩ := of_decide_eq_true kept
    obtain ⟨front, back, parts, -, -⟩ := Text.trimParts line
    refine ⟨fun feed => linePlain among ?_, filled, Text.trimBare line, phrase⟩
    rw [parts]
    simp [feed]

theorem tokensNormalized {a b : String} (same : tokens a.toList = tokens b.toList) :
    Progression.normalize a = Progression.normalize b := by
  rw [Progression.normalize, Progression.normalize, same]

theorem tokensParsed {a b : String} (same : tokens a.toList = tokens b.toList) (default : String)
    (meter : Meter) : parse a default meter = parse b default meter := by
  rw [parse, parse, same]

/-- How the lines of a file end and where comments stand between them does not matter: what is read
is what the other lines joined by spaces are. Nor does it matter how the words of a text are laid
out in lines, and any split of a text is such a layout if none of its words starts like a comment.
What is read from a file once is read from itself. -/
theorem layoutUnread {lines : List (List Char)} {file : String}
    (joined : Joined lines file.toList) :
    let whole := String.ofList (joinWords (lines.filter fun line => ¬ Comment line))
    Progression.normalize (progressionOfText file) = Progression.normalize whole ∧
      (∀ default meter,
        parse (progressionOfText file) default meter = parse whole default meter) ∧
      (∀ text : String, Laid (Text.words text.toList) lines → ∀ default meter,
        parse (progressionOfText file) default meter = parse text default meter) ∧
      (∀ (text : String) phrases, (∀ word ∈ Text.words text.toList, ¬ ['/', '/'] <+: word) →
        phrases.flatMap Text.words = Text.words text.toList →
          Laid (Text.words text.toList) phrases) ∧
      ∀ text, progressionOfText (progressionOfText text) = progressionOfText text := by
  intro whole
  have read := fileTokens joined
  have kept : tokens (progressionOfText file).toList = tokens whole.toList := by
    rw [read, String.toList_ofList, phrasesTokens]
  refine ⟨tokensNormalized kept, tokensParsed kept, fun text laid => tokensParsed ?_,
    fun text phrases clear split => ?_, readTwice⟩
  · rw [read, laidTokens laid, ← Text.readWords Progression.tokensApart]
  · rw [← split] at clear ⊢
    exact splitLaid clear

def sheetLines : List (List Char) :=
  ["// verse", "C ->", " ", "G- |Am:2,\r", "\t// turn", "F"].map String.toList

def sheet : String := "// verse\r\nC ->\n \nG- |Am:2,\r\r\n\t// turn\nF"

theorem sheetRead :
    Joined sheetLines sheet.toList ∧ Laid (Text.words "C -> G- |Am:2, F".toList) sheetLines ∧
      Progression.normalize (progressionOfText sheet) = "C G- Am:2 F" ∧
      parse (progressionOfText sheet) "1" .common = parse "C -> G- |Am:2, F" "1" .common := by
  have file : sheet.toList = "// verse".toList ++ '\r' :: '\n' :: ("C ->".toList ++ '\n' ::
      (" ".toList ++ '\n' :: ("G- |Am:2,\r".toList ++ '\r' :: '\n' ::
        ("\t// turn".toList ++ '\n' :: "F".toList)))) := by decide
  have words : Text.words "C -> G- |Am:2, F".toList = Text.words "C ->".toList ++
      (Text.words "G- |Am:2,\r".toList ++ (Text.words "F".toList ++ [])) := by decide
  have blank : ∀ c ∈ " ".toList, isBlank c := by simp [isBlank, Text.inRanges, Text.blankRanges]
  have joined : Joined sheetLines sheet.toList := by
    rw [file]
    exact .returned (by decide) (by simp) (.feed (by decide) (by simp) (.feed (by decide) (by simp)
      (.returned (by decide) (by simp) (.feed (by decide) (by simp) (.last (by decide))))))
  have laid : Laid (Text.words "C -> G- |Am:2, F".toList) sheetLines := by
    rw [words]
    exact .comment (by decide) (.phrase (by decide) (.blank blank (.phrase (by decide)
      (.comment (by decide) (.phrase (by decide) .none)))))
  obtain ⟨normal, -, parsed, -⟩ := layoutUnread joined
  exact ⟨joined, laid, normal.trans (by decide +kernel), parsed _ laid _ _⟩

end ChordChart.Convert
