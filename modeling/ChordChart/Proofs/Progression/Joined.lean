import ChordChart.Progression
import ChordChart.Proofs.Basic
import ChordChart.Proofs.Progression.Entries
import ChordChart.Proofs.Progression.Tokens
import ChordChart.Proofs.Text.Words

/-! Progressions read token by token. What a token means hangs on itself alone, so a text joined of
two is read as the two are, and the first token that is not well formed is the one at fault. -/
namespace ChordChart.Progression

def Named (symbol : List Char) : Prop :=
  symbol ≠ [] ∧ ∃ parsed, ChordSymbol.parse symbol = .ok parsed

inductive WellFormed (meter : Meter) : List Char → Prop where
  | usual {symbol} (named : Named symbol) (sounds : symbol ≠ ['R']) : WellFormed meter symbol
  | timed {symbol code ticks} (named : Named symbol) (last : ':' ∉ code)
      (measured : Duration.parse (String.ofList code) meter = .ok ticks) :
      WellFormed meter (symbol ++ ':' :: code)

theorem namedColon {symbol : List Char} (named : Named symbol) : ':' ∉ symbol := by
  intro colon
  obtain ⟨-, parsed, ok⟩ := named
  unfold ChordSymbol.parse at ok
  split at ok
  · contradiction
  · rename_i none
    exact absurd (List.find?_eq_none.mp none ':' colon) (by decide)

theorem kindReads {token : String} {symbol : List Char} :
    (∃ kind, readKind token symbol = .ok kind) ↔
      ∃ parsed, ChordSymbol.parse symbol = .ok parsed := by
  unfold readKind
  split
  · rename_i same
    subst same
    exact ⟨fun _ => ⟨_, rfl⟩, fun _ => ⟨_, rfl⟩⟩
  · constructor
    · rintro ⟨kind, read⟩
      obtain ⟨parsed, named, -⟩ := mapOk read
      exact ⟨parsed, mapErrorOk named⟩
    · rintro ⟨parsed, named⟩
      exact ⟨.chord parsed, by rw [readSymbol, named]; rfl⟩

theorem durationReads {token : String} {meter : Meter} {default : UInt32} {symbol code : List Char} :
    (∃ ticks, readDuration token meter default symbol (some code) = .ok ticks) ↔
      ∃ ticks, Duration.parse (String.ofList code) meter = .ok ticks := by
  constructor
  · rintro ⟨ticks, read⟩
    exact ⟨ticks, mapErrorOk read⟩
  · rintro ⟨ticks, measured⟩
    exact ⟨ticks, by rw [readDuration, measured]; rfl⟩

theorem defaultReads {token : String} {meter : Meter} {default : UInt32} {symbol : List Char} :
    (∃ ticks, readDuration token meter default symbol none = .ok ticks) ↔ symbol ≠ ['R'] := by
  unfold readDuration
  dsimp only
  split
  · rename_i same
    simp [same]
  · rename_i other
    simp [other]

theorem partsRead {token : String} {meter : Meter} {default : UInt32} {symbol : List Char}
    {duration? : Option (List Char)} :
    (∃ entry, readParts token meter default symbol duration? = .ok entry) ↔
      Named symbol ∧ ∃ ticks, readDuration token meter default symbol duration? = .ok ticks := by
  constructor
  · rintro ⟨entry, ok⟩
    unfold readParts at ok
    split at ok
    · contradiction
    · rename_i filled
      obtain ⟨ticks, measured, rest⟩ := bindOk ok
      obtain ⟨kind, named, -⟩ := bindOk rest
      exact ⟨⟨by simpa using filled, kindReads.mp ⟨kind, named⟩⟩, ticks, measured⟩
  · rintro ⟨⟨filled, named⟩, ticks, measured⟩
    obtain ⟨kind, read⟩ := kindReads.mpr named
    refine ⟨⟨String.ofList symbol, kind, ticks⟩, ?_⟩
    rw [readParts, if_neg (by simpa using filled), measured, read]
    rfl

theorem splitFirst {symbol : List Char} (free : ':' ∉ symbol) (code : List Char) :
    (symbol ++ ':' :: code).splitOnP (· == ':') = symbol :: code.splitOnP (· == ':') :=
  List.splitOnP_append_cons_of_forall_mem
    (fun c member => by simpa using fun same : c = ':' => free (same ▸ member)) ':' rfl code

theorem tokenReads {meter : Meter} {default : UInt32} {token : List Char} :
    (∃ entry, readToken meter default token = .ok entry) ↔ WellFormed meter token := by
  constructor
  · rintro ⟨entry, ok⟩
    unfold readToken at ok
    dsimp only at ok
    by_cases colon : ':' ∈ token
    · obtain ⟨symbol, code, rfl, free⟩ := List.eq_append_cons_of_mem colon
      rw [splitFirst free] at ok
      by_cases more : ':' ∈ code
      · obtain ⟨first, rest, rfl, single⟩ := List.eq_append_cons_of_mem more
        obtain ⟨last, others, split⟩ := List.exists_cons_of_ne_nil (List.splitOnP_ne_nil (· == ':') rest)
        rw [splitFirst single, split] at ok
        contradiction
      · rw [Text.pieceAlone more] at ok
        obtain ⟨named, duration⟩ := partsRead.mp ⟨entry, ok⟩
        obtain ⟨ticks, measured⟩ := durationReads.mp duration
        exact .timed named more measured
    · rw [Text.pieceAlone colon] at ok
      obtain ⟨named, duration⟩ := partsRead.mp ⟨entry, ok⟩
      exact .usual named (defaultReads.mp duration)
  · intro formed
    unfold readToken
    cases formed with
    | usual named sounds =>
      simp only [Text.pieceAlone (namedColon named)]
      exact partsRead.mpr ⟨named, defaultReads.mpr sounds⟩
    | timed named last measured =>
      simp only [splitFirst (namedColon named), Text.pieceAlone last]
      exact partsRead.mpr ⟨named, durationReads.mpr ⟨_, measured⟩⟩

section

variable {meter : Meter} {default : String} {ticks : UInt32}
  (usual : Duration.parse default meter = .ok ticks)

include usual

theorem parseTokens (text : String) :
    parse text default meter = readTokens meter ticks (tokens text.toList) := by
  rw [parse, usual]
  rfl

theorem parseSome {text : String} (some : tokens text.toList ≠ []) :
    parse text default meter = (tokens text.toList).mapM (readToken meter ticks) := by
  rw [parseTokens usual, readTokens, if_neg (by simpa using some)]

theorem parseJoin {a b sep : String} (separates : Separates sep.toList)
    (someA : tokens a.toList ≠ []) (someB : tokens b.toList ≠ []) :
    parse (a ++ sep ++ b) default meter = do
      let xs ← parse a default meter
      let ys ← parse b default meter
      return xs ++ ys := by
  have joined : tokens (a ++ sep ++ b).toList = tokens a.toList ++ tokens b.toList := by
    rw [String.toList_append, String.toList_append, tokensJoin separates]
  have some : tokens (a ++ sep ++ b).toList ≠ [] := by
    rw [joined]
    exact List.append_ne_nil_of_left_ne_nil someA _
  rw [parseSome usual some, joined, List.mapM_append, parseSome usual someA, parseSome usual someB]

theorem parseAlone {token : List Char} (is : IsToken token) :
    parse (String.ofList token) default meter =
      (readToken meter ticks token).map fun entry => [entry] := by
  have alone : tokens (String.ofList token).toList = [token] := by
    rw [String.toList_ofList, tokenAlone is]
  have some : tokens (String.ofList token).toList ≠ [] := by
    rw [alone]
    exact List.cons_ne_nil _ _
  rw [parseSome usual some, alone, List.mapM_cons, List.mapM_nil]
  cases readToken meter ticks token <;> rfl

theorem tokensAlone {tokens : List (List Char)} {entries : List Entry}
    (are : ∀ token ∈ tokens, IsToken token)
    (read : List.Forall₂ (fun token entry => readToken meter ticks token = .ok entry) tokens entries) :
    List.Forall₂ (fun token entry => parse (String.ofList token) default meter = .ok [entry])
      tokens entries := by
  induction read with
  | nil => exact .nil
  | cons known rest ih =>
    obtain ⟨first, others⟩ := List.forall_mem_cons.mp are
    exact .cons (by rw [parseAlone usual first, known]; rfl) (ih others)

theorem parseEach {text : String} {entries : List Entry}
    (ok : parse text default meter = .ok entries) :
    List.Forall₂ (fun token entry => parse (String.ofList token) default meter = .ok [entry])
      (normalTokens text) entries := by
  obtain ⟨same, measured, some, read⟩ := parseSource ok
  cases usual.symm.trans measured
  rw [normalTokensSame some]
  exact tokensAlone usual (fun token member => tokenMember member) read

theorem parseFault {text : String} {cause : ParseError}
    (refused : parse text default meter = .error cause) :
    (cause = .empty ∧ tokens text.toList = []) ∨
      ∃ before token after, normalTokens text = before ++ token :: after ∧
        (∀ other ∈ before, WellFormed meter other) ∧ ¬ WellFormed meter token ∧
          cause.token? = some (String.ofList token) := by
  by_cases none : tokens text.toList = []
  · rw [parseTokens usual, none] at refused
    cases refused
    exact .inl ⟨rfl, none⟩
  · rw [parseSome usual none] at refused
    obtain ⟨before, token, after, parted, known, fault⟩ := tokensFault refused
    refine .inr ⟨before, token, after, (normalTokensSame none).trans parted,
      fun other member => tokenReads.mp (known other member), fun formed => ?_, tokenFault fault⟩
    obtain ⟨entry, read⟩ := tokenReads.mpr formed
    exact absurd (fault.symm.trans read) nofun

end

theorem parseJoined {meter : Meter} {default : String} {ticks : UInt32}
    (usual : Duration.parse default meter = .ok ticks) {a b sep : String}
    (separates : Separates sep.toList) (someA : tokens a.toList ≠ [])
    (someB : tokens b.toList ≠ []) :
    (∀ xs ys, parse a default meter = .ok xs → parse b default meter = .ok ys →
        parse (a ++ sep ++ b) default meter = .ok (xs ++ ys)) ∧
      (∀ cause, parse a default meter = .error cause →
        parse (a ++ sep ++ b) default meter = .error cause) ∧
      (∀ xs cause, parse a default meter = .ok xs → parse b default meter = .error cause →
        parse (a ++ sep ++ b) default meter = .error cause) ∧
      (∀ text entries, parse text default meter = .ok entries →
        List.Forall₂ (fun token entry => parse (String.ofList token) default meter = .ok [entry])
          (normalTokens text) entries) ∧
      ∀ text cause, parse text default meter = .error cause →
        (cause = .empty ∧ tokens text.toList = []) ∨
          ∃ before token after, normalTokens text = before ++ token :: after ∧
            (∀ other ∈ before, WellFormed meter other) ∧ ¬ WellFormed meter token ∧
              cause.token? = some (String.ofList token) := by
  rw [parseJoin usual separates someA someB]
  refine ⟨fun xs ys first second => ?_, fun cause refused => ?_, fun xs cause first refused => ?_,
    fun text entries ok => parseEach usual ok, fun text cause refused => parseFault usual refused⟩
  · rw [first, second]
    rfl
  · rw [refused]
    rfl
  · rw [first, refused]
    rfl

theorem dashArrow :
    Separates "->".toList ∧ tokens "C-".toList ≠ [] ∧ tokens "G:h".toList ≠ [] ∧
      parse ("C-" ++ "->" ++ "G:h") "1" .common =
        .ok [⟨"C-", .chord ⟨some 0, "-", none⟩, 512⟩, ⟨"G", .chord ⟨some 7, "", none⟩, 256⟩] := by
  have someA : tokens "C-".toList ≠ [] := by decide +kernel
  have someB : tokens "G:h".toList ≠ [] := by decide +kernel
  have usual : Duration.parse "1" .common = .ok 512 := okOfSome (by decide +kernel)
  have between : Separates "->".toList := .arrow
  have first : parse "C-" "1" .common = .ok [⟨"C-", .chord ⟨some 0, "-", none⟩, 512⟩] :=
    okOfSome (by decide +kernel)
  have second : parse "G:h" "1" .common = .ok [⟨"G", .chord ⟨some 7, "", none⟩, 256⟩] :=
    okOfSome (by decide +kernel)
  exact ⟨between, someA, someB, (parseJoined usual between someA someB).1 _ _ first second⟩

end ChordChart.Progression
