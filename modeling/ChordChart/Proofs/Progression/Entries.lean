import ChordChart.Progression
import ChordChart.Proofs.Basic
import ChordChart.Proofs.Duration.Outcome

/-! The entries of a progression beside its tokens. A token gives one entry, and the length of an
entry is that of a duration: its own, or the one for tokens without. -/
namespace ChordChart.Progression

theorem tokensRead {meter : Meter} {default : UInt32} {tokens : List (List Char)}
    {entries : List Entry} (ok : tokens.mapM (readToken meter default) = .ok entries) :
    List.Forall₂ (fun token entry => readToken meter default token = .ok entry) tokens entries := by
  induction tokens generalizing entries with
  | nil =>
    cases ok
    exact .nil
  | cons token tokens ih =>
    rw [List.mapM_cons] at ok
    obtain ⟨entry, read, rest⟩ := bindOk ok
    obtain ⟨entries, later, last⟩ := bindOk rest
    cases last
    exact .cons read (ih later)

def durationText (usual : String) (token : List Char) : String :=
  match token.splitOnP (· == ':') with
  | [_, duration] => String.ofList duration
  | _ => usual

theorem partsDuration {token : String} {meter : Meter} {default : UInt32} {symbol : List Char}
    {duration? : Option (List Char)} {entry : Entry}
    (ok : readParts token meter default symbol duration? = .ok entry) :
    readDuration token meter default symbol duration? = .ok entry.duration := by
  unfold readParts at ok
  split at ok
  · contradiction
  · obtain ⟨duration, read, rest⟩ := bindOk ok
    obtain ⟨kind, -, last⟩ := bindOk rest
    cases last
    exact read

theorem tokenDuration {usual : String} {meter : Meter} {default : UInt32} {token : List Char}
    {entry : Entry} (measured : Duration.parse usual meter = .ok default)
    (ok : readToken meter default token = .ok entry) :
    Duration.parse (durationText usual token) meter = .ok entry.duration := by
  unfold readToken at ok
  dsimp only at ok
  split at ok
  · rename_i alone
    have same := partsDuration ok
    simp only [readDuration] at same
    split at same
    · contradiction
    · rw [durationText, alone, measured, Except.ok.inj same]
  · rename_i parted
    rw [durationText, parted]
    exact mapErrorOk (partsDuration ok)
  · contradiction

theorem parseSource {text default : String} {meter : Meter} {entries : List Entry}
    (ok : parse text default meter = .ok entries) :
    ∃ ticks, Duration.parse default meter = .ok ticks ∧ tokens text.toList ≠ [] ∧
      List.Forall₂ (fun token entry => readToken meter ticks token = .ok entry)
        (tokens text.toList) entries := by
  obtain ⟨ticks, read, rest⟩ := bindOk ok
  unfold readTokens at rest
  split at rest
  · contradiction
  · rename_i some
    exact ⟨ticks, mapErrorOk read, by simpa using some, tokensRead rest⟩

theorem parseDurations {text default : String} {meter : Meter} {entries : List Entry}
    (ok : parse text default meter = .ok entries) :
    List.Forall₂
      (fun token entry => Duration.parse (durationText default token) meter = .ok entry.duration)
      (tokens text.toList) entries := by
  obtain ⟨ticks, usual, -, read⟩ := parseSource ok
  exact read.imp fun token entry known => tokenDuration usual known

theorem parseRange {text default : String} {meter : Meter} {entries : List Entry}
    (ok : parse text default meter = .ok entries) (beats : 0 < meter.numerator) :
    ∀ entry ∈ entries, 0 < entry.duration ∧ entry.duration.toNat ≤ maxTicks := by
  intro entry member
  obtain ⟨same, known⟩ := List.forall₂_iff_get.mp (parseDurations ok)
  obtain ⟨i, inside, rfl⟩ := List.getElem_of_mem member
  have read := known i (same ▸ inside) inside
  have positive := (Duration.parsePositive read).mpr (.inl beats)
  exact ⟨UInt32.lt_iff_toNat_lt.mpr positive, Duration.parseLimit read⟩

theorem partsFault {token : String} {meter : Meter} {default : UInt32} {symbol : List Char}
    {duration? : Option (List Char)} {cause : ParseError}
    (refused : readParts token meter default symbol duration? = .error cause) :
    cause.token? = some token := by
  unfold readParts at refused
  split at refused
  · cases refused
    rfl
  · rcases bindRefused refused with duration | ⟨duration, -, rest⟩
    · cases duration? with
      | some text =>
        obtain ⟨inner, -, rfl⟩ := mapErrorRefused duration
        rfl
      | none =>
        simp only [readDuration] at duration
        split at duration <;> cases duration
        rfl
    · rcases bindRefused rest with kind | ⟨kind, -, last⟩
      · unfold readKind at kind
        split at kind
        · cases kind
        · obtain ⟨inner, -, rfl⟩ := mapErrorRefused (mapRefused kind)
          rfl
      · cases last

theorem tokenFault {meter : Meter} {default : UInt32} {token : List Char} {cause : ParseError}
    (refused : readToken meter default token = .error cause) :
    cause.token? = some (String.ofList token) := by
  unfold readToken at refused
  dsimp only at refused
  split at refused
  · exact partsFault refused
  · exact partsFault refused
  · cases refused
    rfl

theorem tokensFault {meter : Meter} {default : UInt32} {tokens : List (List Char)}
    {cause : ParseError} (refused : tokens.mapM (readToken meter default) = .error cause) :
    ∃ before token after, tokens = before ++ token :: after ∧
      (∀ other ∈ before, ∃ entry, readToken meter default other = .ok entry) ∧
        readToken meter default token = .error cause := by
  induction tokens with
  | nil => cases refused
  | cons token tokens ih =>
    rw [List.mapM_cons] at refused
    rcases bindRefused refused with first | ⟨entry, read, rest⟩
    · exact ⟨[], token, tokens, rfl, by simp, first⟩
    · rcases bindRefused rest with later | ⟨entries, -, last⟩
      · obtain ⟨before, other, after, rfl, known, fault⟩ := ih later
        exact ⟨token :: before, other, after, rfl,
          List.forall_mem_cons.mpr ⟨⟨entry, read⟩, known⟩, fault⟩
      · cases last

theorem parseDefault {text default : String} {meter : Meter} {given : String}
    {cause : DurationError} :
    parse text default meter = .error (.invalidDefault given cause) ↔
      given = default ∧ Duration.parse default meter = .error cause := by
  constructor
  · intro refused
    rcases bindRefused refused with usual | ⟨ticks, -, rest⟩
    · obtain ⟨inner, failed, same⟩ := mapErrorRefused usual
      cases same
      exact ⟨rfl, failed⟩
    · unfold readTokens at rest
      split at rest
      · cases rest
      · obtain ⟨-, token, -, -, -, fault⟩ := tokensFault rest
        cases tokenFault fault
  · rintro ⟨rfl, failed⟩
    simp only [parse, failed, Except.mapError]
    rfl

end ChordChart.Progression
