import ChordChart.Proofs.Session.Effect
import ChordChart.Proofs.Slot.Laid

/-! The last song beside the options in force. A progression that does not generate takes its place
among the options, and the song before it stays the last one: that is the only way for the two to
come apart, and any setting or any progression that generates brings them together again. -/
namespace ChordChart.Session

def Coherent (session : Session) : Prop :=
  ∀ song, session.last = some song → Song.generate session.options = .ok song

def Remembered (session : Session) : Prop :=
  ∀ song, session.last = some song →
    Song.generate session.options = .ok song ∨
      (∃ cause, Song.generate session.options = .error cause) ∧
        ∃ progression, Song.generate (session.asked progression) = .ok song

theorem emptyCoherent (options : Options) : Coherent ⟨options, none⟩ := by
  intro song found
  contradiction

theorem madeCoherent {options : Options} {song : Song} (made : Song.generate options = .ok song) :
    Coherent ⟨options, some song⟩ := by
  intro other found
  cases Option.some.inj found
  exact made

theorem coherentRemembered {session : Session} (coherent : session.Coherent) :
    session.Remembered :=
  fun song found => .inl (coherent song found)

theorem effectRemembered {session next : Session} {line : String}
    (remembered : session.Remembered) (effect : Effect session line next) : next.Remembered := by
  cases effect with
  | kept => exact remembered
  | recalled stale made => exact coherentRemembered (madeCoherent made)
  | changed called accepted => exact coherentRemembered (emptyCoherent _)
  | played named given made => exact coherentRemembered (madeCoherent made)
  | @failed progression cause named given refused =>
    intro song found
    refine .inr ⟨⟨cause, refused⟩, ?_⟩
    rcases remembered song found with made | ⟨-, earlier, made⟩
    · exact ⟨session.options.progression, made⟩
    · exact ⟨earlier, made⟩

theorem runRemembered {session : Session} (remembered : session.Remembered) (color : Bool)
    (lines : List (String × Tree)) : (run color session lines).Remembered := by
  induction lines generalizing session with
  | nil => exact remembered
  | cons line rest ih =>
    exact ih (effectRemembered remembered (answeredEffect color session line.1 line.2))

theorem rememberedCoherent {session : Session} (remembered : session.Remembered) :
    session.Coherent ↔ session.last = none ∨ ∃ song, Song.generate session.options = .ok song := by
  constructor
  · intro coherent
    cases found : session.last with
    | none => exact .inl rfl
    | some song => exact .inr ⟨song, coherent song found⟩
  · intro holds song found
    rcases holds with none | ⟨other, made⟩
    · simp [none] at found
    · rcases remembered song found with same | ⟨⟨cause, refused⟩, -⟩
      · exact same
      · simp [made] at refused

theorem runAppend (color : Bool) (session : Session) (lines : List (String × Tree))
    (line : String × Tree) :
    run color session (lines ++ [line]) =
      answered color (run color session lines) line.1 line.2 := by
  simp [run]

def Broken (color : Bool) (start : Session) (lines : List (String × Tree)) : Prop :=
  ∃ before line after progression cause, lines = before ++ line :: after ∧
    Command.progression? line.1 = some progression ∧ progression ≠ "" ∧
    (run color start before).last ≠ none ∧
    Song.generate ((run color start before).asked progression) = .error cause ∧
    run color start lines =
      ⟨(run color start before).asked progression, (run color start before).last⟩

theorem brokenIncoherent {color : Bool} {start : Session} {lines : List (String × Tree)}
    (broken : Broken color start lines) : ¬ (run color start lines).Coherent := by
  obtain ⟨before, line, after, progression, cause, -, -, -, held, refused, last⟩ := broken
  intro coherent
  obtain ⟨song, found⟩ := Option.ne_none_iff_exists'.mp held
  rw [last] at coherent
  have made := coherent song found
  rw [refused] at made
  contradiction

theorem brokenAppend {color : Bool} {start : Session} {lines : List (String × Tree)}
    {line : String × Tree} (broken : Broken color start lines)
    (kept : run color start (lines ++ [line]) = run color start lines) :
    Broken color start (lines ++ [line]) := by
  obtain ⟨before, broke, after, progression, cause, rfl, named, given, held, refused, last⟩ :=
    broken
  exact ⟨before, broke, after ++ [line], progression, cause, by simp, named, given, held, refused,
    kept.trans last⟩

theorem incoherentBroken {color : Bool} {start : Session} {lines : List (String × Tree)}
    (coherent : start.Coherent) (stale : ¬ (run color start lines).Coherent) :
    Broken color start lines := by
  -- From the end: the line that broke a session is the last one that changed it.
  induction lines using List.reverseRecOn with
  | nil => exact absurd coherent stale
  | append_singleton lines line ih =>
    have same := runAppend color start lines line
    have effect := answeredEffect color (run color start lines) line.1 line.2
    rw [← same] at effect
    generalize next : run color start (lines ++ [line]) = session at effect stale
    cases effect with
    | kept => exact brokenAppend (ih stale) next
    | recalled _ made => exact absurd (madeCoherent made) stale
    | changed => exact absurd (emptyCoherent _) stale
    | played _ _ made => exact absurd (madeCoherent made) stale
    | @failed progression cause named given refused =>
      have held : (run color start lines).last ≠ none := by
        intro none
        rw [none] at stale
        exact stale (emptyCoherent _)
      exact ⟨lines, line, [], progression, cause, rfl, named, given, held, refused, next⟩

theorem currentWrong (session : Session) :
    (∃ song, session.current.1 = .ok song ∧ Song.generate session.options ≠ .ok song) ↔
      ¬ session.Coherent ∧ Text.trimmed session.options.progression ≠ "" := by
  unfold current
  by_cases blank : Text.trimmed session.options.progression = ""
  · simp [blank]
  · rw [if_neg blank]
    cases held : session.last with
    | none =>
      have coherent : session.Coherent := by
        intro song found
        simp [held] at found
      constructor
      · rintro ⟨song, found, wrong⟩
        cases made : Song.generate session.options with
        | ok other =>
          simp only [generateSession, made, Except.mapError, Except.ok.injEq] at found
          exact absurd (made.trans (congrArg Except.ok found)) wrong
        | error cause => simp [generateSession, made, Except.mapError] at found
      · rintro ⟨stale, -⟩
        exact absurd coherent stale
    | some song =>
      simp only [Except.ok.injEq, exists_eq_left', Coherent, held, Option.some.injEq, forall_eq',
        ne_eq, blank, not_false_eq_true, and_true]

theorem lastSongOfRun (color : Bool) (options : Options) (lines : List (String × Tree)) :
    let session := run color ⟨options, none⟩ lines
    (¬ session.Coherent ↔ Broken color ⟨options, none⟩ lines) ∧
      (session.Coherent ↔
        session.last = none ∨ ∃ song, Song.generate session.options = .ok song) ∧
      session.Remembered ∧
      ((∃ song, session.current.1 = .ok song ∧ Song.generate session.options ≠ .ok song) ↔
        Broken color ⟨options, none⟩ lines ∧
          Text.trimmed session.options.progression ≠ "") := by
  intro session
  have start := emptyCoherent options
  have broken : ¬ session.Coherent ↔ Broken color ⟨options, none⟩ lines :=
    ⟨incoherentBroken start, brokenIncoherent⟩
  have remembered := runRemembered (coherentRemembered start) color lines
  refine ⟨broken, rememberedCoherent remembered, remembered, ?_⟩
  rw [currentWrong, broken]

def slip : List (String × Tree) := [("gen C", ⟨[], []⟩), ("gen C G:zz", ⟨[], []⟩)]

def slipSlots : List Slot := [⟨"C", true, false, 0, 512, [0, 4, 7], [48, 52, 55], some 36, none⟩]

theorem slipSlotted : Slot.ofOptions { progression := "C" } = .ok slipSlots := by
  have parsed : Progression.parse "C" "1" .common =
      .ok [⟨"C", .chord ⟨some 0, "", none⟩, 512⟩] := okOfSome (by decide +kernel)
  have laid : Slot.ofEntries { progression := "C" } 0 [] [⟨"C", .chord ⟨some 0, "", none⟩, 512⟩] =
      .ok slipSlots := by
    cbv
  exact Slot.laidOptions (by decide) parsed (Slot.entriesLaid laid)

theorem slipMade : ∃ song, Song.generate { progression := "C" } = .ok song := by
  have written : (Song.ofSlots { progression := "C" } slipSlots).isOk := by cbv
  rw [Song.generate, slipSlotted]
  cases made : Song.ofSlots { progression := "C" } slipSlots with
  | error cause =>
    rw [made] at written
    contradiction
  | ok song => exact ⟨song, made⟩

theorem slipRefused : ∃ cause, Song.generate { progression := "C G:zz" } = .error cause := by
  have refused : (Song.generate { progression := "C G:zz" }).isOk = false := by decide +kernel
  cases made : Song.generate { progression := "C G:zz" } with
  | error cause => exact ⟨cause, rfl⟩
  | ok song =>
    rw [made] at refused
    contradiction

theorem slipRun :
    ∃ song, run false {} slip = ⟨{ progression := "C G:zz" }, some song⟩ := by
  obtain ⟨song, made⟩ := slipMade
  obtain ⟨cause, refused⟩ := slipRefused
  have first : Command.registry.find? "gen C" = some (.gen, "C") :=
    Command.sortedFinds (by decide +kernel)
  have second : Command.registry.find? "gen C G:zz" = some (.gen, "C G:zz") :=
    Command.sortedFinds (by decide +kernel)
  refine ⟨song, ?_⟩
  simp only [run, slip, List.foldl_cons, List.foldl_nil]
  rw [answeredGen false _ _ first (by decide), answeredGen false _ _ second (by decide)]
  simp [asked, made, refused, Except.toOption]

theorem songOutlivesProgression : ¬ (run false {} slip).Coherent := by
  obtain ⟨song, last⟩ := slipRun
  obtain ⟨cause, refused⟩ := slipRefused
  intro coherent
  rw [last] at coherent
  have made := coherent song rfl
  rw [refused] at made
  cases made

theorem slipShown :
    ∃ song, (run false {} slip).current.1 = .ok song ∧
      Song.generate (run false {} slip).options ≠ .ok song := by
  obtain ⟨song, last⟩ := slipRun
  obtain ⟨cause, refused⟩ := slipRefused
  obtain ⟨broken, holds, remembered, shown⟩ := lastSongOfRun false {} slip
  refine shown.mpr ⟨broken.mp ?_, ?_⟩
  · rw [holds, last, refused]
    simp
  · rw [last]
    exact (by decide +kernel : Text.trimmed "C G:zz" ≠ "")

end ChordChart.Session
