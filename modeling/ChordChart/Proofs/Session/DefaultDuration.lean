import ChordChart.Proofs.Options
import ChordChart.Proofs.Session.Effect
import ChordChart.Proofs.Song.Encoded

/-! The default duration beside the meter in force. It is read in the meter when it is set, and not
again when the meter is: a later meter may have no whole number of ticks for it, and then no
progression generates until one of the two is set again. -/
namespace ChordChart.Session

def Measures (session : Session) : Prop :=
  ∃ ticks, Duration.parse session.options.chordDuration session.options.meter = .ok ticks

theorem unmeasured {session : Session} :
    ¬ session.Measures ↔
      ∃ cause, Duration.parse session.options.chordDuration session.options.meter =
        .error cause := by
  unfold Measures
  cases Duration.parse session.options.chordDuration session.options.meter <;> simp

theorem effectUsable {session next : Session} {line : String} (usable : session.options.Usable)
    (effect : Effect session line next) : next.options.Usable := by
  refine effectKeeps (fun progression usable => ?_) (fun accepted => ?_) usable effect
  · exact { usable with }
  · exact Setting.acceptsUsable (Setting.changeAccepts accepted)

theorem commandedUsable {session : Session} (usable : session.options.Usable) (color : Bool)
    (lines : List (String × Tree)) : (commanded color session lines).options.Usable := by
  induction lines generalizing session with
  | nil => exact usable
  | cons line rest ih => exact ih (effectUsable usable (executedEffect color session line.1 line.2))

theorem effectMeasures {session next : Session} {line : String}
    (effect : Effect session line next) :
    (next.options.chordDuration = session.options.chordDuration ∧
        next.options.meter = session.options.meter) ∨
      next.Measures ∨
      ∃ argument meter, Command.registry.find? line = some (.set .meter, argument) ∧
        Meter.parse? argument = some meter ∧
        next.options = { session.options with meter := meter } := by
  cases effect with
  | kept | recalled | played | failed => exact .inl ⟨rfl, rfl⟩
  | changed called accepted =>
    cases Setting.changeAccepts accepted with
    | duration read => exact .inr (.inl ⟨_, read⟩)
    | meter read => exact .inr (.inr ⟨_, _, called, read, rfl⟩)
    | tempo | octave | voicing | output | velocity | transpose | channel | derived | named =>
      exact .inl ⟨rfl, rfl⟩

def Strayed (color : Bool) (start : Session) (lines : List (String × Tree)) : Prop :=
  ∃ before line after argument meter cause, lines = before ++ line :: after ∧
    Command.registry.find? line.1 = some (.set .meter, argument) ∧
    Meter.parse? argument = some meter ∧
    Duration.parse (commanded color start before).options.chordDuration meter = .error cause ∧
    (commanded color start lines).options.chordDuration =
      (commanded color start before).options.chordDuration ∧
    (commanded color start lines).options.meter = meter

theorem strayedUnmeasured {color : Bool} {start : Session} {lines : List (String × Tree)}
    (strayed : Strayed color start lines) : ¬ (commanded color start lines).Measures := by
  obtain ⟨before, line, after, argument, meter, cause, -, -, -, refused, duration, last⟩ := strayed
  exact unmeasured.mpr ⟨cause, by rw [duration, last, refused]⟩

theorem strayedAppend {color : Bool} {start : Session} {lines : List (String × Tree)}
    {line : String × Tree} (strayed : Strayed color start lines)
    (duration : (commanded color start (lines ++ [line])).options.chordDuration =
      (commanded color start lines).options.chordDuration)
    (meter : (commanded color start (lines ++ [line])).options.meter =
      (commanded color start lines).options.meter) :
    Strayed color start (lines ++ [line]) := by
  obtain ⟨before, stray, after, argument, named, cause, rfl, called, read, refused, same, last⟩ :=
    strayed
  exact ⟨before, stray, after ++ [line], argument, named, cause, by simp, called, read, refused,
    duration.trans same, meter.trans last⟩

theorem commandedAppend (color : Bool) (session : Session) (lines : List (String × Tree))
    (line : String × Tree) :
    commanded color session (lines ++ [line]) =
      executed color (commanded color session lines) line.1 line.2 := by
  simp [commanded]

theorem unmeasuredStrayed {color : Bool} {start : Session} {lines : List (String × Tree)}
    (measures : start.Measures) (stray : ¬ (commanded color start lines).Measures) :
    Strayed color start lines := by
  -- From the end: the meter that strays is the last of the two to be set.
  induction lines using List.reverseRecOn with
  | nil => exact absurd measures stray
  | append_singleton lines line ih =>
    have effect := executedEffect color (commanded color start lines) line.1 line.2
    rw [← commandedAppend] at effect
    rcases effectMeasures effect with ⟨duration, meter⟩ | fresh | ⟨argument, meter, called, read, set⟩
    · refine strayedAppend (ih fun before => stray ?_) duration meter
      rwa [Measures, duration, meter]
    · exact absurd fresh stray
    · obtain ⟨cause, refused⟩ := unmeasured.mp stray
      rw [set] at refused
      exact ⟨lines, line, [], argument, meter, cause, rfl, called, read, refused, by rw [set],
        by rw [set]⟩

theorem unmeasuredRefuses {session : Session} (usable : session.options.Usable)
    (progression : String) :
    ¬ session.Measures ↔
      ∃ cause, Song.generate (session.asked progression) =
        .error (.parse (.invalidDefault session.options.chordDuration cause)) := by
  have valid : (session.asked progression).problem? = none :=
    Options.usableIff.mpr { usable with }
  rw [unmeasured]
  refine exists_congr fun cause => ?_
  rw [Song.refusedIff (.parse _) nofun, Slot.unreadIff, Progression.parseDefault]
  exact ⟨fun failed => ⟨valid, rfl, failed⟩, fun refused => refused.2.2⟩

theorem defaultOfRun (color : Bool) (lines : List (String × Tree)) :
    let session := commanded color {} lines
    (¬ session.Measures ↔ Strayed color {} lines) ∧
      session.options.problem? = none ∧
      ∀ progression, ¬ session.Measures ↔
        ∃ cause, Song.generate (session.asked progression) =
          .error (.parse (.invalidDefault session.options.chordDuration cause)) := by
  intro session
  have measures : Measures {} := ⟨512, okOfSome (by decide +kernel)⟩
  have usable : session.options.Usable :=
    commandedUsable (Options.usableIff.mp (by decide)) color lines
  exact ⟨⟨unmeasuredStrayed measures, strayedUnmeasured⟩, Options.usableIff.mpr usable,
    unmeasuredRefuses usable⟩

def fifth : List (String × Tree) :=
  [("timesig 5/4", ⟨[], []⟩), ("duration 0.2", ⟨[], []⟩), ("timesig 4/4", ⟨[], []⟩)]

def fiveQuarters : Options := { meter := ⟨5, 4⟩ }

theorem fifthRun : commanded false {} fifth = ⟨{ chordDuration := "0.2" }, none⟩ := by
  have five : Command.registry.find? "timesig 5/4" = some (.set .meter, "5/4") :=
    Command.sortedFinds (by decide +kernel)
  have share : Command.registry.find? "duration 0.2" = some (.set .duration, "0.2") :=
    Command.sortedFinds (by decide +kernel)
  have four : Command.registry.find? "timesig 4/4" = some (.set .meter, "4/4") :=
    Command.sortedFinds (by decide +kernel)
  have widened : Setting.change .meter "5/4" {} =
      .changed fiveQuarters "Time signature set to 5/4" := by
    decide +kernel
  have shared : Setting.change .duration "0.2" fiveQuarters =
      .changed { fiveQuarters with chordDuration := "0.2" }
        "Default chord duration set to 0.2 (128 ticks)" := by
    decide +kernel
  have narrowed : Setting.change .meter "4/4" { fiveQuarters with chordDuration := "0.2" } =
      .changed { chordDuration := "0.2" } "Time signature set to 4/4" := by
    decide +kernel
  have first : executed false {} "timesig 5/4" ⟨[], []⟩ = ⟨fiveQuarters, none⟩ :=
    executedSet false _ five (by decide) widened
  have second : executed false ⟨fiveQuarters, none⟩ "duration 0.2" ⟨[], []⟩ =
      ⟨{ fiveQuarters with chordDuration := "0.2" }, none⟩ :=
    executedSet false _ share (by decide) shared
  have third : executed false ⟨{ fiveQuarters with chordDuration := "0.2" }, none⟩ "timesig 4/4"
      ⟨[], []⟩ = ⟨{ chordDuration := "0.2" }, none⟩ :=
    executedSet false _ four (by decide) narrowed
  simp only [commanded, fifth, List.foldl_cons, List.foldl_nil]
  rw [first, second, third]

theorem defaultLeftBehind :
    ¬ (commanded false {} fifth).Measures ∧
      ∀ progression, ∃ cause,
        Song.generate ((commanded false {} fifth).asked progression) =
          .error (.parse (.invalidDefault "0.2" cause)) := by
  have refused : Duration.parse "0.2" .common = .error (.fractionalTicks "0.2") := by
    decide +kernel
  have usable : Options.Usable { chordDuration := "0.2" } :=
    Options.usableIff.mp (by decide +kernel)
  have stray : ¬ Measures ⟨{ chordDuration := "0.2" }, none⟩ := unmeasured.mpr ⟨_, refused⟩
  rw [fifthRun]
  exact ⟨stray, fun progression => (unmeasuredRefuses usable progression).mp stray⟩

end ChordChart.Session
