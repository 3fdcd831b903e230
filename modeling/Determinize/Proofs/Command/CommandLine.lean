import Determinize.Command.Run

/-!
Command lines for conversions.

`limitArguments` and `convertArguments` write down a level of the log and the choices of a
conversion as arguments. `ofArguments_convertArguments` says that they are read back, so every
conversion can be asked for with every level that a log can be kept down to. Values are attached to
their options, since a value on its own must not look like an option.
-/

namespace Determinize.Command

/-! ### Long options with a value -/

/-- A long option and its value in one argument. -/
def longOption (name value : String) : String := "--" ++ name ++ "=" ++ value

variable {forms : List OptionForm} {name value : String} {g : Given} {rest : List String}

/-- The first equals sign ends the name of the option, and there is none before it. -/
theorem shape_longOption (plain : ¬ '=' ∈ name.toList) :
    shape (longOption name value) = .long name (some value) := by
  have inName : ∀ c ∈ name.toList, decide (c ≠ '=') = true := by
    intro c hc
    exact decide_eq_true fun same => plain (same ▸ hc)
  have text : (longOption name value).toList =
      '-' :: '-' :: (name.toList ++ '=' :: value.toList) := by
    simp [longOption]
  have split : shape (longOption name value) =
      splitLong (name.toList ++ '=' :: value.toList) := by
    rw [shape, text]
    cases name.toList <;> rfl
  rw [split, splitLong, List.takeWhile_append_of_pos inName, List.dropWhile_append_of_pos inName]
  simp

/-- A long option that needs no further argument stands in front of what is scanned behind it. -/
theorem scan_long {argument : String} {value : Option String}
    (long : shape argument = .long name value) (known : readLong forms name value = .ok ⟨[g], none⟩)
    (noHelp : g.key ≠ .help) :
    scan forms (argument :: rest) = prepend [g] (scan forms rest) := by
  have read : readArgument forms argument = .ok (some ⟨[g], none⟩) := by
    simp only [readArgument, long, known]
    rfl
  rw [scan.eq_def]
  simp [read, noHelp]

/-- Scanning stops at a word. -/
theorem scan_word {argument : String} (word : shape argument = .word) :
    scan forms (argument :: rest) = .ok ([], argument :: rest) := by
  have read : readArgument forms argument = .ok none := by simp only [readArgument, word]
  have visible : argument ≠ "--" := by
    rintro rfl
    cases word
  rw [scan.eq_def]
  simp [read, visible]

/-- The settings are those that the scanned options make. -/
theorem ofArguments_of_scan {arguments words : List String} {given : List Given}
    {settings : Settings} (scanned : scan forms arguments = .ok (given, words))
    (set : given.foldlM Settings.set {} = .ok settings) :
    Settings.ofArguments forms arguments = .ok (settings, words) := by
  simp only [Settings.ofArguments, scanned, bind, Except.bind, set]
  rfl

/-! ### Conversions -/

/-- Arguments that keep the log down to a level. Nothing needs to be said to see the warnings. -/
def limitArguments : Level → List String
  | .warn => []
  | limit => [longOption "verbosity" (Notice.levelName limit)]

/-- The options of a conversion. -/
def convertOptions (epsilon : Char) (start : String) (table : Bool) : List String :=
  longOption "epsilon" epsilon.toString :: longOption "start" start ::
    if table then ["--table"] else []

/-- Arguments that ask for a conversion whose log is kept down to a level. -/
def convertArguments (limit : Level) (epsilon : Char) (start : String) (table : Bool) :
    List String :=
  limitArguments limit ++ "convert" :: convertOptions epsilon start table

variable {limit : Level} {epsilon : Char} {start : String} {table : Bool}

theorem scan_convertOptions :
    scan convertForms (convertOptions epsilon start table) =
      .ok (⟨.epsilon, some epsilon.toString⟩ :: ⟨.start, some start⟩ ::
        if table then [⟨.table, none⟩] else [], []) := by
  have last : scan convertForms (if table then ["--table"] else []) =
      .ok (if table then [⟨.table, none⟩] else [], []) := by
    cases table with
    | false => rfl
    | true =>
      have flag : shape "--table" = .long "table" none := by decide +kernel
      exact scan_long (g := ⟨.table, none⟩) flag rfl nofun
  rw [convertOptions,
    scan_long (g := ⟨.epsilon, some epsilon.toString⟩) (shape_longOption (by decide)) rfl nofun,
    scan_long (g := ⟨.start, some start⟩) (shape_longOption (by decide)) rfl nofun, last]
  rfl

theorem commandSettings_convertOptions :
    commandSettings convertForms (convertOptions epsilon start table) =
      .ok { table := table, epsilon := some epsilon, start := some start } := by
  have one : singleChar? epsilon.toString = some epsilon := by simp [singleChar?]
  have first : Settings.set {} ⟨.epsilon, some epsilon.toString⟩ =
      .ok { epsilon := some epsilon } := by
    simp only [Settings.set, Option.getD_some, one]
    rfl
  have set : (⟨.epsilon, some epsilon.toString⟩ :: ⟨.start, some start⟩ ::
      if table then [⟨.table, none⟩] else []).foldlM Settings.set {} =
      .ok { table := table, epsilon := some epsilon, start := some start } := by
    rw [List.foldlM_cons, first]
    cases table <;> rfl
  rw [commandSettings, ofArguments_of_scan scan_convertOptions set]
  rfl

theorem convertRequest_convertOptions (limit : Level) :
    convertRequest limit (convertOptions epsilon start table) =
      .ok (.perform limit (.convert epsilon start table)) := by
  rw [convertRequest, commandSettings_convertOptions]
  rfl

/-- The level is read, and what follows it is left to the command. -/
theorem ofArguments_limitArguments (h : limit ≠ .error) (rest : List String) :
    ∃ settings, Settings.ofArguments programForms (limitArguments limit ++ "convert" :: rest) =
        .ok (settings, "convert" :: rest) ∧
      settings.help = false ∧ settings.limit.getD .warn = limit := by
  have word : scan programForms ("convert" :: rest) = .ok ([], "convert" :: rest) :=
    scan_word (by decide +kernel)
  have spoken : ∀ name level, levelOfName? name = some level →
      ∃ settings, Settings.ofArguments programForms
          (longOption "verbosity" name :: "convert" :: rest) = .ok (settings, "convert" :: rest) ∧
        settings.help = false ∧ settings.limit.getD .warn = level := by
    intro name level named
    have scanned : scan programForms (longOption "verbosity" name :: "convert" :: rest) =
        .ok ([⟨.verbosity, some name⟩], "convert" :: rest) := by
      rw [scan_long (g := ⟨.verbosity, some name⟩) (shape_longOption (by decide)) rfl nofun, word]
      rfl
    have set : [⟨.verbosity, some name⟩].foldlM Settings.set {} = .ok { limit := some level } := by
      simp [Settings.set, named]
    exact ⟨_, ofArguments_of_scan scanned set, rfl, rfl⟩
  cases limit with
  | error => exact absurd rfl h
  | warn => exact ⟨{}, ofArguments_of_scan word rfl, rfl, rfl⟩
  | info => exact spoken "info" .info rfl
  | debug => exact spoken "debug" .debug rfl
  | trace => exact spoken "trace" .trace rfl

/-- Every conversion can be asked for, with every level but the one that shows errors only. -/
theorem ofArguments_convertArguments (h : limit ≠ .error) :
    Request.ofArguments (convertArguments limit epsilon start table) =
      .ok (.perform limit (.convert epsilon start table)) := by
  obtain ⟨settings, read, noHelp, same⟩ :=
    ofArguments_limitArguments h (convertOptions epsilon start table)
  simp only [Request.ofArguments, convertArguments, read, bind, Except.bind, noHelp, same]
  exact convertRequest_convertOptions limit

end Determinize.Command
