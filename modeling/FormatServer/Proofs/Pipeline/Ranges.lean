import FormatServer.Proofs.Command.Agreement
import FormatServer.Proofs.Engine.CommandLine
import FormatServer.Proofs.Engine.Installed

/-!
# Ranges that reach a formatter

The range of a request stays in its options up to the formatter that is run, whichever that is.
Which one is run depends on what is installed around the document: the formatter of the first linter
that applies, else the engine. Only the engine passes the range on to its program. So a request for
a range has the whole document formatted as soon as a linter's formatter takes it.
-/

namespace FormatServer

/-- A formatter that is a program: a linter's, or else the engine. -/
structure Formatter where
  linter : Option Linter
  program : Path

namespace Formatter

def moduleName (formatter : Formatter) : String :=
  (formatter.linter.map Linter.moduleName).getD Engine.moduleName

def arguments (formatter : Formatter) (options : Options) : List String :=
  match formatter.linter with
  | none => options.engineArguments
  | some _ => options.linterArguments

def backend (environment : Environment) (formatter : Formatter) : Backend where
  name := formatter.moduleName
  invoke text options := .finished (environment.textFrom formatter.program
    (formatter.arguments options) options.directory text formatter.moduleName)

theorem backend_engine (environment : Environment) (program : Path) :
    (Engine.ofProgram environment program).toBackend =
      Formatter.backend environment ⟨none, program⟩ :=
  rfl

theorem backend_linter (environment : Environment) (linter : Linter) (program : Path) :
    linter.backend environment program = Formatter.backend environment ⟨some linter, program⟩ :=
  rfl

theorem carriesSpan_arguments_iff (formatter : Formatter) {options : Options} {span : Span}
    (hspan : options.span = some span) :
    CommandLine.CarriesSpan span (formatter.arguments options) ↔ formatter.linter = none := by
  obtain ⟨linter, program⟩ := formatter
  cases linter with
  | none => simpa [arguments] using Options.carriesSpan_engineArguments hspan
  | some linter => simpa [arguments] using Options.not_carriesSpan_linterArguments span

end Formatter

namespace Config

variable {environment : Environment} {options resolved : Options}

/-- Finding the configuration file leaves the other options alone. -/
theorem span_of_resolveOptions (hresolved : resolveOptions environment options = .ok resolved) :
    resolved.span = options.span := by
  rw [resolveOptions] at hresolved
  cases hchosen : choose environment options with
  | error reason => simp [hchosen, bind, Except.bind] at hresolved
  | ok configFile =>
    cases configFile with
    | none =>
      simp only [hchosen, bind, Except.bind, Except.ok.injEq] at hresolved
      rw [← hresolved]
    | some file =>
      cases hcheck : check environment file with
      | error reason => simp [hchosen, hcheck, bind, Except.bind] at hresolved
      | ok _ =>
        simp only [hchosen, hcheck, bind, Except.bind, Except.ok.injEq] at hresolved
        rw [← hresolved]

end Config

namespace Pipeline

variable {environment : Environment} {workspace : Workspace} {languages : LanguageTable}
  {request : Request} {run : Run Installed} {engine : Engine} {parser : String} {options : Options}

theorem firstInstalled_standard (linters : List Linter) (installed : Installed) :
    firstInstalled (.standard environment workspace languages) request.file linters installed =
      linters.findSome? fun linter =>
        (installed.linterProgram? environment workspace request.file linter).map
          (linter.backend environment) := by
  induction linters generalizing installed with
  | nil => rfl
  | cons linter rest ih =>
    rw [firstInstalled, ih, List.findSome?_cons]
    simp only [Services.standard, Installed.linterProgram?_state_linter, Installed.answer_linter]
    cases installed.linterProgram? environment workspace request.file linter <;> rfl

/-- The linter whose formatter takes the request: the first that applies and is installed. -/
def linterFor (environment : Environment) (workspace : Workspace) (languages : LanguageTable)
    (request : Request) (parser : String) (installed : Installed) : Option Linter :=
  (applicable (.standard environment workspace languages) request.language parser).find?
    fun linter => (installed.linterProgram? environment workspace request.file linter).isSome

theorem exists_formatter_of_passes
    (hpasses : Passes (.standard environment workspace languages) workspace request run.services
      engine parser options) :
    ∃ formatter : Formatter,
      formatter.linter =
        linterFor environment workspace languages request parser run.services ∧
      chosenBackend (.standard environment workspace languages) request run.services engine
        parser = formatter.backend environment := by
  obtain ⟨program, rfl⟩ := Installed.exists_program_of_engine hpasses.found
  -- Looking for the engine has not changed which formatters with a linter are found.
  have hkept : ∀ linter,
      (engineReply (.standard environment workspace languages) request
        run.services).state.linterProgram? environment workspace request.file linter =
          run.services.linterProgram? environment workspace request.file linter := by
    intro linter
    have hlinters := Installed.linters_state_engine environment workspace request.file true
      run.services
    simp only [Installed.linterProgram?, Installed.linter?, engineReply, Services.standard,
      hlinters]
  rw [chosenBackend, firstInstalled_standard, linterFor]
  simp only [hkept]
  generalize applicable (.standard environment workspace languages) request.language parser =
    linters
  induction linters with
  | nil => exact ⟨⟨none, program⟩, rfl, Formatter.backend_engine environment program⟩
  | cons linter rest ih =>
    rw [List.findSome?_cons, List.find?_cons]
    cases hprogram : run.services.linterProgram? environment workspace request.file linter with
    | none => exact ih
    | some found =>
      exact ⟨⟨some linter, found⟩, rfl, Formatter.backend_linter environment linter found⟩

/-- If a formatter is called for a range, then with the range in its options. Its arguments give the
range exactly if it is the engine, that is if no linter that applies has its formatter installed. -/
theorem called_with_span_iff_no_linter {span : Span} (hspan : request.span = some span)
    (hcalled : (format (.standard environment workspace languages) workspace request run).2.calls ≠
      run.calls) :
    let services := Services.standard environment workspace languages
    let result := format services workspace request run
    ∃ engine parser options,
      Passes services workspace request run.services engine parser options ∧
      ∃ formatter : Formatter,
        formatter.linter =
          linterFor environment workspace languages request parser run.services ∧
        result.2.calls = run.calls ++ [⟨formatter.moduleName, request.text, options⟩] ∧
        result.1 = .ofAttempt request.text
          (.finished (environment.textFrom formatter.program (formatter.arguments options)
            options.directory request.text formatter.moduleName)) ∧
        options.span = some span ∧
        (CommandLine.CarriesSpan span (formatter.arguments options) ↔ formatter.linter = none) := by
  intro services result
  obtain ⟨hcalls, hruns, -⟩ := format_calls_iff_passes services workspace request run
  obtain ⟨engine, parser, options, hpasses⟩ := hcalls.mp hcalled
  obtain ⟨formatter, hlinter, hchosen⟩ := exists_formatter_of_passes hpasses
  obtain ⟨hrecord, houtcome⟩ := hruns engine parser options hpasses
  rw [hchosen] at hrecord houtcome
  have hresolved : options.span = some span := by
    rw [Config.span_of_resolveOptions hpasses.resolved, ← hspan]
    rfl
  exact ⟨engine, parser, options, hpasses, formatter, hlinter, hrecord, houtcome, hresolved,
    formatter.carriesSpan_arguments_iff hresolved⟩

/-! ### A project with and without a linter's formatter -/

def scriptProject : Workspace :=
  .single Settings.defaults (some (Location.path [Segment.ofString "ws"]))

/-- The first character of a script. -/
def firstOfScript : Request :=
  { Request.ofDocument (Command.projectUrl ["a.js"]) "javascript" "a;b" with span := some ⟨0, 1⟩ }

/-- Where no formatter with a linter is installed the range is told. -/
theorem called_with_span_for_engine :
    let environment := Command.echoing [] ""
    let services := Services.standard environment scriptProject (scriptProject.languages .empty)
    let result := format services scriptProject firstOfScript (.start .empty .empty)
    result.2.calls.length = 1 ∧
      ∃ program options, CommandLine.CarriesSpan ⟨0, 1⟩ (Options.engineArguments options) ∧
        result.1 = .ofAttempt "a;b" (.finished (environment.textFrom program
          options.engineArguments options.directory "a;b" "prettier")) := by
  intro environment services result
  have hone : result.2.calls.length = 1 := by decide +kernel
  have hcalled : result.2.calls ≠ (Run.start Ledger.empty Installed.empty).calls := by
    intro hsame
    rw [hsame] at hone
    simp [Run.calls, Run.start] at hone
  obtain ⟨engine, parser, options, hpasses, ⟨linter, program⟩, hlinter, -, houtcome, -, hiff⟩ :=
    called_with_span_iff_no_linter rfl hcalled
  have hmissing : ∀ linter, Installed.empty.linterProgram? environment scriptProject
      firstOfScript.file linter = none := by
    intro linter
    cases linter <;> decide +kernel
  obtain rfl : linter = none := by
    refine hlinter.trans ?_
    rw [linterFor, List.find?_eq_none]
    intro linter _
    simp [Run.start, hmissing linter]
  exact ⟨hone, program, options, hiff.mpr rfl, houtcome⟩

/-- The project with the formatter of the linter beside the engine. -/
def lintingProject : Environment :=
  let found := Command.echoing [] ""
  { found with
    disk := found.disk.place (["ws", "node_modules", ".bin", "prettier-eslint"].map
      Segment.ofString) (.program [] Command.echoingFormatter) }

/-- Where one is installed, the program writes that it is called without the range. -/
theorem called_without_span_for_linter :
    let services := Services.standard lintingProject scriptProject
      (scriptProject.languages .empty)
    let arguments := ["--stdin", "--stdin-filepath=/ws/a.js", "--parser=babel"]
    firstOfScript.span = some ⟨0, 1⟩ ∧
      (format services scriptProject firstOfScript (.start .empty .empty)).1 =
        .formatted ("\n".intercalate (arguments ++ ["/ws"])) ∧
      ¬CommandLine.CarriesSpan ⟨0, 1⟩ arguments := by
  decide +kernel

end Pipeline

end FormatServer
