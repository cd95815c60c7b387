import FormatServer.Proofs.Pipeline.Ranges

/-!
# What the command writes

The command writes the text that it read, or what the formatter that was run wrote in its place. It
takes the formatter's word only if the program ran, ended with zero and wrote a text, and then the
bytes that go out are those that came in. Whether it says that it failed or that it left the file
alone is taken from the status that was reported last, and this is the status of the outcome that
the text is taken from: so the two never disagree.
-/

namespace FormatServer

/-! ### Names of files -/

theorem Url.exists_ofPath? {path : Path} (habsolute : path.isAbsolute = true) :
    ∃ url, ofPath? path = some url := by
  rw [ofPath?, if_pos habsolute]
  exact ⟨_, rfl⟩

theorem Path.isAbsolute_foldl_join (components : List Component) {start : Path}
    (hstart : start.isAbsolute = true) :
    (components.foldl (fun path component => path.join ⟨component.segment⟩) start).isAbsolute =
      true := by
  induction components generalizing start with
  | nil => exact hstart
  | cons component rest ih => exact ih (isAbsolute_join_of_base hstart ⟨component.segment⟩)

theorem Command.isAbsolute_absolutePath (directory : Location) (path : Path) :
    (absolutePath directory path).isAbsolute = true := by
  have hstart : (if path.isAbsolute then
      if absolutePath.startsDouble path.glyphs then ⟨[Path.slash, Path.slash]⟩
      else ⟨[Path.slash]⟩ else directory.path).isAbsolute = true := by
    split_ifs <;> rfl
  rw [absolutePath]
  split
  next => exact Path.isAbsolute_join_of_base (Path.isAbsolute_foldl_join _ hstart) ⟨[]⟩
  next => exact Path.isAbsolute_foldl_join _ hstart

/-! ### What a program prints -/

/-- A program has run, has ended with zero and has written this text. -/
def Prints (ended : Except IoError Completion) (text : String) : Prop :=
  ∃ completion, ended = .ok completion ∧ completion.exitCode = 0 ∧
    Utf8.encode text = completion.output

theorem Environment.textFrom_eq_ok_iff {environment : Environment} {program : Path}
    {arguments : List String} {directory : Option Path} {input module text : String} :
    environment.textFrom program arguments directory input module = .ok text ↔
      Prints (environment.run program arguments directory (Utf8.encode input)) text := by
  rw [textFrom, Prints]
  cases environment.run program arguments directory (Utf8.encode input) with
  | error error => simp
  | ok completion =>
    simp only [Except.ok.injEq, exists_eq_left', ← Utf8.text?_eq_some_iff]
    by_cases hcode : completion.exitCode = 0
    · cases Utf8.text? completion.output <;> simp [hcode]
    · simp [hcode]

/-! ### What can be read -/

/-- What stands in a file, which may be one that can be run. -/
def Entry.content? : Entry → Option (List UInt8)
  | .file content | .program content _ => some content
  | .directory | .refused _ => none

theorem Environment.readText_eq_ok_iff {environment : Environment} {path : Path}
    {location : Location} {entry : Entry} {bytes : List UInt8} {text : String}
    (hfind : environment.find path = .ok (location, entry))
    (hcontent : entry.content? = some bytes) :
    environment.readText path = .ok text ↔ Utf8.encode text = bytes := by
  rw [← Utf8.text?_eq_some_iff, readText, hfind]
  cases entry with
  | directory | refused => simp [Entry.content?] at hcontent
  | file | program =>
    obtain rfl := Option.some.inj hcontent
    dsimp only
    split
    next hfound => simp [hfound]
    next hnone => simp [hnone]

/-! ### How the command ends -/

namespace Command

variable {environment : Environment} {command : FormatCommand} {input : List UInt8}

def skipNote (file : Path) : String :=
  "Skipped " ++ file.text ++ "\n"

def failureNote (file : Path) : String :=
  "Error: " ++ ("Failed to format " ++ file.text) ++ "\n"

theorem exitFor_status (file : Path) (text : String) (outcome : Outcome) :
    exitFor file text outcome (some outcome.status) =
      match outcome.status with
      | .success => ⟨0, outcome.text?.getD text, ""⟩
      | .error => ⟨1, outcome.text?.getD text, failureNote file⟩
      | .ignore => ⟨0, outcome.text?.getD text, skipNote file⟩ := by
  cases outcome <;> rfl

/-- Another text counts as formatted, the same one as unchanged, and both are printed. -/
theorem exitFor_ofAttempt (file : Path) (text : String) (ended : Except Failure String) :
    let outcome := Outcome.ofAttempt text (.finished ended)
    exitFor file text outcome (some outcome.status) =
      match ended with
      | .ok printed => ⟨0, printed, ""⟩
      | .error _ => ⟨1, text, failureNote file⟩ := by
  intro outcome
  cases ended with
  | error failure => rfl
  | ok printed =>
    by_cases hsame : printed = text
    · have houtcome : outcome = .unchanged printed := if_pos hsame
      rw [houtcome]
      rfl
    · have houtcome : outcome = .formatted printed := if_neg hsame
      rw [houtcome]
      rfl

theorem exitFor_of_finished (file : Path) {program : Path} {arguments : List String}
    {directory : Option Path} {text module : String} {outcome : Outcome}
    (houtcome : outcome = .ofAttempt text
      (.finished (environment.textFrom program arguments directory text module))) :
    let ended := environment.run program arguments directory (Utf8.encode text)
    let exit := exitFor file text outcome (some outcome.status)
    (∀ printed, Prints ended printed → exit = ⟨0, printed, ""⟩) ∧
      ((¬∃ printed, Prints ended printed) → exit = ⟨1, text, failureNote file⟩) := by
  intro ended exit
  have hexit := exitFor_ofAttempt file text
    (environment.textFrom program arguments directory text module)
  rw [← houtcome] at hexit
  constructor
  · intro printed hprints
    rw [Environment.textFrom_eq_ok_iff.mpr hprints] at hexit
    exact hexit
  · intro hnothing
    cases hended : environment.textFrom program arguments directory text module with
    | ok printed => exact absurd ⟨printed, Environment.textFrom_eq_ok_iff.mp hended⟩ hnothing
    | error failure =>
      rw [hended] at hexit
      exact hexit

theorem code_exitFor (file : Path) (text : String) (outcome : Outcome) :
    (exitFor file text outcome (some outcome.status)).code =
      if outcome.status = .error then 1 else 0 := by
  rw [exitFor_status]
  cases outcome.status <;> rfl

theorem errors_exitFor_iff (file : Path) (text : String) (outcome : Outcome) :
    (exitFor file text outcome (some outcome.status)).errors = skipNote file ↔
      outcome.status = .ignore := by
  have hsilent : "" ≠ skipNote file := by
    intro hsame
    have hchars := congrArg String.toList hsame
    simp [skipNote] at hchars
  have hfailed : failureNote file ≠ skipNote file := by
    intro hsame
    have hchars := congrArg String.toList hsame
    simp [skipNote, failureNote] at hchars
  rw [exitFor_status]
  cases outcome.status <;> simp [hsilent, hfailed]

/-! ### The text that is read -/

/-- The text is what the bytes encode that it is read from. -/
theorem textToFormat_eq_ok_iff {file : Path} {bytes : List UInt8} {text : String}
    (hbytes : if command.readsInput then bytes = input
      else ∃ location entry, environment.find file = .ok (location, entry) ∧
        entry.content? = some bytes) :
    textToFormat environment command file input = .ok text ↔ Utf8.encode text = bytes := by
  rw [textToFormat]
  cases hinput : command.readsInput with
  | true =>
    rw [hinput, if_pos rfl] at hbytes
    subst hbytes
    rw [← Utf8.text?_eq_some_iff]
    cases Utf8.text? bytes <;> simp
  | false =>
    rw [hinput, if_neg Bool.false_ne_true] at hbytes
    obtain ⟨location, entry, hfind, hcontent⟩ := hbytes
    rw [← Environment.readText_eq_ok_iff hfind hcontent]
    cases environment.readText file <;> simp

theorem failure_of_missing
    (hmissing : ¬∃ text language,
      textToFormat environment command (absolutePath environment.directory command.file) input =
        .ok text ∧
      languageOf command (absolutePath environment.directory command.file) = .ok language) :
    ∃ message, formatFile environment command input = .failure "" message := by
  cases htext : textToFormat environment command
      (absolutePath environment.directory command.file) input with
  | error message => exact ⟨message, by simp only [formatFile, htext]⟩
  | ok text =>
    cases hlanguage : languageOf command (absolutePath environment.directory command.file) with
    | error message => exact ⟨message, by simp only [formatFile, htext, hlanguage]⟩
    | ok language => exact absurd ⟨text, language, htext, hlanguage⟩ hmissing

/-! ### The run of the pipeline -/

/-- The services that the command formats with. -/
def services (environment : Environment) : Services Installed :=
  .standard environment (workspace environment) ((workspace environment).languages .empty)

/-- The run that the command makes. -/
def pipeline (environment : Environment) (request : FormatServer.Request) :
    Outcome × Run Installed :=
  Pipeline.format (services environment) (workspace environment) request (.start .empty .empty)

/-- Either a gate stops the request, or one formatter is run, which is a program. -/
theorem pipeline_cases (environment : Environment) (request : FormatServer.Request) :
    let result := pipeline environment request
    result.2.statuses = [result.1.status] ∧
    ((result.2.calls = [] ∧ result.1.text? = none ∧ result.1.status ≠ .success) ∨
      ∃ engine parser options,
        Pipeline.Passes (services environment) (workspace environment) request .empty engine parser
          options ∧
        ∃ formatter : Formatter,
          Pipeline.chosenBackend (services environment) request .empty engine parser =
            formatter.backend environment ∧
          result.2.calls = [⟨formatter.moduleName, request.text, options⟩] ∧
          result.1 = .ofAttempt request.text
            (.finished (environment.textFrom formatter.program (formatter.arguments options)
              options.directory request.text formatter.moduleName))) := by
  intro result
  rcases Pipeline.format_stops_or_executes (services environment) (workspace environment) request
    (.start .empty .empty) with ⟨gate, hstops⟩ | ⟨engine, parser, options, hpasses, hexecutes⟩
  · obtain ⟨houtcome, hstatuses, hcalls⟩ := hstops.record
    have houtcome : result.1 = gate.outcome := houtcome
    refine ⟨?_, .inl ⟨hcalls, ?_⟩⟩
    · rw [houtcome]
      exact hstatuses
    · rw [houtcome]
      cases gate <;> simp [Pipeline.Gate.outcome, Outcome.text?, Outcome.status]
  · obtain ⟨formatter, -, hchosen⟩ := Pipeline.exists_formatter_of_passes hpasses
    obtain ⟨houtcome, hstatuses, hcalls⟩ := hexecutes.record
    rw [services, hchosen] at houtcome hcalls
    exact ⟨hstatuses, .inr ⟨engine, parser, options, hpasses, formatter, hchosen, hcalls,
      houtcome⟩⟩

/-- The command has a URL for every file, and the status is that of the outcome. -/
theorem formatFile_eq_exitFor {text language : String}
    (htext : textToFormat environment command (absolutePath environment.directory command.file)
      input = .ok text)
    (hlanguage : languageOf command (absolutePath environment.directory command.file) =
      .ok language) :
    ∃ url, Url.ofPath? (absolutePath environment.directory command.file) = some url ∧
      let outcome := (pipeline environment (.ofDocument url language text)).1
      formatFile environment command input =
        exitFor (absolutePath environment.directory command.file) text outcome
          (some outcome.status) := by
  obtain ⟨url, hurl⟩ :=
    Url.exists_ofPath? (isAbsolute_absolutePath environment.directory command.file)
  have hstatus : (run environment url language text).2 =
      some (pipeline environment (.ofDocument url language text)).1.status :=
    congrArg List.getLast? (pipeline_cases environment (.ofDocument url language text)).1
  refine ⟨url, hurl, ?_⟩
  simp only [formatFile, htext, hlanguage, hurl, hstatus]
  rfl

/-- Once a text is read and its language is known, what goes out is what the chosen formatter printed
if one was run and printed a text, else the text that was read. The code is one exactly for a
failure, and the note that the file is skipped is written exactly for a file left alone. Without a
text or a language nothing goes out, and the code is one. -/
theorem formatFile_output_printed_or_read (environment : Environment) (command : FormatCommand)
    (input : List UInt8) :
    let file := absolutePath environment.directory command.file
    let exit := formatFile environment command input
    (∀ bytes text,
      (if command.readsInput then bytes = input
        else ∃ location entry, environment.find file = .ok (location, entry) ∧
          entry.content? = some bytes) →
      (textToFormat environment command file input = .ok text ↔ Utf8.encode text = bytes)) ∧
    (∀ text language,
      textToFormat environment command file input = .ok text →
      languageOf command file = .ok language →
        ∃ url, Url.ofPath? file = some url ∧
          let request := FormatServer.Request.ofDocument url language text
          let result := pipeline environment request
          result.2.statuses = [result.1.status] ∧
          exit.code = (if result.1.status = .error then 1 else 0) ∧
          (exit.errors = skipNote file ↔ result.1.status = .ignore) ∧
          ((result.2.calls = [] ∧ result.1.status ≠ .success ∧ exit.output = text) ∨
            ∃ engine parser options,
              Pipeline.Passes (services environment) (workspace environment) request .empty engine
                parser options ∧
              ∃ formatter : Formatter,
                Pipeline.chosenBackend (services environment) request .empty engine parser =
                  formatter.backend environment ∧
                result.2.calls = [⟨formatter.moduleName, text, options⟩] ∧
                let ended := environment.run formatter.program (formatter.arguments options)
                  options.directory (Utf8.encode text)
                (∀ printed, Prints ended printed → exit = ⟨0, printed, ""⟩) ∧
                ((¬∃ printed, Prints ended printed) → exit = ⟨1, text, failureNote file⟩))) ∧
    ((¬∃ text language, textToFormat environment command file input = .ok text ∧
        languageOf command file = .ok language) →
      exit.output = "" ∧ exit.code = 1) := by
  intro file exit
  refine ⟨fun bytes text => textToFormat_eq_ok_iff, ?_, ?_⟩
  · intro text language htext hlanguage
    obtain ⟨url, hurl, hrun⟩ := formatFile_eq_exitFor htext hlanguage
    refine ⟨url, hurl, ?_⟩
    intro request result
    have hexit : exit = exitFor file text result.1 (some result.1.status) := hrun
    obtain ⟨hstatuses, hcases⟩ := pipeline_cases environment request
    rw [hexit]
    refine ⟨hstatuses, code_exitFor file text result.1, errors_exitFor_iff file text result.1, ?_⟩
    rcases hcases with ⟨hcalls, hnone, hstatus⟩ |
      ⟨engine, parser, options, hpasses, formatter, hchosen, hcalls, houtcome⟩
    · refine .inl ⟨hcalls, hstatus, ?_⟩
      rw [output_exitFor, hnone, Option.getD_none]
    · exact .inr ⟨engine, parser, options, hpasses, formatter, hchosen, hcalls,
        exitFor_of_finished file houtcome⟩
  · intro hmissing
    obtain ⟨message, hexit⟩ := failure_of_missing hmissing
    rw [show exit = _ from hexit]
    exact ⟨rfl, rfl⟩

end Command

end FormatServer
