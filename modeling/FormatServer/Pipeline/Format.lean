import FormatServer.Pipeline.Execution
import FormatServer.Workspace

/-!
Formatting a document. Each gate can end the run and leaves the document as it is; past all of them
one formatter is run, once.
-/

namespace FormatServer.Pipeline

variable {σ : Type}

def legacyMessage (keys : List String) : String :=
  "Settings " ++ ", ".intercalate keys ++ " are no longer used. Install prettier-eslint, " ++
    "prettier-tslint or prettier-stylelint locally instead."

/-- Warns once for a document if settings are in use that have no effect. -/
def remindOfLegacy (settings : Settings) (url : Url) (run : Run σ) : Run σ :=
  if settings.legacyKeys = [] then run
  else run.remark (.warnOnce ("legacy:" ++ url.text) (legacyMessage settings.legacyKeys))

def skip (run : Run σ) : Outcome × Run σ :=
  run.conclude .ignored

def fail (url : Url) (failure : Failure) (run : Run σ) : Outcome × Run σ :=
  (run.log .error .pipeline (url.text ++ ": " ++ failure.message)).conclude (.failed none)

/-- What the engine says about the file. A document without a file is not ignored, nor is one
about which the engine says nothing. -/
def classify (services : Services σ) (engine : Engine) (file : Option Path) (run : Run σ) :
    FileInfo × Run σ :=
  match file with
  | none => ({}, run)
  | some file =>
    let ignorePath := services.ignorePath file
    let run := run.add (.asked (.fileInfo file ignorePath))
    match engine.fileInfo file ignorePath with
    | .ok info => (info, run)
    | .error failure =>
      ({}, run.log .warning .pipeline
        ("Failed to get file info for " ++ file.text ++ ": " ++ failure.message))

/-- Whether a document is to be left alone because no configuration applies to it. -/
def lacksConfig (services : Services σ) (settings : Settings) (file : Option Path) (run : Run σ) :
    Bool × Run σ :=
  match settings.requireConfig, file with
  | true, some file => (!services.hasConfig file, run.add (.asked (.hasConfig file)))
  | _, _ => (false, run)

def linterApplies (services : Services σ) (language parser : String) : Linter → Bool
  | .tslint => parser = "typescript"
  | .eslint => services.eslintTakes language
  | .stylelint => services.stylelintTakes parser

/-- The first linter's formatter of those listed that applies and is installed. -/
def findLinter (services : Services σ) (file : Option Path) (language parser : String) :
    List Linter → Run σ → Option Backend × Run σ
  | [], run => (none, run)
  | linter :: rest, run =>
    if linterApplies services language parser linter then
      match run.consult (.linter file linter) (services.linter file linter) with
      | (some backend, run) => (some backend, run)
      | (none, run) => findLinter services file language parser rest run
    else findLinter services file language parser rest run

/-- The options to ask the configuration for. -/
def optionsFor (workspace : Workspace) (request : Request) (parser : String) : Options where
  parser := parser
  file := request.file
  configFile := workspace.settings.configPath.map (workspace.resolve request.file)
  useEditorConfig := workspace.settings.useEditorConfig
  fallback := workspace.settings.style
  span := request.span

/-- Formats a document for which an engine and a parser are known. -/
def formatWith (services : Services σ) (workspace : Workspace) (request : Request)
    (engine : Engine) (parser : String) (run : Run σ) : Outcome × Run σ :=
  match lacksConfig services workspace.settings request.file run with
  | (true, run) => skip run
  | (false, run) =>
    let wanted := optionsFor workspace request parser
    let run := run.add (.asked (.resolveOptions wanted))
    match services.resolveOptions wanted with
    | .error reason => fail request.url (.options reason) run
    | .ok options =>
      let (linter, run) :=
        findLinter services request.file request.language parser Linter.ranked run
      run.execute (linter.getD engine.toBackend) request.text options

/-- Formats a document for which an engine is known. -/
def formatBy (services : Services σ) (workspace : Workspace) (request : Request)
    (engine : Engine) (run : Run σ) : Outcome × Run σ :=
  match classify services engine request.file run with
  | (info, run) =>
    if info.ignored then skip run
    else
      match info.inferredParser.or (services.parsers request.file request.language).head? with
      | none => fail request.url (.parserNotFound request.language) run
      | some parser => formatWith services workspace request engine parser run

/-- Formats a document. A disabled language is skipped whether or not there is an engine. -/
def format (services : Services σ) (workspace : Workspace) (request : Request) (run : Run σ) :
    Outcome × Run σ :=
  let run := remindOfLegacy workspace.settings request.url run
  match run.consult (.engine request.file true) (services.engine request.file true) with
  | (found, run) =>
    if workspace.settings.disables request.language then skip run
    else
      match found with
      | .error failure => fail request.url failure run
      | .ok engine => formatBy services workspace request engine run

end FormatServer.Pipeline
