import FormatServer.Server.Session

/-!
The command line: its arguments, and the command that formats one file. Arguments that are no text
are left out, but the command itself may name any file.
-/

namespace FormatServer.Command

structure FormatCommand where
  file : Path
  language : Option String
  readsInput : Bool
  deriving DecidableEq

inductive Request where
  | serve
  | version
  | help
  | format (command : FormatCommand)
  deriving DecidableEq

/-- Why the arguments are refused. -/
inductive UsageError where
  | unexpected (argument : String)
  | missingFile
  | missingValue (option : String)
  | repeated (option : String)
  deriving DecidableEq

namespace UsageError

def message : UsageError → String
  | unexpected argument => "error: unexpected argument '" ++ argument ++ "' found"
  | missingFile => "error: the following required arguments were not provided: <FILE>"
  | missingValue option => "error: a value is required for '" ++ option ++ "' but none was supplied"
  | repeated option => "error: the argument '" ++ option ++ "' cannot be used multiple times"

end UsageError

/-- The arguments of the command that were read so far. -/
structure Draft where
  file : Option Path := none
  language : Option String := none
  readsInput : Bool := false

namespace Draft

def setFile (draft : Draft) (file : String) : Except UsageError Draft :=
  if draft.file.isSome then .error (.unexpected file)
  else if file = "" then .error .missingFile
  else .ok { draft with file := some (.ofString file) }

def setLanguage (draft : Draft) (language : String) : Except UsageError Draft :=
  if draft.language.isSome then .error (.repeated "--language-id")
  else .ok { draft with language := some language }

def setReadsInput (draft : Draft) : Except UsageError Draft :=
  if draft.readsInput then .error (.repeated "--stdin") else .ok { draft with readsInput := true }

def finish (draft : Draft) : Except UsageError Request :=
  match draft.file with
  | none => .error .missingFile
  | some file => .ok (.format ⟨file, draft.language, draft.readsInput⟩)

end Draft

/-- Whether the argument is an option and no value; a lone hyphen is a value. -/
def isOption (argument : String) : Bool :=
  argument.toList.head? = some '-' && argument ≠ "-"

/-- Whether the argument asks with one hyphen for what the letter stands for. -/
def isShort (letter : Char) (argument : String) : Bool :=
  ['-', letter].isPrefixOf argument.toList

/-- Whether the argument asks for help. -/
def isHelp (argument : String) : Bool :=
  argument = "--help" || isShort 'h' argument

/-- The value that is written in one argument with the name of an option. -/
def attachedValue? (option argument : String) : Option String :=
  if (option ++ "=").toList.isPrefixOf argument.toList then
    some (String.ofList (argument.toList.drop (option.length + 1)))
  else none

/-- Reads what follows a double hyphen, which holds no options. -/
def readFiles : List String → Draft → Except UsageError Request
  | [], draft => draft.finish
  | file :: rest, draft => do
    let draft ← draft.setFile file
    readFiles rest draft

/-- Reads the arguments of the command that formats a file. -/
def readFormat : List String → Draft → Except UsageError Request
  | [], draft => draft.finish
  | "--" :: rest, draft => readFiles rest draft
  | "--stdin" :: rest, draft => do
    let draft ← draft.setReadsInput
    readFormat rest draft
  | ["--language-id"], _ => .error (.missingValue "--language-id")
  | "--language-id" :: value :: rest, draft =>
    if isOption value then .error (.missingValue "--language-id")
    else do
      let draft ← draft.setLanguage value
      readFormat rest draft
  | argument :: rest, draft =>
    match attachedValue? "--language-id" argument with
    | some value => do
      let draft ← draft.setLanguage value
      readFormat rest draft
    | none =>
      if isHelp argument then .ok .help
      else if isOption argument then .error (.unexpected argument)
      else do
        let draft ← draft.setFile argument
        readFormat rest draft

/-- Reads the arguments. Without any the program is a server. -/
def read : List String → Except UsageError Request
  | [] => .ok .serve
  | ["--"] => .ok .serve
  | ["help"] => .ok .help
  | "help" :: topic :: rest =>
    if topic = "format" ∨ topic = "help" then
      match rest with
      | [] => .ok .help
      | argument :: _ => .error (.unexpected argument)
    else .error (.unexpected topic)
  | "format" :: rest => readFormat rest {}
  | argument :: _ =>
    if argument = "--version" ∨ isShort 'V' argument then .ok .version
    else if isHelp argument then .ok .help
    else .error (.unexpected argument)

def helpText : String :=
  "A Language Server Protocol (LSP) server formatting documents with Prettier\n\n" ++
  "Usage: prettier-ls [COMMAND]\n\n" ++
  "Commands:\n" ++
  "  format <FILE> [--language-id <ID>] [--stdin]  Format a file and print the result\n" ++
  "  help                                          Print this text\n\n" ++
  "Without a command the program serves a client on its standard input and output.\n"

/-- What a finished command leaves. -/
structure Exit where
  code : Nat
  output : String
  errors : String
  deriving DecidableEq

namespace Exit

/-- The exit of a command that could not do its work; what it wrote before stays written. -/
def failure (output message : String) : Exit :=
  ⟨1, output, "Error: " ++ message ++ "\n"⟩

end Exit

/-- The path from the root, in which nothing is looked up. Two slashes at the start are kept, and so
is one at the end. -/
def absolutePath (directory : Location) (path : Path) : Path :=
  let names := path.components.filter fun component => component ≠ .root ∧ component ≠ .here
  let start := if path.isAbsolute then
      if startsDouble path.glyphs then ⟨[Path.slash, Path.slash]⟩ else ⟨[Path.slash]⟩
    else directory.path
  let whole := names.foldl (fun path component => path.join ⟨component.segment⟩) start
  if path.glyphs.getLast? = some Path.slash then whole.join ⟨[]⟩ else whole
where
  /-- Whether there are two slashes at the start and no more. -/
  startsDouble : List Glyph → Bool
    | first :: second :: rest =>
      first = Path.slash && second = Path.slash && rest.head? ≠ some Path.slash
    | _ => false

/-- The text to format: the command's input, or the text of the file. -/
def textToFormat (environment : Environment) (command : FormatCommand) (file : Path)
    (input : List UInt8) : Except String String :=
  if command.readsInput then
    match Utf8.text? input with
    | some text => .ok text
    | none => .error ("Failed to read stdin: " ++ IoError.notText.message)
  else
    match environment.readText file with
    | .ok text => .ok text
    | .error error => .error (file.text ++ ": " ++ error.message)

def languageOf (command : FormatCommand) (file : Path) : Except String String :=
  match command.language.or (LanguageTable.idOfPath file) with
  | some language => .ok language
  | none =>
    .error ("Cannot infer a language for " ++ file.text ++ "; pass --language-id")

/-- The workspace of the command: the directory that it runs in. -/
def workspace (environment : Environment) : Workspace :=
  let root := some environment.directory.path
  let loaded := Settings.load environment root none
  .single (loaded.settings.getD .defaults) root

/-- Formats a text that has been read: the outcome, and the status that was reported last. -/
def run (environment : Environment) (url : Url) (language text : String) :
    Outcome × Option Status :=
  let workspace := workspace environment
  let services := Services.standard environment workspace (workspace.languages .empty)
  match Pipeline.format services workspace (FormatServer.Request.ofDocument url language text)
      (Run.start .empty .empty) with
  | (outcome, run) => (outcome, Event.lastStatus run.events)

/-- The text is written whatever comes of it; only a failure is an error. -/
def exitFor (file : Path) (text : String) (outcome : Outcome) (status : Option Status) : Exit :=
  let output := outcome.text?.getD text
  match status with
  | some .error => .failure output ("Failed to format " ++ file.text)
  | some .ignore => ⟨0, output, "Skipped " ++ file.text ++ "\n"⟩
  | _ => ⟨0, output, ""⟩

def formatFile (environment : Environment) (command : FormatCommand) (input : List UInt8) : Exit :=
  let file := absolutePath environment.directory command.file
  match textToFormat environment command file input with
  | .error message => .failure "" message
  | .ok text =>
    match languageOf command file with
    | .error message => .failure "" message
    | .ok language =>
      match Url.ofPath? file with
      | none => .failure "" (file.text ++ " is not an absolute path")
      | some url =>
        match run environment url language text with
        | (outcome, status) => exitFor file text outcome status

end FormatServer.Command
