import FormatServer.Disk.Environment
import FormatServer.Engine.Options
import FormatServer.Json.Value
import FormatServer.Toml.Document

/-!
The configuration files of projects: which of them applies to a document, and whether it can be
read.
-/

namespace FormatServer.Config

/-- The names of configuration files, in the order in which a directory is searched. -/
def searchOrder : List String :=
  ["package.json", ".prettierrc", ".prettierrc.json", ".prettierrc.yaml", ".prettierrc.yml",
    ".prettierrc.json5", ".prettierrc.js", ".prettierrc.cjs", "prettier.config.js",
    "prettier.config.cjs", ".prettierrc.toml"]

/-- The names of the files whose change makes everything found so far doubtful. -/
def watchedNames : List String :=
  [".prettierrc", ".prettierrc.json", ".prettierrc.yaml", ".prettierrc.yml", ".prettierrc.js",
    "package.json", "prettier.config.js", ".editorconfig"]

def isWatched (path : Path) : Bool :=
  path.baseName?.any watchedNames.contains

/-- Whether a package file has a configuration in it. -/
def hasSection (environment : Environment) (package : Path) : Bool :=
  match environment.readText package with
  | .error _ => false
  | .ok text =>
    match Json.read text with
    | .error _ => false
    | .ok data => (data.field? "prettier").isSome

/-- Whether the file of that name in a directory is a configuration file. -/
def isEligible (environment : Environment) (directory : Path) (name : String) : Bool :=
  let file := directory.join name
  environment.isFile file && (name ≠ "package.json" || hasSection environment file)

/-- The configuration file of one directory. -/
def inDirectory? (environment : Environment) (directory : Path) : Option Path :=
  (searchOrder.find? (isEligible environment directory)).map fun name => directory.join name

/-- The configuration file of the nearest directory at or above `start` that has one. -/
def find? (environment : Environment) (start : Path) : Option Path :=
  start.ancestors.findSome? (inDirectory? environment)

def applies (environment : Environment) (file : Path) : Bool :=
  (file.parent?.bind (find? environment)).isSome

/-- What a configuration file is written in, as far as it is checked. -/
inductive FileFormat where
  | json
  | toml
  | unchecked

/-- The format of a file of that name; one without a format in its name is JSON if it looks so. -/
def formatOf (name text : String) : FileFormat :=
  if name = ".prettierrc.json" ∨ name = "package.json" then .json
  else if name = ".prettierrc.toml" then .toml
  else if name = ".prettierrc" ∧ (Text.trimStart text.toList).head? = some '{' then .json
  else .unchecked

def checkedNames : List String :=
  [".prettierrc.json", "package.json", ".prettierrc", ".prettierrc.toml"]

/-- Whether the text of a configuration file can be read. -/
def checkText (file : Path) (name text : String) : Except String Unit :=
  match formatOf name text with
  | .unchecked => .ok ()
  | .json =>
    match Json.read text with
    | .ok _ => .ok ()
    | .error error => .error ("Invalid JSON in " ++ file.text ++ ": " ++ error.message)
  | .toml =>
    match Toml.readTable text with
    | .ok _ => .ok ()
    | .error error => .error ("Invalid TOML in " ++ file.text ++ ": " ++ error.message)

/-- Whether a configuration file can be read, which is found out for some names only. -/
def check (environment : Environment) (file : Path) : Except String Unit :=
  let name := file.baseName?.getD ""
  if checkedNames.contains name then
    match environment.readText file with
    | .error error => .error ("Failed to read " ++ file.text ++ ": " ++ error.message)
    | .ok text => checkText file name text
  else .ok ()

/-- The configuration file that is configured or else found for the options. -/
def choose (environment : Environment) (options : Options) : Except String (Option Path) :=
  match options.configFile with
  | some file =>
    if environment.isFile file then .ok (some file)
    else .error ("Config file not found: " ++ file.text)
  | none => .ok ((options.file.bind Path.parent?).bind (find? environment))

/-- The options with the configuration file that applies, which must be readable. -/
def resolveOptions (environment : Environment) (options : Options) : Except String Options := do
  let configFile ← choose environment options
  match configFile with
  | none => .ok { options with configFile }
  | some file => do
    check environment file
    .ok { options with configFile }

end FormatServer.Config
