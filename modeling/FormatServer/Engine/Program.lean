import FormatServer.Disk.Environment
import FormatServer.Engine.Backend
import FormatServer.Engine.Version

/-!
Formatters that are programs. They read the document from their input and write it to their output.
-/

namespace FormatServer

namespace Environment

/-- The text that a program writes. A program that ends with another code than zero has failed for
the reason it writes. -/
def textFrom (environment : Environment) (program : Path) (arguments : List String)
    (directory : Option Path) (input : String) (module : String) : Except Failure String :=
  match environment.run program arguments directory (Utf8.encode input) with
  | .error error => .error (.io error)
  | .ok completion =>
    if completion.exitCode ≠ 0 then
      .error (.backend module (Text.trim (Utf8.lossy completion.errors)))
    else
      match Utf8.text? completion.output with
      | some text => .ok text
      | none => .error (.invalidOutput module "invalid utf-8 sequence")

end Environment

namespace Options

/-- The directory that a formatter runs in. -/
def directory (options : Options) : Option Path :=
  options.file.bind Path.parent?

end Options

namespace Engine

def moduleName : String := "prettier"

def fileInfoArguments (file : Path) (ignorePath : Option Path) : List String :=
  ["--file-info", file.text] ++ ignorePath.toList.flatMap fun path => ["--ignore-path", path.text]

def readFileInfo (text : String) : Except Failure FileInfo :=
  match FileInfo.read? text with
  | some info => .ok info
  | none => .error (.invalidOutput moduleName "not a file info object")

/-- The engine at a path. -/
def ofProgram (environment : Environment) (program : Path) : Engine where
  name := moduleName
  invoke text options := .finished
    (environment.textFrom program options.engineArguments options.directory text moduleName)
  fileInfo file ignorePath :=
    match environment.textFrom program (fileInfoArguments file ignorePath) file.parent? ""
        moduleName with
    | .ok text => readFileInfo text
    | .error failure => .error failure

/-- The version of the engine at a path, or why it does not say. -/
def version (environment : Environment) (program : Path) : Except Failure (Option Version) :=
  (environment.textFrom program ["--version"] none "" moduleName).map Version.parse?

end Engine

namespace Linter

/-- The formatter with the linter at a path. -/
def backend (linter : Linter) (environment : Environment) (program : Path) : Backend where
  name := linter.moduleName
  invoke text options := .finished
    (environment.textFrom program options.linterArguments options.directory text linter.moduleName)

end Linter

end FormatServer
