import FormatServer.Disk.Basic
import FormatServer.Text.Blank
import FormatServer.Text.Scalar

/-!
What the program finds around it: the disk, the directory it was started in and the variables it
reads. The variables hold paths, which need not be text.
-/

namespace FormatServer

structure Environment where
  disk : Disk
  directory : Location
  home : Option Path
  /-- Directories with colons between them. -/
  searchPath : Option (List Glyph)
  configHome : Option Path

namespace Environment

def find (environment : Environment) (path : Path) : Except IoError (Location × Entry) :=
  environment.disk.find environment.directory path

def contains (environment : Environment) (path : Path) : Bool :=
  match environment.find path with
  | .ok _ => true
  | .error _ => false

/-- Whether the path leads to a file, be it one to read or one to run. -/
def isFile (environment : Environment) (path : Path) : Bool :=
  match environment.find path with
  | .ok (_, entry) => !entry.isDirectory
  | .error _ => false

def isProgram (environment : Environment) (path : Path) : Bool :=
  match environment.find path with
  | .ok (_, .program _ _) => true
  | _ => false

/-- The place of a directory. -/
def directory? (environment : Environment) (path : Path) : Option Location :=
  match environment.find path with
  | .ok (location, .directory) => some location
  | _ => none

/-- The text of a file. -/
def readText (environment : Environment) (path : Path) : Except IoError String :=
  match environment.find path with
  | .error error => .error error
  | .ok (_, .directory) => .error .isADirectory
  | .ok (_, .refused error) => .error error
  | .ok (_, .file content) | .ok (_, .program content _) =>
    match Utf8.text? content with
    | some text => .ok text
    | none => .error .notText

/-- The directories that programs are looked for in, in order. -/
def programDirectories (environment : Environment) : List Path :=
  match environment.searchPath with
  | none => []
  | some list => (Text.split (.char ':') list).map Path.mk

/-- A directory that starts with a tilde starts in the home directory. -/
def expandHome (environment : Environment) (directory : Path) : Path :=
  match directory.components, environment.home with
  | .name value :: rest, some home =>
    if value = [.char '~'] ∧ home.glyphs ≠ [] then
      rest.foldl (fun path component => path.join ⟨componentGlyphs component⟩) home
    else directory
  | _, _ => directory
where
  componentGlyphs : Component → List Glyph
    | .root => [Path.slash]
    | .here => Segment.here
    | .up => Segment.up
    | .name value => value

/-- The first program of that name in the search path. -/
def globalProgram? (environment : Environment) (name : String) : Option Path :=
  (environment.programDirectories.map fun directory =>
    (environment.expandHome directory).join name).find? environment.isProgram

/-- The program that a path leads to, from the directory that it is to run in. -/
def programAt (environment : Environment) (directory : Location) (path : Path) :
    Except IoError Program :=
  match environment.disk.find directory path with
  | .error error => .error error
  | .ok (_, .program _ run) => .ok run
  | .ok _ => .error .permissionDenied

/-- Whether the search for a program goes on after a place that it cannot be run from. -/
def isPassed : IoError → Bool
  | .notFound | .notADirectory | .permissionDenied => true
  | _ => false

/-- The first program among the candidates that may be run. Where there is none the last refusal
counts, unless one of them was for want of permission. -/
def firstProgram (environment : Environment) (directory : Location) :
    List Path → IoError → Except IoError Program
  | [], error => .error error
  | candidate :: rest, error =>
    match environment.programAt directory candidate with
    | .ok run => .ok run
    | .error refusal =>
      if isPassed refusal then
        firstProgram environment directory rest
          (if error = .permissionDenied then error else refusal)
      else .error refusal

/-- The program that a path names from the directory that it is to run in. A name without a slash is
looked for in the search path. -/
def programFor (environment : Environment) (directory : Location) (path : Path) :
    Except IoError Program :=
  if path.glyphs = [] then .error .notFound
  else if path.glyphs.contains Path.slash then environment.programAt directory path
  else
    environment.firstProgram directory (environment.programDirectories.map (·.join path)) .notFound

/-- Runs a program in a directory, or where the caller runs if there is no such directory. -/
def run (environment : Environment) (program : Path) (arguments : List String)
    (directory : Option Path) (input : List UInt8) : Except IoError Completion :=
  let place := (directory.bind environment.directory?).getD environment.directory
  if program.hasNul ∨ arguments.any (·.toList.contains '\x00') then .error .nulInArgument
  else (environment.programFor place program).map fun behave => behave ⟨arguments, place, input⟩

end Environment

end FormatServer
