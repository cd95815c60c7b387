import FormatServer.Path.Basic

/-!
The files that can be read and the programs that can be run, as a value. A place on the disk is the
list of names that lead to it from the root, so two paths to one place differ only as paths.
-/

namespace FormatServer

/-- Why the system refused a file or a program. -/
inductive IoError where
  | notFound
  | permissionDenied
  | notADirectory
  | isADirectory
  | nameTooLong
  | notText
  | nulInName
  | nulInArgument
  | other (message : String)
  deriving DecidableEq

namespace IoError

def message : IoError → String
  | notFound => "No such file or directory (os error 2)"
  | permissionDenied => "Permission denied (os error 13)"
  | notADirectory => "Not a directory (os error 20)"
  | isADirectory => "Is a directory (os error 21)"
  | nameTooLong => "File name too long (os error 36)"
  | notText => "stream did not contain valid UTF-8"
  | nulInName => "file name contained an unexpected NUL byte"
  | nulInArgument => "nul byte found in provided data"
  | other message => message

end IoError

/-- The names that lead from the root to a place. -/
abbrev Location := List Segment

namespace Location

def path (location : Location) : Path :=
  ⟨Path.slash :: Path.joined location⟩

end Location

/-- One run of a program as it is asked for. -/
structure Invocation where
  arguments : List String
  directory : Location
  input : List UInt8

/-- What a finished run leaves. -/
structure Completion where
  exitCode : Nat
  output : List UInt8
  errors : List UInt8
  deriving DecidableEq

/-- A program is what it answers to each invocation. -/
abbrev Program := Invocation → Completion

/-- What stands at a place. A file may be there and still refuse to be read; a program is a file
that can be run. -/
inductive Entry where
  | directory
  | file (content : List UInt8)
  | program (content : List UInt8) (run : Program)
  | refused (error : IoError)

namespace Entry

def isDirectory : Entry → Bool
  | directory => true
  | _ => false

end Entry

/-- The most bytes that a name may have. -/
def maxNameBytes : Nat := 255

/-- The most bytes that a path may have. -/
def maxPathBytes : Nat := 4095

namespace Segment

def byteCount : Segment → Nat
  | [] => 0
  | .char value :: rest => value.utf8Size + byteCount rest
  | .broken bytes :: rest => bytes.length + byteCount rest

end Segment

structure Disk where
  entry : Location → Option Entry

namespace Disk

/-- A disk with nothing but its root. -/
def empty : Disk :=
  ⟨fun location => if location = [] then some .directory else none⟩

def insert (disk : Disk) (location : Location) (entry : Entry) : Disk :=
  ⟨fun place => if place = location then some entry else disk.entry place⟩

/-- Adds the entry, and a directory at every place above it that has nothing. -/
def place (disk : Disk) (location : Location) (entry : Entry) : Disk :=
  ⟨fun place =>
    if place = location then some entry
    else if place.isPrefixOf location then some ((disk.entry place).getD .directory)
    else disk.entry place⟩

/-- Removes the entry and everything below it. -/
def erase (disk : Disk) (location : Location) : Disk :=
  ⟨fun place => if location.isPrefixOf place then none else disk.entry place⟩

/-- Follows the segments from a place. Each step starts in a directory, which knows no name that is
too long. -/
def walk (disk : Disk) : Location → List Segment → Except IoError Location
  | location, [] => .ok location
  | location, segment :: rest =>
    match disk.entry location with
    | none => .error .notFound
    | some .directory =>
      if Segment.isEmpty segment then walk disk location rest
      else if segment = Segment.up then walk disk location.dropLast rest
      else if maxNameBytes < segment.byteCount then .error .nameTooLong
      else walk disk (location ++ [segment]) rest
    | some _ => .error .notADirectory

end Disk

namespace Path

def hasNul (path : Path) : Bool :=
  path.glyphs.contains (.char '\x00')

def byteCount (path : Path) : Nat :=
  Segment.byteCount path.glyphs

end Path

namespace Disk

/-- The place that a path leads to from a directory, whether or not something is there. -/
def locate (disk : Disk) (directory : Location) (path : Path) : Except IoError Location :=
  if path.hasNul then .error .nulInName
  else if path.glyphs = [] then .error .notFound
  else
    if maxPathBytes < path.byteCount then .error .nameTooLong
    else disk.walk (if path.isAbsolute then [] else directory) (Path.segments path.glyphs)

/-- What a path leads to. -/
def find (disk : Disk) (directory : Location) (path : Path) :
    Except IoError (Location × Entry) := do
  let location ← disk.locate directory path
  match disk.entry location with
  | some entry => .ok (location, entry)
  | none => .error .notFound

end Disk

end FormatServer
