import FormatServer.Engine.Lookup
import FormatServer.Pipeline.Services

/-!
The formatters that have been found so far. A linter's formatter is looked for once from each
directory, also where none is found; an engine is asked once for its version.
-/

namespace FormatServer

/-- An engine that was found. The version is there if the engine was asked for it, and empty if it
did not say. -/
structure KnownEngine where
  path : Path
  version : Option (Option Version)
  deriving DecidableEq

structure Installed where
  engines : List KnownEngine
  linters : List ((Path × Linter) × Option Path)
  deriving DecidableEq

namespace Installed

def empty : Installed :=
  ⟨[], []⟩

def engine? (installed : Installed) (path : Path) : Option KnownEngine :=
  installed.engines.find? fun known => known.path.sameAs path

/-- The engine as it was first found under the path, and what is known with it. -/
def findEngine (installed : Installed) (path : Path) : KnownEngine × Installed :=
  match installed.engine? path with
  | some known => (known, installed)
  | none => (⟨path, none⟩, { installed with engines := installed.engines ++ [⟨path, none⟩] })

def setVersion (installed : Installed) (path : Path) (version : Option Version) : Installed :=
  { installed with
    engines := installed.engines.map fun known =>
      if known.path.sameAs path then { known with version := some version } else known }

def unknownVersion (path : Path) (failure : Failure) : Remark :=
  .log ⟨.warning, .programs,
    "Failed to query version of " ++ path.text ++ ": " ++ failure.message⟩

/-- The version of a known engine, which is asked for it if it was not before. -/
def version (environment : Environment) (known : KnownEngine) (installed : Installed) :
    Reply Installed (Option Version) :=
  match known.version with
  | some version => ⟨version, [], installed⟩
  | none =>
    match Engine.version environment known.path with
    | .ok version => ⟨version, [], installed.setVersion known.path version⟩
    | .error failure =>
      ⟨none, [unknownVersion known.path failure], installed.setVersion known.path none⟩

def missingRemark (path : Path) : Remark :=
  .log ⟨.warning, .programs,
    "prettierPath " ++ path.text ++ " does not exist, falling back to discovery"⟩

def globalRemark (path : Path) : Remark :=
  .warnOnce "global-prettier" ("Using globally installed prettier at " ++ path.text ++
    ". Install it locally to pin the version.")

def outdatedRemark (path : Path) (version : Version) : Remark :=
  .warnOnce ("outdated:" ++ path.text) ("prettier " ++ version.text ++ " at " ++ path.text ++
    " is outdated; version " ++ Version.oldest.text ++ " or newer is required.")

def notFoundAdvice : String :=
  "install prettier in the project or set prettierPath"

/-- The remark about the version of an engine that is too old. -/
def versionRemarks (path : Path) (version : Option Version) : List Remark :=
  (version.filter Version.isOutdated).toList.map (outdatedRemark path)

/-- The engine for a file. -/
def engine (environment : Environment) (workspace : Workspace) (file : Option Path)
    (checksVersion : Bool) (installed : Installed) :
    Reply Installed (Except Failure Engine) :=
  let missing := (Engine.missing environment workspace file).toList.map missingRemark
  match Engine.locate environment workspace file with
  | none => ⟨.error (.engineNotFound notFoundAdvice), missing, installed⟩
  | some (path, source) =>
    let found := missing ++ if source = .global then [globalRemark path] else []
    match installed.findEngine path with
    | (known, installed) =>
      let engine := Engine.ofProgram environment known.path
      if checksVersion then
        let reply := version environment known installed
        ⟨.ok engine, found ++ reply.remarks ++ versionRemarks path reply.answer, reply.state⟩
      else ⟨.ok engine, found, installed⟩

/-- The linter's formatter from a directory as it was found before. -/
def linter? (installed : Installed) (start : Path) (linter : Linter) : Option (Option Path) :=
  (installed.linters.find? fun known => known.1.1.sameAs start && known.1.2 = linter).map Prod.snd

/-- The linter's formatter for a file. -/
def linter (environment : Environment) (workspace : Workspace) (file : Option Path)
    (linter : Linter) (installed : Installed) : Reply Installed (Option Backend) :=
  match workspace.searchStart file with
  | none => ⟨none, [], installed⟩
  | some start =>
    match installed.linter? start linter with
    | some found => ⟨found.map (linter.backend environment), [], installed⟩
    | none =>
      let found := environment.localProgram? start linter.moduleName
      ⟨found.map (linter.backend environment), [],
        { installed with linters := installed.linters ++ [((start, linter), found)] }⟩

end Installed

end FormatServer
