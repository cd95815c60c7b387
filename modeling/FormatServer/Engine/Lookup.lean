import FormatServer.Engine.Program
import FormatServer.Workspace

/-!
Where the formatters are. What is installed nearest to a document counts; the engine may also be
configured, or installed for all.
-/

namespace FormatServer

namespace Environment

/-- The place of a locally installed program under a directory. -/
def localPlace (directory : Path) (name : String) : Path :=
  ((directory.join "node_modules").join ".bin").join name

/-- The nearest locally installed program at or above a directory. -/
def localProgram? (environment : Environment) (start : Path) (name : String) : Option Path :=
  (start.ancestors.map fun directory => localPlace directory name).find? environment.isFile

end Environment

namespace Workspace

/-- The directory that local programs are looked for from. -/
def searchStart (workspace : Workspace) (file : Option Path) : Option Path :=
  (file.bind Path.parent?).or workspace.root

/-- The configured engine, whether or not it exists. -/
def configuredEngine (workspace : Workspace) (file : Option Path) : Option Path :=
  workspace.settings.prettierPath.map (workspace.resolve file)

end Workspace

inductive EngineSource where
  | configured
  | installed
  | global
  deriving DecidableEq

namespace Engine

/-- The engine for a file, and how it was found. -/
def locate (environment : Environment) (workspace : Workspace) (file : Option Path) :
    Option (Path × EngineSource) :=
  let configured := (workspace.configuredEngine file).filter environment.isFile
  let installed := (workspace.searchStart file).bind fun start =>
    environment.localProgram? start moduleName
  (configured.map fun path => (path, .configured)).or
    ((installed.map fun path => (path, .installed)).or
      ((environment.globalProgram? moduleName).map fun path => (path, .global)))

/-- The configured engine, if it does not exist. -/
def missing (environment : Environment) (workspace : Workspace) (file : Option Path) :
    Option Path :=
  (workspace.configuredEngine file).filter fun path => !environment.isFile path

end Engine

end FormatServer
