import FormatServer.Config.Files
import FormatServer.Engine.Lookup
import FormatServer.Settings.Sources

/-!
The places on the disk that formatting may look at: the settings, configuration files and local
programs in the directories at or above a document, the programs of the search path, and what the
settings name.
-/

namespace FormatServer

/-- A place, and whether a file there is a program. -/
structure Place where
  path : Path
  isProgram : Bool
  deriving DecidableEq

namespace Place

def programNames : List String :=
  Engine.moduleName :: Linter.ranked.map Linter.moduleName

/-- The places in a directory. -/
def inDirectory (directory : Path) : List Place :=
  ⟨directory, false⟩ ::
    ((settingsFileName :: Config.searchOrder).map fun name => ⟨directory.join name, false⟩) ++
    programNames.map fun name => ⟨Environment.localPlace directory name, true⟩

/-- The places in a directory and in those above it. -/
def above (directory : Path) : List Place :=
  directory.ancestors.flatMap inDirectory

/-- The places of the user: the user's settings and the programs of the search path. -/
def ofUser (environment : Environment) : List Place :=
  (environment.userSettingsFile?.toList.map fun file => ⟨file, false⟩) ++
    environment.programDirectories.map fun directory =>
      ⟨(environment.expandHome directory).join Engine.moduleName, true⟩

/-- The places that the settings name for a file. -/
def ofSettings (workspace : Workspace) (file : Option Path) : List Place :=
  ((workspace.configuredEngine file).toList.map fun path => ⟨path, true⟩) ++
    (workspace.settings.configPath.toList.map fun path => ⟨workspace.resolve file path, false⟩)

end Place

end FormatServer
