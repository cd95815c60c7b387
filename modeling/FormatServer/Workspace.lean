import FormatServer.Path.Normal
import FormatServer.Language.Table
import FormatServer.Settings.Resolved

/-!
The settings in force and the folders they are in force for.
-/

namespace FormatServer

structure Workspace where
  settings : Settings
  folders : List Path
  root : Option Path

namespace Workspace

/-- A workspace of one folder, if any, which is also its root. -/
def single (settings : Settings) (root : Option Path) : Workspace :=
  ⟨settings, root.toList, root⟩

/-- The innermost folder with the path, else the root. -/
def folderFor (workspace : Workspace) (path : Option Path) : Option Path :=
  (path.bind fun path => Path.deepest id (workspace.folders.filter path.isIn)).or workspace.root

/-- A configured path, taken from the folder of the file. -/
def resolve (workspace : Workspace) (file : Option Path) (configured : String) : Path :=
  let path := Path.ofString configured
  if path.isAbsolute then path.normal
  else match workspace.folderFor file with
    | some folder => (folder.join path).normal
    | none => path.normal

/-- The ignore file for a file, which lies in the file's folder or else beside the file. -/
def ignorePath (workspace : Workspace) (file : Path) : Option Path :=
  let path := Path.ofString workspace.settings.ignorePath
  if workspace.settings.ignorePath = "" then none
  else if path.isAbsolute then some path
  else ((workspace.folderFor (some file)).or file.parent?).map fun folder =>
    (folder.join path).normal

/-- The parsers of the workspace's languages, to which its folders may add. -/
def languages (workspace : Workspace) (folders : FolderLanguages) : LanguageTable :=
  ⟨workspace.settings.languages, folders⟩

end Workspace

end FormatServer
