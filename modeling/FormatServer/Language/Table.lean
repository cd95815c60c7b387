import FormatServer.Language.Builtin
import FormatServer.Language.Map
import FormatServer.Path.Basic

/-!
The languages that can be formatted and their parsers: the builtin ones, those of the settings, and
those that single folders add for the files in them.
-/

namespace FormatServer

/-- Language tables of folders; a folder has at most one. -/
structure FolderLanguages where
  entries : List (Path × LanguageMap)

namespace FolderLanguages

def empty : FolderLanguages :=
  ⟨[]⟩

def get? (folders : FolderLanguages) (folder : Path) : Option LanguageMap :=
  (folders.entries.find? fun entry => entry.1.sameAs folder).map Prod.snd

/-- Gives the folder this table, in place of the one it had. -/
def insert (folders : FolderLanguages) (folder : Path) (languages : LanguageMap) :
    FolderLanguages :=
  ⟨put folders.entries⟩
where
  put : List (Path × LanguageMap) → List (Path × LanguageMap)
    | [] => [(folder, languages)]
    | (other, old) :: rest =>
      if other.sameAs folder then (other, languages) :: rest else (other, old) :: put rest

def ofList (entries : List (Path × LanguageMap)) : FolderLanguages :=
  entries.foldl (fun folders entry => folders.insert entry.1 entry.2) empty

end FolderLanguages

namespace Path

/-- Of two candidates the one with the deeper path, the second where they are equally deep. -/
def deeper {α : Type} (path : α → Path) (best : Option α) (candidate : α) : Option α :=
  match best with
  | none => some candidate
  | some found => if (path found).depth ≤ (path candidate).depth then some candidate else some found

def deepest {α : Type} (path : α → Path) (candidates : List α) : Option α :=
  candidates.foldl (deeper path) none

end Path

structure LanguageTable where
  general : LanguageMap
  folders : FolderLanguages

namespace LanguageTable

/-- The id of the language of a file, judged by its name alone. -/
def idOfPath (path : Path) : Option String :=
  path.baseName?.bind fun baseName =>
    (Language.builtin.find? (·.fits baseName)).bind fun language => language.ids.head?

/-- Adds the id to the end unless it is there. -/
def addId (ids : List String) (id : String) : List String :=
  if ids.contains id then ids else ids ++ [id]

def builtinIds : List String :=
  (Language.builtin.flatMap Language.ids).foldl addId []

/-- The ids that can be formatted in a folder, or everywhere: the builtin ones and then the others
in ascending order. -/
def enabledIds (table : LanguageTable) (scope : Option Path) : List String :=
  let added := ((scope.bind table.folders.get?).map LanguageMap.ids).getD []
  ((table.general.ids ++ added).mergeSort fun first second => decide (first ≤ second)).foldl addId
    builtinIds

/-- The parsers that the innermost folder with the file and the language gives. -/
def folderParsers? (table : LanguageTable) (file : Path) (language : String) :
    Option (List String) :=
  let candidates := table.folders.entries.filterMap fun (folder, languages) =>
    if file.isIn folder then (languages.get? language).map fun parsers => (folder, parsers)
    else none
  (Path.deepest Prod.fst candidates).map Prod.snd

def builtinParsers (file : Option Path) (language : String) : List String :=
  let baseName := file.bind Path.baseName?
  ((Language.builtin.find? (·.takes language baseName)).map Language.parsers).getD []

/-- The parsers for a document, the preferred one first. -/
def parsers (table : LanguageTable) (file : Option Path) (language : String) : List String :=
  match (file.bind fun file => table.folderParsers? file language).or
      (table.general.get? language) with
  | some parsers => parsers
  | none => builtinParsers file language

end LanguageTable

end FormatServer
