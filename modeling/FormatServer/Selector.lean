import FormatServer.Language.Table

/-!
Which documents are formatted: filters by language, place and scheme.
-/

namespace FormatServer

/-- Admits documents of a language, those under a folder or of a scheme if it names one. -/
structure DocumentFilter where
  language : String
  pattern : Option String := none
  scheme : Option String := none
  deriving DecidableEq

namespace DocumentFilter

/-- What a pattern has after the folder whose files it stands for. -/
def patternEnd : String := "/**/*"

def patternOf (folder : Path) : String :=
  folder.text ++ patternEnd

/-- The folder whose files the pattern stands for. -/
def folderOf? (pattern : String) : Option Path :=
  if patternEnd.toList.isSuffixOf pattern.toList then
    some ⟨(pattern.toList.take (pattern.toList.length - patternEnd.toList.length)).map .char⟩
  else none

/-- A document without a path lies in no folder. -/
def admits (filter : DocumentFilter) (language scheme : String) (path : Option Path) : Bool :=
  filter.language = language && filter.scheme.all (· = scheme) &&
    match filter.pattern.bind folderOf? with
    | some folder => path.any (·.isStrictlyIn folder)
    | none => true

end DocumentFilter

/-- The filters for whole documents and for parts of them. -/
structure Selectors where
  full : List DocumentFilter
  range : List DocumentFilter
  deriving DecidableEq, Inhabited

/-- Which languages can be formatted, and where. -/
structure LanguageScopes where
  enabled : Option Path → List String
  range : List String

namespace LanguageTable

def scopes (table : LanguageTable) : LanguageScopes :=
  ⟨table.enabledIds, Language.rangeIds⟩

end LanguageTable

namespace Selectors

def empty : Selectors :=
  ⟨[], []⟩

def isEmpty (selectors : Selectors) : Bool :=
  selectors.full.isEmpty && selectors.range.isEmpty

def admits (selectors : Selectors) (language scheme : String) (path : Option Path) : Bool :=
  selectors.full.any (·.admits language scheme path)

def admitsRange (selectors : Selectors) (language scheme : String) (path : Option Path) : Bool :=
  selectors.range.any (·.admits language scheme path)

/-- The schemes of the documents that can lie in a folder. -/
def schemes : List String :=
  ["file", "untitled"]

def withSchemes (filters : List DocumentFilter) : List DocumentFilter :=
  filters.flatMap fun filter => schemes.map fun scheme => { filter with scheme := some scheme }

/-- The filters for the languages that are not disabled. Without folders a language is formatted
everywhere; with folders it is formatted under those that have it. -/
def compute (scopes : LanguageScopes) (folders : List Path) (disabled : List String) : Selectors :=
  let isEnabled := fun language : String => !disabled.contains language
  let range := (scopes.range.filter isEnabled).map fun language => { language : DocumentFilter }
  if folders.isEmpty then
    ⟨((scopes.enabled .none).filter isEnabled).map fun language => { language }, range⟩
  else
    ⟨withSchemes (folders.flatMap fun folder =>
      ((scopes.enabled (some folder)).filter isEnabled).map fun language =>
        { language, pattern := some (DocumentFilter.patternOf folder) }),
      withSchemes range⟩

end Selectors

end FormatServer
