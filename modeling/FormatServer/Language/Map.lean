/-!
Tables from language ids to the parsers that read the language, the preferred one first.
-/

namespace FormatServer

structure LanguageMap where
  entries : List (String × List String)
  deriving DecidableEq, Inhabited

namespace LanguageMap

def empty : LanguageMap :=
  ⟨[]⟩

def get? (languages : LanguageMap) (language : String) : Option (List String) :=
  languages.entries.lookup language

def ids (languages : LanguageMap) : List String :=
  languages.entries.map Prod.fst

/-- Gives the language these parsers, in the place that it had or else at the end. -/
def insert (languages : LanguageMap) (language : String) (parsers : List String) : LanguageMap :=
  ⟨put languages.entries⟩
where
  put : List (String × List String) → List (String × List String)
    | [] => [(language, parsers)]
    | (other, old) :: rest =>
      if other = language then (language, parsers) :: rest else (other, old) :: put rest

def ofList (entries : List (String × List String)) : LanguageMap :=
  entries.foldl (fun languages entry => languages.insert entry.1 entry.2) empty

/-- The entries of `primary`, and those of `fallback` for other languages. -/
def withFallback (primary fallback : LanguageMap) : LanguageMap :=
  primary.entries.foldl (fun languages entry => languages.insert entry.1 entry.2) fallback

end LanguageMap

end FormatServer
