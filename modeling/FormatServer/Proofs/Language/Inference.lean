import FormatServer.Proofs.Language.Sources

/-!
# Languages inferred from names

The language of a file is inferred from its name, and then its parsers are looked up by the id of
the language. Each is a search through the builtin languages for the first one that will do, but the
first search asks for the name and the second one for the id. Languages share ids and names, so the
second search could end at another language. It does not as long as a language that has the first id
of a later one has only the files that it names: where the first search went past such a language
the second one does too.
-/

namespace FormatServer

namespace Language

variable {languages : List Language} {language found : Language} {name id : String}

/-- No language with the first id of a later one takes files of any name. -/
def IsCoherent (languages : List Language) : Prop :=
  languages.Pairwise fun earlier later =>
    ∀ id ∈ later.ids.head?, id ∈ earlier.ids → earlier.extensions = []

instance (languages : List Language) : Decidable (IsCoherent languages) :=
  inferInstanceAs (Decidable (languages.Pairwise fun earlier later =>
    ∀ id ∈ later.ids.head?, id ∈ earlier.ids → earlier.extensions = []))

theorem mem_fileNames_of_fits (hnone : language.extensions = []) (hfits : language.fits name = true) :
    name ∈ language.fileNames := by
  simpa [fits, hasExtension, hnone] using hfits

theorem takes_of_fits (hid : id ∈ language.ids) (hfits : language.fits name = true) :
    language.takes id (some name) = true := by
  by_cases hnone : language.extensions = []
  · simp [takes, hid, hnone, mem_fileNames_of_fits hnone hfits]
  · simp [takes, hid, hnone]

/-- A language that has only the files it names takes no file that it does not fit. -/
theorem takes_eq_false_of_not_fits (hnone : id ∈ language.ids → language.extensions = [])
    (hfits : language.fits name = false) : language.takes id (some name) = false := by
  by_cases hid : id ∈ language.ids
  · have hname : name ∉ language.fileNames := by
      simp only [fits, Bool.or_eq_false_iff] at hfits
      simpa using hfits.1
    simp [takes, hnone hid, hname]
  · simp [takes, hid]

/-- Searching for the first id of what the name led to leads there again. -/
theorem IsCoherent.find?_takes (hcoherent : IsCoherent languages)
    (hfound : languages.find? (·.fits name) = some found) (hid : found.ids.head? = some id) :
    languages.find? (·.takes id (some name)) = some found := by
  obtain ⟨hfits, before, after, rfl, hbefore⟩ := List.find?_eq_some_iff_append.mp hfound
  obtain ⟨-, -, hearlier⟩ := List.pairwise_append.mp hcoherent
  refine List.find?_eq_some_iff_append.mpr ⟨?_, before, after, rfl, ?_⟩
  · exact takes_of_fits (List.mem_of_mem_head? hid) hfits
  · intro earlier hmem
    have hpassed : earlier.fits name = false := by simpa using hbefore earlier hmem
    have hnone : id ∈ earlier.ids → earlier.extensions = [] :=
      hearlier earlier hmem found List.mem_cons_self id hid
    simp [takes_eq_false_of_not_fits hnone hpassed]

theorem isCoherent_builtin : IsCoherent builtin := by
  decide

/-- The first builtin language for files of the path's name. -/
def IsFirstFor (found : Language) (path : Path) : Prop :=
  ∃ name before after, path.baseName? = some name ∧ builtin = before ++ found :: after ∧
    found.fits name = true ∧ ∀ earlier ∈ before, earlier.fits name = false

theorem isFirstFor_iff {path : Path} :
    found.IsFirstFor path ↔
      ∃ name, path.baseName? = some name ∧ builtin.find? (·.fits name) = some found := by
  simp only [IsFirstFor, List.find?_eq_some_iff_append]
  constructor
  · rintro ⟨name, before, after, hname, hbuiltin, hfits, hbefore⟩
    exact ⟨name, hname, hfits, before, after, hbuiltin, by simpa using hbefore⟩
  · rintro ⟨name, hname, hfits, before, after, hbuiltin, hbefore⟩
    exact ⟨name, before, after, hname, hbuiltin, hfits, by simpa using hbefore⟩

theorem IsFirstFor.parsers_ne_nil {path : Path} (hfirst : found.IsFirstFor path) :
    found.parsers ≠ [] := by
  obtain ⟨_, before, after, -, hbuiltin, -⟩ := hfirst
  have hparsers : ∀ language ∈ builtin, language.parsers ≠ [] := by decide
  exact hparsers found (by simp [hbuiltin])

end Language

namespace LanguageTable

variable {table : LanguageTable} {path : Path} {id : String} {found : Language}

theorem idOfPath_eq_some_iff :
    idOfPath path = some id ↔
      ∃ found : Language, found.IsFirstFor path ∧ found.ids.head? = some id := by
  simp only [idOfPath, Option.bind_eq_some_iff, Language.isFirstFor_iff]
  constructor
  · rintro ⟨name, hname, found, hfound, hid⟩
    exact ⟨found, ⟨name, hname, hfound⟩, hid⟩
  · rintro ⟨found, ⟨name, hname, hfound⟩, hid⟩
    exact ⟨name, hname, found, hfound, hid⟩

theorem builtinParsers_of_isFirstFor (hfirst : found.IsFirstFor path)
    (hid : found.ids.head? = some id) : builtinParsers (some path) id = found.parsers := by
  obtain ⟨name, hname, hfound⟩ := Language.isFirstFor_iff.mp hfirst
  rw [builtinParsers, Option.bind_some, hname,
    Language.isCoherent_builtin.find?_takes hfound hid]
  rfl

/-- The language that the name led to gives the parsers, unless the id is configured. -/
theorem parsers_of_isFirstFor (hfirst : found.IsFirstFor path) (hid : found.ids.head? = some id)
    (hfolders : table.HasNoFolder (some path) id) (hgeneral : table.general.get? id = none) :
    table.parsers (some path) id = found.parsers := by
  rw [LanguageTable.parsers, hfolders.folderParsers?, hgeneral]
  exact builtinParsers_of_isFirstFor hfirst hid

end LanguageTable

end FormatServer
