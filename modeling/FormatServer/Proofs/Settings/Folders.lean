import FormatServer.Proofs.Disk.Spelling
import FormatServer.Proofs.Language.Parsers
import FormatServer.Proofs.Settings.Layering

/-!
# Languages of folders

Each folder of a workspace may have a settings file of its own, of which only the languages count.
A folder that is listed more than once, perhaps written in several ways, has the same file each
time. So the table of the folders' languages has for a folder what its file gives, and nothing else.
-/

namespace FormatServer

namespace Environment

variable {environment : Environment} {first second : Path}

/-- The languages that a folder's settings file gives. -/
def fileLanguages? (environment : Environment) (folder : Path) : Option LanguageMap :=
  (LoadedLayer.ofFolder environment folder).layer.bind Layer.languages

/-- The parsers that a folder's settings file gives for a language. -/
def fileParsers? (environment : Environment) (folder : Path) (language : String) :
    Option (List String) :=
  (environment.fileLanguages? folder).bind (·.get? language)

/-- The languages that a folder's settings file disables. -/
def fileDisabled (environment : Environment) (folder : Path) : List String :=
  ((LoadedLayer.ofFolder environment folder).layer.bind Layer.disableLanguages).getD []

theorem exists_found_of_readText {path : Path} {text : String}
    (htext : environment.readText path = .ok text) :
    ∃ found, environment.find path = .ok found := by
  cases hfind : environment.find path with
  | error error => simp [readText, hfind] at htext
  | ok found => exact ⟨found, rfl⟩

/-- Read in whatever way the folder is written, a file has one text. -/
theorem text_unique {name : Path} (hsame : first.sameAs second = true)
    (hname : name.isAbsolute = false) {text other : String}
    (hfirst : environment.readText (first.join name) = .ok text)
    (hsecond : environment.readText (second.join name) = .ok other) : text = other := by
  obtain ⟨found, hfound⟩ := exists_found_of_readText hfirst
  obtain ⟨found', hfound'⟩ := exists_found_of_readText hsecond
  obtain rfl := Disk.find_join_unique hsame hname hfound hfound'
  have hread :
      environment.readText (first.join name) = environment.readText (second.join name) := by
    rw [readText, readText, hfound, hfound']
  rw [hfirst, hsecond] at hread
  exact Except.ok.inj hread

theorem fileLayer_unique (hsame : first.sameAs second = true) {layer other : Layer}
    (hfirst : (LoadedLayer.ofFolder environment first).layer = some layer)
    (hsecond : (LoadedLayer.ofFolder environment second).layer = some other) : layer = other := by
  obtain ⟨text, htext, hlayer⟩ :=
    Layer.exists_text_of_ofFile (LoadedLayer.ofFile_of_ofFolder hfirst)
  obtain ⟨text', htext', hother⟩ :=
    Layer.exists_text_of_ofFile (LoadedLayer.ofFile_of_ofFolder hsecond)
  obtain rfl := text_unique hsame rfl htext htext'
  exact Except.ok.inj (hlayer.symm.trans hother)

theorem fileLanguages?_unique (hsame : first.sameAs second = true) {languages other : LanguageMap}
    (hfirst : environment.fileLanguages? first = some languages)
    (hsecond : environment.fileLanguages? second = some other) : languages = other := by
  obtain ⟨layer, hlayer, hlanguages⟩ := Option.bind_eq_some_iff.mp hfirst
  obtain ⟨layer', hlayer', hother⟩ := Option.bind_eq_some_iff.mp hsecond
  obtain rfl := fileLayer_unique hsame hlayer hlayer'
  exact Option.some.inj (hlanguages.symm.trans hother)

theorem fileParsers?_unique (hsame : first.sameAs second = true) {language : String}
    {parsers other : List String} (hfirst : environment.fileParsers? first language = some parsers)
    (hsecond : environment.fileParsers? second language = some other) : parsers = other := by
  obtain ⟨languages, hlanguages, hparsers⟩ := Option.bind_eq_some_iff.mp hfirst
  obtain ⟨languages', hlanguages', hother⟩ := Option.bind_eq_some_iff.mp hsecond
  obtain rfl := fileLanguages?_unique hsame hlanguages hlanguages'
  exact Option.some.inj (hparsers.symm.trans hother)

end Environment

namespace FolderLanguages

variable {environment : Environment} {folders : List Path} {folder : Path}

theorem exists_folder_of_mem_load {entry : Path × LanguageMap}
    (hentry : entry ∈ (load environment folders).entries) :
    ∃ given ∈ folders, given.sameAs entry.1 = true ∧
      environment.fileLanguages? given = some entry.2 := by
  obtain ⟨⟨given, languages⟩, hgiven, hsame, hlanguages⟩ := exists_given_of_mem_ofList hentry
  obtain ⟨folder, hfolder, hfile⟩ := List.mem_filterMap.mp hgiven
  obtain ⟨found, hfound, hpair⟩ := Option.map_eq_some_iff.mp hfile
  obtain ⟨rfl, rfl⟩ := Prod.mk.inj hpair
  exact ⟨folder, hfolder, hsame, hlanguages ▸ hfound⟩

/-- The table has for a folder what the folder's settings file gives. -/
theorem get?_load_iff {languages : LanguageMap} :
    (load environment folders).get? folder = some languages ↔
      ∃ given ∈ folders, given.sameAs folder = true ∧
        environment.fileLanguages? given = some languages := by
  constructor
  · intro hget
    obtain ⟨entry, hentry, hsame, rfl⟩ := exists_entry_of_get? hget
    obtain ⟨given, hgiven, hentrySame, hlanguages⟩ := exists_folder_of_mem_load hentry
    exact ⟨given, hgiven, Path.sameAs_trans hentrySame hsame, hlanguages⟩
  · rintro ⟨given, hgiven, hsame, hlanguages⟩
    have hfound : ((load environment folders).get? folder).isSome = true := by
      rw [load, get?_ofList, Option.isSome_map, List.find?_isSome]
      refine ⟨(given, languages), List.mem_reverse.mpr (List.mem_filterMap.mpr ?_), hsame⟩
      exact ⟨given, hgiven, Option.map_eq_some_iff.mpr ⟨languages, hlanguages, rfl⟩⟩
    obtain ⟨found, hfound⟩ := Option.isSome_iff_exists.mp hfound
    obtain ⟨entry, hentry, hentrySame, rfl⟩ := exists_entry_of_get? hfound
    obtain ⟨other, -, hotherSame, hother⟩ := exists_folder_of_mem_load hentry
    have hsameGiven : other.sameAs given = true := by
      rw [Path.sameAs_comm given] at hsame
      exact Path.sameAs_trans (Path.sameAs_trans hotherSame hentrySame) hsame
    rw [hfound, Environment.fileLanguages?_unique hsameGiven hother hlanguages]

/-- A language that no folder around a file gives is not found for the file. -/
theorem folderParsers?_load_eq_none (general : LanguageMap) {file : Path} {language : String}
    (hnone : ∀ folder ∈ folders, file.isIn folder = true →
      environment.fileParsers? folder language = none) :
    (LanguageTable.mk general (load environment folders)).folderParsers? file language = none := by
  rw [LanguageTable.folderParsers?_eq_none_iff]
  intro entry hentry hfile
  obtain ⟨given, hgiven, hsame, hlanguages⟩ := exists_folder_of_mem_load hentry
  have hnot := hnone given hgiven (by rw [Path.isIn_congr_right hsame]; exact hfile)
  rw [Environment.fileParsers?, hlanguages] at hnot
  exact hnot

/-- The parsers found for a file are those that the file of a folder around it gives. -/
theorem exists_folder_of_folderParsers?_load {general : LanguageMap} {file : Path}
    {language : String} {parsers : List String}
    (hparsers : (LanguageTable.mk general (load environment folders)).folderParsers? file language =
      some parsers) :
    ∃ folder ∈ folders, file.isIn folder = true ∧
      environment.fileParsers? folder language = some parsers := by
  obtain ⟨entry, hentry, hfile, hget, -⟩ := LanguageTable.exists_entry_of_folderParsers? hparsers
  obtain ⟨given, hgiven, hsame, hlanguages⟩ := exists_folder_of_mem_load hentry
  refine ⟨given, hgiven, by rw [Path.isIn_congr_right hsame]; exact hfile, ?_⟩
  rw [Environment.fileParsers?, hlanguages]
  exact hget

theorem folderParsers?_load_isSome (general : LanguageMap) {file : Path} {language : String}
    (hfolder : folder ∈ folders) (hfile : file.isIn folder = true)
    (hgiven : (environment.fileParsers? folder language).isSome = true) :
    ((LanguageTable.mk general (load environment folders)).folderParsers? file language).isSome =
      true := by
  obtain ⟨parsers, hparsers⟩ := Option.isSome_iff_exists.mp hgiven
  obtain ⟨languages, hlanguages, hget⟩ := Option.bind_eq_some_iff.mp hparsers
  have htable := get?_load_iff.mpr ⟨folder, hfolder, Path.sameAs_refl folder, hlanguages⟩
  obtain ⟨entry, hentry, hsame, rfl⟩ := exists_entry_of_get? htable
  rw [Option.isSome_iff_ne_none]
  intro hnone
  have hnot := LanguageTable.folderParsers?_eq_none_iff.mp hnone entry hentry
    (by rw [Path.isIn_congr_right hsame]; exact hfile)
  rw [hget] at hnot
  simp at hnot

end FolderLanguages

end FormatServer
