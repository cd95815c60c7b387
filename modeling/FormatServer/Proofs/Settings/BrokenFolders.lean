import FormatServer.Proofs.Settings.BrokenSources
import FormatServer.Proofs.Settings.Folders

/-!
# Broken files of folders

A folder has the languages of its own settings file, whatever the files of the other folders are
like. A file that is there and cannot be read or decoded adds nothing, and what is wrong with it is
noted as a warning. But no warning gets to the log: those of a file are written with the languages
that it gives, and a file that is warned of gives none.
-/

namespace FormatServer

namespace Environment

/-- The folder's settings file exists, can be read and decoded, and has this table of languages. -/
def Adds (environment : Environment) (folder : Path) (languages : LanguageMap) : Prop :=
  environment.contains (folder.join settingsFileName) = true ∧
    ∃ text layer, environment.readText (folder.join settingsFileName) = .ok text ∧
      Layer.ofToml text = .ok layer ∧ layer.languages = some languages

/-- What is wrong with a folder's settings file that exists and cannot be read or decoded. -/
def fault? (environment : Environment) (folder : Path) : Option LayerError :=
  if environment.contains (folder.join settingsFileName) then
    match environment.readText (folder.join settingsFileName) with
    | .error error => some (.unreadable error)
    | .ok text =>
      match Layer.ofToml text with
      | .error error => some error
      | .ok _ => none
  else none

/-- The line that would tell what is wrong with a folder's settings file. -/
def faultLine? (environment : Environment) (folder : Path) : Option LogLine :=
  (environment.fault? folder).map fun fault =>
    ⟨.warning, .settings, LoadedLayer.projectFailure fault⟩

variable {environment : Environment} {folder : Path}

theorem fileLanguages?_eq_some_iff {languages : LanguageMap} :
    environment.fileLanguages? folder = some languages ↔ environment.Adds folder languages := by
  constructor
  · intro hlanguages
    obtain ⟨layer, hlayer, hlanguages⟩ := Option.bind_eq_some_iff.mp hlanguages
    obtain ⟨text, htext, hdecode⟩ :=
      Layer.exists_text_of_ofFile (LoadedLayer.ofFile_of_ofFolder hlayer)
    obtain ⟨found, hfound⟩ := exists_found_of_readText htext
    exact ⟨by rw [contains, hfound], text, layer, htext, hdecode, hlanguages⟩
  · rintro ⟨hpresent, text, layer, htext, hdecode, hlanguages⟩
    have hfile : Layer.ofFile environment (folder.join settingsFileName) = some (.ok layer) := by
      rw [Layer.ofFile, if_pos hpresent, htext, ← hdecode]
    rw [fileLanguages?, LoadedLayer.ofFolder, hfile]
    exact hlanguages

/-- A folder's file is not there, or it gives a layer, or there is something wrong with it. -/
theorem ofFile_cases (environment : Environment) (folder : Path) :
    (Layer.ofFile environment (folder.join settingsFileName) = none ∧
      environment.fault? folder = none) ∨
    (∃ layer, Layer.ofFile environment (folder.join settingsFileName) = some (.ok layer) ∧
      environment.fault? folder = none) ∨
    ∃ fault, Layer.ofFile environment (folder.join settingsFileName) = some (.error fault) ∧
      environment.fault? folder = some fault := by
  rw [Layer.ofFile, fault?]
  split_ifs with hpresent
  · cases environment.readText (folder.join settingsFileName) with
    | error error => exact .inr (.inr ⟨.unreadable error, rfl, rfl⟩)
    | ok text =>
      dsimp only
      cases Layer.ofToml text with
      | error error => exact .inr (.inr ⟨error, rfl, rfl⟩)
      | ok layer => exact .inr (.inl ⟨layer, rfl, rfl⟩)
  · exact .inl ⟨rfl, rfl⟩

/-- A file is warned of exactly if there is something wrong with it. -/
theorem warnings_ofFolder (environment : Environment) (folder : Path) :
    (LoadedLayer.ofFolder environment folder).notices.filter Notice.isWarning =
      (environment.fault? folder).toList.map fun fault =>
        .warning (LoadedLayer.projectFailure fault) := by
  rw [LoadedLayer.ofFolder]
  obtain ⟨hfile, hfault⟩ | ⟨layer, hfile, hfault⟩ | ⟨fault, hfile, hfault⟩ :=
    ofFile_cases environment folder
  all_goals
    rw [hfile, hfault]
    rfl

/-- A file with something wrong gives no layer. -/
theorem fault?_of_layer {layer : Layer}
    (hlayer : (LoadedLayer.ofFolder environment folder).layer = some layer) :
    environment.fault? folder = none := by
  have hread := LoadedLayer.ofFile_of_ofFolder hlayer
  obtain ⟨-, hfault⟩ | ⟨-, -, hfault⟩ | ⟨fault, hfile, -⟩ := ofFile_cases environment folder
  · exact hfault
  · exact hfault
  · rw [hfile] at hread
    cases Option.some.inj hread

end Environment

namespace FolderLanguages

/-- Whatever the files are like, nothing goes to the log. -/
theorem logLines_eq_nil (environment : Environment) (folders : List Path) :
    logLines environment folders = [] := by
  rw [logLines, List.flatMap_eq_nil_iff]
  intro folder _
  dsimp only
  split
  next => rfl
  next languages hlanguages =>
    obtain ⟨layer, hlayer, -⟩ := Option.bind_eq_some_iff.mp hlanguages
    rw [Environment.warnings_ofFolder, Environment.fault?_of_layer hlayer]
    rfl

/-- The table has for a folder what the folder's own file adds. Its file counts alone, and the
faults of the files are all told exactly if there are none. -/
theorem get?_load_and_logLines_iff (environment : Environment) (folders : List Path) :
    (load environment folders).HasDistinctFolders ∧
    (∀ folder languages, (load environment folders).get? folder = some languages ↔
      ∃ given ∈ folders, given.sameAs folder = true ∧ environment.Adds given languages) ∧
    (∀ folder, (load environment folders).get? folder =
      (load environment (folders.filter (·.sameAs folder))).get? folder) ∧
    logLines environment folders = [] ∧
    (logLines environment folders = folders.filterMap environment.faultLine? ↔
      ∀ folder ∈ folders, environment.fault? folder = none) := by
  have hentry : ∀ folders : List Path, ∀ folder languages,
      (load environment folders).get? folder = some languages ↔
        ∃ given ∈ folders, given.sameAs folder = true ∧ environment.Adds given languages := by
    intro folders folder languages
    rw [get?_load_iff]
    simp only [Environment.fileLanguages?_eq_some_iff]
  refine ⟨hasDistinctFolders_ofList _, hentry folders, ?_, logLines_eq_nil environment folders, ?_⟩
  · intro folder
    apply Option.ext
    intro languages
    rw [hentry, hentry]
    simp only [List.mem_filter, and_assoc, and_self_left]
  · rw [logLines_eq_nil, eq_comm, List.filterMap_eq_nil_iff]
    simp only [Environment.faultLine?, Option.map_eq_none_iff]

/-- A directory where the settings file should be cannot be read, and the log says nothing. -/
theorem unreadable_file_untold :
    let environment : Environment :=
      { disk :=
          Disk.empty.place [Segment.ofString "ws", Segment.ofString settingsFileName] .directory
        directory := [], home := none, searchPath := none, configHome := none }
    [Path.ofString "/ws"].filterMap environment.faultLine? =
        [⟨.warning, .settings, "Failed to read prettier-ls.toml: Is a directory (os error 21)"⟩] ∧
      logLines environment [Path.ofString "/ws"] = [] := by
  decide +kernel

end FolderLanguages

end FormatServer
