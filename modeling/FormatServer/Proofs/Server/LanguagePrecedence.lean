import FormatServer.Proofs.Server.Loading

/-!
# Settings of the client and of the root

In the settings the client's layer lies above the one of the root's file. But where the root is one
of the folders its file is read a second time, for the languages of that folder, and these are
looked up before the settings. So for the documents in such a root the file goes before the client.
-/

namespace FormatServer.Session

variable {environment : Environment} {session : Session} {root file : Path} {language : String}
  {clientParsers fileParsers : List String}

/-- In the settings the client's parsers count. -/
theorem general_reload_of_client
    (hclient : Layer.parsers? (LoadedLayer.ofClient session.client).layer language =
      some clientParsers) :
    (session.reload environment).session.settings.languages.get? language = some clientParsers := by
  rw [general_reload]
  simp [Settings.layers, hclient]

/-- Without a folder that has the language for the file, the settings give its parsers. -/
theorem parsers_reload_of_client
    (hclient : Layer.parsers? (LoadedLayer.ofClient session.client).layer language =
      some clientParsers)
    (hfolders : ∀ folder ∈ session.folders, file.isIn folder = true →
      environment.fileParsers? folder language = none) :
    (session.reload environment).session.languages.parsers (some file) language =
      clientParsers := by
  rw [languages_reload]
  exact LanguageTable.parsers_of_general
    (FolderLanguages.folderParsers?_load_eq_none _ hfolders) (general_reload_of_client hclient)

/-- A file that lies in no other folder than the root has the parsers that the root's file gives,
if the root is a folder. -/
theorem parsers_reload_of_folder (hfile : environment.fileParsers? root language = some fileParsers)
    (hin : file.isIn root = true)
    (honly : ∀ folder ∈ session.folders, file.isIn folder = true → folder.sameAs root = true)
    (hfolder : ∃ folder ∈ session.folders, folder.sameAs root = true ∧
      (environment.fileParsers? folder language).isSome = true) :
    (session.reload environment).session.languages.parsers (some file) language = fileParsers := by
  obtain ⟨folder, hfolder, hsame, hsome⟩ := hfolder
  have hinFolder : file.isIn folder = true := by
    rw [Path.isIn_congr_right hsame]
    exact hin
  have hfound := FolderLanguages.folderParsers?_load_isSome
    (session.reload environment).session.settings.languages hfolder hinFolder hsome
  obtain ⟨parsers, hparsers⟩ := Option.isSome_iff_exists.mp hfound
  obtain ⟨other, hother, hinOther, hgiven⟩ :=
    FolderLanguages.exists_folder_of_folderParsers?_load hparsers
  obtain rfl := Environment.fileParsers?_unique (honly other hother hinOther) hgiven hfile
  rw [languages_reload]
  exact LanguageTable.parsers_of_folderParsers? hparsers

/-- Where the root's file and the client both have a language, a file that lies in the root and in
no other folder has the client's parsers exactly if the root's file is not read again as that of a
folder, or if it gives the same ones. -/
theorem parsers_reload_eq_client_iff (hroot : session.root = some root)
    (hproject : Layer.parsers? (LoadedLayer.ofProject environment session.root).layer language =
      some fileParsers)
    (hclient : Layer.parsers? (LoadedLayer.ofClient session.client).layer language =
      some clientParsers)
    (hin : file.isIn root = true)
    (honly : ∀ folder ∈ session.folders, file.isIn folder = true → folder.sameAs root = true) :
    (session.reload environment).session.languages.parsers (some file) language = clientParsers ↔
      ((∃ folder ∈ session.folders, folder.sameAs root = true ∧
        (environment.fileParsers? folder language).isSome = true) →
          fileParsers = clientParsers) := by
  have hfile : environment.fileParsers? root language = some fileParsers := by
    rw [hroot] at hproject
    exact hproject
  by_cases hfolder : ∃ folder ∈ session.folders, folder.sameAs root = true ∧
    (environment.fileParsers? folder language).isSome = true
  · rw [parsers_reload_of_folder hfile hin honly hfolder, forall_prop_of_true hfolder]
  · refine iff_of_true (parsers_reload_of_client hclient ?_) fun hexists => absurd hexists hfolder
    intro folder hmem hinFolder
    rw [← Option.not_isSome_iff_eq_none]
    intro hsome
    exact hfolder ⟨folder, hmem, honly folder hmem hinFolder, hsome⟩

/-! ### A root and a client with different parsers for Vue -/

/-- The root reads Vue as HTML. -/
def vueEnvironment : Environment :=
  .ofSettings [Segment.ofString "ws"] "[languages]\nvue = [\"html\"]\n"

/-- The client has Vue read as Markdown. -/
def vueIntroduction (folders : List String) : Introduction :=
  { Introduction.ofFolders folders with
    root := some ⟨"file:///ws"⟩
    options := some (.record [("languages", .record [("vue", .list [.text "markdown"])])]) }

/-- A root that is no folder leaves it to the client. -/
theorem client_parsers_without_folders :
    (loaded vueEnvironment (vueIntroduction [])).languages.parsers
      (some (Path.ofString "/ws/App.vue")) "vue" = ["markdown"] := by
  have hroot : (introduced vueEnvironment (vueIntroduction [])).root =
      some (Path.ofString "/ws") := by
    decide +kernel
  have hproject : Layer.parsers? (LoadedLayer.ofProject vueEnvironment
      (introduced vueEnvironment (vueIntroduction [])).root).layer "vue" = some ["html"] := by
    rw [hroot]
    decide +kernel
  have hclient : Layer.parsers? (LoadedLayer.ofClient
      (introduced vueEnvironment (vueIntroduction [])).client).layer "vue" =
        some ["markdown"] := by
    decide +kernel
  have hin : (Path.ofString "/ws/App.vue").isIn (Path.ofString "/ws") = true := by
    decide
  refine (parsers_reload_eq_client_iff hroot hproject hclient hin ?_).mpr ?_
  · intro folder hfolder
    simp [introduced, vueIntroduction, Introduction.ofFolders] at hfolder
  · rintro ⟨folder, hfolder, -⟩
    simp [introduced, vueIntroduction, Introduction.ofFolders] at hfolder

/-- A root that is a folder does not, although the settings have the client's parsers. -/
theorem root_parsers_with_folder :
    let session := begun vueEnvironment (fun _ => none) (vueIntroduction ["file:///ws"])
    session.root = some (Path.ofString "/ws") ∧ session.folders = [Path.ofString "/ws"] ∧
      Layer.parsers? (LoadedLayer.ofProject vueEnvironment session.root).layer "vue" =
        some ["html"] ∧
      Layer.parsers? (LoadedLayer.ofClient session.client).layer "vue" = some ["markdown"] ∧
      (Path.ofString "/ws/App.vue").isIn (Path.ofString "/ws") = true ∧
      session.settings.languages.get? "vue" = some ["markdown"] ∧
      session.languages.parsers (some (Path.ofString "/ws/App.vue")) "vue" = ["html"] := by
  decide +kernel

end FormatServer.Session
