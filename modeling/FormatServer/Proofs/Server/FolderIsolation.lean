import FormatServer.Proofs.Selector.Scope
import FormatServer.Proofs.Server.Loading

/-!
# Languages of one folder beside it

A language in the settings file of a folder is meant for the documents in that folder. It reaches
the session by two ways: with the languages of the folders, which are looked up by place, and, from
the first folder, with the settings of the whole workspace. The first way keeps a language out of
the folders beside its own. The second does not, so where the session starts in several folders the
first one's languages count in all of them.
-/

namespace FormatServer.Session

variable {environment : Environment} {introduction : Introduction} {root added sibling path : Path}
  {others : List Path} {language scheme : String}

/-- A beginning with folders at which neither the user nor the client gives any settings. -/
structure StartsInFolders (environment : Environment) (introduction : Introduction) (root : Path)
    (others : List Path) : Prop where
  folders : introduction.folders.filterMap Uri.path? = root :: others
  user : environment.userLayer = none
  options : introduction.options = none

/-- A language that is not builtin and that the settings file of just one folder has. -/
structure AddedOnlyIn (environment : Environment) (folders : List Path) (added : Path)
    (language : String) : Prop where
  mem : added ∈ folders
  notBuiltin : language ∉ LanguageTable.builtinIds
  given : (environment.fileParsers? added language).isSome = true
  only : ∀ folder ∈ folders, (environment.fileParsers? folder language).isSome = true →
    folder.sameAs added = true

/-- The session formats no document of the language at the path and has no parser for one. -/
def Disregards (session : Session) (language : String) (path : Path) : Prop :=
  (∀ scheme, session.selectors.admits language scheme (some path) = false ∧
    session.selectors.admitsRange language scheme (some path) = false) ∧
  session.languages.parsers (some path) language = []

/-! ### What is loaded at the beginning -/

theorem layers_introduced (hstart : StartsInFolders environment introduction root others) :
    Settings.layers environment (introduced environment introduction).root
        (introduced environment introduction).client =
      [some Layer.defaults, none, (LoadedLayer.ofFolder environment root).layer, none] := by
  have huser : (LoadedLayer.ofUser environment).layer = none := by
    rw [LoadedLayer.ofUser, hstart.user]
    rfl
  simp only [introduced, hstart.folders, hstart.options, Option.map_none, List.head?_cons,
    Option.some_or, Settings.layers, huser]
  rfl

/-- The settings have the languages of the first folder. -/
theorem general_loaded (hstart : StartsInFolders environment introduction root others)
    (language : String) :
    (loaded environment introduction).settings.languages.get? language =
      environment.fileParsers? root language := by
  rw [loaded, general_reload, layers_introduced hstart]
  change _ = Layer.parsers? (LoadedLayer.ofFolder environment root).layer language
  cases hparsers : Layer.parsers? (LoadedLayer.ofFolder environment root).layer language with
  | none => simp [List.findSome?_cons, hparsers]
  | some parsers => simp [List.findSome?_cons, hparsers]

theorem disabled_loaded (hstart : StartsInFolders environment introduction root others) :
    (loaded environment introduction).settings.disableLanguages =
      environment.fileDisabled root := by
  rw [loaded, disabled_reload, layers_introduced hstart, Environment.fileDisabled]
  cases hdisabled : (LoadedLayer.ofFolder environment root).layer.bind Layer.disableLanguages with
  | none => simp [hdisabled, Layer.defaults]
  | some disabled => simp [hdisabled]

theorem languages_loaded (hstart : StartsInFolders environment introduction root others) :
    (loaded environment introduction).languages =
      ⟨(loaded environment introduction).settings.languages,
        .load environment (root :: others)⟩ := by
  rw [loaded, languages_reload, introduced, hstart.folders]

/-! ### A language of one folder -/

theorem isSome_get?_load_iff (hadded : AddedOnlyIn environment (root :: others) added language)
    (folder : Path) :
    (∃ languages, (FolderLanguages.load environment (root :: others)).get? folder =
        some languages ∧ (languages.get? language).isSome = true) ↔
      folder.sameAs added = true := by
  constructor
  · rintro ⟨languages, hlanguages, hsome⟩
    obtain ⟨given, hgiven, hsame, hfile⟩ := FolderLanguages.get?_load_iff.mp hlanguages
    have hadds : (environment.fileParsers? given language).isSome = true := by
      rw [Environment.fileParsers?, hfile]
      exact hsome
    rw [Path.sameAs_comm] at hsame
    exact Path.sameAs_trans hsame (hadded.only given hgiven hadds)
  · intro hsame
    obtain ⟨parsers, hparsers⟩ := Option.isSome_iff_exists.mp hadded.given
    obtain ⟨languages, hlanguages, hget⟩ := Option.bind_eq_some_iff.mp hparsers
    rw [Path.sameAs_comm] at hsame
    refine ⟨languages, ?_, by rw [hget]; rfl⟩
    exact FolderLanguages.get?_load_iff.mpr ⟨added, hadded.mem, hsame, hlanguages⟩

theorem mem_enabledIds_loaded (hstart : StartsInFolders environment introduction root others)
    (hadded : AddedOnlyIn environment (root :: others) added language) (folder : Path) :
    language ∈ (loaded environment introduction).languages.enabledIds (some folder) ↔
      (environment.fileParsers? root language).isSome = true ∨ folder.sameAs added = true := by
  rw [languages_loaded hstart, LanguageTable.mem_enabledIds, general_loaded hstart,
    isSome_get?_load_iff hadded, or_iff_right hadded.notBuiltin]

/-- The language is admitted under its own folder, and under all of them if the first one has it. -/
theorem admits_begun_iff (client : Client)
    (hstart : StartsInFolders environment introduction root others)
    (hadded : AddedOnlyIn environment (root :: others) added language) :
    (begun environment client introduction).selectors.admits language scheme (some path) = true ↔
      scheme ∈ Selectors.schemes ∧ language ∉ environment.fileDisabled root ∧
        ∃ folder ∈ root :: others,
          ((environment.fileParsers? root language).isSome = true ∨ folder.sameAs added = true) ∧
            path.isStrictlyIn folder.shown = true := by
  have hfolders : (loaded environment introduction).folders = root :: others := hstart.folders
  rw [selectors_begun, computeSelectors, hfolders, disabled_loaded hstart,
    Selectors.admits_compute_iff (List.cons_ne_nil root others)]
  simp only [LanguageTable.scopes, mem_enabledIds_loaded hstart hadded]

theorem admitsRange_begun (client : Client)
    (hadded : AddedOnlyIn environment (root :: others) added language) (place : Option Path) :
    (begun environment client introduction).selectors.admitsRange language scheme place = false := by
  rw [Bool.eq_false_iff]
  intro hadmits
  rw [selectors_begun] at hadmits
  have hbuiltin : ∀ id ∈ Language.rangeIds, id ∈ LanguageTable.builtinIds := by decide
  exact hadded.notBuiltin (hbuiltin language (Selectors.mem_range_of_admitsRange hadmits))

/-- Outside its folder the language has the parsers that the first folder gives. -/
theorem parsers_begun_of_outside (client : Client)
    (hstart : StartsInFolders environment introduction root others)
    (hadded : AddedOnlyIn environment (root :: others) added language)
    (houtside : path.isIn added = false) :
    (begun environment client introduction).languages.parsers (some path) language =
      (environment.fileParsers? root language).getD [] := by
  have hgeneral := general_loaded hstart language
  rw [languages_begun, languages_loaded hstart]
  have hfolders : ∀ folder ∈ root :: others, path.isIn folder = true →
      environment.fileParsers? folder language = none := by
    intro folder hfolder hpath
    rw [← Option.not_isSome_iff_eq_none]
    intro hsome
    rw [Path.isIn_congr_right (hadded.only folder hfolder hsome), houtside] at hpath
    simp at hpath
  have hnone := FolderLanguages.folderParsers?_load_eq_none
    (loaded environment introduction).settings.languages hfolders
  cases hroot : environment.fileParsers? root language with
  | none => exact LanguageTable.parsers_of_unknown hnone (hgeneral.trans hroot) hadded.notBuiltin
  | some parsers => exact LanguageTable.parsers_of_general hnone (hgeneral.trans hroot)

/-- In a folder beside its own a language is disregarded exactly if the first folder does not bring
it there. That folder's file gives the language no parser, and either disables it or leaves it
disabled in every folder that, as folders are shown, the document lies in. -/
theorem disregards_beside_iff (client : Client)
    (hstart : StartsInFolders environment introduction root others)
    (hadded : AddedOnlyIn environment (root :: others) added language)
    (happart : added.isIn sibling = false) (hsibling : sibling.isIn added = false)
    (hpath : path.isStrictlyIn sibling = true) :
    (begun environment client introduction).Disregards language path ↔
      (environment.fileParsers? root language).getD [] = [] ∧
        (language ∈ environment.fileDisabled root ∨
          ∀ folder ∈ root :: others, path.isStrictlyIn folder.shown = true →
            environment.fileParsers? root language = none ∧ folder.sameAs added = false) := by
  have houtside := Path.isIn_eq_false_of_apart happart hsibling (Path.isIn_of_isStrictlyIn hpath)
  rw [Disregards, parsers_begun_of_outside client hstart hadded houtside, and_comm]
  refine and_congr_right fun _ => ?_
  constructor
  · intro hadmits
    by_cases hdisabled : language ∈ environment.fileDisabled root
    · exact .inl hdisabled
    · refine .inr fun folder hfolder hshown => ?_
      -- One scheme is enough: the folders admit the same documents of each.
      have hnot := Bool.eq_false_iff.mp (hadmits "file").1
      rw [Ne, admits_begun_iff client hstart hadded] at hnot
      refine ⟨Option.not_isSome_iff_eq_none.mp ?_, Bool.eq_false_iff.mpr ?_⟩
      · intro hroot
        exact hnot ⟨by decide, hdisabled, folder, hfolder, .inl hroot, hshown⟩
      · intro hsame
        exact hnot ⟨by decide, hdisabled, folder, hfolder, .inr hsame, hshown⟩
  · intro hcase scheme
    refine ⟨Bool.eq_false_iff.mpr ?_, admitsRange_begun client hadded (some path)⟩
    intro hadmits
    obtain ⟨-, hdisabled, folder, hfolder, henabled, hshown⟩ :=
      (admits_begun_iff client hstart hadded).mp hadmits
    rcases hcase with hcase | hcase
    · exact hdisabled hcase
    · obtain ⟨hnone, hother⟩ := hcase folder hfolder hshown
      rcases henabled with hsome | hsame
      · simp [hnone] at hsome
      · simp [hother] at hsame

/-! ### Two folders, one of which adds a language -/

/-- One of two folders has a parser for Svelte. -/
def svelteEnvironment : Environment :=
  .ofSettings [Segment.ofString "ws", Segment.ofString "a"] "[languages]\nsvelte = [\"svelte\"]\n"

/-- The folder that is opened after the other one keeps its language to itself. -/
theorem second_folder_disregarded_beside :
    (begun svelteEnvironment (fun _ => none)
      (Introduction.ofFolders ["file:///ws/b", "file:///ws/a"])).Disregards "svelte"
        (Path.ofString "/ws/b/App.svelte") := by
  have hstart : StartsInFolders svelteEnvironment
      (Introduction.ofFolders ["file:///ws/b", "file:///ws/a"])
      (Path.ofString "/ws/b") [Path.ofString "/ws/a"] :=
    ⟨by decide +kernel, rfl, rfl⟩
  have hadded : AddedOnlyIn svelteEnvironment [Path.ofString "/ws/b", Path.ofString "/ws/a"]
      (Path.ofString "/ws/a") "svelte" :=
    ⟨by decide, by decide, by decide +kernel, by decide +kernel⟩
  have happart : (Path.ofString "/ws/a").isIn (Path.ofString "/ws/b") = false := by decide
  have hsibling : (Path.ofString "/ws/b").isIn (Path.ofString "/ws/a") = false := by decide
  have hpath : (Path.ofString "/ws/b/App.svelte").isStrictlyIn (Path.ofString "/ws/b") = true := by
    decide
  have hroot : svelteEnvironment.fileParsers? (Path.ofString "/ws/b") "svelte" = none := by
    decide +kernel
  have hshown : ∀ folder ∈ [Path.ofString "/ws/b", Path.ofString "/ws/a"],
      (Path.ofString "/ws/b/App.svelte").isStrictlyIn folder.shown = true →
        folder.sameAs (Path.ofString "/ws/a") = false := by
    decide
  refine (disregards_beside_iff (fun _ => none) hstart hadded happart hsibling hpath).mpr ⟨?_, ?_⟩
  · rw [hroot]
    rfl
  · exact .inr fun folder hfolder hpath => ⟨hroot, hshown folder hfolder hpath⟩

/-- The folder that is opened first does not, although no other one has the language. -/
theorem first_folder_regarded_beside :
    StartsInFolders svelteEnvironment (Introduction.ofFolders ["file:///ws/a", "file:///ws/b"])
        (Path.ofString "/ws/a") [Path.ofString "/ws/b"] ∧
      AddedOnlyIn svelteEnvironment [Path.ofString "/ws/a", Path.ofString "/ws/b"]
        (Path.ofString "/ws/a") "svelte" ∧
      (Introduction.ofFolders ["file:///ws/a", "file:///ws/b"]).capabilities.registersBoth = false ∧
      (Path.ofString "/ws/a").isIn (Path.ofString "/ws/b") = false ∧
      (Path.ofString "/ws/b").isIn (Path.ofString "/ws/a") = false ∧
      (Path.ofString "/ws/b/App.svelte").isStrictlyIn (Path.ofString "/ws/b") = true ∧
      let session := begun svelteEnvironment (fun _ => none)
        (Introduction.ofFolders ["file:///ws/a", "file:///ws/b"])
      session.selectors.admits "svelte" "file" (some (Path.ofString "/ws/b/App.svelte")) = true ∧
        session.languages.parsers (some (Path.ofString "/ws/b/App.svelte")) "svelte" =
          ["svelte"] := by
  have hstart : StartsInFolders svelteEnvironment
      (Introduction.ofFolders ["file:///ws/a", "file:///ws/b"])
      (Path.ofString "/ws/a") [Path.ofString "/ws/b"] :=
    ⟨by decide +kernel, rfl, rfl⟩
  have hadded : AddedOnlyIn svelteEnvironment [Path.ofString "/ws/a", Path.ofString "/ws/b"]
      (Path.ofString "/ws/a") "svelte" :=
    ⟨by decide, by decide, by decide +kernel, by decide +kernel⟩
  refine ⟨hstart, hadded, rfl, by decide, by decide, by decide, ?_, ?_⟩
  · rw [admits_begun_iff (fun _ => none) hstart hadded]
    refine ⟨by decide, by decide +kernel, Path.ofString "/ws/b", by decide, .inl hadded.given, ?_⟩
    decide
  · decide +kernel

end FormatServer.Session
