import FormatServer.Proofs.Disk.Spelling
import FormatServer.Proofs.Selector.Scope

/-!
# Selectors and parsers agree

Whether a document is admitted is decided from the folders, one after the other, each with the ids
that are enabled for it. Which parsers it has is looked up from the document, in all tables of the
folders around it. Both come to the same if the tables belong to folders that are asked and no table
lists a language without parsers.

The selectors know their folders only as these are shown. A document that is text and has a parser
is admitted all the same, for the folders around it are text as well. But a folder that is no text
is shown with a name that another folder may have, and what the one adds is then admitted in the
other, where no parser is found.
-/

namespace FormatServer

/-! ### Text in the parts of a path -/

namespace Glyph

def isText (glyph : Glyph) : Bool :=
  glyph.char?.isSome

end Glyph

namespace Component

def isText : Component → Bool
  | .root | .here | .up => true
  | .name value => value.all Glyph.isText

end Component

namespace Path

variable {path folder first second : Path}

theorem all_segments {isPlain : Glyph → Bool} (hslash : isPlain slash = true)
    (glyphs : List Glyph) :
    (segments glyphs).all (·.all isPlain) = glyphs.all isPlain := by
  induction glyphs with
  | nil => rfl
  | cons glyph rest ih =>
    by_cases hglyph : glyph = slash
    · rw [segments, if_pos hglyph, List.all_cons, ih, List.all_cons, hglyph, hslash]
      rfl
    · obtain ⟨head, more, hrest, hsegments⟩ := segments_cons_of_ne hglyph rest
      rw [hrest, List.all_cons] at ih
      rw [hsegments, List.all_cons, List.all_cons, List.all_cons, Bool.and_assoc, ih]

theorem all_component? (segment : Segment) :
    (Segment.component? segment).all Component.isText = segment.all Glyph.isText := by
  by_cases hempty : Segment.isEmpty segment = true
  · have hcases : segment = [] ∨ segment = Segment.here := by
      simpa [Segment.isEmpty] using hempty
    rcases hcases with rfl | rfl
    · rfl
    · rfl
  · by_cases hup : segment = Segment.up
    · rw [hup]
      rfl
    · rw [Segment.component?, if_neg hempty, if_neg hup]
      rfl

theorem isText_eq_lead (path : Path) : path.isText = path.lead.2.all Glyph.isText := by
  obtain ⟨glyphs⟩ := path
  rw [lead]
  cases glyphs with
  | nil => rfl
  | cons glyph rest =>
    dsimp only
    split
    next hslash => rw [hslash]; rfl
    next =>
      split
      next hdot => rw [hdot.1]; rfl
      next => rfl

/-- All of the path is text if its components are, for what else is in it are slashes and dots. -/
theorem isText_iff_components :
    path.isText = true ↔ ∀ component ∈ path.components, component.isText = true := by
  have hmark : ∀ component ∈ leadComponents path.lead.1, component.isText = true := by
    intro component hcomponent
    rw [leadComponents] at hcomponent
    split at hcomponent
    next => simp at hcomponent
    next =>
      split at hcomponent
      next => rw [List.mem_singleton.mp hcomponent]; rfl
      next => rw [List.mem_singleton.mp hcomponent]; rfl
  have hnames : path.isText = true ↔ ∀ segment ∈ segments path.lead.2,
      (Segment.component? segment).all Component.isText = true := by
    rw [isText_eq_lead, ← all_segments (by rfl), List.all_eq_true]
    simp only [all_component?]
  rw [hnames, components]
  constructor
  · intro htext component hcomponent
    rcases List.mem_append.mp hcomponent with hcomponent | hcomponent
    · exact hmark component hcomponent
    · obtain ⟨segment, hsegment, hname⟩ := List.mem_filterMap.mp hcomponent
      have hall := htext segment hsegment
      rw [hname] at hall
      exact hall
  · intro htext segment hsegment
    cases hname : Segment.component? segment with
    | none => rfl
    | some component =>
      exact htext component
        (List.mem_append_right _ (List.mem_filterMap.mpr ⟨segment, hsegment, hname⟩))

theorem isText_of_sameAs (hsame : first.sameAs second = true) (htext : second.isText = true) :
    first.isText = true := by
  rw [isText_iff_components] at htext ⊢
  rw [sameAs_iff.mp hsame]
  exact htext

/-- The folders around a path that is text are text. -/
theorem isText_of_isIn (hin : path.isIn folder = true) (htext : path.isText = true) :
    folder.isText = true := by
  rw [isText_iff_components] at htext ⊢
  intro component hcomponent
  exact htext component ((isIn_iff.mp hin).subset hcomponent)

end Path

namespace Selectors

variable {table : LanguageTable} {folders : List Path} {disabled : List String} {language : String}
  {path : Path}

/-- Where the folders with tables are text, one that is not has only the languages that all have. -/
theorem mem_enabledIds_of_not_isText {folder : Path}
    (htext : ∀ entry ∈ table.folders.entries, entry.1.isText = true)
    (hbroken : folder.isText = false) (henabled : language ∈ table.enabledIds (some folder))
    (other : Path) : language ∈ table.enabledIds (some other) := by
  rcases LanguageTable.mem_enabledIds.mp henabled with hbuiltin | hgeneral | ⟨languages, hget, -⟩
  · exact LanguageTable.mem_enabledIds.mpr (.inl hbuiltin)
  · exact LanguageTable.mem_enabledIds.mpr (.inr (.inl hgeneral))
  · obtain ⟨entry, hentry, hsame, -⟩ := FolderLanguages.exists_entry_of_get? hget
    rw [Path.sameAs_comm] at hsame
    rw [Path.isText_of_sameAs hsame (htext entry hentry)] at hbroken
    exact Bool.noConfusion hbroken

/-- A document in one of the folders has a parser if a folder around it has its language. -/
theorem parsers_ne_nil_iff_exists_folder (hfilled : table.IsFilled)
    (hdistinct : table.folders.HasDistinctFolders)
    (hasked : ∀ entry ∈ table.folders.entries, ∃ folder ∈ folders, folder.sameAs entry.1 = true)
    (hinside : ∃ folder ∈ folders, path.isStrictlyIn folder = true)
    (hfolder : ∀ folder ∈ folders, path.sameAs folder = false) :
    table.parsers (some path) language ≠ [] ↔
      ∃ folder ∈ folders, language ∈ table.enabledIds (some folder) ∧
        path.isStrictlyIn folder = true := by
  obtain ⟨around, haround, hin⟩ := hinside
  rw [LanguageTable.parsers_ne_nil_iff hfilled]
  constructor
  · rintro (hbuiltin | hgeneral | ⟨file, hfile, entry, hentry, hentryIn, hlanguage⟩)
    -- A language that no single folder adds is enabled for every folder, so any one will do.
    · exact ⟨around, haround, LanguageTable.mem_enabledIds.mpr (.inl hbuiltin), hin⟩
    · exact ⟨around, haround, LanguageTable.mem_enabledIds.mpr (.inr (.inl hgeneral)), hin⟩
    · obtain rfl := Option.some.inj hfile
      obtain ⟨folder, hmem, hsame⟩ := hasked entry hentry
      have hfolderIn : path.isIn folder = true := by
        rw [Path.isIn_congr_right hsame]
        exact hentryIn
      rw [Path.sameAs_comm] at hsame
      have hget := FolderLanguages.get?_of_mem hdistinct hentry hsame
      exact ⟨folder, hmem, LanguageTable.mem_enabledIds.mpr (.inr (.inr ⟨_, hget, hlanguage⟩)),
        Path.isStrictlyIn_iff.mpr ⟨hfolderIn, hfolder folder hmem⟩⟩
  · rintro ⟨folder, -, henabled, hpathIn⟩
    rcases LanguageTable.mem_enabledIds.mp henabled with hbuiltin | hgeneral | hadded
    · exact .inl hbuiltin
    · exact .inr (.inl hgeneral)
    · obtain ⟨languages, hget, hlanguage⟩ := hadded
      obtain ⟨entry, hentry, hsame, rfl⟩ := FolderLanguages.exists_entry_of_get? hget
      have hentryIn : path.isIn entry.1 = true := by
        rw [Path.isIn_congr_right hsame]
        exact Path.isIn_of_isStrictlyIn hpathIn
      exact .inr (.inr ⟨path, rfl, entry, hentry, hentryIn, hlanguage⟩)

/-- Of the folders that are shown around a path which is text, those that are text are around it. -/
theorem exists_shown_iff (hpath : path.isText = true) :
    (∃ folder ∈ folders, language ∈ table.enabledIds (some folder) ∧
        path.isStrictlyIn folder.shown = true) ↔
      (∃ folder ∈ folders, language ∈ table.enabledIds (some folder) ∧
        path.isStrictlyIn folder = true) ∨
      ∃ folder ∈ folders, folder.isText = false ∧ language ∈ table.enabledIds (some folder) ∧
        path.isStrictlyIn folder.shown = true := by
  constructor
  · rintro ⟨folder, hmem, henabled, hin⟩
    cases htext : folder.isText with
    | true =>
      rw [Path.shown_of_isText htext] at hin
      exact .inl ⟨folder, hmem, henabled, hin⟩
    | false => exact .inr ⟨folder, hmem, htext, henabled, hin⟩
  · rintro (⟨folder, hmem, henabled, hin⟩ | ⟨folder, hmem, -, henabled, hin⟩)
    · have htext := Path.isText_of_isIn (Path.isIn_of_isStrictlyIn hin) hpath
      rw [← Path.shown_of_isText htext] at hin
      exact ⟨folder, hmem, henabled, hin⟩
    · exact ⟨folder, hmem, henabled, hin⟩

/-- Where the tables belong to folders that are asked, a document in one of the folders is admitted
if it has a parser and its language is not disabled. The converse holds if the folders with tables
are text. In general it fails exactly for a document without a parser that lies where a folder which
is no text and has its language is shown. -/
theorem admits_compute_iff_parsers_iff (hfilled : table.IsFilled)
    (hdistinct : table.folders.HasDistinctFolders)
    (hasked : ∀ entry ∈ table.folders.entries, ∃ folder ∈ folders, folder.sameAs entry.1 = true)
    (hpath : path.isText = true) (hinside : ∃ folder ∈ folders, path.isStrictlyIn folder = true)
    (hfolder : ∀ folder ∈ folders, path.sameAs folder = false) :
    let selectors := compute table.scopes folders disabled
    let admitted := selectors.admits language "file" (some path) = true
    let formatted := language ∉ disabled ∧ table.parsers (some path) language ≠ []
    (formatted → admitted) ∧
    ((∀ entry ∈ table.folders.entries, entry.1.isText = true) → (admitted ↔ formatted)) ∧
    ((admitted ↔ formatted) ↔
      ¬(language ∉ disabled ∧ table.parsers (some path) language = [] ∧
        ∃ folder ∈ folders, folder.isText = false ∧ language ∈ table.enabledIds (some folder) ∧
          path.isStrictlyIn folder.shown = true)) := by
  intro selectors admitted formatted
  obtain ⟨around, haround, hin⟩ := hinside
  have hparsers : table.parsers (some path) language ≠ [] ↔ _ :=
    parsers_ne_nil_iff_exists_folder hfilled hdistinct hasked ⟨around, haround, hin⟩ hfolder
  have hadmitted : admitted ↔ language ∉ disabled ∧
      (table.parsers (some path) language ≠ [] ∨
        ∃ folder ∈ folders, folder.isText = false ∧ language ∈ table.enabledIds (some folder) ∧
          path.isStrictlyIn folder.shown = true) := by
    have hscheme : "file" ∈ schemes := by decide
    rw [hparsers, ← exists_shown_iff hpath]
    exact (admits_compute_iff (List.ne_nil_of_mem haround)).trans (and_iff_right hscheme)
  refine ⟨fun hformatted => hadmitted.mpr (hformatted.imp_right .inl), fun htext => ?_, ?_⟩
  · refine hadmitted.trans (and_congr_right fun _ => or_iff_left_of_imp ?_)
    rintro ⟨folder, -, hbroken, henabled, -⟩
    have heverywhere := mem_enabledIds_of_not_isText htext hbroken henabled
    exact hparsers.mpr ⟨around, haround, heverywhere around, hin⟩
  · rw [hadmitted]
    grind

/-- Folders within folders, one of them oddly written, of which the inner one adds a language. -/
def nestedTable : LanguageTable where
  general := ⟨[("vue", ["vue"])]⟩
  folders := .ofList [
    (Path.ofString "/ws", ⟨[("json", ["json5"])]⟩),
    (Path.ofString "/ws//./app/", ⟨[("svelte", ["svelte"])]⟩)]

theorem nested_folder_admits :
    (compute nestedTable.scopes [Path.ofString "/ws", Path.ofString "/ws/app"] ["vue"]).admits
      "svelte" "file" (some (Path.ofString "/ws/app/App.svelte")) = true := by
  have hfilled : nestedTable.IsFilled := ⟨by decide, by decide⟩
  have hasked : ∀ entry ∈ nestedTable.folders.entries,
      ∃ folder ∈ [Path.ofString "/ws", Path.ofString "/ws/app"],
        folder.sameAs entry.1 = true := by
    decide
  have hinside : ∃ folder ∈ [Path.ofString "/ws", Path.ofString "/ws/app"],
      (Path.ofString "/ws/app/App.svelte").isStrictlyIn folder = true := by
    decide
  obtain ⟨-, hiff, -⟩ := admits_compute_iff_parsers_iff hfilled (by decide) hasked (by decide)
    hinside (by decide)
  exact (hiff (by decide)).mpr ⟨by decide, by decide⟩

/-- A folder whose name is one byte that is no text. -/
def brokenFolder : Path :=
  ⟨(Path.ofString "/ws/").glyphs ++ [.broken [0xFF]]⟩

/-- The folder that it is shown as. -/
def shownFolder : Path :=
  Path.ofString "/ws/\uFFFD"

def brokenTable : LanguageTable :=
  ⟨.empty, .ofList [(brokenFolder, ⟨[("svelte", ["svelte"])]⟩)]⟩

/-- The language that one folder adds is admitted in the sibling which has the name that the folder
is shown with, where it has no parser, and in the folder itself it is not. -/
theorem shown_sibling_admits_unparsed :
    let folders := [brokenFolder, shownFolder]
    let selectors := compute brokenTable.scopes folders []
    let file := shownFolder.join "App.svelte"
    let added := brokenFolder.join "App.svelte"
    brokenTable.IsFilled ∧ brokenTable.folders.HasDistinctFolders ∧
      (∀ entry ∈ brokenTable.folders.entries, ∃ folder ∈ folders,
        folder.sameAs entry.1 = true) ∧
      file.isText = true ∧ (∃ folder ∈ folders, file.isStrictlyIn folder = true) ∧
      (∀ folder ∈ folders, file.sameAs folder = false) ∧
      brokenFolder.sameAs shownFolder = false ∧
      selectors.admits "svelte" "file" (some file) = true ∧
      brokenTable.parsers (some file) "svelte" = [] ∧
      selectors.admits "svelte" "file" (some added) = false ∧
      brokenTable.parsers (some added) "svelte" = ["svelte"] := by
  refine ⟨⟨by decide, by decide⟩, ?_⟩
  decide +kernel

end Selectors

end FormatServer
