import FormatServer.Proofs.Language.Parsers
import FormatServer.Selector

/-!
# What the selectors admit

A selector keeps its folder only as the text of a pattern, from which the folder is read back. What
comes back is the folder as it is shown, which is the folder itself unless its name has bytes that
are no text. Up to that, the selectors admit a document in a folder if its language is enabled for
that folder and is not disabled.
-/

namespace FormatServer

namespace Path

/-- The path that the path's text writes. -/
def shown (path : Path) : Path :=
  ofString path.text

theorem map_char_shown {glyphs : List Glyph} (htext : ∀ glyph ∈ glyphs, glyph.char?.isSome = true) :
    (glyphs.map Glyph.shown).map Glyph.char = glyphs := by
  have hglyph : ∀ glyph ∈ glyphs, Glyph.char glyph.shown = glyph := by
    intro glyph hglyph
    have hchar := htext glyph hglyph
    cases glyph with
    | char c => rfl
    | broken bytes => simp [Glyph.char?] at hchar
  rw [List.map_map]
  exact (List.map_congr_left hglyph).trans (List.map_id' glyphs)

theorem shown_of_isText {path : Path} (htext : path.isText = true) : path.shown = path := by
  obtain ⟨glyphs⟩ := path
  rw [isText, List.all_eq_true] at htext
  simp only [shown, ofString, text, String.toList_ofList, map_char_shown htext]

end Path

namespace DocumentFilter

/-- A pattern gives its folder back as it is shown. -/
theorem folderOf?_patternOf (folder : Path) :
    folderOf? (patternOf folder) = some folder.shown := by
  have hchars : (patternOf folder).toList = folder.text.toList ++ patternEnd.toList := by
    rw [patternOf, String.toList_append]
  have hsuffix : patternEnd.toList.isSuffixOf (patternOf folder).toList = true := by
    rw [hchars, List.isSuffixOf_iff_suffix]
    exact List.suffix_append _ _
  rw [folderOf?, if_pos hsuffix, hchars, List.length_append, Nat.add_sub_cancel,
    List.take_left]
  rfl

end DocumentFilter

namespace Selectors

variable {scopes : LanguageScopes} {folders : List Path} {disabled : List String}
  {language scheme : String} {path : Path}

theorem mem_withSchemes {filters : List DocumentFilter} {filter : DocumentFilter} :
    filter ∈ withSchemes filters ↔
      ∃ given ∈ filters, ∃ scheme ∈ schemes, filter = { given with scheme := some scheme } := by
  simp [withSchemes, eq_comm]

/-- Of the filters for the languages that are not disabled, the one for the document's counts. -/
theorem any_enabled (ids : List String) (pattern : Option String) (place : Option Path) :
    ((ids.filter fun id => !disabled.contains id).map fun id => ⟨id, pattern, none⟩).any
        (fun filter : DocumentFilter => filter.admits language scheme place) = true ↔
      language ∈ ids ∧ language ∉ disabled ∧
        (DocumentFilter.mk language pattern none).admits language scheme place = true := by
  rw [List.any_map, List.any_eq_true]
  constructor
  · rintro ⟨id, hid, hadmits⟩
    obtain ⟨hmem, hkept⟩ := List.mem_filter.mp hid
    have hid : id = language := by
      simp only [Function.comp, DocumentFilter.admits, Bool.and_eq_true, decide_eq_true_eq]
        at hadmits
      exact hadmits.1.1
    rw [← hid]
    exact ⟨hmem, by simpa using hkept, by simpa [hid] using hadmits⟩
  · rintro ⟨hmem, hdisabled, hadmits⟩
    exact ⟨language, List.mem_filter.mpr ⟨hmem, by simpa using hdisabled⟩, hadmits⟩

theorem any_unscoped (ids : List String) (place : Option Path) :
    ((ids.filter fun id => !disabled.contains id).map fun id => { language := id }).any
        (fun filter : DocumentFilter => filter.admits language scheme place) = true ↔
      language ∈ ids ∧ language ∉ disabled := by
  rw [any_enabled ids none place]
  simp [DocumentFilter.admits]

/-- Filters for all schemes come to admit those that can lie in a folder. -/
theorem any_withSchemes {filters : List DocumentFilter}
    (hfree : ∀ filter ∈ filters, filter.scheme = none) (place : Option Path) :
    (withSchemes filters).any (·.admits language scheme place) = true ↔
      scheme ∈ schemes ∧ filters.any (·.admits language scheme place) = true := by
  rw [List.any_eq_true, List.any_eq_true]
  constructor
  · rintro ⟨filter, hfilter, hadmits⟩
    obtain ⟨given, hgiven, wanted, hwanted, rfl⟩ := mem_withSchemes.mp hfilter
    obtain rfl : wanted = scheme := by
      simp only [DocumentFilter.admits, Option.all_some, Bool.and_eq_true, decide_eq_true_eq]
        at hadmits
      exact hadmits.1.2
    refine ⟨hwanted, given, hgiven, ?_⟩
    simpa [DocumentFilter.admits, hfree given hgiven] using hadmits
  · rintro ⟨hscheme, given, hgiven, hadmits⟩
    refine ⟨{ given with scheme := some scheme },
      mem_withSchemes.mpr ⟨given, hgiven, scheme, hscheme, rfl⟩, ?_⟩
    simpa [DocumentFilter.admits, hfree given hgiven] using hadmits

/-- Documents are admitted where their language is enabled. One without a path is nowhere. -/
theorem admits_compute_iff_any (hfolders : folders ≠ []) (place : Option Path) :
    (compute scopes folders disabled).admits language scheme place = true ↔
      scheme ∈ schemes ∧ language ∉ disabled ∧
        ∃ folder ∈ folders, language ∈ scopes.enabled (some folder) ∧
          place.any (·.isStrictlyIn folder.shown) = true := by
  have hnonempty : folders.isEmpty = false := by simpa using hfolders
  have hplace : ∀ folder, (DocumentFilter.mk language (some (DocumentFilter.patternOf folder))
      none).admits language scheme place = place.any (·.isStrictlyIn folder.shown) := by
    intro folder
    simp [DocumentFilter.admits, DocumentFilter.folderOf?_patternOf]
  rw [admits, compute, hnonempty]
  simp only [Bool.false_eq_true, if_false]
  rw [any_withSchemes, List.any_flatMap, List.any_eq_true]
  · simp only [any_enabled, hplace]
    refine and_congr_right fun _ => ?_
    constructor
    · rintro ⟨folder, hfolder, henabled, hdisabled, hin⟩
      exact ⟨hdisabled, folder, hfolder, henabled, hin⟩
    · rintro ⟨hdisabled, folder, hfolder, henabled, hin⟩
      exact ⟨folder, hfolder, henabled, hdisabled, hin⟩
  · intro filter hfilter
    obtain ⟨folder, -, hfilter⟩ := List.mem_flatMap.mp hfilter
    obtain ⟨id, -, rfl⟩ := List.mem_map.mp hfilter
    rfl

theorem admits_compute_iff (hfolders : folders ≠ []) :
    (compute scopes folders disabled).admits language scheme (some path) = true ↔
      scheme ∈ schemes ∧ language ∉ disabled ∧
        ∃ folder ∈ folders, language ∈ scopes.enabled (some folder) ∧
          path.isStrictlyIn folder.shown = true := by
  rw [admits_compute_iff_any hfolders (some path)]
  simp only [Option.any_some]

/-- Without folders a document is admitted wherever it is. -/
theorem admits_compute_nil_iff (place : Option Path) :
    (compute scopes [] disabled).admits language scheme place = true ↔
      language ∈ scopes.enabled none ∧ language ∉ disabled :=
  any_unscoped (scopes.enabled none) place

theorem admitsRange_compute_iff (place : Option Path) :
    (compute scopes folders disabled).admitsRange language scheme place = true ↔
      language ∈ scopes.range ∧ language ∉ disabled ∧ (folders ≠ [] → scheme ∈ schemes) := by
  cases folders with
  | nil =>
    rw [compute, admitsRange]
    simpa using any_unscoped scopes.range place
  | cons folder rest =>
    have hfree : ∀ filter ∈ (scopes.range.filter fun id => !disabled.contains id).map
        (fun id => ({ language := id } : DocumentFilter)), filter.scheme = none := by
      intro filter hfilter
      obtain ⟨id, -, rfl⟩ := List.mem_map.mp hfilter
      rfl
    rw [compute, admitsRange]
    simp only [List.isEmpty_cons, Bool.false_eq_true, if_false]
    rw [any_withSchemes hfree, any_unscoped]
    have hfolders : folder :: rest ≠ [] := by simp
    rw [forall_prop_of_true hfolders, and_comm, and_assoc]

theorem mem_enabled_of_admits {place : Option Path}
    (hadmits : (compute scopes [] disabled).admits language scheme place = true) :
    language ∈ scopes.enabled none :=
  ((admits_compute_nil_iff place).mp hadmits).1

theorem mem_range_of_admitsRange {place : Option Path}
    (hadmits : (compute scopes folders disabled).admitsRange language scheme place = true) :
    language ∈ scopes.range :=
  ((admitsRange_compute_iff place).mp hadmits).1

/-- Which documents are admitted. The folders come back from the patterns as they were, whatever
stands in their names. -/
theorem admits_and_admitsRange_compute_iff (htext : ∀ folder ∈ folders, folder.isText = true)
    (place : Option Path) :
    let selectors := compute scopes folders disabled
    (folders = [] →
      (selectors.admits language scheme place = true ↔
        language ∈ scopes.enabled none ∧ language ∉ disabled)) ∧
    (folders ≠ [] →
      (selectors.admits language scheme place = true ↔
        (scheme = "file" ∨ scheme = "untitled") ∧ language ∉ disabled ∧
          ∃ path, place = some path ∧ ∃ folder ∈ folders,
            language ∈ scopes.enabled (some folder) ∧
              folder.components <+: path.components ∧ folder.components ≠ path.components)) ∧
    (selectors.admitsRange language scheme place = true ↔
      language ∈ scopes.range ∧ language ∉ disabled ∧
        (folders ≠ [] → scheme = "file" ∨ scheme = "untitled")) ∧
    (∀ folder : Path, folder.isText = true →
      DocumentFilter.folderOf? (DocumentFilter.patternOf folder) = some folder) ∧
    ∀ (filter : DocumentFilter) (folder : Path),
      filter.pattern = some (DocumentFilter.patternOf folder) →
        filter.admits language scheme none = false := by
  intro selectors
  have hschemes : scheme ∈ schemes ↔ scheme = "file" ∨ scheme = "untitled" := by
    simp [schemes]
  refine ⟨?_, ?_, ?_, ?_, ?_⟩
  · rintro rfl
    exact admits_compute_nil_iff place
  · intro hfolders
    rw [admits_compute_iff_any hfolders place, hschemes]
    refine and_congr_right fun _ => and_congr_right fun _ => ?_
    cases place with
    | none => simp
    | some path =>
      have hin : ∀ folder ∈ folders, path.isStrictlyIn folder.shown = true ↔
          folder.components <+: path.components ∧ folder.components ≠ path.components := by
        intro folder hfolder
        rw [Path.shown_of_isText (htext folder hfolder), Path.isStrictlyIn_iff, Path.isIn_iff,
          Path.sameAs, decide_eq_false_iff_not, ne_comm]
      constructor
      · rintro ⟨folder, hfolder, henabled, hpath⟩
        exact ⟨path, rfl, folder, hfolder, henabled, (hin folder hfolder).mp hpath⟩
      · rintro ⟨_, hplace, folder, hfolder, henabled, hpath⟩
        obtain rfl := Option.some.inj hplace
        exact ⟨folder, hfolder, henabled, (hin folder hfolder).mpr hpath⟩
  · rw [admitsRange_compute_iff, hschemes]
  · intro folder hfolder
    rw [DocumentFilter.folderOf?_patternOf, Path.shown_of_isText hfolder]
  · intro filter folder hpattern
    simp [DocumentFilter.admits, hpattern, DocumentFilter.folderOf?_patternOf]

/-- A language for one folder, the name of which reads like a pattern. -/
def starredScopes : LanguageScopes where
  enabled folder := if folder = some (Path.ofString "/ws/**/*/") then ["svelte"] else ["css"]
  range := ["css"]

theorem starred_folder_admits :
    let folders := [Path.ofString "/", Path.ofString "/ws/**/*/"]
    let selectors := compute starredScopes folders ["vue"]
    selectors.admits "svelte" "untitled" (some (Path.ofString "/ws/**/*/App.svelte")) = true ∧
      selectors.admits "svelte" "file" (some (Path.ofString "/ws/src/App.svelte")) = false := by
  intro folders selectors
  have htext : ∀ folder ∈ folders, folder.isText = true := by decide
  have hfolders : folders ≠ [] := by decide
  constructor
  · exact ((admits_and_admitsRange_compute_iff htext _).2.1 hfolders).mpr
      ⟨.inr rfl, by decide, _, rfl, Path.ofString "/ws/**/*/", by decide, by decide, by decide,
        by decide⟩
  · rw [Bool.eq_false_iff]
    intro hadmits
    obtain ⟨-, -, path, hpath, folder, hfolder, henabled, hin, -⟩ :=
      ((admits_and_admitsRange_compute_iff htext _).2.1 hfolders).mp hadmits
    obtain rfl := Option.some.inj hpath
    by_cases hstarred : folder = Path.ofString "/ws/**/*/"
    · rw [hstarred] at hin
      exact absurd hin (by decide)
    · simp [starredScopes, hstarred] at henabled

end Selectors

end FormatServer
