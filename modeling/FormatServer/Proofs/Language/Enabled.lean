import FormatServer.Proofs.Language.Sources
import Mathlib.Data.String.Basic

/-!
# Enabled languages

The languages enabled for a folder are listed once each: the builtin ones as their table has them,
and after these the ones that the settings and the folder's own table add, in ascending order. Both
tables are kept in no order of their own, and may share languages with each other and with the
builtin ones. The list is the same all the same, for there is only one of this description.
-/

namespace FormatServer

namespace LanguageTable

variable {table other : LanguageTable} {scope : Option Path} {ids : List String}
  {isAdded : String → Prop}

/-- The settings add the language, or the table of the folder does. -/
def Adds (table : LanguageTable) (scope : Option Path) (id : String) : Prop :=
  id ∈ table.general.ids ∨ ∃ folder, scope = some folder ∧
    ∃ entry ∈ table.folders.entries, entry.1.sameAs folder = true ∧ id ∈ entry.2.ids

/-- The ids of the builtin languages and of the added ones. -/
structure IsListing (isAdded : String → Prop) (ids : List String) : Prop where
  nodup : ids.Nodup
  mem : ∀ id, id ∈ ids ↔ (∃ language ∈ Language.builtin, id ∈ language.ids) ∨ isAdded id
  ordered : ∃ others, ids = (Language.builtin.flatMap Language.ids).eraseDups ++ others ∧
    others.Pairwise (· < ·)

/-! ### One list -/

theorem exists_others_of_foldl_addId (added ids : List String) :
    ∃ others, added.foldl addId ids = ids ++ others ∧ others.Sublist added ∧ others.Nodup ∧
      ∀ id ∈ others, id ∉ ids := by
  induction added generalizing ids with
  | nil => exact ⟨[], by simp⟩
  | cons first rest ih =>
    rw [List.foldl_cons, addId]
    split
    next =>
      obtain ⟨others, hfold, hsublist, hrest⟩ := ih ids
      exact ⟨others, hfold, hsublist.cons first, hrest⟩
    next hfirst =>
      obtain ⟨others, hfold, hsublist, hnodup, hnew⟩ := ih (ids ++ [first])
      have hbesides : ∀ id ∈ others, id ∉ ids ∧ id ≠ first := by simpa using hnew
      refine ⟨first :: others, by simp [hfold], hsublist.cons_cons first, ?_, ?_⟩
      · exact List.nodup_cons.mpr ⟨fun hmem => (hbesides first hmem).2 rfl, hnodup⟩
      · exact List.forall_mem_cons.mpr ⟨by simpa using hfirst, fun id hid => (hbesides id hid).1⟩

theorem builtinIds_eq_eraseDups :
    builtinIds = (Language.builtin.flatMap Language.ids).eraseDups := by
  decide

theorem mem_enabledIds_iff_adds (hdistinct : table.folders.HasDistinctFolders) (id : String) :
    id ∈ table.enabledIds scope ↔
      (∃ language ∈ Language.builtin, id ∈ language.ids) ∨ table.Adds scope id := by
  cases scope with
  | none => simp [mem_enabledIds_none, mem_builtinIds, Adds, LanguageMap.mem_ids_iff]
  | some folder =>
    have hfolder : (∃ languages, table.folders.get? folder = some languages ∧
        (languages.get? id).isSome = true) ↔
          ∃ entry ∈ table.folders.entries, entry.1.sameAs folder = true ∧ id ∈ entry.2.ids := by
      constructor
      · rintro ⟨languages, hget, hid⟩
        obtain ⟨entry, hentry, hsame, rfl⟩ := FolderLanguages.exists_entry_of_get? hget
        exact ⟨entry, hentry, hsame, (LanguageMap.mem_ids_iff _ _).mpr hid⟩
      · rintro ⟨entry, hentry, hsame, hid⟩
        exact ⟨entry.2, FolderLanguages.get?_of_mem hdistinct hentry hsame,
          (LanguageMap.mem_ids_iff _ _).mp hid⟩
    simp [mem_enabledIds, mem_builtinIds, Adds, LanguageMap.mem_ids_iff, hfolder]

/-- Sorted ids of which each is taken once ascend strictly. -/
theorem isListing_enabledIds (hdistinct : table.folders.HasDistinctFolders)
    (scope : Option Path) : IsListing (table.Adds scope) (table.enabledIds scope) := by
  have hbuiltin : builtinIds.Nodup := by decide
  let precedes := fun first second : String => decide (first ≤ second)
  have htrans : ∀ first second third, precedes first second = true →
      precedes second third = true → precedes first third = true := by
    intro first second third hle hle'
    exact decide_eq_true (String.le_trans (of_decide_eq_true hle) (of_decide_eq_true hle'))
  have htotal : ∀ first second, (precedes first second || precedes second first) = true := by
    intro first second
    simpa [precedes] using String.le_total first second
  have hsorted := List.pairwise_mergeSort htrans htotal
    (table.general.ids ++ ((scope.bind table.folders.get?).map LanguageMap.ids).getD [])
  obtain ⟨others, hfold, hsublist, hnodup, hnew⟩ := exists_others_of_foldl_addId _ builtinIds
  refine ⟨?_, mem_enabledIds_iff_adds hdistinct, others, ?_, ?_⟩
  · rw [enabledIds, hfold, List.nodup_append]
    refine ⟨hbuiltin, hnodup, ?_⟩
    rintro id hid _ hother rfl
    exact hnew id hother hid
  · rw [enabledIds, hfold, builtinIds_eq_eraseDups]
  · refine ((hsorted.sublist hsublist).and hnodup).imp ?_
    rintro first second ⟨hle, hne⟩
    exact lt_of_le_of_ne (of_decide_eq_true hle) hne

/-- What is added decides on the list. -/
theorem IsListing.unique {first second : List String} (hfirst : IsListing isAdded first)
    (hsecond : IsListing isAdded second) : first = second := by
  obtain ⟨others, rfl, hothers⟩ := hfirst.ordered
  obtain ⟨others', rfl, hothers'⟩ := hsecond.ordered
  obtain ⟨-, hnodup, hapart⟩ := List.nodup_append.mp hfirst.nodup
  obtain ⟨-, hnodup', hapart'⟩ := List.nodup_append.mp hsecond.nodup
  congr 1
  have hmem : ∀ id, id ∈ others ↔ id ∈ others' := by
    intro id
    have hboth := (hfirst.mem id).trans (hsecond.mem id).symm
    rw [List.mem_append, List.mem_append] at hboth
    constructor
    · intro hid
      exact (hboth.mp (.inr hid)).resolve_left fun hbuiltin => hapart id hbuiltin id hid rfl
    · intro hid
      exact (hboth.mpr (.inr hid)).resolve_left fun hbuiltin => hapart' id hbuiltin id hid rfl
  exact List.Perm.eq_of_pairwise (fun _ _ _ _ hlt hlt' => absurd hlt' (lt_asymm hlt)) hothers
    hothers' ((List.perm_ext_iff_of_nodup hnodup hnodup').mpr hmem)

/-! ### Other orders and other folders -/

theorem IsReordered.hasDistinctFolders (hreordered : table.IsReordered other)
    (hdistinct : table.folders.HasDistinctFolders) : other.folders.HasDistinctFolders := by
  obtain ⟨entries, hperm, hrelated⟩ := hreordered.folders
  have hplaces : entries.map Prod.fst = other.folders.entries.map Prod.fst := by
    rw [← List.forall₂_eq_eq_eq, List.forall₂_map_left_iff, List.forall₂_map_right_iff]
    exact hrelated.imp fun _ _ hsame => hsame.1
  have hentries : entries.Pairwise fun first second => first.1.sameAs second.1 = false := by
    refine hdistinct.perm hperm fun hfirst => ?_
    rwa [Path.sameAs_comm]
  have hall : (entries.map Prod.fst).Pairwise fun first second => first.sameAs second = false :=
    List.pairwise_map.mpr hentries
  rw [hplaces] at hall
  exact List.pairwise_map.mp hall

theorem IsReordered.adds (hreordered : table.IsReordered other) (scope : Option Path) :
    other.Adds scope = table.Adds scope := by
  have hthere : ∀ {first second : LanguageTable}, first.IsReordered second →
      ∀ id, first.Adds scope id → second.Adds scope id := by
    rintro first second hreordered id (hgeneral | ⟨folder, hscope, entry, hentry, hsame, hid⟩)
    · exact .inl ((hreordered.general.map Prod.fst).mem_iff.mp hgeneral)
    · obtain ⟨found, hfound, hfolder, hlanguages⟩ := hreordered.exists_entry hentry
      exact .inr ⟨folder, hscope, found, hfound, hfolder ▸ hsame,
        (hlanguages.map Prod.fst).mem_iff.mp hid⟩
  funext id
  exact propext ⟨hthere hreordered.symm id, hthere hreordered id⟩

/-- The table with these parsers for a language of the folder. -/
def withLanguage (table : LanguageTable) (folder : Path) (language : String)
    (parsers : List String) : LanguageTable :=
  ⟨table.general, table.folders.insert folder
    (((table.folders.get? folder).getD .empty).insert language parsers)⟩

theorem enabledIds_withLanguage_of_ne {folder : Path}
    (hother : ∀ place, scope = some place → folder.sameAs place = false) (language : String)
    (parsers : List String) :
    (table.withLanguage folder language parsers).enabledIds scope = table.enabledIds scope := by
  have hget : scope.bind (table.withLanguage folder language parsers).folders.get? =
      scope.bind table.folders.get? := by
    cases scope with
    | none => rfl
    | some place => simp [withLanguage, FolderLanguages.get?_insert, hother place rfl]
  rw [enabledIds, enabledIds, hget]
  rfl

theorem mem_enabledIds_withLanguage {folder place : Path} (hsame : folder.sameAs place = true)
    (language id : String) (parsers : List String) :
    id ∈ (table.withLanguage folder language parsers).enabledIds (some place) ↔
      id = language ∨ id ∈ table.enabledIds (some place) := by
  have hfolder : table.folders.get? folder = table.folders.get? place := by
    simp only [FolderLanguages.get?, Path.sameAs_congr_right hsame]
  have hget : (table.withLanguage folder language parsers).folders.get? place =
      some (((table.folders.get? place).getD .empty).insert language parsers) := by
    rw [withLanguage, FolderLanguages.get?_insert, if_pos hsame, hfolder]
  have hinsert : ∀ languages : LanguageMap,
      ((languages.insert language parsers).get? id).isSome = true ↔
        id = language ∨ (languages.get? id).isSome = true := by
    intro languages
    rw [LanguageMap.get?_insert]
    by_cases hid : id = language <;> simp [hid]
  rw [mem_enabledIds, mem_enabledIds, hget]
  simp only [Option.some_inj, exists_eq_left', hinsert]
  cases table.folders.get? place with
  | none =>
    have hnone : (LanguageMap.empty.get? id).isSome = false := rfl
    simp only [Option.getD_none, hnone, reduceCtorEq, false_and, exists_false, or_false,
      Bool.false_eq_true]
    tauto
  | some languages =>
    simp only [Option.getD_some, Option.some_inj, exists_eq_left']
    tauto

/-- For every scope there is one list of the builtin languages and the added ones, and these are the
enabled ones, in whatever order the tables are kept. A language that is added for a folder is enabled
there, and nothing changes for any other scope. -/
theorem enabledIds_eq_iff_isListing (hkeys : table.HasDistinctKeys) (scope : Option Path) :
    (∀ ids, table.enabledIds scope = ids ↔ IsListing (table.Adds scope) ids) ∧
      (∀ other : LanguageTable, table.IsReordered other →
        other.enabledIds scope = table.enabledIds scope) ∧
      ∀ folder language parsers,
        let more := table.withLanguage folder language parsers
        (∀ place, folder.sameAs place = true → ∀ id, id ∈ more.enabledIds (some place) ↔
          id = language ∨ id ∈ table.enabledIds (some place)) ∧
        ((∀ place, scope = some place → folder.sameAs place = false) →
          more.enabledIds scope = table.enabledIds scope) := by
  have hlisting := isListing_enabledIds hkeys.folders scope
  refine ⟨fun ids => ⟨?_, hlisting.unique⟩, fun other hreordered => ?_, ?_⟩
  · rintro rfl
    exact hlisting
  · have hother := isListing_enabledIds (hreordered.hasDistinctFolders hkeys.folders) scope
    rw [hreordered.adds] at hother
    exact hother.unique hlisting
  · intro folder language parsers more
    exact ⟨fun place hsame id => mem_enabledIds_withLanguage hsame language id parsers,
      fun hother => enabledIds_withLanguage_of_ne hother language parsers⟩

/-- A folder that adds what is builtin and what the settings add as well. -/
def overlappingTables : LanguageTable where
  general := ⟨[("vue", ["html"]), ("svelte", ["svelte"]), ("astro", ["astro"])]⟩
  folders := ⟨[
    ("/ws/app/", ⟨[("twig", ["twig"]), ("svelte", ["flow"]), ("css", ["scss"]), ("nginx", [])]⟩),
    ("/ws", ⟨[("toml", ["toml"])]⟩)]⟩

/-- Each language is listed once, the added ones in ascending order, and the neighbour's one is not
there. -/
theorem overlapping_enabledIds :
    let opposite : LanguageTable := ⟨⟨overlappingTables.general.entries.reverse⟩,
      ⟨overlappingTables.folders.entries.reverse⟩⟩
    overlappingTables.HasDistinctKeys ∧ overlappingTables.IsReordered opposite ∧
      opposite.enabledIds (some "/ws/app") =
        (Language.builtin.flatMap Language.ids).eraseDups ++ ["astro", "nginx", "svelte", "twig"] ∧
      IsListing (overlappingTables.Adds (some "/ws/app"))
        (overlappingTables.enabledIds (some "/ws/app")) ∧
      (overlappingTables.withLanguage "/ws" "pug" ["pug"]).enabledIds (some "/ws/app") =
        overlappingTables.enabledIds (some "/ws/app") := by
  intro opposite
  have hkeys : overlappingTables.HasDistinctKeys := by decide
  have hreordered : overlappingTables.IsReordered opposite := by
    refine ⟨(List.reverse_perm _).symm, _, (List.reverse_perm _).symm, List.forall₂_same.mpr ?_⟩
    exact fun entry _ => ⟨rfl, .refl _⟩
  have hadds : ∀ id, overlappingTables.Adds (some "/ws/app") id ↔
      id ∈ ["vue", "svelte", "astro", "twig", "svelte", "css", "nginx"] := by
    have happ : (Path.ofString "/ws/app/").sameAs "/ws/app" = true := by decide
    have hws : (Path.ofString "/ws").sameAs "/ws/app" = false := by decide
    simp [Adds, overlappingTables, LanguageMap.ids, happ, hws, exists_or, or_assoc]
  have hlisted : IsListing (overlappingTables.Adds (some "/ws/app"))
      ((Language.builtin.flatMap Language.ids).eraseDups ++
        ["astro", "nginx", "svelte", "twig"]) := by
    have hadded : ∀ id ∈ ["astro", "nginx", "svelte", "twig"],
        id ∈ ["vue", "svelte", "astro", "twig", "svelte", "css", "nginx"] := by decide
    have hall : ∀ id ∈ ["vue", "svelte", "astro", "twig", "svelte", "css", "nginx"],
        id ∈ Language.builtin.flatMap Language.ids ∨
          id ∈ ["astro", "nginx", "svelte", "twig"] := by decide
    refine ⟨by decide, fun id => ?_, _, rfl, by decide⟩
    rw [hadds, List.mem_append, List.mem_eraseDups, ← List.mem_flatMap]
    exact ⟨Or.imp_right (hadded id), fun hid => hid.elim .inl (hall id)⟩
  obtain ⟨hlisting, horder, hmore⟩ :=
    enabledIds_eq_iff_isListing hkeys (some (Path.ofString "/ws/app"))
  have henabled := (hlisting _).mpr hlisted
  refine ⟨hkeys, hreordered, (horder opposite hreordered).trans henabled, (hlisting _).mp rfl, ?_⟩
  refine (hmore "/ws" "pug" ["pug"]).2 fun place hplace => ?_
  obtain rfl := Option.some.inj hplace
  decide

end LanguageTable

end FormatServer
