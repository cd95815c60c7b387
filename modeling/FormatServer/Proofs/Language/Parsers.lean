import FormatServer.Proofs.Language.Lookup

/-!
# The parsers for a document

Three sources are asked for the parsers of a document's language: the folders around the document,
of which the deepest one that has the language counts, then the settings, and then the builtin
languages. The ids that are enabled for a folder are those of the same three sources.
-/

namespace FormatServer

namespace LanguageTable

variable {table : LanguageTable} {file : Path} {language : String}

/-! ### Enabled languages -/

theorem mem_foldl_addId (added ids : List String) (id : String) :
    id ∈ added.foldl addId ids ↔ id ∈ ids ∨ id ∈ added := by
  induction added generalizing ids with
  | nil => simp
  | cons first rest ih =>
    rw [List.foldl_cons, ih, addId]
    split
    next hfirst =>
      have hmem : first ∈ ids := by simpa using hfirst
      constructor
      · rintro (hid | hid)
        · exact .inl hid
        · exact .inr (List.mem_cons_of_mem first hid)
      · rintro (hid | hid)
        · exact .inl hid
        · rcases List.mem_cons.mp hid with rfl | hid
          · exact .inl hmem
          · exact .inr hid
    next => rw [List.mem_append, List.mem_singleton, List.mem_cons, or_assoc]

theorem mem_builtinIds {id : String} :
    id ∈ builtinIds ↔ ∃ language ∈ Language.builtin, id ∈ language.ids := by
  simp [builtinIds, mem_foldl_addId]

theorem mem_enabledIds_none {id : String} :
    id ∈ table.enabledIds none ↔ id ∈ builtinIds ∨ (table.general.get? id).isSome = true := by
  rw [enabledIds, mem_foldl_addId, List.mem_mergeSort, List.mem_append, LanguageMap.mem_ids_iff]
  simp

theorem mem_enabledIds {folder : Path} {id : String} :
    id ∈ table.enabledIds (some folder) ↔
      id ∈ builtinIds ∨ (table.general.get? id).isSome = true ∨
        ∃ languages, table.folders.get? folder = some languages ∧
          (languages.get? id).isSome = true := by
  rw [enabledIds, mem_foldl_addId, List.mem_mergeSort, List.mem_append,
    LanguageMap.mem_ids_iff, Option.bind_some]
  cases table.folders.get? folder with
  | none => simp
  | some languages => simp [← LanguageMap.mem_ids_iff]

/-! ### Parsers -/

theorem folderParsers?_eq_none_iff :
    table.folderParsers? file language = none ↔
      ∀ entry ∈ table.folders.entries, file.isIn entry.1 = true →
        entry.2.get? language = none := by
  rw [folderParsers?, Option.map_eq_none_iff, Path.deepest_eq_none_iff,
    List.filterMap_eq_nil_iff]
  simp

/-- The folder that counts has the file and the language, and none that does is deeper. -/
theorem exists_entry_of_folderParsers? {parsers : List String}
    (hparsers : table.folderParsers? file language = some parsers) :
    ∃ entry ∈ table.folders.entries, file.isIn entry.1 = true ∧
      entry.2.get? language = some parsers ∧
      ∀ other ∈ table.folders.entries, file.isIn other.1 = true →
        (other.2.get? language).isSome = true → other.1.depth ≤ entry.1.depth := by
  obtain ⟨⟨folder, found⟩, hdeepest, rfl⟩ := Option.map_eq_some_iff.mp hparsers
  obtain ⟨entry, hentry, hcandidate⟩ := List.mem_filterMap.mp (Path.deepest_mem _ hdeepest)
  rw [Option.ite_none_right_eq_some, Option.map_eq_some_iff] at hcandidate
  obtain ⟨hfile, given, hgiven, hsame⟩ := hcandidate
  obtain ⟨rfl, rfl⟩ := Prod.mk.inj hsame
  refine ⟨entry, hentry, hfile, hgiven, ?_⟩
  intro other hother hin hsome
  obtain ⟨others, hothers⟩ := Option.isSome_iff_exists.mp hsome
  apply Path.depth_le_of_deepest Prod.fst hdeepest (other.1, others)
  exact List.mem_filterMap.mpr ⟨other, hother, by simp [hin, hothers]⟩

theorem parsers_of_folderParsers? {parsers : List String}
    (hparsers : table.folderParsers? file language = some parsers) :
    table.parsers (some file) language = parsers := by
  simp [LanguageTable.parsers, hparsers]

theorem parsers_of_general {parsers : List String}
    (hfolders : table.folderParsers? file language = none)
    (hgeneral : table.general.get? language = some parsers) :
    table.parsers (some file) language = parsers := by
  simp [LanguageTable.parsers, hfolders, hgeneral]

theorem builtinParsers_eq_nil (file : Option Path) (hlanguage : language ∉ builtinIds) :
    builtinParsers file language = [] := by
  have hnone : Language.builtin.find? (·.takes language (file.bind Path.baseName?)) = none := by
    rw [List.find?_eq_none]
    intro candidate hcandidate htakes
    simp only [Language.takes, Bool.and_eq_true, List.contains_iff_mem] at htakes
    exact hlanguage (mem_builtinIds.mpr ⟨candidate, hcandidate, htakes.1⟩)
  rw [builtinParsers, hnone]
  rfl

theorem parsers_of_unknown (hfolders : table.folderParsers? file language = none)
    (hgeneral : table.general.get? language = none) (hlanguage : language ∉ builtinIds) :
    table.parsers (some file) language = [] := by
  simp [LanguageTable.parsers, hfolders, hgeneral, builtinParsers_eq_nil _ hlanguage]

/-! ### Documents that have a parser -/

/-- Every language that the table lists, in general or for a folder, has a parser. -/
structure IsFilled (table : LanguageTable) : Prop where
  general : table.general.IsFilled
  folders : ∀ entry ∈ table.folders.entries, entry.2.IsFilled

/-- Every builtin id has a language that takes files of any name, or none. -/
theorem builtinParsers_ne_nil (file : Option Path) (hlanguage : language ∈ builtinIds) :
    builtinParsers file language ≠ [] := by
  have htaken : ∀ id ∈ builtinIds, ∃ candidate ∈ Language.builtin,
      candidate.ids.contains id = true ∧ candidate.extensions.isEmpty = false := by
    decide
  have hparsers : ∀ candidate ∈ Language.builtin, candidate.parsers ≠ [] := by
    decide
  obtain ⟨candidate, hcandidate, hid, hextensions⟩ := htaken language hlanguage
  have htakes : candidate.takes language (file.bind Path.baseName?) = true := by
    rw [Language.takes, hid, hextensions]
    rfl
  have hsome : (Language.builtin.find? (·.takes language (file.bind Path.baseName?))).isSome =
      true :=
    List.find?_isSome.mpr ⟨candidate, hcandidate, htakes⟩
  obtain ⟨found, hfound⟩ := Option.isSome_iff_exists.mp hsome
  rw [builtinParsers, hfound]
  exact hparsers found (List.mem_of_find?_eq_some hfound)

/-- A document has a parser exactly if its language is builtin, if the settings have it, or if a
folder around the document's file has it. -/
theorem parsers_ne_nil_iff (hfilled : table.IsFilled) (file : Option Path) :
    table.parsers file language ≠ [] ↔
      language ∈ builtinIds ∨ (table.general.get? language).isSome = true ∨
        ∃ path, file = some path ∧ ∃ entry ∈ table.folders.entries,
          path.isIn entry.1 = true ∧ (entry.2.get? language).isSome = true := by
  cases hfolders : file.bind fun path => table.folderParsers? path language with
  | some parsers =>
    obtain ⟨path, rfl, hpath⟩ := Option.bind_eq_some_iff.mp hfolders
    obtain ⟨entry, hentry, hin, hget, -⟩ := exists_entry_of_folderParsers? hpath
    refine iff_of_true ?_ (.inr (.inr ⟨path, rfl, entry, hentry, hin, by rw [hget]; rfl⟩))
    rw [parsers_of_folderParsers? hpath]
    exact (hfilled.folders entry hentry).ne_nil hget
  | none =>
    have hnone : ¬∃ path, file = some path ∧ ∃ entry ∈ table.folders.entries,
        path.isIn entry.1 = true ∧ (entry.2.get? language).isSome = true := by
      rintro ⟨path, rfl, entry, hentry, hin, hsome⟩
      rw [folderParsers?_eq_none_iff.mp hfolders entry hentry hin] at hsome
      simp at hsome
    rw [LanguageTable.parsers, hfolders, Option.none_or]
    cases hgeneral : table.general.get? language with
    | some parsers => simpa using hfilled.general.ne_nil hgeneral
    | none =>
      rw [or_iff_left (by simpa using hnone)]
      refine ⟨fun hparsers => ?_, builtinParsers_ne_nil file⟩
      exact Decidable.byContradiction fun hnot => hparsers (builtinParsers_eq_nil file hnot)

end LanguageTable

end FormatServer
