import FormatServer.Proofs.Path.Nesting

/-!
# Looking languages up

Language tables are lists of entries, but what is read of them is only what they have for a
language, or for a folder. In these terms an insertion changes one answer, a table laid over another
one answers first, and of several entries for one folder the last one counts.
-/

namespace FormatServer

theorem lookup_cons_eq_ite {α β : Type} [BEq α] [LawfulBEq α] [DecidableEq α] (entry : α × β)
    (rest : List (α × β)) (key : α) :
    (entry :: rest).lookup key = if key = entry.1 then some entry.2 else rest.lookup key := by
  rw [List.lookup_cons]
  by_cases hkey : key = entry.1
  · simp [hkey]
  · simp [beq_false_of_ne hkey, hkey]

namespace LanguageMap

variable {languages primary fallback : LanguageMap}

theorem lookup_put (entries : List (String × List String)) (language other : String)
    (parsers : List String) :
    (insert.put language parsers entries).lookup other =
      if other = language then some parsers else entries.lookup other := by
  induction entries with
  | nil => rw [insert.put, lookup_cons_eq_ite]
  | cons entry rest ih =>
    obtain ⟨key, old⟩ := entry
    by_cases hkey : key = language
    · subst hkey
      rw [insert.put, if_pos rfl, lookup_cons_eq_ite, lookup_cons_eq_ite]
      by_cases hother : other = key <;> simp [hother]
    · rw [insert.put, if_neg hkey, lookup_cons_eq_ite, lookup_cons_eq_ite, ih]
      by_cases hother : other = language
      · subst hother
        simp [Ne.symm hkey]
      · simp [hother]

theorem get?_insert (languages : LanguageMap) (language other : String) (parsers : List String) :
    (languages.insert language parsers).get? other =
      if other = language then some parsers else languages.get? other :=
  lookup_put languages.entries language other parsers

theorem ids_put (entries : List (String × List String)) (language : String)
    (parsers : List String) :
    (insert.put language parsers entries).map Prod.fst =
      if language ∈ entries.map Prod.fst then entries.map Prod.fst
      else entries.map Prod.fst ++ [language] := by
  induction entries with
  | nil => simp [insert.put]
  | cons entry rest ih =>
    obtain ⟨key, old⟩ := entry
    by_cases hkey : key = language
    · simp [insert.put, hkey]
    · rw [insert.put, if_neg hkey, List.map_cons, ih]
      by_cases hmem : language ∈ rest.map Prod.fst <;> simp [hmem, Ne.symm hkey]

theorem nodup_ids_insert (hnodup : languages.ids.Nodup) (language : String)
    (parsers : List String) : (languages.insert language parsers).ids.Nodup := by
  rw [ids, insert, ids_put]
  split
  next => exact hnodup
  next hmem =>
    refine List.nodup_append.mpr ⟨hnodup, by simp, ?_⟩
    rintro id hid other hother rfl
    rw [List.mem_singleton] at hother
    exact hmem (hother ▸ hid)

theorem mem_ids_iff (languages : LanguageMap) (language : String) :
    language ∈ languages.ids ↔ (languages.get? language).isSome = true := by
  obtain ⟨entries⟩ := languages
  rw [ids, get?]
  induction entries with
  | nil => simp
  | cons entry rest ih =>
    rw [lookup_cons_eq_ite, List.map_cons, List.mem_cons, ih]
    by_cases hlanguage : language = entry.1 <;> simp [hlanguage]

/-- Entries put in one after the other: the last one for a language counts. -/
theorem get?_foldl_insert (entries : List (String × List String)) (languages : LanguageMap)
    (language : String) :
    (entries.foldl (fun languages entry => languages.insert entry.1 entry.2) languages).get?
        language =
      (entries.reverse.lookup language).or (languages.get? language) := by
  induction entries generalizing languages with
  | nil => simp
  | cons entry rest ih =>
    rw [List.foldl_cons, ih, get?_insert, List.reverse_cons, List.lookup_append,
      lookup_cons_eq_ite, List.lookup_nil]
    cases rest.reverse.lookup language with
    | some parsers => simp
    | none => by_cases hlanguage : language = entry.1 <;> simp [hlanguage]

theorem nodup_ids_foldl_insert (entries : List (String × List String))
    (hnodup : languages.ids.Nodup) :
    (entries.foldl (fun languages entry => languages.insert entry.1 entry.2) languages).ids.Nodup := by
  induction entries generalizing languages with
  | nil => exact hnodup
  | cons entry rest ih => exact ih (nodup_ids_insert hnodup entry.1 entry.2)

theorem nodup_ids_ofList (entries : List (String × List String)) : (ofList entries).ids.Nodup :=
  nodup_ids_foldl_insert entries (by simp [empty, ids])

theorem lookup_reverse (hnodup : languages.ids.Nodup) (language : String) :
    languages.entries.reverse.lookup language = languages.get? language := by
  obtain ⟨entries⟩ := languages
  rw [ids] at hnodup
  rw [get?]
  induction entries with
  | nil => rfl
  | cons entry rest ih =>
    simp only [List.map_cons, List.nodup_cons] at hnodup
    rw [List.reverse_cons, List.lookup_append, ih hnodup.2, lookup_cons_eq_ite,
      lookup_cons_eq_ite, List.lookup_nil]
    by_cases hlanguage : language = entry.1
    · have habsent : rest.lookup language = none := by
        rw [List.lookup_eq_none_iff]
        intro other hother
        simp only [bne_iff_ne, ne_eq]
        intro hsame
        exact hnodup.1 (hlanguage ▸ hsame ▸ List.mem_map_of_mem hother)
      rw [habsent, if_pos hlanguage]
      rfl
    · simp [hlanguage]

/-- The table on top answers first. -/
theorem get?_withFallback (hnodup : primary.ids.Nodup) (language : String) :
    (primary.withFallback fallback).get? language =
      (primary.get? language).or (fallback.get? language) := by
  rw [withFallback, get?_foldl_insert, lookup_reverse hnodup]

/-- Every language that the table lists has a parser. -/
def IsFilled (languages : LanguageMap) : Prop :=
  ∀ entry ∈ languages.entries, entry.2 ≠ []

instance (languages : LanguageMap) : Decidable languages.IsFilled :=
  inferInstanceAs (Decidable (∀ entry ∈ languages.entries, entry.2 ≠ []))

theorem IsFilled.ne_nil (hfilled : languages.IsFilled) {language : String} {parsers : List String}
    (hget : languages.get? language = some parsers) : parsers ≠ [] := by
  obtain ⟨before, after, hentries, -⟩ := List.lookup_eq_some_iff.mp hget
  exact hfilled (language, parsers) (by simp [hentries])

end LanguageMap

namespace FolderLanguages

variable {folders : FolderLanguages} {folder : Path}

theorem find?_put (entries : List (Path × LanguageMap)) (folder other : Path)
    (languages : LanguageMap) :
    ((insert.put folder languages entries).find? fun entry => entry.1.sameAs other).map Prod.snd =
      if folder.sameAs other then some languages
      else (entries.find? fun entry => entry.1.sameAs other).map Prod.snd := by
  induction entries with
  | nil => by_cases hother : folder.sameAs other = true <;> simp [insert.put, hother]
  | cons entry rest ih =>
    obtain ⟨place, old⟩ := entry
    by_cases hplace : place.sameAs folder = true
    · have hsame : place.sameAs other = folder.sameAs other := by
        rw [Path.sameAs_comm place, Path.sameAs_comm folder]
        exact Path.sameAs_congr_right hplace other
      by_cases hother : folder.sameAs other = true <;> simp [insert.put, hplace, hsame, hother]
    · rw [insert.put, if_neg hplace, List.find?_cons, List.find?_cons]
      by_cases hother : place.sameAs other = true
      · have hfolder : folder.sameAs other ≠ true := by
          intro hfolder
          rw [Path.sameAs_comm] at hfolder
          exact hplace (Path.sameAs_trans hother hfolder)
        simp [hother, hfolder]
      · simp only [hother, ih]

theorem get?_insert (folders : FolderLanguages) (folder other : Path) (languages : LanguageMap) :
    (folders.insert folder languages).get? other =
      if folder.sameAs other then some languages else folders.get? other :=
  find?_put folders.entries folder other languages

theorem get?_foldl_insert (entries : List (Path × LanguageMap)) (folders : FolderLanguages)
    (folder : Path) :
    (entries.foldl (fun folders entry => folders.insert entry.1 entry.2) folders).get? folder =
      ((entries.reverse.find? fun entry => entry.1.sameAs folder).map Prod.snd).or
        (folders.get? folder) := by
  induction entries generalizing folders with
  | nil => simp
  | cons entry rest ih =>
    rw [List.foldl_cons, ih, get?_insert, List.reverse_cons, List.find?_append]
    cases rest.reverse.find? fun entry => entry.1.sameAs folder with
    | some found => simp
    | none => by_cases hfolder : entry.1.sameAs folder = true <;> simp [hfolder]

/-- Of several tables for a folder, however it is written, the last one counts. -/
theorem get?_ofList (entries : List (Path × LanguageMap)) (folder : Path) :
    (ofList entries).get? folder =
      (entries.reverse.find? fun entry => entry.1.sameAs folder).map Prod.snd := by
  rw [ofList, get?_foldl_insert]
  simp [empty, get?]

theorem exists_entry_of_get? {languages : LanguageMap}
    (hget : folders.get? folder = some languages) :
    ∃ entry ∈ folders.entries, entry.1.sameAs folder = true ∧ entry.2 = languages := by
  obtain ⟨entry, hfind, hlanguages⟩ := Option.map_eq_some_iff.mp hget
  have hsame := List.find?_some hfind
  exact ⟨entry, List.mem_of_find?_eq_some hfind, hsame, hlanguages⟩

theorem mem_put {known : List (Path × LanguageMap)} {languages : LanguageMap}
    {entry : Path × LanguageMap} (hmem : entry ∈ insert.put folder languages known) :
    entry ∈ known ∨ folder.sameAs entry.1 = true ∧ languages = entry.2 := by
  induction known with
  | nil =>
    obtain rfl := List.mem_singleton.mp hmem
    exact .inr ⟨Path.sameAs_refl folder, rfl⟩
  | cons first rest ih =>
    rw [insert.put] at hmem
    split at hmem
    next hfirst =>
      rcases List.mem_cons.mp hmem with rfl | hmem
      · rw [Path.sameAs_comm] at hfirst
        exact .inr ⟨hfirst, rfl⟩
      · exact .inl (List.mem_cons_of_mem first hmem)
    next =>
      rcases List.mem_cons.mp hmem with rfl | hmem
      · exact .inl List.mem_cons_self
      · exact (ih hmem).imp_left (List.mem_cons_of_mem first)

theorem mem_foldl_insert {entries : List (Path × LanguageMap)} {entry : Path × LanguageMap}
    (hmem : entry ∈
      (entries.foldl (fun folders given => folders.insert given.1 given.2) folders).entries) :
    entry ∈ folders.entries ∨
      ∃ given ∈ entries, given.1.sameAs entry.1 = true ∧ given.2 = entry.2 := by
  induction entries generalizing folders with
  | nil => exact .inl hmem
  | cons first rest ih =>
    rcases ih hmem with hmem | ⟨given, hgiven, hsame⟩
    · rcases mem_put hmem with hmem | hfirst
      · exact .inl hmem
      · exact .inr ⟨first, List.mem_cons_self, hfirst⟩
    · exact .inr ⟨given, List.mem_cons_of_mem first hgiven, hsame⟩

/-- Every table comes from an entry, of the same folder perhaps written in another way. -/
theorem exists_given_of_mem_ofList {entries : List (Path × LanguageMap)}
    {entry : Path × LanguageMap} (hentry : entry ∈ (ofList entries).entries) :
    ∃ given ∈ entries, given.1.sameAs entry.1 = true ∧ given.2 = entry.2 := by
  rcases mem_foldl_insert hentry with hmem | hgiven
  · simp [empty] at hmem
  · exact hgiven

/-! ### One table for each folder -/

/-- No folder has two tables, however it is written. -/
def HasDistinctFolders (folders : FolderLanguages) : Prop :=
  folders.entries.Pairwise fun first second => first.1.sameAs second.1 = false

instance (folders : FolderLanguages) : Decidable folders.HasDistinctFolders :=
  inferInstanceAs (Decidable (folders.entries.Pairwise fun first second =>
    first.1.sameAs second.1 = false))

theorem pairwise_put {known : List (Path × LanguageMap)}
    (hdistinct : known.Pairwise fun first second => first.1.sameAs second.1 = false) :
    (insert.put folder languages known).Pairwise fun first second =>
      first.1.sameAs second.1 = false := by
  induction known with
  | nil => exact List.pairwise_singleton _ _
  | cons first rest ih =>
    obtain ⟨hfirst, hrest⟩ := List.pairwise_cons.mp hdistinct
    rw [insert.put]
    split
    next => exact List.pairwise_cons.mpr ⟨hfirst, hrest⟩
    next hother =>
      refine List.pairwise_cons.mpr ⟨?_, ih hrest⟩
      intro entry hentry
      rcases mem_put hentry with hknown | ⟨hsame, -⟩
      · exact hfirst entry hknown
      · rw [← Path.sameAs_congr_right hsame]
        simpa using hother

theorem hasDistinctFolders_ofList (entries : List (Path × LanguageMap)) :
    (ofList entries).HasDistinctFolders := by
  suffices hfold : ∀ folders : FolderLanguages, folders.HasDistinctFolders →
      (entries.foldl (fun folders entry => folders.insert entry.1 entry.2)
        folders).HasDistinctFolders from
    hfold empty List.Pairwise.nil
  induction entries with
  | nil => exact fun folders hfolders => hfolders
  | cons entry rest ih =>
    exact fun folders hfolders => ih (folders.insert entry.1 entry.2) (pairwise_put hfolders)

/-- The one table of a folder is found for it, however it is written. -/
theorem get?_of_mem (hdistinct : folders.HasDistinctFolders) {entry : Path × LanguageMap}
    (hentry : entry ∈ folders.entries) (hsame : entry.1.sameAs folder = true) :
    folders.get? folder = some entry.2 := by
  obtain ⟨entries⟩ := folders
  rw [get?]
  induction entries with
  | nil => simp at hentry
  | cons first rest ih =>
    obtain ⟨hfirst, hrest⟩ := List.pairwise_cons.mp hdistinct
    rcases List.mem_cons.mp hentry with rfl | hentry
    · simp [hsame]
    · have hother : first.1.sameAs folder = false := by
        rw [Bool.eq_false_iff]
        intro hboth
        rw [Path.sameAs_comm] at hsame
        have hclash := Path.sameAs_trans hboth hsame
        rw [hfirst entry hentry] at hclash
        simp at hclash
      rw [List.find?_cons_of_neg (by simp [hother])]
      exact ih hrest hentry

end FolderLanguages

end FormatServer
