import FormatServer.Proofs.Language.Overlay
import FormatServer.Proofs.Language.Parsers
import Mathlib.Data.List.Perm.Basic

/-!
# Where parsers come from

The tables that may know a language are asked in turn: those of the folders around the document, the
deepest first, then the settings', and then the builtin one. The tables of the folders are kept in
no order of their own. Which of them is asked first is settled all the same, since the folders
around one document lie within each other, and so no two of them are equally deep.
-/

namespace FormatServer

namespace Path

variable {path first second : Path}

/-- Folders around one path are the same if they are equally deep. -/
theorem sameAs_of_depth_eq (hfirst : path.isIn first = true) (hsecond : path.isIn second = true)
    (hdepth : first.depth = second.depth) : first.sameAs second = true := by
  rw [sameAs_iff]
  rcases isIn_or_isIn hfirst hsecond with hinside | hinside
  · exact ((isIn_iff.mp hinside).eq_of_length hdepth.symm).symm
  · exact (isIn_iff.mp hinside).eq_of_length hdepth

end Path

namespace Language

/-- The language goes by the id, and takes either files of any name or those named like the file. -/
def Serves (language : Language) (id : String) (file : Option Path) : Prop :=
  id ∈ language.ids ∧ (language.extensions ≠ [] ∨
    ∃ path name, file = some path ∧ path.baseName? = some name ∧ name ∈ language.fileNames)

theorem takes_iff (language : Language) (id : String) (file : Option Path) :
    language.takes id (file.bind Path.baseName?) = true ↔ language.Serves id file := by
  simp only [takes, Serves, Bool.and_eq_true, Bool.or_eq_true, Bool.not_eq_true',
    List.isEmpty_eq_false_iff, List.contains_iff_mem, Option.any_eq_true, Option.bind_eq_some_iff]
  refine and_congr_right fun _ => or_congr_right ?_
  constructor
  · rintro ⟨name, ⟨path, hfile, hname⟩, hmem⟩
    exact ⟨path, name, hfile, hname, hmem⟩
  · rintro ⟨path, name, hfile, hname, hmem⟩
    exact ⟨name, ⟨path, hfile, hname⟩, hmem⟩

end Language

namespace LanguageTable

variable {table other : LanguageTable} {file : Option Path} {path : Path} {language : String}
  {entry : Path × LanguageMap} {parsers : List String}

/-- No folder has two tables, and no table has a language twice. -/
structure HasDistinctKeys (table : LanguageTable) : Prop where
  general : table.general.ids.Nodup
  folders : table.folders.HasDistinctFolders
  languages : ∀ entry ∈ table.folders.entries, entry.2.ids.Nodup

instance (table : LanguageTable) : Decidable table.HasDistinctKeys :=
  decidable_of_iff (table.general.ids.Nodup ∧ table.folders.HasDistinctFolders ∧
      ∀ entry ∈ table.folders.entries, entry.2.ids.Nodup)
    ⟨fun ⟨general, folders, languages⟩ => ⟨general, folders, languages⟩,
      fun hkeys => ⟨hkeys.general, hkeys.folders, hkeys.languages⟩⟩

/-- The entry of the deepest folder that has the file in it and the language in its table. -/
structure IsInnermost (table : LanguageTable) (path : Path) (language : String)
    (entry : Path × LanguageMap) : Prop where
  mem : entry ∈ table.folders.entries
  isIn : path.isIn entry.1 = true
  lists : (entry.2.get? language).isSome = true
  deepest : ∀ other ∈ table.folders.entries, path.isIn other.1 = true →
    (other.2.get? language).isSome = true → other.1.depth ≤ entry.1.depth

/-- No folder has the file in it and the language in its table. -/
def HasNoFolder (table : LanguageTable) (file : Option Path) (language : String) : Prop :=
  ∀ path, file = some path → ∀ entry ∈ table.folders.entries, path.isIn entry.1 = true →
    entry.2.get? language = none

/-- The parsers of the language, by the first source that has it. -/
inductive Gives (table : LanguageTable) (language : String) : Option Path → List String → Prop where
  | folder {path : Path} {entry : Path × LanguageMap} {parsers : List String}
      (hentry : table.IsInnermost path language entry)
      (hparsers : entry.2.get? language = some parsers) : Gives table language (some path) parsers
  | settings {file : Option Path} {parsers : List String}
      (hfolders : table.HasNoFolder file language)
      (hparsers : table.general.get? language = some parsers) : Gives table language file parsers
  | builtin {file : Option Path} {before after : List Language} {found : Language}
      (hfolders : table.HasNoFolder file language) (hgeneral : table.general.get? language = none)
      (hbuiltin : Language.builtin = before ++ found :: after)
      (hfound : found.Serves language file)
      (hfirst : ∀ candidate ∈ before, ¬candidate.Serves language file) :
      Gives table language file found.parsers
  | unknown {file : Option Path}
      (hfolders : table.HasNoFolder file language) (hgeneral : table.general.get? language = none)
      (hbuiltin : ∀ candidate ∈ Language.builtin, ¬candidate.Serves language file) :
      Gives table language file []

/-- Outside the folders with the language, the settings and the builtin languages decide. -/
theorem gives_of_hasNoFolder (hfolders : table.HasNoFolder file language) :
    table.Gives language file
      ((table.general.get? language).getD (builtinParsers file language)) := by
  cases hgeneral : table.general.get? language with
  | some parsers => exact .settings hfolders hgeneral
  | none =>
    rw [Option.getD_none, builtinParsers]
    cases hfound : Language.builtin.find? (·.takes language (file.bind Path.baseName?)) with
    | some found =>
      obtain ⟨htakes, before, after, hbuiltin, hbefore⟩ := List.find?_eq_some_iff_append.mp hfound
      refine .builtin hfolders hgeneral hbuiltin ((Language.takes_iff _ _ _).mp htakes) ?_
      intro candidate hcandidate hserves
      have hnot := hbefore candidate hcandidate
      rw [(Language.takes_iff _ _ _).mpr hserves] at hnot
      simp at hnot
    | none =>
      refine .unknown hfolders hgeneral fun candidate hcandidate hserves => ?_
      exact List.find?_eq_none.mp hfound candidate hcandidate
        ((Language.takes_iff _ _ _).mpr hserves)

theorem gives_parsers (table : LanguageTable) (file : Option Path) (language : String) :
    table.Gives language file (table.parsers file language) := by
  cases hfolders : file.bind fun path => table.folderParsers? path language with
  | some parsers =>
    obtain ⟨path, rfl, hpath⟩ := Option.bind_eq_some_iff.mp hfolders
    obtain ⟨entry, hmem, hin, hget, hdeepest⟩ := exists_entry_of_folderParsers? hpath
    rw [parsers_of_folderParsers? hpath]
    exact .folder ⟨hmem, hin, by rw [hget]; rfl, hdeepest⟩ hget
  | none =>
    have hnone : table.HasNoFolder file language := by
      rintro path rfl
      exact folderParsers?_eq_none_iff.mp hfolders
    have hparsers : table.parsers file language =
        (table.general.get? language).getD (builtinParsers file language) := by
      rw [LanguageTable.parsers, hfolders, Option.none_or]
      cases table.general.get? language <;> rfl
    rw [hparsers]
    exact gives_of_hasNoFolder hnone

/-! ### One answer -/

theorem IsInnermost.folderParsers? (hdistinct : table.folders.HasDistinctFolders)
    (hentry : table.IsInnermost path language entry) :
    table.folderParsers? path language = entry.2.get? language := by
  cases hparsers : table.folderParsers? path language with
  | none => exact (folderParsers?_eq_none_iff.mp hparsers entry hentry.mem hentry.isIn).symm
  | some parsers =>
    obtain ⟨found, hmem, hin, hget, hdeepest⟩ := exists_entry_of_folderParsers? hparsers
    have hdepth : entry.1.depth = found.1.depth :=
      Nat.le_antisymm (hdeepest entry hentry.mem hentry.isIn hentry.lists)
        (hentry.deepest found hmem hin (by rw [hget]; rfl))
    have hsame := Path.sameAs_of_depth_eq hentry.isIn hin hdepth
    have hone := FolderLanguages.get?_of_mem hdistinct hentry.mem hsame
    rw [FolderLanguages.get?_of_mem hdistinct hmem (Path.sameAs_refl found.1)] at hone
    rw [← Option.some.inj hone, hget]

theorem HasNoFolder.folderParsers? (hnone : table.HasNoFolder file language) :
    (file.bind fun path => table.folderParsers? path language) = none := by
  rw [Option.bind_eq_none_iff]
  intro path hfile
  exact folderParsers?_eq_none_iff.mpr (hnone path hfile)

/-- There is one answer only, since a folder has one table. -/
theorem Gives.parsers_eq (hdistinct : table.folders.HasDistinctFolders)
    (hgives : table.Gives language file parsers) : table.parsers file language = parsers := by
  cases hgives with
  | folder hentry hparsers =>
    exact parsers_of_folderParsers? ((hentry.folderParsers? hdistinct).trans hparsers)
  | settings hfolders hparsers => simp [LanguageTable.parsers, hfolders.folderParsers?, hparsers]
  | @builtin _ before after found hfolders hgeneral hbuiltin hfound hfirst =>
    have hfind : Language.builtin.find? (·.takes language (file.bind Path.baseName?)) =
        some found := by
      refine List.find?_eq_some_iff_append.mpr
        ⟨(Language.takes_iff _ _ _).mpr hfound, before, after, hbuiltin, ?_⟩
      intro candidate hcandidate
      rw [Bool.not_eq_true', ← Bool.not_eq_true, Language.takes_iff]
      exact hfirst candidate hcandidate
    simp [LanguageTable.parsers, hfolders.folderParsers?, hgeneral, builtinParsers, hfind]
  | unknown hfolders hgeneral hnone =>
    have hfind : Language.builtin.find? (·.takes language (file.bind Path.baseName?)) = none := by
      rw [List.find?_eq_none]
      intro candidate hcandidate
      rw [Language.takes_iff]
      exact hnone candidate hcandidate
    simp [LanguageTable.parsers, hfolders.folderParsers?, hgeneral, builtinParsers, hfind]

/-! ### Any order -/

/-- The first folder is at least as deep as the second. -/
def isAsDeep (first second : Path × LanguageMap) : Bool :=
  second.1.depth ≤ first.1.depth

/-- The tables that are asked in turn, when those of the folders are kept in this order. -/
def layers (table : LanguageTable) (file : Option Path) : List LanguageMap :=
  let around := table.folders.entries.filter fun entry => file.any (·.isIn entry.1)
  (around.mergeSort isAsDeep).map Prod.snd ++ [table.general]

/-- The first of the sorted tables that has the language is that of the innermost folder. -/
theorem gives_layers (table : LanguageTable) (file : Option Path) (language : String) :
    table.Gives language file
      (((table.layers file).findSome? (·.get? language)).getD (builtinParsers file language)) := by
  rw [layers, List.findSome?_append, List.findSome?_map, List.findSome?_singleton]
  generalize hsorted : List.mergeSort _ _ = sorted
  have hmem : ∀ entry, entry ∈ sorted ↔
      entry ∈ table.folders.entries ∧ ∃ path, file = some path ∧ path.isIn entry.1 = true := by
    intro entry
    rw [← hsorted, List.mem_mergeSort, List.mem_filter, Option.any_eq_true]
  have hdescends : sorted.Pairwise fun first second => second.1.depth ≤ first.1.depth := by
    have htrans : ∀ first second third : Path × LanguageMap, isAsDeep first second = true →
        isAsDeep second third = true → isAsDeep first third = true := by
      simp only [isAsDeep, decide_eq_true_eq]
      omega
    have htotal : ∀ first second : Path × LanguageMap,
        (isAsDeep first second || isAsDeep second first) = true := by
      simp only [isAsDeep, Bool.or_eq_true, decide_eq_true_eq]
      omega
    have hpairwise := List.pairwise_mergeSort htrans htotal
      (table.folders.entries.filter fun entry => file.any (·.isIn entry.1))
    rw [hsorted] at hpairwise
    exact hpairwise.imp of_decide_eq_true
  cases hfound : sorted.findSome? ((·.get? language) ∘ Prod.snd) with
  | some parsers =>
    obtain ⟨entry, hentry, hget, hdeepest⟩ := Path.exists_deepest_of_findSome? Prod.fst hdescends
      hfound
    obtain ⟨hmem', path, rfl, hin⟩ := (hmem entry).mp hentry
    refine .folder ⟨hmem', hin, Option.isSome_of_eq_some hget, ?_⟩ hget
    intro other hother hin' hlists
    exact hdeepest other ((hmem other).mpr ⟨hother, path, rfl, hin'⟩) hlists
  | none =>
    refine gives_of_hasNoFolder ?_
    intro path hfile entry hentry hin
    exact List.findSome?_eq_none_iff.mp hfound entry ((hmem entry).mpr ⟨hentry, path, hfile, hin⟩)

/-- The same languages for the same folders, each perhaps in another order. -/
structure IsReordered (table other : LanguageTable) : Prop where
  general : table.general.IsReordered other.general
  folders : ∃ entries, table.folders.entries.Perm entries ∧
    List.Forall₂ (fun entry other => entry.1 = other.1 ∧ entry.2.IsReordered other.2) entries
      other.folders.entries

theorem IsReordered.symm (hreordered : table.IsReordered other) : other.IsReordered table := by
  obtain ⟨entries, hperm, hrelated⟩ := hreordered.folders
  obtain ⟨others, hothers, hreorders⟩ := List.perm_comp_forall₂ hperm hrelated
  refine ⟨hreordered.general.symm, others, hreorders.symm, ?_⟩
  exact hothers.flip.imp fun _ _ hsame => ⟨hsame.1.symm, hsame.2.symm⟩

/-- Every table of a folder stands in the other order too, and answers alike there. -/
theorem IsReordered.exists_entry (hreordered : table.IsReordered other)
    (hentry : entry ∈ table.folders.entries) :
    ∃ found ∈ other.folders.entries, entry.1 = found.1 ∧ entry.2.IsReordered found.2 := by
  obtain ⟨entries, hperm, hrelated⟩ := hreordered.folders
  have hmem := hperm.mem_iff.mp hentry
  clear hperm hentry
  generalize other.folders.entries = others at hrelated ⊢
  induction hrelated with
  | nil => simp at hmem
  | @cons first found _ _ hfirst _ ih =>
    rcases List.mem_cons.mp hmem with rfl | hmem
    · exact ⟨found, List.mem_cons_self, hfirst⟩
    · obtain ⟨later, hlater, hsame⟩ := ih hmem
      exact ⟨later, List.mem_cons_of_mem found hlater, hsame⟩

theorem Gives.of_isReordered (hreordered : table.IsReordered other)
    (hkeys : table.HasDistinctKeys) (hgives : other.Gives language file parsers) :
    table.Gives language file parsers := by
  have hget : ∀ {entry found : Path × LanguageMap}, entry ∈ table.folders.entries →
      entry.2.IsReordered found.2 → entry.2.get? language = found.2.get? language := by
    intro entry found hentry hsame
    have hnodup := hkeys.languages entry hentry
    exact (LanguageMap.isReordered_iff hnodup (hsame.nodup_ids hnodup)).mp hsame language
  have hgeneral : table.general.get? language = other.general.get? language :=
    (LanguageMap.isReordered_iff hkeys.general
      (hreordered.general.nodup_ids hkeys.general)).mp hreordered.general language
  have hthere : ∀ entry ∈ table.folders.entries, ∃ found ∈ other.folders.entries,
      entry.1 = found.1 ∧ entry.2.get? language = found.2.get? language := by
    intro entry hentry
    obtain ⟨found, hfound, hfolder, hsame⟩ := hreordered.exists_entry hentry
    exact ⟨found, hfound, hfolder, hget hentry hsame⟩
  have hback : ∀ found ∈ other.folders.entries, ∃ entry ∈ table.folders.entries,
      found.1 = entry.1 ∧ found.2.get? language = entry.2.get? language := by
    intro found hfound
    obtain ⟨entry, hentry, hfolder, hsame⟩ := hreordered.symm.exists_entry hfound
    exact ⟨entry, hentry, hfolder, (hget hentry hsame.symm).symm⟩
  have hnone : other.HasNoFolder file language → table.HasNoFolder file language := by
    intro hfolders path hfile entry hentry hin
    obtain ⟨found, hfound, hfolder, hsame⟩ := hthere entry hentry
    rw [hsame]
    exact hfolders path hfile found hfound (hfolder ▸ hin)
  cases hgives with
  | @folder path found _ hfound hparsers =>
    obtain ⟨entry, hentry, hfolder, hsame⟩ := hback found hfound.mem
    refine .folder ⟨hentry, hfolder ▸ hfound.isIn, hsame ▸ hfound.lists, ?_⟩ (hsame ▸ hparsers)
    intro another hanother hin hlists
    obtain ⟨counter, hcounter, hplace, hequal⟩ := hthere another hanother
    rw [← hfolder, hplace]
    exact hfound.deepest counter hcounter (hplace ▸ hin) (hequal ▸ hlists)
  | settings hfolders hparsers => exact .settings (hnone hfolders) (hgeneral.trans hparsers)
  | builtin hfolders hgeneral' hbuiltin hfound hfirst =>
    exact .builtin (hnone hfolders) (hgeneral.trans hgeneral') hbuiltin hfound hfirst
  | unknown hfolders hgeneral' hbuiltin =>
    exact .unknown (hnone hfolders) (hgeneral.trans hgeneral') hbuiltin

theorem builtinParsers_none (language : String) :
    builtinParsers none language =
      ((Language.builtin.filter fun builtin => !builtin.extensions.isEmpty).find?
        (·.ids.contains language)).elim [] Language.parsers := by
  have htakes : (fun builtin : Language => builtin.takes language none) =
      fun builtin =>
        decide ((!builtin.extensions.isEmpty) = true ∧ builtin.ids.contains language = true) := by
    funext builtin
    rw [Language.takes, Option.any_none, Bool.or_false, Bool.and_comm, Bool.decide_and,
      Bool.decide_eq_true, Bool.decide_eq_true]
  rw [builtinParsers, Option.bind_none, htakes, List.find?_filter]
  cases Language.builtin.find? _ <;> rfl

/-- The parsers of a language come from the first source that has it, and in no order of the tables
from another one. Without a file no folder is a source, nor is a language that takes files of a
certain name only. -/
theorem parsers_eq_iff_gives (hkeys : table.HasDistinctKeys) (file : Option Path)
    (language : String) :
    (∀ parsers, table.parsers file language = parsers ↔ table.Gives language file parsers) ∧
      (table.parsers none language = (table.general.get? language).getD
        (((Language.builtin.filter fun builtin => !builtin.extensions.isEmpty).find?
          (·.ids.contains language)).elim [] Language.parsers)) ∧
      (∀ other : LanguageTable, table.IsReordered other →
        other.parsers file language = table.parsers file language ∧
          ((other.layers file).findSome? (·.get? language)).getD (builtinParsers file language) =
            table.parsers file language) ∧
      ∀ path first second : Path, path.isIn first = true → path.isIn second = true →
        first.depth = second.depth → first.sameAs second = true := by
  refine ⟨fun parsers => ⟨?_, Gives.parsers_eq hkeys.folders⟩, ?_, ?_, ?_⟩
  · rintro rfl
    exact gives_parsers table file language
  · have hfolders : table.HasNoFolder none language := fun path hfile => nomatch hfile
    rw [← builtinParsers_none]
    exact (gives_of_hasNoFolder hfolders).parsers_eq hkeys.folders
  · intro other hreordered
    have hsame : ∀ {parsers}, other.Gives language file parsers →
        parsers = table.parsers file language := by
      intro parsers hgives
      exact ((hgives.of_isReordered hreordered hkeys).parsers_eq hkeys.folders).symm
    exact ⟨hsame (gives_parsers other file language), hsame (gives_layers other file language)⟩
  · intro path first second
    exact Path.sameAs_of_depth_eq

/-- A folder in another one, with parsers of its own for a language that both of them have. -/
def nestedFolders : LanguageTable where
  general := ⟨[("svelte", ["flow"])]⟩
  folders := ⟨[
    ("/ws", ⟨[("svelte", ["babel"]), ("vue", ["html"])]⟩),
    ("/ws/app/", ⟨[("svelte", ["svelte"])]⟩),
    ("/other", ⟨[("svelte", [])]⟩)]⟩

/-- The inner folder decides, also if the folders come in the opposite order. -/
theorem inner_folder_gives_parsers :
    let file := Path.ofString "/ws/app/App.svelte"
    let opposite : LanguageTable := ⟨nestedFolders.general, ⟨nestedFolders.folders.entries.reverse⟩⟩
    nestedFolders.HasDistinctKeys ∧ nestedFolders.IsReordered opposite ∧
      nestedFolders.Gives "svelte" (some file) ["svelte"] ∧
      opposite.parsers (some file) "svelte" = ["svelte"] := by
  intro file opposite
  have hkeys : nestedFolders.HasDistinctKeys := by decide
  have hreordered : nestedFolders.IsReordered opposite := by
    refine ⟨.refl _, _, (List.reverse_perm _).symm, List.forall₂_same.mpr ?_⟩
    exact fun entry _ => ⟨rfl, .refl _⟩
  have hspec := parsers_eq_iff_gives hkeys (some file) "svelte"
  have hparsers : nestedFolders.parsers (some file) "svelte" = ["svelte"] := by decide
  exact ⟨hkeys, hreordered, (hspec.1 _).mp hparsers,
    (hspec.2.2.1 opposite hreordered).1.trans hparsers⟩

end LanguageTable

end FormatServer
