import FormatServer.Proofs.Language.Lookup
import Mathlib.Data.List.Nodup

/-!
# Tables over tables

A table laid over another one keeps the places of the lower table and adds its own languages at the
end. Which entries a table has is known from what it answers, and where they stand from the order of
its languages. So laying tables over each other is associative, and the order in which the entries
of a table are read decides nothing but the places.
-/

namespace FormatServer

namespace LanguageMap

variable {first second third primary fallback : LanguageMap}

/-! ### Entries and answers -/

theorem mem_entries_iff (hnodup : first.ids.Nodup) (entry : String × List String) :
    entry ∈ first.entries ↔ first.get? entry.1 = some entry.2 := by
  obtain ⟨entries⟩ := first
  rw [ids] at hnodup
  rw [get?]
  induction entries with
  | nil => simp
  | cons other rest ih =>
    obtain ⟨hother, hrest⟩ := List.nodup_cons.mp hnodup
    rw [List.mem_cons, lookup_cons_eq_ite, ih hrest]
    by_cases hkey : entry.1 = other.1
    · have habsent : rest.lookup entry.1 = none := by
        rw [hkey, ← Option.not_isSome_iff_eq_none]
        exact mt (mem_ids_iff ⟨rest⟩ other.1).mpr hother
      rw [habsent, if_pos hkey, Option.some_inj, Prod.ext_iff, eq_comm (a := other.2)]
      simp [hkey]
    · have hdiffers : entry ≠ other := fun hentry => hkey (congrArg Prod.fst hentry)
      simp [hkey, hdiffers]

/-- The same entries, perhaps in another order. -/
def IsReordered (first second : LanguageMap) : Prop :=
  first.entries.Perm second.entries

theorem IsReordered.nodup_ids (hreordered : first.IsReordered second) (hfirst : first.ids.Nodup) :
    second.ids.Nodup :=
  (hreordered.map Prod.fst).nodup_iff.mp hfirst

/-- Tables differ in nothing but the order of their entries if they answer alike. -/
theorem isReordered_iff (hfirst : first.ids.Nodup) (hsecond : second.ids.Nodup) :
    first.IsReordered second ↔ ∀ language, first.get? language = second.get? language := by
  rw [IsReordered, List.perm_ext_iff_of_nodup hfirst.of_map hsecond.of_map]
  constructor
  · intro hentries language
    refine Option.ext fun parsers => ?_
    have hentry := hentries (language, parsers)
    rwa [mem_entries_iff hfirst, mem_entries_iff hsecond] at hentry
  · intro hget entry
    rw [mem_entries_iff hfirst, mem_entries_iff hsecond, hget entry.1]

theorem entries_eq_filterMap (hnodup : first.ids.Nodup) :
    first.entries = first.ids.filterMap fun id => (first.get? id).map (id, ·) := by
  have hentry : ∀ entry ∈ first.entries,
      (first.get? entry.1).map (entry.1, ·) = some entry := by
    intro entry hentry
    rw [(mem_entries_iff hnodup entry).mp hentry]
    rfl
  rw [ids, List.filterMap_map]
  exact ((List.filterMap_congr hentry).trans List.filterMap_some).symm

/-- Tables with the same languages in the same places are equal if they answer alike. -/
theorem eq_of_ids_of_get? (hnodup : first.ids.Nodup) (hids : first.ids = second.ids)
    (hget : ∀ language, first.get? language = second.get? language) : first = second := by
  have hentries : first.entries = second.entries := by
    rw [entries_eq_filterMap hnodup, entries_eq_filterMap (hids ▸ hnodup), hids, funext hget]
  cases first
  cases second
  exact congrArg mk hentries

/-! ### The languages of a table laid over another one -/

theorem ids_foldl_insert {entries : List (String × List String)}
    (hnodup : (entries.map Prod.fst).Nodup) (languages : LanguageMap) :
    (entries.foldl (fun languages entry => languages.insert entry.1 entry.2) languages).ids =
      languages.ids ++ (entries.map Prod.fst).filter fun id => !languages.ids.contains id := by
  induction entries generalizing languages with
  | nil => simp
  | cons entry rest ih =>
    obtain ⟨hentry, hrest⟩ := List.nodup_cons.mp hnodup
    have hids : (languages.insert entry.1 entry.2).ids =
        if entry.1 ∈ languages.ids then languages.ids else languages.ids ++ [entry.1] :=
      ids_put languages.entries entry.1 entry.2
    rw [List.foldl_cons, ih hrest, hids, List.map_cons]
    by_cases hmem : entry.1 ∈ languages.ids
    · simp [hmem]
    · have hothers : ∀ id ∈ rest.map Prod.fst, id ≠ entry.1 := by
        rintro id hid rfl
        exact hentry hid
      have hfilter :
          (rest.map Prod.fst).filter (fun id => !(languages.ids ++ [entry.1]).contains id) =
            (rest.map Prod.fst).filter fun id => !languages.ids.contains id :=
        List.filter_congr fun id hid => by simp [hothers id hid]
      rw [if_neg hmem, hfilter, List.filter_cons_of_pos (by simpa using hmem), List.append_assoc,
        List.singleton_append]

theorem ids_withFallback (hprimary : primary.ids.Nodup) (fallback : LanguageMap) :
    (primary.withFallback fallback).ids =
      fallback.ids ++ primary.ids.filter fun id => !fallback.ids.contains id :=
  ids_foldl_insert hprimary fallback

theorem nodup_ids_withFallback (primary : LanguageMap) (hfallback : fallback.ids.Nodup) :
    (primary.withFallback fallback).ids.Nodup :=
  nodup_ids_foldl_insert primary.entries hfallback

theorem withFallback_self (hnodup : first.ids.Nodup) : first.withFallback first = first := by
  refine eq_of_ids_of_get? (nodup_ids_withFallback first hnodup) ?_ ?_
  · rw [ids_withFallback hnodup, List.append_right_eq_self, List.filter_eq_nil_iff]
    intro id hid
    simpa using hid
  · intro language
    rw [get?_withFallback hnodup, Option.or_self]

theorem withFallback_assoc (hfirst : first.ids.Nodup) (hsecond : second.ids.Nodup)
    (hthird : third.ids.Nodup) :
    (first.withFallback second).withFallback third =
      first.withFallback (second.withFallback third) := by
  have hupper := nodup_ids_withFallback first hsecond
  refine eq_of_ids_of_get? (nodup_ids_withFallback _ hthird) ?_ ?_
  · rw [ids_withFallback hupper, ids_withFallback hfirst, ids_withFallback hfirst,
      ids_withFallback hsecond, List.filter_append, List.filter_filter, List.append_assoc]
    congr 2
    refine List.filter_congr fun id _ => ?_
    by_cases hid : id ∈ third.ids <;> simp [hid]
  · intro language
    rw [get?_withFallback hupper, get?_withFallback hfirst, get?_withFallback hfirst,
      get?_withFallback hsecond, Option.or_assoc]

end LanguageMap

end FormatServer
