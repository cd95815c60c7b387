import FormatServer.Proofs.Path.Parents
import Mathlib.Data.List.Infix
import Mathlib.Data.List.Nodup

/-!
# The nearest directory

A path and the directories that it lies in are the beginnings of its components, from the longest.
So no two of them are equally deep, and what is found first on the way up is found in the deepest
directory that has it.
-/

namespace FormatServer.Path

variable {path first second directory : Path}

/-! ### The directories at or above a path -/

/-- A path without a mark, or with a leading dot, is also in the directory that it is taken from. -/
theorem cons_componentsAbove {lead : List Component}
    (hlead : lead = [.root] ∨ lead = [.here] ∨ lead = []) (listed : List Component) :
    (lead ++ listed.reverse) :: componentsAbove lead listed =
      ((lead ++ listed.reverse).inits.filter fun front => front ≠ [] ∨ lead ≠ [.root]).reverse := by
  induction listed with
  | nil => obtain rfl | rfl | rfl := hlead <;> decide
  | cons component more ih =>
    have hinits : (lead ++ (component :: more).reverse).inits =
        (lead ++ more.reverse).inits ++ [lead ++ (component :: more).reverse] := by
      rw [List.reverse_cons, ← List.append_assoc, List.inits_append]
      simp
    rw [componentsAbove, ih, hinits, List.filter_append, List.reverse_append,
      List.filter_cons_of_pos (by simp), List.filter_nil, List.reverse_singleton,
      List.singleton_append]

/-- The components of the directories are the beginnings of those of the path, but an absolute path
stays at the root. -/
theorem map_components_ancestors (path : Path) :
    path.ancestors.map components =
      (path.components.inits.filter fun front =>
        front ≠ [] ∨ path.isAbsolute = false).reverse := by
  have hmark := (fits_lead path).mark
  have hlead : leadComponents path.lead.1 = [.root] ∨ leadComponents path.lead.1 = [.here] ∨
      leadComponents path.lead.1 = [] := by
    obtain hmark | ⟨hmark, -⟩ | ⟨hmark, -⟩ := hmark <;> rw [hmark] <;> decide
  have hnames : path.components = leadComponents path.lead.1 ++
      ((segments path.lead.2).filterMap Segment.component?).reverse.reverse := by
    rw [List.reverse_reverse, components]
  have habsolute : path.isAbsolute = false ↔ leadComponents path.lead.1 ≠ [.root] := by
    rw [← Bool.not_eq_true, isAbsolute_iff, not_iff_not, components]
    obtain hlead | hlead | hlead := hlead <;> rw [hlead]
    · simp
    · simp
    · refine iff_of_false ?_ (by simp)
      intro hroot
      obtain ⟨segment, -, hsegment⟩ := List.mem_filterMap.mp (List.mem_of_mem_head? hroot)
      exact component?_ne_root segment hsegment
  rw [ancestors, List.map_cons, map_components_parents, hnames, cons_componentsAbove hlead]
  simp only [habsolute]

theorem pairwise_depth_ancestors (path : Path) :
    path.ancestors.Pairwise fun first second => second.depth < first.depth := by
  have hinits : path.components.inits.Pairwise fun first second =>
      first.length < second.length := by
    rw [List.pairwise_iff_getElem]
    intro i j hi hj hij
    rw [List.length_inits] at hi hj
    rw [List.getElem_inits, List.getElem_inits, List.length_take, List.length_take]
    omega
  have hcomponents : (path.ancestors.map components).Pairwise fun first second =>
      second.length < first.length := by
    rw [map_components_ancestors, List.pairwise_reverse]
    exact hinits.filter _
  exact List.pairwise_map.mp hcomponents

theorem eq_of_mem_ancestors (hfirst : first ∈ path.ancestors) (hsecond : second ∈ path.ancestors)
    (hdepth : first.depth = second.depth) : first = second := by
  have hdistinct : (path.ancestors.map depth).Nodup :=
    List.pairwise_map.mpr (path.pairwise_depth_ancestors.imp Nat.ne_of_gt)
  exact List.inj_on_of_nodup_map hdistinct hfirst hsecond hdepth

/-! ### The nearest one -/

/-- The deepest directory at or above the path of which the condition holds. -/
structure IsNearest (condition : Path → Prop) (path directory : Path) : Prop where
  mem : directory ∈ path.ancestors
  holds : condition directory
  deepest : ∀ other ∈ path.ancestors, condition other → other.depth ≤ directory.depth

variable {condition : Path → Prop}

theorem IsNearest.unique (hfirst : IsNearest condition path first)
    (hsecond : IsNearest condition path second) : first = second :=
  eq_of_mem_ancestors hfirst.mem hsecond.mem <|
    Nat.le_antisymm (hsecond.deepest first hfirst.mem hfirst.holds)
      (hfirst.deepest second hsecond.mem hsecond.holds)

theorem exists_isNearest_of_findSome? {α : Type} {find? : Path → Option α} {found : α}
    (hfound : path.ancestors.findSome? find? = some found) :
    ∃ directory, IsNearest (fun other => (find? other).isSome = true) path directory ∧
      find? directory = some found := by
  obtain ⟨directory, hmem, hthere, hdeepest⟩ := exists_deepest_of_findSome? id
    (path.pairwise_depth_ancestors.imp Nat.le_of_lt) hfound
  exact ⟨directory, ⟨hmem, Option.isSome_of_eq_some hthere, hdeepest⟩, hthere⟩

theorem findSome?_ancestors_eq_some_iff {α : Type} {find? : Path → Option α} {found : α} :
    path.ancestors.findSome? find? = some found ↔
      ∃ directory, IsNearest (fun other => (find? other).isSome = true) path directory ∧
        find? directory = some found := by
  refine ⟨exists_isNearest_of_findSome?, ?_⟩
  rintro ⟨directory, hnearest, hthere⟩
  obtain ⟨result, hresult⟩ : ∃ result, path.ancestors.findSome? find? = some result := by
    rw [← Option.isSome_iff_exists, List.findSome?_isSome_iff]
    exact ⟨directory, hnearest.mem, hnearest.holds⟩
  -- Something is found, in the nearest directory, and there is only one of these.
  obtain ⟨other, hother, hthere'⟩ := exists_isNearest_of_findSome? hresult
  obtain rfl := hother.unique hnearest
  rw [hresult, ← hthere', hthere]

theorem find?_ancestors_eq_some_iff {isWanted : Path → Bool} :
    path.ancestors.find? isWanted = some directory ↔
      IsNearest (fun other => isWanted other = true) path directory := by
  rw [List.find?_eq_findSome?_guard, findSome?_ancestors_eq_some_iff]
  simp only [Option.isSome_guard, Option.guard_eq_some_iff]
  constructor
  · rintro ⟨_, hnearest, rfl, -⟩
    exact hnearest
  · exact fun hnearest => ⟨directory, hnearest, rfl, hnearest.holds⟩

end FormatServer.Path
