import FormatServer.Proofs.Path.Normal

/-!
# The directories that a path lies in

The directories above a path are read off its segments from the last. Segments that go nowhere are
passed over on the way, so each directory has the first components of the path, and paths that are
the same lie in the same directories.
-/

namespace FormatServer.Path

variable {mark : List Glyph} {kept other listed : List Segment} {first second : Path}

/-- The segments can follow the mark in a path that has this mark. -/
structure Fits (mark : List Glyph) (kept : List Segment) : Prop where
  noSlash : ∀ segment ∈ kept, slash ∉ segment
  mark : mark = [slash] ∨ (mark = Segment.here ∧ ∀ first ∈ kept.head?, first = []) ∨
    (mark = [] ∧ (kept = [[]] ∨ ∀ first ∈ kept.head?, Segment.isEmpty first = false))

namespace Fits

theorem of_prefix (hfits : Fits mark kept) (hfront : other <+: kept) : Fits mark other := by
  refine ⟨fun segment hsegment => hfits.noSlash segment (hfront.subset hsegment), ?_⟩
  cases other with
  | nil =>
    refine hfits.mark.imp_right (Or.imp ?_ ?_)
    · exact fun hhere => ⟨hhere.1, by simp⟩
    · exact fun hnone => ⟨hnone.1, .inr (by simp)⟩
  | cons segment more =>
    obtain ⟨rest, rfl⟩ := hfront
    refine hfits.mark.imp_right (Or.imp_right (And.imp_right (Or.imp_left ?_)))
    intro hempty
    have hmore : more ++ rest = [] := (List.cons.inj hempty).2
    rw [(List.append_eq_nil_iff.mp hmore).1, (List.cons.inj hempty).1]

theorem lead (hfits : Fits mark kept) : Path.lead ⟨mark ++ joined kept⟩ = (mark, joined kept) := by
  obtain rfl | ⟨rfl, hhere⟩ | ⟨rfl, hnone⟩ := hfits.mark
  · simp [Path.lead]
  · cases kept with
    | nil => rfl
    | cons segment more =>
      obtain rfl := hhere segment rfl
      cases more <;> rfl
  · rcases hnone with rfl | hnone
    · rfl
    · cases kept with
      | nil => rfl
      | cons segment more =>
        have hgoes : Segment.isEmpty segment = false := hnone segment rfl
        have hplain : slash ∉ segment := hfits.noSlash segment List.mem_cons_self
        rcases segment with _ | ⟨glyph, _ | ⟨next, rest⟩⟩
        · simp [Segment.isEmpty] at hgoes
        · have hglyph : glyph ≠ slash := by simpa [eq_comm] using hplain
          have hdot : glyph ≠ .char '.' := by
            simpa [Segment.isEmpty, Segment.here] using hgoes
          cases more <;> simp [joined, Path.lead, hglyph, hdot]
        · simp only [List.mem_cons, not_or] at hplain
          cases more <;> simp [joined, Path.lead, Ne.symm hplain.1, Ne.symm hplain.2.1]

theorem components (hfits : Fits mark kept) :
    Path.components ⟨mark ++ joined kept⟩ =
      leadComponents mark ++ kept.filterMap Segment.component? := by
  rw [Path.components, hfits.lead]
  by_cases hempty : kept = []
  · rw [hempty]
    rfl
  · rw [segments_joined hempty hfits.noSlash]

end Fits

theorem fits_lead (path : Path) : Fits path.lead.1 (segments path.lead.2) := by
  refine ⟨fun segment hsegment => slash_notMem_of_mem_segments hsegment, ?_⟩
  obtain ⟨glyphs⟩ := path
  cases glyphs with
  | nil => exact .inr (.inr ⟨rfl, .inl rfl⟩)
  | cons glyph rest =>
    rw [lead]
    dsimp only
    split
    next hslash => exact .inl (by rw [hslash])
    next hslash =>
      split
      next hdot =>
        obtain ⟨rfl, hrest⟩ := hdot
        refine .inr (.inl ⟨rfl, ?_⟩)
        rcases hrest with rfl | hrest
        · simp [segments]
        · obtain ⟨more, rfl⟩ := List.head?_eq_some_iff.mp hrest
          simp [segments]
      next hdot =>
        refine .inr (.inr ⟨rfl, .inr ?_⟩)
        obtain ⟨head, more, hsegments, hcons⟩ := segments_cons_of_ne hslash rest
        rw [hcons]
        intro segment hsegment
        obtain rfl := Option.some.inj hsegment
        -- A dot alone would have been the mark.
        rw [← Bool.not_eq_true]
        intro hempty
        have hhere : glyph :: head = Segment.here := by
          simpa [Segment.isEmpty] using hempty
        obtain ⟨hglyph, rfl⟩ := List.cons.inj hhere
        refine hdot ⟨hglyph, ?_⟩
        cases rest with
        | nil => exact .inl rfl
        | cons next last =>
          by_cases hnext : next = slash
          · exact .inr (by rw [hnext]; rfl)
          · obtain ⟨_, _, -, hnamed⟩ := segments_cons_of_ne hnext last
            rw [hnamed] at hsegments
            simp at hsegments

/-- The components of the directories above, for a path whose names are listed from the last. -/
def componentsAbove (lead : List Component) : List Component → List (List Component)
  | [] => if lead = [.here] then [[]] else []
  | _ :: more => (lead ++ more.reverse) :: componentsAbove lead more

theorem leadComponents_eq_here_iff (hfits : Fits mark kept) :
    leadComponents mark = [.here] ↔ mark = Segment.here := by
  obtain rfl | ⟨rfl, -⟩ | ⟨rfl, -⟩ := hfits.mark <;> decide

theorem filterMap_component?_dropWhile (listed : List Segment) :
    (listed.dropWhile Segment.isEmpty).filterMap Segment.component? =
      listed.filterMap Segment.component? := by
  induction listed with
  | nil => rfl
  | cons segment more ih =>
    by_cases hempty : Segment.isEmpty segment = true
    · have hnone : Segment.component? segment = none := component?_eq_none_iff.mpr hempty
      rw [List.dropWhile_cons_of_pos hempty, List.filterMap_cons_none hnone, ih]
    · rw [List.dropWhile_cons_of_neg hempty]

theorem map_components_above (hfits : Fits mark listed.reverse) :
    (above mark listed).map components =
      componentsAbove (leadComponents mark) (listed.filterMap Segment.component?) := by
  induction listed with
  | nil =>
    rw [above, List.filterMap_nil, componentsAbove]
    by_cases hmark : mark = Segment.here
    · rw [if_pos hmark, if_pos ((leadComponents_eq_here_iff hfits).mpr hmark)]
      rfl
    · rw [if_neg hmark, if_neg (mt (leadComponents_eq_here_iff hfits).mp hmark)]
      rfl
  | cons segment more ih =>
    rw [List.reverse_cons] at hfits
    have hmore : Fits mark more.reverse := hfits.of_prefix (List.prefix_append _ _)
    rw [above]
    by_cases hempty : Segment.isEmpty segment = true
    · have hnone : Segment.component? segment = none := component?_eq_none_iff.mpr hempty
      rw [if_pos hempty, ih hmore, List.filterMap_cons_none hnone]
    · obtain ⟨component, hcomponent⟩ :=
        Option.ne_none_iff_exists'.mp (mt component?_eq_none_iff.mp hempty)
      have hkept : Fits mark (more.dropWhile Segment.isEmpty).reverse :=
        hmore.of_prefix (List.reverse_prefix.mpr (List.dropWhile_suffix _))
      rw [if_neg hempty, List.map_cons, ih hmore, hkept.components,
        List.filterMap_cons_some hcomponent, componentsAbove, List.filterMap_reverse,
        filterMap_component?_dropWhile]

theorem map_components_parents (path : Path) :
    path.parents.map components =
      componentsAbove (leadComponents path.lead.1)
        ((segments path.lead.2).filterMap Segment.component?).reverse := by
  have hfits : Fits path.lead.1 (segments path.lead.2).reverse.reverse := by
    rw [List.reverse_reverse]
    exact fits_lead path
  rw [parents, map_components_above hfits, List.filterMap_reverse]

/-! ### Paths that are the same -/

/-- The mark and the names can be told apart in the components. -/
theorem components_split (path : Path) :
    path.components.takeWhile isMark = leadComponents path.lead.1 ∧
      path.components.dropWhile isMark =
        (segments path.lead.2).filterMap Segment.component? := by
  have hlead : ∀ component ∈ leadComponents path.lead.1, isMark component = true := by
    obtain hmark | ⟨hmark, -⟩ | ⟨hmark, -⟩ := (fits_lead path).mark <;> rw [hmark] <;> decide
  have hnames : ∀ component ∈ (segments path.lead.2).filterMap Segment.component?,
      isMark component = false := by
    intro component hcomponent
    obtain ⟨segment, -, hsegment⟩ := List.mem_filterMap.mp hcomponent
    exact isMark_of_component? hsegment
  rw [components, List.takeWhile_append_of_pos hlead, List.dropWhile_append_of_pos hlead]
  generalize (segments path.lead.2).filterMap Segment.component? = names at hnames
  cases names with
  | nil => simp
  | cons name more =>
    have hname : ¬isMark name = true := by simp [hnames name List.mem_cons_self]
    rw [List.takeWhile_cons_of_neg hname, List.dropWhile_cons_of_neg hname]
    simp

theorem map_components_ancestors_eq (hsame : first.sameAs second = true) :
    first.ancestors.map components = second.ancestors.map components := by
  obtain ⟨hmark, hnames⟩ := components_split first
  obtain ⟨hmark', hnames'⟩ := components_split second
  rw [sameAs_iff] at hsame
  rw [ancestors, ancestors, List.map_cons, List.map_cons, map_components_parents,
    map_components_parents, ← hmark, ← hnames, ← hmark', ← hnames', hsame]

end FormatServer.Path
