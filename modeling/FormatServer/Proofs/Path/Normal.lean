import FormatServer.Path.Normal
import FormatServer.Proofs.Disk.Spelling

/-!
# Normal paths

A normal absolute path is a place on the disk written out: a slash, and the names of the place with
a slash between each two. Steps up have been taken back on the way, so that all names stand for
themselves, and the path has them as its components.
-/

namespace FormatServer

/-- A segment that goes to what has this name. -/
structure Segment.IsName (segment : Segment) : Prop where
  notEmpty : Segment.isEmpty segment = false
  notUp : segment ≠ Segment.up
  noSlash : Path.slash ∉ segment

theorem Segment.IsName.component? {segment : Segment} (hname : segment.IsName) :
    Segment.component? segment = some (.name segment) := by
  have hempty : ¬Segment.isEmpty segment = true := by simp [hname.notEmpty]
  rw [Segment.component?, if_neg hempty, if_neg hname.notUp]

theorem Segment.IsName.ne_nil {segment : Segment} (hname : segment.IsName) : segment ≠ [] := by
  rintro rfl
  simpa [Segment.isEmpty] using hname.notEmpty

namespace Path

variable {glyphs : List Glyph} {segment : Segment} {path : Path}

theorem slash_notMem_of_mem_segments (hsegment : segment ∈ segments glyphs) : slash ∉ segment := by
  induction glyphs generalizing segment with
  | nil =>
    rw [segments, List.mem_singleton] at hsegment
    simp [hsegment]
  | cons glyph rest ih =>
    by_cases hglyph : glyph = slash
    · rw [segments, if_pos hglyph] at hsegment
      rcases List.mem_cons.mp hsegment with rfl | hsegment
      · simp
      · exact ih hsegment
    · obtain ⟨first, more, hrest, hsegments⟩ := segments_cons_of_ne hglyph rest
      rw [hsegments] at hsegment
      rw [hrest] at ih
      rcases List.mem_cons.mp hsegment with rfl | hsegment
      · have hfirst : slash ∉ first := ih List.mem_cons_self
        simp [Ne.symm hglyph, hfirst]
      · exact ih (List.mem_cons_of_mem first hsegment)

theorem segments_of_slash_notMem (hslash : slash ∉ segment) : segments segment = [segment] := by
  induction segment with
  | nil => rfl
  | cons glyph rest ih =>
    rw [List.mem_cons, not_or] at hslash
    rw [segments, if_neg (Ne.symm hslash.1), ih hslash.2]

theorem joined_cons_cons (first second : Segment) (more : List Segment) :
    joined (first :: second :: more) = first ++ slash :: joined (second :: more) :=
  rfl

theorem segments_joined {names : List Segment} (hnonempty : names ≠ [])
    (hnames : ∀ name ∈ names, slash ∉ name) : segments (joined names) = names := by
  induction names with
  | nil => exact absurd rfl hnonempty
  | cons first rest ih =>
    obtain ⟨hfirst, hrest⟩ := List.forall_mem_cons.mp hnames
    cases rest with
    | nil => exact segments_of_slash_notMem hfirst
    | cons second more =>
      rw [joined_cons_cons, segments_append, segments_of_slash_notMem hfirst, ih (by simp) hrest,
        List.singleton_append]

theorem filterMap_component?_names {names : List Segment} (hnames : ∀ name ∈ names, name.IsName) :
    names.filterMap Segment.component? = names.map .name := by
  induction names with
  | nil => rfl
  | cons first rest ih =>
    obtain ⟨hfirst, hrest⟩ := List.forall_mem_cons.mp hnames
    rw [List.filterMap_cons_some hfirst.component?, ih hrest, List.map_cons]

theorem components_location {location : Location} (hnames : ∀ name ∈ location, name.IsName) :
    location.path.components = .root :: location.map .name := by
  have hlead : location.path.lead = ([slash], joined location) := by
    rw [lead, Location.path]
    simp
  have hsegments : (segments (joined location)).filterMap Segment.component? =
      location.map .name := by
    by_cases hempty : location = []
    · rw [hempty]
      rfl
    · rw [segments_joined hempty fun name hname => (hnames name hname).noSlash,
        filterMap_component?_names hnames]
  rw [components, hlead, hsegments]
  rfl

theorem exists_cons_of_isAbsolute (habsolute : path.isAbsolute = true) :
    ∃ rest, path = ⟨slash :: rest⟩ := by
  obtain ⟨glyphs⟩ := path
  rw [isAbsolute, decide_eq_true_eq] at habsolute
  obtain ⟨rest, rfl⟩ := List.head?_eq_some_iff.mp habsolute
  exact ⟨rest, rfl⟩

/-- From the root, components only add and take back names. -/
theorem exists_names_of_foldl_push (components : List Component) (hroot : .root ∉ components)
    (kept : List Segment) :
    ∃ names : List Segment,
      components.foldl Component.push (kept.map .name ++ [.root]) = names.map .name ++ [.root] ∧
        ∀ name ∈ names, name ∈ kept ∨ .name name ∈ components := by
  induction components generalizing kept with
  | nil => exact ⟨kept, rfl, fun name hname => .inl hname⟩
  | cons component rest ih =>
    rw [List.mem_cons, not_or] at hroot
    have hcarry : ∀ after : List Segment,
        Component.push (kept.map .name ++ [.root]) component = after.map .name ++ [.root] →
        (∀ name ∈ after, name ∈ kept ∨ component = .name name) →
        ∃ names : List Segment,
          (component :: rest).foldl Component.push (kept.map .name ++ [.root]) =
              names.map .name ++ [.root] ∧
            ∀ name ∈ names, name ∈ kept ∨ .name name ∈ component :: rest := by
      intro after hpush hafter
      obtain ⟨names, hfold, hnames⟩ := ih hroot.2 after
      refine ⟨names, by rw [List.foldl_cons, hpush, hfold], ?_⟩
      intro name hname
      rcases hnames name hname with hname | hname
      · rcases hafter name hname with hkept | rfl
        · exact .inl hkept
        · exact .inr List.mem_cons_self
      · exact .inr (List.mem_cons_of_mem component hname)
    cases component with
    | root => exact absurd rfl hroot.1
    | here => exact hcarry kept rfl fun name hname => .inl hname
    | up =>
      cases kept with
      | nil => exact hcarry [] rfl (by simp)
      | cons last more =>
        exact hcarry more rfl fun name hname => .inl (List.mem_cons_of_mem last hname)
    | name value =>
      refine hcarry (value :: kept) rfl fun name hname => ?_
      rcases List.mem_cons.mp hname with rfl | hname
      · exact .inr rfl
      · exact .inl hname

/-- A normal absolute path is a place written out. -/
theorem exists_location_of_normal (habsolute : path.isAbsolute = true)
    (hnormal : path.normal = path) :
    ∃ location : Location, path = location.path ∧ ∀ name ∈ location, name.IsName := by
  obtain ⟨rest, rfl⟩ := exists_cons_of_isAbsolute habsolute
  have hcomponents : (Path.mk (slash :: rest)).components =
      .root :: (segments rest).filterMap Segment.component? := by
    simp [components, lead, leadComponents]
  have hroot : .root ∉ (segments rest).filterMap Segment.component? := by
    intro hmem
    obtain ⟨segment, -, hsegment⟩ := List.mem_filterMap.mp hmem
    exact component?_ne_root segment hsegment
  obtain ⟨names, hfold, hnames⟩ := exists_names_of_foldl_push _ hroot []
  refine ⟨names.reverse, ?_, ?_⟩
  · rw [← hnormal, normal, hcomponents, List.foldl_cons]
    have hpush : Component.push [] .root = [].map .name ++ [.root] := rfl
    rw [hpush, hfold, List.reverse_append, ← List.map_reverse]
    change ofComponents (.root :: names.reverse.map .name) = _
    rw [ofComponents, List.map_map, Location.path]
    congr 3
    exact List.map_id' names.reverse
  · intro name hname
    rcases hnames name (List.mem_reverse.mp hname) with hnone | hname
    · simp at hnone
    · obtain ⟨segment, hsegment, hcomponent⟩ := List.mem_filterMap.mp hname
      rw [Segment.component?] at hcomponent
      split at hcomponent
      next => simp at hcomponent
      next hempty =>
        split at hcomponent
        next => simp at hcomponent
        next hup =>
          obtain rfl : segment = name := Component.name.inj (Option.some.inj hcomponent)
          exact ⟨by simpa using hempty, hup, slash_notMem_of_mem_segments hsegment⟩

/-! ### Paths taken from the same path -/

theorem foldl_push_filter (components kept : List Component) :
    (components.filter (· ≠ .here)).foldl Component.push kept =
      components.foldl Component.push kept := by
  induction components generalizing kept with
  | nil => rfl
  | cons component rest ih =>
    by_cases hhere : component = .here
    · subst hhere
      exact ih kept
    · rw [List.filter_cons_of_pos (by simpa using hhere), List.foldl_cons, List.foldl_cons, ih]

theorem filter_components (path : Path) :
    path.components.filter (· ≠ .here) =
      (if path.isAbsolute then [.root] else []) ++ path.steps.filterMap Segment.component? := by
  have hnames : ((segments path.lead.2).filterMap Segment.component?).filter (· ≠ .here) =
      (segments path.lead.2).filterMap Segment.component? := by
    refine List.filter_eq_self.mpr fun component hcomponent => ?_
    obtain ⟨segment, -, hsegment⟩ := List.mem_filterMap.mp hcomponent
    rw [decide_eq_true_eq]
    rintro rfl
    simpa [isMark] using isMark_of_component? hsegment
  have hmark : (leadComponents path.lead.1).filter (· ≠ .here) =
      if path.isAbsolute then [.root] else [] := by
    obtain ⟨glyphs⟩ := path
    rw [lead, isAbsolute]
    cases glyphs with
    | nil => rfl
    | cons first rest =>
      dsimp only
      by_cases hslash : first = slash
      · simp [hslash, leadComponents]
      · have hother : ([first] : List Glyph) ≠ [slash] := by simpa using hslash
        split
        next h => exact absurd h hslash
        next =>
          split
          next => simp [leadComponents, hother, hslash]
          next => simp [leadComponents, hslash]
  rw [components, List.filter_append, hmark, hnames, steps_eq_filter_lead,
    filterMap_component?_filter]

/-- What is taken from a folder does not depend on how the folder is written. -/
theorem normal_join_congr {first second relative : Path} (hsame : first.sameAs second = true)
    (hrelative : relative.isAbsolute = false) :
    (first.join relative).normal = (second.join relative).normal := by
  rw [normal, normal, ← foldl_push_filter, ← foldl_push_filter (second.join relative).components,
    filter_components, filter_components, isAbsolute_join first hrelative,
    isAbsolute_join second hrelative, steps_join first hrelative, steps_join second hrelative,
    isAbsolute_eq_of_sameAs hsame, steps_eq_of_sameAs hsame]

end Path

end FormatServer
