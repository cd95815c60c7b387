import FormatServer.Disk.Environment
import FormatServer.Proofs.Path.Nesting

/-!
# Ways to write a path

A disk follows every segment of a path as it is written, but the ones that count are those that
name something or go up, and these can be told from the path's components. So paths that are the
same lead to the same place, if both lead anywhere: a path with too many slashes in it may be too
long to be followed.
-/

namespace FormatServer

namespace Component

/-- The segment that the component is written as, if it goes anywhere. -/
def step? : Component → Option Segment
  | .root | .here => none
  | .up => some Segment.up
  | .name value => some value

end Component

namespace Path

/-- The segments of the path that go anywhere. -/
def steps (path : Path) : List Segment :=
  (segments path.glyphs).filter fun segment => !Segment.isEmpty segment

theorem segments_ne_nil (glyphs : List Glyph) : segments glyphs ≠ [] := by
  induction glyphs with
  | nil => simp [segments]
  | cons glyph rest ih =>
    rw [segments]
    split
    next => simp
    next =>
      split
      next => simp
      next => simp

theorem segments_cons_of_ne {glyph : Glyph} (hglyph : glyph ≠ slash) (rest : List Glyph) :
    ∃ first more, segments rest = first :: more ∧
      segments (glyph :: rest) = (glyph :: first) :: more := by
  obtain ⟨first, more, hrest⟩ := List.exists_cons_of_ne_nil (segments_ne_nil rest)
  exact ⟨first, more, hrest, by rw [segments, if_neg hglyph, hrest]⟩

/-- A slash ends one segment and begins the next. -/
theorem segments_append (first second : List Glyph) :
    segments (first ++ slash :: second) = segments first ++ segments second := by
  induction first with
  | nil => simp [segments]
  | cons glyph rest ih =>
    by_cases hglyph : glyph = slash
    · rw [List.cons_append, segments, if_pos hglyph, segments, if_pos hglyph, ih, List.cons_append]
    · obtain ⟨head, more, hrest, hsegments⟩ := segments_cons_of_ne hglyph rest
      rw [hsegments, List.cons_append, segments, if_neg hglyph, ih, hrest, List.cons_append,
        List.cons_append]

/-! ### Steps and components -/

theorem component?_step? (segment : Segment) :
    (Segment.component? segment).bind Component.step? =
      if Segment.isEmpty segment then none else some segment := by
  rw [Segment.component?]
  split
  next => rfl
  next =>
    split
    next hup => rw [hup]; rfl
    next => rfl

theorem component?_eq_none_iff {segment : Segment} :
    Segment.component? segment = none ↔ Segment.isEmpty segment = true := by
  rw [Segment.component?]
  split
  next hempty => simp [hempty]
  next hempty => split <;> simp [hempty]

theorem filterMap_component?_filter (given : List Segment) :
    (given.filter fun segment => !Segment.isEmpty segment).filterMap Segment.component? =
      given.filterMap Segment.component? := by
  rw [List.filterMap_filter]
  congr 1
  funext segment
  by_cases hempty : Segment.isEmpty segment = true
  · simp [hempty, component?_eq_none_iff.mpr hempty]
  · simp [hempty]

theorem filterMap_component? (given : List Segment) :
    (given.filterMap Segment.component?).filterMap Component.step? =
      given.filter fun segment => !Segment.isEmpty segment := by
  rw [List.filterMap_filterMap, ← List.filterMap_eq_filter]
  congr 1
  funext segment
  rw [component?_step?, Option.guard]
  cases Segment.isEmpty segment <;> rfl

/-- The mark at the front of a path is a segment that goes nowhere. -/
theorem steps_eq_filter_lead (path : Path) :
    path.steps = (segments path.lead.2).filter fun segment => !Segment.isEmpty segment := by
  obtain ⟨glyphs⟩ := path
  rw [steps, lead]
  cases glyphs with
  | nil => rfl
  | cons first rest =>
    dsimp only
    split
    next hslash =>
      rw [segments, if_pos hslash]
      rfl
    next hslash =>
      split
      next hdot =>
        obtain ⟨rfl, rfl | hrest⟩ := hdot
        · rfl
        · obtain ⟨more, rfl⟩ := List.head?_eq_some_iff.mp hrest
          rfl
      next => rfl

theorem steps_eq_filterMap_components (path : Path) :
    path.steps = path.components.filterMap Component.step? := by
  have hmark : (leadComponents path.lead.1).filterMap Component.step? = [] := by
    rw [leadComponents]
    split
    next => rfl
    next =>
      split
      next => rfl
      next => rfl
  rw [components, List.filterMap_append, hmark, filterMap_component?, List.nil_append,
    steps_eq_filter_lead]

def isMark : Component → Bool
  | .root | .here => true
  | _ => false

theorem isMark_of_component? {segment : Segment} {component : Component}
    (hcomponent : Segment.component? segment = some component) : isMark component = false := by
  rw [Segment.component?] at hcomponent
  split at hcomponent
  next => simp at hcomponent
  next =>
    split at hcomponent
    next =>
      obtain rfl := Option.some.inj hcomponent
      rfl
    next =>
      obtain rfl := Option.some.inj hcomponent
      rfl

theorem component?_ne_root (segment : Segment) : Segment.component? segment ≠ some .root := by
  intro hroot
  simpa [isMark] using isMark_of_component? hroot

theorem isAbsolute_iff {path : Path} :
    path.isAbsolute = true ↔ path.components.head? = some .root := by
  have hnames : ∀ given : List Segment,
      (given.filterMap Segment.component?).head? ≠ some .root := by
    intro given hroot
    obtain ⟨segment, -, hsegment⟩ := List.mem_filterMap.mp (List.mem_of_mem_head? hroot)
    exact component?_ne_root segment hsegment
  obtain ⟨glyphs⟩ := path
  rw [isAbsolute, components, lead]
  cases glyphs with
  | nil => simpa [leadComponents] using hnames (segments [])
  | cons first rest =>
    dsimp only
    split
    next hslash => simp [hslash, leadComponents]
    next hslash =>
      have hother : ([first] : List Glyph) ≠ [slash] := by simpa using hslash
      split
      next => simp [leadComponents, hother, hslash]
      next => simpa [leadComponents, hslash] using hnames (segments (first :: rest))

theorem steps_eq_of_sameAs {first second : Path} (hsame : first.sameAs second = true) :
    first.steps = second.steps := by
  rw [steps_eq_filterMap_components, steps_eq_filterMap_components, sameAs_iff.mp hsame]

theorem isAbsolute_eq_of_sameAs {first second : Path} (hsame : first.sameAs second = true) :
    first.isAbsolute = second.isAbsolute := by
  rw [Bool.eq_iff_iff, isAbsolute_iff, isAbsolute_iff, sameAs_iff.mp hsame]

/-! ### A path taken from another one -/

theorem steps_join (base : Path) {relative : Path} (hrelative : relative.isAbsolute = false) :
    (base.join relative).steps = base.steps ++ relative.steps := by
  rw [join, if_neg (by simp [hrelative])]
  split
  next hend =>
    rcases hend with hempty | hslash
    · simp [steps, hempty, segments, Segment.isEmpty]
    · obtain ⟨front, hfront⟩ := List.getLast?_eq_some_iff.mp hslash
      simp only [steps, hfront, List.append_assoc, List.singleton_append, segments_append,
        List.filter_append]
      simp [segments, Segment.isEmpty]
  next =>
    simp only [steps, segments_append, List.filter_append]

theorem isAbsolute_join (base : Path) {relative : Path} (hrelative : relative.isAbsolute = false) :
    (base.join relative).isAbsolute = base.isAbsolute := by
  obtain ⟨glyphs⟩ := base
  rw [join, if_neg (by simp [hrelative])]
  cases glyphs with
  | nil => simpa [isAbsolute] using hrelative
  | cons first rest =>
    split
    next => simp [isAbsolute]
    next => simp [isAbsolute]

theorem isAbsolute_join_of_base {base : Path} (hbase : base.isAbsolute = true) (relative : Path) :
    (base.join relative).isAbsolute = true := by
  cases hrelative : relative.isAbsolute with
  | true =>
    rw [join, if_pos hrelative]
    exact hrelative
  | false =>
    rw [isAbsolute_join base hrelative]
    exact hbase

end Path

/-! ### Places -/

namespace Disk

variable {disk : Disk}

/-- Where a step leads that goes somewhere. -/
def follow (location : Location) (step : Segment) : Location :=
  if step = Segment.up then location.dropLast else location ++ [step]

theorem eq_foldl_follow_of_walk {start place : Location} {segments : List Segment}
    (hwalk : disk.walk start segments = .ok place) :
    place = (segments.filter fun segment => !Segment.isEmpty segment).foldl follow start := by
  induction segments generalizing start with
  | nil =>
    rw [walk] at hwalk
    exact (Except.ok.inj hwalk).symm
  | cons segment rest ih =>
    rw [walk] at hwalk
    split at hwalk
    next => simp at hwalk
    next =>
      split at hwalk
      next hempty => rw [ih hwalk, List.filter_cons_of_neg (by simp [hempty])]
      next hempty =>
        rw [List.filter_cons_of_pos (by simp [hempty]), List.foldl_cons, follow]
        split at hwalk
        next hup => rw [if_pos hup, ih hwalk]
        next hup =>
          split at hwalk
          next => simp at hwalk
          next => rw [if_neg hup, ih hwalk]
    next => simp at hwalk

theorem eq_foldl_follow_of_locate {directory place : Location} {path : Path}
    (hlocate : disk.locate directory path = .ok place) :
    place = path.steps.foldl follow (if path.isAbsolute then [] else directory) := by
  rw [locate] at hlocate
  split at hlocate
  next => simp at hlocate
  next =>
    split at hlocate
    next => simp at hlocate
    next =>
      split at hlocate
      next => simp at hlocate
      next => exact eq_foldl_follow_of_walk hlocate

theorem locate_of_find {directory : Location} {path : Path} {found : Location × Entry}
    (hfind : disk.find directory path = .ok found) :
    disk.locate directory path = .ok found.1 ∧ disk.entry found.1 = some found.2 := by
  simp only [find, bind, Except.bind] at hfind
  split at hfind
  next => simp at hfind
  next location hlocate =>
    split at hfind
    next entry hentry =>
      obtain rfl := Except.ok.inj hfind
      exact ⟨hlocate, hentry⟩
    next => simp at hfind

theorem find_unique {directory : Location} {first second : Path} {found other : Location × Entry}
    (habsolute : first.isAbsolute = second.isAbsolute) (hsteps : first.steps = second.steps)
    (hfirst : disk.find directory first = .ok found)
    (hsecond : disk.find directory second = .ok other) : found = other := by
  obtain ⟨hlocate, hentry⟩ := locate_of_find hfirst
  obtain ⟨hlocate', hentry'⟩ := locate_of_find hsecond
  have hplace : found.1 = other.1 := by
    rw [eq_foldl_follow_of_locate hlocate, eq_foldl_follow_of_locate hlocate', habsolute, hsteps]
  have hthere : some found.2 = some other.2 := by
    rw [← hentry, ← hentry', hplace]
  exact Prod.ext hplace (Option.some.inj hthere)

/-- A name is found in one place, however the folder is written that it is looked for in. -/
theorem find_join_unique {directory : Location} {first second name : Path}
    {found other : Location × Entry} (hsame : first.sameAs second = true)
    (hname : name.isAbsolute = false)
    (hfirst : disk.find directory (first.join name) = .ok found)
    (hsecond : disk.find directory (second.join name) = .ok other) : found = other := by
  refine find_unique ?_ ?_ hfirst hsecond
  · rw [Path.isAbsolute_join first hname, Path.isAbsolute_join second hname,
      Path.isAbsolute_eq_of_sameAs hsame]
  · rw [Path.steps_join first hname, Path.steps_join second hname, Path.steps_eq_of_sameAs hsame]

end Disk

end FormatServer
