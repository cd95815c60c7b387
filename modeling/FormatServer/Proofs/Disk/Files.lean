import FormatServer.Engine.Program
import FormatServer.Proofs.Disk.Spelling
import FormatServer.Proofs.Path.Parents

/-!
# Files by more than one path

A path to a file ends in a segment that goes somewhere, since what is before an empty segment has to
be a directory. Such a path is followed step by step, and all that its other segments do is to make
it longer. So two paths with the same steps lead to one file on every disk and name the same program
wherever it is run, unless one of them is too long for the system.
-/

namespace FormatServer

namespace Path

variable {glyphs : List Glyph} {path first second : Path}

def EndsInStep (path : Path) : Prop :=
  ∃ last, (segments path.glyphs).getLast? = some last ∧ Segment.isEmpty last = false

/-- The paths go through the same places, and a slash in one of them keeps both from being mere
names. -/
structure Respells (first second : Path) : Prop where
  isAbsolute : first.isAbsolute = second.isAbsolute
  steps : first.steps = second.steps
  slash : slash ∈ first.glyphs ↔ slash ∈ second.glyphs

/-- There can be a file with the path. -/
structure NamesFile (path : Path) : Prop where
  short : path.byteCount ≤ maxPathBytes
  noNul : path.hasNul = false
  ends : path.EndsInStep

theorem EndsInStep.glyphs_ne_nil (hends : path.EndsInStep) : path.glyphs ≠ [] := by
  obtain ⟨last, hlast, hgoes⟩ := hends
  intro hempty
  rw [hempty] at hlast
  obtain rfl := Option.some.inj hlast
  simp [Segment.isEmpty] at hgoes

/-! ### The glyphs of a path and its steps -/

theorem mem_glyphs_iff {glyph : Glyph} (hglyph : glyph ≠ slash) :
    glyph ∈ glyphs ↔ ∃ segment ∈ segments glyphs, glyph ∈ segment := by
  induction glyphs with
  | nil => simp [segments]
  | cons next rest ih =>
    by_cases hnext : next = slash
    · rw [segments, if_pos hnext, List.mem_cons, ih, hnext]
      simp [hglyph]
    · obtain ⟨head, more, hrest, hsegments⟩ := segments_cons_of_ne hnext rest
      rw [hrest] at ih
      rw [hsegments, List.mem_cons, ih]
      simp [or_assoc]

theorem hasNul_iff : path.hasNul = true ↔ ∃ step ∈ path.steps, .char '\x00' ∈ step := by
  rw [hasNul, List.contains_iff_mem, mem_glyphs_iff (by decide), steps]
  constructor
  · rintro ⟨segment, hsegment, hnul⟩
    refine ⟨segment, List.mem_filter.mpr ⟨hsegment, ?_⟩, hnul⟩
    have hnonempty : segment ≠ [] := List.ne_nil_of_mem hnul
    have hother : segment ≠ Segment.here := by
      rintro rfl
      simp [Segment.here] at hnul
    simp [Segment.isEmpty, hnonempty, hother]
  · rintro ⟨step, hstep, hnul⟩
    exact ⟨step, (List.mem_filter.mp hstep).1, hnul⟩

theorem hasNul_congr (hsteps : first.steps = second.steps) : first.hasNul = second.hasNul := by
  rw [Bool.eq_iff_iff, hasNul_iff, hasNul_iff, hsteps]

theorem steps_of_name (hname : slash ∉ path.glyphs) (hends : path.EndsInStep) :
    path.steps = [path.glyphs] := by
  obtain ⟨last, hlast, hgoes⟩ := hends
  rw [segments_of_slash_notMem hname, List.getLast?_singleton] at hlast
  obtain rfl := Option.some.inj hlast
  rw [steps, segments_of_slash_notMem hname, List.filter_cons_of_pos (by simp [hgoes])]
  rfl

theorem eq_of_respells_name (hrespells : Respells first second) (hname : slash ∉ first.glyphs)
    (hfirst : first.EndsInStep) (hsecond : second.EndsInStep) : first = second := by
  have hname' : slash ∉ second.glyphs := mt hrespells.slash.mpr hname
  have hsteps := hrespells.steps
  rw [steps_of_name hname hfirst, steps_of_name hname' hsecond] at hsteps
  exact congrArg Path.mk (List.cons.inj hsteps).1

theorem exists_component {segment : Segment} (hgoes : Segment.isEmpty segment = false) :
    ∃ component, Segment.component? segment = some component := by
  rw [Segment.component?, if_neg (by simp [hgoes])]
  split <;> exact ⟨_, rfl⟩

theorem names_length_pos {last : Segment} (hmem : last ∈ segments glyphs)
    (hgoes : Segment.isEmpty last = false) :
    0 < ((segments glyphs).filterMap Segment.component?).length := by
  obtain ⟨component, hcomponent⟩ := exists_component hgoes
  exact List.length_pos_of_mem (List.mem_filterMap.mpr ⟨last, hmem, hcomponent⟩)

theorem lead_append (path : Path) : path.lead.1 ++ path.lead.2 = path.glyphs := by
  obtain ⟨glyphs⟩ := path
  rw [lead]
  cases glyphs with
  | nil => rfl
  | cons first rest =>
    dsimp only
    split
    next => rfl
    next => split <;> rfl

/-- A path to a file is more than a name exactly if it has more than one component. -/
theorem slash_mem_iff_one_lt_depth (hends : path.EndsInStep) :
    slash ∈ path.glyphs ↔ 1 < path.depth := by
  obtain ⟨last, hlast, hgoes⟩ := hends
  have hstep : last ∈ path.steps :=
    List.mem_filter.mpr ⟨List.mem_of_getLast? hlast, by simp [hgoes]⟩
  rw [steps_eq_filter_lead] at hstep
  have hnames := names_length_pos (List.mem_filter.mp hstep).1 hgoes
  have hfits := fits_lead path
  have hglyphs := lead_append path
  rw [depth, components, List.length_append]
  obtain hmark | ⟨hmark, hhere⟩ | ⟨hmark, hnone⟩ := hfits.mark
  · refine iff_of_true ?_ ?_
    · rw [← hglyphs, hmark]
      exact List.mem_cons_self
    · rw [hmark]
      simpa [leadComponents] using hnames
  · refine iff_of_true ?_ ?_
    · rw [← hglyphs]
      refine List.mem_append_right _ ?_
      -- After a leading dot comes a slash, since the last segment is a step.
      cases hrest : path.lead.2 with
      | nil => simp [hrest, segments, Segment.component?, Segment.isEmpty] at hnames
      | cons next rest =>
        by_cases hnext : next = slash
        · rw [hnext]
          exact List.mem_cons_self
        · obtain ⟨head, more, -, hsegments⟩ := segments_cons_of_ne hnext rest
          rw [hrest, hsegments] at hhere
          exact absurd (hhere _ rfl) (List.cons_ne_nil _ _)
    · rw [hmark]
      have hlength : (leadComponents Segment.here).length = 1 := by decide
      omega
  · rw [hmark, List.nil_append] at hglyphs
    rw [hglyphs] at hnone
    rw [hglyphs, hmark]
    by_cases hslash : slash ∈ path.glyphs
    · refine iff_of_true hslash ?_
      obtain ⟨front, back, hsplit, hfront⟩ := List.eq_append_cons_of_mem hslash
      rw [hsplit, segments_append, segments_of_slash_notMem hfront] at hnone hlast ⊢
      have hlater : last ∈ segments back := by
        rw [List.getLast?_append, List.getLast?_eq_some_getLast (segments_ne_nil back),
          Option.some_or] at hlast
        exact Option.some.inj hlast ▸ List.getLast_mem _
      have hmore := names_length_pos hlater hgoes
      have hfirst : Segment.isEmpty front = false := by
        rcases hnone with hnone | hnone
        · simp [segments_ne_nil] at hnone
        · exact hnone front rfl
      obtain ⟨component, hcomponent⟩ := exists_component hfirst
      rw [List.filterMap_append, List.filterMap_cons_some hcomponent, List.length_append]
      simp only [leadComponents, if_true, List.filterMap_nil, List.length_nil, List.length_cons]
      omega
    · refine iff_of_false hslash ?_
      rw [segments_of_slash_notMem hslash]
      have hlength := List.length_filterMap_le Segment.component? [path.glyphs]
      simp only [leadComponents, if_true, List.length_nil, List.length_singleton] at hlength ⊢
      omega

theorem respells_of_sameAs (hsame : first.sameAs second = true) (hfirst : first.EndsInStep)
    (hsecond : second.EndsInStep) : Respells first second where
  isAbsolute := isAbsolute_eq_of_sameAs hsame
  steps := steps_eq_of_sameAs hsame
  slash := by
    rw [slash_mem_iff_one_lt_depth hfirst, slash_mem_iff_one_lt_depth hsecond, depth, depth,
      sameAs_iff.mp hsame]

end Path

/-! ### Where a path leads -/

namespace Disk

variable {disk : Disk} {start place : Location} {given : List Segment}

theorem walk_eq_walk_steps (disk : Disk) (start : Location)
    (hends : ∃ last, given.getLast? = some last ∧ Segment.isEmpty last = false) :
    disk.walk start given =
      disk.walk start (given.filter fun segment => !Segment.isEmpty segment) := by
  obtain ⟨last, hlast, hgoes⟩ := hends
  obtain ⟨front, rfl⟩ := List.getLast?_eq_some_iff.mp hlast
  rw [List.filter_append, List.filter_cons_of_pos (by simp [hgoes]), List.filter_nil]
  clear hlast
  induction front generalizing start with
  | nil => rfl
  | cons segment rest ih =>
    rw [List.cons_append]
    by_cases hempty : Segment.isEmpty segment = true
    · rw [List.filter_cons_of_neg (by simp [hempty]), ← ih start, walk]
      -- What follows also has to start in a directory.
      cases hentry : disk.entry start with
      | none =>
        cases rest <;> simp [walk, hentry]
      | some entry =>
        cases entry with
        | directory => simp [hempty]
        | file | program | refused => cases rest <;> simp [walk, hentry]
    · rw [List.filter_cons_of_pos (by simp [hempty]), List.cons_append, walk, walk]
      cases disk.entry start with
      | none => rfl
      | some entry =>
        cases entry with
        | directory => simp [hempty, ih]
        | file | program | refused => rfl

/-- A path that ends in a segment that goes nowhere leads to a directory. -/
theorem entry_of_walk (hwalk : disk.walk start given = .ok place)
    (hends : ∃ last, given.getLast? = some last ∧ Segment.isEmpty last = true) :
    disk.entry place = some .directory := by
  obtain ⟨last, hlast, hempty⟩ := hends
  obtain ⟨front, rfl⟩ := List.getLast?_eq_some_iff.mp hlast
  clear hlast
  induction front generalizing start with
  | nil =>
    rw [List.nil_append, walk] at hwalk
    split at hwalk
    next => simp at hwalk
    next hentry =>
      rw [if_pos hempty, walk] at hwalk
      obtain rfl := Except.ok.inj hwalk
      exact hentry
    next => simp at hwalk
  | cons segment rest ih =>
    rw [List.cons_append, walk] at hwalk
    split at hwalk
    next => simp at hwalk
    next =>
      split at hwalk
      next => exact ih hwalk
      next =>
        split at hwalk
        next => exact ih hwalk
        next =>
          split at hwalk
          next => simp at hwalk
          next => exact ih hwalk
    next => simp at hwalk

theorem locate_congr {first second : Path} (hrespells : first.Respells second)
    (hfirst : first.EndsInStep) (hsecond : second.EndsInStep)
    (hshort : first.byteCount ≤ maxPathBytes) (hshort' : second.byteCount ≤ maxPathBytes)
    (directory : Location) : disk.locate directory first = disk.locate directory second := by
  have hwalk := walk_eq_walk_steps disk (if first.isAbsolute then [] else directory) hfirst
  have hwalk' := walk_eq_walk_steps disk (if second.isAbsolute then [] else directory) hsecond
  rw [locate, locate, Path.hasNul_congr hrespells.steps, if_neg hfirst.glyphs_ne_nil,
    if_neg hsecond.glyphs_ne_nil, if_neg (Nat.not_lt.mpr hshort), if_neg (Nat.not_lt.mpr hshort'),
    hwalk, hwalk', ← Path.steps, ← Path.steps, hrespells.isAbsolute, hrespells.steps]

theorem find_congr {first second : Path} (hrespells : first.Respells second)
    (hfirst : first.EndsInStep) (hsecond : second.EndsInStep)
    (hshort : first.byteCount ≤ maxPathBytes) (hshort' : second.byteCount ≤ maxPathBytes)
    (directory : Location) : disk.find directory first = disk.find directory second := by
  rw [find, find, locate_congr hrespells hfirst hsecond hshort hshort']

end Disk

namespace Environment

variable {environment : Environment} {path first second : Path}

theorem namesFile_of_isFile (hfile : environment.isFile path = true) : path.NamesFile := by
  rw [isFile, Environment.find] at hfile
  cases hfound : environment.disk.find environment.directory path with
  | error error => simp [hfound] at hfile
  | ok found =>
    obtain ⟨place, entry⟩ := found
    simp only [hfound, Bool.not_eq_true'] at hfile
    obtain ⟨hlocate, hentry⟩ := Disk.locate_of_find hfound
    rw [Disk.locate] at hlocate
    split at hlocate
    next => simp at hlocate
    next hnul =>
      split at hlocate
      next => simp at hlocate
      next =>
        split at hlocate
        next => simp at hlocate
        next hshort =>
          refine ⟨Nat.not_lt.mp hshort, by simpa using hnul, ?_⟩
          have hlast := List.getLast?_eq_some_getLast (Path.segments_ne_nil path.glyphs)
          refine ⟨_, hlast, ?_⟩
          rw [← Bool.not_eq_true]
          intro hempty
          have hdirectory := Disk.entry_of_walk hlocate ⟨_, hlast, hempty⟩
          rw [hentry] at hdirectory
          obtain rfl := Option.some.inj hdirectory
          simp [Entry.isDirectory] at hfile

theorem isFile_congr (hrespells : first.Respells second) (hfirst : first.EndsInStep)
    (hsecond : second.EndsInStep) (hshort : first.byteCount ≤ maxPathBytes)
    (hshort' : second.byteCount ≤ maxPathBytes) :
    environment.isFile first = environment.isFile second := by
  rw [isFile, isFile, Environment.find, Environment.find,
    Disk.find_congr hrespells hfirst hsecond hshort hshort']

/-- Two paths to one file run the same program, wherever it is to run. -/
theorem run_congr (hrespells : first.Respells second) (hfirst : first.NamesFile)
    (hsecond : second.NamesFile) : environment.run first = environment.run second := by
  have hprogram : ∀ directory,
      environment.programFor directory first = environment.programFor directory second := by
    intro directory
    by_cases hname : Path.slash ∈ first.glyphs
    · have hname' := hrespells.slash.mp hname
      simp only [programFor, programAt, hfirst.ends.glyphs_ne_nil, hsecond.ends.glyphs_ne_nil,
        List.contains_iff_mem.mpr hname, List.contains_iff_mem.mpr hname', if_true, if_false]
      rw [Disk.find_congr hrespells hfirst.ends hsecond.ends hfirst.short hsecond.short]
    · rw [Path.eq_of_respells_name hrespells hname hfirst.ends hsecond.ends]
  funext arguments directory input
  rw [run, run, hfirst.noNul, hsecond.noNul, hprogram]

theorem textFrom_congr (hrespells : first.Respells second) (hfirst : first.NamesFile)
    (hsecond : second.NamesFile) : environment.textFrom first = environment.textFrom second := by
  funext arguments directory input module
  rw [textFrom, textFrom, run_congr hrespells hfirst hsecond]

end Environment

theorem Engine.ofProgram_congr {environment : Environment} {first second : Path}
    (hrespells : first.Respells second) (hfirst : first.NamesFile) (hsecond : second.NamesFile) :
    Engine.ofProgram environment first = Engine.ofProgram environment second := by
  rw [ofProgram, ofProgram, Environment.textFrom_congr hrespells hfirst hsecond]

theorem Linter.backend_congr {environment : Environment} {first second : Path}
    (hrespells : first.Respells second) (hfirst : first.NamesFile) (hsecond : second.NamesFile)
    (linter : Linter) : linter.backend environment first = linter.backend environment second := by
  rw [backend, backend, Environment.textFrom_congr hrespells hfirst hsecond]

end FormatServer
