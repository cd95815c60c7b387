import FormatServer.Engine.Lookup
import FormatServer.Proofs.Disk.Files

/-!
# Looking for programs from a directory

A program is looked for in a directory and those above it, by paths that are made from the way the
directory is written. Written in another way the same directory gives longer or shorter paths to the
same places. So the same programs are found from it, as long as all these paths are short enough for
the system.
-/

namespace FormatServer

namespace Path

variable {base path first second : Path}

theorem endsInStep_join (base : Path) (hrelative : path.isAbsolute = false)
    (hends : path.EndsInStep) : (base.join path).EndsInStep := by
  have hafter : ∀ front : List Glyph, EndsInStep ⟨front ++ slash :: path.glyphs⟩ := by
    intro front
    obtain ⟨last, hlast, hgoes⟩ := hends
    refine ⟨last, ?_, hgoes⟩
    rw [segments_append, List.getLast?_append, hlast, Option.some_or]
  rw [join, if_neg (by simp [hrelative])]
  split
  next hend =>
    rcases hend with hempty | hslash
    · rw [hempty]
      exact hends
    · obtain ⟨front, hfront⟩ := List.getLast?_eq_some_iff.mp hslash
      rw [hfront, List.append_assoc]
      exact hafter front
  next => exact hafter base.glyphs

theorem slash_mem_of_one_lt_steps (hends : path.EndsInStep) (hsteps : 1 < path.steps.length) :
    slash ∈ path.glyphs := by
  refine Decidable.byContradiction fun hname => ?_
  rw [steps_of_name hname hends] at hsteps
  exact Nat.lt_irrefl 1 hsteps

end Path

/-- What a program can be called: one segment that goes somewhere. -/
structure Path.IsProgramName (name : String) : Prop where
  relative : (Path.ofString name).isAbsolute = false
  ends : (Path.ofString name).EndsInStep

theorem Linter.isProgramName_moduleName (linter : Linter) :
    Path.IsProgramName linter.moduleName := by
  cases linter with
  | tslint => exact ⟨by decide, Segment.ofString "prettier-tslint", by decide, by decide⟩
  | eslint => exact ⟨by decide, Segment.ofString "prettier-eslint", by decide, by decide⟩
  | stylelint => exact ⟨by decide, Segment.ofString "prettier-stylelint", by decide, by decide⟩

namespace Environment

variable {environment : Environment} {name : String} {first second : Path}

theorem endsInStep_localPlace (hname : Path.IsProgramName name) (directory : Path) :
    (localPlace directory name).EndsInStep :=
  Path.endsInStep_join _ hname.relative hname.ends

theorem steps_localPlace (hname : Path.IsProgramName name) (directory : Path) :
    (localPlace directory name).steps =
      directory.steps ++ [Segment.ofString "node_modules", Segment.ofString ".bin"] ++
        (Path.ofString name).steps := by
  have hfolder : (Path.ofString "node_modules").isAbsolute = false := by decide
  have hprograms : (Path.ofString ".bin").isAbsolute = false := by decide
  rw [localPlace, Path.steps_join _ hname.relative, Path.steps_join _ hprograms,
    Path.steps_join _ hfolder, List.append_assoc directory.steps]
  congr 2

theorem localPlace_respells (hname : Path.IsProgramName name)
    (hsame : first.sameAs second = true) :
    (localPlace first name).Respells (localPlace second name) := by
  have hfolder : (Path.ofString "node_modules").isAbsolute = false := by decide
  have hprograms : (Path.ofString ".bin").isAbsolute = false := by decide
  have hslash : ∀ directory, Path.slash ∈ (localPlace directory name).glyphs := by
    intro directory
    apply Path.slash_mem_of_one_lt_steps (endsInStep_localPlace hname directory)
    rw [steps_localPlace hname, List.length_append, List.length_append, List.length_cons,
      List.length_singleton]
    omega
  refine ⟨?_, ?_, iff_of_true (hslash first) (hslash second)⟩
  · simp only [localPlace, Path.isAbsolute_join _ hname.relative, Path.isAbsolute_join _ hprograms,
      Path.isAbsolute_join _ hfolder, Path.isAbsolute_eq_of_sameAs hsame]
  · rw [steps_localPlace hname, steps_localPlace hname, Path.steps_eq_of_sameAs hsame]

theorem namesFile_of_localProgram? {start program : Path}
    (hfound : environment.localProgram? start name = some program) : program.NamesFile :=
  namesFile_of_isFile (List.find?_some hfound)

/-- All paths that are tried for the program are short enough for the system. -/
def HasRoom (start : Path) (name : String) : Prop :=
  ∀ directory ∈ start.ancestors, (localPlace directory name).byteCount ≤ maxPathBytes

/-- From one directory the same formatter is found, whichever way the directory is written. -/
theorem backend_localProgram?_congr (environment : Environment) (linter : Linter)
    (hsame : first.sameAs second = true) (hfirst : HasRoom first linter.moduleName)
    (hsecond : HasRoom second linter.moduleName) :
    (environment.localProgram? first linter.moduleName).map (linter.backend environment) =
      (environment.localProgram? second linter.moduleName).map (linter.backend environment) := by
  have hname := linter.isProgramName_moduleName
  have hancestors := Path.map_components_ancestors_eq hsame
  rw [HasRoom] at hfirst hsecond
  rw [localProgram?, localProgram?]
  generalize first.ancestors = directories at hfirst hancestors ⊢
  generalize second.ancestors = others at hsecond hancestors ⊢
  induction directories generalizing others with
  | nil =>
    obtain rfl : others = [] := List.map_eq_nil_iff.mp hancestors.symm
    rfl
  | cons directory directories ih =>
    cases others with
    | nil => simp at hancestors
    | cons other others =>
      rw [List.map_cons, List.map_cons] at hancestors
      obtain ⟨hcomponents, hrest⟩ := List.cons.inj hancestors
      obtain ⟨hshort, hdirectories⟩ := List.forall_mem_cons.mp hfirst
      obtain ⟨hshort', hothers⟩ := List.forall_mem_cons.mp hsecond
      have hrespells := localPlace_respells hname (Path.sameAs_iff.mpr hcomponents)
      have hfile : environment.isFile (localPlace directory linter.moduleName) =
          environment.isFile (localPlace other linter.moduleName) :=
        isFile_congr hrespells (endsInStep_localPlace hname directory)
          (endsInStep_localPlace hname other) hshort hshort'
      rw [List.map_cons, List.map_cons]
      cases hthere : environment.isFile (localPlace other linter.moduleName) with
      | true =>
        rw [hthere] at hfile
        rw [List.find?_cons_of_pos hfile, List.find?_cons_of_pos hthere, Option.map_some,
          Option.map_some, Linter.backend_congr hrespells (namesFile_of_isFile hfile)
            (namesFile_of_isFile hthere)]
      | false =>
        rw [hthere] at hfile
        rw [List.find?_cons_of_neg (by simp [hfile]), List.find?_cons_of_neg (by simp [hthere])]
        exact ih hdirectories others hothers hrest

end Environment

theorem Engine.namesFile_of_locate {environment : Environment} {workspace : Workspace}
    {file : Option Path} {located : Path × EngineSource}
    (hlocated : Engine.locate environment workspace file = some located) :
    located.1.NamesFile := by
  rw [Engine.locate] at hlocated
  simp only [Option.or_eq_some_iff, Option.map_eq_some_iff, Option.map_eq_none_iff] at hlocated
  obtain ⟨path, hpath, rfl⟩ | ⟨-, ⟨path, hpath, rfl⟩ | ⟨-, path, hpath, rfl⟩⟩ := hlocated
  · exact Environment.namesFile_of_isFile (Option.filter_eq_some_iff.mp hpath).2
  · obtain ⟨start, -, hfound⟩ := Option.bind_eq_some_iff.mp hpath
    exact Environment.namesFile_of_localProgram? hfound
  · have hprogram : environment.isProgram path = true := List.find?_some hpath
    have hfile : environment.isFile path = true := by
      rw [Environment.isProgram] at hprogram
      rw [Environment.isFile]
      split at hprogram
      next location run hfind =>
        rw [hfind]
        rfl
      next => simp at hprogram
    exact Environment.namesFile_of_isFile hfile

end FormatServer
