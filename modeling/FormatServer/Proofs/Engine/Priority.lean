import FormatServer.Proofs.Engine.History
import FormatServer.Proofs.Path.Ancestors

/-!
# Which formatter counts

The engine that is configured comes first, then the nearest one that is installed, then the one for
all; a linter's formatter can only be the nearest one that is installed. What is nearest depends on
the directories at or above the document, and on these only up to the first that has the program.
So programs elsewhere do not matter, unless one of them is the engine that is configured or that for
all.
-/

namespace FormatServer

namespace Environment

variable {environment first second : Environment} {workspace : Workspace} {file : Option Path}
  {start path : Path} {name : String}

/-- The program of that name is installed in the directory. -/
def Installs (environment : Environment) (name : String) (directory : Path) : Prop :=
  environment.isFile (localPlace directory name) = true

/-- The path is that of the program in the nearest directory that it is installed in, at or above
the one that is searched for the file. -/
def IsLocal (environment : Environment) (workspace : Workspace) (file : Option Path) (name : String)
    (path : Path) : Prop :=
  ∃ start directory, workspace.searchStart file = some start ∧
    start.IsNearest (environment.Installs name) directory ∧ path = localPlace directory name

/-- No directory at or above the one that is searched for the file has the program. -/
def HasNoLocal (environment : Environment) (workspace : Workspace) (file : Option Path)
    (name : String) : Prop :=
  ∀ start, workspace.searchStart file = some start →
    ∀ directory ∈ start.ancestors, ¬environment.Installs name directory

theorem localProgram?_eq_some_iff :
    environment.localProgram? start name = some path ↔
      ∃ directory, start.IsNearest (environment.Installs name) directory ∧
        path = localPlace directory name := by
  have hnearest : ∀ directory, (start.ancestors.find?
      (environment.isFile ∘ fun directory => localPlace directory name)) = some directory ↔
        start.IsNearest (environment.Installs name) directory :=
    fun directory => Path.find?_ancestors_eq_some_iff
  rw [localProgram?, List.find?_map, Option.map_eq_some_iff]
  simp only [hnearest, eq_comm]

theorem localProgram?_eq_none_iff :
    environment.localProgram? start name = none ↔
      ∀ directory ∈ start.ancestors, ¬environment.Installs name directory := by
  rw [localProgram?, List.find?_eq_none, List.forall_mem_map]
  rfl

/-- The program of that name that is installed for the file. -/
def localFor? (environment : Environment) (workspace : Workspace) (file : Option Path)
    (name : String) : Option Path :=
  (workspace.searchStart file).bind fun start => environment.localProgram? start name

theorem localFor?_eq_some_iff :
    environment.localFor? workspace file name = some path ↔
      environment.IsLocal workspace file name path := by
  rw [localFor?, Option.bind_eq_some_iff]
  simp only [localProgram?_eq_some_iff, IsLocal, exists_and_left]

theorem localFor?_eq_none_iff :
    environment.localFor? workspace file name = none ↔
      environment.HasNoLocal workspace file name := by
  rw [localFor?, Option.bind_eq_none_iff]
  simp only [localProgram?_eq_none_iff, HasNoLocal]

/-! ### Programs elsewhere -/

/-- The environments have the program in the same directories, up to the nearest that has it in the
first of them. -/
def AgreesNearby (first second : Environment) (name : String) (start : Path) : Prop :=
  ∀ directory ∈ start.ancestors,
    (∀ nearest, start.IsNearest (first.Installs name) nearest →
      nearest.depth ≤ directory.depth) →
    (first.Installs name directory ↔ second.Installs name directory)

theorem localProgram?_congr (hagrees : AgreesNearby first second name start) :
    first.localProgram? start name = second.localProgram? start name := by
  cases hfound : first.localProgram? start name with
  | none =>
    have hnone := localProgram?_eq_none_iff.mp hfound
    rw [eq_comm, localProgram?_eq_none_iff]
    intro directory hdirectory
    rw [← hagrees directory hdirectory fun nearest hnearest =>
      absurd hnearest.holds (hnone nearest hnearest.mem)]
    exact hnone directory hdirectory
  | some path =>
    obtain ⟨nearest, hnearest, rfl⟩ := localProgram?_eq_some_iff.mp hfound
    have hto : ∀ directory ∈ start.ancestors, nearest.depth ≤ directory.depth →
        (first.Installs name directory ↔ second.Installs name directory) := by
      intro directory hdirectory hdepth
      refine hagrees directory hdirectory fun other hother => ?_
      rwa [hother.unique hnearest]
    rw [eq_comm, localProgram?_eq_some_iff]
    -- The directories up to the nearest are the same in both, so it is the nearest in both.
    refine ⟨nearest, ⟨hnearest.mem, ?_, fun other hother hthere => ?_⟩, rfl⟩
    · exact (hto nearest hnearest.mem (Nat.le_refl _)).mp hnearest.holds
    · rcases Nat.le_total other.depth nearest.depth with hle | hle
      · exact hle
      · exact hnearest.deepest other hother ((hto other hother hle).mpr hthere)

theorem localFor?_congr {other : Workspace}
    (hstart : workspace.searchStart file = other.searchStart file)
    (hagrees : ∀ start, workspace.searchStart file = some start →
      AgreesNearby first second name start) :
    first.localFor? workspace file name = second.localFor? other file name := by
  rw [localFor?, localFor?, ← hstart]
  cases hsearch : workspace.searchStart file with
  | none => rfl
  | some start => exact localProgram?_congr (hagrees start hsearch)

end Environment

/-! ### The engine -/

namespace Engine

variable {environment : Environment} {workspace : Workspace} {file : Option Path} {path : Path}
  {source : EngineSource}

/-- The path is that of the configured engine, and there is a file. -/
def IsConfigured (environment : Environment) (workspace : Workspace) (file : Option Path)
    (path : Path) : Prop :=
  workspace.configuredEngine file = some path ∧ environment.isFile path = true

/-- Where the engine for the file is, by the order in which the places count. -/
inductive IsAt (environment : Environment) (workspace : Workspace) (file : Option Path) :
    Path → EngineSource → Prop where
  | configured {path : Path} (hthere : IsConfigured environment workspace file path) :
    IsAt environment workspace file path .configured
  | installed {path : Path} (hmissing : ∀ other, ¬IsConfigured environment workspace file other)
    (hlocal : environment.IsLocal workspace file moduleName path) :
    IsAt environment workspace file path .installed
  | global {path : Path} (hmissing : ∀ other, ¬IsConfigured environment workspace file other)
    (hnone : environment.HasNoLocal workspace file moduleName)
    (hglobal : environment.globalProgram? moduleName = some path) :
    IsAt environment workspace file path .global

theorem configured_eq_some_iff :
    (workspace.configuredEngine file).filter environment.isFile = some path ↔
      IsConfigured environment workspace file path :=
  Option.filter_eq_some_iff

theorem locate_eq (environment : Environment) (workspace : Workspace) (file : Option Path) :
    locate environment workspace file =
      (((workspace.configuredEngine file).filter environment.isFile).map (·, .configured)).or
        (((environment.localFor? workspace file moduleName).map (·, .installed)).or
          ((environment.globalProgram? moduleName).map (·, .global))) :=
  rfl

theorem configured_eq_none_iff :
    (workspace.configuredEngine file).filter environment.isFile = none ↔
      ∀ path, ¬IsConfigured environment workspace file path := by
  rw [← Option.not_isSome_iff_eq_none, Option.isSome_iff_exists]
  simp only [configured_eq_some_iff, not_exists]

theorem locate_eq_some_iff :
    locate environment workspace file = some (path, source) ↔
      IsAt environment workspace file path source := by
  rw [locate_eq, Option.or_eq_some_iff, Option.or_eq_some_iff]
  simp only [Option.map_eq_some_iff, Option.map_eq_none_iff, Prod.mk.injEq,
    configured_eq_some_iff, configured_eq_none_iff, Environment.localFor?_eq_some_iff,
    Environment.localFor?_eq_none_iff]
  constructor
  · rintro (⟨_, hthere, rfl, rfl⟩ | ⟨hnone, ⟨_, hlocal, rfl, rfl⟩ | ⟨hfree, _, hglobal, rfl, rfl⟩⟩)
    · exact .configured hthere
    · exact .installed hnone hlocal
    · exact .global hnone hfree hglobal
  · rintro (⟨hthere⟩ | ⟨hnone, hlocal⟩ | ⟨hnone, hfree, hglobal⟩)
    · exact .inl ⟨_, hthere, rfl, rfl⟩
    · exact .inr ⟨hnone, .inl ⟨_, hlocal, rfl, rfl⟩⟩
    · exact .inr ⟨hnone, .inr ⟨hfree, _, hglobal, rfl, rfl⟩⟩

theorem locate_eq_none_iff :
    locate environment workspace file = none ↔
      (∀ path, ¬IsConfigured environment workspace file path) ∧
        environment.HasNoLocal workspace file moduleName ∧
        environment.globalProgram? moduleName = none := by
  simp only [locate_eq, Option.or_eq_none_iff, Option.map_eq_none_iff, configured_eq_none_iff,
    Environment.localFor?_eq_none_iff]

theorem locate_congr {other : Environment}
    (hconfigured : ∀ path ∈ workspace.configuredEngine file,
      other.isFile path = environment.isFile path)
    (hagrees : ∀ start, workspace.searchStart file = some start →
      environment.AgreesNearby other moduleName start)
    (hglobal : (∀ path, ¬IsConfigured environment workspace file path) →
      environment.HasNoLocal workspace file moduleName →
      other.globalProgram? moduleName = environment.globalProgram? moduleName) :
    locate other workspace file = locate environment workspace file := by
  have hfilter : (workspace.configuredEngine file).filter other.isFile =
      (workspace.configuredEngine file).filter environment.isFile := by
    cases hpath : workspace.configuredEngine file with
    | none => rfl
    | some path => rw [Option.filter_some, Option.filter_some, hconfigured path hpath]
  rw [locate_eq, locate_eq, hfilter, ← Environment.localFor?_congr rfl hagrees]
  cases hpath : (workspace.configuredEngine file).filter environment.isFile with
  | some path => rfl
  | none =>
    have hmissing := configured_eq_none_iff.mp hpath
    cases hlocal : environment.localFor? workspace file moduleName with
    | some path => rfl
    | none => rw [hglobal hmissing (Environment.localFor?_eq_none_iff.mp hlocal)]

end Engine

/-! ### What is answered -/

namespace Installed

variable {environment : Environment} {workspace : Workspace} {file : Option Path}
  {installed : Installed} {checksVersion : Bool} {message : String}

/-- The warning about the engine for all has a key of its own. -/
theorem warnOnce_notMem_versionRemarks (path : Path) (version : Option Version) :
    .warnOnce "global-prettier" message ∉ versionRemarks path version := by
  have hkey : "global-prettier" ≠ "outdated:" ++ path.text := by
    intro hsame
    have hchars := congrArg String.toList hsame
    rw [String.toList_append] at hchars
    simp at hchars
  intro hmem
  obtain ⟨version, -, hremark⟩ := List.mem_map.mp hmem
  exact hkey (Remark.warnOnce.inj hremark).1.symm

theorem warnOnce_notMem_remarks_version (known : KnownEngine) :
    .warnOnce "global-prettier" message ∉ (version environment known installed).remarks := by
  rw [version]
  split
  next => simp
  next => split <;> simp [unknownVersion]

theorem warnOnce_mem_remarks_engine_iff :
    .warnOnce "global-prettier" message ∈
        (Installed.engine environment workspace file checksVersion installed).remarks ↔
      ∃ path, Engine.locate environment workspace file = some (path, .global) ∧
        .warnOnce "global-prettier" message = globalRemark path := by
  have hmissing : .warnOnce "global-prettier" message ∉
      (Engine.missing environment workspace file).toList.map missingRemark := by
    simp [missingRemark]
  rw [Installed.engine]
  cases Engine.locate environment workspace file with
  | none => simpa using hmissing
  | some located =>
    obtain ⟨path, source⟩ := located
    cases checksVersion <;> cases source <;>
      simp [hmissing, warnOnce_notMem_remarks_version, warnOnce_notMem_versionRemarks]

/-- What is remembered from the directory of the file, if anything, is what is there. -/
def IsCurrent (environment : Environment) (workspace : Workspace) (file : Option Path)
    (installed : Installed) (linter : Linter) : Prop :=
  ∀ start, workspace.searchStart file = some start →
    ∀ found ∈ installed.linter? start linter,
      found = environment.localProgram? start linter.moduleName

theorem answer_linter_of_isCurrent {linter : Linter}
    (hcurrent : IsCurrent environment workspace file installed linter) :
    (Installed.linter environment workspace file linter installed).answer =
      (environment.localFor? workspace file linter.moduleName).map
        (linter.backend environment) := by
  rw [answer_linter, linterProgram?, Environment.localFor?]
  cases hstart : workspace.searchStart file with
  | none => rfl
  | some start =>
    rw [Option.bind_some, Option.bind_some]
    cases hknown : installed.linter? start linter with
    | none => rw [Option.getD_none]
    | some found => rw [Option.getD_some, hcurrent start hstart found hknown]

/-- The engine is the one that is configured, else the nearest that is installed, else the one for
all, whatever was asked before, and only the last gives rise to the warning about it. A linter's
formatter is the nearest that is installed. Neither changes with programs that are not at or above
the document, or above the nearest; the engine does so only with the one that is configured and, for
want of both others, with the one for all, and a linter's formatter not even with these. -/
theorem answers_by_priority (environment : Environment) (workspace : Workspace)
    (file : Option Path) :
    (∀ (moments : List Moment) (checksVersion : Bool),
      let reply := Installed.engine environment workspace file checksVersion (after moments)
      (∀ path source, Engine.IsAt environment workspace file path source →
        reply.answer = .ok (Engine.ofProgram environment path)) ∧
      ((∀ path, ¬Engine.IsConfigured environment workspace file path) →
        environment.HasNoLocal workspace file Engine.moduleName →
        environment.globalProgram? Engine.moduleName = none →
        reply.answer = .error (.engineNotFound notFoundAdvice)) ∧
      ∀ message, .warnOnce "global-prettier" message ∈ reply.remarks ↔
        ∃ path, Engine.IsAt environment workspace file path .global ∧
          .warnOnce "global-prettier" message = globalRemark path) ∧
    (∀ (linter : Linter) (installed : Installed),
      IsCurrent environment workspace file installed linter →
      let answer := (Installed.linter environment workspace file linter installed).answer
      (∀ path, environment.IsLocal workspace file linter.moduleName path →
        answer = some (linter.backend environment path)) ∧
      (environment.HasNoLocal workspace file linter.moduleName → answer = none)) ∧
    (∀ other : Environment,
      (∀ path ∈ workspace.configuredEngine file, other.isFile path = environment.isFile path) →
      (∀ start, workspace.searchStart file = some start →
        environment.AgreesNearby other Engine.moduleName start) →
      ((∀ path, ¬Engine.IsConfigured environment workspace file path) →
        environment.HasNoLocal workspace file Engine.moduleName →
        other.globalProgram? Engine.moduleName = environment.globalProgram? Engine.moduleName) →
      ∀ path source, Engine.IsAt other workspace file path source ↔
        Engine.IsAt environment workspace file path source) ∧
    ∀ (other : Environment) (changed : Workspace) (linter : Linter),
      workspace.searchStart file = changed.searchStart file →
      (∀ start, workspace.searchStart file = some start →
        environment.AgreesNearby other linter.moduleName start) →
      ∀ path, other.IsLocal changed file linter.moduleName path ↔
        environment.IsLocal workspace file linter.moduleName path := by
  refine ⟨fun moments checksVersion => ?_, fun linter installed hcurrent => ?_, ?_, ?_⟩
  · obtain ⟨hanswer, -⟩ := answer_engine environment workspace file checksVersion
      (namesFiles_after moments)
    refine ⟨fun path source hat => ?_, fun hmissing hnone hglobal => ?_, fun message => ?_⟩
    · rw [hanswer, Engine.locate_eq_some_iff.mpr hat]
    · rw [hanswer, Engine.locate_eq_none_iff.mpr ⟨hmissing, hnone, hglobal⟩]
    · rw [warnOnce_mem_remarks_engine_iff]
      simp only [Engine.locate_eq_some_iff]
  · dsimp only
    rw [answer_linter_of_isCurrent hcurrent]
    refine ⟨fun path hlocal => ?_, fun hnone => ?_⟩
    · rw [Environment.localFor?_eq_some_iff.mpr hlocal, Option.map_some]
    · rw [Environment.localFor?_eq_none_iff.mpr hnone, Option.map_none]
  · intro other hconfigured hagrees hglobal path source
    rw [← Engine.locate_eq_some_iff, ← Engine.locate_eq_some_iff,
      Engine.locate_congr hconfigured hagrees hglobal]
  · intro other changed linter hstart hagrees path
    rw [← Environment.localFor?_eq_some_iff, ← Environment.localFor?_eq_some_iff,
      Environment.localFor?_congr hstart hagrees]

/-! ### Programs in other directories -/

/-- Nothing but installed programs, given by their directories and names. -/
def programsAt (places : List (List String × String)) : Environment where
  disk := places.foldl (fun disk place =>
    disk.place ((place.1 ++ ["node_modules", ".bin", place.2]).map Segment.ofString)
      (.program [] fun _ => ⟨0, [], []⟩)) .empty
  directory := []
  home := none
  searchPath := none
  configHome := none

/-- An engine above the nearest one does not matter, nor do programs next to the document's own
directories. -/
theorem farther_programs_change_nothing :
    let nearby := programsAt [(["ws"], "prettier"), (["ws"], "prettier-eslint")]
    let more := programsAt [(["ws"], "prettier"), (["ws"], "prettier-eslint"), ([], "prettier"),
      (["ws", "lib"], "prettier"), (["ws", "lib"], "prettier-eslint")]
    let workspace := Workspace.single Settings.defaults (some "/ws")
    let file := some (Path.ofString "/ws/app/a.js")
    let engine := Path.ofString "/ws/node_modules/.bin/prettier"
    let linter := Path.ofString "/ws/node_modules/.bin/prettier-eslint"
    (Installed.engine nearby workspace file true .empty).answer =
        .ok (Engine.ofProgram nearby engine) ∧
      (Installed.linter nearby workspace file .eslint .empty).answer =
        some (Linter.backend .eslint nearby linter) ∧
      (Installed.linter nearby workspace file .stylelint .empty).answer = none ∧
      Engine.IsAt more workspace file engine .installed ∧
      more.IsLocal workspace file Linter.eslint.moduleName linter ∧
      (Installed.engine (programsAt []) workspace file true .empty).answer =
        .error (.engineNotFound notFoundAdvice) := by
  intro nearby more workspace file engine linter
  have hstart : ∀ start, workspace.searchStart file = some start → start = "/ws/app" :=
    fun start hsearch => (Option.some.inj hsearch).symm
  have hagrees : ∀ name ∈ ["prettier", "prettier-eslint"], ∀ start,
      workspace.searchStart file = some start → nearby.AgreesNearby more name start := by
    have hnearest : ∀ name ∈ ["prettier", "prettier-eslint"],
        ((Path.ofString "/ws/app").ancestors.find? fun directory =>
          nearby.isFile (Environment.localPlace directory name)) = some "/ws" := by decide +kernel
    have hsame : ∀ name ∈ ["prettier", "prettier-eslint"],
        ∀ directory ∈ (Path.ofString "/ws/app").ancestors,
          (Path.ofString "/ws").depth ≤ directory.depth →
          nearby.isFile (Environment.localPlace directory name) =
            more.isFile (Environment.localPlace directory name) := by decide +kernel
    intro name hname start hsearch directory hdirectory hdepth
    obtain rfl := hstart start hsearch
    have hle := hdepth "/ws" (Path.find?_ancestors_eq_some_iff.mp (hnearest name hname))
    rw [Environment.Installs, Environment.Installs, hsame name hname directory hdirectory hle]
  have hcurrent : ∀ linter, IsCurrent nearby workspace file .empty linter := by
    intro linter start _ found hfound
    simp [linter?, Installed.empty] at hfound
  have hunnamed : workspace.configuredEngine file = none := rfl
  have hat : Engine.IsAt nearby workspace file engine .installed :=
    Engine.locate_eq_some_iff.mp (by decide +kernel)
  have hlocal : nearby.IsLocal workspace file Linter.eslint.moduleName linter :=
    Environment.localFor?_eq_some_iff.mp (by decide +kernel)
  have hnone : nearby.HasNoLocal workspace file Linter.stylelint.moduleName :=
    Environment.localFor?_eq_none_iff.mp (by decide +kernel)
  obtain ⟨hengine, hlinter, hsame, hsame'⟩ := answers_by_priority nearby workspace file
  obtain ⟨hbare, -⟩ := answers_by_priority (programsAt []) workspace file
  exact ⟨(hengine [] true).1 engine .installed hat,
    (hlinter .eslint .empty (hcurrent .eslint)).1 linter hlocal,
    (hlinter .stylelint .empty (hcurrent .stylelint)).2 hnone,
    (hsame more (by simp [hunnamed])
      (hagrees "prettier" (by decide)) (fun _ _ => rfl) engine .installed).mpr hat,
    (hsame' more workspace .eslint rfl (hagrees "prettier-eslint" (by decide)) linter).mpr hlocal,
    (hbare [] true).2.1 (by simp [Engine.IsConfigured, hunnamed])
      (Environment.localFor?_eq_none_iff.mp (by decide +kernel)) (by decide +kernel)⟩

/-- An engine in a directory that is not at or above the document is taken where it is the one that
is configured, although one is installed, and where it is the one for all. -/
theorem elsewhere_taken_if_configured_or_global :
    let file := some (Path.ofString "/ws/app/a.js")
    let workspace := Workspace.single Settings.defaults (some "/ws")
    let naming : Workspace :=
      { workspace with settings.prettierPath := some "tools/node_modules/.bin/prettier" }
    let plain := programsAt [(["ws"], "prettier")]
    let more := programsAt [(["ws"], "prettier"), (["ws", "tools"], "prettier")]
    let list := Segment.ofString "/opt/node_modules/.bin"
    let bare : Environment := { programsAt [] with searchPath := some list }
    let equipped : Environment :=
      { programsAt [(["opt"], "prettier")] with searchPath := some list }
    workspace.searchStart file = some (Path.ofString "/ws/app") ∧
      naming.searchStart file = some (Path.ofString "/ws/app") ∧
      Path.ofString "/ws/tools" ∉ (Path.ofString "/ws/app").ancestors ∧
      Path.ofString "/opt" ∉ (Path.ofString "/ws/app").ancestors ∧
      Engine.locate plain naming file =
        some (Path.ofString "/ws/node_modules/.bin/prettier", .installed) ∧
      Engine.locate more naming file =
        some (Path.ofString "/ws/tools/node_modules/.bin/prettier", .configured) ∧
      Engine.locate bare workspace file = none ∧
      Engine.locate equipped workspace file =
        some (Path.ofString "/opt/node_modules/.bin/prettier", .global) := by
  decide +kernel

end Installed

end FormatServer
