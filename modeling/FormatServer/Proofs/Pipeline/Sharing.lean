import FormatServer.Proofs.Engine.Asking
import FormatServer.Proofs.Pipeline.Ranges

/-!
# Requests that share what was found

Requests share what is remembered of the formatters. While the disk does not change, a search that
is remembered has found what a new one would, and the engine is located anew each time. So the
outcome of a request does not depend on the ones before it, with one exception: a search is
remembered for its directory, but its paths are made from the way the directory is written. From a
directory that is written with a great many slashes they are too long to be followed, and what is
missed for that is remembered as missing for all ways to write it.
-/

namespace FormatServer

namespace Run

variable {σ : Type}

@[simp]
theorem services_execute (run : Run σ) (backend : Backend) (text : String) (options : Options) :
    (run.execute backend text options).2.services = run.services := by
  rw [execute, settle]
  split <;> rfl

end Run

namespace Pipeline

/-! ### What a request leaves of the state -/

section State

variable {σ : Type} {services : Services σ} {workspace : Workspace} {request : Request}
  {P : σ → Prop}

theorem findLinter_preserves {file : Option Path}
    (hlinter : ∀ linter state, P state → P (services.linter file linter state).state)
    (language parser : String) (linters : List Linter) {run : Run σ} (hrun : P run.services) :
    P (findLinter services file language parser linters run).2.services := by
  induction linters generalizing run with
  | nil => exact hrun
  | cons linter rest ih =>
    have hconsulted := hlinter linter run.services hrun
    rw [findLinter]
    split
    next =>
      cases hanswer : (services.linter file linter run.services).answer with
      | some backend => simpa [Run.consult, hanswer] using hconsulted
      | none =>
        simp only [Run.consult, hanswer]
        exact ih hconsulted
    next => exact ih hrun

/-- What the services keep to when they are asked is kept by the whole request. -/
theorem format_preserves
    (hengine : ∀ state, P state → P (services.engine request.file true state).state)
    (hlinter : ∀ linter state, P state → P (services.linter request.file linter state).state)
    {run : Run σ} (hrun : P run.services) :
    P (format services workspace request run).2.services := by
  obtain ⟨asked, -, hasked, hformat⟩ := format_eq services workspace request run
  have hstate : P asked.services := by
    rw [hasked]
    exact hengine run.services hrun
  rw [hformat]
  split
  next => exact hstate
  next =>
    split
    next => exact hstate
    next engine _ =>
      obtain ⟨informed, -, hinformed, hformatBy⟩ :=
        formatBy_eq services workspace request engine asked
      rw [← hinformed] at hstate
      rw [hformatBy]
      split
      next => exact hstate
      next =>
        split
        next => exact hstate
        next parser _ =>
          cases hlacks : lacksRequiredConfig services workspace request with
          | true =>
            obtain ⟨after, -, hafter, hskip⟩ :=
              exists_formatWith_eq_skip engine parser informed hlacks
            rw [← hafter] at hstate
            rw [hskip]
            exact hstate
          | false =>
            obtain ⟨after, -, hafter, hformatWith⟩ :=
              formatWith_of_configured engine parser informed hlacks
            rw [← hafter] at hstate
            rw [hformatWith]
            split
            next => exact hstate
            next options _ =>
              rw [Run.services_execute]
              exact findLinter_preserves hlinter _ _ _ hstate

theorem format_outcome_eq_of_answers {run run' : Run σ}
    (hengine : (engineReply services request run.services).answer =
      (engineReply services request run'.services).answer)
    (hlinters : ∀ linters,
      firstInstalled services request.file linters
          (engineReply services request run.services).state =
        firstInstalled services request.file linters
          (engineReply services request run'.services).state) :
    (format services workspace request run).1 = (format services workspace request run').1 := by
  have hstops : Gate.stops services workspace request run.services =
      Gate.stops services workspace request run'.services := by
    funext gate
    cases gate with
    | language | config => rfl
    | engine | ignoring | parser | options => rw [Gate.stops, Gate.stops, hengine]
  cases hgate : Gate.ranked.find? (Gate.stops services workspace request run.services) with
  | some gate =>
    have hgate' := hstops ▸ hgate
    rw [(format_of_stops hgate).record.1, (format_of_stops hgate').record.1]
  | none =>
    obtain ⟨engine, parser, options, hpasses⟩ := exists_passes_of_no_stop hgate
    have hpasses' : Passes services workspace request run'.services engine parser options :=
      { hpasses with found := hengine ▸ hpasses.found }
    have hchosen : chosenBackend services request run.services engine parser =
        chosenBackend services request run'.services engine parser := by
      rw [chosenBackend, chosenBackend, hlinters]
    rw [(format_of_passes hpasses).record.1, (format_of_passes hpasses').record.1, hchosen]

end State

end Pipeline

/-! ### What is remembered of a disk that does not change -/

/-- All that is remembered was found on the disk, by searches from these directories. -/
structure Installed.Remembers (environment : Environment) (starts : List Path)
    (installed : Installed) : Prop where
  engines : installed.NamesFiles
  linters : ∀ search ∈ installed.linters, search.1.1 ∈ starts ∧
    search.2 = environment.localProgram? search.1.1 search.1.2.moduleName

/-- The system can follow all paths that are tried for the formatters of the linters. -/
def Path.IsRoomy (start : Path) : Prop :=
  ∀ linter : Linter, Environment.HasRoom start linter.moduleName

/-- Directories that are the same are written alike, or else short enough. -/
def Path.AreSearchable (starts : List Path) : Prop :=
  ∀ first ∈ starts, ∀ second ∈ starts, first.sameAs second = true →
    first = second ∨ first.IsRoomy ∧ second.IsRoomy

namespace Installed.Remembers

variable {environment : Environment} {workspace : Workspace} {file : Option Path}
  {starts : List Path} {installed : Installed}

theorem empty : Installed.empty.Remembers environment starts :=
  ⟨List.forall_mem_nil _, List.forall_mem_nil _⟩

theorem engine (hinstalled : installed.Remembers environment starts) (workspace : Workspace)
    (file : Option Path) (checksVersion : Bool) :
    (Installed.engine environment workspace file checksVersion installed).state.Remembers
      environment starts where
  engines := (answer_engine environment workspace file checksVersion hinstalled.engines).2
  linters := by
    rw [linters_state_engine]
    exact hinstalled.linters

theorem linter (hinstalled : installed.Remembers environment starts)
    (hstarts : ∀ start ∈ workspace.searchStart file, start ∈ starts) (linter : Linter) :
    (Installed.linter environment workspace file linter installed).state.Remembers
      environment starts where
  engines := by
    rw [NamesFiles, engines_state_linter]
    exact hinstalled.engines
  linters := by
    rw [Installed.linter]
    cases hstart : workspace.searchStart file with
    | none => exact hinstalled.linters
    | some start =>
      cases hknown : installed.linter? start linter with
      | some found =>
        simp only [hknown]
        exact hinstalled.linters
      | none =>
        simp only [hknown]
        refine List.forall_mem_append.mpr ⟨hinstalled.linters, List.forall_mem_singleton.mpr ?_⟩
        exact ⟨hstarts start hstart, rfl⟩

/-- The formatter that is remembered for a linter is the one that would be found. -/
theorem backend_linterProgram? (hinstalled : installed.Remembers environment starts)
    (hsearchable : Path.AreSearchable starts)
    (hstarts : ∀ start ∈ workspace.searchStart file, start ∈ starts) (linter : Linter) :
    (installed.linterProgram? environment workspace file linter).map (linter.backend environment) =
      (Installed.empty.linterProgram? environment workspace file linter).map
        (linter.backend environment) := by
  rw [linterProgram?, linterProgram?]
  cases hstart : workspace.searchStart file with
  | none => rfl
  | some start =>
    have hnone : Installed.empty.linter? start linter = none := rfl
    rw [Option.bind_some, Option.bind_some, hnone, Option.getD_none]
    cases hknown : installed.linter? start linter with
    | none => rfl
    | some found =>
      rw [linter?, Option.map_eq_some_iff] at hknown
      obtain ⟨search, hsearch, rfl⟩ := hknown
      have hmatch : search.1.1.sameAs start = true ∧ search.1.2 = linter := by
        simpa using List.find?_some hsearch
      obtain ⟨hmem, hfound⟩ := hinstalled.linters search (List.mem_of_find?_eq_some hsearch)
      rw [Option.getD_some, hfound, hmatch.2]
      rcases hsearchable _ hmem start (hstarts start hstart) hmatch.1 with hsame | ⟨hold, hnew⟩
      · rw [hsame]
      · exact Environment.backend_localProgram?_congr environment linter hmatch.1 (hold linter)
          (hnew linter)

end Installed.Remembers

namespace Pipeline

/-! ### Requests with one provider and with one each -/

/-- A request with the settings and the languages at the time. -/
structure Visit where
  workspace : Workspace
  languages : LanguageTable
  request : Request

namespace Visit

def services (environment : Environment) (visit : Visit) : Services Installed :=
  .standard environment visit.workspace visit.languages

def start? (visit : Visit) : Option Path :=
  visit.workspace.searchStart visit.request.file

def serve (environment : Environment) (visit : Visit) (left : Run Installed) :
    Outcome × Run Installed :=
  format (visit.services environment) visit.workspace visit.request
    (.start left.ledger left.services)

/-- The outcome of the request where nothing is remembered. -/
def outcomeAlone (environment : Environment) (visit : Visit) : Outcome :=
  (visit.serve environment (.start .empty .empty)).1

end Visit

/-- The outcomes of requests of which each finds what the ones before it left. -/
def outcomesTogether (environment : Environment) : List Visit → Run Installed → List Outcome
  | [], _ => []
  | visit :: rest, left =>
    let served := visit.serve environment left
    served.1 :: outcomesTogether environment rest served.2

variable {environment : Environment} {starts : List Path} {visit : Visit} {left : Run Installed}

theorem remembers_serve (hleft : left.services.Remembers environment starts)
    (hstarts : ∀ start ∈ visit.start?, start ∈ starts) :
    (visit.serve environment left).2.services.Remembers environment starts :=
  format_preserves (P := Installed.Remembers environment starts)
    (fun _ hstate => hstate.engine visit.workspace visit.request.file true)
    (fun linter _ hstate => hstate.linter hstarts linter) hleft

theorem outcome_serve (hleft : left.services.Remembers environment starts)
    (hsearchable : Path.AreSearchable starts) (hstarts : ∀ start ∈ visit.start?, start ∈ starts) :
    (visit.serve environment left).1 = visit.outcomeAlone environment := by
  have hempty : Installed.empty.Remembers environment starts := .empty
  have hanswer := Installed.answer_engine environment visit.workspace visit.request.file true
    hleft.engines
  have hanswer' := Installed.answer_engine environment visit.workspace visit.request.file true
    hempty.engines
  have hlater := hleft.engine visit.workspace visit.request.file true
  have hlater' := hempty.engine visit.workspace visit.request.file true
  refine format_outcome_eq_of_answers (hanswer.1.trans hanswer'.1.symm) fun linters => ?_
  rw [Visit.services, firstInstalled_standard, firstInstalled_standard]
  congr 1
  funext linter
  exact (hlater.backend_linterProgram? hsearchable hstarts linter).trans
    (hlater'.backend_linterProgram? hsearchable hstarts linter).symm

/-- While the disk does not change, requests with one provider have the outcomes that they would
have with one each. -/
theorem outcomesTogether_eq (visits : List Visit)
    (hsearchable : Path.AreSearchable starts)
    (hstarts : ∀ visit ∈ visits, ∀ start ∈ visit.start?, start ∈ starts)
    (hleft : left.services.Remembers environment starts) :
    outcomesTogether environment visits left = visits.map (Visit.outcomeAlone environment) := by
  induction visits generalizing left with
  | nil => rfl
  | cons visit rest ih =>
    obtain ⟨hvisit, hrest⟩ := List.forall_mem_cons.mp hstarts
    rw [outcomesTogether, List.map_cons, outcome_serve hleft hsearchable hvisit]
    rw [ih hrest (remembers_serve hleft hvisit)]

/-! ### A project with a linter in a folder of its own -/

/-- The project has the engine at its root and the formatter of a linter in one folder. -/
def nestedProject : Environment :=
  let found := Command.echoing [] ""
  { found with
    disk := found.disk.place (["ws", "a", "node_modules", ".bin", "prettier-eslint"].map
      Segment.ofString) (.program [] Command.echoingFormatter) }

/-- A request from a folder in which no file is ignored. -/
def visitIn (root : Path) (url : Url) : Visit :=
  let workspace := Workspace.single { Settings.defaults with ignorePath := "" } (some root)
  ⟨workspace, workspace.languages .empty, .ofDocument url "javascript" "x"⟩

/-- The folder with the linter, written with a great many slashes. -/
def wideFolder : Path :=
  ⟨(Path.ofString "/ws").glyphs ++ List.replicate 4100 Path.slash ++ (Path.ofString "a").glyphs⟩

/-- A document without a file, whose formatters are looked for from the root, and one in the
folder that the root is. -/
def wideVisits : List Visit :=
  [visitIn wideFolder ⟨"untitled", ("", none), none, none, .plain "x", none, none⟩,
    visitIn wideFolder (Command.projectUrl ["a", "y.js"])]

/-- From the root the formatter of the linter is missed, which then is remembered for the folder. -/
theorem outcomesTogether_ne_outcomeAlone :
    let together := outcomesTogether nestedProject wideVisits (.start .empty .empty)
    let alone := wideVisits.map (Visit.outcomeAlone nestedProject)
    together[1]? = some (.formatted ("\n".intercalate
      ["--parser=babel", "--no-config", "--stdin-filepath=/ws/a/y.js", "/ws/a"])) ∧
    alone[1]? = some (.formatted ("\n".intercalate
      ["--stdin", "--stdin-filepath=/ws/a/y.js", "--parser=babel", "/ws/a"])) ∧
    together ≠ alone := by
  intro together alone
  have htogether : together[1]? = some (.formatted ("\n".intercalate
      ["--parser=babel", "--no-config", "--stdin-filepath=/ws/a/y.js", "/ws/a"])) := by
    decide +kernel
  have halone : alone[1]? = some (.formatted ("\n".intercalate
      ["--stdin", "--stdin-filepath=/ws/a/y.js", "--parser=babel", "/ws/a"])) := by
    decide +kernel
  refine ⟨htogether, halone, fun hsame => ?_⟩
  rw [hsame, halone] at htogether
  revert htogether
  decide +kernel

/-! ### All of what is remembered -/

/-- A linter's formatter is what the first search from its directory found since all was forgotten,
whatever is installed now. The engine is the one that is located now, and no engine is asked twice
for its version. So requests on one disk have the outcomes that they would have with a provider of
their own, provided that directories that are the same are written alike, or else short enough. -/
theorem answers_after_and_outcomesTogether (moments : List Moment) :
    (∀ environment workspace file linter,
      (Installed.linter environment workspace file linter (Installed.after moments)).answer =
        ((workspace.searchStart file).bind fun start =>
          (Moment.firstFound (Moment.sinceDisposal moments ++
            [⟨environment, workspace, .linter file linter⟩]) start linter).join).map
          (linter.backend environment)) ∧
    (∀ environment workspace file checksVersion,
      (Installed.engine environment workspace file checksVersion
          (Installed.after moments)).answer =
        match Engine.locate environment workspace file with
        | none => .error (.engineNotFound Installed.notFoundAdvice)
        | some (path, _) => .ok (Engine.ofProgram environment path)) ∧
    ((Moment.noted (Moment.sinceDisposal moments)).1 = Installed.after moments ∧
      (Moment.noted (Moment.sinceDisposal moments)).2.Pairwise fun first second =>
        first.sameAs second = false) ∧
    ∀ environment ledger (visits : List Visit),
      Path.AreSearchable (visits.filterMap Visit.start?) →
      outcomesTogether environment visits (.start ledger .empty) =
        visits.map (Visit.outcomeAlone environment) := by
  refine ⟨?_, ?_, ?_, ?_⟩
  · intro environment workspace file linter
    exact Installed.answer_linter_after environment workspace file linter moments
  · intro environment workspace file checksVersion
    exact (Installed.answer_engine environment workspace file checksVersion
      (Installed.namesFiles_after moments)).1
  · have hkept : ∀ moment ∈ Moment.sinceDisposal moments, moment.isDisposal = false := by
      intro moment hmem
      simpa using List.mem_rtakeWhile_imp hmem
    obtain ⟨hstate, hasked⟩ := Moment.asked_noted hkept
    rw [hstate, Installed.after_sinceDisposal]
    exact ⟨rfl, hasked.once⟩
  · intro environment ledger visits hsearchable
    refine outcomesTogether_eq visits hsearchable ?_ .empty
    intro visit hvisit start hstart
    exact List.mem_filterMap.mpr ⟨visit, hvisit, hstart⟩

/-- The formatter of the linter is missing until all is forgotten, although it is installed in the
meantime, and the engine is asked for its version once. The folder may be written in two ways. -/
theorem answers_in_nestedProject :
    let script := some (Path.ofString "/ws/a/y.js")
    let moments := [⟨Command.echoing [] "", scriptProject, .linter script .eslint⟩,
      ⟨Command.echoing [] "", scriptProject, .engine script true⟩,
      ⟨nestedProject, scriptProject, .engine script true⟩]
    let forgotten := moments ++ [⟨nestedProject, scriptProject, .dispose⟩]
    let visits := [visitIn (Path.ofString "/ws") (Command.projectUrl ["a", "y.js"]),
      visitIn (Path.ofString "/ws") (Command.projectUrl ["", "a", "y.js"])]
    (Installed.linter nestedProject scriptProject script .eslint
        (Installed.after moments)).answer.isSome = false ∧
    (Installed.linter nestedProject scriptProject script .eslint
        (Installed.after forgotten)).answer.isSome = true ∧
    (Moment.noted (Moment.sinceDisposal moments)).2 =
      [Path.ofString "/ws/node_modules/.bin/prettier"] ∧
    visits.filterMap Visit.start? = [Path.ofString "/ws/a", Path.ofString "/ws//a"] ∧
    Path.AreSearchable (visits.filterMap Visit.start?) ∧
    outcomesTogether nestedProject visits (.start .empty .empty) =
      visits.map (Visit.outcomeAlone nestedProject) := by
  intro script moments forgotten visits
  obtain ⟨hlinter, -, -, htogether⟩ := answers_after_and_outcomesTogether moments
  obtain ⟨hlinter', -⟩ := answers_after_and_outcomesTogether forgotten
  have hstarts : visits.filterMap Visit.start? =
      [Path.ofString "/ws/a", Path.ofString "/ws//a"] := by
    decide +kernel
  have hroomy : ∀ start ∈ visits.filterMap Visit.start?, start.IsRoomy := by
    rw [hstarts]
    intro start hstart linter directory
    revert directory
    rcases List.mem_pair.mp hstart with rfl | rfl <;> cases linter <;> decide +kernel
  have hsearchable : Path.AreSearchable (visits.filterMap Visit.start?) :=
    fun first hfirst second hsecond _ => .inr ⟨hroomy first hfirst, hroomy second hsecond⟩
  refine ⟨?_, ?_, by decide +kernel, hstarts, hsearchable,
    htogether nestedProject .empty visits hsearchable⟩
  · rw [hlinter, Option.isSome_map]
    decide +kernel
  · rw [hlinter', Option.isSome_map]
    decide +kernel

end Pipeline

end FormatServer
