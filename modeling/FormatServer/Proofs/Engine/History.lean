import FormatServer.Proofs.Engine.Installed
import FormatServer.Proofs.Engine.Lookup
import Mathlib.Data.List.DropRight

/-!
# What is remembered of the formatters

The formatters are asked for one after the other, while the disk and the settings change, and now
and then all that is known of them is forgotten. What is remembered follows from what was asked
since then. A linter's formatter is the one that the first search from its directory found. An
engine is located anew each time, and remembered only as the first path to it and its version, for
which it is asked once. To tell how often, the ways to ask for a version are made a parameter.
-/

namespace FormatServer

/-! ### Calls -/

/-- A call of the provider, who knows the formatters. -/
inductive ProviderCall where
  | engine (file : Option Path) (checksVersion : Bool)
  | linter (file : Option Path) (linter : Linter)
  | dispose

/-- A call, with the disk and the settings at the time. -/
structure Moment where
  environment : Environment
  workspace : Workspace
  call : ProviderCall

namespace Moment

def isDisposal (moment : Moment) : Bool :=
  match moment.call with
  | .dispose => true
  | _ => false

def next (moment : Moment) (installed : Installed) : Installed :=
  match moment.call with
  | .engine file checksVersion =>
    (Installed.engine moment.environment moment.workspace file checksVersion installed).state
  | .linter file linter =>
    (Installed.linter moment.environment moment.workspace file linter installed).state
  | .dispose => .empty

/-- The search that a call for a linter's formatter stands for, and what it finds at the time. -/
def search? (moment : Moment) : Option ((Path × Linter) × Option Path) :=
  match moment.call with
  | .linter file linter =>
    (moment.workspace.searchStart file).map fun start =>
      ((start, linter), moment.environment.localProgram? start linter.moduleName)
  | _ => none

def sinceDisposal (moments : List Moment) : List Moment :=
  moments.rtakeWhile fun moment => !moment.isDisposal

theorem sinceDisposal_concat (moments : List Moment) (moment : Moment) :
    sinceDisposal (moments ++ [moment]) =
      if moment.isDisposal then [] else sinceDisposal moments ++ [moment] := by
  rw [sinceDisposal, List.rtakeWhile_concat]
  cases moment.isDisposal <;> rfl

/-- What the first of these searches found that was from the directory, for the linter. -/
def firstFound (moments : List Moment) (start : Path) (linter : Linter) : Option (Option Path) :=
  ((moments.filterMap search?).find? fun search =>
    search.1.1.sameAs start && search.1.2 = linter).map Prod.snd

theorem firstFound_concat (moments : List Moment) (moment : Moment) (start : Path)
    (linter : Linter) :
    firstFound (moments ++ [moment]) start linter =
      (firstFound moments start linter).or (firstFound [moment] start linter) := by
  rw [firstFound, List.filterMap_append, List.find?_append, Option.map_or]
  rfl

end Moment

namespace Installed

open Moment

variable {environment : Environment} {workspace : Workspace} {file : Option Path}
  {installed : Installed} {moment : Moment} {moments : List Moment}

def after (moments : List Moment) : Installed :=
  moments.foldl (fun installed moment => moment.next installed) .empty

theorem after_concat (moments : List Moment) (moment : Moment) :
    after (moments ++ [moment]) = moment.next (after moments) :=
  List.foldl_concat ..

theorem after_sinceDisposal (moments : List Moment) :
    after (sinceDisposal moments) = after moments := by
  induction moments using List.reverseRecOn with
  | nil => rfl
  | append_singleton moments moment ih =>
    rw [sinceDisposal_concat, after_concat]
    cases hdisposal : moment.isDisposal with
    | true =>
      obtain ⟨environment, workspace, call⟩ := moment
      cases call with
      | dispose => rfl
      | engine | linter => simp [isDisposal] at hdisposal
    | false => rw [if_neg Bool.false_ne_true, after_concat, ih]

/-! ### The formatters of the linters -/

theorem linter?_congr {first second : Path} (hsame : first.sameAs second = true) (linter : Linter) :
    installed.linter? first linter = installed.linter? second linter := by
  simp only [linter?, Path.sameAs_congr_right hsame]

theorem state_linter_of_known {start : Path} {asked : Linter} {found : Option Path}
    (hstart : workspace.searchStart file = some start)
    (hknown : installed.linter? start asked = some found) :
    (Installed.linter environment workspace file asked installed).state = installed := by
  rw [Installed.linter]
  simp only [hstart, hknown]

theorem state_linter_of_unknown {start : Path} {asked : Linter}
    (hstart : workspace.searchStart file = some start)
    (hunknown : installed.linter? start asked = none) :
    (Installed.linter environment workspace file asked installed).state =
      { installed with
        linters := installed.linters ++
          [((start, asked), environment.localProgram? start asked.moduleName)] } := by
  rw [Installed.linter]
  simp only [hstart, hunknown]

/-- A search adds what it finds, if there was none from the directory before. -/
theorem linter?_state_linter (asked : Linter) (start : Path) (linter : Linter) :
    (Installed.linter environment workspace file asked installed).state.linter? start linter =
      (installed.linter? start linter).or
        (firstFound [⟨environment, workspace, .linter file asked⟩] start linter) := by
  cases hbegin : workspace.searchStart file with
  | none =>
    have hstate : (Installed.linter environment workspace file asked installed).state =
        installed := by
      rw [Installed.linter]
      simp only [hbegin]
    rw [hstate]
    simp [firstFound, search?, hbegin]
  | some begin =>
    cases hknown : installed.linter? begin asked with
    | some found =>
      rw [state_linter_of_known hbegin hknown]
      by_cases hmatch : begin.sameAs start = true ∧ asked = linter
      · obtain ⟨hsame, rfl⟩ := hmatch
        rw [← linter?_congr hsame, hknown]
        rfl
      · simp [firstFound, search?, hbegin, hmatch]
    | none =>
      have hsearch : [⟨environment, workspace, .linter file asked⟩].filterMap search? =
          [((begin, asked), environment.localProgram? begin asked.moduleName)] := by
        simp [search?, hbegin]
      rw [state_linter_of_unknown hbegin hknown, firstFound, hsearch, linter?, linter?,
        List.find?_append, Option.map_or]

theorem linter?_after (moments : List Moment) (start : Path) (linter : Linter) :
    (after moments).linter? start linter = firstFound (sinceDisposal moments) start linter := by
  induction moments using List.reverseRecOn with
  | nil => rfl
  | append_singleton moments moment ih =>
    obtain ⟨environment, workspace, call⟩ := moment
    rw [after_concat, sinceDisposal_concat]
    cases call with
    | engine file checksVersion =>
      have hlinters := linters_state_engine environment workspace file checksVersion (after moments)
      have hnone : firstFound [⟨environment, workspace, .engine file checksVersion⟩] start linter =
          none := rfl
      simp only [next, isDisposal, Bool.false_eq_true, if_false, firstFound_concat, hnone,
        Option.or_none, ← ih]
      rw [linter?, hlinters, linter?]
    | linter file asked =>
      simp only [next, isDisposal, Bool.false_eq_true, if_false, firstFound_concat, ← ih]
      exact linter?_state_linter asked start linter
    | dispose => rfl

/-- A linter's formatter is the program that the first search from the directory found. -/
theorem answer_linter_after (environment : Environment) (workspace : Workspace)
    (file : Option Path) (linter : Linter) (moments : List Moment) :
    (Installed.linter environment workspace file linter (after moments)).answer =
      ((workspace.searchStart file).bind fun start =>
        (firstFound (sinceDisposal moments ++ [⟨environment, workspace, .linter file linter⟩])
          start linter).join).map (linter.backend environment) := by
  rw [answer_linter, linterProgram?]
  cases hstart : workspace.searchStart file with
  | none => rfl
  | some start =>
    have hnow : firstFound [⟨environment, workspace, .linter file linter⟩] start linter =
        some (environment.localProgram? start linter.moduleName) := by
      simp [firstFound, search?, hstart, Path.sameAs_refl]
    rw [Option.bind_some, Option.bind_some, linter?_after, firstFound_concat, hnow]
    cases firstFound (sinceDisposal moments) start linter <;> rfl

/-! ### The engine -/

def NamesFiles (installed : Installed) : Prop :=
  ∀ known ∈ installed.engines, known.path.NamesFile

theorem engine?_mem {path : Path} {known : KnownEngine}
    (hknown : installed.engine? path = some known) :
    known ∈ installed.engines ∧ known.path.sameAs path = true := by
  rw [engine?] at hknown
  exact ⟨List.mem_of_find?_eq_some hknown, by simpa using List.find?_some hknown⟩

theorem findEngine_spec (installed : Installed) (path : Path) :
    (installed.findEngine path).2.engine? path = some (installed.findEngine path).1 ∧
      ((installed.findEngine path).1.path = path ∨
        (installed.findEngine path).1 ∈ installed.engines) ∧
      ∀ known ∈ (installed.findEngine path).2.engines,
        known ∈ installed.engines ∨ known = ⟨path, none⟩ := by
  rw [findEngine]
  cases hknown : installed.engine? path with
  | some known =>
    exact ⟨hknown, .inr (engine?_mem hknown).1, fun known hmem => .inl hmem⟩
  | none =>
    refine ⟨?_, .inl rfl, fun known hmem => by simpa using hmem⟩
    rw [engine?] at hknown ⊢
    rw [List.find?_append, hknown]
    simp [Path.sameAs_refl]

theorem namesFiles_findEngine {path : Path} (hinstalled : installed.NamesFiles)
    (hpath : path.NamesFile) :
    (installed.findEngine path).1.path.NamesFile ∧ (installed.findEngine path).2.NamesFiles := by
  obtain ⟨-, hknown, hmem⟩ := findEngine_spec installed path
  constructor
  · rcases hknown with hnew | hold
    · rw [hnew]
      exact hpath
    · exact hinstalled _ hold
  · intro known hknown
    rcases hmem known hknown with hold | rfl
    · exact hinstalled known hold
    · exact hpath

theorem namesFiles_setVersion (path : Path) (version : Option Version)
    (hinstalled : installed.NamesFiles) : (installed.setVersion path version).NamesFiles := by
  intro known hknown
  obtain ⟨old, hold, rfl⟩ := List.mem_map.mp hknown
  split
  next => exact hinstalled old hold
  next => exact hinstalled old hold

theorem namesFiles_state_version (known : KnownEngine) (hinstalled : installed.NamesFiles) :
    (version environment known installed).state.NamesFiles := by
  rw [version]
  cases known.version with
  | some version => exact hinstalled
  | none =>
    cases Engine.version environment known.path with
    | ok version => exact namesFiles_setVersion _ _ hinstalled
    | error failure => exact namesFiles_setVersion _ _ hinstalled

/-- The engine that is answered is the one that is located at the time, by whichever path. -/
theorem answer_engine (environment : Environment) (workspace : Workspace) (file : Option Path)
    (checksVersion : Bool) (hinstalled : installed.NamesFiles) :
    (Installed.engine environment workspace file checksVersion installed).answer =
        (match Engine.locate environment workspace file with
          | none => .error (.engineNotFound notFoundAdvice)
          | some (path, _) => .ok (Engine.ofProgram environment path)) ∧
      (Installed.engine environment workspace file checksVersion installed).state.NamesFiles := by
  rw [Installed.engine]
  cases hlocated : Engine.locate environment workspace file with
  | none => exact ⟨rfl, hinstalled⟩
  | some located =>
    obtain ⟨path, source⟩ := located
    have hpath : path.NamesFile := Engine.namesFile_of_locate hlocated
    obtain ⟨hknown, hfound⟩ := namesFiles_findEngine hinstalled hpath
    have hsame := (engine?_mem (findEngine_spec installed path).1).2
    have hengine : Engine.ofProgram environment (installed.findEngine path).1.path =
        Engine.ofProgram environment path :=
      Engine.ofProgram_congr (Path.respells_of_sameAs hsame hknown.ends hpath.ends) hknown hpath
    cases checksVersion with
    | true =>
      exact ⟨congrArg Except.ok hengine, namesFiles_state_version _ hfound⟩
    | false => exact ⟨congrArg Except.ok hengine, hfound⟩

theorem engines_state_linter (environment : Environment) (workspace : Workspace)
    (file : Option Path) (linter : Linter) (installed : Installed) :
    (Installed.linter environment workspace file linter installed).state.engines =
      installed.engines := by
  rw [Installed.linter]
  cases workspace.searchStart file with
  | none => rfl
  | some start => cases hknown : installed.linter? start linter <;> simp only [hknown]

theorem namesFiles_after (moments : List Moment) : (after moments).NamesFiles := by
  induction moments using List.reverseRecOn with
  | nil => exact List.forall_mem_nil _
  | append_singleton moments moment ih =>
    obtain ⟨environment, workspace, call⟩ := moment
    rw [after_concat]
    cases call with
    | engine file checksVersion =>
      exact (answer_engine environment workspace file checksVersion ih).2
    | linter file linter =>
      rw [NamesFiles, next, engines_state_linter]
      exact ih
    | dispose => exact List.forall_mem_nil _

end Installed

end FormatServer
