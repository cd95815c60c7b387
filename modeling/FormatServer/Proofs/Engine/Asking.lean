import FormatServer.Proofs.Engine.History

/-!
# Asking engines for their versions

To see which engines are asked for their version, the ways to ask are made a parameter of what an
engine is found by. If a note is taken each time a program is asked, the engine is found as it is
without notes, and these say who was asked. An engine that was asked is known together with an
answer under all ways to write its path, and then is not asked again.
-/

namespace FormatServer

namespace Installed

section Monadic

variable {m : Type → Type} [Monad m] (ask : Path → m (Except Failure (Option Version)))

/-- The version of a known engine, whichever way it is asked for it. -/
def versionBy (known : KnownEngine) (installed : Installed) :
    m (Reply Installed (Option Version)) :=
  match known.version with
  | some version => pure ⟨version, [], installed⟩
  | none => do
    match ← ask known.path with
    | .ok version => pure ⟨version, [], installed.setVersion known.path version⟩
    | .error failure =>
      pure ⟨none, [unknownVersion known.path failure], installed.setVersion known.path none⟩

/-- The engine for a file, whichever way it is asked for its version. -/
def engineBy (environment : Environment) (workspace : Workspace) (file : Option Path)
    (checksVersion : Bool) (installed : Installed) :
    m (Reply Installed (Except Failure Engine)) :=
  let missing := (Engine.missing environment workspace file).toList.map missingRemark
  match Engine.locate environment workspace file with
  | none => pure ⟨.error (.engineNotFound notFoundAdvice), missing, installed⟩
  | some (path, source) =>
    let found := missing ++ if source = .global then [globalRemark path] else []
    match installed.findEngine path with
    | (known, installed) =>
      let engine := Engine.ofProgram environment known.path
      if checksVersion then do
        let reply ← versionBy ask known installed
        pure ⟨.ok engine, found ++ reply.remarks ++ versionRemarks path reply.answer, reply.state⟩
      else pure ⟨.ok engine, found, installed⟩

end Monadic

variable {environment : Environment} {workspace : Workspace} {file : Option Path}
  {installed : Installed} {asked : List Path}

/-! ### Notes -/

/-- Asks an engine for its version and notes that it was asked. -/
def noting (environment : Environment) (path : Path) :
    StateM (List Path) (Except Failure (Option Version)) := do
  modify (· ++ [path])
  return Engine.version environment path

theorem run_versionBy_noting (known : KnownEngine) (installed : Installed) (asked : List Path) :
    (versionBy (noting environment) known installed).run asked =
      (version environment known installed,
        asked ++ if known.version = none then [known.path] else []) := by
  rw [versionBy, version]
  cases known.version with
  | some version =>
    rw [if_neg (Option.some_ne_none version), List.append_nil]
    rfl
  | none =>
    rw [if_pos rfl]
    have hnoting : (noting environment known.path).run asked =
        (Engine.version environment known.path, asked ++ [known.path]) := rfl
    rw [StateT.run_bind, hnoting]
    cases Engine.version environment known.path <;> rfl

def askedFor (environment : Environment) (workspace : Workspace) (file : Option Path)
    (checksVersion : Bool) (installed : Installed) : Option Path :=
  if checksVersion then
    (Engine.locate environment workspace file).bind fun located =>
      let known := (installed.findEngine located.1).1
      if known.version = none then some known.path else none
  else none

theorem run_engineBy_noting (checksVersion : Bool) (installed : Installed) (asked : List Path) :
    (engineBy (noting environment) environment workspace file checksVersion installed).run asked =
      (Installed.engine environment workspace file checksVersion installed,
        asked ++ (askedFor environment workspace file checksVersion installed).toList) := by
  rw [engineBy, Installed.engine, askedFor]
  cases Engine.locate environment workspace file with
  | none =>
    rw [Option.bind_none, ite_self, Option.toList_none, List.append_nil]
    rfl
  | some located =>
    obtain ⟨path, source⟩ := located
    cases checksVersion with
    | true =>
      rw [Option.bind_some]
      simp only [if_true, StateT.run_bind, run_versionBy_noting]
      cases (installed.findEngine path).1.version <;> rfl
    | false =>
      rw [if_neg Bool.false_ne_true, Option.toList_none, List.append_nil]
      rfl

/-! ### Each engine is asked once -/

theorem engine?_congr {first second : Path} (hsame : first.sameAs second = true) :
    installed.engine? first = installed.engine? second := by
  simp only [engine?, Path.sameAs_congr_right hsame]

theorem engine?_findEngine {path : Path} {known : KnownEngine} (located : Path)
    (hknown : installed.engine? path = some known) :
    (installed.findEngine located).2.engine? path = some known := by
  rw [findEngine]
  cases installed.engine? located with
  | some _ => exact hknown
  | none =>
    rw [engine?] at hknown ⊢
    rw [List.find?_append, hknown, Option.some_or]

theorem engine?_setVersion (installed : Installed) (path other : Path) (version : Option Version) :
    (installed.setVersion path version).engine? other =
      (installed.engine? other).map fun known =>
        if known.path.sameAs path then { known with version := some version } else known := by
  rw [engine?, engine?, setVersion, List.find?_map]
  congr 2
  funext known
  rw [Function.comp]
  split <;> rfl

/-- All that were asked are known with a version, and none was asked twice. -/
structure Asked (asked : List Path) (installed : Installed) : Prop where
  known : ∀ path ∈ asked, ∃ known, installed.engine? path = some known ∧ known.version.isSome
  once : asked.Pairwise fun first second => first.sameAs second = false

namespace Asked

theorem findEngine (hasked : Asked asked installed) (located : Path) :
    Asked asked (installed.findEngine located).2 where
  known path hpath := by
    obtain ⟨known, hknown, hversion⟩ := hasked.known path hpath
    exact ⟨known, engine?_findEngine located hknown, hversion⟩
  once := hasked.once

theorem setVersion {located : Path} {known : KnownEngine} (hasked : Asked asked installed)
    (hknown : installed.engine? located = some known) (hunasked : known.version = none)
    (version : Option Version) :
    Asked (asked ++ [known.path]) (installed.setVersion known.path version) := by
  have hsame := (engine?_mem hknown).2
  constructor
  · intro path hpath
    rw [engine?_setVersion]
    rcases List.mem_append.mp hpath with hpath | hpath
    · obtain ⟨old, hold, hversion⟩ := hasked.known path hpath
      refine ⟨_, congrArg _ hold, ?_⟩
      dsimp only
      split
      next => rfl
      next => exact hversion
    · obtain rfl := List.mem_singleton.mp hpath
      refine ⟨_, congrArg _ ((engine?_congr hsame).trans hknown), ?_⟩
      dsimp only
      rw [if_pos (Path.sameAs_refl _)]
      rfl
  · rw [List.pairwise_append]
    refine ⟨hasked.once, List.pairwise_singleton _ _, ?_⟩
    intro path hpath other hother
    obtain rfl := List.mem_singleton.mp hother
    -- An engine that was asked before would be known with its version.
    rw [← Bool.not_eq_true]
    intro hagain
    obtain ⟨old, hold, hversion⟩ := hasked.known path hpath
    rw [engine?_congr hagain, engine?_congr hsame, hknown] at hold
    obtain rfl := Option.some.inj hold
    simp [hunasked] at hversion

theorem engine (hasked : Asked asked installed) (environment : Environment)
    (workspace : Workspace) (file : Option Path) (checksVersion : Bool) :
    Asked (asked ++ (askedFor environment workspace file checksVersion installed).toList)
      (Installed.engine environment workspace file checksVersion installed).state := by
  rw [Installed.engine, askedFor]
  cases Engine.locate environment workspace file with
  | none =>
    rw [Option.bind_none, ite_self, Option.toList_none, List.append_nil]
    exact hasked
  | some located =>
    obtain ⟨path, source⟩ := located
    have hfound := hasked.findEngine path
    have hknown := (findEngine_spec installed path).1
    cases checksVersion with
    | false =>
      rw [if_neg Bool.false_ne_true, Option.toList_none, List.append_nil]
      exact hfound
    | true =>
      rw [if_pos rfl, Option.bind_some]
      simp only [if_true, version]
      cases hversion : (installed.findEngine path).1.version with
      | some version =>
        rw [if_neg (Option.some_ne_none version), Option.toList_none, List.append_nil]
        exact hfound
      | none =>
        rw [if_pos rfl, Option.toList_some]
        cases Engine.version environment (installed.findEngine path).1.path with
        | ok version => exact hfound.setVersion hknown hversion version
        | error failure => exact hfound.setVersion hknown hversion none

end Asked

end Installed

namespace Moment

open Installed

/-- What is known after the call, with a note of each engine that is asked for its version. -/
def nextNoting (moment : Moment) (installed : Installed) : StateM (List Path) Installed :=
  match moment.call with
  | .engine file checksVersion => do
    let reply ← engineBy (noting moment.environment) moment.environment moment.workspace file
      checksVersion installed
    return reply.state
  | .linter _ _ | .dispose => return moment.next installed

/-- What is known after the calls, and the engines that were asked for their version. -/
def noted (moments : List Moment) : Installed × List Path :=
  (moments.foldlM (fun installed (moment : Moment) => moment.nextNoting installed)
    Installed.empty).run []

theorem noted_concat (moments : List Moment) (moment : Moment) :
    noted (moments ++ [moment]) =
      (moment.nextNoting (noted moments).1).run (noted moments).2 := by
  rw [noted, List.foldlM_append, StateT.run_bind]
  rfl

/-- Between two disposals no engine is asked twice for its version, however its path is written. -/
theorem asked_noted {moments : List Moment}
    (hkept : ∀ moment ∈ moments, moment.isDisposal = false) :
    (noted moments).1 = after moments ∧ Asked (noted moments).2 (after moments) := by
  induction moments using List.reverseRecOn with
  | nil =>
    have hnoted : noted [] = (Installed.empty, []) := rfl
    rw [hnoted]
    exact ⟨rfl, List.forall_mem_nil _, .nil⟩
  | append_singleton moments moment ih =>
    obtain ⟨hstate, hasked⟩ := ih fun moment hmem => hkept moment (List.mem_append_left _ hmem)
    have hlast := hkept moment List.mem_concat_self
    obtain ⟨environment, workspace, call⟩ := moment
    rw [noted_concat, after_concat, hstate]
    cases call with
    | engine file checksVersion =>
      rw [nextNoting, StateT.run_bind, run_engineBy_noting]
      exact ⟨rfl, hasked.engine environment workspace file checksVersion⟩
    | linter file linter =>
      refine ⟨rfl, fun path hpath => ?_, hasked.once⟩
      rw [engine?, next, engines_state_linter]
      exact hasked.known path hpath
    | dispose => simp [isDisposal] at hlast

end Moment

end FormatServer
