import FormatServer.Engine.Installed
import FormatServer.Proofs.Path.Nesting

/-!
# Formatters that were found

The program of a linter's formatter is the one that was found before from the same directory, or
else the one that is found now. To ask for one formatter does not change which others are found,
and the engine is a program, whichever it is.
-/

namespace FormatServer

namespace Installed

variable {environment : Environment} {workspace : Workspace} {file : Option Path}
  {installed : Installed}

/-- The program of a linter's formatter, as it was found before or else as it is found now. -/
def linterProgram? (environment : Environment) (workspace : Workspace) (file : Option Path)
    (installed : Installed) (linter : Linter) : Option Path :=
  (workspace.searchStart file).bind fun start =>
    (installed.linter? start linter).getD (environment.localProgram? start linter.moduleName)

theorem answer_linter (environment : Environment) (workspace : Workspace) (file : Option Path)
    (linter : Linter) (installed : Installed) :
    (Installed.linter environment workspace file linter installed).answer =
      (linterProgram? environment workspace file installed linter).map
        (linter.backend environment) := by
  rw [Installed.linter, linterProgram?]
  cases workspace.searchStart file with
  | none => rfl
  | some start =>
    rw [Option.bind_some]
    cases hknown : installed.linter? start linter with
    | none => simp only [hknown, Option.getD_none]
    | some found => simp only [hknown, Option.getD_some]

/-- To look for one formatter does not change what is found of any. -/
theorem linterProgram?_state_linter (asked linter : Linter) :
    linterProgram? environment workspace file
        (Installed.linter environment workspace file asked installed).state linter =
      linterProgram? environment workspace file installed linter := by
  rw [Installed.linter, linterProgram?, linterProgram?]
  cases workspace.searchStart file with
  | none => rfl
  | some start =>
    rw [Option.bind_some, Option.bind_some]
    cases hasked : installed.linter? start asked with
    | some found => simp only [hasked]
    | none =>
      simp only [hasked]
      simp only [linter?, List.find?_append, Option.map_or]
      cases hknown : (installed.linters.find? fun known =>
          known.1.1.sameAs start && known.1.2 = linter).map Prod.snd with
      | some found => rfl
      | none =>
        by_cases hsame : asked = linter
        · subst hsame
          simp [Path.sameAs_refl]
        · simp [hsame]

theorem linters_state_engine (environment : Environment) (workspace : Workspace)
    (file : Option Path) (checksVersion : Bool) (installed : Installed) :
    (Installed.engine environment workspace file checksVersion installed).state.linters =
      installed.linters := by
  have hfound : ∀ path, (installed.findEngine path).2.linters = installed.linters := by
    intro path
    rw [findEngine]
    split <;> rfl
  have hversion : ∀ known (installed : Installed),
      (version environment known installed).state.linters = installed.linters := by
    intro known installed
    rw [version]
    split
    next => rfl
    next => split <;> rfl
  rw [Installed.engine]
  cases Engine.locate environment workspace file with
  | none => rfl
  | some located =>
    obtain ⟨path, source⟩ := located
    cases checksVersion with
    | true => exact (hversion _ _).trans (hfound path)
    | false => exact hfound path

theorem exists_program_of_engine {checksVersion : Bool} {engine : Engine}
    (hengine : (Installed.engine environment workspace file checksVersion installed).answer =
      .ok engine) :
    ∃ program, engine = Engine.ofProgram environment program := by
  rw [Installed.engine] at hengine
  cases hlocated : Engine.locate environment workspace file with
  | none => simp [hlocated] at hengine
  | some located =>
    rw [hlocated] at hengine
    refine ⟨(installed.findEngine located.1).1.path, ?_⟩
    cases checksVersion with
    | true => exact (Except.ok.inj hengine).symm
    | false => exact (Except.ok.inj hengine).symm

end Installed

end FormatServer
