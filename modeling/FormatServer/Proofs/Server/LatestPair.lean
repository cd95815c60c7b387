import FormatServer.Proofs.Server.Registrations
import FormatServer.Server.SharedSession

/-!
# The pair of the latest call

Calls on a shared registrar that are let in in the order in which they were made end in that order.
So when all of them have ended, and the client has accepted all it was asked for, the pair that is
registered is the one of the call that was made last.
-/

namespace FormatServer

namespace Registrar

namespace Stage

def isEnded : Stage → Bool
  | ended _ => true
  | _ => false

def isWaiting : Stage → Bool
  | waiting _ => true
  | _ => false

/-- The selectors that are yet to be registered. -/
def wants? : Stage → Option Selectors
  | waiting (.replace selectors) => some selectors
  | releasing _ (.replace selectors) => some selectors
  | registering _ selectors => some selectors
  | _ => none

theorem exists_eq_waiting {stage : Stage} (hwaiting : stage.isWaiting = true) :
    ∃ call, stage = waiting call := by
  cases stage with
  | waiting call => exact ⟨call, rfl⟩
  | ended | releasing | registering => simp [isWaiting] at hwaiting

end Stage

variable {selectors : Selectors}

theorem isWaiting_proceed (registrar : Registrar) (call : Call) :
    (registrar.proceed call).stage.isWaiting = false := by
  cases call <;> rfl

theorem isWaiting_enter (registrar : Registrar) (call : Call) :
    (registrar.enter call).stage.isWaiting = false := by
  rw [enter]
  cases registrar.current with
  | none => exact isWaiting_proceed registrar call
  | some number => rfl

/-- A call for a pair goes on to ask for it. -/
theorem wants?_proceed (registrar : Registrar) (call : Call)
    (hwants : (Stage.waiting call).wants? = some selectors) :
    (registrar.proceed call).stage.wants? = some selectors := by
  cases call with
  | replace wanted => exact hwants
  | dispose => simp [Stage.wants?] at hwants

theorem wants?_enter {call : Call} (registrar : Registrar)
    (hwants : (Stage.waiting call).wants? = some selectors) :
    (registrar.enter call).stage.wants? = some selectors := by
  rw [enter]
  cases registrar.current with
  | none => exact wants?_proceed registrar call hwants
  | some number =>
    cases call with
    | replace wanted => exact hwants
    | dispose => simp [Stage.wants?] at hwants

theorem isEnded_eq_false_of_wants? {stage : Stage} (hwants : stage.wants? = some selectors) :
    stage.isEnded = false := by
  cases stage with
  | ended result => simp [Stage.wants?] at hwants
  | waiting | releasing | registering => rfl

/-- The client has accepted all that it was asked for, and has given up all it was to give up. -/
def Succeeds (traffic : List Traffic) : Prop :=
  ∀ request failure, Traffic.answered request failure ∈ traffic → failure = none

end Registrar

open Registrar

namespace SharedRegistrar

variable {shared next : SharedRegistrar} {index : Nat} {stage : Stage} {stretch : Stretch}
  {selectors : Selectors}

/-- Only a call that has not ended goes on. -/
theorem exists_after_of_step (hstep : shared.Step next) :
    ∃ (index : Nat) (stage : Stage) (stretch : Stretch), shared.stages[index]? = some stage ∧
      stage.isEnded = false ∧ next = shared.after index stretch := by
  cases hstep with
  | enter _ hstage | release hstage _ | settle hstage _ => exact ⟨_, _, _, hstage, rfl, rfl⟩

/-- The pair that is registered has these selectors. -/
def HasPair (selectors : Selectors) (shared : SharedRegistrar) : Prop :=
  ∃ number, shared.registrar.current = some number ∧
    standing? shared.traffic = some (Registration.pair number selectors)

/-- The calls are let in in order, and the last of them is for these selectors. -/
structure Registers (selectors : Selectors) (shared : SharedRegistrar) : Prop where
  within : ∀ index : Nat, shared.holder = some index → index < shared.stages.length
  exclusive : ∀ (index : Nat) (stage : Stage), shared.stages[index]? = some stage →
    (stage.isInside = true ↔ shared.holder = some index)
  ordered : ∀ (index : Nat) (stage : Stage), shared.stages[index]? = some stage →
    stage.isWaiting = false → ∀ earlier < index, ∃ before : Stage,
      shared.stages[earlier]? = some before ∧ before.isEnded = true
  pending : ∀ (index : Nat) (stage : Stage), shared.stages[index]? = some stage →
    index + 1 = shared.stages.length → stage.isEnded = true ∨ stage.wants? = some selectors
  settled : shared.stages ≠ [] → (∀ stage ∈ shared.stages, stage.isEnded = true) →
    Succeeds shared.traffic → HasPair selectors shared

/-- Calls after one that has not ended are still waiting. -/
theorem Registers.isWaiting_of_lt (hregisters : Registers selectors shared)
    (hstage : shared.stages[index]? = some stage) (hgoing : stage.isEnded = false) {other : Nat}
    {found : Stage} (hfound : shared.stages[other]? = some found) (hlater : index < other) :
    found.isWaiting = true := by
  cases hwaiting : found.isWaiting with
  | true => rfl
  | false =>
    obtain ⟨before, hbefore, hended⟩ := hregisters.ordered other found hfound hwaiting index hlater
    rw [hstage] at hbefore
    obtain rfl := Option.some.inj hbefore
    exact absurd hended (by simp [hgoing])

/-- If nothing else is to be let in any more, a call that ends was the last one. -/
theorem Registers.eq_last (hregisters : Registers selectors shared)
    (hstage : shared.stages[index]? = some stage) (hgoing : stage.isEnded = false)
    (hended : ∀ found ∈ (shared.after index stretch).stages, found.isEnded = true) :
    index + 1 = shared.stages.length := by
  have hindex : index < shared.stages.length := (List.getElem?_eq_some_iff.mp hstage).1
  by_contra hnot
  have hnext : index + 1 < shared.stages.length := by omega
  have hfound : shared.stages[index + 1]? = some shared.stages[index + 1] :=
    List.getElem?_eq_getElem hnext
  have hwaiting := hregisters.isWaiting_of_lt hstage hgoing hfound (Nat.lt_succ_self index)
  rw [← getElem?_stages_after_ne (Nat.ne_of_lt (Nat.lt_succ_self index)) stretch] at hfound
  obtain ⟨call, hcall⟩ := Stage.exists_eq_waiting hwaiting
  have hover := hended _ (List.mem_of_getElem? hfound)
  rw [hcall] at hover
  simp [Stage.isEnded] at hover

/-- One call goes on, after which it has ended or wants what it wanted. -/
theorem Registers.after (hregisters : Registers selectors shared)
    (hstage : shared.stages[index]? = some stage) (hgoing : stage.isEnded = false)
    (hearlier : ∀ earlier < index, ∃ before : Stage,
      shared.stages[earlier]? = some before ∧ before.isEnded = true)
    (hturn : shared.holder = none ∨ shared.holder = some index)
    (hwants : stage.wants? = some selectors →
      stretch.stage.isEnded = true ∨ stretch.stage.wants? = some selectors)
    (hends : stage.wants? = some selectors → stretch.stage.isEnded = true →
      Succeeds (shared.traffic ++ stretch.traffic) →
        HasPair selectors (shared.after index stretch)) :
    Registers selectors (shared.after index stretch) := by
  have hindex : index < shared.stages.length := (List.getElem?_eq_some_iff.mp hstage).1
  have hlength : (shared.after index stretch).stages.length = shared.stages.length :=
    List.length_set
  have hlast : index + 1 = shared.stages.length → stage.wants? = some selectors := by
    intro hlength
    exact (hregisters.pending index stage hstage hlength).resolve_left (by simp [hgoing])
  refine ⟨?within, ?exclusive, ?ordered, ?pending, ?settled⟩
  case within =>
    intro other hholder
    obtain ⟨-, rfl⟩ := holder_after_eq_some_iff.mp hholder
    rwa [hlength]
  case exclusive =>
    intro other found hfound
    exact exclusive_after hregisters.exclusive hindex hturn hfound
  case ordered =>
    intro other found hfound hwaiting earlier hless
    -- Nothing after this call has been let in, so the calls in question are all before it.
    have hbound : other ≤ index := by
      by_contra hnot
      rw [getElem?_stages_after_ne (by omega)] at hfound
      have hyes := hregisters.isWaiting_of_lt hstage hgoing hfound (by omega)
      simp [hwaiting] at hyes
    obtain ⟨before, hbefore, hended⟩ := hearlier earlier (by omega)
    exact ⟨before, (getElem?_stages_after_ne (by omega) stretch).trans hbefore, hended⟩
  case pending =>
    intro other found hfound hother
    rw [hlength] at hother
    by_cases hsame : index = other
    · subst hsame
      rw [getElem?_stages_after hindex] at hfound
      obtain rfl := Option.some.inj hfound
      exact hwants (hlast hother)
    · rw [getElem?_stages_after_ne hsame] at hfound
      exact hregisters.pending other found hfound hother
  case settled =>
    intro _ hended hsucceeds
    have hown : stretch.stage.isEnded = true :=
      hended _ (List.mem_of_getElem? (getElem?_stages_after hindex stretch))
    exact hends (hlast (hregisters.eq_last hstage hgoing hended)) hown hsucceeds

theorem hasPair_settle {number : UInt64} (shared : SharedRegistrar) (index : Nat)
    (selectors : Selectors) :
    HasPair selectors (shared.after index (shared.registrar.settle number selectors none)) := by
  refine ⟨number, rfl, ?_⟩
  change standing? (shared.traffic ++ [_]) = _
  rw [standing?_concat]
  rfl

/-- A call that is let in, or goes on, leaves the calls in order. -/
theorem Registers.step (hregisters : Registers selectors shared) (hstep : shared.Step next)
    (horder : shared.GoesInOrder next) : Registers selectors next := by
  cases hstep with
  | @enter index call hfree hstage =>
    have hindex := (List.getElem?_eq_some_iff.mp hstage).1
    have hentered := getElem?_stages_after hindex (shared.registrar.enter call)
    have hearlier : ∀ earlier < index, ∃ before : Stage,
        shared.stages[earlier]? = some before ∧ before.isEnded = true := by
      intro earlier hless
      have hbefore : shared.stages[earlier]? = some shared.stages[earlier] :=
        List.getElem?_eq_getElem (Nat.lt_trans hless hindex)
      refine ⟨_, hbefore, ?_⟩
      -- It does not wait, since this one goes first, and it is not inside, since none is.
      have hchanged : (shared.after index (shared.registrar.enter call)).stages[index]? ≠
          shared.stages[index]? := by
        intro hsame
        rw [hentered, hstage] at hsame
        have hentered := isWaiting_enter shared.registrar call
        rw [Option.some.inj hsame] at hentered
        simp [Stage.isWaiting] at hentered
      have hnot := horder index hchanged earlier hless
      have hout := hregisters.exclusive earlier _ hbefore
      cases hcase : shared.stages[earlier] with
      | waiting waiting => exact absurd (hbefore.trans (congrArg some hcase)) (hnot waiting)
      | releasing | registering => simp [hcase, Stage.isInside, hfree] at hout
      | ended result => rfl
    refine hregisters.after hstage rfl hearlier (.inl hfree) ?_ ?_
    · exact fun hwants => .inr (wants?_enter shared.registrar hwants)
    · intro hwants hended
      have hgoing := isEnded_eq_false_of_wants? (wants?_enter shared.registrar hwants)
      simp [hgoing] at hended
  | @release index number call hstage failure =>
    have hholder := (hregisters.exclusive _ _ hstage).mp rfl
    have hgoesOn : (Stage.releasing number call).wants? = some selectors →
        (shared.registrar.release number call failure).stage.wants? = some selectors := by
      intro hwants
      refine wants?_proceed shared.registrar call ?_
      cases call <;> exact hwants
    refine hregisters.after hstage rfl (hregisters.ordered _ _ hstage rfl) (.inr hholder) ?_ ?_
    · exact fun hwants => .inr (hgoesOn hwants)
    · intro hwants hended
      simp [isEnded_eq_false_of_wants? (hgoesOn hwants)] at hended
  | @settle index number wanted hstage failure =>
    have hholder := (hregisters.exclusive _ _ hstage).mp rfl
    refine hregisters.after hstage rfl (hregisters.ordered _ _ hstage rfl) (.inr hholder) ?_ ?_
    · intro _
      left
      cases failure <;> rfl
    · intro hwants _ hsucceeds
      obtain rfl : wanted = selectors := Option.some.inj hwants
      cases failure with
      | none => exact hasPair_settle shared index wanted
      | some reason =>
        have hnone : some reason = none := hsucceeds _ _
          (List.mem_append_right shared.traffic (List.mem_singleton_self _))
        simp at hnone

/-- The registrar with one more call made on it. -/
def called (shared : SharedRegistrar) (call : Call) : SharedRegistrar :=
  { shared with stages := shared.stages ++ [.waiting call] }

theorem stage_of_called (shared : SharedRegistrar) {call : Call}
    (hstage : (shared.called call).stages[index]? = some stage) :
    shared.stages[index]? = some stage ∨
      index = shared.stages.length ∧ stage = .waiting call := by
  change (shared.stages ++ [.waiting call])[index]? = some stage at hstage
  rcases Nat.lt_trichotomy index shared.stages.length with hold | rfl | hbeyond
  · rw [List.getElem?_append_left hold] at hstage
    exact .inl hstage
  · rw [List.getElem?_concat_length] at hstage
    exact .inr ⟨rfl, (Option.some.inj hstage).symm⟩
  · have hnew := (List.getElem?_eq_some_iff.mp hstage).1
    rw [List.length_append, List.length_singleton] at hnew
    omega

/-- Whatever the calls were for, it is the selectors of a new one that count. -/
theorem Registers.called (hregisters : Registers selectors shared) (wanted : Selectors) :
    Registers wanted (shared.called (.replace wanted)) := by
  have hkept : ∀ index < shared.stages.length,
      (shared.called (.replace wanted)).stages[index]? = shared.stages[index]? :=
    fun index hindex => List.getElem?_append_left hindex
  have hlength : (shared.called (.replace wanted)).stages.length = shared.stages.length + 1 :=
    List.length_append
  refine ⟨?within, ?exclusive, ?ordered, ?pending, ?settled⟩
  case within =>
    intro index hholder
    rw [hlength]
    exact Nat.lt_succ_of_lt (hregisters.within index hholder)
  case exclusive =>
    intro index stage hstage
    rcases stage_of_called shared hstage with hbefore | ⟨rfl, rfl⟩
    · exact hregisters.exclusive index stage hbefore
    · refine iff_of_false (by simp [Stage.isInside]) fun hholder => ?_
      exact absurd (hregisters.within _ hholder) (Nat.lt_irrefl _)
  case ordered =>
    intro index stage hstage hwaiting earlier hless
    rcases stage_of_called shared hstage with hbefore | ⟨rfl, rfl⟩
    · obtain ⟨before, hfound, hended⟩ :=
        hregisters.ordered index stage hbefore hwaiting earlier hless
      have hbound := (List.getElem?_eq_some_iff.mp hfound).1
      exact ⟨before, (hkept earlier hbound).trans hfound, hended⟩
    · simp [Stage.isWaiting] at hwaiting
  case pending =>
    intro index stage hstage hlast
    rcases stage_of_called shared hstage with hbefore | ⟨rfl, rfl⟩
    · have hbound := (List.getElem?_eq_some_iff.mp hbefore).1
      omega
    · exact .inr rfl
  case settled =>
    intro _ hended
    have hmem : Stage.waiting (.replace wanted) ∈ (shared.called (.replace wanted)).stages :=
      List.mem_append_right _ (List.mem_singleton_self _)
    simpa [Stage.isEnded] using hended _ hmem

end SharedRegistrar

end FormatServer
