import FormatServer.Proofs.Server.LatestPair
import FormatServer.Proofs.Server.Loading
import FormatServer.Proofs.Server.Turns

/-!
# Handlers that nothing interrupts

A handler may go on to its end whenever nothing else is under way. It then leaves the session as it
does when it is the only one.
-/

namespace FormatServer

open Registrar SharedRegistrar

namespace SharedSession

/-- What may come of a session that handles several changes. -/
def Reaches (environment : Environment) : SharedSession → SharedSession → Prop :=
  Relation.ReflTransGen (Step environment)

variable {environment : Environment} {shared : SharedSession} {index : Nat} {handling : Handling}
  {loaded : LoadedSettings} {change : Data}

/-! ### Notices -/

/-- All the notices have been told. -/
def tellAll (index : Nat) (notices : List Notice) (shared : SharedSession) : SharedSession :=
  { shared with deeds := shared.deeds ++ notices.map fun notice => .told index (.ofNotice notice) }

theorem tellAll_cons (index : Nat) (notice : Notice) (rest : List Notice)
    (shared : SharedSession) :
    shared.tellAll index (notice :: rest) =
      (shared.record (.told index (.ofNotice notice))).tellAll index rest := by
  simp [tellAll, record]

theorem apply_leave (shared : SharedSession) (handling : Handling) :
    (shared.leave index handling).apply environment index loaded =
      shared.apply environment index loaded := by
  simp only [SharedSession.apply, leave, withSession, record, call, List.set_set]

/-- A handler may tell everything that it has to tell, and then apply the settings. -/
theorem reaches_proceed (environment : Environment) (loaded : LoadedSettings)
    (shared : SharedSession) (hindex : index < shared.handlers.length) (notices : List Notice) :
    Reaches environment (shared.proceed environment index loaded notices)
      ((shared.tellAll index notices).apply environment index loaded) := by
  induction notices generalizing shared with
  | nil =>
    have hsame : shared.tellAll index [] = shared := by simp [tellAll]
    rw [hsame]
    exact .refl
  | cons notice rest ih =>
    let waiting := shared.leave index (.telling loaded notice rest)
    have htell : Step environment waiting (waiting.tell environment index loaded notice rest) :=
      .tell (List.getElem?_set_self hindex)
    have hwaiting : index < (waiting.record (.told index (.ofNotice notice))).handlers.length := by
      change index < (shared.handlers.set index _).length
      rwa [List.length_set]
    have hrest := ih _ hwaiting
    rw [tellAll_cons]
    rw [← apply_leave (shared.record _ |>.tellAll index rest) (.telling loaded notice rest)]
    exact .head htell hrest

/-! ### The call on the registrar -/

/-- While only one of the calls is under way it goes in order. -/
theorem reaches_withRegistrations {before after : SharedRegistrar} {call : Nat}
    (hreaches : before.Reaches after)
    (hothers : ∀ (other : Nat) (stage : Stage), other ≠ call →
      before.stages[other]? = some stage → stage.isEnded = true) :
    Reaches environment (shared.withRegistrations before) (shared.withRegistrations after) ∧
      ∀ (other : Nat) (stage : Stage), other ≠ call → after.stages[other]? = some stage →
        stage.isEnded = true := by
  induction hreaches with
  | refl => exact ⟨.refl, hothers⟩
  | @tail middle after _ hstep ih =>
    obtain ⟨hmiddle, hrest⟩ := ih
    obtain ⟨index, stage, stretch, hstage, hgoing, hafter⟩ := exists_after_of_step hstep
    obtain rfl : index = call := by
      by_contra hother
      simp [hrest index stage hother hstage] at hgoing
    have hkept : ∀ other, other ≠ index → after.stages[other]? = middle.stages[other]? := by
      intro other hother
      rw [hafter]
      exact getElem?_stages_after_ne hother.symm stretch
    have horder : middle.GoesInOrder after := by
      intro changed hchanged earlier hless waiting hwaiting
      obtain rfl : changed = index := by
        by_contra hother
        exact hchanged (hkept changed hother)
      simpa [Stage.isEnded] using hrest earlier _ (Nat.ne_of_lt hless) hwaiting
    refine ⟨hmiddle.tail (.register hstep horder), fun other found hother hfound => ?_⟩
    rw [hkept other hother] at hfound
    exact hrest other found hother hfound

/-- What is left by a handler that came to its end while nothing else was under way. -/
structure IsAlone (client : Client) (index : Nat) (session : Session)
    (shared last : SharedSession) : Prop where
  session : last.session = session
  handlers : last.handlers = shared.handlers.set index .ended
  free : last.holder = none
  idle : ∀ stage ∈ last.stages, stage.isEnded = true
  answered : ∃ more, last.traffic = shared.traffic ++ more ∧ IsAnswered client more

/-- Where the handler itself was before makes no difference. -/
theorem IsAlone.of_before {session : Session} {before last : SharedSession} {client : Client}
    (halone : IsAlone client index session before last)
    (hhandlers : before.handlers.set index .ended = shared.handlers.set index .ended)
    (htraffic : before.traffic = shared.traffic) : IsAlone client index session shared last := by
  refine { halone with handlers := halone.handlers.trans hhandlers, answered := ?_ }
  rw [← htraffic]
  exact halone.answered

/-- A handler whose call is the only one that is under way may have it answered, and end. -/
theorem exists_isAlone_of_registering {call : Nat} {selectors : Selectors} (client : Client)
    (hhandler : shared.handlers[index]? = some (.registering call))
    (hstage : shared.stages[call]? = some (.waiting (.replace selectors)))
    (hfree : shared.holder = none)
    (hothers : ∀ (other : Nat) (stage : Stage), other ≠ call →
      shared.stages[other]? = some stage → stage.isEnded = true) :
    ∃ last, Reaches environment shared last ∧ IsAlone client index
      { shared.session with
        registrar := (shared.session.registrar.replace client selectors).2.1 } shared last := by
  have hwaiting : shared.registrations.stages[call]? = some (.waiting (.replace selectors)) :=
    hstage
  obtain ⟨traffic, -, hanswered, hreaches⟩ := exists_reaches_of_waiting client hfree hwaiting
  let alone := (Call.replace selectors).run client shared.session.registrar
  let after := shared.registrations.after call ⟨alone.2.1, .ended alone.1, traffic⟩
  obtain ⟨hregistered, hended⟩ : Reaches environment shared (shared.withRegistrations after) ∧ _ :=
    reaches_withRegistrations hreaches hothers
  have hcall : call < shared.stages.length := (List.getElem?_eq_some_iff.mp hstage).1
  have hdone : after.stages[call]? = some (.ended alone.1) := getElem?_stages_after hcall _
  have hfinish : Step environment (shared.withRegistrations after)
      ((shared.withRegistrations after).finish index alone.1) := .finish hhandler hdone
  have hidle : ∀ stage ∈ after.stages, stage.isEnded = true := by
    intro stage hmem
    obtain ⟨other, hother⟩ := List.getElem?_of_mem hmem
    by_cases hsame : other = call
    · subst hsame
      rw [hdone] at hother
      obtain rfl := Option.some.inj hother
      rfl
    · exact hended other stage hsame hother
  cases hresult : alone.1 with
  | ok _ =>
    rw [hresult] at hfinish
    exact ⟨_, hregistered.tail hfinish, rfl, rfl, rfl, hidle, traffic, rfl, hanswered⟩
  | error reason =>
    rw [hresult] at hfinish
    exact ⟨_, hregistered.tail hfinish, rfl, rfl, rfl, hidle, traffic, rfl, hanswered⟩

/-! ### The whole of a handler -/

/-- Settings that are applied while nothing else is under way are followed by a refresh. -/
theorem exists_isAlone_of_apply (environment : Environment) (client : Client)
    (loaded : LoadedSettings) (shared : SharedSession) (hindex : index < shared.handlers.length)
    (hfree : shared.holder = none) (hidle : ∀ stage ∈ shared.stages, stage.isEnded = true) :
    ∃ last, Reaches environment (shared.apply environment index loaded) last ∧
      IsAlone client index
        ((shared.session.applySettings environment loaded).refresh client).session shared last := by
  rw [SharedSession.apply, Session.refresh]
  split
  next hboth =>
    rw [Session.session_register]
    let session := (shared.session.applySettings environment loaded).storeSelectors
    let forced := (shared.withSession session).record (.applied index)
    let asking := (forced.call (.replace session.selectors)).leave index
      (.registering shared.stages.length)
    have hhandler : asking.handlers[index]? = some (.registering shared.stages.length) :=
      List.getElem?_set_self hindex
    have hstage : asking.stages[shared.stages.length]? =
        some (.waiting (.replace session.selectors)) :=
      List.getElem?_concat_length
    have hothers : ∀ (other : Nat) (stage : Stage), other ≠ shared.stages.length →
        asking.stages[other]? = some stage → stage.isEnded = true := by
      intro other stage hother hfound
      rcases stage_of_called forced.registrations hfound with hold | ⟨hnew, -⟩
      · exact hidle stage (List.mem_of_getElem? hold)
      · exact absurd hnew hother
    obtain ⟨last, hreaches, halone⟩ :=
      exists_isAlone_of_registering client hhandler hstage hfree hothers
    exact ⟨last, hreaches, halone.of_before (List.set_set _) rfl⟩
  next =>
    have hquiet : shared.traffic = shared.traffic ++ [] := (List.append_nil _).symm
    exact ⟨_, .refl, rfl, rfl, hfree, hidle, [], hquiet, isAnswered_nil client⟩

/-- A handler that nothing interrupts leaves the session as it does when it is the only one. -/
theorem exists_isAlone_of_begin (environment : Environment) (client : Client)
    (shared : SharedSession) (hhandler : shared.handlers[index]? = some (.arrived change))
    (hfree : shared.holder = none) (hidle : ∀ stage ∈ shared.stages, stage.isEnded = true) :
    ∃ last, Reaches environment shared last ∧ IsAlone client index
      (shared.session.configure environment client change).session shared last := by
  have hindex : index < shared.handlers.length := (List.getElem?_eq_some_iff.mp hhandler).1
  have hbegin : Step environment shared (shared.begin environment index change) := .begin hhandler
  rw [Session.configure]
  cases hsettings : settingsSection? change with
  | none =>
    rw [SharedSession.begin, hsettings] at hbegin
    have hquiet : shared.traffic = shared.traffic ++ [] := (List.append_nil _).symm
    exact ⟨_, .single hbegin, rfl, rfl, hfree, hidle, [], hquiet, isAnswered_nil client⟩
  | some settings =>
    rw [SharedSession.begin, hsettings] at hbegin
    let session := { shared.session with client := some (.configuration, settings) }
    let loaded := session.readSettings environment
    let stored := (shared.withSession session).record (.stored index)
    have hproceed : Reaches environment (stored.proceed environment index loaded loaded.notices)
        ((stored.tellAll index loaded.notices).apply environment index loaded) :=
      reaches_proceed environment loaded stored hindex loaded.notices
    obtain ⟨last, hreaches, halone⟩ := exists_isAlone_of_apply environment client loaded
      (stored.tellAll index loaded.notices) hindex hfree hidle
    exact ⟨last, .head hbegin (hproceed.trans hreaches), halone.of_before rfl rfl⟩

end SharedSession

end FormatServer
