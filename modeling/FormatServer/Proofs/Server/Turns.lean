import FormatServer.Proofs.Server.Registrations

/-!
# A registrar to itself

A call on a shared registrar does what it does on a registrar that nothing else uses: while the
client answers, it can go on to the end that it has there. No other call goes on before that, so
while no call is inside all is as those that have ended would have left it one after another. That
the traffic is in order, and fits what the registrar knows, is true at every moment.
-/

namespace FormatServer

namespace Registrar

/-- The call on a registrar that nothing else uses. -/
def Call.run (client : Client) (registrar : Registrar) :
    Call → Except String Unit × Registrar × List Exchange
  | .replace selectors => registrar.replace client selectors
  | .dispose =>
    let (registrar, exchanges) := registrar.dispose client
    (.ok (), registrar, exchanges)

/-- What is left of traffic if answers come at once. -/
def Traffic.exchange? : Traffic → Option Exchange
  | sent request => some (.sent request)
  | answered _ _ => none
  | logged line => some (.logged line)

def exchanges (traffic : List Traffic) : List Exchange :=
  traffic.filterMap Traffic.exchange?

/-- The answers that came are those of this client. -/
def IsAnswered (client : Client) (traffic : List Traffic) : Prop :=
  ∀ request failure, .answered request failure ∈ traffic → failure = client request

theorem IsAnswered.append {client : Client} {traffic more : List Traffic}
    (htraffic : IsAnswered client traffic) (hmore : IsAnswered client more) :
    IsAnswered client (traffic ++ more) := by
  intro request failure hmem
  exact (List.mem_append.mp hmem).elim (htraffic request failure) (hmore request failure)

theorem isAnswered_nil (client : Client) : IsAnswered client [] := by
  simp [IsAnswered]

theorem isAnswered_sent (client : Client) (request : ClientRequest) :
    IsAnswered client [.sent request] := by
  simp [IsAnswered]

theorem isAnswered_answered (client : Client) (request : ClientRequest) :
    IsAnswered client [.answered request (client request)] := by
  simp +contextual [IsAnswered]

theorem isAnswered_logged (client : Client) (lines : List LogLine) :
    IsAnswered client (lines.map .logged) := by
  simp [IsAnswered]

variable {registrar : Registrar} {number : UInt64}

theorem dispose_of_none (client : Client) (hcurrent : registrar.current = none) :
    registrar.dispose client = (registrar, []) := by
  rw [dispose, hcurrent]

theorem run_dispose_of_none (client : Client) (hcurrent : registrar.current = none) :
    Call.dispose.run client registrar = (.ok (), registrar, []) := by
  rw [Call.run, dispose_of_none client hcurrent]

theorem run_replace_of_none (client : Client) (hcurrent : registrar.current = none)
    (selectors : Selectors) :
    (Call.replace selectors).run client registrar = registrar.register client selectors := by
  rw [Call.run, replace, dispose_of_none client hcurrent]
  rfl

/-- A call first disposes of the pair that is registered. -/
theorem run_of_some (client : Client) (hcurrent : registrar.current = some number) (call : Call) :
    let rest := call.run client registrar.forget
    call.run client registrar = (rest.1, rest.2.1, (registrar.dispose client).2 ++ rest.2.2) := by
  have hgone : (registrar.dispose client).1 = registrar.forget := by
    rw [dispose, hcurrent]
  cases call with
  | dispose =>
    rw [run_dispose_of_none client rfl, Call.run, ← hgone]
    simp only [List.append_nil]
  | replace selectors =>
    rw [run_replace_of_none client rfl, Call.run, replace, ← hgone]

theorem exists_settle_eq (client : Client) (registrar : Registrar) (selectors : Selectors) :
    let request := ClientRequest.register (Registration.pair registrar.next selectors)
    let alone := registrar.register client selectors
    ∃ traffic, exchanges (.sent request :: traffic) = alone.2.2 ∧ IsAnswered client traffic ∧
      registrar.draw.2.settle registrar.next selectors (client request) =
        ⟨alone.2.1, .ended alone.1, traffic⟩ := by
  intro request alone
  have hanswered := isAnswered_answered client request
  cases hanswer : client request with
  | none =>
    have halone : alone = (.ok (), registrar.draw.2.keep registrar.next, [.sent request]) := by
      simp only [alone, register, draw, request] at hanswer ⊢
      rw [hanswer]
    rw [halone]
    exact ⟨_, rfl, hanswer ▸ hanswered, rfl⟩
  | some reason =>
    have halone : alone = (.error reason, registrar.draw.2, [.sent request]) := by
      simp only [alone, register, draw, request] at hanswer ⊢
      rw [hanswer]
    rw [halone]
    exact ⟨_, rfl, hanswer ▸ hanswered, rfl⟩

/-! ### One call after another -/

/-- The calls at these places, made one after another, have come to these results. This is what they
have left and what has passed, with any answers that a client may give. -/
inductive IsSerial (calls : List Call) :
    List (Nat × Except String Unit) → Registrar → List Exchange → Prop
  | nil : IsSerial calls [] .initial []
  | run {made : List (Nat × Except String Unit)} {registrar : Registrar}
      {exchanges : List Exchange} {index : Nat} {call : Call}
      (hserial : IsSerial calls made registrar exchanges) (hcall : calls[index]? = some call)
      (client : Client) :
      IsSerial calls (made ++ [(index, (call.run client registrar).1)])
        (call.run client registrar).2.1 (exchanges ++ (call.run client registrar).2.2)

/-- How far the call has come at this stage, from what others had left and what had passed. -/
def Continues (call : Call) (before : Registrar) (earlier : List Exchange) (registrar : Registrar)
    (exchanges : List Exchange) : Stage → Prop
  | .waiting _ => False
  | .releasing number rest =>
    rest = call ∧ before.current = some number ∧ registrar = before.forget ∧
      exchanges = earlier ++ [.sent (.unregister (Unregistration.pair number))]
  | .registering number selectors =>
    call = .replace selectors ∧ ∃ failure : Option String,
      let disposed := before.dispose fun _ => failure
      disposed.1.draw = (number, registrar) ∧ exchanges =
        earlier ++ disposed.2 ++ [.sent (.register (Registration.pair number selectors))]
  | .ended result =>
    ∃ client : Client, (call.run client before).1 = result ∧
      (call.run client before).2.1 = registrar ∧
      exchanges = earlier ++ (call.run client before).2.2

/-- What the call leaves when it has run on, after this had passed. -/
def Stretch.Continues (stretch : Stretch) (call : Call) (before : Registrar)
    (earlier : List Exchange) (traffic : List Traffic) : Prop :=
  Registrar.Continues call before earlier stretch.registrar
    (exchanges (traffic ++ stretch.traffic)) stretch.stage

theorem exchanges_append (traffic more : List Traffic) :
    exchanges (traffic ++ more) = exchanges traffic ++ exchanges more :=
  List.filterMap_append

variable {before : Registrar} {traffic : List Traffic} {earlier : List Exchange}
  {selectors : Selectors} {call : Call}

theorem continues_proceed (failure : Option String)
    (hregistrar : registrar = (before.dispose fun _ => failure).1)
    (htraffic : exchanges traffic = earlier ++ (before.dispose fun _ => failure).2) (call : Call) :
    Stretch.Continues (registrar.proceed call) call before earlier traffic := by
  cases call with
  | dispose =>
    refine ⟨fun _ => failure, rfl, hregistrar.symm, ?_⟩
    rw [exchanges_append, htraffic]
    exact List.append_nil _
  | replace selectors =>
    refine ⟨rfl, failure, ?_, ?_⟩
    · rw [← hregistrar]
      rfl
    · rw [exchanges_append, htraffic]
      rfl

theorem continues_enter (registrar : Registrar) (traffic : List Traffic) (call : Call) :
    Stretch.Continues (registrar.enter call) call registrar (exchanges traffic) traffic := by
  rw [enter]
  cases hcurrent : registrar.current with
  | none =>
    have hnothing := dispose_of_none (fun _ => none) hcurrent
    refine continues_proceed none ?_ ?_ call
    · rw [hnothing]
    · rw [hnothing, List.append_nil]
  | some number =>
    refine ⟨rfl, hcurrent, rfl, ?_⟩
    rw [exchanges_append]
    rfl

theorem continues_release {rest : Call}
    (hcontinues : Continues call before earlier registrar (exchanges traffic)
      (.releasing number rest)) (failure : Option String) :
    Stretch.Continues (registrar.release number rest failure) call before earlier traffic := by
  obtain ⟨rfl, hcurrent, hregistrar, htraffic⟩ := hcontinues
  have hdispose : before.dispose (fun _ => failure) = (registrar,
      .sent (.unregister (Unregistration.pair number)) ::
        failure.toList.map fun reason => .logged (releaseFailure number reason)) := by
    rw [dispose, hcurrent, ← hregistrar]
  rw [release, Stretch.Continues, Stretch.behind, ← List.append_assoc]
  refine continues_proceed failure ?_ ?_ rest
  · rw [hdispose]
  · rw [hdispose, exchanges_append, htraffic, List.append_assoc]
    cases failure <;> rfl

/-- A client with one answer for each kind of request. -/
def answering (disposal failure : Option String) : Client
  | .unregister _ => disposal
  | .register _ => failure

theorem continues_settle
    (hcontinues : Continues call before earlier registrar (exchanges traffic)
      (.registering number selectors)) (failure : Option String) :
    Stretch.Continues (registrar.settle number selectors failure) call before earlier traffic := by
  obtain ⟨rfl, disposal, hdraw, htraffic⟩ := hcontinues
  let client := answering disposal failure
  have hdispose : before.dispose client = before.dispose fun _ => disposal := rfl
  have hquiet : exchanges (registrar.settle number selectors failure).traffic = [] := by
    cases failure <;> rfl
  have hexchanges :
      exchanges (traffic ++ (registrar.settle number selectors failure).traffic) =
        earlier ++ ((before.dispose fun _ => disposal).2 ++
          [.sent (.register (Registration.pair number selectors))]) := by
    rw [exchanges_append, hquiet, List.append_nil, htraffic, List.append_assoc]
  -- A client with the two answers that came would have left the same, had it answered at once.
  have hrun : (Call.replace selectors).run client before =
      let disposed := before.dispose fun _ => disposal
      let alone := disposed.1.register client selectors
      (alone.1, alone.2.1, disposed.2 ++ alone.2.2) := by
    rw [Call.run, replace, hdispose]
  rw [Stretch.Continues, hexchanges]
  simp only [register, hdraw] at hrun
  cases failure with
  | none | some =>
    refine ⟨client, ?_⟩
    rw [hrun]
    exact ⟨rfl, rfl, rfl⟩

end Registrar

open Registrar

namespace SharedRegistrar

variable {shared next : SharedRegistrar} {index : Nat} {call : Call} {client : Client}

theorem after_after (shared : SharedRegistrar) (index : Nat) (first second : Stretch) :
    (shared.after index first).after index second =
      shared.after index (second.behind first.traffic) := by
  simp only [SharedRegistrar.after, Stretch.behind, List.set_set, List.append_assoc]
  rfl

theorem behind_behind (stretch : Stretch) (before later : List Traffic) :
    (stretch.behind later).behind before = stretch.behind (before ++ later) := by
  simp only [Stretch.behind, List.append_assoc]

/-- Without a pair to give up a call that is let in ends as it does alone. -/
theorem exists_reaches_of_proceed {registrar : Registrar} {before : List Traffic} (client : Client)
    (hcurrent : registrar.current = none) (hindex : index < shared.stages.length)
    (hreaches : shared.Reaches (shared.after index ((registrar.proceed call).behind before))) :
    let alone := call.run client registrar
    ∃ traffic, exchanges traffic = alone.2.2 ∧ IsAnswered client traffic ∧
      shared.Reaches (shared.after index ⟨alone.2.1, .ended alone.1, before ++ traffic⟩) := by
  cases call with
  | dispose =>
    rw [run_dispose_of_none client hcurrent]
    exact ⟨[], rfl, isAnswered_nil client, hreaches⟩
  | replace selectors =>
    rw [run_replace_of_none client hcurrent]
    obtain ⟨traffic, htraffic, hanswered, hsettle⟩ := exists_settle_eq client registrar selectors
    let request := ClientRequest.register (Registration.pair registrar.next selectors)
    let waiting := shared.after index ((registrar.proceed (.replace selectors)).behind before)
    have hstage : waiting.stages[index]? = some (.registering registrar.next selectors) :=
      getElem?_stages_after hindex _
    have hsettled : shared.Reaches (waiting.after index
        (registrar.draw.2.settle registrar.next selectors (client request))) :=
      hreaches.tail (.settle hstage (client request))
    rw [hsettle, after_after] at hsettled
    have hwhole : before ++ .sent request :: traffic = (before ++ [.sent request]) ++ traffic := by
      simp
    refine ⟨_, htraffic, (isAnswered_sent client request).append hanswered, ?_⟩
    rw [hwhole]
    exact hsettled

/-- A call that is let in ends as it does on a registrar that nothing else uses, whatever the client
answers. -/
theorem exists_reaches_of_waiting (client : Client) (hfree : shared.holder = none)
    (hstage : shared.stages[index]? = some (.waiting call)) :
    let alone := call.run client shared.registrar
    ∃ traffic, exchanges traffic = alone.2.2 ∧ IsAnswered client traffic ∧
      shared.Reaches (shared.after index ⟨alone.2.1, .ended alone.1, traffic⟩) := by
  have hindex : index < shared.stages.length := (List.getElem?_eq_some_iff.mp hstage).1
  have hentered : shared.Reaches (shared.after index (shared.registrar.enter call)) :=
    .single (.enter hfree hstage)
  cases hcurrent : shared.registrar.current with
  | none =>
    have henter : shared.registrar.enter call = (shared.registrar.proceed call).behind [] := by
      rw [enter, hcurrent]
      rfl
    rw [henter] at hentered
    exact exists_reaches_of_proceed client hcurrent hindex hentered
  | some number =>
    let request := ClientRequest.unregister (Unregistration.pair number)
    have henter : shared.registrar.enter call =
        ⟨shared.registrar.forget, .releasing number call, [.sent request]⟩ := by
      rw [enter, hcurrent]
    rw [henter] at hentered
    let releasing := shared.after index
      ⟨shared.registrar.forget, .releasing number call, [.sent request]⟩
    have hreleasing : releasing.stages[index]? = some (.releasing number call) :=
      getElem?_stages_after hindex _
    have hreleased : shared.Reaches (releasing.after index
        (shared.registrar.forget.release number call (client request))) :=
      hentered.tail (.release hreleasing (client request))
    rw [after_after, release, behind_behind] at hreleased
    have hgone : shared.registrar.forget.current = none := rfl
    obtain ⟨traffic, htraffic, hanswered, hends⟩ :=
      exists_reaches_of_proceed client hgone hindex hreleased
    rw [run_of_some client hcurrent call]
    refine ⟨_, ?_, ?_, hends⟩
    · have hdispose : (shared.registrar.dispose client).2 = .sent request ::
          (client request).toList.map fun reason => .logged (releaseFailure number reason) := by
        rw [dispose, hcurrent]
      rw [hdispose, ← htraffic]
      cases client request <;> rfl
    · have hremarks := isAnswered_logged client
        ((client request).toList.map (releaseFailure number))
      rw [List.map_map] at hremarks
      exact ((isAnswered_sent client request).append
        ((isAnswered_answered client request).append hremarks)).append hanswered

/-! ### The order of the calls -/

/-- These are the calls that have ended, each with its result. -/
structure HaveEnded (shared : SharedRegistrar) (made : List (Nat × Except String Unit)) :
    Prop where
  once : (made.map Prod.fst).Nodup
  ended : ∀ index result,
    (index, result) ∈ made ↔ shared.stages[index]? = some (.ended result)

variable {made : List (Nat × Except String Unit)} {calls : List Call} {before : Registrar}
  {earlier : List Exchange} {stage : Stage} {stretch : Stretch}

theorem HaveEnded.after_inside (hended : shared.HaveEnded made)
    (hstage : shared.stages[index]? = some stage) (hrunning : ∀ result, stage ≠ .ended result)
    (hinside : stretch.stage.isInside = true) : (shared.after index stretch).HaveEnded made where
  once := hended.once
  ended := by
    intro other result
    rw [hended.ended]
    by_cases hother : index = other
    · subst hother
      have hindex := (List.getElem?_eq_some_iff.mp hstage).1
      have hgoing : stretch.stage ≠ .ended result := by
        intro heq
        simp [heq, Stage.isInside] at hinside
      rw [getElem?_stages_after hindex, hstage, Option.some.injEq, Option.some.injEq]
      exact iff_of_false (hrunning result) hgoing
    · rw [getElem?_stages_after_ne hother]

theorem HaveEnded.after_ended {result : Except String Unit} (hended : shared.HaveEnded made)
    (hstage : shared.stages[index]? = some stage) (hrunning : ∀ result, stage ≠ .ended result)
    (hresult : stretch.stage = .ended result) :
    (shared.after index stretch).HaveEnded (made ++ [(index, result)]) where
  once := by
    have hnew : index ∉ made.map Prod.fst := by
      intro hmem
      obtain ⟨⟨_, found⟩, hmade, rfl⟩ := List.mem_map.mp hmem
      have hfound := (hended.ended _ found).mp hmade
      rw [hstage] at hfound
      exact hrunning found (Option.some.inj hfound)
    rw [List.map_append, List.map_singleton, ← List.concat_eq_append]
    exact hended.once.concat hnew
  ended := by
    intro other found
    have hindex := (List.getElem?_eq_some_iff.mp hstage).1
    rw [List.mem_append, hended.ended, List.mem_singleton, Prod.mk.injEq]
    by_cases hother : index = other
    · subst hother
      rw [getElem?_stages_after hindex, hstage, hresult, Option.some.injEq, Option.some.injEq,
        or_iff_right (hrunning found), Stage.ended.injEq, and_iff_right rfl, eq_comm]
    · rw [getElem?_stages_after_ne hother, or_iff_left fun hsame => hother hsame.1.symm]

/-- All is as the calls that have ended leave it if they are made one after another, but for the one
that is inside. -/
structure GoesInTurn (calls : List Call) (shared : SharedRegistrar) : Prop where
  waiting : ∀ (index : Nat) (call : Call), shared.stages[index]? = some (.waiting call) →
    calls[index]? = some call
  turn : ∃ made before earlier, shared.HaveEnded made ∧ IsSerial calls made before earlier ∧
    (shared.holder = none → shared.registrar = before ∧ exchanges shared.traffic = earlier) ∧
    ∀ index stage, shared.stages[index]? = some stage → shared.holder = some index →
      ∃ call, calls[index]? = some call ∧
        Continues call before earlier shared.registrar (exchanges shared.traffic) stage

theorem goesInTurn_initial (calls : List Call) : (initial calls).GoesInTurn calls where
  waiting := by
    intro index call hstage
    simpa [initial] using hstage
  turn := by
    refine ⟨[], .initial, [], ⟨List.nodup_nil, ?_⟩, .nil, fun _ => ⟨rfl, rfl⟩, ?_⟩
    · simp [initial]
    · simp [initial]

theorem goesInTurn_after
    (hwaiting : ∀ (index : Nat) (call : Call), shared.stages[index]? = some (.waiting call) →
      calls[index]? = some call)
    (hended : shared.HaveEnded made) (hserial : IsSerial calls made before earlier)
    (hstage : shared.stages[index]? = some stage) (hrunning : ∀ result, stage ≠ .ended result)
    (hcall : calls[index]? = some call)
    (hcontinues : stretch.Continues call before earlier shared.traffic) :
    (shared.after index stretch).GoesInTurn calls := by
  have hindex := (List.getElem?_eq_some_iff.mp hstage).1
  have hentered : ∀ call, stretch.stage ≠ .waiting call := by
    intro call heq
    rw [Stretch.Continues, heq] at hcontinues
    exact hcontinues
  constructor
  · intro other waiting hother
    by_cases hsame : index = other
    · subst hsame
      rw [getElem?_stages_after hindex] at hother
      exact absurd (Option.some.inj hother) (hentered waiting)
    · rw [getElem?_stages_after_ne hsame] at hother
      exact hwaiting other waiting hother
  · cases hinside : stretch.stage.isInside with
    | true =>
      refine ⟨made, before, earlier, hended.after_inside hstage hrunning hinside, hserial, ?_, ?_⟩
      · intro hnone
        rw [holder_after_eq_none_iff, hinside] at hnone
        exact Bool.noConfusion hnone
      · intro other found hfound hholder
        obtain ⟨-, rfl⟩ := holder_after_eq_some_iff.mp hholder
        rw [eq_stage_of_holder_after hindex hfound hholder]
        exact ⟨call, hcall, hcontinues⟩
    | false =>
      obtain ⟨result, hresult⟩ : ∃ result, stretch.stage = .ended result := by
        cases hcase : stretch.stage with
        | ended result => exact ⟨result, rfl⟩
        | waiting call => exact absurd hcase (hentered call)
        | releasing | registering => simp [hcase, Stage.isInside] at hinside
      have hends := hcontinues
      rw [Stretch.Continues, hresult] at hends
      obtain ⟨client, rfl, hregistrar, hexchanges⟩ := hends
      refine ⟨_, _, _, hended.after_ended hstage hrunning hresult, hserial.run hcall client,
        fun _ => ⟨hregistrar.symm, hexchanges⟩, ?_⟩
      intro other found hfound hholder
      rw [holder_after_eq_some_iff, hinside] at hholder
      exact Bool.noConfusion hholder.1

theorem GoesInTurn.step (hturn : shared.GoesInTurn calls) (hsound : shared.IsSound)
    (hstep : shared.Step next) : next.GoesInTurn calls := by
  obtain ⟨hwaiting, made, before, earlier, hended, hserial, hfree, hinside⟩ := hturn
  cases hstep with
  | enter hnone hstage =>
    obtain ⟨rfl, rfl⟩ := hfree hnone
    exact goesInTurn_after hwaiting hended hserial hstage (by simp) (hwaiting _ _ hstage)
      (continues_enter shared.registrar shared.traffic _)
  | release hstage failure =>
    have hholder := (hsound.exclusive _ _ hstage).mp rfl
    obtain ⟨call, hcall, hcontinues⟩ := hinside _ _ hstage hholder
    exact goesInTurn_after hwaiting hended hserial hstage (by simp) hcall
      (continues_release hcontinues failure)
  | settle hstage failure =>
    have hholder := (hsound.exclusive _ _ hstage).mp rfl
    obtain ⟨call, hcall, hcontinues⟩ := hinside _ _ hstage hholder
    exact goesInTurn_after hwaiting hended hserial hstage (by simp) hcall
      (continues_settle hcontinues failure)

theorem goesInTurn_of_reaches (hfew : calls.length ≤ UInt64.size)
    (hreaches : (initial calls).Reaches shared) : shared.GoesInTurn calls := by
  induction hreaches with
  | refl => exact goesInTurn_initial calls
  | tail hbefore hstep ih => exact ih.step (isSound_of_reaches hfew hbefore) hstep

/-- Whichever calls are made on a registrar, in whichever order they are let in and whatever the
client answers, the traffic is in order, and at every moment a pair is registered exactly if the one
that was accepted last has not been given up. After a refusal there is none, and nothing is sent to
dispose of it. While no call is inside, all is as those that have ended leave it, with the results
that they had, if they are made one after another. -/
theorem isOrderly_and_isRegistered_iff (hfew : calls.length ≤ UInt64.size)
    (hreaches : (initial calls).Reaches shared) :
    IsOrderly shared.traffic ∧
      (shared.registrar.isRegistered = true ↔ HasStanding shared.traffic) ∧
      (∀ before items reason,
        shared.traffic = before ++ [.answered (.register items) (some reason)] →
          shared.registrar.isRegistered = false ∧
            shared.registrar.enter .dispose = ⟨shared.registrar, .ended (.ok ()), []⟩) ∧
      (shared.holder = none →
        ∃ made, shared.HaveEnded made ∧
          IsSerial calls made shared.registrar (exchanges shared.traffic)) := by
  have hfits := (isSound_of_reaches hfew hreaches).fits
  refine ⟨hfits.orderly, ?_, fun before items reason htraffic => ?_, fun hfree => ?_⟩
  · rw [hasStanding_iff, hfits.standing, isRegistered]
  · have hcurrent := hfits.current_of_refused htraffic
    exact ⟨by rw [isRegistered, hcurrent]; rfl, by rw [enter, hcurrent]; rfl⟩
  · obtain ⟨made, before, earlier, hended, hserial, hleft, -⟩ :=
      (goesInTurn_of_reaches hfew hreaches).turn
    obtain ⟨rfl, rfl⟩ := hleft hfree
    exact ⟨made, hended, hserial⟩

/-- Of two calls to replace a pair the second is let in first. The other one has its pair given up,
but is refused a new one, so nothing is left for a third call to dispose of. -/
theorem refused_after_replaced_is_orderly :
    ∃ shared, (initial [.replace .empty, .replace .empty, .dispose]).Reaches shared ∧
      shared.holder = none ∧ (requested shared.traffic).length = 2 ∧
      (accepted shared.traffic).length = 1 ∧ (revoked shared.traffic).length = 1 ∧
      IsOrderly shared.traffic ∧ ¬HasStanding shared.traffic ∧
      ∃ made, (0, .error "No more registrations") ∈ made ∧
        IsSerial [.replace .empty, .replace .empty, .dispose] made shared.registrar
          (exchanges shared.traffic) := by
  let start := initial [.replace .empty, .replace .empty, .dispose]
  let asked := start.after 1 (start.registrar.enter (.replace .empty))
  let replaced := asked.after 1 (asked.registrar.settle 0 .empty none)
  let released := replaced.after 0 (replaced.registrar.enter (.replace .empty))
  let again := released.after 0
    (released.registrar.release 0 (.replace .empty) (some "Unknown registration"))
  let refused := again.after 0 (again.registrar.settle 1 .empty (some "No more registrations"))
  let last := refused.after 2 (refused.registrar.enter .dispose)
  have hreplaced : start.Reaches replaced :=
    .tail (.single (.enter rfl rfl)) (.settle rfl none)
  have hagain : start.Reaches again :=
    .tail (.tail hreplaced (.enter rfl rfl)) (.release rfl (some "Unknown registration"))
  have hlast : start.Reaches last :=
    .tail (.tail hagain (.settle rfl (some "No more registrations"))) (.enter rfl rfl)
  obtain ⟨horderly, hiff, hrefused, hserial⟩ := isOrderly_and_isRegistered_iff (by decide) hlast
  obtain ⟨made, hended, hmade⟩ := hserial rfl
  refine ⟨last, hlast, rfl, rfl, rfl, rfl, horderly, fun hstanding => ?_, made,
    (hended.ended 0 _).mpr rfl, hmade⟩
  have hnone := (hrefused again.traffic (Registration.pair 1 .empty) "No more registrations" rfl).1
  rw [hiff.mpr hstanding] at hnone
  simp at hnone

end SharedRegistrar

end FormatServer
