import FormatServer.Proofs.Server.Traffic
import Mathlib.Data.List.Nodup
import Mathlib.Logic.Relation

/-!
# Registrations in turn

The calls on a shared registrar wait for each other, and a call that has the lock may have to wait
for the client twice. What the registrar knows fits the traffic at every moment, also while a call
waits: it gives the pair up before it asks the client to, and has the new one only when the client
has accepted it. So the traffic is in order whichever call is let in next and whatever the client
answers.
-/

namespace FormatServer

namespace Registrar

variable {registrar : Registrar} {traffic : List Traffic} {event : Traffic} {number : UInt64}
  {selectors : Selectors} {call : Call}

@[simp]
theorem next_forget (registrar : Registrar) : registrar.forget.next = registrar.next :=
  rfl

@[simp]
theorem current_forget (registrar : Registrar) : registrar.forget.current = none :=
  rfl

@[simp]
theorem fst_draw (registrar : Registrar) : registrar.draw.1 = registrar.next :=
  rfl

@[simp]
theorem next_draw (registrar : Registrar) : registrar.draw.2.next = registrar.next + 1 :=
  rfl

@[simp]
theorem current_draw (registrar : Registrar) : registrar.draw.2.current = registrar.current :=
  rfl

@[simp]
theorem next_keep (registrar : Registrar) (number : UInt64) :
    (registrar.keep number).next = registrar.next :=
  rfl

@[simp]
theorem current_keep (registrar : Registrar) (number : UInt64) :
    (registrar.keep number).current = some number :=
  rfl

/-- The registrar knows which number is next and which pair the client has. -/
structure Fits (registrar : Registrar) (traffic : List Traffic) : Prop where
  next : registrar.next = .ofNat (requested traffic).length
  few : (requested traffic).length ≤ UInt64.size
  numbered : (requested traffic).map Registration.revocations =
    (List.range (requested traffic).length).map fun index => Unregistration.pair (.ofNat index)
  accepted : (accepted traffic).Sublist (requested traffic)
  released : (Registrar.accepted traffic).map Registration.revocations =
    revoked traffic ++ registrar.current.toList.map Unregistration.pair
  standing : (standing? traffic).isSome = registrar.current.isSome
  orderly : IsOrderly traffic

theorem fits_initial : Fits .initial [] where
  next := rfl
  few := Nat.zero_le _
  numbered := rfl
  accepted := .slnil
  released := rfl
  standing := rfl
  orderly := isOrderly_nil

theorem ofNat_inj_of_lt {index other : Nat} (hindex : index < UInt64.size)
    (hother : other < UInt64.size) (hsame : UInt64.ofNat index = UInt64.ofNat other) :
    index = other := by
  have hnat := congrArg UInt64.toNat hsame
  rwa [UInt64.toNat_ofNat_of_lt' hindex, UInt64.toNat_ofNat_of_lt' hother] at hnat

theorem Fits.nodup_accepted (hfits : Fits registrar traffic) :
    ((Registrar.accepted traffic).map Registration.revocations).Nodup := by
  have hrequested : ((requested traffic).map Registration.revocations).Nodup := by
    rw [hfits.numbered]
    refine List.Nodup.map_on ?_ List.nodup_range
    intro index hindex other hother hsame
    rw [List.mem_range] at hindex hother
    exact ofNat_inj_of_lt (Nat.lt_of_lt_of_le hindex hfits.few)
      (Nat.lt_of_lt_of_le hother hfits.few) (Unregistration.pair_injective hsame)
  exact hrequested.sublist (hfits.accepted.map _)

/-! ### What keeps the registrar fitting -/

theorem Fits.pass (hfits : Fits registrar traffic) (hrequested : event.requested? = none)
    (haccepted : event.accepted? = none) (hrevoked : event.revoked? = none)
    (hdue : IsDue traffic event) : Fits registrar (traffic ++ [event]) where
  next := by simpa [hrequested] using hfits.next
  few := by simpa [hrequested] using hfits.few
  numbered := by simpa [hrequested] using hfits.numbered
  accepted := by simpa [hrequested, haccepted] using hfits.accepted
  released := by simpa [haccepted, hrevoked] using hfits.released
  standing := by simpa [standing?_concat, haccepted, hrevoked] using hfits.standing
  orderly := isOrderly_concat hfits.orderly hdue

theorem Fits.isDue_unregister (hfits : Fits registrar traffic)
    (hcurrent : registrar.current = some number) :
    IsDue traffic (.sent (.unregister (Unregistration.pair number))) := by
  have hreleased := hfits.released
  rw [hcurrent, Option.toList_some, List.map_singleton] at hreleased
  constructor
  · rw [← List.getLast?_map, hreleased, List.getLast?_concat]
  · -- The pair stands at the end of the accepted ones, which are all different.
    have hnodup := hfits.nodup_accepted
    rw [hreleased] at hnodup
    intro hmem
    exact (List.nodup_append.mp hnodup).2.2 _ hmem _ (List.mem_singleton_self _) rfl

/-- The pair that the client has is given up. -/
theorem Fits.unregister (hfits : Fits registrar traffic)
    (hcurrent : registrar.current = some number) :
    Fits registrar.forget (traffic ++ [.sent (.unregister (Unregistration.pair number))]) where
  next := by simpa [Traffic.requested?] using hfits.next
  few := by simpa [Traffic.requested?] using hfits.few
  numbered := by simpa [Traffic.requested?] using hfits.numbered
  accepted := by simpa [Traffic.requested?, Traffic.accepted?] using hfits.accepted
  released := by
    have hreleased := hfits.released
    rw [hcurrent, Option.toList_some, List.map_singleton] at hreleased
    simpa [Traffic.accepted?, Traffic.revoked?] using hreleased
  standing := by
    rw [standing?_concat]
    rfl
  orderly := isOrderly_concat hfits.orderly (hfits.isDue_unregister hcurrent)

theorem Fits.isDue_register (hfits : Fits registrar traffic) (hcurrent : registrar.current = none)
    (hroom : (requested traffic).length < UInt64.size) (selectors : Selectors) :
    IsDue traffic (.sent (.register (Registration.pair registrar.next selectors))) := by
  refine ⟨⟨_, _, rfl⟩, fun earlier hearlier => ?_, fun pair hpair => ?_⟩
  · have hmem := List.mem_map_of_mem (f := Registration.revocations) hearlier
    rw [hfits.numbered] at hmem
    obtain ⟨index, hindex, hsame⟩ := List.mem_map.mp hmem
    rw [List.mem_range] at hindex
    have hne : UInt64.ofNat index ≠ registrar.next := by
      intro heq
      rw [hfits.next] at heq
      exact Nat.ne_of_lt hindex (ofNat_inj_of_lt (Nat.lt_trans hindex hroom) hroom heq)
    rw [← Registration.map_id_revocations, ← Registration.map_id_revocations, ← hsame,
      Registration.revocations_pair]
    exact Unregistration.disjoint_ids hne
  · have hmem := List.mem_map_of_mem (f := Registration.revocations) hpair
    rw [hfits.released, hcurrent] at hmem
    simpa using hmem

/-- A new pair is asked for when there is no other. -/
theorem Fits.register (hfits : Fits registrar traffic) (hcurrent : registrar.current = none)
    (hroom : (requested traffic).length < UInt64.size) (selectors : Selectors) :
    Fits registrar.draw.2
      (traffic ++ [.sent (.register (Registration.pair registrar.draw.1 selectors))]) where
  next := by simp [Traffic.requested?, hfits.next]
  few := by simpa [Traffic.requested?] using Nat.succ_le_of_lt hroom
  numbered := by
    simp [Traffic.requested?, List.range_succ, hfits.numbered, Registration.revocations_pair,
      hfits.next]
  accepted := by
    have hlonger := List.sublist_append_left (requested traffic)
      [Registration.pair registrar.draw.1 selectors]
    simpa [Traffic.requested?, Traffic.accepted?] using hfits.accepted.trans hlonger
  released := by simpa [Traffic.accepted?, Traffic.revoked?] using hfits.released
  standing := by
    rw [standing?_concat]
    exact hfits.standing
  orderly := isOrderly_concat hfits.orderly (hfits.isDue_register hcurrent hroom selectors)

/-- The client accepts the pair that it was asked for last. -/
theorem Fits.accept {earlier : List Traffic} {selectors : Selectors}
    (hfits : Fits registrar traffic) (hcurrent : registrar.current = none)
    (htraffic : traffic = earlier ++ [.sent (.register (Registration.pair number selectors))])
    (hearlier : (Registrar.accepted earlier).Sublist (requested earlier)) :
    Fits (registrar.keep number)
      (traffic ++ [.answered (.register (Registration.pair number selectors)) none]) where
  next := by simpa [Traffic.requested?] using hfits.next
  few := by simpa [Traffic.requested?] using hfits.few
  numbered := by simpa [Traffic.requested?] using hfits.numbered
  accepted := by
    have hlonger := hearlier.append (List.Sublist.refl [Registration.pair number selectors])
    simpa [Traffic.requested?, Traffic.accepted?, htraffic] using hlonger
  released := by
    have hreleased := hfits.released
    rw [hcurrent, Option.toList_none, List.map_nil, List.append_nil] at hreleased
    simp [Traffic.accepted?, Traffic.revoked?, hreleased, Registration.revocations_pair]
  standing := by
    rw [standing?_concat]
    rfl
  orderly := by
    refine isOrderly_concat hfits.orderly ?_
    change traffic.getLast? = _
    rw [htraffic, List.getLast?_concat]

/-- A pair that the client refuses leaves no other pair behind. -/
theorem Fits.current_of_refused (hfits : Fits registrar traffic) {before : List Traffic}
    {items : List Registration} {reason : String}
    (htraffic : traffic = before ++ [.answered (.register items) (some reason)]) :
    registrar.current = none := by
  cases hcurrent : registrar.current with
  | none => rfl
  | some number =>
    exfalso
    have hlast : before.getLast? = some (.sent (.register items)) := hfits.orderly _ _ _ htraffic
    obtain ⟨earlier, rfl⟩ := List.getLast?_eq_some_iff.mp hlast
    have haccepted : Registrar.accepted traffic = Registrar.accepted earlier := by
      simp [htraffic, Traffic.accepted?]
    have hrevoked : revoked traffic = revoked earlier := by
      simp [htraffic, Traffic.revoked?]
    rw [List.append_assoc] at htraffic
    obtain ⟨-, -, hgivenUp⟩ : IsDue earlier (.sent (.register items)) :=
      hfits.orderly _ _ _ htraffic
    -- The pair was given up before this one was asked for, so it could not be given up again.
    have hmem : Unregistration.pair number ∈
        (Registrar.accepted traffic).map Registration.revocations := by
      rw [hfits.released, hcurrent]
      simp
    obtain ⟨pair, hpair, hsame⟩ := List.mem_map.mp hmem
    rw [haccepted] at hpair
    apply (hfits.isDue_unregister hcurrent).2
    rw [← hsame, hrevoked]
    exact hgivenUp pair hpair

/-! ### Calls -/

/-- What a call that has the lock waits for. -/
def Awaits (registrar : Registrar) (traffic : List Traffic) : Stage → Prop
  | .releasing number _ =>
    registrar.current = none ∧
      traffic.getLast? = some (.sent (.unregister (Unregistration.pair number)))
  | .registering number selectors =>
    registrar.current = none ∧
      ∃ earlier, traffic = earlier ++ [.sent (.register (Registration.pair number selectors))] ∧
        (accepted earlier).Sublist (requested earlier)
  | .waiting _ | .ended _ => True

/-- A call leaves the registrar fitting. -/
structure Stretch.IsSound (traffic : List Traffic) (stretch : Stretch) : Prop where
  fits : Fits stretch.registrar (traffic ++ stretch.traffic)
  awaits : Awaits stretch.registrar (traffic ++ stretch.traffic) stretch.stage

theorem Fits.isSound_proceed (hfits : Fits registrar traffic) (hcurrent : registrar.current = none)
    (hroom : (requested traffic).length < UInt64.size) (call : Call) :
    (registrar.proceed call).IsSound traffic := by
  cases call with
  | dispose =>
    refine ⟨?_, trivial⟩
    change Fits registrar (traffic ++ [])
    rwa [List.append_nil]
  | replace selectors =>
    exact ⟨hfits.register hcurrent hroom selectors, hcurrent, traffic, rfl, hfits.accepted⟩

theorem Fits.isSound_enter (hfits : Fits registrar traffic)
    (hroom : (requested traffic).length < UInt64.size) (call : Call) :
    (registrar.enter call).IsSound traffic := by
  rw [enter]
  cases hcurrent : registrar.current with
  | none => exact hfits.isSound_proceed hcurrent hroom call
  | some number => exact ⟨hfits.unregister hcurrent, rfl, List.getLast?_concat⟩

theorem Fits.isSound_release (hfits : Fits registrar traffic)
    (hawaits : Awaits registrar traffic (.releasing number call))
    (hroom : (requested traffic).length < UInt64.size) (failure : Option String) :
    (registrar.release number call failure).IsSound traffic := by
  obtain ⟨hcurrent, hlast⟩ := hawaits
  let answer := Traffic.answered (.unregister (Unregistration.pair number)) failure
  let remarks := failure.toList.map fun reason => Traffic.logged (releaseFailure number reason)
  have hremarked : Fits registrar (traffic ++ answer :: remarks) ∧
      requested (traffic ++ answer :: remarks) = requested traffic := by
    have hanswered : Fits registrar (traffic ++ [answer]) := hfits.pass rfl rfl rfl hlast
    cases failure with
    | none => exact ⟨hanswered, by simp [answer, remarks, Traffic.requested?]⟩
    | some reason =>
      have hlogged : Fits registrar
          (traffic ++ [answer] ++ [.logged (releaseFailure number reason)]) :=
        hanswered.pass rfl rfl rfl trivial
      rw [List.append_assoc] at hlogged
      exact ⟨hlogged, by simp [answer, remarks, Traffic.requested?]⟩
  obtain ⟨hfitsAfter, hsame⟩ := hremarked
  rw [← hsame] at hroom
  obtain ⟨hproceeded, hawaiting⟩ := hfitsAfter.isSound_proceed hcurrent hroom call
  rw [List.append_assoc] at hproceeded hawaiting
  exact ⟨hproceeded, hawaiting⟩

theorem Fits.isSound_settle (hfits : Fits registrar traffic)
    (hawaits : Awaits registrar traffic (.registering number selectors))
    (failure : Option String) :
    (registrar.settle number selectors failure).IsSound traffic := by
  obtain ⟨hcurrent, earlier, htraffic, hearlier⟩ := hawaits
  cases failure with
  | none => exact ⟨hfits.accept hcurrent htraffic hearlier, trivial⟩
  | some reason =>
    refine ⟨hfits.pass rfl rfl rfl ?_, trivial⟩
    change traffic.getLast? = _
    rw [htraffic, List.getLast?_concat]

end Registrar

open Registrar

namespace SharedRegistrar

variable {shared next : SharedRegistrar} {calls : List Call}

/-- Whether the call may still ask the client to accept a pair. -/
def mayAsk : Stage → Bool
  | .waiting _ | .releasing _ _ => true
  | .registering _ _ | .ended _ => false

/-- Only the call that has the lock is inside, and the registrar fits the traffic. -/
structure IsSound (shared : SharedRegistrar) : Prop where
  fits : Fits shared.registrar shared.traffic
  exclusive : ∀ index stage, shared.stages[index]? = some stage →
    (stage.isInside = true ↔ shared.holder = some index)
  awaits : ∀ index stage, shared.stages[index]? = some stage →
    shared.holder = some index → Awaits shared.registrar shared.traffic stage
  counted : (requested shared.traffic).length + shared.stages.countP mayAsk ≤ shared.stages.length
  few : shared.stages.length ≤ UInt64.size

theorem isSound_initial (hfew : calls.length ≤ UInt64.size) : (initial calls).IsSound where
  fits := fits_initial
  exclusive := by
    intro index stage hstage
    obtain ⟨call, -, rfl⟩ := List.mem_map.mp (List.mem_of_getElem? hstage)
    simp [initial, Stage.isInside]
  awaits := by
    intro index stage hstage hholder
    simp [initial] at hholder
  counted := by
    have hcount := List.countP_le_length (p := mayAsk) (l := (initial calls).stages)
    simpa [initial, requested] using hcount
  few := by simpa [initial] using hfew

theorem IsSound.hasRoom (hsound : shared.IsSound) {index : Nat} {stage : Stage}
    (hstage : shared.stages[index]? = some stage) (hasks : mayAsk stage = true) :
    (requested shared.traffic).length < UInt64.size := by
  have hpositive : 0 < shared.stages.countP mayAsk :=
    List.countP_pos_iff.mpr ⟨stage, List.mem_of_getElem? hstage, hasks⟩
  have hcounted := hsound.counted
  have hfew := hsound.few
  omega

section

variable {index other : Nat} {stage found : Stage} {stretch : Stretch}

theorem getElem?_stages_after (hindex : index < shared.stages.length) (stretch : Stretch) :
    (shared.after index stretch).stages[index]? = some stretch.stage :=
  List.getElem?_set_self hindex

theorem getElem?_stages_after_ne (hne : index ≠ other) (stretch : Stretch) :
    (shared.after index stretch).stages[other]? = shared.stages[other]? :=
  List.getElem?_set_ne hne

theorem holder_after_eq_some_iff :
    (shared.after index stretch).holder = some other ↔
      stretch.stage.isInside = true ∧ index = other := by
  rw [SharedRegistrar.after]
  cases stretch.stage.isInside <;> simp

theorem holder_after_eq_none_iff :
    (shared.after index stretch).holder = none ↔ stretch.stage.isInside = false := by
  rw [SharedRegistrar.after]
  cases stretch.stage.isInside <;> simp

/-- The call that has the lock after it has run is that one. -/
theorem eq_stage_of_holder_after (hindex : index < shared.stages.length)
    (hfound : (shared.after index stretch).stages[other]? = some found)
    (hholder : (shared.after index stretch).holder = some other) : found = stretch.stage := by
  obtain ⟨-, rfl⟩ := holder_after_eq_some_iff.mp hholder
  rw [getElem?_stages_after hindex] at hfound
  exact (Option.some.inj hfound).symm

theorem exclusive_after
    (hexclusive : ∀ index stage, shared.stages[index]? = some stage →
      (stage.isInside = true ↔ shared.holder = some index))
    (hindex : index < shared.stages.length)
    (hturn : shared.holder = none ∨ shared.holder = some index)
    (hfound : (shared.after index stretch).stages[other]? = some found) :
    found.isInside = true ↔ (shared.after index stretch).holder = some other := by
  rw [holder_after_eq_some_iff]
  by_cases hother : index = other
  · subst hother
    rw [getElem?_stages_after hindex] at hfound
    obtain rfl := Option.some.inj hfound
    simp
  · rw [getElem?_stages_after_ne hother] at hfound
    have hout : shared.holder ≠ some other := by
      rcases hturn with hnone | hsome
      · simp [hnone]
      · simp [hsome, hother]
    exact iff_of_false ((hexclusive other found hfound).not.mpr hout) fun h => hother h.2

/-- A call that has asked counts as one request instead. -/
theorem counted_after (hsound : shared.IsSound) (hstage : shared.stages[index]? = some stage)
    (hasks : (requested stretch.traffic).length + (if mayAsk stretch.stage then 1 else 0) ≤
      if mayAsk stage then 1 else 0) :
    (requested (shared.traffic ++ stretch.traffic)).length +
        (shared.stages.set index stretch.stage).countP mayAsk ≤
      (shared.stages.set index stretch.stage).length := by
  obtain ⟨hindex, hget⟩ := List.getElem?_eq_some_iff.mp hstage
  have hcounted := hsound.counted
  have hone : (if mayAsk stage = true then 1 else 0) ≤ shared.stages.countP mayAsk := by
    split
    next hyes => exact List.countP_pos_iff.mpr ⟨stage, List.mem_of_getElem? hstage, hyes⟩
    next => exact Nat.zero_le _
  rw [requested_append, List.length_append, List.length_set, List.countP_set hindex, hget]
  omega

/-- A call runs while no other one is inside. -/
theorem IsSound.after (hsound : shared.IsSound) (hstage : shared.stages[index]? = some stage)
    (hturn : shared.holder = none ∨ shared.holder = some index)
    (hstretch : stretch.IsSound shared.traffic)
    (hasks : (requested stretch.traffic).length + (if mayAsk stretch.stage then 1 else 0) ≤
      if mayAsk stage then 1 else 0) : (shared.after index stretch).IsSound where
  fits := hstretch.fits
  exclusive := by
    intro other found hfound
    have hindex := (List.getElem?_eq_some_iff.mp hstage).1
    exact exclusive_after hsound.exclusive hindex hturn hfound
  awaits := by
    intro other found hfound hholder
    have hindex := (List.getElem?_eq_some_iff.mp hstage).1
    rw [eq_stage_of_holder_after hindex hfound hholder]
    exact hstretch.awaits
  counted := counted_after hsound hstage hasks
  few := by
    change (shared.stages.set index stretch.stage).length ≤ _
    rw [List.length_set]
    exact hsound.few

end

/-- A call asks at most once, and not again. -/
theorem requested_proceed_le (registrar : Registrar) (call : Call) :
    (requested (registrar.proceed call).traffic).length +
      (if mayAsk (registrar.proceed call).stage then 1 else 0) ≤ 1 := by
  cases call with
  | dispose => exact Nat.zero_le 1
  | replace selectors => exact Nat.le_refl 1

theorem requested_enter_le (registrar : Registrar) (call : Call) :
    (requested (registrar.enter call).traffic).length +
      (if mayAsk (registrar.enter call).stage then 1 else 0) ≤ 1 := by
  rw [enter]
  cases registrar.current with
  | none => exact requested_proceed_le registrar call
  | some number => exact Nat.le_refl 1

theorem requested_release_le (registrar : Registrar) (number : UInt64) (call : Call)
    (failure : Option String) :
    (requested (registrar.release number call failure).traffic).length +
      (if mayAsk (registrar.release number call failure).stage then 1 else 0) ≤ 1 := by
  have hsame : requested (registrar.release number call failure).traffic =
      requested (registrar.proceed call).traffic := by
    cases failure <;> rfl
  rw [hsame]
  exact requested_proceed_le registrar call

theorem IsSound.step (hsound : shared.IsSound) (hstep : shared.Step next) : next.IsSound := by
  cases hstep with
  | enter hfree hstage =>
    have hroom := hsound.hasRoom hstage rfl
    exact hsound.after hstage (.inl hfree) (hsound.fits.isSound_enter hroom _)
      (requested_enter_le _ _)
  | release hstage failure =>
    -- The call that is answered is the one with the lock, so nothing passed since it asked.
    have hholder := (hsound.exclusive _ _ hstage).mp rfl
    have hroom := hsound.hasRoom hstage rfl
    have hawaits := hsound.awaits _ _ hstage hholder
    exact hsound.after hstage (.inr hholder) (hsound.fits.isSound_release hawaits hroom failure)
      (requested_release_le _ _ _ failure)
  | settle hstage failure =>
    have hholder := (hsound.exclusive _ _ hstage).mp rfl
    have hawaits := hsound.awaits _ _ hstage hholder
    refine hsound.after hstage (.inr hholder) (hsound.fits.isSound_settle hawaits failure) ?_
    cases failure <;> exact Nat.le_refl 0

/-- What may come of a shared registrar. -/
def Reaches : SharedRegistrar → SharedRegistrar → Prop :=
  Relation.ReflTransGen Step

theorem isSound_of_reaches (hfew : calls.length ≤ UInt64.size)
    (hreaches : (initial calls).Reaches shared) : shared.IsSound := by
  induction hreaches with
  | refl => exact isSound_initial hfew
  | tail _ hstep ih => exact ih.step hstep

end SharedRegistrar

end FormatServer
