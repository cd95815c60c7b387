import FormatServer.Server.SharedRegistrar
import Mathlib.Data.List.Induction

/-!
# Requests in order

A client has to be able to tell one pair of registrations from every other one, and must not be
asked to give up a pair that it does not have, nor to accept a pair beside another one. Each of
these is told of a request and of what passed before it, so traffic is in order if every part of it
is due after the parts before.
-/

namespace FormatServer

namespace Registration

/-- What takes the registration back. -/
def revocation (registration : Registration) : Unregistration :=
  ⟨registration.id, registration.method⟩

def revocations (items : List Registration) : List Unregistration :=
  items.map revocation

theorem revocations_pair (number : UInt64) (selectors : Selectors) :
    revocations (pair number selectors) = Unregistration.pair number :=
  rfl

theorem map_id_revocations (items : List Registration) :
    (revocations items).map Unregistration.id = items.map id := by
  rw [revocations, List.map_map]
  rfl

theorem toString_injective : Function.Injective fun number : UInt64 => toString number := by
  intro number other hsame
  have hdigits : Nat.toDigits 10 number.toNat = Nat.toDigits 10 other.toNat := by
    rw [← Nat.toList_repr, ← Nat.toList_repr]
    exact congrArg String.toList hsame
  apply UInt64.toNat_inj.mp
  calc
    number.toNat = Nat.ofDigitChars 10 (Nat.toDigits 10 number.toNat) 0 :=
      Nat.ofDigitChars_ten_toDigits.symm
    _ = Nat.ofDigitChars 10 (Nat.toDigits 10 other.toNat) 0 := by rw [hdigits]
    _ = other.toNat := Nat.ofDigitChars_ten_toDigits

theorem fullId_injective : Function.Injective fullId := by
  intro number other hsame
  exact toString_injective (String.append_right_inj _ |>.mp hsame)

theorem rangeId_injective : Function.Injective rangeId := by
  intro number other hsame
  exact toString_injective (String.append_right_inj _ |>.mp hsame)

/-- The ids part after the word that they begin with. -/
theorem fullId_ne_rangeId (number other : UInt64) : fullId number ≠ rangeId other := by
  intro hsame
  have hlists : "prettier-format-".toList ++ (toString number).toList =
      "prettier-range-format-".toList ++ (toString other).toList := by
    rw [← String.toList_append, ← String.toList_append]
    exact congrArg String.toList hsame
  have hfull : "prettier-format-".toList = "prettier-".toList ++ "format-".toList := by
    decide +kernel
  have hrange : "prettier-range-format-".toList =
      "prettier-".toList ++ "range-format-".toList := by
    decide +kernel
  rw [hfull, hrange, List.append_assoc, List.append_assoc] at hlists
  have hfirst := congrArg List.head? (List.append_cancel_left hlists)
  simp at hfirst

end Registration

theorem Unregistration.pair_injective : Function.Injective pair := by
  intro number other hsame
  simp only [pair, List.cons.injEq, Unregistration.mk.injEq] at hsame
  exact Registration.fullId_injective hsame.1.1

/-- Pairs with different numbers have no id in common. -/
theorem Unregistration.disjoint_ids {number other : UInt64} (hne : number ≠ other) :
    List.Disjoint ((pair number).map Unregistration.id) ((pair other).map Unregistration.id) := by
  have hfull := Registration.fullId_injective.ne hne
  have hrange := Registration.rangeId_injective.ne hne
  have hcross := Registration.fullId_ne_rangeId number other
  have hback := (Registration.fullId_ne_rangeId other number).symm
  intro id hid hother
  simp only [pair, List.map_cons, List.map_nil, List.mem_cons, List.not_mem_nil, or_false]
    at hid hother
  rcases hid with rfl | rfl
  · exact hother.elim hfull hcross
  · exact hother.elim hback hrange

namespace Registrar

namespace Traffic

/-- The registrations that the client is asked to accept. -/
def requested? : Traffic → Option (List Registration)
  | sent (.register items) => some items
  | _ => none

def accepted? : Traffic → Option (List Registration)
  | answered (.register items) none => some items
  | _ => none

/-- The registrations that the client is asked to give up. -/
def revoked? : Traffic → Option (List Unregistration)
  | sent (.unregister items) => some items
  | _ => none

theorem eq_answered_of_accepted? {event : Traffic} {items : List Registration}
    (haccepted : event.accepted? = some items) : event = .answered (.register items) none := by
  cases event with
  | sent request => simp [accepted?] at haccepted
  | logged line => simp [accepted?] at haccepted
  | answered request failure =>
    cases request with
    | unregister items => simp [accepted?] at haccepted
    | register items =>
      cases failure with
      | some reason => simp [accepted?] at haccepted
      | none => rw [Option.some.inj haccepted]

end Traffic

variable {traffic before : List Traffic} {event : Traffic}

def requested (traffic : List Traffic) : List (List Registration) :=
  traffic.filterMap Traffic.requested?

def accepted (traffic : List Traffic) : List (List Registration) :=
  traffic.filterMap Traffic.accepted?

def revoked (traffic : List Traffic) : List (List Unregistration) :=
  traffic.filterMap Traffic.revoked?

@[simp]
theorem requested_nil : requested [] = [] :=
  rfl

@[simp]
theorem requested_cons (event : Traffic) (rest : List Traffic) :
    requested (event :: rest) = event.requested?.toList ++ requested rest := by
  cases hevent : event.requested? <;> simp [requested, hevent]

@[simp]
theorem requested_append (traffic more : List Traffic) :
    requested (traffic ++ more) = requested traffic ++ requested more :=
  List.filterMap_append

@[simp]
theorem accepted_nil : accepted [] = [] :=
  rfl

@[simp]
theorem accepted_cons (event : Traffic) (rest : List Traffic) :
    accepted (event :: rest) = event.accepted?.toList ++ accepted rest := by
  cases hevent : event.accepted? <;> simp [accepted, hevent]

@[simp]
theorem accepted_append (traffic more : List Traffic) :
    accepted (traffic ++ more) = accepted traffic ++ accepted more :=
  List.filterMap_append

@[simp]
theorem revoked_nil : revoked [] = [] :=
  rfl

@[simp]
theorem revoked_cons (event : Traffic) (rest : List Traffic) :
    revoked (event :: rest) = event.revoked?.toList ++ revoked rest := by
  cases hevent : event.revoked? <;> simp [revoked, hevent]

@[simp]
theorem revoked_append (traffic more : List Traffic) :
    revoked (traffic ++ more) = revoked traffic ++ revoked more :=
  List.filterMap_append

/-- Whether this may come next. A pair that is to be accepted has ids that no earlier one had, and
all accepted pairs were given up before. A pair that is to be given up is the one accepted last, and
was not given up before. An answer is to the request just before it. -/
def IsDue (before : List Traffic) : Traffic → Prop
  | .sent (.register items) =>
    (∃ number selectors, items = Registration.pair number selectors) ∧
      (∀ earlier ∈ requested before,
        List.Disjoint (earlier.map Registration.id) (items.map Registration.id)) ∧
      ∀ pair ∈ accepted before, Registration.revocations pair ∈ revoked before
  | .sent (.unregister items) =>
    (accepted before).getLast?.map Registration.revocations = some items ∧
      items ∉ revoked before
  | .answered request _ => before.getLast? = some (.sent request)
  | .logged _ => True

def IsOrderly (traffic : List Traffic) : Prop :=
  ∀ before event after, traffic = before ++ event :: after → IsDue before event

theorem isOrderly_nil : IsOrderly [] := by
  intro before event after hsplit
  simp at hsplit

theorem isOrderly_concat (horderly : IsOrderly traffic) (hdue : IsDue traffic event) :
    IsOrderly (traffic ++ [event]) := by
  intro before other after hsplit
  rcases List.eq_nil_or_concat after with rfl | ⟨rest, last, rfl⟩
  · obtain ⟨rfl, hlast⟩ := List.append_inj' hsplit rfl
    obtain rfl := List.singleton_inj.mp hlast
    exact hdue
  · have hinit : traffic ++ [event] = (before ++ other :: rest) ++ [last] := by simpa using hsplit
    exact horderly _ _ _ (List.append_inj' hinit rfl).1

/-! ### The pair that stands -/

/-- The pair that the client accepted last, unless it was asked to give up a pair since. -/
def standing? (traffic : List Traffic) : Option (List Registration) :=
  traffic.foldl (fun standing event =>
    match event with
    | .answered (.register items) none => some items
    | .sent (.unregister _) => none
    | _ => standing) none

/-- The last acceptance has not been followed by a request to give up a pair. -/
def HasStanding (traffic : List Traffic) : Prop :=
  ∃ before items after, traffic = before ++ .answered (.register items) none :: after ∧
    accepted after = [] ∧ revoked after = []

/-- Every other part of the traffic leaves the pair alone. -/
theorem standing?_concat (traffic : List Traffic) (event : Traffic) :
    standing? (traffic ++ [event]) =
      if event.revoked?.isSome then none else event.accepted?.or (standing? traffic) := by
  rw [standing?, List.foldl_append]
  cases event with
  | sent request => cases request <;> rfl
  | answered request failure =>
    cases request with
    | register items => cases failure <;> rfl
    | unregister items => cases failure <;> rfl
  | logged line => rfl

theorem hasStanding_iff : HasStanding traffic ↔ (standing? traffic).isSome = true := by
  constructor
  · rintro ⟨before, items, after, rfl, haccepted, hrevoked⟩
    induction after using List.reverseRecOn with
    | nil =>
      rw [standing?_concat]
      rfl
    | append_singleton rest event ih =>
      obtain ⟨hbefore, hnone⟩ : accepted rest = [] ∧ event.accepted? = none := by
        simpa using haccepted
      obtain ⟨hkeptBefore, hkept⟩ : revoked rest = [] ∧ event.revoked? = none := by
        simpa using hrevoked
      rw [← List.cons_append, ← List.append_assoc, standing?_concat, hnone, hkept]
      exact ih hbefore hkeptBefore
  · intro hstanding
    induction traffic using List.reverseRecOn with
    | nil => simp [standing?] at hstanding
    | append_singleton rest event ih =>
      rw [standing?_concat] at hstanding
      cases hrevoked : event.revoked? with
      | some items => simp [hrevoked] at hstanding
      | none =>
        cases haccepted : event.accepted? with
        | some items =>
          obtain rfl := Traffic.eq_answered_of_accepted? haccepted
          exact ⟨rest, items, [], rfl, rfl, rfl⟩
        | none =>
          rw [hrevoked, haccepted] at hstanding
          obtain ⟨before, items, after, rfl, hnone, hkept⟩ := ih hstanding
          exact ⟨before, items, after ++ [event], by simp, by simp [hnone, haccepted],
            by simp [hkept, hrevoked]⟩

end Registrar

end FormatServer
