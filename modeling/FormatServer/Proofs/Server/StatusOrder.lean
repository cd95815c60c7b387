import FormatServer.Server.Notifier
import Mathlib.Data.List.Perm.Basic
import Mathlib.Logic.Relation

/-!
# The order of statuses

Every status that is reported is sent once, but by a task of its own, and nothing ties the tasks
together. So the statuses of several runs may be sent in any order whatever, and the last one that
the client gets may be that of any run. They are sent as they were reported if the tasks go on in
turn, as they do where one run is over before the next one begins. Then the client gets just what a
session that handles one message after the other sends.
-/

namespace FormatServer

def Message.status? : Message → Option Status
  | status value => some value
  | _ => none

namespace Notifier

def reported (notifier : Notifier) : List Status :=
  notifier.events.filterMap Event.status?

def sentStatuses (notifier : Notifier) : List Status :=
  notifier.sent.filterMap Message.status?

/-- No task has anything more to send. -/
def IsDone (notifier : Notifier) : Prop :=
  ∀ task ∈ notifier.tasks, task = []

/-- What may come of a notifier, whichever tasks go on. -/
def Reaches : Notifier → Notifier → Prop :=
  Relation.ReflTransGen (Step fun _ => True)

/-- What may come of it if no task goes on before those that were started before it are done. -/
def ReachesInTurn : Notifier → Notifier → Prop :=
  Relation.ReflTransGen (Step fun before => ∀ task ∈ before, task = [])

variable {notifier next : Notifier} {mayPass : List (List Message) → Prop}

/-! ### What is sent -/

theorem statuses_messages (event : Event) :
    event.messages.filterMap Message.status? = event.status?.toList := by
  cases event with
  | status value => cases value <;> rfl
  | asked | warned | logged => rfl

theorem statuses_flatMap_messages (events : List Event) :
    (events.flatMap Event.messages).filterMap Message.status? =
      events.filterMap Event.status? := by
  induction events with
  | nil => rfl
  | cons event rest ih =>
    rw [List.flatMap_cons, List.filterMap_append, ih, statuses_messages]
    cases hstatus : event.status? with
    | none => rw [List.filterMap_cons_none hstatus]; rfl
    | some status => rw [List.filterMap_cons_some hstatus]; rfl

theorem flatten_eq_nil (hdone : notifier.IsDone) : notifier.tasks.flatten = [] :=
  List.flatten_eq_nil_iff.mpr hdone

/-- A call starts a task for one event, or none. -/
theorem take_cases (notifier : Notifier) (call : Call) :
    ∃ ledger, notifier.take call = { notifier with ledger } ∨
      ∃ event, notifier.take call = { notifier with ledger }.spawn event := by
  cases call with
  | updateStatus status => exact ⟨notifier.ledger, .inr ⟨.status status, rfl⟩⟩
  | dispose => exact ⟨.empty, .inl rfl⟩
  | warnOnce key message =>
    rw [Notifier.take]
    split
    next ledger _ => exact ⟨ledger, .inr ⟨.warned key message, rfl⟩⟩
    next => exact ⟨notifier.ledger, .inl rfl⟩

/-- What was sent and what is yet to be sent are the messages of all events. -/
theorem Step.perm (hstep : Step mayPass notifier next)
    (hperm : (notifier.sent ++ notifier.tasks.flatten).Perm
      (notifier.events.flatMap Event.messages)) :
    (next.sent ++ next.tasks.flatten).Perm (next.events.flatMap Event.messages) := by
  cases hstep with
  | take call =>
    obtain ⟨ledger, hkept | ⟨event, hspawned⟩⟩ := take_cases notifier call
    · rw [hkept]
      exact hperm
    · rw [hspawned]
      simpa [spawn] using hperm.append_right event.messages
  | @send before after message rest htasks hpass =>
    have hearlier : (message :: (before.flatten ++ (rest ++ after.flatten))).Perm
        (before.flatten ++ message :: (rest ++ after.flatten)) := List.perm_middle.symm
    rw [htasks] at hperm
    refine .trans ?_ hperm
    simpa using hearlier.append_left notifier.sent

theorem perm_of_reaches (hreaches : initial.Reaches notifier) :
    (notifier.sent ++ notifier.tasks.flatten).Perm
      (notifier.events.flatMap Event.messages) := by
  induction hreaches with
  | refl => exact .nil
  | tail _ hstep ih => exact hstep.perm ih

/-- In turn, what is yet to be sent comes in the order of the events. -/
theorem Step.inTurn (hstep : Step (fun before => ∀ task ∈ before, task = []) notifier next)
    (hsent : notifier.sent ++ notifier.tasks.flatten = notifier.events.flatMap Event.messages) :
    next.sent ++ next.tasks.flatten = next.events.flatMap Event.messages := by
  cases hstep with
  | take call =>
    obtain ⟨ledger, hkept | ⟨event, hspawned⟩⟩ := take_cases notifier call
    · rw [hkept]
      exact hsent
    · rw [hspawned]
      simp [spawn, ← hsent]
  | @send before after message rest htasks hpass =>
    have hbefore : before.flatten = [] := List.flatten_eq_nil_iff.mpr hpass
    rw [← hsent, htasks]
    simp [hbefore]

theorem sent_append_of_reachesInTurn (hreaches : initial.ReachesInTurn notifier) :
    notifier.sent ++ notifier.tasks.flatten = notifier.events.flatMap Event.messages := by
  induction hreaches with
  | refl => rfl
  | tail _ hstep ih => exact hstep.inTurn ih

/-! ### What can be sent -/

/-- The notifier after these statuses were reported, with no task having gone on. -/
def report (notifier : Notifier) (statuses : List Status) : Notifier :=
  statuses.foldl (fun notifier status => notifier.take (.updateStatus status)) notifier

theorem reaches_report (notifier : Notifier) (statuses : List Status) :
    notifier.Reaches (notifier.report statuses) := by
  induction statuses generalizing notifier with
  | nil => exact .refl
  | cons status rest ih => exact .head (.take (.updateStatus status)) (ih _)

theorem report_eq (notifier : Notifier) (statuses : List Status) :
    notifier.report statuses =
      { notifier with
        events := notifier.events ++ statuses.map .status
        tasks := notifier.tasks ++ statuses.map fun status => (Event.status status).messages } := by
  induction statuses generalizing notifier with
  | nil => simp [report]
  | cons status rest ih =>
    rw [report, List.foldl_cons, ← report, ih]
    simp [Notifier.take, spawn]

/-- A task can send all that it has to send before any other goes on. -/
theorem reaches_of_task {before after : List (List Message)} {task : List Message}
    (htasks : notifier.tasks = before ++ task :: after) :
    notifier.Reaches { notifier with
      tasks := before ++ [] :: after
      sent := notifier.sent ++ task } := by
  induction task generalizing notifier with
  | nil =>
    rw [← htasks, List.append_nil]
    exact .refl
  | cons message rest ih =>
    let next : Notifier := { notifier with
      tasks := before ++ rest :: after
      sent := notifier.sent ++ [message] }
    have hrest : next.Reaches { notifier with
        tasks := before ++ [] :: after
        sent := notifier.sent ++ message :: rest } := by
      simpa [next] using @ih next rfl
    exact .head (.send htasks trivial) hrest

theorem messages_status_ne_nil (status : Status) : (Event.status status).messages ≠ [] := by
  cases status <;> exact List.cons_ne_nil _ _

/-- The tasks of statuses can go on in any order. -/
theorem exists_done_of_perm {order : List Status}
    (hperm : (order.map fun status => (Event.status status).messages).Perm
      (notifier.tasks.filter (· ≠ []))) :
    ∃ last, notifier.Reaches last ∧ last.IsDone ∧ last.events = notifier.events ∧
      last.sentStatuses = notifier.sentStatuses ++ order := by
  induction order generalizing notifier with
  | nil =>
    have hnone : notifier.tasks.filter (· ≠ []) = [] := hperm.symm.eq_nil
    refine ⟨notifier, .refl, fun task htask => ?_, rfl, (List.append_nil _).symm⟩
    simpa using List.filter_eq_nil_iff.mp hnone task htask
  | cons status rest ih =>
    have hmem : (Event.status status).messages ∈ notifier.tasks.filter (· ≠ []) :=
      hperm.subset List.mem_cons_self
    obtain ⟨before, after, htasks⟩ := List.append_of_mem (List.mem_filter.mp hmem).1
    -- The task of the first status goes on alone; those of the others have not gone on yet.
    let sent : Notifier := { notifier with
      tasks := before ++ [] :: after
      sent := notifier.sent ++ (Event.status status).messages }
    have hrest : (rest.map fun status => (Event.status status).messages).Perm
        (sent.tasks.filter (· ≠ [])) := by
      rw [htasks, List.filter_append, List.filter_cons_of_pos
        (by simpa using messages_status_ne_nil status)] at hperm
      have hother := (List.perm_cons _).mp (hperm.trans List.perm_middle)
      simpa [sent] using hother
    obtain ⟨last, hreaches, hdone, hevents, hstatuses⟩ := ih hrest
    refine ⟨last, (reaches_of_task htasks).trans hreaches, hdone, hevents, ?_⟩
    rw [hstatuses]
    simp [sent, sentStatuses, statuses_messages, Event.status?]

/-- Whatever order the statuses are put in, they may be sent in that one. -/
theorem exists_reaches_of_perm {order statuses : List Status} (hperm : order.Perm statuses) :
    ∃ last, initial.Reaches last ∧ last.IsDone ∧ last.reported = statuses ∧
      last.sentStatuses = order := by
  have hreported := report_eq initial statuses
  have htasks : (order.map fun status => (Event.status status).messages).Perm
      ((initial.report statuses).tasks.filter (· ≠ [])) := by
    rw [hreported, List.filter_eq_self.mpr]
    · exact hperm.map _
    · intro task htask
      obtain ⟨status, -, rfl⟩ := List.mem_map.mp (by simpa [initial] using htask)
      simpa using messages_status_ne_nil status
  obtain ⟨last, hreaches, hdone, hevents, hsent⟩ := exists_done_of_perm htasks
  refine ⟨last, (reaches_report initial statuses).trans hreaches, hdone, ?_, ?_⟩
  · rw [reported, hevents, hreported]
    simp [initial, Event.status?, Function.comp_def]
  · rw [hsent, hreported]
    rfl

/-! ### The order in which statuses are sent -/

/-- Every status is sent once. -/
theorem sentStatuses_perm_reported (hreaches : initial.Reaches notifier)
    (hdone : notifier.IsDone) : notifier.sentStatuses.Perm notifier.reported := by
  have hperm := perm_of_reaches hreaches
  rw [flatten_eq_nil hdone, List.append_nil] at hperm
  have hstatuses := hperm.filterMap Message.status?
  rwa [statuses_flatMap_messages] at hstatuses

theorem exists_reaches_iff_perm (order statuses : List Status) :
    (∃ last, initial.Reaches last ∧ last.IsDone ∧ last.reported = statuses ∧
      last.sentStatuses = order) ↔ order.Perm statuses := by
  refine ⟨?_, exists_reaches_of_perm⟩
  rintro ⟨last, hreaches, hdone, rfl, rfl⟩
  exact sentStatuses_perm_reported hreaches hdone

/-- Each of the statuses may be the one that is sent last. -/
theorem exists_sent_last {statuses : List Status} {status : Status} (hmem : status ∈ statuses) :
    ∃ last, initial.Reaches last ∧ last.IsDone ∧ last.reported = statuses ∧
      last.sentStatuses.getLast? = some status := by
  have hperm : (statuses.erase status ++ [status]).Perm statuses :=
    (List.perm_append_singleton status _).trans (List.perm_cons_erase hmem).symm
  obtain ⟨last, hreaches, hdone, hreported, hsent⟩ := exists_reaches_of_perm hperm
  exact ⟨last, hreaches, hdone, hreported, by rw [hsent, List.getLast?_concat]⟩

theorem eq_of_perm_of_alike {order statuses : List Status} (hperm : order.Perm statuses)
    (halike : ∀ first ∈ statuses, ∀ second ∈ statuses, first = second) : order = statuses := by
  cases statuses with
  | nil => exact hperm.eq_nil
  | cons status rest =>
    have hreplicate : status :: rest = .replicate (rest.length + 1) status :=
      List.eq_replicate_of_mem fun other hother =>
        halike other hother status List.mem_cons_self
    rw [hreplicate] at hperm ⊢
    exact List.perm_replicate.mp hperm

/-- The last status that is sent is sure to be the one that was reported last only if all are
alike. -/
theorem alike_of_last {statuses : List Status}
    (hlast : ∀ last, initial.Reaches last → last.IsDone → last.reported = statuses →
      last.sentStatuses.getLast? = statuses.getLast?) :
    ∀ first ∈ statuses, ∀ second ∈ statuses, first = second := by
  have hany : ∀ status ∈ statuses, statuses.getLast? = some status := by
    intro status hmem
    obtain ⟨last, hreaches, hdone, hreported, hsent⟩ := exists_sent_last hmem
    rw [← hlast last hreaches hdone hreported, hsent]
  intro first hfirst second hsecond
  exact Option.some.inj ((hany first hfirst).symm.trans (hany second hsecond))

theorem sentStatuses_prefix_of_inTurn (hreaches : initial.ReachesInTurn notifier) :
    notifier.sentStatuses <+: notifier.reported := by
  have hsent := congrArg (List.filterMap Message.status?) (sent_append_of_reachesInTurn hreaches)
  rw [List.filterMap_append, statuses_flatMap_messages] at hsent
  exact ⟨_, hsent⟩

theorem sent_of_inTurn (hreaches : initial.ReachesInTurn notifier) (hdone : notifier.IsDone) :
    notifier.sent = notifier.events.flatMap Event.messages := by
  have hsent := sent_append_of_reachesInTurn hreaches
  rwa [flatten_eq_nil hdone, List.append_nil] at hsent

/-- Statuses may be sent in every order that there is of them. So it is sure that they are sent as
they were reported only if they are all alike, and so it is that the last one sent is the last one
reported. Where the tasks go on in turn both hold at all times, whatever the statuses. -/
theorem statuses_sent_in_any_order (statuses : List Status) :
    (∀ order : List Status,
      (∃ last, initial.Reaches last ∧ last.IsDone ∧ last.reported = statuses ∧
        last.sentStatuses = order) ↔ order.Perm statuses) ∧
    ((∀ last, initial.Reaches last → last.IsDone → last.reported = statuses →
        last.sentStatuses = statuses) ↔
      ∀ first ∈ statuses, ∀ second ∈ statuses, first = second) ∧
    ((∀ last, initial.Reaches last → last.IsDone → last.reported = statuses →
        last.sentStatuses.getLast? = statuses.getLast?) ↔
      ∀ first ∈ statuses, ∀ second ∈ statuses, first = second) ∧
    (∀ last, initial.ReachesInTurn last → last.reported = statuses →
      last.sentStatuses <+: statuses ∧ (last.IsDone → last.sentStatuses = statuses)) := by
  have inOrder : (∀ first ∈ statuses, ∀ second ∈ statuses, first = second) →
      ∀ last, initial.Reaches last → last.IsDone → last.reported = statuses →
        last.sentStatuses = statuses := by
    rintro halike last hreaches hdone rfl
    exact eq_of_perm_of_alike (sentStatuses_perm_reported hreaches hdone) halike
  refine ⟨fun order => exists_reaches_iff_perm order statuses, ⟨fun h => ?_, inOrder⟩,
    ⟨alike_of_last, fun halike last hreaches hdone hreported => ?_⟩, ?_⟩
  · exact alike_of_last fun last hreaches hdone hreported => by
      rw [h last hreaches hdone hreported]
  · rw [inOrder halike last hreaches hdone hreported]
  · rintro last hreaches rfl
    refine ⟨sentStatuses_prefix_of_inTurn hreaches, fun hdone => ?_⟩
    rw [sentStatuses, sent_of_inTurn hreaches hdone, statuses_flatMap_messages, reported]

/-- A success is reported and then an error, but the client gets the success last. -/
theorem success_sent_after_later_error :
    ∃ last, initial.Reaches last ∧ last.IsDone ∧ last.reported = [.success, .error] ∧
      last.sentStatuses = [.error, .success] :=
  exists_reaches_of_perm (.swap _ _ _)

end Notifier

theorem flatMap_messages_filter (events : List Event) :
    (events.filter (·.messages ≠ [])).flatMap Event.messages = events.flatMap Event.messages := by
  induction events with
  | nil => rfl
  | cons event rest ih =>
    by_cases hnone : event.messages = []
    · rw [List.filter_cons_of_neg (by simpa using hnone), List.flatMap_cons, hnone, ih]
      rfl
    · rw [List.filter_cons_of_pos (by simpa using hnone), List.flatMap_cons, ih,
        List.flatMap_cons]

/-- What a session sends of a run is what a notifier sends in turn, to which the same was
reported. -/
theorem Session.messages_format (environment : Environment) (request : Request)
    (session : Session) {notifier : Notifier}
    (hreaches : Notifier.initial.ReachesInTurn notifier) (hdone : notifier.IsDone)
    (hevents : notifier.events =
      (Pipeline.format (Services.standard environment session.workspace session.languages)
        session.workspace request (Run.start session.ledger session.installed)).2.events.filter
          (·.messages ≠ [])) :
    (session.format environment request).2.effects.filterMap Effect.message? =
      notifier.sent := by
  have heffects (events : List Event) :
      (events.flatMap Effect.ofEvent).filterMap Effect.message? =
        events.flatMap Event.messages := by
    rw [List.filterMap_flatMap]
    rfl
  rw [Notifier.sent_of_inTurn hreaches hdone, hevents, flatMap_messages_filter, ← heffects]
  rfl

end FormatServer
