import FormatServer.Pipeline.Format

/-!
# The record of a run

What a run leaves behind for others to see is the statuses it reports and the formatters it runs.
Everything before the end of a run is quiet: it asks, warns and writes to the log, but adds to
neither. The end is one of two things, a status alone or one formatter and a status, so the whole
record of a run follows from how it ends.
-/

namespace FormatServer

/-- What a formatter is run on. -/
structure FormatterCall where
  module : String
  text : String
  options : Options

namespace Event

def call? : Event → Option FormatterCall
  | asked (.invoke module text options) => some ⟨module, text, options⟩
  | _ => none

end Event

namespace Question

/-- Whether the question is answered without running a formatter. -/
def isInquiry : Question → Bool
  | invoke _ _ _ => false
  | _ => true

end Question

/-- What becomes of a text that one attempt is made to format. -/
def Outcome.ofAttempt (source : String) : Attempt → Outcome
  | .finished (.ok text) => if text = source then .unchanged text else .formatted text
  | .finished (.error _) => .failed (some source)
  | .panicked => .failed (some source)

namespace Run

variable {σ : Type}

def statuses (run : Run σ) : List Status :=
  run.events.filterMap Event.status?

def calls (run : Run σ) : List FormatterCall :=
  run.events.filterMap Event.call?

/-- From one run to the other no status was reported and no formatter was run. -/
structure Quiet (before after : Run σ) : Prop where
  statuses : after.statuses = before.statuses
  calls : after.calls = before.calls

namespace Quiet

variable {first second third : Run σ}

theorem of_events_eq (h : second.events = first.events) : Quiet first second := by
  constructor
  · rw [Run.statuses, Run.statuses, h]
  · rw [Run.calls, Run.calls, h]

theorem refl (run : Run σ) : Quiet run run := of_events_eq rfl

theorem trans (early : Quiet first second) (late : Quiet second third) : Quiet first third :=
  ⟨late.statuses.trans early.statuses, late.calls.trans early.calls⟩

end Quiet

/-! ### Quiet steps -/

theorem quiet_add (run : Run σ) (event : Event) (hstatus : event.status? = none)
    (hcall : event.call? = none) : Quiet run (run.add event) := by
  constructor
  · simp [statuses, add, hstatus]
  · simp [calls, add, hcall]

theorem quiet_ask (run : Run σ) {question : Question} (hinquiry : question.isInquiry = true) :
    Quiet run (run.add (.asked question)) := by
  apply quiet_add run _ rfl
  cases question with
  | invoke module text options => simp [Question.isInquiry] at hinquiry
  | engine | fileInfo | hasConfig | resolveOptions | linter => rfl

theorem quiet_log (run : Run σ) (severity : Severity) (origin : Origin) (message : String) :
    Quiet run (run.log severity origin message) :=
  quiet_add run _ rfl rfl

theorem quiet_remark (run : Run σ) (remark : Remark) : Quiet run (run.remark remark) := by
  cases remark with
  | log line => exact quiet_add run _ rfl rfl
  | warnOnce key message =>
    rw [Run.remark]
    split
    next ledger _ =>
      have hledger : Quiet run { run with ledger } := Quiet.of_events_eq rfl
      exact hledger.trans (quiet_add { run with ledger } (.warned key message) rfl rfl)
    next => exact Quiet.refl run

theorem quiet_remarks (run : Run σ) (remarks : List Remark) :
    Quiet run (remarks.foldl remark run) := by
  induction remarks generalizing run with
  | nil => exact Quiet.refl run
  | cons remark rest ih => exact (quiet_remark run remark).trans (ih (run.remark remark))

/-- A service may say what it likes: it has no way to report a status. -/
theorem quiet_consult {α : Type} (run : Run σ) {question : Question}
    (hinquiry : question.isInquiry = true) (service : σ → Reply σ α) :
    Quiet run (run.consult question service).2 := by
  have hasked := quiet_ask run hinquiry
  have hremarks := quiet_remarks (run.add (.asked question)) (service run.services).remarks
  exact (hasked.trans hremarks).trans (Quiet.of_events_eq rfl)

/-! ### The state of the services -/

@[simp]
theorem services_add (run : Run σ) (event : Event) : (run.add event).services = run.services := rfl

@[simp]
theorem services_remark (run : Run σ) (remark : Remark) :
    (run.remark remark).services = run.services := by
  cases remark with
  | log line => rfl
  | warnOnce key message =>
    rw [Run.remark]
    split <;> rfl

@[simp]
theorem fst_consult {α : Type} (run : Run σ) (question : Question) (service : σ → Reply σ α) :
    (run.consult question service).1 = (service run.services).answer := rfl

@[simp]
theorem services_consult {α : Type} (run : Run σ) (question : Question)
    (service : σ → Reply σ α) :
    (run.consult question service).2.services = (service run.services).state := rfl

/-! ### The end of a run -/

@[simp]
theorem statuses_conclude (run : Run σ) (outcome : Outcome) :
    (run.conclude outcome).2.statuses = run.statuses ++ [outcome.status] := by
  simp [conclude, add, statuses, Event.status?]

@[simp]
theorem calls_conclude (run : Run σ) (outcome : Outcome) :
    (run.conclude outcome).2.calls = run.calls := by
  simp [conclude, add, calls, Event.call?]

/-- However the attempt ends, it is followed by at most a line in the log and by one status. -/
theorem settle_eq (run : Run σ) (attempt : Attempt) (source module : String) :
    ∃ logged, Quiet run logged ∧
      run.settle attempt source module = logged.conclude (.ofAttempt source attempt) := by
  cases attempt with
  | finished result =>
    cases result with
    | ok text => exact ⟨run, Quiet.refl run, rfl⟩
    | error failure =>
      exact ⟨run.log .error .execution ("[" ++ module ++ "] " ++ failure.message),
        quiet_log run _ _ _, rfl⟩
  | panicked =>
    exact ⟨run.log .error .execution ("[" ++ module ++ "] " ++ (Failure.panicked module).message),
      quiet_log run _ _ _, rfl⟩

/-! ### The two ways to end -/

/-- The run goes on quietly to a status, and no formatter is run. -/
def StopsWith (run : Run σ) (outcome : Outcome) (result : Outcome × Run σ) : Prop :=
  ∃ last, Quiet run last ∧ result = last.conclude outcome

/-- The run goes on quietly to the one formatter that is run. -/
def Executes (run : Run σ) (backend : Backend) (text : String) (options : Options)
    (result : Outcome × Run σ) : Prop :=
  ∃ last, Quiet run last ∧ result = last.execute backend text options

variable {run later : Run σ} {outcome : Outcome} {backend : Backend} {text : String}
  {options : Options} {result : Outcome × Run σ}

theorem StopsWith.after (hquiet : Quiet run later) (hstops : later.StopsWith outcome result) :
    run.StopsWith outcome result := by
  obtain ⟨last, hlast, hresult⟩ := hstops
  exact ⟨last, hquiet.trans hlast, hresult⟩

theorem Executes.after (hquiet : Quiet run later)
    (hexecutes : later.Executes backend text options result) :
    run.Executes backend text options result := by
  obtain ⟨last, hlast, hresult⟩ := hexecutes
  exact ⟨last, hquiet.trans hlast, hresult⟩

/-- A run that stops reports the status of its outcome, once. -/
theorem StopsWith.record (hstops : run.StopsWith outcome result) :
    result.1 = outcome ∧ result.2.statuses = run.statuses ++ [outcome.status] ∧
      result.2.calls = run.calls := by
  obtain ⟨last, hquiet, rfl⟩ := hstops
  refine ⟨rfl, ?_, ?_⟩
  · rw [statuses_conclude, hquiet.statuses]
  · rw [calls_conclude, hquiet.calls]

/-- The formatter is run once, whatever comes of it, and the status is that of its outcome. -/
theorem Executes.record (hexecutes : run.Executes backend text options result) :
    result.1 = .ofAttempt text (backend.invoke text options) ∧
      result.2.statuses = run.statuses ++ [result.1.status] ∧
      result.2.calls = run.calls ++ [⟨backend.name, text, options⟩] := by
  obtain ⟨last, hquiet, rfl⟩ := hexecutes
  obtain ⟨logged, hlogged, hsettle⟩ := settle_eq
    (last.add (.asked (.invoke backend.name text options))) (backend.invoke text options) text
    backend.name
  rw [execute, hsettle]
  refine ⟨rfl, ?_, ?_⟩
  · rw [statuses_conclude, hlogged.statuses, ← hquiet.statuses]
    simp [statuses, add, Event.status?, conclude]
  · rw [calls_conclude, hlogged.calls, ← hquiet.calls]
    simp [calls, add, Event.call?]

end Run

end FormatServer
