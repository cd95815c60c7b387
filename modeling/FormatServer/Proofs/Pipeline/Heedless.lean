import FormatServer.Pipeline.Format

/-!
# Steps that take no notice of reminders

Before a document is formatted the user is reminded of settings that have no effect any more. The
reminder goes through the ledger of all warnings, in which it has keys of its own. A step of a run
is *heedless* if it does the same whether or not there were reminders, and gives none. Steps of this
kind can be put together, and every step but the reminder itself is one of them.
-/

namespace FormatServer

/-- Whether a warning's key is one of a reminder. -/
def isReminderKey (key : String) : Bool :=
  "legacy:".toList.isPrefixOf key.toList

def Remark.isReminder : Remark → Bool
  | warnOnce key _ => isReminderKey key
  | log _ => false

def Event.isReminder : Event → Bool
  | warned key _ => isReminderKey key
  | _ => false

/-- The services give no reminders, whatever else they warn of. -/
structure Services.GivesNoReminders {σ : Type} (services : Services σ) : Prop where
  engine : ∀ file checksVersion state,
    ∀ remark ∈ (services.engine file checksVersion state).remarks, remark.isReminder = false
  linter : ∀ file linter state,
    ∀ remark ∈ (services.linter file linter state).remarks, remark.isReminder = false

namespace Run

variable {σ α β : Type}

/-- The run as it would be without its reminders. -/
def hushed (run : Run σ) : Run σ where
  ledger := ⟨run.ledger.keys.filter fun key => !isReminderKey key⟩
  events := run.events.filter fun event => !event.isReminder
  services := run.services

/-- The keys of the reminders in the ledger, and the reminders that were given. -/
def reminders (run : Run σ) : List String × List Event :=
  (run.ledger.keys.filter isReminderKey, run.events.filter Event.isReminder)

/-- The step takes no notice of reminders and gives none. -/
structure Heedless (step : Run σ → α × Run σ) : Prop where
  answer : ∀ run, (step run.hushed).1 = (step run).1
  after : ∀ run, (step run.hushed).2 = (step run).2.hushed
  reminders : ∀ run, (step run).2.reminders = run.reminders

theorem heedless_pure (answer : α) : Heedless fun run : Run σ => (answer, run) :=
  ⟨fun _ => rfl, fun _ => rfl, fun _ => rfl⟩

theorem Heedless.bind {first : Run σ → α × Run σ} {next : α → Run σ → β × Run σ}
    (hfirst : Heedless first) (hnext : ∀ answer, Heedless (next answer)) :
    Heedless fun run => next (first run).1 (first run).2 where
  answer run := by
    rw [hfirst.answer, hfirst.after]
    exact (hnext _).answer _
  after run := by
    rw [hfirst.answer, hfirst.after]
    exact (hnext _).after _
  reminders run := by
    rw [(hnext _).reminders, hfirst.reminders]

theorem heedless_add {event : Event} (hevent : event.isReminder = false) :
    Heedless fun run : Run σ => ((), run.add event) where
  answer _ := rfl
  after run := by simp [add, hushed, hevent]
  reminders run := by simp [add, Run.reminders, hevent]

theorem heedless_remark {remark : Remark} (hremark : remark.isReminder = false) :
    Heedless fun run : Run σ => ((), run.remark remark) := by
  cases remark with
  | log line => exact heedless_add rfl
  | warnOnce key message =>
    have hother : isReminderKey key = false := hremark
    have hsame : ∀ run : Run σ,
        run.hushed.ledger.keys.contains key = run.ledger.keys.contains key := by
      intro run
      rw [Bool.eq_iff_iff]
      simp [hushed, hother]
    refine ⟨fun _ => rfl, ?_, ?_⟩
    · intro run
      simp only [Run.remark, Ledger.record, hsame]
      cases run.ledger.keys.contains key with
      | true => rfl
      | false => simp [add, hushed, hother, Event.isReminder]
    · intro run
      simp only [Run.remark, Ledger.record]
      cases run.ledger.keys.contains key with
      | true => rfl
      | false => simp [add, Run.reminders, hother, Event.isReminder]

theorem heedless_remarks {remarks : List Remark}
    (hremarks : ∀ remark ∈ remarks, remark.isReminder = false) :
    Heedless fun run : Run σ => ((), remarks.foldl remark run) := by
  induction remarks with
  | nil => exact heedless_pure ()
  | cons remark rest ih =>
    obtain ⟨hfirst, hrest⟩ := List.forall_mem_cons.mp hremarks
    exact (heedless_remark hfirst).bind fun _ => ih hrest

theorem heedless_consult {question : Question} {service : σ → Reply σ α}
    (hservice : ∀ state, ∀ remark ∈ (service state).remarks, remark.isReminder = false) :
    Heedless fun run : Run σ => run.consult question service := by
  have hremarks : ∀ state, Heedless fun run : Run σ =>
      ((), (service state).remarks.foldl remark (run.add (.asked question))) := fun state =>
    (heedless_add rfl).bind fun _ => heedless_remarks (hservice state)
  refine ⟨fun _ => rfl, ?_, fun run => (hremarks run.services).reminders run⟩
  intro run
  have hafter : (service run.services).remarks.foldl remark (run.hushed.add (.asked question)) =
      ((service run.services).remarks.foldl remark (run.add (.asked question))).hushed :=
    (hremarks run.services).after run
  exact congrArg (fun told : Run σ => { told with services := (service run.services).state }) hafter

theorem heedless_conclude (outcome : Outcome) :
    Heedless fun run : Run σ => run.conclude outcome :=
  (heedless_add rfl).bind fun _ => heedless_pure outcome

theorem heedless_log (severity : Severity) (origin : Origin) (message : String) :
    Heedless fun run : Run σ => ((), run.log severity origin message) :=
  heedless_add rfl

theorem heedless_settle (attempt : Attempt) (source module : String) :
    Heedless fun run : Run σ => run.settle attempt source module := by
  cases hresult : attempt.result module with
  | ok text =>
    simp only [settle, hresult]
    exact heedless_conclude _
  | error failure =>
    simp only [settle, hresult]
    exact (heedless_log _ _ _).bind fun _ => heedless_conclude _

theorem heedless_execute (backend : Backend) (text : String) (options : Options) :
    Heedless fun run : Run σ => run.execute backend text options :=
  (heedless_add rfl).bind fun _ => heedless_settle _ _ _

end Run

namespace Pipeline

open Run

variable {σ : Type} {services : Services σ} {workspace : Workspace} {request : Request}

/-! ### Every step but the reminder -/

theorem heedless_skip : Heedless fun run : Run σ => skip run :=
  heedless_conclude .ignored

theorem heedless_fail (url : Url) (failure : Failure) :
    Heedless fun run : Run σ => fail url failure run :=
  (heedless_log _ _ _).bind fun _ => heedless_conclude _

theorem heedless_classify (services : Services σ) (engine : Engine) (file : Option Path) :
    Heedless fun run : Run σ => classify services engine file run := by
  cases file with
  | none => exact heedless_pure _
  | some file =>
    have hasked : Heedless fun run : Run σ =>
        ((), run.add (.asked (.fileInfo file (services.ignorePath file)))) :=
      heedless_add rfl
    cases hinfo : engine.fileInfo file (services.ignorePath file) with
    | ok info =>
      simp only [classify, hinfo]
      exact hasked.bind fun _ => heedless_pure info
    | error failure =>
      simp only [classify, hinfo]
      exact hasked.bind fun _ => (heedless_log _ _ _).bind fun _ => heedless_pure ({} : FileInfo)

theorem heedless_lacksConfig (services : Services σ) (settings : Settings) (file : Option Path) :
    Heedless fun run : Run σ => lacksConfig services settings file run := by
  cases hrequired : settings.requireConfig with
  | false =>
    simp only [lacksConfig, hrequired]
    exact heedless_pure false
  | true =>
    cases file with
    | none =>
      simp only [lacksConfig, hrequired]
      exact heedless_pure false
    | some file =>
      simp only [lacksConfig, hrequired]
      exact (heedless_add rfl).bind fun _ => heedless_pure _

/-! Each `after` lemma is about the rest of a step, given the answer it waits for. -/

theorem heedless_unless {next : Run σ → Outcome × Run σ} (skips : Prop) [Decidable skips]
    (hnext : Heedless next) : Heedless fun run => if skips then skip run else next run := by
  by_cases hskips : skips
  · simp only [if_pos hskips]
    exact heedless_skip
  · simp only [if_neg hskips]
    exact hnext

theorem heedless_afterLinter {rest : Run σ → Option Backend × Run σ} (hrest : Heedless rest)
    (answer : Option Backend) :
    Heedless fun run : Run σ =>
      match (answer, run) with
      | (some backend, run) => (some backend, run)
      | (none, run) => rest run := by
  cases answer with
  | some backend => exact heedless_pure (some backend)
  | none => exact hrest

theorem heedless_findLinter (hservices : services.GivesNoReminders) (file : Option Path)
    (language parser : String) (linters : List Linter) :
    Heedless fun run : Run σ => findLinter services file language parser linters run := by
  induction linters with
  | nil => exact heedless_pure none
  | cons linter rest ih =>
    by_cases happlies : linterApplies services language parser linter = true
    · simp only [findLinter, happlies, if_true]
      exact (heedless_consult (hservices.linter file linter)).bind (heedless_afterLinter ih)
    · simp only [findLinter, happlies]
      exact ih

theorem heedless_afterOptions (request : Request) (hservices : services.GivesNoReminders)
    (engine : Engine) (parser : String) (resolved : Except String Options) :
    Heedless fun run : Run σ =>
      match resolved with
      | .error reason => fail request.url (.options reason) run
      | .ok options =>
        let (linter, run) :=
          findLinter services request.file request.language parser Linter.ranked run
        run.execute (linter.getD engine.toBackend) request.text options := by
  cases resolved with
  | error reason => exact heedless_fail _ _
  | ok options =>
    exact (heedless_findLinter hservices request.file request.language parser Linter.ranked).bind
      fun linter => heedless_execute (linter.getD engine.toBackend) request.text options

theorem heedless_afterConfig {next : Run σ → Outcome × Run σ} (hnext : Heedless next)
    (lacks : Bool) :
    Heedless fun run : Run σ =>
      match (lacks, run) with
      | (true, run) => skip run
      | (false, run) => next run := by
  cases lacks with
  | true => exact heedless_skip
  | false => exact hnext

theorem heedless_formatWith (workspace : Workspace) (request : Request)
    (hservices : services.GivesNoReminders) (engine : Engine) (parser : String) :
    Heedless fun run : Run σ => formatWith services workspace request engine parser run := by
  have hasked : Heedless fun run : Run σ =>
      ((), run.add (.asked (.resolveOptions (optionsFor workspace request parser)))) :=
    heedless_add rfl
  have hresolved := hasked.bind fun _ => heedless_afterOptions request hservices engine parser
    (services.resolveOptions (optionsFor workspace request parser))
  exact (heedless_lacksConfig services workspace.settings request.file).bind
    (heedless_afterConfig hresolved)

theorem heedless_afterParser (workspace : Workspace) (request : Request)
    (hservices : services.GivesNoReminders) (engine : Engine) (parser : Option String) :
    Heedless fun run : Run σ =>
      match parser with
      | none => fail request.url (.parserNotFound request.language) run
      | some parser => formatWith services workspace request engine parser run := by
  cases parser with
  | none => exact heedless_fail _ _
  | some parser => exact heedless_formatWith workspace request hservices engine parser

theorem heedless_formatBy (workspace : Workspace) (request : Request)
    (hservices : services.GivesNoReminders) (engine : Engine) :
    Heedless fun run : Run σ => formatBy services workspace request engine run := by
  have hclassified := fun info : FileInfo =>
    heedless_unless (info.ignored = true) (heedless_afterParser workspace request hservices engine
      (info.inferredParser.or (services.parsers request.file request.language).head?))
  exact (heedless_classify services engine request.file).bind hclassified

theorem heedless_afterEngine (workspace : Workspace) (request : Request)
    (hservices : services.GivesNoReminders) (found : Except Failure Engine) :
    Heedless fun run : Run σ =>
      match found with
      | .error failure => fail request.url failure run
      | .ok engine => formatBy services workspace request engine run := by
  cases found with
  | error failure => exact heedless_fail _ _
  | ok engine => exact heedless_formatBy workspace request hservices engine

/-- Without settings to be reminded of, all of a run is heedless. -/
theorem heedless_format (hservices : services.GivesNoReminders)
    (hnone : workspace.settings.legacyKeys = []) :
    Heedless fun run : Run σ => format services workspace request run := by
  simp only [format, remindOfLegacy, hnone, if_true]
  have hfound := fun found : Except Failure Engine =>
    heedless_unless (workspace.settings.disables request.language = true)
      (heedless_afterEngine workspace request hservices found)
  exact (heedless_consult (hservices.engine request.file true)).bind hfound

end Pipeline

end FormatServer
