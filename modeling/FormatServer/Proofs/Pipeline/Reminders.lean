import FormatServer.Proofs.Command.Agreement
import FormatServer.Proofs.Pipeline.Heedless
import Mathlib.Data.List.DropRight

/-!
# Reminders of settings without effect

Requests share one ledger of warnings until it is emptied. Since all of a request but its reminder
is heedless, a course of requests goes as it would without settings to be reminded of, also where
others warn through the same ledger. The reminders in the ledger are those of the requests since it
was emptied, so a request is reminded exactly if it is the first of them for its URL.
-/

namespace FormatServer

namespace Workspace

def withoutLegacy (workspace : Workspace) : Workspace :=
  { workspace with settings := { workspace.settings with legacyKeys := [] } }

end Workspace

namespace Pipeline

open Run

variable {σ : Type} {services : Services σ} {workspace : Workspace} {request : Request}
  {settings : Settings} {url : Url} {run : Run σ}

/-! ### The reminder -/

def reminderKey (url : Url) : String :=
  "legacy:" ++ url.text

def reminder (settings : Settings) (url : Url) : Event :=
  .warned (reminderKey url) (legacyMessage settings.legacyKeys)

@[simp]
theorem isReminderKey_reminderKey (url : Url) : isReminderKey (reminderKey url) = true := by
  rw [isReminderKey, reminderKey, String.toList_append, List.isPrefixOf_iff_prefix]
  exact List.prefix_append _ _

theorem reminderKey_eq_iff {other : Url} :
    reminderKey url = reminderKey other ↔ url.text = other.text := by
  rw [reminderKey, reminderKey, ← String.toList_inj, String.toList_append, String.toList_append,
    List.append_cancel_left_eq, String.toList_inj]

theorem reminderKey_mem_iff :
    reminderKey url ∈ run.ledger.keys ↔ reminderKey url ∈ run.reminders.1 := by
  rw [reminders, List.mem_filter, isReminderKey_reminderKey]
  exact (and_iff_left rfl).symm

theorem remindOfLegacy_eq :
    remindOfLegacy settings url run =
      if settings.legacyKeys = [] then run
      else run.remark (.warnOnce (reminderKey url) (legacyMessage settings.legacyKeys)) :=
  rfl

theorem hushed_remindOfLegacy : (remindOfLegacy settings url run).hushed = run.hushed := by
  rw [remindOfLegacy_eq]
  by_cases hnone : settings.legacyKeys = []
  · rw [if_pos hnone]
  · rw [if_neg hnone]
    simp only [Run.remark, Ledger.record]
    cases run.ledger.keys.contains (reminderKey url) with
    | true => rfl
    | false => simp [add, hushed, Event.isReminder]

theorem reminders_remindOfLegacy_of_reminded
    (hreminded : settings.legacyKeys = [] ∨ reminderKey url ∈ run.ledger.keys) :
    (remindOfLegacy settings url run).reminders = run.reminders := by
  rw [remindOfLegacy_eq]
  by_cases hnone : settings.legacyKeys = []
  · rw [if_pos hnone]
  · have hknown : run.ledger.keys.contains (reminderKey url) = true :=
      List.contains_iff_mem.mpr (hreminded.resolve_left hnone)
    rw [if_neg hnone]
    simp only [Run.remark, Ledger.record, hknown, if_true]

theorem reminders_remindOfLegacy_of_new (hlegacy : settings.legacyKeys ≠ [])
    (hnew : reminderKey url ∉ run.ledger.keys) :
    (remindOfLegacy settings url run).reminders =
      (run.reminders.1 ++ [reminderKey url], run.reminders.2 ++ [reminder settings url]) := by
  have hunknown : run.ledger.keys.contains (reminderKey url) = false := by
    rw [← Bool.not_eq_true, List.contains_iff_mem]
    exact hnew
  rw [remindOfLegacy_eq, if_neg hlegacy]
  simp only [Run.remark, Ledger.record, hunknown]
  simp [add, Run.reminders, Event.isReminder, reminder]

theorem format_eq_withoutLegacy :
    format services workspace request run =
      format services workspace.withoutLegacy request
        (remindOfLegacy workspace.settings request.url run) :=
  rfl

/-- A request goes as it would without settings to be reminded of. -/
theorem hushed_format (hservices : services.GivesNoReminders) (workspace : Workspace)
    (request : Request) (run : Run σ) :
    Prod.map id hushed (format services workspace request run) =
      format services workspace.withoutLegacy request run.hushed := by
  have hheedless : Heedless fun run : Run σ =>
      format services workspace.withoutLegacy request run :=
    heedless_format hservices rfl
  rw [format_eq_withoutLegacy]
  apply Prod.ext
  · rw [← hushed_remindOfLegacy, hheedless.answer]
    rfl
  · rw [← hushed_remindOfLegacy, hheedless.after]
    rfl

/-- The reminder is the only one that a request gives. -/
theorem reminders_format (hservices : services.GivesNoReminders) (workspace : Workspace)
    (request : Request) (run : Run σ) :
    (format services workspace request run).2.reminders =
      (remindOfLegacy workspace.settings request.url run).reminders := by
  rw [format_eq_withoutLegacy]
  exact (heedless_format hservices rfl).reminders _

theorem reminderKey_mem_format_iff (hservices : services.GivesNoReminders)
    (workspace : Workspace) (request : Request) (run : Run σ) (url : Url) :
    reminderKey url ∈ (format services workspace request run).2.ledger.keys ↔
      reminderKey url ∈ run.ledger.keys ∨
        workspace.settings.legacyKeys ≠ [] ∧ request.url.text = url.text := by
  rw [reminderKey_mem_iff, reminders_format hservices, reminderKey_mem_iff]
  by_cases hlegacy : workspace.settings.legacyKeys = []
  · rw [reminders_remindOfLegacy_of_reminded (.inl hlegacy)]
    simp [hlegacy]
  · by_cases hknown : reminderKey request.url ∈ run.ledger.keys
    · have hsame : request.url.text = url.text → reminderKey url ∈ run.reminders.1 := by
        intro htext
        rw [← reminderKey_mem_iff, ← reminderKey_eq_iff.mpr htext]
        exact hknown
      rw [reminders_remindOfLegacy_of_reminded (.inr hknown)]
      simpa [hlegacy] using hsame
    · rw [reminders_remindOfLegacy_of_new hlegacy hknown]
      simp [hlegacy, reminderKey_eq_iff, eq_comm]

/-- A request gives the reminder if its key is not in the ledger yet. -/
theorem reminders_given_format (hservices : services.GivesNoReminders) (workspace : Workspace)
    (request : Request) (ledger : Ledger) (state : σ) :
    (format services workspace request (.start ledger state)).2.events.filter Event.isReminder =
      if workspace.settings.legacyKeys ≠ [] ∧ reminderKey request.url ∉ ledger.keys then
        [reminder workspace.settings request.url]
      else [] := by
  have hreminders := congrArg Prod.snd
    (reminders_format hservices workspace request (.start ledger state))
  refine hreminders.trans ?_
  split
  next hnew =>
    rw [reminders_remindOfLegacy_of_new hnew.1 hnew.2]
    rfl
  next hreminded =>
    have hknown : workspace.settings.legacyKeys = [] ∨ reminderKey request.url ∈ ledger.keys := by
      by_cases hlegacy : workspace.settings.legacyKeys = []
      · exact .inl hlegacy
      · exact .inr (not_not.mp fun hnew => hreminded ⟨hlegacy, hnew⟩)
    rw [reminders_remindOfLegacy_of_reminded hknown]
    rfl

/-! ### A shared ledger -/

/-- What is done with a ledger that is shared: a request, a warning by others, and its emptying. The
services of each request are its own, so that what they find may change in between. -/
inductive Turn (σ : Type) where
  | request (services : Services σ) (request : Request)
  | warn (key message : String)
  | dispose

namespace Turn

def isDisposal : Turn σ → Bool
  | .dispose => true
  | _ => false

def isFor (url : Url) : Turn σ → Bool
  | .request _ request => request.url.text = url.text
  | _ => false

def GivesNoReminders : Turn σ → Prop
  | .request services _ => services.GivesNoReminders
  | .warn key _ => isReminderKey key = false
  | .dispose => True

/-- The outcome of a request, and the record of the turn with what it leaves behind. -/
def take (workspace : Workspace) (left : Run σ) : Turn σ → Option Outcome × Run σ
  | .request services request =>
    Prod.map some id (format services workspace request (.start left.ledger left.services))
  | .warn key message =>
    (none, (Run.start left.ledger left.services).remark (.warnOnce key message))
  | .dispose => (none, .start .empty left.services)

variable {turn : Turn σ}

theorem hushed_take (hturn : turn.GivesNoReminders) (workspace : Workspace) (left : Run σ) :
    Prod.map id hushed (turn.take workspace left) =
      turn.take workspace.withoutLegacy left.hushed := by
  cases turn with
  | request services request =>
    have hformat := hushed_format hturn workspace request (.start left.ledger left.services)
    exact congrArg (Prod.map some id) hformat
  | warn key message =>
    have hwarned : Heedless fun run : Run σ => ((), run.remark (.warnOnce key message)) :=
      heedless_remark hturn
    have hafter := hwarned.after (.start left.ledger left.services)
    exact congrArg (Prod.mk none) hafter.symm
  | dispose => rfl

end Turn

def course (workspace : Workspace) : List (Turn σ) → Run σ → List (Option Outcome × Run σ)
  | [], _ => []
  | turn :: rest, left =>
    let taken := turn.take workspace left
    taken :: course workspace rest taken.2

def afterTurns (workspace : Workspace) (turns : List (Turn σ)) (left : Run σ) : Run σ :=
  turns.foldl (fun left turn => (turn.take workspace left).2) left

def sinceDisposal (turns : List (Turn σ)) : List (Turn σ) :=
  turns.rtakeWhile fun turn => !turn.isDisposal

variable {turns : List (Turn σ)}

theorem sinceDisposal_concat (turns : List (Turn σ)) (turn : Turn σ) :
    sinceDisposal (turns ++ [turn]) =
      if turn.isDisposal then [] else sinceDisposal turns ++ [turn] := by
  rw [sinceDisposal, List.rtakeWhile_concat]
  cases turn.isDisposal <;> rfl

theorem getElem?_course (turns : List (Turn σ)) (index : Nat) (left : Run σ) :
    (course workspace turns left)[index]? =
      turns[index]?.map (Turn.take workspace (afterTurns workspace (turns.take index) left)) := by
  induction turns generalizing index left with
  | nil => rfl
  | cons turn rest ih =>
    cases index with
    | zero => rfl
    | succ index => exact ih index (turn.take workspace left).2

theorem hushed_course (hturns : ∀ turn ∈ turns, turn.GivesNoReminders) (left : Run σ) :
    (course workspace turns left).map (Prod.map id hushed) =
      course workspace.withoutLegacy turns left.hushed := by
  induction turns generalizing left with
  | nil => rfl
  | cons turn rest ih =>
    obtain ⟨hturn, hrest⟩ := List.forall_mem_cons.mp hturns
    have htake := Turn.hushed_take hturn workspace left
    simp only [course, List.map_cons, ← htake]
    rw [ih hrest]
    rfl

/-- The reminders in the ledger are those of the requests since it was emptied. -/
theorem reminderKey_mem_afterTurns_iff (hturns : ∀ turn ∈ turns, turn.GivesNoReminders)
    (workspace : Workspace) (state : σ) (url : Url) :
    reminderKey url ∈ (afterTurns workspace turns (.start .empty state)).ledger.keys ↔
      workspace.settings.legacyKeys ≠ [] ∧ (sinceDisposal turns).any (Turn.isFor url) = true := by
  induction turns using List.reverseRecOn with
  | nil => simp [afterTurns, Run.start, Ledger.empty, sinceDisposal]
  | append_singleton turns turn ih =>
    have hbefore := ih fun turn hmem => hturns turn (List.mem_append_left _ hmem)
    have hturn := hturns turn List.mem_concat_self
    rw [afterTurns, List.foldl_concat, ← afterTurns]
    generalize afterTurns workspace turns (.start .empty state) = left at hbefore
    rw [sinceDisposal_concat]
    cases turn with
    | request services request =>
      have hformat := reminderKey_mem_format_iff hturn workspace request
        (.start left.ledger left.services) url
      refine hformat.trans ((or_congr_left hbefore).trans ?_)
      simp [Turn.isDisposal, Turn.isFor, and_or_left]
    | warn key message =>
      have hwarned : Heedless fun run : Run σ => ((), run.remark (.warnOnce key message)) :=
        heedless_remark hturn
      have hreminders := hwarned.reminders (.start left.ledger left.services)
      rw [reminderKey_mem_iff, Turn.take, hreminders, ← reminderKey_mem_iff]
      simpa [Turn.isDisposal, Turn.isFor, Run.start] using hbefore
    | dispose => simp [Turn.take, Turn.isDisposal, Run.start, Ledger.empty]

/-- A request is reminded exactly if there are settings to be reminded of and it is the first for
its URL since the ledger was emptied, and then once. All else that happens in any turn, with its
outcome and what it leaves behind, is as it would be without such settings. -/
theorem reminded_iff_first_and_course_withoutLegacy (workspace : Workspace) (turns : List (Turn σ))
    (state : σ) (hturns : ∀ turn ∈ turns, turn.GivesNoReminders) :
    let entries := course workspace turns (.start .empty state)
    (∀ index services request, turns[index]? = some (.request services request) →
      ∃ outcome run, entries[index]? = some (some outcome, run) ∧
        run.events.filter Event.isReminder =
          if workspace.settings.legacyKeys ≠ [] ∧
            (sinceDisposal (turns.take index)).any (Turn.isFor request.url) = false
          then [reminder workspace.settings request.url] else []) ∧
    entries.map (Prod.map id hushed) =
      course workspace.withoutLegacy turns (.start .empty state) := by
  intro entries
  refine ⟨?_, hushed_course hturns _⟩
  intro index services request hrequest
  have hservices : services.GivesNoReminders := hturns _ (List.mem_of_getElem? hrequest)
  have hearlier : ∀ turn ∈ turns.take index, turn.GivesNoReminders := fun turn hmem =>
    hturns turn (List.mem_of_mem_take hmem)
  let left := afterTurns workspace (turns.take index) (.start .empty state)
  have hentry : entries[index]? =
      some ((Turn.request services request).take workspace left) := by
    rw [getElem?_course, hrequest, Option.map_some]
  have hknown := reminderKey_mem_afterTurns_iff hearlier workspace state request.url
  refine ⟨_, _, hentry, ?_⟩
  refine (reminders_given_format hservices workspace request left.ledger
    left.services).trans ?_
  have hfirst : (workspace.settings.legacyKeys ≠ [] ∧ reminderKey request.url ∉ left.ledger.keys) ↔
      workspace.settings.legacyKeys ≠ [] ∧
        (sinceDisposal (turns.take index)).any (Turn.isFor request.url) = false := by
    rw [hknown, not_and, Bool.not_eq_true]
    exact and_congr_right fun hlegacy => forall_prop_of_true hlegacy
  exact if_congr hfirst rfl rfl

end Pipeline

/-! ### The services of a session -/

namespace Installed

variable {environment : Environment} {workspace : Workspace} {file : Option Path}
  {installed : Installed}

theorem remarks_linter (linter : Linter) :
    (Installed.linter environment workspace file linter installed).remarks = [] := by
  rw [Installed.linter]
  cases workspace.searchStart file with
  | none => rfl
  | some start => cases hknown : installed.linter? start linter <;> simp only [hknown]

theorem isReminder_of_mem_version {known : KnownEngine} :
    ∀ remark ∈ (version environment known installed).remarks, remark.isReminder = false := by
  rw [version]
  cases known.version with
  | some version => exact List.forall_mem_nil _
  | none =>
    cases Engine.version environment known.path with
    | ok version => exact List.forall_mem_nil _
    | error failure => exact List.forall_mem_singleton.mpr rfl

theorem isReminder_of_mem_versionRemarks {path : Path} {version : Option Version} :
    ∀ remark ∈ versionRemarks path version, remark.isReminder = false := by
  intro remark hremark
  obtain ⟨old, -, rfl⟩ := List.mem_map.mp hremark
  rw [outdatedRemark, Remark.isReminder, isReminderKey, String.toList_append]
  rfl

theorem isReminder_of_mem_engine {checksVersion : Bool} :
    ∀ remark ∈ (Installed.engine environment workspace file checksVersion installed).remarks,
      remark.isReminder = false := by
  have hmissing : ∀ remark ∈ (Engine.missing environment workspace file).toList.map missingRemark,
      remark.isReminder = false := by
    intro remark hremark
    obtain ⟨path, -, rfl⟩ := List.mem_map.mp hremark
    rfl
  rw [Installed.engine]
  cases Engine.locate environment workspace file with
  | none => exact hmissing
  | some located =>
    obtain ⟨path, source⟩ := located
    have hglobal : ∀ remark ∈ (if source = .global then [globalRemark path] else []),
        remark.isReminder = false := by
      split
      next => exact List.forall_mem_singleton.mpr rfl
      next => exact List.forall_mem_nil _
    have hfound := List.forall_mem_append.mpr ⟨hmissing, hglobal⟩
    cases checksVersion with
    | true =>
      refine List.forall_mem_append.mpr ⟨?_, isReminder_of_mem_versionRemarks⟩
      exact List.forall_mem_append.mpr ⟨hfound, isReminder_of_mem_version⟩
    | false => exact hfound

end Installed

/-- What the services of a session warn of is not what the reminders are about. -/
theorem Services.givesNoReminders_standard (environment : Environment) (workspace : Workspace)
    (languages : LanguageTable) :
    (Services.standard environment workspace languages).GivesNoReminders where
  engine _ _ _ := Installed.isReminder_of_mem_engine
  linter file linter state := by
    rw [Services.standard, Installed.remarks_linter]
    exact List.forall_mem_nil _

/-- Settings without effect have none on the services of a session. -/
@[simp]
theorem Services.standard_withoutLegacy (environment : Environment) (workspace : Workspace)
    (languages : LanguageTable) :
    Services.standard environment workspace.withoutLegacy languages =
      Services.standard environment workspace languages :=
  rfl

@[simp]
theorem Workspace.languages_withoutLegacy (workspace : Workspace) (folders : FolderLanguages) :
    workspace.withoutLegacy.languages folders = workspace.languages folders :=
  rfl

namespace Pipeline

open Run

/-- A project with an old engine, which answers everything with its version. -/
def outdatedProject : Environment :=
  let found := Command.echoing [] ""
  { found with
    disk := found.disk.insert (["ws", "node_modules", ".bin", "prettier"].map Segment.ofString)
      (.program [] fun _ => ⟨0, Utf8.encode "1.0.0", []⟩) }

/-- A workspace whose settings have one without effect. -/
def legacyWorkspace : Workspace :=
  .single { Settings.defaults with legacyKeys := ["eslintIntegration"] }
    (some (Location.path [Segment.ofString "ws"]))

/-- A file is reminded once and again after the ledger was emptied. The age of the engine, of which
the user is warned through the same ledger, is a key in it each time. Without the settings that have
no effect a session has the same services and takes the same course. -/
theorem reminded_beside_outdated_engine :
    let services := fun workspace : Workspace =>
      Services.standard outdatedProject workspace (workspace.languages .empty)
    let request := Request.ofDocument (Command.projectUrl ["a.js"]) "javascript" "a"
    let turns := fun workspace => [.request (services workspace) request,
      .request (services workspace) request, .dispose, .request (services workspace) request]
    let entries := course legacyWorkspace (turns legacyWorkspace) (.start .empty .empty)
    (∀ turn ∈ turns legacyWorkspace, turn.GivesNoReminders) ∧
    entries.map (fun entry => entry.2.ledger.keys.length) = [2, 2, 0, 2] ∧
    (∃ outcome run, entries[1]? = some (some outcome, run) ∧
      run.events.filter Event.isReminder = []) ∧
    (∃ outcome run, entries[3]? = some (some outcome, run) ∧
      run.events.filter Event.isReminder = [reminder legacyWorkspace.settings request.url]) ∧
    entries.map (Prod.map id hushed) =
      course legacyWorkspace.withoutLegacy (turns legacyWorkspace.withoutLegacy)
        (.start .empty .empty) := by
  intro services request turns entries
  have hservices : (services legacyWorkspace).GivesNoReminders :=
    Services.givesNoReminders_standard _ _ _
  have hturns : ∀ turn ∈ turns legacyWorkspace, turn.GivesNoReminders := by
    simp [turns, Turn.GivesNoReminders, hservices]
  have hsame : turns legacyWorkspace.withoutLegacy = turns legacyWorkspace := by
    simp only [turns, services, Workspace.languages_withoutLegacy, Services.standard_withoutLegacy]
  obtain ⟨hreminded, hcourse⟩ := reminded_iff_first_and_course_withoutLegacy legacyWorkspace
    (turns legacyWorkspace) .empty hturns
  obtain ⟨second, afterSecond, hsecond, hnone⟩ := hreminded 1 _ request rfl
  obtain ⟨last, afterLast, hlast, hone⟩ := hreminded 3 _ request rfl
  rw [hsame]
  refine ⟨hturns, by decide +kernel, ⟨second, afterSecond, hsecond, ?_⟩,
    ⟨last, afterLast, hlast, ?_⟩, hcourse⟩
  · rw [hnone]
    decide +kernel
  · rw [hone]
    decide +kernel

end Pipeline

end FormatServer
