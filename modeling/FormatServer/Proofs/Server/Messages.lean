import FormatServer.Proofs.Server.Loading

/-!
# What a message does

A session that has begun handles every message that it understands but an introduction, which only
begins one. Some messages have the configuration loaded and the selectors computed from it. All
others leave the whole configuration alone.
-/

namespace FormatServer

namespace Incoming

/-- The settings that the client gives with the message. -/
def given? : Incoming → Option (ClientSource × Data)
  | introduce introduction => introduction.options.map fun options => (.initialOptions, options)
  | configured settings =>
    (settingsSection? settings).map fun settings => (.configuration, settings)
  | _ => none

/-- Whether the message has the settings and the languages of the folders loaded. -/
def reloads : Incoming → Bool
  | introduce _ => true
  | configured settings => (settingsSection? settings).isSome
  | refoldered _ _ => true
  | filesChanged uris => (uris.filterMap Uri.path?).any Config.isWatched
  | _ => false

theorem method_of_ofShaped? {method : String} {parameters : Data} {introduction : Introduction}
    (hread : ofShaped? method parameters = some (introduce introduction)) :
    method = "initialize" := by
  unfold ofShaped? at hread
  split at hread
  case h_1 => rfl
  all_goals simp [Option.bind_eq_some_iff] at hread

/-- Only one method introduces a client. -/
theorem method_of_read? {method : String} {parameters : Data} {introduction : Introduction}
    (hread : read? method parameters = some (some (introduce introduction))) :
    method = "initialize" := by
  rw [read?] at hread
  split at hread
  next => split at hread <;> simp at hread
  next =>
    obtain ⟨shape, -, hshape⟩ := Option.map_eq_some_iff.mp hread
    obtain ⟨shaped, -, hshaped⟩ := Option.bind_eq_some_iff.mp hshape
    exact method_of_ofShaped? hshaped

theorem exists_introduction_of_read? {parameters : Data} {incoming : Incoming}
    (hread : read? "initialize" parameters = some (some incoming)) :
    ∃ introduction, incoming = introduce introduction := by
  rw [read?, if_neg (by decide)] at hread
  obtain ⟨shape, -, hshape⟩ := Option.map_eq_some_iff.mp hread
  obtain ⟨shaped, -, hshaped⟩ := Option.bind_eq_some_iff.mp hshape
  exact ⟨readIntroduction shaped, (Option.some.inj hshaped).symm⟩

theorem given?_of_reloads_eq_false {incoming : Incoming} (hkeeps : incoming.reloads = false) :
    incoming.given? = none := by
  cases incoming with
  | introduce introduction => simp [Incoming.reloads] at hkeeps
  | configured settings => simpa [Incoming.reloads, Incoming.given?] using hkeeps
  | _ => rfl

end Incoming

namespace Session

/-- The message that is handled when this one is received; none if it is refused or is not
understood. -/
def handled? (method : String) (parameters : Data) (session : Session) : Option Incoming :=
  match session.refusal? method with
  | some _ => none
  | none => (Incoming.read? method parameters).join

variable {session : Session} {environment : Environment} {client : Client} {method : String}
  {parameters : Data} {incoming : Incoming}

/-! ### Receiving -/

theorem phase_of_refusal?_eq_none {method : String} (hrefusal : session.refusal? method = none) :
    session.phase = .fresh ∧ method = "initialize" ∨
      session.phase = .running ∧ method ≠ "initialize" := by
  rw [refusal?] at hrefusal
  cases hphase : session.phase with
  | fresh =>
    rw [hphase] at hrefusal
    exact .inl ⟨rfl, by simpa using hrefusal⟩
  | running =>
    rw [hphase] at hrefusal
    exact .inr ⟨rfl, by simpa using hrefusal⟩
  | closed =>
    rw [hphase] at hrefusal
    simp at hrefusal

/-- A message that is handled introduces the client exactly if the session has not begun. -/
theorem receive_of_handled? (hincoming : session.handled? method parameters = some incoming) :
    session.receive environment client method parameters =
        session.handle environment client incoming ∧
      (session.phase = .fresh ∧ (∃ introduction, incoming = .introduce introduction) ∨
        session.phase = .running ∧ ∀ introduction, incoming ≠ .introduce introduction) := by
  rw [handled?] at hincoming
  cases hrefusal : session.refusal? method with
  | some answer => simp [hrefusal] at hincoming
  | none =>
    have hread : Incoming.read? method parameters = some (some incoming) := by
      simpa only [hrefusal, Option.join_eq_some_iff] using hincoming
    refine ⟨by simp only [receive, hrefusal, hread], ?_⟩
    rcases phase_of_refusal?_eq_none hrefusal with ⟨hphase, rfl⟩ | ⟨hphase, hmethod⟩
    · exact .inl ⟨hphase, Incoming.exists_introduction_of_read? hread⟩
    · refine .inr ⟨hphase, ?_⟩
      rintro introduction rfl
      exact hmethod (Incoming.method_of_read? hread)

/-- A message that is not handled can only end a session that has begun. -/
theorem receive_of_not_handled (hnone : session.handled? method parameters = none) :
    (session.receive environment client method parameters).2.session = session ∨
      session.phase ≠ .fresh ∧
        (session.receive environment client method parameters).2.session =
          { session with phase := .closed } := by
  rw [handled?] at hnone
  cases hrefusal : session.refusal? method with
  | some answer =>
    left
    simp only [receive, hrefusal, still]
  | none =>
    cases hread : Incoming.read? method parameters with
    | none =>
      left
      simp only [receive, hrefusal, hread, still]
    | some read =>
      cases read with
      | some incoming => simp [hrefusal, hread] at hnone
      | none =>
        have hafter : (session.receive environment client method parameters).2.session =
            session.afterMisread method := by
          simp only [receive, hrefusal, hread]
        rw [hafter, afterMisread]
        -- A request to shut down is carried out even if it cannot be read.
        by_cases hmethod : method = "shutdown"
        · right
          rcases phase_of_refusal?_eq_none hrefusal with ⟨-, hinitialize⟩ | ⟨hphase, -⟩
          · rw [hmethod] at hinitialize
            simp at hinitialize
          · exact ⟨by simp [hphase], by rw [if_pos hmethod]⟩
        · left
          rw [if_neg hmethod]

/-! ### The parts of the configuration -/

/-- The settings and the languages of the folders are what is loaded from around the session. -/
structure IsLoaded (environment : Environment) (session : Session) : Prop where
  settings : (session.readSettings environment).settings = some session.settings
  folderLanguages : session.folderLanguages = .load environment session.folders

theorem isLoaded_reload (environment : Environment) (session : Session) :
    (session.reload environment).session.IsLoaded environment := by
  obtain ⟨settings, hsettings, -⟩ :=
    Settings.exists_settings_of_load environment session.root session.client
  have hloaded : (session.readSettings environment).settings = some settings := hsettings
  refine ⟨?_, rfl⟩
  change (session.readSettings environment).settings =
    some ((session.readSettings environment).settings.getD session.settings)
  rw [hloaded, Option.getD_some]

theorem exists_documents_of_openDocument (url : Option Url) (document : Document)
    (session : Session) :
    ∃ documents, session.openDocument url document = session.withDocuments documents := by
  cases url with
  | none => exact ⟨session.documents, rfl⟩
  | some url => exact ⟨_, rfl⟩

theorem exists_documents_of_reviseDocument (url : Option Url) (text : Option String)
    (version : Int) (session : Session) :
    ∃ documents, session.reviseDocument url text version = session.withDocuments documents := by
  cases url with
  | none => exact ⟨session.documents, rfl⟩
  | some url =>
    cases text with
    | none => exact ⟨session.documents, rfl⟩
    | some text => exact ⟨_, rfl⟩

theorem exists_documents_of_closeDocument (url : Option Url) (session : Session) :
    ∃ documents, session.closeDocument url = session.withDocuments documents := by
  cases url with
  | none => exact ⟨session.documents, rfl⟩
  | some url => exact ⟨_, rfl⟩

theorem exists_rest_of_formatDocument (environment : Environment) (url : Option Url)
    (range : Option Range) (session : Session) :
    ∃ installed ledger, (session.formatDocument environment url range).2.session =
      { session with installed, ledger } := by
  rw [formatDocument]
  split
  next => exact ⟨session.installed, session.ledger, rfl⟩
  next => exact ⟨_, _, rfl⟩

/-- A message that has nothing loaded leaves the whole configuration alone, unless the selectors
are computed because the client is ready. -/
theorem exists_rest_of_handle (environment : Environment) (client : Client)
    (hkeeps : incoming.reloads = false)
    (hready : incoming ≠ .introduced) (hphase : session.phase ≠ .fresh) :
    ∃ phase documents registrar installed ledger, phase ≠ .fresh ∧
      (session.handle environment client incoming).2.session =
        { session with phase, documents, registrar, installed, ledger } := by
  cases incoming with
  | introduce introduction => simp [Incoming.reloads] at hkeeps
  | introduced => exact absurd rfl hready
  | shutDown => exact ⟨.closed, _, _, _, _, nofun, rfl⟩
  | opened uri language text version =>
    obtain ⟨documents, hopened⟩ :=
      exists_documents_of_openDocument uri.url? ⟨text, language, version⟩ session
    refine ⟨session.phase, documents, session.registrar, session.installed, session.ledger, hphase,
      ?_⟩
    rw [handle, still, hopened, withDocuments]
  | changed uri version texts =>
    obtain ⟨documents, hrevised⟩ :=
      exists_documents_of_reviseDocument uri.url? texts.getLast? version session
    refine ⟨session.phase, documents, session.registrar, session.installed, session.ledger, hphase,
      ?_⟩
    rw [handle, still, hrevised, withDocuments]
  | closed uri =>
    obtain ⟨documents, hclosed⟩ := exists_documents_of_closeDocument uri.url? session
    refine ⟨session.phase, documents, session.registrar, session.installed, session.ledger, hphase,
      ?_⟩
    rw [handle, still, hclosed, withDocuments]
  | configured settings =>
    have hnone : settingsSection? settings = none := by
      simpa [Incoming.reloads] using hkeeps
    have hstill : (session.handle environment client (.configured settings)).2.session =
        session := by
      simp only [handle, configure, hnone, still]
    exact ⟨session.phase, _, _, _, _, hphase, hstill⟩
  | refoldered added removed => simp [Incoming.reloads] at hkeeps
  | filesChanged uris =>
    have hunwatched : (uris.filterMap Uri.path?).any Config.isWatched = false := hkeeps
    have hstill : (session.handle environment client (.filesChanged uris)).2.session =
        session := by
      simp only [handle, noteFiles, hunwatched, still, Bool.false_eq_true, if_false]
    exact ⟨session.phase, _, _, _, _, hphase, hstill⟩
  | format uri =>
    obtain ⟨installed, ledger, hformatted⟩ :=
      exists_rest_of_formatDocument environment uri.url? none session
    refine ⟨session.phase, session.documents, session.registrar, installed, ledger, hphase, ?_⟩
    rw [handle, ← hformatted]
  | formatRange uri range =>
    obtain ⟨installed, ledger, hformatted⟩ :=
      exists_rest_of_formatDocument environment uri.url? (some range) session
    refine ⟨session.phase, session.documents, session.registrar, installed, ledger, hphase, ?_⟩
    rw [handle, ← hformatted]

/-- A message that has everything loaded, and is not the first, has the selectors computed. -/
theorem isLoaded_of_reloads (environment : Environment) (client : Client) (session : Session)
    (hreloads : incoming.reloads = true)
    (hincoming : ∀ introduction, incoming ≠ .introduce introduction) :
    let after := (session.handle environment client incoming).2.session
    after.phase = session.phase ∧ after.client = incoming.given?.or session.client ∧
      after.IsLoaded environment ∧ after.selectors = after.computeSelectors := by
  have hafter : ∀ before : Session, ∃ registrar,
      (before.reloadAndRefresh environment client).session =
        { (before.reload environment).session.storeSelectors with registrar } :=
    fun before => exists_registrar_of_refresh client (before.reload environment).session
  have hspec : ∀ before : Session,
      let after := (before.reloadAndRefresh environment client).session
      after.phase = before.phase ∧ after.client = before.client ∧
        after.IsLoaded environment ∧ after.selectors = after.computeSelectors := by
    intro before
    obtain ⟨registrar, hregistrar⟩ := hafter before
    have hloaded := isLoaded_reload environment before
    simp only [hregistrar]
    exact ⟨rfl, rfl, ⟨hloaded.settings, hloaded.folderLanguages⟩, rfl⟩
  cases incoming with
  | introduce introduction => exact absurd rfl (hincoming introduction)
  | configured settings =>
    obtain ⟨given, hgiven⟩ := Option.isSome_iff_exists.mp hreloads
    simp only [handle, configure, Incoming.given?, hgiven, Option.map_some, Option.some_or]
    exact hspec _
  | refoldered added removed => exact hspec _
  | filesChanged uris =>
    have hwatched : (uris.filterMap Uri.path?).any Config.isWatched = true := hreloads
    simp only [handle, noteFiles, hwatched, if_true]
    exact hspec _
  | introduced | shutDown | opened | changed | closed | format | formatRange =>
    simp [Incoming.reloads] at hreloads

end Session

end FormatServer
