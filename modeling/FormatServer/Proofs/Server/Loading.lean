import FormatServer.Proofs.Settings.Folders
import FormatServer.Server.Answer

/-!
# What a session has loaded

Whatever was in force before, a reload leaves the settings of all sources and the languages of all
folders as they are then. A session that has begun has loaded both once, and its selectors come
from them.
-/

namespace FormatServer

/-- A disk with one settings file, in the folder at this place, and nothing else around it. -/
def Environment.ofSettings (folder : Location) (text : String) : Environment where
  disk := Disk.empty.place (folder ++ [Segment.ofString settingsFileName]) (.file (Utf8.encode text))
  directory := []
  home := none
  searchPath := none
  configHome := none

/-- A client that registers nothing opens folders. -/
def Introduction.ofFolders (folders : List String) : Introduction where
  capabilities := .none
  folders := folders.map Uri.mk
  root := none
  options := none

namespace Session

theorem settings_reload (environment : Environment) (session : Session) :
    (session.reload environment).session.settings =
      (session.readSettings environment).settings.getD session.settings :=
  rfl

theorem languages_reload (environment : Environment) (session : Session) :
    (session.reload environment).session.languages =
      ⟨(session.reload environment).session.settings.languages,
        .load environment session.folders⟩ :=
  rfl

/-- The highest source that has a language gives its parsers. -/
theorem general_reload (environment : Environment) (session : Session) (language : String) :
    (session.reload environment).session.settings.languages.get? language =
      (Settings.layers environment session.root session.client).reverse.findSome?
        (Layer.parsers? · language) := by
  obtain ⟨settings, hsettings, hlanguages, -⟩ :=
    Settings.exists_settings_of_load environment session.root session.client
  rw [settings_reload, readSettings, hsettings]
  exact hlanguages language

theorem disabled_reload (environment : Environment) (session : Session) :
    (session.reload environment).session.settings.disableLanguages =
      ((Settings.layers environment session.root session.client).reverse.findSome?
        (·.bind Layer.disableLanguages)).getD [] := by
  obtain ⟨settings, hsettings, -, hdisabled⟩ :=
    Settings.exists_settings_of_load environment session.root session.client
  rw [settings_reload, readSettings, hsettings]
  exact hdisabled

/-! ### The beginning -/

theorem session_register (client : Client) (session : Session) :
    (session.register client).session = { session with
      registrar := (session.registrar.replace client session.selectors).2.1 } := by
  rw [Session.register]
  split
  next result registrar exchanges hreplace =>
    rw [hreplace]
    cases result with
    | ok _ => rfl
    | error _ => rfl

theorem exists_registrar_of_refresh (client : Client) (session : Session) :
    ∃ registrar, (session.refresh client).session = { session.storeSelectors with registrar } := by
  rw [refresh]
  dsimp only
  split
  next => exact ⟨_, session_register client session.storeSelectors⟩
  next => exact ⟨session.registrar, rfl⟩

theorem client_refresh (client : Client) (session : Session) :
    (session.refresh client).session.client = session.client := by
  obtain ⟨registrar, hrefresh⟩ := exists_registrar_of_refresh client session
  rw [hrefresh]
  rfl

/-- A change that is for the server leaves its settings as the client's. -/
theorem client_configure (environment : Environment) (client : Client) {session : Session}
    {change settings : Data} (hchange : settingsSection? change = some settings) :
    (session.configure environment client change).session.client =
      some (.configuration, settings) := by
  rw [configure, hchange]
  exact client_refresh client _

theorem watchConfig_session (client : Client) (session : Session) :
    (session.watchConfig client).session = session := by
  rw [watchConfig]
  split
  next => rfl
  next => rfl

/-- A session that is ready has its selectors, and may have registered the formatter. -/
theorem exists_registrar_of_ready (client : Client) (session : Session) :
    ∃ registrar, (session.ready client).session = { session.storeSelectors with registrar } := by
  obtain ⟨registrar, hrefresh⟩ := exists_registrar_of_refresh client session
  refine ⟨registrar, ?_⟩
  rw [← hrefresh, ready]
  simp only [Progress.andThen, watchConfig_session, send]

/-- A session after both messages with which a client begins it. -/
def begun (environment : Environment) (client : Client) (introduction : Introduction) : Session :=
  let started := (initial.handle environment client (.introduce introduction)).2.session
  (started.handle environment client .introduced).2.session

/-- A session with the settings of the introduction, which is yet to load them. -/
def introduced (environment : Environment) (introduction : Introduction) : Session :=
  let folders := introduction.folders.filterMap Uri.path?
  { initial with
    phase := .running
    capabilities := introduction.capabilities
    folders
    root := folders.head?.or
      ((introduction.root.bind Uri.path?).or (some environment.directory.path))
    client := introduction.options.map fun options => (.initialOptions, options) }

theorem start_initial (environment : Environment) (introduction : Introduction) :
    initial.start environment introduction =
      (introduced environment introduction).reload environment := by
  rw [start]
  cases hoptions : introduction.options with
  | none => simp [introduced, hoptions, initial]
  | some options => simp [introduced, hoptions, initial]

/-- The session once it has loaded them. -/
def loaded (environment : Environment) (introduction : Introduction) : Session :=
  ((introduced environment introduction).reload environment).session

theorem exists_registrar_of_begun (environment : Environment) (client : Client)
    (introduction : Introduction) :
    ∃ registrar, begun environment client introduction =
      { (loaded environment introduction).storeSelectors with registrar } := by
  obtain ⟨registrar, hready⟩ := exists_registrar_of_ready client (loaded environment introduction)
  refine ⟨registrar, ?_⟩
  rw [← hready, loaded, ← start_initial]
  rfl

theorem languages_begun (environment : Environment) (client : Client)
    (introduction : Introduction) :
    (begun environment client introduction).languages =
      (loaded environment introduction).languages := by
  obtain ⟨registrar, hbegun⟩ := exists_registrar_of_begun environment client introduction
  rw [hbegun]
  rfl

theorem selectors_begun (environment : Environment) (client : Client)
    (introduction : Introduction) :
    (begun environment client introduction).selectors =
      (loaded environment introduction).computeSelectors := by
  obtain ⟨registrar, hbegun⟩ := exists_registrar_of_begun environment client introduction
  rw [hbegun]
  rfl

end Session

end FormatServer
