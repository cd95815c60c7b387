import FormatServer.Engine.Installed
import FormatServer.Pipeline.Format
import FormatServer.Server.Documents
import FormatServer.Server.Incoming
import FormatServer.Server.Message

/-!
One session with a client. The settings, the languages of the folders and the selectors are each
kept as they were last computed; they are computed anew whenever something they come from changes.
-/

namespace FormatServer

inductive Phase where
  | fresh
  | running
  | closed
  deriving DecidableEq

structure Session where
  phase : Phase
  capabilities : Capabilities
  root : Option Path
  folders : List Path
  settings : Settings
  folderLanguages : FolderLanguages
  /-- The settings that the client gave last, and how. -/
  client : Option (ClientSource × Data)
  selectors : Selectors
  documents : Documents
  registrar : Registrar
  installed : Installed
  ledger : Ledger

/-- What a session does while it handles a message. -/
inductive Effect where
  | sent (message : Message)
  | logged (line : LogLine)
  deriving DecidableEq

namespace Effect

def ofExchange : Exchange → Effect
  | .sent request => sent (.request request)
  | .logged line => logged line

def failureNote : String :=
  "Formatting failed; the document was left unchanged. See the server log for details."

/-- What the client and the log get to see of a run. -/
def ofEvent : Event → List Effect
  | .asked _ => []
  | .logged line => [logged line]
  | .warned _ text =>
    [logged ⟨.warning, .status, text⟩, sent (.showMessage .warning text)]
  | .status .error => [sent (.status .error), sent (.logMessage .error failureNote)]
  | .status status => [sent (.status status)]

end Effect

/-- A session with what it did so far. -/
structure Progress where
  session : Session
  effects : List Effect

namespace Progress

def andThen (progress : Progress) (next : Session → Progress) : Progress :=
  let after := next progress.session
  ⟨after.session, progress.effects ++ after.effects⟩

end Progress

namespace Session

def initial : Session where
  phase := .fresh
  capabilities := .none
  root := none
  folders := []
  settings := .defaults
  folderLanguages := .empty
  client := none
  selectors := .empty
  documents := .empty
  registrar := .initial
  installed := .empty
  ledger := .empty

def still (session : Session) : Progress :=
  ⟨session, []⟩

def send (message : Message) (session : Session) : Progress :=
  ⟨session, [.sent message]⟩

def workspace (session : Session) : Workspace :=
  ⟨session.settings, session.folders, session.root⟩

def languages (session : Session) : LanguageTable :=
  session.workspace.languages session.folderLanguages

/-! ### Settings and selectors -/

/-- The settings as they are given at the moment. -/
def readSettings (environment : Environment) (session : Session) : LoadedSettings :=
  Settings.load environment session.root session.client

/-- Puts loaded settings in force, and the languages of the folders with them. -/
def applySettings (environment : Environment) (loaded : LoadedSettings) (session : Session) :
    Session :=
  { session with
    settings := loaded.settings.getD session.settings
    folderLanguages := .load environment session.folders }

def reload (environment : Environment) (session : Session) : Progress :=
  let loaded := session.readSettings environment
  ⟨session.applySettings environment loaded,
    (loaded.notices.map fun notice => .sent (.ofNotice notice)) ++
      (FolderLanguages.logLines environment session.folders).map .logged⟩

def computeSelectors (session : Session) : Selectors :=
  Selectors.compute session.languages.scopes session.folders session.settings.disableLanguages

def storeSelectors (session : Session) : Session :=
  { session with selectors := session.computeSelectors }

def registerFailure (reason : String) : Message :=
  .logMessage .warning ("Failed to register formatting providers: " ++ reason)

/-- Registers the formatter with the selectors in force. -/
def register (client : Client) (session : Session) : Progress :=
  match session.registrar.replace client session.selectors with
  | (result, registrar, exchanges) =>
    let session := { session with registrar }
    let effects := exchanges.map Effect.ofExchange
    match result with
    | .ok _ => ⟨session, effects⟩
    | .error reason => ⟨session, effects ++ [.sent (registerFailure reason)]⟩

def refresh (client : Client) (session : Session) : Progress :=
  let session := session.storeSelectors
  if session.capabilities.registersBoth then session.register client else session.still

def reloadAndRefresh (environment : Environment) (client : Client) (session : Session) : Progress :=
  (session.reload environment).andThen (refresh client)

/-! ### Handlers -/

def start (environment : Environment) (introduction : Introduction) (session : Session) :
    Progress :=
  let folders := introduction.folders.filterMap Uri.path?
  let root := folders.head?.or
    ((introduction.root.bind Uri.path?).or (some environment.directory.path))
  let session := { session with
    phase := .running
    capabilities := introduction.capabilities
    folders
    root }
  let session := match introduction.options with
    | none => session
    | some options => { session with client := some (.initialOptions, options) }
  session.reload environment

def watchConfig (client : Client) (session : Session) : Progress :=
  if session.capabilities.registersWatchers then
    let request := ClientRequest.register [Registration.watcher]
    ⟨session, .sent (.request request) :: (client request).toList.map fun reason =>
      .sent (.logMessage .warning ("Failed to watch config files: " ++ reason))⟩
  else session.still

def ready (client : Client) (session : Session) : Progress :=
  ((session.watchConfig client).andThen (refresh client)).andThen
    (send (.logMessage .info "server is ready"))

def finish (client : Client) (session : Session) : Progress :=
  match session.registrar.dispose client with
  | (registrar, exchanges) =>
    ⟨{ session with registrar, phase := .closed, installed := .empty, ledger := .empty },
      exchanges.map Effect.ofExchange⟩

def configure (environment : Environment) (client : Client) (data : Data) (session : Session) :
    Progress :=
  match settingsSection? data with
  | none => session.still
  | some settings =>
    { session with client := some (.configuration, settings) }.reloadAndRefresh environment client

def holds (folders : List Path) (folder : Path) : Bool :=
  folders.any folder.sameAs

/-- The folders without the removed ones, and then those added ones that are not there yet. -/
def changeFolders (folders added removed : List Path) : List Path :=
  added.foldl (fun folders folder => if holds folders folder then folders else folders ++ [folder])
    (folders.filter fun folder => !holds removed folder)

def refolder (environment : Environment) (client : Client) (added removed : List Path)
    (session : Session) : Progress :=
  { session with
    folders := changeFolders session.folders added removed }.reloadAndRefresh environment client

/-- Forgets the formatters that were found if a configuration file changed. -/
def noteFiles (environment : Environment) (client : Client) (files : List Path)
    (session : Session) : Progress :=
  if files.any Config.isWatched then
    { session with installed := .empty }.reloadAndRefresh environment client
  else session.still

/-! ### Documents -/

def withDocuments (session : Session) (documents : Documents) : Session :=
  { session with documents }

/-- Opens a document. Without a URL there is none to open, to revise or to close. -/
def openDocument (url : Option Url) (document : Document) (session : Session) : Session :=
  match url with
  | none => session
  | some url => session.withDocuments (session.documents.insert url document)

/-- Gives a document the last text of a change. -/
def reviseDocument (url : Option Url) (text : Option String) (version : Int) (session : Session) :
    Session :=
  match url, text with
  | some url, some text => session.withDocuments (session.documents.update url text version).2
  | _, _ => session

def closeDocument (url : Option Url) (session : Session) : Session :=
  match url with
  | none => session
  | some url => session.withDocuments (session.documents.erase url).2

/-! ### Formatting -/

/-- Whether a request for the document is served. A client with which the formatter is registered
sends no others. -/
def accepts (session : Session) (url : Url) (language : String) (isRange : Bool) : Bool :=
  if session.capabilities.registersBoth then true
  else if isRange then session.selectors.admitsRange language url.scheme url.toPath?
  else session.selectors.admits language url.scheme url.toPath?

/-- The request to format an open document, if it is served. -/
def request? (session : Session) (url : Url) (isRange : Bool) : Option Request :=
  match session.documents.get? url with
  | none => none
  | some document =>
    if session.accepts url document.language isRange then
      some (Request.ofDocument url document.language document.text)
    else none

/-- The edits that turn a text into the outcome's. -/
def editsFor (source : String) (outcome : Outcome) : List Edit :=
  (outcome.text?.bind (Edit.replacing source)).toList

end Session

namespace Services

/-- The services that find everything on the disk. -/
def standard (environment : Environment) (workspace : Workspace) (languages : LanguageTable) :
    Services Installed where
  engine := Installed.engine environment workspace
  linter := Installed.linter environment workspace
  parsers := languages.parsers
  eslintTakes := Language.eslintIds.contains
  stylelintTakes := Language.stylelintParsers.contains
  ignorePath := workspace.ignorePath
  hasConfig := Config.applies environment
  resolveOptions := Config.resolveOptions environment

end Services

namespace Session

def format (environment : Environment) (request : Request) (session : Session) :
    List Edit × Progress :=
  let services := Services.standard environment session.workspace session.languages
  match Pipeline.format services session.workspace request
      (Run.start session.ledger session.installed) with
  | (outcome, run) =>
    (editsFor request.text outcome,
      ⟨{ session with ledger := run.ledger, installed := run.services },
        run.events.flatMap Effect.ofEvent⟩)

/-- The edits for a document, or for a range of it; none for a document that is not served. -/
def formatDocument (environment : Environment) (url : Option Url) (range : Option Range)
    (session : Session) : Option (List Edit) × Progress :=
  match url.bind fun url => session.request? url range.isSome with
  | none => (none, session.still)
  | some request =>
    let request := request.withSpan (range.map (Text.span request.text))
    match session.format environment request with
    | (edits, progress) => (some edits, progress)

end Session

end FormatServer
