import FormatServer.Disk.Environment
import FormatServer.Json.Value
import FormatServer.Language.Table
import FormatServer.Report
import FormatServer.Settings.Resolved
import FormatServer.Toml.Document

/-!
Where settings come from: the defaults, a file of the user, a file of the project and the client,
each laid over the ones before it. A source that cannot be read is left out and reported.
-/

namespace FormatServer

/-- The name of a settings file. -/
def settingsFileName : String := "prettier-ls.toml"

/-- Something to tell about the loading of settings. -/
inductive Notice where
  | info (message : String)
  | warning (message : String)
  deriving DecidableEq

namespace Notice

def isWarning : Notice → Bool
  | warning _ => true
  | info _ => false

def message : Notice → String
  | info message => message
  | warning message => message

end Notice

/-- Why a settings file gives no layer. -/
inductive LayerError where
  | unreadable (error : IoError)
  | malformed (reason : String)
  deriving DecidableEq

namespace LayerError

def reason : LayerError → String
  | unreadable error => error.message
  | malformed reason => reason

end LayerError

namespace Layer

/-- The layer that a settings file's text writes. In a list of options more items may follow. -/
def ofToml (text : String) : Except LayerError Layer :=
  match Toml.read text with
  | .error error => .error (.malformed error.message)
  | .ok data =>
    match decodeWith .ignored data with
    | .error error => .error (.malformed error.message)
    | .ok layer => .ok layer

/-- The layer of a settings file; none if there is no such file. -/
def ofFile (environment : Environment) (file : Path) : Option (Except LayerError Layer) :=
  if environment.contains file then
    match environment.readText file with
    | .error error => some (.error (.unreadable error))
    | .ok text => some (ofToml text)
  else none

end Layer

namespace Environment

/-- The directory for configuration files of the user. One that is no text counts only if it is
absolute. -/
def configDirectory? (environment : Environment) : Option Path :=
  let isUsed := fun directory : Path =>
    directory.glyphs ≠ [] && (directory.isText || directory.isAbsolute)
  match environment.configHome.filter isUsed with
  | some directory => some directory
  | none => (environment.home.filter (·.glyphs ≠ [])).map fun home => home.join ".config"

/-- The user's settings file, whether or not it exists. -/
def userSettingsFile? (environment : Environment) : Option Path :=
  environment.configDirectory?.map fun directory =>
    (directory.join "prettier-ls").join settingsFileName

/-- The user's layer and the file it comes from; none if there is no such file. -/
def userLayer (environment : Environment) : Option (Path × Except LayerError Layer) :=
  environment.userSettingsFile?.bind fun file =>
    (Layer.ofFile environment file).map fun layer => (file, layer)

end Environment

/-- The ways in which a client gives settings. -/
inductive ClientSource where
  | initialOptions
  | configuration
  deriving DecidableEq

namespace ClientSource

def description : ClientSource → String
  | initialOptions => "initialization options"
  | configuration => "client configuration"

end ClientSource

/-- The key under which a client may put the settings. -/
def sectionKey : String := "prettier"

/-- The settings in what a client reports as changed; none if the change is none of ours. -/
def settingsSection? (data : Data) : Option Data :=
  match data with
  | .record fields =>
    match fields.lookup sectionKey with
    | some inner => some inner
    | none =>
      if fields.any fun field => Layer.fieldNames.contains field.1 then some data else none
  | _ => none

/-- The settings without the key that they may be under. -/
def withoutSectionKey (data : Data) : Data :=
  (data.field? sectionKey).getD data

/-- A layer, if the source has one, and what to tell about it. -/
structure LoadedLayer where
  layer : Option Layer
  notices : List Notice

namespace LoadedLayer

def absent : LoadedLayer :=
  ⟨none, []⟩

def userFailure (file : Path) : LayerError → String
  | .unreadable error => "failed to read " ++ file.text ++ ": " ++ error.message
  | .malformed reason => "failed to parse " ++ file.text ++ ": " ++ reason

def ofUser (environment : Environment) : LoadedLayer :=
  match environment.userLayer with
  | none => absent
  | some (_, .ok layer) => ⟨some layer, [.info "Loaded user config from XDG_CONFIG_HOME"]⟩
  | some (file, .error error) =>
    ⟨none, [.warning ("Failed to load user config: " ++ userFailure file error)]⟩

def projectFailure : LayerError → String
  | .unreadable error => "Failed to read " ++ settingsFileName ++ ": " ++ error.message
  | .malformed reason => "Failed to parse " ++ settingsFileName ++ ": " ++ reason

/-- The layer of a folder's settings file. -/
def ofFolder (environment : Environment) (folder : Path) : LoadedLayer :=
  let file := folder.join settingsFileName
  let found := Notice.info ("Found config file: " ++ file.text)
  match Layer.ofFile environment file with
  | none => absent
  | some (.ok layer) =>
    ⟨some layer, [found, .info ("Successfully loaded " ++ settingsFileName)]⟩
  | some (.error error) => ⟨none, [found, .warning (projectFailure error)]⟩

def ofProject (environment : Environment) : Option Path → LoadedLayer
  | none => absent
  | some root => ofFolder environment root

/-- The client's layer. A client that sends null has none. -/
def ofClient : Option (ClientSource × Data) → LoadedLayer
  | none => absent
  | some (_, .null) => absent
  | some (source, data) =>
    match Layer.decode (withoutSectionKey data) with
    | .ok layer =>
      ⟨some layer, [.info ("Parsed " ++ source.description ++ " as prettier settings")]⟩
    | .error error =>
      ⟨none, [.warning ("Failed to parse " ++ source.description ++ ": " ++ error.message)]⟩

end LoadedLayer

structure LoadedSettings where
  settings : Option Settings
  notices : List Notice

namespace Settings

def legacyNotice (settings : Settings) : List Notice :=
  if settings.legacyKeys = [] then []
  else [.warning ("Deprecated settings in use: " ++ ", ".intercalate settings.legacyKeys)]

/-- The settings of all sources together, and what to tell about them. -/
def load (environment : Environment) (root : Option Path) (client : Option (ClientSource × Data)) :
    LoadedSettings :=
  let user := LoadedLayer.ofUser environment
  let project := LoadedLayer.ofProject environment root
  let client := LoadedLayer.ofClient client
  let settings := (Layer.merged [some Layer.defaults, user.layer, project.layer, client.layer]).map
    ofLayer
  ⟨settings, user.notices ++ project.notices ++ client.notices ++
    (settings.map legacyNotice).getD []⟩

end Settings

namespace FolderLanguages

/-- The languages that the settings files of the folders add. A file that cannot be read adds
none. -/
def load (environment : Environment) (folders : List Path) : FolderLanguages :=
  ofList (folders.filterMap fun folder =>
    ((LoadedLayer.ofFolder environment folder).layer.bind Layer.languages).map fun languages =>
      (folder, languages))

/-- The lines that go to the log while the languages are loaded. The warnings about a folder's file
are written when its languages have been found. -/
def logLines (environment : Environment) (folders : List Path) : List LogLine :=
  folders.flatMap fun folder =>
    let loaded := LoadedLayer.ofFolder environment folder
    match loaded.layer.bind Layer.languages with
    | none => []
    | some _ => (loaded.notices.filter Notice.isWarning).map fun notice =>
      ⟨.warning, .settings, notice.message⟩

end FolderLanguages

end FormatServer
