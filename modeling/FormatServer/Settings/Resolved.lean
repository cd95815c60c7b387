import FormatServer.Settings.Layer
import FormatServer.Text.Blank

/-!
The settings in force: merged layers with a value for everything.
-/

namespace FormatServer

structure Settings where
  disableLanguages : List String
  requireConfig : Bool
  configPath : Option String
  ignorePath : String
  useEditorConfig : Bool
  prettierPath : Option String
  languages : LanguageMap
  style : Style
  legacyKeys : List String
  deriving DecidableEq

namespace Settings

/-- A path that is not blank. -/
def writtenPath (path : Option String) : Option String :=
  path.filter fun path => !Text.isAllBlank path

def ofLayer (layer : Layer) : Settings where
  disableLanguages := layer.disableLanguages.getD []
  requireConfig := layer.requireConfig.getD false
  configPath := writtenPath layer.configPath
  ignorePath := layer.ignorePath.getD Layer.defaultIgnorePath
  useEditorConfig := layer.useEditorConfig.getD true
  prettierPath := writtenPath layer.prettierPath
  languages := layer.languages.getD .empty
  style := layer.options.getD {}
  legacyKeys := layer.legacyKeys

def defaults : Settings :=
  ofLayer Layer.defaults

instance : Inhabited Settings := ⟨defaults⟩

def disables (settings : Settings) (language : String) : Bool :=
  settings.disableLanguages.contains language

end Settings

end FormatServer
