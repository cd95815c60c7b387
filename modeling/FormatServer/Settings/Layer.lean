import FormatServer.Language.Map
import FormatServer.Settings.Style

/-!
Settings as one source gives them, and the layers of several sources merged. Whatever a layer
leaves unset is taken from the layers below it.
-/

namespace FormatServer

structure Layer where
  disableLanguages : Option (List String) := none
  requireConfig : Option Bool := none
  configPath : Option String := none
  ignorePath : Option String := none
  useEditorConfig : Option Bool := none
  prettierPath : Option String := none
  languages : Option LanguageMap := none
  options : Option Style := none
  eslintIntegration : Option Bool := none
  tslintIntegration : Option Bool := none
  stylelintIntegration : Option Bool := none
  deriving DecidableEq, Inhabited

/-- Two optional values as one, joined where both are there. -/
def orJoin {α : Type} (join : α → α → α) : Option α → Option α → Option α
  | some primary, some fallback => some (join primary fallback)
  | primary, fallback => primary.or fallback

namespace Layer

/-- The ignore file of a folder for which none is configured. -/
def defaultIgnorePath : String := ".prettierignore"

/-- The lowest layer. -/
def defaults : Layer where
  disableLanguages := some []
  requireConfig := some false
  ignorePath := some defaultIgnorePath
  useEditorConfig := some true
  options := some {}

def withFallback (primary fallback : Layer) : Layer where
  disableLanguages := primary.disableLanguages.or fallback.disableLanguages
  requireConfig := primary.requireConfig.or fallback.requireConfig
  configPath := primary.configPath.or fallback.configPath
  ignorePath := primary.ignorePath.or fallback.ignorePath
  useEditorConfig := primary.useEditorConfig.or fallback.useEditorConfig
  prettierPath := primary.prettierPath.or fallback.prettierPath
  languages := orJoin LanguageMap.withFallback primary.languages fallback.languages
  options := orJoin Style.withFallback primary.options fallback.options
  eslintIntegration := primary.eslintIntegration.or fallback.eslintIntegration
  tslintIntegration := primary.tslintIntegration.or fallback.tslintIntegration
  stylelintIntegration := primary.stylelintIntegration.or fallback.stylelintIntegration

/-- A layer laid over the ones below it, where either may be missing. -/
def stack (below above : Option Layer) : Option Layer :=
  orJoin withFallback above below

/-- The layers merged, of which later ones lie above earlier ones. -/
def merged (layers : List (Option Layer)) : Option Layer :=
  layers.foldl stack none

/-- The keys that are read and no longer used, with the values that the layer has for them. -/
def legacyFlags (layer : Layer) : List (String × Option Bool) :=
  [("eslintIntegration", layer.eslintIntegration),
    ("tslintIntegration", layer.tslintIntegration),
    ("stylelintIntegration", layer.stylelintIntegration)]

/-- The unused keys that the layer sets. -/
def legacyKeys (layer : Layer) : List String :=
  (layer.legacyFlags.filter fun flag => flag.2.isSome).map Prod.fst

def fieldNames : List String :=
  ["disableLanguages", "requireConfig", "configPath", "ignorePath", "useEditorConfig",
    "prettierPath", "languages", "options", "eslintIntegration", "tslintIntegration",
    "stylelintIntegration"]

def decodeLanguages : Data.Decoder LanguageMap := fun data =>
  (Data.decodeMap (Data.decodeList Data.decodeText) data).map LanguageMap.ofList

def decodeWith (surplus : Data.Surplus) : Data.Decoder Layer := fun data => do
  let fields ← Data.decodeFields surplus fieldNames data
  let bool := Data.decodeOptional Data.decodeBool fields
  let text := Data.decodeOptional Data.decodeText fields
  return {
    disableLanguages :=
      ← Data.decodeOptional (Data.decodeList Data.decodeText) fields "disableLanguages"
    requireConfig := ← bool "requireConfig"
    configPath := ← text "configPath"
    ignorePath := ← text "ignorePath"
    useEditorConfig := ← bool "useEditorConfig"
    prettierPath := ← text "prettierPath"
    languages := ← Data.decodeOptional decodeLanguages fields "languages"
    options := ← Data.decodeOptional (Style.decodeWith surplus) fields "options"
    eslintIntegration := ← bool "eslintIntegration"
    tslintIntegration := ← bool "tslintIntegration"
    stylelintIntegration := ← bool "stylelintIntegration" }

def decode : Data.Decoder Layer :=
  decodeWith .refused

end Layer

end FormatServer
