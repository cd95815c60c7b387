import FormatServer.Path.Basic
import FormatServer.Settings.Style
import FormatServer.Text.Line

/-!
The options of one run of a formatter and the arguments that say them.
-/

namespace FormatServer

structure Options where
  parser : String
  file : Option Path
  /-- The configuration file that applies; its style stands in for the fallback. -/
  configFile : Option Path
  useEditorConfig : Bool
  fallback : Style
  span : Option Span
  deriving DecidableEq

namespace Style

def numberArgument (name : String) (value : Option UInt32) : List String :=
  value.toList.map fun value => "--" ++ name ++ "=" ++ toString value.toNat

def textArgument (name : String) (value : Option String) : List String :=
  value.toList.map fun value => "--" ++ name ++ "=" ++ value

/-- A switch is an argument only where it differs from what the formatter does by itself. -/
def switchArgument (argument : String) (when : Bool) (value : Option Bool) : List String :=
  if value = some when then [argument] else []

def arguments (style : Style) : List String :=
  numberArgument "print-width" style.printWidth ++
  numberArgument "tab-width" style.tabWidth ++
  switchArgument "--use-tabs" true style.useTabs ++
  switchArgument "--no-semi" false style.semi ++
  switchArgument "--single-quote" true style.singleQuote ++
  switchArgument "--jsx-single-quote" true style.jsxSingleQuote ++
  textArgument "trailing-comma" style.trailingComma ++
  switchArgument "--no-bracket-spacing" false style.bracketSpacing ++
  textArgument "arrow-parens" style.arrowParens ++
  textArgument "prose-wrap" style.proseWrap ++
  textArgument "end-of-line" style.endOfLine ++
  textArgument "quote-props" style.quoteProps

end Style

namespace Options

/-- The arguments for the fallback style, which a configuration file replaces. -/
def styleArguments (options : Options) : List String :=
  if options.configFile.isSome then [] else options.fallback.arguments

def configArgument : Option Path → String
  | some file => "--config=" ++ file.text
  | none => "--no-config"

def spanArguments (span : Option Span) : List String :=
  span.toList.flatMap fun span =>
    ["--range-start=" ++ toString span.start, "--range-end=" ++ toString span.stop]

def fileArgument (file : Option Path) : List String :=
  file.toList.map fun file => "--stdin-filepath=" ++ file.text

/-- The arguments of the engine. -/
def engineArguments (options : Options) : List String :=
  ["--parser=" ++ options.parser, configArgument options.configFile] ++
    (if options.useEditorConfig then [] else ["--no-editorconfig"]) ++
    options.styleArguments ++ spanArguments options.span ++ fileArgument options.file

/-- The arguments of a formatter with a linter. -/
def linterArguments (options : Options) : List String :=
  ["--stdin"] ++ fileArgument options.file ++ ["--parser=" ++ options.parser] ++
    options.styleArguments

end Options

end FormatServer
