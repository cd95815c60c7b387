import FormatServer.Data.Decoding

/-!
The options of the code style, each of which may be left to the engine.
-/

namespace FormatServer

structure Style where
  printWidth : Option UInt32 := none
  tabWidth : Option UInt32 := none
  useTabs : Option Bool := none
  semi : Option Bool := none
  singleQuote : Option Bool := none
  jsxSingleQuote : Option Bool := none
  trailingComma : Option String := none
  bracketSpacing : Option Bool := none
  arrowParens : Option String := none
  proseWrap : Option String := none
  endOfLine : Option String := none
  quoteProps : Option String := none
  deriving DecidableEq, Inhabited

namespace Style

/-- The options of `primary`, and those of `fallback` that it leaves unset. -/
def withFallback (primary fallback : Style) : Style where
  printWidth := primary.printWidth.or fallback.printWidth
  tabWidth := primary.tabWidth.or fallback.tabWidth
  useTabs := primary.useTabs.or fallback.useTabs
  semi := primary.semi.or fallback.semi
  singleQuote := primary.singleQuote.or fallback.singleQuote
  jsxSingleQuote := primary.jsxSingleQuote.or fallback.jsxSingleQuote
  trailingComma := primary.trailingComma.or fallback.trailingComma
  bracketSpacing := primary.bracketSpacing.or fallback.bracketSpacing
  arrowParens := primary.arrowParens.or fallback.arrowParens
  proseWrap := primary.proseWrap.or fallback.proseWrap
  endOfLine := primary.endOfLine.or fallback.endOfLine
  quoteProps := primary.quoteProps.or fallback.quoteProps

def fieldNames : List String :=
  ["printWidth", "tabWidth", "useTabs", "semi", "singleQuote", "jsxSingleQuote", "trailingComma",
    "bracketSpacing", "arrowParens", "proseWrap", "endOfLine", "quoteProps"]

def decodeWith (surplus : Data.Surplus) : Data.Decoder Style := fun data => do
  let fields ← Data.decodeFields surplus fieldNames data
  let word := Data.decodeOptional Data.decodeWord fields
  let bool := Data.decodeOptional Data.decodeBool fields
  let text := Data.decodeOptional Data.decodeText fields
  return {
    printWidth := ← word "printWidth"
    tabWidth := ← word "tabWidth"
    useTabs := ← bool "useTabs"
    semi := ← bool "semi"
    singleQuote := ← bool "singleQuote"
    jsxSingleQuote := ← bool "jsxSingleQuote"
    trailingComma := ← text "trailingComma"
    bracketSpacing := ← bool "bracketSpacing"
    arrowParens := ← text "arrowParens"
    proseWrap := ← text "proseWrap"
    endOfLine := ← text "endOfLine"
    quoteProps := ← text "quoteProps" }

def decode : Data.Decoder Style :=
  decodeWith .refused

/-- The options that are set. -/
def data (style : Style) : Data :=
  let word := Option.map fun value : UInt32 => Data.ofNat value.toNat
  let bool := Option.map Data.bool
  let text := Option.map Data.text
  Data.ofFields [
    ("printWidth", word style.printWidth),
    ("tabWidth", word style.tabWidth),
    ("useTabs", bool style.useTabs),
    ("semi", bool style.semi),
    ("singleQuote", bool style.singleQuote),
    ("jsxSingleQuote", bool style.jsxSingleQuote),
    ("trailingComma", text style.trailingComma),
    ("bracketSpacing", bool style.bracketSpacing),
    ("arrowParens", text style.arrowParens),
    ("proseWrap", text style.proseWrap),
    ("endOfLine", text style.endOfLine),
    ("quoteProps", text style.quoteProps)]

end Style

end FormatServer
