/-!
The languages that need no configuration. The order counts: the first language that fits is taken.
-/

namespace FormatServer

structure Language where
  name : String
  ids : List String
  parsers : List String
  /-- The ends of the file names of the language. A language without them has only the files that
  it names. -/
  extensions : List String
  fileNames : List String
  deriving DecidableEq

namespace Language

def builtin : List Language := [
  { name := "JavaScript"
    ids := ["javascript", "mongo"]
    parsers := ["babel", "acorn", "espree", "meriyah", "flow", "babel-flow"]
    extensions := [".js", ".cjs", ".mjs", ".es6", ".jsb", ".jsm"]
    fileNames := ["Jakefile"] },
  { name := "JSX"
    ids := ["javascriptreact"]
    parsers := ["babel", "flow", "babel-flow"]
    extensions := [".jsx"]
    fileNames := [] },
  { name := "TypeScript"
    ids := ["typescript"]
    parsers := ["typescript", "babel-ts"]
    extensions := [".ts", ".cts", ".mts"]
    fileNames := [] },
  { name := "TSX"
    ids := ["typescriptreact"]
    parsers := ["typescript", "babel-ts"]
    extensions := [".tsx"]
    fileNames := [] },
  { name := "JSON.stringify"
    ids := ["json"]
    parsers := ["json-stringify"]
    extensions := []
    fileNames := ["package.json", "package-lock.json", "composer.json"] },
  { name := "JSON"
    ids := ["json"]
    parsers := ["json"]
    extensions := [".json", ".4DForm", ".4DProject", ".avsc", ".geojson", ".webmanifest"]
    fileNames := [".prettierrc", ".babelrc", ".jscsrc", ".jshintrc"] },
  { name := "JSON with Comments"
    ids := ["jsonc"]
    parsers := ["json"]
    extensions := [".jsonc", ".code-workspace"]
    fileNames := [".eslintrc", ".swcrc"] },
  { name := "JSON5"
    ids := ["json5"]
    parsers := ["json5"]
    extensions := [".json5"]
    fileNames := [] },
  { name := "CSS"
    ids := ["css"]
    parsers := ["css"]
    extensions := [".css", ".wxss"]
    fileNames := [] },
  { name := "PostCSS"
    ids := ["postcss"]
    parsers := ["css"]
    extensions := [".pcss", ".postcss"]
    fileNames := [] },
  { name := "Less"
    ids := ["less"]
    parsers := ["less"]
    extensions := [".less"]
    fileNames := [] },
  { name := "SCSS"
    ids := ["scss"]
    parsers := ["scss"]
    extensions := [".scss"]
    fileNames := [] },
  { name := "GraphQL"
    ids := ["graphql"]
    parsers := ["graphql"]
    extensions := [".graphql", ".gql", ".graphqls"]
    fileNames := [] },
  { name := "Markdown"
    ids := ["markdown"]
    parsers := ["markdown"]
    extensions := [".md", ".markdown", ".mkd", ".mkdn", ".mdown", ".ronn"]
    fileNames := ["contents.lr", "README"] },
  { name := "MDX"
    ids := ["mdx"]
    parsers := ["mdx"]
    extensions := [".mdx"]
    fileNames := [] },
  { name := "Vue"
    ids := ["vue"]
    parsers := ["vue"]
    extensions := [".vue"]
    fileNames := [] },
  { name := "HTML"
    ids := ["html"]
    parsers := ["html"]
    extensions := [".html", ".htm", ".html.hl", ".inc", ".xht", ".xhtml"]
    fileNames := [] },
  { name := "Handlebars"
    ids := ["handlebars"]
    parsers := ["glimmer"]
    extensions := [".handlebars", ".hbs"]
    fileNames := [] },
  { name := "YAML"
    ids := ["yaml", "ansible", "home-assistant"]
    parsers := ["yaml"]
    extensions := [".yml", ".yaml", ".sublime-syntax", ".syntax"]
    fileNames := [".prettierrc", ".stylelintrc", ".lintstagedrc"] }]

/-- The languages in which a part of a document can be formatted on its own. -/
def rangeIds : List String :=
  ["javascript", "javascriptreact", "typescript", "typescriptreact", "json", "graphql"]

/-- The languages that the formatter with ESLint takes. -/
def eslintIds : List String :=
  ["javascript", "javascriptreact", "typescript", "typescriptreact", "vue"]

/-- The parsers that the formatter with Stylelint takes. -/
def stylelintParsers : List String :=
  ["css", "less", "scss"]

def hasExtension (language : Language) (baseName : String) : Bool :=
  language.extensions.any fun extension => extension.toList.isSuffixOf baseName.toList

def fits (language : Language) (baseName : String) : Bool :=
  language.fileNames.contains baseName || language.hasExtension baseName

/-- Whether the language has this id and takes a file of that name, if there is a file. -/
def takes (language : Language) (id : String) (baseName : Option String) : Bool :=
  language.ids.contains id &&
    (!language.extensions.isEmpty || baseName.any language.fileNames.contains)

end Language

end FormatServer
