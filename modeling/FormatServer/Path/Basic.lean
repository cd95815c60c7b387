import FormatServer.Text.Utf8

/-!
Paths. A path is kept as it was written; two paths are compared by their components, in which
repeated slashes, a slash at the end and inner dots do not count.
-/

namespace FormatServer

structure Path where
  glyphs : List Glyph
  deriving DecidableEq, Inhabited

/-- What stands between two slashes. -/
abbrev Segment := List Glyph

inductive Component where
  | root
  | here
  | up
  | name (value : Segment)
  deriving DecidableEq

namespace Segment

def ofString (text : String) : Segment :=
  text.toList.map .char

def here : Segment := [.char '.']

def up : Segment := [.char '.', .char '.']

/-- Whether the segment adds nothing to the path before it. -/
def isEmpty (segment : Segment) : Bool :=
  segment = [] || segment = here

def component? (segment : Segment) : Option Component :=
  if isEmpty segment then none
  else if segment = up then some .up
  else some (.name segment)

/-- The segment's text, unless it has bytes that are no text. -/
def text? (segment : Segment) : Option String :=
  (segment.mapM Glyph.char?).map String.ofList

end Segment

namespace Path

def slash : Glyph := .char '/'

def ofString (text : String) : Path :=
  ⟨text.toList.map .char⟩

instance : Coe String Path := ⟨ofString⟩

/-- The path's own text. -/
def text (path : Path) : String :=
  String.ofList (path.glyphs.map Glyph.shown)

/-- Whether all of the path is text. -/
def isText (path : Path) : Bool :=
  path.glyphs.all fun glyph => glyph.char?.isSome

def segments : List Glyph → List Segment
  | [] => [[]]
  | glyph :: rest =>
    if glyph = slash then [] :: segments rest
    else match segments rest with
      | [] => [[glyph]]
      | first :: more => (glyph :: first) :: more

def joined : List Segment → List Glyph
  | [] => []
  | [segment] => segment
  | segment :: more => segment ++ slash :: joined more

def isAbsolute (path : Path) : Bool :=
  path.glyphs.head? = some slash

/-- The mark before the names, which is the root's slash or a leading dot, and what follows it. -/
def lead (path : Path) : List Glyph × List Glyph :=
  match path.glyphs with
  | [] => ([], [])
  | first :: rest =>
    if first = slash then ([first], rest)
    else if first = .char '.' ∧ (rest = [] ∨ rest.head? = some slash) then ([first], rest)
    else ([], first :: rest)

def leadComponents (mark : List Glyph) : List Component :=
  if mark = [] then [] else if mark = [slash] then [.root] else [.here]

def components (path : Path) : List Component :=
  leadComponents path.lead.1 ++ (segments path.lead.2).filterMap Segment.component?

/-- The number of components. -/
def depth (path : Path) : Nat :=
  path.components.length

def sameAs (first second : Path) : Bool :=
  first.components = second.components

/-- Whether the folder is the path or one that it lies in. -/
def isIn (path folder : Path) : Bool :=
  folder.components.isPrefixOf path.components

def isStrictlyIn (path folder : Path) : Bool :=
  path.isIn folder && !path.sameAs folder

/-- The paths above one with these segments, which are listed from the last, nearest first. -/
def above (mark : List Glyph) : List Segment → List Path
  | [] => if mark = Segment.here then [⟨[]⟩] else []
  | segment :: more =>
    if Segment.isEmpty segment then above mark more
    else ⟨mark ++ joined (more.dropWhile Segment.isEmpty).reverse⟩ :: above mark more

/-- The directories that the path lies in, nearest first. -/
def parents (path : Path) : List Path :=
  above path.lead.1 (segments path.lead.2).reverse

def parent? (path : Path) : Option Path :=
  path.parents.head?

/-- The path and the directories that it lies in, nearest first. -/
def ancestors (path : Path) : List Path :=
  path :: path.parents

/-- The last component, if it is a name. -/
def fileName? (path : Path) : Option Segment :=
  match path.components.getLast? with
  | some (.name value) => some value
  | _ => none

/-- The name of the file as text, if it is text. -/
def baseName? (path : Path) : Option String :=
  path.fileName?.bind Segment.text?

/-- The second path taken from the first; an absolute one stands for itself. -/
def join (base relative : Path) : Path :=
  if relative.isAbsolute then relative
  else if base.glyphs = [] ∨ base.glyphs.getLast? = some slash then
    ⟨base.glyphs ++ relative.glyphs⟩
  else ⟨base.glyphs ++ slash :: relative.glyphs⟩

end Path

end FormatServer
