import FormatServer.Path.Basic
import FormatServer.Url.Percent

/-!
URLs in normal form, and the files that they name.
-/

namespace FormatServer

/-- The path of a URL, which is a text of its own or a list of segments. -/
inductive UrlPath where
  | plain (text : String)
  | segments (values : List String)
  deriving DecidableEq

structure Url where
  scheme : String
  /-- The user name and, if there is one, the password. -/
  user : String × Option String
  /-- The host, which may be empty; none for a URL without an authority. -/
  host : Option String
  port : Option Nat
  path : UrlPath
  query : Option String
  fragment : Option String
  deriving DecidableEq

namespace UrlPath

def text : UrlPath → String
  | plain text => text
  | segments values => String.join (values.map fun value => "/" ++ value)

end UrlPath

namespace Url

def userText : String × Option String → String
  | ("", none) => ""
  | (name, none) => name ++ "@"
  | (name, some password) => name ++ ":" ++ password ++ "@"

def authorityText (url : Url) : String :=
  match url.host with
  | none => ""
  | some host =>
    "//" ++ userText url.user ++ host ++
      ((url.port.map fun port => ":" ++ toString port).getD "")

/-- What keeps a path that starts with two slashes from being read as an authority. -/
def guardText (url : Url) : String :=
  match url.host, url.path with
  | none, .segments ("" :: _ :: _) => "/."
  | _, _ => ""

/-- The text of the URL. -/
def text (url : Url) : String :=
  url.scheme ++ ":" ++ url.authorityText ++ url.guardText ++ url.path.text ++
    ((url.query.map ("?" ++ ·)).getD "") ++ ((url.fragment.map ("#" ++ ·)).getD "")

/-- Whether the path would end in the name of a drive, which it may only before a slash. -/
def endsInDrive (glyphs : List Glyph) : Bool :=
  match glyphs.reverse with
  | .char mark :: .char letter :: _ :: _ => letter.isAlpha && (mark = ':' || mark = '|')
  | _ => false

/-- The path of the file that the URL names, whatever its scheme; a URL with another host than the
local one names no file. -/
def toPath? (url : Url) : Option Path :=
  match url.path with
  | .plain _ => none
  | .segments [] => none
  | .segments values =>
    if url.host.all fun host => host = "" || host = "localhost" then
      let bytes := values.flatMap fun value => 0x2F :: Percent.decode value.toList
      let glyphs := Utf8.decode bytes
      some ⟨if endsInDrive glyphs then glyphs ++ [Path.slash] else glyphs⟩
    else none

/-- The path of the file that a URL of the scheme `file` names. -/
def file? (url : Url) : Option Path :=
  if url.scheme = "file" then url.toPath? else none

/-- The characters of a path's component in a URL. -/
def componentText : Component → List Char
  | .root => []
  | .here => ['.']
  | .up => ['.', '.']
  | .name value =>
    value.flatMap fun glyph =>
      match glyph with
      | .char c => Percent.encode Percent.isFileName [c]
      | .broken bytes => bytes.flatMap Percent.encodeByte

/-- The URL of the file at an absolute path. -/
def ofPath? (path : Path) : Option Url :=
  if path.isAbsolute then
    let values := (path.components.drop 1).map fun component =>
      String.ofList (componentText component)
    some {
      scheme := "file"
      user := ("", none)
      host := some ""
      port := none
      path := .segments (if values = [] then [""] else values)
      query := none
      fragment := none }
  else none

end Url

end FormatServer
