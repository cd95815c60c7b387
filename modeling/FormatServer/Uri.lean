import FormatServer.Url.Parser

/-!
Resource identifiers as messages write them. Their grammar is strict where the reading of a URL is
lenient, and an identifier may name no URL.
-/

namespace FormatServer

structure Uri where
  text : String
  deriving DecidableEq

namespace Uri

/-- Whether the character may stand in a name unencoded. -/
def isNameChar (c : Char) : Bool :=
  c.isAlphanum ||
    ['-', '.', '_', '~', '!', '$', '&', '\'', '(', ')', '*', '+', ',', ';', '='].contains c

def isUserChar (c : Char) : Bool :=
  isNameChar c || c = ':'

def isPathChar (c : Char) : Bool :=
  isUserChar c || c = '@' || c = '/'

def isQueryChar (c : Char) : Bool :=
  isPathChar c || c = '?'

/-- Whether there are only such characters and encoded bytes. -/
def consistsOf (isPlain : Char → Bool) : List Char → Bool
  | [] => true
  | '%' :: high :: low :: rest =>
    (Json.hexNumber? [high, low]).isSome && consistsOf isPlain rest
  | c :: rest => isPlain c && consistsOf isPlain rest

/-- Whether the characters are an address of a kind to come. -/
def isFutureAddress : List Char → Bool
  | mark :: rest =>
    let version := rest.takeWhile (· ≠ '.')
    let address := (rest.drop version.length).drop 1
    (mark = 'v' || mark = 'V') && version ≠ [] && (Json.hexNumber? version).isSome &&
      address ≠ [] && address.all isUserChar
  | [] => false

/-- Whether the characters are a host, which has brackets around it if it has colons in it. -/
def isHost (host : List Char) : Bool :=
  if host.head? = some '[' then
    let address := (host.drop 1).dropLast
    host.getLast? = some ']' && ((Host.address6? address).isSome || isFutureAddress address)
  else consistsOf isNameChar host

def isPort : List Char → Bool
  | [] => true
  | mark :: digits => mark = ':' && digits.all Char.isDigit

def isAuthority (authority : List Char) : Bool :=
  let (user, place) := Url.splitUser authority
  let (host, port) := Url.splitHost false place
  consistsOf isUserChar (user.getD []) && isHost host && isPort port

/-- Whether the characters are what stands between the scheme and the query. -/
def isBody : List Char → Bool
  | '/' :: '/' :: rest =>
    let (authority, path) := Url.splitAuthority .other rest
    isAuthority authority && consistsOf isPathChar path
  | path => consistsOf isPathChar path

def isWritten (text : String) : Bool :=
  match Url.readScheme? text.toList with
  | none => false
  | some (_, rest) =>
    let parts := Url.splitParts rest
    isBody parts.body && consistsOf isQueryChar (parts.query.getD []) &&
      consistsOf isQueryChar (parts.fragment.getD [])

def read? (text : String) : Option Uri :=
  if isWritten text then some ⟨text⟩ else none

/-- The URL that the identifier names. -/
def url? (uri : Uri) : Option Url :=
  Url.parse? uri.text

/-- The path of the file that the identifier names. -/
def path? (uri : Uri) : Option Path :=
  uri.url?.bind Url.toPath?

end Uri

end FormatServer
