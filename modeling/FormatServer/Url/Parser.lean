import FormatServer.Url.Basic
import FormatServer.Url.Host

/-!
Reading a URL. The reading is lenient and normalises: blanks around the text, tabs and newlines in
it are dropped, dots in a path are carried out, and what may not stand in a part is encoded.
-/

namespace FormatServer.Url

inductive SchemeKind where
  | file
  /-- A scheme with rules for hosts, other than `file`. -/
  | network
  | other
  deriving DecidableEq

namespace SchemeKind

def isSpecial : SchemeKind → Bool
  | other => false
  | _ => true

def ofScheme (scheme : String) : SchemeKind :=
  if scheme = "file" then file
  else if ["http", "https", "ws", "wss", "ftp"].contains scheme then network
  else other

def endsSegment (kind : SchemeKind) (c : Char) : Bool :=
  c = '/' || (c = '\\' && kind.isSpecial)

end SchemeKind

def defaultPort? (scheme : String) : Option Nat :=
  [("http", 80), ("https", 443), ("ws", 80), ("wss", 443), ("ftp", 21)].lookup scheme

def isIgnored (c : Char) : Bool :=
  c = '\t' || c = '\n' || c = '\r'

/-- The characters that count. -/
def relevant (chars : List Char) : List Char :=
  chars.filter fun c => !isIgnored c

/-- The characters of the text between the blanks around it. -/
def trimmed (text : String) : List Char :=
  let isOuter := fun c : Char => c.toNat ≤ 0x20
  ((text.toList.dropWhile isOuter).reverse.dropWhile isOuter).reverse

def isSchemeChar (c : Char) : Bool :=
  c.isAlphanum || c = '+' || c = '-' || c = '.'

def readScheme? (chars : List Char) : Option (String × List Char) :=
  let scheme := chars.takeWhile isSchemeChar
  match scheme, chars.drop scheme.length with
  | first :: _, ':' :: rest =>
    if first.isAlpha then some (String.ofList (scheme.map Char.toLower), rest) else none
  | _, _ => none

/-! ### Paths -/

/-- Whether a segment is a drive. A backslash that ends no segment may follow it with more. -/
def isDrive : List Char → Bool
  | letter :: mark :: rest =>
    letter.isAlpha && (mark = ':' || mark = '|') && (rest = [] || rest.head? = some '\\')
  | _ => false

/-- Splits the characters into segments. -/
def splitSegments (kind : SchemeKind) : List Char → List (List Char)
  | [] => [[]]
  | c :: rest =>
    if kind.endsSegment c then [] :: splitSegments kind rest
    else match splitSegments kind rest with
      | [] => [[c]]
      | first :: more => (c :: first) :: more

inductive Step where
  | up
  | stay
  | down (segment : List Char)

namespace Step

/-- A segment with every encoded dot written out. -/
def dotted : List Char → List Char
  | '%' :: '2' :: 'e' :: rest => '.' :: dotted rest
  | '%' :: '2' :: 'E' :: rest => '.' :: dotted rest
  | c :: rest => c :: dotted rest
  | [] => []

def ofSegment (segment : List Char) : Step :=
  match dotted segment with
  | ['.'] => stay
  | ['.', '.'] => up
  | _ => down segment

end Step

/-- Removes the last segment; that of a drive stays. -/
def removeLast : List (List Char) → List (List Char)
  | [] => []
  | last :: rest => if isDrive last then last :: rest else rest

/-- A drive at the front of a segment and what a tab or newline parts from it. -/
def partedDrive? (segment : List Char) : Option (List Char × List Char) :=
  match relevant segment, segment.dropWhile (· ≠ ':') with
  | letter :: ':' :: c :: rest, _ :: next :: _ =>
    if letter.isAlpha ∧ isIgnored next then some ([letter, ':'], c :: rest) else none
  | _, _ => none

/-- Carries out the segments. The ones kept are listed from the last. What is parted from a drive
that comes first in a file's path is a segment of its own, whatever its dots. -/
def followSegments (kind : SchemeKind) :
    List (List Char) → List (List Char) → List (List Char)
  | [], kept => kept
  | segment :: rest, kept =>
    let encode := fun chars => Percent.encode Percent.isPath (relevant chars)
    match if kind = .file ∧ kept = [] then partedDrive? segment else none with
    | some (drive, more) => followSegments kind rest [encode more, drive]
    | none =>
      let kept := match Step.ofSegment (encode segment) with
        | .up => if rest = [] then [] :: removeLast kept else removeLast kept
        | .stay => if rest = [] then [] :: kept else kept
        | .down segment => segment :: kept
      followSegments kind rest kept

/-- The path that the characters after its first slash write. Tabs and newlines in it count for no
more than to part a drive from what follows it. -/
def readPath (kind : SchemeKind) (chars : List Char) : UrlPath :=
  let values := (followSegments kind (splitSegments kind chars) []).reverse
  let values := if kind = .file then values.dropWhile (· = []) else values
  .segments (if values = [] then [""] else values.map String.ofList)

/-- What stands before the query and the fragment, the query and the fragment. -/
structure Parts where
  body : List Char
  query : Option (List Char)
  fragment : Option (List Char)

def splitParts (chars : List Char) : Parts :=
  let front := chars.takeWhile (· ≠ '#')
  let fragment := match chars.dropWhile (· ≠ '#') with
    | [] => none
    | _ :: rest => some rest
  let body := front.takeWhile (· ≠ '?')
  let query := match front.dropWhile (· ≠ '?') with
    | [] => none
    | _ :: rest => some rest
  ⟨body, query, fragment⟩

/-! ### Authorities -/

/-- The characters of the authority and of the path after it. -/
def splitAuthority (kind : SchemeKind) (body : List Char) : List Char × List Char :=
  (body.takeWhile fun c => !kind.endsSegment c, body.dropWhile fun c => !kind.endsSegment c)

/-- What stands before the last at sign and what stands after it. -/
def splitUser (authority : List Char) : Option (List Char) × List Char :=
  if authority.contains '@' then
    let host := (authority.reverse.takeWhile (· ≠ '@')).reverse
    (some (authority.take (authority.length - host.length - 1)), host)
  else (none, authority)

def readUser (user : List Char) : String × Option String :=
  let encode := fun chars => String.ofList (Percent.encode Percent.isUserInfo chars)
  let name := user.takeWhile (· ≠ ':')
  match user.drop name.length with
  | [] => (encode name, none)
  | [_] => (encode name, none)
  | _ :: password => (encode name, some (encode password))

/-- The host's characters and what follows them; a colon in brackets belongs to the host. -/
def splitHost : Bool → List Char → List Char × List Char
  | _, [] => ([], [])
  | inBrackets, c :: rest =>
    if c = ':' ∧ !inBrackets then ([], c :: rest)
    else
      let (host, after) := splitHost (c = '[' || (c ≠ ']' && inBrackets)) rest
      (c :: host, after)

/-- The port that the characters write, unless it goes without saying; none in the outer option for
a port that cannot be. A backslash ends the port also where it belongs to the path. -/
def readPort? (scheme : String) (chars : List Char) : Option (Option Nat × List Char) :=
  match chars with
  | ':' :: rest =>
    let digits := rest.takeWhile Char.isDigit
    let after := rest.drop digits.length
    let port := digits.foldl (fun total c => total * 10 + (c.toNat - '0'.toNat)) 0
    if after ≠ [] ∧ after.head? ≠ some '\\' then none
    else if 65535 < port then none
    else some (if digits = [] ∨ some port = defaultPort? scheme then none else some port, after)
  | rest => some (none, rest)

/-- Reads what follows the two slashes of an authority. -/
def readNetwork? (scheme : String) (kind : SchemeKind) (chars : List Char) : Option Url := do
  let parts := splitParts chars
  let (authority, path) := splitAuthority kind parts.body
  let (userChars, hostAndPort) := splitUser authority
  let (hostChars, after) := splitHost false hostAndPort
  let (port, after) ← readPort? scheme after
  let host ← if kind.isSpecial then Host.special? hostChars else Host.plain? hostChars
  let user := (userChars.map readUser).getD ("", none)
  let path := after ++ path
  let isBare := path = [] ∧ parts.query.isNone ∧ parts.fragment.isNone
  if host = "" ∧ (user ≠ ("", none) ∨ after ≠ [] ∨ hostChars.length < hostAndPort.length) then none
  else if host = "" ∧ userChars = some [] ∧ !isBare then none
  else
    some {
      scheme, user, host := some host, port
      path := match path with
        | [] => if kind.isSpecial then .segments [""] else .segments []
        | c :: rest => readPath kind (if kind.endsSegment c then rest else c :: rest)
      query := parts.query.map fun query => String.ofList
        (Percent.encode (if kind.isSpecial then Percent.isSpecialQuery else Percent.isQuery) query)
      fragment := parts.fragment.map fun fragment => String.ofList
        (Percent.encode Percent.isFragment fragment) }

/-- What follows a slash that the characters start with. -/
def afterSlash? (chars : List Char) : Option (List Char) :=
  match chars.dropWhile isIgnored with
  | c :: rest => if SchemeKind.endsSegment .file c then some rest else none
  | [] => none

/-- The host of a file's URL and the characters of its path. -/
def readFileBody? (body : List Char) : Option (String × List Char) :=
  match afterSlash? body with
  | none => some ("", body)
  | some inner =>
    match afterSlash? inner with
    | none => some ("", inner)
    | some rest =>
      let (host, path) := splitAuthority .file rest
      let host := relevant host
      if isDrive host then some ("", rest)
      else if host = [] then some ("", path.drop 1)
      else
        (Host.special? host).map fun host => (if host = "localhost" then "" else host, path.drop 1)

/-- Reads what follows the scheme of a file's URL. -/
def readFile? (chars : List Char) : Option Url := do
  let parts := splitParts chars
  let (host, path) ← readFileBody? parts.body
  some {
    scheme := "file"
    user := ("", none)
    host := some host
    port := none
    path := readPath .file path
    query := parts.query.map fun query => String.ofList
      (Percent.encode Percent.isSpecialQuery (relevant query))
    fragment := parts.fragment.map fun fragment => String.ofList
      (Percent.encode Percent.isFragment (relevant fragment)) }

/-- Reads a URL of a scheme without rules that has no authority. -/
def readPlain (scheme : String) (chars : List Char) : Url :=
  let parts := splitParts chars
  { scheme
    user := ("", none)
    host := none
    port := none
    path := match parts.body with
      | '/' :: rest => readPath .other rest
      | body => .plain (String.ofList (Percent.encode Percent.isControl body))
    query := parts.query.map fun query => String.ofList (Percent.encode Percent.isQuery query)
    fragment := parts.fragment.map fun fragment => String.ofList
      (Percent.encode Percent.isFragment fragment) }

/-- The URL that a text writes, which must say its scheme. -/
def parse? (text : String) : Option Url := do
  let chars := trimmed text
  let (scheme, rest) ←
    readScheme? (relevant (chars.takeWhile (· ≠ ':')) ++ chars.dropWhile (· ≠ ':'))
  match SchemeKind.ofScheme scheme with
  | .file => readFile? rest
  | .network =>
    readNetwork? scheme .network ((relevant rest).dropWhile (SchemeKind.endsSegment .network))
  | .other =>
    match relevant rest with
    | '/' :: '/' :: rest => readNetwork? scheme .other rest
    | rest => some (readPlain scheme rest)

end FormatServer.Url
