import FormatServer.Url.Domain
import FormatServer.Url.Percent

/-!
Hosts of URLs: addresses of four and of sixteen bytes, domains, and the uninterpreted hosts of
schemes without rules of their own.
-/

namespace FormatServer.Host

/-! ### Addresses of four bytes -/

/-- The number that a part of an address writes, in base ten, eight or sixteen. -/
def number? (chars : List Char) : Option Nat :=
  let (base, digits) := match chars with
    | '0' :: 'x' :: rest => (16, rest)
    | '0' :: 'X' :: rest => (16, rest)
    | '0' :: c :: rest => (8, c :: rest)
    | rest => (10, rest)
  if chars = [] then none
  else do
    let values ← digits.mapM Json.hexValue?
    if values.all (· < base) then some (values.foldl (fun total value => total * base + value) 0)
    else none

/-- The parts of a host; a dot at the end does not count. -/
def parts (host : List Char) : List (List Char) :=
  let all := Text.split '.' host
  if all.length > 1 ∧ all.getLast? = some [] then all.dropLast else all

def endsInNumber (host : List Char) : Bool :=
  match (parts host).getLast? with
  | none => false
  | some last => (last ≠ [] && last.all Char.isDigit) || (number? last).isSome

/-- The number of an address whose last part fills the bytes that the others leave. -/
def address4? (host : List Char) : Option Nat := do
  let numbers ← (parts host).mapM number?
  let last ← numbers.getLast?
  let others := numbers.dropLast
  if numbers.length > 4 ∨ others.any (255 < ·) ∨ Nat.pow 256 (4 - others.length) ≤ last then none
  else
    some (others.foldl (fun total value => total * 256 + value) 0 *
      Nat.pow 256 (4 - others.length) + last)

def address4Text (address : Nat) : String :=
  ".".intercalate ([3, 2, 1, 0].map fun index => toString (address / Nat.pow 256 index % 256))

/-! ### Addresses of sixteen bytes -/

/-- The value of one to four hexadecimal digits. -/
def piece? (chars : List Char) : Option Nat :=
  if chars = [] ∨ 4 < chars.length then none else Json.hexNumber? chars

/-- The two pieces of an address of four bytes at the end. -/
def lastPieces? (chars : List Char) : Option (List Nat) := do
  let texts := Text.split '.' chars
  if texts.length ≠ 4 then none
  else do
    let values ← texts.mapM fun text =>
      if text = [] ∨ 3 < text.length ∨ !text.all Char.isDigit ∨
          (1 < text.length ∧ text.head? = some '0') then none
      else some (text.foldl (fun total c => total * 10 + (c.toNat - '0'.toNat)) 0)
    match values with
    | [a, b, c, d] => if values.any (255 < ·) then none else some [a * 256 + b, c * 256 + d]
    | _ => none

/-- The pieces of a part of an address that has no gap. -/
def pieces? (chars : List Char) : Option (List Nat) :=
  if chars = [] then some []
  else
    let texts := Text.split ':' chars
    let last := texts.getLast?.getD []
    if last.contains '.' then do
      let first ← texts.dropLast.mapM piece?
      let more ← lastPieces? last
      some (first ++ more)
    else texts.mapM piece?

/-- The characters before and after the first gap of an address. -/
def splitGap : List Char → Option (List Char × List Char)
  | [] => none
  | ':' :: ':' :: rest => some ([], rest)
  | c :: rest => (splitGap rest).map fun (before, after) => (c :: before, after)

def address6? (chars : List Char) : Option (List Nat) :=
  match splitGap chars with
  | none => do
    let pieces ← pieces? chars
    if pieces.length = 8 then some pieces else none
  | some (before, after) => do
    let first ← if before.contains '.' then none else pieces? before
    let last ← pieces? after
    let known := first.length + last.length
    if known ≤ 7 then some (first ++ List.replicate (8 - known) 0 ++ last) else none

def hexText (value : Nat) : String :=
  String.ofList (Nat.toDigits 16 value)

/-- The length of the run of zeros that the pieces start with. -/
def zeroRun (pieces : List Nat) : Nat :=
  (pieces.takeWhile (· = 0)).length

/-- The start and length of the first longest run of zeros. -/
def longestGap (pieces : List Nat) : Nat × Nat :=
  (List.range pieces.length).foldl
    (fun best start =>
      let length := zeroRun (pieces.drop start)
      if best.2 < length then (start, length) else best)
    (0, 0)

def address6Text (pieces : List Nat) : String :=
  let (start, length) := longestGap pieces
  let join := fun pieces : List Nat => ":".intercalate (pieces.map hexText)
  if length < 2 then join pieces
  else join (pieces.take start) ++ "::" ++ join (pieces.drop (start + length))

/-! ### Hosts -/

/-- The domain that the characters and the bytes encoded in them write, in ASCII. -/
def domain? (host : List Char) : Option (List Char) := do
  let text ← Utf8.text? (Percent.decode host)
  Domain.ascii? text.toList

/-- The text of an address in brackets. -/
def bracketed? (host : List Char) : Option String :=
  if host.getLast? = some ']' then
    (address6? (host.drop 1).dropLast).map fun pieces => "[" ++ address6Text pieces ++ "]"
  else none

/-- The text of the host of a scheme that has rules for hosts. -/
def special? (host : List Char) : Option String :=
  if host.head? = some '[' then bracketed? host
  else do
    let domain ← domain? host
    if domain = [] then none
    else if endsInNumber domain then (address4? domain).map address4Text
    else some (String.ofList domain)

def isForbiddenPlain (c : Char) : Bool :=
  ['\x00', '\t', '\n', '\r', ' ', '#', '/', ':', '<', '>', '?', '@', '[', '\\', ']', '^',
    '|'].contains c

/-- The text of the host of any other scheme. -/
def plain? (host : List Char) : Option String :=
  if host.head? = some '[' then bracketed? host
  else if host.any isForbiddenPlain then none
  else some (String.ofList (Percent.encode Percent.isControl host))

end FormatServer.Host
