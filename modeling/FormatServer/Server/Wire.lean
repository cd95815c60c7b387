import FormatServer.Json.Printer
import FormatServer.Json.Value
import FormatServer.Server.Answer

/-!
Messages on the wire. Each is a JSON record under a header that says its length in bytes; it is a
call, which has an id if it is to be answered, or the reply to a call of the other side.
-/

namespace FormatServer

inductive Arrival where
  | call (id : Option Data) (method : String) (parameters : Data)
  | reply (failure : Option String)

namespace Arrival

/-- What the code of an error stands for. -/
def codeText (code : Int) : String :=
  if code = -32700 then "Parse error"
  else if code = -32600 then "Invalid request"
  else if code = -32601 then "Method not found"
  else if code = -32602 then "Invalid params"
  else if code = -32603 then "Internal error"
  else "Server error"

def failureText (failure : Data) : String :=
  codeText (((failure.field? "code").bind Data.integer?).getD 0) ++ ": " ++
    ((failure.field? "message").bind Data.text?).getD ""

/-- What a record on the wire says; none if it is neither a call nor a reply. -/
def ofData? (data : Data) : Option Arrival :=
  match (data.field? "method").bind Data.text?, data.field? "id" with
  | some method, id => some (.call id method ((data.field? "params").getD .null))
  | none, some _ => some (.reply ((data.field? "error").map failureText))
  | none, none => none

end Arrival

namespace Wire

def record (fields : List (String × Data)) : Data :=
  .record (("jsonrpc", .text "2.0") :: fields)

def answer (id : Data) : Answer → Data
  | .result data => record [("id", id), ("result", data)]
  | .error code => record [("id", id),
      ("error", .record [("code", .integer code), ("message", .text (Arrival.codeText code))])]

/-- The message as it is sent; a request has the id. -/
def message (id : Nat) (message : Message) : Data :=
  let call := [("method", Data.text message.method), ("params", message.parameters)]
  match message with
  | .request _ => record (("id", .ofNat id) :: call)
  | _ => record call

/-- The text of a record under its header. -/
def framed (data : Data) : String :=
  let body := Json.print data
  "Content-Length: " ++ toString body.utf8ByteSize ++ "\r\n\r\n" ++ body

/-- The length that a line of a header gives. -/
def length? (line : String) : Option Nat :=
  let mark := "content-length:".toList
  let chars := line.toList
  if mark.isPrefixOf (chars.map Char.toLower) then
    (Text.trim (String.ofList (chars.drop mark.length))).toNat?
  else none

end Wire

/-- The answers of a client so far, each to the request that it was sent. -/
abbrev Answered := List (ClientRequest × Option String)

namespace Answered

/-- The client that answers as it did, and has no objection to what it was not asked. -/
def client (answered : Answered) : Client := fun request =>
  (answered.lookup request).getD none

/-- The effects up to the first request that is without an answer, and that request. -/
def split (answered : Answered) : List Effect → List Effect × Option ClientRequest
  | [] => ([], none)
  | .sent (.request request) :: rest =>
    if (answered.lookup request).isSome then
      let (before, pending) := split answered rest
      (.sent (.request request) :: before, pending)
    else ([.sent (.request request)], some request)
  | effect :: rest =>
    let (before, pending) := split answered rest
    (effect :: before, pending)

end Answered

end FormatServer
