import FormatServer.Server.Session

/-!
Messages of a client handled by a session. A session that has not begun or is over handles none,
and one begins only once.
-/

namespace FormatServer

inductive Answer where
  | result (data : Data)
  | error (code : Int)

namespace Answer

def notStarted : Answer := error (-32002)

def invalidRequest : Answer := error (-32600)

def unknownMethod : Answer := error (-32601)

def invalidParameters : Answer := error (-32602)

end Answer

def serverName : String := "prettier-ls"

def serverVersion : String := "0.1.0"

namespace Session

/-- What the server tells about itself. Formatting is offered where it cannot be registered. -/
def introductionData (capabilities : Capabilities) : Data :=
  let offered := if capabilities.registersBoth then none else some (Data.bool true)
  .record [
    ("capabilities", Data.ofFields [
      ("textDocumentSync", some (.ofNat 1)),
      ("documentFormattingProvider", offered),
      ("documentRangeFormattingProvider", offered),
      ("workspace", some (.record [("workspaceFolders", .record [
        ("supported", .bool true),
        ("changeNotifications", .bool true)])]))]),
    ("serverInfo", .record [("name", .text serverName), ("version", .text serverVersion)])]

def editsData : Option (List Edit) → Data
  | none => .null
  | some edits => .list (edits.map Edit.data)

/-- Handles a message in a running session. -/
def handle (environment : Environment) (client : Client) (incoming : Incoming) (session : Session) :
    Option Answer × Progress :=
  match incoming with
  | .introduce introduction =>
    (some (.result (introductionData introduction.capabilities)),
      session.start environment introduction)
  | .introduced => (none, session.ready client)
  | .shutDown => (some (.result .null), session.finish client)
  | .opened uri language text version =>
    (none, (session.openDocument uri.url? ⟨text, language, version⟩).still)
  | .changed uri version texts =>
    (none, (session.reviseDocument uri.url? texts.getLast? version).still)
  | .closed uri => (none, (session.closeDocument uri.url?).still)
  | .configured settings => (none, session.configure environment client settings)
  | .refoldered added removed =>
    (none, session.refolder environment client (added.filterMap Uri.path?)
      (removed.filterMap Uri.path?))
  | .filesChanged uris => (none, session.noteFiles environment client (uris.filterMap Uri.path?))
  | .format uri =>
    match session.formatDocument environment uri.url? none with
    | (edits, progress) => (some (.result (editsData edits)), progress)
  | .formatRange uri range =>
    match session.formatDocument environment uri.url? (some range) with
    | (edits, progress) => (some (.result (editsData edits)), progress)

/-- Why a session handles no message of this kind, if it does not. -/
def refusal? (session : Session) (method : String) : Option Answer :=
  match session.phase with
  | .fresh => if method = "initialize" then none else some .notStarted
  | .running => if method = "initialize" then some .invalidRequest else none
  | .closed => some .invalidRequest

/-- The session after a message that it could not read. A request to shut down ends it all the
same. -/
def afterMisread (method : String) (session : Session) : Session :=
  if method = "shutdown" then { session with phase := .closed } else session

/-- Receives a message. Only a request is answered, and one that cannot be handled with an error. -/
def receive (environment : Environment) (client : Client) (method : String) (parameters : Data)
    (session : Session) : Option Answer × Progress :=
  let refuse := fun answer : Answer =>
    (if Incoming.requestMethods.contains method then some answer else none, session.still)
  match session.refusal? method with
  | some answer => refuse answer
  | none =>
    match Incoming.read? method parameters with
    | none => (none, session.still)
    | some none =>
      let (answer, progress) := refuse .invalidParameters
      (answer, { progress with session := session.afterMisread method })
    | some (some incoming) => session.handle environment client incoming

end Session

end FormatServer
