import FormatServer.Server.Registrar
import FormatServer.Settings.Sources
import FormatServer.Text.Edit

/-!
What the server sends to a client, and how it is written.
-/

namespace FormatServer

/-- How serious a message to the user is. -/
inductive MessageKind where
  | error
  | warning
  | info
  deriving DecidableEq

namespace MessageKind

def number : MessageKind → Nat
  | error => 1
  | warning => 2
  | info => 3

end MessageKind

inductive Message where
  | request (request : ClientRequest)
  | logMessage (kind : MessageKind) (text : String)
  | showMessage (kind : MessageKind) (text : String)
  | status (status : Status)
  deriving DecidableEq

namespace Message

def ofNotice : Notice → Message
  | .info text => logMessage .info text
  | .warning text => logMessage .warning text

def method : Message → String
  | request asked => asked.method
  | logMessage _ _ => "window/logMessage"
  | showMessage _ _ => "window/showMessage"
  | status _ => "prettier/status"

end Message

namespace DocumentFilter

def data (filter : DocumentFilter) : Data :=
  Data.ofFields [
    ("language", some (.text filter.language)),
    ("pattern", filter.pattern.map .text),
    ("scheme", filter.scheme.map .text)]

end DocumentFilter

namespace RegistrationOptions

def data : RegistrationOptions → Data
  | documents filters => .record [("documentSelector", .list (filters.map DocumentFilter.data))]
  | watchers patterns =>
    .record [("watchers", .list (patterns.map fun pattern =>
      .record [("globPattern", .text pattern)]))]

end RegistrationOptions

namespace Registration

def data (registration : Registration) : Data :=
  .record [("id", .text registration.id), ("method", .text registration.method),
    ("registerOptions", registration.options.data)]

end Registration

namespace Unregistration

def data (registration : Unregistration) : Data :=
  .record [("id", .text registration.id), ("method", .text registration.method)]

end Unregistration

namespace Message

def textData (kind : MessageKind) (text : String) : Data :=
  .record [("type", .ofNat kind.number), ("message", .text text)]

/-- The parameters that the message is sent with. -/
def parameters : Message → Data
  | request (.register items) => .record [("registrations", .list (items.map Registration.data))]
  | request (.unregister items) =>
    .record [("unregisterations", .list (items.map Unregistration.data))]
  | logMessage kind text => textData kind text
  | showMessage kind text => textData kind text
  | status value => .record [("status", .text value.name)]

end Message

namespace Position

def data (position : Position) : Data :=
  .record [("line", .ofNat position.line.toNat), ("character", .ofNat position.character.toNat)]

end Position

namespace Edit

def data (edit : Edit) : Data :=
  .record [
    ("range", .record [("start", edit.range.start.data), ("end", edit.range.stop.data)]),
    ("newText", .text edit.newText)]

end Edit

end FormatServer
