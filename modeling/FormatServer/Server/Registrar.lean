import FormatServer.Config.Files
import FormatServer.Report
import FormatServer.Selector

/-!
The registration of the formatter with the client. There is at most one pair of registrations, for
whole documents and for parts of them, and each pair has ids of its own.
-/

namespace FormatServer

inductive RegistrationOptions where
  | documents (filters : List DocumentFilter)
  | watchers (patterns : List String)
  deriving DecidableEq

structure Registration where
  id : String
  method : String
  options : RegistrationOptions
  deriving DecidableEq

structure Unregistration where
  id : String
  method : String
  deriving DecidableEq

/-- What the server asks of the client. -/
inductive ClientRequest where
  | register (registrations : List Registration)
  | unregister (registrations : List Unregistration)
  deriving DecidableEq

namespace ClientRequest

def method : ClientRequest → String
  | register _ => "client/registerCapability"
  | unregister _ => "client/unregisterCapability"

end ClientRequest

/-- How a client answers: with the text of an error, or not at all. -/
abbrev Client := ClientRequest → Option String

/-- A request that was sent, or a line for the log. -/
inductive Exchange where
  | sent (request : ClientRequest)
  | logged (line : LogLine)
  deriving DecidableEq

namespace Registration

def formattingMethod : String := "textDocument/formatting"

def rangeFormattingMethod : String := "textDocument/rangeFormatting"

def watchedFilesMethod : String := "workspace/didChangeWatchedFiles"

def fullId (number : UInt64) : String :=
  "prettier-format-" ++ toString number

def rangeId (number : UInt64) : String :=
  "prettier-range-format-" ++ toString number

/-- The pair of registrations with a number. -/
def pair (number : UInt64) (selectors : Selectors) : List Registration :=
  [⟨fullId number, formattingMethod, .documents selectors.full⟩,
    ⟨rangeId number, rangeFormattingMethod, .documents selectors.range⟩]

/-- The registration for changes of configuration files. -/
def watcher : Registration :=
  ⟨"prettier-config-watcher", watchedFilesMethod,
    .watchers (Config.watchedNames.map fun name => "**/" ++ name)⟩

end Registration

namespace Unregistration

def pair (number : UInt64) : List Unregistration :=
  [⟨Registration.fullId number, Registration.formattingMethod⟩,
    ⟨Registration.rangeId number, Registration.rangeFormattingMethod⟩]

end Unregistration

/-- The number of the pair that is registered, and that of the next one. The numbers start anew when
there are no more of them. -/
structure Registrar where
  current : Option UInt64
  next : UInt64
  deriving DecidableEq

namespace Registrar

def initial : Registrar :=
  ⟨none, 0⟩

def isRegistered (registrar : Registrar) : Bool :=
  registrar.current.isSome

def releaseFailure (number : UInt64) (reason : String) : LogLine :=
  ⟨.warning, .registration, "Failed to unregister " ++ Registration.fullId number ++ " / " ++
    Registration.rangeId number ++ ": " ++ reason⟩

def forget (registrar : Registrar) : Registrar :=
  { registrar with current := none }

/-- Takes the number for a new pair. -/
def draw (registrar : Registrar) : UInt64 × Registrar :=
  (registrar.next, { registrar with next := registrar.next + 1 })

def keep (registrar : Registrar) (number : UInt64) : Registrar :=
  { registrar with current := some number }

/-- Takes back the pair that is registered, which is gone whatever the client answers. -/
def dispose (registrar : Registrar) (client : Client) : Registrar × List Exchange :=
  match registrar.current with
  | none => (registrar, [])
  | some number =>
    let request := ClientRequest.unregister (Unregistration.pair number)
    (registrar.forget,
      .sent request :: (client request).toList.map fun reason =>
        .logged (releaseFailure number reason))

/-- Registers a new pair with the number that is next. -/
def register (registrar : Registrar) (client : Client) (selectors : Selectors) :
    Except String Unit × Registrar × List Exchange :=
  let (number, registrar) := registrar.draw
  let request := ClientRequest.register (Registration.pair number selectors)
  match client request with
  | some reason => (.error reason, registrar, [.sent request])
  | none => (.ok (), registrar.keep number, [.sent request])

/-- Registers a new pair in place of the one there is. -/
def replace (registrar : Registrar) (client : Client) (selectors : Selectors) :
    Except String Unit × Registrar × List Exchange :=
  let (registrar, released) := registrar.dispose client
  let (result, registrar, registered) := registrar.register client selectors
  (result, registrar, released ++ registered)

end Registrar

end FormatServer
