import FormatServer.Server.Session
import FormatServer.Server.SharedRegistrar

/-!
A session that handles several changes of the configuration at once. A handler runs alone until it
has to wait: for a message to be taken, for the registrar to let its call in, or for the client to
answer that call. Any other handler may go on meanwhile.
-/

namespace FormatServer

open Registrar

/-- Where the handler of a change is when it does not run. -/
inductive Handling where
  | arrived (settings : Data)
  /-- The settings are loaded and yet to be applied. The notice is being told. -/
  | telling (loaded : LoadedSettings) (notice : Notice) (rest : List Notice)
  /-- The call with the number is on its way through the registrar. -/
  | registering (call : Nat)
  | ended

/-- What a handler does that others get to see. -/
inductive Deed where
  | stored (handler : Nat)
  | told (handler : Nat) (message : Message)
  | applied (handler : Nat)
  deriving DecidableEq

/-- A session with its handlers, and with the calls that they make on its registrar. -/
structure SharedSession where
  session : Session
  /-- The call that has the lock of the registrar. -/
  holder : Option Nat
  /-- The calls in the order in which they were made. -/
  stages : List Stage
  traffic : List Traffic
  handlers : List Handling
  /-- Everything that the handlers did so far, in order. -/
  deeds : List Deed

namespace SharedSession

/-- The session before any of the changes is handled, after this traffic with the client. -/
def initial (session : Session) (traffic : List Traffic) (changes : List Data) :
    SharedSession :=
  ⟨session, none, [], traffic, changes.map .arrived, []⟩

def withSession (shared : SharedSession) (session : Session) : SharedSession :=
  { shared with session }

def record (shared : SharedSession) (deed : Deed) : SharedSession :=
  { shared with deeds := shared.deeds ++ [deed] }

/-- A handler has run up to here. -/
def leave (shared : SharedSession) (index : Nat) (handling : Handling) : SharedSession :=
  { shared with handlers := shared.handlers.set index handling }

/-- Makes a call on the registrar. -/
def call (shared : SharedSession) (call : Call) : SharedSession :=
  { shared with stages := shared.stages ++ [.waiting call] }

/-- The registrar as its calls share it. -/
def registrations (shared : SharedSession) : SharedRegistrar :=
  ⟨shared.session.registrar, shared.holder, shared.stages, shared.traffic⟩

def withRegistrations (shared : SharedSession) (registrations : SharedRegistrar) :
    SharedSession where
  session := { shared.session with registrar := registrations.registrar }
  holder := registrations.holder
  stages := registrations.stages
  traffic := registrations.traffic
  handlers := shared.handlers
  deeds := shared.deeds

/-- Puts loaded settings in force, whatever has been done since they were loaded. -/
def apply (environment : Environment) (index : Nat) (loaded : LoadedSettings)
    (shared : SharedSession) : SharedSession :=
  let session := (shared.session.applySettings environment loaded).storeSelectors
  let shared := (shared.withSession session).record (.applied index)
  if session.capabilities.registersBoth then
    (shared.call (.replace session.selectors)).leave index (.registering shared.stages.length)
  else shared.leave index .ended

/-- Tells the next of the notices, or applies the settings when there are no more. -/
def proceed (environment : Environment) (index : Nat) (loaded : LoadedSettings) :
    List Notice → SharedSession → SharedSession
  | [], shared => shared.apply environment index loaded
  | notice :: rest, shared => shared.leave index (.telling loaded notice rest)

/-- Begins to handle a change. One that is none of ours is handled with that. -/
def begin (environment : Environment) (index : Nat) (change : Data) (shared : SharedSession) :
    SharedSession :=
  match settingsSection? change with
  | none => shared.leave index .ended
  | some settings =>
    let session := { shared.session with client := some (.configuration, settings) }
    let loaded := session.readSettings environment
    ((shared.withSession session).record (.stored index)).proceed environment index loaded
      loaded.notices

/-- Goes on when a notice has been taken. -/
def tell (environment : Environment) (index : Nat) (loaded : LoadedSettings) (notice : Notice)
    (rest : List Notice) (shared : SharedSession) : SharedSession :=
  (shared.record (.told index (.ofNotice notice))).proceed environment index loaded rest

/-- Goes on when the call on the registrar has ended. -/
def finish (index : Nat) (result : Except String Unit) (shared : SharedSession) : SharedSession :=
  match result with
  | .ok _ => shared.leave index .ended
  | .error reason =>
    (shared.record (.told index (Session.registerFailure reason))).leave index .ended

end SharedSession

/-- The call that goes on has none before it that still waits: the lock lets them in in the order in
which they came. -/
def SharedRegistrar.GoesInOrder (shared next : SharedRegistrar) : Prop :=
  ∀ index : Nat, next.stages[index]? ≠ shared.stages[index]? →
    ∀ earlier < index, ∀ call, shared.stages[earlier]? ≠ some (.waiting call)

namespace SharedSession

/-- What may happen next. -/
inductive Step (environment : Environment) (shared : SharedSession) : SharedSession → Prop
  | begin {index : Nat} {change : Data}
      (hhandler : shared.handlers[index]? = some (.arrived change)) :
      Step environment shared (shared.begin environment index change)
  | tell {index : Nat} {loaded : LoadedSettings} {notice : Notice} {rest : List Notice}
      (hhandler : shared.handlers[index]? = some (.telling loaded notice rest)) :
      Step environment shared (shared.tell environment index loaded notice rest)
  | register {next : SharedRegistrar} (hstep : shared.registrations.Step next)
      (horder : shared.registrations.GoesInOrder next) :
      Step environment shared (shared.withRegistrations next)
  | finish {index call : Nat} {result : Except String Unit}
      (hhandler : shared.handlers[index]? = some (.registering call))
      (hended : shared.stages[call]? = some (.ended result)) :
      Step environment shared (shared.finish index result)

end SharedSession

end FormatServer
