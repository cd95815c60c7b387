import FormatServer.Server.Session

/-!
What the client gets to see of runs, while runs go on. Each status and each warning is sent by a
task of its own, so that no run waits for the client, and any task may be the next to go on.
-/

namespace FormatServer

/-- The message of an effect that the client gets to see. -/
def Effect.message? : Effect → Option Message
  | sent message => some message
  | logged _ => none

/-- What is sent of an event, by one task. -/
def Event.messages (event : Event) : List Message :=
  (Effect.ofEvent event).filterMap Effect.message?

namespace Notifier

inductive Call where
  | updateStatus (status : Status)
  | warnOnce (key message : String)
  | dispose
  deriving DecidableEq

end Notifier

structure Notifier where
  ledger : Ledger
  /-- The events for which there are tasks, in the order of the calls. -/
  events : List Event
  /-- What each task has yet to send. -/
  tasks : List (List Message)
  /-- Everything that was sent to the client, in order. -/
  sent : List Message

namespace Notifier

def initial : Notifier :=
  ⟨.empty, [], [], []⟩

/-- Starts a task for an event. -/
def spawn (notifier : Notifier) (event : Event) : Notifier :=
  { notifier with
    events := notifier.events ++ [event]
    tasks := notifier.tasks ++ [event.messages] }

def take (notifier : Notifier) : Call → Notifier
  | .updateStatus status => notifier.spawn (.status status)
  | .warnOnce key message =>
    match notifier.ledger.record key with
    | (true, ledger) => { notifier with ledger }.spawn (.warned key message)
    | (false, _) => notifier
  | .dispose => { notifier with ledger := .empty }

/-- What may happen next: a call comes in, or a task sends its next message. A task may pass those
that were started before it only if these are as `mayPass` says. -/
inductive Step (mayPass : List (List Message) → Prop) (notifier : Notifier) : Notifier → Prop
  | take (call : Call) : Step mayPass notifier (notifier.take call)
  | send {before after : List (List Message)} {message : Message} {rest : List Message}
      (htasks : notifier.tasks = before ++ (message :: rest) :: after) (hpass : mayPass before) :
      Step mayPass notifier
        { notifier with
          tasks := before ++ rest :: after
          sent := notifier.sent ++ [message] }

end Notifier

end FormatServer
