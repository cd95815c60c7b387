import FormatServer.Server.Registrar

/-!
A registrar that several handlers use at once. Its lock lets one call in at a time and keeps it for
as long as the client takes to answer. The others wait, and any of them may be the next.
-/

namespace FormatServer

namespace Registrar

inductive Call where
  | replace (selectors : Selectors)
  | dispose
  deriving DecidableEq

/-- Where a call is when it does not run. -/
inductive Stage where
  /-- The call is yet to be let in. -/
  | waiting (call : Call)
  /-- The client has been asked to give up the pair with the number. -/
  | releasing (number : UInt64) (call : Call)
  /-- The client has been asked to accept the pair with the number. -/
  | registering (number : UInt64) (selectors : Selectors)
  | ended (result : Except String Unit)

/-- Whether the call has the lock. -/
def Stage.isInside : Stage → Bool
  | releasing _ _ | registering _ _ => true
  | waiting _ | ended _ => false

/-- What passes between the registrar and the client, or is logged. -/
inductive Traffic where
  | sent (request : ClientRequest)
  | answered (request : ClientRequest) (failure : Option String)
  | logged (line : LogLine)
  deriving DecidableEq

/-- What is left by a call that ran until it had to wait or had ended. -/
structure Stretch where
  registrar : Registrar
  stage : Stage
  traffic : List Traffic

/-- The stretch with what passed before it. -/
def Stretch.behind (stretch : Stretch) (before : List Traffic) : Stretch :=
  { stretch with traffic := before ++ stretch.traffic }

/-- Goes on with a call when no pair is registered. -/
def proceed (registrar : Registrar) : Call → Stretch
  | .dispose => ⟨registrar, .ended (.ok ()), []⟩
  | .replace selectors =>
    let (number, registrar) := registrar.draw
    ⟨registrar, .registering number selectors,
      [.sent (.register (Registration.pair number selectors))]⟩

/-- Begins a call. -/
def enter (registrar : Registrar) (call : Call) : Stretch :=
  match registrar.current with
  | none => registrar.proceed call
  | some number =>
    ⟨registrar.forget, .releasing number call, [.sent (.unregister (Unregistration.pair number))]⟩

/-- Goes on when the client has answered about the pair that was registered. -/
def release (registrar : Registrar) (number : UInt64) (call : Call) (failure : Option String) :
    Stretch :=
  let answer := Traffic.answered (.unregister (Unregistration.pair number)) failure
  let remarks := failure.toList.map fun reason => Traffic.logged (releaseFailure number reason)
  (registrar.proceed call).behind (answer :: remarks)

/-- Goes on when the client has answered about the new pair. -/
def settle (registrar : Registrar) (number : UInt64) (selectors : Selectors)
    (failure : Option String) : Stretch :=
  let answer := Traffic.answered (.register (Registration.pair number selectors)) failure
  match failure with
  | some reason => ⟨registrar, .ended (.error reason), [answer]⟩
  | none => ⟨registrar.keep number, .ended (.ok ()), [answer]⟩

end Registrar

open Registrar

/-- A registrar with its lock and the calls that are made, each at its stage. -/
structure SharedRegistrar where
  registrar : Registrar
  /-- The call that has the lock. -/
  holder : Option Nat
  stages : List Stage
  /-- Everything so far, in order. -/
  traffic : List Traffic

namespace SharedRegistrar

def initial (calls : List Call) : SharedRegistrar :=
  ⟨.initial, none, calls.map .waiting, []⟩

/-- A call has run. It gives the lock back when it has ended. -/
def after (shared : SharedRegistrar) (index : Nat) (stretch : Stretch) : SharedRegistrar where
  registrar := stretch.registrar
  holder := if stretch.stage.isInside then some index else none
  stages := shared.stages.set index stretch.stage
  traffic := shared.traffic ++ stretch.traffic

/-- What may happen next: one of the calls is let in, or the client answers one that is inside. -/
inductive Step (shared : SharedRegistrar) : SharedRegistrar → Prop
  | enter {index : Nat} {call : Call} (hfree : shared.holder = none)
      (hstage : shared.stages[index]? = some (.waiting call)) :
      Step shared (shared.after index (shared.registrar.enter call))
  | release {index : Nat} {number : UInt64} {call : Call}
      (hstage : shared.stages[index]? = some (.releasing number call)) (failure : Option String) :
      Step shared (shared.after index (shared.registrar.release number call failure))
  | settle {index : Nat} {number : UInt64} {selectors : Selectors}
      (hstage : shared.stages[index]? = some (.registering number selectors))
      (failure : Option String) :
      Step shared (shared.after index (shared.registrar.settle number selectors failure))

end SharedRegistrar

end FormatServer
