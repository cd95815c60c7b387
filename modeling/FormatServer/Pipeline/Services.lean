import FormatServer.Engine.Backend
import FormatServer.Report

/-!
What formatting a document consults, and the record of one run. The services may keep a state of
their own and make remarks; the status of a request is not theirs to report.
-/

namespace FormatServer

/-- A service's answer, its remarks and its state after it. -/
structure Reply (σ α : Type) where
  answer : α
  remarks : List Remark
  state : σ

structure Services (σ : Type) where
  /-- The engine for a file; the flag asks for a warning about an old one. -/
  engine : Option Path → Bool → σ → Reply σ (Except Failure Engine)
  linter : Option Path → Linter → σ → Reply σ (Option Backend)
  parsers : Option Path → String → List String
  eslintTakes : String → Bool
  stylelintTakes : String → Bool
  ignorePath : Path → Option Path
  hasConfig : Path → Bool
  /-- Finds and checks the configuration file for options that name one only if it is configured. -/
  resolveOptions : Options → Except String Options

/-- A consultation of a service. -/
inductive Question where
  | engine (file : Option Path) (checksVersion : Bool)
  | fileInfo (file : Path) (ignorePath : Option Path)
  | hasConfig (file : Path)
  | resolveOptions (options : Options)
  | linter (file : Option Path) (linter : Linter)
  | invoke (module text : String) (options : Options)
  deriving DecidableEq

inductive Event where
  | asked (question : Question)
  | warned (key message : String)
  | logged (line : LogLine)
  | status (status : Status)
  deriving DecidableEq

namespace Event

def status? : Event → Option Status
  | status value => some value
  | _ => none

/-- The status that was reported last. -/
def lastStatus (events : List Event) : Option Status :=
  (events.filterMap status?).getLast?

end Event

/-- A run: the warnings shown so far, what happened in order, and the state of the services. -/
structure Run (σ : Type) where
  ledger : Ledger
  events : List Event
  services : σ

namespace Run

variable {σ : Type}

def start (ledger : Ledger) (services : σ) : Run σ :=
  ⟨ledger, [], services⟩

def add (run : Run σ) (event : Event) : Run σ :=
  { run with events := run.events ++ [event] }

def remark (run : Run σ) : Remark → Run σ
  | .log line => run.add (.logged line)
  | .warnOnce key message =>
    match run.ledger.record key with
    | (true, ledger) => { run with ledger }.add (.warned key message)
    | (false, _) => run

def log (run : Run σ) (severity : Severity) (origin : Origin) (message : String) : Run σ :=
  run.add (.logged ⟨severity, origin, message⟩)

/-- Asks a service and takes up its remarks and its state. -/
def consult {α : Type} (run : Run σ) (question : Question) (service : σ → Reply σ α) : α × Run σ :=
  let reply := service run.services
  (reply.answer,
    { reply.remarks.foldl remark (run.add (.asked question)) with services := reply.state })

end Run

end FormatServer
