import FormatServer.Request

/-!
What is reported while documents are formatted: statuses, warnings that are shown once, and lines
of the log.
-/

namespace FormatServer

inductive Severity where
  | warning
  | error
  deriving DecidableEq

/-- The part of the program that a line of the log comes from. -/
inductive Origin where
  | pipeline
  | execution
  | programs
  | status
  | registration
  | settings
  deriving DecidableEq

namespace Origin

/-- The origin's name in the log. -/
def target : Origin → String
  | pipeline => "prettier_ls::orchestrator"
  | execution => "prettier_ls::executor"
  | programs => "prettier_ls::modules"
  | status => "prettier_ls::status"
  | registration => "prettier_ls::registration"
  | settings => "prettier_ls::settings"

end Origin

structure LogLine where
  severity : Severity
  origin : Origin
  message : String
  deriving DecidableEq

/-- Something to report besides the status of a request. -/
inductive Remark where
  /-- Asks for a warning to be shown unless one was shown for the key. -/
  | warnOnce (key message : String)
  | log (line : LogLine)
  deriving DecidableEq

/-- The keys for which a warning was shown. -/
structure Ledger where
  keys : List String
  deriving DecidableEq

namespace Ledger

def empty : Ledger :=
  ⟨[]⟩

/-- Whether no warning was shown for the key, and the ledger with the key. -/
def record (ledger : Ledger) (key : String) : Bool × Ledger :=
  if ledger.keys.contains key then (false, ledger) else (true, ⟨ledger.keys ++ [key]⟩)

end Ledger

/-- The last status, and the warnings that went to the log. -/
structure StatusLog where
  ledger : Ledger
  last : Option Status
  deriving DecidableEq

namespace StatusLog

def empty : StatusLog :=
  ⟨.empty, none⟩

def update (log : StatusLog) (status : Status) : StatusLog :=
  { log with last := some status }

/-- Whether the warning is shown, the line it is shown with, and the log after it. -/
def warn (log : StatusLog) (key message : String) : Bool × List LogLine × StatusLog :=
  match log.ledger.record key with
  | (true, ledger) => (true, [⟨.warning, .status, message⟩], { log with ledger })
  | (false, _) => (false, [], log)

end StatusLog

end FormatServer
