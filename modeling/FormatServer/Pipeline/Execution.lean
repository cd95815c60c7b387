import FormatServer.Pipeline.Services

/-!
The run of one formatter on a document.
-/

namespace FormatServer

namespace Run

variable {σ : Type}

def conclude (run : Run σ) (outcome : Outcome) : Outcome × Run σ :=
  (outcome, run.add (.status outcome.status))

/-- The outcome of an attempt on `source`. A failure is logged and keeps the text. -/
def settle (run : Run σ) (attempt : Attempt) (source module : String) : Outcome × Run σ :=
  match attempt.result module with
  | .ok text => run.conclude (if text = source then .unchanged text else .formatted text)
  | .error failure =>
    (run.log .error .execution ("[" ++ module ++ "] " ++ failure.message)).conclude
      (.failed (some source))

/-- Runs a formatter on a text. -/
def execute (run : Run σ) (backend : Backend) (text : String) (options : Options) :
    Outcome × Run σ :=
  (run.add (.asked (.invoke backend.name text options))).settle (backend.invoke text options) text
    backend.name

end Run

end FormatServer
