import FormatServer.Engine.Failure
import FormatServer.Engine.FileInfo
import FormatServer.Engine.Options

/-!
Formatters as the pipeline sees them.
-/

namespace FormatServer

/-- How one run of a formatter ends. -/
inductive Attempt where
  | finished (result : Except Failure String)
  | panicked

namespace Attempt

/-- The text that the run gave, or why it gave none. -/
def result (attempt : Attempt) (module : String) : Except Failure String :=
  match attempt with
  | finished result => result
  | panicked => .error (.panicked module)

end Attempt

structure Backend where
  name : String
  invoke : String → Options → Attempt

/-- The formatter that can also classify files. -/
structure Engine extends Backend where
  fileInfo : Path → Option Path → Except Failure FileInfo

/-- The formatters that work with a linter. -/
inductive Linter where
  | tslint
  | eslint
  | stylelint
  deriving DecidableEq

namespace Linter

def moduleName : Linter → String
  | tslint => "prettier-tslint"
  | eslint => "prettier-eslint"
  | stylelint => "prettier-stylelint"

/-- The linters, the preferred one first. -/
def ranked : List Linter :=
  [tslint, eslint, stylelint]

end Linter

end FormatServer
