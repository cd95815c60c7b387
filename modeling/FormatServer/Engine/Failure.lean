import FormatServer.Disk.Basic

/-!
Why a document was not formatted.
-/

namespace FormatServer

inductive Failure where
  | engineNotFound (advice : String)
  | parserNotFound (language : String)
  | options (reason : String)
  /-- The formatter ended with an error of its own. -/
  | backend (module reason : String)
  | panicked (module : String)
  | invalidOutput (module reason : String)
  | io (error : IoError)
  deriving DecidableEq

namespace Failure

def message : Failure → String
  | engineNotFound advice => "Prettier engine not found: " ++ advice
  | parserNotFound language => "Failed to resolve a parser for language: " ++ language
  | options reason => "Failed to resolve formatting options: " ++ reason
  | backend module reason => module ++ " failed: " ++ reason
  | panicked module => module ++ " panicked"
  | invalidOutput module reason => module ++ " produced invalid output: " ++ reason
  | io error => "IO error: " ++ error.message

end Failure

end FormatServer
