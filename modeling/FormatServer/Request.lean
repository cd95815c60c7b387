import FormatServer.Text.Line
import FormatServer.Url.Basic

/-!
Requests to format a document, and what comes of them.
-/

namespace FormatServer

structure Request where
  url : Url
  language : String
  text : String
  /-- The file of the document; only a URL of the scheme `file` has one. -/
  file : Option Path
  span : Option Span

namespace Request

def ofDocument (url : Url) (language text : String) : Request where
  url := url
  language := language
  text := text
  file := url.file?
  span := none

def withSpan (request : Request) (span : Option Span) : Request :=
  { request with span }

end Request

/-- How the last request ended. -/
inductive Status where
  | success
  | error
  | ignore
  deriving DecidableEq

namespace Status

def name : Status → String
  | success => "success"
  | error => "error"
  | ignore => "ignore"

end Status

inductive Outcome where
  | formatted (text : String)
  | unchanged (text : String)
  | ignored
  /-- Nothing was formatted. The text is there if a formatter was run. -/
  | failed (text : Option String)
  deriving DecidableEq

namespace Outcome

/-- The text that the document should have; none leaves it to another formatter. -/
def text? : Outcome → Option String
  | formatted text => some text
  | unchanged text => some text
  | ignored => none
  | failed text => text

def status : Outcome → Status
  | formatted _ => .success
  | unchanged _ => .success
  | ignored => .ignore
  | failed _ => .error

end Outcome

end FormatServer
