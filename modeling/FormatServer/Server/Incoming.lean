import FormatServer.Server.Capability
import FormatServer.Text.Line

/-!
What a client sends, read from the parameters of its messages.
-/

namespace FormatServer

/-- What a client lets the server do while it runs. -/
structure Capabilities where
  registersFormatting : Bool
  registersRangeFormatting : Bool
  registersWatchers : Bool
  deriving DecidableEq

namespace Capabilities

def none : Capabilities :=
  ⟨false, false, false⟩

/-- Whether both formatting requests can be registered. -/
def registersBoth (capabilities : Capabilities) : Bool :=
  capabilities.registersFormatting && capabilities.registersRangeFormatting

end Capabilities

structure Introduction where
  capabilities : Capabilities
  folders : List Uri
  root : Option Uri
  options : Option Data

inductive Incoming where
  | introduce (introduction : Introduction)
  | introduced
  | shutDown
  | opened (uri : Uri) (language text : String) (version : Int)
  /-- The new texts of a document, of which the last one counts. -/
  | changed (uri : Uri) (version : Int) (texts : List String)
  | closed (uri : Uri)
  | configured (settings : Data)
  | refoldered (added removed : List Uri)
  | filesChanged (uris : List Uri)
  | format (uri : Uri)
  | formatRange (uri : Uri) (range : Range)

namespace Shape

/-! ### The parameters of the methods -/

def position : Shape :=
  record [required "line" word, required "character" word]

def range : Shape :=
  record [required "start" position, required "end" position]

/-- What names a document. -/
def document : Shape :=
  record [required "uri" identifier]

def folder : Shape :=
  record [required "uri" identifier, required "name" text]

/-- What the client calls a piece of work whose progress it wants to hear of. -/
def token : Shape :=
  either signed text

def introduction : Shape :=
  named [
    optional "processId" word,
    optional "rootPath" text,
    optional "rootUri" identifier,
    optional "initializationOptions" anything,
    required "capabilities" capabilities,
    optional "trace" (choice ["off", "messages", "verbose"]),
    optional "workspaceFolders" (list folder),
    optional "clientInfo" (record [required "name" text, optional "version" text]),
    optional "locale" text,
    optional "workDoneToken" token] anything

def opening : Shape :=
  record [required "textDocument" (record [
    required "uri" identifier,
    required "languageId" text,
    required "version" signed,
    required "text" text])]

def change : Shape :=
  record [
    required "textDocument" (record [required "uri" identifier, required "version" signed]),
    required "contentChanges" (list (record [
      optional "range" range,
      optional "rangeLength" word,
      required "text" text]))]

def closing : Shape :=
  record [required "textDocument" document]

def configuration : Shape :=
  record [required "settings" anything]

def folderChange : Shape :=
  record [required "event" (record [
    required "added" (list folder),
    required "removed" (list folder)])]

def fileChanges : Shape :=
  record [required "changes" (list (record [
    required "uri" identifier,
    required "type" signed]))]

/-- How the client indents, with whatever else it says of the style. -/
def indentation : Shape :=
  named [
    required "tabSize" word,
    required "insertSpaces" flag,
    optional "trimTrailingWhitespace" flag,
    optional "insertFinalNewline" flag,
    optional "trimFinalNewlines" flag] (either flag (either signed text))

def formatting : Shape :=
  named [
    required "textDocument" document,
    required "options" indentation,
    optional "workDoneToken" token] anything

def rangeFormatting : Shape :=
  named [
    required "textDocument" document,
    required "range" range,
    required "options" indentation,
    optional "workDoneToken" token] anything

/-- The shape of the parameters of a method. -/
def ofMethod? : String → Option Shape
  | "initialize" => some introduction
  | "initialized" => some (record [])
  | "textDocument/didOpen" => some opening
  | "textDocument/didChange" => some change
  | "textDocument/didClose" => some closing
  | "workspace/didChangeConfiguration" => some configuration
  | "workspace/didChangeWorkspaceFolders" => some folderChange
  | "workspace/didChangeWatchedFiles" => some fileChanges
  | "textDocument/formatting" => some formatting
  | "textDocument/rangeFormatting" => some rangeFormatting
  | _ => none

end Shape

namespace Incoming

/-- The folders that the message adds. -/
def folders : Incoming → List Uri
  | introduce introduction => introduction.folders
  | refoldered added _ => added
  | _ => []

/-- The document that the message asks to format. -/
def document? : Incoming → Option Uri
  | format uri => some uri
  | formatRange uri _ => some uri
  | _ => none

/-! ### Reading the parameters, which have their shape -/

abbrev Reader (α : Type) := Data → Option α

def field {α : Type} (name : String) (read : Reader α) : Reader α := fun data =>
  (data.field? name).bind read

def readUri : Reader Uri := fun data =>
  data.text?.bind Uri.read?

def readList {α : Type} (read : Reader α) : Reader (List α) := fun data => do
  let items ← data.items?
  items.mapM read

def readWord : Reader UInt32 := fun data =>
  data.integer?.map fun value => UInt32.ofNat value.toNat

def readPosition : Reader Position := fun data => do
  let line ← field "line" readWord data
  let character ← field "character" readWord data
  some ⟨line, character⟩

def readRange : Reader Range := fun data => do
  let start ← field "start" readPosition data
  let stop ← field "end" readPosition data
  some ⟨start, stop⟩

/-- Whether the flag that the names lead to is set. -/
def hasFlag (names : List String) (data : Data) : Bool :=
  ((names.foldl (fun data name => data.bind fun data => data.field? name) (some data)).bind
    Data.bool?).getD false

def readCapabilities (data : Data) : Capabilities where
  registersFormatting := hasFlag ["textDocument", "formatting", "dynamicRegistration"] data
  registersRangeFormatting :=
    hasFlag ["textDocument", "rangeFormatting", "dynamicRegistration"] data
  registersWatchers := hasFlag ["workspace", "didChangeWatchedFiles", "dynamicRegistration"] data

def documentUri : Reader Uri :=
  field "textDocument" (field "uri" readUri)

def readIntroduction (data : Data) : Introduction where
  capabilities := ((data.field? "capabilities").map readCapabilities).getD .none
  folders := (field "workspaceFolders" (readList (field "uri" readUri)) data).getD []
  root := field "rootUri" readUri data
  options := data.field? "initializationOptions"

/-- The message of a method with parameters of its shape. -/
def ofShaped? (method : String) (parameters : Data) : Option Incoming :=
  match method with
  | "initialize" => some (introduce (readIntroduction parameters))
  | "initialized" => some introduced
  | "textDocument/didOpen" => do
    let uri ← documentUri parameters
    let document ← parameters.field? "textDocument"
    let language ← field "languageId" Data.text? document
    let text ← field "text" Data.text? document
    let version ← field "version" Data.integer? document
    some (opened uri language text version)
  | "textDocument/didChange" => do
    let uri ← documentUri parameters
    let version ← field "textDocument" (field "version" Data.integer?) parameters
    let texts ← field "contentChanges" (readList (field "text" Data.text?)) parameters
    some (changed uri version texts)
  | "textDocument/didClose" => (documentUri parameters).map closed
  | "workspace/didChangeConfiguration" => (parameters.field? "settings").map configured
  | "workspace/didChangeWorkspaceFolders" => do
    let event ← parameters.field? "event"
    let added ← field "added" (readList (field "uri" readUri)) event
    let removed ← field "removed" (readList (field "uri" readUri)) event
    some (refoldered added removed)
  | "workspace/didChangeWatchedFiles" =>
    (field "changes" (readList (field "uri" readUri)) parameters).map filesChanged
  | "textDocument/formatting" => (documentUri parameters).map format
  | "textDocument/rangeFormatting" => do
    let uri ← documentUri parameters
    let range ← field "range" readRange parameters
    some (formatRange uri range)
  | _ => none

/-- The message of a method with its parameters; none if the parameters are not those of the
method. The outer option is empty for a method that is not known. Shutting down takes no parameters
at all. -/
def read? (method : String) (parameters : Data) : Option (Option Incoming) :=
  if method = "shutdown" then some (if parameters.isNull then some shutDown else none)
  else (Shape.ofMethod? method).map fun shape => (shape.read? parameters).bind (ofShaped? method)

/-- The methods that are answered. -/
def requestMethods : List String :=
  ["initialize", "shutdown", "textDocument/formatting", "textDocument/rangeFormatting"]

end Incoming

end FormatServer
