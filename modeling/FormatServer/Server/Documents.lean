import FormatServer.Url.Basic

/-!
The open documents. A client sends every change as the whole text with a version, and versions may
arrive out of order.
-/

namespace FormatServer

structure Document where
  text : String
  language : String
  version : Int
  deriving DecidableEq

structure Documents where
  entries : List (Url × Document)

namespace Documents

def empty : Documents :=
  ⟨[]⟩

def get? (documents : Documents) (url : Url) : Option Document :=
  documents.entries.lookup url

def size (documents : Documents) : Nat :=
  documents.entries.length

def insert (documents : Documents) (url : Url) (document : Document) : Documents :=
  ⟨put documents.entries⟩
where
  put : List (Url × Document) → List (Url × Document)
    | [] => [(url, document)]
    | (other, old) :: rest =>
      if other = url then (url, document) :: rest else (other, old) :: put rest

/-- A new text, unless the document is at a later version already. -/
def revise (document : Document) (text : String) (version : Int) : Document :=
  if document.version ≤ version then { document with text, version } else document

/-- Revises a document; the flag says whether it is open. -/
def update (documents : Documents) (url : Url) (text : String) (version : Int) :
    Bool × Documents :=
  match documents.get? url with
  | none => (false, documents)
  | some document => (true, documents.insert url (revise document text version))

/-- Closes a document and gives what it was. -/
def erase (documents : Documents) (url : Url) : Option Document × Documents :=
  (documents.get? url, ⟨documents.entries.filter fun entry => entry.1 ≠ url⟩)

end Documents

end FormatServer
