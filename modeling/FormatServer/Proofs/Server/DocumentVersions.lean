import FormatServer.Proofs.Server.History
import Mathlib.Data.List.Nodup
import Mathlib.Data.List.Perm.Basic

/-!
# Documents and their versions

A client tells of its documents one by one, and may tell of an older version after a newer one. Each
document is what the changes under its own URL make of it. Between opening and closing that is the
text of the last of the newest revisions, so the order in which revisions arrive does not matter as
long as their versions differ.
-/

namespace FormatServer

/-- A text with its version. -/
structure Revision where
  text : String
  version : Int
  deriving DecidableEq

def Document.revision (document : Document) : Revision :=
  ⟨document.text, document.version⟩

def Document.revised (document : Document) (revision : Revision) : Document :=
  Documents.revise document revision.text revision.version

/-- Something that a client does with a document. -/
inductive DocumentChange where
  | opened (url : Url) (document : Document)
  | revised (url : Url) (revision : Revision)
  | closed (url : Url)

namespace DocumentChange

def url : DocumentChange → Url
  | opened url _ | revised url _ | closed url => url

def revision? : DocumentChange → Option Revision
  | revised _ revision => some revision
  | _ => none

/-- What the change makes of the document that it is about, if that is open. -/
def result : DocumentChange → Option Document → Option Document
  | opened _ document, _ => some document
  | revised _ revision, document => document.map (·.revised revision)
  | closed _, _ => none

end DocumentChange

/-- Whether the document at the URL is neither opened nor closed. -/
def RevisesOnly (url : Url) (changes : List DocumentChange) : Prop :=
  ∀ change ∈ changes, change.url = url → change.revision?.isSome = true

def NeverOpens (url : Url) (changes : List DocumentChange) : Prop :=
  ∀ document, DocumentChange.opened url document ∉ changes

/-- The changes of the document at the URL. -/
def changesOf (url : Url) (changes : List DocumentChange) : List DocumentChange :=
  changes.filter fun change => change.url = url

def revisionsOf (url : Url) (changes : List DocumentChange) : List Revision :=
  (changesOf url changes).filterMap DocumentChange.revision?

namespace Documents

def apply (documents : Documents) : DocumentChange → Documents
  | .opened url document => documents.insert url document
  | .revised url revision => (documents.update url revision.text revision.version).2
  | .closed url => (documents.erase url).2

def run (documents : Documents) (changes : List DocumentChange) : Documents :=
  changes.foldl apply documents

variable {documents : Documents} {url : Url} {document : Document}

/-! ### One change -/

theorem lookup_put (entries : List (Url × Document)) (url other : Url) (document : Document) :
    (insert.put url document entries).lookup other =
      if other = url then some document else entries.lookup other := by
  induction entries with
  | nil => rw [insert.put, lookup_cons_eq_ite]
  | cons entry rest ih =>
    obtain ⟨key, old⟩ := entry
    by_cases hkey : key = url
    · subst hkey
      rw [insert.put, if_pos rfl, lookup_cons_eq_ite, lookup_cons_eq_ite]
      by_cases hother : other = key <;> simp [hother]
    · rw [insert.put, if_neg hkey, lookup_cons_eq_ite, lookup_cons_eq_ite, ih]
      by_cases hother : other = url
      · subst hother
        simp [Ne.symm hkey]
      · simp [hother]

theorem get?_insert (documents : Documents) (url other : Url) (document : Document) :
    (documents.insert url document).get? other =
      if other = url then some document else documents.get? other :=
  lookup_put documents.entries url other document

theorem put_of_lookup {entries : List (Url × Document)}
    (hfound : entries.lookup url = some document) :
    insert.put url document entries = entries := by
  induction entries with
  | nil => simp at hfound
  | cons entry rest ih =>
    obtain ⟨key, old⟩ := entry
    rw [lookup_cons_eq_ite] at hfound
    by_cases hkey : key = url
    · rw [if_pos hkey.symm, Option.some.injEq] at hfound
      obtain rfl : old = document := hfound
      rw [insert.put, if_pos hkey, hkey]
    · rw [if_neg (Ne.symm hkey)] at hfound
      rw [insert.put, if_neg hkey, ih hfound]

/-- A document that is put in its own place changes nothing. -/
theorem insert_of_get? (hfound : documents.get? url = some document) :
    documents.insert url document = documents :=
  congrArg Documents.mk (put_of_lookup hfound)

theorem get?_erase (documents : Documents) (url other : Url) :
    (documents.erase url).2.get? other = if other = url then none else documents.get? other := by
  obtain ⟨entries⟩ := documents
  simp only [erase, get?]
  induction entries with
  | nil => simp
  | cons entry rest ih =>
    rw [lookup_cons_eq_ite]
    by_cases hkey : entry.1 = url
    · rw [List.filter_cons_of_neg (by simpa using hkey), ih, hkey]
      by_cases hother : other = url <;> simp [hother]
    · rw [List.filter_cons_of_pos (by simpa using hkey), lookup_cons_eq_ite, ih]
      by_cases hother : other = url
      · subst hother
        simp [Ne.symm hkey]
      · simp [hother]

theorem erase_of_get? (hclosed : documents.get? url = none) :
    documents.erase url = (none, documents) := by
  have hkept : documents.entries.filter (fun entry => entry.1 ≠ url) = documents.entries := by
    rw [List.filter_eq_self]
    intro entry hentry
    simpa using Ne.symm (by simpa using List.lookup_eq_none_iff.mp hclosed entry hentry)
  rw [erase, hclosed, hkept]

/-- A change makes what it makes of the document that it is about, and nothing of all others. -/
theorem get?_apply (documents : Documents) (change : DocumentChange) (url : Url) :
    (documents.apply change).get? url =
      if url = change.url then change.result (documents.get? url) else documents.get? url := by
  cases change with
  | opened other document => exact get?_insert documents other url document
  | closed other => exact get?_erase documents other url
  | revised other revision =>
    rw [apply, update, DocumentChange.url]
    by_cases hurl : url = other
    · subst hurl
      cases hfound : documents.get? url with
      | none => simp [hfound, DocumentChange.result]
      | some document => simp [DocumentChange.result, get?_insert, Document.revised]
    · cases documents.get? other with
      | none => simp [hurl]
      | some document => simp [hurl, get?_insert]

/-! ### A run of changes -/

theorem run_append (documents : Documents) (changes more : List DocumentChange) :
    documents.run (changes ++ more) = (documents.run changes).run more :=
  List.foldl_append

/-- A document is what its own changes make of it. -/
theorem get?_run (documents : Documents) (changes : List DocumentChange) (url : Url) :
    (documents.run changes).get? url =
      (changesOf url changes).foldl (fun document change => change.result document)
        (documents.get? url) := by
  induction changes generalizing documents with
  | nil => rfl
  | cons change rest ih =>
    rw [run, List.foldl_cons, ← run, ih, get?_apply]
    by_cases hurl : change.url = url
    · simp [changesOf, hurl]
    · simp [changesOf, hurl, Ne.symm hurl]

theorem foldl_result {changes : List DocumentChange}
    (hrevises : ∀ change ∈ changes, change.revision?.isSome = true) (document : Document) :
    changes.foldl (fun document change => change.result document) (some document) =
      some ((changes.filterMap DocumentChange.revision?).foldl Document.revised document) := by
  induction changes generalizing document with
  | nil => rfl
  | cons change rest ih =>
    obtain ⟨hchange, hrest⟩ := List.forall_mem_cons.mp hrevises
    cases change with
    | revised url revision => exact ih hrest (document.revised revision)
    | opened | closed => simp [DocumentChange.revision?] at hchange

/-- A document that is only revised after it was opened is what the revisions make of it, whatever
came before. -/
theorem get?_run_opened {changes : List DocumentChange} (hrevises : RevisesOnly url changes)
    (documents : Documents) (before : List DocumentChange) (document : Document) :
    (documents.run (before ++ .opened url document :: changes)).get? url =
      some ((revisionsOf url changes).foldl Document.revised document) := by
  have hopened : ((documents.run before).apply (.opened url document)).get? url =
      some document := by
    rw [get?_apply, DocumentChange.url, if_pos rfl, DocumentChange.result]
  rw [run_append, run, List.foldl_cons, ← run, get?_run, hopened, foldl_result]
  · rfl
  · intro change hchange
    obtain ⟨hmem, hurl⟩ := List.mem_filter.mp hchange
    exact hrevises change hmem (by simpa using hurl)

/-- Only opening it brings a document about. -/
theorem get?_run_of_neverOpens {changes : List DocumentChange} (hnever : NeverOpens url changes)
    (hclosed : documents.get? url = none) : (documents.run changes).get? url = none := by
  induction changes generalizing documents with
  | nil => exact hclosed
  | cons change rest ih =>
    rw [run, List.foldl_cons, ← run]
    refine ih (fun document hmem => hnever document (List.mem_cons_of_mem change hmem)) ?_
    rw [get?_apply, hclosed]
    by_cases hurl : url = change.url
    · rw [if_pos hurl]
      cases change with
      | opened other document =>
        obtain rfl : url = other := hurl
        exact absurd List.mem_cons_self (hnever document)
      | revised | closed => rfl
    · rw [if_neg hurl]

theorem get?_run_closed {changes : List DocumentChange} (hnever : NeverOpens url changes)
    (documents : Documents) (before : List DocumentChange) :
    (documents.run (before ++ .closed url :: changes)).get? url = none := by
  have hclosed : ((documents.run before).apply (.closed url)).get? url = none := by
    rw [get?_apply, DocumentChange.url, if_pos rfl, DocumentChange.result]
  rw [run_append, run, List.foldl_cons, ← run]
  exact get?_run_of_neverOpens hnever hclosed

end Documents

/-! ### The last of the newest revisions -/

/-- The revision is the last one of those with the greatest version. -/
def IsLatest (latest : Revision) (revisions : List Revision) : Prop :=
  ∃ earlier later, revisions = earlier ++ latest :: later ∧
    (∀ revision ∈ earlier, revision.version ≤ latest.version) ∧
    ∀ revision ∈ later, revision.version < latest.version

variable {document : Document} {revision latest : Revision} {revisions : List Revision}

theorem IsLatest.concat_of_le (hlatest : IsLatest latest revisions)
    (hnewer : latest.version ≤ revision.version) : IsLatest revision (revisions ++ [revision]) := by
  obtain ⟨earlier, later, rfl, hearlier, hlater⟩ := hlatest
  refine ⟨earlier ++ latest :: later, [], rfl, fun other hother => ?_, by simp⟩
  rcases List.mem_append.mp hother with hother | hother
  · exact Int.le_trans (hearlier other hother) hnewer
  · rcases List.mem_cons.mp hother with rfl | hother
    · exact hnewer
    · exact Int.le_trans (Int.le_of_lt (hlater other hother)) hnewer

theorem IsLatest.concat_of_lt (hlatest : IsLatest latest revisions)
    (hstale : revision.version < latest.version) : IsLatest latest (revisions ++ [revision]) := by
  obtain ⟨earlier, later, rfl, hearlier, hlater⟩ := hlatest
  refine ⟨earlier, later ++ [revision], by simp, hearlier, fun other hother => ?_⟩
  rcases List.mem_append.mp hother with hother | hother
  · exact hlater other hother
  · rwa [List.mem_singleton.mp hother]

/-- A revision makes the document's text the latest one if it was so before. -/
theorem IsLatest.revised (hlatest : IsLatest document.revision revisions) (revision : Revision) :
    IsLatest (document.revised revision).revision (revisions ++ [revision]) := by
  by_cases hnewer : document.version ≤ revision.version
  · rw [Document.revised, Documents.revise, if_pos hnewer]
    exact hlatest.concat_of_le hnewer
  · rw [Document.revised, Documents.revise, if_neg hnewer]
    exact hlatest.concat_of_lt (Int.not_le.mp hnewer)

theorem isLatest_foldl_revised (hlatest : IsLatest document.revision revisions)
    (more : List Revision) :
    IsLatest (more.foldl Document.revised document).revision (revisions ++ more) := by
  induction more generalizing document revisions with
  | nil => simpa using hlatest
  | cons revision rest ih => simpa using ih (hlatest.revised revision)

theorem language_revised (document : Document) (revision : Revision) :
    (document.revised revision).language = document.language := by
  rw [Document.revised, Documents.revise]
  split <;> rfl

theorem version_revised (document : Document) (revision : Revision) :
    (document.revised revision).version = max document.version revision.version := by
  rw [Document.revised, Documents.revise]
  split
  next hnewer => exact (Int.max_eq_right hnewer).symm
  next hstale => exact (Int.max_eq_left (Int.le_of_lt (Int.not_le.mp hstale))).symm

theorem language_foldl_revised (document : Document) (revisions : List Revision) :
    (revisions.foldl Document.revised document).language = document.language := by
  induction revisions generalizing document with
  | nil => rfl
  | cons revision rest ih => rw [List.foldl_cons, ih, language_revised]

theorem version_foldl_revised (document : Document) (revisions : List Revision) :
    (revisions.foldl Document.revised document).version =
      (revisions.map Revision.version).foldl max document.version := by
  induction revisions generalizing document with
  | nil => rfl
  | cons revision rest ih => rw [List.foldl_cons, ih, version_revised, List.map_cons, List.foldl_cons]

/-- Two revisions of different versions may come in either order. -/
theorem revised_comm {first second : Revision} (hdiffer : first.version ≠ second.version)
    (document : Document) :
    (document.revised first).revised second = (document.revised second).revised first := by
  unfold Document.revised Documents.revise
  grind

theorem foldl_revised_perm {others : List Revision} (hperm : others.Perm revisions)
    (hdistinct : (revisions.map Revision.version).Nodup) (document : Document) :
    others.foldl Document.revised document = revisions.foldl Document.revised document := by
  refine (hperm.symm.foldl_eq' (fun first hfirst second hsecond before => ?_) document).symm
  by_cases hsame : first = second
  · rw [hsame]
  · exact revised_comm (fun hversion => hsame
      (List.inj_on_of_nodup_map hdistinct hfirst hsecond hversion)) before

/-! ### A store of documents -/

namespace Documents

/-- A document depends on its own changes only. From when it was opened until it is opened again or
closed it has the language that it was opened with, the greatest version so far, and the text of the
last revision of that version. What came before it was opened does not count, nor does the order of
the revisions if their versions differ. A stale revision leaves the store as it is, and so does a
revision or the closing of a document that is not open. Not open is a document from when it was
closed, or from the start, until it is opened. -/
theorem document_is_latest_of_own_changes (documents : Documents) (url : Url) :
    (∀ (other : Documents) (changes otherChanges : List DocumentChange),
      other.get? url = documents.get? url → changesOf url otherChanges = changesOf url changes →
        (other.run otherChanges).get? url = (documents.run changes).get? url) ∧
    (∀ before opening changes, RevisesOnly url changes →
      ∃ document,
        (documents.run (before ++ .opened url opening :: changes)).get? url = some document ∧
        document.language = opening.language ∧
        document.version =
          ((revisionsOf url changes).map Revision.version).foldl max opening.version ∧
        IsLatest document.revision (opening.revision :: revisionsOf url changes) ∧
        ∀ otherBefore otherChanges, RevisesOnly url otherChanges →
          (revisionsOf url otherChanges).Perm (revisionsOf url changes) →
          ((revisionsOf url changes).map Revision.version).Nodup →
            (documents.run (otherBefore ++ .opened url opening :: otherChanges)).get? url =
              some document) ∧
    (∀ document text version, documents.get? url = some document → version < document.version →
      documents.update url text version = (true, documents)) ∧
    (documents.get? url = none →
      (∀ text version, documents.update url text version = (false, documents)) ∧
        documents.erase url = (none, documents) ∧
        ∀ changes, NeverOpens url changes → (documents.run changes).get? url = none) ∧
    ∀ before changes, NeverOpens url changes →
      (documents.run (before ++ .closed url :: changes)).get? url = none := by
  refine ⟨?_, ?_, ?_, ?_, fun before changes hnever => get?_run_closed hnever documents before⟩
  · intro other changes otherChanges hsame hchanges
    rw [get?_run, get?_run, hsame, hchanges]
  · intro before opening changes hrevises
    refine ⟨_, get?_run_opened hrevises documents before opening,
      language_foldl_revised opening _, version_foldl_revised opening _, ?_, ?_⟩
    · have hopening : IsLatest opening.revision [opening.revision] := ⟨[], [], rfl, by simp⟩
      exact isLatest_foldl_revised hopening (revisionsOf url changes)
    · intro otherBefore otherChanges hotherRevises hperm hdistinct
      rw [get?_run_opened hotherRevises, foldl_revised_perm hperm hdistinct]
  · intro document text version hfound hstale
    have hkept : revise document text version = document := by
      rw [revise, if_neg (Int.not_le.mpr hstale)]
    rw [update, hfound]
    simp only [hkept, insert_of_get? hfound]
  · intro hclosed
    refine ⟨fun text version => ?_, erase_of_get? hclosed, fun changes hnever =>
      get?_run_of_neverOpens hnever hclosed⟩
    rw [update, hclosed]

def scriptUrl (name : String) : Url :=
  ⟨"file", ("", none), some "", none, .segments [name], none, none⟩

/-- A stale revision arrives between newer ones, and another document is revised in between. Nothing
is left of the versions before the document was opened again, nor of the document after it was
closed, although another one is opened then. -/
theorem reopened_and_reordered :
    let opening := Document.mk "three" "typescript" 3
    let first := [DocumentChange.revised (scriptUrl "a.ts") ⟨"two", 2⟩,
      .revised (scriptUrl "b.ts") ⟨"other", 9⟩, .revised (scriptUrl "a.ts") ⟨"five", 5⟩,
      .revised (scriptUrl "a.ts") ⟨"four", 4⟩]
    let second := [DocumentChange.revised (scriptUrl "a.ts") ⟨"four", 4⟩,
      .revised (scriptUrl "a.ts") ⟨"five", 5⟩, .revised (scriptUrl "a.ts") ⟨"two", 2⟩]
    let before := [DocumentChange.opened (scriptUrl "a.ts") ⟨"hundred", "javascript", 100⟩]
    let last := [DocumentChange.revised (scriptUrl "a.ts") ⟨"six", 6⟩,
      .opened (scriptUrl "b.ts") ⟨"other", "typescript", 1⟩]
    let documents := empty.run (before ++ .opened (scriptUrl "a.ts") opening :: first)
    documents.get? (scriptUrl "a.ts") = some ⟨"five", "typescript", 5⟩ ∧
      (empty.run ([] ++ .opened (scriptUrl "a.ts") opening :: second)).get? (scriptUrl "a.ts") =
        some ⟨"five", "typescript", 5⟩ ∧
      documents.update (scriptUrl "a.ts") "four" 4 = (true, documents) ∧
      documents.update (scriptUrl "b.ts") "other" 10 = (false, documents) ∧
      (documents.run (first ++ .closed (scriptUrl "a.ts") :: last)).get? (scriptUrl "a.ts") =
        none := by
  intro opening first second before last documents
  have hfirst : RevisesOnly (scriptUrl "a.ts") first := by
    simp [RevisesOnly, first, DocumentChange.revision?]
  have hsecond : RevisesOnly (scriptUrl "a.ts") second := by
    simp [RevisesOnly, second, DocumentChange.revision?]
  have hlast : NeverOpens (scriptUrl "a.ts") last := by
    simp [NeverOpens, last, scriptUrl]
  have hopen : documents.get? (scriptUrl "a.ts") = some ⟨"five", "typescript", 5⟩ := by decide
  have hclosed : documents.get? (scriptUrl "b.ts") = none := by decide
  obtain ⟨document, hdocument, -, -, -, hreordered⟩ :=
    (document_is_latest_of_own_changes empty (scriptUrl "a.ts")).2.1 before opening first hfirst
  obtain rfl : document = _ := Option.some.inj (hdocument.symm.trans hopen)
  have hagain := hreordered [] second hsecond (by decide) (by decide)
  clear_value documents
  obtain ⟨-, -, hstale, -, hgone⟩ := document_is_latest_of_own_changes documents (scriptUrl "a.ts")
  obtain ⟨-, -, -, hnone, -⟩ := document_is_latest_of_own_changes documents (scriptUrl "b.ts")
  exact ⟨hopen, hagain, hstale _ "four" 4 hopen (by decide), (hnone hclosed).1 "other" 10,
    hgone first last hlast⟩

end Documents

/-! ### The documents of a session -/

/-- What the message does with a document, if it names one. Of the texts of a revision the last
counts. -/
def Incoming.change? : Incoming → Option DocumentChange
  | opened uri language text version =>
    uri.url?.map fun url => .opened url ⟨text, language, version⟩
  | changed uri version texts =>
    match uri.url?, texts.getLast? with
    | some url, some text => some (.revised url ⟨text, version⟩)
    | _, _ => none
  | closed uri => uri.url?.map .closed
  | _ => none

namespace Session

variable {session : Session} {history : History}

theorem documents_reloadAndRefresh (environment : Environment) (client : Client)
    (session : Session) :
    (session.reloadAndRefresh environment client).session.documents = session.documents := by
  obtain ⟨registrar, hrefresh⟩ :=
    exists_registrar_of_refresh client (session.reload environment).session
  rw [reloadAndRefresh, Progress.andThen]
  simp only [hrefresh]
  rfl

theorem documents_formatDocument (environment : Environment) (url : Option Url)
    (range : Option Range) (session : Session) :
    (session.formatDocument environment url range).2.session.documents = session.documents := by
  obtain ⟨installed, ledger, hformatted⟩ :=
    exists_rest_of_formatDocument environment url range session
  rw [hformatted]

theorem documents_handle (environment : Environment) (client : Client) (incoming : Incoming)
    (session : Session) :
    (session.handle environment client incoming).2.session.documents =
      session.documents.run incoming.change?.toList := by
  cases incoming with
  | introduce introduction =>
    rw [handle, start]
    cases introduction.options <;> rfl
  | introduced =>
    obtain ⟨registrar, hready⟩ := exists_registrar_of_ready client session
    rw [handle, hready]
    rfl
  | shutDown => rfl
  | opened uri language text version =>
    rw [handle, Incoming.change?]
    cases uri.url? <;> rfl
  | changed uri version texts =>
    rw [handle, Incoming.change?]
    cases uri.url? with
    | none => rfl
    | some url => cases texts.getLast? <;> rfl
  | closed uri =>
    rw [handle, Incoming.change?]
    cases uri.url? <;> rfl
  | configured settings =>
    rw [handle, configure]
    cases settingsSection? settings with
    | none => rfl
    | some given => exact documents_reloadAndRefresh environment client _
  | refoldered added removed => exact documents_reloadAndRefresh environment client _
  | filesChanged uris =>
    rw [handle, noteFiles]
    split
    next => exact documents_reloadAndRefresh environment client _
    next => rfl
  -- What the run comes to is of no account here.
  | format uri =>
    have hkept := documents_formatDocument environment uri.url? none session
    rw [handle]
    generalize session.formatDocument environment uri.url? none = formatted at hkept ⊢
    exact hkept
  | formatRange uri range =>
    have hkept := documents_formatDocument environment uri.url? (some range) session
    rw [handle]
    generalize session.formatDocument environment uri.url? (some range) = formatted at hkept ⊢
    exact hkept

/-- The documents of a session are what the messages that it has handled make of them, the first
message first. -/
theorem HasHandled.documents_eq_run (hhandled : session.HasHandled history) :
    session.documents = Documents.empty.run (history.reverse.filterMap (·.2.change?)) := by
  induction hhandled with
  | initial => rfl
  | @receive history before _ environment client method parameters ih =>
    rw [List.reverse_append, List.filterMap_append, Documents.run_append, ← ih]
    cases hincoming : before.handled? method parameters with
    | some incoming =>
      rw [(receive_of_handled? hincoming).1, documents_handle]
      cases hchange : incoming.change? <;> simp [hchange]
    | none =>
      rcases receive_of_not_handled hincoming with hsame | ⟨-, hclosed⟩
      · rw [hsame]
        rfl
      · rw [hclosed]
        rfl

end Session

end FormatServer
