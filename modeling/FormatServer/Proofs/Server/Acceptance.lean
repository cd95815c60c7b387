import FormatServer.Proofs.Pipeline.Gates
import FormatServer.Proofs.Selector.Scope
import FormatServer.Proofs.Server.Reachable

/-!
# Accepted documents and their parsers

A request is accepted by the path that the document's URL leads to, and a URL of any scheme may lead
to one. It is then carried out for the file of the document, and only a URL of the scheme `file` has
one. The two differ for untitled documents with a path. Such a document is accepted in a folder for
a language that only this folder adds, but without a file it lies in no folder, and so its language
has no parser. It is shown here that this is the only way in which an accepted document can lack
one.
-/

namespace FormatServer

namespace Pipeline

/-- The parser's gate stops no document whose language has a parser. -/
theorem Gate.parsers_eq_nil_of_stops {σ : Type} {services : Services σ} {workspace : Workspace}
    {request : Request} {state : σ}
    (hstops : Gate.parser.stops services workspace request state = true) :
    services.parsers request.file request.language = [] := by
  rw [Gate.stops, Option.any_eq_true] at hstops
  obtain ⟨engine, -, hnone⟩ := hstops
  rw [parserBy, Option.isNone_iff_eq_none, Option.or_eq_none_iff] at hnone
  exact List.head?_eq_none_iff.mp hnone.2

end Pipeline

namespace Session

variable {session : Session} {url : Url} {language : String} {isRange : Bool} {request : Request}

theorem exists_document_of_request? (hrequest : session.request? url isRange = some request) :
    ∃ document, session.documents.get? url = some document ∧
      session.accepts url document.language isRange = true ∧
      request = Request.ofDocument url document.language document.text := by
  rw [request?] at hrequest
  cases hdocument : session.documents.get? url with
  | none => simp [hdocument] at hrequest
  | some document =>
    rw [hdocument] at hrequest
    dsimp only at hrequest
    split at hrequest
    next haccepts => exact ⟨document, rfl, haccepts, (Option.some.inj hrequest).symm⟩
    next => simp at hrequest

/-- What a document is accepted for: its language is one for all documents, or a folder around its
path adds the language. -/
theorem enabled_of_accepts (hcurrent : session.HasCurrentSelectors)
    (hstatic : session.capabilities.registersBoth = false)
    (haccepts : session.accepts url language isRange = true) :
    language ∈ LanguageTable.builtinIds ∨
      (session.settings.languages.get? language).isSome = true ∨
      isRange = false ∧ url.scheme ∈ Selectors.schemes ∧
        ∃ path, url.toPath? = some path ∧ ∃ folder ∈ session.folders,
          path.isStrictlyIn folder.shown = true ∧
            ∃ languages, session.folderLanguages.get? folder = some languages ∧
              (languages.get? language).isSome = true := by
  have hselectors : session.selectors = session.computeSelectors := by
    refine hcurrent.computed.resolve_left fun hempty => ?_
    rw [accepts, hstatic, hempty] at haccepts
    cases isRange <;> simp [Selectors.empty, Selectors.admits, Selectors.admitsRange] at haccepts
  rw [accepts, hstatic, hselectors, computeSelectors] at haccepts
  cases isRange with
  | true =>
    have hbuiltin : ∀ id ∈ Language.rangeIds, id ∈ LanguageTable.builtinIds := by decide
    exact .inl (hbuiltin language (Selectors.mem_range_of_admitsRange haccepts))
  | false =>
    have hadmits : (Selectors.compute session.languages.scopes session.folders
        session.settings.disableLanguages).admits language url.scheme url.toPath? = true := haccepts
    by_cases hfolders : session.folders = []
    · rw [hfolders] at hadmits
      have henabled := Selectors.mem_enabled_of_admits hadmits
      rcases LanguageTable.mem_enabledIds_none.mp henabled with hbuiltin | hgeneral
      · exact .inl hbuiltin
      · exact .inr (.inl hgeneral)
    · obtain ⟨hscheme, -, folder, hfolder, henabled, hplace⟩ :=
        (Selectors.admits_compute_iff_any hfolders url.toPath?).mp hadmits
      rw [Option.any_eq_true] at hplace
      obtain ⟨path, hpath, hin⟩ := hplace
      rcases LanguageTable.mem_enabledIds.mp henabled with hbuiltin | hgeneral | hadded
      · exact .inl hbuiltin
      · exact .inr (.inl hgeneral)
      · exact .inr (.inr ⟨rfl, hscheme, path, hpath, folder, hfolder, hin, hadded⟩)

/-- A whole untitled document in a language that neither is builtin nor has parsers in the
settings. -/
structure OutOfReach (session : Session) (url : Url) (language : String) (isRange : Bool) :
    Prop where
  whole : isRange = false
  untitled : url.scheme = "untitled"
  notBuiltin : language ∉ LanguageTable.builtinIds
  notGeneral : session.settings.languages.get? language = none

/-- An accepted document lacks a parser exactly if it is out of reach. All others get past the
parser's gate. -/
theorem lacks_parser_iff_outOfReach (hreachable : session.Reachable)
    (hstatic : session.capabilities.registersBoth = false) (hfilled : session.languages.IsFilled)
    (htext : ∀ folder ∈ session.folders, folder.isText = true)
    (hrequest : session.request? url isRange = some request) :
    (session.languages.parsers request.file request.language = [] ↔
        session.OutOfReach url request.language isRange) ∧
      (¬session.OutOfReach url request.language isRange →
        ∀ environment span state,
          Pipeline.Gate.parser.stops
            (Services.standard environment session.workspace session.languages) session.workspace
            (request.withSpan span) state = false) := by
  obtain ⟨document, -, haccepts, rfl⟩ := exists_document_of_request? hrequest
  have hparsers : session.languages.parsers url.file? document.language ≠ [] ↔ _ :=
    LanguageTable.parsers_ne_nil_iff hfilled url.file?
  have hiff : session.languages.parsers url.file? document.language = [] ↔
      session.OutOfReach url document.language isRange := by
    constructor
    · intro hnil
      have hnone := mt hparsers.mpr (not_not.mpr hnil)
      rw [not_or, not_or] at hnone
      obtain ⟨hbuiltin, hgeneral, hfolder⟩ := hnone
      rcases enabled_of_accepts hreachable.hasCurrentSelectors hstatic haccepts with
        hin | hin | ⟨hwhole, hscheme, path, hpath, folder, hmem, hshown, languages, hget, hsome⟩
      · exact absurd hin hbuiltin
      · exact absurd hin hgeneral
      · refine ⟨hwhole, ?_, hbuiltin, Option.not_isSome_iff_eq_none.mp hgeneral⟩
        have hschemes : url.scheme = "file" ∨ url.scheme = "untitled" := by
          simpa [Selectors.schemes] using hscheme
        refine hschemes.resolve_left fun hfile => hfolder ?_
        -- A file's path is its document's, so the folder that has it accepted also has a parser.
        obtain ⟨entry, hentry, hsame, rfl⟩ := FolderLanguages.exists_entry_of_get? hget
        rw [Path.shown_of_isText (htext folder hmem)] at hshown
        have hin : path.isIn entry.1 = true := by
          rw [Path.isIn_congr_right hsame]
          exact Path.isIn_of_isStrictlyIn hshown
        exact ⟨path, by rw [Url.file?, if_pos hfile, hpath], entry, hentry, hin, hsome⟩
    · intro hout
      by_contra hne
      have hfile : url.file? = none := by
        rw [Url.file?, hout.untitled]
        rfl
      rcases hparsers.mp hne with hbuiltin | hgeneral | ⟨path, hpath, -⟩
      · exact hout.notBuiltin hbuiltin
      · have hsettings : session.languages.general = session.settings.languages := rfl
        rw [hsettings, hout.notGeneral] at hgeneral
        simp at hgeneral
      · rw [hfile] at hpath
        simp at hpath
  refine ⟨hiff, ?_⟩
  intro hreach environment span state
  rw [Bool.eq_false_iff]
  intro hstops
  exact hreach (hiff.mp (Pipeline.Gate.parsers_eq_nil_of_stops hstops))

/-! ### A Svelte document in the second of two folders, which alone adds Svelte -/

def svelteFolder : Environment :=
  .ofSettings [Segment.ofString "ws", Segment.ofString "b"] "[languages]\nsvelte = [\"svelte\"]\n"

def folderData (uri name : String) : Data :=
  .record [("uri", .text uri), ("name", .text name)]

def svelteData (uri : String) : Data :=
  .record [("textDocument", .record [("uri", .text uri), ("languageId", .text "svelte"),
    ("version", .integer 1), ("text", .text "x")])]

/-- The session in which the document is open at a URI. -/
def withSvelteAt (uri : String) : Session :=
  let client : Client := fun _ => none
  let started := (initial.receive svelteFolder client "initialize" (.record [
    ("capabilities", .record []),
    ("workspaceFolders", .list [folderData "file:///ws/a" "a", folderData "file:///ws/b" "b"])]))
  let prepared := started.2.session.receive svelteFolder client "initialized" (.record [])
  (prepared.2.session.receive svelteFolder client "textDocument/didOpen" (svelteData uri)).2.session

theorem reachable_withSvelteAt (uri : String) : (withSvelteAt uri).Reachable := by
  have hstarted := Reachable.initial.receive svelteFolder (fun _ => none) "initialize"
  exact ((hstarted _).receive _ _ _ _).receive _ _ _ _

/-- As a file the document has the folder's parser. -/
theorem svelte_file_has_parsers :
    ∃ url request, Url.parse? "file:///ws/b/App.svelte" = some url ∧
      (withSvelteAt "file:///ws/b/App.svelte").request? url false = some request ∧
      (withSvelteAt "file:///ws/b/App.svelte").languages.parsers request.file request.language ≠
        [] := by
  have hserved : ((Url.parse? "file:///ws/b/App.svelte").bind fun url =>
      (withSvelteAt "file:///ws/b/App.svelte").request? url false).isSome = true := by
    decide +kernel
  obtain ⟨request, hserved⟩ := Option.isSome_iff_exists.mp hserved
  obtain ⟨url, hurl, hrequest⟩ := Option.bind_eq_some_iff.mp hserved
  have hscheme : url.scheme = "file" := by
    have hparsed : (Url.parse? "file:///ws/b/App.svelte").map Url.scheme = some "file" := by
      decide +kernel
    rw [hurl] at hparsed
    exact Option.some.inj hparsed
  refine ⟨url, request, hurl, hrequest, ?_⟩
  intro hnil
  have hout := (lacks_parser_iff_outOfReach (reachable_withSvelteAt _) (by decide +kernel)
    ⟨by decide +kernel, by decide +kernel⟩ (by decide +kernel) hrequest).1.mp hnil
  have huntitled := hout.untitled
  rw [hscheme] at huntitled
  simp at huntitled

/-- As an untitled document it is accepted all the same, and has none. -/
theorem untitled_svelte_lacks_parsers :
    ∃ url request, Url.parse? "untitled:/ws/b/App.svelte" = some url ∧
      (withSvelteAt "untitled:/ws/b/App.svelte").Reachable ∧
      (withSvelteAt "untitled:/ws/b/App.svelte").capabilities.registersBoth = false ∧
      (withSvelteAt "untitled:/ws/b/App.svelte").languages.IsFilled ∧
      (withSvelteAt "untitled:/ws/b/App.svelte").request? url false = some request ∧
      (withSvelteAt "untitled:/ws/b/App.svelte").languages.parsers request.file request.language =
        [] := by
  have hserved : ((Url.parse? "untitled:/ws/b/App.svelte").bind fun url =>
      (withSvelteAt "untitled:/ws/b/App.svelte").request? url false).any (fun request =>
        (withSvelteAt "untitled:/ws/b/App.svelte").languages.parsers request.file
          request.language = []) = true := by
    decide +kernel
  rw [Option.any_eq_true] at hserved
  obtain ⟨request, hserved, hnil⟩ := hserved
  obtain ⟨url, hurl, hrequest⟩ := Option.bind_eq_some_iff.mp hserved
  have hfilled : (withSvelteAt "untitled:/ws/b/App.svelte").languages.IsFilled :=
    ⟨by decide +kernel, by decide +kernel⟩
  exact ⟨url, request, hurl, reachable_withSvelteAt _, by decide +kernel, hfilled, hrequest,
    of_decide_eq_true hnil⟩

end Session

end FormatServer
