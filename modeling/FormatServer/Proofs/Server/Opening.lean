import FormatServer.Proofs.Pipeline.OneFolder
import FormatServer.Proofs.Selector.Scope
import FormatServer.Proofs.Server.Loading

/-!
# Sessions with one open document

The document that a client opens first is the only one that the session has, and a request to format
it is served if its language is enabled where it lies. For a client with one folder the session then
works on the workspace of this folder.
-/

namespace FormatServer

/-- A client opens this directory as its only folder and gives no settings. -/
structure Introduction.OpensOnly (introduction : Introduction) (root : Path) : Prop where
  folder : ∃ folder, introduction.folders.filterMap Uri.path? = [folder] ∧ folder.UpToSlash root
  noSettings : introduction.options = none

namespace Session

/-- A session that has begun and in which one document was opened. -/
def withOpened (environment : Environment) (client : Client) (introduction : Introduction)
    (uri : Uri) (document : Document) : Session :=
  ((begun environment client introduction).handle environment client
    (.opened uri document.language document.text document.version)).2.session

variable {environment : Environment} {client : Client} {introduction : Introduction} {uri : Uri}
  {url : Url} {document : Document} {folder : Path}

theorem exists_registrar_of_withOpened (huri : uri.url? = some url) :
    ∃ registrar, withOpened environment client introduction uri document =
      { (loaded environment introduction).storeSelectors with
        registrar, documents := ⟨[(url, document)]⟩ } := by
  obtain ⟨registrar, hbegun⟩ := exists_registrar_of_begun environment client introduction
  refine ⟨registrar, ?_⟩
  rw [withOpened, hbegun, handle, huri]
  rfl

theorem request?_withOpened (huri : uri.url? = some url)
    (haccepts : (withOpened environment client introduction uri document).accepts url
      document.language false = true) :
    (withOpened environment client introduction uri document).request? url false =
      some (.ofDocument url document.language document.text) := by
  have hdocument : (withOpened environment client introduction uri document).documents.get? url =
      some document := by
    obtain ⟨registrar, hopened⟩ := exists_registrar_of_withOpened huri
    rw [hopened]
    simp [Documents.get?]
  simp only [request?, hdocument, haccepts, if_true]

theorem format_edits (environment : Environment) (request : Request) (session : Session) :
    (session.format environment request).1 = editsFor request.text
      (Pipeline.format (Services.standard environment session.workspace session.languages)
        session.workspace request (.start session.ledger session.installed)).1 :=
  rfl

theorem handle_format {session : Session} {language text : String} (huri : uri.url? = some url)
    (hrequest : session.request? url false = some (.ofDocument url language text)) :
    (session.handle environment client (.format uri)).1 =
      some (.result (editsData
        (some (session.format environment (.ofDocument url language text)).1))) := by
  have hserved : (uri.url?.bind fun url => session.request? url (none : Option Range).isSome) =
      some (.ofDocument url language text) := by
    rw [huri]
    exact hrequest
  have hspan : (Request.ofDocument url language text).withSpan none =
      .ofDocument url language text := rfl
  simp only [handle, formatDocument, hserved, Option.map_none, hspan]

/-- A client that registers nothing and has one folder gets a document accepted exactly if its
language is enabled in this folder and its path lies there. -/
theorem accepts_withOpened_iff (huri : uri.url? = some url)
    (hfolders : introduction.folders.filterMap Uri.path? = [folder])
    (hstatic : introduction.capabilities.registersBoth = false) :
    (withOpened environment client introduction uri document).accepts url document.language false =
        true ↔
      url.scheme ∈ Selectors.schemes ∧
        document.language ∉ (loaded environment introduction).settings.disableLanguages ∧
        document.language ∈
          (loaded environment introduction).languages.enabledIds (some folder) ∧
        url.toPath?.any (·.isStrictlyIn folder.shown) = true := by
  have hfolder : (loaded environment introduction).folders = [folder] := hfolders
  have hcapabilities : (loaded environment introduction).capabilities.registersBoth = false :=
    hstatic
  have haccepts : (withOpened environment client introduction uri document).accepts url
      document.language false = (loaded environment introduction).computeSelectors.admits
        document.language url.scheme url.toPath? := by
    obtain ⟨registrar, hopened⟩ := exists_registrar_of_withOpened huri
    rw [hopened, accepts]
    change (if (loaded environment introduction).capabilities.registersBoth then true else _) = _
    rw [hcapabilities]
    rfl
  rw [haccepts, computeSelectors, hfolder,
    Selectors.admits_compute_iff_any (List.cons_ne_nil folder [])]
  simp only [List.mem_singleton, exists_eq_left]
  rfl

theorem withOpened_of_folder {root : Path} (huri : uri.url? = some url)
    (hfolders : introduction.folders.filterMap Uri.path? = [folder])
    (hfolder : folder.UpToSlash root) (hoptions : introduction.options = none) :
    let session := withOpened environment client introduction uri document
    session.workspace = .single
        ((Settings.load environment (some root) none).settings.getD .defaults) (some folder) ∧
      session.folderLanguages = .load environment [folder] ∧ session.installed = .empty := by
  intro session
  have hopened : ∃ registrar, session = { (loaded environment introduction).storeSelectors with
      registrar, documents := ⟨[(url, document)]⟩ } :=
    exists_registrar_of_withOpened huri
  have hintroduced : introduced environment introduction =
      { initial with
        phase := .running
        capabilities := introduction.capabilities
        folders := [folder]
        root := some folder } := by
    rw [introduced, hfolders, hoptions]
    rfl
  obtain ⟨registrar, hopened⟩ := hopened
  rw [hopened, loaded, hintroduced, ← Settings.load_upToSlash hfolder]
  exact ⟨rfl, rfl, rfl⟩

end Session

end FormatServer
