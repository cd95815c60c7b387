import FormatServer.Proofs.Command.Invocation
import FormatServer.Proofs.Server.Edits
import FormatServer.Proofs.Server.Opening

/-!
# The command and a session

A session whose only folder is the directory that it was started in formats a file as the command
does in this directory. Only the session keeps the languages of its folders, but its one folder is
also the root, so these languages are in the settings as well and say nothing new. Both come to a
run on services that answer alike and from the same text, and the edits of the session are the way
from this text to what the command writes.

It takes both conditions. Started somewhere else, the session has another place for formatters to
run in where the directory of the file is missing. And some languages cannot be given to the command
in this way, as their names look like options.
-/

namespace FormatServer.Command

variable {environment : Environment} {file language text : String}

theorem output_exitFor (path : Path) (text : String) (outcome : Outcome) (status : Option Status) :
    (exitFor path text outcome status).output = outcome.text?.getD text := by
  rw [exitFor.eq_def]
  split <;> rfl

theorem exists_url_of_formatFile (habsolute : (Path.ofString file).isAbsolute = true)
    (hnormal : (Path.ofString file).normal = Path.ofString file) :
    ∃ url, url.file? = some (Path.ofString file).fromUrl ∧
      (formatFile environment ⟨file, some language, true⟩ (Utf8.encode text)).output =
        (run environment url language text).1.text?.getD text := by
  obtain ⟨location, hlocation, hnames⟩ := Path.exists_location_of_normal habsolute hnormal
  obtain ⟨texts, rfl⟩ := Path.exists_texts_of_location hlocation.symm
  obtain ⟨url, hurl, hfile⟩ := Url.exists_ofPath?_location hnames
  have hpath : absolutePath environment.directory (Path.ofString file) = Path.ofString file := by
    rw [hlocation]
    exact absolutePath_location environment.directory hnames
  rw [← hlocation] at hurl hfile
  refine ⟨url, hfile, ?_⟩
  have hread : textToFormat environment ⟨file, some language, true⟩ (Path.ofString file)
      (Utf8.encode text) = .ok text := by
    simp only [textToFormat, if_true, Utf8.text?_encode]
  have hlanguage : languageOf ⟨file, some language, true⟩ (Path.ofString file) = .ok language := rfl
  simp only [formatFile, hpath, hread, hlanguage, hurl, output_exitFor]

variable {introduction : Introduction} {uri : Uri} {url : Url}

/-- The outcome is the same for the open document and for its file. -/
theorem outcome_withOpened (client : Client) (document : Document)
    (hopens : introduction.OpensOnly environment.directory.path)
    (huri : uri.url? = some url) {path parent : Path} (hpath : url.file? = some path)
    (hparent : path.parent? = some parent) {other : Url} (hother : other.file? = some path) :
    let session := Session.withOpened environment client introduction uri document
    (Pipeline.format (Services.standard environment session.workspace session.languages)
        session.workspace (.ofDocument url document.language document.text)
        (.start session.ledger session.installed)).1 =
      (run environment other document.language document.text).1 := by
  intro session
  obtain ⟨⟨folder, hfolders, hfolder⟩, hoptions⟩ := hopens
  obtain ⟨hworkspace, hfolderLanguages, hinstalled⟩ : session.workspace = _ ∧
      session.folderLanguages = _ ∧ session.installed = _ :=
    Session.withOpened_of_folder huri hfolders hfolder hoptions
  obtain ⟨settings, hsettings, -⟩ :=
    Settings.exists_settings_of_load environment (some environment.directory.path) none
  have hcommand : workspace environment = .single settings (some environment.directory.path) := by
    rw [workspace, hsettings, Option.getD_some]
  have hlanguages : session.languages = ⟨settings.languages, .load environment [folder]⟩ := by
    rw [Session.languages, hworkspace, hfolderLanguages, hsettings]
    rfl
  have hparsers : session.languages.parsers (some path) document.language =
      ((workspace environment).languages .empty).parsers (some path) document.language := by
    rw [← Settings.load_upToSlash hfolder] at hsettings
    rw [hlanguages, LanguageTable.parsers_load_single hsettings, hcommand]
    rfl
  have hrun : (run environment other document.language document.text).1 =
      (Pipeline.format (Services.standard environment (workspace environment)
          ((workspace environment).languages .empty)) (workspace environment)
        (.ofDocument other document.language document.text) (.start .empty .empty)).1 := rfl
  -- The ledger, which says what was warned of before, has no part in the outcome.
  rw [hsettings, Option.getD_some] at hworkspace
  rw [hrun, hinstalled]
  refine Pipeline.format_outcome_congr ?_ rfl
  rw [hworkspace, hcommand]
  rw [hcommand] at hparsers
  exact Workspace.alike_single hfolder hpath hparent hother rfl rfl rfl hparsers

/-- A client opens a document in the directory that it and the command were started in. What it has
after the edits of the answer is what the command writes for the document's file, language and text,
unless there is an edit and the text is too long for it to replace all of it. -/
theorem applyAll_eq_output_iff {client : Client} {document : Document}
    (hopens : introduction.OpensOnly environment.directory.path)
    (habsolute : (Path.ofString file).isAbsolute = true)
    (hnormal : (Path.ofString file).normal = Path.ofString file)
    (hinside : (Path.ofString file).isStrictlyIn environment.directory.path = true)
    (huri : uri.url? = some url) (hurl : url.file? = some (Path.ofString file).fromUrl)
    (hlanguage : isOption document.language = false)
    (haccepts : (Session.withOpened environment client introduction uri document).accepts url
      document.language false = true) :
    ∃ command edits,
      read ["format", file, "--language-id", document.language, "--stdin"] =
        .ok (.format command) ∧
      ((Session.withOpened environment client introduction uri document).handle environment client
        (.format uri)).1 = some (.result (Session.editsData (some edits))) ∧
      (Edit.applyAll edits document.text =
          (formatFile environment command (Utf8.encode document.text)).output ↔
        Text.HasEndPosition document.text ∨ edits = []) := by
  obtain ⟨location, hlocation, hnames⟩ := Path.exists_location_of_normal habsolute hnormal
  have hnonempty : location ≠ [] := by
    rw [hlocation] at hinside
    exact Path.location_ne_nil_of_isStrictlyIn hinside
  obtain ⟨parent, hparent⟩ := Path.exists_parent_fromUrl hnonempty hnames
  rw [← hlocation] at hparent
  obtain ⟨other, hother, houtput⟩ :
      ∃ other : Url, other.file? = some (Path.ofString file).fromUrl ∧
        (formatFile environment ⟨file, some document.language, true⟩
          (Utf8.encode document.text)).output =
            (run environment other document.language document.text).1.text?.getD document.text :=
    exists_url_of_formatFile habsolute hnormal
  have hsame := outcome_withOpened client document hopens huri hurl hparent hother
  have hrequest := Session.request?_withOpened huri haccepts
  refine ⟨_, _, read_format habsolute hlanguage, Session.handle_format huri hrequest, ?_⟩
  rw [houtput, ← hsame, Session.format_edits]
  exact Session.applyAll_editsFor_iff document.text _

/-! ### A formatter that writes how it is called, and where -/

def echoingFormatter : Program := fun invocation =>
  if invocation.arguments.contains "--version" then ⟨0, Utf8.encode "3.3.3\n", []⟩
  else if invocation.arguments.contains "--file-info" then
    ⟨0, Utf8.encode "\x7b \"ignored\": false, \"inferredParser\": null \x7d\n", []⟩
  else
    let lines := invocation.arguments ++ [invocation.directory.path.text]
    ⟨0, Utf8.encode ("\n".intercalate lines), []⟩

/-- A project that has the formatter and these settings, with the program started in a directory. -/
def echoing (directory : Location) (settings : String) : Environment :=
  let folder := [Segment.ofString "ws"]
  let found := Environment.ofSettings folder settings
  { found with
    disk := found.disk.place (folder ++ ["node_modules", ".bin", "prettier"].map Segment.ofString)
      (.program [] echoingFormatter)
    directory }

def projectIntroduction : Introduction :=
  .ofFolders ["file:///ws/"]

/-- The names of a file in the project as a URL. -/
def projectUrl (names : List String) : Url :=
  ⟨"file", ("", none), some "", none, .segments ("ws" :: names), none, none⟩

theorem folders_projectIntroduction :
    projectIntroduction.folders.filterMap Uri.path? = [Path.ofString "/ws/"] := by
  decide +kernel

/-- The project adds the language. The file's name is encoded in its URI, and its text has ends of
all three kinds. -/
theorem svelte_applyAll_eq_output :
    let environment := echoing [Segment.ofString "ws"] "[languages]\nsvelte = [\"svelte\"]\n"
    let document := Document.mk "a\r😀\r\n\nb😀" "svelte" 1
    let session := Session.withOpened environment (fun _ => none) projectIntroduction
      ⟨"file:///ws/%C3%BC%25.svelte"⟩ document
    ∃ command edits,
      read ["format", "/ws/ü%.svelte", "--language-id", "svelte", "--stdin"] =
        .ok (.format command) ∧
      (session.handle environment (fun _ => none) (.format ⟨"file:///ws/%C3%BC%25.svelte"⟩)).1 =
        some (.result (Session.editsData (some edits))) ∧
      Edit.applyAll edits document.text =
        (formatFile environment command (Utf8.encode document.text)).output := by
  intro environment document session
  have hopens : projectIntroduction.OpensOnly environment.directory.path :=
    ⟨⟨Path.ofString "/ws/", folders_projectIntroduction, .inr (by decide)⟩, rfl⟩
  have huri : (⟨"file:///ws/%C3%BC%25.svelte"⟩ : Uri).url? =
      some (projectUrl ["%C3%BC%25.svelte"]) := by
    decide +kernel
  have hgiven : ((Session.loaded environment projectIntroduction).settings.languages.get?
      "svelte").isSome = true := by
    decide +kernel
  have haccepts : session.accepts (projectUrl ["%C3%BC%25.svelte"]) document.language false =
      true := by
    rw [Session.accepts_withOpened_iff huri folders_projectIntroduction rfl]
    exact ⟨by decide, by decide +kernel, LanguageTable.mem_enabledIds.mpr (.inr (.inl hgiven)),
      by decide +kernel⟩
  have htext : Text.IsAddressable document.text := by decide
  obtain ⟨command, edits, hread, hanswer, hiff⟩ :=
    applyAll_eq_output_iff hopens (by decide : (Path.ofString "/ws/ü%.svelte").isAbsolute = true)
      (by decide) (by decide) huri (by decide +kernel) (by decide) haccepts
  exact ⟨command, edits, hread, hanswer, hiff.mpr (.inl htext.hasEndPosition)⟩

/-- A client that opens the project and an accepted document has this text after the edits. -/
def Yields (environment : Environment) (uri : Uri) (document : Document) (text : String) : Prop :=
  let session := Session.withOpened environment (fun _ => none) projectIntroduction uri document
  ∃ url edits, uri.url? = some url ∧ session.accepts url document.language false = true ∧
    (session.handle environment (fun _ => none) (.format uri)).1 =
      some (.result (Session.editsData (some edits))) ∧
    Edit.applyAll edits document.text = text

theorem yields_of_format {document : Document} (huri : uri.url? = some url)
    (haccepts : (Session.withOpened environment (fun _ => none) projectIntroduction uri
      document).accepts url document.language false = true)
    (htext : Edit.applyAll ((Session.withOpened environment (fun _ => none) projectIntroduction uri
      document).format environment (.ofDocument url document.language document.text)).1
        document.text = text) :
    Yields environment uri document text := by
  have hrequest := Session.request?_withOpened huri haccepts
  exact ⟨url, _, huri, haccepts, Session.handle_format huri hrequest, htext⟩

/-- The command takes no value with a hyphen for a language, and a formatter for a file whose
directory is yet to be made runs where the program was started. -/
theorem hyphen_and_other_directory_differ :
    (Yields (echoing [Segment.ofString "ws"] "[languages]\n-x = [\"babel\"]\n")
        ⟨"file:///ws/a.x"⟩ ⟨"x", "-x", 1⟩
        "--parser=babel\n--no-config\n--stdin-filepath=/ws/a.x\n/ws" ∧
      read ["format", "/ws/a.x", "--language-id", "-x", "--stdin"] =
        .error (.missingValue "--language-id")) ∧
    (Yields (echoing [] "") ⟨"file:///ws/new/a.js"⟩ ⟨"x", "javascript", 1⟩
        "--parser=babel\n--no-config\n--stdin-filepath=/ws/new/a.js\n/" ∧
      ∃ command, read ["format", "/ws/new/a.js", "--language-id", "javascript", "--stdin"] =
          .ok (.format command) ∧
        (formatFile (echoing [Segment.ofString "ws"] "") command (Utf8.encode "x")).output =
          "--parser=babel\n--no-config\n--stdin-filepath=/ws/new/a.js\n/ws") := by
  have hhyphen : (⟨"file:///ws/a.x"⟩ : Uri).url? = some (projectUrl ["a.x"]) := by decide +kernel
  have hscript : (⟨"file:///ws/new/a.js"⟩ : Uri).url? = some (projectUrl ["new", "a.js"]) := by
    decide +kernel
  have hgiven : ((Session.loaded (echoing [Segment.ofString "ws"] "[languages]\n-x = [\"babel\"]\n")
      projectIntroduction).settings.languages.get? "-x").isSome = true := by
    decide +kernel
  have hbuiltin : "javascript" ∈ LanguageTable.builtinIds := by decide
  refine ⟨⟨?_, by decide +kernel⟩, ?_, _, read_format (by decide) (by decide), ?_⟩
  · refine yields_of_format hhyphen ?_ (by decide +kernel)
    rw [Session.accepts_withOpened_iff hhyphen folders_projectIntroduction rfl]
    exact ⟨by decide, by decide +kernel, LanguageTable.mem_enabledIds.mpr (.inr (.inl hgiven)),
      by decide +kernel⟩
  · refine yields_of_format hscript ?_ (by decide +kernel)
    rw [Session.accepts_withOpened_iff hscript folders_projectIntroduction rfl]
    exact ⟨by decide, by decide +kernel, LanguageTable.mem_enabledIds.mpr (.inl hbuiltin),
      by decide +kernel⟩
  · decide +kernel

end FormatServer.Command
