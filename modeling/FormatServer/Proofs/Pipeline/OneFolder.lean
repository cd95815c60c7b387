import FormatServer.Proofs.Pipeline.Congruence
import FormatServer.Proofs.Settings.Folders
import FormatServer.Server.Session

/-!
# Workspaces of one folder

In a workspace of one folder everything that is configured is taken from this folder, wherever the
file lies. A slash at the end of the folder's path is lost in what is taken from it, so the services
answer as they do without the slash. The one place where the folder itself would be seen is the
start of a search for programs, which is the directory of the file for a file that has one.

Such a folder is the root as well. Its settings file is then read twice, once for the settings and
once for the languages of the folder, and the second time nothing new is found.
-/

namespace FormatServer

namespace Path

/-- Whether the first path is the second one, perhaps with a slash after it. -/
def UpToSlash (folder root : Path) : Prop :=
  folder = root ∨ folder = root.join ⟨[]⟩

theorem join_join_empty (base : Path) {relative : Path} (hrelative : relative.isAbsolute = false) :
    (base.join ⟨[]⟩).join relative = base.join relative := by
  have hempty : (Path.mk []).isAbsolute = false := rfl
  by_cases hend : base.glyphs = [] ∨ base.glyphs.getLast? = some slash
  · have hjoin : base.join ⟨[]⟩ = base := by
      rw [join, hempty, if_neg Bool.false_ne_true, if_pos hend, List.append_nil]
    rw [hjoin]
  · have hjoin : base.join ⟨[]⟩ = ⟨base.glyphs ++ [slash]⟩ := by
      rw [join, hempty, if_neg Bool.false_ne_true, if_neg hend]
    have hslash : base.glyphs ++ [slash] = [] ∨ (base.glyphs ++ [slash]).getLast? = some slash :=
      .inr List.getLast?_concat
    rw [hjoin, join, hrelative, if_neg Bool.false_ne_true, if_pos hslash, join, hrelative,
      if_neg Bool.false_ne_true, if_neg hend, List.append_assoc, List.singleton_append]

theorem UpToSlash.join {folder root relative : Path} (hfolder : folder.UpToSlash root)
    (hrelative : relative.isAbsolute = false) : folder.join relative = root.join relative := by
  rcases hfolder with rfl | rfl
  · rfl
  · exact join_join_empty root hrelative

end Path

/-! ### What the folder configures -/

section

variable {environment : Environment} {folder root : Path}

theorem LoadedLayer.ofFolder_upToSlash (hfolder : folder.UpToSlash root) :
    ofFolder environment folder = ofFolder environment root := by
  have hname : (Path.ofString settingsFileName).isAbsolute = false := rfl
  rw [ofFolder, ofFolder, hfolder.join hname]

theorem Settings.load_upToSlash (hfolder : folder.UpToSlash root) :
    load environment (some folder) none = load environment (some root) none := by
  have hproject : LoadedLayer.ofProject environment (some folder) =
      LoadedLayer.ofProject environment (some root) :=
    LoadedLayer.ofFolder_upToSlash hfolder
  rw [load, load, hproject]

theorem Settings.get?_of_fileParsers? {settings : Settings} {language : String}
    {parsers : List String}
    (hsettings : (load environment (some folder) none).settings = some settings)
    (hparsers : environment.fileParsers? folder language = some parsers) :
    settings.languages.get? language = some parsers := by
  obtain ⟨found, hfound, hlanguages, -⟩ := exists_settings_of_load environment (some folder) none
  obtain rfl : found = settings := Option.some.inj (hfound.symm.trans hsettings)
  have hproject : Layer.parsers? (LoadedLayer.ofProject environment (some folder)).layer language =
      some parsers := hparsers
  have hclient : Layer.parsers? (LoadedLayer.ofClient none).layer language = none := rfl
  rw [hlanguages, layers]
  simp only [List.reverse_cons, List.reverse_nil, List.nil_append, List.cons_append,
    List.findSome?_cons, hclient, hproject]

/-- The languages of the only folder add nothing to the settings they are part of. -/
theorem LanguageTable.parsers_load_single {settings : Settings}
    (hsettings : (Settings.load environment (some folder) none).settings = some settings)
    (file : Path) (language : String) :
    (LanguageTable.mk settings.languages (.load environment [folder])).parsers (some file)
        language =
      (LanguageTable.mk settings.languages .empty).parsers (some file) language := by
  have hempty : (LanguageTable.mk settings.languages .empty).folderParsers? file language = none :=
    rfl
  cases hfound : (LanguageTable.mk settings.languages
      (.load environment [folder])).folderParsers? file language with
  | none => simp only [parsers, Option.bind_some, hfound, hempty]
  | some found =>
    obtain ⟨given, hgiven, -, hparsers⟩ :=
      FolderLanguages.exists_folder_of_folderParsers?_load hfound
    obtain rfl := List.mem_singleton.mp hgiven
    -- Without a client the root's file is the highest source.
    have hgeneral := Settings.get?_of_fileParsers? hsettings hparsers
    rw [parsers_of_folderParsers? hfound, parsers_of_general hempty hgeneral]

end

/-! ### What the services answer -/

namespace Workspace

variable {settings : Settings} {folder root : Path}

theorem folderFor_single (settings : Settings) (root : Path) (place : Option Path) :
    (single settings (some root)).folderFor place = some root := by
  cases place with
  | none => rfl
  | some path =>
    change (Path.deepest id ([root].filter path.isIn)).or (some root) = some root
    by_cases hin : path.isIn root = true
    · rw [List.filter_cons_of_pos hin]
      rfl
    · rw [List.filter_cons_of_neg hin]
      rfl

variable (hfolder : folder.UpToSlash root)

include hfolder

theorem resolve_single (place : Option Path) :
    (single settings (some folder)).resolve place =
      (single settings (some root)).resolve place := by
  funext configured
  rw [resolve, resolve, folderFor_single, folderFor_single]
  by_cases habsolute : (Path.ofString configured).isAbsolute = true
  · rw [if_pos habsolute, if_pos habsolute]
  · rw [if_neg habsolute, if_neg habsolute]
    dsimp only
    rw [hfolder.join (by simpa using habsolute)]

theorem ignorePath_single (file : Path) :
    (single settings (some folder)).ignorePath file =
      (single settings (some root)).ignorePath file := by
  have hsettings : ∀ start, (single settings start).settings = settings := fun _ => rfl
  rw [ignorePath, ignorePath, folderFor_single, folderFor_single, hsettings, hsettings]
  by_cases habsolute : (Path.ofString settings.ignorePath).isAbsolute = true
  · rw [if_pos habsolute, if_pos habsolute]
  · rw [if_neg habsolute, if_neg habsolute]
    simp only [Option.some_or, Option.map_some]
    rw [hfolder.join (by simpa using habsolute)]

/-- The services answer alike about a file that lies in a directory. -/
theorem alike_single {environment : Environment} {languages languages' : LanguageTable}
    {request request' : Request} {file parent : Path} (hfile : request.file = some file)
    (hparent : file.parent? = some parent) (hfile' : request'.file = some file)
    (hlanguage : request.language = request'.language) (htext : request.text = request'.text)
    (hspan : request.span = request'.span)
    (hparsers : languages.parsers (some file) request.language =
      languages'.parsers (some file) request.language) :
    Pipeline.Alike (Services.standard environment (single settings (some folder)) languages)
      (Services.standard environment (single settings (some root)) languages')
      (single settings (some folder)) (single settings (some root)) request request' := by
  have hstart : ∀ start : Path,
      (single settings (some start)).searchStart (some file) = some parent := by
    intro start
    rw [searchStart, Option.bind_some, hparent, Option.some_or]
  have hconfigured : (single settings (some folder)).configuredEngine (some file) =
      (single settings (some root)).configuredEngine (some file) := by
    rw [configuredEngine, configuredEngine, resolve_single hfolder]
    rfl
  have hlocate : Engine.locate environment (single settings (some folder)) (some file) =
      Engine.locate environment (single settings (some root)) (some file) := by
    rw [Engine.locate, Engine.locate, hconfigured, hstart, hstart]
  have hmissing : Engine.missing environment (single settings (some folder)) (some file) =
      Engine.missing environment (single settings (some root)) (some file) := by
    rw [Engine.missing, Engine.missing, hconfigured]
  refine ⟨rfl, hfile.trans hfile'.symm, hlanguage, htext, ?_, ?_, ?_, rfl, ?_, rfl, rfl, ?_⟩
  · rw [hfile]
    change Installed.engine environment _ (some file) true =
      Installed.engine environment _ (some file) true
    funext installed
    rw [Installed.engine, Installed.engine, hlocate, hmissing]
  · rw [hfile]
    change Installed.linter environment _ (some file) = Installed.linter environment _ (some file)
    funext linter installed
    rw [Installed.linter, Installed.linter, hstart, hstart]
  · rw [hfile]
    exact hparsers
  · intro path _
    exact ignorePath_single hfolder path
  · funext parser
    rw [Pipeline.optionsFor, Pipeline.optionsFor, hfile, hfile', hspan, resolve_single hfolder]
    rfl

end Workspace

end FormatServer
