import FormatServer.Engine.Lookup
import FormatServer.Pipeline.Format
import FormatServer.Proofs.Language.Sources
import FormatServer.Proofs.Path.Normal

/-!
# The folder of a file

A file belongs to the innermost folder that it lies in. The folders around one file lie within each
other, so there is only one such folder, and it does not matter in which order the folders are
listed nor which others there are, unless one of them lies further in. A file outside all folders
belongs to the root, but only until there is a folder around the file, be it around the root as
well.

Whatever is configured for the file with a relative path is taken from this one place.
-/

namespace FormatServer

namespace Workspace

variable {workspace other : Workspace} {folders more : List Path} {path folder answer : Path}

/-- A listed folder with the path that lies in all other such folders. -/
structure IsInnermost (folders : List Path) (path folder : Path) : Prop where
  mem : folder ∈ folders
  isIn : path.isIn folder = true
  inside : ∀ other ∈ folders, path.isIn other = true → folder.isIn other = true

/-! ### The innermost folder -/

theorem isInnermost_of_deepest
    (hdeepest : Path.deepest id (folders.filter path.isIn) = some folder) :
    IsInnermost folders path folder := by
  obtain ⟨hmem, hin⟩ := List.mem_filter.mp (Path.deepest_mem id hdeepest)
  refine ⟨hmem, hin, fun other hother hotherIn => ?_⟩
  have hdepth : other.depth ≤ folder.depth :=
    Path.depth_le_of_deepest id hdeepest other (List.mem_filter.mpr ⟨hother, hotherIn⟩)
  rcases Path.isIn_or_isIn hin hotherIn with hinside | hinside
  · exact hinside
  · have hcomponents := (Path.isIn_iff.mp hinside).eq_of_length_le hdepth
    exact Path.isIn_iff.mpr (hcomponents ▸ List.prefix_refl other.components)

/-- Folders that lie in each other are the same. -/
theorem IsInnermost.sameAs (hfolder : IsInnermost folders path folder)
    (hanswer : IsInnermost folders path answer) : folder.sameAs answer = true := by
  have hin := Path.isIn_iff.mp (hfolder.inside answer hanswer.mem hanswer.isIn)
  have hin' := Path.isIn_iff.mp (hanswer.inside folder hfolder.mem hfolder.isIn)
  exact Path.sameAs_iff.mpr (hin'.eq_of_length_le hin.length_le)

theorem IsInnermost.of_perm_append (hfolder : IsInnermost folders path folder)
    {listed : List Path} (hperm : listed.Perm (folders ++ more))
    (hmore : ∀ added ∈ more, path.isIn added = false ∨ folder.isIn added = true) :
    IsInnermost listed path folder := by
  refine ⟨hperm.mem_iff.mpr (List.mem_append_left more hfolder.mem), hfolder.isIn, ?_⟩
  intro other hother hin
  rcases List.mem_append.mp (hperm.mem_iff.mp hother) with hlisted | hadded
  · exact hfolder.inside other hlisted hin
  · rcases hmore other hadded with hout | haround
    · simp [hin] at hout
    · exact haround

theorem folderFor_cases (workspace : Workspace) (path : Path) :
    (∃ folder, workspace.folderFor (some path) = some folder ∧
      IsInnermost workspace.folders path folder) ∨
    (workspace.folderFor (some path) = workspace.root ∧
      ∀ folder ∈ workspace.folders, path.isIn folder = false) := by
  rw [folderFor, Option.bind_some]
  cases hdeepest : Path.deepest id (workspace.folders.filter path.isIn) with
  | some folder => exact .inl ⟨folder, rfl, isInnermost_of_deepest hdeepest⟩
  | none =>
    rw [Path.deepest_eq_none_iff, List.filter_eq_nil_iff] at hdeepest
    exact .inr ⟨rfl, by simpa using hdeepest⟩

theorem exists_folderFor (hfolder : IsInnermost workspace.folders path folder) :
    ∃ found, workspace.folderFor (some path) = some found ∧ found.sameAs folder = true := by
  rcases folderFor_cases workspace path with ⟨found, hfound, hinnermost⟩ | ⟨-, hout⟩
  · exact ⟨found, hfound, hinnermost.sameAs hfolder⟩
  · have hnone := hout folder hfolder.mem
    rw [hfolder.isIn] at hnone
    simp at hnone

theorem folderFor_of_out (hout : ∀ folder ∈ workspace.folders, path.isIn folder = false) :
    workspace.folderFor (some path) = workspace.root := by
  rcases folderFor_cases workspace path with ⟨found, -, hinnermost⟩ | ⟨hroot, -⟩
  · have hin := hinnermost.isIn
    rw [hout found hinnermost.mem] at hin
    simp at hin
  · exact hroot

/-- The two paths are the same, or there are none. -/
def SameBase (first second : Option Path) : Prop :=
  Option.Rel (fun first second => first.sameAs second = true) first second

/-- An added folder makes a difference only if it lies around the path and not around the listed
folder that was found before. -/
theorem sameBase_folderFor (hroot : other.root = workspace.root)
    (hperm : other.folders.Perm (workspace.folders ++ more))
    (hmore : ∀ added ∈ more, path.isIn added = false ∨
      ∃ answer ∈ workspace.folders, workspace.folderFor (some path) = some answer ∧
        path.isIn answer = true ∧ answer.isIn added = true) :
    SameBase (other.folderFor (some path)) (workspace.folderFor (some path)) := by
  rcases folderFor_cases workspace path with ⟨folder, hfolder, hinnermost⟩ | ⟨hfolder, hout⟩
  · have hother : IsInnermost other.folders path folder := by
      refine hinnermost.of_perm_append hperm fun added hadded => (hmore added hadded).imp_right ?_
      rintro ⟨answer, -, hanswer, -, haround⟩
      obtain rfl := Option.some.inj (hfolder.symm.trans hanswer)
      exact haround
    obtain ⟨found, hfound, hsame⟩ := exists_folderFor hother
    rw [hfound, hfolder]
    exact .some hsame
  · have hotherOut : ∀ folder ∈ other.folders, path.isIn folder = false := by
      intro folder hmem
      rcases List.mem_append.mp (hperm.mem_iff.mp hmem) with hlisted | hadded
      · exact hout folder hlisted
      · refine (hmore folder hadded).resolve_right ?_
        rintro ⟨answer, hlisted, -, hin, -⟩
        simp [hout answer hlisted] at hin
    rw [folderFor_of_out hotherOut, hfolder, hroot]
    cases workspace.root with
    | none => exact .none
    | some root => exact .some (Path.sameAs_refl root)

/-! ### Relative paths -/

variable {configured : String} {base : Path}

theorem resolve_relative (hbase : workspace.folderFor (some path) = some base)
    (hrelative : (Path.ofString configured).isAbsolute = false) :
    workspace.resolve (some path) configured = (base.join configured).normal := by
  rw [resolve, hbase, hrelative, if_neg Bool.false_ne_true]

theorem ignorePath_relative (hbase : workspace.folderFor (some path) = some base)
    (hnonempty : workspace.settings.ignorePath ≠ "")
    (hrelative : (Path.ofString workspace.settings.ignorePath).isAbsolute = false) :
    workspace.ignorePath path = some (base.join workspace.settings.ignorePath).normal := by
  rw [ignorePath, if_neg hnonempty, hrelative, if_neg Bool.false_ne_true, hbase]
  rfl

/-- How the folder is written makes no difference to what is taken from it. -/
theorem normal_join_of_sameBase {first second : Option Path} (hsame : SameBase first second)
    {relative : Path} (hrelative : relative.isAbsolute = false) :
    first.map (fun base => (base.join relative).normal) =
      second.map fun base => (base.join relative).normal := by
  cases hsame with
  | none => rfl
  | some hsame => simp [Path.normal_join_congr hsame hrelative]

theorem resolve_eq_getD (workspace : Workspace) (file : Option Path)
    (hrelative : (Path.ofString configured).isAbsolute = false) :
    workspace.resolve file configured =
      ((workspace.folderFor file).map fun base => (base.join configured).normal).getD
        (Path.ofString configured).normal := by
  rw [resolve, hrelative, if_neg Bool.false_ne_true]
  cases workspace.folderFor file <;> rfl

theorem resolve_congr
    (hsame : SameBase (other.folderFor (some path)) (workspace.folderFor (some path)))
    (configured : String) :
    other.resolve (some path) configured = workspace.resolve (some path) configured := by
  cases hrelative : (Path.ofString configured).isAbsolute with
  | true => simp only [resolve, hrelative, if_true]
  | false =>
    rw [resolve_eq_getD _ _ hrelative, resolve_eq_getD _ _ hrelative,
      normal_join_of_sameBase hsame hrelative]

/-- Every file has one place, which is the innermost listed folder around it, or else the root. The
folders can be listed in another order, and others can be added if the file is in none of them, or
if they lie around a listed folder that is the file's place; but for the way it is written, the place
stays the same. All relative paths that are configured for the file are taken from its place, the
one of the ignore file too. -/
theorem folderFor_innermost (workspace : Workspace) (path : Path) :
    ((∃ folder, workspace.folderFor (some path) = some folder ∧
        IsInnermost workspace.folders path folder) ∨
      (workspace.folderFor (some path) = workspace.root ∧
        ∀ folder ∈ workspace.folders, path.isIn folder = false)) ∧
    (∀ (other : Workspace) (more : List Path), other.root = workspace.root →
      other.folders.Perm (workspace.folders ++ more) →
      (∀ added ∈ more, path.isIn added = false ∨
        ∃ answer ∈ workspace.folders, workspace.folderFor (some path) = some answer ∧
          path.isIn answer = true ∧ answer.isIn added = true) →
      SameBase (other.folderFor (some path)) (workspace.folderFor (some path)) ∧
        ∀ configured,
          other.resolve (some path) configured = workspace.resolve (some path) configured) ∧
    ∀ base, workspace.folderFor (some path) = some base →
      (∀ configured, (Path.ofString configured).isAbsolute = false →
        let resolved := (base.join configured).normal
        workspace.resolve (some path) configured = resolved ∧
        (workspace.settings.prettierPath = some configured →
          workspace.configuredEngine (some path) = some resolved) ∧
        (∀ request parser, request.file = some path →
          workspace.settings.configPath = some configured →
            (Pipeline.optionsFor workspace request parser).configFile = some resolved) ∧
        (workspace.settings.ignorePath = configured → configured ≠ "" →
          workspace.ignorePath path = some resolved)) := by
  refine ⟨folderFor_cases workspace path, ?_, ?_⟩
  · intro other more hroot hperm hmore
    have hsame := sameBase_folderFor hroot hperm hmore
    exact ⟨hsame, resolve_congr hsame⟩
  · intro base hbase configured hrelative resolved
    have hresolve : workspace.resolve (some path) configured = resolved :=
      resolve_relative hbase hrelative
    refine ⟨hresolve, ?_, ?_, ?_⟩
    · intro hengine
      rw [configuredEngine, hengine, Option.map_some, hresolve]
    · intro request parser hfile hconfig
      rw [Pipeline.optionsFor, hconfig, hfile, Option.map_some, hresolve]
    · rintro rfl hnonempty
      exact ignorePath_relative hbase hnonempty hrelative

/-- A project in a project, which is listed twice and written in two ways. -/
def nestedProjects : Workspace where
  settings := { Settings.defaults with
    configPath := some "../.prettierrc", prettierPath := some "bin//prettier" }
  folders := ["/ws/app", "/other", "/ws//./app/", "/ws"]
  root := some "/other"

/-- In another order, and with folders around and beside the inner project. -/
theorem nestedProjects_folderFor :
    let path := Path.ofString "/ws/app/src/a.js"
    let other : Workspace := { nestedProjects with folders :=
      ["/ws/app/lib", "/ws", "/ws//./app/", "/", "/other", "/ws/app"] }
    nestedProjects.folderFor (some path) = some "/ws//./app/" ∧
      IsInnermost nestedProjects.folders path "/ws//./app/" ∧
      other.folderFor (some path) = some "/ws/app" ∧
      SameBase (other.folderFor (some path)) (nestedProjects.folderFor (some path)) ∧
      other.resolve (some path) "../.prettierrc" = "/ws/.prettierrc" ∧
      nestedProjects.configuredEngine (some path) = some "/ws/app/bin/prettier" ∧
      nestedProjects.ignorePath path = some "/ws/app/.prettierignore" := by
  intro path other
  obtain ⟨hplace, hstays, hrelative⟩ := folderFor_innermost nestedProjects path
  have hfolder : nestedProjects.folderFor (some path) = some (Path.ofString "/ws//./app/") := by
    decide
  have hinnermost : IsInnermost nestedProjects.folders path (Path.ofString "/ws//./app/") := by
    rcases hplace with ⟨folder, hfound, hinnermost⟩ | ⟨hroot, -⟩
    · obtain rfl := Option.some.inj (hfolder.symm.trans hfound)
      exact hinnermost
    · exact absurd hroot (by decide)
  have hperm : other.folders.Perm
      (nestedProjects.folders ++ [Path.ofString "/ws/app/lib", Path.ofString "/"]) := by
    decide
  have hadded : ∀ added ∈ [Path.ofString "/ws/app/lib", Path.ofString "/"],
      path.isIn added = false ∨
        ∃ answer ∈ nestedProjects.folders, nestedProjects.folderFor (some path) = some answer ∧
          path.isIn answer = true ∧ answer.isIn added = true := by
    decide
  obtain ⟨hsame, hresolve⟩ := hstays other _ rfl hperm hadded
  obtain ⟨hconfig, -⟩ := hrelative _ hfolder "../.prettierrc" (by decide)
  obtain ⟨-, hengine, -⟩ := hrelative _ hfolder "bin//prettier" (by decide)
  obtain ⟨-, -, -, hignore⟩ := hrelative _ hfolder ".prettierignore" (by decide)
  refine ⟨hfolder, hinnermost, by decide, hsame, ?_, ?_, ?_⟩
  · rw [hresolve, hconfig]
    decide
  · rw [hengine rfl]
    decide
  · rw [hignore rfl (by decide)]
    decide

/-- A file outside all folders gets another place with a folder around it and around the root. -/
theorem folder_around_root_takes_place :
    ¬∀ (workspace : Workspace) (path answer added : Path),
      workspace.folderFor (some path) = some answer → answer.isIn added = true →
        SameBase ({ workspace with folders := workspace.folders ++ [added] }.folderFor (some path))
          (some answer) := by
  intro hstays
  let workspace : Workspace := ⟨.defaults, ["/ws/a"], some "/ws/a"⟩
  have hsame := hstays workspace "/ws/b/x.js" "/ws/a" "/ws" (by decide) (by decide)
  have hother : { workspace with
      folders := workspace.folders ++ [Path.ofString "/ws"] }.folderFor (some "/ws/b/x.js") =
        some (Path.ofString "/ws") := by
    decide
  rw [hother] at hsame
  cases hsame with
  | some hsame => exact absurd hsame (by decide)

end Workspace

end FormatServer
