import FormatServer.Config.Files
import FormatServer.Proofs.Disk.Files
import FormatServer.Proofs.Path.Ancestors

/-!
# Which configuration file applies

A directory has a configuration if one of the names of configuration files is there, and the file
of a package counts only if it has a section for it. The nearest directory decides, and in it the
first of the names. Only then it is asked whether the file can be read, by the rules for its name,
so a broken file nearby hides a good one further up. A file that is named takes the place of the
search, and nothing but this file matters then.
-/

namespace FormatServer

/-! ### The name of a file in a directory -/

theorem Segment.text?_ofString (text : String) : text? (ofString text) = some text := by
  have hchars : ∀ chars : List Char, (chars.map Glyph.char).mapM Glyph.char? = some chars := by
    intro chars
    induction chars with
    | nil => rfl
    | cons c rest ih =>
      rw [List.map_cons, List.mapM_cons, ih]
      rfl
  rw [text?, ofString, hchars, Option.map_some, String.ofList_toList]

namespace Path

variable {path : Path} {segment : Segment}

theorem getLast?_components (hlast : path.steps.getLast? = some segment) :
    path.components.getLast? = Segment.component? segment := by
  obtain ⟨front, hsteps⟩ := List.getLast?_eq_some_iff.mp hlast
  have hgoes : Segment.isEmpty segment = false := by
    have hmem : segment ∈ path.steps := List.mem_of_getLast? hlast
    simpa using (List.mem_filter.mp hmem).2
  obtain ⟨component, hcomponent⟩ := exists_component hgoes
  have hnames : (segments path.lead.2).filterMap Segment.component? =
      path.steps.filterMap Segment.component? := by
    rw [steps_eq_filter_lead, List.filterMap_filter]
    congr 1
    funext given
    by_cases hempty : Segment.isEmpty given = true
    · simp [Segment.component?, hempty]
    · simp [hempty]
  rw [components, hnames, hsteps, List.filterMap_append, ← List.append_assoc,
    List.filterMap_cons_some hcomponent, hcomponent]
  simp

/-- What a file can be called: one segment that names something. -/
structure IsFileName (name : String) : Prop where
  relative : (ofString name).isAbsolute = false
  steps : (ofString name).steps = [Segment.ofString name]
  component : Segment.component? (Segment.ofString name) = some (.name (Segment.ofString name))

theorem baseName?_join {name : String} (hname : IsFileName name) (directory : Path) :
    (directory.join name).baseName? = some name := by
  have hlast : (directory.join name).steps.getLast? = some (Segment.ofString name) := by
    rw [steps_join directory hname.relative, hname.steps, List.getLast?_concat]
  rw [baseName?, fileName?, getLast?_components hlast, hname.component]
  exact Segment.text?_ofString name

end Path

namespace Config

variable {environment : Environment} {directory file : Path} {name text : String}
  {options : Options}

theorem isFileName_of_mem (hname : name ∈ searchOrder) : Path.IsFileName name := by
  have hnames : ∀ name ∈ searchOrder, (Path.ofString name).isAbsolute = false ∧
      (Path.ofString name).steps = [Segment.ofString name] ∧
      Segment.component? (Segment.ofString name) = some (.name (Segment.ofString name)) := by
    decide
  obtain ⟨hrelative, hsteps, hcomponent⟩ := hnames name hname
  exact ⟨hrelative, hsteps, hcomponent⟩

/-! ### The configuration of a directory -/

/-- The text is a package with a configuration in it. -/
def HasSection (text : String) : Prop :=
  ∃ data found, Json.read text = .ok data ∧ data.field? "prettier" = some found

/-- The file of that name is a configuration of the directory. -/
structure Holds (environment : Environment) (directory : Path) (name : String) : Prop where
  isListed : name ∈ searchOrder
  isFile : environment.isFile (directory.join name) = true
  ofPackage : name = "package.json" →
    ∃ text, environment.readText (directory.join name) = .ok text ∧ HasSection text

def HasConfig (environment : Environment) (directory : Path) : Prop :=
  ∃ name, Holds environment directory name

/-- The name of a configuration of the directory before which no other comes. -/
structure IsFirst (environment : Environment) (directory : Path) (name : String) : Prop where
  holds : Holds environment directory name
  first : ∀ other, Holds environment directory other →
    searchOrder.idxOf name ≤ searchOrder.idxOf other

theorem IsFirst.unique {other : String} (hname : IsFirst environment directory name)
    (hother : IsFirst environment directory other) : name = other := by
  rw [← List.idxOf_inj hname.holds.isListed]
  exact Nat.le_antisymm (hname.first other hother.holds) (hother.first name hname.holds)

theorem hasSection_iff :
    hasSection environment file = true ↔
      ∃ text, environment.readText file = .ok text ∧ HasSection text := by
  rw [hasSection]
  cases environment.readText file with
  | error => simp
  | ok text =>
    cases hread : Json.read text with
    | error => simp [HasSection, hread]
    | ok data => simp [HasSection, hread, Option.isSome_iff_exists]

theorem holds_iff :
    Holds environment directory name ↔
      name ∈ searchOrder ∧ isEligible environment directory name = true := by
  rw [isEligible]
  simp only [Bool.and_eq_true, Bool.or_eq_true, decide_eq_true_eq, hasSection_iff]
  constructor
  · intro hholds
    refine ⟨hholds.isListed, hholds.isFile, ?_⟩
    by_cases hpackage : name = "package.json"
    · exact .inr (hholds.ofPackage hpackage)
    · exact .inl hpackage
  · rintro ⟨hlisted, hfile, hpackage⟩
    exact ⟨hlisted, hfile, fun hname => hpackage.resolve_left (· hname)⟩

theorem inDirectory?_eq (environment : Environment) (directory : Path) :
    inDirectory? environment directory =
      (searchOrder.find? (isEligible environment directory)).map
        fun name : String => directory.join name := by
  rw [inDirectory?]
  cases searchOrder.find? (isEligible environment directory) <;> rfl

theorem isSome_inDirectory?_iff :
    (inDirectory? environment directory).isSome = true ↔ HasConfig environment directory := by
  rw [inDirectory?_eq, Option.isSome_map, List.find?_isSome]
  simp only [HasConfig, holds_iff]

theorem exists_isFirst_of_inDirectory? (hfound : inDirectory? environment directory = some file) :
    ∃ name, IsFirst environment directory name ∧ file = directory.join name := by
  rw [inDirectory?_eq] at hfound
  obtain ⟨name, hname, rfl⟩ := Option.map_eq_some_iff.mp hfound
  obtain ⟨heligible, before, after, hsplit, hbefore⟩ := List.find?_eq_some_iff_append.mp hname
  -- A name before the one that is found is not there, so all that are there come after it.
  have hnotBefore : ∀ other, Holds environment directory other → other ∉ before := by
    intro other hother hmem
    have hnot := hbefore other hmem
    simp [(holds_iff.mp hother).2] at hnot
  have hholds : Holds environment directory name :=
    holds_iff.mpr ⟨List.mem_of_find?_eq_some hname, heligible⟩
  refine ⟨name, ⟨hholds, fun other hother => ?_⟩, rfl⟩
  rw [hsplit, List.idxOf_append_of_notMem (hnotBefore name hholds),
    List.idxOf_append_of_notMem (hnotBefore other hother), List.idxOf_cons_self]
  exact Nat.le_add_right _ _

/-! ### The configuration that is found -/

theorem find?_eq_none_iff {start : Path} :
    find? environment start = none ↔
      ∀ directory ∈ start.ancestors, ¬HasConfig environment directory := by
  rw [find?, List.findSome?_eq_none_iff]
  simp only [← isSome_inDirectory?_iff, Option.not_isSome_iff_eq_none]

theorem exists_nearest_of_find? {start : Path} (hfound : find? environment start = some file) :
    ∃ directory name, start.IsNearest (HasConfig environment) directory ∧
      IsFirst environment directory name ∧ file = directory.join name := by
  obtain ⟨directory, hnearest, hthere⟩ := Path.findSome?_ancestors_eq_some_iff.mp hfound
  obtain ⟨name, hfirst, hfile⟩ := exists_isFirst_of_inDirectory? hthere
  simp only [isSome_inDirectory?_iff] at hnearest
  exact ⟨directory, name, hnearest, hfirst, hfile⟩

/-! ### Files that can be read -/

def IsJson (text : String) : Prop :=
  ∃ data, Json.read text = .ok data

def IsToml (text : String) : Prop :=
  ∃ table, Toml.readTable text = .ok table

/-- What the text of a configuration file of that name has to be. -/
structure Suits (name text : String) : Prop where
  json : name = ".prettierrc.json" ∨ name = "package.json" → IsJson text
  plain : name = ".prettierrc" → (Text.trimStart text.toList).head? = some '{' → IsJson text
  toml : name = ".prettierrc.toml" → IsToml text

/-- A file with a name that is checked can be read, and its text is what it has to be. -/
def IsValid (environment : Environment) (file : Path) : Prop :=
  ∀ name ∈ file.baseName?, name ∈ checkedNames →
    ∃ text, environment.readText file = .ok text ∧ Suits name text

theorem checkText_json (hformat : formatOf name text = .json) :
    checkText file name text = .ok () ↔ IsJson text := by
  rw [checkText, hformat]
  cases hread : Json.read text <;> simp [IsJson, hread]

theorem checkText_toml (hformat : formatOf name text = .toml) :
    checkText file name text = .ok () ↔ IsToml text := by
  rw [checkText, hformat]
  cases hread : Toml.readTable text <;> simp [IsToml, hread]

theorem checkText_eq_ok_iff : checkText file name text = .ok () ↔ Suits name text := by
  by_cases hjson : name = ".prettierrc.json" ∨ name = "package.json"
  · rw [checkText_json (if_pos hjson)]
    refine ⟨fun hread => ⟨fun _ => hread, fun _ _ => hread, ?_⟩, fun hsuits => hsuits.json hjson⟩
    rintro rfl
    simp at hjson
  · by_cases htoml : name = ".prettierrc.toml"
    · have hformat : formatOf name text = .toml := by
        rw [formatOf, if_neg hjson, if_pos htoml]
      rw [checkText_toml hformat]
      refine ⟨fun hread => ⟨fun hname => absurd hname hjson, ?_, fun _ => hread⟩,
        fun hsuits => hsuits.toml htoml⟩
      rintro rfl
      simp at htoml
    · by_cases hplain : name = ".prettierrc" ∧
          (Text.trimStart text.toList).head? = some '{'
      · have hformat : formatOf name text = .json := by
          rw [formatOf, if_neg hjson, if_neg htoml, if_pos hplain]
        rw [checkText_json hformat]
        exact ⟨fun hread => ⟨fun _ => hread, fun _ _ => hread, fun hname => absurd hname htoml⟩,
          fun hsuits => hsuits.plain hplain.1 hplain.2⟩
      · have hformat : formatOf name text = .unchecked := by
          rw [formatOf, if_neg hjson, if_neg htoml, if_neg hplain]
        refine iff_of_true ?_ ?_
        · rw [checkText, hformat]
        · exact ⟨fun hname => absurd hname hjson, fun hname hbrace => absurd ⟨hname, hbrace⟩ hplain,
            fun hname => absurd hname htoml⟩

theorem check_eq_ok_iff : check environment file = .ok () ↔ IsValid environment file := by
  rw [check, IsValid]
  cases hbase : file.baseName? with
  | none => simp [checkedNames]
  | some name =>
    by_cases hchecked : name ∈ checkedNames
    · cases hread : environment.readText file with
      | error error => simp [hchecked]
      | ok text => simp [hchecked, checkText_eq_ok_iff]
    · simp [hchecked]

/-- A package counts only if it can be read. -/
theorem isValid_package (hholds : Holds environment directory "package.json") :
    IsValid environment (directory.join "package.json") := by
  intro name hname _
  rw [Path.baseName?_join (isFileName_of_mem hholds.isListed)] at hname
  obtain rfl := Option.some.inj hname
  obtain ⟨text, hread, data, found, hjson, -⟩ := hholds.ofPackage rfl
  refine ⟨text, hread, fun _ => ⟨data, hjson⟩, fun hplain => ?_, fun htoml => ?_⟩
  · simp at hplain
  · simp at htoml

/-! ### The options with the configuration file -/

/-- The options can be had with the file if it is valid, and only then. -/
structure RestsOn (environment : Environment) (options : Options) (file : Path) : Prop where
  valid : IsValid environment file →
    resolveOptions environment options = .ok { options with configFile := some file }
  broken : ¬IsValid environment file →
    ∃ reason, resolveOptions environment options = .error reason

theorem resolveOptions_of_choose_none (hchoose : choose environment options = .ok none) :
    resolveOptions environment options = .ok { options with configFile := none } := by
  rw [resolveOptions, hchoose]
  rfl

theorem restsOn_of_choose (hchoose : choose environment options = .ok (some file)) :
    RestsOn environment options file := by
  have hresolve : resolveOptions environment options =
      (check environment file).map fun _ => { options with configFile := some file } := by
    rw [resolveOptions, hchoose]
    cases hcheck : check environment file <;> simp [bind, Except.bind, Except.map, hcheck]
  constructor
  · intro hvalid
    rw [hresolve, check_eq_ok_iff.mpr hvalid]
    rfl
  · intro hbroken
    cases hcheck : check environment file with
    | error reason => exact ⟨reason, by rw [hresolve, hcheck]; rfl⟩
    | ok _ => exact absurd (check_eq_ok_iff.mp hcheck) hbroken

theorem RestsOn.configFile (hrests : RestsOn environment options file) {resolved : Options}
    (hresolved : resolveOptions environment options = .ok resolved) :
    resolved = { options with configFile := some file } := by
  by_cases hvalid : IsValid environment file
  · rw [hrests.valid hvalid] at hresolved
    exact (Except.ok.inj hresolved).symm
  · obtain ⟨reason, hreason⟩ := hrests.broken hvalid
    simp [hreason] at hresolved

theorem choose_of_none (environment : Environment) (hnone : options.configFile = none) :
    choose environment options =
      .ok ((options.file.bind Path.parent?).bind (find? environment)) := by
  rw [choose, hnone]

theorem choose_of_some (environment : Environment) (hnamed : options.configFile = some file) :
    choose environment options =
      if environment.isFile file then .ok (some file)
      else .error ("Config file not found: " ++ file.text) := by
  rw [choose, hnamed]

theorem resolveOptions_of_choose_error {reason : String}
    (hchoose : choose environment options = .error reason) :
    resolveOptions environment options = .error reason := by
  rw [resolveOptions, hchoose]
  rfl

theorem eq_of_resolveOptions {resolved : Options}
    (hresolved : resolveOptions environment options = .ok resolved) :
    resolved = { options with configFile := resolved.configFile } := by
  cases hchoose : choose environment options with
  | error reason => simp [resolveOptions_of_choose_error hchoose] at hresolved
  | ok chosen =>
    cases chosen with
    | none =>
      rw [resolveOptions_of_choose_none hchoose] at hresolved
      rw [← Except.ok.inj hresolved]
    | some file => rw [(restsOn_of_choose hchoose).configFile hresolved]

theorem resolveOptions_congr {other : Environment} (hnamed : options.configFile = some file)
    (hsame : other.find file = environment.find file) :
    resolveOptions other options = resolveOptions environment options := by
  have hfile : other.isFile file = environment.isFile file := by
    rw [Environment.isFile, Environment.isFile, hsame]
  have hcheck : check other file = check environment file := by
    rw [check, check, Environment.readText, Environment.readText, hsame]
  have hchoose : choose other options = choose environment options := by
    rw [choose_of_some other hnamed, choose_of_some environment hnamed, hfile]
  rw [resolveOptions, resolveOptions, hchoose, choose_of_some environment hnamed]
  split
  next => simp only [bind, Except.bind, hcheck]
  next => rfl

/-- Without a file that is named, the options have none if no directory at or above the document
has a configuration. Otherwise the nearest directory that has one decides, with the first of its
configurations, and there are no options at all if this file is not valid, which that of a package
always is. With a file that is named it is this file that has to be there and to be valid, and
nothing else matters. The rest of the options stays as it is. -/
theorem resolveOptions_nearest_or_named (environment : Environment) (options : Options) :
    (options.configFile = none →
      ((∃ resolved, resolveOptions environment options = .ok resolved ∧
          resolved.configFile = none) ↔
        ∀ start, options.file.bind Path.parent? = some start →
          ∀ directory ∈ start.ancestors, ¬HasConfig environment directory) ∧
      ∀ start, options.file.bind Path.parent? = some start →
        (∃ directory ∈ start.ancestors, HasConfig environment directory) →
        ∃ directory name, start.IsNearest (HasConfig environment) directory ∧
          IsFirst environment directory name ∧
          RestsOn environment options (directory.join name) ∧
          (name = "package.json" → IsValid environment (directory.join name))) ∧
    (∀ file, options.configFile = some file →
      (environment.isFile file = true → RestsOn environment options file) ∧
      (environment.isFile file = false →
        ∃ reason, resolveOptions environment options = .error reason) ∧
      ∀ other : Environment, other.find file = environment.find file →
        resolveOptions other options = resolveOptions environment options) ∧
    ∀ resolved, resolveOptions environment options = .ok resolved →
      resolved = { options with configFile := resolved.configFile } := by
  refine ⟨fun hnone => ⟨?_, ?_⟩, fun file hnamed => ⟨?_, ?_, fun other hsame => ?_⟩,
    fun resolved => eq_of_resolveOptions⟩
  · have hchoose := choose_of_none environment hnone
    constructor
    · rintro ⟨resolved, hresolved, hconfig⟩ start hstart
      rw [← find?_eq_none_iff]
      rw [hstart, Option.bind_some] at hchoose
      cases hfound : find? environment start with
      | none => rfl
      | some file =>
        rw [hfound] at hchoose
        rw [(restsOn_of_choose hchoose).configFile hresolved] at hconfig
        simp at hconfig
    · intro hfree
      refine ⟨_, resolveOptions_of_choose_none ?_, rfl⟩
      rw [hchoose]
      cases hstart : options.file.bind Path.parent? with
      | none => rfl
      | some start => rw [Option.bind_some, find?_eq_none_iff.mpr (hfree start hstart)]
  · rintro start hstart ⟨directory, hmem, hconfig⟩
    obtain ⟨file, hfound⟩ : ∃ file, find? environment start = some file := by
      rw [← Option.ne_none_iff_exists']
      intro hfree
      exact find?_eq_none_iff.mp hfree directory hmem hconfig
    obtain ⟨nearest, name, hnearest, hfirst, rfl⟩ := exists_nearest_of_find? hfound
    refine ⟨nearest, name, hnearest, hfirst, restsOn_of_choose ?_, ?_⟩
    · rw [choose_of_none environment hnone, hstart, Option.bind_some, hfound]
    · rintro rfl
      exact isValid_package hfirst.holds
  · intro hfile
    exact restsOn_of_choose (by rw [choose_of_some environment hnamed, if_pos hfile])
  · intro hmissing
    have hchoose := choose_of_some environment hnamed
    rw [if_neg (by simp [hmissing])] at hchoose
    exact ⟨_, resolveOptions_of_choose_error hchoose⟩
  · exact resolveOptions_congr hnamed hsame

/-- A project with these files and nothing else. -/
def projectOf (files : List (List String × String)) : Environment where
  disk := files.foldl (fun disk file =>
    disk.place (file.1.map Segment.ofString) (.file (Utf8.encode file.2))) .empty
  directory := []
  home := none
  searchPath := none
  configHome := none

/-- The nearest configuration is broken, while one further down the order and one further up are
not. -/
def brokenNearby : Environment :=
  projectOf [(["ws", ".prettierrc"], ""), (["ws", "a", ".prettierrc"], "\x7b"),
    (["ws", "a", ".prettierrc.json"], "\x7b\x7d")]

def scriptOptions : Options :=
  ⟨"babel", some "/ws/a/b.js", none, true, {}, none⟩

/-- The broken configuration is not passed over; the one further up has to be named. -/
theorem brokenNearby_not_passed_over :
    let named := { scriptOptions with configFile := some "/ws/.prettierrc" }
    let plain := projectOf [(["ws", ".prettierrc"], "")]
    (∃ directory ∈ (Path.ofString "/ws/a").ancestors, HasConfig brokenNearby directory) ∧
      (∃ reason, resolveOptions brokenNearby scriptOptions = .error reason) ∧
      resolveOptions brokenNearby named = .ok named ∧
      resolveOptions plain named = resolveOptions brokenNearby named ∧
      brokenNearby.isFile "/ws/a" = false ∧
      ∃ reason, resolveOptions brokenNearby { scriptOptions with configFile := some "/ws/a" } =
        .error reason := by
  intro named plain
  have hvalid : ∀ {environment : Environment} {file : Path},
      (check environment file).toOption.isSome = true ↔ IsValid environment file := by
    intro environment file
    rw [← check_eq_ok_iff]
    cases check environment file <;> simp [Except.toOption]
  have hthere : Holds brokenNearby "/ws/a" ".prettierrc" :=
    holds_iff.mpr ⟨by decide, by decide +kernel⟩
  have hdepths : ∀ other ∈ (Path.ofString "/ws/a").ancestors,
      other.depth ≤ (Path.ofString "/ws/a").depth := by decide
  have hnearest : (Path.ofString "/ws/a").IsNearest (HasConfig brokenNearby) "/ws/a" :=
    ⟨by decide, ⟨_, hthere⟩, fun other hother _ => hdepths other hother⟩
  have hfirst : IsFirst brokenNearby "/ws/a" ".prettierrc" := by
    refine ⟨hthere, fun other hother => ?_⟩
    have hothers : ∀ other ∈ searchOrder, isEligible brokenNearby "/ws/a" other = true →
        searchOrder.idxOf ".prettierrc" ≤ searchOrder.idxOf other := by decide +kernel
    exact hothers other hother.isListed (holds_iff.mp hother).2
  obtain ⟨hsearch, -, -⟩ := resolveOptions_nearest_or_named brokenNearby scriptOptions
  obtain ⟨-, hnamed, -⟩ := resolveOptions_nearest_or_named brokenNearby named
  obtain ⟨-, hfolder, -⟩ := resolveOptions_nearest_or_named brokenNearby
    { scriptOptions with configFile := some "/ws/a" }
  obtain ⟨directory, name, hnearest', hfirst', hrests, -⟩ :=
    (hsearch rfl).2 "/ws/a" (by decide) ⟨_, hnearest.mem, hnearest.holds⟩
  obtain rfl := hnearest'.unique hnearest
  obtain rfl := hfirst'.unique hfirst
  obtain ⟨hthere', -, hsame⟩ := hnamed "/ws/.prettierrc" rfl
  refine ⟨⟨_, hnearest.mem, hnearest.holds⟩, hrests.broken ?_, ?_, hsame plain ?_,
    by decide +kernel, (hfolder "/ws/a" rfl).2.1 (by decide +kernel)⟩
  · rw [← hvalid]
    decide +kernel
  · exact (hthere' (by decide +kernel)).valid (hvalid.mp (by decide +kernel))
  · rfl

end Config

end FormatServer
