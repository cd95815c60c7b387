import FormatServer.Engine.Options
import FormatServer.Proofs.Selector.Scope
import Mathlib.Data.List.TakeWhile

/-!
# What the engine is told

The options of a run become a list of arguments, each of which gives an option by its name, alone or
with a value. The values are any text, but a name ends at the first equals sign of its argument,
since no name has one in it, and no option is given twice. So what is given for each option can be
read back, and with it all that the engine should go by: of a style that it is told, a switch set to
what the engine does anyway cannot be told from one that is not set, and of a style that a
configuration file stands in for it is told nothing.
-/

namespace FormatServer

namespace CommandLine

/-- What is given for an option. -/
inductive Given where
  | nothing
  | alone
  | value (text : String)
  deriving DecidableEq

namespace Given

def ofText : Option String → Given
  | none => nothing
  | some text => value text

def ofNumber (number : Option Nat) : Given :=
  ofText (number.map toString)

def ofSwitch (isOn : Bool) : Given :=
  if isOn then alone else nothing

def text? : Given → Option String
  | value text => some text
  | _ => none

def number? (given : Given) : Option Nat :=
  given.text?.map fun text => Nat.ofDigitChars 10 text.toList 0

def isOn : Given → Bool
  | nothing => false
  | _ => true

/-- The argument that gives this for the option of that name, if there is anything to give. -/
def arguments (name : String) : Given → List String
  | nothing => []
  | alone => ["--" ++ name]
  | value text => ["--" ++ name ++ "=" ++ text]

@[simp]
theorem text?_value (text : String) : (value text).text? = some text :=
  rfl

@[simp]
theorem text?_ofText (text : Option String) : (ofText text).text? = text := by
  cases text <;> rfl

@[simp]
theorem number?_ofNumber (number : Option Nat) : (ofNumber number).number? = number := by
  have hdigits : ∀ number : Nat, Nat.ofDigitChars 10 (toString number).toList 0 = number := by
    intro number
    rw [Nat.toString_eq_repr, Nat.toList_repr, Nat.ofDigitChars_ten_toDigits]
  rw [number?, ofNumber, text?_ofText, Option.map_map]
  cases number with
  | none => rfl
  | some number => exact congrArg some (hdigits number)

@[simp]
theorem isOn_ofSwitch (isOn : Bool) : (ofSwitch isOn).isOn = isOn := by
  cases isOn <;> rfl

end Given

/-- The name of the option that the argument is for, and what it gives. -/
def split (argument : String) : String × Given :=
  let chars := argument.toList.drop 2
  (String.ofList (chars.takeWhile (· ≠ '=')),
    match chars.dropWhile (· ≠ '=') with
    | [] => .alone
    | _ :: text => .value (String.ofList text))

/-- What the arguments give for the option of that name. -/
def given (arguments : List String) (name : String) : Given :=
  ((arguments.map split).lookup name).getD .nothing

/-- The arguments that give so much for each of the options. -/
def write (entries : List (String × Given)) : List String :=
  entries.flatMap fun entry => entry.2.arguments entry.1

theorem map_split_arguments {entry : String × Given} (hplain : '=' ∉ entry.1.toList) :
    (entry.2.arguments entry.1).map split = [entry].filter (·.2 ≠ .nothing) := by
  obtain ⟨name, given⟩ := entry
  have hname : ∀ c ∈ name.toList, decide (c ≠ '=') = true := by
    intro c hc
    exact decide_eq_true (ne_of_mem_of_not_mem hc hplain)
  cases given with
  | nothing => rfl
  | alone =>
    have hchars : ("--" ++ name).toList.drop 2 = name.toList := by
      rw [String.toList_append]
      rfl
    have hsplit : split ("--" ++ name) = (name, .alone) := by
      rw [split, hchars, List.takeWhile_eq_self_iff.mpr hname,
        List.dropWhile_eq_nil_iff.mpr hname, String.ofList_toList]
    simp [Given.arguments, hsplit]
  | value text =>
    have hchars : ("--" ++ name ++ "=" ++ text).toList.drop 2 =
        name.toList ++ '=' :: text.toList := by
      simp only [String.toList_append, List.append_assoc]
      rfl
    have hsplit : split ("--" ++ name ++ "=" ++ text) = (name, .value text) := by
      rw [split, hchars, List.takeWhile_append_of_pos hname, List.dropWhile_append_of_pos hname]
      simp
    simp [Given.arguments, hsplit]

theorem map_split_write {entries : List (String × Given)}
    (hplain : ∀ entry ∈ entries, '=' ∉ entry.1.toList) :
    (write entries).map split = entries.filter (·.2 ≠ .nothing) := by
  induction entries with
  | nil => rfl
  | cons first rest ih =>
    obtain ⟨hfirst, hrest⟩ := List.forall_mem_cons.mp hplain
    rw [write, List.flatMap_cons, List.map_append, map_split_arguments hfirst, ← write, ih hrest,
      ← List.filter_append, List.singleton_append]

/-- What was written for an option is given for it. -/
theorem given_write {entries : List (String × Given)}
    (hplain : ∀ entry ∈ entries, '=' ∉ entry.1.toList)
    (hdistinct : (entries.map Prod.fst).Nodup) {entry : String × Given} (hentry : entry ∈ entries) :
    given (write entries) entry.1 = entry.2 := by
  rw [given, map_split_write hplain]
  clear hplain
  induction entries with
  | nil => simp at hentry
  | cons first rest ih =>
    obtain ⟨hnew, hdistinct⟩ := List.nodup_cons.mp hdistinct
    rcases List.mem_cons.mp hentry with rfl | hentry
    · by_cases hnothing : entry.2 = .nothing
      · have hnone : (rest.filter (·.2 ≠ .nothing)).lookup entry.1 = none := by
          rw [List.lookup_eq_none_iff]
          intro other hother
          rw [bne_iff_ne]
          rintro hsame
          exact hnew (hsame ▸ List.mem_map_of_mem (List.mem_filter.mp hother).1)
        rw [List.filter_cons_of_neg (by simpa using hnothing), hnone, hnothing]
        rfl
      · rw [List.filter_cons_of_pos (by simpa using hnothing), lookup_cons_eq_ite, if_pos rfl]
        rfl
    · have hother : entry.1 ≠ first.1 :=
        fun hsame => hnew (hsame ▸ List.mem_map_of_mem hentry)
      rw [← ih hdistinct hentry, List.filter_cons]
      split
      next => rw [lookup_cons_eq_ite, if_neg hother]
      next => rfl

end CommandLine

open CommandLine

namespace Style

/-- What the arguments for a style give for each of its options. -/
def entries (style : Style) : List (String × Given) := [
  ("print-width", .ofNumber (style.printWidth.map UInt32.toNat)),
  ("tab-width", .ofNumber (style.tabWidth.map UInt32.toNat)),
  ("use-tabs", .ofSwitch (style.useTabs = some true)),
  ("no-semi", .ofSwitch (style.semi = some false)),
  ("single-quote", .ofSwitch (style.singleQuote = some true)),
  ("jsx-single-quote", .ofSwitch (style.jsxSingleQuote = some true)),
  ("trailing-comma", .ofText style.trailingComma),
  ("no-bracket-spacing", .ofSwitch (style.bracketSpacing = some false)),
  ("arrow-parens", .ofText style.arrowParens),
  ("prose-wrap", .ofText style.proseWrap),
  ("end-of-line", .ofText style.endOfLine),
  ("quote-props", .ofText style.quoteProps)]

theorem numberArgument_eq (name : String) (value : Option UInt32) :
    numberArgument name value = (Given.ofNumber (value.map UInt32.toNat)).arguments name := by
  cases value <;> rfl

theorem textArgument_eq (name : String) (value : Option String) :
    textArgument name value = (Given.ofText value).arguments name := by
  cases value <;> rfl

theorem switchArgument_eq (argument name : String) (hname : argument = "--" ++ name) (when : Bool)
    (value : Option Bool) :
    switchArgument argument when value = (Given.ofSwitch (value = some when)).arguments name := by
  rw [switchArgument, hname]
  split
  next hwhen => simp [hwhen, Given.ofSwitch, Given.arguments]
  next hwhen => simp [hwhen, Given.ofSwitch, Given.arguments]

theorem arguments_eq_write (style : Style) : style.arguments = write style.entries := by
  simp only [arguments, numberArgument_eq, textArgument_eq,
    switchArgument_eq "--use-tabs" "use-tabs" rfl, switchArgument_eq "--no-semi" "no-semi" rfl,
    switchArgument_eq "--single-quote" "single-quote" rfl,
    switchArgument_eq "--jsx-single-quote" "jsx-single-quote" rfl,
    switchArgument_eq "--no-bracket-spacing" "no-bracket-spacing" rfl, entries, write,
    List.flatMap_cons, List.flatMap_nil, List.append_assoc, List.append_nil]

/-- The style with each switch at what it comes to, as the engine has it where it is not set. -/
def effective (style : Style) : Style :=
  { style with
    useTabs := some (style.useTabs.getD false)
    semi := some (style.semi.getD true)
    singleQuote := some (style.singleQuote.getD false)
    jsxSingleQuote := some (style.jsxSingleQuote.getD false)
    bracketSpacing := some (style.bracketSpacing.getD true) }

end Style

namespace Options

/-- The style that the engine is told, which is none if a configuration file applies. -/
def toldStyle (options : Options) : Style :=
  if options.configFile.isSome then {} else options.fallback

/-- What the arguments of the engine give for each option. -/
def entries (options : Options) : List (String × Given) :=
  [("parser", .value options.parser),
    ("config", .ofText (options.configFile.map Path.text)),
    ("no-config", .ofSwitch options.configFile.isNone),
    ("no-editorconfig", .ofSwitch !options.useEditorConfig)] ++
  options.toldStyle.entries ++
  [("range-start", .ofNumber (options.span.map Span.start)),
    ("range-end", .ofNumber (options.span.map Span.stop)),
    ("stdin-filepath", .ofText (options.file.map Path.text))]

theorem configArgument_eq (file : Option Path) :
    [configArgument file] = (Given.ofText (file.map Path.text)).arguments "config" ++
      (Given.ofSwitch file.isNone).arguments "no-config" := by
  cases file <;> rfl

theorem editorConfigArgument_eq (isUsed : Bool) :
    (if isUsed then [] else ["--no-editorconfig"]) =
      (Given.ofSwitch !isUsed).arguments "no-editorconfig" := by
  cases isUsed <;> decide

theorem spanArguments_eq (span : Option Span) :
    spanArguments span = (Given.ofNumber (span.map Span.start)).arguments "range-start" ++
      (Given.ofNumber (span.map Span.stop)).arguments "range-end" := by
  cases span <;> rfl

theorem fileArgument_eq (file : Option Path) :
    fileArgument file = (Given.ofText (file.map Path.text)).arguments "stdin-filepath" := by
  cases file <;> rfl

theorem styleArguments_eq_write (options : Options) :
    options.styleArguments = write options.toldStyle.entries := by
  rw [styleArguments, toldStyle]
  split
  next => rfl
  next => exact Style.arguments_eq_write options.fallback

theorem engineArguments_eq_write (options : Options) :
    options.engineArguments = write options.entries := by
  have hparser : ["--parser=" ++ options.parser, configArgument options.configFile] =
      (Given.value options.parser).arguments "parser" ++ [configArgument options.configFile] :=
    rfl
  rw [engineArguments, hparser, configArgument_eq, editorConfigArgument_eq,
    styleArguments_eq_write, spanArguments_eq, fileArgument_eq]
  simp only [entries, write, List.flatMap_append, List.flatMap_cons, List.flatMap_nil,
    List.append_assoc, List.append_nil]

/-- What the engine goes by. -/
def effective (options : Options) : Options :=
  { options with fallback := options.toldStyle.effective }

/-- The names of all options that the engine can be given. -/
def entryNames : List String :=
  ["parser", "config", "no-config", "no-editorconfig", "print-width", "tab-width", "use-tabs",
    "no-semi", "single-quote", "jsx-single-quote", "trailing-comma", "no-bracket-spacing",
    "arrow-parens", "prose-wrap", "end-of-line", "quote-props", "range-start", "range-end",
    "stdin-filepath"]

theorem map_fst_entries (options : Options) : options.entries.map Prod.fst = entryNames :=
  rfl

theorem given_engineArguments (options : Options) :
    ∀ entry ∈ options.entries, given options.engineArguments entry.1 = entry.2 := by
  intro entry hentry
  have hplain : ∀ name ∈ entryNames, '=' ∉ name.toList := by decide
  have hdistinct : entryNames.Nodup := by decide
  rw [← map_fst_entries options] at hplain hdistinct
  rw [engineArguments_eq_write]
  refine given_write ?_ hdistinct hentry
  exact fun other hother => hplain other.1 (List.mem_map_of_mem hother)

end Options

/-! ### Reading the arguments -/

/-- The style that the arguments give. -/
def Style.read (arguments : List String) : Style where
  printWidth := (given arguments "print-width").number?.map UInt32.ofNat
  tabWidth := (given arguments "tab-width").number?.map UInt32.ofNat
  useTabs := some (given arguments "use-tabs").isOn
  semi := some !(given arguments "no-semi").isOn
  singleQuote := some (given arguments "single-quote").isOn
  jsxSingleQuote := some (given arguments "jsx-single-quote").isOn
  trailingComma := (given arguments "trailing-comma").text?
  bracketSpacing := some !(given arguments "no-bracket-spacing").isOn
  arrowParens := (given arguments "arrow-parens").text?
  proseWrap := (given arguments "prose-wrap").text?
  endOfLine := (given arguments "end-of-line").text?
  quoteProps := (given arguments "quote-props").text?

namespace Options

/-- The options that the arguments give; none if there is no parser among them. -/
def read? (arguments : List String) : Option Options :=
  (given arguments "parser").text?.map fun parser => {
    parser
    file := (given arguments "stdin-filepath").text?.map Path.ofString
    configFile := (given arguments "config").text?.map Path.ofString
    useEditorConfig := !(given arguments "no-editorconfig").isOn
    fallback := Style.read arguments
    span := (given arguments "range-start").number?.bind fun start =>
      (given arguments "range-end").number?.map fun stop => ⟨start, stop⟩ }

/-- The paths in the options are text. -/
structure HasTextPaths (options : Options) : Prop where
  file : ∀ path ∈ options.file, path.isText = true
  configFile : ∀ path ∈ options.configFile, path.isText = true

theorem map_ofString_map_text {path : Option Path} (htext : ∀ given ∈ path, given.isText = true) :
    (path.map Path.text).map Path.ofString = path := by
  cases path with
  | none => rfl
  | some path => exact congrArg some (Path.shown_of_isText (htext path rfl))

theorem map_ofNat_map_toNat (value : Option UInt32) :
    (value.map UInt32.toNat).map UInt32.ofNat = value := by
  cases value with
  | none => rfl
  | some value => exact congrArg some (UInt32.ofNat_toNat ..)

theorem decide_eq_getD_false (value : Option Bool) :
    decide (value = some true) = value.getD false := by
  rcases value with _ | _ | _ <;> rfl

theorem not_decide_eq_getD_true (value : Option Bool) :
    (!decide (value = some false)) = value.getD true := by
  rcases value with _ | _ | _ <;> rfl

/-- The arguments of the engine give all that it goes by. -/
theorem read?_engineArguments {options : Options} (htext : options.HasTextPaths) :
    read? options.engineArguments = some options.effective := by
  have hgiven := given_engineArguments options
  simp only [entries, Style.entries, List.cons_append, List.nil_append, List.forall_mem_cons,
    List.not_mem_nil, false_imp_iff, implies_true, and_true] at hgiven
  obtain ⟨hparser, hconfig, -, heditor, hprintWidth, htabWidth, huseTabs, hsemi, hsingleQuote,
    hjsx, hcomma, hspacing, harrow, hprose, hend, hprops, hstart, hstop, hfile⟩ := hgiven
  have hstyle : Style.read options.engineArguments = options.toldStyle.effective := by
    simp only [Style.read, Style.effective, hprintWidth, htabWidth, huseTabs, hsemi, hsingleQuote,
      hjsx, hcomma, hspacing, harrow, hprose, hend, hprops, Given.number?_ofNumber,
      Given.text?_ofText, Given.isOn_ofSwitch, map_ofNat_map_toNat, decide_eq_getD_false,
      not_decide_eq_getD_true]
  have hspan : ((options.span.map Span.start).bind fun start =>
      (options.span.map Span.stop).map fun stop => Span.mk start stop) = options.span := by
    cases options.span <;> rfl
  simp only [read?, hparser, hconfig, heditor, hstart, hstop, hfile, Given.text?_value,
    Given.text?_ofText, Given.number?_ofNumber, Given.isOn_ofSwitch, hstyle, hspan,
    map_ofString_map_text htext.file, map_ofString_map_text htext.configFile, Bool.not_not,
    Option.map_some, effective]

/-! ### Options that the engine should treat alike -/

/-- The engine should go by the same in both. -/
structure Agrees (first second : Options) : Prop where
  parser : first.parser = second.parser
  configFile : first.configFile = second.configFile
  useEditorConfig : first.useEditorConfig = second.useEditorConfig
  span : first.span = second.span
  file : first.file = second.file
  style : first.configFile = none → first.fallback.effective = second.fallback.effective

theorem agrees_iff {first second : Options} :
    first.Agrees second ↔ first.effective = second.effective := by
  rw [effective, effective, Options.mk.injEq]
  constructor
  · rintro ⟨hparser, hconfig, heditor, hspan, hfile, hstyle⟩
    refine ⟨hparser, hfile, hconfig, heditor, ?_, hspan⟩
    rw [toldStyle, toldStyle, ← hconfig]
    split
    next => rfl
    next hnone => exact hstyle (by simpa using hnone)
  · rintro ⟨hparser, hfile, hconfig, heditor, htold, hspan⟩
    refine ⟨hparser, hconfig, heditor, hspan, hfile, fun hnone => ?_⟩
    rwa [toldStyle, toldStyle, ← hconfig, hnone] at htold

theorem entries_effective (style : Style) : style.effective.entries = style.entries := by
  have hoff : ∀ value : Option Bool, decide (value = some false) = !value.getD true := by
    intro value
    rw [← not_decide_eq_getD_true, Bool.not_not]
  simp only [Style.entries, decide_eq_getD_false, hoff]
  rfl

theorem engineArguments_effective (options : Options) :
    options.effective.engineArguments = options.engineArguments := by
  have htold : options.effective.toldStyle.entries = options.toldStyle.entries := by
    by_cases hconfig : options.configFile.isSome = true
    · simp [toldStyle, effective, hconfig]
    · simp [toldStyle, effective, hconfig, entries_effective]
  rw [engineArguments_eq_write, engineArguments_eq_write, entries, entries, htold]
  rfl

/-- All that the engine should go by can be read from its arguments. So the arguments are the same
for options in which this is the same, as it is in options that differ in the style only if a
configuration file applies, and for no others. -/
theorem read?_engineArguments_and_eq_iff :
    (∀ options : Options, options.HasTextPaths →
      read? options.engineArguments = some options.effective) ∧
    (∀ first second : Options, first.HasTextPaths → second.HasTextPaths →
      (first.engineArguments = second.engineArguments ↔ first.Agrees second)) ∧
    ∀ (options : Options) (style : Style), options.configFile.isSome = true →
      { options with fallback := style }.engineArguments = options.engineArguments := by
  refine ⟨fun options => read?_engineArguments, ?_, ?_⟩
  · intro first second hfirst hsecond
    rw [agrees_iff]
    constructor
    · intro hsame
      have hread := read?_engineArguments hfirst
      rw [hsame, read?_engineArguments hsecond] at hread
      exact (Option.some.inj hread).symm
    · intro hsame
      rw [← engineArguments_effective first, hsame, engineArguments_effective]
  · intro options style hconfig
    simp [engineArguments, styleArguments, hconfig]

/-- Values that look like other arguments, and a switch that is set to what it would be anyway. -/
def misleading : Options where
  parser := "babel --no-config"
  file := some "/ws/--config=a.js"
  configFile := none
  useEditorConfig := false
  fallback := { printWidth := some 80, semi := some true, useTabs := some true,
                trailingComma := some "--no-semi", quoteProps := some "a=b" }
  span := some ⟨3, 10⟩

theorem misleading_read_back :
    let plain := { misleading with fallback := { misleading.fallback with semi := none } }
    let configured := { misleading with configFile := some "/ws/.prettierrc" }
    misleading.HasTextPaths ∧ read? misleading.engineArguments = some misleading.effective ∧
      misleading.Agrees plain ∧ misleading.engineArguments = plain.engineArguments ∧
      { configured with fallback := {} }.engineArguments = configured.engineArguments := by
  intro plain configured
  have htext : misleading.HasTextPaths := ⟨by decide, by decide⟩
  have hplain : plain.HasTextPaths := ⟨by decide, by decide⟩
  have hagrees : misleading.Agrees plain := ⟨rfl, rfl, rfl, rfl, rfl, fun _ => rfl⟩
  obtain ⟨hread, hiff, hstyle⟩ := read?_engineArguments_and_eq_iff
  exact ⟨htext, hread misleading htext, hagrees, (hiff misleading plain htext hplain).mpr hagrees,
    hstyle configured {} rfl⟩

end Options

end FormatServer
