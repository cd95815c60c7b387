import FormatServer.Engine.Options
import Mathlib.Data.List.Basic

/-!
# Ranges on the command line

The engine is told a range by two arguments, and a formatter with a linter is not told it at all.
No other argument can be taken for one of the two, whatever the names of files and the values of the
style are, since all of them differ from both within their fixed beginnings.
-/

namespace FormatServer

namespace CommandLine

/-- The value that an argument gives for the option of that name. -/
def value? (name argument : String) : Option String :=
  (("--" ++ name ++ "=").toList.isPrefixOf? argument.toList).map String.ofList

def values (name : String) (arguments : List String) : List String :=
  arguments.filterMap (value? name)

/-- The arguments give the start and the end of the range, each once. -/
def CarriesSpan (span : Span) (arguments : List String) : Prop :=
  values "range-start" arguments = [toString span.start] ∧
    values "range-end" arguments = [toString span.stop]

instance (span : Span) (arguments : List String) : Decidable (CarriesSpan span arguments) :=
  inferInstanceAs (Decidable (_ ∧ _))

/-- An argument that starts like neither of those for a range. -/
def IsOther (argument : String) : Prop :=
  argument.toList[2]? ≠ some 'r'

instance (argument : String) : Decidable (IsOther argument) :=
  inferInstanceAs (Decidable (argument.toList[2]? ≠ some 'r'))

variable {argument : String} {arguments : List String} {span : Span}

theorem value?_append (name value : String) :
    value? name ("--" ++ name ++ "=" ++ value) = some value := by
  rw [value?, Option.map_eq_some_iff]
  refine ⟨value.toList, ?_, String.ofList_toList⟩
  exact List.isPrefixOf?_eq_some_iff_append_eq.mpr String.toList_append.symm

theorem value?_eq_none {name : String} (place : Nat)
    (hplace : place < ("--" ++ name ++ "=").toList.length)
    (hdiffers : argument.toList[place]? ≠ ("--" ++ name ++ "=").toList[place]?) :
    value? name argument = none := by
  cases hvalue : value? name argument with
  | none => rfl
  | some value =>
    obtain ⟨rest, hprefix, -⟩ := Option.map_eq_some_iff.mp hvalue
    rw [List.isPrefixOf?_eq_some_iff_append_eq] at hprefix
    rw [← hprefix, List.getElem?_append_left hplace] at hdiffers
    exact absurd rfl hdiffers

theorem values_append (name : String) (first second : List String) :
    values name (first ++ second) = values name first ++ values name second :=
  List.filterMap_append

theorem values_of_isOther (hothers : ∀ argument ∈ arguments, IsOther argument) {name : String}
    (hname : ("--" ++ name ++ "=").toList[2]? = some 'r') : values name arguments = [] := by
  rw [values, List.filterMap_eq_nil_iff]
  intro argument hargument
  have hlong : 2 < ("--" ++ name ++ "=").toList.length := (List.getElem?_eq_some_iff.mp hname).1
  apply value?_eq_none 2 hlong
  rw [hname]
  exact hothers argument hargument

/-- An argument with a fixed beginning. -/
theorem isOther_append {start : String} (hlong : 2 < start.toList.length) (hstart : IsOther start)
    (rest : String) : IsOther (start ++ rest) := by
  rw [IsOther, String.toList_append, List.getElem?_append_left hlong]
  exact hstart

end CommandLine

open CommandLine

namespace Style

variable {argument : String}

theorem isOther_of_mem_numberArgument {name : String} {value : Option UInt32}
    (hname : IsOther ("--" ++ name ++ "=")) (hargument : argument ∈ numberArgument name value) :
    IsOther argument := by
  obtain ⟨number, -, rfl⟩ := List.mem_map.mp hargument
  exact isOther_append (by simp) hname _

theorem isOther_of_mem_textArgument {name : String} {value : Option String}
    (hname : IsOther ("--" ++ name ++ "=")) (hargument : argument ∈ textArgument name value) :
    IsOther argument := by
  obtain ⟨text, -, rfl⟩ := List.mem_map.mp hargument
  exact isOther_append (by simp) hname _

theorem isOther_of_mem_switchArgument {switch : String} {when : Bool} {value : Option Bool}
    (hswitch : IsOther switch) (hargument : argument ∈ switchArgument switch when value) :
    IsOther argument := by
  rw [switchArgument] at hargument
  split at hargument
  next => exact List.mem_singleton.mp hargument ▸ hswitch
  next => simp at hargument

theorem isOther_of_mem_arguments {style : Style} (hargument : argument ∈ style.arguments) :
    IsOther argument := by
  simp only [arguments, List.mem_append, or_assoc] at hargument
  rcases hargument with h | h | h | h | h | h | h | h | h | h | h | h
  · exact isOther_of_mem_numberArgument (by decide) h
  · exact isOther_of_mem_numberArgument (by decide) h
  · exact isOther_of_mem_switchArgument (by decide) h
  · exact isOther_of_mem_switchArgument (by decide) h
  · exact isOther_of_mem_switchArgument (by decide) h
  · exact isOther_of_mem_switchArgument (by decide) h
  · exact isOther_of_mem_textArgument (by decide) h
  · exact isOther_of_mem_switchArgument (by decide) h
  · exact isOther_of_mem_textArgument (by decide) h
  · exact isOther_of_mem_textArgument (by decide) h
  · exact isOther_of_mem_textArgument (by decide) h
  · exact isOther_of_mem_textArgument (by decide) h

end Style

namespace Options

variable {options : Options} {argument : String}

theorem isOther_of_mem_styleArguments (hargument : argument ∈ options.styleArguments) :
    IsOther argument := by
  rw [styleArguments] at hargument
  split at hargument
  next => simp at hargument
  next => exact Style.isOther_of_mem_arguments hargument

theorem isOther_configArgument (file : Option Path) : IsOther (configArgument file) := by
  cases file with
  | none => decide
  | some file => exact isOther_append (by decide) (by decide) file.text

theorem isOther_of_mem_fileArgument {file : Option Path}
    (hargument : argument ∈ fileArgument file) : IsOther argument := by
  obtain ⟨path, -, rfl⟩ := List.mem_map.mp hargument
  exact isOther_append (by decide) (by decide) path.text

theorem isOther_of_mem_linterArguments (hargument : argument ∈ options.linterArguments) :
    IsOther argument := by
  simp only [linterArguments, List.mem_append, List.mem_singleton] at hargument
  rcases hargument with ((rfl | hfile) | rfl) | hstyle
  · decide
  · exact isOther_of_mem_fileArgument hfile
  · exact isOther_append (by decide) (by decide) options.parser
  · exact isOther_of_mem_styleArguments hstyle

/-- The arguments of the engine before those for the range. -/
def leadingArguments (options : Options) : List String :=
  ["--parser=" ++ options.parser, configArgument options.configFile] ++
    (if options.useEditorConfig then [] else ["--no-editorconfig"]) ++ options.styleArguments

theorem isOther_of_mem_leadingArguments (hargument : argument ∈ options.leadingArguments) :
    IsOther argument := by
  simp only [leadingArguments, List.mem_append, List.mem_cons, List.not_mem_nil, or_false]
    at hargument
  rcases hargument with ((rfl | rfl) | heditor) | hstyle
  · exact isOther_append (by decide) (by decide) options.parser
  · exact isOther_configArgument options.configFile
  · split at heditor
    next => simp at heditor
    next =>
      rw [List.mem_singleton.mp heditor]
      decide
  · exact isOther_of_mem_styleArguments hstyle

theorem carriesSpan_spanArguments (span : Span) :
    CarriesSpan span (spanArguments (some span)) := by
  let start := "--" ++ "range-start" ++ "=" ++ toString span.start
  let stop := "--" ++ "range-end" ++ "=" ++ toString span.stop
  have hstart : value? "range-start" start = some (toString span.start) := value?_append _ _
  have hstop : value? "range-end" stop = some (toString span.stop) := value?_append _ _
  have hstart' : value? "range-end" start = none := by
    apply value?_eq_none 8 (by decide)
    rw [String.toList_append, List.getElem?_append_left (by decide)]
    decide
  have hstop' : value? "range-start" stop = none := by
    apply value?_eq_none 8 (by decide)
    rw [String.toList_append, List.getElem?_append_left (by decide)]
    decide
  have hboth : spanArguments (some span) = [start, stop] := rfl
  rw [hboth]
  constructor
  · rw [values, List.filterMap_cons_some hstart, List.filterMap_cons_none hstop',
      List.filterMap_nil]
  · rw [values, List.filterMap_cons_none hstart', List.filterMap_cons_some hstop,
      List.filterMap_nil]

/-- The engine is told the range. -/
theorem carriesSpan_engineArguments {span : Span} (hspan : options.span = some span) :
    CarriesSpan span options.engineArguments := by
  have hsplit : options.engineArguments =
      options.leadingArguments ++ spanArguments (some span) ++ fileArgument options.file := by
    rw [← hspan]
    rfl
  have hrest : ∀ {name : String}, ("--" ++ name ++ "=").toList[2]? = some 'r' →
      values name options.engineArguments = values name (spanArguments (some span)) := by
    intro name hname
    rw [hsplit, values_append, values_append,
      values_of_isOther (fun _ => isOther_of_mem_leadingArguments) hname,
      values_of_isOther (fun _ => isOther_of_mem_fileArgument) hname, List.nil_append,
      List.append_nil]
  obtain ⟨hstart, hstop⟩ := carriesSpan_spanArguments span
  exact ⟨(hrest (by decide)).trans hstart, (hrest (by decide)).trans hstop⟩

/-- A formatter with a linter is not. -/
theorem not_carriesSpan_linterArguments (span : Span) :
    ¬CarriesSpan span options.linterArguments := by
  rintro ⟨hstart, -⟩
  rw [values_of_isOther (fun _ => isOther_of_mem_linterArguments) (by decide)] at hstart
  simp at hstart

end Options

end FormatServer
