import FormatServer.Command
import FormatServer.Proofs.Url.FileUrl

/-!
# How the command is called

The command takes the name of a file as it is given, and a file that is given by a normal absolute
path is just what the command makes of its name. The language goes through as a value unless it
looks like an option.
-/

namespace FormatServer

namespace Path

variable {location : Location} {name : Segment}

theorem glyphs_location (hnonempty : location ≠ []) :
    location.path.glyphs = location.flatMap fun name => slash :: name :=
  (flatMap_slash_eq_joined hnonempty).symm

theorem getLast?_location_ne (hnonempty : location ≠ [])
    (hnames : ∀ name ∈ location, name.IsName) :
    location.path.glyphs.getLast? ≠ some slash := by
  obtain ⟨front, last, rfl⟩ := (List.eq_nil_or_concat location).resolve_left hnonempty
  rw [List.concat_eq_append] at hnonempty hnames ⊢
  have hlast : last.IsName := hnames last (by simp)
  have hend : (Location.path (front ++ [last])).glyphs.getLast? = last.getLast? := by
    rw [glyphs_location hnonempty, List.flatMap_append, List.flatMap_singleton,
      List.getLast?_append, List.getLast?_cons_of_ne_nil hlast.ne_nil]
    cases hglyph : last.getLast? with
    | none => exact absurd (List.getLast?_eq_none_iff.mp hglyph) hlast.ne_nil
    | some glyph => rfl
  rw [hend]
  intro hslash
  exact hlast.noSlash (List.mem_of_getLast? hslash)

theorem isAbsolute_name (hname : name.IsName) : (Path.mk name).isAbsolute = false := by
  rw [isAbsolute, decide_eq_false_iff_not]
  intro hslash
  exact hname.noSlash (List.mem_of_mem_head? hslash)

theorem location_concat (hnames : ∀ name ∈ location, name.IsName) (hname : name.IsName) :
    Location.path (location ++ [name]) = location.path.join ⟨name⟩ := by
  by_cases hempty : location = []
  · rw [hempty, join, isAbsolute_name hname]
    rfl
  · have hopen : ¬(location.path.glyphs = [] ∨ location.path.glyphs.getLast? = some slash) := by
      rw [not_or]
      exact ⟨by simp [Location.path], getLast?_location_ne hempty hnames⟩
    have hglyphs : (Location.path (location ++ [name])).glyphs =
        location.path.glyphs ++ slash :: name := by
      rw [glyphs_location (by simp), glyphs_location hempty, List.flatMap_append,
        List.flatMap_singleton]
    rw [join, isAbsolute_name hname, if_neg Bool.false_ne_true, if_neg hopen, ← hglyphs]

theorem foldl_join_location (more : List Segment)
    (hnames : ∀ name ∈ location ++ more, name.IsName) :
    more.foldl (fun path name => path.join ⟨name⟩) location.path =
      Location.path (location ++ more) := by
  induction more generalizing location with
  | nil => rw [List.foldl_nil, List.append_nil]
  | cons first rest ih =>
    have hlocation : ∀ name ∈ location, name.IsName := fun name hname =>
      hnames name (List.mem_append_left _ hname)
    have hfirst : first.IsName := hnames first (by simp)
    rw [List.append_cons] at hnames ⊢
    rw [List.foldl_cons, ← location_concat hlocation hfirst, ih hnames]

theorem location_ne_nil_of_isStrictlyIn {directory : Location}
    (hinside : location.path.isStrictlyIn directory.path = true) : location ≠ [] := by
  rintro rfl
  obtain ⟨hin, hother⟩ := isStrictlyIn_iff.mp hinside
  have hroot : (Location.path []).components = [.root] := rfl
  obtain ⟨below, hbelow⟩ : ∃ below, directory.path.components = .root :: below := ⟨_, rfl⟩
  rw [isIn_iff, hroot, hbelow, List.cons_prefix_cons, List.prefix_nil] at hin
  rw [sameAs, hroot, hbelow, hin.2] at hother
  simp at hother

end Path

namespace Command

variable {file language : String}

theorem absolutePath_location (directory : Location) {location : Location}
    (hnames : ∀ name ∈ location, name.IsName) :
    absolutePath directory location.path = location.path := by
  have hkept : (location.path.components.filter fun component =>
      decide (component ≠ .root ∧ component ≠ .here)) = location.map .name := by
    rw [Path.components_location hnames, List.filter_cons_of_neg (by simp)]
    exact List.filter_eq_self.mpr (by simp)
  have hsingle : absolutePath.startsDouble location.path.glyphs = false := by
    cases location with
    | nil => rfl
    | cons first rest =>
      obtain ⟨glyph, more, rfl⟩ :=
        List.exists_cons_of_ne_nil (hnames first List.mem_cons_self).ne_nil
      have hglyph : glyph ≠ Path.slash := by
        rintro rfl
        exact (hnames _ List.mem_cons_self).noSlash List.mem_cons_self
      rw [Path.glyphs_location (by simp), List.flatMap_cons]
      simp [absolutePath.startsDouble, hglyph]
  have hwhole : (location.map Component.name).foldl
      (fun path component => path.join ⟨component.segment⟩) ⟨[Path.slash]⟩ = location.path := by
    have hroot : Path.mk [Path.slash] = Location.path [] := rfl
    rw [List.foldl_map, hroot]
    exact Path.foldl_join_location location hnames
  have habsolute : location.path.isAbsolute = true := rfl
  rw [absolutePath, hkept, if_pos habsolute, hsingle, if_neg Bool.false_ne_true, hwhole]
  by_cases hempty : location = []
  · rw [hempty]
    rfl
  · rw [if_neg (Path.getLast?_location_ne hempty hnames)]

theorem readFormat_file {rest : List String} (hfile : file.toList.head? = some '/') {draft : Draft}
    (hdraft : draft.file = none) :
    readFormat (file :: rest) draft = readFormat rest { draft with file := some file } := by
  have hname : ∀ name : String, name.toList.head? ≠ some '/' → file ≠ name := by
    rintro name hname rfl
    exact hname hfile
  have hprefix : ∀ chars : List Char, chars.head? = some '-' →
      chars.isPrefixOf file.toList = false := by
    intro chars hchars
    obtain ⟨more, rfl⟩ := List.head?_eq_some_iff.mp hchars
    obtain ⟨letters, hletters⟩ := List.head?_eq_some_iff.mp hfile
    rw [hletters]
    rfl
  have hattached : attachedValue? "--language-id" file = none := by
    rw [attachedValue?, hprefix _ (by decide)]
    rfl
  have hhelp : isHelp file = false := by
    rw [isHelp, isShort, hprefix _ rfl, Bool.or_false, decide_eq_false_iff_not]
    exact hname "--help" (by decide)
  have hoption : isOption file = false := by
    simp [isOption, hfile]
  have hset : draft.setFile file = .ok { draft with file := some file } := by
    simp [Draft.setFile, hdraft, hname "" (by decide)]
  rw [readFormat.eq_def]
  split
  case h_1 heq => simp at heq
  case h_2 heq => exact absurd (List.cons.inj heq).1 (hname "--" (by decide))
  case h_3 heq => exact absurd (List.cons.inj heq).1 (hname "--stdin" (by decide))
  case h_4 heq => exact absurd (List.cons.inj heq).1 (hname "--language-id" (by decide))
  case h_5 heq => exact absurd (List.cons.inj heq).1 (hname "--language-id" (by decide))
  case h_6 heq =>
    obtain ⟨rfl, rfl⟩ := List.cons.inj heq
    rw [hattached]
    simp only [hhelp, hoption, hset]
    rfl

/-- The arguments that name an absolute path, a language and the input are read as such. -/
theorem read_format (hfile : (Path.ofString file).isAbsolute = true)
    (hlanguage : isOption language = false) :
    read ["format", file, "--language-id", language, "--stdin"] =
      .ok (.format ⟨file, some language, true⟩) := by
  have hslash : file.toList.head? = some '/' := by
    have hhead : (file.toList.map Glyph.char).head? = some Path.slash := by
      rw [Path.isAbsolute, decide_eq_true_eq] at hfile
      exact hfile
    rw [List.head?_map] at hhead
    obtain ⟨c, hc, hglyph⟩ := Option.map_eq_some_iff.mp hhead
    rw [hc, Glyph.char.inj hglyph]
  have hvalue : ¬isOption language = true := by simp [hlanguage]
  change readFormat [file, "--language-id", language, "--stdin"] {} = _
  rw [readFormat_file hslash rfl, readFormat, if_neg hvalue]
  rfl

end Command

end FormatServer
