import FormatServer.Proofs.Text.Application
import Mathlib.Data.List.DropRight

/-!
# Positions and offsets

A place in a text is a cut of it in two. A client names the cut by the line ends before it and by
the units since the last of them; the offset of the cut counts all units before it. The offset that
a position has is that of the cut which it names, so that a range has the span between its two cuts.

This takes a cut that leaves the two characters of a line end together: between them no line ends
yet. Positions that name no cut have offsets as well, those of cuts near by, and they come in the
same order as the positions do.
-/

namespace FormatServer

namespace Text

def endCount : List Char → Nat
  | [] => 0
  | '\r' :: '\n' :: rest => endCount rest + 1
  | c :: rest => if c = '\n' ∨ c = '\r' then endCount rest + 1 else endCount rest

def isPlain (c : Char) : Bool :=
  !(c = '\n' || c = '\r')

def lastRow (chars : List Char) : List Char :=
  chars.rtakeWhile isPlain

/-- Whether a cut parts the two characters of one line end. -/
def partsEnd (before after : List Char) : Bool :=
  before.getLast? = some '\r' && after.head? = some '\n'

/-- The characters of a line without its end, and what is before and after them in the text. -/
structure IsRow (before row after : List Char) : Prop where
  begins : before.getLast?.all (fun c => !isPlain c) = true
  plain : row.all isPlain = true
  ends : after.head?.all (fun c => !isPlain c) = true
  whole : partsEnd before (row ++ after) = false

end Text

namespace Position

/-- The position of the cut after these characters. -/
structure IsAfter (position : Position) (chars : List Char) : Prop where
  line : position.line.toNat = Text.endCount chars
  character : position.character.toNat = Text.units16 (Text.lastRow chars)

instance : LE Position :=
  ⟨fun first second =>
    first.line < second.line ∨ first.line = second.line ∧ first.character ≤ second.character⟩

theorem le_iff {first second : Position} :
    first ≤ second ↔
      first.line < second.line ∨ first.line = second.line ∧ first.character ≤ second.character :=
  Iff.rfl

end Position

namespace Text

theorem isPlain_eq_false_iff {c : Char} : isPlain c = false ↔ c = '\n' ∨ c = '\r' := by
  rw [isPlain, Bool.not_eq_false', Bool.or_eq_true, decide_eq_true_eq, decide_eq_true_eq]

theorem isPlain_iff {c : Char} : isPlain c = true ↔ ¬(c = '\n' ∨ c = '\r') := by
  rw [← isPlain_eq_false_iff, Bool.not_eq_false]

theorem units16_append (first second : List Char) :
    units16 (first ++ second) = units16 first + units16 second := by
  simp only [units16_eq_sum, List.map_append, List.sum_append]

/-! ### Lines -/

theorem lines_of_plain {c : Char} (hplain : isPlain c = true) (rest : List Char) :
    lines (c :: rest) = Line.prepend c (lines rest) := by
  have hother := isPlain_iff.mp hplain
  rw [lines, if_neg hother]
  exact fun _ hreturn _ => hother (.inr hreturn)

theorem lines_of_end {c : Char} (hend : isPlain c = false) {rest : List Char}
    (hwhole : partsEnd [c] rest = false) : lines (c :: rest) = ⟨[], [c]⟩ :: lines rest := by
  rw [lines, if_pos (isPlain_eq_false_iff.mp hend)]
  rintro more rfl rfl
  simp [partsEnd] at hwhole

theorem endCount_of_plain {c : Char} (hplain : isPlain c = true) (rest : List Char) :
    endCount (c :: rest) = endCount rest := by
  have hother := isPlain_iff.mp hplain
  rw [endCount, if_neg hother]
  exact fun _ hreturn _ => hother (.inr hreturn)

theorem endCount_of_end {c : Char} (hend : isPlain c = false) {rest : List Char}
    (hwhole : partsEnd [c] rest = false) : endCount (c :: rest) = endCount rest + 1 := by
  rw [endCount, if_pos (isPlain_eq_false_iff.mp hend)]
  rintro more rfl rfl
  simp [partsEnd] at hwhole

/-- A text is empty, or starts with a line end of two characters or of one, or with neither. -/
theorem lineEnd_induction {motive : List Char → Prop} (hnil : motive [])
    (hpair : ∀ rest, motive rest → motive ('\r' :: '\n' :: rest))
    (hend : ∀ c rest, isPlain c = false → partsEnd [c] rest = false → motive rest →
      motive (c :: rest))
    (hplain : ∀ c rest, isPlain c = true → motive rest → motive (c :: rest))
    (chars : List Char) : motive chars := by
  induction chars using lines.induct with
  | case1 => exact hnil
  | case2 rest ih => exact hpair rest ih
  | case3 c rest hsingle hisEnd ih =>
    refine hend c rest (isPlain_eq_false_iff.mpr hisEnd) ?_ ih
    rw [Bool.eq_false_iff]
    intro hparts
    obtain ⟨hreturn, hfeed⟩ : c = '\r' ∧ rest.head? = some '\n' := by
      simpa [partsEnd] using hparts
    obtain ⟨more, hrest⟩ := List.head?_eq_some_iff.mp hfeed
    exact hsingle more hreturn hrest
  | case4 c rest _ hother ih => exact hplain c rest (isPlain_iff.mpr hother) ih

theorem flatMap_chars_lines (chars : List Char) : (lines chars).flatMap Line.chars = chars := by
  induction chars using lineEnd_induction with
  | hnil => rfl
  | hpair rest ih =>
    rw [lines, List.flatMap_cons, ih]
    rfl
  | hend c rest hend hwhole ih =>
    rw [lines_of_end hend hwhole, List.flatMap_cons, ih]
    rfl
  | hplain c rest hplain ih =>
    rw [lines_of_plain hplain]
    cases hlines : lines rest with
    | nil => simp [hlines] at ih; simp [Line.prepend, Line.chars, ← ih]
    | cons line more =>
      rw [hlines] at ih
      simpa [Line.prepend, Line.chars] using ih

/-! ### Rows -/

variable {before row after : List Char}

theorem partsEnd_of_cons {c : Char} (hwhole : partsEnd (c :: before) after = false) :
    partsEnd before after = false := by
  cases before with
  | nil => rfl
  | cons d rest =>
    rw [partsEnd, List.getLast?_cons_cons] at hwhole
    exact hwhole

/-- A line end that is whole before a cut is whole in the text. -/
theorem partsEnd_singleton_append {c : Char} (hhead : partsEnd [c] before = false)
    (hwhole : partsEnd (c :: before) after = false) : partsEnd [c] (before ++ after) = false := by
  cases before with
  | nil => exact hwhole
  | cons d rest => exact hhead

theorem IsRow.tail {c : Char} (hrow : IsRow (c :: before) row after) : IsRow before row after where
  begins := by
    cases before with
    | nil => rfl
    | cons d rest =>
      have hbegins := hrow.begins
      rw [List.getLast?_cons_cons] at hbegins
      exact hbegins
  plain := hrow.plain
  ends := hrow.ends
  whole := partsEnd_of_cons hrow.whole

theorem exists_lines_of_row (hplain : row.all isPlain = true)
    (hends : after.head?.all (fun c => !isPlain c) = true) :
    ∃ ending later, lines (row ++ after) = ⟨row, ending⟩ :: later := by
  induction row with
  | nil =>
    rw [List.nil_append]
    cases after using lineEnd_induction with
    | hnil => exact ⟨[], [], rfl⟩
    | hpair rest => exact ⟨['\r', '\n'], lines rest, by rw [lines]⟩
    | hend c rest hend hwhole => exact ⟨[c], lines rest, lines_of_end hend hwhole⟩
    | hplain c rest hplain => simp [hplain] at hends
  | cons c rest ih =>
    rw [List.all_cons, Bool.and_eq_true] at hplain
    obtain ⟨ending, later, hlines⟩ := ih hplain.2
    refine ⟨ending, later, ?_⟩
    rw [List.cons_append, lines_of_plain hplain.1, hlines]
    rfl

/-- A row is the content of the line that has as many line ends before it. -/
theorem exists_lines_of_isRow (hrow : IsRow before row after) :
    ∃ earlier ending later,
      lines (before ++ (row ++ after)) = earlier ++ ⟨row, ending⟩ :: later ∧
        earlier.length = endCount before ∧ earlier.flatMap Line.chars = before := by
  induction before using lineEnd_induction with
  | hnil =>
    obtain ⟨ending, later, hlines⟩ := exists_lines_of_row hrow.plain hrow.ends
    exact ⟨[], ending, later, hlines, rfl, rfl⟩
  | hpair rest ih =>
    obtain ⟨earlier, ending, later, hlines, hlength, hchars⟩ := ih hrow.tail.tail
    refine ⟨⟨[], ['\r', '\n']⟩ :: earlier, ending, later, ?_, ?_, ?_⟩
    · rw [List.cons_append, List.cons_append, lines, hlines, List.cons_append]
    · rw [List.length_cons, hlength, endCount]
    · rw [List.flatMap_cons, hchars]
      rfl
  | hend c rest hend hwhole ih =>
    obtain ⟨earlier, ending, later, hlines, hlength, hchars⟩ := ih hrow.tail
    refine ⟨⟨[], [c]⟩ :: earlier, ending, later, ?_, ?_, ?_⟩
    · rw [List.cons_append, lines_of_end hend (partsEnd_singleton_append hwhole hrow.whole),
        hlines, List.cons_append]
    · rw [List.length_cons, hlength, endCount_of_end hend hwhole]
    · rw [List.flatMap_cons, hchars]
      rfl
  | hplain c rest hplain ih =>
    obtain ⟨earlier, ending, later, hlines, hlength, hchars⟩ := ih hrow.tail
    cases earlier with
    | nil =>
      -- Then the character would be the last one before the row.
      obtain rfl : rest = [] := hchars.symm
      have hbegins := hrow.begins
      simp [hplain] at hbegins
    | cons line more =>
      refine ⟨{ line with content := c :: line.content } :: more, ending, later, ?_, ?_, ?_⟩
      · rw [List.cons_append, lines_of_plain hplain, hlines]
        rfl
      · rw [endCount_of_plain hplain, ← hlength]
        rfl
      · rw [← hchars]
        rfl

/-! ### Offsets -/

variable {text : String} {position first second : Position}

/-- A line past the last one is an empty one at the end of the text. -/
theorem offsetAt_eq (text : String) (position : Position) :
    offsetAt text position =
      units16 (((lines text.toList).take position.line.toNat).flatMap Line.chars) +
        min position.character.toNat
          (units16 (((lines text.toList)[position.line.toNat]?.map Line.content).getD [])) := by
  rw [offsetAt]
  cases hline : (lines text.toList)[position.line.toNat]? with
  | some line => rfl
  | none =>
    have hall : (lines text.toList).take position.line.toNat = lines text.toList :=
      List.take_of_length_le (List.getElem?_eq_none_iff.mp hline)
    simp [hall, flatMap_chars_lines, units16]

/-- In a row the offset counts on from the row's start, up to the row's end. -/
theorem offsetAt_of_isRow (hsplit : text.toList = before ++ (row ++ after))
    (hrow : IsRow before row after) (hline : position.line.toNat = endCount before) :
    offsetAt text position =
      units16 before + min position.character.toNat (units16 row) := by
  obtain ⟨earlier, ending, later, hlines, hlength, hchars⟩ := exists_lines_of_isRow hrow
  rw [offsetAt_eq, hsplit, hlines, hline, ← hlength]
  simp [hchars]

theorem units16_take_le (lines : List Line) {count more : Nat} (hle : count ≤ more) :
    units16 ((lines.take count).flatMap Line.chars) ≤
      units16 ((lines.take more).flatMap Line.chars) := by
  obtain ⟨rest, hrest⟩ : lines.take count <+: lines.take more :=
    List.take_prefix_take_left hle
  rw [← hrest, List.flatMap_append, units16_append]
  exact Nat.le_add_right _ _

/-- The content of a line ends where the next line starts, or before it. -/
theorem units16_take_add_le (lines : List Line) (count : Nat) :
    units16 ((lines.take count).flatMap Line.chars) +
        units16 ((lines[count]?.map Line.content).getD []) ≤
      units16 ((lines.take (count + 1)).flatMap Line.chars) := by
  rw [List.take_add_one, List.flatMap_append, units16_append]
  cases lines[count]? with
  | none => simp [units16]
  | some line => simp [Line.chars, units16_append]

theorem offsetAt_mono (hle : first ≤ second) : offsetAt text first ≤ offsetAt text second := by
  rw [offsetAt_eq, offsetAt_eq]
  rcases Position.le_iff.mp hle with hline | ⟨hline, hcharacter⟩
  · have hnext : first.line.toNat + 1 ≤ second.line.toNat := UInt32.lt_iff_toNat_lt.mp hline
    have hrow := units16_take_add_le (lines text.toList) first.line.toNat
    have hrows := units16_take_le (lines text.toList) hnext
    omega
  · have hunits : first.character.toNat ≤ second.character.toNat :=
      UInt32.le_iff_toNat_le.mp hcharacter
    rw [hline]
    omega

theorem offsetAt_le (text : String) (position : Position) :
    offsetAt text position ≤ units16 text.toList := by
  have hrow := units16_take_add_le (lines text.toList) position.line.toNat
  obtain ⟨rest, hrest⟩ := List.take_prefix (position.line.toNat + 1) (lines text.toList)
  have hall : units16 text.toList =
      units16 (((lines text.toList).take (position.line.toNat + 1)).flatMap Line.chars) +
        units16 (rest.flatMap Line.chars) := by
    rw [← units16_append, ← List.flatMap_append, hrest, flatMap_chars_lines]
  rw [offsetAt_eq]
  omega

/-! ### Cuts -/

variable {chars rest : List Char}

theorem endCount_append (hwhole : partsEnd before after = false) :
    endCount (before ++ after) = endCount before + endCount after := by
  induction before using lineEnd_induction with
  | hnil => exact (Nat.zero_add _).symm
  | hpair rest ih =>
    rw [List.cons_append, List.cons_append, endCount, endCount,
      ih (partsEnd_of_cons (partsEnd_of_cons hwhole))]
    exact Nat.add_right_comm _ _ _
  | hend c rest hend hhead ih =>
    rw [List.cons_append, endCount_of_end hend (partsEnd_singleton_append hhead hwhole),
      endCount_of_end hend hhead, ih (partsEnd_of_cons hwhole)]
    exact Nat.add_right_comm _ _ _
  | hplain c rest hplain ih =>
    rw [List.cons_append, endCount_of_plain hplain, endCount_of_plain hplain,
      ih (partsEnd_of_cons hwhole)]

theorem endCount_of_all_plain (hplain : row.all isPlain = true) : endCount row = 0 := by
  induction row with
  | nil => rfl
  | cons c rest ih =>
    rw [List.all_cons, Bool.and_eq_true] at hplain
    rw [endCount_of_plain hplain.1, ih hplain.2]

theorem all_lastRow (chars : List Char) : (lastRow chars).all isPlain = true :=
  List.all_eq_true.mpr fun _ hmem => List.mem_rtakeWhile_imp hmem

theorem partsEnd_of_plain (before : List Char) (hplain : row.all isPlain = true)
    (hwhole : row = [] → partsEnd before after = false) :
    partsEnd before (row ++ after) = false := by
  cases row with
  | nil => exact hwhole rfl
  | cons c rest =>
    rw [List.all_cons, Bool.and_eq_true] at hplain
    have hfeed : c ≠ '\n' := fun hfeed => isPlain_iff.mp hplain.1 (.inl hfeed)
    simp [partsEnd, hfeed]

theorem endCount_dropLastRow (chars : List Char) :
    endCount (chars.rdropWhile isPlain) = endCount chars := by
  have hplain := all_lastRow chars
  have hwhole : partsEnd (chars.rdropWhile isPlain) (lastRow chars) = false := by
    rw [← List.append_nil (lastRow chars)]
    refine partsEnd_of_plain _ hplain fun _ => ?_
    simp [partsEnd]
  have hsplit : chars.rdropWhile isPlain ++ lastRow chars = chars :=
    List.rdropWhile_append_rtakeWhile
  have hcount := endCount_append hwhole
  rw [hsplit, endCount_of_all_plain hplain] at hcount
  exact hcount.symm

theorem isRow_of_cut (hwhole : partsEnd chars rest = false) :
    IsRow (chars.rdropWhile isPlain) (lastRow chars ++ rest.takeWhile isPlain)
      (rest.dropWhile isPlain) where
  begins := by
    cases hlast : (chars.rdropWhile isPlain).getLast? with
    | none => rfl
    | some c =>
      have hnonempty : chars.rdropWhile isPlain ≠ [] := by
        intro hnil
        simp [hnil] at hlast
      have hother := List.rdropWhile_last_not isPlain chars hnonempty
      rw [List.getLast?_eq_some_getLast hnonempty] at hlast
      rw [Option.some.inj hlast] at hother
      simpa using hother
  plain := by
    rw [List.all_append, all_lastRow, Bool.true_and]
    exact List.all_takeWhile
  ends := by
    have hhead := List.head?_dropWhile_not isPlain rest
    cases hafter : (rest.dropWhile isPlain).head? with
    | none => rfl
    | some c =>
      rw [hafter] at hhead
      simpa using hhead
  whole := by
    rw [List.append_assoc, List.takeWhile_append_dropWhile]
    refine partsEnd_of_plain _ (all_lastRow chars) fun hnil => ?_
    have hsplit : chars.rdropWhile isPlain ++ lastRow chars = chars :=
      List.rdropWhile_append_rtakeWhile
    rw [hnil, List.append_nil] at hsplit
    rw [hsplit]
    exact hwhole

/-- The offset of the position of a cut counts all units before the cut. -/
theorem offsetAt_of_isAfter (hsplit : text.toList = chars ++ rest)
    (hwhole : partsEnd chars rest = false) (hafter : position.IsAfter chars) :
    offsetAt text position = units16 chars := by
  have hchars : chars.rdropWhile isPlain ++ lastRow chars = chars :=
    List.rdropWhile_append_rtakeWhile
  have hsplit' : text.toList = chars.rdropWhile isPlain ++
      (lastRow chars ++ rest.takeWhile isPlain ++ rest.dropWhile isPlain) := by
    rw [List.append_assoc, List.takeWhile_append_dropWhile, ← List.append_assoc, hchars, hsplit]
  have hline : position.line.toNat = endCount (chars.rdropWhile isPlain) := by
    rw [endCount_dropLastRow, hafter.line]
  have hunits := congrArg units16 hchars
  rw [units16_append] at hunits
  rw [offsetAt_of_isRow hsplit' (isRow_of_cut hwhole) hline, hafter.character, units16_append,
    Nat.min_eq_left (Nat.le_add_right _ _), hunits]

/-- The span between two cuts is that of the range between their positions, whichever is named
first. All offsets are in the text and come in the order of the positions, so that a span never ends
before it starts, and in a row they go up to the row's end. -/
theorem span_of_cuts_and_offsetAt_mono (text : String) :
    (∀ a b c : String, text = a ++ b ++ c → partsEnd a.toList (b ++ c).toList = false →
      partsEnd (a ++ b).toList c.toList = false → ∀ first second : Position,
        first.IsAfter a.toList → second.IsAfter (a ++ b).toList →
          span text ⟨first, second⟩ = ⟨units16 a.toList, units16 (a ++ b).toList⟩ ∧
            span text ⟨second, first⟩ = ⟨units16 a.toList, units16 (a ++ b).toList⟩) ∧
    (∀ first second : Position, first ≤ second → offsetAt text first ≤ offsetAt text second) ∧
    (∀ position, offsetAt text position ≤ units16 text.toList) ∧
    (∀ before row after, text.toList = before ++ (row ++ after) → IsRow before row after →
      ∀ position : Position, position.line.toNat = endCount before →
        offsetAt text position =
          units16 before + min position.character.toNat (units16 row)) ∧
    ∀ range, (span text range).start ≤ (span text range).stop := by
  refine ⟨?_, fun first second => offsetAt_mono, offsetAt_le text, ?_, ?_⟩
  · intro a b c htext hfirst hsecond first second hafter hlater
    have hsplit : text.toList = a.toList ++ (b ++ c).toList := by
      rw [htext, String.append_assoc, String.toList_append]
    have hsplit' : text.toList = (a ++ b).toList ++ c.toList := by
      rw [htext, String.toList_append]
    have hle : units16 a.toList ≤ units16 (a ++ b).toList := by
      rw [String.toList_append, units16_append]
      exact Nat.le_add_right _ _
    have hstart := offsetAt_of_isAfter hsplit hfirst hafter
    have hstop := offsetAt_of_isAfter hsplit' hsecond hlater
    constructor
    · rw [span, hstart, hstop, Nat.min_eq_left hle, Nat.max_eq_right hle]
    · rw [span, hstart, hstop, Nat.min_eq_right hle, Nat.max_eq_left hle]
  · intro before row after hsplit hrow position hline
    exact offsetAt_of_isRow hsplit hrow hline
  · intro range
    exact Nat.le_trans (Nat.min_le_left _ _) (Nat.le_max_left _ _)

/-- Line ends of all kinds, and characters of two units. -/
def mixedEnds : String := "a😀\r\n\r😀b\n\rc"

theorem span_of_mixed_ends :
    span mixedEnds ⟨⟨4, 0⟩, ⟨1, 0⟩⟩ = ⟨5, 11⟩ ∧ offsetAt mixedEnds ⟨2, 99⟩ = 9 := by
  obtain ⟨hspan, -, -, hrow, -⟩ := span_of_cuts_and_offsetAt_mono mixedEnds
  constructor
  · exact (hspan "a😀\r\n" "\r😀b\n\r" "c" rfl (by decide) (by decide) ⟨1, 0⟩ ⟨4, 0⟩
      ⟨by decide, by decide⟩ ⟨by decide, by decide⟩).2
  · exact hrow ['a', '😀', '\r', '\n', '\r'] ['😀', 'b'] ['\n', '\r', 'c'] (by decide)
      ⟨by decide, by decide, by decide, by decide⟩ ⟨2, 99⟩ (by decide)

end Text

end FormatServer
