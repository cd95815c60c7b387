import FormatServer.Text.Edit
import Mathlib.Algebra.Ring.Nat

/-!
# What a client makes of an edit

A client looks for the two positions of an edit in its own copy of the text: it goes over as many
line ends as the position says, and then over as many UTF-16 units as fit in the line. It takes no
other part in where the server thinks that the text ends. So the edit that is meant to replace all
of a text does so only if the position of the text's end, as the client finds it, leaves nothing
behind.

Both numbers of a position have 32 bits. A text with more lines than that, or a longer last line,
has an end that no position names.
-/

namespace FormatServer

namespace Text

/-- The units that encode a character. -/
def utf16 (c : Char) : List Nat :=
  if c.toNat ≤ 0xFFFF then [c.toNat]
  else [0xD800 + (c.toNat - 0x10000) / 0x400, 0xDC00 + (c.toNat - 0x10000) % 0x400]

/-- The characters after the first lines, of which there are so many. -/
def afterLines : Nat → List Char → List Char
  | 0, chars => chars
  | _ + 1, [] => []
  | count + 1, '\r' :: '\n' :: rest => afterLines count rest
  | count + 1, c :: rest =>
    if c = '\n' ∨ c = '\r' then afterLines count rest else afterLines (count + 1) rest

/-- The characters after so many units, or after all of the line that they start with. -/
def afterUnits : Nat → List Char → List Char
  | _, [] => []
  | units, c :: rest =>
    if c = '\n' ∨ c = '\r' ∨ units < (utf16 c).length then c :: rest
    else afterUnits (units - (utf16 c).length) rest

def after (position : Position) (chars : List Char) : List Char :=
  afterUnits position.character.toNat (afterLines position.line.toNat chars)

def upTo (position : Position) (chars : List Char) : List Char :=
  chars.take (chars.length - (after position chars).length)

/-- Whether there are fewer lines, and fewer units in the last one, than a number counts. -/
def IsAddressable (text : String) : Prop :=
  (lines text.toList).length < 2 ^ 32 ∧
    ∀ last ∈ (lines text.toList).getLast?, units16 last.content < 2 ^ 32

instance (text : String) : Decidable (IsAddressable text) :=
  inferInstanceAs (Decidable ((lines text.toList).length < 2 ^ 32 ∧
    ∀ last ∈ (lines text.toList).getLast?, units16 last.content < 2 ^ 32))

/-- Whether a position can name the text's end. -/
def HasEndPosition (text : String) : Prop :=
  (lines text.toList).length ≤ 2 ^ 32 ∧
    ∀ last ∈ (lines text.toList).getLast?, units16 last.content < 2 ^ 32

theorem IsAddressable.hasEndPosition {text : String} (htext : IsAddressable text) :
    HasEndPosition text :=
  ⟨Nat.le_of_lt htext.1, htext.2⟩

end Text

namespace Edit

def apply (text : String) (edit : Edit) : String :=
  let chars := text.toList
  String.ofList (Text.upTo edit.range.start chars ++ edit.newText.toList ++
    Text.after edit.range.stop chars)

/-- Edits are applied from the last to the first, which leaves the positions of the others as they
were. -/
def applyAll (edits : List Edit) (text : String) : String :=
  edits.foldr (fun edit text => edit.apply text) text

end Edit

namespace Text

theorem units16_eq_sum (chars : List Char) :
    units16 chars = (chars.map fun c => (utf16 c).length).sum := by
  induction chars with
  | nil => rfl
  | cons c rest ih =>
    have hunits : (if c.toNat < 0x10000 then 1 else 2) = (utf16 c).length := by
      by_cases hsmall : c.toNat < 0x10000
      · have hle : c.toNat ≤ 0xFFFF := by omega
        rw [if_pos hsmall, utf16, if_pos hle]
        rfl
      · have hlarge : ¬c.toNat ≤ 0xFFFF := by omega
        rw [if_neg hsmall, utf16, if_neg hlarge]
        rfl
    rw [units16, ih, hunits, List.map_cons, List.sum_cons]

theorem after_start (chars : List Char) : after ⟨0, 0⟩ chars = chars := by
  change afterUnits 0 (afterLines 0 chars) = chars
  rw [afterLines]
  cases chars with
  | nil => rfl
  | cons c rest =>
    have hunits : 0 < (utf16 c).length := by
      rw [utf16]
      split
      next => exact Nat.zero_lt_one
      next => exact Nat.zero_lt_two
    rw [afterUnits, if_pos (.inr (.inr hunits))]

theorem afterUnits_units16 {chars : List Char} (hline : ∀ c ∈ chars, ¬(c = '\n' ∨ c = '\r')) :
    afterUnits (units16 chars) chars = [] := by
  rw [units16_eq_sum]
  induction chars with
  | nil => rfl
  | cons c rest ih =>
    obtain ⟨hfirst, hrest⟩ := List.forall_mem_cons.mp hline
    have hgoes : ¬(c = '\n' ∨ c = '\r' ∨
        ((c :: rest).map fun c => (utf16 c).length).sum < (utf16 c).length) := by
      rw [← or_assoc, not_or, List.map_cons, List.sum_cons]
      exact ⟨hfirst, by omega⟩
    rw [afterUnits, if_neg hgoes, List.map_cons, List.sum_cons, Nat.add_sub_cancel_left]
    exact ih hrest

/-- The last line has no end, and going over the ends of all the others leads to it. -/
theorem exists_last_line (chars : List Char) :
    ∃ before last, lines chars = before ++ [⟨last, []⟩] ∧
      afterLines before.length chars = last ∧ ∀ c ∈ last, ¬(c = '\n' ∨ c = '\r') := by
  induction chars using lines.induct with
  | case1 => exact ⟨[], [], rfl, rfl, by simp⟩
  | case2 rest ih =>
    obtain ⟨before, last, hlines, hafter, hline⟩ := ih
    refine ⟨⟨[], ['\r', '\n']⟩ :: before, last, ?_, ?_, hline⟩
    · rw [lines, hlines, List.cons_append]
    · rw [List.length_cons, afterLines, hafter]
  | case3 c rest hpair hend ih =>
    obtain ⟨before, last, hlines, hafter, hline⟩ := ih
    refine ⟨⟨[], [c]⟩ :: before, last, ?_, ?_, hline⟩
    · rw [lines, if_pos hend, hlines, List.cons_append]
      exact hpair
    · rw [List.length_cons, afterLines, if_pos hend, hafter]
      exact hpair
  | case4 c rest hpair hplain ih =>
    obtain ⟨before, last, hlines, hafter, hline⟩ := ih
    cases before with
    | nil =>
      rw [List.length_nil, afterLines] at hafter
      refine ⟨[], c :: last, ?_, ?_, ?_⟩
      · rw [lines, if_neg hplain, hlines]
        · rfl
        · exact hpair
      · rw [List.length_nil, afterLines, hafter]
      · exact List.forall_mem_cons.mpr ⟨hplain, hline⟩
    | cons line more =>
      refine ⟨{ line with content := c :: line.content } :: more, last, ?_, ?_, hline⟩
      · rw [lines, if_neg hplain, hlines]
        · rfl
        · exact hpair
      · rw [List.length_cons] at hafter ⊢
        rw [afterLines, if_neg hplain, hafter]
        exact hpair

theorem length_lines_cons {c : Char} (hplain : ¬(c = '\n' ∨ c = '\r')) (rest : List Char) :
    (lines (c :: rest)).length = (lines rest).length := by
  have hpair : ∀ more, c = '\r' → rest = '\n' :: more → False :=
    fun more hreturn _ => hplain (.inr hreturn)
  obtain ⟨before, last, hlines, -, -⟩ := exists_last_line rest
  rw [lines, if_neg hplain, hlines]
  · cases before <;> rfl
  · exact hpair

theorem length_lines_le_afterLines (count : Nat) (chars : List Char) :
    (lines chars).length ≤ count + (lines (afterLines count chars)).length := by
  induction count, chars using afterLines.induct with
  | case1 chars => exact Nat.le_of_eq (by rw [afterLines, Nat.zero_add])
  | case2 count =>
    rw [afterLines]
    exact Nat.le_add_left _ _
  | case3 count rest ih =>
    rw [afterLines, lines, List.length_cons]
    omega
  | case4 count c rest hpair hend ih =>
    have hlines : lines (c :: rest) = ⟨[], [c]⟩ :: lines rest := by
      rw [lines, if_pos hend]
      exact hpair
    have hafter : afterLines (count + 1) (c :: rest) = afterLines count rest := by
      rw [afterLines, if_pos hend]
      exact hpair
    rw [hlines, hafter, List.length_cons]
    omega
  | case5 count c rest hpair hplain ih =>
    have hafter : afterLines (count + 1) (c :: rest) = afterLines (count + 1) rest := by
      rw [afterLines, if_neg hplain]
      exact hpair
    rw [hafter, length_lines_cons hplain]
    exact ih

theorem length_lines_le_afterUnits (units : Nat) (chars : List Char) :
    (lines chars).length ≤ (lines (afterUnits units chars)).length := by
  induction units, chars using afterUnits.induct with
  | case1 units => exact Nat.le_refl _
  | case2 units c rest hstops => exact Nat.le_of_eq (by rw [afterUnits, if_pos hstops])
  | case3 units c rest hgoes ih =>
    have hplain : ¬(c = '\n' ∨ c = '\r') := by
      rw [← or_assoc, not_or] at hgoes
      exact hgoes.1
    rw [afterUnits, if_neg hgoes, length_lines_cons hplain]
    exact ih

theorem units16_le_afterUnits (units : Nat) (chars : List Char) :
    units16 chars ≤ units + units16 (afterUnits units chars) := by
  induction units, chars using afterUnits.induct with
  | case1 units => exact Nat.zero_le _
  | case2 units c rest hstops =>
    rw [afterUnits, if_pos hstops]
    exact Nat.le_add_left _ _
  | case3 units c rest hgoes ih =>
    have hunits : units16 (c :: rest) = (utf16 c).length + units16 rest := by
      rw [units16_eq_sum, units16_eq_sum, List.map_cons, List.sum_cons]
    rw [not_or, not_or] at hgoes
    rw [afterUnits, if_neg (by rw [not_or, not_or]; exact hgoes), hunits]
    omega

/-- A client finds the end of a text exactly if a position can name it. -/
theorem after_endPosition_eq_nil_iff {text : String} :
    after (endPosition text) text.toList = [] ↔ HasEndPosition text := by
  obtain ⟨before, last, hlines, hafter, hline⟩ := exists_last_line text.toList
  have hsize : UInt32.size = 2 ^ 32 := rfl
  have hlength : (lines text.toList).length = before.length + 1 := by
    rw [hlines, List.length_append, List.length_singleton]
  have hend : (lines text.toList).getLast? = some ⟨last, []⟩ := by
    rw [hlines, List.getLast?_concat]
  have hlineNumber : (endPosition text).line.toNat = before.length % 2 ^ 32 := by
    rw [endPosition, hlength, Nat.add_sub_cancel]
    exact UInt32.toNat_ofNat'
  have hcharacter : (endPosition text).character.toNat = units16 last % 2 ^ 32 := by
    rw [endPosition, hend]
    exact UInt32.toNat_ofNat'
  rw [after, hlineNumber, hcharacter, HasEndPosition, hlength, hend]
  constructor
  · -- A number that was cut leaves over what it was cut by: line ends first, then characters.
    intro hnil
    have hrows := length_lines_le_afterLines (before.length % 2 ^ 32) text.toList
    have hrow := length_lines_le_afterUnits (units16 last % 2 ^ 32)
      (afterLines (before.length % 2 ^ 32) text.toList)
    have hone : (lines []).length = 1 := rfl
    rw [hnil, hone] at hrow
    rw [hlength] at hrows
    have hbefore : before.length < 2 ^ 32 := by omega
    rw [Nat.mod_eq_of_lt hbefore, hafter] at hnil
    have hunits := units16_le_afterUnits (units16 last % 2 ^ 32) last
    have hzero : units16 [] = 0 := rfl
    rw [hnil, hzero] at hunits
    refine ⟨hbefore, ?_⟩
    intro line hfound
    obtain rfl : ⟨last, []⟩ = line := Option.some.inj hfound
    change units16 last < 2 ^ 32
    omega
  · rintro ⟨hrows, hrow⟩
    have hbefore : before.length < 2 ^ 32 := hrows
    have hlast : units16 last < 2 ^ 32 := hrow ⟨last, []⟩ rfl
    rw [Nat.mod_eq_of_lt hbefore, Nat.mod_eq_of_lt hlast, hafter, afterUnits_units16 hline]

end Text

namespace Edit

/-- The edit that replaces a text leaves the new one, unless a part of the old one is left after
it. -/
theorem apply_replacing_iff {old new : String} {edit : Edit}
    (hedit : replacing old new = some edit) :
    edit.apply old = new ↔ Text.HasEndPosition old := by
  have hbefore : Text.upTo ⟨0, 0⟩ old.toList = [] := by
    rw [Text.upTo, Text.after_start, Nat.sub_self, List.take_zero]
  rw [replacing] at hedit
  split at hedit
  next => simp at hedit
  next =>
    obtain rfl := Option.some.inj hedit
    rw [← Text.after_endPosition_eq_nil_iff, apply]
    dsimp only
    rw [hbefore, List.nil_append, ← String.toList_inj, String.toList_ofList,
      List.append_right_eq_self]

end Edit

end FormatServer
