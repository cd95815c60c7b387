import FormatServer.Proofs.Text.Encoding
import FormatServer.Proofs.Text.Offsets
import FormatServer.Text.Index

/-!
# Lines by their offsets

The starts of lines are found among the bytes of a text, and lines are then cut out of the text at
these offsets. All of them are boundaries of characters: a byte that ends a line is never part of a
longer character. So no cut is a fault, and what is cut out are the lines of the text, each with its
end. Without the end it is the content of the line, since a line has no other end inside.
-/

namespace FormatServer

namespace Text

variable {chars before after : List Char} {offset : Nat} {text : String}

/-! ### Bytes -/

/-- The bytes that the characters are encoded in. -/
def bytes (chars : List Char) : List UInt8 :=
  chars.flatMap String.utf8EncodeChar

theorem bytes_append (first second : List Char) :
    bytes (first ++ second) = bytes first ++ bytes second :=
  List.flatMap_append

theorem encode_eq_bytes (text : String) : Utf8.encode text = bytes text.toList :=
  Utf8.encode_eq_flatMap text

theorem length_bytes_toList (text : String) : (bytes text.toList).length = text.utf8ByteSize := by
  rw [← encode_eq_bytes]
  rfl

/-- The bytes of longer characters are apart from the characters of one byte. -/
theorem toNat_of_mem_utf8EncodeChar {c : Char} {byte : UInt8}
    (hbyte : byte ∈ String.utf8EncodeChar c) : byte.toNat = c.toNat ∨ 0x80 ≤ byte.toNat := by
  simp only [String.utf8EncodeChar] at hbyte
  split_ifs at hbyte with hone htwo hthree
  · rw [List.mem_singleton.mp hbyte]
    exact .inl (Utf8.toNat_byte (Nat.lt_of_le_of_lt hone (by decide)))
  all_goals
    refine .inr ?_
    simp only [List.mem_cons, List.not_mem_nil, or_false] at hbyte
  · rcases hbyte with rfl | rfl <;> rw [Utf8.toNat_byte (by omega)] <;> omega
  · rcases hbyte with rfl | rfl | rfl <;> rw [Utf8.toNat_byte (by omega)] <;> omega
  · rcases hbyte with rfl | rfl | rfl | rfl <;> rw [Utf8.toNat_byte (by omega)] <;> omega

/-- A character that ends no line has no byte that does. -/
theorem byte_ne_of_plain {c : Char} (hplain : isPlain c = true) {byte : UInt8}
    (hbyte : byte ∈ String.utf8EncodeChar c) : ¬(byte = 0x0A ∨ byte = 0x0D) := by
  have hcode : ∀ other : Char, c.toNat = other.toNat → c = other := fun other => Char.toNat_inj.mp
  have hother := isPlain_iff.mp hplain
  rintro (rfl | rfl)
  · rcases toNat_of_mem_utf8EncodeChar hbyte with hsame | hhigh
    · exact hother (.inl (hcode '\n' hsame.symm))
    · exact absurd hhigh (by decide)
  · rcases toNat_of_mem_utf8EncodeChar hbyte with hsame | hhigh
    · exact hother (.inr (hcode '\r' hsame.symm))
    · exact absurd hhigh (by decide)

theorem exists_bytes_cons (c : Char) (rest : List Char) :
    ∃ first ∈ String.utf8EncodeChar c, ∃ more, bytes (c :: rest) = first :: more := by
  cases hbytes : String.utf8EncodeChar c with
  | nil =>
    have hlength := String.length_utf8EncodeChar c
    have hpos := c.utf8Size_pos
    simp [hbytes] at hlength
    omega
  | cons first more =>
    refine ⟨first, List.mem_cons_self, more ++ bytes rest, ?_⟩
    rw [bytes, List.flatMap_cons, hbytes]
    rfl

theorem startsAfter_append {found : List UInt8}
    (hfound : ∀ byte ∈ found, ¬(byte = 0x0A ∨ byte = 0x0D)) (offset : Nat) (rest : List UInt8) :
    startsAfter offset (found ++ rest) = startsAfter (offset + found.length) rest := by
  induction found generalizing offset with
  | nil => rfl
  | cons byte more ih =>
    obtain ⟨hbyte, hmore⟩ := List.forall_mem_cons.mp hfound
    rw [List.cons_append, startsAfter, if_neg hbyte, ih hmore, List.length_cons, Nat.add_right_comm,
      Nat.add_assoc]
    exact fun _ hreturn _ => hbyte (.inr hreturn)

theorem startsAfter_of_pair (offset : Nat) (rest : List Char) :
    startsAfter offset (bytes ('\r' :: '\n' :: rest)) =
      (offset + 2) :: startsAfter (offset + 2) (bytes rest) := by
  change startsAfter offset (0x0D :: 0x0A :: bytes rest) = _
  rw [startsAfter]

theorem startsAfter_of_end {c : Char} (hend : isPlain c = false) {rest : List Char}
    (hwhole : partsEnd [c] rest = false) (offset : Nat) :
    startsAfter offset (bytes (c :: rest)) =
      (offset + 1) :: startsAfter (offset + 1) (bytes rest) := by
  rcases isPlain_eq_false_iff.mp hend with rfl | rfl
  · change startsAfter offset (0x0A :: bytes rest) = _
    rw [startsAfter, if_pos (.inl rfl)]
    exact fun _ hreturn _ => absurd hreturn (by decide)
  · change startsAfter offset (0x0D :: bytes rest) = _
    rw [startsAfter, if_pos (.inr rfl)]
    intro later _ hfeed
    cases rest with
    | nil => cases hfeed
    | cons d more =>
      obtain ⟨first, hfirst, others, hbytes⟩ := exists_bytes_cons d more
      obtain rfl : first = 0x0A := (List.cons.inj (hbytes.symm.trans hfeed)).1
      by_cases hplain : isPlain d = true
      · exact byte_ne_of_plain hplain hfirst (.inl rfl)
      · rcases isPlain_eq_false_iff.mp (Bool.not_eq_true _ ▸ hplain) with rfl | rfl
        · simp [partsEnd] at hwhole
        · exact absurd hfirst (by decide)

theorem startsAfter_of_plain {c : Char} (hplain : isPlain c = true) (offset : Nat)
    (rest : List Char) :
    startsAfter offset (bytes (c :: rest)) =
      startsAfter (offset + (bytes [c]).length) (bytes rest) := by
  rw [← List.singleton_append, bytes_append]
  apply startsAfter_append
  intro byte hbyte
  rw [bytes, List.flatMap_singleton] at hbyte
  exact byte_ne_of_plain hplain hbyte

/-! ### Starts -/

/-- The offsets at which the lines start if the first one starts at this offset. -/
def startsFrom (offset : Nat) : List Line → List Nat
  | [] => []
  | line :: rest => offset :: startsFrom (offset + (bytes line.chars).length) rest

theorem cons_startsAfter (offset : Nat) (chars : List Char) :
    offset :: startsAfter offset (bytes chars) = startsFrom offset (lines chars) := by
  induction chars using lineEnd_induction generalizing offset with
  | hnil => rfl
  | hpair rest ih =>
    rw [startsAfter_of_pair, lines, startsFrom, ih]
    rfl
  | hend c rest hend hwhole ih =>
    have hsize : (bytes [c]).length = 1 := by
      rcases isPlain_eq_false_iff.mp hend with rfl | rfl <;> rfl
    rw [startsAfter_of_end hend hwhole, lines_of_end hend hwhole, startsFrom, ih, Line.chars,
      List.nil_append, hsize]
  | hplain c rest hplain ih =>
    rw [startsAfter_of_plain hplain, lines_of_plain hplain]
    have hlater := ih (offset + (bytes [c]).length)
    cases hlines : lines rest with
    | nil => simp [hlines, startsFrom] at hlater
    | cons line more =>
      have hbytes : (bytes [c]).length + (bytes line.chars).length =
          (bytes { line with content := c :: line.content }.chars).length := by
        rw [← List.length_append, ← bytes_append]
        rfl
      rw [hlines, startsFrom, List.cons.injEq] at hlater
      rw [Line.prepend, startsFrom, hlater.2, Nat.add_assoc, hbytes]

theorem lineStarts_eq (text : String) : lineStarts text = startsFrom 0 (lines text.toList) := by
  rw [lineStarts, encode_eq_bytes, cons_startsAfter]

/-- The offset of a line counts the bytes of the lines before it. -/
theorem getElem?_startsFrom (offset : Nat) (all : List Line) (number : Nat) :
    (startsFrom offset all)[number]? = all[number]?.map fun _ =>
      offset + (bytes ((all.take number).flatMap Line.chars)).length := by
  induction all generalizing offset number with
  | nil => rfl
  | cons line rest ih =>
    cases number with
    | zero => rfl
    | succ number =>
      rw [startsFrom, List.getElem?_cons_succ, ih, List.getElem?_cons_succ, List.take_succ_cons,
        List.flatMap_cons, bytes_append, List.length_append, Nat.add_assoc]

theorem length_startsFrom (offset : Nat) (all : List Line) :
    (startsFrom offset all).length = all.length := by
  induction all generalizing offset with
  | nil => rfl
  | cons line rest ih => rw [startsFrom, List.length_cons, ih, List.length_cons]

/-- The characters of a text before the line of this number. -/
def earlier (text : String) (number : Nat) : List Char :=
  ((lines text.toList).take number).flatMap Line.chars

theorem getElem?_lineStarts (text : String) (number : Nat) :
    (lineStarts text)[number]? =
      (lines text.toList)[number]?.map fun _ => (bytes (earlier text number)).length := by
  rw [lineStarts_eq, getElem?_startsFrom]
  simp only [earlier, Nat.zero_add]

/-- Past the last line the text ends. -/
theorem getElem?_lineStarts_getD (text : String) (number : Nat) :
    (lineStarts text)[number]?.getD text.utf8ByteSize = (bytes (earlier text number)).length := by
  rw [getElem?_lineStarts]
  cases hline : (lines text.toList)[number]? with
  | some line => rfl
  | none =>
    have hall : (lines text.toList).take number = lines text.toList :=
      List.take_of_length_le (List.getElem?_eq_none_iff.mp hline)
    rw [earlier, hall, flatMap_chars_lines, length_bytes_toList]
    rfl

theorem lt_of_mem_startsAfter {found : List UInt8} {start : Nat}
    (hstart : start ∈ startsAfter offset found) : offset < start := by
  induction offset, found using startsAfter.induct with
  | case1 offset => cases hstart
  | case2 offset rest ih =>
    rw [startsAfter, List.mem_cons] at hstart
    rcases hstart with rfl | hlater
    · omega
    · exact Nat.lt_of_le_of_lt (Nat.le_add_right _ _) (ih hlater)
  | case3 offset byte rest hsingle hend ih =>
    rw [startsAfter, if_pos hend, List.mem_cons] at hstart
    · rcases hstart with rfl | hlater
      · omega
      · exact Nat.lt_of_succ_lt (ih hlater)
    · exact hsingle
  | case4 offset byte rest hsingle hother ih =>
    rw [startsAfter, if_neg hother] at hstart
    · exact Nat.lt_of_succ_lt (ih hstart)
    · exact hsingle

theorem pairwise_startsAfter (offset : Nat) (found : List UInt8) :
    (startsAfter offset found).Pairwise (· < ·) := by
  induction offset, found using startsAfter.induct with
  | case1 offset => exact List.Pairwise.nil
  | case2 offset rest ih =>
    rw [startsAfter]
    exact List.pairwise_cons.mpr ⟨fun _ => lt_of_mem_startsAfter, ih⟩
  | case3 offset byte rest hsingle hend ih =>
    rw [startsAfter, if_pos hend]
    · exact List.pairwise_cons.mpr ⟨fun _ => lt_of_mem_startsAfter, ih⟩
    · exact hsingle
  | case4 offset byte rest hsingle hother ih =>
    rw [startsAfter, if_neg hother]
    · exact ih
    · exact hsingle

theorem pairwise_lineStarts (text : String) : (lineStarts text).Pairwise (· < ·) :=
  List.pairwise_cons.mpr ⟨fun _ => lt_of_mem_startsAfter, pairwise_startsAfter 0 _⟩

/-! ### Cuts at boundaries -/

variable {part : List Char}

theorem isBoundary_of_split (hsplit : text.toList = before ++ after) :
    isBoundary text (bytes before).length = true := by
  have htext : text = String.ofList before ++ String.ofList after := by
    rw [← String.ofList_append, ← hsplit, String.ofList_toList]
  have hoffset : (bytes before).length = (String.ofList before).utf8ByteSize := by
    rw [← length_bytes_toList, String.toList_ofList]
  rw [isBoundary, String.Pos.Raw.isValid_eq_true_iff, String.Pos.Raw.isValid_iff_exists_append]
  exact ⟨String.ofList before, String.ofList after, htext, congrArg String.Pos.Raw.mk hoffset⟩

theorem length_bytes_le_of_split (hsplit : text.toList = before ++ after) :
    (bytes before).length ≤ text.utf8ByteSize := by
  rw [← length_bytes_toList, hsplit, bytes_append, List.length_append]
  exact Nat.le_add_right _ _

theorem text?_bytes (chars : List Char) :
    Utf8.text? (bytes chars) = some (String.ofList chars) := by
  rw [Utf8.text?_eq_some_iff, encode_eq_bytes, String.toList_ofList]

theorem slice_of_split (hsplit : text.toList = before ++ (part ++ after)) :
    slice text (bytes before).length (bytes (before ++ part)).length = .ok part := by
  have hstart : isBoundary text (bytes before).length = true := isBoundary_of_split hsplit
  have hstop : isBoundary text (bytes (before ++ part)).length = true :=
    isBoundary_of_split (by rw [hsplit, List.append_assoc])
  have hle : (bytes before).length ≤ (bytes (before ++ part)).length := by
    rw [bytes_append, List.length_append]
    exact Nat.le_add_right _ _
  have hbetween : ((Utf8.encode text).drop (bytes before).length).take
      ((bytes (before ++ part)).length - (bytes before).length) = bytes part := by
    rw [encode_eq_bytes, hsplit, bytes_append, bytes_append, bytes_append, List.drop_left,
      List.length_append, Nat.add_sub_cancel_left, List.take_left]
  simp only [slice, hle, hstart, hstop, decide_true, Bool.and_self, if_true, hbetween, text?_bytes,
    String.toList_ofList]

/-- The pieces of a text from each offset to the next, and from the last one to its end. -/
def cutAt (text : String) : List Nat → Except IndexFault (List (List Char))
  | [] => .ok []
  | start :: rest => do
    let piece ← slice text start (rest.head?.getD text.utf8ByteSize)
    let pieces ← cutAt text rest
    return piece :: pieces

theorem cutAt_startsFrom {all : List Line}
    (hsplit : text.toList = before ++ all.flatMap Line.chars) :
    cutAt text (startsFrom (bytes before).length all) = .ok (all.map Line.chars) := by
  induction all generalizing before with
  | nil => rfl
  | cons line rest ih =>
    have hsplit' : text.toList = (before ++ line.chars) ++ rest.flatMap Line.chars := by
      rw [hsplit, List.flatMap_cons, List.append_assoc]
    have hstop : (startsFrom (bytes (before ++ line.chars)).length rest).head?.getD
        text.utf8ByteSize = (bytes (before ++ line.chars)).length := by
      cases rest with
      | cons next more => rfl
      | nil =>
        rw [← length_bytes_toList, hsplit', List.flatMap_nil, List.append_nil]
        rfl
    have hlater := ih hsplit'
    have hpiece : slice text (bytes before).length (bytes (before ++ line.chars)).length =
        .ok line.chars := slice_of_split hsplit
    rw [startsFrom, ← List.length_append, ← bytes_append, cutAt, hstop, hpiece, hlater]
    rfl

/-! ### Ends of lines -/

/-- A line feed, a carriage return and a line feed, or a carriage return that no line feed follows;
and no other end inside. -/
structure Line.IsEnded (line : Line) (after : List Char) : Prop where
  content : line.content.all isPlain = true
  ending : line.ending = ['\n'] ∨ line.ending = ['\r', '\n'] ∨
    line.ending = ['\r'] ∧ after.head? ≠ some '\n'

/-- The characters are these lines, each with its end, and what is left after the last end. -/
inductive IsCutInto (last : List Char) : List Line → List Char → Prop
  | last (hlast : last.all isPlain = true) : IsCutInto last [] last
  | line {line more after} (hline : Line.IsEnded line after) (hmore : IsCutInto last more after) :
      IsCutInto last (line :: more) (line.chars ++ after)

variable {ended : List Line} {last : List Char}

/-- A character that ends no line goes to the line that follows, which may be the last one. -/
theorem exists_isCutInto_prepend {c : Char} (hplain : isPlain c = true)
    (hcut : IsCutInto last ended chars) :
    ∃ ended' last', Line.prepend c (ended ++ [⟨last, []⟩]) = ended' ++ [⟨last', []⟩] ∧
      IsCutInto last' ended' (c :: chars) := by
  cases hcut with
  | last hlast =>
    refine ⟨[], c :: chars, rfl, .last ?_⟩
    rw [List.all_cons, hplain, hlast, Bool.and_self]
  | @line line more after hline hmore =>
    refine ⟨{ line with content := c :: line.content } :: more, last, rfl, .line ⟨?_, ?_⟩ hmore⟩
    · rw [List.all_cons, hplain, hline.content, Bool.and_self]
    · exact hline.ending

theorem exists_isCutInto (chars : List Char) :
    ∃ ended last, lines chars = ended ++ [⟨last, []⟩] ∧ IsCutInto last ended chars := by
  induction chars using lineEnd_induction with
  | hnil => exact ⟨[], [], rfl, .last rfl⟩
  | hpair rest ih =>
    obtain ⟨ended, last, hlines, hcut⟩ := ih
    refine ⟨⟨[], ['\r', '\n']⟩ :: ended, last, ?_, .line ⟨rfl, .inr (.inl rfl)⟩ hcut⟩
    rw [lines, hlines, List.cons_append]
  | hend c rest hend hwhole ih =>
    obtain ⟨ended, last, hlines, hcut⟩ := ih
    refine ⟨⟨[], [c]⟩ :: ended, last, ?_, .line ⟨rfl, ?_⟩ hcut⟩
    · rw [lines_of_end hend hwhole, hlines, List.cons_append]
    · rcases isPlain_eq_false_iff.mp hend with rfl | rfl
      · exact .inl rfl
      · exact .inr (.inr ⟨rfl, by simpa [partsEnd] using hwhole⟩)
  | hplain c rest hplain ih =>
    obtain ⟨ended, last, hlines, hcut⟩ := ih
    rw [lines_of_plain hplain, hlines]
    exact exists_isCutInto_prepend hplain hcut

theorem IsCutInto.flatten (hcut : IsCutInto last ended chars) :
    ended.flatMap Line.chars ++ last = chars := by
  induction hcut with
  | last => rfl
  | line _ _ ih => rw [List.flatMap_cons, List.append_assoc, ih]

theorem IsCutInto.last_plain (hcut : IsCutInto last ended chars) : last.all isPlain = true := by
  induction hcut with
  | last hlast => exact hlast
  | line _ _ ih => exact ih

theorem not_end_of_reverse (hplain : chars.all isPlain = true) {c : Char} {rest : List Char}
    (hreverse : chars.reverse = c :: rest) : ¬(c = '\n' ∨ c = '\r') := by
  have hmem : c ∈ chars := List.mem_reverse.mp (hreverse ▸ List.mem_cons_self)
  exact isPlain_iff.mp (List.all_eq_true.mp hplain c hmem)

theorem withoutEnding_of_plain (hplain : chars.all isPlain = true) :
    withoutEnding chars = chars := by
  unfold withoutEnding
  split
  next hreverse => exact absurd (.inl rfl) (not_end_of_reverse hplain hreverse)
  next hreverse => exact absurd (.inl rfl) (not_end_of_reverse hplain hreverse)
  next hreverse => exact absurd (.inr rfl) (not_end_of_reverse hplain hreverse)
  next => rfl

/-- What is taken away from a line is its end and no more: before a line feed that ends a line by
itself there is no carriage return. -/
theorem Line.IsEnded.withoutEnding_chars {line : Line} (hline : line.IsEnded after) :
    withoutEnding line.chars = line.content := by
  have hreverse : line.chars.reverse = line.ending.reverse ++ line.content.reverse :=
    List.reverse_append
  rw [withoutEnding, hreverse]
  rcases hline.ending with hending | hending | ⟨hending, -⟩ <;> rw [hending]
  · cases hcontent : line.content.reverse with
    | nil => exact (List.reverse_eq_nil_iff.mp hcontent).symm
    | cons c rest =>
      have hother := not_end_of_reverse hline.content hcontent
      have hfeed : ['\n'].reverse ++ c :: rest = '\n' :: c :: rest := rfl
      rw [hfeed]
      split
      next hpair => exact absurd (.inr (List.cons.inj (List.cons.inj hpair).2).1) hother
      next hsingle => rw [← (List.cons.inj hsingle).2, ← hcontent, List.reverse_reverse]
      next hreturn => cases hreturn
      next hnone _ => exact absurd rfl (hnone (c :: rest))
  · exact List.reverse_reverse _
  · exact List.reverse_reverse _

theorem IsCutInto.withoutEnding_chars (hcut : IsCutInto last ended chars) :
    ∀ line ∈ ended, withoutEnding line.chars = line.content := by
  induction hcut with
  | last => exact fun _ hmem => nomatch hmem
  | line hline _ ih => exact List.forall_mem_cons.mpr ⟨hline.withoutEnding_chars, ih⟩

theorem withoutEnding_chars_of_mem {line : Line} (hmem : line ∈ lines chars) :
    withoutEnding line.chars = line.content := by
  obtain ⟨ended, last, hlines, hcut⟩ := exists_isCutInto chars
  rw [hlines, List.mem_append, List.mem_singleton] at hmem
  rcases hmem with hended | rfl
  · exact hcut.withoutEnding_chars line hended
  · rw [Line.chars, List.append_nil]
    exact withoutEnding_of_plain hcut.last_plain

/-! ### Lines and positions through the starts -/

variable {line : Line} {number : Nat}

theorem lineStart_eq (hline : (lines text.toList)[number]? = some line) :
    lineStart text number = .ok (bytes (earlier text number)).length := by
  rw [lineStart, getElem?_lineStarts, hline]
  rfl

/-- A line follows the lines before it. -/
theorem exists_later_of_line (hline : (lines text.toList)[number]? = some line) :
    ∃ later, text.toList = earlier text number ++ (line.chars ++ later) := by
  obtain ⟨hlt, hget⟩ := List.getElem?_eq_some_iff.mp hline
  have hdrop : (lines text.toList).drop number =
      line :: (lines text.toList).drop (number + 1) := by
    rw [List.drop_eq_getElem_cons hlt, hget]
  refine ⟨((lines text.toList).drop (number + 1)).flatMap Line.chars, ?_⟩
  rw [earlier, ← List.flatMap_cons, ← hdrop, ← List.flatMap_append, List.take_append_drop,
    flatMap_chars_lines]

theorem earlier_succ (hline : (lines text.toList)[number]? = some line) :
    earlier text (number + 1) = earlier text number ++ line.chars := by
  rw [earlier, List.take_add_one, hline, List.flatMap_append, Option.toList_some,
    List.flatMap_singleton, earlier]

theorem lineText_eq (text : String) (number : Nat) :
    lineText text number = .ok ((lines text.toList)[number]?.map Line.content) := by
  rw [lineText, getElem?_lineStarts_getD, getElem?_lineStarts]
  cases hline : (lines text.toList)[number]? with
  | none => rfl
  | some line =>
    have hmem : line ∈ lines text.toList := List.mem_of_getElem? hline
    obtain ⟨later, hsplit⟩ := exists_later_of_line hline
    have hslice := slice_of_split hsplit
    simp only [Option.map_some, earlier_succ hline, hslice, Except.map,
      withoutEnding_chars_of_mem hmem]

/-- No cut for a position is a fault, and the offset is that of the position among the lines. -/
theorem indexedOffset_eq (text : String) (position : Position) :
    indexedOffset text position = .ok (offsetAt text position) := by
  rw [indexedOffset, lineText_eq, offsetAt]
  cases hline : (lines text.toList)[position.line.toNat]? with
  | none => rfl
  | some line =>
    obtain ⟨later, hsplit⟩ := exists_later_of_line hline
    have hsplit' : text.toList =
        [] ++ (earlier text position.line.toNat ++ (line.chars ++ later)) := hsplit
    have hbefore : slice text 0 (bytes (earlier text position.line.toNat)).length =
        .ok (earlier text position.line.toNat) := slice_of_split hsplit'
    simp only [bind, Except.bind, Option.map_some, lineStart_eq hline, hbefore]
    rfl

theorem indexedEnd_eq (text : String) : indexedEnd text = .ok (endPosition text) := by
  have hlength : (lineStarts text).length = (lines text.toList).length := by
    rw [lineStarts_eq, length_startsFrom]
  rw [indexedEnd, lineText_eq, hlength, endPosition, List.getLast?_eq_getElem?]
  cases (lines text.toList)[(lines text.toList).length - 1]? <;> rfl

/-- The starts of lines go up from 0, and each of them is a boundary in the text. Nothing that is
cut at them, for any position, is a fault. The pieces between them are the whole text: each one but
the last is a line's content and one end, the last has no end, and a line is read as its content. -/
theorem lineStarts_cut_into_lines (text : String) :
    (lineStarts text).head? = some 0 ∧ (lineStarts text).Pairwise (· < ·) ∧
    (∀ start ∈ lineStarts text, start ≤ text.utf8ByteSize ∧ isBoundary text start = true) ∧
    (∀ position, indexedOffset text position = .ok (offsetAt text position)) ∧
    indexedEnd text = .ok (endPosition text) ∧
    ∃ ended last, IsCutInto last ended text.toList ∧
      ended.flatMap Line.chars ++ last = text.toList ∧
      cutAt text (lineStarts text) = .ok (ended.map Line.chars ++ [last]) ∧
      ∀ number, lineText text number = .ok (ended.map Line.content ++ [last])[number]? := by
  obtain ⟨ended, last, hlines, hcut⟩ := exists_isCutInto text.toList
  refine ⟨rfl, pairwise_lineStarts text, ?_, indexedOffset_eq text, indexedEnd_eq text,
    ended, last, hcut, hcut.flatten, ?_, ?_⟩
  · intro start hstart
    obtain ⟨number, hnumber⟩ := List.mem_iff_getElem?.mp hstart
    rw [getElem?_lineStarts, Option.map_eq_some_iff] at hnumber
    obtain ⟨line, hline, rfl⟩ := hnumber
    obtain ⟨later, hsplit⟩ := exists_later_of_line hline
    exact ⟨length_bytes_le_of_split hsplit, isBoundary_of_split hsplit⟩
  · have hsplit : text.toList = [] ++ (lines text.toList).flatMap Line.chars :=
      (flatMap_chars_lines text.toList).symm
    have hpieces : cutAt text (startsFrom 0 (lines text.toList)) =
        .ok ((lines text.toList).map Line.chars) := cutAt_startsFrom hsplit
    rw [lineStarts_eq, hpieces, hlines, List.map_append, List.map_singleton, Line.chars,
      List.append_nil]
  · intro number
    rw [lineText_eq, hlines, ← List.getElem?_map, List.map_append, List.map_singleton]

example : lineStarts "é\r\n\r😀b\n" = [0, 4, 5, 11] := by decide

end Text

end FormatServer
