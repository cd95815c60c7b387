import FormatServer.Text.Utf8
import Mathlib.Data.List.Basic
import Mathlib.Tactic.IntervalCases
import Mathlib.Tactic.SplitIfs

/-!
# Text through its bytes and back

Whoever hands a text over hands over its bytes, and reading these gives all of the text and nothing
broken. The reader goes by the first byte of a character: how many bytes follow it, and within which
bounds the first of them lies. The bounds keep out what has a shorter encoding or none, and the
encoding of a character stays within them, which is the matter of the four lemmas for its lengths.

Nor is anything lost that is read: what is within the bounds is the encoding of its code point, and
all else stays as the bytes it was. So bytes are read as a text exactly if they are its encoding.
-/

namespace FormatServer

namespace Glyph

/-- The bytes that are read as the glyph. -/
def bytes : Glyph → List UInt8
  | char value => String.utf8EncodeChar value
  | broken bytes => bytes

theorem mapM_char?_eq_some_iff {glyphs : List Glyph} {chars : List Char} :
    glyphs.mapM char? = some chars ↔ glyphs = chars.map char := by
  induction glyphs generalizing chars with
  | nil => cases chars <;> simp
  | cons glyph rest ih =>
    cases glyph with
    | broken bytes => cases chars <;> simp [char?]
    | char c =>
      cases chars with
      | nil => simp [char?, Option.bind_eq_some_iff]
      | cons first more => simp [char?, Option.bind_eq_some_iff, ih, and_comm]

end Glyph

namespace Utf8

/-- Whether the bytes are ones that may follow a first byte with these bounds. -/
def Follows (low high : UInt8) : List UInt8 → Prop
  | [] => True
  | byte :: rest => (low ≤ byte ∧ byte ≤ high) ∧ ∀ other ∈ rest, 0x80 ≤ other ∧ other ≤ 0xBF

theorem follows_iff_forall {found : List UInt8} :
    Follows 0x80 0xBF found ↔ ∀ byte ∈ found, 0x80 ≤ byte ∧ byte ≤ 0xBF := by
  cases found with
  | nil => simp [Follows]
  | cons byte more => rw [Follows, List.forall_mem_cons]

theorem take_append {found : List UInt8} {low high : UInt8} (hfound : Follows low high found)
    (rest : List UInt8) : Tail.take found.length low high (found ++ rest) = found := by
  induction found generalizing low high with
  | nil => rfl
  | cons byte more ih =>
    obtain ⟨hbyte, hmore⟩ := hfound
    rw [List.length_cons, List.cons_append, Tail.take, if_pos hbyte,
      ih (follows_iff_forall.mpr hmore)]

theorem follows_take (count : Nat) (low high : UInt8) (bytes : List UInt8) :
    Follows low high (Tail.take count low high bytes) := by
  induction count generalizing low high bytes with
  | zero => cases bytes <;> trivial
  | succ count ih =>
    cases bytes with
    | nil => trivial
    | cons byte rest =>
      rw [Tail.take]
      split
      next hbyte => exact ⟨hbyte, follows_iff_forall.mp (ih 0x80 0xBF rest)⟩
      next => trivial

theorem take_append_drop (count : Nat) (low high : UInt8) (bytes : List UInt8) :
    Tail.take count low high bytes ++ bytes.drop (Tail.take count low high bytes).length =
      bytes := by
  induction count generalizing low high bytes with
  | zero => cases bytes <;> rfl
  | succ count ih =>
    cases bytes with
    | nil => rfl
    | cons byte rest =>
      rw [Tail.take]
      split
      next => rw [List.cons_append, List.length_cons, List.drop_succ_cons, ih]
      next => rfl

/-- A first byte and the bytes that it asks for are read as one character. -/
theorem decode_of_follows {lead : UInt8} {tail : Tail} {found : List UInt8}
    (hlead : 0x80 ≤ lead.toNat) (htail : Tail.ofLead? lead = some tail)
    (hlength : found.length = tail.count) (hfound : Follows tail.low tail.high found)
    (rest : List UInt8) :
    decode (lead :: (found ++ rest)) =
      .char (Char.ofNat (codePoint lead found)) :: decode rest := by
  have hlong : ¬lead < 0x80 := by
    rw [UInt8.lt_iff_toNat_lt]
    simp
    omega
  have htake : Tail.take tail.count tail.low tail.high (found ++ rest) = found := by
    rw [← hlength]
    exact take_append hfound rest
  rw [decode, if_neg hlong, htail]
  dsimp only
  rw [htake, if_pos hlength, List.drop_left]

/-! ### First bytes, by the bits that they carry -/

section Leads

variable {bits : Nat}

theorem ofLead?_two (hlow : 2 ≤ bits) (hhigh : bits < 32) :
    Tail.ofLead? (UInt8.ofNat (bits + 0xC0)) = some ⟨1, 0x80, 0xBF⟩ := by
  interval_cases bits <;> rfl

/-- Of three bytes the second is kept from too short an encoding, and from half of a pair. -/
theorem ofLead?_three (hbits : bits < 16) :
    Tail.ofLead? (UInt8.ofNat (bits + 0xE0)) =
      some ⟨2, if bits = 0 then 0xA0 else 0x80, if bits = 13 then 0x9F else 0xBF⟩ := by
  interval_cases bits <;> rfl

/-- Of four bytes the second is kept from too short an encoding, and from too large a number. -/
theorem ofLead?_four (hbits : bits < 5) :
    Tail.ofLead? (UInt8.ofNat (bits + 0xF0)) =
      some ⟨3, if bits = 0 then 0x90 else 0x80, if bits = 4 then 0x8F else 0xBF⟩ := by
  interval_cases bits <;> rfl

end Leads

/-- The first bytes of more than one, with the bounds that go with them. -/
theorem ofLead?_cases {lead : UInt8} {tail : Tail} (htail : Tail.ofLead? lead = some tail) :
    (0xC2 ≤ lead.toNat ∧ lead.toNat ≤ 0xDF ∧ tail = ⟨1, 0x80, 0xBF⟩) ∨
      (0xE0 ≤ lead.toNat ∧ lead.toNat ≤ 0xEF ∧
        tail = ⟨2, if lead.toNat = 0xE0 then 0xA0 else 0x80,
          if lead.toNat = 0xED then 0x9F else 0xBF⟩) ∨
      (0xF0 ≤ lead.toNat ∧ lead.toNat ≤ 0xF4 ∧
        tail = ⟨3, if lead.toNat = 0xF0 then 0x90 else 0x80,
          if lead.toNat = 0xF4 then 0x8F else 0xBF⟩) := by
  simp only [Tail.ofLead?, UInt8.le_iff_toNat_le, ← UInt8.toNat_inj, UInt8.reduceToNat] at htail
  split_ifs at htail <;> cases htail <;> simp <;> omega

/-! ### Characters by the length of their encoding -/

section Lengths

variable {point : Nat}

theorem toNat_byte (hpoint : point < 256) : (UInt8.ofNat point).toNat = point := by
  rw [UInt8.toNat_ofNat']
  exact Nat.mod_eq_of_lt hpoint

/-- A byte after the first one, with six bits of the code point. -/
def laterByte (point : Nat) : UInt8 :=
  UInt8.ofNat (point % 64 + 0x80)

theorem toNat_laterByte (point : Nat) : (laterByte point).toNat = point % 64 + 0x80 :=
  toNat_byte (by omega)

theorem laterByte_between {low high : UInt8} (hlow : low.toNat ≤ point % 64 + 0x80)
    (hhigh : point % 64 + 0x80 ≤ high.toNat) : low ≤ laterByte point ∧ laterByte point ≤ high := by
  rw [UInt8.le_iff_toNat_le, UInt8.le_iff_toNat_le, toNat_laterByte]
  exact ⟨hlow, hhigh⟩

theorem laterByte_follows (point : Nat) : 0x80 ≤ laterByte point ∧ laterByte point ≤ 0xBF := by
  have hsix : point % 64 < 64 := Nat.mod_lt point (by omega)
  exact laterByte_between (Nat.le_add_left 0x80 _) (Nat.le_of_lt_succ (Nat.add_lt_add_right hsix _))

theorem val_ofNat (hvalid : point.isValidChar) : (Char.ofNat point).val.toNat = point := by
  rw [Char.ofNat, dif_pos hvalid]
  rfl

theorem utf8EncodeChar_one (hpoint : point < 0x80) :
    String.utf8EncodeChar (Char.ofNat point) = [UInt8.ofNat point] := by
  have hval : (Char.ofNat point).val.toNat = point := val_ofNat (.inl (by omega))
  simp only [String.utf8EncodeChar, hval]
  rw [if_pos (by omega)]

theorem utf8EncodeChar_two (hlow : 0x80 ≤ point) (hhigh : point < 0x800) :
    String.utf8EncodeChar (Char.ofNat point) =
      [UInt8.ofNat (point / 64 + 0xC0), laterByte point] := by
  have hval : (Char.ofNat point).val.toNat = point := val_ofNat (.inl (by omega))
  have hbits : point / 64 % 32 = point / 64 := Nat.mod_eq_of_lt (by omega)
  simp only [String.utf8EncodeChar, hval]
  rw [if_neg (by omega), if_pos (by omega), hbits]
  rfl

theorem utf8EncodeChar_three (hlow : 0x800 ≤ point) (hhigh : point < 0x10000)
    (hpair : point < 0xD800 ∨ 0xE000 ≤ point) :
    String.utf8EncodeChar (Char.ofNat point) =
      [UInt8.ofNat (point / 4096 + 0xE0), laterByte (point / 64), laterByte point] := by
  have hval : (Char.ofNat point).val.toNat = point :=
    val_ofNat (hpair.imp id fun h => ⟨by omega, by omega⟩)
  have hbits : point / 4096 % 16 = point / 4096 := Nat.mod_eq_of_lt (by omega)
  simp only [String.utf8EncodeChar, hval]
  rw [if_neg (by omega), if_neg (by omega), if_pos (by omega), hbits]
  rfl

theorem utf8EncodeChar_four (hlow : 0x10000 ≤ point) (hhigh : point < 0x110000) :
    String.utf8EncodeChar (Char.ofNat point) =
      [UInt8.ofNat (point / 262144 + 0xF0), laterByte (point / 4096), laterByte (point / 64),
        laterByte point] := by
  have hval : (Char.ofNat point).val.toNat = point := val_ofNat (.inr ⟨by omega, by omega⟩)
  have hbits : point / 262144 % 8 = point / 262144 := Nat.mod_eq_of_lt (by omega)
  simp only [String.utf8EncodeChar, hval]
  rw [if_neg (by omega), if_neg (by omega), if_neg (by omega), hbits]
  rfl

theorem decode_one (hpoint : point < 0x80) (rest : List UInt8) :
    decode (UInt8.ofNat point :: rest) = .char (Char.ofNat point) :: decode rest := by
  have hbyte : (UInt8.ofNat point).toNat = point := toNat_byte (by omega)
  have hshort : UInt8.ofNat point < 0x80 := by
    rw [UInt8.lt_iff_toNat_lt, hbyte]
    exact hpoint
  rw [decode, if_pos hshort, hbyte]

theorem decode_two (hlow : 0x80 ≤ point) (hhigh : point < 0x800) (rest : List UInt8) :
    decode (UInt8.ofNat (point / 64 + 0xC0) :: ([laterByte point] ++ rest)) =
      .char (Char.ofNat point) :: decode rest := by
  have hlead : (UInt8.ofNat (point / 64 + 0xC0)).toNat = point / 64 + 0xC0 :=
    toNat_byte (by omega)
  have htail : Tail.ofLead? (UInt8.ofNat (point / 64 + 0xC0)) = some ⟨1, 0x80, 0xBF⟩ :=
    ofLead?_two (by omega) (by omega)
  have hpoint : codePoint (UInt8.ofNat (point / 64 + 0xC0)) [laterByte point] = point := by
    change (UInt8.ofNat (point / 64 + 0xC0)).toNat % 32 * 64 + (laterByte point).toNat % 64 = point
    rw [hlead, toNat_laterByte]
    omega
  have hfollows : Follows 0x80 0xBF [laterByte point] := ⟨laterByte_follows point, by simp⟩
  rw [decode_of_follows (by omega) htail rfl hfollows, hpoint]

/-- No character has a code point among the halves of pairs. -/
theorem decode_three (hlow : 0x800 ≤ point) (hhigh : point < 0x10000)
    (hpair : point < 0xD800 ∨ 0xE000 ≤ point) (rest : List UInt8) :
    decode (UInt8.ofNat (point / 4096 + 0xE0) ::
        ([laterByte (point / 64), laterByte point] ++ rest)) =
      .char (Char.ofNat point) :: decode rest := by
  have hlead : (UInt8.ofNat (point / 4096 + 0xE0)).toNat = point / 4096 + 0xE0 :=
    toNat_byte (by omega)
  have htail : Tail.ofLead? (UInt8.ofNat (point / 4096 + 0xE0)) = some ⟨2, _, _⟩ :=
    ofLead?_three (by omega)
  have hpoint : codePoint (UInt8.ofNat (point / 4096 + 0xE0))
      [laterByte (point / 64), laterByte point] = point := by
    change ((UInt8.ofNat (point / 4096 + 0xE0)).toNat % 16 * 64 +
      (laterByte (point / 64)).toNat % 64) * 64 + (laterByte point).toNat % 64 = point
    rw [hlead, toNat_laterByte, toNat_laterByte]
    omega
  have hfollows : Follows (if point / 4096 = 0 then 0xA0 else 0x80)
      (if point / 4096 = 13 then 0x9F else 0xBF) [laterByte (point / 64), laterByte point] := by
    refine ⟨laterByte_between ?_ ?_, by simpa using laterByte_follows point⟩
    · split
      next => simp; omega
      next => simp
    · split
      next => simp; omega
      next => simp; omega
  rw [decode_of_follows (by omega) htail rfl hfollows, hpoint]

theorem decode_four (hlow : 0x10000 ≤ point) (hhigh : point < 0x110000) (rest : List UInt8) :
    decode (UInt8.ofNat (point / 262144 + 0xF0) ::
        ([laterByte (point / 4096), laterByte (point / 64), laterByte point] ++ rest)) =
      .char (Char.ofNat point) :: decode rest := by
  have hlead : (UInt8.ofNat (point / 262144 + 0xF0)).toNat = point / 262144 + 0xF0 :=
    toNat_byte (by omega)
  have htail : Tail.ofLead? (UInt8.ofNat (point / 262144 + 0xF0)) = some ⟨3, _, _⟩ :=
    ofLead?_four (by omega)
  have hpoint : codePoint (UInt8.ofNat (point / 262144 + 0xF0))
      [laterByte (point / 4096), laterByte (point / 64), laterByte point] = point := by
    change (((UInt8.ofNat (point / 262144 + 0xF0)).toNat % 8 * 64 +
      (laterByte (point / 4096)).toNat % 64) * 64 + (laterByte (point / 64)).toNat % 64) * 64 +
        (laterByte point).toNat % 64 = point
    rw [hlead, toNat_laterByte, toNat_laterByte, toNat_laterByte]
    omega
  have hfollows : Follows (if point / 262144 = 0 then 0x90 else 0x80)
      (if point / 262144 = 4 then 0x8F else 0xBF)
      [laterByte (point / 4096), laterByte (point / 64), laterByte point] := by
    refine ⟨laterByte_between ?_ ?_, ?_⟩
    · split
      next => simp; omega
      next => simp
    · split
      next => simp; omega
      next => simp; omega
    · exact List.forall_mem_cons.mpr ⟨laterByte_follows _, by simpa using laterByte_follows point⟩
  rw [decode_of_follows (by omega) htail rfl hfollows, hpoint]

end Lengths

/-- The encoding of a character is read as this character, whatever follows it. -/
theorem decode_utf8EncodeChar (c : Char) (rest : List UInt8) :
    decode (String.utf8EncodeChar c ++ rest) = .char c :: decode rest := by
  obtain ⟨point, hvalid, rfl⟩ : ∃ point, Nat.isValidChar point ∧ c = Char.ofNat point :=
    ⟨c.toNat, c.valid, (Char.ofNat_toNat c).symm⟩
  have hpair : point < 0xD800 ∨ 0xE000 ≤ point := hvalid.imp id And.left
  have hhigh : point < 0x110000 := by
    rcases hvalid with hlow | ⟨-, hhigh⟩ <;> omega
  rcases Nat.lt_or_ge point 0x80 with hone | hone
  · rw [utf8EncodeChar_one hone]
    exact decode_one hone rest
  rcases Nat.lt_or_ge point 0x800 with htwo | htwo
  · rw [utf8EncodeChar_two hone htwo]
    exact decode_two hone htwo rest
  rcases Nat.lt_or_ge point 0x10000 with hthree | hthree
  · rw [utf8EncodeChar_three htwo hthree hpair]
    exact decode_three htwo hthree hpair rest
  · rw [utf8EncodeChar_four hthree hhigh]
    exact decode_four hthree hhigh rest

theorem encode_eq_flatMap (text : String) :
    encode text = text.toList.flatMap String.utf8EncodeChar := by
  rw [encode, String.toUTF8_eq_toByteArray, ← String.utf8Encode_toList, List.utf8Encode,
    List.data_toByteArray]

theorem decode_chars (chars : List Char) :
    decode (chars.flatMap String.utf8EncodeChar) = chars.map .char := by
  induction chars with
  | nil => rw [List.flatMap_nil, decode, List.map_nil]
  | cons c rest ih => rw [List.flatMap_cons, decode_utf8EncodeChar, ih, List.map_cons]

theorem text?_encode (text : String) : text? (encode text) = some text := by
  have hchars : (text.toList.map Glyph.char).mapM Glyph.char? = some text.toList :=
    Glyph.mapM_char?_eq_some_iff.mpr rfl
  rw [text?, encode_eq_flatMap, decode_chars, hchars, Option.map_some, String.ofList_toList]

/-! ### The bytes that were read -/

theorem ofNat_eq_of_toNat (byte : UInt8) {value : Nat} (hvalue : value = byte.toNat) :
    UInt8.ofNat value = byte := by
  rw [hvalue, UInt8.ofNat_toNat]

theorem laterByte_eq_of_toNat (byte : UInt8) {point : Nat}
    (hpoint : point % 64 + 0x80 = byte.toNat) : laterByte point = byte :=
  ofNat_eq_of_toNat byte hpoint

section Codes

variable {lead first second third : UInt8}

theorem utf8EncodeChar_codePoint_two (hlow : 0xC2 ≤ lead.toNat) (hhigh : lead.toNat ≤ 0xDF)
    (hfirst : 0x80 ≤ first.toNat ∧ first.toNat ≤ 0xBF) :
    String.utf8EncodeChar (Char.ofNat (codePoint lead [first])) = [lead, first] := by
  have hpoint : codePoint lead [first] = lead.toNat % 32 * 64 + first.toNat % 64 := rfl
  rw [utf8EncodeChar_two (by omega) (by omega), ofNat_eq_of_toNat lead (by omega),
    laterByte_eq_of_toNat first (by omega)]

theorem utf8EncodeChar_codePoint_three (hlow : 0xE0 ≤ lead.toNat) (hhigh : lead.toNat ≤ 0xEF)
    (hfirst : (if lead.toNat = 0xE0 then 0xA0 else 0x80) ≤ first.toNat ∧
      first.toNat ≤ if lead.toNat = 0xED then 0x9F else 0xBF)
    (hsecond : 0x80 ≤ second.toNat ∧ second.toNat ≤ 0xBF) :
    String.utf8EncodeChar (Char.ofNat (codePoint lead [first, second])) =
      [lead, first, second] := by
  have hpoint : codePoint lead [first, second] =
      (lead.toNat % 16 * 64 + first.toNat % 64) * 64 + second.toNat % 64 := rfl
  have hbetween : 0x80 ≤ first.toNat ∧ first.toNat ≤ 0xBF := by
    split_ifs at hfirst <;> omega
  have hlong : 0x800 ≤ codePoint lead [first, second] := by
    split_ifs at hfirst <;> omega
  have hpair : codePoint lead [first, second] < 0xD800 ∨
      0xE000 ≤ codePoint lead [first, second] := by
    split_ifs at hfirst <;> omega
  clear hfirst
  rw [utf8EncodeChar_three hlong (by omega) hpair, ofNat_eq_of_toNat lead (by omega),
    laterByte_eq_of_toNat first (by omega), laterByte_eq_of_toNat second (by omega)]

theorem utf8EncodeChar_codePoint_four (hlow : 0xF0 ≤ lead.toNat) (hhigh : lead.toNat ≤ 0xF4)
    (hfirst : (if lead.toNat = 0xF0 then 0x90 else 0x80) ≤ first.toNat ∧
      first.toNat ≤ if lead.toNat = 0xF4 then 0x8F else 0xBF)
    (hsecond : 0x80 ≤ second.toNat ∧ second.toNat ≤ 0xBF)
    (hthird : 0x80 ≤ third.toNat ∧ third.toNat ≤ 0xBF) :
    String.utf8EncodeChar (Char.ofNat (codePoint lead [first, second, third])) =
      [lead, first, second, third] := by
  have hpoint : codePoint lead [first, second, third] =
      ((lead.toNat % 8 * 64 + first.toNat % 64) * 64 + second.toNat % 64) * 64 +
        third.toNat % 64 := rfl
  have hbetween : 0x80 ≤ first.toNat ∧ first.toNat ≤ 0xBF := by
    split_ifs at hfirst <;> omega
  have hlong : 0x10000 ≤ codePoint lead [first, second, third] := by
    split_ifs at hfirst <;> omega
  have hshort : codePoint lead [first, second, third] < 0x110000 := by
    split_ifs at hfirst <;> omega
  clear hfirst
  rw [utf8EncodeChar_four hlong hshort, ofNat_eq_of_toNat lead (by omega),
    laterByte_eq_of_toNat first (by omega), laterByte_eq_of_toNat second (by omega),
    laterByte_eq_of_toNat third (by omega)]

end Codes

/-- A first byte and the bytes that it asks for are the encoding of their code point. -/
theorem utf8EncodeChar_codePoint {lead : UInt8} {tail : Tail} {found : List UInt8}
    (htail : Tail.ofLead? lead = some tail) (hlength : found.length = tail.count)
    (hfound : Follows tail.low tail.high found) :
    String.utf8EncodeChar (Char.ofNat (codePoint lead found)) = lead :: found := by
  obtain ⟨hlow, hhigh, rfl⟩ | ⟨hlow, hhigh, rfl⟩ | ⟨hlow, hhigh, rfl⟩ := ofLead?_cases htail
  · obtain ⟨first, rfl⟩ := List.length_eq_one_iff.mp hlength
    simp only [Follows, UInt8.le_iff_toNat_le, UInt8.reduceToNat] at hfound
    exact utf8EncodeChar_codePoint_two hlow hhigh hfound.1
  · obtain ⟨first, second, rfl⟩ := List.length_eq_two.mp hlength
    simp only [Follows, UInt8.le_iff_toNat_le, apply_ite UInt8.toNat, UInt8.reduceToNat,
      List.forall_mem_singleton] at hfound
    exact utf8EncodeChar_codePoint_three hlow hhigh hfound.1 hfound.2
  · obtain ⟨first, second, third, rfl⟩ := List.length_eq_three.mp hlength
    simp only [Follows, UInt8.le_iff_toNat_le, apply_ite UInt8.toNat, UInt8.reduceToNat,
      List.forall_mem_cons, List.not_mem_nil, IsEmpty.forall_iff, forall_const, and_true] at hfound
    exact utf8EncodeChar_codePoint_four hlow hhigh hfound.1 hfound.2.1 hfound.2.2

/-- Reading loses nothing. -/
theorem flatMap_bytes_decode (bytes : List UInt8) : (decode bytes).flatMap Glyph.bytes = bytes := by
  induction bytes using decode.induct with
  | case1 => rw [decode, List.flatMap_nil]
  | case2 lead rest hshort ih =>
    have hpoint : lead.toNat < 0x80 := UInt8.lt_iff_toNat_lt.mp hshort
    rw [decode, if_pos hshort, List.flatMap_cons, ih, Glyph.bytes, utf8EncodeChar_one hpoint,
      UInt8.ofNat_toNat]
    rfl
  | case3 lead rest hlong hnone ih =>
    rw [decode, if_neg hlong, hnone, List.flatMap_cons, ih]
    rfl
  | case4 lead rest hlong tail htail found hcount ih =>
    have hencoding : String.utf8EncodeChar (Char.ofNat (codePoint lead found)) = lead :: found :=
      utf8EncodeChar_codePoint htail hcount (follows_take tail.count tail.low tail.high rest)
    rw [decode, if_neg hlong, htail]
    dsimp only
    rw [if_pos hcount, List.flatMap_cons, ih, Glyph.bytes, hencoding, List.cons_append,
      take_append_drop]
  | case5 lead rest hlong tail htail found hcount ih =>
    rw [decode, if_neg hlong, htail]
    dsimp only
    rw [if_neg hcount, List.flatMap_cons, ih, Glyph.bytes, List.cons_append, take_append_drop]

/-- The bytes are read as a text exactly if they are its encoding. -/
theorem text?_eq_some_iff {bytes : List UInt8} {text : String} :
    text? bytes = some text ↔ encode text = bytes := by
  refine ⟨fun htext => ?_, fun hbytes => by rw [← hbytes, text?_encode]⟩
  obtain ⟨chars, hchars, rfl⟩ := Option.map_eq_some_iff.mp htext
  have hdecode : decode bytes = chars.map .char := Glyph.mapM_char?_eq_some_iff.mp hchars
  rw [encode_eq_flatMap, String.toList_ofList, ← flatMap_bytes_decode bytes, hdecode,
    List.flatMap_map]
  rfl

end Utf8

end FormatServer
