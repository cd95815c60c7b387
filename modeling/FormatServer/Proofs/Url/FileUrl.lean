import FormatServer.Proofs.Path.Normal
import FormatServer.Proofs.Text.Encoding
import FormatServer.Url.Basic

/-!
# Paths through URLs and back

The names of a path are written in a URL with everything encoded that has a meaning of its own
there, the percent sign among it. So decoding them gives the names again, and a path that is text
comes back from its URL. Only a path that ends in what looks like the name of a drive comes back
with a slash after it.
-/

namespace FormatServer

namespace Percent

theorem hexNumber?_hexDigits (byte : UInt8) :
    Json.hexNumber? [hexDigit (byte.toNat / 16), hexDigit (byte.toNat % 16)] =
      some byte.toNat := by
  have hdigit : ∀ value < 16, Json.hexValue? (hexDigit value) = some value := by decide
  have hbyte : byte.toNat < 256 := UInt8.toNat_lt byte
  have hhigh := hdigit (byte.toNat / 16) (by omega)
  have hlow := hdigit (byte.toNat % 16) (by omega)
  simp [Json.hexNumber?, hhigh, hlow]
  omega

theorem decode_encodeByte (byte : UInt8) (rest : List Char) :
    decode (encodeByte byte ++ rest) = byte :: decode rest := by
  change decode ('%' :: hexDigit (byte.toNat / 16) :: hexDigit (byte.toNat % 16) :: rest) = _
  rw [decode, hexNumber?_hexDigits]
  dsimp only
  rw [UInt8.ofNat_toNat]

theorem decode_encodeBytes (bytes : List UInt8) (rest : List Char) :
    decode (bytes.flatMap encodeByte ++ rest) = bytes ++ decode rest := by
  induction bytes with
  | nil => rfl
  | cons byte more ih =>
    rw [List.flatMap_cons, List.append_assoc, decode_encodeByte, ih, List.cons_append]

theorem decode_cons_of_ne {c : Char} (hc : c ≠ '%') (rest : List Char) :
    decode (c :: rest) = String.utf8EncodeChar c ++ decode rest := by
  rw [decode, Utf8.encode_eq_flatMap]
  · simp
  · rintro high low more rfl
    exact absurd rfl hc

/-- What is encoded decodes to the bytes of the characters, if percent signs are encoded. -/
theorem decode_encode {isEncoded : Char → Bool} (hpercent : isEncoded '%' = true)
    (chars : List Char) :
    decode (encode isEncoded chars) = chars.flatMap String.utf8EncodeChar := by
  induction chars with
  | nil => rfl
  | cons c rest ih =>
    rw [encode, List.flatMap_cons, List.flatMap_cons]
    by_cases hc : isEncoded c = true
    · rw [if_pos hc, decode_encodeBytes, Utf8.encode_eq_flatMap]
      change _ ++ decode (encode isEncoded rest) = _
      rw [ih]
      simp
    · have hne : c ≠ '%' := by
        rintro rfl
        exact hc hpercent
      rw [if_neg hc, List.singleton_append, decode_cons_of_ne hne]
      change _ ++ decode (encode isEncoded rest) = _
      rw [ih]

end Percent

/-! ### Places written out -/

namespace Path

/-- The path as a URL gives it back. -/
def fromUrl (path : Path) : Path :=
  if Url.endsInDrive path.glyphs then ⟨path.glyphs ++ [slash]⟩ else path

theorem flatMap_slash_eq_joined {names : List Segment} (hnames : names ≠ []) :
    names.flatMap (fun name => slash :: name) = slash :: joined names := by
  induction names with
  | nil => exact absurd rfl hnames
  | cons first rest ih =>
    cases rest with
    | nil => simp [joined]
    | cons second more =>
      rw [List.flatMap_cons, ih (by simp), joined_cons_cons, List.cons_append]

/-- The names of a place whose path is text are texts. -/
theorem exists_texts_of_location {location : Location} {file : String}
    (hfile : location.path = ofString file) :
    ∃ texts : List (List Char), location = texts.map (List.map Glyph.char) := by
  have hglyph : ∀ name ∈ location, ∀ glyph ∈ name, Glyph.char glyph.shown = glyph := by
    intro name hname glyph hglyph
    have hmem : glyph ∈ location.path.glyphs := by
      change glyph ∈ slash :: joined location
      rw [← flatMap_slash_eq_joined (List.ne_nil_of_mem hname)]
      exact List.mem_flatMap.mpr ⟨name, hname, List.mem_cons_of_mem slash hglyph⟩
    rw [hfile] at hmem
    obtain ⟨c, -, rfl⟩ := List.mem_map.mp hmem
    rfl
  refine ⟨location.map (List.map Glyph.shown), ?_⟩
  rw [List.map_map]
  refine ((List.map_congr_left fun name hname => ?_).trans (List.map_id' location)).symm
  change (name.map Glyph.shown).map Glyph.char = name
  rw [List.map_map]
  exact (List.map_congr_left (hglyph name hname)).trans (List.map_id' name)

theorem above_ne_nil {mark : List Glyph} {segments : List Segment} {segment : Segment}
    (hsegment : segment ∈ segments) (hname : Segment.isEmpty segment = false) :
    above mark segments ≠ [] := by
  induction segments with
  | nil => simp at hsegment
  | cons first rest ih =>
    rw [above]
    by_cases hfirst : Segment.isEmpty first = true
    · rw [if_pos hfirst]
      rcases List.mem_cons.mp hsegment with rfl | hsegment
      · rw [hfirst] at hname
        simp at hname
      · exact ih hsegment
    · rw [if_neg hfirst]
      exact List.cons_ne_nil _ _

theorem exists_parent_fromUrl {location : Location} (hnonempty : location ≠ [])
    (hnames : ∀ name ∈ location, name.IsName) :
    ∃ parent, location.path.fromUrl.parent? = some parent := by
  obtain ⟨name, hname⟩ := List.exists_mem_of_ne_nil location hnonempty
  have hsegments : segments (joined location) = location :=
    segments_joined hnonempty fun name hname => (hnames name hname).noSlash
  have hlead : ∃ rest, location.path.fromUrl.lead = ([slash], rest) ∧ name ∈ segments rest := by
    by_cases hdrive : Url.endsInDrive location.path.glyphs = true
    · refine ⟨joined location ++ [slash], by rw [fromUrl, if_pos hdrive]; rfl, ?_⟩
      rw [segments_append, hsegments]
      exact List.mem_append_left _ hname
    · refine ⟨joined location, by rw [fromUrl, if_neg hdrive]; rfl, ?_⟩
      rw [hsegments]
      exact hname
  obtain ⟨rest, hlead, hmem⟩ := hlead
  have hparents : location.path.fromUrl.parents ≠ [] := by
    rw [parents, hlead]
    exact above_ne_nil (List.mem_reverse.mpr hmem) (hnames name hname).notEmpty
  obtain ⟨parent, more, hparents⟩ := List.exists_cons_of_ne_nil hparents
  exact ⟨parent, by rw [parent?, hparents, List.head?_cons]⟩

end Path

namespace Url

theorem componentText_chars (chars : List Char) :
    componentText (.name (chars.map .char)) = Percent.encode Percent.isFileName chars := by
  simp only [componentText, List.flatMap_map, Percent.encode, List.flatMap_singleton]

/-- The bytes of the names of a URL, with a slash before each. -/
def segmentBytes (values : List String) : List UInt8 :=
  values.flatMap fun value => 0x2F :: Percent.decode value.toList

theorem segmentBytes_names (texts : List (List Char)) :
    segmentBytes (texts.map fun chars =>
        String.ofList (Percent.encode Percent.isFileName chars)) =
      (texts.flatMap fun chars => '/' :: chars).flatMap String.utf8EncodeChar := by
  have hslash : String.utf8EncodeChar '/' = [0x2F] := by decide
  rw [segmentBytes, List.flatMap_map, List.flatMap_assoc]
  congr 1
  funext chars
  rw [String.toList_ofList, Percent.decode_encode (by decide), List.flatMap_cons, hslash,
    List.singleton_append]

theorem decode_segmentBytes {texts : List (List Char)} (htexts : texts ≠ []) :
    Utf8.decode (segmentBytes (texts.map fun chars =>
        String.ofList (Percent.encode Percent.isFileName chars))) =
      Path.slash :: Path.joined (texts.map (List.map Glyph.char)) := by
  have hnames : texts.map (List.map Glyph.char) ≠ [] := by simpa using htexts
  rw [segmentBytes_names, Utf8.decode_chars, List.map_flatMap,
    ← Path.flatMap_slash_eq_joined hnames, List.flatMap_map]
  rfl

theorem file?_segments {values : List String} (hvalues : values ≠ []) :
    (Url.mk "file" ("", none) (some "") none (.segments values) none none).file? =
      some (Path.mk (Utf8.decode (segmentBytes values))).fromUrl := by
  cases values with
  | nil => exact absurd rfl hvalues
  | cons first rest =>
    change some (Path.mk (if endsInDrive (Utf8.decode (segmentBytes (first :: rest))) then
      Utf8.decode (segmentBytes (first :: rest)) ++ [Path.slash]
      else Utf8.decode (segmentBytes (first :: rest)))) = _
    generalize Utf8.decode (segmentBytes (first :: rest)) = glyphs
    by_cases hdrive : endsInDrive glyphs = true
    · simp [Path.fromUrl, hdrive]
    · simp [Path.fromUrl, hdrive]

/-- The file of a URL that is made from names has these names. -/
theorem file?_texts (texts : List (List Char)) :
    let values := texts.map fun chars =>
      String.ofList (Percent.encode Percent.isFileName chars)
    (Url.mk "file" ("", none) (some "") none (.segments (if values = [] then [""] else values))
        none none).file? =
      some (Path.mk (Path.slash :: Path.joined (texts.map (List.map Glyph.char)))).fromUrl := by
  intro values
  by_cases htexts : texts = []
  · have hroot : Utf8.decode (segmentBytes [""]) = [Path.slash] := Utf8.decode_chars ['/']
    have hvalues : values = [] := by simp [values, htexts]
    rw [if_pos hvalues, file?_segments (by simp), hroot, htexts]
    rfl
  · have hvalues : values ≠ [] := by simpa [values] using htexts
    rw [if_neg hvalues, file?_segments hvalues, decode_segmentBytes htexts]

/-- A place whose names are texts is found again by its URL. -/
theorem exists_ofPath?_location {texts : List (List Char)}
    (hnames : ∀ name ∈ texts.map (List.map Glyph.char), Segment.IsName name) :
    ∃ url, ofPath? (Location.path (texts.map (List.map Glyph.char))) = some url ∧
      url.file? = some (Location.path (texts.map (List.map Glyph.char))).fromUrl := by
  have habsolute : (Location.path (texts.map (List.map Glyph.char))).isAbsolute = true := rfl
  have hvalues : ((Location.path (texts.map (List.map Glyph.char))).components.drop 1).map
      (fun component => String.ofList (componentText component)) =
        texts.map fun chars => String.ofList (Percent.encode Percent.isFileName chars) := by
    rw [Path.components_location hnames, List.drop_succ_cons, List.drop_zero, List.map_map,
      List.map_map]
    congr 1
    funext chars
    simp only [Function.comp_apply, componentText_chars]
  rw [ofPath?, if_pos habsolute, hvalues]
  exact ⟨_, rfl, file?_texts texts⟩

end Url

end FormatServer
