import FormatServer.Engine.Installed
import FormatServer.Proofs.Text.Blank
import Mathlib.Data.Prod.Lex
import Mathlib.Tactic.SplitIfs

/-!
# Versions as engines write them

An engine writes its version as up to three numbers with dots between them. There may be blanks on
either side, a mark in front, and more behind the numbers: a name of the release or of the build, or
further numbers. Only the part up to the first dot, hyphen or plus has to be a number. What an
engine says of itself decides whether the user is warned of its age, in whatever way it is written.
-/

namespace FormatServer

namespace Version

/-! ### Numbers -/

/-- The text is a number of 64 bits in decimal digits. -/
def IsDecimal (text : String) : Prop :=
  text ≠ "" ∧ (∀ c ∈ text.toList, c.isDigit = true) ∧
    Nat.ofDigitChars 10 text.toList 0 < UInt64.size

theorem number?_eq_some_iff {text : String} {number : Nat} :
    number? text.toList = some number ↔
      IsDecimal text ∧ Nat.ofDigitChars 10 text.toList 0 = number := by
  have hvalue : text.toList.foldl (fun value c => value * 10 + (c.toNat - '0'.toNat)) 0 =
      Nat.ofDigitChars 10 text.toList 0 := by
    simp only [Nat.ofDigitChars, Nat.mul_comm]
  have hcount : Word.count 64 = UInt64.size := rfl
  have hempty : text.toList.isEmpty = true ↔ text = "" := by
    rw [List.isEmpty_iff, String.toList_eq_nil_iff]
  rw [number?, IsDecimal, hvalue, hcount]
  by_cases hdigits : text.toList.isEmpty || !text.toList.all Char.isDigit
  · rw [if_pos hdigits]
    rw [Bool.or_eq_true, hempty, Bool.not_eq_true', ← Bool.not_eq_true, List.all_eq_true] at hdigits
    tauto
  · rw [if_neg hdigits]
    rw [Bool.or_eq_true, hempty, Bool.not_eq_true', ← Bool.not_eq_true, List.all_eq_true] at hdigits
    dsimp only
    split_ifs with hfits
    · simp only [Option.some.injEq]
      tauto
    · tauto

theorem number?_eq_none_iff {text : String} : number? text.toList = none ↔ ¬IsDecimal text := by
  rw [Option.eq_none_iff_forall_ne_some]
  simp only [ne_eq, number?_eq_some_iff]
  simp

theorem number?_toString (number : UInt64) :
    number? (toString number.toNat).toList = some number.toNat := by
  rw [number?_eq_some_iff, Nat.toString_eq_repr, IsDecimal, Nat.toList_repr,
    Nat.ofDigitChars_ten_toDigits]
  refine ⟨⟨?_, ?_, number.toNat_lt_size⟩, rfl⟩
  · intro hempty
    have hdigits := congrArg String.toList hempty
    rw [Nat.toList_repr] at hdigits
    exact Nat.toDigits_ne_nil hdigits
  · intro c hc
    exact Nat.isDigit_of_mem_toDigits (by decide) (by decide) hc

/-! ### What is written around the numbers -/

/-- A character that ends a number of a version. -/
def isStop (c : Char) : Bool :=
  c = '.' || c = '-' || c = '+'

/-- What may be written around the numbers of a version: blanks on either side, a mark in front, and
more that a dot, a hyphen or a plus sets off. -/
structure Wrapping where
  left : String
  isMarked : Bool
  suffix : String
  right : String
  left_blank : Text.isAllBlank left = true
  right_blank : Text.isAllBlank right = true
  suffix_stops : suffix.toList.head?.all isStop = true

namespace Wrapping

def mark (wrapping : Wrapping) : String :=
  if wrapping.isMarked then "v" else ""

def wrap (wrapping : Wrapping) (numbers : String) : String :=
  wrapping.left ++ wrapping.mark ++ numbers ++ wrapping.suffix ++ wrapping.right

/-- The text is all that stands between the mark, if there is one, and the first dot, hyphen or
plus, and the blanks on either side are all that there are. -/
structure Encloses (wrapping : Wrapping) (head : String) : Prop where
  plain : head.toList.all (fun c => !isStop c) = true
  unmarked : wrapping.isMarked = false → head.toList.head? ≠ some 'v'
  first : wrapping.isMarked = false → head.toList.head?.all (fun c => !isBlank c) = true
  last : wrapping.suffix = "" → head.toList.getLast?.all (fun c => !isBlank c) = true

/-- The wrapping with one number more in front of its suffix. -/
def withNumber (wrapping : Wrapping) (number : UInt64) : Wrapping :=
  { wrapping with
    suffix := "." ++ toString number.toNat ++ wrapping.suffix
    suffix_stops := by
      rw [String.append_assoc, String.toList_append]
      rfl }

theorem wrap_number (wrapping : Wrapping) (numbers : String) (number : UInt64) :
    wrapping.wrap (numbers ++ "." ++ toString number.toNat) =
      (wrapping.withNumber number).wrap numbers := by
  change _ = wrapping.left ++ wrapping.mark ++ numbers ++
    ("." ++ toString number.toNat ++ wrapping.suffix) ++ wrapping.right
  simp only [wrap, String.append_assoc]

end Wrapping

theorem isStop_iff {c : Char} : isStop c = true ↔ (c = '.' ∨ c = '-') ∨ c = '+' := by
  simp only [isStop, Bool.or_eq_true, decide_eq_true_eq]

theorem isBlank_of_isStop {c : Char} (hstop : isStop c = true) : isBlank c = false := by
  obtain (rfl | rfl) | rfl := isStop_iff.mp hstop <;> rfl

theorem all_plain_of_stops {suffix : List Char} (hstops : suffix.head?.all isStop = true) :
    suffix.head?.all (fun c => !isBlank c) = true := by
  cases suffix with
  | nil => rfl
  | cons c rest =>
    have hplain := isBlank_of_isStop (c := c) hstops
    simpa using hplain

theorem not_isStop_of_isDigit {c : Char} (hdigit : c.isDigit = true) : isStop c = false := by
  rw [Bool.eq_false_iff]
  intro hstop
  obtain (rfl | rfl) | rfl := isStop_iff.mp hstop <;> simp at hdigit

theorem not_isBlank_of_isDigit {c : Char} (hdigit : c.isDigit = true) : isBlank c = false := by
  have hcode : 48 ≤ c.toNat ∧ c.toNat ≤ 57 := Char.isDigit_iff_toNat.mp hdigit
  simp [isBlank]
  omega

/-! ### Parts -/

theorem splitDots_append_dot {chars : List Char} (hplain : '.' ∉ chars) (rest : List Char) :
    splitDots (chars ++ '.' :: rest) = chars :: splitDots rest := by
  induction chars with
  | nil => rfl
  | cons c more ih =>
    rw [List.mem_cons, not_or] at hplain
    rw [List.cons_append, splitDots, if_neg (Ne.symm hplain.1), ih hplain.2]

theorem splitDots_of_plain {chars : List Char} (hplain : '.' ∉ chars) :
    splitDots chars = [chars] := by
  induction chars with
  | nil => rfl
  | cons c more ih =>
    rw [List.mem_cons, not_or] at hplain
    rw [splitDots, if_neg (Ne.symm hplain.1), ih hplain.2]

/-- What is left of the text in front of the mark of a release or a build. -/
def front (chars : List Char) : List Char :=
  chars.takeWhile fun c => c ≠ '-' && c ≠ '+'

/-- The parts of a version that follow the first one, from what follows it in the text. -/
def laterParts (suffix : List Char) : List (List Char) :=
  match front (Text.trimEnd suffix) with
  | '.' :: rest => splitDots rest
  | _ => []

theorem dot_notMem_of_plain {chars : List Char}
    (hplain : chars.all (fun c => !isStop c) = true) : '.' ∉ chars := by
  intro hdot
  have hstop := List.all_eq_true.mp hplain '.' hdot
  simp [isStop] at hstop

theorem front_append {chars : List Char} (hplain : chars.all (fun c => !isStop c) = true)
    (rest : List Char) : front (chars ++ rest) = chars ++ front rest := by
  apply List.takeWhile_append_of_pos
  intro c hc
  have hstop := List.all_eq_true.mp hplain c hc
  simp [isStop] at hstop
  simp [hstop]

/-- A hyphen or a plus leaves nothing of what follows. -/
theorem front_trimEnd_of_no_dot {suffix : List Char} (hstops : suffix.head?.all isStop = true)
    (hdot : suffix.head? ≠ some '.') : front (Text.trimEnd suffix) = [] := by
  cases suffix with
  | nil => rfl
  | cons c rest =>
    have hstop : isStop c = true := hstops
    rw [Text.trimEnd_cons (isBlank_of_isStop hstop)]
    obtain (rfl | rfl) | rfl := isStop_iff.mp hstop
    · exact absurd rfl hdot
    · rw [front, List.takeWhile_cons_of_neg (by decide)]
    · rw [front, List.takeWhile_cons_of_neg (by decide)]

theorem laterParts_of_no_dot {suffix : List Char} (hstops : suffix.head?.all isStop = true)
    (hdot : suffix.head? ≠ some '.') : laterParts suffix = [] := by
  rw [laterParts, front_trimEnd_of_no_dot hstops hdot]

/-- The part before the first dot, hyphen or plus is the first one. -/
theorem splitDots_front_append {chars suffix : List Char}
    (hplain : chars.all (fun c => !isStop c) = true) (hstops : suffix.head?.all isStop = true) :
    splitDots (front (chars ++ Text.trimEnd suffix)) = chars :: laterParts suffix := by
  have hnone : '.' ∉ chars := dot_notMem_of_plain hplain
  rw [front_append hplain]
  by_cases hdot : suffix.head? = some '.'
  · obtain ⟨rest, rfl⟩ := List.head?_eq_some_iff.mp hdot
    rw [laterParts, Text.trimEnd_cons rfl]
    exact splitDots_append_dot hnone _
  · rw [front_trimEnd_of_no_dot hstops hdot, List.append_nil, splitDots_of_plain hnone,
      laterParts_of_no_dot hstops hdot]

theorem withoutMark_of_ne {chars : List Char} (hfirst : chars.head? ≠ some 'v') :
    withoutMark chars = chars := by
  rw [withoutMark]
  rintro rest rfl
  exact hfirst rfl

namespace Wrapping

variable {wrapping : Wrapping} {head : String}

/-- The blanks inside a suffix stay, those at its end go with the blanks behind it. -/
theorem trim_wrap (hencloses : wrapping.Encloses head) :
    (Text.trim (wrapping.wrap head)).toList =
      wrapping.mark.toList ++ (head.toList ++ Text.trimEnd wrapping.suffix.toList) := by
  have hsuffix := all_plain_of_stops wrapping.suffix_stops
  have hchars : (wrapping.wrap head).toList = wrapping.left.toList ++
      ((wrapping.mark.toList ++ head.toList ++ wrapping.suffix.toList) ++
        wrapping.right.toList) := by
    simp only [wrap, String.toList_append, List.append_assoc]
  have hfirst : (wrapping.mark.toList ++ head.toList ++ wrapping.suffix.toList).head?.all
      (fun c => !isBlank c) = true := by
    cases hmarked : wrapping.isMarked with
    | true =>
      rw [mark, if_pos hmarked]
      rfl
    | false =>
      have hhead := hencloses.first hmarked
      rw [mark, if_neg (by simp [hmarked])]
      cases hchars : head.toList with
      | cons c rest => simpa [hchars] using hhead
      | nil => exact hsuffix
  rw [Text.trim, String.toList_ofList, hchars,
    Text.trim_between_blanks wrapping.left_blank wrapping.right_blank hfirst,
    Text.trimEnd_append hsuffix, List.append_assoc]
  intro hnil
  have hlast := hencloses.last (String.toList_eq_nil_iff.mp hnil)
  rw [List.getLast?_append]
  cases hend : head.toList.getLast? with
  | some c => simpa [hend] using hlast
  | none =>
    rw [mark]
    split <;> rfl

theorem withoutMark_trim_wrap (hencloses : wrapping.Encloses head) :
    withoutMark (Text.trim (wrapping.wrap head)).toList =
      head.toList ++ Text.trimEnd wrapping.suffix.toList := by
  rw [trim_wrap hencloses]
  cases hmarked : wrapping.isMarked with
  | true =>
    rw [mark, if_pos hmarked]
    rfl
  | false =>
    have hmark : wrapping.mark.toList = [] := by
      rw [mark, if_neg (by simp [hmarked])]
      rfl
    have hhead := hencloses.unmarked hmarked
    rw [hmark, List.nil_append]
    apply withoutMark_of_ne
    cases hchars : head.toList with
    | cons c rest => simpa [hchars] using hhead
    | nil =>
      cases hsuffix : wrapping.suffix.toList with
      | nil => simp [Text.trimEnd_nil]
      | cons c rest =>
        have hstop : isStop c = true := by
          have hstops := wrapping.suffix_stops
          rwa [hsuffix] at hstops
        rw [Text.trimEnd_cons (isBlank_of_isStop hstop)]
        intro hv
        obtain rfl : c = 'v' := by simpa using hv
        simp [isStop] at hstop

theorem parse?_wrap (hencloses : wrapping.Encloses head) :
    parse? (wrapping.wrap head) = (number? head.toList).map fun major =>
      ⟨major, ((laterParts wrapping.suffix.toList).map number?)[0]?.join.getD 0,
        ((laterParts wrapping.suffix.toList).map number?)[1]?.join.getD 0⟩ := by
  have hparts := splitDots_front_append hencloses.plain wrapping.suffix_stops
  rw [← withoutMark_trim_wrap hencloses, front] at hparts
  rw [parse?]
  dsimp only
  rw [hparts, List.map_cons]
  cases number? head.toList <;> rfl

end Wrapping

/-! ### Numbers in wrappings -/

theorem isDigit_of_mem_toString {number : UInt64} {c : Char}
    (hc : c ∈ (toString number.toNat).toList) : c.isDigit = true :=
  (number?_eq_some_iff.mp (number?_toString number)).1.2.1 c hc

theorem plain_toString (number : UInt64) :
    (toString number.toNat).toList.all (fun c => !isStop c) = true := by
  rw [List.all_eq_true]
  intro c hc
  rw [not_isStop_of_isDigit (isDigit_of_mem_toString hc)]
  rfl

theorem getLast?_toString (number : UInt64) :
    (toString number.toNat).toList.getLast?.all (fun c => !isBlank c) = true := by
  cases hlast : (toString number.toNat).toList.getLast? with
  | none => rfl
  | some c =>
    have hplain := not_isBlank_of_isDigit (isDigit_of_mem_toString (List.mem_of_getLast? hlast))
    simpa using hplain

theorem Wrapping.encloses_toString (wrapping : Wrapping) (number : UInt64) :
    wrapping.Encloses (toString number.toNat) where
  plain := plain_toString number
  unmarked := by
    intro _ hv
    have hdigit := isDigit_of_mem_toString (List.mem_of_mem_head? hv)
    simp at hdigit
  first := by
    intro _
    cases hhead : (toString number.toNat).toList.head? with
    | none => rfl
    | some c =>
      have hplain := not_isBlank_of_isDigit (isDigit_of_mem_toString (List.mem_of_mem_head? hhead))
      simpa using hplain
  last _ := getLast?_toString number

/-- One number more in front of a suffix is one part more. -/
theorem laterParts_withNumber (wrapping : Wrapping) (number : UInt64) :
    laterParts (wrapping.withNumber number).suffix.toList =
      (toString number.toNat).toList :: laterParts wrapping.suffix.toList := by
  have hchars : (wrapping.withNumber number).suffix.toList =
      '.' :: ((toString number.toNat).toList ++ wrapping.suffix.toList) := by
    change ("." ++ toString number.toNat ++ wrapping.suffix).toList = _
    rw [String.append_assoc, String.toList_append, String.toList_append]
    rfl
  have htrim := Text.trimEnd_append (all_plain_of_stops wrapping.suffix_stops)
    fun _ => getLast?_toString number
  rw [hchars, laterParts, Text.trimEnd_cons rfl, htrim, front,
    List.takeWhile_cons_of_pos (by decide)]
  exact splitDots_front_append (plain_toString number) wrapping.suffix_stops

/-- The texts that write a version: with all its numbers, or with fewer if those left out are zero
and no dot follows. -/
inductive Writes : Version → String → Prop
  | full (wrapping : Wrapping) (a b c : UInt64) :
    Writes ⟨a.toNat, b.toNat, c.toNat⟩
      (wrapping.wrap (toString a.toNat ++ "." ++ toString b.toNat ++ "." ++ toString c.toNat))
  | short (wrapping : Wrapping) (a b : UInt64) (hdot : wrapping.suffix.toList.head? ≠ some '.') :
    Writes ⟨a.toNat, b.toNat, 0⟩ (wrapping.wrap (toString a.toNat ++ "." ++ toString b.toNat))
  | bare (wrapping : Wrapping) (a : UInt64) (hdot : wrapping.suffix.toList.head? ≠ some '.') :
    Writes ⟨a.toNat, 0, 0⟩ (wrapping.wrap (toString a.toNat))

theorem parse?_of_writes {version : Version} {raw : String} (hwrites : Writes version raw) :
    parse? raw = some version := by
  cases hwrites with
  | full wrapping a b c =>
    rw [wrapping.wrap_number, Wrapping.wrap_number,
      Wrapping.parse?_wrap (Wrapping.encloses_toString _ a), laterParts_withNumber,
      laterParts_withNumber, List.map_cons, List.map_cons, number?_toString, number?_toString,
      number?_toString]
    rfl
  | short wrapping a b hdot =>
    rw [wrapping.wrap_number, Wrapping.parse?_wrap (Wrapping.encloses_toString _ a),
      laterParts_withNumber, laterParts_of_no_dot wrapping.suffix_stops hdot, List.map_cons,
      number?_toString, number?_toString]
    rfl
  | bare wrapping a hdot =>
    rw [Wrapping.parse?_wrap (wrapping.encloses_toString a), number?_toString,
      laterParts_of_no_dot wrapping.suffix_stops hdot]
    rfl

theorem parse?_wrap_eq_none_iff {wrapping : Wrapping} {head : String}
    (hencloses : wrapping.Encloses head) :
    parse? (wrapping.wrap head) = none ↔ ¬IsDecimal head := by
  rw [Wrapping.parse?_wrap hencloses, Option.map_eq_none_iff, number?_eq_none_iff]

/-- In every text there is the part that has to be a number. -/
theorem exists_encloses (raw : String) :
    ∃ (wrapping : Wrapping) (head : String),
      raw = wrapping.wrap head ∧ wrapping.Encloses head := by
  obtain ⟨left, core, right, hchars, hleft, hright, hfirst, hlast⟩ :=
    Text.exists_between_blanks raw.toList
  obtain ⟨isMarked, body, hcore, hunmarked⟩ : ∃ (isMarked : Bool) (body : List Char),
      core = (if isMarked then "v" else "").toList ++ body ∧
        (isMarked = false → body.head? ≠ some 'v') := by
    by_cases hv : core.head? = some 'v'
    · obtain ⟨body, rfl⟩ := List.head?_eq_some_iff.mp hv
      exact ⟨true, body, rfl, nofun⟩
    · exact ⟨false, core, rfl, fun _ => hv⟩
  let head := body.takeWhile fun c => !isStop c
  let suffix := body.dropWhile fun c => !isStop c
  have hbody : head ++ suffix = body := List.takeWhile_append_dropWhile
  have hstops : suffix.head?.all isStop = true := by
    have hstop := List.head?_dropWhile_not (fun c => !isStop c) body
    cases hhead : suffix.head? with
    | none => rfl
    | some c =>
      rw [hhead] at hstop
      simpa using hstop
  refine ⟨⟨String.ofList left, isMarked, String.ofList suffix, String.ofList right,
    by rwa [Text.isAllBlank, String.toList_ofList],
    by rwa [Text.isAllBlank, String.toList_ofList], by rwa [String.toList_ofList]⟩,
    String.ofList head, ?_, ?_⟩
  · rw [← String.toList_inj, hchars, hcore, ← hbody]
    simp [Wrapping.wrap, Wrapping.mark]
  · have hhead : ∀ c, head.head? = some c → body.head? = some c := by
      intro c hc
      rw [← hbody, List.head?_append, hc]
      rfl
    constructor
    · rw [String.toList_ofList]
      exact List.all_takeWhile
    · intro hmarked hv
      rw [String.toList_ofList] at hv
      exact hunmarked hmarked (hhead 'v' hv)
    · rintro rfl
      rw [String.toList_ofList]
      cases hc : head.head? with
      | none => rfl
      | some c =>
        rw [hcore] at hfirst
        simpa [hhead c hc] using hfirst
    · intro hnil
      rw [String.toList_ofList]
      have hwhole : core = (if isMarked then "v" else "").toList ++ head := by
        rw [hcore, ← hbody, String.ofList_eq_empty_iff.mp hnil, List.append_nil]
      cases hc : head.getLast? with
      | none => rfl
      | some c =>
        rw [hwhole, List.getLast?_append, hc] at hlast
        exact hlast

/-- Versions are ordered by their numbers, the first one that differs deciding. -/
theorem isOutdated_iff {version : Version} :
    version.isOutdated = true ↔
      toLex (version.major, toLex (version.minor, version.patch)) < toLex (1, toLex (13, 0)) := by
  simp only [isOutdated, isBefore, Bool.or_eq_true, Bool.and_eq_true, decide_eq_true_eq,
    Prod.Lex.toLex_lt_toLex]
  rfl

end Version

/-! ### Warnings of old engines -/

/-- A warning is shown for a key if one was shown before, or if one is asked for first now. -/
theorem Run.exists_warned_remarks_iff {σ : Type} (run : Run σ) (remarks : List Remark)
    (key : String) :
    (∃ message, .warned key message ∈ (remarks.foldl remark run).events) ↔
      (∃ message, .warned key message ∈ run.events) ∨
        (key ∉ run.ledger.keys ∧ ∃ message, .warnOnce key message ∈ remarks) := by
  induction remarks generalizing run with
  | nil => simp
  | cons first rest ih =>
    rw [List.foldl_cons, ih]
    cases first with
    | log line => simp [remark, add]
    | warnOnce other message =>
      by_cases hknown : other ∈ run.ledger.keys
      · have hquiet : run.remark (.warnOnce other message) = run := by
          simp [remark, Ledger.record, hknown]
        rw [hquiet]
        by_cases hsame : key = other
        · simp [hsame, hknown]
        · simp [hsame]
      · have hevents : (run.remark (.warnOnce other message)).events =
            run.events ++ [.warned other message] := by
          simp [remark, Ledger.record, hknown, add]
        have hkeys : (run.remark (.warnOnce other message)).ledger.keys =
            run.ledger.keys ++ [other] := by
          simp [remark, Ledger.record, hknown, add]
        rw [hevents, hkeys]
        by_cases hsame : key = other
        · rw [hsame]
          simp only [List.mem_append, List.mem_cons]
          exact ⟨fun _ => .inr ⟨hknown, message, .inl rfl⟩,
            fun _ => .inl ⟨message, .inr (.inl rfl)⟩⟩
        · simp [hsame]

namespace Installed

variable {environment : Environment} {workspace : Workspace} {file : Option Path}
  {installed : Installed} {path : Path} {source : EngineSource} {raw : String}

/-- The engine at the path tells its version in this text when it is asked, or it was asked before
and told it then. -/
def Tells (environment : Environment) (installed : Installed) (path : Path) (raw : String) : Prop :=
  match (installed.findEngine path).1.version with
  | none =>
    environment.textFrom (installed.findEngine path).1.path ["--version"] none ""
      Engine.moduleName = .ok raw
  | some version => version = Version.parse? raw

theorem version_of_tells (htells : installed.Tells environment path raw) (state : Installed) :
    (version environment (installed.findEngine path).1 state).answer = Version.parse? raw ∧
      (version environment (installed.findEngine path).1 state).remarks = [] := by
  rw [Tells] at htells
  rw [version]
  cases hknown : (installed.findEngine path).1.version with
  | some version =>
    rw [hknown] at htells
    exact ⟨htells, rfl⟩
  | none =>
    rw [hknown] at htells
    dsimp only at htells
    simp only [Engine.version, htells, Except.map, and_self]

theorem exists_outdated_mem_remarks_iff
    (hlocate : Engine.locate environment workspace file = some (path, source))
    (htells : installed.Tells environment path raw) :
    (∃ message, .warnOnce ("outdated:" ++ path.text) message ∈
        (Installed.engine environment workspace file true installed).remarks) ↔
      ∃ version, Version.parse? raw = some version ∧ version.isOutdated = true := by
  have hkey : "outdated:" ++ path.text ≠ "global-prettier" := by
    intro hsame
    have hchars := congrArg String.toList hsame
    rw [String.toList_append] at hchars
    simp at hchars
  have hfound : ∀ message, .warnOnce ("outdated:" ++ path.text) message ∉
      (Engine.missing environment workspace file).toList.map missingRemark ++
        if source = .global then [globalRemark path] else [] := by
    intro message hmem
    rcases List.mem_append.mp hmem with hmissing | hglobal
    · obtain ⟨other, -, hremark⟩ := List.mem_map.mp hmissing
      cases hremark
    · split at hglobal
      next => exact hkey (Remark.warnOnce.inj (List.mem_singleton.mp hglobal)).1
      next => simp at hglobal
  obtain ⟨hanswer, hremarks⟩ := version_of_tells htells (installed.findEngine path).2
  rw [Installed.engine, hlocate]
  dsimp only
  rw [if_pos rfl]
  dsimp only
  rw [hanswer, hremarks, List.append_nil, versionRemarks]
  simp only [List.mem_append, hfound, false_or, List.mem_map, Option.mem_toList,
    Option.filter_eq_some_iff]
  constructor
  · rintro ⟨message, version, hversion, -⟩
    exact ⟨version, hversion⟩
  · rintro ⟨version, hversion⟩
    exact ⟨_, version, hversion, rfl⟩

end Installed

namespace Version

/-- Every way to write a version is read as that version. A text is not read exactly if the part in
front of its first dot, hyphen or plus is no number of 64 bits, and every text has such a part. An
engine that writes its version, in whatever way, is warned of exactly if the version is before
1.13.0. -/
theorem parse?_writes_and_outdated_iff :
    (∀ version raw, Writes version raw → parse? raw = some version) ∧
    (∀ raw, ∃ (wrapping : Wrapping) (head : String),
      raw = wrapping.wrap head ∧ wrapping.Encloses head) ∧
    (∀ (wrapping : Wrapping) (head : String), wrapping.Encloses head →
      (parse? (wrapping.wrap head) = none ↔ ¬IsDecimal head)) ∧
    ∀ (environment : Environment) (workspace : Workspace) (file : Option Path)
      (installed : Installed) (path : Path) (source : EngineSource) (version : Version)
      (raw : String) (ledger : Ledger),
      Engine.locate environment workspace file = some (path, source) →
      installed.Tells environment path raw → Writes version raw →
      "outdated:" ++ path.text ∉ ledger.keys →
      ((∃ message, .warned ("outdated:" ++ path.text) message ∈
          ((Run.start ledger installed).consult (.engine file true)
            (Installed.engine environment workspace file true)).2.events) ↔
        toLex (version.major, toLex (version.minor, version.patch)) <
          toLex (1, toLex (13, 0))) := by
  refine ⟨fun version raw => parse?_of_writes, exists_encloses,
    fun wrapping head => parse?_wrap_eq_none_iff, ?_⟩
  intro environment workspace file installed path source version raw ledger hlocate htells hwrites
    hnew
  have hremarks := Installed.exists_outdated_mem_remarks_iff hlocate htells
  rw [parse?_of_writes hwrites] at hremarks
  rw [Run.consult, ← isOutdated_iff]
  dsimp only
  rw [Run.exists_warned_remarks_iff]
  simp only [Run.start, Run.add, hnew, hremarks]
  simp

/-- A project with an engine that writes this and nothing else. -/
def projectTelling (raw : String) : Environment where
  disk := Disk.empty.place (["ws", "node_modules", ".bin", "prettier"].map Segment.ofString)
    (.program [] fun _ => ⟨0, Utf8.encode raw, []⟩)
  directory := []
  home := none
  searchPath := none
  configHome := none

/-- An old engine that names its release between blanks, and a text in which no number leads. -/
theorem release_of_old_engine_outdated :
    parse? " v1.12.9-rc.1+7\n" = some ⟨1, 12, 9⟩ ∧ parse? "v1x.12" = none ∧
      ∃ message, .warned "outdated:/ws/node_modules/.bin/prettier" message ∈
        ((Run.start .empty .empty).consult (.engine none true)
          (Installed.engine (projectTelling " v1.12.9-rc.1+7\n")
            ⟨.defaults, [], some (Path.ofString "/ws")⟩ none true)).2.events := by
  obtain ⟨hparse, -, hnone, hwarned⟩ := parse?_writes_and_outdated_iff
  have hwrites : Writes ⟨1, 12, 9⟩ " v1.12.9-rc.1+7\n" :=
    .full ⟨" ", true, "-rc.1+7", "\n", rfl, rfl, rfl⟩ 1 12 9
  refine ⟨hparse _ _ hwrites, ?_, ?_⟩
  · refine (hnone ⟨"", true, ".12", "", rfl, rfl, rfl⟩ "1x" ⟨rfl, nofun, nofun, nofun⟩).mpr ?_
    intro hdecimal
    exact absurd (hdecimal.2.1 'x' (by decide)) (by decide)
  · have hlocate : Engine.locate (projectTelling " v1.12.9-rc.1+7\n")
        ⟨.defaults, [], some (Path.ofString "/ws")⟩ none =
          some (Path.ofString "/ws/node_modules/.bin/prettier", .installed) := by
      decide +kernel
    have htells : Installed.empty.Tells (projectTelling " v1.12.9-rc.1+7\n")
        (Path.ofString "/ws/node_modules/.bin/prettier") " v1.12.9-rc.1+7\n" := by
      change Environment.textFrom _ _ _ _ _ _ = _
      decide +kernel
    have hbefore : toLex (1, toLex (12, 9)) < toLex (1, toLex (13, 0)) := by
      decide
    exact (hwarned _ _ _ _ _ _ _ _ .empty hlocate htells hwrites (by decide)).mpr hbefore

end Version

end FormatServer
