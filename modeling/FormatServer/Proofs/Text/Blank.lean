import FormatServer.Text.Blank
import Mathlib.Data.List.DropRight

/-!
# Blanks at the ends of a text

What is between the blanks at the ends of a text is what is left when they are taken away. Blanks
inside stay: from a character that is none on, only what follows it is trimmed at the end.
-/

namespace FormatServer

namespace Text

variable {core left right : List Char} {c : Char}

theorem trimEnd_nil : trimEnd [] = [] :=
  rfl

theorem trimEnd_eq_self (hlast : core.getLast?.all (fun c => !isBlank c) = true) :
    trimEnd core = core := by
  cases core using List.reverseRecOn with
  | nil => rfl
  | append_singleton rest c =>
    exact List.rdropWhile_concat_neg isBlank rest c (by simpa using hlast)

theorem trimEnd_append_blanks (core : List Char) (hright : right.all isBlank = true) :
    trimEnd (core ++ right) = trimEnd core := by
  rw [trimEnd, List.reverse_append, List.dropWhile_append_of_pos, trimEnd]
  simpa using hright

theorem trimEnd_concat (core : List Char) (hplain : isBlank c = false) :
    trimEnd (core ++ [c]) = core ++ [c] :=
  trimEnd_eq_self (by simp [hplain])

/-- From a character that is no blank on, only what follows it is trimmed. -/
theorem trimEnd_append_cons (core : List Char) (hplain : isBlank c = false) (rest : List Char) :
    trimEnd (core ++ c :: rest) = core ++ c :: trimEnd rest := by
  induction rest using List.reverseRecOn with
  | nil => exact trimEnd_concat core hplain
  | append_singleton rest d ih =>
    rw [← List.cons_append, ← List.append_assoc]
    by_cases hblank : isBlank d = true
    · rw [trimEnd_append_blanks _ (by simpa using hblank), ih,
        trimEnd_append_blanks rest (by simpa using hblank)]
    · rw [trimEnd_concat _ (by simpa using hblank), trimEnd_concat _ (by simpa using hblank),
        List.append_assoc, List.cons_append]

theorem trimEnd_cons (hplain : isBlank c = false) (rest : List Char) :
    trimEnd (c :: rest) = c :: trimEnd rest :=
  trimEnd_append_cons [] hplain rest

/-- Nothing is trimmed in front of what starts with no blank. -/
theorem trimEnd_append {suffix : List Char}
    (hfirst : suffix.head?.all (fun c => !isBlank c) = true)
    (hlast : suffix = [] → core.getLast?.all (fun c => !isBlank c) = true) :
    trimEnd (core ++ suffix) = core ++ trimEnd suffix := by
  cases suffix with
  | nil => rw [List.append_nil, trimEnd_nil, List.append_nil, trimEnd_eq_self (hlast rfl)]
  | cons c rest =>
    have hplain : isBlank c = false := by simpa using hfirst
    rw [trimEnd_append_cons core hplain, trimEnd_cons hplain]

theorem trim_between_blanks (hleft : left.all isBlank = true) (hright : right.all isBlank = true)
    (hfirst : core.head?.all (fun c => !isBlank c) = true) :
    trimEnd (trimStart (left ++ (core ++ right))) = trimEnd core := by
  rw [trimStart, List.dropWhile_append_of_pos (List.all_eq_true.mp hleft)]
  cases core with
  | nil =>
    rw [List.nil_append, List.dropWhile_eq_nil_iff.mpr (List.all_eq_true.mp hright)]
  | cons c rest =>
    have hplain : ¬isBlank c = true := by simpa using hfirst
    rw [List.cons_append, List.dropWhile_cons_of_neg hplain, ← List.cons_append,
      trimEnd_append_blanks _ hright]

theorem head?_trimStart (chars : List Char) :
    (trimStart chars).head?.all (fun c => !isBlank c) = true := by
  have hplain := List.head?_dropWhile_not isBlank chars
  cases hhead : (trimStart chars).head? with
  | none => rfl
  | some c =>
    rw [← trimStart, hhead] at hplain
    simpa using hplain

theorem getLast?_trimEnd (chars : List Char) :
    (trimEnd chars).getLast?.all (fun c => !isBlank c) = true := by
  rw [trimEnd, List.getLast?_reverse]
  exact head?_trimStart chars.reverse

/-- In every text there is something without blanks at its ends, between blanks. -/
theorem exists_between_blanks (chars : List Char) :
    ∃ left core right, chars = left ++ (core ++ right) ∧ left.all isBlank = true ∧
      right.all isBlank = true ∧ core.head?.all (fun c => !isBlank c) = true ∧
      core.getLast?.all (fun c => !isBlank c) = true := by
  have hsplit : trimEnd (trimStart chars) ++ (trimStart chars).rtakeWhile isBlank =
      trimStart chars :=
    List.rdropWhile_append_rtakeWhile
  refine ⟨chars.takeWhile isBlank, trimEnd (trimStart chars), (trimStart chars).rtakeWhile isBlank,
    ?_, List.all_takeWhile, List.all_eq_true.mpr fun c => List.mem_rtakeWhile_imp, ?_,
    getLast?_trimEnd _⟩
  · rw [hsplit]
    exact List.takeWhile_append_dropWhile.symm
  · have hfirst := head?_trimStart chars
    rw [← hsplit] at hfirst
    cases hcore : trimEnd (trimStart chars) with
    | nil => rfl
    | cons c rest =>
      rw [hcore] at hfirst
      exact hfirst

end Text

end FormatServer
