import FormatServer.Language.Table

/-!
# Folders within folders

Paths are compared by their components, so which folder lies in which is a matter of prefixes. Two
folders with a file in common are prefixes of the same list, hence one of them lies in the other,
and equally deep ones are the same.
-/

namespace FormatServer.Path

variable {first second third path folder : Path}

theorem sameAs_iff : first.sameAs second = true ↔ first.components = second.components := by
  simp [sameAs]

theorem sameAs_refl (path : Path) : path.sameAs path = true :=
  sameAs_iff.mpr rfl

theorem sameAs_comm (first second : Path) : first.sameAs second = second.sameAs first := by
  simp [sameAs, eq_comm]

theorem sameAs_trans (hfirst : first.sameAs second = true) (hsecond : second.sameAs third = true) :
    first.sameAs third = true :=
  sameAs_iff.mpr ((sameAs_iff.mp hfirst).trans (sameAs_iff.mp hsecond))

theorem sameAs_congr_right (h : first.sameAs second = true) (path : Path) :
    path.sameAs first = path.sameAs second := by
  rw [sameAs, sameAs, sameAs_iff.mp h]

theorem isIn_iff : path.isIn folder = true ↔ folder.components <+: path.components := by
  simp [isIn]

/-- It does not matter how a folder is written. -/
theorem isIn_congr_right (h : first.sameAs second = true) (path : Path) :
    path.isIn first = path.isIn second := by
  rw [isIn, isIn, sameAs_iff.mp h]

theorem isStrictlyIn_iff :
    path.isStrictlyIn folder = true ↔ path.isIn folder = true ∧ path.sameAs folder = false := by
  simp [isStrictlyIn]

theorem isIn_of_isStrictlyIn (h : path.isStrictlyIn folder = true) : path.isIn folder = true :=
  (isStrictlyIn_iff.mp h).1

/-- Of two folders with a path in common one lies in the other. -/
theorem isIn_or_isIn (hfirst : path.isIn first = true) (hsecond : path.isIn second = true) :
    first.isIn second = true ∨ second.isIn first = true := by
  rw [isIn_iff, isIn_iff]
  rw [isIn_iff] at hfirst hsecond
  exact (List.prefix_or_prefix_of_prefix hfirst hsecond).symm

/-- A path in one of two folders that lie apart is not in the other. -/
theorem isIn_eq_false_of_apart (hfirst : first.isIn second = false)
    (hsecond : second.isIn first = false) (hpath : path.isIn second = true) :
    path.isIn first = false := by
  rw [Bool.eq_false_iff]
  intro hin
  rcases isIn_or_isIn hin hpath with hinside | hinside
  · simp [hfirst] at hinside
  · simp [hsecond] at hinside

/-! ### The deepest of several candidates -/

section Deepest

variable {α : Type} (place : α → Path)

theorem deeper_eq_some (best : Option α) (candidate : α) :
    ∃ found, deeper place best candidate = some found ∧ (found = candidate ∨ best = some found) ∧
      (place candidate).depth ≤ (place found).depth ∧
      ∀ other, best = some other → (place other).depth ≤ (place found).depth := by
  unfold deeper
  cases best with
  | none => exact ⟨candidate, rfl, .inl rfl, Nat.le_refl _, by simp⟩
  | some found =>
    by_cases hdeeper : (place found).depth ≤ (place candidate).depth
    · refine ⟨candidate, by simp [hdeeper], .inl rfl, Nat.le_refl _, ?_⟩
      rintro other ⟨⟩
      exact hdeeper
    · refine ⟨found, by simp [hdeeper], .inr rfl, by omega, ?_⟩
      rintro other ⟨⟩
      exact Nat.le_refl _

theorem foldl_deeper (candidates : List α) (best : Option α) :
    (candidates.foldl (deeper place) best = none ↔ candidates = [] ∧ best = none) ∧
      ∀ found, candidates.foldl (deeper place) best = some found →
        (found ∈ candidates ∨ best = some found) ∧
        ∀ other, other ∈ candidates ∨ best = some other →
          (place other).depth ≤ (place found).depth := by
  induction candidates generalizing best with
  | nil =>
    refine ⟨by simp, ?_⟩
    intro found hfound
    refine ⟨.inr hfound, ?_⟩
    rintro other (hmem | hother)
    · simp at hmem
    · obtain rfl : other = found := Option.some.inj (hother.symm.trans hfound)
      exact Nat.le_refl _
  | cons candidate rest ih =>
    obtain ⟨next, hnext, horigin, hcandidate, hbest⟩ := deeper_eq_some place best candidate
    obtain ⟨hnone, hsome⟩ := ih (some next)
    rw [List.foldl_cons, hnext]
    refine ⟨by simpa using hnone, ?_⟩
    intro found hfound
    obtain ⟨hmem, hmax⟩ := hsome found hfound
    have hnextMax := hmax next (.inr rfl)
    refine ⟨?_, ?_⟩
    · rcases hmem with hmem | hsame
      · exact .inl (List.mem_cons_of_mem candidate hmem)
      · obtain rfl : next = found := Option.some.inj hsame
        rcases horigin with rfl | horigin
        · exact .inl List.mem_cons_self
        · exact .inr horigin
    · rintro other (hother | hother)
      · rcases List.mem_cons.mp hother with rfl | hother
        · exact Nat.le_trans hcandidate hnextMax
        · exact hmax other (.inl hother)
      · exact Nat.le_trans (hbest other hother) hnextMax

theorem deepest_eq_none_iff {candidates : List α} :
    deepest place candidates = none ↔ candidates = [] := by
  simpa [deepest] using (foldl_deeper place candidates none).1

theorem deepest_mem {candidates : List α} {found : α}
    (hfound : deepest place candidates = some found) : found ∈ candidates := by
  simpa using ((foldl_deeper place candidates none).2 found hfound).1

theorem depth_le_of_deepest {candidates : List α} {found : α}
    (hfound : deepest place candidates = some found) :
    ∀ other ∈ candidates, (place other).depth ≤ (place found).depth :=
  fun other hother => ((foldl_deeper place candidates none).2 found hfound).2 other (.inl hother)

/-- Where deeper places come first, what is found first is found in the deepest place. -/
theorem exists_deepest_of_findSome? {β : Type} {candidates : List α} {find? : α → Option β}
    {result : β}
    (hdescends : candidates.Pairwise fun first second => (place second).depth ≤ (place first).depth)
    (hfound : candidates.findSome? find? = some result) :
    ∃ found ∈ candidates, find? found = some result ∧
      ∀ other ∈ candidates, (find? other).isSome = true →
        (place other).depth ≤ (place found).depth := by
  obtain ⟨before, found, after, rfl, hthere, hbefore⟩ := List.findSome?_eq_some_iff.mp hfound
  refine ⟨found, by simp, hthere, fun other hother hholds => ?_⟩
  rcases List.mem_append.mp hother with hearlier | hlater
  · simp [hbefore other hearlier] at hholds
  · rcases List.mem_cons.mp hlater with rfl | hlater
    · exact Nat.le_refl _
    · exact (List.pairwise_cons.mp (List.pairwise_append.mp hdescends).2.1).1 other hlater

end Deepest

end FormatServer.Path
