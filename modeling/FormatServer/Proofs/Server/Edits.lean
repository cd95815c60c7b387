import FormatServer.Proofs.Pipeline.Publication
import FormatServer.Proofs.Text.Application
import FormatServer.Server.Session

/-!
# The edits of an answer

An answer carries no text but the edits that lead to it, and a client that applies them has to end
up with the text of the outcome, or with its own where nothing was formatted.
-/

namespace FormatServer.Session

variable {source text : String}

theorem length_editsFor (source : String) (outcome : Outcome) :
    (editsFor source outcome).length ≤ 1 := by
  rw [editsFor]
  cases outcome.text?.bind (Edit.replacing source) with
  | none => exact Nat.zero_le 1
  | some edit => exact Nat.le_refl 1

theorem editsFor_eq_nil_iff (source : String) (outcome : Outcome) :
    editsFor source outcome = [] ↔ outcome.text? = none ∨ outcome.text? = some source := by
  rw [editsFor, Option.toList_eq_nil_iff, Option.bind_eq_none_iff]
  cases outcome.text? with
  | none => simp
  | some text =>
    by_cases hsame : source = text
    · simp [Edit.replacing, hsame]
    · simp [Edit.replacing, hsame, Ne.symm hsame]

/-- The edits lead to the outcome's text, if it has one, unless a part of the old text is left. -/
theorem applyAll_editsFor_iff (source : String) (outcome : Outcome) :
    Edit.applyAll (editsFor source outcome) source = outcome.text?.getD source ↔
      Text.HasEndPosition source ∨ editsFor source outcome = [] := by
  rw [editsFor]
  cases outcome.text? with
  | none => exact iff_of_true rfl (.inr rfl)
  | some text =>
    rw [Option.bind_some, Option.getD_some]
    cases hedit : Edit.replacing source text with
    | none =>
      have hsame : source = text := by
        rw [Edit.replacing] at hedit
        simpa using hedit
      exact iff_of_true hsame (.inr rfl)
    | some edit =>
      have hedits : (some edit).toList ≠ [] := List.cons_ne_nil edit []
      rw [or_iff_left hedits]
      exact Edit.apply_replacing_iff hedit

theorem applyAll_editsFor (hsource : Text.IsAddressable source) (outcome : Outcome) :
    Edit.applyAll (editsFor source outcome) source = outcome.text?.getD source :=
  (applyAll_editsFor_iff source outcome).mpr (.inl hsource.hasEndPosition)

/-- Applied to the document, the edits for a run's outcome leave what was formatted, and the
document as it was if nothing was. There is no edit unless there is another text. -/
theorem applyAll_editsFor_format {σ : Type} (services : Services σ) (workspace : Workspace)
    (request : Request) (run : Run σ) (hsource : Text.IsAddressable request.text) :
    let outcome := (Pipeline.format services workspace request run).1
    let edits := editsFor request.text outcome
    edits.length ≤ 1 ∧
      (∀ text, outcome = .formatted text →
        text ≠ request.text ∧ Edit.applyAll edits request.text = text) ∧
      ((∀ text, outcome ≠ .formatted text) →
        Edit.applyAll edits request.text = request.text) ∧
      (edits = [] ↔ outcome.text? = none ∨ outcome.text? = some request.text) := by
  intro outcome edits
  have happlied : Edit.applyAll edits request.text = outcome.text?.getD request.text :=
    applyAll_editsFor hsource outcome
  have hcases := Pipeline.format_outcome_cases services workspace request run
  refine ⟨length_editsFor request.text outcome, ?_, ?_, editsFor_eq_nil_iff request.text outcome⟩
  · intro text hformatted
    rw [happlied, hformatted]
    refine ⟨?_, rfl⟩
    rcases hcases with hnone | ⟨-, hnot⟩ | ⟨other, hother, hdiffers⟩
    · have hsome : outcome.text? = some text := by rw [hformatted, Outcome.text?]
      simp [outcome, hnone] at hsome
    · exact absurd hformatted (hnot text)
    · have hsame : other = text := Outcome.formatted.inj (hother.symm.trans hformatted)
      rw [← hsame]
      exact hdiffers
  · intro hnot
    rw [happlied]
    rcases hcases with hnone | ⟨hkept, -⟩ | ⟨text, hformatted, -⟩
    · rw [hnone, Option.getD_none]
    · rw [hkept, Option.getD_some]
    · exact absurd hformatted (hnot text)

def constantEngine (text : String) : Engine where
  name := "prettier"
  invoke _ _ := .finished (.ok text)
  fileInfo _ _ := .ok {}

/-- An engine that gives the same text for every document, and no other services. -/
def constantServices (text : String) : Services Unit where
  engine _ _ _ := ⟨.ok (constantEngine text), [], ()⟩
  linter _ _ _ := ⟨none, [], ()⟩
  parsers _ _ := ["babel"]
  eslintTakes _ := false
  stylelintTakes _ := false
  ignorePath _ := none
  hasConfig _ := false
  resolveOptions options := .ok options

def untitledRequest (text : String) : Request where
  url := ⟨"untitled", ("", none), none, none, .plain "a", none, none⟩
  language := "javascript"
  text := text
  file := none
  span := none

/-- Ends of all three kinds, and characters of two units. -/
theorem applyAll_editsFor_mixed_ends :
    Edit.applyAll (editsFor "a\r😀\r\n\nb😀" (Pipeline.format (constantServices "a\n")
        ⟨.defaults, [], none⟩ (untitledRequest "a\r😀\r\n\nb😀") (.start .empty ())).1)
      "a\r😀\r\n\nb😀" = "a\n" := by
  have hedits := applyAll_editsFor_format (constantServices "a\n") ⟨.defaults, [], none⟩
    (untitledRequest "a\r😀\r\n\nb😀") (.start .empty ()) (by decide)
  exact (hedits.2.1 "a\n" (by decide)).2

end FormatServer.Session
