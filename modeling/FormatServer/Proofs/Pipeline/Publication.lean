import FormatServer.Proofs.Pipeline.Gates

/-!
# One status and no stray text

Whoever asks for a document to be formatted sees two things of a run: the status that is published
and the text to put in place of the document's. A run is published once, as what its outcome is,
and the text it hands back is the document's own unless the one formatter that was run gave another.
-/

namespace FormatServer

/-- The text of an outcome is the source or what the attempt gave in its place. -/
theorem Outcome.ofAttempt_cases (source : String) (attempt : Attempt) :
    ((ofAttempt source attempt).text? = some source ∧
        ∀ text, ofAttempt source attempt ≠ .formatted text) ∨
      ∃ text, ofAttempt source attempt = .formatted text ∧ text ≠ source ∧
        attempt = .finished (.ok text) := by
  cases attempt with
  | panicked => exact .inl ⟨rfl, by simp [ofAttempt]⟩
  | finished result =>
    cases result with
    | error failure => exact .inl ⟨rfl, by simp [ofAttempt]⟩
    | ok text =>
      by_cases hsame : text = source
      · exact .inl (by simp [ofAttempt, hsame, Outcome.text?])
      · exact .inr ⟨text, by simp [ofAttempt, hsame], hsame, rfl⟩

namespace Pipeline

variable {σ : Type}

theorem Gate.outcome_text? (gate : Gate) : gate.outcome.text? = none := by
  cases gate <;> rfl

/-- The text of a run's outcome, if there is one, is that of the request or a formatted one. -/
theorem format_outcome_cases (services : Services σ) (workspace : Workspace) (request : Request)
    (run : Run σ) :
    let outcome := (format services workspace request run).1
    outcome.text? = none ∨
      (outcome.text? = some request.text ∧ ∀ text, outcome ≠ .formatted text) ∨
      ∃ text, outcome = .formatted text ∧ text ≠ request.text := by
  intro outcome
  rcases format_stops_or_executes services workspace request run with
    ⟨gate, hstops⟩ | ⟨engine, parser, options, -, hexecutes⟩
  · have houtcome : outcome = gate.outcome := hstops.record.1
    rw [houtcome]
    exact .inl gate.outcome_text?
  · have houtcome : outcome = .ofAttempt request.text _ := hexecutes.record.1
    rw [houtcome]
    rcases Outcome.ofAttempt_cases request.text _ with hkept | ⟨text, hformatted, hother, -⟩
    · exact .inr (.inl hkept)
    · exact .inr (.inr ⟨text, hformatted, hother⟩)

/-- A run publishes exactly one status, which is that of its outcome. If no formatter was run the
document is left to others. Else one was run, once, and the text is that of the request unless the
outcome is a formatted one: then it is another text, the one which that formatter gave. -/
theorem format_publishes_one_status (services : Services σ) (workspace : Workspace)
    (request : Request) (run : Run σ) :
    let result := format services workspace request run
    result.2.statuses = run.statuses ++ [result.1.status] ∧
    ((result.2.calls = run.calls ∧ result.1.text? = none) ∨
      ∃ engine parser options,
        (engineReply services request run.services).answer = .ok engine ∧
        let backend := chosenBackend services request run.services engine parser
        result.2.calls = run.calls ++ [⟨backend.name, request.text, options⟩] ∧
        ((result.1.text? = some request.text ∧ ∀ text, result.1 ≠ .formatted text) ∨
          ∃ text, result.1 = .formatted text ∧ text ≠ request.text ∧
            backend.invoke request.text options = .finished (.ok text))) := by
  intro result
  cases hgate : Gate.ranked.find? (Gate.stops services workspace request run.services) with
  | some gate =>
    obtain ⟨houtcome, hstatuses, hcalls⟩ := (format_of_stops hgate).record
    refine ⟨?_, .inl ⟨hcalls, ?_⟩⟩
    · rw [hstatuses, houtcome]
    · rw [houtcome, gate.outcome_text?]
  | none =>
    obtain ⟨engine, parser, options, hpasses⟩ := exists_passes_of_no_stop hgate
    obtain ⟨houtcome, hstatuses, hcalls⟩ := (format_of_passes hpasses).record
    refine ⟨hstatuses, .inr ⟨engine, parser, options, hpasses.found, hcalls, ?_⟩⟩
    rw [houtcome]
    exact Outcome.ofAttempt_cases request.text _

end Pipeline

end FormatServer
