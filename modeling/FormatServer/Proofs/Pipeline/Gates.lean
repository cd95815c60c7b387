import FormatServer.Proofs.Pipeline.Record
import Mathlib.Tactic.ByContra

/-!
# The gates of the pipeline

A request has to pass six gates, in order, before a formatter is run on its text. What each gate
goes by is an answer of the services, and an answer at one gate may depend on those before it: the
parser on the engine, the options on the parser. The gates and the formatter that is chosen are
stated here on the answers alone, apart from the run that asks for them, and the pipeline is shown
to go by them: the first gate that stops a request decides its outcome, and a request that none
stops is formatted once.
-/

namespace FormatServer

@[simp]
theorem Settings.disables_iff {settings : Settings} {language : String} :
    settings.disables language = true ↔ language ∈ settings.disableLanguages :=
  List.contains_iff_mem

namespace Pipeline

variable {σ : Type}

section Answers

variable (services : Services σ) (workspace : Workspace) (request : Request) (state : σ)

def engineReply : Reply σ (Except Failure Engine) :=
  services.engine request.file true state

/-- Nothing is known of a document without a file, nor of one for which the engine fails to say. -/
def infoBy (engine : Engine) : FileInfo :=
  match request.file with
  | none => {}
  | some file =>
    match engine.fileInfo file (services.ignorePath file) with
    | .ok info => info
    | .error _ => {}

/-- The parser that the engine infers, else the first one for the language. -/
def parserBy (engine : Engine) : Option String :=
  (infoBy services request engine).inferredParser.or
    (services.parsers request.file request.language).head?

def lacksRequiredConfig : Bool :=
  workspace.settings.requireConfig && request.file.any fun file => !services.hasConfig file

/-- The first formatter that is found for the linters, each of which is looked for only if there is
none for those before it. -/
def firstInstalled (file : Option Path) : List Linter → σ → Option Backend
  | [], _ => none
  | linter :: rest, state =>
    let reply := services.linter file linter state
    reply.answer.or (firstInstalled file rest reply.state)

/-- The linters that a document goes to before the engine, the first one first: by the TypeScript
parser, by its language and by any parser for styles. -/
def applicable (language parser : String) : List Linter :=
  (if parser = "typescript" then [.tslint] else []) ++
    (if services.eslintTakes language then [.eslint] else []) ++
    if services.stylelintTakes parser then [.stylelint] else []

/-- The formatter of the first linter that applies and is installed, else the engine. -/
def chosenBackend (engine : Engine) (parser : String) : Backend :=
  (firstInstalled services request.file (applicable services request.language parser)
    (engineReply services request state).state).getD engine.toBackend

/-- What it takes for a formatter to be run. -/
structure Passes (engine : Engine) (parser : String) (options : Options) : Prop where
  enabled : request.language ∉ workspace.settings.disableLanguages
  found : (engineReply services request state).answer = .ok engine
  notIgnored : (infoBy services request engine).ignored = false
  parsed : parserBy services request engine = some parser
  configured : lacksRequiredConfig services workspace request = false
  resolved : services.resolveOptions (optionsFor workspace request parser) = .ok options

end Answers

/-- Where a request can be stopped. -/
inductive Gate where
  | language
  | engine
  | ignoring
  | parser
  | config
  | options

namespace Gate

def ranked : List Gate :=
  [language, engine, ignoring, parser, config, options]

/-- Whether the gate stops the request. Without the answer that it goes by it stops none. -/
def stops (services : Services σ) (workspace : Workspace) (request : Request) (state : σ) :
    Gate → Bool
  | language => request.language ∈ workspace.settings.disableLanguages
  | engine => (engineReply services request state).answer.toOption.isNone
  | ignoring =>
    (engineReply services request state).answer.toOption.any fun engine =>
      (infoBy services request engine).ignored
  | parser =>
    (engineReply services request state).answer.toOption.any fun engine =>
      (parserBy services request engine).isNone
  | config => lacksRequiredConfig services workspace request
  | options =>
    ((engineReply services request state).answer.toOption.bind (parserBy services request)).any
      fun parser => (services.resolveOptions (optionsFor workspace request parser)).toOption.isNone

/-- A gate either leaves the document alone on purpose or fails. -/
def outcome : Gate → Outcome
  | language | ignoring | config => .ignored
  | engine | parser | options => .failed none

end Gate

/-! ### What each part of the pipeline does -/

variable {services : Services σ} {workspace : Workspace} {request : Request} {run : Run σ}

theorem quiet_remindOfLegacy (settings : Settings) (url : Url) (run : Run σ) :
    run.Quiet (remindOfLegacy settings url run) := by
  rw [remindOfLegacy]
  split
  · exact Run.Quiet.refl run
  · exact Run.quiet_remark run _

@[simp]
theorem services_remindOfLegacy (settings : Settings) (url : Url) (run : Run σ) :
    (remindOfLegacy settings url run).services = run.services := by
  rw [remindOfLegacy]
  split
  · rfl
  · rw [Run.services_remark]

theorem classify_spec (services : Services σ) (engine : Engine) (request : Request)
    (run : Run σ) :
    (classify services engine request.file run).1 = infoBy services request engine ∧
      run.Quiet (classify services engine request.file run).2 ∧
      (classify services engine request.file run).2.services = run.services := by
  unfold classify infoBy
  cases request.file with
  | none => exact ⟨rfl, Run.Quiet.refl run, rfl⟩
  | some file =>
    have hasked : run.Quiet (run.add (.asked (.fileInfo file (services.ignorePath file)))) :=
      Run.quiet_ask run rfl
    cases hinfo : engine.fileInfo file (services.ignorePath file) with
    | ok info => simpa [hinfo] using hasked
    | error failure =>
      simp only [hinfo, true_and]
      exact ⟨hasked.trans (Run.quiet_log _ _ _ _), rfl⟩

theorem lacksConfig_spec (services : Services σ) (workspace : Workspace) (request : Request)
    (run : Run σ) :
    (lacksConfig services workspace.settings request.file run).1 =
        lacksRequiredConfig services workspace request ∧
      run.Quiet (lacksConfig services workspace.settings request.file run).2 ∧
      (lacksConfig services workspace.settings request.file run).2.services = run.services := by
  unfold lacksConfig lacksRequiredConfig
  cases workspace.settings.requireConfig with
  | false => exact ⟨rfl, Run.Quiet.refl run, rfl⟩
  | true =>
    cases request.file with
    | none => exact ⟨rfl, Run.Quiet.refl run, rfl⟩
    | some file =>
      have hasked : run.Quiet (run.add (.asked (.hasConfig file))) := Run.quiet_ask run rfl
      exact ⟨rfl, hasked, rfl⟩

/-- A linter that does not apply is not looked for. -/
theorem findLinter_spec (services : Services σ) (file : Option Path) (language parser : String)
    (linters : List Linter) (run : Run σ) :
    (findLinter services file language parser linters run).1 =
        firstInstalled services file
          (linters.filter (linterApplies services language parser)) run.services ∧
      run.Quiet (findLinter services file language parser linters run).2 := by
  induction linters generalizing run with
  | nil => exact ⟨rfl, Run.Quiet.refl run⟩
  | cons linter rest ih =>
    rw [findLinter]
    by_cases happlies : linterApplies services language parser linter = true
    · rw [List.filter_cons_of_pos happlies, if_pos happlies, firstInstalled]
      have hasked : run.Quiet (run.consult (.linter file linter) (services.linter file linter)).2 :=
        Run.quiet_consult run rfl _
      have hanswer := Run.fst_consult run (.linter file linter) (services.linter file linter)
      have hstate := Run.services_consult run (.linter file linter) (services.linter file linter)
      generalize run.consult (.linter file linter) (services.linter file linter) = consulted
        at hasked hanswer hstate ⊢
      obtain ⟨answer, after⟩ := consulted
      cases answer with
      | some backend => simpa [← hanswer] using hasked
      | none =>
        obtain ⟨hfound, hquiet⟩ := ih after
        refine ⟨?_, hasked.trans hquiet⟩
        rw [← hanswer, ← hstate]
        simpa using hfound
    · rw [List.filter_cons_of_neg happlies, if_neg happlies]
      exact ih run

/-- The linters are looked for in the order in which a document goes to them. -/
theorem filter_ranked_linterApplies (services : Services σ) (language parser : String) :
    Linter.ranked.filter (linterApplies services language parser) =
      applicable services language parser := by
  have hranked : Linter.ranked = [.tslint] ++ [.eslint] ++ [.stylelint] := rfl
  simp only [hranked, List.filter_append, List.filter_cons, List.filter_nil, linterApplies,
    decide_eq_true_eq, applicable]
  congr

theorem stopsWith_skip (run : Run σ) : run.StopsWith .ignored (skip run) :=
  ⟨run, Run.Quiet.refl run, rfl⟩

theorem stopsWith_fail (url : Url) (failure : Failure) (run : Run σ) :
    run.StopsWith (.failed none) (fail url failure run) :=
  ⟨_, Run.quiet_log run _ _ _, rfl⟩

/-! ### From the last gate to the first -/

variable {engine : Engine} {parser : String} {options : Options}

theorem exists_formatWith_eq_skip (engine : Engine) (parser : String) (run : Run σ)
    (hlacks : lacksRequiredConfig services workspace request = true) :
    ∃ after : Run σ, run.Quiet after ∧ after.services = run.services ∧
      formatWith services workspace request engine parser run = skip after := by
  obtain ⟨hanswer, hquiet, hservices⟩ := lacksConfig_spec services workspace request run
  rw [formatWith]
  generalize lacksConfig services workspace.settings request.file run = checked
    at hanswer hquiet hservices ⊢
  obtain ⟨lacks, after⟩ := checked
  obtain rfl : lacks = true := hanswer.trans hlacks
  exact ⟨after, hquiet, hservices, rfl⟩

theorem formatWith_of_lacksConfig (hlacks : lacksRequiredConfig services workspace request = true) :
    run.StopsWith .ignored (formatWith services workspace request engine parser run) := by
  obtain ⟨after, hquiet, -, hformat⟩ := exists_formatWith_eq_skip engine parser run hlacks
  rw [hformat]
  exact (stopsWith_skip after).after hquiet

/-- Past the gate of the configuration the options decide. -/
theorem formatWith_of_configured (engine : Engine) (parser : String) (run : Run σ)
    (hconfigured : lacksRequiredConfig services workspace request = false) :
    ∃ after : Run σ, run.Quiet after ∧ after.services = run.services ∧
      formatWith services workspace request engine parser run =
        match services.resolveOptions (optionsFor workspace request parser) with
        | .error reason => fail request.url (.options reason) after
        | .ok options =>
          let (linter, last) :=
            findLinter services request.file request.language parser Linter.ranked after
          last.execute (linter.getD engine.toBackend) request.text options := by
  obtain ⟨hanswer, hquiet, hservices⟩ := lacksConfig_spec services workspace request run
  rw [formatWith]
  generalize lacksConfig services workspace.settings request.file run = checked
    at hanswer hquiet hservices ⊢
  obtain ⟨lacks, after⟩ := checked
  obtain rfl : lacks = false := hanswer.trans hconfigured
  refine ⟨after.add (.asked (.resolveOptions (optionsFor workspace request parser))), ?_, ?_, rfl⟩
  · exact hquiet.trans (Run.quiet_ask after rfl)
  · rw [Run.services_add, hservices]

theorem formatWith_of_unresolved {reason : String}
    (hconfigured : lacksRequiredConfig services workspace request = false)
    (hreason : services.resolveOptions (optionsFor workspace request parser) = .error reason) :
    run.StopsWith (.failed none) (formatWith services workspace request engine parser run) := by
  obtain ⟨after, hquiet, -, hformat⟩ := formatWith_of_configured engine parser run hconfigured
  rw [hformat, hreason]
  exact (stopsWith_fail request.url _ after).after hquiet

theorem formatWith_of_resolved
    (hconfigured : lacksRequiredConfig services workspace request = false)
    (hresolved : services.resolveOptions (optionsFor workspace request parser) = .ok options) :
    run.Executes
      ((firstInstalled services request.file (applicable services request.language parser)
        run.services).getD engine.toBackend)
      request.text options (formatWith services workspace request engine parser run) := by
  obtain ⟨after, hquiet, hservices, hformat⟩ :=
    formatWith_of_configured engine parser run hconfigured
  obtain ⟨hfound, hsearched⟩ := findLinter_spec services request.file request.language parser
    Linter.ranked after
  rw [filter_ranked_linterApplies] at hfound
  rw [hformat, hresolved, ← hservices, ← hfound]
  exact ⟨_, hquiet.trans hsearched, rfl⟩

/-- The engine says whether the file is ignored and which parser fits it. -/
theorem formatBy_eq (services : Services σ) (workspace : Workspace) (request : Request)
    (engine : Engine) (run : Run σ) :
    ∃ after : Run σ, run.Quiet after ∧ after.services = run.services ∧
      formatBy services workspace request engine run =
        if (infoBy services request engine).ignored then skip after
        else
          match parserBy services request engine with
          | none => fail request.url (.parserNotFound request.language) after
          | some parser => formatWith services workspace request engine parser after := by
  obtain ⟨hinfo, hquiet, hservices⟩ := classify_spec services engine request run
  refine ⟨_, hquiet, hservices, ?_⟩
  rw [← hinfo]
  cases hparser : parserBy services request engine with
  | none =>
    rw [parserBy, ← hinfo] at hparser
    simp only [formatBy, hparser]
  | some parser =>
    rw [parserBy, ← hinfo] at hparser
    simp only [formatBy, hparser]

/-- A disabled language is skipped before it matters whether there is an engine. -/
theorem format_eq (services : Services σ) (workspace : Workspace) (request : Request)
    (run : Run σ) :
    ∃ after : Run σ, run.Quiet after ∧
      after.services = (engineReply services request run.services).state ∧
      format services workspace request run =
        if request.language ∈ workspace.settings.disableLanguages then skip after
        else
          match (engineReply services request run.services).answer with
          | .error failure => fail request.url failure after
          | .ok engine => formatBy services workspace request engine after := by
  let reminded := remindOfLegacy workspace.settings request.url run
  have hservices : reminded.services = run.services := services_remindOfLegacy _ _ run
  have hreminded : run.Quiet reminded := quiet_remindOfLegacy _ _ run
  have hasked : reminded.Quiet
      (reminded.consult (.engine request.file true) (services.engine request.file true)).2 :=
    Run.quiet_consult reminded rfl _
  refine ⟨_, hreminded.trans hasked, ?_, ?_⟩
  · rw [Run.services_consult, hservices, engineReply]
  · rw [engineReply, ← hservices]
    simp only [← Settings.disables_iff]
    rfl

/-! ### The first gate that stops a request -/

theorem format_of_stops {gate : Gate}
    (hgate : Gate.ranked.find? (Gate.stops services workspace request run.services) = some gate) :
    run.StopsWith gate.outcome (format services workspace request run) := by
  obtain ⟨asked, hasked, -, hformat⟩ := format_eq services workspace request run
  rw [hformat]
  by_cases hlanguage : request.language ∈ workspace.settings.disableLanguages
  · obtain rfl : .language = gate := by simpa [Gate.ranked, Gate.stops, hlanguage] using hgate
    rw [if_pos hlanguage]
    exact (stopsWith_skip asked).after hasked
  · rw [if_neg hlanguage]
    cases hengine : (engineReply services request run.services).answer with
    | error failure =>
      obtain rfl : .engine = gate := by
        simpa [Gate.ranked, Gate.stops, hlanguage, hengine, Except.toOption] using hgate
      exact (stopsWith_fail request.url failure asked).after hasked
    | ok engine =>
      obtain ⟨informed, hinformed, -, hformatBy⟩ :=
        formatBy_eq services workspace request engine asked
      have hquiet := hasked.trans hinformed
      simp only [hformatBy]
      cases hignored : (infoBy services request engine).ignored with
      | true =>
        obtain rfl : .ignoring = gate := by
          simpa [Gate.ranked, Gate.stops, hlanguage, hengine, hignored, Except.toOption]
            using hgate
        exact (stopsWith_skip informed).after hquiet
      | false =>
        cases hparser : parserBy services request engine with
        | none =>
          obtain rfl : .parser = gate := by
            simpa [Gate.ranked, Gate.stops, hlanguage, hengine, hignored, hparser,
              Except.toOption] using hgate
          exact (stopsWith_fail request.url _ informed).after hquiet
        | some parser =>
          cases hlacks : lacksRequiredConfig services workspace request with
          | true =>
            obtain rfl : .config = gate := by
              simpa [Gate.ranked, Gate.stops, hlanguage, hengine, hignored, hparser, hlacks,
                Except.toOption] using hgate
            exact (formatWith_of_lacksConfig hlacks).after hquiet
          | false =>
            cases hresolve : services.resolveOptions (optionsFor workspace request parser) with
            | error reason =>
              obtain rfl : .options = gate := by
                simpa [Gate.ranked, Gate.stops, hlanguage, hengine, hignored, hparser, hlacks,
                  hresolve, Except.toOption] using hgate
              exact (formatWith_of_unresolved hlacks hresolve).after hquiet
            | ok options =>
              simp [Gate.ranked, Gate.stops, hlanguage, hengine, hignored, hparser, hlacks,
                hresolve, Except.toOption] at hgate

theorem format_of_passes
    (hpasses : Passes services workspace request run.services engine parser options) :
    run.Executes (chosenBackend services request run.services engine parser) request.text options
      (format services workspace request run) := by
  obtain ⟨asked, hasked, hstate, hformat⟩ := format_eq services workspace request run
  obtain ⟨informed, hinformed, hkept, hformatBy⟩ :=
    formatBy_eq services workspace request engine asked
  have hexecutes : informed.Executes _ request.text options
      (formatWith services workspace request engine parser informed) :=
    formatWith_of_resolved hpasses.configured hpasses.resolved
  rw [hkept, hstate] at hexecutes
  simp only [hformat, if_neg hpasses.enabled, hpasses.found, hformatBy, hpasses.notIgnored,
    hpasses.parsed, Bool.false_eq_true, if_false]
  exact hexecutes.after (hasked.trans hinformed)

/-- A request passes if no gate stops it. -/
theorem exists_passes_of_no_stop {state : σ}
    (hgate : Gate.ranked.find? (Gate.stops services workspace request state) = none) :
    ∃ engine parser options,
      Passes services workspace request state engine parser options := by
  have hpassed : ∀ gate ∈ Gate.ranked, gate.stops services workspace request state = false := by
    simpa using List.find?_eq_none.mp hgate
  have hengine := hpassed .engine (by simp [Gate.ranked])
  have hignored := hpassed .ignoring (by simp [Gate.ranked])
  have hparser := hpassed .parser (by simp [Gate.ranked])
  have hresolve := hpassed .options (by simp [Gate.ranked])
  simp only [Gate.stops] at hengine hignored hparser hresolve
  cases hfound : (engineReply services request state).answer with
  | error failure => simp [hfound, Except.toOption] at hengine
  | ok engine =>
    simp only [hfound, Except.toOption, Option.any_some, Option.bind_some]
      at hignored hparser hresolve
    obtain ⟨parser, hparsed⟩ := Option.isSome_iff_exists.mp (by simpa using hparser)
    rw [hparsed, Option.any_some] at hresolve
    cases hresolved : services.resolveOptions (optionsFor workspace request parser) with
    | error reason => simp [hresolved] at hresolve
    | ok options =>
      have hlanguage := of_decide_eq_false (hpassed .language (by simp [Gate.ranked]))
      exact ⟨engine, parser, options, hlanguage, hfound, hignored, hparsed,
        hpassed .config (by simp [Gate.ranked]), hresolved⟩

theorem format_stops_or_executes (services : Services σ) (workspace : Workspace)
    (request : Request) (run : Run σ) :
    (∃ gate : Gate, run.StopsWith gate.outcome (format services workspace request run)) ∨
      ∃ engine parser options,
        Passes services workspace request run.services engine parser options ∧
        run.Executes (chosenBackend services request run.services engine parser) request.text
          options (format services workspace request run) := by
  cases hgate : Gate.ranked.find? (Gate.stops services workspace request run.services) with
  | some gate => exact .inl ⟨gate, format_of_stops hgate⟩
  | none =>
    obtain ⟨engine, parser, options, hpasses⟩ := exists_passes_of_no_stop hgate
    exact .inr ⟨engine, parser, options, hpasses, format_of_passes hpasses⟩

/-- A formatter is run exactly if the request passes every gate. Then it is the chosen one, run once
on the text of the request with the options that were found, and no other is run whatever comes of
it. If the request does not pass, the first gate that stops it decides the outcome. -/
theorem format_calls_iff_passes (services : Services σ) (workspace : Workspace)
    (request : Request) (run : Run σ) :
    let result := format services workspace request run
    (result.2.calls ≠ run.calls ↔
      ∃ engine parser options,
        Passes services workspace request run.services engine parser options) ∧
    (∀ engine parser options,
      Passes services workspace request run.services engine parser options →
        let backend := chosenBackend services request run.services engine parser
        result.2.calls = run.calls ++ [⟨backend.name, request.text, options⟩] ∧
          result.1 = .ofAttempt request.text (backend.invoke request.text options)) ∧
    ((¬∃ engine parser options,
        Passes services workspace request run.services engine parser options) →
      ∃ gate,
        Gate.ranked.find? (Gate.stops services workspace request run.services) = some gate ∧
          result.2.calls = run.calls ∧ result.1 = gate.outcome) := by
  intro result
  have hruns : ∀ engine parser options,
      Passes services workspace request run.services engine parser options →
        let backend := chosenBackend services request run.services engine parser
        result.2.calls = run.calls ++ [⟨backend.name, request.text, options⟩] ∧
          result.1 = .ofAttempt request.text (backend.invoke request.text options) := by
    intro engine parser options hpasses
    obtain ⟨houtcome, -, hcalls⟩ := (format_of_passes hpasses).record
    exact ⟨hcalls, houtcome⟩
  have hstops : (¬∃ engine parser options,
      Passes services workspace request run.services engine parser options) →
        ∃ gate,
          Gate.ranked.find? (Gate.stops services workspace request run.services) = some gate ∧
            result.2.calls = run.calls ∧ result.1 = gate.outcome := by
    intro hnot
    cases hgate : Gate.ranked.find? (Gate.stops services workspace request run.services) with
    | none => exact absurd (exists_passes_of_no_stop hgate) hnot
    | some gate =>
      obtain ⟨houtcome, -, hcalls⟩ := (format_of_stops hgate).record
      exact ⟨gate, rfl, hcalls, houtcome⟩
  refine ⟨⟨?_, ?_⟩, hruns, hstops⟩
  · intro hcalls
    by_contra hnot
    obtain ⟨-, -, hsame, -⟩ := hstops hnot
    exact hcalls hsame
  · rintro ⟨engine, parser, options, hpasses⟩ hsame
    rw [(hruns engine parser options hpasses).1] at hsame
    simp at hsame

end Pipeline

end FormatServer
