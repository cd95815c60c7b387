import FormatServer.Proofs.Command.Agreement

/-!
# The configuration that is required

Two parts of the pipeline ask which configuration file applies to a document, one after the other.
The gate of the required configuration searches the directories above the document. The options
take the file that the settings name, and search only if they name none. Without such a file both
ask the same question. With one, a document is skipped for want of a configuration although its
options have one, unless the search finds another that then is not used.
-/

namespace FormatServer

namespace Config

variable {environment : Environment} {options : Options}

theorem configFile_of_resolveOptions {resolved : Options}
    (hresolved : resolveOptions environment options = .ok resolved) :
    choose environment options = .ok resolved.configFile := by
  rw [resolveOptions] at hresolved
  cases hchosen : choose environment options with
  | error reason => simp [hchosen, bind, Except.bind] at hresolved
  | ok configFile =>
    cases configFile with
    | none =>
      simp only [hchosen, bind, Except.bind, Except.ok.injEq] at hresolved
      rw [← hresolved]
    | some file =>
      cases hcheck : check environment file with
      | error reason => simp [hchosen, hcheck, bind, Except.bind] at hresolved
      | ok _ =>
        simp only [hchosen, hcheck, bind, Except.bind, Except.ok.injEq] at hresolved
        rw [← hresolved]

theorem choose_eq_ok_none_iff :
    choose environment options = .ok none ↔
      options.configFile = none ∧ options.file.any (applies environment) = false := by
  rw [choose]
  cases options.configFile with
  | some file => by_cases hfile : environment.isFile file = true <;> simp [hfile]
  | none =>
    cases options.file with
    | none => simp
    | some file => simp [applies]

/-- The options can be had, and there is no configuration file for them. -/
def ResolvesToNone (environment : Environment) (options : Options) : Prop :=
  ∃ resolved, resolveOptions environment options = .ok resolved ∧ resolved.configFile = none

theorem resolvesToNone_iff :
    ResolvesToNone environment options ↔
      options.configFile = none ∧ options.file.any (applies environment) = false := by
  rw [← choose_eq_ok_none_iff]
  constructor
  · rintro ⟨resolved, hresolved, hnone⟩
    rw [configFile_of_resolveOptions hresolved, hnone]
  · intro hchosen
    refine ⟨{ options with configFile := none }, ?_, rfl⟩
    simp only [resolveOptions, hchosen, bind, Except.bind]

end Config

namespace Pipeline

section

variable {σ : Type} (services : Services σ) (workspace : Workspace) (request : Request) (state : σ)

/-- What it takes for a request to come to the gate of the required configuration. -/
structure ComesToConfig (engine : Engine) (parser : String) : Prop where
  enabled : request.language ∉ workspace.settings.disableLanguages
  found : (engineReply services request state).answer = .ok engine
  notIgnored : (infoBy services request engine).ignored = false
  parsed : parserBy services request engine = some parser

/-- The engine's word on whether the document is ignored, and the parser for it. -/
def assess : Option (Bool × Option String) :=
  (engineReply services request state).answer.toOption.map fun engine =>
    ((infoBy services request engine).ignored, parserBy services request engine)

end

variable {σ : Type} {services : Services σ} {workspace : Workspace} {request : Request}
  {run : Run σ} {engine : Engine} {parser : String}

theorem exists_engine_of_assess {state : σ}
    (henabled : request.language ∉ workspace.settings.disableLanguages)
    (hassess : assess services request state = some (false, some parser)) :
    ∃ engine, ComesToConfig services workspace request state engine parser := by
  obtain ⟨engine, hanswer, hassessed⟩ := Option.map_eq_some_iff.mp hassess
  obtain ⟨hignored, hparsed⟩ := Prod.mk.inj hassessed
  refine ⟨engine, henabled, ?_, hignored, hparsed⟩
  cases hfound : (engineReply services request state).answer with
  | error failure => simp [hfound, Except.toOption] at hanswer
  | ok found =>
    rw [hfound] at hanswer
    rw [Option.some.inj hanswer]

/-- A request that comes to the gate of the required configuration is left alone on purpose exactly
if the gate stops it. -/
theorem format_eq_ignored_iff
    (hcomes : ComesToConfig services workspace request run.services engine parser) :
    (format services workspace request run).1 = .ignored ↔
      lacksRequiredConfig services workspace request = true := by
  -- Only the last two gates are left, and of these the first alone ends in this way.
  have hranked : Gate.ranked.find? (Gate.stops services workspace request run.services) =
      [Gate.config, Gate.options].find? (Gate.stops services workspace request run.services) := by
    simp [Gate.ranked, Gate.stops, hcomes.enabled, hcomes.found, hcomes.notIgnored, hcomes.parsed,
      Except.toOption, List.find?_cons]
  cases hlacks : lacksRequiredConfig services workspace request with
  | true =>
    have hgate : Gate.ranked.find? (Gate.stops services workspace request run.services) =
        some .config := by
      have hconfig : Gate.stops services workspace request run.services .config = true := hlacks
      rw [hranked, List.find?_cons_of_pos hconfig]
    simp [(format_of_stops hgate).record.1, Gate.outcome]
  | false =>
    have hconfig : ¬Gate.stops services workspace request run.services .config = true := by
      simp [Gate.stops, hlacks]
    refine iff_of_false ?_ (by simp)
    cases hgate : Gate.ranked.find? (Gate.stops services workspace request run.services) with
    | some gate =>
      have hoptions : gate = .options := by
        rw [hranked, List.find?_cons_of_neg hconfig] at hgate
        simpa using List.mem_of_find?_eq_some hgate
      rw [(format_of_stops hgate).record.1, hoptions]
      simp [Gate.outcome]
    | none =>
      obtain ⟨engine, parser, options, hpasses⟩ := exists_passes_of_no_stop hgate
      rw [(format_of_passes hpasses).record.1]
      rcases Outcome.ofAttempt_cases request.text _ with ⟨htext, -⟩ | ⟨text, hformatted, -, -⟩
      · intro hignored
        rw [hignored] at htext
        simp [Outcome.text?] at htext
      · simp [hformatted]

/-- A document whose options have no configuration file is skipped for want of one. The converse
holds exactly if the settings name no file or one applies to the document anyway. -/
theorem skipped_iff_resolvesToNone_iff {environment : Environment} {languages : LanguageTable}
    {run : Run Installed} {file : Path}
    (hcomes : ComesToConfig (.standard environment workspace languages) workspace request
      run.services engine parser)
    (hrequired : workspace.settings.requireConfig = true) (hfile : request.file = some file) :
    let outcome := (format (.standard environment workspace languages) workspace request run).1
    (Config.ResolvesToNone environment (optionsFor workspace request parser) →
        outcome = .ignored) ∧
      ((outcome = .ignored ↔
          Config.ResolvesToNone environment (optionsFor workspace request parser)) ↔
        workspace.settings.configPath = none ∨ Config.applies environment file = true) := by
  have hskipped : lacksRequiredConfig (.standard environment workspace languages) workspace
      request = true ↔ Config.applies environment file = false := by
    simp [lacksRequiredConfig, hrequired, hfile, Services.standard]
  have hnone : Config.ResolvesToNone environment (optionsFor workspace request parser) ↔
      workspace.settings.configPath = none ∧ Config.applies environment file = false := by
    rw [Config.resolvesToNone_iff]
    simp [optionsFor, hfile]
  dsimp only
  rw [format_eq_ignored_iff hcomes, hskipped, hnone]
  cases Config.applies environment file with
  | true => simp
  | false => simp

/-! ### A file that the settings name -/

/-- A project that has the formatter and these files. -/
def projectWith (files : List (String × String)) : Environment :=
  let found := Command.echoing [] ""
  { found with
    disk := files.foldl (fun disk file =>
      disk.insert [Segment.ofString "ws", Segment.ofString file.1]
        (.file (Utf8.encode file.2))) found.disk }

/-- The project requires a configuration and names a file for it. -/
def namingShared : Workspace :=
  .single { Settings.defaults with requireConfig := true, configPath := some "shared.json" }
    (some (Location.path [Segment.ofString "ws"]))

def scriptRequest : Request :=
  .ofDocument (Command.projectUrl ["a.js"]) "javascript" "x"

/-- The document is formatted with the file that the settings name, since another one lies beside
it. -/
theorem shared_beside_rc_skipped_iff :
    let environment := projectWith [("shared.json", "\x7b\x7d"), (".prettierrc", "")]
    let services := Services.standard environment namingShared (namingShared.languages .empty)
    (format services namingShared scriptRequest (.start .empty .empty)).1 = .ignored ↔
      Config.ResolvesToNone environment (optionsFor namingShared scriptRequest "babel") := by
  intro environment services
  let run := Run.start Ledger.empty Installed.empty
  obtain ⟨engine, hcomes⟩ : ∃ engine, ComesToConfig services namingShared scriptRequest
      run.services engine "babel" :=
    exists_engine_of_assess (by decide +kernel) (by decide +kernel)
  have hiff := (skipped_iff_resolvesToNone_iff hcomes rfl rfl).2
  exact hiff.mpr (.inr (by decide +kernel))

/-- Without the other one the document is skipped for want of a configuration, although its options
have the file that the settings name. -/
theorem shared_alone_skipped :
    let environment := projectWith [("shared.json", "\x7b\x7d")]
    let services := Services.standard environment namingShared (namingShared.languages .empty)
    let options := optionsFor namingShared scriptRequest "babel"
    (∃ engine,
        ComesToConfig services namingShared scriptRequest Installed.empty engine "babel") ∧
      (format services namingShared scriptRequest (.start .empty .empty)).1 = .ignored ∧
      ¬Config.ResolvesToNone environment options ∧
      (Config.resolveOptions environment options).toOption.map Options.configFile =
        some (some (Path.ofString "/ws/shared.json")) := by
  intro environment services options
  refine ⟨exists_engine_of_assess (by decide +kernel) (by decide +kernel), by decide +kernel, ?_,
    by decide +kernel⟩
  intro hnone
  have hnamed : options.configFile.isSome = true := by decide +kernel
  simp [(Config.resolvesToNone_iff.mp hnone).1] at hnamed

end Pipeline

end FormatServer
