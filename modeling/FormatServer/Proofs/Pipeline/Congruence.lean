import FormatServer.Proofs.Pipeline.Publication

/-!
# What the outcome of a run depends on

The outcome of a run is decided by the answers at the gates and by the one formatter that is run.
Two runs that get the same answers about their own documents have the same outcome, whatever else
their services would answer about other documents, and whatever the URLs of the documents are.
-/

namespace FormatServer.Pipeline

variable {σ : Type} {services other : Services σ} {workspace workspace' : Workspace}
  {request request' : Request} {state : σ} {engine : Engine} {parser : String} {options : Options}

/-- Two requests about which the services in use give the same answers. -/
structure Alike (services other : Services σ) (workspace workspace' : Workspace)
    (request request' : Request) : Prop where
  settings : workspace.settings = workspace'.settings
  file : request.file = request'.file
  language : request.language = request'.language
  text : request.text = request'.text
  engine : services.engine request.file true = other.engine request.file true
  linter : services.linter request.file = other.linter request.file
  parsers : services.parsers request.file request.language =
    other.parsers request.file request.language
  applicable : applicable services = applicable other
  ignorePath : ∀ file, request.file = some file → services.ignorePath file = other.ignorePath file
  hasConfig : services.hasConfig = other.hasConfig
  resolveOptions : services.resolveOptions = other.resolveOptions
  wanted : optionsFor workspace request = optionsFor workspace' request'

variable (halike : Alike services other workspace workspace' request request')

include halike

theorem engineReply_congr :
    engineReply services request state = engineReply other request' state := by
  rw [engineReply, engineReply, ← halike.file, halike.engine]

theorem infoBy_congr : infoBy services request engine = infoBy other request' engine := by
  rw [infoBy, infoBy, ← halike.file]
  cases hfile : request.file with
  | none => rfl
  | some file =>
    dsimp only
    rw [halike.ignorePath file hfile]

theorem parserBy_congr : parserBy services request = parserBy other request' := by
  funext engine
  rw [parserBy, parserBy, infoBy_congr halike, ← halike.file, ← halike.language, halike.parsers]

theorem lacksRequiredConfig_congr :
    lacksRequiredConfig services workspace request =
      lacksRequiredConfig other workspace' request' := by
  rw [lacksRequiredConfig, lacksRequiredConfig, halike.settings, ← halike.file, halike.hasConfig]

theorem firstInstalled_congr (linters : List Linter) (state : σ) :
    firstInstalled services request.file linters state =
      firstInstalled other request'.file linters state := by
  rw [← halike.file]
  induction linters generalizing state with
  | nil => rfl
  | cons linter rest ih =>
    rw [firstInstalled, firstInstalled, halike.linter, ih]

theorem chosenBackend_congr :
    chosenBackend services request state engine parser =
      chosenBackend other request' state engine parser := by
  rw [chosenBackend, chosenBackend, engineReply_congr halike, firstInstalled_congr halike,
    halike.applicable, halike.language]

theorem stops_congr : Gate.stops services workspace request state =
    Gate.stops other workspace' request' state := by
  funext gate
  cases gate with
  | language => rw [Gate.stops, Gate.stops, halike.settings, halike.language]
  | engine => rw [Gate.stops, Gate.stops, engineReply_congr halike]
  | ignoring =>
    rw [Gate.stops, Gate.stops, engineReply_congr halike]
    simp only [infoBy_congr halike]
  | parser => rw [Gate.stops, Gate.stops, engineReply_congr halike, parserBy_congr halike]
  | config => rw [Gate.stops, Gate.stops, lacksRequiredConfig_congr halike]
  | options =>
    rw [Gate.stops, Gate.stops, engineReply_congr halike, parserBy_congr halike,
      halike.resolveOptions, halike.wanted]

theorem Passes.congr (hpasses : Passes services workspace request state engine parser options) :
    Passes other workspace' request' state engine parser options where
  enabled := by
    rw [← halike.settings, ← halike.language]
    exact hpasses.enabled
  found := by
    rw [← engineReply_congr halike]
    exact hpasses.found
  notIgnored := by
    rw [← infoBy_congr halike]
    exact hpasses.notIgnored
  parsed := by
    rw [← parserBy_congr halike]
    exact hpasses.parsed
  configured := by
    rw [← lacksRequiredConfig_congr halike]
    exact hpasses.configured
  resolved := by
    rw [← halike.resolveOptions, ← halike.wanted]
    exact hpasses.resolved

theorem format_outcome_congr {run run' : Run σ} (hservices : run.services = run'.services) :
    (format services workspace request run).1 = (format other workspace' request' run').1 := by
  -- The first gate that stops the one run stops the other, and decides the outcome.
  cases hgate : Gate.ranked.find? (Gate.stops services workspace request run.services) with
  | some gate =>
    have hgate' : Gate.ranked.find? (Gate.stops other workspace' request' run'.services) =
        some gate := by
      rw [← stops_congr halike, ← hservices]
      exact hgate
    rw [(format_of_stops hgate).record.1, (format_of_stops hgate').record.1]
  | none =>
    obtain ⟨engine, parser, options, hpasses⟩ := exists_passes_of_no_stop hgate
    have hpasses' : Passes other workspace' request' run'.services engine parser options := by
      rw [← hservices]
      exact hpasses.congr halike
    rw [(format_of_passes hpasses).record.1, (format_of_passes hpasses').record.1,
      chosenBackend_congr halike, halike.text, hservices]

end FormatServer.Pipeline
