import FormatServer.Proofs.Server.Handlers

/-!
# Changes that overtake each other

A handler that waits for the client may be overtaken by another one, and then undoes what that one
has done: the client's settings are those of the one, the settings in force those of the other. The
selectors and the registered pair come from the settings in force, so they are lost with them.
-/

namespace FormatServer

open Registrar SharedRegistrar Deed

namespace SharedSession

variable {environment : Environment} {start : Session} {past : List Traffic} {changes : List Data}
  {running : Option Nat} {shared last : SharedSession}

/-- As long as no settings are applied the selectors would be what they would have been. -/
theorem Agrees.computeSelectors_of_idle (hloaded : start.IsLoaded environment)
    (hagrees : Agrees environment start past changes running shared)
    (hidle : lastBy applied? shared.deeds = none) :
    shared.session.computeSelectors = start.computeSelectors := by
  have hsettings : shared.session.settings = start.settings := by
    have hinForce := hagrees.settings
    rw [hidle, givenBy] at hinForce
    exact Option.some.inj (hinForce.symm.trans hloaded.settings)
  have hlanguages : shared.session.folderLanguages = start.folderLanguages :=
    hagrees.folderLanguages.trans hloaded.folderLanguages.symm
  simp only [Session.computeSelectors, Session.languages, Session.workspace, hagrees.folders,
    hsettings, hlanguages]
  rfl

theorem Agrees.selectors_iff (hloaded : start.IsLoaded environment)
    (hagrees : Agrees environment start past changes running shared) :
    shared.session.selectors = shared.session.computeSelectors ↔
      lastBy applied? shared.deeds ≠ none ∨ start.selectors = start.computeSelectors := by
  by_cases hidle : lastBy applied? shared.deeds = none
  · rw [(hagrees.idle hidle).1, hagrees.computeSelectors_of_idle hloaded hidle]
    simp [hidle]
  · exact iff_of_true (hagrees.computed hidle) (.inl hidle)

/-- The configuration is current if the settings that were applied last are those that the client
gave last. -/
theorem Agrees.isCurrent_iff (hloaded : start.IsLoaded environment)
    (hagrees : Agrees environment start past changes running shared) :
    let given := givenBy start changes (lastBy stored? shared.deeds)
    let inForce := givenBy start changes (lastBy applied? shared.deeds)
    shared.session.IsCurrent environment given ↔
      (Settings.load environment start.root given).settings =
          (Settings.load environment start.root inForce).settings ∧
        (lastBy applied? shared.deeds ≠ none ∨ start.selectors = start.computeSelectors) := by
  intro given inForce
  have hselectors := hagrees.selectors_iff hloaded
  constructor
  · intro hcurrent
    have hgiven := hcurrent.settings
    rw [hagrees.root] at hgiven
    exact ⟨hgiven.trans hagrees.settings.symm, hselectors.mp hcurrent.selectors⟩
  · rintro ⟨hsame, hcomputed⟩
    refine ⟨?_, ?_, hselectors.mpr hcomputed⟩
    · rw [hagrees.root]
      exact hsame.trans hagrees.settings
    · rw [hagrees.folders]
      exact hagrees.folderLanguages

/-- The pair that is registered once all handlers have ended, if nothing failed. -/
theorem Agrees.hasPair_iff (hagrees : Agrees environment start past changes none shared)
    (hended : ∀ handling ∈ shared.handlers, handling = .ended)
    (hregisters : start.capabilities.registersBoth = true) (hsucceeds : Succeeds shared.traffic) :
    HasPair shared.session.selectors shared.registrations ↔
      lastBy applied? shared.deeds ≠ none ∨
        HasPair start.selectors (initial start past changes).registrations := by
  by_cases hidle : lastBy applied? shared.deeds = none
  · rw [(hagrees.idle hidle).1, (hagrees.idle hidle).2]
    simp [hidle]
  · obtain ⟨hcalled, hregistered⟩ := hagrees.registers hidle hregisters
    have hsettled := (hagrees.isEnded hended).2
    exact iff_of_true (hregistered.settled hcalled hsettled hsucceeds) (.inl hidle)

/-- Once all handlers have ended the client's settings are those that were stored last, and the
settings in force are those that were applied last. So the configuration is current exactly if these
two handlers load the same, and if some change had the selectors computed or they were computed at
the start. The registered pair has the selectors in force, unless there was no change to have it
replaced and it had others at the start. -/
theorem isCurrent_iff_of_ended (hloaded : start.IsLoaded environment)
    (hreaches : Reaches environment (initial start past changes) last)
    (hended : ∀ handling ∈ last.handlers, handling = .ended) :
    let given := givenBy start changes (lastBy stored? last.deeds)
    let inForce := givenBy start changes (lastBy applied? last.deeds)
    let changed := ∃ index, (settings? changes index).isSome = true
    last.session.client = given ∧
      (Settings.load environment start.root inForce).settings = some last.session.settings ∧
      (∀ index, (stored index ∈ last.deeds ↔ (settings? changes index).isSome = true) ∧
        (applied index ∈ last.deeds ↔ (settings? changes index).isSome = true)) ∧
      (last.session.IsCurrent environment given ↔
        (Settings.load environment start.root given).settings =
            (Settings.load environment start.root inForce).settings ∧
          (changed ∨ start.selectors = start.computeSelectors)) ∧
      (start.capabilities.registersBoth = true → Succeeds last.traffic →
        (HasPair last.session.selectors last.registrations ↔
          changed ∨ HasPair start.selectors (initial start past changes).registrations)) := by
  intro given inForce changed
  have hagrees := agrees_of_reaches hloaded hreaches
  have hdone := (hagrees.isEnded hended).1
  have hchanged : changed ↔ lastBy applied? last.deeds ≠ none := by
    constructor
    · rintro ⟨index, hours⟩
      exact lastBy_ne_none (hdone index hours).2 rfl
    · intro hsome
      obtain ⟨index, hlast⟩ := Option.ne_none_iff_exists'.mp hsome
      obtain ⟨deed, hmem, hdeed⟩ := exists_mem_of_lastBy hlast
      obtain rfl := eq_applied_of_applied? hdeed
      exact ⟨index, hagrees.ours _ hmem⟩
  refine ⟨hagrees.client, hagrees.settings, fun index => ⟨⟨?_, ?_⟩, ⟨?_, ?_⟩⟩, ?_, ?_⟩
  · exact hagrees.ours (stored index)
  · exact fun hours => (hdone index hours).1
  · exact hagrees.ours (applied index)
  · exact fun hours => (hdone index hours).2
  · rw [hchanged]
    exact hagrees.isCurrent_iff hloaded
  · intro hregisters hsucceeds
    rw [hchanged]
    exact hagrees.hasPair_iff hended hregisters hsucceeds

/-! ### Runs -/

/-- A client for which the formatter is registered, as it has begun. -/
def registeredStart : Session :=
  Session.opened (Session.openingData Session.dynamicData [Session.folderData "file:///ws" "ws"] [])
    []

/-- The pair has been registered at the start. -/
def registeredPast : List Traffic :=
  let request := ClientRequest.register (Registration.pair 0 registeredStart.selectors)
  [.sent request, .answered request none]

theorem isLoaded_registeredStart : registeredStart.IsLoaded Session.emptyFolder := by
  obtain ⟨history, hhandled, hready, hunchanging⟩ : ∃ history : History,
      registeredStart.HasHandled history ∧ history.IsReady ∧
        ∀ entry ∈ history, entry.1 = Session.emptyFolder :=
    Session.exists_ready_history Session.emptyFolder _ _ _ (by decide +kernel)
  have hcurrent := Session.isCurrent_of_hasHandled hhandled hready hunchanging
  refine ⟨?_, hcurrent.folderLanguages⟩
  rw [Session.readSettings, hhandled.follows.client]
  exact hcurrent.settings

theorem succeeds_of_registeredPast {more : List Traffic}
    (hanswered : IsAnswered (fun _ => none) more) : Succeeds (registeredPast ++ more) := by
  intro request failure hmem
  rcases List.mem_append.mp hmem with hpast | hmore
  · simp only [registeredPast, List.mem_cons, List.not_mem_nil, or_false, reduceCtorEq, false_or,
      Traffic.answered.injEq] at hpast
    exact hpast.2
  · exact hanswered request failure hmore

def settingsData (settings : Data) : Data :=
  .record [("prettier", settings)]

/-- A change that nothing overtakes is not lost. -/
theorem isCurrent_of_single_change :
    let changes := [settingsData Session.vueData]
    ∃ last, Reaches Session.emptyFolder (initial registeredStart registeredPast changes) last ∧
      (∀ handling ∈ last.handlers, handling = .ended) ∧
      last.session.client = some (.configuration, Session.vueData) ∧
      last.session.IsCurrent Session.emptyFolder last.session.client ∧
      HasPair last.session.selectors last.registrations := by
  intro changes
  have harrived : (initial registeredStart registeredPast changes).handlers[0]? =
      some (.arrived (settingsData Session.vueData)) := rfl
  obtain ⟨last, hreaches, halone⟩ := exists_isAlone_of_begin Session.emptyFolder (fun _ => none)
    (initial registeredStart registeredPast changes) harrived rfl (by simp [initial])
  have hended : ∀ handling ∈ last.handlers, handling = .ended := by
    rw [halone.handlers]
    intro handling hmem
    exact List.mem_singleton.mp hmem
  obtain ⟨hclient, -, hdone, hcurrent, hpair⟩ :=
    isCurrent_iff_of_ended isLoaded_registeredStart hreaches hended
  have hours : ∀ index, (settings? changes index).isSome = true → index = 0 := by
    intro index hsome
    cases index with
    | zero => rfl
    | succ index => simp [settings?, changes] at hsome
  have hstored : lastBy stored? last.deeds = some 0 := by
    refine lastBy_eq_of_only ((hdone 0).1.mpr rfl) rfl fun deed hmem index hdeed => ?_
    obtain rfl := eq_stored_of_stored? hdeed
    exact hours index ((hdone index).1.mp hmem)
  have happlied : lastBy applied? last.deeds = some 0 := by
    refine lastBy_eq_of_only ((hdone 0).2.mpr rfl) rfl fun deed hmem index hdeed => ?_
    obtain rfl := eq_applied_of_applied? hdeed
    exact hours index ((hdone index).2.mp hmem)
  have hsucceeds : Succeeds last.traffic := by
    obtain ⟨more, htraffic, hanswered⟩ := halone.answered
    rw [htraffic]
    exact succeeds_of_registeredPast hanswered
  rw [hstored, happlied] at hcurrent
  rw [hstored] at hclient
  refine ⟨last, hreaches, hended, hclient, ?_, ?_⟩
  · rw [hclient]
    exact hcurrent.mpr ⟨rfl, .inl ⟨0, rfl⟩⟩
  · exact (hpair (by decide +kernel) hsucceeds).mpr (.inl ⟨0, rfl⟩)

/-- A handler that has something to tell may be overtaken by the next one, whose settings are then
replaced by its own. -/
theorem exists_overtaken (environment : Environment) (client : Client) (start : Session)
    (past : List Traffic) (first second : Data) {settings : Data}
    (hfirst : settingsSection? first = some settings) :
    let begun := { start with client := some (.configuration, settings) }
    let loaded := begun.readSettings environment
    loaded.notices ≠ [] →
      ∃ last, Reaches environment (initial start past [first, second]) last ∧
        (∀ handling ∈ last.handlers, handling = .ended) ∧
        last.session = (((begun.configure environment client second).session.applySettings
          environment loaded).refresh client).session ∧
        ∃ more, last.traffic = past ++ more ∧ IsAnswered client more := by
  intro begun loaded hnotices
  obtain ⟨notice, rest, hsome⟩ := List.exists_cons_of_ne_nil hnotices
  let arrived := initial start past [first, second]
  let stored := (arrived.withSession begun).record (.stored 0)
  let telling := stored.leave 0 (.telling loaded notice rest)
  have hbegin : Step environment arrived telling := by
    have hstep : Step environment arrived (arrived.begin environment 0 first) := .begin rfl
    rw [SharedSession.begin, hfirst] at hstep
    change Step environment arrived (stored.proceed environment 0 loaded loaded.notices) at hstep
    rwa [hsome] at hstep
  -- The second handler begins and ends while the first one waits.
  have hsecondArrived : telling.handlers[1]? = some (.arrived second) := rfl
  obtain ⟨middle, hmiddle, hsecond⟩ := exists_isAlone_of_begin environment client telling
    hsecondArrived rfl (by simp [telling, stored, arrived, initial,
      SharedSession.leave, SharedSession.record, SharedSession.withSession])
  have hhandlers : middle.handlers = [.telling loaded notice rest, .ended] := hsecond.handlers
  have htell : Step environment middle (middle.tell environment 0 loaded notice rest) :=
    .tell (by rw [hhandlers]; rfl)
  let told := middle.record (.told 0 (.ofNotice notice))
  have hindex : 0 < told.handlers.length := by
    change 0 < middle.handlers.length
    rw [hhandlers]
    exact Nat.two_pos
  have hproceed := reaches_proceed environment loaded told hindex rest
  obtain ⟨last, hlast, hends⟩ := exists_isAlone_of_apply environment client loaded
    (told.tellAll 0 rest) hindex hsecond.free hsecond.idle
  refine ⟨last, .head hbegin (hmiddle.trans (.head htell (hproceed.trans hlast))), ?_, ?_, ?_⟩
  · have hdone : last.handlers = [.ended, .ended] := by
      rw [hends.handlers]
      change middle.handlers.set 0 .ended = _
      rw [hhandlers]
      rfl
    rw [hdone]
    simp
  · rw [hends.session]
    change ((middle.session.applySettings environment loaded).refresh client).session = _
    rw [hsecond.session]
    rfl
  · obtain ⟨before, hbefore, hanswered⟩ := hsecond.answered
    obtain ⟨after, hafter, hlater⟩ := hends.answered
    refine ⟨before ++ after, ?_, hanswered.append hlater⟩
    rw [hafter, ← List.append_assoc]
    exact congrArg (· ++ after) hbefore

/-- The languages of the client's first settings stay disabled when it has taken those back. The
files of the language are served no more by the pair that is registered in the end. -/
theorem overtaken_change_is_lost :
    let disabling := Data.record [("disableLanguages", .list [.text "javascript"])]
    let changes := [settingsData disabling, settingsData .null]
    registeredStart.IsLoaded Session.emptyFolder ∧
      ∃ last, Reaches Session.emptyFolder (initial registeredStart registeredPast changes) last ∧
        (∀ handling ∈ last.handlers, handling = .ended) ∧ Succeeds last.traffic ∧
        last.session.client = some (.configuration, .null) ∧
        ¬last.session.IsCurrent Session.emptyFolder last.session.client ∧
        HasPair last.session.selectors last.registrations ∧
        ∀ filter ∈ last.session.selectors.full, filter.language ≠ "javascript" := by
  intro disabling changes
  refine ⟨isLoaded_registeredStart, ?_⟩
  obtain ⟨last, hreaches, hended, hsession, more, htraffic, hanswered⟩ :=
    exists_overtaken Session.emptyFolder (fun _ => none) registeredStart registeredPast
      (settingsData disabling) (settingsData .null) rfl (by decide +kernel)
  have hclient : last.session.client = some (.configuration, .null) := by
    rw [hsession, Session.client_refresh]
    exact Session.client_configure _ _ rfl
  have hsucceeds : Succeeds last.traffic := by
    rw [htraffic]
    exact succeeds_of_registeredPast hanswered
  have hagrees := agrees_of_reaches isLoaded_registeredStart hreaches
  refine ⟨last, hreaches, hended, hsucceeds, hclient, ?_, ?_, ?_⟩
  · intro hcurrent
    have hgiven := congrArg (Option.map Settings.disableLanguages) hcurrent.settings
    rw [hclient, hsession] at hgiven
    revert hgiven
    decide +kernel
  · have happlied := ((hagrees.isEnded hended).1 0 rfl).2
    exact (hagrees.hasPair_iff hended (by decide +kernel) hsucceeds).mpr
      (.inl (lastBy_ne_none happlied rfl))
  · rw [hsession]
    decide +kernel

end SharedSession

end FormatServer
