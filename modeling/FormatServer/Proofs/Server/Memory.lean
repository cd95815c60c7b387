import FormatServer.Proofs.Server.Acceptance
import FormatServer.Proofs.Server.History

/-!
# A configuration without a memory

While nothing changes around a session its configuration is what a fresh load would make it, from
the root and the folders that it has now and from the settings that the client gave last. Nothing
else of what came before is left in it. Whether a document is accepted depends on one more thing,
which no message changes: a client with which the formatter is registered knows by itself which
documents to ask for, so all of its requests are served.
-/

namespace FormatServer

namespace LoadedLayer

/-- It does not matter in which way the client gave its settings. -/
theorem layer_ofClient (source : ClientSource) (data : Data) :
    (ofClient (some (source, data))).layer =
      if data.isNull then none else (Layer.decode (withoutSectionKey data)).toOption := by
  cases data with
  | null => rfl
  | bool | integer | decimal | text | list | record =>
    rw [ofClient]
    · split
      next layer hlayer => simp [hlayer, Data.isNull, Except.toOption]
      next error herror => simp [herror, Data.isNull, Except.toOption]
    · simp

theorem layer_ofClient_congr {first second : Option (ClientSource × Data)}
    (hsame : first.map Prod.snd = second.map Prod.snd) :
    (ofClient first).layer = (ofClient second).layer := by
  cases first with
  | none =>
    cases second with
    | none => rfl
    | some given => simp at hsame
  | some given =>
    cases second with
    | none => simp at hsame
    | some other =>
      have hdata : given.2 = other.2 := by simpa using hsame
      rw [layer_ofClient, layer_ofClient, hdata]

end LoadedLayer

theorem Settings.settings_load_congr {first second : Option (ClientSource × Data)}
    (environment : Environment) (root : Option Path)
    (hsame : first.map Prod.snd = second.map Prod.snd) :
    (load environment root first).settings = (load environment root second).settings := by
  simp only [load, LoadedLayer.layer_ofClient_congr hsame]

namespace Session

/-- The settings, the folders' languages and the selectors are what a fresh load makes them. -/
structure IsCurrent (environment : Environment) (given : Option (ClientSource × Data))
    (session : Session) : Prop where
  settings : (Settings.load environment session.root given).settings = some session.settings
  folderLanguages : session.folderLanguages = .load environment session.folders
  selectors : session.selectors = Selectors.compute
    (LanguageTable.mk session.settings.languages session.folderLanguages).scopes session.folders
    session.settings.disableLanguages

variable {session other : Session} {environment : Environment} {client : Client}
  {history otherHistory : History}

theorem source?_of_unchanging (hunchanging : ∀ entry ∈ history, entry.1 = environment)
    {source : Environment} (hsource : history.source? = some source) : source = environment := by
  obtain ⟨entry, hfound, rfl⟩ := Option.map_eq_some_iff.mp hsource
  exact hunchanging entry (List.mem_of_find?_eq_some hfound)

theorem isCurrent_of_follows (hfollows : session.Follows history) (hready : history.IsReady)
    {source : Environment} (hsource : history.source? = some source) :
    session.IsCurrent source history.given? := by
  obtain ⟨found, hfound, hloaded⟩ := hfollows.loaded hready.ne_nil
  obtain rfl := Option.some.inj (hfound.symm.trans hsource)
  have hsettings := hloaded.settings
  rw [readSettings, hfollows.client] at hsettings
  exact ⟨hsettings, hloaded.folderLanguages, hfollows.computed hready⟩

theorem isCurrent_of_hasHandled (hhandled : session.HasHandled history) (hready : history.IsReady)
    (hunchanging : ∀ entry ∈ history, entry.1 = environment) :
    session.IsCurrent environment history.given? := by
  obtain ⟨source, hsource⟩ := hhandled.exists_source hready.ne_nil
  obtain rfl := source?_of_unchanging hunchanging hsource
  exact isCurrent_of_follows hhandled.follows hready hsource

/-- Two current sessions with the same root, folders and settings of the client are configured
alike. -/
theorem IsCurrent.unique {given otherGiven : Option (ClientSource × Data)}
    (hsession : session.IsCurrent environment given)
    (hother : other.IsCurrent environment otherGiven) (hroot : other.root = session.root)
    (hfolders : other.folders = session.folders)
    (hgiven : otherGiven.map Prod.snd = given.map Prod.snd) :
    other.settings = session.settings ∧ other.folderLanguages = session.folderLanguages ∧
      other.selectors = session.selectors := by
  have hsettings : other.settings = session.settings := by
    have hloaded := hother.settings
    rw [hroot, Settings.settings_load_congr environment session.root hgiven, hsession.settings]
      at hloaded
    exact (Option.some.inj hloaded).symm
  have hlanguages : other.folderLanguages = session.folderLanguages := by
    rw [hother.folderLanguages, hfolders, hsession.folderLanguages]
  refine ⟨hsettings, hlanguages, ?_⟩
  rw [hother.selectors, hsettings, hlanguages, hfolders, ← hsession.selectors]

/-- While nothing changes around it, a session that is ready has the configuration of a fresh load.
So sessions that end with the same root and folders and the same settings of the client have the
same configuration, and accept the same documents if both clients have the formatter registered or
neither does. -/
theorem isCurrent_and_accepts_alike (hhandled : session.HasHandled history)
    (hready : history.IsReady) (hunchanging : ∀ entry ∈ history, entry.1 = environment) :
    session.IsCurrent environment history.given? ∧
      ∀ (other : Session) (otherHistory : History), other.HasHandled otherHistory →
        otherHistory.IsReady → (∀ entry ∈ otherHistory, entry.1 = environment) →
        other.root = session.root → other.folders = session.folders →
        otherHistory.given?.map Prod.snd = history.given?.map Prod.snd →
          (other.settings = session.settings ∧
            other.folderLanguages = session.folderLanguages ∧
            other.selectors = session.selectors) ∧
          (other.capabilities.registersBoth = session.capabilities.registersBoth →
            ∀ url language isRange,
              other.accepts url language isRange = session.accepts url language isRange) := by
  have hcurrent := isCurrent_of_hasHandled hhandled hready hunchanging
  refine ⟨hcurrent, ?_⟩
  intro other otherHistory hotherHandled hotherReady hotherUnchanging hroot hfolders hgiven
  have halike := hcurrent.unique
    (isCurrent_of_hasHandled hotherHandled hotherReady hotherUnchanging) hroot hfolders hgiven
  refine ⟨halike, fun hregisters url language isRange => ?_⟩
  rw [accepts, accepts, hregisters, halike.2.2]

/-! ### Clients that come to the same end -/

def emptyFolder : Environment :=
  .ofSettings [Segment.ofString "ws"] ""

def openingData (capabilities : Data) (folders : List Data) (options : List (String × Data)) :
    Data :=
  .record ([("capabilities", capabilities), ("workspaceFolders", .list folders)] ++ options)

/-- The session of a client that begins in this way and goes on with these messages. -/
def opened (parameters : Data) (messages : List (String × Data)) : Session :=
  initial.receiveAll emptyFolder (fun _ => none)
    (("initialize", parameters) :: ("initialized", .record []) :: messages)

def vueData : Data :=
  .record [("languages", .record [("vue", .list [.text "markdown"])])]

def configuredData (settings : Data) : String × Data :=
  ("workspace/didChangeConfiguration", .record [("settings", settings)])

/-- The client gives its settings at once. -/
def givenAtOnce : Session :=
  opened (openingData (.record []) [folderData "file:///ws" "ws"]
    [("initializationOptions", vueData)]) []

/-- The client gives them after settings that cannot be read, others that are not for the server,
and a folder that it closes again. -/
def givenLate : Session :=
  opened
    (openingData (.record []) [folderData "file:///ws" "ws", folderData "file:///old" "old"] [])
    [configuredData (.record [("prettier", .integer 1)]),
      configuredData (.record [("editor", .record [])]),
      ("workspace/didChangeWorkspaceFolders", .record [("event", .record [
        ("added", .list []), ("removed", .list [folderData "file:///old" "old"])])]),
      configuredData (.record [("prettier", vueData)])]

theorem givenAtOnce_and_givenLate_accept_alike :
    (∃ history, givenAtOnce.HasHandled history ∧
        givenAtOnce.IsCurrent emptyFolder history.given?) ∧
      givenLate.settings = givenAtOnce.settings ∧ givenLate.selectors = givenAtOnce.selectors ∧
      ∀ url language isRange,
        givenLate.accepts url language isRange = givenAtOnce.accepts url language isRange := by
  obtain ⟨history, hhandled, hready, hunchanging⟩ : ∃ history : History,
      givenAtOnce.HasHandled history ∧ history.IsReady ∧ ∀ entry ∈ history, entry.1 = emptyFolder :=
    exists_ready_history emptyFolder _ _ _ (by decide +kernel)
  obtain ⟨late, hlate, hlateReady, hlateUnchanging⟩ : ∃ history : History,
      givenLate.HasHandled history ∧ history.IsReady ∧ ∀ entry ∈ history, entry.1 = emptyFolder :=
    exists_ready_history emptyFolder _ _ _ (by decide +kernel)
  obtain ⟨hcurrent, halike⟩ := isCurrent_and_accepts_alike hhandled hready hunchanging
  have hgiven : late.given?.map Prod.snd = history.given?.map Prod.snd := by
    rw [← hlate.follows.client, ← hhandled.follows.client]
    rfl
  obtain ⟨⟨hsettings, -, hselectors⟩, haccepts⟩ := halike givenLate late hlate hlateReady
    hlateUnchanging (by decide +kernel) (by decide +kernel) hgiven
  exact ⟨⟨history, hhandled, hcurrent⟩, hsettings, hselectors, haccepts (by decide +kernel)⟩

def dynamicData : Data :=
  let registration := Data.record [("dynamicRegistration", .bool true)]
  .record [("textDocument", .record [
    ("formatting", registration), ("rangeFormatting", registration)])]

def plainUrl : Url :=
  ⟨"file", ("", none), some "", none, .segments ["ws", "a.txt"], none, none⟩

/-- Two clients that differ only in whether the formatter is registered with them get different
documents accepted. -/
theorem registered_client_accepts_more :
    let folders := [folderData "file:///ws" "ws"]
    let plain := opened (openingData (.record []) folders []) []
    let registered := opened (openingData dynamicData folders []) []
    (∃ history, plain.HasHandled history ∧ history.IsReady ∧
        (∀ entry ∈ history, entry.1 = emptyFolder) ∧ history.given? = none) ∧
      (∃ history, registered.HasHandled history ∧ history.IsReady ∧
        (∀ entry ∈ history, entry.1 = emptyFolder) ∧ history.given? = none) ∧
      registered.root = plain.root ∧ registered.folders = plain.folders ∧
      registered.accepts plainUrl "plaintext" false = true ∧
      plain.accepts plainUrl "plaintext" false = false := by
  have hhistory : ∀ parameters,
      (initial.receive emptyFolder (fun _ => none) "initialize" parameters).2.session.phase =
        .running → (opened parameters []).client.isNone = true →
          ∃ history : History, (opened parameters []).HasHandled history ∧ history.IsReady ∧
            (∀ entry ∈ history, entry.1 = emptyFolder) ∧ history.given? = none := by
    intro parameters hrunning hnone
    obtain ⟨history, hhandled, hready, hunchanging⟩ :=
      exists_ready_history emptyFolder (fun _ => none) parameters [] hrunning
    refine ⟨history, hhandled, hready, hunchanging, ?_⟩
    rw [← hhandled.follows.client]
    exact Option.isNone_iff_eq_none.mp hnone
  exact ⟨hhistory _ (by decide +kernel) (by decide +kernel),
    hhistory _ (by decide +kernel) (by decide +kernel), by decide +kernel, by decide +kernel,
    by decide +kernel, by decide +kernel⟩

end Session

end FormatServer
