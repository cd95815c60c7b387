import FormatServer.Proofs.Server.Loading
import FormatServer.Proofs.Settings.BrokenSources

/-!
# Settings under a key

A client may put its settings under a key, when it introduces itself and when it reports a change.
From an introduction the settings are kept as they come and taken from under the key when they are
read. From a change they are taken from under the key at once, and then once more when they are
read. So both ways come to the same for settings that are bare or wrapped once. Settings that are
wrapped twice arrive by a change only, and null under the key is nothing to read in a change but a
broken source in an introduction.
-/

namespace FormatServer

/-- Both give the same layer and as many warnings. -/
def LoadedLayer.Alike (first second : LoadedLayer) : Prop :=
  first.layer = second.layer ∧
    first.notices.countP Notice.isWarning = second.notices.countP Notice.isWarning

/-- Two sources are read alike if they have the same layer. If they have none, then only if there is
something to read in both or in neither. -/
theorem SettingsSource.alike_iff {environment : Environment} {first second : SettingsSource}
    {loaded other : LoadedLayer} (hfirst : first.Gives environment loaded)
    (hsecond : second.Gives environment other) :
    loaded.Alike other ↔ first.layer? environment = second.layer? environment ∧
      (first.layer? environment = none →
        first.isPresent environment = second.isPresent environment) := by
  rw [LoadedLayer.Alike, hfirst.layer, hsecond.layer, hfirst.warnings, hsecond.warnings]
  refine and_congr_right fun hsame => ?_
  rw [isBroken, isBroken, ← hsame]
  cases first.layer? environment with
  | some layer => simp
  | none =>
    cases first.isPresent environment <;> cases second.isPresent environment <;> simp

/-- What is reported as changed is a record, and the settings in it are those under the key, or all
of it if there is no such key. -/
theorem withoutSectionKey_of_settingsSection? {data settings : Data}
    (hsection : settingsSection? data = some settings) :
    withoutSectionKey data = settings ∧ data.isNull = false := by
  cases data with
  | record fields =>
    rw [settingsSection?] at hsection
    cases hinner : fields.lookup sectionKey with
    | some inner =>
      obtain rfl : inner = settings := by simpa [hinner] using hsection
      exact ⟨by simp [withoutSectionKey, Data.field?, hinner], rfl⟩
    | none =>
      have hbare : Data.record fields = settings := by
        simp only [hinner, Option.ite_none_right_eq_some, Option.some.injEq] at hsection
        exact hsection.2
      exact ⟨by simp [withoutSectionKey, Data.field?, hinner, hbare], rfl⟩
  | null | bool | integer | decimal | text | list => simp [settingsSection?] at hsection

namespace Session

theorem client_start (environment : Environment) {introduction : Introduction} {options : Data}
    (hoptions : introduction.options = some options) (session : Session) :
    (session.start environment introduction).session.client = some (.initialOptions, options) := by
  rw [start, hoptions]
  rfl

variable {environment : Environment} {client : Client} {introduction : Introduction}
  {session fresh : Session} {data settings : Data}

/-- A client that reports its settings as changed is read like one that introduces itself with them,
exactly if they are not null and, where they have the key once more inside, what is under it reads
like what it stands in. So it is for all settings that are bare or wrapped once, null apart. -/
theorem configure_alike_start_iff (hsection : settingsSection? data = some settings)
    (hoptions : introduction.options = some data) :
    (LoadedLayer.ofClient (session.configure environment client data).session.client).Alike
        (LoadedLayer.ofClient (fresh.start environment introduction).session.client) ↔
      settings.isNull = false ∧ ∀ inner, settings.field? sectionKey = some inner →
        (Layer.decode inner).toOption = (Layer.decode settings).toOption := by
  obtain ⟨hwithout, hrecord⟩ := withoutSectionKey_of_settingsSection? hsection
  have hnull : (Layer.decode .null).toOption = none := rfl
  rw [client_configure environment client hsection, client_start environment hoptions,
    SettingsSource.alike_iff (SettingsSource.gives_ofClient environment _)
      (SettingsSource.gives_ofClient environment _)]
  simp only [SettingsSource.layer?, SettingsSource.isPresent, Option.bind_some, Option.any_some,
    hwithout, hrecord, Bool.not_false, Bool.not_eq_eq_eq_not, Bool.not_true]
  constructor
  · rintro ⟨hlayer, hpresent⟩
    refine ⟨?_, fun inner hinner => ?_⟩
    · cases settings with
      | null => exact hpresent hnull
      | bool | integer | decimal | text | list | record => rfl
    · rwa [withoutSectionKey, hinner] at hlayer
  · rintro ⟨hsome, hinner⟩
    refine ⟨?_, fun _ => hsome⟩
    rw [withoutSectionKey]
    cases hfield : settings.field? sectionKey with
    | none => rfl
    | some inner => exact hinner inner hfield

/-! ### Settings as reported and as introduced -/

/-- What a session reads of the client after these settings are reported as changed. -/
def readOfChange (data : Data) : LoadedLayer :=
  .ofClient (initial.configure (.ofSettings [] "") (fun _ => none) data).session.client

/-- What it reads after an introduction with these options. -/
def readOfIntroduction (data : Data) : LoadedLayer :=
  .ofClient (initial.start (.ofSettings [] "")
    { Introduction.ofFolders [] with options := some data }).session.client

/-- Settings that stand beside those of others. -/
theorem wrapped_once_alike :
    let settings := Data.record [("requireConfig", .bool true), ("legacy", .null)]
    let data := Data.record [("editor", .record []), (sectionKey, settings)]
    settingsSection? data = some settings ∧ (readOfChange data).Alike (readOfIntroduction data) := by
  intro settings data
  have hbare : settings.field? sectionKey = none := rfl
  refine ⟨rfl, (configure_alike_start_iff rfl rfl).mpr ⟨rfl, fun inner hinner => ?_⟩⟩
  simp [hbare] at hinner

/-- Null under the key is a broken source in an introduction only. Of settings that are wrapped
twice an introduction gives none, and is not warned of. -/
theorem wrapped_null_and_wrapped_twice_differ :
    let wrap := fun settings => Data.record [(sectionKey, settings)]
    let twice := wrap (wrap (.record [("requireConfig", .bool true)]))
    (settingsSection? (wrap .null)).isSome = true ∧ (settingsSection? twice).isSome = true ∧
      (readOfChange (wrap .null)).notices.countP Notice.isWarning = 0 ∧
      (readOfIntroduction (wrap .null)).notices.countP Notice.isWarning = 1 ∧
      (readOfChange twice).layer = some { requireConfig := some true } ∧
      (readOfIntroduction twice).layer = some {} := by
  decide +kernel

end Session

end FormatServer
