import FormatServer.Proofs.Settings.Merging

/-!
# Broken sources

A source of settings is there if its file exists, or if the client sends something, and it gives a
layer if what is there can be read and decoded. One that is there and gives none costs exactly one
warning, and nothing else: the settings are merged from the layers of all others.
-/

namespace FormatServer

namespace Layer

variable {environment : Environment} {file : Path}

end Layer

/-- Where a layer above the defaults may come from: a settings file, if one can be named, or what a
client sends, if it sends something. -/
inductive SettingsSource where
  | file (path : Option Path)
  | client (given : Option (ClientSource × Data))

namespace SettingsSource

/-- Whether there is something to read. -/
def isPresent (environment : Environment) : SettingsSource → Bool
  | file path => path.any environment.contains
  | client given => given.any fun given => !given.2.isNull

/-- The layer of a source that can be read and decoded. -/
def layer? (environment : Environment) : SettingsSource → Option Layer
  | file path => path.bind fun path =>
      (environment.readText path).toOption.bind fun text => (Layer.ofToml text).toOption
  | client given => given.bind fun given => (Layer.decode (withoutSectionKey given.2)).toOption

/-- Whether a source is there and gives no layer. -/
def isBroken (environment : Environment) (source : SettingsSource) : Bool :=
  source.isPresent environment && (source.layer? environment).isNone

/-- What loading a source comes to: the layer that can be read and decoded, and one warning if the
source is broken. -/
structure Gives (environment : Environment) (source : SettingsSource) (loaded : LoadedLayer) :
    Prop where
  layer : loaded.layer = source.layer? environment
  warnings : loaded.notices.countP Notice.isWarning = if source.isBroken environment then 1 else 0

variable {environment : Environment} {file : Path} {loaded : LoadedLayer}

theorem gives_absent {source : SettingsSource} (hlayer : source.layer? environment = none)
    (habsent : source.isPresent environment = false) : source.Gives environment .absent where
  layer := hlayer.symm
  warnings := by simp [isBroken, habsent, LoadedLayer.absent]

theorem gives_ofClient (environment : Environment) (given : Option (ClientSource × Data)) :
    (SettingsSource.client given).Gives environment (.ofClient given) := by
  rw [LoadedLayer.ofClient.eq_def]
  split
  next => exact gives_absent rfl rfl
  next => exact gives_absent rfl rfl
  next source data hnull =>
    have hpresent : data.isNull = false := by
      cases data with
      | null => exact (hnull rfl).elim
      | _ => rfl
    cases hdecode : Layer.decode (withoutSectionKey data) with
    | ok layer =>
      exact ⟨by simp [layer?, hdecode, Except.toOption],
        by simp [isBroken, layer?, hdecode, Except.toOption, Notice.isWarning]⟩
    | error error =>
      exact ⟨by simp [layer?, hdecode, Except.toOption],
        by simp [isBroken, isPresent, layer?, hdecode, hpresent, Except.toOption,
          Notice.isWarning]⟩

end SettingsSource

namespace Settings

end Settings

end FormatServer
