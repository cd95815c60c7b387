import FormatServer.Proofs.Language.Lookup
import FormatServer.Settings.Sources

/-!
# Layers over layers

Layers are merged field by field, and for most fields the highest layer that sets one gives it. The
languages are merged language by language, which comes to the same for the parsers of one language
as long as no layer lists a language twice; one that was read never does.
-/

namespace FormatServer

namespace Data

theorem exists_of_bind_eq_ok {ε α β : Type} {given : Except ε α} {next : α → Except ε β} {value : β}
    (hbind : given >>= next = .ok value) : ∃ found, given = .ok found ∧ next found = .ok value := by
  cases given with
  | error error => simp [bind, Except.bind] at hbind
  | ok found => exact ⟨found, rfl, hbind⟩

theorem exists_of_decodeOptional {α : Type} {decode : Decoder α} {fields : List (String × Data)}
    {name : String} {value : α} (hdecode : decodeOptional decode fields name = .ok (some value)) :
    ∃ data, fields.lookup name = some data ∧ decode data = .ok value := by
  rw [decodeOptional] at hdecode
  split at hdecode
  next => simp at hdecode
  next => simp at hdecode
  next data _ hdata =>
    cases hvalue : decode data with
    | error error => simp [hvalue, Except.map] at hdecode
    | ok found =>
      rw [hvalue] at hdecode
      obtain rfl := Option.some.inj (Except.ok.inj hdecode)
      exact ⟨data, hdata, hvalue⟩

end Data

namespace Layer

/-! ### Layers that were read -/

/-- No language is listed twice. -/
def HasDistinctLanguages (layer : Layer) : Prop :=
  ∀ languages, layer.languages = some languages → languages.ids.Nodup

theorem exists_fields_of_decodeWith {surplus : Data.Surplus} {data : Data} {layer : Layer}
    (hdecode : decodeWith surplus data = .ok layer) :
    ∃ fields, Data.decodeFields surplus fieldNames data = .ok fields ∧
      Data.decodeOptional decodeLanguages fields "languages" = .ok layer.languages := by
  rw [decodeWith] at hdecode
  obtain ⟨fields, hfields, hdecode⟩ := Data.exists_of_bind_eq_ok hdecode
  obtain ⟨_, -, hdecode⟩ := Data.exists_of_bind_eq_ok hdecode
  obtain ⟨_, -, hdecode⟩ := Data.exists_of_bind_eq_ok hdecode
  obtain ⟨_, -, hdecode⟩ := Data.exists_of_bind_eq_ok hdecode
  obtain ⟨_, -, hdecode⟩ := Data.exists_of_bind_eq_ok hdecode
  obtain ⟨_, -, hdecode⟩ := Data.exists_of_bind_eq_ok hdecode
  obtain ⟨_, -, hdecode⟩ := Data.exists_of_bind_eq_ok hdecode
  obtain ⟨languages, hlanguages, hdecode⟩ := Data.exists_of_bind_eq_ok hdecode
  obtain ⟨_, -, hdecode⟩ := Data.exists_of_bind_eq_ok hdecode
  obtain ⟨_, -, hdecode⟩ := Data.exists_of_bind_eq_ok hdecode
  obtain ⟨_, -, hdecode⟩ := Data.exists_of_bind_eq_ok hdecode
  obtain ⟨_, -, hdecode⟩ := Data.exists_of_bind_eq_ok hdecode
  obtain rfl := Except.ok.inj hdecode
  exact ⟨fields, hfields, hlanguages⟩

theorem hasDistinctLanguages_of_decodeWith {surplus : Data.Surplus} {data : Data} {layer : Layer}
    (hdecode : decodeWith surplus data = .ok layer) : layer.HasDistinctLanguages := by
  intro languages hlanguages
  obtain ⟨fields, -, hfield⟩ := exists_fields_of_decodeWith hdecode
  rw [hlanguages] at hfield
  obtain ⟨data, -, hread⟩ := Data.exists_of_decodeOptional hfield
  rw [decodeLanguages] at hread
  cases hmap : Data.decodeMap (Data.decodeList Data.decodeText) data with
  | error error => simp [hmap, Except.map] at hread
  | ok entries =>
    rw [hmap] at hread
    obtain rfl := Except.ok.inj hread
    exact LanguageMap.nodup_ids_ofList entries

theorem hasDistinctLanguages_of_ofToml {text : String} {layer : Layer}
    (hlayer : ofToml text = .ok layer) : layer.HasDistinctLanguages := by
  rw [ofToml] at hlayer
  split at hlayer
  next => simp at hlayer
  next =>
    split at hlayer
    next => simp at hlayer
    next hdecode =>
      obtain rfl := Except.ok.inj hlayer
      exact hasDistinctLanguages_of_decodeWith hdecode

/-- A settings file that is there and gives a layer has a text that writes the layer. -/
theorem exists_text_of_ofFile {environment : Environment} {file : Path} {layer : Layer}
    (hlayer : ofFile environment file = some (.ok layer)) :
    ∃ text, environment.readText file = .ok text ∧ ofToml text = .ok layer := by
  rw [ofFile] at hlayer
  split at hlayer
  next =>
    split at hlayer
    next => simp at hlayer
    next text htext => exact ⟨text, htext, Option.some.inj hlayer⟩
  next => simp at hlayer

theorem hasDistinctLanguages_of_ofFile {environment : Environment} {file : Path} {layer : Layer}
    (hlayer : ofFile environment file = some (.ok layer)) : layer.HasDistinctLanguages := by
  obtain ⟨text, -, hlayer⟩ := exists_text_of_ofFile hlayer
  exact hasDistinctLanguages_of_ofToml hlayer

/-! ### What the highest layer sets -/

/-- The parsers that a layer, if there is one, gives for a language. -/
def parsers? (layer : Option Layer) (language : String) : Option (List String) :=
  (layer.bind Layer.languages).bind (·.get? language)

@[simp] theorem parsers?_none (language : String) : parsers? none language = none :=
  rfl

@[simp] theorem parsers?_defaults (language : String) : parsers? (some defaults) language = none :=
  rfl

theorem parsers?_withFallback {primary : Layer} (hprimary : primary.HasDistinctLanguages)
    (fallback : Layer) (language : String) :
    (primary.withFallback fallback).languages.bind (·.get? language) =
      (primary.languages.bind (·.get? language)).or
        (fallback.languages.bind (·.get? language)) := by
  simp only [withFallback]
  cases hlanguages : primary.languages with
  | none => simp [orJoin]
  | some languages =>
    cases fallback.languages with
    | none => simp [orJoin]
    | some below =>
      exact LanguageMap.get?_withFallback (hprimary languages hlanguages) language

theorem stack_bind {α : Type} {field : Layer → Option α} {above : Option Layer}
    (hfield : ∀ layer, above = some layer → ∀ fallback,
      field (layer.withFallback fallback) = (field layer).or (field fallback))
    (below : Option Layer) :
    (stack below above).bind field = (above.bind field).or (below.bind field) := by
  cases above with
  | none => cases below <;> simp [stack, orJoin]
  | some layer =>
    cases below with
    | none => simp [stack, orJoin]
    | some fallback => simpa [stack, orJoin] using hfield layer rfl fallback

theorem foldl_stack_bind {α : Type} {field : Layer → Option α} {layers : List (Option Layer)}
    (hfield : ∀ layer, some layer ∈ layers → ∀ fallback,
      field (layer.withFallback fallback) = (field layer).or (field fallback))
    (below : Option Layer) :
    (layers.foldl stack below).bind field =
      (layers.reverse.findSome? (·.bind field)).or (below.bind field) := by
  induction layers generalizing below with
  | nil => simp
  | cons above rest ih =>
    have hrest := fun layer hlayer => hfield layer (List.mem_cons_of_mem above hlayer)
    have habove := fun layer hlayer => hfield layer (List.mem_cons.mpr (.inl (Eq.symm hlayer)))
    rw [List.foldl_cons, ih hrest, stack_bind habove, List.reverse_cons, List.findSome?_append,
      Option.or_assoc]
    cases hvalue : above.bind field <;> simp [hvalue]

theorem foldl_stack_eq_none_iff {layers : List (Option Layer)} {below : Option Layer} :
    layers.foldl stack below = none ↔ below = none ∧ ∀ layer ∈ layers, layer = none := by
  induction layers generalizing below with
  | nil => simp
  | cons above rest ih =>
    have hstack : stack below above = none ↔ below = none ∧ above = none := by
      cases above <;> cases below <;> simp [stack, orJoin]
    rw [List.foldl_cons, ih, hstack, List.forall_mem_cons, and_assoc]

theorem merged_eq_none_iff {layers : List (Option Layer)} :
    merged layers = none ↔ ∀ layer ∈ layers, layer = none := by
  rw [merged, foldl_stack_eq_none_iff]
  simp

/-- A field in which a layer goes before the ones below it is given by the highest layer that sets
it. -/
theorem merged_bind {α : Type} {field : Layer → Option α} {layers : List (Option Layer)}
    (hfield : ∀ layer, some layer ∈ layers → ∀ fallback,
      field (layer.withFallback fallback) = (field layer).or (field fallback)) :
    (merged layers).bind field = layers.reverse.findSome? (·.bind field) := by
  rw [merged, foldl_stack_bind hfield, Option.bind_none, Option.or_none]

/-- So are the parsers of a language. -/
theorem parsers?_merged {layers : List (Option Layer)}
    (hlayers : ∀ layer, some layer ∈ layers → layer.HasDistinctLanguages) (language : String) :
    parsers? (merged layers) language = layers.reverse.findSome? (parsers? · language) := by
  have hbind : ∀ layer : Option Layer,
      parsers? layer language = layer.bind fun layer => layer.languages.bind (·.get? language) := by
    intro layer
    exact Option.bind_assoc _ _ _
  rw [hbind, merged_bind fun layer hlayer fallback =>
    parsers?_withFallback (hlayers layer hlayer) fallback language]
  simp only [hbind]

end Layer

namespace LoadedLayer

theorem ofFile_of_ofFolder {environment : Environment} {folder : Path} {layer : Layer}
    (hlayer : (ofFolder environment folder).layer = some layer) :
    Layer.ofFile environment (folder.join settingsFileName) = some (.ok layer) := by
  rw [ofFolder] at hlayer
  split at hlayer
  next => simp [absent] at hlayer
  next found hfound =>
    obtain rfl := Option.some.inj hlayer
    exact hfound
  next => simp at hlayer

theorem hasDistinctLanguages_ofFolder {environment : Environment} {folder : Path} {layer : Layer}
    (hlayer : (ofFolder environment folder).layer = some layer) : layer.HasDistinctLanguages :=
  Layer.hasDistinctLanguages_of_ofFile (ofFile_of_ofFolder hlayer)

theorem hasDistinctLanguages_ofProject {environment : Environment} {root : Option Path}
    {layer : Layer} (hlayer : (ofProject environment root).layer = some layer) :
    layer.HasDistinctLanguages := by
  cases root with
  | none => simp [ofProject, absent] at hlayer
  | some root => exact hasDistinctLanguages_ofFolder hlayer

theorem hasDistinctLanguages_ofUser {environment : Environment} {layer : Layer}
    (hlayer : (ofUser environment).layer = some layer) : layer.HasDistinctLanguages := by
  rw [ofUser] at hlayer
  split at hlayer
  next => simp [absent] at hlayer
  next found huser =>
    obtain rfl := Option.some.inj hlayer
    obtain ⟨file, -, huser⟩ := Option.bind_eq_some_iff.mp huser
    obtain ⟨given, hfile, hgiven⟩ := Option.map_eq_some_iff.mp huser
    obtain ⟨rfl, rfl⟩ := Prod.mk.inj hgiven
    exact Layer.hasDistinctLanguages_of_ofFile hfile
  next => simp at hlayer

theorem hasDistinctLanguages_ofClient {client : Option (ClientSource × Data)} {layer : Layer}
    (hlayer : (ofClient client).layer = some layer) : layer.HasDistinctLanguages := by
  rw [ofClient.eq_def] at hlayer
  split at hlayer
  next => simp [absent] at hlayer
  next => simp [absent] at hlayer
  next =>
    split at hlayer
    next hdecode =>
      obtain rfl := Option.some.inj hlayer
      exact Layer.hasDistinctLanguages_of_decodeWith hdecode
    next => simp at hlayer

end LoadedLayer

namespace Settings

variable {environment : Environment} {root : Option Path} {client : Option (ClientSource × Data)}

/-- The layers of all sources, the lowest first. -/
def layers (environment : Environment) (root : Option Path)
    (client : Option (ClientSource × Data)) : List (Option Layer) :=
  [some Layer.defaults, (LoadedLayer.ofUser environment).layer,
    (LoadedLayer.ofProject environment root).layer, (LoadedLayer.ofClient client).layer]

theorem settings_load (environment : Environment) (root : Option Path)
    (client : Option (ClientSource × Data)) :
    (load environment root client).settings =
      (Layer.merged (layers environment root client)).map ofLayer :=
  rfl

theorem hasDistinctLanguages_of_mem_layers {layer : Layer}
    (hlayer : some layer ∈ layers environment root client) : layer.HasDistinctLanguages := by
  simp only [layers, List.mem_cons, List.not_mem_nil, or_false] at hlayer
  rcases hlayer with hdefaults | huser | hproject | hclient
  · obtain rfl := Option.some.inj hdefaults
    intro languages hlanguages
    simp [Layer.defaults] at hlanguages
  · exact LoadedLayer.hasDistinctLanguages_ofUser huser.symm
  · exact LoadedLayer.hasDistinctLanguages_ofProject hproject.symm
  · exact LoadedLayer.hasDistinctLanguages_ofClient hclient.symm

theorem exists_merged_layers (environment : Environment) (root : Option Path)
    (client : Option (ClientSource × Data)) :
    ∃ merged, Layer.merged (layers environment root client) = some merged := by
  rw [← Option.ne_none_iff_exists']
  intro hnone
  have hdefaults := Layer.merged_eq_none_iff.mp hnone (some Layer.defaults) List.mem_cons_self
  simp at hdefaults

/-- Whatever the sources hold there are settings. The highest source that has a language gives its
parsers, and the highest one that disables any gives the disabled languages. -/
theorem exists_settings_of_load (environment : Environment) (root : Option Path)
    (client : Option (ClientSource × Data)) :
    ∃ settings, (load environment root client).settings = some settings ∧
      (∀ language, settings.languages.get? language =
        (layers environment root client).reverse.findSome? (Layer.parsers? · language)) ∧
      settings.disableLanguages =
        ((layers environment root client).reverse.findSome?
          (·.bind Layer.disableLanguages)).getD [] := by
  obtain ⟨merged, hmerged⟩ := exists_merged_layers environment root client
  refine ⟨ofLayer merged, by rw [settings_load, hmerged]; rfl, ?_, ?_⟩
  · intro language
    rw [← Layer.parsers?_merged (fun _ hlayer => hasDistinctLanguages_of_mem_layers hlayer),
      hmerged, ofLayer, Layer.parsers?, Option.bind_some]
    cases merged.languages <;> rfl
  · rw [← Layer.merged_bind fun _ _ _ => rfl, hmerged]
    rfl

end Settings

end FormatServer
