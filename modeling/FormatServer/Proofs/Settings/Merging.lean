import FormatServer.Proofs.Language.Overlay
import FormatServer.Proofs.Settings.Layering
import Mathlib.Data.List.Induction

/-!
# The merge of all layers

What a higher layer sets as a whole is one part of a layer: a plain field, the parsers of one
language, one option of the style. In each part the last layer that sets it counts, so to merge
layers in one go is to merge them in pieces, and what is merged comes out the same in whatever order
the languages of each layer are listed.
-/

namespace FormatServer

namespace Style

/-- An option of the style, with the type of its values. -/
inductive Part : Type → Type where
  | printWidth : Part UInt32
  | tabWidth : Part UInt32
  | useTabs : Part Bool
  | semi : Part Bool
  | singleQuote : Part Bool
  | jsxSingleQuote : Part Bool
  | trailingComma : Part String
  | bracketSpacing : Part Bool
  | arrowParens : Part String
  | proseWrap : Part String
  | endOfLine : Part String
  | quoteProps : Part String

namespace Part

def get? {α : Type} (style : Style) : Part α → Option α
  | printWidth => style.printWidth
  | tabWidth => style.tabWidth
  | useTabs => style.useTabs
  | semi => style.semi
  | singleQuote => style.singleQuote
  | jsxSingleQuote => style.jsxSingleQuote
  | trailingComma => style.trailingComma
  | bracketSpacing => style.bracketSpacing
  | arrowParens => style.arrowParens
  | proseWrap => style.proseWrap
  | endOfLine => style.endOfLine
  | quoteProps => style.quoteProps

theorem get?_withFallback {α : Type} (primary fallback : Style) (part : Part α) :
    part.get? (primary.withFallback fallback) = (part.get? primary).or (part.get? fallback) := by
  cases part <;> rfl

end Part

/-- The options are all there is to a style. -/
theorem ext_parts {first second : Style}
    (hparts : ∀ {α : Type} (part : Part α), part.get? first = part.get? second) :
    first = second := by
  obtain ⟨printWidth, tabWidth, useTabs, semi, singleQuote, jsxSingleQuote, trailingComma,
    bracketSpacing, arrowParens, proseWrap, endOfLine, quoteProps⟩ := first
  obtain rfl : printWidth = second.printWidth := hparts .printWidth
  obtain rfl : tabWidth = second.tabWidth := hparts .tabWidth
  obtain rfl : useTabs = second.useTabs := hparts .useTabs
  obtain rfl : semi = second.semi := hparts .semi
  obtain rfl : singleQuote = second.singleQuote := hparts .singleQuote
  obtain rfl : jsxSingleQuote = second.jsxSingleQuote := hparts .jsxSingleQuote
  obtain rfl : trailingComma = second.trailingComma := hparts .trailingComma
  obtain rfl : bracketSpacing = second.bracketSpacing := hparts .bracketSpacing
  obtain rfl : arrowParens = second.arrowParens := hparts .arrowParens
  obtain rfl : proseWrap = second.proseWrap := hparts .proseWrap
  obtain rfl : endOfLine = second.endOfLine := hparts .endOfLine
  obtain rfl : quoteProps = second.quoteProps := hparts .quoteProps
  rfl

theorem withFallback_self (style : Style) : style.withFallback style = style :=
  ext_parts fun part => by rw [part.get?_withFallback, Option.or_self]

theorem withFallback_assoc (first second third : Style) :
    (first.withFallback second).withFallback third =
      first.withFallback (second.withFallback third) :=
  ext_parts fun part => by simp only [part.get?_withFallback, Option.or_assoc]

end Style

/-! ### Joining what may be missing -/

section OrJoin

variable {α : Type} {join : α → α → α}

theorem orJoin_none_left (fallback : Option α) : orJoin join none fallback = fallback := by
  cases fallback <;> rfl

theorem orJoin_none_right (primary : Option α) : orJoin join primary none = primary := by
  cases primary <;> rfl

theorem orJoin_self {value : Option α}
    (hjoin : ∀ given, value = some given → join given given = given) :
    orJoin join value value = value := by
  cases value with
  | none => rfl
  | some given => exact congrArg some (hjoin given rfl)

theorem orJoin_assoc {first second third : Option α}
    (hjoin : ∀ x y z, first = some x → second = some y → third = some z →
      join (join x y) z = join x (join y z)) :
    orJoin join (orJoin join first second) third =
      orJoin join first (orJoin join second third) := by
  cases first with
  | none => rw [orJoin_none_left, orJoin_none_left]
  | some x =>
    cases second with
    | none => rw [orJoin_none_left, orJoin_none_right]
    | some y =>
      cases third with
      | none => rw [orJoin_none_right, orJoin_none_right]
      | some z => exact congrArg some (hjoin x y z rfl rfl rfl)

end OrJoin

namespace Layer

variable {first second third primary fallback layer : Layer}

/-! ### Parts of a layer -/

/-- What a layer sets as a whole, with the type of its values. That a layer has languages or options
at all is a part as well. -/
inductive Part : Type → Type 1 where
  | disableLanguages : Part (List String)
  | requireConfig : Part Bool
  | configPath : Part String
  | ignorePath : Part String
  | useEditorConfig : Part Bool
  | prettierPath : Part String
  | languages : Part Unit
  | parsers (language : String) : Part (List String)
  | options : Part Unit
  | option {α : Type} (part : Style.Part α) : Part α
  | eslintIntegration : Part Bool
  | tslintIntegration : Part Bool
  | stylelintIntegration : Part Bool

namespace Part

def get? {α : Type} (layer : Layer) : Part α → Option α
  | disableLanguages => layer.disableLanguages
  | requireConfig => layer.requireConfig
  | configPath => layer.configPath
  | ignorePath => layer.ignorePath
  | useEditorConfig => layer.useEditorConfig
  | prettierPath => layer.prettierPath
  | languages => layer.languages.map fun _ => ()
  | parsers language => layer.languages.bind (·.get? language)
  | options => layer.options.map fun _ => ()
  | option part => layer.options.bind part.get?
  | eslintIntegration => layer.eslintIntegration
  | tslintIntegration => layer.tslintIntegration
  | stylelintIntegration => layer.stylelintIntegration

/-- The part of a layer that may be missing. -/
def of? {α : Type} (part : Part α) (layer : Option Layer) : Option α :=
  layer.bind part.get?

theorem get?_withFallback {α : Type} (hprimary : primary.HasDistinctLanguages) (fallback : Layer)
    (part : Part α) :
    part.get? (primary.withFallback fallback) = (part.get? primary).or (part.get? fallback) := by
  cases part with
  | parsers language => exact parsers?_withFallback hprimary fallback language
  | languages =>
    simp only [get?, withFallback]
    cases primary.languages <;> cases fallback.languages <;> rfl
  | options =>
    simp only [get?, withFallback]
    cases primary.options <;> cases fallback.options <;> rfl
  | option part =>
    simp only [get?, withFallback]
    cases primary.options with
    | none => rw [orJoin_none_left, Option.bind_none, Option.none_or]
    | some style =>
      cases fallback.options with
      | none => rw [orJoin_none_right, Option.bind_none, Option.or_none]
      | some below => exact part.get?_withFallback style below
  | _ => rfl

end Part

/-- The parts that are read and no longer used. -/
def legacyParts : List (String × Part Bool) :=
  [("eslintIntegration", .eslintIntegration), ("tslintIntegration", .tslintIntegration),
    ("stylelintIntegration", .stylelintIntegration)]

theorem legacyKeys_eq (layer : Layer) :
    layer.legacyKeys =
      (legacyParts.filter fun legacy => (legacy.2.get? layer).isSome).map Prod.fst := by
  have hflags : layer.legacyFlags =
      legacyParts.map fun legacy => (legacy.1, legacy.2.get? layer) := rfl
  rw [legacyKeys, hflags, List.filter_map, List.map_map]
  rfl

/-! ### Languages in another order -/

/-- The same settings, of which the languages may be listed in another order. -/
def IsReordered (layer other : Layer) : Prop :=
  ∃ languages, other = { layer with languages } ∧
    Option.Rel LanguageMap.IsReordered layer.languages languages

theorem IsReordered.hasDistinctLanguages (hreordered : first.IsReordered second)
    (hfirst : first.HasDistinctLanguages) : second.HasDistinctLanguages := by
  obtain ⟨languages, rfl, hlanguages⟩ := hreordered
  rintro table rfl
  cases hfirst' : first.languages with
  | none => simp [hfirst'] at hlanguages
  | some known =>
    rw [hfirst', Option.rel_some_some] at hlanguages
    exact hlanguages.nodup_ids (hfirst known hfirst')

/-- Optional tables differ in nothing but the order of their entries if both or neither is there and
they answer alike. -/
theorem rel_isReordered_iff {known other : Option LanguageMap}
    (hknown : ∀ table, known = some table → table.ids.Nodup)
    (hother : ∀ table, other = some table → table.ids.Nodup) :
    Option.Rel LanguageMap.IsReordered known other ↔
      (known.map fun _ => ()) = (other.map fun _ => ()) ∧
        ∀ language, known.bind (·.get? language) = other.bind (·.get? language) := by
  cases known with
  | none => cases other <;> simp
  | some table =>
    cases other with
    | none => simp
    | some second =>
      simpa using LanguageMap.isReordered_iff (hknown table rfl) (hother second rfl)

/-- The parts are all there is to a layer, but for the order of its languages. -/
theorem isReordered_iff (hfirst : first.HasDistinctLanguages)
    (hsecond : second.HasDistinctLanguages) :
    first.IsReordered second ↔
      ∀ {α : Type} (part : Part α), part.get? first = part.get? second := by
  constructor
  · rintro ⟨languages, rfl, hlanguages⟩ α part
    obtain ⟨hgiven, hparsers⟩ := (rel_isReordered_iff hfirst hsecond).mp hlanguages
    cases part with
    | languages => exact hgiven
    | parsers language => exact hparsers language
    | _ => rfl
  · intro hparts
    refine ⟨second.languages, ?_, (rel_isReordered_iff hfirst hsecond).mpr
      ⟨hparts .languages, fun language => hparts (.parsers language)⟩⟩
    have hoptions : first.options = second.options := by
      have hgiven := hparts .options
      have hoption := fun {α : Type} (part : Style.Part α) => hparts (.option part)
      simp only [Part.get?] at hgiven hoption
      cases hstyle : first.options with
      | none =>
        cases hother : second.options with
        | none => rfl
        | some other => simp [hstyle, hother] at hgiven
      | some style =>
        cases hother : second.options with
        | none => simp [hstyle, hother] at hgiven
        | some other =>
          congr 1
          refine Style.ext_parts fun part => ?_
          simpa [hstyle, hother] using hoption part
    obtain ⟨disableLanguages, requireConfig, configPath, ignorePath, useEditorConfig,
      prettierPath, languages, options, eslintIntegration, tslintIntegration,
      stylelintIntegration⟩ := second
    obtain rfl : first.disableLanguages = disableLanguages := hparts .disableLanguages
    obtain rfl : first.requireConfig = requireConfig := hparts .requireConfig
    obtain rfl : first.configPath = configPath := hparts .configPath
    obtain rfl : first.ignorePath = ignorePath := hparts .ignorePath
    obtain rfl : first.useEditorConfig = useEditorConfig := hparts .useEditorConfig
    obtain rfl : first.prettierPath = prettierPath := hparts .prettierPath
    obtain rfl : first.options = options := hoptions
    obtain rfl : first.eslintIntegration = eslintIntegration := hparts .eslintIntegration
    obtain rfl : first.tslintIntegration = tslintIntegration := hparts .tslintIntegration
    obtain rfl : first.stylelintIntegration = stylelintIntegration := hparts .stylelintIntegration
    rfl

/-! ### Layers over layers -/

theorem hasDistinctLanguages_withFallback (hprimary : primary.HasDistinctLanguages)
    (hfallback : fallback.HasDistinctLanguages) :
    (primary.withFallback fallback).HasDistinctLanguages := by
  intro table htable
  simp only [withFallback] at htable
  cases hupper : primary.languages with
  | none =>
    rw [hupper, orJoin_none_left] at htable
    exact hfallback table htable
  | some upper =>
    cases hlower : fallback.languages with
    | none =>
      rw [hlower, orJoin_none_right] at htable
      exact hprimary table htable
    | some lower =>
      rw [hupper, hlower] at htable
      obtain rfl := Option.some.inj htable
      exact LanguageMap.nodup_ids_withFallback upper (hfallback lower hlower)

theorem withFallback_self (hlayer : layer.HasDistinctLanguages) :
    layer.withFallback layer = layer := by
  have hlanguages := orJoin_self fun table htable =>
    LanguageMap.withFallback_self (hlayer table htable)
  have hoptions := orJoin_self fun style (_ : layer.options = some style) =>
    style.withFallback_self
  simp only [withFallback, hlanguages, hoptions, Option.or_self]

theorem withFallback_assoc (hfirst : first.HasDistinctLanguages)
    (hsecond : second.HasDistinctLanguages) (hthird : third.HasDistinctLanguages) :
    (first.withFallback second).withFallback third =
      first.withFallback (second.withFallback third) := by
  have hlanguages := orJoin_assoc fun x y z hx hy hz =>
    LanguageMap.withFallback_assoc (hfirst x hx) (hsecond y hy) (hthird z hz)
  have hoptions := orJoin_assoc fun x y z (_ : first.options = some x)
    (_ : second.options = some y) (_ : third.options = some z) => Style.withFallback_assoc x y z
  simp only [withFallback, hlanguages, hoptions, Option.or_assoc]

theorem stack_none_left (layer : Option Layer) : stack none layer = layer :=
  orJoin_none_right layer

theorem stack_none_right (layer : Option Layer) : stack layer none = layer :=
  orJoin_none_left layer

section Stack

variable {below middle above given : Option Layer} {layers lower upper : List (Option Layer)}

theorem stack_self (hgiven : ∀ layer, given = some layer → layer.HasDistinctLanguages) :
    stack given given = given :=
  orJoin_self fun layer hlayer => withFallback_self (hgiven layer hlayer)

theorem stack_assoc (hbelow : ∀ layer, below = some layer → layer.HasDistinctLanguages)
    (hmiddle : ∀ layer, middle = some layer → layer.HasDistinctLanguages)
    (habove : ∀ layer, above = some layer → layer.HasDistinctLanguages) :
    stack (stack below middle) above = stack below (stack middle above) :=
  (orJoin_assoc fun x y z hx hy hz =>
    withFallback_assoc (habove x hx) (hmiddle y hy) (hbelow z hz)).symm

theorem hasDistinctLanguages_stack
    (hbelow : ∀ layer, below = some layer → layer.HasDistinctLanguages)
    (habove : ∀ layer, above = some layer → layer.HasDistinctLanguages) :
    ∀ layer, stack below above = some layer → layer.HasDistinctLanguages := by
  intro layer hlayer
  cases above with
  | none => exact hbelow layer (stack_none_right below ▸ hlayer)
  | some primary =>
    cases below with
    | none => exact habove layer (stack_none_left (some primary) ▸ hlayer)
    | some fallback =>
      obtain rfl := Option.some.inj hlayer
      exact hasDistinctLanguages_withFallback (habove primary rfl) (hbelow fallback rfl)

theorem merged_concat (layers : List (Option Layer)) (above : Option Layer) :
    merged (layers ++ [above]) = stack (merged layers) above := by
  rw [merged, List.foldl_append]
  rfl

theorem hasDistinctLanguages_merged
    (hlayers : ∀ layer, some layer ∈ layers → layer.HasDistinctLanguages) :
    ∀ layer, merged layers = some layer → layer.HasDistinctLanguages := by
  induction layers using List.reverseRecOn with
  | nil => simp [merged]
  | append_singleton layers above ih =>
    rw [merged_concat]
    refine hasDistinctLanguages_stack (ih fun layer hlayer => ?_) fun layer hlayer => ?_
    · exact hlayers layer (List.mem_append_left [above] hlayer)
    · exact hlayers layer (by simp [hlayer])

theorem merged_append (hlower : ∀ layer, some layer ∈ lower → layer.HasDistinctLanguages)
    (hupper : ∀ layer, some layer ∈ upper → layer.HasDistinctLanguages) :
    merged (lower ++ upper) = stack (merged lower) (merged upper) := by
  induction upper using List.reverseRecOn with
  | nil =>
    rw [List.append_nil]
    exact (stack_none_right (merged lower)).symm
  | append_singleton upper above ih =>
    have hrest := fun layer hlayer =>
      hupper layer (List.mem_append_left [above] hlayer)
    have habove := fun layer (hlayer : above = some layer) => hupper layer (by simp [hlayer])
    rw [← List.append_assoc, merged_concat, merged_concat, ih hrest]
    exact stack_assoc (hasDistinctLanguages_merged hlower) (hasDistinctLanguages_merged hrest)
      habove

/-- In each part of a layer the last one that sets it counts. -/
theorem of?_merged {α : Type}
    (hlayers : ∀ layer, some layer ∈ layers → layer.HasDistinctLanguages) (part : Part α) :
    part.of? (merged layers) = layers.reverse.findSome? part.of? :=
  merged_bind fun layer hlayer fallback => part.get?_withFallback (hlayers layer hlayer) fallback

theorem reordered_stack {belowOther aboveOther : Option Layer}
    (hbelow : ∀ layer, below = some layer → layer.HasDistinctLanguages)
    (habove : ∀ layer, above = some layer → layer.HasDistinctLanguages)
    (hbelowOther : Option.Rel IsReordered below belowOther)
    (haboveOther : Option.Rel IsReordered above aboveOther) :
    Option.Rel IsReordered (stack below above) (stack belowOther aboveOther) := by
  cases haboveOther with
  | none => simpa only [stack_none_right] using hbelowOther
  | @some primary primaryOther hprimary =>
    cases hbelowOther with
    | none => exact .some hprimary
    | @some fallback fallbackOther hfallback =>
      have hupper := habove primary rfl
      have hlower := hbelow fallback rfl
      have hupperOther := hprimary.hasDistinctLanguages hupper
      have hlowerOther := hfallback.hasDistinctLanguages hlower
      refine .some ((isReordered_iff (hasDistinctLanguages_withFallback hupper hlower)
        (hasDistinctLanguages_withFallback hupperOther hlowerOther)).mpr fun part => ?_)
      rw [part.get?_withFallback hupper, part.get?_withFallback hupperOther,
        (isReordered_iff hupper hupperOther).mp hprimary part,
        (isReordered_iff hlower hlowerOther).mp hfallback part]

/-- The order in which layers list their languages shows in nothing but the order of the merged
ones. -/
theorem reordered_foldl_stack {belowOther : Option Layer} {others : List (Option Layer)}
    (hreordered : List.Forall₂ (Option.Rel IsReordered) layers others)
    (hlayers : ∀ layer, some layer ∈ layers → layer.HasDistinctLanguages)
    (hbelow : ∀ layer, below = some layer → layer.HasDistinctLanguages)
    (hbelowOther : Option.Rel IsReordered below belowOther) :
    Option.Rel IsReordered (layers.foldl stack below) (others.foldl stack belowOther) := by
  induction hreordered generalizing below belowOther with
  | nil => exact hbelowOther
  | @cons above aboveOther layers others haboveOther _ ih =>
    have hrest := fun layer hlayer => hlayers layer (List.mem_cons_of_mem above hlayer)
    have habove := fun layer (hlayer : above = some layer) => hlayers layer (by simp [hlayer])
    exact ih hrest (hasDistinctLanguages_stack hbelow habove)
      (reordered_stack hbelow habove hbelowOther haboveOther)

/-- The unused keys of merged layers are those that some layer sets. -/
theorem legacyKeys_merged
    (hlayers : ∀ layer, some layer ∈ layers → layer.HasDistinctLanguages) {whole : Layer}
    (hwhole : merged layers = some whole) :
    whole.legacyKeys = (legacyParts.filter fun legacy =>
      layers.any fun layer => (legacy.2.of? layer).isSome).map Prod.fst := by
  rw [legacyKeys_eq]
  congr 2
  funext legacy
  have hmerged : legacy.2.get? whole = layers.reverse.findSome? legacy.2.of? := by
    rw [← of?_merged hlayers, hwhole, Part.of?, Option.bind_some]
  rw [hmerged, Bool.eq_iff_iff]
  simp

/-- Layers are merged part by part, and in each part the last layer that sets it counts; the unused
keys are those that some layer sets. So a list of layers may be cut anywhere and its pieces merged,
a layer may be laid over itself or over none, and it does not matter in which order the languages of
a layer are listed. -/
theorem merged_is_last_writer_wins {layers : List (Option Layer)}
    (hlayers : ∀ layer, some layer ∈ layers → layer.HasDistinctLanguages) :
    (merged layers = none ↔ ∀ layer ∈ layers, layer = none) ∧
    (∀ {α : Type} (part : Part α),
      part.of? (merged layers) = layers.reverse.findSome? part.of?) ∧
    (∀ whole, merged layers = some whole →
      (Settings.ofLayer whole).legacyKeys = (legacyParts.filter fun legacy =>
        layers.any fun layer => (legacy.2.of? layer).isSome).map Prod.fst) ∧
    (∀ lower upper, layers = lower ++ upper →
      merged (lower ++ upper) = stack (merged lower) (merged upper)) ∧
    (∀ below ∈ layers, ∀ middle ∈ layers, ∀ above ∈ layers,
      stack (stack below middle) above = stack below (stack middle above)) ∧
    (∀ layer ∈ layers,
      stack layer layer = layer ∧ stack none layer = layer ∧ stack layer none = layer) ∧
    ∀ others, List.Forall₂ (Option.Rel IsReordered) layers others →
      Option.Rel IsReordered (merged layers) (merged others) := by
  have hdistinct : ∀ given ∈ layers, ∀ layer, given = some layer →
      layer.HasDistinctLanguages := by
    rintro given hgiven layer rfl
    exact hlayers layer hgiven
  refine ⟨merged_eq_none_iff, fun part => of?_merged hlayers part,
    fun whole hwhole => legacyKeys_merged hlayers hwhole, ?_, ?_, ?_, ?_⟩
  · rintro lower upper rfl
    exact merged_append (fun layer hlayer => hlayers layer (List.mem_append_left upper hlayer))
      fun layer hlayer => hlayers layer (List.mem_append_right lower hlayer)
  · intro below hbelow middle hmiddle above habove
    exact stack_assoc (hdistinct below hbelow) (hdistinct middle hmiddle) (hdistinct above habove)
  · intro layer hlayer
    exact ⟨stack_self (hdistinct layer hlayer), stack_none_left layer, stack_none_right layer⟩
  · intro others hreordered
    exact reordered_foldl_stack hreordered hlayers (by simp) .none

/-- Layers that overlap, with a gap between them. -/
def overlapping : List (Option Layer) :=
  [some defaults,
    some {
      languages := some ⟨[("vue", ["vue"]), ("svg", ["html"])]⟩
      options := some { tabWidth := some 2, semi := some true }
      eslintIntegration := some true },
    none,
    some {
      requireConfig := some true
      languages := some ⟨[("vue", [])]⟩
      options := some { semi := some false } }]

theorem merged_is_last_writer_wins_overlapping :
    (∀ layer, some layer ∈ overlapping → layer.HasDistinctLanguages) ∧
      (Part.parsers "vue").of? (merged overlapping) = some [] ∧
      (Part.parsers "svg").of? (merged overlapping) = some ["html"] ∧
      (Part.option .tabWidth).of? (merged overlapping) = some 2 ∧
      (Part.option .semi).of? (merged overlapping) = some false ∧
      (Part.requireConfig).of? (merged overlapping) = some true := by
  have hlayers : ∀ layer, some layer ∈ overlapping → layer.HasDistinctLanguages := by
    intro layer hlayer languages hlanguages
    simp only [overlapping, List.mem_cons, Option.some_inj, reduceCtorEq, List.not_mem_nil,
      or_false, false_or] at hlayer
    rcases hlayer with rfl | rfl | rfl
    · simp [defaults] at hlanguages
    · obtain rfl := Option.some.inj hlanguages
      decide
    · obtain rfl := Option.some.inj hlanguages
      decide
  obtain ⟨-, hparts, -⟩ := merged_is_last_writer_wins hlayers
  exact ⟨hlayers, hparts (.parsers "vue"), hparts (.parsers "svg"), hparts (.option .tabWidth),
    hparts (.option .semi), hparts .requireConfig⟩

end Stack

end Layer

end FormatServer
