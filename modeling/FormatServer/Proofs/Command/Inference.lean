import FormatServer.Proofs.Command.Output
import FormatServer.Proofs.Language.Inference
import FormatServer.Proofs.Path.Parents
import FormatServer.Proofs.Selector.Agreement

/-!
# The command without a language

Without a language the command infers one from the name of its file. The parsers are then asked for
with this language and the file of the URL, which is not always written like the file that was
given: a slash at the end is lost, and one is put after the name of a drive. The last component stays
what it is, so the language that the name led to is found again, and it has a parser.
-/

namespace FormatServer

/-! ### A file that is text and the file of its URL -/

namespace Path

variable {path file : Path}

/-- An absolute path is the same as its steps from the root. -/
theorem sameAs_steps (habsolute : path.isAbsolute = true) :
    (Path.mk (slash :: joined path.steps)).sameAs path = true := by
  obtain ⟨rest, rfl⟩ := exists_cons_of_isAbsolute habsolute
  have hlead : (Path.mk (slash :: rest)).lead = ([slash], rest) := by simp [lead]
  have hfits : Fits [slash] (Path.mk (slash :: rest)).steps := by
    refine ⟨fun segment hsegment => ?_, .inl rfl⟩
    exact slash_notMem_of_mem_segments (List.mem_of_mem_filter hsegment)
  rw [sameAs_iff]
  change (Path.mk ([slash] ++ joined _)).components = _
  rw [hfits.components, steps_eq_filter_lead, components, hlead, filterMap_component?_filter]

theorem sameAs_fromUrl (habsolute : path.isAbsolute = true) : path.fromUrl.sameAs path = true := by
  rw [fromUrl]
  split
  next =>
    obtain ⟨rest, rfl⟩ := exists_cons_of_isAbsolute habsolute
    have hlead : ∀ glyphs, (Path.mk (slash :: glyphs)).lead = ([slash], glyphs) := by simp [lead]
    have hend : (segments []).filterMap Segment.component? = [] := rfl
    rw [sameAs_iff]
    change (Path.mk (slash :: (rest ++ [slash]))).components = _
    rw [components, components, hlead, hlead, segments_append, List.filterMap_append, hend,
      List.append_nil]
  next => exact sameAs_refl path

theorem baseName?_eq_of_sameAs (hsame : file.sameAs path = true) :
    file.baseName? = path.baseName? := by
  rw [baseName?, baseName?, fileName?, fileName?, sameAs_iff.mp hsame]

end Path

namespace Url

variable {path : Path}

theorem componentText_of_component? {segment : Segment} {component : Component}
    (hcomponent : Segment.component? segment = some component)
    (htext : segment.all Glyph.isText = true) :
    componentText component = Percent.encode Percent.isFileName (segment.map Glyph.shown) := by
  rw [Segment.component?, Option.ite_none_left_eq_some] at hcomponent
  obtain ⟨-, hcomponent⟩ := hcomponent
  split at hcomponent
  next hup =>
    obtain rfl := Option.some.inj hcomponent
    rw [hup]
    decide
  next =>
    obtain rfl := Option.some.inj hcomponent
    rw [← componentText_chars, Path.map_char_shown (List.all_eq_true.mp htext)]

theorem map_componentText {given : List Segment}
    (htext : ∀ segment ∈ given, segment.all Glyph.isText = true) :
    (given.filterMap Segment.component?).map
        (fun component => String.ofList (componentText component)) =
      ((given.filter fun segment => !Segment.isEmpty segment).map (List.map Glyph.shown)).map
        fun chars => String.ofList (Percent.encode Percent.isFileName chars) := by
  induction given with
  | nil => rfl
  | cons segment rest ih =>
    obtain ⟨hsegment, hrest⟩ := List.forall_mem_cons.mp htext
    by_cases hempty : Segment.isEmpty segment = true
    · have hnone : Segment.component? segment = none := Path.component?_eq_none_iff.mpr hempty
      rw [List.filterMap_cons_none hnone, List.filter_cons_of_neg (by simp [hempty]), ih hrest]
    · obtain ⟨component, hcomponent⟩ :=
        Option.ne_none_iff_exists'.mp (mt Path.component?_eq_none_iff.mp hempty)
      rw [List.filterMap_cons_some hcomponent, List.filter_cons_of_pos (by simp [hempty]),
        List.map_cons, List.map_cons, List.map_cons, componentText_of_component? hcomponent hsegment,
        ih hrest]

/-- The file of the URL of a path that is text is the path. -/
theorem exists_ofPath?_sameAs (habsolute : path.isAbsolute = true) (htext : path.isText = true) :
    ∃ url file, ofPath? path = some url ∧ url.file? = some file ∧ file.sameAs path = true := by
  have hsegments : ∀ segment ∈ Path.segments path.lead.2, segment.all Glyph.isText = true := by
    rw [Path.isText_eq_lead, ← Path.all_segments (by rfl)] at htext
    exact List.all_eq_true.mp htext
  have hmark : Path.leadComponents path.lead.1 = [.root] := by
    obtain ⟨rest, rfl⟩ := Path.exists_cons_of_isAbsolute habsolute
    simp [Path.lead, Path.leadComponents]
  have hvalues : (path.components.drop 1).map
      (fun component => String.ofList (componentText component)) =
        (path.steps.map (List.map Glyph.shown)).map fun chars =>
          String.ofList (Percent.encode Percent.isFileName chars) := by
    rw [Path.components, hmark, List.singleton_append, List.drop_succ_cons, List.drop_zero,
      Path.steps_eq_filter_lead]
    exact map_componentText hsegments
  have hsteps : (path.steps.map (List.map Glyph.shown)).map (List.map Glyph.char) = path.steps := by
    rw [List.map_map]
    refine (List.map_congr_left fun segment hsegment => ?_).trans (List.map_id' path.steps)
    rw [Path.steps_eq_filter_lead] at hsegment
    exact Path.map_char_shown
      (List.all_eq_true.mp (hsegments segment (List.mem_of_mem_filter hsegment)))
  have hfile := file?_texts (path.steps.map (List.map Glyph.shown))
  rw [← hvalues, hsteps] at hfile
  refine ⟨_, _, by rw [ofPath?, if_pos habsolute], hfile, ?_⟩
  exact Path.sameAs_trans (Path.sameAs_fromUrl rfl) (Path.sameAs_steps habsolute)

end Url

/-! ### The language and its parsers -/

namespace Language

theorem IsFirstFor.congr {found : Language} {path file : Path} (hfirst : found.IsFirstFor path)
    (hsame : file.sameAs path = true) : found.IsFirstFor file := by
  rw [IsFirstFor, Path.baseName?_eq_of_sameAs hsame]
  exact hfirst

end Language

namespace Command

variable {environment : Environment} {request : FormatServer.Request} {path : Path} {id : String}
  {found : Language}

theorem parsers_services (hfirst : found.IsFirstFor path) (hid : found.ids.head? = some id)
    (hgeneral : (workspace environment).settings.languages.get? id = none) :
    (services environment).parsers (some path) id = found.parsers := by
  have hfolders : LanguageTable.HasNoFolder ((workspace environment).languages .empty) (some path)
      id := by
    rintro file - entry hentry
    exact absurd hentry List.not_mem_nil
  exact LanguageTable.parsers_of_isFirstFor hfirst hid hfolders hgeneral

/-- With a parser for the language no engine leaves the command without one. -/
theorem stops_parser_eq_false
    (hparsers : (services environment).parsers request.file request.language ≠ []) :
    Pipeline.Gate.stops (services environment) (workspace environment) request .empty .parser =
      false := by
  have hparsed : ∀ engine, (Pipeline.parserBy (services environment) request engine).isNone =
      false := by
    intro engine
    rw [Option.isNone_eq_false_iff, Pipeline.parserBy, Option.isSome_or, Bool.or_eq_true]
    exact .inr (List.isSome_head?.mpr hparsers)
  simp [Pipeline.Gate.stops, hparsed]

/-- A file gets the first id of the first builtin language for its name, and unless that id is
configured it gets the parsers of the same language, of which there is at least one. So a command
that is left to infer the language never stops for want of a parser, and where the engine names none
it takes the first parser of the language that the name led to. -/
theorem inferred_language_gives_parsers (path : Path) (id : String) :
    (LanguageTable.idOfPath path = some id ↔
      ∃ found : Language, found.IsFirstFor path ∧ found.ids.head? = some id) ∧
    ∀ found : Language, found.IsFirstFor path → found.ids.head? = some id →
      found.parsers ≠ [] ∧
      (∀ table : LanguageTable, table.HasNoFolder (some path) id → table.general.get? id = none →
        table.parsers (some path) id = found.parsers) ∧
      ∀ environment command input text, command.language = none →
        absolutePath environment.directory command.file = path → path.isText = true →
        (workspace environment).settings.languages.get? id = none →
        textToFormat environment command path input = .ok text →
          ∃ url, Url.ofPath? path = some url ∧
            let request := FormatServer.Request.ofDocument url id text
            let outcome := (pipeline environment request).1
            formatFile environment command input =
              exitFor path text outcome (some outcome.status) ∧
            (services environment).parsers request.file id = found.parsers ∧
            Pipeline.Gate.stops (services environment) (workspace environment) request .empty
              .parser = false ∧
            ∀ engine, Pipeline.parserBy (services environment) request engine =
              (Pipeline.infoBy (services environment) request engine).inferredParser.or
                found.parsers.head? := by
  refine ⟨LanguageTable.idOfPath_eq_some_iff, fun found hfirst hid => ⟨hfirst.parsers_ne_nil,
    fun table => LanguageTable.parsers_of_isFirstFor hfirst hid, ?_⟩⟩
  rintro environment command input text hlanguage rfl htext hgeneral hread
  have hinferred : languageOf command (absolutePath environment.directory command.file) =
      .ok id := by
    rw [languageOf, hlanguage, Option.none_or,
      LanguageTable.idOfPath_eq_some_iff.mpr ⟨found, hfirst, hid⟩]
  obtain ⟨url, hurl, hexit⟩ := formatFile_eq_exitFor hread hinferred
  obtain ⟨other, file, hother, hfile, hsame⟩ := Url.exists_ofPath?_sameAs
    (isAbsolute_absolutePath environment.directory command.file) htext
  obtain rfl : url = other := Option.some.inj (hurl.symm.trans hother)
  have hparsers : (services environment).parsers url.file? id = found.parsers := by
    rw [hfile]
    exact parsers_services (hfirst.congr hsame) hid hgeneral
  refine ⟨url, hurl, hexit, hparsers, ?_, ?_⟩
  · refine stops_parser_eq_false ?_
    change (services environment).parsers url.file? id ≠ []
    rw [hparsers]
    exact hfirst.parsers_ne_nil
  · intro engine
    rw [← hparsers]
    rfl

/-- Two languages share the id of the file, and it is the one with the file's name that counts. -/
theorem package_json_inferred_parsers :
    let environment := echoing [Segment.ofString "ws"] ""
    let command := FormatCommand.mk "./app//package.json/" none true
    ∃ found : Language, found.IsFirstFor "/ws/app/package.json/" ∧ found.name = "JSON.stringify" ∧
      LanguageTable.idOfPath "/ws/app/package.json/" = some "json" ∧
      ∃ url, Url.ofPath? "/ws/app/package.json/" = some url ∧
        (services environment).parsers (FormatServer.Request.ofDocument url "json" "x").file
          "json" = ["json-stringify"] ∧
        (formatFile environment command (Utf8.encode "x")).output =
          "--parser=json-stringify\n--no-config\n--stdin-filepath=/ws/app/package.json\n/ws" := by
  intro environment command
  let before := Language.builtin.take 4
  let found := Language.builtin[4]
  let after := Language.builtin.drop 5
  have hfirst : found.IsFirstFor "/ws/app/package.json/" :=
    ⟨"package.json", before, after, by decide, by decide, by decide, by decide⟩
  have hid : found.ids.head? = some "json" := by decide
  obtain ⟨hinferred, hcommand⟩ :=
    inferred_language_gives_parsers (Path.ofString "/ws/app/package.json/") "json"
  obtain ⟨-, -, hformat⟩ := hcommand found hfirst hid
  obtain ⟨url, hurl, -, hparsers, -⟩ := hformat environment command (Utf8.encode "x") "x" rfl
    (by decide +kernel) (by decide) (by decide +kernel) (by decide +kernel)
  exact ⟨found, hfirst, by decide, hinferred.mpr ⟨found, hfirst, hid⟩, url, hurl, hparsers,
    by decide +kernel⟩

end Command

end FormatServer
