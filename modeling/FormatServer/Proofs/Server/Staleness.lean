import FormatServer.Proofs.Server.Memory
import Mathlib.Data.List.Basic

/-!
# Files that change while a session runs

A client reports the files that changed, and the session loads its configuration anew if one of them
has a name that it watches for. These are the names of the formatter's own configuration files. The
settings files, which are what the session loads, have a name that is not among them. So the
configuration is stale after a report of settings files alone, unless what is loaded from them is
still the same, and it stays so until something else has it loaded.
-/

namespace FormatServer

/-- The files that the configuration of a session is loaded from. -/
def Session.settingsFiles (environment : Environment) (session : Session) : List Path :=
  environment.userSettingsFile?.toList ++
    (session.root.toList ++ session.folders).map fun folder => folder.join settingsFileName

namespace Session

variable {session : Session} {before after : Environment} {earlier : History} {uris : List Uri}

/-! ### Files that read as before -/

theorem layer_ofFolder_congr {folder : Path}
    (hfile : Layer.ofFile after (folder.join settingsFileName) =
      Layer.ofFile before (folder.join settingsFileName)) :
    LoadedLayer.ofFolder after folder = LoadedLayer.ofFolder before folder := by
  simp only [LoadedLayer.ofFolder, hfile]

theorem load_congr (hdisk : after = { before with disk := after.disk })
    (hfiles : ∀ file ∈ session.settingsFiles after,
      Layer.ofFile after file = Layer.ofFile before file)
    (given : Option (ClientSource × Data)) :
    (Settings.load after session.root given).settings =
        (Settings.load before session.root given).settings ∧
      FolderLanguages.load after session.folders = .load before session.folders := by
  have huserFile : after.userSettingsFile? = before.userSettingsFile? := by
    rw [hdisk]
    rfl
  have huser : LoadedLayer.ofUser after = LoadedLayer.ofUser before := by
    have hlayer : after.userLayer = before.userLayer := by
      rw [Environment.userLayer, Environment.userLayer, ← huserFile]
      cases hfile : after.userSettingsFile? with
      | none => rfl
      | some file =>
        have hread := hfiles file (by simp [settingsFiles, hfile])
        simp only [Option.bind_some, hread]
    rw [LoadedLayer.ofUser, LoadedLayer.ofUser, hlayer]
  have hfolder : ∀ folder ∈ session.root.toList ++ session.folders,
      LoadedLayer.ofFolder after folder = LoadedLayer.ofFolder before folder := by
    intro folder hmem
    apply layer_ofFolder_congr
    exact hfiles _ (List.mem_append_right _ (List.mem_map_of_mem hmem))
  constructor
  · have hproject : LoadedLayer.ofProject after session.root =
        LoadedLayer.ofProject before session.root := by
      cases hroot : session.root with
      | none => rfl
      | some root => exact hfolder root (by simp [hroot])
    simp only [Settings.load, huser, hproject]
  · rw [FolderLanguages.load, FolderLanguages.load]
    congr 1
    apply List.filterMap_congr
    intro folder hmem
    rw [hfolder folder (List.mem_append_right _ hmem)]

/-! ### What a report does -/

/-- A configuration that is current around one place is so around another exactly if the same is
loaded there. -/
theorem IsCurrent.of_other_iff {given : Option (ClientSource × Data)}
    (hcurrent : session.IsCurrent before given) :
    session.IsCurrent after given ↔
      (Settings.load after session.root given).settings =
          (Settings.load before session.root given).settings ∧
        FolderLanguages.load after session.folders = .load before session.folders := by
  constructor
  · intro hafter
    exact ⟨hafter.settings.trans hcurrent.settings.symm,
      hafter.folderLanguages.symm.trans hcurrent.folderLanguages⟩
  · rintro ⟨hsettings, hlanguages⟩
    exact ⟨hsettings.trans hcurrent.settings, hcurrent.folderLanguages.trans hlanguages.symm,
      hcurrent.selectors⟩

/-- After a report of changed files the configuration is that of a fresh load exactly if a watched
name was among them, or if a fresh load gives what was loaded last. It gives this in particular if
every settings file reads as it did then. -/
theorem isCurrent_filesChanged_iff
    (hhandled : session.HasHandled ((after, .filesChanged uris) :: earlier))
    (hready : earlier.IsReady) :
    ∃ before, earlier.source? = some before ∧
      (session.IsCurrent after earlier.given? ↔
        (uris.filterMap Uri.path?).any Config.isWatched = true ∨
          (Settings.load after session.root earlier.given?).settings =
              (Settings.load before session.root earlier.given?).settings ∧
            FolderLanguages.load after session.folders = .load before session.folders) ∧
      (after = { before with disk := after.disk } →
        (∀ file ∈ session.settingsFiles after,
          Layer.ofFile after file = Layer.ofFile before file) →
          session.IsCurrent after earlier.given?) := by
  have hfollows := hhandled.follows
  have hreadyNow : History.IsReady ((after, .filesChanged uris) :: earlier) :=
    isReady_cons_iff.mpr (.inr hready)
  have hgiven : History.given? ((after, .filesChanged uris) :: earlier) = earlier.given? := rfl
  obtain ⟨_, hearlier⟩ := hhandled.exists_earlier
  obtain ⟨before, hbefore⟩ := hearlier.exists_source hready.ne_nil
  refine ⟨before, hbefore, ?_⟩
  cases hwatched : (uris.filterMap Uri.path?).any Config.isWatched with
  | true =>
    have hreloads : (Incoming.filesChanged uris).reloads = true := hwatched
    have hsource : History.source? ((after, .filesChanged uris) :: earlier) = some after := by
      simp [History.source?, hreloads]
    have hcurrent := isCurrent_of_follows hfollows hreadyNow hsource
    rw [hgiven] at hcurrent
    exact ⟨iff_of_true hcurrent (.inl rfl), fun _ _ => hcurrent⟩
  | false =>
    -- The report changes nothing, so the configuration is still that of the earlier place.
    have hkeeps : (Incoming.filesChanged uris).reloads = false := hwatched
    have hsource : History.source? ((after, .filesChanged uris) :: earlier) = some before := by
      rw [← hbefore]
      simp [History.source?, hkeeps]
    have hcurrent := isCurrent_of_follows hfollows hreadyNow hsource
    rw [hgiven] at hcurrent
    refine ⟨by simpa using hcurrent.of_other_iff, fun hdisk hfiles => ?_⟩
    exact hcurrent.of_other_iff.mpr (load_congr hdisk hfiles _)

/-! ### A settings file that is written anew -/

def rewrittenFolder : Environment :=
  { emptyFolder with
    disk := emptyFolder.disk.insert [Segment.ofString "ws", Segment.ofString settingsFileName]
      (.file (Utf8.encode "[languages]\nsvelte = [\"svelte\"]\n")) }

/-- A client opened the folder before its settings file was written anew. -/
def plainlyOpened : Session :=
  opened (openingData (.record []) [folderData "file:///ws" "ws"] []) []

def reportData (uris : List String) : Data :=
  let changes := uris.map fun uri => Data.record [("uri", .text uri), ("type", .integer 2)]
  .record [("changes", .list changes)]

/-- It then reports these files as changed. -/
def reported (uris : List String) : Session :=
  (plainlyOpened.receive rewrittenFolder (fun _ => none) "workspace/didChangeWatchedFiles"
    (reportData uris)).2.session

theorem exists_history_of_reported (uris : List String)
    (hread : Incoming.read? "workspace/didChangeWatchedFiles" (reportData uris) =
      some (some (.filesChanged (uris.map Uri.mk)))) :
    ∃ earlier : History,
      (reported uris).HasHandled ((rewrittenFolder, .filesChanged (uris.map Uri.mk)) :: earlier) ∧
        earlier.IsReady ∧ ∀ entry ∈ earlier, entry.1 = emptyFolder := by
  obtain ⟨earlier, hhandled, hready, hbefore⟩ : ∃ history : History,
      plainlyOpened.HasHandled history ∧ history.IsReady ∧
        ∀ entry ∈ history, entry.1 = emptyFolder :=
    exists_ready_history emptyFolder _ _ _ (by decide +kernel)
  have hreported : (reported uris).HasHandled _ := hhandled.receive rewrittenFolder _ _ _
  have hrunning : plainlyOpened.phase = .running := by decide +kernel
  have hincoming : plainlyOpened.handled? "workspace/didChangeWatchedFiles" (reportData uris) =
      some (.filesChanged (uris.map Uri.mk)) := by
    rw [handled?, refusal?, hrunning, hread]
    rfl
  rw [hincoming] at hreported
  exact ⟨earlier, hreported, hready, hbefore⟩

/-- A configuration file that is reported besides has everything loaded. -/
theorem isCurrent_reported_with_watched :
    ∃ earlier : History, earlier.IsReady ∧
      (reported ["file:///ws/prettier-ls.toml", "file:///ws/.prettierrc"]).IsCurrent
        rewrittenFolder earlier.given? := by
  obtain ⟨earlier, hhandled, hready, -⟩ := exists_history_of_reported
    ["file:///ws/prettier-ls.toml", "file:///ws/.prettierrc"] rfl
  obtain ⟨_, -, hiff, -⟩ := isCurrent_filesChanged_iff hhandled hready
  exact ⟨earlier, hready, hiff.mpr (.inl (by decide +kernel))⟩

/-- The settings file is the only one to change, and it is reported, but what the session has is
not what would be loaded from it. -/
theorem settings_file_reported_in_vain :
    let file := Location.path [Segment.ofString "ws", Segment.ofString settingsFileName]
    let uris := [Uri.mk "file:///ws/prettier-ls.toml"]
    ∃ (session : Session) (earlier : History),
      session.HasHandled ((rewrittenFolder, .filesChanged uris) :: earlier) ∧ earlier.IsReady ∧
        (∀ entry ∈ earlier, entry.1 = emptyFolder) ∧
        (∀ place, place.path ≠ file →
          rewrittenFolder.disk.entry place = emptyFolder.disk.entry place) ∧
        uris.filterMap Uri.path? = [file] ∧
        ¬session.IsCurrent rewrittenFolder earlier.given? := by
  intro file uris
  obtain ⟨earlier, hhandled, hready, hbefore⟩ :=
    exists_history_of_reported ["file:///ws/prettier-ls.toml"] rfl
  refine ⟨_, earlier, hhandled, hready, hbefore, fun place hplace => ?_, by decide +kernel, ?_⟩
  · have hne : place ≠ [Segment.ofString "ws", Segment.ofString settingsFileName] := by
      rintro rfl
      exact hplace rfl
    simp [rewrittenFolder, Disk.insert, hne]
  · intro hcurrent
    have hstale : ((reported ["file:///ws/prettier-ls.toml"]).folderLanguages.get?
        (Location.path [Segment.ofString "ws"])).isSome = false := by decide +kernel
    rw [hcurrent.folderLanguages] at hstale
    exact absurd hstale (by decide +kernel)

end Session

end FormatServer
