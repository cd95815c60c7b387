import FormatServer.Proofs.Server.Memory
import Mathlib.Data.List.Induction

/-!
# Folders that come and go

A client tells of its folders by events, each of which removes some and then adds others. The folders
of a session are what the events make of those that it was introduced with. Whether a folder is among
them is up to the last event that mentions it. In which order they are is up to when they came: first
the folders from the beginning that were never removed, and then the others by the events that added
them and that none after them took back. A folder that one event both removes and adds gives up its
place and comes again.

Folders are compared as paths, so it makes no difference how they are written, and a folder whose URI
has no path is no folder.
-/

namespace FormatServer

namespace Session

variable {folders added : List Path} {path folder : Path} {keeps : Path → Bool}

/-! ### Lists of folders -/

/-- No folder is listed twice, however it is written. -/
def IsDistinct (folders : List Path) : Prop :=
  folders.Pairwise fun first second => first.sameAs second = false

instance (folders : List Path) : Decidable (IsDistinct folders) :=
  inferInstanceAs (Decidable (folders.Pairwise fun first second => first.sameAs second = false))

/-- Whether a folder is chosen does not depend on how it is written. -/
def RespectsSpelling (keeps : Path → Bool) : Prop :=
  ∀ first second : Path, first.sameAs second = true → keeps first = keeps second

theorem respectsSpelling_holds (folders : List Path) : RespectsSpelling (holds folders) := by
  intro first second hsame
  rw [holds, holds]
  congr 1
  funext folder
  rw [Path.sameAs_comm first, Path.sameAs_comm second, Path.sameAs_congr_right hsame]

theorem holds_append (folders others : List Path) (path : Path) :
    holds (folders ++ others) path = (holds folders path || holds others path) :=
  List.any_append

theorem holds_filter (hkeeps : RespectsSpelling keeps) (folders : List Path) (path : Path) :
    holds (folders.filter keeps) path = (keeps path && holds folders path) := by
  rw [holds, holds, List.any_filter, List.and_any_distrib_left]
  congr 1
  funext folder
  cases hsame : path.sameAs folder with
  | true => rw [hkeeps path folder hsame]
  | false => rw [Bool.and_false, Bool.and_false]

/-! ### Folders that are added -/

/-- The folders, and after them those added ones that are not there yet. -/
def withAdded (folders added : List Path) : List Path :=
  added.foldl (fun folders folder => if holds folders folder then folders else folders ++ [folder])
    folders

theorem withAdded_cons (folders : List Path) (folder : Path) (rest : List Path) :
    withAdded folders (folder :: rest) =
      if holds folders folder then withAdded folders rest
      else withAdded (folders ++ [folder]) rest := by
  rw [withAdded, List.foldl_cons]
  split <;> rfl

theorem holds_withAdded (folders added : List Path) (path : Path) :
    holds (withAdded folders added) path = (holds folders path || holds added path) := by
  induction added generalizing folders with
  | nil => simp [withAdded, holds]
  | cons folder rest ih =>
    have hfirst : holds (folder :: rest) path = (path.sameAs folder || holds rest path) := rfl
    rw [withAdded_cons, hfirst]
    split
    next hthere =>
      rw [ih]
      cases hsame : path.sameAs folder with
      | false => rw [Bool.false_or]
      | true =>
        rw [respectsSpelling_holds folders path folder hsame, hthere, Bool.true_or, Bool.true_or]
    next =>
      have hsingle : holds [folder] path = path.sameAs folder := by simp [holds]
      rw [ih, holds_append, hsingle, Bool.or_assoc]

theorem isDistinct_withAdded (hdistinct : IsDistinct folders) (added : List Path) :
    IsDistinct (withAdded folders added) := by
  induction added generalizing folders with
  | nil => exact hdistinct
  | cons folder rest ih =>
    rw [withAdded_cons]
    split
    next => exact ih hdistinct
    next hnew =>
      refine ih (List.pairwise_append.mpr ⟨hdistinct, List.pairwise_singleton _ _, ?_⟩)
      intro other hother last hlast
      rw [List.mem_singleton.mp hlast, Path.sameAs_comm]
      rw [Bool.not_eq_true, holds, List.any_eq_false] at hnew
      simpa using hnew other hother

/-- Choosing among the folders can be done before others are added. -/
theorem filter_withAdded (hkeeps : RespectsSpelling keeps) (folders added : List Path) :
    (withAdded folders added).filter keeps =
      withAdded (folders.filter keeps) (added.filter keeps) := by
  induction added generalizing folders with
  | nil => rfl
  | cons folder rest ih =>
    rw [withAdded_cons]
    cases hfolder : keeps folder with
    | false =>
      have hkept : (folders ++ [folder]).filter keeps = folders.filter keeps := by
        simp [List.filter_append, hfolder]
      rw [List.filter_cons_of_neg (by simp [hfolder])]
      split
      next => exact ih folders
      next => rw [ih, hkept]
    | true =>
      have hkept : (folders ++ [folder]).filter keeps = folders.filter keeps ++ [folder] := by
        simp [List.filter_append, hfolder]
      rw [List.filter_cons_of_pos hfolder, withAdded_cons, holds_filter hkeeps, hfolder,
        Bool.true_and]
      split
      next => exact ih folders
      next => rw [ih, hkept]

/-- The new folders come in the order in which they were added first. -/
theorem withAdded_eq_append (folders added : List Path) :
    withAdded folders added =
      folders ++ (added.filter fun folder => !holds folders folder).eraseDupsBy Path.sameAs := by
  induction added generalizing folders with
  | nil => simp [withAdded]
  | cons folder rest ih =>
    rw [withAdded_cons]
    cases hthere : holds folders folder with
    | true => rw [if_pos rfl, ih, List.filter_cons_of_neg (by simp [hthere])]
    | false =>
      have hlater : (rest.filter fun other => !holds (folders ++ [folder]) other) =
          (rest.filter fun other => !holds folders other).filter
            fun other => other.sameAs folder = false := by
        rw [List.filter_filter]
        refine List.filter_congr fun other _ => ?_
        rw [holds_append]
        cases hsame : other.sameAs folder <;> simp [holds, hsame]
      rw [if_neg Bool.false_ne_true, ih, List.filter_cons_of_pos (by simp [hthere]),
        List.eraseDupsBy_cons, hlater, List.append_assoc, List.singleton_append]

end Session

/-- An event of folders that are opened and closed. -/
structure FolderEvent where
  added : List Uri
  removed : List Uri
  deriving DecidableEq

namespace FolderEvent

open Session

variable {event : FolderEvent} {events : List FolderEvent} {folders : List Path} {path : Path}

def adds (event : FolderEvent) (path : Path) : Bool :=
  holds (event.added.filterMap Uri.path?) path

def removes (event : FolderEvent) (path : Path) : Bool :=
  holds (event.removed.filterMap Uri.path?) path

def mentions (event : FolderEvent) (path : Path) : Bool :=
  event.adds path || event.removes path

def apply (folders : List Path) (event : FolderEvent) : List Path :=
  changeFolders folders (event.added.filterMap Uri.path?) (event.removed.filterMap Uri.path?)

def run (folders : List Path) (events : List FolderEvent) : List Path :=
  events.foldl apply folders

/-- Whether none of the events removes the folder. -/
def spare (events : List FolderEvent) (path : Path) : Bool :=
  events.all fun event => !event.removes path

/-- The folders that the events add and that none of the later ones removes. -/
def lasting : List FolderEvent → List Path
  | [] => []
  | event :: later => (event.added.filterMap Uri.path?).filter (spare later) ++ lasting later

/-- The last event that mentions the folder adds it. -/
def LastAdds (events : List FolderEvent) (path : Path) : Prop :=
  ∃ before event later, events = before ++ event :: later ∧ event.adds path = true ∧
    ∀ other ∈ later, other.mentions path = false

/-! ### One event -/

theorem apply_eq (folders : List Path) (event : FolderEvent) :
    apply folders event =
      withAdded (folders.filter fun folder => !event.removes folder)
        (event.added.filterMap Uri.path?) :=
  rfl

theorem respectsSpelling_not_removes (event : FolderEvent) :
    RespectsSpelling fun folder => !event.removes folder :=
  fun first second hsame => congrArg not (respectsSpelling_holds _ first second hsame)

theorem respectsSpelling_spare (events : List FolderEvent) : RespectsSpelling (spare events) := by
  intro first second hsame
  rw [spare, spare]
  congr 1
  funext event
  exact event.respectsSpelling_not_removes first second hsame

/-- What an event adds is there after it, and what it only removes is not. -/
theorem holds_apply (folders : List Path) (event : FolderEvent) (path : Path) :
    holds (apply folders event) path =
      (!event.removes path && holds folders path || event.adds path) := by
  rw [apply_eq, holds_withAdded, holds_filter event.respectsSpelling_not_removes, adds]

theorem isDistinct_apply (hdistinct : IsDistinct folders) (event : FolderEvent) :
    IsDistinct (apply folders event) :=
  isDistinct_withAdded (hdistinct.filter _) _

/-! ### A run of events -/

theorem run_concat (folders : List Path) (events : List FolderEvent) (event : FolderEvent) :
    run folders (events ++ [event]) = apply (run folders events) event :=
  List.foldl_append

theorem lastAdds_concat_iff :
    LastAdds (events ++ [event]) path ↔
      event.adds path = true ∨ LastAdds events path ∧ event.mentions path = false := by
  constructor
  · rintro ⟨before, last, later, hevents, hadds, hlater⟩
    rcases List.eq_nil_or_concat later with rfl | ⟨more, other, rfl⟩
    · obtain ⟨rfl, hlast⟩ := List.append_inj' hevents rfl
      obtain rfl := List.singleton_inj.mp hlast
      exact .inl hadds
    · have hends : events ++ [event] = (before ++ last :: more) ++ [other] := by simpa using hevents
      obtain ⟨rfl, hother⟩ := List.append_inj' hends rfl
      obtain rfl := List.singleton_inj.mp hother
      exact .inr ⟨⟨before, last, more, rfl, hadds, fun other hmem => hlater other (by simp [hmem])⟩,
        hlater event (by simp)⟩
  · rintro (hadds | ⟨⟨before, last, later, rfl, hadds, hlater⟩, hmentions⟩)
    · exact ⟨events, event, [], rfl, hadds, by simp⟩
    · refine ⟨before, last, later ++ [event], by simp, hadds, fun other hmem => ?_⟩
      rcases List.mem_append.mp hmem with hmem | hmem
      · exact hlater other hmem
      · rw [List.mem_singleton.mp hmem, hmentions]

/-- The last event that mentions a folder decides, and before the first one the beginning does. -/
theorem holds_run_iff (initial : List Path) (events : List FolderEvent) (path : Path) :
    holds (run initial events) path = true ↔
      LastAdds events path ∨
        holds initial path = true ∧ ∀ event ∈ events, event.mentions path = false := by
  induction events using List.reverseRecOn with
  | nil => simp [run, LastAdds]
  | append_singleton events event ih =>
    rw [run_concat, holds_apply, lastAdds_concat_iff, Bool.or_eq_true, Bool.and_eq_true, ih]
    simp only [List.forall_mem_append, List.forall_mem_singleton, mentions, Bool.or_eq_false_iff]
    cases event.adds path <;> cases event.removes path <;> simp

theorem isDistinct_run {initial : List Path} (hdistinct : IsDistinct initial)
    (events : List FolderEvent) : IsDistinct (run initial events) := by
  induction events generalizing initial with
  | nil => exact hdistinct
  | cons event later ih => exact ih (isDistinct_apply hdistinct event)

/-- What the events remove can be left out from the start, and what they add and keep can be added
in the end. -/
theorem run_eq_withAdded (initial : List Path) (events : List FolderEvent) :
    run initial events = withAdded (initial.filter (spare events)) (lasting events) := by
  induction events generalizing initial with
  | nil =>
    have hall : initial.filter (spare []) = initial := List.filter_eq_self.mpr fun _ _ => rfl
    rw [hall]
    rfl
  | cons event later ih =>
    have hrun : run initial (event :: later) = run (apply initial event) later := rfl
    have hspare : (initial.filter fun folder => !event.removes folder).filter (spare later) =
        initial.filter (spare (event :: later)) := by
      rw [List.filter_filter]
      exact List.filter_congr fun folder _ => Bool.and_comm _ _
    rw [hrun, ih, apply_eq, filter_withAdded (respectsSpelling_spare later), hspare, lasting,
      withAdded, withAdded, withAdded, List.foldl_append]

end FolderEvent

/-! ### The folders of a session -/

namespace Incoming

/-- The folders that the message introduces the session with. -/
def firstFolders : Incoming → List Path
  | introduce introduction => introduction.folders.filterMap Uri.path?
  | _ => []

/-- The event of folders that the message tells of. -/
def folderEvent? : Incoming → Option FolderEvent
  | refoldered added removed => some ⟨added, removed⟩
  | _ => none

end Incoming

namespace History

/-- The folders of the introduction, of which there is only one. -/
def firstFolders (history : History) : List Path :=
  history.flatMap fun entry => entry.2.firstFolders

/-- The events of folders, the first one first. -/
def folderEvents (history : History) : List FolderEvent :=
  history.reverse.filterMap fun entry => entry.2.folderEvent?

end History

namespace Session

variable {session : Session} {history : History} {incoming : Incoming}

theorem folders_reloadAndRefresh (environment : Environment) (client : Client)
    (session : Session) :
    (session.reloadAndRefresh environment client).session.folders = session.folders := by
  obtain ⟨registrar, hrefresh⟩ :=
    exists_registrar_of_refresh client (session.reload environment).session
  rw [reloadAndRefresh, Progress.andThen]
  simp only [hrefresh]
  rfl

theorem folders_handle_of_keeps (environment : Environment) (client : Client)
    (hkeeps : incoming.reloads = false) (hready : incoming ≠ .introduced)
    (hphase : session.phase ≠ .fresh) :
    (session.handle environment client incoming).2.session.folders = session.folders := by
  obtain ⟨phase, documents, registrar, installed, ledger, -, hafter⟩ :=
    exists_rest_of_handle environment client hkeeps hready hphase
  rw [hafter]

theorem folders_handle (environment : Environment) (client : Client)
    (hphase : session.phase ≠ .fresh)
    (hincoming : ∀ introduction, incoming ≠ .introduce introduction) :
    (session.handle environment client incoming).2.session.folders =
      FolderEvent.run session.folders incoming.folderEvent?.toList := by
  cases incoming with
  | introduce introduction => exact absurd rfl (hincoming introduction)
  | refoldered added removed => exact folders_reloadAndRefresh environment client _
  | introduced =>
    obtain ⟨registrar, hready⟩ := exists_registrar_of_ready client session
    rw [handle, hready]
    rfl
  | configured settings =>
    rw [handle, configure]
    cases settingsSection? settings with
    | none => rfl
    | some given => exact folders_reloadAndRefresh environment client _
  | filesChanged uris =>
    rw [handle, noteFiles]
    split
    next => exact folders_reloadAndRefresh environment client _
    next => rfl
  | shutDown | opened | changed | closed | format | formatRange =>
    exact folders_handle_of_keeps environment client rfl (by simp) hphase

theorem folders_introduce (environment : Environment) (client : Client)
    (introduction : Introduction) (session : Session) :
    (session.handle environment client (.introduce introduction)).2.session.folders =
      introduction.folders.filterMap Uri.path? := by
  rw [handle, start]
  cases introduction.options <;> rfl

/-- A session has the folders that the events made of those that it was introduced with. -/
theorem HasHandled.folders_eq_run (hhandled : session.HasHandled history) :
    session.folders = FolderEvent.run history.firstFolders history.folderEvents := by
  induction hhandled with
  | initial => rfl
  | @receive history before hbefore environment client method parameters ih =>
    cases hincoming : before.handled? method parameters with
    | some incoming =>
      obtain ⟨hhandle, hcases⟩ := receive_of_handled? hincoming
      rw [hhandle]
      rcases hcases with ⟨hfresh, introduction, rfl⟩ | ⟨hrunning, hnot⟩
      · obtain rfl := hbefore.follows.begun.mp hfresh
        rw [folders_introduce]
        simp [History.firstFolders, History.folderEvents, Incoming.firstFolders,
          Incoming.folderEvent?, FolderEvent.run]
      · have hfirst : incoming.firstFolders = [] := by
          cases incoming with
          | introduce introduction => exact absurd rfl (hnot introduction)
          | _ => rfl
        have hevents : History.folderEvents ((environment, incoming) :: history) =
            history.folderEvents ++ incoming.folderEvent?.toList := by
          rw [History.folderEvents, List.reverse_cons, List.filterMap_append]
          cases hevent : incoming.folderEvent? <;> simp [hevent, History.folderEvents]
        rw [folders_handle environment client (by simp [hrunning]) hnot, ih]
        change _ = FolderEvent.run (incoming.firstFolders ++ history.firstFolders)
          (History.folderEvents ((environment, incoming) :: history))
        rw [hfirst, hevents, List.nil_append, FolderEvent.run, FolderEvent.run, FolderEvent.run,
          List.foldl_append]
    | none =>
      rcases receive_of_not_handled hincoming with hsame | ⟨-, hclosed⟩
      · rw [hsame]
        exact ih
      · rw [hclosed]
        exact ih

/-- After any events of folders a folder is listed exactly if the last event that mentions it adds
it, or if it was listed from the beginning and no event mentions it. The listed folders are those
from the beginning that no event removes, in their old order, and then the others in the order in
which events added them for good. None is listed twice if none was in the beginning. These are the
folders of a session, whatever other messages it has handled between the events. -/
theorem folders_after_events (initial : List Path) (events : List FolderEvent) :
    let final := FolderEvent.run initial events
    let survivors := initial.filter (FolderEvent.spare events)
    (∀ path, holds final path = true ↔
      FolderEvent.LastAdds events path ∨
        holds initial path = true ∧ ∀ event ∈ events, event.mentions path = false) ∧
    final = survivors ++ ((FolderEvent.lasting events).filter
      fun folder => !holds survivors folder).eraseDupsBy Path.sameAs ∧
    (IsDistinct initial → IsDistinct final) ∧
    ∀ (session : Session) (history : History), session.HasHandled history →
      history.firstFolders = initial → history.folderEvents = events →
        session.folders = final := by
  refine ⟨FolderEvent.holds_run_iff initial events, ?_,
    fun hdistinct => FolderEvent.isDistinct_run hdistinct events, ?_⟩
  · rw [FolderEvent.run_eq_withAdded, withAdded_eq_append]
  · rintro session history hhandled rfl rfl
    exact hhandled.folders_eq_run

/-- One folder is closed and opened again at once, one is closed for good, and a new one is opened
twice and closed in between. -/
def folderChanges : List FolderEvent := [
  ⟨[⟨"file:///d"⟩, ⟨"mailto:e"⟩, ⟨"file:///a/"⟩], [⟨"file:///a"⟩, ⟨"file:///b"⟩]⟩,
  ⟨[⟨"file:///c/"⟩], [⟨"file:///d//"⟩]⟩,
  ⟨[⟨"file:///d"⟩], [⟨"mailto:e"⟩]⟩]

def folderChangeData (event : FolderEvent) : String × Data :=
  let folders := fun uris : List Uri => Data.list (uris.map fun uri => folderData uri.text "folder")
  ("workspace/didChangeWorkspaceFolders", .record [("event", .record [
    ("added", folders event.added),
    ("removed", folders event.removed)])])

def threeFoldersData : Data :=
  openingData (.record [])
    [folderData "file:///a" "a", folderData "file:///b" "b", folderData "file:///c" "c"] []

/-- A session that begins with three folders and goes on with these changes. -/
def refoldered : Session :=
  opened threeFoldersData (folderChanges.map folderChangeData)

/-- The folder that was closed and opened again at once comes after the one that stayed. -/
theorem folders_refoldered :
    let final := ["/c", "/a/", "/d"].map Path.ofString
    refoldered.folders = final ∧ IsDistinct final ∧
      FolderEvent.LastAdds folderChanges "/d/" ∧ ¬FolderEvent.LastAdds folderChanges "/b" := by
  intro final
  obtain ⟨hlisted, -, hdistinct, hsession⟩ :=
    folders_after_events (["/a", "/b", "/c"].map Path.ofString) folderChanges
  obtain ⟨history, hhandled, hfirst, hevents⟩ : ∃ history : History,
      refoldered.HasHandled history ∧
        history.firstFolders = ["/a", "/b", "/c"].map Path.ofString ∧
        history.folderEvents = folderChanges := by
    have hopened := HasHandled.initial.receive emptyFolder (fun _ => none) "initialize"
      threeFoldersData
    have hready := hopened.receive emptyFolder (fun _ => none) "initialized" (.record [])
    have hfirst := hready.receive emptyFolder (fun _ => none) "workspace/didChangeWorkspaceFolders"
      (folderChangeData folderChanges[0]).2
    have hsecond := hfirst.receive emptyFolder (fun _ => none) "workspace/didChangeWorkspaceFolders"
      (folderChangeData folderChanges[1]).2
    have hthird := hsecond.receive emptyFolder (fun _ => none) "workspace/didChangeWorkspaceFolders"
      (folderChangeData folderChanges[2]).2
    refine ⟨_, hthird, ?_, ?_⟩
    · decide +kernel
    · decide +kernel
  have hfinal : FolderEvent.run (["/a", "/b", "/c"].map Path.ofString) folderChanges = final := by
    decide +kernel
  have hfolders := hsession refoldered history hhandled hfirst hevents
  rw [hfinal] at hlisted hfolders hdistinct
  refine ⟨hfolders, hdistinct (by decide), ?_, ?_⟩
  · refine ((hlisted "/d/").mp (by decide)).resolve_right ?_
    rintro ⟨hinitial, -⟩
    exact absurd hinitial (by decide)
  · intro hlast
    exact absurd ((hlisted "/b").mpr (.inl hlast)) (by decide)

end Session

end FormatServer
