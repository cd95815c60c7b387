import FormatServer.Proofs.Server.Memory
import FormatServer.Proofs.Server.Uninterrupted

/-!
# What handlers leave behind

A handler stores the settings of the client at once, and loads with them. It applies what it loaded
only when the client has taken all there is to tell, and other handlers may store and apply theirs
in between. Whatever they do, the client's settings are those that were stored last, the settings in
force are those that were applied last, and the selectors and the call on the registrar that was
made last come from these.
-/

namespace FormatServer

open Registrar SharedRegistrar

namespace Deed

def handler : Deed → Nat
  | stored handler | told handler _ | applied handler => handler

def stored? : Deed → Option Nat
  | stored handler => some handler
  | _ => none

def applied? : Deed → Option Nat
  | applied handler => some handler
  | _ => none

/-- The handler of the last of the deeds of one kind. -/
def lastBy (which : Deed → Option Nat) (deeds : List Deed) : Option Nat :=
  (deeds.filterMap which).getLast?

variable {which : Deed → Option Nat} {deeds : List Deed} {deed : Deed} {index : Nat}

theorem lastBy_concat (which : Deed → Option Nat) (deeds : List Deed) (deed : Deed) :
    lastBy which (deeds ++ [deed]) = (which deed).or (lastBy which deeds) := by
  rw [lastBy, List.filterMap_append, List.getLast?_append]
  cases hdeed : which deed <;> simp [hdeed, lastBy]

theorem exists_mem_of_lastBy (hlast : lastBy which deeds = some index) :
    ∃ deed ∈ deeds, which deed = some index :=
  List.mem_filterMap.mp (List.mem_of_getLast? hlast)

theorem lastBy_ne_none (hmem : deed ∈ deeds) (hdeed : which deed = some index) :
    lastBy which deeds ≠ none := by
  intro hnone
  have hempty := List.getLast?_eq_none_iff.mp hnone
  have hfound : index ∈ deeds.filterMap which := List.mem_filterMap.mpr ⟨deed, hmem, hdeed⟩
  simp [hempty] at hfound

theorem lastBy_eq_of_only (hmem : deed ∈ deeds) (hdeed : which deed = some index)
    (honly : ∀ other ∈ deeds, ∀ found, which other = some found → found = index) :
    lastBy which deeds = some index := by
  obtain ⟨found, hlast⟩ := Option.ne_none_iff_exists'.mp (lastBy_ne_none hmem hdeed)
  obtain ⟨other, hother, hfound⟩ := exists_mem_of_lastBy hlast
  rw [hlast, honly other hother found hfound]

theorem eq_stored_of_stored? (hdeed : deed.stored? = some index) : deed = stored index := by
  cases deed with
  | stored handler => rw [Option.some.inj hdeed]
  | told | applied => simp [stored?] at hdeed

theorem eq_applied_of_applied? (hdeed : deed.applied? = some index) : deed = applied index := by
  cases deed with
  | applied handler => rw [Option.some.inj hdeed]
  | told | stored => simp [applied?] at hdeed

end Deed

open Deed

namespace SharedSession

/-- The settings for the server in the change with this number. -/
def settings? (changes : List Data) (index : Nat) : Option Data :=
  changes[index]?.bind settingsSection?

/-- The settings of the client as this handler stores them, or as they were at the start. -/
def givenBy (start : Session) (changes : List Data) : Option Nat → Option (ClientSource × Data)
  | none => start.client
  | some index => (settings? changes index).map fun settings => (.configuration, settings)

/-- The handler has come to where it is with the change that is its own. -/
def IsOnCourse (environment : Environment) (start : Session) (changes : List Data)
    (deeds : List Deed) (index : Nat) : Handling → Prop
  | .arrived change => changes[index]? = some change
  | .telling loaded _ _ =>
    stored index ∈ deeds ∧ ∃ settings, settings? changes index = some settings ∧
      loaded = Settings.load environment start.root (some (.configuration, settings))
  | .registering _ => stored index ∈ deeds ∧ applied index ∈ deeds
  | .ended => (settings? changes index).isSome = true → stored index ∈ deeds ∧ applied index ∈ deeds

/-- The session agrees with what was done in it. While a handler runs, nothing is said of where it
is. -/
structure Agrees (environment : Environment) (start : Session) (past : List Traffic)
    (changes : List Data) (running : Option Nat) (shared : SharedSession) : Prop where
  root : shared.session.root = start.root
  folders : shared.session.folders = start.folders
  capabilities : shared.session.capabilities = start.capabilities
  client : shared.session.client = givenBy start changes (lastBy stored? shared.deeds)
  settings : (Settings.load environment start.root
    (givenBy start changes (lastBy applied? shared.deeds))).settings = some shared.session.settings
  folderLanguages : shared.session.folderLanguages = .load environment start.folders
  idle : lastBy applied? shared.deeds = none → shared.session.selectors = start.selectors ∧
    shared.registrations = (initial start past changes).registrations
  computed : lastBy applied? shared.deeds ≠ none →
    shared.session.selectors = shared.session.computeSelectors
  registers : lastBy applied? shared.deeds ≠ none → start.capabilities.registersBoth = true →
    shared.stages ≠ [] ∧ Registers shared.session.selectors shared.registrations
  ours : ∀ deed ∈ shared.deeds, (settings? changes deed.handler).isSome = true
  present : shared.handlers.length = changes.length
  runs : ∀ index : Nat, running = some index → index < shared.handlers.length
  handled : ∀ (index : Nat) (handling : Handling), running ≠ some index →
    shared.handlers[index]? = some handling →
      IsOnCourse environment start changes shared.deeds index handling
  owned : ∀ (call : Nat) (stage : Stage), shared.stages[call]? = some stage →
    stage.isEnded = true ∨
      ∃ index : Nat, running ≠ some index ∧ shared.handlers[index]? = some (.registering call)

variable {environment : Environment} {start : Session} {past : List Traffic} {changes : List Data}
  {running : Option Nat} {shared next last : SharedSession} {index : Nat} {handling : Handling}
  {settings : Data}

theorem IsOnCourse.of_append {deeds : List Deed} (more : List Deed)
    (hcourse : IsOnCourse environment start changes deeds index handling) :
    IsOnCourse environment start changes (deeds ++ more) index handling := by
  cases handling with
  | arrived change => exact hcourse
  | telling loaded notice rest => exact ⟨List.mem_append_left more hcourse.1, hcourse.2⟩
  | registering call => exact hcourse.imp (List.mem_append_left more) (List.mem_append_left more)
  | ended =>
    intro hours
    exact (hcourse hours).imp (List.mem_append_left more) (List.mem_append_left more)

theorem agrees_initial (hloaded : start.IsLoaded environment) :
    Agrees environment start past changes none (initial start past changes) where
  root := rfl
  folders := rfl
  capabilities := rfl
  client := rfl
  settings := hloaded.settings
  folderLanguages := hloaded.folderLanguages
  idle := fun _ => ⟨rfl, rfl⟩
  computed := fun hsome => absurd rfl hsome
  registers := fun hsome => absurd rfl hsome
  ours := by simp [initial]
  present := List.length_map _
  runs := nofun
  handled := by
    intro index handling _ hhandling
    change (changes.map Handling.arrived)[index]? = _ at hhandling
    rw [List.getElem?_map] at hhandling
    obtain ⟨change, hchange, rfl⟩ := Option.map_eq_some_iff.mp hhandling
    exact hchange
  owned := by simp [initial]

/-! ### What a handler does -/

section

variable {handlers : List Handling} {found : Handling}

theorem forall_handlers_set {accords : Nat → Handling → Prop} (hindex : index < handlers.length)
    (hothers : ∀ (other : Nat) (found : Handling), some index ≠ some other →
      handlers[other]? = some found → accords other found)
    (hown : accords index handling) {other : Nat}
    (hfound : (handlers.set index handling)[other]? = some found) : accords other found := by
  by_cases hsame : index = other
  · subst hsame
    obtain rfl := Option.some.inj ((List.getElem?_set_self hindex).symm.trans hfound)
    exact hown
  · have hbefore := (List.getElem?_set_ne hsame).symm.trans hfound
    exact hothers other found (by simpa using hsame) hbefore

theorem exists_owner_set
    (howner : ∃ owner : Nat, some index ≠ some owner ∧ handlers[owner]? = some found) :
    ∃ owner : Nat, none ≠ some owner ∧ (handlers.set index handling)[owner]? = some found := by
  obtain ⟨owner, hother, hfound⟩ := howner
  have hne : index ≠ owner := by simpa using hother
  exact ⟨owner, nofun, (List.getElem?_set_ne hne).trans hfound⟩

end

/-- A handler that waits for no call may run. -/
theorem Agrees.run (hagrees : Agrees environment start past changes none shared)
    (hhandler : shared.handlers[index]? = some handling)
    (hfree : ∀ call, handling = .registering call →
      ∀ stage, shared.stages[call]? = some stage → stage.isEnded = true) :
    Agrees environment start past changes (some index) shared := by
  refine { hagrees with runs := ?_, handled := ?_, owned := ?_ }
  · intro other hother
    obtain rfl := Option.some.inj hother
    exact (List.getElem?_eq_some_iff.mp hhandler).1
  · intro other found _ hfound
    exact hagrees.handled other found nofun hfound
  · intro call stage hstage
    rcases hagrees.owned call stage hstage with hended | ⟨owner, -, howner⟩
    · exact .inl hended
    · by_cases hsame : index = owner
      · subst hsame
        rw [hhandler] at howner
        exact .inl (hfree call (Option.some.inj howner) stage hstage)
      · exact .inr ⟨owner, by simpa using hsame, howner⟩

theorem Agrees.leave (hagrees : Agrees environment start past changes (some index) shared)
    (hcourse : IsOnCourse environment start changes shared.deeds index handling) :
    Agrees environment start past changes none (shared.leave index handling) := by
  have hindex := hagrees.runs index rfl
  refine { hagrees with present := ?_, runs := nofun, handled := ?_, owned := ?_ }
  · exact List.length_set.trans hagrees.present
  · exact fun other found _ => forall_handlers_set hindex hagrees.handled hcourse
  · exact fun call stage hstage => (hagrees.owned call stage hstage).imp_right exists_owner_set

/-- A handler does something, after which it still runs. It may have stored the settings of the
client, but has put none in force. -/
theorem Agrees.record (hagrees : Agrees environment start past changes running shared)
    (deed : Deed) (client : Option (ClientSource × Data))
    (hours : (settings? changes deed.handler).isSome = true) (hdeed : deed.applied? = none)
    (hclient : client = givenBy start changes (deed.stored?.or (lastBy stored? shared.deeds))) :
    Agrees environment start past changes running
      ((shared.withSession { shared.session with client }).record deed) := by
  have hlast : lastBy applied? (shared.deeds ++ [deed]) = lastBy applied? shared.deeds := by
    rw [lastBy_concat applied?, hdeed, Option.none_or]
  refine { hagrees with
    client := ?_, settings := ?_, idle := ?_, computed := ?_, registers := ?_, ours := ?_
    handled := ?_ }
  · exact hclient.trans (congrArg _ (lastBy_concat stored? shared.deeds deed).symm)
  · change (Settings.load environment start.root
      (givenBy start changes (lastBy applied? (shared.deeds ++ [deed])))).settings = _
    rw [hlast]
    exact hagrees.settings
  · exact fun hnone => hagrees.idle (hlast.symm.trans hnone)
  · exact fun hsome => hagrees.computed (hlast ▸ hsome)
  · exact fun hsome => hagrees.registers (hlast ▸ hsome)
  · exact List.forall_mem_append.mpr ⟨hagrees.ours, List.forall_mem_singleton.mpr hours⟩
  · intro other found hother hfound
    exact (hagrees.handled other found hother hfound).of_append [deed]

/-- A handler puts its settings in force and is done with that. -/
theorem Agrees.force {after : SharedSession} (hsettings : settings? changes index = some settings)
    (hagrees : Agrees environment start past changes (some index) shared)
    (hsession : after.session = (shared.session.applySettings environment
      (Settings.load environment start.root (some (.configuration, settings)))).storeSelectors)
    (hdeeds : after.deeds = shared.deeds ++ [applied index])
    (hhandlers : after.handlers = shared.handlers.set index handling)
    (hcourse : IsOnCourse environment start changes after.deeds index handling)
    (hregisters : start.capabilities.registersBoth = true →
      after.stages ≠ [] ∧ Registers after.session.selectors after.registrations)
    (howned : ∀ (call : Nat) (stage : Stage), after.stages[call]? = some stage →
      shared.stages[call]? = some stage ∨ handling = .registering call) :
    Agrees environment start past changes none after := by
  obtain ⟨inForce, hinForce, -⟩ :=
    Settings.exists_settings_of_load environment start.root (some (.configuration, settings))
  have hlast : lastBy applied? after.deeds = some index := by
    rw [hdeeds, lastBy_concat applied?]
    rfl
  have hsome : lastBy applied? after.deeds ≠ none := by simp [hlast]
  have hindex := hagrees.runs index rfl
  refine ⟨?root, ?folders, ?capabilities, ?client, ?settings, ?folderLanguages, ?idle, ?computed,
    ?registers, ?ours, ?present, nofun, ?handled, ?owned⟩
  case root => exact (congrArg Session.root hsession).trans hagrees.root
  case folders => exact (congrArg Session.folders hsession).trans hagrees.folders
  case capabilities => exact (congrArg Session.capabilities hsession).trans hagrees.capabilities
  case client =>
    rw [hdeeds, lastBy_concat stored?, hsession]
    exact hagrees.client
  case settings =>
    rw [hlast, givenBy, hsettings, hsession]
    change _ = some ((Settings.load _ _ _).settings.getD _)
    rw [Option.map_some, hinForce, Option.getD_some]
  case folderLanguages =>
    rw [hsession, ← hagrees.folders]
    rfl
  case idle => exact fun hnone => absurd hnone hsome
  case computed =>
    rw [hsession]
    exact fun _ => rfl
  case registers => exact fun _ => hregisters
  case ours =>
    have hours : (settings? changes index).isSome = true := by rw [hsettings, Option.isSome_some]
    rw [hdeeds]
    exact List.forall_mem_append.mpr ⟨hagrees.ours, List.forall_mem_singleton.mpr hours⟩
  case present => rw [hhandlers, List.length_set, hagrees.present]
  case handled =>
    rw [hdeeds] at hcourse
    rw [hhandlers, hdeeds]
    refine fun other found _ => forall_handlers_set hindex ?_ hcourse
    exact fun other found hother hfound =>
      (hagrees.handled other found hother hfound).of_append [applied index]
  case owned =>
    intro call stage hstage
    rw [hhandlers]
    rcases howned call stage hstage with hbefore | rfl
    · exact (hagrees.owned call stage hbefore).imp_right exists_owner_set
    · exact .inr ⟨index, nofun, List.getElem?_set_self hindex⟩

theorem registers_of_nil (registrar : Registrar) (traffic : List Traffic) (selectors : Selectors) :
    Registers selectors ⟨registrar, none, [], traffic⟩ where
  within := nofun
  exclusive := by simp
  ordered := by simp
  pending := by simp
  settled := fun hnonempty => absurd rfl hnonempty

/-- Whatever has been done, the calls on the registrar are in order. -/
theorem Agrees.exists_registers (hagrees : Agrees environment start past changes running shared)
    (hregisters : start.capabilities.registersBoth = true) :
    ∃ selectors, Registers selectors shared.registrations := by
  by_cases hlast : lastBy applied? shared.deeds = none
  · refine ⟨start.selectors, ?_⟩
    rw [(hagrees.idle hlast).2]
    exact registers_of_nil _ _ _
  · exact ⟨_, (hagrees.registers hlast hregisters).2⟩

theorem Agrees.apply (hsettings : settings? changes index = some settings)
    (hagrees : Agrees environment start past changes (some index) shared)
    (hstored : stored index ∈ shared.deeds) :
    Agrees environment start past changes none (shared.apply environment index
      (Settings.load environment start.root (some (.configuration, settings)))) := by
  have hdone : stored index ∈ shared.deeds ++ [applied index] ∧
      applied index ∈ shared.deeds ++ [applied index] :=
    ⟨List.mem_append_left _ hstored, List.mem_append_right _ (List.mem_singleton_self _)⟩
  have hcapabilities := hagrees.capabilities
  rw [SharedSession.apply]
  split
  next hboth =>
    have hregisters : start.capabilities.registersBoth = true := hcapabilities ▸ hboth
    refine Agrees.force hsettings hagrees rfl rfl rfl hdone (fun _ => ⟨?_, ?_⟩) ?_
    · exact List.append_ne_nil_of_right_ne_nil _ (List.cons_ne_nil _ _)
    · obtain ⟨selectors, hbefore⟩ := hagrees.exists_registers hregisters
      exact hbefore.called _
    · intro call stage hstage
      exact (stage_of_called shared.registrations hstage).imp_right fun hnew =>
        congrArg Handling.registering hnew.1.symm
  next hnot =>
    refine Agrees.force hsettings hagrees rfl rfl rfl (fun _ => hdone) (fun hregisters => ?_)
      (fun _ _ hstage => .inl hstage)
    exact absurd (hcapabilities ▸ hregisters) hnot

theorem Agrees.proceed (hsettings : settings? changes index = some settings)
    (hagrees : Agrees environment start past changes (some index) shared)
    (hstored : stored index ∈ shared.deeds) (notices : List Notice) :
    Agrees environment start past changes none (shared.proceed environment index
      (Settings.load environment start.root (some (.configuration, settings))) notices) := by
  cases notices with
  | nil => exact hagrees.apply hsettings hstored
  | cons notice rest => exact hagrees.leave ⟨hstored, settings, hsettings, rfl⟩

theorem Agrees.begin {change : Data}
    (hagrees : Agrees environment start past changes none shared)
    (hhandler : shared.handlers[index]? = some (.arrived change)) :
    Agrees environment start past changes none (shared.begin environment index change) := by
  have hrunning := hagrees.run hhandler nofun
  have hchange : changes[index]? = some change := hagrees.handled index _ nofun hhandler
  have hfound : settings? changes index = settingsSection? change := by
    rw [settings?, hchange, Option.bind_some]
  rw [SharedSession.begin]
  split
  next hnone =>
    apply hrunning.leave
    intro hours
    rw [hfound, hnone] at hours
    simp at hours
  next settings hsome =>
    rw [hsome] at hfound
    have hstored := hrunning.record (stored index) (some (.configuration, settings))
      (by simp [handler, hfound]) rfl (by simp [stored?, givenBy, hfound])
    have hload : ({ shared.session with client := some (.configuration, settings) }.readSettings
        environment) = Settings.load environment start.root (some (.configuration, settings)) := by
      rw [Session.readSettings, ← hagrees.root]
    dsimp only
    rw [hload]
    exact hstored.proceed hfound (List.mem_append_right _ (List.mem_singleton_self _)) _

theorem Agrees.tell {loaded : LoadedSettings} {notice : Notice} {rest : List Notice}
    (hagrees : Agrees environment start past changes none shared)
    (hhandler : shared.handlers[index]? = some (.telling loaded notice rest)) :
    Agrees environment start past changes none
      (shared.tell environment index loaded notice rest) := by
  obtain ⟨hstored, settings, hsettings, rfl⟩ := hagrees.handled index _ nofun hhandler
  have htold := (hagrees.run hhandler nofun).record (told index (.ofNotice notice))
    shared.session.client (by simp [handler, hsettings]) rfl hagrees.client
  exact htold.proceed hsettings (List.mem_append_left _ hstored) rest

theorem Agrees.finish {call : Nat} {result : Except String Unit}
    (hagrees : Agrees environment start past changes none shared)
    (hhandler : shared.handlers[index]? = some (.registering call))
    (hended : shared.stages[call]? = some (.ended result)) :
    Agrees environment start past changes none (shared.finish index result) := by
  have hdone : stored index ∈ shared.deeds ∧ applied index ∈ shared.deeds :=
    hagrees.handled index _ nofun hhandler
  have hrunning : Agrees environment start past changes (some index) shared := by
    apply hagrees.run hhandler
    intro own howner stage hstage
    obtain rfl := Handling.registering.inj howner
    rw [hended] at hstage
    obtain rfl := Option.some.inj hstage
    rfl
  cases result with
  | ok _ => exact hrunning.leave fun _ => hdone
  | error reason =>
    have hours : (settings? changes index).isSome = true := hagrees.ours _ hdone.1
    have htold := hrunning.record (told index (Session.registerFailure reason))
      shared.session.client hours rfl hagrees.client
    exact htold.leave fun _ =>
      hdone.imp (List.mem_append_left _) (List.mem_append_left _)

/-! ### What the registrar does -/

theorem Agrees.register {registrations : SharedRegistrar}
    (hagrees : Agrees environment start past changes none shared)
    (hstep : shared.registrations.Step registrations)
    (horder : shared.registrations.GoesInOrder registrations) :
    Agrees environment start past changes none (shared.withRegistrations registrations) := by
  obtain ⟨index, stage, stretch, hstage, hgoing, hafter⟩ := exists_after_of_step hstep
  have hstages : registrations.stages = shared.stages.set index stretch.stage := by
    rw [hafter]
    rfl
  have hbusy : lastBy applied? shared.deeds ≠ none := by
    intro hnone
    rw [(hagrees.idle hnone).2] at hstage
    simp [initial, SharedSession.registrations] at hstage
  refine { hagrees with idle := ?_, registers := ?_, owned := ?_ }
  · exact fun hnone => absurd hnone hbusy
  · intro _ hregisters
    obtain ⟨hcalled, hbefore⟩ := hagrees.registers hbusy hregisters
    refine ⟨?_, hbefore.step hstep horder⟩
    change registrations.stages ≠ []
    simpa [hstages] using hcalled
  · intro call found hfound
    change registrations.stages[call]? = some found at hfound
    rw [hstages] at hfound
    by_cases hsame : index = call
    · subst hsame
      exact .inr ((hagrees.owned index stage hstage).resolve_left (by simp [hgoing]))
    · rw [List.getElem?_set_ne hsame] at hfound
      exact hagrees.owned call found hfound

/-! ### All that may happen -/

theorem Agrees.step (hagrees : Agrees environment start past changes none shared)
    (hstep : Step environment shared next) : Agrees environment start past changes none next := by
  cases hstep with
  | begin hhandler => exact hagrees.begin hhandler
  | tell hhandler => exact hagrees.tell hhandler
  | register hstep horder => exact hagrees.register hstep horder
  | finish hhandler hended => exact hagrees.finish hhandler hended

theorem agrees_of_reaches (hloaded : start.IsLoaded environment)
    (hreaches : Reaches environment (initial start past changes) shared) :
    Agrees environment start past changes none shared := by
  induction hreaches with
  | refl => exact agrees_initial hloaded
  | tail _ hstep ih => exact ih.step hstep

/-- Once all handlers have ended each of them has done its part, and so have their calls. -/
theorem Agrees.isEnded (hagrees : Agrees environment start past changes none shared)
    (hended : ∀ handling ∈ shared.handlers, handling = .ended) :
    (∀ index, (settings? changes index).isSome = true →
        stored index ∈ shared.deeds ∧ applied index ∈ shared.deeds) ∧
      ∀ stage ∈ shared.stages, stage.isEnded = true := by
  constructor
  · intro index hours
    have hindex : index < shared.handlers.length := by
      rw [hagrees.present]
      by_contra hbeyond
      rw [settings?, List.getElem?_eq_none (by omega)] at hours
      simp at hours
    have hhandler := List.getElem?_eq_getElem hindex
    rw [hended _ (List.getElem_mem hindex)] at hhandler
    exact hagrees.handled index _ nofun hhandler hours
  · intro stage hmem
    obtain ⟨call, hstage⟩ := List.getElem?_of_mem hmem
    rcases hagrees.owned call stage hstage with hdone | ⟨owner, -, howner⟩
    · exact hdone
    · exact absurd (hended _ (List.mem_of_getElem? howner)) (by simp)

end SharedSession

end FormatServer
