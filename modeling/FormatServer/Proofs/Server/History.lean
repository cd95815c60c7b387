import FormatServer.Proofs.Server.Messages

/-!
# Sessions and what they have handled

The configuration of a session is stored in parts: what the client gave, the settings, the languages
of the folders, and the selectors. Each part is replaced by some messages and left alone by others,
so it is not plain that the parts fit together, or that nothing of an earlier configuration is left
in them. What they have to be is told here by the messages alone: the settings that the client gave
last, and the disk as it was when the last message arrived that has everything loaded. One induction
over the messages then shows that the parts are just that.
-/

namespace FormatServer

/-- The messages that were handled, the last one first, each with what was around the session. -/
abbrev History := List (Environment × Incoming)

namespace History

/-- The settings that the client gave last. -/
def given? (history : History) : Option (ClientSource × Data) :=
  history.findSome? fun entry => entry.2.given?

/-- What was around the session when it loaded its configuration last. -/
def source? (history : History) : Option Environment :=
  (history.find? fun entry => entry.2.reloads).map Prod.fst

/-- Whether the client has said that it is ready. -/
def IsReady (history : History) : Prop :=
  ∃ environment, (environment, Incoming.introduced) ∈ history

theorem IsReady.ne_nil {history : History} (hready : history.IsReady) : history ≠ [] := by
  rintro rfl
  obtain ⟨environment, hmem⟩ := hready
  simp at hmem

end History

namespace Session

/-- A session with the messages that it has handled. The others that it received do not count. -/
inductive HasHandled : History → Session → Prop
  | initial : HasHandled [] .initial
  | receive {history : History} {session : Session} (hhandled : HasHandled history session)
      (environment : Environment) (client : Client) (method : String) (parameters : Data) :
      HasHandled
        ((session.handled? method parameters).toList.map (environment, ·) ++ history)
        (session.receive environment client method parameters).2.session

variable {session : Session} {environment : Environment} {client : Client} {history : History}
  {method : String} {parameters : Data} {incoming : Incoming}

/-! ### What the messages make of it -/

/-- The configuration is what the messages make it. -/
structure Follows (history : History) (session : Session) : Prop where
  begun : session.phase = .fresh ↔ history = []
  client : session.client = history.given?
  loaded : history ≠ [] → ∃ source, history.source? = some source ∧ session.IsLoaded source
  computed : history.IsReady → session.selectors = session.computeSelectors

theorem follows_initial : Follows [] initial where
  begun := iff_of_true rfl rfl
  client := rfl
  loaded := fun hnonempty => absurd rfl hnonempty
  computed := fun hready => absurd rfl hready.ne_nil

theorem follows_introduce (hfollows : Follows [] session) (introduction : Introduction) :
    Follows [(environment, .introduce introduction)]
      (session.handle environment client (.introduce introduction)).2.session := by
  have hclient : session.client = none := hfollows.client
  have hloaded : ∀ before : Session, before.phase = .running →
      before.client = (Incoming.introduce introduction).given? →
        Follows [(environment, .introduce introduction)] (before.reload environment).session := by
    intro before hphase hbefore
    have hrunning : (before.reload environment).session.phase = .running := hphase
    refine ⟨iff_of_false (by simp [hrunning]) (by simp), ?_, ?_, ?_⟩
    · change before.client = _
      rw [hbefore, History.given?, List.findSome?_cons]
      cases (Incoming.introduce introduction).given? <;> rfl
    · exact fun _ => ⟨environment, rfl, isLoaded_reload environment before⟩
    · rintro ⟨environment, hmem⟩
      simp at hmem
  rw [handle, start]
  cases hoptions : introduction.options with
  | none =>
    apply hloaded
    · rfl
    · simp [Incoming.given?, hoptions, hclient]
  | some options =>
    apply hloaded
    · rfl
    · simp [Incoming.given?, hoptions]

theorem isReady_cons_iff :
    History.IsReady ((environment, incoming) :: history) ↔
      incoming = .introduced ∨ history.IsReady := by
  simp only [History.IsReady, List.mem_cons, Prod.mk.injEq]
  constructor
  · rintro ⟨around, ⟨-, hintroduced⟩ | hmem⟩
    · exact .inl hintroduced.symm
    · exact .inr ⟨around, hmem⟩
  · rintro (rfl | ⟨around, hmem⟩)
    · exact ⟨environment, .inl ⟨rfl, rfl⟩⟩
    · exact ⟨around, .inr hmem⟩

theorem follows_handle (hfollows : session.Follows history) (hphase : session.phase ≠ .fresh)
    (hincoming : ∀ introduction, incoming ≠ .introduce introduction) :
    Follows ((environment, incoming) :: history)
      (session.handle environment client incoming).2.session := by
  have hnonempty : history ≠ [] := fun hempty => hphase (hfollows.begun.mpr hempty)
  have hgiven : History.given? ((environment, incoming) :: history) =
      incoming.given?.or history.given? := by
    rw [History.given?, List.findSome?_cons]
    cases incoming.given? <;> rfl
  cases hreloads : incoming.reloads with
  | true =>
    obtain ⟨hsame, hclient, hloaded, hcomputed⟩ :=
      isLoaded_of_reloads environment client session hreloads hincoming
    refine ⟨iff_of_false (by rwa [hsame]) (by simp), ?_, fun _ => ?_, fun _ => hcomputed⟩
    · rw [hclient, hgiven, hfollows.client]
    · exact ⟨environment, by simp [History.source?, hreloads], hloaded⟩
  | false =>
    have hsource : History.source? ((environment, incoming) :: history) = history.source? := by
      simp [History.source?, hreloads]
    have hkept : History.given? ((environment, incoming) :: history) = history.given? := by
      rw [hgiven, Incoming.given?_of_reloads_eq_false hreloads, Option.none_or]
    obtain ⟨source, hfound, hloaded⟩ := hfollows.loaded hnonempty
    -- Readiness alone has the selectors computed from what was loaded before.
    by_cases hready : incoming = .introduced
    · subst hready
      obtain ⟨registrar, hafter⟩ := exists_registrar_of_ready client session
      rw [handle, hafter]
      refine ⟨iff_of_false hphase (by simp), ?_, fun _ => ?_, fun _ => rfl⟩
      · rw [hkept]
        exact hfollows.client
      · exact ⟨source, hsource.trans hfound, hloaded.settings, hloaded.folderLanguages⟩
    · obtain ⟨phase, documents, registrar, installed, ledger, hbegun, hafter⟩ :=
        exists_rest_of_handle environment client hreloads hready hphase
      rw [hafter]
      refine ⟨iff_of_false hbegun (by simp), ?_, fun _ => ?_, fun hcons => ?_⟩
      · rw [hkept]
        exact hfollows.client
      · exact ⟨source, hsource.trans hfound, hloaded.settings, hloaded.folderLanguages⟩
      · exact hfollows.computed ((isReady_cons_iff.mp hcons).resolve_left hready)

theorem HasHandled.follows (hhandled : session.HasHandled history) : session.Follows history := by
  induction hhandled with
  | initial => exact follows_initial
  | @receive history session _ environment client method parameters ih =>
    cases hincoming : session.handled? method parameters with
    | some incoming =>
      obtain ⟨hhandle, hcases⟩ := receive_of_handled? hincoming
      rw [hhandle]
      rcases hcases with ⟨hfresh, introduction, rfl⟩ | ⟨hrunning, hnot⟩
      · obtain rfl := ih.begun.mp hfresh
        exact follows_introduce ih introduction
      · exact follows_handle ih (by simp [hrunning]) hnot
    | none =>
      rcases receive_of_not_handled hincoming with hsame | ⟨hbegun, hclosed⟩
      · rw [hsame]
        exact ih
      · rw [hclosed]
        refine ⟨iff_of_false nofun fun hempty => hbegun (ih.begun.mpr hempty), ih.client, ?_,
          ih.computed⟩
        intro hnonempty
        obtain ⟨source, hfound, hloaded⟩ := ih.loaded hnonempty
        exact ⟨source, hfound, hloaded.settings, hloaded.folderLanguages⟩

/-- Before the last of its messages a session had handled the others. -/
theorem HasHandled.exists_earlier {entry : Environment × Incoming}
    (hhandled : session.HasHandled (entry :: history)) :
    ∃ earlier : Session, earlier.HasHandled history := by
  generalize hall : entry :: history = all at hhandled
  induction hhandled with
  | initial => simp at hall
  | @receive rest before hbefore environment client method parameters ih =>
    cases hincoming : before.handled? method parameters with
    | none =>
      -- The message left nothing in the history, so its last one came before.
      simp only [hincoming, Option.toList_none, List.map_nil, List.nil_append] at hall
      exact ih hall
    | some incoming =>
      simp only [hincoming, Option.toList_some, List.map_cons, List.map_nil, List.cons_append,
        List.nil_append, List.cons.injEq] at hall
      obtain ⟨-, rfl⟩ := hall
      exact ⟨before, hbefore⟩

theorem HasHandled.exists_source (hhandled : session.HasHandled history)
    (hnonempty : history ≠ []) : ∃ source, history.source? = some source := by
  obtain ⟨source, hsource, -⟩ := hhandled.follows.loaded hnonempty
  exact ⟨source, hsource⟩

/-! ### Messages while nothing changes -/

/-- The session after these messages, with nothing changed around it in between. -/
def receiveAll (environment : Environment) (client : Client) (messages : List (String × Data))
    (session : Session) : Session :=
  messages.foldl (fun session message =>
    (session.receive environment client message.1 message.2).2.session) session

theorem exists_history_of_receiveAll (client : Client) (messages : List (String × Data))
    (hhandled : session.HasHandled history) :
    ∃ later : History,
      (session.receiveAll environment client messages).HasHandled (later ++ history) ∧
        ∀ entry ∈ later, entry.1 = environment := by
  induction messages generalizing session history with
  | nil => exact ⟨[], hhandled, by simp⟩
  | cons message rest ih =>
    obtain ⟨later, hlater, hunchanging⟩ :=
      ih (hhandled.receive environment client message.1 message.2)
    rw [← List.append_assoc] at hlater
    refine ⟨_, hlater, fun entry hentry => ?_⟩
    rcases List.mem_append.mp hentry with hmem | hmem
    · exact hunchanging entry hmem
    · obtain ⟨incoming, -, rfl⟩ := List.mem_map.mp hmem
      rfl

theorem handled?_initialized (hrunning : session.phase = .running) :
    session.handled? "initialized" (.record []) = some .introduced := by
  rw [handled?, refusal?, hrunning]
  rfl

/-- A client that was introduced and is ready may go on with any messages. -/
theorem exists_ready_history (environment : Environment) (client : Client) (parameters : Data)
    (messages : List (String × Data))
    (hrunning : (initial.receive environment client "initialize" parameters).2.session.phase =
      .running) :
    ∃ history : History,
      (initial.receiveAll environment client
        (("initialize", parameters) :: ("initialized", .record []) :: messages)).HasHandled
          history ∧
      history.IsReady ∧ ∀ entry ∈ history, entry.1 = environment := by
  have hstarted := HasHandled.initial.receive environment client "initialize" parameters
  have hready := hstarted.receive environment client "initialized" (.record [])
  rw [handled?_initialized hrunning] at hready
  obtain ⟨later, hlater, hunchanging⟩ := exists_history_of_receiveAll client messages hready
  refine ⟨_, hlater, ⟨environment, by simp⟩, fun entry hentry => ?_⟩
  rcases List.mem_append.mp hentry with hmem | hmem
  · exact hunchanging entry hmem
  · simp only [Option.toList_some, List.map_cons, List.map_nil, List.mem_append, List.mem_map,
      List.not_mem_nil, or_false, List.mem_singleton] at hmem
    rcases hmem with rfl | ⟨incoming, -, rfl⟩
    · rfl
    · rfl

end Session

end FormatServer
