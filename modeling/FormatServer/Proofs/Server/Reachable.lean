import FormatServer.Proofs.Server.Messages

/-!
# Sessions that come about

A session starts without anything and goes on by the messages it receives, whatever they are and
whatever the disk and the client are like when they arrive. The selectors are stored apart from what
they are computed from, so it takes an invariant to know that they still belong together: a message
that changes the settings, the folders or the folders' languages also has the selectors computed
anew. The one exception is the introduction, after which there are no selectors at all until the
client says that it is ready. It cannot harm, since a session is introduced only once, before any
selectors are computed.
-/

namespace FormatServer

namespace Session

/-- The sessions there can be. Between two messages the disk may change, and so may the way the
client answers. -/
inductive Reachable : Session → Prop
  | initial : Reachable .initial
  | receive {session : Session} (hreachable : Reachable session) (environment : Environment)
      (client : Client) (method : String) (parameters : Data) :
      Reachable (session.receive environment client method parameters).2.session

/-- The selectors are those of the settings and folders in force, or there are none yet. -/
structure HasCurrentSelectors (session : Session) : Prop where
  fresh : session.phase = .fresh → session.selectors = .empty
  computed : session.selectors = .empty ∨ session.selectors = session.computeSelectors

variable {session : Session} {environment : Environment} {client : Client}

theorem hasCurrentSelectors_initial : initial.HasCurrentSelectors :=
  ⟨fun _ => rfl, .inl rfl⟩

theorem hasCurrentSelectors_start (hselectors : session.selectors = .empty)
    (environment : Environment) (introduction : Introduction) :
    (session.start environment introduction).session.HasCurrentSelectors := by
  have hkept : (session.start environment introduction).session.selectors = .empty := by
    rw [start]
    cases introduction.options with
    | none => exact hselectors
    | some options => exact hselectors
  exact ⟨fun _ => hkept, .inl hkept⟩

theorem hasCurrentSelectors_handle (hcurrent : session.HasCurrentSelectors)
    (hphase : session.phase ≠ .fresh) {incoming : Incoming}
    (hincoming : ∀ introduction, incoming ≠ .introduce introduction) :
    (session.handle environment client incoming).2.session.HasCurrentSelectors := by
  cases hreloads : incoming.reloads with
  | true =>
    obtain ⟨hsame, -, -, hcomputed⟩ :=
      isLoaded_of_reloads environment client session hreloads hincoming
    exact ⟨fun hfresh => absurd (hsame.symm.trans hfresh) hphase, .inr hcomputed⟩
  | false =>
    by_cases hready : incoming = .introduced
    · subst hready
      obtain ⟨registrar, hafter⟩ := exists_registrar_of_ready client session
      rw [handle, hafter]
      exact ⟨fun hfresh => absurd hfresh hphase, .inr rfl⟩
    · obtain ⟨phase, documents, registrar, installed, ledger, hbegun, hafter⟩ :=
        exists_rest_of_handle environment client hreloads hready hphase
      rw [hafter]
      exact ⟨fun hfresh => absurd hfresh hbegun, hcurrent.computed⟩

theorem hasCurrentSelectors_receive (hcurrent : session.HasCurrentSelectors)
    (environment : Environment) (client : Client) (method : String) (parameters : Data) :
    (session.receive environment client method parameters).2.session.HasCurrentSelectors := by
  cases hincoming : session.handled? method parameters with
  | some incoming =>
    obtain ⟨hhandle, hcases⟩ := receive_of_handled? hincoming
    rw [hhandle]
    rcases hcases with ⟨hfresh, introduction, rfl⟩ | ⟨hrunning, hnot⟩
    · exact hasCurrentSelectors_start (hcurrent.fresh hfresh) environment introduction
    · exact hasCurrentSelectors_handle hcurrent (by simp [hrunning]) hnot
  | none =>
    rcases receive_of_not_handled hincoming with hsame | ⟨-, hclosed⟩
    · rw [hsame]
      exact hcurrent
    · rw [hclosed]
      exact ⟨nofun, hcurrent.computed⟩

theorem Reachable.hasCurrentSelectors (hreachable : session.Reachable) :
    session.HasCurrentSelectors := by
  induction hreachable with
  | initial => exact hasCurrentSelectors_initial
  | receive _ environment client method parameters ih =>
    exact hasCurrentSelectors_receive ih environment client method parameters

end Session

end FormatServer
