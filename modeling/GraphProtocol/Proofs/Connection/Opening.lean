import GraphProtocol.Proofs.Connection.Authority

/-!
# Opening a session

A client that has not introduced itself can do so and nothing else. Before that it
has been told nothing, and if it succeeds it is welcomed.
-/

set_option autoImplicit false

namespace GraphProtocol.Actor

variable {σ π : Type} {ctx : Context σ π} {a b : Actor σ π} {o : Occurrence}

/-- A message that is dealt with before anything else introduces the client. -/
theorem dealt_opening {m : Inbound} (early : a.session.state = .connected)
    (dealt : a.Dealt ctx m b) : ∃ principal agent h, (a.opened principal agent).Answered h
      (.success (Act.welcome ctx (a.opened principal agent).session)) b := by
  cases dealt with
  | unknown late => exact absurd early late
  | invalidPassed late => exact absurd early late
  | invalidRefused late => exact absurd early late
  | passed passed => simp [Act.isInterrupted, early] at passed
  | ignored _ decided =>
    rw [early] at decided
    simp only [Decision.of, if_true] at decided
    split at decided
    · cases decided
    · split at decided <;> cases decided
  | performed _ accepted performed =>
    rcases accept_cases accepted with ⟨-, -, rfl⟩ | ⟨late, -⟩ | listed
    · cases performed with
      | opened _ answered => exact ⟨_, _, _, answered⟩
      | pulled pulls => simp at pulls
      | nothingHeld pulls => simp at pulls
      | noTx ends => simp at ends
    · exact absurd early late
    · simp [early, Transition.base, Transition.transactional] at listed
  | resetPassed accepted | resetDone accepted | resetWaits accepted =>
    exact absurd early (accept_reset accepted).1

theorem occurred_opening (sound : a.IsSound) (early : a.session.state = .connected)
    (occurred : a.Occurred ctx o b) : b.outbox.accepted = a.outbox.accepted ∨
      ∃ (c : Actor σ π) (principal : Principal) (agent : Option String) (h : Handler),
        c.session = a.session ∧ c.outbox = a.outbox ∧ (c.opened principal agent).Answered h
          (.success (Act.welcome ctx (c.opened principal agent).session)) b := by
  have fits := sound.fits
  simp only [Fits, early] at fits
  obtain ⟨-, -, -, -, idle, clean⟩ := fits
  cases occurred with
  | @received bytes _ _ received =>
    have same := received_silent (a := a.fed bytes) received idle
    exact .inl (congrArg Outbox.accepted same)
  | @turn m rest _ _ _ dealt =>
    obtain ⟨principal, agent, h, answered⟩ :=
      dealt_opening (a := { a with inbox := rest }) early dealt
    exact .inr ⟨{ a with inbox := rest }, principal, agent, h, rfl, rfl, answered⟩
  | produced => exact .inl rfl
  | pumped _ held => cases idle.symm.trans held
  | cleaned waits => cases clean.symm.trans waits

theorem opened_late (a : Actor σ π) (principal : Principal) (agent : Option String) :
    (a.opened principal agent).session.state ≠ .connected := by
  show (if 0 < a.session.interrupts then ConnectionState.interrupted else .ready) ≠ .connected
  split <;> decide

/-- A client that has not introduced itself has been told nothing. -/
theorem connected_silent (reachable : Reachable ctx a) (early : a.session.state = .connected) :
    a.outbox.accepted = [] := by
  induction reachable with
  | fresh => rfl
  | @move a b _ reachable moved ih =>
    obtain ⟨o, c, rfl, occurred, rfl⟩ | ⟨_, _, _, -, rfl⟩ := move_outcome moved
    · have sound := reachable_sound reachable
      have before : a.session.state = .connected := by
        by_contra late
        obtain ⟨can, stepped⟩ := moved_step moved
        have owned := (sound_holdings sound).owner.mpr late
        have unowned := (sound_holdings (reachable_sound (reachable.move moved))).owner.not.mpr
          (not_not.mpr early)
        rcases (step_course can stepped).owner with same | ⟨_, _, owner, -⟩
        · rw [same] at unowned
          exact unowned owned
        · rw [owner] at unowned
          exact unowned rfl
      rcases occurred_opening sound before occurred with
        same | ⟨d, principal, agent, h, -, -, answered⟩
      · rw [poised_accepted, same]
        exact ih before
      · obtain ⟨outbox, metrics, rfl⟩ := answered_parts answered
        exact absurd early (opened_late d principal agent)
    · exact ih early

/-- Only the welcome is said to a client that has not introduced itself, if anything succeeds. -/
theorem opening_says (reachable : Reachable ctx a) (early : a.session.state = .connected)
    (can : a.allows ctx o = true) {metadata : Dict Value}
    (said : .success metadata ∈ (a.step ctx o).2.outbox.accepted) :
    ∃ s : Session π, s.version = a.session.version ∧ metadata = Act.welcome ctx s := by
  have silent := connected_silent reachable early
  cases stepped : a.step ctx o with | mk progress b =>
  rw [stepped] at said
  cases progress with
  | ended outcome =>
    rcases ended_says can stepped with same | ⟨told, -⟩ | ⟨-, -, f, told⟩
    · rw [same, silent] at said
      cases said
    · rw [told, silent] at said
      cases List.mem_singleton.mp said
    · rw [told, silent] at said
      cases List.mem_singleton.mp said
  | brokenDown =>
    rcases broken_says can stepped with same | ⟨told, -⟩
    · rw [same, silent] at said
      cases said
    · rw [told, silent] at said
      cases List.mem_singleton.mp said
  | running =>
    obtain ⟨c, occurred, rfl⟩ := step_outcome can stepped
    rw [poised_accepted] at said
    rcases occurred_opening (reachable_sound reachable) early occurred with
      same | ⟨d, principal, agent, h, session, outbox, answered⟩
    · rw [same, silent] at said
      cases said
    · have version : (d.opened principal agent).session.version = a.session.version := by
        rw [← session]
        rfl
      refine ⟨_, version, ?_⟩
      cases answered with
      | dropped =>
        change _ ∈ d.outbox.accepted at said
        rw [outbox, silent] at said
        cases said
      | sent room =>
        rw [(queue_accepted room).1] at said
        change _ ∈ _ :: d.outbox.accepted at said
        rw [outbox, silent] at said
        cases List.mem_singleton.mp said
        rfl

end GraphProtocol.Actor
