import GraphProtocol.Connection.Scenario
import GraphProtocol.Proofs.Connection.Moves

/-!
# Scenarios are runs

A scenario chooses by itself what comes next. It never chooses what is not possible, so the
connection that it plays is one that can be come to, whatever its client and the world do, until it
stops at a possible step.
-/

set_option autoImplicit false

namespace GraphProtocol

variable {σ π : Type}

namespace Scenario

variable {s t : Scenario σ π} {o : Occurrence}

inductive IsPlayed (s : Scenario σ π) : Prop
  | going : s.progress = .running → Actor.Reachable s.context s.actor → IsPlayed s
  | stopped {a : Actor σ π} {o : Occurrence} : s.progress.isRunning = false →
      Actor.Reachable s.context a → a.allows s.context o = true →
      (a.step s.context o).1 = s.progress →
      (a.step s.context o).2.toConnection = s.actor.toConnection → IsPlayed s

/-- The client has no part in it, and neither have the engine, the metrics and the clock. -/
theorem played_congr (played : s.IsPlayed) (context : s.context = t.context)
    (progress : s.progress = t.progress)
    (same : s.actor.toConnection = t.actor.toConnection) : t.IsPlayed := by
  cases played with
  | going running reachable =>
    rw [context] at reachable
    exact .going (progress.symm.trans running) (Actor.reachable_elsewhere reachable same)
  | stopped halted reachable can came left =>
    rw [progress] at halted came
    rw [context] at reachable can came left
    exact .stopped halted reachable can came (left.trans same)

theorem played_running (played : s.IsPlayed) (running : s.progress.isRunning = true) :
    Actor.Reachable s.context s.actor := by
  cases played with
  | going _ reachable => exact reachable
  | stopped halted =>
    rw [halted] at running
    cases running

theorem advance_context (s : Scenario σ π) (o : Occurrence) :
    (s.advance o).context = s.context := rfl

theorem advance_played (reachable : Actor.Reachable s.context s.actor)
    (can : s.actor.allows s.context o = true) : (s.advance o).IsPlayed := by
  cases stepped : s.actor.step s.context o with | mk progress b =>
  have came : (s.advance o).progress = progress := by
    rw [advance, stepped]
  have left : b.toConnection = (s.advance o).actor.toConnection := by
    rw [advance, stepped]
  cases progress with
  | running =>
    have moved : s.actor.move? s.context (.here o) = some b := by
      simp only [Actor.move?, can, if_true, stepped]
    exact .going came (Actor.reachable_elsewhere (reachable.move moved) left)
  | ended | brokenDown =>
    refine .stopped (a := s.actor) (o := o) ?_ reachable can ?_ ?_
    · rw [came]
      rfl
    · rw [advance_context, stepped, came]
    · rw [advance_context, stepped]
      exact left

theorem read_played (reachable : Actor.Reachable s.context s.actor)
    (can : s.actor.canRead = true) : s.read.IsPlayed :=
  played_congr (advance_played (o := .received _) reachable can) rfl rfl rfl

/-- A scenario that waits for a cleanup chooses between its ends. -/
theorem cleaning_played (reachable : Actor.Reachable s.context s.actor)
    (cleaning : s.actor.cleanup.isSome = true)
    (next : (if s.shuttingDown then some (s.advance .shutDown)
      else if s.isCleanupOver then some (s.advance .cleanupExpired) else none) = some t) :
    t.IsPlayed := by
  obtain ⟨-, ⟨⟩⟩ | ⟨-, next⟩ := ite_eq_iff.mp next
  · have can : s.actor.allows s.context .shutDown = true := by
      simp only [Actor.allows, cleaning, Bool.or_true]
    exact advance_played reachable can
  obtain ⟨-, ⟨⟩⟩ | ⟨-, ⟨⟩⟩ := ite_eq_iff.mp next
  exact advance_played reachable cleaning

theorem next_played (reachable : Actor.Reachable s.context s.actor)
    (next : s.next? = some t) : t.IsPlayed := by
  unfold next? at next
  dsimp only at next
  obtain ⟨turn, ⟨⟩⟩ | ⟨-, next⟩ := ite_eq_iff.mp next
  · exact advance_played reachable turn
  obtain ⟨cleaned, ⟨⟩⟩ | ⟨-, next⟩ := ite_eq_iff.mp next
  · exact advance_played reachable cleaned
  by_cases cleaning : s.actor.cleanup.isSome = true
  · rw [if_pos cleaning] at next
    exact cleaning_played reachable cleaning next
  rw [if_neg cleaning] at next
  obtain ⟨untimed, ⟨⟩⟩ | ⟨-, next⟩ := ite_eq_iff.mp next
  · exact advance_played reachable untimed
  obtain ⟨pumped, ⟨⟩⟩ | ⟨-, next⟩ := ite_eq_iff.mp next
  · exact advance_played reachable pumped
  obtain ⟨unread, ⟨⟩⟩ | ⟨-, next⟩ := ite_eq_iff.mp next
  · exact read_played reachable (Bool.and_eq_true_iff.mp unread).1
  obtain ⟨gone, ⟨⟩⟩ | ⟨-, next⟩ := ite_eq_iff.mp next
  · exact advance_played reachable (Bool.and_eq_true_iff.mp gone).1
  obtain ⟨shut, ⟨⟩⟩ | ⟨-, next⟩ := ite_eq_iff.mp next
  · exact advance_played reachable (Bool.and_eq_true_iff.mp shut).1
  obtain ⟨idle, ⟨⟩⟩ | ⟨-, ⟨⟩⟩ := ite_eq_iff.mp next
  exact advance_played reachable (Bool.and_eq_true_iff.mp idle).1

/-- Events that come in leave the connection open. -/
theorem produced_reachable (reachable : Actor.Reachable s.context s.actor)
    (can : s.canProduce = true) (count : Nat) :
    Actor.Reachable s.context (s.advance (.produced count)).actor := by
  have held : s.actor.allows s.context (.produced count) = true := by
    unfold canProduce at can
    unfold Actor.allows
    cases result : s.actor.session.result with
    | none => simp [result] at can
    | some r => rfl
  exact played_running (advance_played reachable held) rfl

theorem settle_played (steps : Nat) (played : s.IsPlayed) : (s.settle steps).IsPlayed := by
  induction steps generalizing s with
  | zero => exact played
  | succ steps ih =>
    unfold settle
    by_cases running : s.progress.isRunning = true
    · rw [if_pos running]
      have reachable := played_running played running
      have filled : ∃ t : Scenario σ π, (if s.canProduce then
          s.advance (.produced s.context.engine.capacity) else s) = t ∧
            t.IsPlayed ∧ Actor.Reachable t.context t.actor := by
        by_cases can : s.canProduce = true
        · rw [if_pos can]
          have going := produced_reachable reachable can s.context.engine.capacity
          exact ⟨_, rfl, .going rfl going, going⟩
        · rw [if_neg can]
          exact ⟨s, rfl, played, reachable⟩
      obtain ⟨t, is, before, going⟩ := filled
      dsimp only
      rw [is]
      cases next : t.next? with
      | none => exact before
      | some u => exact ih (next_played going next)
    · rw [if_neg running]
      exact played

theorem pass_played (played : s.IsPlayed) (millis : Nat) : (s.pass millis).IsPlayed := by
  unfold pass
  -- The number of steps is too large to be unfolded.
  generalize maxSteps = steps
  have settled := settle_played steps played
  generalize s.settle steps = early at settled ⊢
  have waited : IsPlayed { early with
      elapsed := early.elapsed + (millis * millisecond - 1) } := played_congr settled rfl rfl rfl
  exact played_congr (settle_played steps waited) rfl rfl rfl

theorem play_played (played : s.IsPlayed) (deed : Deed) : (s.play deed).IsPlayed := by
  have heard : (s.perform deed).IsPlayed := by
    cases deed with
    | send bytes =>
      unfold perform
      dsimp only
      split
      · exact played
      · exact played_congr played rfl rfl rfl
    | close | shutDown => exact played_congr played rfl rfl rfl
    | wait => exact played
  exact pass_played heard _

theorem readResponses_played (played : s.IsPlayed) : s.readResponses.2.IsPlayed := by
  unfold readResponses
  split
  · exact played
  · exact played_congr played rfl rfl rfl

theorem mapEngine_played (played : s.IsPlayed) (f : σ → σ) : (s.mapEngine f).IsPlayed :=
  played_congr played rfl rfl rfl

/-- Whatever deeds are played, the connection is one that can be come to, until it stops. -/
theorem act_played (played : s.IsPlayed) (refresh : σ → σ) (deeds : List Deed) :
    (s.act refresh deeds).2.IsPlayed := by
  induction deeds generalizing s with
  | nil => exact play_played (mapEngine_played played refresh) .close
  | cons deed deeds ih =>
    exact ih (readResponses_played (play_played (mapEngine_played played refresh) deed))

theorem start_played (context : Context σ π) (pipeline : Pipeline) (id : String) (engine : σ) :
    (start context pipeline id engine).IsPlayed := .going rfl .fresh

end Scenario

end GraphProtocol
