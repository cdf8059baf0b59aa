import GraphProtocol.Proofs.Connection.Asking
import GraphProtocol.Proofs.Connection.Interrupts

/-!
# What an occurrence changes for good

Whatever happens to an open connection, its owner stays who the authenticator said
it is, tokens that have fired stay fired, and at most one response is added. A
failure is added only after whatever runs has been cancelled, and only once the
session is open.
-/

set_option autoImplicit false

namespace GraphProtocol

variable {σ π : Type}

namespace CancelSignal

/-- The second signal comes after the first: tokens that have fired stay fired. -/
def Leads (s t : CancelSignal) : Prop :=
  s.generation < t.generation ∨ (s.generation = t.generation ∧ (s.fired = true → t.fired = true))

variable {s t u : CancelSignal}

theorem leads_refl (s : CancelSignal) : s.Leads s := .inr ⟨rfl, id⟩

theorem leads_trans (first : s.Leads t) (second : t.Leads u) : s.Leads u := by
  unfold Leads at *
  rcases first with first | ⟨same, first⟩ <;> rcases second with second | ⟨same', second⟩
  · left; omega
  · left; omega
  · left; omega
  · right; exact ⟨same.trans same', fun fired => second (first fired)⟩

theorem leads_cancel (s : CancelSignal) : s.Leads s.cancel := .inr ⟨rfl, fun _ => rfl⟩

theorem leads_renew (s : CancelSignal) : s.Leads s.renew := by
  unfold renew
  split
  · exact .inl (Nat.lt_succ_self _)
  · exact leads_refl s

def Issued (s : CancelSignal) (token : CancelToken) : Prop := token.generation ≤ s.generation

theorem leads_issued {token : CancelToken} (leads : s.Leads t) (issued : s.Issued token) :
    t.Issued token := by
  unfold Issued at *
  rcases leads with later | ⟨same, -⟩ <;> omega

theorem leads_cancelled {token : CancelToken} (leads : s.Leads t) (issued : s.Issued token)
    (cancelled : s.isCancelled token = true) : t.isCancelled token = true := by
  unfold Issued at issued
  simp only [isCancelled, Bool.or_eq_true, decide_eq_true_eq] at *
  rcases leads with later | ⟨same, fires⟩
  · left; omega
  · rcases cancelled with old | fired
    · left; omega
    · right; exact fires fired

theorem fired_cancelled (token : CancelToken) (fired : s.fired = true) :
    s.isCancelled token = true := by
  simp [isCancelled, fired]

end CancelSignal

namespace Actor

structure Toward (ctx : Context σ π) (a b : Actor σ π) : Prop where
  owner : b.session.principal = a.session.principal ∨ ∃ principal token,
    b.session.principal = some principal ∧ ctx.authenticate token = .ok principal
  signal : a.session.cancel.Leads b.session.cancel
  unsaid : b.outbox.accepted = a.outbox.accepted

inductive Voiced (a : Actor σ π) : Actor σ π → Prop where
  | nothing {b : Actor σ π} : b.outbox.accepted = a.outbox.accepted → Voiced a b
  | said {b : Actor σ π} {r : Response} : r.kind ≠ .failure →
      b.outbox.accepted = r :: a.outbox.accepted → Voiced a b
  /-- At the moment `m` everything is cancelled, and the failure is not yet told. -/
  | failed {m b c : Actor σ π} {h : Handler} {f : Failure} :
      m.session.principal = a.session.principal → m.session.cancel = a.session.cancel →
      m.outbox.accepted = a.outbox.accepted → m.failing.Answered h (.failure f) c →
      b.session = c.session → b.outbox.accepted = c.outbox.accepted → Voiced a b

/-- What changes for good. -/
structure Course (ctx : Context σ π) (a b : Actor σ π) : Prop where
  owner : b.session.principal = a.session.principal ∨ ∃ principal token,
    b.session.principal = some principal ∧ ctx.authenticate token = .ok principal
  signal : a.session.cancel.Leads b.session.cancel
  voice : a.Voiced b

variable {ctx : Context σ π} {a b c m : Actor σ π} {h : Handler}

theorem toward_course (toward : Toward ctx a b) : Course ctx a b :=
  ⟨toward.owner, toward.signal, .nothing toward.unsaid⟩

theorem answered_course {r : Response} (answered : m.Answered h r b) (plain : r.kind ≠ .failure)
    (toward : Toward ctx a m) : Course ctx a b := by
  cases answered with
  | dropped => exact toward_course toward
  | sent room =>
    refine ⟨toward.owner, toward.signal, .said plain ?_⟩
    rw [← toward.unsaid]
    exact (queue_accepted room).1

theorem failed_course {f : Failure} (answered : m.failing.Answered h (.failure f) b)
    (owner : m.session.principal = a.session.principal)
    (signal : m.session.cancel = a.session.cancel)
    (unsaid : m.outbox.accepted = a.outbox.accepted) : Course ctx a b := by
  have voice : a.Voiced b := .failed owner signal unsaid answered rfl rfl
  obtain ⟨outbox, metrics, rfl⟩ := answered_parts answered
  refine ⟨.inl owner, ?_, voice⟩
  change a.session.cancel.Leads m.session.cancel.cancel
  rw [signal]
  exact CancelSignal.leads_cancel _

/-- Writing what waits changes nothing of this. -/
theorem course_congr (course : Course ctx a b) (session : c.session = b.session)
    (said : c.outbox.accepted = b.outbox.accepted) : Course ctx a c := by
  obtain ⟨owner, signal, voice⟩ := course
  rw [← session] at owner signal
  refine ⟨owner, signal, ?_⟩
  cases voice with
  | nothing same => exact .nothing (said.trans same)
  | said plain added => exact .said plain (said.trans added)
  | failed owner signal unsaid answered same told =>
    exact .failed owner signal unsaid answered (session.trans same) (said.trans told)

/-- The same, seen from an actor that differs in nothing of this. -/
theorem course_from (course : Course ctx c b)
    (session : a.session.principal = c.session.principal)
    (signal : a.session.cancel = c.session.cancel)
    (said : a.outbox.accepted = c.outbox.accepted) : Course ctx a b := by
  obtain ⟨owner, leads, voice⟩ := course
  rw [← session] at owner
  rw [← signal] at leads
  refine ⟨owner, leads, ?_⟩
  cases voice with
  | nothing same => exact .nothing (same.trans said.symm)
  | said plain added => exact .said plain (said ▸ added)
  | failed owner' signal' unsaid answered same told =>
    exact .failed (owner'.trans session.symm) (signal'.trans signal.symm)
      (unsaid.trans said.symm) answered same told

/-! ## Events -/

theorem handled_course {p : Pulling} {event : Option StreamEvent} {goesOn : Bool}
    (handled : a.Handled p event goesOn b) : Course ctx a b := by
  cases handled with
  | record recorded =>
    have signal := CancelSignal.leads_refl a.session.cancel
    rcases record_outbox recorded with same | room
    · exact ⟨.inl rfl, signal, .nothing (congrArg Outbox.accepted same)⟩
    · exact ⟨.inl rfl, signal, .said (by simp [Response.kind]) (queue_accepted room).1⟩
  | unsendable recorded answered => exact failed_course answered rfl rfl rfl
  | done answered =>
    exact answered_course answered (by simp [Response.kind])
      ⟨.inl rfl, CancelSignal.leads_refl _, rfl⟩
  | failed answered => exact failed_course answered rfl rfl rfl
  | closed answered => exact failed_course answered rfl rfl rfl

theorem batched_course {left : Nat} {goesOn : Bool} (course : Course ctx a b) :
    Course ctx a (b.batched left goesOn) :=
  course_congr course rfl (batched_accepted b left goesOn)

theorem pumped_course {p : Pulling} (pumped : a.Pumped p b) : Course ctx a b := by
  cases pumped with
  | first _ _ _ handled | further _ _ _ handled =>
    exact batched_course (course_from (handled_course handled) rfl rfl rfl)
  | lost => exact toward_course ⟨.inl rfl, CancelSignal.leads_refl _, rfl⟩
  | dry => exact toward_course ⟨.inl rfl, CancelSignal.leads_refl _, rfl⟩
  | ended _ _ handled => exact batched_course (handled_course handled)

/-! ## Messages -/

/-- What reading messages changes: a pull that is cut short is ignored. -/
structure Cut (a b : Actor σ π) : Prop where
  owner : b.session.principal = a.session.principal
  signal : a.session.cancel.Leads b.session.cancel
  said : (b.outbox.accepted = a.outbox.accepted ∧
      (b.pulling.isSome = true → a.pulling.isSome = true)) ∨
    (b.outbox.accepted = .ignored :: a.outbox.accepted ∧ a.pulling.isSome = true ∧ b.pulling = none)

theorem cut_refl (a : Actor σ π) : Cut a a := ⟨rfl, CancelSignal.leads_refl _, .inl ⟨rfl, id⟩⟩

/-- Only one pull can be cut short. -/
theorem cut_trans (first : Cut a b) (rest : Cut b c) : Cut a c := by
  refine ⟨rest.owner.trans first.owner, CancelSignal.leads_trans first.signal rest.signal, ?_⟩
  rcases first.said with ⟨same, kept⟩ | ⟨added, held, gone⟩
  · rcases rest.said with ⟨same', kept'⟩ | ⟨added', held', gone'⟩
    · left
      exact ⟨same'.trans same, fun held => kept (kept' held)⟩
    · right
      exact ⟨by rw [added', same], kept held', gone'⟩
  · rcases rest.said with ⟨same', kept'⟩ | ⟨added', held', gone'⟩
    · right
      refine ⟨same'.trans added, held, ?_⟩
      by_contra still
      have := kept' (Option.isSome_iff_ne_none.mpr still)
      rw [gone] at this
      cases this
    · rw [gone] at held'
      cases held'

theorem interrupt_leads (s : Session π) : s.cancel.Leads s.interrupt.cancel := by
  by_cases early : s.state = .connected
  · simp only [Session.interrupt, early, if_true]
    exact CancelSignal.leads_refl _
  · simp only [Session.interrupt, early, if_false]
    exact CancelSignal.leads_cancel _

theorem interrupt_principal (s : Session π) : s.interrupt.principal = s.principal := by
  by_cases early : s.state = .connected <;>
    simp [Session.interrupt, early, Session.cancelExecution, Session.withState]

end Actor

namespace Act

variable {α β : Type}

def Cuts (x : Act σ π α) : Prop := ∀ a : Actor σ π, a.Cut (after (x a))

theorem cuts_bind {x : Act σ π α} {f : α → Act σ π β} (first : Cuts x) (further : ∀ u, Cuts (f u)) :
    Cuts (x >>= f) := by
  intro a
  change a.Cut (after (EStateM.bind x f a))
  unfold EStateM.bind
  have cut := first a
  cases came : x a with
  | error e b => rw [came] at cut; exact cut
  | ok u b => rw [came] at cut; exact Actor.cut_trans cut (further u b)

theorem cuts_get {f : Actor σ π → Act σ π β} (further : ∀ c, Cuts (f c)) : Cuts (get >>= f) := by
  intro a
  exact further a a

theorem cuts_pure (v : α) : Cuts (pure v : Act σ π α) := Actor.cut_refl

theorem cuts_throw (e : Abort ServerError) : Cuts (throw e : Act σ π α) := Actor.cut_refl

theorem cuts_modify {g : Actor σ π → Actor σ π} (cut : ∀ a : Actor σ π, a.Cut (g a)) :
    Cuts (modify g) := cut

/-- Work that concerns nothing of the kind. -/
theorem cuts_other {g : Actor σ π → Actor σ π} (session : ∀ a, (g a).session.principal =
      a.session.principal ∧ (g a).session.cancel = a.session.cancel)
    (other : ∀ a, (g a).outbox = a.outbox ∧
      ((g a).pulling.isSome = true → a.pulling.isSome = true)) :
    Cuts (modify g) := by
  intro a
  obtain ⟨owner, signal⟩ := session a
  obtain ⟨outbox, pulling⟩ := other a
  refine ⟨owner, ?_, .inl ⟨congrArg _ outbox, pulling⟩⟩
  change a.session.cancel.Leads (g a).session.cancel
  rw [signal]
  exact CancelSignal.leads_refl _

theorem respond_after (h : Handler) (r : Response) (a : Actor σ π) :
    after (respond h r a) = a ∨ a.Answered h r (after (respond h r a)) := by
  cases done : respond h r a with
  | ok u b => exact .inr (respond_outcome done)
  | error e b =>
    left
    unfold respond at done
    rw [get_bind] at done
    cases given : (h.terminal a.outbox r).2 with
    | error e => rw [given] at done; cases done; rfl
    | ok delivered =>
      obtain ⟨_ | _, outbox⟩ := delivered <;> rw [given] at done <;> cases done

theorem cuts_interrupt : Cuts (interrupt : Act σ π Unit) := by
  intro a
  unfold interrupt
  rw [modifySession_bind, get_bind]
  have owner : a.disturbed.session.principal = a.session.principal := Actor.interrupt_principal _
  have signal : a.session.cancel.Leads a.disturbed.session.cancel := Actor.interrupt_leads _
  dsimp only
  cases hp : a.pulling with
  | none => exact ⟨owner, signal, .inl ⟨rfl, nofun⟩⟩
  | some p =>
    change a.Cut (after (respond p.handler .ignored a.disturbed.halted))
    have goes := respond_after p.handler .ignored a.disturbed.halted
    generalize after (respond p.handler .ignored a.disturbed.halted) = b at goes ⊢
    rcases goes with rfl | answered
    · exact ⟨owner, signal, .inl ⟨rfl, nofun⟩⟩
    · cases answered with
      | dropped => exact ⟨owner, signal, .inl ⟨rfl, nofun⟩⟩
      | sent room => exact ⟨owner, signal, .inr ⟨(queue_accepted room).1, by rw [hp]; rfl, rfl⟩⟩

theorem cuts_goodbye : Cuts (goodbye : Act σ π Unit) := by
  apply cuts_bind
  · apply cuts_modify
    intro a
    exact ⟨rfl, CancelSignal.leads_cancel _, .inl ⟨rfl, id⟩⟩
  · intro _
    exact cuts_other (fun _ => ⟨rfl, rfl⟩) fun _ => ⟨rfl, nofun⟩

theorem cuts_metrics (f : Metrics → Metrics) : Cuts (modifyMetrics f : Act σ π Unit) :=
  cuts_other (fun _ => ⟨rfl, rfl⟩) fun _ => ⟨rfl, id⟩

theorem cuts_enqueue (m : Inbound) : Cuts (enqueue m : Act σ π Unit) :=
  cuts_other (fun _ => ⟨rfl, rfl⟩) fun _ => ⟨rfl, id⟩

theorem cuts_receiveMessage (message : List UInt8) :
    Cuts (receiveMessage message : Act σ π Flow) := by
  apply cuts_get
  intro c
  refine cuts_bind (cuts_other (fun _ => ⟨rfl, rfl⟩) fun _ => ⟨rfl, id⟩) fun _ => ?_
  apply cuts_get
  intro d
  split
  · apply cuts_bind (cuts_metrics _)
    intro _
    split
    · exact cuts_bind cuts_goodbye fun _ => cuts_pure _
    · split
      · exact cuts_bind cuts_interrupt fun _ => cuts_bind (cuts_enqueue _) fun _ => cuts_pure _
      · exact cuts_bind (cuts_enqueue _) fun _ => cuts_pure _
  · exact cuts_bind (cuts_metrics _) fun _ => cuts_bind (cuts_enqueue _) fun _ => cuts_pure _
  · exact cuts_bind (cuts_metrics _) fun _ => cuts_bind (cuts_enqueue _) fun _ => cuts_pure _
  · exact cuts_throw _

theorem cuts_receiveMessages (messages : List (List UInt8)) :
    Cuts (receiveMessages messages : Act σ π Flow) := by
  induction messages with
  | nil => exact cuts_pure _
  | cons message rest ih =>
    apply cuts_bind (cuts_receiveMessage message)
    intro flow
    cases flow with
    | close => exact cuts_pure _
    | proceed => exact ih

theorem cuts_receive (bytes : List UInt8) : Cuts (receive bytes : Act σ π Flow) := by
  apply cuts_get
  intro c
  refine cuts_bind (cuts_other (fun _ => ⟨rfl, rfl⟩) fun _ => ⟨rfl, id⟩) fun _ => ?_
  apply cuts_get
  intro d
  refine cuts_bind (cuts_other (fun _ => ⟨rfl, rfl⟩) fun _ => ⟨rfl, id⟩) fun _ => ?_
  apply cuts_bind (cuts_receiveMessages _)
  intro flow
  split
  · exact cuts_pure _
  · split
    · exact cuts_throw _
    · exact cuts_pure _

end Act

namespace Actor

variable {ctx : Context σ π} {a b c m : Actor σ π} {h : Handler}

theorem cut_course (cut : Cut a b) : Course ctx a b := by
  obtain ⟨owner, signal, ⟨same, -⟩ | ⟨added, -⟩⟩ := cut
  · exact ⟨.inl owner, signal, .nothing same⟩
  · exact ⟨.inl owner, signal, .said (by decide) added⟩

theorem performed_course {action : Action} {next : ConnectionState} {request : Request}
    (performed : a.Performed ctx h next action request b) : Course ctx a b := by
  have same := CancelSignal.leads_refl a.session.cancel
  cases performed with
  | opened known answered =>
    exact answered_course answered (by simp [Response.kind]) ⟨.inr ⟨_, _, rfl, known⟩, same, rfl⟩
  | pulled => exact toward_course ⟨.inl rfl, same, rfl⟩
  | ran _ answered | begun _ answered | committed _ _ answered | rolledBack _ _ answered =>
    exact answered_course answered (by simp [Response.kind]) ⟨.inl rfl, same, rfl⟩
  | runFailed _ answered | nothingHeld _ _ answered | beginFailed _ answered | noTx _ _ answered
  | commitFailed _ _ answered | rollbackFailed _ _ answered =>
    exact failed_course answered rfl rfl rfl

theorem cleared_toward (toward : Toward ctx a b) : Toward ctx a (b.cleared ctx) :=
  ⟨toward.owner, CancelSignal.leads_trans toward.signal (CancelSignal.leads_renew _), toward.unsaid⟩

theorem dealt_course {m : Inbound} (dealt : a.Dealt ctx m b) : Course ctx a b := by
  have same := CancelSignal.leads_refl a.session.cancel
  cases dealt with
  | unknown _ room => exact ⟨.inl rfl, same, .said (by decide) (queue_accepted room).1⟩
  | invalidPassed _ answered | passed _ _ answered | ignored _ _ answered
  | resetPassed _ _ answered =>
    exact answered_course answered (by decide) ⟨.inl rfl, same, rfl⟩
  | invalidRefused _ _ _ _ answered => exact failed_course answered rfl rfl rfl
  | performed _ _ performed => exact performed_course performed
  | resetDone _ _ _ answered =>
    apply answered_course answered (by simp [Response.kind])
    exact cleared_toward ⟨.inl rfl, CancelSignal.leads_cancel _, rfl⟩
  | resetWaits => exact toward_course ⟨.inl rfl, CancelSignal.leads_cancel _, rfl⟩

theorem moved_step {o : Occurrence} (moved : a.move? ctx (.here o) = some b) :
    a.allows ctx o = true ∧ a.step ctx o = (.running, b) := by
  unfold move? at moved
  by_cases can : a.allows ctx o = true
  · simp only [if_pos can] at moved
    cases stepped : a.step ctx o with | mk progress c =>
    rw [stepped] at moved
    cases progress with
    | ended | brokenDown => cases moved
    | running => cases moved; exact ⟨can, rfl⟩
  · simp [can] at moved

theorem step_course {o : Occurrence} (can : a.allows ctx o = true)
    (stepped : a.step ctx o = (.running, b)) : Course ctx a b := by
  obtain ⟨c, came, rfl⟩ := step_running stepped
  -- What is poised after a step changes neither the session nor what has been accepted.
  suffices course : Course ctx a c from course_congr course rfl (poised_accepted c)
  cases occur_outcome can came with
  | @received bytes =>
    have cut := Act.cuts_receive bytes a
    have came : Act.receive bytes a = .ok .proceed c := came
    rw [came] at cut
    exact cut_course cut
  | turn _ _ dealt => exact course_from (dealt_course dealt) rfl rfl rfl
  | produced => exact toward_course ⟨.inl rfl, CancelSignal.leads_refl _, rfl⟩
  | pumped _ _ pumped => exact pumped_course pumped
  | cleaned _ answered =>
    apply answered_course answered (by simp [Response.kind])
    exact cleared_toward ⟨.inl rfl, CancelSignal.leads_refl _, rfl⟩

theorem move_signal {move : Move σ} (moved : a.move? ctx move = some b) :
    a.session.cancel.Leads b.session.cancel := by
  obtain ⟨o, c, rfl, occurred, rfl⟩ | ⟨_, _, _, -, rfl⟩ := move_outcome moved
  · obtain ⟨can, stepped⟩ := moved_step moved
    exact (step_course can stepped).signal
  · exact CancelSignal.leads_refl _

theorem run_signal {moves : List (Move σ)} (run : a.run? ctx moves = some b) :
    a.session.cancel.Leads b.session.cancel := by
  induction moves generalizing a with
  | nil => cases run; exact CancelSignal.leads_refl _
  | cons move moves ih =>
    obtain ⟨c, moved, further⟩ := Option.bind_eq_some_iff.mp run
    exact CancelSignal.leads_trans (move_signal moved) (ih further)

/-- The owner of every open connection is somebody whom the authenticator knows. -/
theorem reachable_owner (reachable : Reachable ctx a) {principal : Principal}
    (owned : a.session.principal = some principal) :
    ∃ token, ctx.authenticate token = .ok principal := by
  induction reachable with
  | fresh => cases owned
  | @move a b move _ moved ih =>
    obtain ⟨o, c, rfl, -, rfl⟩ | ⟨_, _, _, -, rfl⟩ := move_outcome moved
    · obtain ⟨can, stepped⟩ := moved_step moved
      rcases (step_course can stepped).owner with same | ⟨_, token, fresh, known⟩
      · exact ih (same.symm.trans owned)
      · cases fresh.symm.trans owned
        exact ⟨token, known⟩
    · exact ih owned

end Actor

end GraphProtocol
