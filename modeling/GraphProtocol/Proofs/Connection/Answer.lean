import Mathlib
import GraphProtocol.Connection.Step

/-!
# What an answer does

Work on a connection is run step by step here. Giving a request its terminal
response changes the outbox and the metrics and nothing else, and it leaves no
trace at all if the request is finished already or wants no response.
-/

set_option autoImplicit false

namespace GraphProtocol

section

variable {ε ρ α β : Type} {x : EStateM ε ρ α} {f : α → EStateM ε ρ β} {a b c : ρ}

theorem bind_ok {v : β} (h : (x >>= f) a = .ok v c) :
    ∃ u b, x a = .ok u b ∧ f u b = .ok v c := by
  change EStateM.bind x f a = _ at h
  unfold EStateM.bind at h
  cases hx : x a with
  | ok u b => exact ⟨u, b, rfl, by simpa [hx] using h⟩
  | error e b => simp [hx] at h

/-- What fails has failed at once or further on. -/
theorem bind_error {e : ε} (h : (x >>= f) a = .error e c) :
    x a = .error e c ∨ ∃ u b, x a = .ok u b ∧ f u b = .error e c := by
  change EStateM.bind x f a = _ at h
  unfold EStateM.bind at h
  cases hx : x a with
  | ok u b => exact .inr ⟨u, b, rfl, by simpa [hx] using h⟩
  | error e' b => exact .inl (by simpa [hx] using h)

theorem bind_of_ok {u : α} (h : x a = .ok u b) : (x >>= f) a = f u b := by
  change EStateM.bind x f a = _
  simp [EStateM.bind, h]

theorem bind_of_error {e : ε} (h : x a = .error e b) : (x >>= f) a = .error e b := by
  change EStateM.bind x f a = _
  simp [EStateM.bind, h]

end

namespace Act

variable {σ π α β : Type}

theorem get_bind (f : Actor σ π → Act σ π β) (a : Actor σ π) : (get >>= f) a = f a a := rfl

theorem modify_bind (g : Actor σ π → Actor σ π) (f : Unit → Act σ π β) (a : Actor σ π) :
    (modify g >>= f) a = f () (g a) := rfl

theorem modifySession_bind (g : Session π → Session π) (f : Unit → Act σ π β) (a : Actor σ π) :
    (modifySession g >>= f) a = f () { a with session := g a.session } := rfl

theorem setState_bind (s : ConnectionState) (f : Unit → Act σ π β) (a : Actor σ π) :
    (setState s >>= f) a = f () { a with session := a.session.withState s } := rfl

theorem call_bind (g : Instant → σ → α × σ) (f : α → Act σ π β) (a : Actor σ π) :
    (call g >>= f) a = f (g a.now a.engine).1 { a with engine := (g a.now a.engine).2 } := rfl

theorem fatal_bind (e : ServerError) (f : α → Act σ π β) (a : Actor σ π) :
    ((fatal e : Act σ π α) >>= f) a = .error (.error e) a := rfl

end Act

theorem terminal_dropped {h : Handler} {out out' : Outbox} {r : Response}
    (given : (h.terminal out r).2 = .ok (.dropped, out')) : h.done = true ∨ h.reply = .silent := by
  unfold Handler.terminal at given
  by_cases hd : h.done = true
  · exact .inl hd
  · rw [if_neg hd] at given
    cases hr : h.reply with
    | silent => exact .inr rfl
    | summary | stream | discard =>
      cases hq : out.queue r <;> simp [hr, hq, Except.map] at given

theorem terminal_sent {h : Handler} {out out' : Outbox} {r : Response} {k : ResponseKind}
    (given : (h.terminal out r).2 = .ok (.sent k, out')) : out.queue r = .ok out' := by
  unfold Handler.terminal at given
  by_cases hd : h.done = true
  · simp [hd] at given
  · rw [if_neg hd] at given
    cases hq : out.queue r <;> cases hr : h.reply <;> simp_all [Except.map]

/-- What becomes of an actor that gives a request its terminal response. -/
inductive Actor.Answered {σ π : Type} (a : Actor σ π) (handler : Handler) (response : Response) :
    Actor σ π → Prop where
  | dropped : handler.done = true ∨ handler.reply = .silent → a.Answered handler response a
  | sent {outbox : Outbox} : a.outbox.queue response = .ok outbox →
      a.Answered handler response
        { a with outbox, metrics := a.metrics.answered handler response a.now }

def Actor.failing {σ π : Type} (a : Actor σ π) : Actor σ π :=
  { a with session := a.session.cancelExecution.withState .failed }

namespace Act

variable {σ π : Type} {a b : Actor σ π} {h : Handler}

theorem respond_outcome {r : Response} (run : respond h r a = .ok () b) : a.Answered h r b := by
  unfold respond at run
  rw [get_bind] at run
  cases given : (h.terminal a.outbox r).2 with
  | error e => rw [given] at run; cases run
  | ok delivered =>
    obtain ⟨delivery, outbox⟩ := delivered
    rw [given] at run
    cases delivery with
    | dropped => cases run; exact .dropped (terminal_dropped given)
    | sent kind => cases run; exact .sent (terminal_sent given)

theorem fail_outcome {f : Failure} (run : fail h f a = .ok () b) :
    a.failing.Answered h (.failure f) b := by
  unfold fail at run
  rw [modifySession_bind, setState_bind] at run
  exact respond_outcome run

theorem respond_sent {r : Response} {outbox : Outbox} (open_ : h.done = false)
    (loud : h.reply ≠ .silent) (room : a.outbox.queue r = .ok outbox) :
    respond h r a = .ok () { a with outbox, metrics := a.metrics.answered h r a.now } := by
  have given : (h.terminal a.outbox r).2 = .ok (.sent r.kind, outbox) := by
    cases hr : h.reply <;> simp_all [Handler.terminal, Except.map]
  unfold respond
  rw [get_bind, given]
  rfl

end Act

theorem queue_accepted {o out : Outbox} {r : Response} (h : o.queue r = .ok out) :
    out.accepted = r :: o.accepted ∧ out.version = o.version := by
  unfold Outbox.queue at h
  split at h
  · cases h; exact ⟨rfl, rfl⟩
  · cases h

theorem queue_chunker {o out : Outbox} {r : Response} (h : o.queue r = .ok out) :
    out.chunker = o.chunker := by
  unfold Outbox.queue at h
  split at h
  · cases h; rfl
  · cases h

def Response.Sendable (r : Response) (version : Version) : Prop :=
  ∃ bytes, r.encode version = .ok bytes

theorem queue_sendable {o : Outbox} {r : Response} (sendable : r.Sendable o.version) :
    ∃ out, o.queue r = .ok out := by
  obtain ⟨bytes, encoded⟩ := sendable
  unfold Outbox.queue
  rw [encoded]
  exact ⟨_, rfl⟩

end GraphProtocol
