import GraphProtocol.Proofs.Connection.Dealing

/-!
# What receiving messages does

Every message that leaves the connection open enters the inbox behind the others.
A reset acts before it enters: it is counted, and it cuts short the result that is
being pulled.
-/

set_option autoImplicit false

namespace GraphProtocol

variable {σ π : Type}

def Inbound.read? (version : Version) (now : Instant) (message : List UInt8) : Option Inbound :=
  match Request.decode version message with
  | .ok (r, reply) =>
    if r.kind = .goodbye then none else some (.request r (.fresh r.kind reply now))
  | .error (.unknownSignature signature) => some (.unknown signature)
  | .error (.invalid kind fault) => some (.invalid (.fresh kind .summary now) fault)
  | .error (.fatal _) => none

def Inbound.name : Inbound → String
  | .request r _ => r.kind.name
  | .unknown _ => Act.unknownName
  | .invalid h _ => h.kind.name

def Inbound.isReset : Inbound → Bool
  | .request r _ => r.kind == .reset
  | _ => false

namespace Actor

def counted (a : Actor σ π) (m : Inbound) : Actor σ π :=
  { a with
    session := a.session.recordRequest a.now
    metrics := a.metrics.countRequest m.name }

def enqueued (a : Actor σ π) (m : Inbound) : Actor σ π := { a with inbox := a.inbox ++ [m] }

/-- The actor that has counted a reset, which cancels whatever runs once the session is open. -/
def disturbed (a : Actor σ π) : Actor σ π := { a with session := a.session.interrupt }

inductive Interrupted (a : Actor σ π) : Actor σ π → Prop where
  | calm : a.pulling = none → Interrupted a a.disturbed
  | cut {p : Pulling} {b : Actor σ π} : a.pulling = some p →
      a.disturbed.halted.Answered p.handler .ignored b → Interrupted a b

/-- What taking in a message does, if the connection stays open. -/
inductive Admitted (a : Actor σ π) (message : List UInt8) : Actor σ π → Prop where
  | plain {m : Inbound} : Inbound.read? a.session.version a.now message = some m →
      m.isReset = false → Admitted a message ((a.counted m).enqueued m)
  | reset {m : Inbound} {b : Actor σ π} :
      Inbound.read? a.session.version a.now message = some m → m.isReset = true →
      (a.counted m).Interrupted b → Admitted a message (b.enqueued m)

inductive Received : Actor σ π → List (List UInt8) → Actor σ π → Prop where
  | nothing {a : Actor σ π} : Received a [] a
  | message {a b c : Actor σ π} {message : List UInt8} {rest : List (List UInt8)} :
      a.Admitted message b → Received b rest c → Received a (message :: rest) c

end Actor

namespace Act

variable {a b : Actor σ π}

theorem interrupt_outcome (run : interrupt a = .ok () b) : a.Interrupted b := by
  unfold interrupt at run
  rw [modifySession_bind, get_bind] at run
  dsimp only at run
  cases hp : a.pulling with
  | none =>
    rw [hp] at run
    cases run
    simpa only [Actor.disturbed, hp] using Actor.Interrupted.calm hp
  | some p => rw [hp] at run; exact .cut hp (respond_outcome run)

theorem receiveMessage_outcome {message : List UInt8}
    (run : receiveMessage message a = .ok .proceed b) : a.Admitted message b := by
  unfold receiveMessage at run
  simp only [get_bind, modifySession_bind] at run
  cases decoded : Request.decode a.session.version message with
  | error why =>
    simp only [Session.recordRequest, decoded] at run
    cases why with
    | unknownSignature signature =>
      cases run
      exact .plain (m := .unknown signature) (by simp [Inbound.read?, decoded]) rfl
    | invalid kind fault =>
      cases run
      exact .plain (m := .invalid (.fresh kind .summary a.now) fault)
        (by simp [Inbound.read?, decoded]) rfl
    | fatal e => cases run
  | ok given =>
    obtain ⟨request, reply⟩ := given
    simp only [Session.recordRequest, decoded] at run
    by_cases leaves : request.kind = .goodbye
    · simp only [if_pos leaves] at run
      obtain ⟨⟨⟩, c, -, rest⟩ := bind_ok run
      obtain ⟨⟨⟩, d, -, rest⟩ := bind_ok rest
      cases rest
    · have read : Inbound.read? a.session.version a.now message =
          some (.request request (.fresh request.kind reply a.now)) := by
        simp [Inbound.read?, decoded, leaves]
      simp only [if_neg leaves] at run
      obtain ⟨⟨⟩, c, counted, rest⟩ := bind_ok run
      cases counted
      by_cases resets : request.kind = .reset
      · simp only [if_pos resets] at rest
        obtain ⟨⟨⟩, d, interrupted, rest⟩ := bind_ok rest
        cases rest
        exact .reset read (by simp [Inbound.isReset, resets]) (interrupt_outcome interrupted)
      · simp only [if_neg resets] at rest
        cases rest
        exact .plain read (by simp [Inbound.isReset, resets])

theorem receiveMessages_outcome {messages : List (List UInt8)}
    (run : receiveMessages messages a = .ok .proceed b) : a.Received messages b := by
  induction messages generalizing a with
  | nil => cases run; exact .nothing
  | cons message rest ih =>
    unfold receiveMessages at run
    obtain ⟨flow, c, first, further⟩ := bind_ok run
    cases flow with
    | close => cases further
    | proceed => exact .message (receiveMessage_outcome first) (ih further)

end Act

/-- Messages are answered on arrival only when they cut a pull short. -/
theorem Actor.received_silent {a b : Actor σ π} {messages : List (List UInt8)}
    (received : a.Received messages b) (idle : a.pulling = none) : b.outbox = a.outbox := by
  induction received with
  | nothing => rfl
  | message admitted _ ih =>
    cases admitted with
    | plain => exact ih idle
    | reset _ _ interrupted =>
      cases interrupted with
      | calm => exact ih idle
      | cut hp => cases idle.symm.trans hp

def Actor.completed (a : Actor σ π) (bytes : List UInt8) : List (List UInt8) :=
  (a.dechunker.extend bytes).drain.1

def Actor.fed (a : Actor σ π) (bytes : List UInt8) : Actor σ π :=
  { a with
    session := { a.session with lastActivity := a.now }
    dechunker := (a.dechunker.extend bytes).drain.2.2 }

theorem Act.receive_outcome {a b : Actor σ π} {bytes : List UInt8}
    (run : Act.receive bytes a = .ok .proceed b) :
    (a.fed bytes).Received (a.completed bytes) b := by
  unfold Act.receive at run
  simp only [Act.get_bind, Act.modifySession_bind, Act.modify_bind] at run
  obtain ⟨flow, c, received, rest⟩ := bind_ok run
  cases flow with
  | close => cases rest
  | proceed =>
    dsimp only at rest
    cases refused : (a.dechunker.extend bytes).drain.2.1 with
    | some e => rw [refused] at rest; cases rest
    | none => rw [refused] at rest; cases rest; exact Act.receiveMessages_outcome received

end GraphProtocol
