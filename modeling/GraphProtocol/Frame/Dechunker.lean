import GraphProtocol.Frame.Chunker

/-!
# Messages from chunks

The receiver keeps the bytes that do not yet make up a whole chunk and the part
of the current message that has arrived. A chunk that would make the message
too large is refused as soon as its length is known. Empty messages are passed
over.
-/

set_option autoImplicit false

namespace GraphProtocol.Frame

/-- What has been received and not yet given out. -/
structure Dechunker where
  /-- Bytes from the next chunk header on. -/
  buffer : List UInt8
  /-- The chunks of the current message so far, joined. -/
  message : Array UInt8
  /-- The largest message that is accepted. -/
  maxMessageSize : Nat
  deriving Repr

namespace Dechunker

def fresh (maxMessageSize : Nat) : Dechunker := ⟨[], #[], maxMessageSize⟩

def extend (d : Dechunker) (bytes : List UInt8) : Dechunker :=
  { d with buffer := d.buffer ++ bytes }

def next (d : Dechunker) : Except ProtocolError (Option (List UInt8)) × Dechunker :=
  match d with
  | ⟨high :: low :: rest, message, max⟩ =>
    let length := high.toNat * 256 + low.toNat
    if length = 0 then
      if message.isEmpty then next ⟨rest, message, max⟩
      else (.ok (some message.toList), ⟨rest, #[], max⟩)
    else if message.size + length > max then
      (.error (.frameTooLarge (message.size + length) max), d)
    else
      let body := rest.take length
      if body.length < length then (.ok none, d)
      else next ⟨rest.drop length, message ++ body, max⟩
  | _ => (.ok none, d)
termination_by d.buffer.length
decreasing_by
  · simp only [List.length_cons]
    omega
  · simp only [List.length_drop, List.length_cons]
    omega

/-- Giving out a message takes bytes off the buffer. -/
theorem length_buffer_next {d : Dechunker} {message : List UInt8}
    (h : d.next.1 = .ok (some message)) : d.next.2.buffer.length < d.buffer.length := by
  fun_induction next d with
  | case1 high low rest message max length hl hm ih =>
    have := ih h
    simp only [List.length_cons] at *
    omega
  | case2 high low rest message max length hl hm =>
    simp only [List.length_cons]
    omega
  | case3 => simp at h
  | case4 => simp at h
  | case5 high low rest message max length hl hm body hb ih =>
    have := ih h
    simp only [List.length_cons, List.length_drop] at *
    omega
  | case6 => simp at h

theorem length_buffer_of_next {d rest : Dechunker} {message : List UInt8}
    (h : d.next = (.ok (some message), rest)) : rest.buffer.length < d.buffer.length := by
  have := length_buffer_next (congrArg Prod.fst h)
  rwa [h] at this

/-- Gives out all whole messages, after those already given out, and tells whether the
bytes after them are refused. -/
def drainOnto (d : Dechunker) (done : List (List UInt8)) :
    List (List UInt8) × Option ProtocolError × Dechunker :=
  match _step : d.next with
  | (.ok (some message), rest) => rest.drainOnto (message :: done)
  | (.ok none, rest) => (done.reverse, none, rest)
  | (.error e, rest) => (done.reverse, some e, rest)
termination_by d.buffer.length
decreasing_by exact length_buffer_of_next (by assumption)

theorem drainOnto_some {d rest : Dechunker} {message : List UInt8} {done : List (List UInt8)}
    (given : d.next = (.ok (some message), rest)) :
    d.drainOnto done = rest.drainOnto (message :: done) := by
  rw [drainOnto]
  split <;> next found => cases given.symm.trans found <;> rfl

theorem drainOnto_none {d rest : Dechunker} {done : List (List UInt8)}
    (given : d.next = (.ok none, rest)) : d.drainOnto done = (done.reverse, none, rest) := by
  rw [drainOnto]
  split <;> next found => cases given.symm.trans found <;> rfl

def drain (d : Dechunker) : List (List UInt8) × Option ProtocolError × Dechunker := d.drainOnto []

def buffered (d : Dechunker) : Nat := d.buffer.length + d.message.size

def inMessage (d : Dechunker) : Bool := !d.message.isEmpty

def reset (d : Dechunker) : Dechunker := fresh d.maxMessageSize

end Dechunker

end GraphProtocol.Frame
