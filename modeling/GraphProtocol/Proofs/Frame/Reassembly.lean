import Mathlib.Data.List.ReduceOption
import GraphProtocol.Frame.Dechunker
import GraphProtocol.Proofs.Wire.Reading

/-!
# Messages put together again

What is buffered and what is still to come make up messages, after the part of the
first that has been put together. Taking in bytes, and asking for a message at any
time, keep that account. So the messages of a stream are given out in order, however
it is cut and whenever they are asked for.
-/

set_option autoImplicit false

namespace GraphProtocol.Frame

open Dechunker

/-! ## Chunks -/

/-- The length of a chunk stands in its first two bytes. -/
theorem chunk_eq {body : List UInt8} (small : body.length ≤ maxChunkSize) :
    ∃ high low : UInt8, chunk body = high :: low :: body ∧
      high.toNat * 256 + low.toNat = body.length := by
  have spelt := Wire.ofBigEndian_bigEndian 2 body.length
  have fits : body.length < Wire.range 2 := Nat.lt_succ_of_le small
  rw [Nat.mod_eq_of_lt fits] at spelt
  refine ⟨_, _, rfl, ?_⟩
  simpa [Wire.bigEndian, Wire.ofBigEndian] using spelt

def announced? : List UInt8 → Option (List Nat)
  | [] => some []
  | [_] => none
  | high :: low :: rest =>
    let length := high.toNat * 256 + low.toNat
    if (rest.take length).length < length then none
    else (announced? (rest.drop length)).map (length :: ·)
termination_by stream => stream.length
decreasing_by
  simp only [List.length_drop, List.length_cons]
  omega

theorem announced?_chunk {body : List UInt8} (small : body.length ≤ maxChunkSize)
    (rest : List UInt8) :
    announced? (chunk body ++ rest) = (announced? rest).map (body.length :: ·) := by
  obtain ⟨high, low, spelt, length⟩ := chunk_eq small
  rw [spelt, List.cons_append, List.cons_append, announced?]
  simp [length]

theorem announced?_chunks {bodies : List (List UInt8)}
    (small : ∀ body ∈ bodies, body.length ≤ maxChunkSize) :
    announced? (bodies.flatMap chunk) = some (bodies.map List.length) := by
  induction bodies with
  | nil => rw [List.flatMap_nil, announced?, List.map_nil]
  | cons body rest ih =>
    rw [List.flatMap_cons, announced?_chunk (small body List.mem_cons_self),
      ih fun other among => small other (List.mem_cons_of_mem _ among)]
    rfl

/-! ## Pieces of messages -/

namespace Chunker

variable (c : Chunker) (message : List UInt8)

theorem piecesOnto_parts (done : List (List UInt8)) :
    ∃ parts, c.piecesOnto message done = done.reverse ++ parts ∧ parts.flatten = message ∧
      ∀ part ∈ parts, 1 ≤ part.length ∧ part.length ≤ c.size := by
  have positive := c.size_pos
  fun_induction c.piecesOnto message done with
  | case1 done => exact ⟨[], by simp, rfl, nofun⟩
  | case2 message done nonempty shorter ih =>
    obtain ⟨parts, same, whole, sized⟩ := ih
    have filled := List.length_pos_iff.mpr nonempty
    have first : 1 ≤ (message.take c.size).length ∧ (message.take c.size).length ≤ c.size := by
      rw [List.length_take]
      omega
    exact ⟨message.take c.size :: parts, by simp [same], by simp [whole],
      List.forall_mem_cons.mpr ⟨first, sized⟩⟩

/-- The pieces make up the message, and none is empty or larger than the size. -/
theorem pieces_parts : (c.pieces message).flatten = message ∧
    ∀ piece ∈ c.pieces message, 1 ≤ piece.length ∧ piece.length ≤ c.size := by
  obtain ⟨parts, same, whole, sized⟩ := piecesOnto_parts c message []
  unfold pieces
  rw [same]
  exact ⟨whole, sized⟩

theorem encode_eq : c.encode message = (c.pieces message ++ [[]]).flatMap chunk := by
  simp only [encode, List.flatMap_append]
  rfl

end Chunker

/-! ## What a stream holds -/

/-- After part of a message, the bytes complete these messages, and end with the last of them.
Empty messages are passed over. -/
inductive Holds (max : Nat) : List UInt8 → List UInt8 → List (List UInt8) → Prop
  | nothing : Holds max [] [] []
  | empty {bytes : List UInt8} {owed : List (List UInt8)} :
      Holds max [] bytes owed → Holds max [] (endOfMessage ++ bytes) owed
  | ended {part bytes : List UInt8} {owed : List (List UInt8)} : part ≠ [] →
      Holds max [] bytes owed → Holds max part (endOfMessage ++ bytes) (part :: owed)
  | chunk {part body bytes : List UInt8} {owed : List (List UInt8)} : body ≠ [] →
      body.length ≤ maxChunkSize → (part ++ body).length ≤ max →
      Holds max (part ++ body) bytes owed → Holds max part (chunk body ++ bytes) owed

section Streams

variable {max : Nat} {bytes : List UInt8} {owed : List (List UInt8)}

theorem pieces_hold {part : List UInt8} {pieces : List (List UInt8)}
    (sized : ∀ piece ∈ pieces, 1 ≤ piece.length ∧ piece.length ≤ maxChunkSize)
    (fits : (part ++ pieces.flatten).length ≤ max)
    (later : Holds max (part ++ pieces.flatten) bytes owed) :
    Holds max part (pieces.flatMap chunk ++ bytes) owed := by
  induction pieces generalizing part with
  | nil => simpa using later
  | cons piece rest ih =>
    obtain ⟨filled, small⟩ := sized piece List.mem_cons_self
    rw [List.flatten_cons, ← List.append_assoc] at fits later
    rw [List.flatMap_cons, List.append_assoc]
    apply Holds.chunk (List.length_pos_iff.mp filled) small
    · rw [List.length_append] at fits
      omega
    · exact ih (fun other among => sized other (List.mem_cons_of_mem _ among)) fits later

/-- A message that has been cut into chunks is owed, unless it is empty. -/
theorem encode_holds {c : Chunker} {message : List UInt8} (fits : message.length ≤ max)
    (later : Holds max [] bytes owed) : Holds max [] (c.encode message ++ bytes)
      (if message = [] then owed else message :: owed) := by
  obtain ⟨whole, sized⟩ := c.pieces_parts message
  unfold Chunker.encode
  rw [List.append_assoc]
  apply pieces_hold
  · intro piece among
    exact ⟨(sized piece among).1, (sized piece among).2.trans c.size_le⟩
  · simpa [whole] using fits
  · rw [whole, List.nil_append]
    split
    · next empty =>
      rw [empty]
      exact .empty later
    · next filled => exact .ended filled later

def stream (sent : List (Chunker × List UInt8)) : List UInt8 :=
  sent.flatMap fun m => m.1.encode m.2

theorem stream_holds {sent : List (Chunker × List UInt8)} (fits : ∀ m ∈ sent, m.2.length ≤ max) :
    Holds max [] (stream sent) ((sent.map (·.2)).filter (· ≠ [])) := by
  induction sent with
  | nil => exact .nothing
  | cons first rest ih =>
    have later := ih fun m among => fits m (List.mem_cons_of_mem _ among)
    have all := encode_holds (c := first.1) (fits first List.mem_cons_self) later
    simpa [stream, List.filter_cons] using all

theorem announced?_stream {sent : List (Chunker × List UInt8)} : announced? (stream sent) =
    some (sent.flatMap fun m => (m.1.pieces m.2).map List.length ++ [0]) := by
  have chunks : stream sent = (sent.flatMap fun m => m.1.pieces m.2 ++ [[]]).flatMap chunk := by
    simp only [stream, Chunker.encode_eq, List.flatMap_assoc]
  rw [chunks, announced?_chunks]
  · simp [List.map_flatMap]
  · intro body among
    obtain ⟨m, -, among⟩ := List.mem_flatMap.mp among
    rcases List.mem_append.mp among with piece | last
    · exact ((m.1.pieces_parts m.2).2 body piece).2.trans m.1.size_le
    · cases List.mem_singleton.mp last
      exact Nat.zero_le _

end Streams

/-! ## Asking for a message -/

namespace Dechunker

variable {buffer rest : List UInt8} {message : Array UInt8} {max : Nat}

theorem next_short (short : buffer.length < 2) :
    next ⟨buffer, message, max⟩ = (.ok none, ⟨buffer, message, max⟩) := by
  match buffer with
  | [] => rw [next.eq_def]
  | [_] => rw [next.eq_def]
  | _ :: _ :: _ => simp at short

theorem next_empty : next ⟨endOfMessage ++ rest, #[], max⟩ = next ⟨rest, #[], max⟩ := by
  rw [next.eq_def]
  simp [endOfMessage]

theorem next_ended (filled : message ≠ #[]) : next ⟨endOfMessage ++ rest, message, max⟩ =
    (.ok (some message.toList), ⟨rest, #[], max⟩) := by
  rw [next.eq_def]
  simp [endOfMessage, filled]

section Bodies

variable {body : List UInt8} (filled : body ≠ []) (small : body.length ≤ maxChunkSize)
  (fits : message.size + body.length ≤ max)
include filled small fits

theorem next_chunk :
    next ⟨chunk body ++ rest, message, max⟩ = next ⟨rest, message ++ body, max⟩ := by
  obtain ⟨high, low, spelt, length⟩ := chunk_eq small
  rw [spelt, next.eq_def]
  simp [length, filled, Nat.not_lt.mpr fits]

theorem next_cut {coming bytes : List UInt8} (cut : buffer ++ coming = chunk body ++ bytes)
    (short : buffer.length < (chunk body).length) :
    next ⟨buffer, message, max⟩ = (.ok none, ⟨buffer, message, max⟩) := by
  obtain ⟨high, low, spelt, length⟩ := chunk_eq small
  match buffer with
  | [] => exact next_short Nat.two_pos
  | [_] => exact next_short Nat.one_lt_two
  | first :: second :: rest =>
    rw [spelt] at cut short
    simp only [List.cons_append, List.cons.injEq] at cut
    obtain ⟨rfl, rfl, -⟩ := cut
    have lacking : rest.length < body.length := by
      simpa using short
    rw [next.eq_def]
    simp [length, filled, Nat.not_lt.mpr fits, lacking]

end Bodies

/-! ## The account -/

variable {coming : List UInt8} {owed : List (List UInt8)} {d : Dechunker}

/-- With the bytes to come, the receiver will have given out these messages and hold nothing. -/
def Owes (d : Dechunker) (coming : List UInt8) (owed : List (List UInt8)) : Prop :=
  Holds d.maxMessageSize d.message.toList (d.buffer ++ coming) owed

theorem extend_owes {bytes : List UInt8} (owes : d.Owes (bytes ++ coming) owed) :
    (d.extend bytes).Owes coming owed := by
  unfold Owes extend
  rw [List.append_assoc]
  exact owes

/-- What asking for a message gives: the first that is owed, or nothing, which is all once there
are no more bytes to come. -/
inductive Gives (coming : List UInt8) : List (List UInt8) →
    Except ProtocolError (Option (List UInt8)) × Dechunker → Prop
  | message {message : List UInt8} {owed : List (List UInt8)} {d : Dechunker} :
      d.Owes coming owed → Gives coming (message :: owed) (.ok (some message), d)
  | nothing {owed : List (List UInt8)} {d : Dechunker} : d.Owes coming owed →
      (coming = [] → owed = [] ∧ d.buffer = [] ∧ d.message = #[]) → Gives coming owed (.ok none, d)

/-- As long as a chunk is not whole, nothing is given. -/
theorem gives_waiting {front bytes : List UInt8} (owes : d.Owes coming owed)
    (cut : d.buffer ++ coming = front ++ bytes) (short : d.buffer.length < front.length) :
    Gives coming owed (.ok none, d) := by
  apply Gives.nothing owes
  rintro rfl
  have counted := congrArg List.length cut
  rw [List.append_nil, List.length_append] at counted
  omega

/-- Bytes that begin with a whole chunk. -/
theorem split_whole {front bytes : List UInt8} (cut : buffer ++ coming = front ++ bytes)
    (long : ¬buffer.length < front.length) :
    ∃ rest, buffer = front ++ rest ∧ rest ++ coming = bytes := by
  obtain ⟨rest, rfl⟩ : front <+: buffer :=
    List.prefix_of_prefix_length_le (cut ▸ List.prefix_append front bytes)
      (List.prefix_append buffer coming) (Nat.le_of_not_lt long)
  rw [List.append_assoc] at cut
  exact ⟨rest, rfl, List.append_cancel_left cut⟩

theorem next_owes (owes : d.Owes coming owed) : Gives coming owed d.next := by
  obtain ⟨buffer, message, max⟩ := d
  have account : Holds max message.toList (buffer ++ coming) owed := owes
  generalize held : message.toList = part at account
  generalize cut : buffer ++ coming = bytes at account
  -- By induction on what the bytes hold; each chunk is whole in the buffer, or cut by its end.
  induction account generalizing buffer message with
  | nothing =>
    obtain ⟨rfl, rfl⟩ := List.append_eq_nil_iff.mp cut
    rw [next_short (show [].length < 2 from Nat.two_pos)]
    exact .nothing owes fun _ => ⟨rfl, rfl, Array.toList_eq_nil_iff.mp held⟩
  | empty later ih =>
    by_cases short : buffer.length < endOfMessage.length
    · rw [next_short short]
      exact gives_waiting owes cut short
    · obtain ⟨rest, rfl, rfl⟩ := split_whole cut short
      cases Array.toList_eq_nil_iff.mp held
      rw [next_empty]
      exact ih rest #[] later rfl rfl
  | ended filled later ih =>
    by_cases short : buffer.length < endOfMessage.length
    · rw [next_short short]
      exact gives_waiting owes cut short
    · obtain ⟨rest, rfl, rfl⟩ := split_whole cut short
      rw [next_ended (by rintro rfl; exact filled held.symm), held]
      exact .message later
  | @chunk part body bytes owed filled small fits later ih =>
    subst held
    rw [List.length_append, Array.length_toList] at fits
    by_cases short : buffer.length < (chunk body).length
    · rw [next_cut filled small fits cut short]
      exact gives_waiting owes cut short
    · obtain ⟨rest, rfl, rfl⟩ := split_whole cut short
      rw [next_chunk filled small fits]
      have whole : (message ++ body).toList = message.toList ++ body := by simp
      have owes' : Owes ⟨rest, message ++ body, max⟩ coming owed := by
        unfold Owes
        rw [whole]
        exact later
      exact ih rest (message ++ body) owes' whole rfl

/-! ## Calls in any order -/

inductive Call where
  | extend (bytes : List UInt8)
  | next
  deriving DecidableEq, Repr

def Call.bytes : Call → List UInt8
  | extend bytes => bytes
  | next => []

def run (d : Dechunker) : List Call → List (Except ProtocolError (Option (List UInt8))) × Dechunker
  | [] => ([], d)
  | .extend bytes :: rest => (d.extend bytes).run rest
  | .next :: rest =>
    let (outcome, d) := d.next
    let (outcomes, last) := d.run rest
    (outcome :: outcomes, last)

/-- No call fails, and what the calls have given is what is no longer owed. -/
theorem run_owes {calls : List Call} (owes : d.Owes (calls.flatMap Call.bytes) owed) :
    ∃ (given : List (Option (List UInt8))) (left : List (List UInt8)),
      (d.run calls).1 = given.map .ok ∧ owed = given.reduceOption ++ left ∧
        (d.run calls).2.Owes [] left := by
  induction calls generalizing d owed with
  | nil => exact ⟨[], owed, rfl, rfl, owes⟩
  | cons call rest ih =>
    cases call with
    | extend bytes => exact ih (extend_owes owes)
    | next =>
      have gives : Gives (rest.flatMap Call.bytes) owed d.next := next_owes owes
      generalize asked : d.next = outcome at gives
      cases gives with
      | @message message owed d' later =>
        obtain ⟨given, left, outcomes, rfl, last⟩ := ih later
        refine ⟨some message :: given, left, ?_, ?_, ?_⟩
        · simp [run, asked, outcomes]
        · simp
        · simpa [run, asked] using last
      | @nothing _ d' later _ =>
        obtain ⟨given, left, outcomes, rfl, last⟩ := ih later
        refine ⟨none :: given, left, ?_, ?_, ?_⟩
        · simp [run, asked, outcomes]
        · simp
        · simpa [run, asked] using last

/-- Once there are no bytes to come, all that is owed is given, and nothing is held. -/
theorem drainOnto_owes (owes : d.Owes [] owed) (done : List (List UInt8)) :
    ∃ last, d.drainOnto done = (done.reverse ++ owed, none, last) ∧
      last.buffer = [] ∧ last.message = #[] := by
  induction owed generalizing d done with
  | nil =>
    have gives := next_owes owes
    generalize asked : d.next = outcome at gives
    cases gives with
    | nothing _ all =>
      obtain ⟨-, empty, clear⟩ := all rfl
      exact ⟨_, by rw [drainOnto_none asked, List.append_nil], empty, clear⟩
  | cons message owed ih =>
    have gives := next_owes owes
    generalize asked : d.next = outcome at gives
    cases gives with
    | message later =>
      obtain ⟨last, drained, empty, clear⟩ := ih later (message :: done)
      refine ⟨last, ?_, empty, clear⟩
      rw [drainOnto_some asked, drained, List.reverse_cons, List.append_assoc]
      rfl
    | nothing _ all => cases (all rfl).1

/-- Messages are given out whole and in order, however their stream is cut and whenever they are
asked for, and nothing is held in the end. Every chunk of the stream announces at least one byte and
no more than its chunker makes, but for the one that ends each message. -/
theorem stream_reassembled {sent : List (Chunker × List UInt8)} {max : Nat} {calls : List Call}
    (fits : ∀ m ∈ sent, m.2.length ≤ max) (cut : calls.flatMap Call.bytes = stream sent) :
    (∃ (given : List (Option (List UInt8))) (drained : List (List UInt8)) (last : Dechunker),
      ((fresh max).run calls).1 = given.map .ok ∧
        ((fresh max).run calls).2.drain = (drained, none, last) ∧
        given.reduceOption ++ drained = (sent.map (·.2)).filter (· ≠ []) ∧
        last.buffered = 0 ∧ last.inMessage = false) ∧
    announced? (stream sent) =
      some (sent.flatMap fun m => (m.1.pieces m.2).map List.length ++ [0]) ∧
    ∀ m ∈ sent, ∀ piece ∈ m.1.pieces m.2, 1 ≤ piece.length ∧ piece.length ≤ m.1.size := by
  refine ⟨?_, announced?_stream, fun m _ => (m.1.pieces_parts m.2).2⟩
  have owes : (fresh max).Owes (calls.flatMap Call.bytes) ((sent.map (·.2)).filter (· ≠ [])) := by
    rw [cut]
    exact stream_holds fits
  obtain ⟨given, left, outcomes, same, owes⟩ := run_owes owes
  obtain ⟨last, drained, empty, clear⟩ := drainOnto_owes owes []
  refine ⟨given, left, last, outcomes, drained, same.symm, ?_, ?_⟩
  · rw [buffered, empty, clear]
    rfl
  · rw [inMessage, clear]
    rfl

def sampleSent : List (Chunker × List UInt8) :=
  [(⟨2, by decide, by decide⟩, [1, 2, 3]), (.largest, []), (⟨1, by decide, by decide⟩, [4])]

def sampleCalls : List Call :=
  [.extend [0], .next, .extend [2, 1], .next, .extend [2, 0, 1, 3], .next,
    .extend [0, 0, 0, 0, 0, 1, 4], .next, .extend [0, 0]]

theorem sample_reassembled :
    ∃ (given : List (Option (List UInt8))) (drained : List (List UInt8)) (last : Dechunker),
      ((fresh 3).run sampleCalls).1 = given.map .ok ∧
        ((fresh 3).run sampleCalls).2.drain = (drained, none, last) ∧
        given.reduceOption ++ drained = [[1, 2, 3], [4]] ∧
        last.buffered = 0 ∧ last.inMessage = false := by
  have fits : ∀ m ∈ sampleSent, m.2.length ≤ 3 := by decide
  have cut : sampleCalls.flatMap Call.bytes = stream sampleSent := by cbv
  exact (stream_reassembled fits cut).1

end Dechunker

end GraphProtocol.Frame
