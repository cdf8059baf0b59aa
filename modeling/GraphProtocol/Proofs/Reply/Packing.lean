import Mathlib.Data.List.Forall2
import GraphProtocol.Reply.Writer
import GraphProtocol.Proofs.Frame.Reassembly
import GraphProtocol.Proofs.Message.Responses

/-!
# What a writer has put out

A writer packs a response aside and puts it out only as a whole. So what has been put out are the
messages of the responses that were accepted, one after another, and a client gets back these
responses and nothing of those that were refused.
-/

set_option autoImplicit false

namespace GraphProtocol

namespace Writer

/-! ## One response -/

section Queue

variable {w : Writer} {r : Response}

theorem queue_accepts {message : List UInt8} (encoded : r.encode w.version = .ok message) :
    w.queue r = (.ok (), { w with
      scratch := message
      pending := w.pending ++ w.chunker.encode message
      accepted := r :: w.accepted }) := by
  unfold Response.encode Wire.Written.result at encoded
  unfold queue
  cases refused : (r.write w.version).abort with
  | some cause => rw [refused] at encoded; cases encoded
  | none =>
    rw [refused] at encoded
    cases encoded
    rw [Wire.Written.onto_clear refused, List.nil_append]

/-- A response that is not packed as a whole leaves nothing but the packing buffer changed. -/
theorem queue_aborts {abort : Abort ProtocolError} (aborted : r.encode w.version = .error abort) :
    ∃ scratch, w.queue r = (.error abort, { w with scratch }) := by
  unfold Response.encode Wire.Written.result at aborted
  unfold queue
  cases met : (r.write w.version).abort with
  | none => rw [met] at aborted; cases aborted
  | some abort =>
    rw [met] at aborted
    cases aborted
    cases abort with
    | error cause => exact ⟨_, by rw [Wire.Written.onto_refused met]; rfl⟩
    | breakdown => exact ⟨_, by rw [Wire.Written.onto_breakdown met]; rfl⟩

/-- Packing aside has the effect of encoding first. -/
theorem queue_outbox (w : Writer) (r : Response) :
    ((w.queue r).1.map fun () => (w.queue r).2.toOutbox) = w.toOutbox.queue r := by
  unfold Outbox.queue
  cases outcome : r.encode w.version with
  | ok message => rw [queue_accepts outcome]; rfl
  | error abort =>
    obtain ⟨scratch, same⟩ := queue_aborts outcome
    rw [same]
    rfl

end Queue

/-! ## Orders one after another -/

def acceptable (version : Version) (orders : List Order) : List Response :=
  (orders.filterMap Order.response?).filter fun r => (r.encode version).isOk

theorem acceptable_append (version : Version) (early late : List Order) :
    acceptable version (early ++ late) = acceptable version early ++ acceptable version late := by
  unfold acceptable
  rw [List.filterMap_append, List.filter_append]

/-- What has been put out are these messages, and they are those of the responses, all of which have
been accepted. -/
structure Packed (version : Version) (chunker : Frame.Chunker) (w : Writer)
    (responses : List Response) (messages : List (List UInt8)) : Prop where
  encoded : List.Forall₂ (fun r message => r.encode version = .ok message) responses messages
  output : w.output = Frame.stream (messages.map (chunker, ·))
  accepted : w.accepted.reverse = responses
  chunker : w.chunker = chunker
  version : w.version = version

section Runs

variable {version : Version} {chunker : Frame.Chunker} {w : Writer} {responses : List Response}
  {messages : List (List UInt8)}

theorem fresh_packed (version : Version) (chunker : Frame.Chunker) :
    (fresh version chunker).Packed version chunker [] [] :=
  ⟨.nil, rfl, rfl, rfl, rfl⟩

/-- An order adds one message at most, and only a whole one. -/
theorem obey_packed (packed : w.Packed version chunker responses messages) (order : Order) :
    ∃ further, (w.obey order).Packed version chunker
      (responses ++ acceptable version [order]) (messages ++ further) := by
  obtain ⟨encoded, output, rfl, rfl, rfl⟩ := packed
  cases order with
  | flush =>
    have same : (w.obey .flush).output = w.output := by
      simp [obey, Outbox.flush, Writer.output]
    have none : acceptable w.version [.flush] = [] := rfl
    refine ⟨[], ?_⟩
    rw [none, List.append_nil, List.append_nil]
    exact ⟨encoded, same.trans output, rfl, rfl, rfl⟩
  | queue r =>
    cases outcome : r.encode w.version with
    | error abort =>
      have none : acceptable w.version [.queue r] = [] := by
        simp [acceptable, Order.response?, outcome, Except.isOk, Except.toBool]
      obtain ⟨scratch, aborted⟩ := queue_aborts outcome
      have same : w.obey (.queue r) = _ := congrArg Prod.snd aborted
      refine ⟨[], ?_⟩
      rw [same, none, List.append_nil, List.append_nil]
      exact ⟨encoded, output, rfl, rfl, rfl⟩
    | ok message =>
      have one : acceptable w.version [.queue r] = [r] := by
        simp [acceptable, Order.response?, outcome, Except.isOk, Except.toBool]
      have grown : w.obey (.queue r) = _ := congrArg Prod.snd (queue_accepts outcome)
      refine ⟨[message], ?_⟩
      rw [grown, one]
      have longer : Frame.stream ((messages ++ [message]).map (w.chunker, ·)) =
          w.output ++ w.chunker.encode message := by
        rw [output]
        simp [Frame.stream]
      refine ⟨List.rel_append encoded (.cons outcome .nil), ?_, List.reverse_cons, rfl, rfl⟩
      rw [longer]
      simp [Writer.output]

theorem run_packed (packed : w.Packed version chunker responses messages) (orders : List Order) :
    ∃ further, (w.run orders).Packed version chunker
      (responses ++ acceptable version orders) (messages ++ further) := by
  induction orders generalizing w responses messages with
  | nil =>
    refine ⟨[], ?_⟩
    simpa [acceptable, run] using packed
  | cons order rest ih =>
    obtain ⟨first, packed⟩ := obey_packed packed order
    obtain ⟨further, packed⟩ := ih packed
    refine ⟨first ++ further, ?_⟩
    rw [← List.singleton_append, acceptable_append, ← List.append_assoc, ← List.append_assoc]
    exact packed

/-- A client that puts the output together again and reads each message gets the responses. -/
theorem packed_returns {max : Nat} {calls : List Frame.Dechunker.Call}
    (packed : w.Packed version chunker responses messages)
    (legible : ∀ r ∈ responses, r.IsLegible)
    (fits : ∀ r ∈ responses, ∀ message, r.encode version = .ok message → message.length ≤ max)
    (cut : calls.flatMap Frame.Dechunker.Call.bytes = w.output) :
    ∃ (given : List (Option (List UInt8))) (drained : List (List UInt8)) (last : Frame.Dechunker),
      ((Frame.Dechunker.fresh max).run calls).1 = given.map .ok ∧
      ((Frame.Dechunker.fresh max).run calls).2.drain = (drained, none, last) ∧
      last.buffered = 0 ∧ last.inMessage = false ∧
      List.Forall₂ (fun r message => Response.read version (.start message) = .ok r ⟨[], 0⟩)
        responses (given.reduceOption ++ drained) := by
  have sound : List.Forall₂ (fun r message => (message.length ≤ max ∧ message ≠ []) ∧
      Response.read version (.start message) = .ok r ⟨[], 0⟩) responses messages := by
    have each := (List.forall₂_and_left _ _).mpr ⟨fun r among => And.intro (legible r among)
      (fits r among), packed.encoded⟩
    exact each.imp fun r message ⟨⟨legible, fits⟩, encoded⟩ =>
      ⟨⟨fits message encoded, Response.encode_ne_nil encoded⟩,
        Response.read_encoded legible encoded⟩
  obtain ⟨sized, read⟩ := (List.forall₂_and_left _ _).mp (List.Forall₂.flip sound :
    List.Forall₂ (fun message r => (message.length ≤ max ∧ message ≠ []) ∧
      Response.read version (.start message) = .ok r ⟨[], 0⟩) messages responses)
  have whole : ((messages.map (chunker, ·)).map (·.2)).filter (· ≠ []) = messages := by
    have bare : (messages.map (chunker, ·)).map (·.2) = messages := by simp
    rw [bare, List.filter_eq_self]
    exact fun message among => decide_eq_true (sized message among).2
  have short : ∀ m ∈ messages.map (chunker, ·), m.2.length ≤ max :=
    List.forall_mem_map.mpr fun message among => (sized message among).1
  obtain ⟨⟨given, drained, last, outcomes, rest, same, empty, between⟩, -⟩ :=
    Frame.Dechunker.stream_reassembled short (cut.trans packed.output)
  rw [whole] at same
  refine ⟨given, drained, last, outcomes, rest, empty, between, ?_⟩
  rw [same]
  exact read.flip

end Runs

/-- A refused response leaves the outbox as it was. What has been put out, however it is cut and
whenever messages are asked for, gives the client the accepted responses in order and nothing else,
and each is the whole of its message. -/
theorem run_returns (version : Version) (chunker : Frame.Chunker) (orders : List Order) :
    (∀ (w : Writer) (r : Response),
      (w.queue r).1 = (r.encode w.version).map (fun _ => ()) ∧
      ∀ e, (w.queue r).1 = .error e → (w.queue r).2.toOutbox = w.toOutbox) ∧
    ((fresh version chunker).run orders).accepted.reverse = acceptable version orders ∧
    ∀ (max : Nat) (calls : List Frame.Dechunker.Call),
      (∀ r ∈ acceptable version orders, r.IsLegible) →
      (∀ r ∈ acceptable version orders, ∀ message, r.encode version = .ok message →
        message.length ≤ max) →
      calls.flatMap Frame.Dechunker.Call.bytes = ((fresh version chunker).run orders).output →
      ∃ (given : List (Option (List UInt8))) (drained : List (List UInt8))
          (last : Frame.Dechunker),
        ((Frame.Dechunker.fresh max).run calls).1 = given.map .ok ∧
        ((Frame.Dechunker.fresh max).run calls).2.drain = (drained, none, last) ∧
        last.buffered = 0 ∧ last.inMessage = false ∧
        List.Forall₂ (fun r message => Response.read version (.start message) = .ok r ⟨[], 0⟩)
          (acceptable version orders) (given.reduceOption ++ drained) := by
  obtain ⟨messages, packed⟩ := run_packed (fresh_packed version chunker) orders
  refine ⟨?_, packed.accepted, fun max calls => packed_returns packed⟩
  intro w r
  cases outcome : r.encode w.version with
  | ok message =>
    rw [queue_accepts outcome]
    exact ⟨rfl, by rintro e ⟨⟩⟩
  | error abort =>
    obtain ⟨scratch, same⟩ := queue_aborts outcome
    rw [same]
    exact ⟨rfl, fun _ _ => rfl⟩

/-- A response that the first version refuses after a part of it has been packed, between others
that it carries. -/
def sampleOrders : List Order :=
  [.queue (.success .empty), .queue (.record [.integer 1, .bytes [2]]), .flush,
    .queue (.record [.integer 3]), .queue .ignored]

def sampleChunker : Frame.Chunker := ⟨2, Nat.two_pos, Nat.le_of_ble_eq_true rfl⟩

def sampleCalls : List Frame.Dechunker.Call :=
  [.extend [0, 2, 0xB1, 0x70, 0], .next, .extend [1, 0xA0, 0, 0, 0, 2, 0xB1], .next,
    .extend [0x71, 0, 2, 0x91, 3, 0, 0, 0, 2, 0xB0, 0x7E, 0, 0]]

theorem sample_accepted : acceptable .v1 sampleOrders =
    [.success .empty, .record [.integer 3], .ignored] := by
  cbv

theorem sample_output : ((fresh .v1 sampleChunker).run sampleOrders).output =
    sampleCalls.flatMap Frame.Dechunker.Call.bytes := by
  cbv

theorem sample_run_returns :
    ∃ (given : List (Option (List UInt8))) (drained : List (List UInt8))
        (last : Frame.Dechunker),
      ((Frame.Dechunker.fresh 4).run sampleCalls).1 = given.map .ok ∧
      ((Frame.Dechunker.fresh 4).run sampleCalls).2.drain = (drained, none, last) ∧
      last.buffered = 0 ∧ last.inMessage = false ∧
      List.Forall₂ (fun r message => Response.read .v1 (.start message) = .ok r ⟨[], 0⟩)
        [.success .empty, .record [.integer 3], .ignored] (given.reduceOption ++ drained) := by
  have legible : ∀ r ∈ acceptable .v1 sampleOrders, r.IsLegible := by
    rw [sample_accepted]
    have empty : Wire.Legible Wire.maxDepth (.map .empty) :=
      Wire.legible_map (d := .empty) List.nodup_nil (List.forall_mem_nil _)
    have listed : Wire.Legible Wire.maxDepth (.list [.integer 3]) :=
      Wire.legible_list (List.forall_mem_singleton.mpr (Wire.legible_flat rfl))
    exact List.forall_mem_cons.mpr ⟨empty, List.forall_mem_cons.mpr
      ⟨listed, List.forall_mem_singleton.mpr trivial⟩⟩
  have fits : ∀ r ∈ acceptable .v1 sampleOrders, ∀ message, r.encode .v1 = .ok message →
      message.length ≤ 4 := by
    rw [sample_accepted]
    have success : (Response.success .empty).encode .v1 = .ok [0xB1, 0x70, 0xA0] := by cbv
    have record : (Response.record [.integer 3]).encode .v1 = .ok [0xB1, 0x71, 0x91, 3] := by cbv
    have ignored : Response.ignored.encode .v1 = .ok [0xB0, 0x7E] := by cbv
    refine List.forall_mem_cons.mpr ⟨?_, List.forall_mem_cons.mpr ⟨?_,
      List.forall_mem_singleton.mpr ?_⟩⟩
    · intro message encoded
      cases success.symm.trans encoded
      decide
    · intro message encoded
      cases record.symm.trans encoded
      decide
    · intro message encoded
      cases ignored.symm.trans encoded
      decide
  have returned := (run_returns .v1 sampleChunker sampleOrders).2.2 4 sampleCalls legible fits
    sample_output.symm
  rw [sample_accepted] at returned
  exact returned

end Writer

end GraphProtocol
