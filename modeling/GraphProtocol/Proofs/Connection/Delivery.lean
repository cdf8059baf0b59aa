import GraphProtocol.Proofs.Connection.Batches

/-!
# What a pull delivers

The records sent are those of the handled events, in order, and the event that is
handled last decides the terminal response. If nothing is lost, the client is
sent exactly what the producer has given.
-/

set_option autoImplicit false

namespace GraphProtocol

variable {σ π : Type}

namespace Actor

variable {ctx : Context σ π} {a b c : Actor σ π} {p q : Pulling} {move : Move σ}

/-- Whatever is taken is either handled or lost. -/
theorem gather_takes (ctx : Context σ π) (a : Actor σ π) (moves : List (Move σ)) :
    (gather ctx takes a moves).length =
      (gather ctx handles a moves).length + (gather ctx loses a moves).length := by
  induction moves generalizing a with
  | nil => rfl
  | cons move moves ih =>
    have one : (a.takes move).length = (a.handles move).length + (a.loses move).length := by
      unfold handles loses
      split <;> simp
    cases moved : a.move? ctx move with
    | none => simpa [gather, moved] using one
    | some b =>
      rw [gather_cons takes moved, gather_cons handles moved, gather_cons loses moved]
      simp only [List.length_append, one, ih]
      omega

theorem gather_handles (moves : List (Move σ)) :
    (gather ctx handles a moves).Sublist (gather ctx takes a moves) := by
  induction moves generalizing a with
  | nil => exact .slnil
  | cons move moves ih =>
    have one : (a.handles move).Sublist (a.takes move) := by
      unfold handles
      split
      · exact List.nil_sublist _
      · exact List.Sublist.refl _
    cases moved : a.move? ctx move with
    | none => simpa [gather, moved] using one
    | some b =>
      rw [gather_cons takes moved, gather_cons handles moved]
      exact one.append ih

theorem lossless_handles {moves : List (Move σ)} (lossless : gather ctx loses a moves = []) :
    gather ctx handles a moves = gather ctx takes a moves := by
  induction moves generalizing a with
  | nil => rfl
  | cons move moves ih =>
    obtain ⟨none_, rest⟩ := List.append_eq_nil_iff.mp lossless
    have same : a.handles move = a.takes move := by
      unfold handles
      split
      · next full => simpa [loses, full] using none_.symm
      · rfl
    cases moved : a.move? ctx move with
    | none => simp [gather, moved, same]
    | some b =>
      rw [moved] at rest
      rw [gather_cons handles moved, gather_cons takes moved, same, ih rest]

/-- A row of records and an event that is none can be read in one way only. -/
theorem records_unique {early late : List (List Value)} {first last : StreamEvent}
    {rest : List StreamEvent} (stops : first.isRecord = false) (ends : last.isRecord = false)
    (same : early.map .record ++ first :: rest = late.map .record ++ [last]) :
    early = late ∧ first = last ∧ rest = [] := by
  induction early generalizing late with
  | nil =>
    cases late with
    | nil => simpa using same
    | cons fields late =>
      cases (List.cons.inj same).1
      cases stops
  | cons fields early ih =>
    cases late with
    | nil =>
      cases (List.cons.inj same).1
      cases ends
    | cons fields' late =>
      obtain ⟨head, tail⟩ := List.cons.inj same
      cases head
      obtain ⟨rfl, rest⟩ := ih tail
      exact ⟨rfl, rest⟩

/-- What has come of a pull that has ended, if its producer has given these records and then this
last event: whatever was handled has been answered, and all of it was handled exactly if nothing
was lost. If a loss has left no trace in the responses, no records were wanted or the end of the
stream was answered like the last event. -/
structure Delivered (ctx : Context σ π) (a : Actor σ π) (p : Pulling) (moves : List (Move σ))
    (c b : Actor σ π) (records : List (List Value)) (last : StreamEvent) : Prop where
  sent : ∃ kept final,
    gather ctx handles a moves = kept.map .record ++ final.toList ∧
    List.Sublist (kept.map .record ++ final.toList) (records.map .record ++ [last]) ∧
    b.outbox.accepted.reverse =
      a.outbox.accepted.reverse ++ (p.shown kept).map .record ++ [c.ending p final]
  lossless : gather ctx loses a moves = [] ↔
    gather ctx handles a moves = records.map .record ++ [last]
  complete : gather ctx loses a moves = [] →
    b.outbox.accepted.reverse =
      a.outbox.accepted.reverse ++ (p.shown records).map .record ++ [c.ending p (some last)]
  seen : p.handler.kind = .pullAll → c.ending p (some last) ≠ c.ending p none →
    b.outbox.accepted.reverse =
      a.outbox.accepted.reverse ++ (p.shown records).map .record ++ [c.ending p (some last)] →
    gather ctx loses a moves = []

theorem finished_carries {moves : List (Move σ)} (underway : Underway ctx a moves c)
    (reachable : Reachable ctx a) (hp : a.pulling = some p)
    (sendable : ∀ fields, .record fields ∈ a.ready ++ gather ctx (sends ctx) a moves →
      (Response.record fields).Sendable a.outbox.version)
    (finish : c.move? ctx (.here .pumped) = some b) (ends : b.pulling = none) :
    ∃ records last, (∀ event, last = some event → event.isRecord = false) ∧
      gather ctx handles a (moves ++ [.here .pumped]) = records.map .record ++ last.toList ∧
      gather ctx takes a (moves ++ [.here .pumped]) = gather ctx takes a moves ++ c.ready.take 1 ∧
      c.ready.take 1 = last.toList ∧
      a.ready ++ gather ctx (sends ctx) a moves = gather ctx takes a moves ++ c.ready ∧
      b.outbox.accepted.reverse =
        a.outbox.accepted.reverse ++ (p.shown records).map .record ++ [c.ending p last] := by
  obtain ⟨run, -⟩ := underway_run underway
  obtain ⟨records, q, hq, carried, handled, queue⟩ := underway_carries underway reachable hp
  have sound := reachable_sound (run_reachable reachable run)
  obtain ⟨last, finishes⟩ := move_finishes sound hq finish ends fun fields waits => by
    rw [carried.version]
    exact sendable fields (by rw [queue]; exact List.mem_append_right _ waits)
  have single {f : Actor σ π → Move σ → List StreamEvent} :
      gather ctx f a (moves ++ [.here .pumped]) = gather ctx f a moves ++ f c (.here .pumped) := by
    rw [gather_append f run, gather_cons f finish]
    simp [gather]
  refine ⟨records, last, finishes.terminal, ?_, single, finishes.taken, queue, ?_⟩
  · rw [single, handled, finishes.handled]
  · rw [finishes.accepted, List.reverse_cons, carried.sent, ending_carried carried]

theorem finished_delivered {moves : List (Move σ)} {records : List (List Value)}
    {last : StreamEvent} (underway : Underway ctx a moves c)
    (reachable : Reachable ctx a) (hp : a.pulling = some p)
    (sendable : ∀ fields, .record fields ∈ a.ready ++ gather ctx (sends ctx) a moves →
      (Response.record fields).Sendable a.outbox.version)
    (finish : c.move? ctx (.here .pumped) = some b) (ends : b.pulling = none)
    (given : a.ready ++ gather ctx (sends ctx) a moves = records.map .record ++ [last])
    (final : last.isRecord = false) :
    Delivered ctx a p (moves ++ [.here .pumped]) c b records last := by
  obtain ⟨kept, event, terminal, handled, taken, front, queue, sent⟩ :=
    finished_carries underway reachable hp sendable finish ends
  have events : records.map .record ++ [last] =
      gather ctx takes a (moves ++ [.here .pumped]) ++ c.ready.drop 1 := by
    rw [← given, queue, taken, List.append_assoc, List.take_append_drop]
  have whole (lossless : gather ctx loses a (moves ++ [.here .pumped]) = []) :
      kept = records ∧ event = some last := by
    rw [← lossless_handles lossless, handled] at events
    cases event with
    | some event =>
      simp only [Option.toList_some, List.append_assoc, List.singleton_append] at events
      obtain ⟨rfl, rfl, -⟩ := records_unique (terminal event rfl) final events.symm
      exact ⟨rfl, rfl⟩
    | none =>
      have dry : c.ready = [] := by simpa using front
      have all : kept.map StreamEvent.record = records.map .record ++ [last] := by
        simpa [dry] using events.symm
      obtain ⟨fields, -, rfl⟩ := List.mem_map.mp (all ▸ List.mem_append_right _ List.mem_cons_self)
      cases final
  have subset : List.Sublist (kept.map .record ++ event.toList)
      (records.map .record ++ [last]) := by
    rw [events, ← handled]
    exact (gather_handles _).trans (List.sublist_append_left _ _)
  have all (handled : gather ctx handles a (moves ++ [.here .pumped]) =
      records.map .record ++ [last]) : gather ctx loses a (moves ++ [.here .pumped]) = [] := by
    have parts := gather_takes ctx a (moves ++ [.here .pumped])
    have bound := congrArg List.length events
    rw [← handled, List.length_append] at bound
    exact List.eq_nil_iff_length_eq_zero.mpr (by omega)
  refine ⟨⟨kept, event, handled, subset, sent⟩, ⟨fun lossless => ?_, all⟩, fun lossless => ?_,
    fun kind distinct same => ?_⟩
  · obtain ⟨rfl, rfl⟩ := whole lossless
    exact handled
  · obtain ⟨rfl, rfl⟩ := whole lossless
    exact sent
  · rw [sent] at same
    obtain ⟨front, back⟩ := List.append_inj' same rfl
    have records_same : kept = records := by
      have rows := List.append_cancel_left front
      simp only [Pulling.shown, kind, if_true] at rows
      exact (List.map_inj_right fun _ _ => Response.record.inj).mp rows
    cases records_same
    cases event with
    | none => exact absurd (List.cons.inj back).1.symm distinct
    | some event => exact all (handled.trans (subset.eq_of_length (by simp)))

/-! ## Sample pulls -/

def sampleEvents (count : Nat) : List StreamEvent :=
  (List.replicate count []).map .record ++ [.done .empty]

def sampleGiven (events ready : List StreamEvent) (outbox : Outbox) (metrics : Metrics) :
    Actor Script.Stage Script.Run :=
  (samplePulling events outbox metrics).took
    ⟨["x"], sampleReady.cancel.token, ready, some (sampleRun [])⟩

theorem script_produces (events given : List StreamEvent) :
    ResultStream.produceOnto Script.engine 0 false events.length (sampleRun events) given =
      (events.reverse ++ given, some (sampleRun [])) := by
  induction events generalizing given with
  | nil => rfl
  | cons event events ih =>
    simp only [List.length_cons, ResultStream.produceOnto]
    exact (ih (event :: given)).trans (by simp)

theorem script_fills {events : List StreamEvent} {signal : CancelSignal}
    (few : events.length ≤ Script.capacity) (quiet : signal.isCancelled signal.token = false) :
    (ResultStream.start ["x"] signal.token (sampleRun events)).fill Script.engine 0 signal
      events.length = ⟨["x"], signal.token, events, some (sampleRun [])⟩ := by
  have room : min events.length Script.engine.capacity = events.length := Nat.min_eq_left few
  simp only [ResultStream.fill, ResultStream.start, List.length_nil, Nat.sub_zero, room, quiet,
    script_produces, List.append_nil, List.nil_append, List.reverse_reverse]

theorem sample_given (events : List StreamEvent) (few : events.length ≤ Script.capacity)
    (outbox : Outbox) (metrics : Metrics) :
    (samplePulling events outbox metrics).move? sampleContext (.here (.produced events.length)) =
      some (sampleGiven events events outbox.flush metrics) := by
  have filled := script_fills few
    (show sampleReady.cancel.isCancelled sampleReady.cancel.token = false from rfl)
  have ran : occur sampleContext (.produced events.length) (samplePulling events outbox metrics) =
      .ok .proceed ((samplePulling events outbox metrics).took
        ((ResultStream.start ["x"] sampleReady.cancel.token (sampleRun events)).fill Script.engine 0
          sampleReady.cancel events.length)) := rfl
  rw [filled] at ran
  exact move_here (o := .produced events.length) rfl ran

theorem record_bytes : (Response.record []).encode .v1 = .ok [0xB1, 0x71, 0x90] := by cbv

theorem record_empty {h : Handler} {out : Outbox} (pulls : h.Pulls) (streams : h.reply = .stream)
    (version : out.version = .v1) (chunker : out.chunker = .largest) :
    ∃ out', h.record out [] = (h.further, .ok (.sent .record, out')) ∧ out'.version = .v1 ∧
      out'.chunker = .largest ∧ out'.pending.size = out.pending.size + 7 := by
  have room : out.queue (.record []) = .ok { out with
      pending := out.pending ++ Frame.Chunker.largest.encode [0xB1, 0x71, 0x90]
      accepted := .record [] :: out.accepted } := by
    unfold Outbox.queue
    rw [version, record_bytes, chunker]
  have size : (Frame.Chunker.largest.encode [0xB1, 0x71, 0x90]).length = 7 := by cbv
  refine ⟨{ out with
    pending := out.pending ++ Frame.Chunker.largest.encode [0xB1, 0x71, 0x90]
    accepted := .record [] :: out.accepted }, ?_, version, chunker, ?_⟩
  rotate_left
  · rw [← Array.length_toList, Array.toList_appendList, List.length_append, size]
    rfl
  simp [Handler.record, pulls.unanswered, streams, room, Except.map, Handler.further]

theorem flows_empty {count : Nat} {h : Handler} {out : Outbox} (pulls : h.Pulls)
    (streams : h.reply = .stream) (version : out.version = .v1) (chunker : out.chunker = .largest)
    (few : out.pending.size + 7 * count < Outbox.flushThreshold) :
    Flows h out (List.replicate count []) := by
  induction count generalizing h out with
  | zero => trivial
  | succ count ih =>
    obtain ⟨out', recorded, version', chunker', grown⟩ :=
      record_empty pulls streams version chunker
    refine ⟨_, out', recorded, ?_, ih ⟨pulls.unanswered, pulls.reply, pulls.kind⟩ streams version'
      chunker' ?_⟩
    · simp only [Outbox.isFull, decide_eq_false_iff_not]
      omega
    · omega

theorem sample_flows (count : Nat) {out : Outbox} (version : out.version = .v1)
    (chunker : out.chunker = .largest) (few : count ≤ Act.batchSize) :
    Flows (.fresh .pullAll .stream 0) out.flush (List.replicate count []) := by
  refine flows_empty ⟨rfl, rfl, .inl rfl⟩ rfl version chunker ?_
  have small : count ≤ 256 := few
  change 0 + 7 * count < 65536
  omega

theorem sends_pumps (count : Nat) :
    gather ctx (sends ctx) a (List.replicate count (.here .pumped)) = [] := by
  induction count generalizing a with
  | zero => rfl
  | succ count ih =>
    cases moved : a.move? ctx (.here .pumped) with
    | none => simp [List.replicate_succ, gather, moved, sends]
    | some b =>
      rw [List.replicate_succ, gather_cons (sends ctx) moved, ih]
      rfl

theorem sample_at_hand (count : Nat) (few : count < Script.capacity) : ∃ start outbox metrics,
    outbox.version = .v1 ∧ outbox.chunker = .largest ∧ Reachable sampleContext start ∧
    start.move? sampleContext (.here .turn) =
      some (samplePulling (sampleEvents count) outbox metrics) ∧
    (samplePulling (sampleEvents count) outbox metrics).move? sampleContext
      (.here (.produced (count + 1))) =
      some (sampleGiven (sampleEvents count) (sampleEvents count) outbox.flush metrics) := by
  obtain ⟨start, outbox, version, chunker, run, turned⟩ := sample_turned (sampleEvents count)
  have length : (sampleEvents count).length = count + 1 := by simp [sampleEvents]
  have given := sample_given (sampleEvents count) (by omega) outbox sampleTold
  rw [length] at given
  exact ⟨start, outbox, sampleTold, version, chunker, run_reachable .fresh run, turned, given⟩

theorem sample_sends {count : Nat} (pumps : Nat) {outbox : Outbox} {metrics : Metrics}
    (reachable : Reachable sampleContext (samplePulling (sampleEvents count) outbox metrics))
    (given : (samplePulling (sampleEvents count) outbox metrics).move? sampleContext
      (.here (.produced (count + 1))) =
        some (sampleGiven (sampleEvents count) (sampleEvents count) outbox.flush metrics)) :
    (samplePulling (sampleEvents count) outbox metrics).ready ++
      gather sampleContext (sends sampleContext) (samplePulling (sampleEvents count) outbox metrics)
        (.here (.produced (count + 1)) :: List.replicate pumps (.here .pumped)) =
      sampleEvents count := by
  obtain ⟨-, -, -, -, -, queue⟩ := underway_carries (.move rfl given (.still rfl)) reachable rfl
  rw [gather_cons (sends sampleContext) given] at queue ⊢
  rw [sends_pumps]
  exact queue

theorem sample_sendable {count : Nat} (pumps : Nat) {outbox : Outbox} {metrics : Metrics}
    (reachable : Reachable sampleContext (samplePulling (sampleEvents count) outbox metrics))
    (version : outbox.version = .v1)
    (given : (samplePulling (sampleEvents count) outbox metrics).move? sampleContext
      (.here (.produced (count + 1))) =
        some (sampleGiven (sampleEvents count) (sampleEvents count) outbox.flush metrics)) :
    ∀ fields, .record fields ∈ (samplePulling (sampleEvents count) outbox metrics).ready ++
      gather sampleContext (sends sampleContext) (samplePulling (sampleEvents count) outbox metrics)
        (.here (.produced (count + 1)) :: List.replicate pumps (.here .pumped)) →
      (Response.record fields).Sendable outbox.version := by
  intro fields among
  rw [sample_sends pumps reachable given] at among
  have empty : ¬count = 0 ∧ fields = [] := by simpa [sampleEvents] using among
  rw [empty.2, version]
  exact ⟨_, record_bytes⟩

theorem sample_ending {c : Actor Script.Stage Script.Run} (version : c.session.version = .v1)
    (now : c.now = 0) :
    (c.ending ⟨.fresh .pullAll .stream 0, .ready⟩ (some (.done .empty))).Sendable .v1 := by
  have told : Act.summary .v1 (.fresh .pullAll .stream 0) 0 .empty =
      ⟨[("type", .string "r"), ("result_consumed_after", .integer 0)]⟩ := rfl
  change (Response.success
    (Act.summary c.session.version (.fresh .pullAll .stream 0) c.now .empty)).Sendable .v1
  rw [version, now, told]
  refine ⟨?_, ?_⟩
  rotate_left
  · cbv
    rfl

/-! ## What a pull delivers -/

/-- A pull goes on as long as an event is at hand and can be answered. When it has ended, it has
sent what it has handled, and this is all that the producer has given exactly if nothing was lost.
An event is lost only if it is at hand when its batch has handled as many as it may. -/
theorem pull_delivers {start : Actor σ π} {moves : List (Move σ)} (reachable : Reachable ctx start)
    (turned : start.move? ctx (.here .turn) = some a) (hp : a.pulling = some p)
    (underway : Underway ctx a moves c)
    (sendable : ∀ fields, .record fields ∈ a.ready ++ gather ctx (sends ctx) a moves →
      (Response.record fields).Sendable a.outbox.version) :
    p.handler.Pulls ∧
    (∀ event rest, c.ready = event :: rest →
      (event.isRecord = false → (c.ending p (some event)).Sendable a.outbox.version) →
      ∃ b, c.move? ctx (.here .pumped) = some b) ∧
    (∀ b records last, c.move? ctx (.here .pumped) = some b → b.pulling = none →
      a.ready ++ gather ctx (sends ctx) a moves = records.map .record ++ [last] →
      last.isRecord = false →
      Delivered ctx a p (moves ++ [.here .pumped]) c b records last) ∧
    ∀ early late d move, moves = early ++ late → a.run? ctx early = some d → d.loses move ≠ [] →
      ∃ before inside e, early = before ++ inside ∧ a.run? ctx before = some e ∧ e.batch = none ∧
        (gather ctx handles e inside).length = Act.batchSize := by
  have here := reachable.move turned
  refine ⟨(reachable_sound here).pulls p hp, ?_, ?_, ?_⟩
  · intro event rest waits terminal
    exact underway_goes_on underway here hp sendable waits terminal
  · intro b records last finish ends given final
    exact finished_delivered underway here hp sendable finish ends given final
  · rintro early late d move rfl run lost
    exact lost_full (turned_batch reachable turned) (underway_split underway run).1 lost

theorem sample_delivers : ∃ start a b c : Actor Script.Stage Script.Run, ∃ p moves,
    Reachable sampleContext start ∧ start.move? sampleContext (.here .turn) = some a ∧
    a.pulling = some p ∧ Underway sampleContext a moves c ∧
    c.move? sampleContext (.here .pumped) = some b ∧ b.pulling = none ∧
    Delivered sampleContext a p (moves ++ [.here .pumped]) c b [[]] (.done .empty) := by
  obtain ⟨start, outbox, metrics, version, chunker, reachable, turned, given⟩ :=
    sample_at_hand 1 (by decide)
  have here := reachable.move turned
  have events_split : sampleEvents 1 = [[]].map .record ++ [.done .empty] := rfl
  obtain ⟨out, q, batch, pumps, left⟩ := batch_handles sampleContext
    (a := sampleGiven (sampleEvents 1) (sampleEvents 1) outbox.flush metrics) rfl rfl rfl
    events_split (sample_flows 1 version chunker (by decide)) (show 1 ≤ 256 by decide)
  have underway := Underway.move rfl given pumps
  have events := sample_sends 1 here given
  have sendable := sample_sendable 1 here version given
  obtain ⟨-, goes, outcome, -⟩ := pull_delivers reachable turned rfl underway sendable
  obtain ⟨b, finish⟩ := goes _ _ rfl fun _ => version ▸ sample_ending rfl rfl
  have open_ : batch ≠ some 0 := by
    rcases left with none_ | left
    · cases none_
    · rw [left]
      change some 255 ≠ some 0
      decide
  have ends := terminal_ends
    (reachable_sound (run_reachable here (underway_run underway).1)) rfl rfl rfl open_ finish
  exact ⟨start, _, b, _, _, _, reachable, turned, rfl, underway, finish, ends,
    outcome b _ _ finish ends events rfl⟩

/-- A pull of one record more than a batch has room for does not send all of them if they are at
hand at once. -/
theorem sample_loses : ∃ start a b c : Actor Script.Stage Script.Run, ∃ p moves records last,
    Reachable sampleContext start ∧ start.move? sampleContext (.here .turn) = some a ∧
    a.pulling = some p ∧ Underway sampleContext a moves c ∧
    c.move? sampleContext (.here .pumped) = some b ∧ b.pulling = none ∧
    (∀ fields, .record fields ∈ a.ready ++ gather sampleContext (sends sampleContext) a moves →
      (Response.record fields).Sendable a.outbox.version) ∧
    a.ready ++ gather sampleContext (sends sampleContext) a moves =
      records.map .record ++ [last] ∧ last.isRecord = false ∧
    b.outbox.accepted.reverse ≠
      a.outbox.accepted.reverse ++ (p.shown records).map .record ++ [c.ending p (some last)] := by
  obtain ⟨start, outbox, metrics, version, chunker, reachable, turned, given⟩ :=
    sample_at_hand (Act.batchSize + 1) (by decide)
  have here := reachable.move turned
  have events_split : sampleEvents (Act.batchSize + 1) =
      (List.replicate Act.batchSize []).map .record ++ .record [] :: [.done .empty] := by
    rw [sampleEvents, List.replicate_succ', List.map_append, List.append_assoc]
    rfl
  obtain ⟨out, q, pumps, lost⟩ := whole_batch_loses sampleContext
    (a := sampleGiven (sampleEvents (Act.batchSize + 1)) (sampleEvents (Act.batchSize + 1))
      outbox.flush metrics)
    rfl rfl rfl List.length_replicate rfl events_split
    (sample_flows Act.batchSize version chunker (Nat.le_refl _))
  have underway := Underway.move rfl given pumps
  have events := sample_sends (Act.batchSize + 1) here given
  have sendable := sample_sendable (Act.batchSize + 1) here version given
  obtain ⟨b, finish⟩ := underway_goes_on underway here rfl sendable rfl
    fun _ => version ▸ sample_ending rfl rfl
  have ends := terminal_ends
    (reachable_sound (run_reachable here (underway_run underway).1)) rfl rfl rfl (by simp) finish
  have delivered := finished_delivered underway here rfl sendable finish ends events rfl
  refine ⟨start, _, b, _, _, _, _, _, reachable, turned, rfl, underway, finish, ends, sendable,
    events, rfl, fun same => ?_⟩
  have lossless := delivered.seen rfl (by intro h; cases h) same
  rw [gather_append loses (underway_run underway).1, gather_cons loses given] at lossless
  simp only [List.append_eq_nil_iff] at lossless
  rw [lossless.1.2] at lost
  cases lost

end Actor

end GraphProtocol
