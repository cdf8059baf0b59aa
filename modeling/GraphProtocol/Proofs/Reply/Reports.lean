import GraphProtocol.Proofs.Connection.Inbox
import GraphProtocol.Reply.Handler

/-!
# Reports on a request

The outcome of a request is reported to its handler piece by piece. Whatever is reported, and
whichever responses the version refuses, the handler queues the records that come before the end of
the request, if they are wanted, and then one response for the end; what is reported later is
without effect.
-/

set_option autoImplicit false

namespace GraphProtocol

/-! ## One report -/

inductive Report where
  | record (fields : List Value)
  | success (metadata : Dict Value)
  | failure (failure : Failure)
  | ignored

namespace Report

def response : Report → Response
  | record fields => .record fields
  | success metadata => .success metadata
  | failure f => .failure f
  | ignored => .ignored

def isRecord : Report → Bool
  | record _ => true
  | _ => false

end Report

def ReplyStrategy.conveys (reply : ReplyStrategy) (r : Report) : Bool :=
  if r.isRecord then reply == .stream else reply != .silent

/-- A handler at work, and the outbox that it queues responses in. -/
structure Desk where
  handler : Handler
  outbox : Outbox

namespace Desk

def outcome (d : Desk) : Report → Handler × Handler.Outcome
  | .record fields => d.handler.record d.outbox fields
  | .success metadata => d.handler.success d.outbox metadata
  | .failure f => d.handler.failure d.outbox f
  | .ignored => d.handler.ignored d.outbox

def answer (d : Desk) (r : Report) : Except (Abort ProtocolError) Delivery :=
  (d.outcome r).2.map Prod.fst

def take (d : Desk) (r : Report) : Desk where
  handler := (d.outcome r).1
  outbox := match (d.outcome r).2 with
    | .ok (_, outbox) => outbox
    | .error _ => d.outbox

def takeAll (d : Desk) (reports : List Report) : Desk := reports.foldl take d

def noted (d : Desk) (r : Report) : Handler :=
  if r.isRecord = true then { d.handler with records := d.handler.records + 1 }
  else { d.handler with done := true }

inductive Took (d : Desk) (r : Report) : Except (Abort ProtocolError) Delivery → Desk → Prop
  | late : d.handler.done = true → d.Took r (.ok .dropped) d
  | withheld : d.handler.done = false → d.handler.reply.conveys r = false →
      d.Took r (.ok .dropped) ⟨d.noted r, d.outbox⟩
  | sent {outbox : Outbox} : d.handler.done = false → d.handler.reply.conveys r = true →
      d.outbox.queue r.response = .ok outbox →
      d.Took r (.ok (.sent r.response.kind)) ⟨d.noted r, outbox⟩
  | refused {e : Abort ProtocolError} : d.handler.done = false → d.handler.reply.conveys r = true →
      d.outbox.queue r.response = .error e → d.Took r (.error e) ⟨d.noted r, d.outbox⟩

section

variable {d : Desk} {r : Report}

theorem outcome_late (finished : d.handler.done = true) :
    d.outcome r = (d.handler, .ok (.dropped, d.outbox)) := by
  cases r with
  | record fields => simp [outcome, Handler.record, finished]
  | success | failure | ignored =>
    simp [outcome, Handler.success, Handler.failure, Handler.ignored, Handler.terminal, finished]

theorem outcome_withheld (waits : d.handler.done = false)
    (kept : d.handler.reply.conveys r = false) :
    d.outcome r = (d.noted r, .ok (.dropped, d.outbox)) := by
  cases r with
  | record fields =>
    cases reply : d.handler.reply <;>
      simp_all [outcome, Handler.record, noted, Report.isRecord, ReplyStrategy.conveys]
  | success | failure | ignored =>
    simp_all [outcome, Handler.success, Handler.failure, Handler.ignored, Handler.terminal, noted,
      Report.isRecord, ReplyStrategy.conveys]

theorem outcome_conveyed (waits : d.handler.done = false)
    (wanted : d.handler.reply.conveys r = true) :
    d.outcome r = (d.noted r,
      (d.outbox.queue r.response).map fun out => (.sent r.response.kind, out)) := by
  cases r with
  | record fields =>
    simp_all [outcome, Handler.record, noted, Report.isRecord, ReplyStrategy.conveys,
      Report.response, Response.kind]
  | success | failure | ignored =>
    cases reply : d.handler.reply <;>
      simp_all [outcome, Handler.success, Handler.failure, Handler.ignored, Handler.terminal,
        noted, Report.isRecord, ReplyStrategy.conveys, Report.response]

theorem took (d : Desk) (r : Report) : d.Took r (d.answer r) (d.take r) := by
  unfold answer take
  by_cases finished : d.handler.done = true
  · rw [outcome_late finished]
    exact .late finished
  have waits : d.handler.done = false := by simpa using finished
  by_cases wanted : d.handler.reply.conveys r = true
  · rw [outcome_conveyed waits wanted]
    cases queued : d.outbox.queue r.response with
    | ok outbox => exact .sent waits wanted queued
    | error e => exact .refused waits wanted queued
  · have kept : d.handler.reply.conveys r = false := by simpa using wanted
    rw [outcome_withheld waits kept]
    exact .withheld waits kept

/-- A report that comes too late has no effect. -/
theorem take_late (finished : d.handler.done = true) :
    d.answer r = .ok .dropped ∧ d.take r = d := by
  unfold answer take
  rw [outcome_late finished]
  exact ⟨rfl, rfl⟩

theorem take_handler (waits : d.handler.done = false) : (d.take r).handler = d.noted r := by
  have took := d.took r
  generalize d.answer r = answer at took
  generalize d.take r = after at took ⊢
  cases took with
  | late finished => simp [waits] at finished
  | withheld | sent | refused => rfl

theorem noted_reply : (d.noted r).reply = d.handler.reply := by
  unfold noted
  split <;> rfl

theorem take_reply : (d.take r).handler.reply = d.handler.reply := by
  by_cases finished : d.handler.done = true
  · rw [(take_late finished).2]
  · rw [take_handler (by simpa using finished), noted_reply]

theorem take_version : (d.take r).outbox.version = d.outbox.version := by
  have took := d.took r
  generalize d.answer r = answer at took
  generalize d.take r = after at took ⊢
  cases took with
  | late | withheld | refused => rfl
  | sent _ _ queued => exact (queue_accepted queued).2

/-- A response is counted as sent if and only if the report has put it into the outbox. -/
theorem take_delivers (d : Desk) (r : Report) :
    (∀ kind, d.answer r = .ok (.sent kind) ↔ kind = r.response.kind ∧
      (d.take r).outbox.accepted = r.response :: d.outbox.accepted) ∧
    ((∀ kind, d.answer r ≠ .ok (.sent kind)) → (d.take r).outbox = d.outbox) := by
  have took := d.took r
  generalize d.take r = after at took ⊢
  generalize d.answer r = answer at took ⊢
  cases took with
  | late | withheld | refused => simp
  | sent _ _ queued =>
    have accepted := (queue_accepted queued).1
    refine ⟨fun kind => ?_, fun unsent => absurd rfl (unsent r.response.kind)⟩
    simp [accepted, eq_comm]

/-! ## Reports one after another -/

variable {reports : List Report}

theorem takeAll_append (d : Desk) (early late : List Report) :
    d.takeAll (early ++ late) = (d.takeAll early).takeAll late :=
  List.foldl_append

theorem takeAll_late (finished : d.handler.done = true) : d.takeAll reports = d := by
  induction reports with
  | nil => rfl
  | cons r rest ih =>
    rw [takeAll, List.foldl_cons, (take_late finished).2]
    exact ih

theorem takeAll_reply : (d.takeAll reports).handler.reply = d.handler.reply := by
  induction reports generalizing d with
  | nil => rfl
  | cons r rest ih => exact (ih (d := d.take r)).trans take_reply

theorem takeAll_version : (d.takeAll reports).outbox.version = d.outbox.version := by
  induction reports generalizing d with
  | nil => rfl
  | cons r rest ih => exact (ih (d := d.take r)).trans take_version

/-- While only records are reported, the request goes on, whether or not they can be sent. -/
theorem takeAll_waits (waits : d.handler.done = false)
    (records : ∀ r ∈ reports, r.isRecord = true) : (d.takeAll reports).handler.done = false := by
  induction reports generalizing d with
  | nil => exact waits
  | cons r rest ih =>
    obtain ⟨first, records⟩ := List.forall_mem_cons.mp records
    refine ih ?_ records
    rw [take_handler waits, noted, if_pos first]
    exact waits

theorem takeAll_ended {early late : List Report} (last : r.isRecord = false) :
    (d.takeAll (early ++ r :: late)).handler.done = true := by
  rw [takeAll_append, takeAll, List.foldl_cons]
  have finished : ((d.takeAll early).take r).handler.done = true := by
    by_cases before : (d.takeAll early).handler.done = true
    · rw [(take_late before).2, before]
    · rw [take_handler (by simpa using before), noted, if_neg (by simp [last])]
  rw [← takeAll, takeAll_late finished, finished]

end

end Desk

/-! ## What is queued -/

/-- The responses of the records reported before the end, if records are wanted, and the response of
the first report that is no record, if any response is. -/
def ReplyStrategy.due (reply : ReplyStrategy) (reports : List Report) : List Response :=
  (if reply = .stream then (reports.takeWhile Report.isRecord).map Report.response else []) ++
    if reply = .silent then []
    else ((reports.find? fun r => !r.isRecord).map Report.response).toList

def encodable (version : Version) (responses : List Response) : List Response :=
  responses.filter fun r => (r.encode version).isOk

def Outbox.queueAll (o : Outbox) (responses : List Response) :
    Except (Abort ProtocolError) Outbox :=
  responses.foldlM Outbox.queue o

theorem queue_isOk (o : Outbox) (r : Response) :
    (o.queue r).isOk = (r.encode o.version).isOk := by
  unfold Outbox.queue
  cases r.encode o.version <;> rfl

theorem queueAll_append {o middle : Outbox} {early late : List Response}
    (first : o.queueAll early = .ok middle) :
    o.queueAll (early ++ late) = middle.queueAll late := by
  unfold Outbox.queueAll at first ⊢
  rw [List.foldlM_append, first]
  rfl

theorem queueAll_accepted {o after : Outbox} {responses : List Response}
    (queued : o.queueAll responses = .ok after) :
    after.accepted = responses.reverse ++ o.accepted := by
  induction responses generalizing o with
  | nil =>
    cases queued
    rfl
  | cons r rest ih =>
    obtain ⟨middle, first, further⟩ := except_bind_ok queued
    rw [ih further, (queue_accepted first).1, List.reverse_cons, List.append_assoc]
    rfl

section

variable {reply : ReplyStrategy} {r : Report} {reports : List Report}

theorem due_record (goesOn : r.isRecord = true) :
    reply.due (r :: reports) =
      (if reply.conveys r = true then [r.response] else []) ++ reply.due reports := by
  unfold ReplyStrategy.due ReplyStrategy.conveys
  cases reply <;> simp [goesOn]

theorem due_last (ends : r.isRecord = false) :
    reply.due (r :: reports) = if reply.conveys r = true then [r.response] else [] := by
  unfold ReplyStrategy.due ReplyStrategy.conveys
  cases reply <;> simp [ends]

end

namespace Desk

variable {d : Desk} {r : Report} {reports : List Report}

/-- A report queues its response if that is wanted and can be carried. -/
theorem take_queued (waits : d.handler.done = false) :
    d.outbox.queueAll (encodable d.outbox.version
      (if d.handler.reply.conveys r = true then [r.response] else [])) = .ok (d.take r).outbox := by
  have took := d.took r
  generalize d.answer r = answer at took
  generalize d.take r = after at took ⊢
  cases took with
  | late finished => simp [waits] at finished
  | withheld _ kept =>
    rw [if_neg (by simp [kept])]
    rfl
  | sent _ wanted queued =>
    have encodes : (r.response.encode d.outbox.version).isOk = true := by
      rw [← queue_isOk, queued]
      rfl
    rw [if_pos wanted]
    simp [encodable, encodes, Outbox.queueAll, queued]
  | refused _ wanted refused =>
    have fails : (r.response.encode d.outbox.version).isOk = false := by
      rw [← queue_isOk, refused]
      rfl
    rw [if_pos wanted]
    simp [encodable, fails, Outbox.queueAll]
    rfl

/-- A report that is passed on and can be carried is answered as sent. -/
theorem answer_sent (waits : d.handler.done = false) (wanted : d.handler.reply.conveys r = true)
    (encodes : (r.response.encode d.outbox.version).isOk = true) :
    d.answer r = .ok (.sent r.response.kind) := by
  rw [← queue_isOk] at encodes
  unfold answer
  rw [outcome_conveyed waits wanted]
  cases queued : d.outbox.queue r.response with
  | ok outbox => rfl
  | error e =>
    rw [queued] at encodes
    cases encodes

/-- The reports on a request queue what is due, as far as it can be carried. -/
theorem takeAll_queued (reports : List Report) (waits : d.handler.done = false) :
    d.outbox.queueAll (encodable d.outbox.version (d.handler.reply.due reports)) =
      .ok (d.takeAll reports).outbox := by
  induction reports generalizing d with
  | nil => cases reply : d.handler.reply <;> rfl
  | cons r rest ih =>
    have first := take_queued (r := r) waits
    have further : d.takeAll (r :: rest) = (d.take r).takeAll rest := rfl
    rw [further]
    cases goesOn : r.isRecord with
    | true =>
      have still : (d.take r).handler.done = false := by
        rw [take_handler waits, noted, if_pos goesOn]
        exact waits
      have later := ih still
      rw [take_reply, take_version] at later
      rw [due_record goesOn, encodable, List.filter_append, ← encodable, ← encodable,
        queueAll_append first, later]
    | false =>
      have ended : (d.take r).handler.done = true := by
        rw [take_handler waits, noted, if_neg (by simp [goesOn])]
      rw [due_last goesOn, takeAll_late ended, first]

theorem takeAll_counted (waits : d.handler.done = false) :
    (d.takeAll reports).handler.records =
      d.handler.records + (reports.takeWhile Report.isRecord).length := by
  induction reports generalizing d with
  | nil => rfl
  | cons r rest ih =>
    have further : d.takeAll (r :: rest) = (d.take r).takeAll rest := rfl
    rw [further]
    cases goesOn : r.isRecord with
    | true =>
      have counted : (d.take r).handler = { d.handler with records := d.handler.records + 1 } := by
        rw [take_handler waits, noted, if_pos goesOn]
      rw [ih (by rw [counted]; exact waits), counted, List.takeWhile_cons_of_pos goesOn,
        List.length_cons, Nat.add_assoc, Nat.add_comm 1]
    | false =>
      have ended : (d.take r).handler = { d.handler with done := true } := by
        rw [take_handler waits, noted, if_neg (by simp [goesOn])]
      rw [takeAll_late (by rw [ended]), ended, List.takeWhile_cons_of_neg (by simp [goesOn])]
      rfl

/-- How a handler that has been told nothing yet answers whatever it is told. -/
structure Answers (d : Desk) : Prop where
  /-- What is due is queued, as far as it can be carried, and nothing else. -/
  queued : ∀ reports, let sent := encodable d.outbox.version (d.handler.reply.due reports)
    d.outbox.queueAll sent = .ok (d.takeAll reports).outbox ∧
      (d.takeAll reports).outbox.accepted = sent.reverse ++ d.outbox.accepted
  /-- The records before the end are counted, sent or not. -/
  counted : ∀ reports, (d.takeAll reports).handler.records =
    (reports.takeWhile Report.isRecord).length
  /-- After the end every report is dropped and changes nothing, even if the response for the end
  could not be sent. -/
  late : ∀ early last between r, last.isRecord = false →
    (d.takeAll (early ++ last :: between)).answer r = .ok .dropped ∧
      (d.takeAll (early ++ last :: between)).take r = d.takeAll (early ++ last :: between)
  /-- The reports that are answered as sent are those whose response is then in the outbox. -/
  delivered : ∀ early r,
    (∀ kind, (d.takeAll early).answer r = .ok (.sent kind) ↔ kind = r.response.kind ∧
      ((d.takeAll early).take r).outbox.accepted =
        r.response :: (d.takeAll early).outbox.accepted) ∧
    ((∀ kind, (d.takeAll early).answer r ≠ .ok (.sent kind)) →
      ((d.takeAll early).take r).outbox = (d.takeAll early).outbox)
  /-- However many of the records could not be sent, the end of the request still can be. -/
  open_ : ∀ early, (∀ r ∈ early, r.isRecord = true) → (d.takeAll early).handler.done = false ∧
    ∀ last, last.isRecord = false → d.handler.reply ≠ .silent →
      (last.response.encode d.outbox.version).isOk = true →
      (d.takeAll early).answer last = .ok (.sent last.response.kind)

end Desk

/-- A new handler queues the records before the end of the request, if they are wanted, and one
response for the end, and whatever comes later is without effect. -/
theorem reports_answered (kind : RequestKind) (reply : ReplyStrategy) (now : Instant)
    (outbox : Outbox) : (Desk.mk (.fresh kind reply now) outbox).Answers where
  queued reports := by
    have queued := Desk.takeAll_queued (d := ⟨.fresh kind reply now, outbox⟩) reports rfl
    exact ⟨queued, queueAll_accepted queued⟩
  counted reports := by
    rw [Desk.takeAll_counted rfl]
    exact Nat.zero_add _
  late early last between r ends := Desk.take_late (Desk.takeAll_ended ends)
  delivered early r := Desk.take_delivers _ r
  open_ early records := by
    have waits := Desk.takeAll_waits (d := ⟨.fresh kind reply now, outbox⟩) rfl records
    refine ⟨waits, fun last ends loud encodes => Desk.answer_sent waits ?_ ?_⟩
    · rw [Desk.takeAll_reply, ReplyStrategy.conveys, if_neg (by simp [ends])]
      exact bne_iff_ne.mpr loud
    · rw [Desk.takeAll_version]
      exact encodes

def sampleReports : List Report :=
  [.record [.integer 1], .record [.bytes [2]], .success (Dict.empty.insert "b" (.bytes [3])),
    .record [.integer 4], .ignored]

def sampleDesk : Desk := ⟨.fresh .pullAll .stream 0, .fresh .v1 .largest⟩

theorem sample_due : encodable .v1 (ReplyStrategy.stream.due sampleReports) =
    [.record [.integer 1]] := by
  cbv

theorem sample_reports :
    (sampleDesk.takeAll sampleReports).outbox.accepted = [.record [.integer 1]] ∧
    (sampleDesk.takeAll sampleReports).handler.records = 2 ∧
    (sampleDesk.takeAll (sampleReports.take 4)).answer .ignored = .ok .dropped ∧
    (sampleDesk.takeAll (sampleReports.take 2)).answer .ignored = .ok (.sent .ignored) := by
  have answers : sampleDesk.Answers := reports_answered .pullAll .stream 0 (.fresh .v1 .largest)
  have queued := (answers.queued sampleReports).2
  have due : encodable sampleDesk.outbox.version (sampleDesk.handler.reply.due sampleReports) =
      [.record [.integer 1]] := sample_due
  rw [due] at queued
  have late := answers.late [.record [.integer 1], .record [.bytes [2]]]
    (.success (Dict.empty.insert "b" (.bytes [3]))) [.record [.integer 4]] .ignored rfl
  have waits := answers.open_ (sampleReports.take 2) (by decide)
  exact ⟨queued, answers.counted sampleReports, late.1,
    waits.2 .ignored rfl (by decide) (by decide)⟩

end GraphProtocol
