import GraphProtocol.Proofs.Frame.Reassembly

/-!
# One stream, any cut

What the receiver comes to depends on the bytes of a stream alone, well formed or not. A
search for a message takes chunks one by one, until the next is not whole, is refused or ends a
message. Of these only the first changes with further bytes, and the search then goes on as
if they had been there. So a search commutes with what arrives, and whole messages can be asked
for at any time, or all at the end.
-/

set_option autoImplicit false

namespace GraphProtocol.Frame.Dechunker

/-- What asking for a message comes to: a message, nothing yet or a refusal, and the receiver
after it. -/
abbrev Outcome := Except ProtocolError (Option (List UInt8)) × Dechunker

/-! ## One search -/

def announced (high low : UInt8) : Nat := high.toNat * 256 + low.toNat

inductive Turn : Dechunker → Dechunker → Prop
  | empty {rest : List UInt8} {max : Nat} : Turn ⟨endOfMessage ++ rest, #[], max⟩ ⟨rest, #[], max⟩
  | taken {high low : UInt8} {body rest : List UInt8} {message : Array UInt8} {max : Nat} :
      announced high low ≠ 0 → message.size + announced high low ≤ max →
      body.length = announced high low →
      Turn ⟨high :: low :: (body ++ rest), message, max⟩ ⟨rest, message ++ body, max⟩

inductive Settles : Dechunker → Outcome → Prop
  | short {buffer : List UInt8} {message : Array UInt8} {max : Nat} : buffer.length < 2 →
      Settles ⟨buffer, message, max⟩ (.ok none, ⟨buffer, message, max⟩)
  | lacking {high low : UInt8} {rest : List UInt8} {message : Array UInt8} {max : Nat} :
      announced high low ≠ 0 → message.size + announced high low ≤ max →
      rest.length < announced high low →
      Settles ⟨high :: low :: rest, message, max⟩ (.ok none, ⟨high :: low :: rest, message, max⟩)
  | ended {rest : List UInt8} {message : Array UInt8} {max : Nat} : message ≠ #[] →
      Settles ⟨endOfMessage ++ rest, message, max⟩ (.ok (some message.toList), ⟨rest, #[], max⟩)
  | refused {high low : UInt8} {rest : List UInt8} {message : Array UInt8} {max : Nat} :
      announced high low ≠ 0 → max < message.size + announced high low →
      Settles ⟨high :: low :: rest, message, max⟩
        (.error (.frameTooLarge (message.size + announced high low) max),
          ⟨high :: low :: rest, message, max⟩)

/-- A search is turns, and then an outcome. -/
inductive Searches : Dechunker → Outcome → Prop
  | settled {d : Dechunker} {outcome : Outcome} : Settles d outcome → Searches d outcome
  | turn {d d' : Dechunker} {outcome : Outcome} : Turn d d' → Searches d' outcome →
      Searches d outcome

section Searches

variable {d d' : Dechunker} {outcome : Outcome}

theorem next_turn (turn : Turn d d') : d.next = d'.next := by
  cases turn with
  | empty => exact next_empty
  | taken filled fits whole =>
    rw [← whole] at filled fits
    unfold announced at whole
    rw [next.eq_def]
    simp only [filled, Nat.not_lt.mpr fits, ← whole, List.take_left, List.drop_left, if_false,
      Nat.lt_irrefl]

theorem next_settled (settles : Settles d outcome) : d.next = outcome := by
  cases settles with
  | short short => exact next_short short
  | @lacking high low rest message max filled fits lacking =>
    have short : (rest.take (announced high low)).length < announced high low :=
      (List.length_take_le' _ _).trans_lt lacking
    unfold announced at *
    rw [next.eq_def]
    simp only [filled, Nat.not_lt.mpr fits, short, if_false, if_true]
  | ended filled => exact next_ended filled
  | refused filled large =>
    unfold announced at *
    rw [next.eq_def]
    simp only [filled, large, if_false, if_true]

/-- A header that announces nothing ends a message. -/
theorem announced_zero {high low : UInt8} (ended : announced high low = 0) (rest : List UInt8) :
    high :: low :: rest = endOfMessage ++ rest := by
  unfold announced at ended
  have first : high = 0 := UInt8.toNat_inj.mp (by simpa using (by omega : high.toNat = 0))
  have second : low = 0 := UInt8.toNat_inj.mp (by simpa using (by omega : low.toNat = 0))
  rw [first, second]
  rfl

theorem next_searches (d : Dechunker) : Searches d d.next := by
  fun_induction next d with
  | case1 high low rest message max length ended empty ih =>
    rw [announced_zero ended]
    cases Array.isEmpty_iff.mp empty
    exact .turn .empty ih
  | case2 high low rest message max length ended filled =>
    rw [announced_zero ended]
    exact .settled (.ended (mt Array.isEmpty_iff.mpr filled))
  | case3 high low rest message max length filled large => exact .settled (.refused filled large)
  | case4 high low rest message max length filled fits body lacking =>
    rw [List.length_take] at lacking
    have lacking : rest.length < length :=
      (min_lt_iff.mp lacking).resolve_left (Nat.lt_irrefl _)
    exact .settled (.lacking filled (Nat.not_lt.mp fits) lacking)
  | case5 high low rest message max length filled fits body whole ih =>
    have counted : body.length = length :=
      Nat.le_antisymm (List.length_take_le _ _) (Nat.not_lt.mp whole)
    have turn : Turn ⟨high :: low :: (body ++ rest.drop length), message, max⟩ _ :=
      .taken filled (Nat.not_lt.mp fits) counted
    rw [List.take_append_drop] at turn
    exact .turn turn ih
  | case6 d long =>
    obtain ⟨buffer, message, max⟩ := d
    apply Searches.settled
    apply Settles.short
    rcases buffer with - | ⟨high, - | ⟨low, rest⟩⟩
    · exact Nat.two_pos
    · exact Nat.one_lt_two
    · exact (long high low rest message max rfl).elim

end Searches

section Next

variable {d d' last : Dechunker} {outcome : Outcome} {message : List UInt8} {e : ProtocolError}

/-! ## Further bytes -/

/-- What an outcome is once further bytes have arrived. Only a search that waits is taken up
again. -/
def resumed (bytes : List UInt8) : Outcome → Outcome
  | (.ok none, d) => (d.extend bytes).next
  | (outcome, d) => (outcome, d.extend bytes)

theorem turn_extend (turn : Turn d d') (bytes : List UInt8) :
    Turn (d.extend bytes) (d'.extend bytes) := by
  cases turn with
  | empty => exact .empty
  | @taken high low body rest message max filled fits whole =>
    unfold extend
    rw [List.cons_append, List.cons_append, List.append_assoc]
    exact .taken filled fits whole

theorem settles_extend (settles : Settles d outcome) (bytes : List UInt8) :
    (d.extend bytes).next = resumed bytes outcome := by
  cases settles with
  | short | lacking => rfl
  | ended filled => exact next_ended filled
  | refused filled large => exact next_settled (.refused filled large)

theorem next_extend (d : Dechunker) (bytes : List UInt8) :
    (d.extend bytes).next = resumed bytes d.next := by
  have searches := next_searches d
  generalize d.next = outcome at searches
  induction searches with
  | settled settles => exact settles_extend settles bytes
  | turn turn _ ih => rw [next_turn (turn_extend turn bytes), ih]

/-! ## What a search leaves -/

/-- A refusal stands before a chunk that would make the message too large. -/
theorem next_refused (refused : d.next = (.error e, last)) : Settles last (.error e, last) := by
  have searches := next_searches d
  generalize d.next = outcome at searches refused
  induction searches with
  | settled settles =>
    cases settles with
    | short | lacking | ended => cases refused
    | refused filled large =>
      cases refused
      exact .refused filled large
  | turn _ _ ih => exact ih refused

/-- A refusal is repeated, also after further bytes. -/
theorem next_again (refused : d.next = (.error e, last)) (bytes : List UInt8) :
    (last.extend bytes).next = (.error e, last.extend bytes) :=
  settles_extend (next_refused refused) bytes

def bare : Outcome → Outcome
  | (.error _, d) => (.ok none, { d with buffer := [] })
  | (outcome, d) => (outcome, { d with buffer := [] })

/-- A search comes to its outcome by the bytes that it takes. -/
theorem next_front (d : Dechunker) : ∃ front, d.buffer = front ++ d.next.2.buffer ∧
    next { d with buffer := front } = bare d.next := by
  have searches := next_searches d
  generalize d.next = outcome at searches
  induction searches with
  | settled settles =>
    cases settles with
    | short | lacking | refused => exact ⟨[], rfl, next_short Nat.two_pos⟩
    | @ended rest message max filled =>
      exact ⟨endOfMessage, rfl, next_settled (.ended filled)⟩
  | turn turn _ ih =>
    obtain ⟨front, split, found⟩ := ih
    cases turn with
    | empty =>
      refine ⟨endOfMessage ++ front, ?_, ?_⟩
      · rw [List.append_assoc, ← split]
      · exact next_empty.trans found
    | @taken high low body rest message max filled fits whole =>
      refine ⟨high :: low :: (body ++ front), ?_, ?_⟩
      · rw [List.cons_append, List.cons_append, List.append_assoc, ← split]
      · exact (next_turn (.taken filled fits whole)).trans found

/-! ## Sizes -/

def Within (max : Nat) (d : Dechunker) : Prop := d.maxMessageSize = max ∧ d.message.size ≤ max

variable {max : Nat}

theorem fresh_within : (fresh max).Within max := ⟨rfl, Nat.zero_le _⟩

theorem extend_within (within : d.Within max) (bytes : List UInt8) :
    (d.extend bytes).Within max := within

theorem turn_within (within : d.Within max) (turn : Turn d d') : d'.Within max := by
  cases turn with
  | empty => exact within
  | @taken _ _ body _ message _ _ fits whole =>
    obtain ⟨rfl, -⟩ := within
    refine ⟨rfl, ?_⟩
    rw [← whole, ← Array.length_toList, ← List.length_append] at fits
    simpa [← Array.length_toList] using fits

theorem next_within (within : d.Within max) : d.next.2.Within max ∧
    ∀ message, d.next.1 = .ok (some message) → message ≠ [] ∧ message.length ≤ max := by
  have searches := next_searches d
  generalize d.next = outcome at searches
  induction searches with
  | settled settles =>
    cases settles with
    | short | lacking | refused => exact ⟨within, by rintro _ ⟨⟩⟩
    | ended filled =>
      refine ⟨⟨within.1, Nat.zero_le _⟩, ?_⟩
      rintro _ ⟨⟩
      exact ⟨mt Array.toList_eq_nil_iff.mp filled, within.2⟩
  | turn turn _ ih => exact ih (turn_within within turn)

end Next

/-! ## Asking for all messages -/

/-- Messages are given until the search waits or refuses. -/
inductive Drains : Dechunker → List (List UInt8) → Option ProtocolError → Dechunker → Prop
  | waits {d last : Dechunker} : d.next = (.ok none, last) → Drains d [] none last
  | refused {d last : Dechunker} {e : ProtocolError} : d.next = (.error e, last) →
      Drains d [] (some e) last
  | gives {d rest last : Dechunker} {message : List UInt8} {given : List (List UInt8)}
      {refusal : Option ProtocolError} : d.next = (.ok (some message), rest) →
      Drains rest given refusal last → Drains d (message :: given) refusal last

section Drains

variable {d d' rest last : Dechunker} {given more : List (List UInt8)} {e : ProtocolError}
  {refusal : Option ProtocolError}

theorem drainOnto_error {done : List (List UInt8)} (refused : d.next = (.error e, rest)) :
    d.drainOnto done = (done.reverse, some e, rest) := by
  rw [drainOnto]
  split <;> next found => cases refused.symm.trans found <;> rfl

theorem drainOnto_drains (d : Dechunker) (done : List (List UInt8)) :
    ∃ given refusal last, d.drainOnto done = (done.reverse ++ given, refusal, last) ∧
      Drains d given refusal last := by
  fun_induction drainOnto d done with
  | case1 d done message rest found ih =>
    obtain ⟨given, refusal, last, same, drains⟩ := ih
    exact ⟨message :: given, refusal, last, by simp [same], .gives found drains⟩
  | case2 d done last found => exact ⟨[], none, last, by simp, .waits found⟩
  | case3 d done e last found => exact ⟨[], some e, last, by simp, .refused found⟩

/-- All messages are given in one way only. -/
theorem Drains.eq (drains : Drains d given refusal last) : d.drain = (given, refusal, last) := by
  suffices ∀ done, d.drainOnto done = (done.reverse ++ given, refusal, last) from this []
  induction drains with
  | waits found => simp [drainOnto_none found]
  | refused found => simp [drainOnto_error found]
  | gives found _ ih => simp [drainOnto_some found, ih]

theorem drain_iff : d.drain = (given, refusal, last) ↔ Drains d given refusal last := by
  constructor
  · intro same
    obtain ⟨given, refusal, last, drained, drains⟩ := drainOnto_drains d []
    cases same.symm.trans drained
    exact drains
  · exact Drains.eq

theorem drains_congr (same : d.next = d'.next) (drains : Drains d given refusal last) :
    Drains d' given refusal last := by
  cases drains with
  | waits found => exact .waits (same ▸ found)
  | refused found => exact .refused (same ▸ found)
  | gives found later => exact .gives (same ▸ found) later

/-- When the search waits, further bytes give what they would have given at once. -/
theorem drains_extend {bytes : List UInt8} (drains : Drains d given none rest)
    (later : Drains (rest.extend bytes) more refusal last) :
    Drains (d.extend bytes) (given ++ more) refusal last := by
  generalize outcome : none = waiting at drains
  induction drains with
  | @waits d last found =>
    have resumes : (d.extend bytes).next = (last.extend bytes).next := by
      rw [next_extend, found]
      rfl
    exact drains_congr resumes.symm later
  | refused => cases outcome
  | gives found _ ih => exact .gives (by rw [next_extend, found]; rfl) (ih later outcome)

/-- The messages are given by the bytes in front of those that are left. -/
theorem drains_front (drains : Drains d given refusal last) : ∃ front,
    d.buffer = front ++ last.buffer ∧
      Drains { d with buffer := front } given none { last with buffer := [] } := by
  induction drains with
  | @waits d last found =>
    obtain ⟨front, split, alone⟩ := next_front d
    rw [found] at split alone
    exact ⟨front, split, .waits alone⟩
  | @refused d last e found =>
    obtain ⟨front, split, alone⟩ := next_front d
    rw [found] at split alone
    exact ⟨front, split, .waits alone⟩
  | @gives d rest last message given refusal found later ih =>
    obtain ⟨front, split, alone⟩ := next_front d
    obtain ⟨behind, split', later⟩ := ih
    rw [found] at split alone
    refine ⟨front ++ behind, by rw [split, split', List.append_assoc], ?_⟩
    have extended := next_extend { d with buffer := front } behind
    rw [alone] at extended
    exact .gives extended later

theorem drains_settles (drains : Drains d given (some e) last) : Settles last (.error e, last) := by
  generalize outcome : some e = refusal at drains
  induction drains with
  | waits => cases outcome
  | refused found =>
    cases outcome
    exact next_refused found
  | gives _ _ ih => exact ih outcome

theorem drains_within {max : Nat} (within : d.Within max) (drains : Drains d given refusal last) :
    last.Within max ∧ ∀ message ∈ given, message ≠ [] ∧ message.length ≤ max := by
  induction drains with
  | waits found | refused found =>
    have next := next_within within
    rw [found] at next
    exact ⟨next.1, List.forall_mem_nil _⟩
  | gives found _ ih =>
    have next := next_within within
    rw [found] at next
    obtain ⟨last, sized⟩ := ih next.1
    exact ⟨last, List.forall_mem_cons.mpr ⟨next.2 _ rfl, sized⟩⟩

end Drains

/-! ## Calls in any order -/

def messages (outcomes : List (Except ProtocolError (Option (List UInt8)))) : List (List UInt8) :=
  outcomes.filterMap fun
    | .ok message => message
    | .error _ => none

/-- What calls come to once all messages have been asked for: the messages that have been given, the
refusal, and the receiver. -/
def settled (d : Dechunker) (calls : List Call) :
    List (List UInt8) × Option ProtocolError × Dechunker :=
  let (outcomes, d) := d.run calls
  let (drained, refusal, last) := d.drain
  (messages outcomes ++ drained, refusal, last)

/-- In the course of these calls, the receiver comes to this state. A search passes a state after
each of its turns. -/
inductive Passes : Dechunker → List Call → Dechunker → Prop
  | here {d : Dechunker} {calls : List Call} : Passes d calls d
  | extend {d state : Dechunker} {bytes : List UInt8} {rest : List Call} :
      Passes (d.extend bytes) rest state → Passes d (.extend bytes :: rest) state
  | turn {d d' state : Dechunker} {rest : List Call} : Turn d d' →
      Passes d' (.next :: rest) state → Passes d (.next :: rest) state
  | next {d state : Dechunker} {rest : List Call} : Passes d.next.2 rest state →
      Passes d (.next :: rest) state

/-- Behind whole chunks that are accepted, and give these messages, the bytes hold the header of a
chunk that makes its message too large. The receiver then stands before that header. -/
inductive Offends (max : Nat) :
    List UInt8 → List (List UInt8) → ProtocolError → Dechunker → Prop
  | header {front rest : List UInt8} {high low : UInt8} {part : Array UInt8}
      {given : List (List UInt8)} :
      (fresh max).settled [.extend front] = (given, none, ⟨[], part, max⟩) →
      announced high low ≠ 0 → max < part.size + announced high low →
      Offends max (front ++ high :: low :: rest) given
        (.frameTooLarge (part.size + announced high low) max) ⟨high :: low :: rest, part, max⟩

section Calls

variable {d state last : Dechunker} {calls : List Call} {given : List (List UInt8)}
  {refusal : Option ProtocolError} {e : ProtocolError} {max : Nat}

theorem passes_last (d : Dechunker) (calls : List Call) : Passes d calls (d.run calls).2 := by
  induction calls generalizing d with
  | nil => exact .here
  | cons call rest ih =>
    cases call with
    | extend bytes => exact .extend (ih _)
    | next => exact .next (ih _)

theorem passes_within (within : d.Within max) (passes : Passes d calls state) :
    state.Within max := by
  induction passes with
  | here => exact within
  | extend _ ih => exact ih (extend_within within _)
  | turn turn _ ih => exact ih (turn_within within turn)
  | next _ ih => exact ih (next_within within).1

/-- Messages asked for in between are those that all bytes give at once. -/
theorem run_drains (drains : Drains (d.run calls).2 given refusal last) :
    Drains (d.extend (calls.flatMap Call.bytes)) (messages (d.run calls).1 ++ given)
      refusal last := by
  induction calls generalizing d with
  | nil =>
    unfold extend
    rw [List.flatMap_nil, List.append_nil]
    exact drains
  | cons call rest ih =>
    rw [List.flatMap_cons]
    cases call with
    | extend bytes =>
      have later := ih drains
      unfold extend at *
      rwa [List.append_assoc] at later
    | next =>
      have later := ih (d := d.next.2) drains
      have extended := next_extend d (rest.flatMap Call.bytes)
      rcases asked : d.next with ⟨⟨e⟩ | ⟨_ | message⟩, d'⟩
      all_goals
        simp only [run, asked, messages, List.filterMap_cons] at extended later ⊢
      · have again := next_again asked (rest.flatMap Call.bytes)
        exact drains_congr (again.trans extended.symm) later
      · exact drains_congr extended.symm later
      · exact .gives extended later

theorem settled_drains : d.settled calls = (given, refusal, last) ↔
    Drains (d.extend (calls.flatMap Call.bytes)) given refusal last := by
  obtain ⟨drained, refusal', last', same⟩ : ∃ a b c, (d.run calls).2.drain = (a, b, c) :=
    ⟨_, _, _, rfl⟩
  have drains := run_drains (drain_iff.mp same)
  rw [← drain_iff] at drains ⊢
  rw [drains]
  simp only [settled, same]

theorem settled_alone {bytes : List UInt8} : d.settled [.extend bytes] = (given, refusal, last) ↔
    Drains (d.extend bytes) given refusal last := by
  rw [settled_drains, List.flatMap_singleton, Call.bytes]

/-- Whatever is done after a refusal, it is repeated. -/
theorem run_refused (refuses : ∀ bytes, (d.extend bytes).next = (.error e, d.extend bytes)) :
    ∀ outcome ∈ (d.run calls).1, outcome = .error e := by
  induction calls generalizing d with
  | nil => exact List.forall_mem_nil _
  | cons call rest ih =>
    cases call with
    | extend bytes =>
      apply ih
      intro further
      have refused := refuses (bytes ++ further)
      unfold extend at *
      rwa [← List.append_assoc] at refused
    | next =>
      have refused : d.next = (.error e, d) := by
        have refused := refuses []
        unfold extend at refused
        rwa [List.append_nil] at refused
      simp only [run, refused]
      exact List.forall_mem_cons.mpr ⟨rfl, ih refuses⟩

/-- What has been received is refused from the header on that makes a message too large, and no
sooner. -/
theorem settled_refused : (fresh max).settled calls = (given, some e, last) ↔
    Offends max (calls.flatMap Call.bytes) given e last := by
  rw [settled_drains]
  constructor
  · intro drains
    obtain ⟨front, split, clear⟩ := drains_front drains
    have within : last.Within max := (drains_within (extend_within fresh_within _) drains).1
    have settles := drains_settles drains
    generalize outcome : (Except.error e, last) = refused at settles
    cases settles with
    | short | lacking | ended => cases outcome
    | @refused high low rest part max' filled large =>
      cases outcome
      obtain ⟨rfl, -⟩ := within
      have received : calls.flatMap Call.bytes = front ++ high :: low :: rest := split
      rw [received]
      exact .header (settled_alone.mpr clear) filled large
  · intro offends
    generalize calls.flatMap Call.bytes = bytes at offends
    cases offends with
    | @header front rest high low part _ clear filled large =>
      have refused : ((⟨[], part, max⟩ : Dechunker).extend (high :: low :: rest)).next =
          (.error (.frameTooLarge (part.size + announced high low) max), _) :=
        next_settled (.refused filled large)
      have all := drains_extend (settled_alone.mp clear) (.refused refused)
      rwa [List.append_nil] at all

/-- How a stream is cut, and when messages are asked for, changes neither the messages nor the
refusal nor what is left. No message that is given is empty or too large, and none that is put
together is too large at any moment. Bytes are refused from the header on that makes a message too
large; then every search is refused, until everything is dropped. -/
theorem cuts_agree {others : List Call}
    (same : calls.flatMap Call.bytes = others.flatMap Call.bytes) :
    (fresh max).settled calls = (fresh max).settled others ∧
    (∀ message ∈ ((fresh max).settled calls).1, message ≠ [] ∧ message.length ≤ max) ∧
    (∀ state, Passes (fresh max) calls state → state.message.size ≤ max) ∧
    (∀ given e last, (fresh max).settled calls = (given, some e, last) ↔
      Offends max (calls.flatMap Call.bytes) given e last) ∧
    (∀ e d later, ((fresh max).run calls).2.next = (.error e, d) →
      ∀ outcome ∈ (d.run later).1, outcome = .error e) ∧
    ((fresh max).run calls).2.reset = fresh max := by
  have within : (fresh max).Within max := fresh_within
  have drains : ∀ d calls, Drains (d.extend (calls.flatMap Call.bytes)) (settled d calls).1
    (settled d calls).2.1 (settled d calls).2.2 := fun _ _ => settled_drains.mp rfl
  refine ⟨?_, ?_, ?_, fun _ _ _ => settled_refused, ?_, ?_⟩
  · rw [settled_drains, same]
    exact drains _ _
  · exact (drains_within (extend_within within _) (drains _ _)).2
  · exact fun _ passes => (passes_within within passes).2
  · exact fun _ _ _ refused => run_refused (next_again refused)
  · rw [reset, (passes_within within (passes_last _ _)).1]

end Calls

def sampleCut : List Call :=
  [.extend [0, 2, 1], .next, .extend [2, 0, 0, 0, 0, 0], .next, .extend [3, 7, 8, 9, 0], .next,
    .extend [1], .next, .next]

theorem sample_cuts : (fresh 3).settled sampleCut = (fresh 3).settled [.extend
      [0, 2, 1, 2, 0, 0, 0, 0, 0, 3, 7, 8, 9, 0, 1]] ∧
    (fresh 3).settled sampleCut =
      ([[1, 2]], some (.frameTooLarge 4 3), ⟨[0, 1], #[7, 8, 9], 3⟩) := by
  refine ⟨(cuts_agree (by cbv)).1, ?_⟩
  rw [settled_drains]
  exact .gives (by cbv) (.refused (by cbv))

end GraphProtocol.Frame.Dechunker
