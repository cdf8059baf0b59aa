import GraphProtocol.Proofs.Query.Clients
import GraphProtocol.Query.Literal.Overlap

/-!
# The turns of a call

A turn does one of nine things to the engine, and all that follows about calls that overlap is
drawn from these. A call whose turns are not interrupted has the effect of the whole call.
-/

set_option autoImplicit false

namespace GraphProtocol.Literal

/-! ## One turn -/

structure Progress.IsSilent (p : Progress) : Prop where
  begun : p.outcome?.bind Outcome.begun? = none
  ended : p.outcome?.bind Outcome.ended? = none
  expired : p.outcome?.bind Outcome.expired? = none
  allotted : p.outcome?.bind Outcome.allotted? = none
  opening : ∀ tx metadata, p ≠ .going (.opening tx metadata)
  sealing : ∀ tx, p ≠ .going (.sealing tx)
  asked : ∀ call, p ≠ .going (.asked call)

/-- What a turn does to the state, and how the call goes on. -/
inductive Effect (s : Store) (now : Instant) : Task → Progress × Store → Prop
  | silent {call : Call} {progress : Progress} : progress.IsSilent →
      Effect s now (.asked call) (progress, s)
  | expired {call : Call} {tx : TxId} {t : OpenTransaction} : s.find? tx = some t →
      t.isExpired now = true → Effect s now (.asked call) (.done (.expired tx), s.erase tx)
  | taken {tx : TxId} : s.IsOpen tx →
      Effect s now (.asked (.commit tx)) (.going (.sealing tx), s.erase tx)
  | rolledBack {tx : TxId} : s.IsOpen tx →
      Effect s now (.asked (.rollback tx)) (.done (.rolledBack tx), s.erase tx)
  | launched {query : Query} {plan : Plan} {production : Production} :
      production.bookmark = some s.nextBookmark.1 → Effect s now (.launching query plan)
        (.done (.started plan.columns production), s.nextBookmark.2)
  | lost {query : Query} {plan : Plan} : query.deadline? now = none →
      Effect s now (.launching query plan) (.done (.brokenDown s.nextBookmark.1), s.nextBookmark.2)
  | sealed {tx : TxId} : Effect s now (.sealing tx)
      (.done (.committed tx s.nextBookmark.1), s.nextBookmark.2)
  | numbered {metadata : TxMetadata} : Effect s now (.numbering metadata)
      (.going (.opening ⟨s.lastTx + 1⟩ metadata), { s with lastTx := s.lastTx + 1 })
  | opened {tx : TxId} {metadata : TxMetadata} : Effect s now (.opening tx metadata)
      (.done (.begun tx),
        { s with transactions := (tx, ⟨now, metadata.timeout⟩) :: s.transactions })

variable {s : Store} {now : Instant} {tx other : TxId}

theorem failed_silent (fault : QueryFault) : (Progress.done (.failed fault)).IsSilent :=
  ⟨rfl, rfl, rfl, rfl, nofun, nofun, nofun⟩

theorem find_open {t : OpenTransaction} (found : s.find? tx = some t) : s.IsOpen tx :=
  Option.isSome_of_eq_some found

/-- A query is turned away without effect, unless its transaction has lasted too long. -/
theorem allow_fault {query : Query} {named : Option TxId} {fault : QueryFault}
    (refused : (s.allow now query named).1 = .error fault) :
    Effect s now (.asked (.execute query named))
      (.done (.ofFault fault), (s.allow now query named).2) := by
  cases named with
  | none =>
    dsimp only [Store.allow, Store.checkBookmarks] at refused
    split at refused
    · cases refused
      exact .silent (failed_silent _)
    · cases refused
  | some tx =>
    dsimp only [Store.allow, Store.ensureLive] at refused ⊢
    cases found : s.find? tx with
    | none =>
      rw [found] at refused
      cases refused
      exact .silent (failed_silent _)
    | some t =>
      rw [found] at refused
      dsimp only at refused ⊢
      split at refused
      · next late =>
        cases refused
        rw [if_pos late]
        exact .expired found late
      · cases refused

theorem allow_ok {query : Query} {named : Option TxId}
    (allowed : (s.allow now query named).1 = .ok ()) : (s.allow now query named).2 = s := by
  cases named with
  | none => rfl
  | some tx =>
    dsimp only [Store.allow, Store.ensureLive] at allowed ⊢
    cases found : s.find? tx with
    | none => rfl
    | some t =>
      rw [found] at allowed
      dsimp only at allowed ⊢
      split at allowed
      · cases allowed
      · next timely => rw [if_neg timely]

theorem enter_effect (s : Store) (now : Instant) (call : Call) :
    Effect s now (.asked call) (s.enter now call) := by
  cases call with
  | execute query named =>
    dsimp only [Store.enter]
    cases came : s.allow now query named with | mk answer t =>
    cases answer with
    | error fault =>
      have effect := allow_fault (congrArg Prod.fst came)
      rw [came] at effect
      exact effect
    | ok done =>
      have same := allow_ok (congrArg Prod.fst came)
      rw [came] at same
      subst same
      dsimp only
      cases Store.plan query with
      | error fault => exact .silent (failed_silent fault)
      | ok plan =>
        cases named with
        | some tx => exact .silent ⟨rfl, rfl, rfl, rfl, nofun, nofun, nofun⟩
        | none => exact .silent ⟨rfl, rfl, rfl, rfl, nofun, nofun, nofun⟩
  | begin metadata =>
    dsimp only [Store.enter]
    cases s.checkBookmarks metadata.bookmarks with
    | error fault => exact .silent (failed_silent fault)
    | ok done => exact .silent ⟨rfl, rfl, rfl, rfl, nofun, nofun, nofun⟩
  | commit tx =>
    dsimp only [Store.enter]
    cases found : s.find? tx with
    | none => exact .silent (failed_silent _)
    | some t =>
      dsimp only
      split
      · next late => exact .expired found late
      · exact .taken (find_open found)
  | rollback tx =>
    dsimp only [Store.enter]
    cases found : s.find? tx with
    | none => exact .silent (failed_silent _)
    | some t => exact .rolledBack (find_open found)

/-- Everything that a turn can do. -/
theorem advance_effect (s : Store) (now : Instant) (task : Task) :
    Effect s now task (s.advance now task) := by
  cases task with
  | asked call => exact enter_effect s now call
  | launching query plan =>
    dsimp only [Store.advance]
    cases told : query.deadline? now with
    | none => exact .lost told
    | some deadline => exact .launched rfl
  | numbering metadata => exact .numbered
  | opening tx metadata => exact .opened
  | sealing tx => exact .sealed

/-- A call that fails has been asked just now. It leaves everything as it was, except that it may
have found a transaction that has lasted too long. -/
theorem effect_failure {task : Task} {outcome : Outcome} {store : Store}
    (effect : Effect s now task (.done outcome, store))
    (failed : outcome.isFailure = true) : (∃ call, task = .asked call) ∧
      store.lastTx = s.lastTx ∧ store.lastBookmark = s.lastBookmark ∧
      ∀ tx, (store.IsOpen tx ↔ s.IsOpen tx ∧ outcome ≠ .expired tx) ∧
        (outcome = .expired tx → ∃ t, s.find? tx = some t ∧ t.isExpired now = true) := by
  cases effect with
  | @silent call progress silent =>
    have timely (tx : TxId) : outcome ≠ .expired tx := by
      rintro rfl
      cases silent.expired
    exact ⟨⟨call, rfl⟩, rfl, rfl, fun tx => ⟨(and_iff_left (timely tx)).symm,
      fun late => absurd late (timely tx)⟩⟩
  | @expired call tx t found late =>
    refine ⟨⟨call, rfl⟩, rfl, rfl, ?_⟩
    intro other
    constructor
    · rw [Store.isOpen_erase]
      simp [eq_comm]
    · intro same
      cases same
      exact ⟨t, found, late⟩
  | rolledBack | launched | lost | sealed | opened => cases failed

/-! ## Calls that are not interrupted -/

/-- Lets a call take all its turns at once; there are three at most. -/
def Store.finish (s : Store) (now : Instant) (task : Task) : Progress × Store :=
  next (next (s.advance now task))
where
  next : Progress × Store → Progress × Store
    | (.going task, s) => s.advance now task
    | (.done outcome, s) => (.done outcome, s)

def Fails (fault : QueryFault) (outcome : Outcome) : Prop :=
  outcome = .failed fault ∨ outcome = .ofFault fault

/-- The query has failed for this reason, or it has broken down and its bookmark is lost. -/
def Aborts : Abort QueryFault → Outcome → Prop
  | .error fault, outcome => Fails fault outcome
  | .breakdown, outcome => ∃ bookmark, outcome = .brokenDown bookmark

section Alone

variable {α ε : Type} {success : α → Outcome} {failure : ε → Outcome → Prop}

def Concludes (success : α → Outcome) (failure : ε → Outcome → Prop) (result : Except ε α × Store)
    (after : Progress × Store) : Prop :=
  after.2 = result.2 ∧ ∃ outcome, after.1 = .done outcome ∧
    (∀ a, result.1 = .ok a → outcome = success a) ∧
    ∀ e, result.1 = .error e → failure e outcome

theorem concludes_ok (a : α) (s : Store) :
    Concludes success failure (.ok a, s) (.done (success a), s) :=
  ⟨rfl, _, rfl, by rintro _ ⟨⟩; rfl, by rintro _ ⟨⟩⟩

theorem concludes_error {e : ε} {outcome : Outcome} (fails : failure e outcome) (s : Store) :
    Concludes success failure (.error e, s) (.done outcome, s) :=
  ⟨rfl, _, rfl, by rintro _ ⟨⟩, by rintro _ ⟨⟩; exact fails⟩

end Alone

/-- A query that is not interrupted is executed. -/
theorem finish_execute (s : Store) (now : Instant) (query : Query) (named : Option TxId) :
    Concludes (fun given => .started given.1 given.2) Aborts (s.execute now query named)
      (s.finish now (.asked (.execute query named))) := by
  dsimp only [Store.finish, Store.advance, Store.enter, Store.execute]
  cases s.allow now query named with | mk answer t =>
  cases answer with
  | error fault => exact concludes_error (.inr rfl) t
  | ok done =>
    dsimp only
    cases Store.plan query with
    | error fault => exact concludes_error (.inl rfl) t
    | ok plan =>
      cases named with
      | some tx => exact concludes_ok (_, _) t
      | none =>
        dsimp only [Store.finish.next, Store.advance]
        cases query.deadline? now with
        | none => exact concludes_error ⟨_, rfl⟩ _
        | some deadline => exact concludes_ok (_, _) _

theorem finish_begin (s : Store) (now : Instant) (metadata : TxMetadata) :
    Concludes .begun Fails (s.begin now metadata) (s.finish now (.asked (.begin metadata))) := by
  dsimp only [Store.finish, Store.advance, Store.enter, Store.begin]
  cases s.checkBookmarks metadata.bookmarks with
  | error fault => exact concludes_error (.inl rfl) s
  | ok done => exact concludes_ok _ _

theorem finish_commit (s : Store) (now : Instant) (tx : TxId) :
    Concludes (.committed tx) Fails (s.commit now tx) (s.finish now (.asked (.commit tx))) := by
  dsimp only [Store.finish, Store.advance, Store.enter, Store.commit]
  cases s.find? tx with
  | none => exact concludes_error (.inl rfl) s
  | some t =>
    by_cases late : t.isExpired now = true
    · dsimp only
      rw [if_pos late, if_pos late]
      exact concludes_error (.inr rfl) _
    · dsimp only
      rw [if_neg late, if_neg late]
      exact concludes_ok _ _

theorem finish_rollback (s : Store) (now : Instant) (tx : TxId) :
    Concludes (fun _ => .rolledBack tx) Fails (s.rollback tx)
      (s.finish now (.asked (.rollback tx))) := by
  dsimp only [Store.finish, Store.advance, Store.enter, Store.rollback]
  cases s.find? tx with
  | none => exact concludes_error (.inl rfl) s
  | some t => exact concludes_ok _ _

end GraphProtocol.Literal
