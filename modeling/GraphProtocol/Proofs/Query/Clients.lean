import Mathlib.Tactic
import GraphProtocol.Proofs.Query.Calls
import GraphProtocol.Query.Literal.Engine

/-!
# Clients of the literal engine

Any number of clients make calls that are due. What each of them has called so far
is kept in its book. Every open transaction is then held by one of them, no number
is given out twice, and every transaction that a client names is one that it has
begun and not ended.
-/

set_option autoImplicit false

namespace GraphProtocol.Literal

/-! ## What calls do to the store -/

namespace Store

def IsOpen (s : Store) (tx : TxId) : Prop := (s.find? tx).isSome = true

variable {s : Store} {tx other : TxId}

theorem isOpen_iff : s.IsOpen tx ↔ ∃ t, (tx, t) ∈ s.transactions := by
  simp [IsOpen, find?]

theorem isOpen_erase : (s.erase tx).IsOpen other ↔ s.IsOpen other ∧ other ≠ tx := by
  simp [isOpen_iff, erase]

theorem isOpen_cons {t : OpenTransaction} :
    ({ s with transactions := (tx, t) :: s.transactions } : Store).IsOpen other ↔
      other = tx ∨ s.IsOpen other := by
  simp [isOpen_iff, exists_or]

theorem erase_open (still : (s.erase tx).IsOpen other) : s.IsOpen other ∧ other ≠ tx :=
  isOpen_erase.mp still

/-- No transaction is added: the later store has the same number, and what is open in it was
open before. -/
structure Shrinks (s t : Store) : Prop where
  last : t.lastTx = s.lastTx
  isOpen : ∀ tx, t.IsOpen tx → s.IsOpen tx

theorem shrinks_refl (s : Store) : Shrinks s s := ⟨rfl, fun _ still => still⟩

theorem shrinks_erase (s : Store) (tx : TxId) : Shrinks s (s.erase tx) :=
  ⟨rfl, fun _ still => (erase_open still).1⟩

/-- A transaction that has lasted too long is closed by the query that finds it. -/
theorem shrinks_ensureLive (s : Store) (now : Instant) (tx : TxId) :
    Shrinks s (s.ensureLive now tx).2 := by
  unfold ensureLive
  split
  · exact shrinks_refl s
  · split
    · exact shrinks_erase s tx
    · exact shrinks_refl s

theorem shrinks_execute (s : Store) (now : Instant) (query : Query) (tx : Option TxId) :
    Shrinks s (s.execute now query tx).2 := by
  have allowed : Shrinks s (s.allow now query tx).2 := by
    cases tx with
    | none => exact shrinks_refl s
    | some tx => exact shrinks_ensureLive s now tx
  unfold execute
  cases came : s.allow now query tx with | mk answer t =>
  rw [came] at allowed
  cases answer with
  | error fault => exact allowed
  | ok done =>
    dsimp only
    cases plan query with
    | error fault => exact allowed
    | ok plan =>
      cases tx with
      | some tx => exact allowed
      | none =>
        dsimp only
        cases query.deadline? now with
        | none => exact ⟨allowed.last, allowed.isOpen⟩
        | some deadline => exact ⟨allowed.last, allowed.isOpen⟩

/-- A new transaction has the next number. -/
theorem begin_opens {now : Instant} {metadata : TxMetadata}
    (begun : (s.begin now metadata).1 = .ok tx) :
    tx.number = s.lastTx + 1 ∧ (s.begin now metadata).2.lastTx = s.lastTx + 1 ∧
      ∀ other, (s.begin now metadata).2.IsOpen other → other = tx ∨ s.IsOpen other := by
  unfold begin at *
  cases checked : s.checkBookmarks metadata.bookmarks with
  | error fault => rw [checked] at begun; cases begun
  | ok done =>
    rw [checked] at begun
    cases begun
    exact ⟨rfl, rfl, fun other still => isOpen_cons.mp still⟩

theorem begin_fails {now : Instant} {metadata : TxMetadata} {fault : QueryFault}
    (failed : (s.begin now metadata).1 = .error fault) : (s.begin now metadata).2 = s := by
  unfold begin at *
  cases checked : s.checkBookmarks metadata.bookmarks with
  | error fault => rfl
  | ok done => rw [checked] at failed; cases failed

/-- Whether or not a commit succeeds, the transaction is closed. -/
theorem commit_closes (s : Store) (now : Instant) (tx : TxId) :
    Shrinks s (s.commit now tx).2 ∧ ¬(s.commit now tx).2.IsOpen tx := by
  have gone : ¬(s.erase tx).IsOpen tx := fun still => (erase_open still).2 rfl
  unfold commit
  cases found : s.find? tx with
  | none => exact ⟨shrinks_refl s, by simp [IsOpen, found]⟩
  | some t =>
    dsimp only
    split
    · exact ⟨shrinks_erase s tx, gone⟩
    · have erased := shrinks_erase s tx
      exact ⟨⟨erased.last, erased.isOpen⟩, gone⟩

theorem rollback_closes (s : Store) (tx : TxId) :
    Shrinks s (s.rollback tx).2 ∧ ¬(s.rollback tx).2.IsOpen tx := by
  have gone : ¬(s.erase tx).IsOpen tx := fun still => (erase_open still).2 rfl
  unfold rollback
  cases found : s.find? tx with
  | none => exact ⟨shrinks_refl s, by simp [IsOpen, found]⟩
  | some t => exact ⟨shrinks_erase s tx, gone⟩

end Store

/-! ## Books -/

abbrev Books := Nat → List EngineCall

def held (calls : List EngineCall) : Option TxId := calls.foldl EngineCall.hold none

def Obtained (calls : List EngineCall) (tx : TxId) : Prop :=
  ∃ metadata, .begin metadata (.ok tx) ∈ calls

/-- The transaction has been begun by these calls, and it has not been ended. -/
structure Has (calls : List EngineCall) (tx : TxId) : Prop where
  obtained : Obtained calls tx
  uncommitted : .commit tx ∉ calls
  unrolled : .rollback tx ∉ calls

/-- Every transaction that a call names is had at that time. -/
def Rightful (calls : List EngineCall) : Prop :=
  ∀ early call late tx, calls = early ++ call :: late → call.Names tx → Has early tx

structure Orderly (books : Books) (s : Store) : Prop where
  /-- Every open transaction is held by someone. -/
  owned : ∀ tx, s.IsOpen tx → ∃ i, held (books i) = some tx
  /-- Numbers have been given out in order. -/
  bounded : ∀ i tx, Obtained (books i) tx → tx.number ≤ s.lastTx
  /-- No number is given out twice. -/
  apart : ∀ i j tx, Obtained (books i) tx → Obtained (books j) tx → i = j
  has : ∀ i tx, held (books i) = some tx → Has (books i) tx
  rightful : ∀ i, Rightful (books i)

variable {books : Books} {s : Store} {now : Instant} {i : Nat} {call : EngineCall}

theorem held_append (calls : List EngineCall) (call : EngineCall) :
    held (calls ++ [call]) = call.hold (held calls) := by
  simp [held, List.foldl_append]

theorem orderly_empty : Orderly (fun _ => []) .empty := by
  constructor
  · rintro tx still
    obtain ⟨t, ⟨⟩⟩ := Store.isOpen_iff.mp still
  · rintro i tx ⟨_, ⟨⟩⟩
  · rintro i j tx ⟨_, ⟨⟩⟩
  · rintro i tx ⟨⟩
  · rintro i early call late tx split
    simp at split

theorem obtained_append {calls : List EngineCall} {tx : TxId} :
    Obtained (calls ++ [call]) tx ↔
      Obtained calls tx ∨ ∃ metadata, call = .begin metadata (.ok tx) := by
  constructor
  · rintro ⟨metadata, among⟩
    rcases List.mem_append.mp among with old | new
    · exact .inl ⟨metadata, old⟩
    · exact .inr ⟨metadata, (List.mem_singleton.mp new).symm⟩
  · rintro (⟨metadata, old⟩ | ⟨metadata, rfl⟩)
    · exact ⟨metadata, List.mem_append_left _ old⟩
    · exact ⟨metadata, List.mem_append_right _ List.mem_cons_self⟩

theorem has_append {calls : List EngineCall} {tx : TxId} (has : Has calls tx)
    (uncommitted : call ≠ .commit tx) (unrolled : call ≠ .rollback tx) :
    Has (calls ++ [call]) tx := by
  constructor
  · exact obtained_append.mpr (.inl has.obtained)
  · simp [has.uncommitted, uncommitted.symm]
  · simp [has.unrolled, unrolled.symm]

theorem rightful_append {calls : List EngineCall} (rightful : Rightful calls)
    (named : ∀ tx, call.Names tx → Has calls tx) : Rightful (calls ++ [call]) := by
  intro early other late tx split names
  rcases List.eq_nil_or_concat late with rfl | ⟨rest, last, rfl⟩
  · obtain ⟨rfl, same⟩ := List.append_inj' split rfl
    cases same
    exact named tx names
  · have split : calls ++ [call] = (early ++ other :: rest) ++ [last] := by simpa using split
    obtain ⟨same, -⟩ := List.append_inj' split rfl
    exact rightful early other rest tx same names

/-- Whatever is ended has been begun before. -/
theorem ended_obtained {calls : List EngineCall} {tx : TxId} (rightful : Rightful calls)
    (among : call ∈ calls) (names : call.Names tx) : Obtained calls tx := by
  obtain ⟨early, late, rfl⟩ := List.append_of_mem among
  obtain ⟨metadata, old⟩ := (rightful early call late tx rfl names).obtained
  exact ⟨metadata, List.mem_append_left _ old⟩

theorem due_names {tx : TxId} (orderly : Orderly books s)
    (due : call.Due engine now (held (books i)) s) (names : call.Names tx) : Has (books i) tx := by
  apply orderly.has
  cases call with
  | execute query named cancelled =>
    rcases due with none | same
    · cases names.symm.trans none
    · exact same.symm.trans names
  | begin metadata answer => exact names.elim
  | commit named => exact names ▸ due
  | rollback named => exact names ▸ due

/-- A client that has begun a transaction has it. -/
theorem begun_has {metadata : TxMetadata} {tx : TxId} (orderly : Orderly books s)
    (fresh : s.lastTx < tx.number) : Has (books i ++ [.begin metadata (.ok tx)]) tx := by
  -- Whatever a book names was obtained before, and so has a smaller number.
  have unnamed : ∀ call ∈ books i, ¬call.Names tx := by
    intro call among names
    have bound := orderly.bounded i tx (ended_obtained (orderly.rightful i) among names)
    omega
  constructor
  · exact obtained_append.mpr (.inr ⟨metadata, rfl⟩)
  · intro among
    rcases List.mem_append.mp among with old | new
    · exact unnamed _ old rfl
    · cases List.mem_singleton.mp new
  · intro among
    rcases List.mem_append.mp among with old | new
    · exact unnamed _ old rfl
    · cases List.mem_singleton.mp new

def Books.note (books : Books) (i : Nat) (call : EngineCall) : Books :=
  Function.update books i (books i ++ [call])

theorem note_self : books.note i call i = books i ++ [call] := Function.update_self ..

theorem note_other {j : Nat} (other : j ≠ i) : books.note i call j = books j :=
  Function.update_of_ne other ..

/-- A call that begins nothing adds no transaction and gives out no number. -/
theorem orderly_plain (orderly : Orderly books s) {t : Store} (shrinks : s.Shrinks t)
    (names : ∀ tx, call.Names tx → Has (books i) tx)
    (plain : ∀ metadata tx, call ≠ .begin metadata (.ok tx))
    (keeps : ∀ tx, call.hold (held (books i)) = some tx → held (books i) = some tx ∧
      call ≠ .commit tx ∧ call ≠ .rollback tx)
    (owned : ∀ tx, t.IsOpen tx → held (books i) = some tx →
      call.hold (held (books i)) = some tx) : Orderly (books.note i call) t := by
  -- Only beginning obtains anything, so nobody has more than before.
  have obtains (j : Nat) (tx : TxId) :
      Obtained (books.note i call j) tx → Obtained (books j) tx := by
    by_cases here : j = i
    · subst here
      rw [note_self]
      intro given
      rcases obtained_append.mp given with old | ⟨metadata, new⟩
      · exact old
      · exact absurd new (plain metadata tx)
    · rw [note_other here]
      exact id
  constructor
  · intro tx still
    obtain ⟨j, holds⟩ := orderly.owned tx (shrinks.isOpen tx still)
    refine ⟨j, ?_⟩
    by_cases here : j = i
    · subst here
      rw [note_self, held_append]
      exact owned tx still holds
    · rw [note_other here]
      exact holds
  · intro j tx given
    rw [shrinks.last]
    exact orderly.bounded j tx (obtains j tx given)
  · intro j k tx first second
    exact orderly.apart j k tx (obtains j tx first) (obtains k tx second)
  · intro j tx holds
    by_cases here : j = i
    · subst here
      rw [note_self, held_append] at holds
      rw [note_self]
      obtain ⟨before, uncommitted, unrolled⟩ := keeps tx holds
      exact has_append (orderly.has j tx before) uncommitted unrolled
    · rw [note_other here] at holds ⊢
      exact orderly.has j tx holds
  · intro j
    by_cases here : j = i
    · subst here
      rw [note_self]
      exact rightful_append (orderly.rightful j) names
    · rw [note_other here]
      exact orderly.rightful j

/-- A transaction that is begun has a number of its own. -/
theorem orderly_begun {metadata : TxMetadata} {tx : TxId} {t : Store} (orderly : Orderly books s)
    (free : held (books i) = none) (number : tx.number = s.lastTx + 1)
    (last : t.lastTx = s.lastTx + 1)
    (opens : ∀ other, t.IsOpen other → other = tx ∨ s.IsOpen other) :
    Orderly (books.note i (.begin metadata (.ok tx))) t := by
  have obtains (j : Nat) (other : TxId)
      (given : Obtained (books.note i (.begin metadata (.ok tx)) j) other) :
      Obtained (books j) other ∨ (j = i ∧ other = tx) := by
    by_cases here : j = i
    · subst here
      rw [note_self] at given
      rcases obtained_append.mp given with old | ⟨metadata', new⟩
      · exact .inl old
      · cases new
        exact .inr ⟨rfl, rfl⟩
    · rw [note_other here] at given
      exact .inl given
  constructor
  · intro other still
    rcases opens other still with rfl | old
    · refine ⟨i, ?_⟩
      rw [note_self, held_append]
      rfl
    · obtain ⟨j, holds⟩ := orderly.owned other old
      have away : j ≠ i := by
        rintro rfl
        cases free.symm.trans holds
      exact ⟨j, by rw [note_other away]; exact holds⟩
  · intro j other given
    rcases obtains j other given with old | ⟨-, rfl⟩
    · have bound := orderly.bounded j other old
      omega
    · omega
  · intro j k other first second
    rcases obtains j other first with old | ⟨rfl, rfl⟩ <;>
      rcases obtains k other second with old' | ⟨rfl, new⟩
    · exact orderly.apart j k other old old'
    · subst new
      have bound := orderly.bounded j other old
      omega
    · have bound := orderly.bounded k other old'
      omega
    · rfl
  · intro j other holds
    by_cases here : j = i
    · subst here
      rw [note_self, held_append] at holds
      cases holds
      rw [note_self]
      exact begun_has orderly (by omega)
    · rw [note_other here] at holds ⊢
      exact orderly.has j other holds
  · intro j
    by_cases here : j = i
    · subst here
      rw [note_self]
      exact rightful_append (orderly.rightful j) nofun
    · rw [note_other here]
      exact orderly.rightful j

/-- A call that is due keeps the books in order. -/
theorem orderly_call (orderly : Orderly books s) (due : call.Due engine now (held (books i)) s) :
    Orderly (books.note i call) (call.effect engine now s) := by
  have names (tx : TxId) : call.Names tx → Has (books i) tx := due_names orderly due
  cases call with
  | execute query tx cancelled =>
    exact orderly_plain orderly (s.shrinks_execute now query tx) names nofun
      (fun tx holds => ⟨holds, nofun, nofun⟩) fun tx _ holds => holds
  | begin metadata answer =>
    obtain ⟨free, same⟩ := due
    change answer = (s.begin now metadata).1.mapError QueryFault.failure at same
    change Orderly _ (s.begin now metadata).2
    cases begun : (s.begin now metadata).1 with
    | ok tx =>
      rw [begun] at same
      subst same
      obtain ⟨number, last, opens⟩ := Store.begin_opens begun
      exact orderly_begun orderly free number last opens
    | error fault =>
      rw [begun] at same
      subst same
      rw [Store.begin_fails begun]
      exact orderly_plain orderly s.shrinks_refl nofun nofun
        (fun tx holds => ⟨holds, nofun, nofun⟩) fun tx _ holds => holds
  | commit tx =>
    obtain ⟨shrinks, closed⟩ := s.commit_closes now tx
    refine orderly_plain orderly shrinks names nofun nofun ?_
    intro other still holds
    cases due.symm.trans holds
    exact absurd still closed
  | rollback tx =>
    obtain ⟨shrinks, closed⟩ := s.rollback_closes tx
    refine orderly_plain orderly shrinks names nofun nofun ?_
    intro other still holds
    cases due.symm.trans holds
    exact absurd still closed

/-- Calls that are due one after another keep the books in order. -/
theorem orderly_calls {calls : List EngineCall} (orderly : Orderly books s)
    (dues : EngineCall.Dues engine now (held (books i)) s calls) :
    Orderly (Function.update books i (books i ++ calls))
      (calls.foldl (EngineCall.effect engine now) s) := by
  induction calls generalizing books s with
  | nil =>
    rw [List.append_nil, Function.update_eq_self]
    exact orderly
  | cons call rest ih =>
    -- The rest is due from what the book with the first call says is held.
    have first := orderly_call orderly dues.1
    have dues' : EngineCall.Dues engine now (held (books.note i call i))
        (call.effect engine now s) rest := by
      rw [note_self, held_append]
      exact dues.2
    have last := ih first dues'
    rw [note_self, List.append_assoc] at last
    rwa [Books.note, Function.update_idem] at last

end GraphProtocol.Literal
