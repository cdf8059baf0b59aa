import Mathlib.Data.List.Basic
import GraphProtocol.Proofs.Query.Bookmarks
import GraphProtocol.Proofs.Query.Effects

/-!
# Calls that overlap leave the engine in order

Whatever turns the calls of any number of clients take, and whenever transactions have lasted too
long, every number is given out once, every transaction is ended once, and what is open is what has
been begun and has come to no end. A call that fails does so in its first turn.
-/

set_option autoImplicit false

namespace GraphProtocol.Literal

/-! ## What is on record after a turn -/

namespace System

def Opens (w : System) (i : Nat) (tx : TxId) : Prop :=
  ∃ metadata, w.progress i = .going (.opening tx metadata)

def Seals (w : System) (i : Nat) (tx : TxId) : Prop := w.progress i = .going (.sealing tx)

theorem turn_cases (w : System) (i : Nat) (now : Instant) :
    (∃ outcome, w.progress i = .done outcome ∧ w.turn i now = w) ∨
    ∃ task progress store, w.progress i = .going task ∧
      Effect w.store now task (progress, store) ∧ w.turn i now = w.note i progress store := by
  unfold turn
  cases here : w.progress i with
  | done outcome => exact .inl ⟨outcome, rfl, rfl⟩
  | going task => exact .inr ⟨task, _, _, rfl, advance_effect w.store now task, rfl⟩

section Records

variable {w : System} {i j : Nat} {progress : Progress} {store : Store} {tx : TxId}

theorem note_here : (w.note i progress store).progress i = progress := if_pos rfl

theorem note_there (other : j ≠ i) : (w.note i progress store).progress j = w.progress j :=
  if_neg other

theorem note_records {α : Type} (f : Outcome → Option α) :
    (w.note i progress store).outcomes.filterMap f =
      w.outcomes.filterMap f ++ (progress.outcome?.bind f).toList := by
  have last : progress.outcome?.toList.filterMap f = (progress.outcome?.bind f).toList := by
    cases progress.outcome? with
    | none => rfl
    | some outcome => cases shown : f outcome <;> simp [shown]
  unfold note
  rw [List.filterMap_append, last]

theorem records_same {α : Type} {f : Outcome → Option α}
    (none : progress.outcome?.bind f = none) :
    (w.note i progress store).outcomes.filterMap f = w.outcomes.filterMap f := by
  rw [note_records, none]
  exact List.append_nil _

theorem opens_note : (w.note i progress store).Opens j tx ↔
    (j = i ∧ ∃ metadata, progress = .going (.opening tx metadata)) ∨ (j ≠ i ∧ w.Opens j tx) := by
  by_cases here : j = i
  · subst here
    simp [Opens, note_here]
  · simp [Opens, note_there here, here]

theorem seals_note : (w.note i progress store).Seals j tx ↔
    (j = i ∧ progress = .going (.sealing tx)) ∨ (j ≠ i ∧ w.Seals j tx) := by
  by_cases here : j = i
  · subst here
    simp [Seals, note_here]
  · simp [Seals, note_there here, here]

/-- A call that goes on shows nothing. -/
theorem note_going (w : System) (i : Nat) (task : Task) (store : Store) :
    (w.note i (.going task) store).begun = w.begun ∧
    (w.note i (.going task) store).ended = w.ended ∧
    (w.note i (.going task) store).expired = w.expired :=
  ⟨records_same rfl, records_same rfl, records_same rfl⟩

/-- What is on record once a call has ended. -/
theorem note_done (w : System) (i : Nat) (outcome : Outcome) (store : Store) :
    (w.note i (.done outcome) store).begun = w.begun ++ outcome.begun?.toList ∧
    (w.note i (.done outcome) store).ended = w.ended ++ outcome.ended?.toList ∧
    (w.note i (.done outcome) store).expired = w.expired ++ outcome.expired?.toList ∧
    (∀ j tx, (w.note i (.done outcome) store).Opens j tx ↔ j ≠ i ∧ w.Opens j tx) ∧
    ∀ j tx, (w.note i (.done outcome) store).Seals j tx ↔ j ≠ i ∧ w.Seals j tx := by
  refine ⟨note_records _, note_records _, note_records _, ?_, ?_⟩
  · intro j tx
    rw [opens_note]
    simp
  · intro j tx
    rw [seals_note]
    simp

end Records

/-! ## Bookmarks are numbered in order -/

theorem allotted_turn {w : System} (i : Nat) (now : Instant)
    (before : w.allotted = Store.firstBookmarks w.store.lastBookmark) :
    (w.turn i now).allotted = Store.firstBookmarks (w.turn i now).store.lastBookmark := by
  obtain ⟨-, -, same⟩ | ⟨task, progress, store, -, effect, after⟩ := w.turn_cases i now
  · rw [same]
    exact before
  · rw [after]
    unfold allotted at before ⊢
    rw [note_records, before]
    cases effect with
    | silent silent => rw [silent.allotted]; exact List.append_nil _
    | @launched query plan production names =>
      have shown : (Progress.done (.started plan.columns production)).outcome?.bind
          Outcome.allotted? = some w.store.nextBookmark.1 := names
      rw [shown]
      exact (Store.firstBookmarks_succ _).symm
    | lost | sealed => exact (Store.firstBookmarks_succ _).symm
    | expired | taken | rolledBack | numbered | opened => exact List.append_nil _

/-- Only a bookmark that has been numbered is handed out. -/
theorem allotted_of_bookmark {outcome : Outcome} {b : String}
    (handed : outcome.bookmark? = some b) : outcome.allotted? = some b := by
  cases outcome with
  | brokenDown => cases handed
  | _ => exact handed

theorem bookmarks_sublist (outcomes : List Outcome) :
    (outcomes.filterMap Outcome.bookmark?).Sublist (outcomes.filterMap Outcome.allotted?) := by
  induction outcomes with
  | nil => exact .slnil
  | cons outcome rest ih =>
    rw [List.filterMap_cons, List.filterMap_cons]
    cases handed : outcome.bookmark? with
    | some b =>
      rw [allotted_of_bookmark handed]
      exact ih.cons_cons b
    | none =>
      cases outcome.allotted? with
      | none => exact ih
      | some b => exact ih.cons b

/-- If no query has broken down, every bookmark that has been numbered has been handed out. -/
theorem bookmarks_complete {w : System} (sound : ∀ b, Outcome.brokenDown b ∉ w.outcomes) :
    w.bookmarks = w.allotted := by
  apply List.filterMap_congr
  intro outcome among
  cases outcome with
  | brokenDown b => exact absurd among (sound b)
  | _ => rfl

/-! ## Every number is given out once -/

/-- A number that has been given out is in use at one place, and within the counter. -/
structure Numbered (w : System) : Prop where
  opening : ∀ i tx, w.Opens i tx → tx.number ≤ w.store.lastTx ∧ tx ∉ w.begun
  apart : ∀ i j tx, w.Opens i tx → w.Opens j tx → i = j
  begun : ∀ tx ∈ w.begun, tx.number ≤ w.store.lastTx
  once : w.begun.Nodup

section Numbers

variable {w : System} {i : Nat} {progress : Progress} {store : Store}

/-- A turn that opens no transaction. -/
theorem numbered_plain (numbered : w.Numbered) (last : store.lastTx = w.store.lastTx)
    (unopened : ∀ tx metadata, progress ≠ .going (.opening tx metadata))
    (unbegun : progress.outcome?.bind Outcome.begun? = none) :
    (w.note i progress store).Numbered := by
  have same : (w.note i progress store).begun = w.begun := records_same unbegun
  have opens (j : Nat) (tx : TxId) (holds : (w.note i progress store).Opens j tx) :
      w.Opens j tx := by
    rcases opens_note.mp holds with ⟨-, metadata, new⟩ | ⟨-, old⟩
    · exact absurd new (unopened tx metadata)
    · exact old
  have last' : (w.note i progress store).store.lastTx = w.store.lastTx := last
  constructor
  · intro j tx holds
    rw [last', same]
    exact numbered.opening j tx (opens j tx holds)
  · intro j k tx first second
    exact numbered.apart j k tx (opens j tx first) (opens k tx second)
  · rw [last', same]
    exact numbered.begun
  · rw [same]
    exact numbered.once

/-- A call gets the next number. -/
theorem numbered_next (numbered : w.Numbered) (metadata : TxMetadata) :
    (w.note i (.going (.opening ⟨w.store.lastTx + 1⟩ metadata))
      { w.store with lastTx := w.store.lastTx + 1 }).Numbered := by
  -- Every number that has been given out before is smaller.
  have fresh (j : Nat) (old : w.Opens j ⟨w.store.lastTx + 1⟩) : False :=
    Nat.not_succ_le_self _ (numbered.opening j _ old).1
  have unbegun : (⟨w.store.lastTx + 1⟩ : TxId) ∉ w.begun := fun old =>
    Nat.not_succ_le_self _ (numbered.begun _ old)
  obtain ⟨same, -⟩ := w.note_going i (.opening ⟨w.store.lastTx + 1⟩ metadata)
    { w.store with lastTx := w.store.lastTx + 1 }
  constructor
  · intro j tx holds
    rw [same]
    rcases opens_note.mp holds with ⟨-, metadata', new⟩ | ⟨-, old⟩
    · cases new
      exact ⟨Nat.le_refl _, unbegun⟩
    · obtain ⟨bound, unbegun⟩ := numbered.opening j tx old
      exact ⟨Nat.le_succ_of_le bound, unbegun⟩
  · intro j k tx first second
    rcases opens_note.mp first with ⟨rfl, _, new⟩ | ⟨-, old⟩ <;>
      rcases opens_note.mp second with ⟨rfl, _, new'⟩ | ⟨-, old'⟩
    · rfl
    · cases new
      exact (fresh k old').elim
    · cases new'
      exact (fresh j old).elim
    · exact numbered.apart j k tx old old'
  · rw [same]
    exact fun tx old => Nat.le_succ_of_le (numbered.begun tx old)
  · rw [same]
    exact numbered.once

/-- A transaction is entered in the table, and its call ends. -/
theorem numbered_opened {tx : TxId} (numbered : w.Numbered) (last : store.lastTx = w.store.lastTx)
    (opens : w.Opens i tx) : (w.note i (.done (.begun tx)) store).Numbered := by
  obtain ⟨bound, unbegun⟩ := numbered.opening i tx opens
  obtain ⟨begun, -, -, opens', -⟩ := w.note_done i (.begun tx) store
  have last' : (w.note i (.done (.begun tx)) store).store.lastTx = w.store.lastTx := last
  constructor
  · intro j other holds
    obtain ⟨away, old⟩ := (opens' j other).mp holds
    obtain ⟨bound', unbegun'⟩ := numbered.opening j other old
    rw [last', begun]
    refine ⟨bound', ?_⟩
    intro among
    rcases List.mem_append.mp among with earlier | new
    · exact unbegun' earlier
    · cases List.mem_singleton.mp new
      exact away (numbered.apart j i tx old opens)
  · intro j k other first second
    exact numbered.apart j k other ((opens' j other).mp first).2 ((opens' k other).mp second).2
  · intro other among
    rw [begun] at among
    rw [last']
    rcases List.mem_append.mp among with earlier | new
    · exact numbered.begun other earlier
    · cases List.mem_singleton.mp new
      exact bound
  · rw [begun]
    exact numbered.once.append (List.nodup_singleton tx)
      (List.disjoint_singleton.mpr unbegun)

/-- A turn keeps count of the numbers. -/
theorem numbered_turn (numbered : w.Numbered) (i : Nat) (now : Instant) :
    (w.turn i now).Numbered := by
  obtain ⟨-, -, same⟩ | ⟨task, progress, store, here, effect, after⟩ := w.turn_cases i now
  · rw [same]
    exact numbered
  · rw [after]
    cases effect with
    | silent silent => exact numbered_plain numbered rfl silent.opening silent.begun
    | expired | taken | rolledBack | launched | lost | sealed =>
      exact numbered_plain numbered rfl nofun rfl
    | numbered => exact numbered_next numbered _
    | opened => exact numbered_opened numbered rfl ⟨_, here⟩

end Numbers

/-! ## Every transaction comes to one end -/

/-- A transaction that has been begun is open, about to be committed, or has come to an end. -/
structure Settled (w : System) : Prop where
  isOpen : ∀ tx, w.store.IsOpen tx ↔
    tx ∈ w.begun ∧ tx ∉ w.ended ∧ tx ∉ w.expired ∧ ∀ i, ¬w.Seals i tx
  sealing : ∀ i tx, w.Seals i tx → tx ∈ w.begun ∧ tx ∉ w.ended
  apart : ∀ i j tx, w.Seals i tx → w.Seals j tx → i = j
  ended : ∀ tx ∈ w.ended, tx ∈ w.begun
  expired : ∀ tx ∈ w.expired, tx ∈ w.begun
  once : w.ended.Nodup

section Ends

variable {w : System} {i : Nat} {progress : Progress} {store : Store} {tx : TxId}

/-- A turn that begins and ends nothing. -/
theorem settled_plain (settled : w.Settled) (before : ∀ tx, ¬w.Seals i tx)
    (after : ∀ tx, progress ≠ .going (.sealing tx))
    (unbegun : progress.outcome?.bind Outcome.begun? = none)
    (unended : progress.outcome?.bind Outcome.ended? = none)
    (timely : progress.outcome?.bind Outcome.expired? = none)
    (same : ∀ tx, store.IsOpen tx ↔ w.store.IsOpen tx) : (w.note i progress store).Settled := by
  have seals (j : Nat) (tx : TxId) : (w.note i progress store).Seals j tx ↔ w.Seals j tx := by
    rw [seals_note]
    grind
  have begun : (w.note i progress store).begun = w.begun := records_same unbegun
  have ended : (w.note i progress store).ended = w.ended := records_same unended
  have expired : (w.note i progress store).expired = w.expired := records_same timely
  have isOpen : ∀ tx, (w.note i progress store).store.IsOpen tx ↔ w.store.IsOpen tx := same
  constructor
  · simpa only [isOpen, begun, ended, expired, seals] using settled.isOpen
  · simpa only [begun, ended, seals] using settled.sealing
  · simpa only [seals] using settled.apart
  · simpa only [begun, ended] using settled.ended
  · simpa only [begun, expired] using settled.expired
  · simpa only [ended] using settled.once

/-- A transaction is entered in the table. -/
theorem settled_opened (settled : w.Settled) (before : ∀ tx, ¬w.Seals i tx) (fresh : tx ∉ w.begun)
    (opens : ∀ other, store.IsOpen other ↔ other = tx ∨ w.store.IsOpen other) :
    (w.note i (.done (.begun tx)) store).Settled := by
  obtain ⟨begun, ended, expired, -, seals⟩ := w.note_done i (.begun tx) store
  have isOpen : ∀ other, (w.note i (.done (.begun tx)) store).store.IsOpen other ↔
      other = tx ∨ w.store.IsOpen other := opens
  dsimp only [Outcome.begun?, Outcome.ended?, Outcome.expired?, Option.toList]
    at begun ended expired
  obtain ⟨live, sealing, apart, begun', begun'', once⟩ := settled
  constructor <;> grind

/-- An open transaction has lasted too long, or is rolled back. -/
theorem settled_closed {outcome : Outcome} (settled : w.Settled) (before : ∀ tx, ¬w.Seals i tx)
    (live : w.store.IsOpen tx) (closes : outcome = .expired tx ∨ outcome = .rolledBack tx) :
    (w.note i (.done outcome) (w.store.erase tx)).Settled := by
  obtain ⟨begun, ended, expired, -, seals⟩ := w.note_done i outcome (w.store.erase tx)
  have isOpen (other : TxId) : (w.note i (.done outcome) (w.store.erase tx)).store.IsOpen other ↔
      w.store.IsOpen other ∧ other ≠ tx := Store.isOpen_erase
  obtain ⟨live, sealing, apart, begun', begun'', once⟩ := settled
  rcases closes with rfl | rfl
  · dsimp only [Outcome.begun?, Outcome.ended?, Outcome.expired?, Option.toList]
      at begun ended expired
    constructor <;> grind
  · dsimp only [Outcome.begun?, Outcome.ended?, Outcome.expired?, Option.toList]
      at begun ended expired
    constructor <;> grind

/-- An open transaction is taken out of the table to be committed. -/
theorem settled_taken (settled : w.Settled) (before : ∀ tx, ¬w.Seals i tx)
    (live : w.store.IsOpen tx) :
    (w.note i (.going (.sealing tx)) (w.store.erase tx)).Settled := by
  have seals (j : Nat) (other : TxId) :
      (w.note i (.going (.sealing tx)) (w.store.erase tx)).Seals j other ↔
        (j = i ∧ tx = other) ∨ w.Seals j other := by
    rw [seals_note]
    grind
  obtain ⟨begun, ended, expired⟩ := w.note_going i (.sealing tx) (w.store.erase tx)
  have isOpen (other : TxId) :
      (w.note i (.going (.sealing tx)) (w.store.erase tx)).store.IsOpen other ↔
        w.store.IsOpen other ∧ other ≠ tx := Store.isOpen_erase
  have taken : (w.note i (.going (.sealing tx)) (w.store.erase tx)).Seals i tx :=
    (seals i tx).mpr (.inl ⟨rfl, rfl⟩)
  obtain ⟨live, sealing, apart, begun', begun'', once⟩ := settled
  constructor <;> grind

/-- A transaction that has been taken out of the table is committed. -/
theorem settled_sealed {bookmark : String} (settled : w.Settled) (sealed : w.Seals i tx)
    (same : ∀ tx, store.IsOpen tx ↔ w.store.IsOpen tx) :
    (w.note i (.done (.committed tx bookmark)) store).Settled := by
  obtain ⟨begun, ended, expired, -, seals⟩ := w.note_done i (.committed tx bookmark) store
  have isOpen : ∀ other, (w.note i (.done (.committed tx bookmark)) store).store.IsOpen other ↔
      w.store.IsOpen other := same
  dsimp only [Outcome.begun?, Outcome.ended?, Outcome.expired?, Option.toList]
    at begun ended expired
  -- The call holds no other transaction.
  have only (other : TxId) (also : w.Seals i other) : other = tx := by
    unfold Seals at sealed also
    rw [sealed] at also
    cases also
    rfl
  obtain ⟨live, sealing, apart, begun', begun'', once⟩ := settled
  constructor <;> grind

theorem settled_turn (numbered : w.Numbered) (settled : w.Settled) (i : Nat) (now : Instant) :
    (w.turn i now).Settled := by
  obtain ⟨-, -, same⟩ | ⟨task, progress, store, here, effect, after⟩ := w.turn_cases i now
  · rw [same]
    exact settled
  · rw [after]
    -- A call that is at anything else holds no transaction to be committed.
    have idle (other : ∀ tx, task ≠ .sealing tx) (tx : TxId) : ¬w.Seals i tx := by
      intro seals
      unfold Seals at seals
      rw [here] at seals
      cases seals
      exact other tx rfl
    cases effect with
    | silent silent =>
      exact settled_plain settled (idle nofun) silent.sealing silent.begun silent.ended
        silent.expired fun _ => Iff.rfl
    | expired found late =>
      exact settled_closed settled (idle nofun) (find_open found) (.inl rfl)
    | taken live => exact settled_taken settled (idle nofun) live
    | rolledBack live => exact settled_closed settled (idle nofun) live (.inr rfl)
    | launched | lost =>
      exact settled_plain settled (idle nofun) nofun rfl rfl rfl fun _ => Iff.rfl
    | sealed => exact settled_sealed settled here fun _ => Iff.rfl
    | numbered => exact settled_plain settled (idle nofun) nofun rfl rfl rfl fun _ => Iff.rfl
    | @opened tx metadata =>
      have fresh : tx ∉ w.begun := (numbered.opening i tx ⟨metadata, here⟩).2
      exact settled_opened settled (idle nofun) fresh fun _ => Store.isOpen_cons

end Ends

/-- Only a transaction that has been begun is committed or rolled back. -/
theorem effect_begun {w : System} {i : Nat} {now : Instant} {task : Task} {progress : Progress}
    {store : Store} {tx : TxId} (settled : w.Settled) (here : w.progress i = .going task)
    (effect : Effect w.store now task (progress, store))
    (ended : progress.outcome?.bind Outcome.ended? = some tx) : tx ∈ w.begun := by
  cases effect with
  | silent silent => cases silent.ended.symm.trans ended
  | rolledBack live =>
    cases ended
    exact ((settled.isOpen tx).mp live).1
  | sealed =>
    cases ended
    exact (settled.sealing i tx here).1
  | expired | taken | launched | lost | numbered | opened => cases ended

def Ordered (outcomes : List Outcome) : Prop :=
  ∀ early outcome late tx, outcomes = early ++ outcome :: late → outcome.ended? = some tx →
    tx ∈ early.filterMap Outcome.begun?

theorem ordered_append {outcomes : List Outcome} {last : Outcome} (ordered : Ordered outcomes)
    (after : ∀ tx, last.ended? = some tx → tx ∈ outcomes.filterMap Outcome.begun?) :
    Ordered (outcomes ++ [last]) := by
  intro early outcome late tx split ended
  rcases List.eq_nil_or_concat late with rfl | ⟨rest, final, rfl⟩
  · obtain ⟨rfl, same⟩ := List.append_inj' split rfl
    cases same
    exact after tx ended
  · have split : outcomes ++ [last] = (early ++ outcome :: rest) ++ [final] := by simpa using split
    obtain ⟨same, -⟩ := List.append_inj' split rfl
    exact ordered early outcome rest tx same ended

theorem ordered_turn {w : System} (settled : w.Settled) (ordered : Ordered w.outcomes) (i : Nat)
    (now : Instant) : Ordered (w.turn i now).outcomes := by
  obtain ⟨-, -, same⟩ | ⟨task, progress, store, here, effect, after⟩ := w.turn_cases i now
  · rw [same]
    exact ordered
  · rw [after]
    have begun (tx : TxId) (ended : progress.outcome?.bind Outcome.ended? = some tx) :
        tx ∈ w.begun := effect_begun settled here effect ended
    unfold note
    cases progress with
    | going task => simpa [Progress.outcome?] using ordered
    | done outcome => exact ordered_append ordered begun

/-! ## Whole runs -/

theorem run_concat (w : System) (turns : List (Nat × Instant)) (i : Nat) (now : Instant) :
    w.run (turns ++ [(i, now)]) = (w.run turns).turn i now := by
  simp [run, List.foldl_append]

/-- A call that has taken a turn is not asked again. -/
theorem run_asked {calls : Nat → Call} {turns : List (Nat × Instant)} {i : Nat} {call : Call}
    (asked : ((start calls).run turns).progress i = .going (.asked call)) :
    i ∉ turns.map (·.1) := by
  induction turns using List.reverseRecOn with
  | nil => exact List.not_mem_nil
  | append_singleton turns last ih =>
    obtain ⟨j, now⟩ := last
    rw [run_concat] at asked
    have other : i ≠ j ∧ ((start calls).run turns).progress i = .going (.asked call) := by
      obtain ⟨outcome, ended, same⟩ | ⟨task, progress, store, here, effect, after⟩ :=
        ((start calls).run turns).turn_cases j now
      · rw [same] at asked
        refine ⟨?_, asked⟩
        rintro rfl
        cases ended.symm.trans asked
      · rw [after] at asked
        by_cases self : i = j
        · subst self
          rw [note_here] at asked
          subst asked
          cases effect with
          | silent silent => exact absurd rfl (silent.asked call)
        · rw [note_there self] at asked
          exact ⟨self, asked⟩
    simpa [other.1] using ih other.2

/-- What holds of the engine after these turns. -/
structure Lawful (w : System) (turns : List (Nat × Instant)) : Prop where
  /-- No transaction is begun twice, -/
  begun : w.begun.Nodup
  /-- or ended twice, -/
  ended : w.ended.Nodup
  /-- and it is ended after it has been begun. -/
  ordered : Ordered w.outcomes
  /-- A transaction is open from its beginning until it is committed, rolled back or found to have
  lasted too long. While it is being committed it is open no more. -/
  isOpen : ∀ tx, w.store.IsOpen tx ↔
    tx ∈ w.begun ∧ tx ∉ w.ended ∧ tx ∉ w.expired ∧ ∀ i, ¬w.Seals i tx
  /-- No bookmark is handed out twice. -/
  distinct : w.bookmarks.Nodup
  /-- They are numbered one after another, -/
  numbers : w.allotted.map Store.bookmarkNumber? = (List.range' 1 w.allotted.length).map some
  /-- and handed out in that order, -/
  handed : w.bookmarks.Sublist w.allotted
  /-- all of them if no query has broken down. -/
  complete : (∀ b, Outcome.brokenDown b ∉ w.outcomes) → w.bookmarks = w.allotted
  /-- Whoever begins a transaction with bookmarks that have been handed out goes on to a number, -/
  begins : ∀ now metadata, (∀ b ∈ metadata.bookmarks, b ∈ w.bookmarks) →
    w.store.advance now (.asked (.begin metadata)) = (.going (.numbering metadata), w.store)
  /-- and a query with such bookmarks is launched unless there is something else wrong with it. -/
  executes : ∀ now query plan, (∀ b ∈ query.metadata.bookmarks, b ∈ w.bookmarks) →
    Store.plan query = .ok plan →
    w.store.advance now (.asked (.execute query none)) = (.going (.launching query plan), w.store)
  /-- A call that fails has taken no turn before. It changes nothing, except that it may close a
  transaction that has lasted too long. -/
  fails : ∀ i now task outcome, w.progress i = .going task →
    (w.turn i now).progress i = .done outcome → outcome.isFailure = true →
    i ∉ turns.map (·.1) ∧ (w.turn i now).store.lastTx = w.store.lastTx ∧
    (w.turn i now).store.lastBookmark = w.store.lastBookmark ∧
    ∀ tx, ((w.turn i now).store.IsOpen tx ↔ w.store.IsOpen tx ∧ outcome ≠ .expired tx) ∧
      (outcome = .expired tx → ∃ t, w.store.find? tx = some t ∧ t.isExpired now = true)

theorem start_numbered (calls : Nat → Call) : (start calls).Numbered := by
  constructor
  · rintro i tx ⟨metadata, ⟨⟩⟩
  · rintro i j tx ⟨metadata, ⟨⟩⟩
  · exact List.forall_mem_nil _
  · exact List.nodup_nil

theorem start_settled (calls : Nat → Call) : (start calls).Settled := by
  constructor
  · intro tx
    constructor
    · intro live
      obtain ⟨t, ⟨⟩⟩ := Store.isOpen_iff.mp live
    · rintro ⟨⟨⟩, -⟩
  · rintro i tx ⟨⟩
  · rintro i j tx ⟨⟩
  · exact List.forall_mem_nil _
  · exact List.forall_mem_nil _
  · exact List.nodup_nil

/-- Every run keeps account of numbers, transactions and bookmarks. -/
theorem run_kept (calls : Nat → Call) (turns : List (Nat × Instant)) :
    ((start calls).run turns).Numbered ∧ ((start calls).run turns).Settled ∧
      Ordered ((start calls).run turns).outcomes ∧
      ((start calls).run turns).allotted =
        Store.firstBookmarks ((start calls).run turns).store.lastBookmark := by
  induction turns using List.reverseRecOn with
  | nil =>
    refine ⟨start_numbered calls, start_settled calls, ?_, rfl⟩
    intro early outcome late tx split
    simp [run, start] at split
  | append_singleton turns last ih =>
    obtain ⟨i, now⟩ := last
    obtain ⟨numbered, settled, ordered, allotted⟩ := ih
    rw [run_concat]
    exact ⟨numbered_turn numbered i now, settled_turn numbered settled i now,
      ordered_turn settled ordered i now, allotted_turn i now allotted⟩

/-- Whatever calls are made, and in whatever order they take their turns, the engine stays lawful
as long as the numbers of bookmarks have 64 bits. -/
theorem run_lawful (calls : Nat → Call) (turns : List (Nat × Instant))
    (few : ((start calls).run turns).store.lastBookmark ≤ Text.maxWord64) :
    ((start calls).run turns).Lawful turns := by
  obtain ⟨numbered, settled, ordered, allotted⟩ := run_kept calls turns
  have sublist : ((start calls).run turns).bookmarks.Sublist ((start calls).run turns).allotted :=
    bookmarks_sublist _
  have accepted (names : List String)
      (handed : ∀ b ∈ names, b ∈ ((start calls).run turns).bookmarks) :
      ((start calls).run turns).store.checkBookmarks names = .ok () := by
    apply Store.firstBookmarks_valid few
    intro b among
    rw [← allotted]
    exact sublist.subset (handed b among)
  constructor
  · exact numbered.once
  · exact settled.once
  · exact ordered
  · exact settled.isOpen
  · rw [allotted] at sublist
    exact sublist.nodup (Store.firstBookmarks_nodup _)
  · rw [allotted, Store.firstBookmarks_numbers few]
    simp [Store.firstBookmarks]
  · exact sublist
  · exact bookmarks_complete
  · intro now metadata handed
    dsimp only [Store.advance, Store.enter]
    rw [accepted metadata.bookmarks handed]
  · intro now query plan handed planned
    dsimp only [Store.advance, Store.enter, Store.allow]
    rw [accepted query.metadata.bookmarks handed]
    dsimp only
    rw [planned]
  · intro i now task outcome here ended failed
    obtain ⟨_, earlier, -⟩ | ⟨task', progress, store, here', effect, after⟩ :=
      ((start calls).run turns).turn_cases i now
    · cases here.symm.trans earlier
    · rw [after] at ended ⊢
      rw [note_here] at ended
      subst ended
      obtain ⟨⟨call, rfl⟩, rest⟩ := effect_failure effect failed
      exact ⟨run_asked here', rest⟩

/-- Two clients begin, the second with a short timeout, and then one commits while the other tries
to roll back the same transaction. A third begins after the commit. -/
def sampleCalls : Nat → Call
  | 0 => .begin .default
  | 1 => .begin ⟨[], some ⟨5⟩, .empty⟩
  | 2 => .commit ⟨2⟩
  | 3 => .rollback ⟨2⟩
  | 4 => .commit ⟨1⟩
  | _ => .begin ⟨[Store.bookmark 1], none, .empty⟩

def sampleTurns : List (Nat × Instant) :=
  [(0, 0), (1, 0), (1, 1), (0, 1), (0, 2), (1, 3), (2, 4), (3, 5), (4, 9), (2, 10), (5, 11)]

theorem sample_lawful :
    ((start sampleCalls).run sampleTurns).begun = [⟨2⟩, ⟨1⟩] ∧
    ((start sampleCalls).run sampleTurns).expired = [⟨1⟩] ∧
    ((start sampleCalls).run sampleTurns).bookmarks = [Store.bookmark 1] ∧
    ((start sampleCalls).run sampleTurns).Lawful sampleTurns := by
  have few : ((start sampleCalls).run sampleTurns).store.lastBookmark ≤ Text.maxWord64 := by cbv
  exact ⟨by cbv, by cbv, by cbv, run_lawful sampleCalls sampleTurns few⟩

end System

end GraphProtocol.Literal
