import Mathlib
import GraphProtocol.Proofs.Wire.Carrying
import GraphProtocol.Proofs.Wire.Compositional

/-!
# Reading with further bytes behind

A reader may look ahead, since the size of a collection is compared with all the
bytes that are left. Still, bytes behind those that were there change nothing but a
lack of bytes: a value is read as it was and ends where it did, a verdict stays, and
as long as the further bytes are too few, so many fewer are lacking.
-/

set_option autoImplicit false

namespace GraphProtocol.Wire

variable {α β : Type}

abbrev Outcome (α : Type) := EStateM.Result ProtocolError Cursor α

/-! ## Moving forward -/

def stop : Outcome α → Cursor
  | .ok _ cursor | .error _ cursor => cursor

def Advances (read : Reader α) : Prop := ∀ cursor, (stop (read cursor)).rest <:+ cursor.rest

theorem advances_bind {read : Reader α} {next : α → Reader β} (first : Advances read)
    (further : ∀ a, Advances (next a)) : Advances (read >>= next) := by
  intro cursor
  have early := first cursor
  change (stop (EStateM.bind read next cursor)).rest <:+ cursor.rest
  unfold EStateM.bind
  generalize read cursor = outcome at early ⊢
  cases outcome with
  | ok a between => exact (further a between).trans early
  | error e between => exact early

/-- A change of the depth leaves the bytes where they are. -/
theorem advances_depth (change : Nat → Nat) :
    Advances (modify fun cursor : Cursor => { cursor with depth := change cursor.depth }) :=
  fun _ => List.suffix_rfl

theorem advances_leaving {body : Reader α} (inside : Advances body) :
    Advances (Reader.leaving body) := by
  intro cursor
  have early := inside cursor
  unfold Reader.leaving
  generalize body cursor = outcome at early ⊢
  cases outcome <;> exact early

theorem advances_byte : Advances Reader.byte := by
  rintro ⟨rest, depth⟩
  cases rest with
  | nil => exact List.suffix_rfl
  | cons b rest => exact List.suffix_cons b rest

theorem advances_take (count : Nat) : Advances (Reader.take count) := by
  intro cursor
  unfold Reader.take
  dsimp only
  split
  · exact List.suffix_rfl
  · exact List.drop_suffix count cursor.rest

theorem advances_require (count : Nat) : Advances (Reader.require count) := by
  intro cursor
  unfold Reader.require
  dsimp only
  split <;> exact List.suffix_rfl

theorem advances_compositional (version : Version) :
    Compositional fun _ read => Advances (read version) where
  pure _ := fun _ => List.suffix_rfl
  fail _ := fun _ => List.suffix_rfl
  bind := advances_bind
  byte := advances_byte
  take := advances_take
  require := advances_require
  depth := advances_depth
  leaving := advances_leaving
  extended _ inside := by
    dsimp only
    split
    · exact inside
    · exact fun _ => List.suffix_rfl

/-! ## Bytes behind -/

def Cursor.followed (cursor : Cursor) (further : List UInt8) : Cursor :=
  { cursor with rest := cursor.rest ++ further }

/-- What becomes of an outcome when further bytes stand behind. -/
inductive Kept (further : List UInt8) : Outcome α → Outcome α → Prop
  | given {a : α} {after : Cursor} : Kept further (.ok a after) (.ok a (after.followed further))
  | judged {e : ProtocolError} {after : Cursor} : (∀ n, e ≠ .truncated n) →
      Kept further (.error e after) (.error e (after.followed further))
  /-- The further bytes are too few. -/
  | lacking {n : Nat} {after : Cursor} : further.length < n →
      Kept further (.error (.truncated n) after)
        (.error (.truncated (n - further.length)) (after.followed further))
  /-- Something was lacking that is there now. -/
  | supplied {n : Nat} {after : Cursor} {second : Outcome α} : 0 < n → n ≤ further.length →
      Kept further (.error (.truncated n) after) second

def Steady (read : Reader α) : Prop :=
  ∀ cursor further, Kept further (read cursor) (read (cursor.followed further))

theorem steady_pure (a : α) : Steady (pure a) := fun _ _ => .given

theorem steady_bind {read : Reader α} {next : α → Reader β} (first : Steady read)
    (further : ∀ a, Steady (next a)) : Steady (read >>= next) := by
  intro cursor behind
  have kept := first cursor behind
  change Kept behind (EStateM.bind read next cursor) (EStateM.bind read next _)
  unfold EStateM.bind
  generalize read cursor = outcome at kept ⊢
  generalize read (cursor.followed behind) = second at kept ⊢
  cases kept with
  | given => exact further _ _ behind
  | judged verdict => exact .judged verdict
  | lacking few => exact .lacking few
  | supplied pos enough => exact .supplied pos enough

theorem steady_throw {e : ProtocolError} (verdict : e.judgesBytes = true) :
    Steady (throw e : Reader α) := by
  intro cursor behind
  apply Kept.judged
  rintro n rfl
  cases verdict

/-- A change of the depth does not depend on the bytes. -/
theorem steady_depth (change : Nat → Nat) :
    Steady (modify fun cursor : Cursor => { cursor with depth := change cursor.depth }) :=
  fun _ _ => .given

theorem steady_leaving {body : Reader α} (inside : Steady body) :
    Steady (Reader.leaving body) := by
  intro cursor behind
  have kept := inside cursor behind
  unfold Reader.leaving
  generalize body cursor = outcome at kept ⊢
  generalize body (cursor.followed behind) = second at kept ⊢
  cases kept with
  | given => exact .given
  | judged verdict => exact .judged verdict
  | lacking few => exact .lacking few
  | supplied pos enough => exact .supplied pos enough

theorem steady_byte : Steady Reader.byte := by
  rintro ⟨rest, depth⟩ behind
  cases rest with
  | cons b rest => exact .given
  | nil =>
    by_cases few : behind.length < 1
    · obtain rfl := List.length_eq_zero_iff.mp (Nat.lt_one_iff.mp few)
      exact .lacking few
    · exact .supplied Nat.one_pos (Nat.le_of_not_lt few)

/-! ## Counted bytes -/

section Counted

variable {count depth : Nat} {rest : List UInt8}

theorem take_enough (enough : count ≤ rest.length) :
    Reader.take count ⟨rest, depth⟩ = .ok (rest.take count) ⟨rest.drop count, depth⟩ := by
  simp [Reader.take, enough]

theorem take_lacking (few : rest.length < count) :
    Reader.take count ⟨rest, depth⟩ = .error (.truncated (count - rest.length)) ⟨rest, depth⟩ := by
  have all : rest.take count = rest := List.take_of_length_le (by omega)
  simp [Reader.take, all, few]

theorem require_lacking (few : rest.length < count) : Reader.require count ⟨rest, depth⟩ =
    .error (.truncated (count - rest.length)) ⟨rest, depth⟩ := by
  have all : rest.take count = rest := List.take_of_length_le (by omega)
  simp [Reader.require, all, few]

end Counted

/-- A reader that looks at so many bytes, and at nothing behind them. -/
theorem steady_counted {read : Reader α} (count : Nat)
    (gives : ∀ rest depth further, count ≤ rest.length → ∃ a after,
      read ⟨rest, depth⟩ = .ok a after ∧
        read ⟨rest ++ further, depth⟩ = .ok a (after.followed further))
    (lacks : ∀ rest depth, rest.length < count →
      read ⟨rest, depth⟩ = .error (.truncated (count - rest.length)) ⟨rest, depth⟩) :
    Steady read := by
  rintro ⟨rest, depth⟩ behind
  change Kept behind (read ⟨rest, depth⟩) (read ⟨rest ++ behind, depth⟩)
  by_cases few : rest.length < count
  · rw [lacks rest depth few]
    by_cases still : behind.length < count - rest.length
    · have length : (rest ++ behind).length = rest.length + behind.length := List.length_append
      rw [lacks _ depth (by omega), length, Nat.sub_add_eq]
      exact .lacking still
    · exact .supplied (Nat.sub_pos_of_lt few) (Nat.le_of_not_lt still)
  · obtain ⟨a, after, here, there⟩ := gives rest depth behind (Nat.le_of_not_lt few)
    rw [here, there]
    exact .given

theorem steady_take (count : Nat) : Steady (Reader.take count) := by
  apply steady_counted count
  · intro rest depth further enough
    refine ⟨_, _, take_enough enough, ?_⟩
    rw [take_enough (by rw [List.length_append]; omega), List.take_append_of_le_length enough,
      List.drop_append_of_le_length enough]
    rfl
  · intro rest depth few
    exact take_lacking few

theorem steady_require (count : Nat) : Steady (Reader.require count) := by
  apply steady_counted count
  · intro rest depth further enough
    refine ⟨_, _, require_ok enough, ?_⟩
    rw [require_ok (by rw [List.length_append]; omega)]
    rfl
  · intro rest depth few
    exact require_lacking few

/-! ## Values -/

theorem steady_compositional (version : Version) :
    Compositional fun _ read => Steady (read version) where
  pure := steady_pure
  fail verdict := steady_throw (verdict version)
  bind := steady_bind
  byte := steady_byte
  take := steady_take
  require := steady_require
  depth := steady_depth
  leaving := steady_leaving
  extended verdict inside := by
    dsimp only
    split
    · exact inside
    · exact steady_throw (verdict version)

theorem value_kept (version : Version) (bytes further : List UInt8) : Kept further
    (Reader.value version (.start bytes)) (Reader.value version (.start (bytes ++ further))) :=
  (steady_compositional version).valueWithin maxDepth (.start bytes) further

theorem value_stops (version : Version) {bytes : List UInt8} {v : Value} {after : Cursor}
    (given : Reader.value version (.start bytes) = .ok v after) :
    ∃ k ≤ bytes.length, after.rest = bytes.drop k := by
  have last := (advances_compositional version).valueWithin maxDepth (.start bytes)
  change (stop (Reader.value version (.start bytes))).rest <:+ bytes at last
  rw [given] at last
  exact ⟨_, Nat.sub_le _ _, List.suffix_iff_eq_drop.mp last⟩

section Values

variable {version : Version} {bytes further : List UInt8}

theorem value_given {v : Value} {after : Cursor}
    (given : Reader.value version (.start bytes) = .ok v after) :
    Reader.value version (.start (bytes ++ further)) = .ok v (after.followed further) := by
  have kept := value_kept version bytes further
  rw [given] at kept
  generalize Reader.value version (.start (bytes ++ further)) = second at kept ⊢
  cases kept
  rfl

theorem value_judged {e : ProtocolError} (verdict : ∀ n, e ≠ .truncated n)
    (failed : Reader.outcome (Reader.value version) bytes = .error e) :
    Reader.outcome (Reader.value version) (bytes ++ further) = .error e := by
  obtain ⟨after, came⟩ := outcome_failed.mp failed
  have kept := value_kept version bytes further
  rw [came] at kept
  apply outcome_failed.mpr
  generalize Reader.value version (.start (bytes ++ further)) = second at kept ⊢
  cases kept with
  | judged _ => exact ⟨_, rfl⟩
  | lacking few => exact absurd rfl (verdict _)
  | supplied pos enough => exact absurd rfl (verdict _)

theorem value_lacking {n : Nat} (few : further.length < n)
    (failed : Reader.outcome (Reader.value version) bytes = .error (.truncated n)) :
    Reader.outcome (Reader.value version) (bytes ++ further) =
      .error (.truncated (n - further.length)) := by
  obtain ⟨after, came⟩ := outcome_failed.mp failed
  have kept := value_kept version bytes further
  rw [came] at kept
  apply outcome_failed.mpr
  generalize Reader.value version (.start (bytes ++ further)) = second at kept ⊢
  cases kept with
  | judged verdict => exact absurd rfl (verdict n)
  | lacking few => exact ⟨_, rfl⟩
  | supplied pos enough => omega

/-- Bytes that are cut off a whole value are missed, and at most so many. -/
theorem value_cut {v : Value} (whole : Value.decode version (bytes ++ further) = .ok v)
    (shorter : 0 < further.length) : ∃ n, 1 ≤ n ∧ n ≤ further.length ∧
      Reader.outcome (Reader.value version) bytes = .error (.truncated n) := by
  obtain ⟨depth, given⟩ := Value.decode_given.mp whole
  have kept := value_kept version bytes further
  rw [given] at kept
  generalize ended : (.ok v ⟨[], depth⟩ : Outcome Value) = second at kept
  generalize came : Reader.value version (.start bytes) = outcome at kept
  cases kept with
  | given =>
    -- The value would end before the bytes that are cut off.
    obtain ⟨-, same⟩ := EStateM.Result.ok.inj ended
    have left := congrArg (fun cursor => cursor.rest.length) same
    simp only [Cursor.followed, List.length_append, List.length_nil] at left
    omega
  | judged verdict => cases ended
  | lacking few => cases ended
  | supplied pos enough => exact ⟨_, pos, enough, outcome_failed.mpr ⟨_, came⟩⟩

end Values

/-- With further bytes behind, a value is read as before and ends where it did, a verdict stays,
and a lack that the further bytes do not make up is less by so many. Whatever is cut off a whole
value leaves a lack of at least one byte and at most of those. -/
theorem value_persists (version : Version) (bytes : List UInt8) :
    (∀ further : List UInt8,
      (∀ v after, Reader.value version (.start bytes) = .ok v after →
        ∃ k ≤ bytes.length, after.rest = bytes.drop k ∧
          Reader.value version (.start (bytes ++ further)) =
            .ok v ⟨(bytes ++ further).drop k, after.depth⟩) ∧
      (∀ e, Reader.outcome (Reader.value version) bytes = .error e → (∀ n, e ≠ .truncated n) →
        Reader.outcome (Reader.value version) (bytes ++ further) = .error e) ∧
      ∀ n, Reader.outcome (Reader.value version) bytes = .error (.truncated n) →
        further.length < n → Reader.outcome (Reader.value version) (bytes ++ further) =
          .error (.truncated (n - further.length))) ∧
    ∀ v, Value.decode version bytes = .ok v → ∀ j, 1 ≤ j → j ≤ bytes.length →
      ∃ n, 1 ≤ n ∧ n ≤ j ∧
        Reader.outcome (Reader.value version) (bytes.take (bytes.length - j)) =
          .error (.truncated n) ∧
        Value.decode version (bytes.take (bytes.length - j)) = .error (.truncated n) := by
  constructor
  · intro further
    refine ⟨?_, fun e failed verdict => value_judged verdict failed,
      fun n failed few => value_lacking few failed⟩
    intro v after given
    obtain ⟨k, within, stopped⟩ := value_stops version given
    refine ⟨k, within, stopped, ?_⟩
    rw [value_given given, List.drop_append_of_le_length within, ← stopped]
    rfl
  · intro v whole j least most
    rw [← List.take_append_drop (bytes.length - j) bytes] at whole
    have cut : (bytes.drop (bytes.length - j)).length = j := by
      rw [List.length_drop]
      omega
    obtain ⟨n, pos, enough, lack⟩ := value_cut whole (by omega)
    exact ⟨n, pos, cut ▸ enough, lack, Value.decode_failed lack⟩

def sampleList : List UInt8 := [0x92, 0x01, 0x82, 0x61, 0x62]

theorem sample_persists :
    (∃ k ≤ 5, [] = sampleList.drop k ∧ Reader.value .v1 (.start (sampleList ++ [0x2A])) =
      .ok (.list [.integer 1, .string "ab"]) ⟨(sampleList ++ [0x2A]).drop k, 0⟩) ∧
    Reader.outcome (Reader.value .v1) ([0x91, 0xC4] ++ [0x2A]) =
      .error (.malformed (.unknownMarker 0xC4)) ∧
    Reader.outcome (Reader.value .v1) ([0x93, 0x01] ++ [0x2A]) = .error (.truncated 1) ∧
    ∃ n, 1 ≤ n ∧ n ≤ 2 ∧ Reader.outcome (Reader.value .v1) [0x92, 0x01, 0x82] =
      .error (.truncated n) := by
  have read : Reader.value .v1 (.start sampleList) =
      .ok (.list [.integer 1, .string "ab"]) ⟨[], 0⟩ := by cbv
  have refused : Reader.outcome (Reader.value .v1) [0x91, 0xC4] =
      .error (.malformed (.unknownMarker 0xC4)) := by cbv
  have verdict (n : Nat) : ProtocolError.malformed (.unknownMarker 0xC4) ≠ .truncated n := by simp
  have lacking : Reader.outcome (Reader.value .v1) [0x93, 0x01] = .error (.truncated 2) := by cbv
  have whole : Value.decode .v1 sampleList = .ok (.list [.integer 1, .string "ab"]) :=
    Value.decode_given.mpr ⟨0, read⟩
  refine ⟨((value_persists .v1 sampleList).1 [0x2A]).1 _ _ read,
    ((value_persists .v1 [0x91, 0xC4]).1 [0x2A]).2.1 _ refused verdict,
    ((value_persists .v1 [0x93, 0x01]).1 [0x2A]).2.2 2 lacking (by decide), ?_⟩
  obtain ⟨n, least, most, lack, -⟩ := (value_persists .v1 sampleList).2 _ whole 2 (by decide)
    (by decide)
  exact ⟨n, least, most, lack⟩

end GraphProtocol.Wire
