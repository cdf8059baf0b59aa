import Mathlib
import GraphProtocol.Proofs.Value.Histories
import GraphProtocol.Proofs.Wire.Truncation

/-!
# The depth counter and the room for elements

A read that gives something has consumed a byte at least and leaves the depth counter as it was. One
that fails leaves it there or higher. So no value is read while the counter is beyond the limit, and
what is inside a value is read by at most as many calls as the limit allows. To see this, reading is
watched: every call is counted, the counter is looked at in front of every value, and the bytes left
whenever room is made for elements. The watch never finds anything.
-/

set_option autoImplicit false

namespace GraphProtocol.Wire

variable {α β : Type}

/-! ## Balance -/

def Ends (least finish : Nat) : Outcome α → Prop
  | .ok _ after => after.depth = finish
  | .error _ after => least ≤ after.depth

/-- From this depth on, two readers do the same and end where they should. -/
def Matches (start least finish : Nat) (first second : Reader α) : Prop :=
  ∀ cursor, cursor.depth = start →
    first cursor = second cursor ∧ Ends least finish (second cursor)

section Matching

variable {start least between finish : Nat} {first second : Reader α}

theorem matches_bind {next next' : α → Reader β} (same : Matches start least between first second)
    (further : ∀ a, Matches between least finish (next a) (next' a)) :
    Matches start least finish (first >>= next) (second >>= next') := by
  intro cursor here
  obtain ⟨equal, ended⟩ := same cursor here
  change EStateM.bind first next cursor = EStateM.bind second next' cursor ∧
    Ends least finish (EStateM.bind second next' cursor)
  unfold EStateM.bind
  rw [equal]
  generalize second cursor = outcome at ended ⊢
  cases outcome with
  | ok a after => exact further a after ended
  | error e after => exact ⟨rfl, ended⟩

theorem Matches.weaken (same : Matches start between finish first second)
    (lower : least ≤ between) : Matches start least finish first second := by
  intro cursor here
  obtain ⟨equal, ended⟩ := same cursor here
  refine ⟨equal, ?_⟩
  generalize second cursor = outcome at ended ⊢
  cases outcome with
  | ok a after => exact ended
  | error e after => exact lower.trans ended

theorem matches_pure (a : α) : Matches start least start (pure a) (pure a) :=
  fun _ here => ⟨rfl, here⟩

theorem matches_throw {e : ProtocolError} (low : least ≤ start) :
    Matches start least finish (throw e : Reader α) (throw e) := by
  rintro cursor rfl
  exact ⟨rfl, low⟩

theorem matches_byte (low : least ≤ start) : Matches start least start Reader.byte Reader.byte := by
  rintro ⟨rest, _⟩ rfl
  cases rest with
  | nil => exact ⟨rfl, low⟩
  | cons b rest => exact ⟨rfl, rfl⟩

theorem matches_take (count : Nat) (low : least ≤ start) :
    Matches start least start (Reader.take count) (Reader.take count) := by
  rintro cursor rfl
  refine ⟨rfl, ?_⟩
  unfold Reader.take
  dsimp only
  split
  · exact low
  · exact rfl

theorem matches_require (count : Nat) (low : least ≤ start) :
    Matches start least start (Reader.require count) (Reader.require count) := by
  rintro cursor rfl
  refine ⟨rfl, ?_⟩
  unfold Reader.require
  dsimp only
  split
  · exact low
  · exact rfl

theorem matches_leave : Matches (start + 1) least start Reader.leave Reader.leave := by
  rintro cursor here
  refine ⟨rfl, ?_⟩
  change cursor.depth - 1 = start
  omega

/-- The counter is lowered whether or not the body fails. -/
theorem matches_leaving (inside : Matches (start + 1) (start + 1) (start + 1) first second) :
    Matches (start + 1) start start (Reader.leaving first) (Reader.leaving second) := by
  intro cursor here
  obtain ⟨equal, ended⟩ := inside cursor here
  unfold Reader.leaving
  rw [equal]
  refine ⟨rfl, ?_⟩
  generalize second cursor = outcome at ended ⊢
  cases outcome with
  | ok a after =>
    change after.depth = start + 1 at ended
    change after.depth - 1 = start
    omega
  | error e after =>
    change start + 1 ≤ after.depth at ended
    change start ≤ after.depth - 1
    omega

end Matching

def twin (watched plain : α) : Bool → α
  | true => watched
  | false => plain

def Twins (depth : Nat) (α : Type) (read : Bool → Reader α) : Prop :=
  Matches depth depth depth (read true) (read false)

theorem twins {depth : Nat} {watched plain : Reader α}
    (same : Matches depth depth depth watched plain) : Twins depth α (twin watched plain) := same

/-- Readers that match at one depth are put together to readers that match there. -/
theorem twins_sequential (version : Version) (depth : Nat) :
    Sequential (fun _ : Bool => version) (Twins depth) where
  pure := matches_pure
  fail _ := matches_throw le_rfl
  bind := matches_bind
  byte := matches_byte le_rfl
  take count := matches_take count le_rfl
  require count := matches_require count le_rfl
  extended _ inside := by
    unfold Twins
    dsimp only
    split
    · exact inside
    · exact matches_throw le_rfl

/-! ## Reading that is watched -/

section Watching

-- What is done if the watch finds something.
variable (alarm : (α : Type) → Reader α)

/-- Makes room for elements. Each of them takes a byte, so there cannot be more than bytes left. -/
def Reader.room (count : Nat) : Reader Unit := fun cursor =>
  if cursor.rest.length < count then alarm Unit cursor else .ok () cursor

def Reader.raise : Reader Unit := do
  modify fun cursor => { cursor with depth := cursor.depth + 1 }
  if maxDepth < (← get).depth then throw (.depthExceeded maxDepth)

def Reader.watchedList (read : Reader Value) (size : Nat) : Reader (List Value) := do
  require size
  raise
  room alarm size
  let elements ← items read size
  leave
  return elements

def Reader.watchedMap (read : Reader Value) (size : Nat) : Reader (Dict Value) := do
  require (2 * size)
  raise
  room alarm (2 * size)
  let entries ← items (entry read) size
  leave
  return Dict.ofList entries

def Reader.watchedStructure (version : Version) (read : Reader Value) (fields : Nat)
    (signature : UInt8) : Reader Value := do
  raise
  leaving (structureBody version read fields signature)

/-- A value, with a reader for what is inside it. The counter must not be beyond the limit. -/
def Reader.watchedBy (version : Version) (read : Reader Value) : Reader Value := fun cursor =>
  if maxDepth < cursor.depth then alarm Value cursor
  else (byte >>= valueAfter version (watchedList alarm read) (watchedMap alarm read)
    (watchedStructure version read)) cursor

def Reader.watched (version : Version) : Nat → Reader Value
  | 0 => alarm Value
  | calls + 1 => watchedBy alarm version (watched version calls)

variable {alarm} {start : Nat} {first second : Reader α}

def Inside (depth : Nat) (watched : Reader Value) : Option (Reader Value) → Prop
  | none => maxDepth ≤ depth
  | some read => depth < maxDepth ∧ Matches (depth + 1) (depth + 1) (depth + 1) watched read

theorem raise_eq (cursor : Cursor) : Reader.raise cursor =
    if maxDepth < cursor.depth + 1 then
      .error (.depthExceeded maxDepth) { cursor with depth := cursor.depth + 1 }
    else .ok () { cursor with depth := cursor.depth + 1 } := by
  change (if maxDepth < cursor.depth + 1 then throw _ else pure () : Reader Unit) _ = _
  split <;> rfl

theorem raise_room {count : Nat} {cursor : Cursor} (left : count ≤ cursor.rest.length) :
    (do Reader.raise; Reader.room alarm count; first) cursor =
      (Reader.raise >>= fun _ => first) cursor := by
  have raised := raise_eq cursor
  split at raised
  · rw [sequence_ends raised, sequence_ends raised]
  · rw [sequence_after raised, sequence_after raised]
    exact sequence_after (if_neg (Nat.not_lt.mpr left))

variable {depth : Nat} {inner : Option (Reader Value)} {read : Reader Value}

/-- A level is entered with the counter raised. -/
theorem matches_enter (inside : Inside depth read inner) (body : Reader Value → Reader α)
    (same : ∀ plain, Matches (depth + 1) (depth + 1) (depth + 1) read plain →
      Matches (depth + 1) depth depth (body read) (body plain)) :
    Matches depth depth depth (Reader.raise >>= fun _ => body read) (Reader.enter inner body) := by
  rintro cursor here
  have raised := raise_eq cursor
  cases inner with
  | none =>
    have beyond : maxDepth ≤ depth := inside
    rw [if_pos (by omega)] at raised
    rw [sequence_ends raised]
    refine ⟨rfl, ?_⟩
    change depth ≤ cursor.depth + 1
    omega
  | some plain =>
    obtain ⟨room, inside⟩ := inside
    rw [if_neg (by omega)] at raised
    rw [sequence_after raised]
    exact same plain inside _ (congrArg (· + 1) here)

/-- Once so many bytes are known to be left, there is room for so many elements. -/
theorem matches_reserved {count : Nat}
    (same : Matches depth depth depth (Reader.raise >>= fun _ => first) second) :
    Matches depth depth depth
      (do Reader.require count; Reader.raise; Reader.room alarm count; first)
      (do Reader.require count; second) := by
  rintro cursor here
  by_cases few : cursor.rest.length < count
  · have lacks : Reader.require count cursor =
        .error (.truncated (count - cursor.rest.length)) cursor := require_lacking few
    rw [sequence_ends lacks, sequence_ends lacks]
    exact ⟨rfl, here.ge⟩
  · have left : count ≤ cursor.rest.length := Nat.le_of_not_lt few
    have there : Reader.require count cursor = .ok () cursor := require_ok left
    rw [sequence_after there, sequence_after there, raise_room left]
    exact same cursor here

theorem matches_list (version : Version) (inside : Inside depth read inner) (size : Nat) :
    Matches depth depth depth (Reader.watchedList alarm read size)
      (Reader.listBody inner size) := by
  apply matches_reserved
  apply matches_enter inside fun read => do
    let elements ← Reader.items read size
    Reader.leave
    return elements
  intro plain same
  have elements : Matches (depth + 1) (depth + 1) (depth + 1) (Reader.items read size)
      (Reader.items plain size) := (twins_sequential version (depth + 1)).items (twins same) size
  exact matches_bind (elements.weaken (Nat.le_succ depth)) fun _ =>
    matches_bind matches_leave fun _ => matches_pure _

theorem matches_map (version : Version) (inside : Inside depth read inner) (size : Nat) :
    Matches depth depth depth (Reader.watchedMap alarm read size) (Reader.mapBody inner size) := by
  apply matches_reserved
  apply matches_enter inside fun read => do
    let entries ← Reader.items (Reader.entry read) size
    Reader.leave
    return Dict.ofList entries
  intro plain same
  have closed := twins_sequential version (depth + 1)
  have entries : Matches (depth + 1) (depth + 1) (depth + 1)
      (Reader.items (Reader.entry read) size) (Reader.items (Reader.entry plain) size) :=
    closed.items (closed.entry (twins same)) size
  exact matches_bind (entries.weaken (Nat.le_succ depth)) fun _ =>
    matches_bind matches_leave fun _ => matches_pure _

theorem matches_structure (version : Version) (inside : Inside depth read inner) (fields : Nat)
    (signature : UInt8) : Matches depth depth depth
      (Reader.watchedStructure version read fields signature)
      (Reader.structureWithin version inner fields signature) := by
  apply matches_enter inside fun read =>
    Reader.leaving (Reader.structureBody version read fields signature)
  intro plain same
  exact matches_leaving
    ((twins_sequential version (depth + 1)).structureBody (twins same) fields signature)

/-- Within the limit, a value is read as if no one watched. -/
theorem matches_watchedBy (version : Version) (within : depth ≤ maxDepth)
    (inside : Inside depth read inner) : Matches depth depth depth
      (Reader.watchedBy alarm version read) (Reader.valueBy version inner) := by
  let lists := twin (Reader.watchedList alarm read) (Reader.listBody inner)
  let maps := twin (Reader.watchedMap alarm read) (Reader.mapBody inner)
  let structures := twin (Reader.watchedStructure version read)
    (Reader.structureWithin version inner)
  have listed (size : Nat) : Twins depth (List Value) fun i => lists i size :=
    matches_list version inside size
  have mapped (size : Nat) : Twins depth (Dict Value) fun i => maps i size :=
    matches_map version inside size
  have structured (fields : Nat) (signature : UInt8) :
      Twins depth Value fun i => structures i fields signature :=
    matches_structure version inside fields signature
  have behind := (twins_sequential version depth).valueAfter listed mapped structured
  have same := matches_bind (matches_byte le_rfl) behind
  intro cursor here
  obtain ⟨equal, ended⟩ := same cursor here
  refine ⟨?_, ended⟩
  unfold Reader.watchedBy
  rw [if_neg (by omega)]
  exact equal

/-- If the calls reach beyond the limit, the watch never finds anything. -/
theorem matches_watched (version : Version) {calls : Nat} (within : depth ≤ maxDepth)
    (enough : maxDepth < depth + calls) : Matches depth depth depth
      (Reader.watched alarm version calls) (Reader.value version) := by
  -- By induction on the calls: what is inside is one level down, with one call less.
  induction calls generalizing depth with
  | zero => omega
  | succ calls ih =>
    have inside :
        Inside depth (Reader.watched alarm version calls) (Reader.below version depth) := by
      unfold Reader.below
      by_cases last : maxDepth ≤ depth
      · rw [Nat.sub_eq_zero_of_le last]
        exact last
      · obtain ⟨levels, left⟩ : ∃ levels, maxDepth - depth = levels + 1 :=
          ⟨maxDepth - depth - 1, by omega⟩
        rw [left]
        refine ⟨by omega, fun cursor here => ?_⟩
        have same := @ih (depth + 1) (by omega) (by omega) cursor here
        have rest : maxDepth - cursor.depth = levels := by omega
        unfold Reader.value at same
        rwa [rest] at same
    intro cursor here
    obtain ⟨equal, ended⟩ := matches_watchedBy version within inside cursor here
    rw [value_below, here]
    exact ⟨equal, ended⟩

end Watching

/-! ## Consumption -/

def Consumes (read : Reader α) : Prop :=
  ∀ cursor a after, read cursor = .ok a after → after.rest.length < cursor.rest.length

theorem Advances.shortens {read : Reader α} (forth : Advances read) {cursor after : Cursor} {a : α}
    (given : read cursor = .ok a after) : after.rest.length ≤ cursor.rest.length := by
  have last := forth cursor
  rw [given] at last
  exact last.length_le

theorem consumes_bind {read : Reader α} {next : α → Reader β} (first : Consumes read)
    (further : ∀ a, Advances (next a)) : Consumes (read >>= next) := by
  intro cursor b after given
  obtain ⟨a, between, early, late⟩ := sequence_given.mp given
  exact lt_of_le_of_lt ((further a).shortens late) (first cursor a between early)

theorem consumes_byte : Consumes Reader.byte := by
  rintro ⟨rest, depth⟩ b after given
  cases rest with
  | nil => cases given
  | cons b rest =>
    cases given
    exact Nat.lt_succ_self rest.length

theorem consumes_valueWithin (version : Version) (levels : Nat) :
    Consumes (Reader.valueWithin version levels) := by
  have closed := advances_compositional version
  have behind {inner : Version → Option (Reader Value)}
      (below : Below (fun _ read => Advances (read version)) inner) :
      Consumes (Reader.valueBy version (inner version)) := by
    rw [valueBy_eq]
    exact consumes_bind consumes_byte fun b => closed.valueAfter below b
  cases levels with
  | zero => exact behind .none
  | succ levels =>
    exact @behind (fun v => some (Reader.valueWithin v levels)) (.some (closed.valueWithin levels))

theorem consumes_value (version : Version) : Consumes (Reader.value version) := fun cursor =>
  consumes_valueWithin version (maxDepth - cursor.depth) cursor

theorem advances_value (version : Version) : Advances (Reader.value version) := fun cursor =>
  (advances_compositional version).valueWithin (maxDepth - cursor.depth) cursor

/-! ## Operations -/

inductive ReadOperation where
  | value
  | integer
  | float
  | string
  | list
  | map
  /-- The field count and signature of a structure, whose fields are not read. -/
  | header
  deriving DecidableEq, Repr

namespace ReadOperation

def Result : ReadOperation → Type
  | value => Value
  | integer => Int64
  | float => Binary64
  | string => String
  | list => List Value
  | map => Dict Value
  | header => Nat × UInt8

def read (version : Version) : (op : ReadOperation) → Reader op.Result
  | value => Reader.value version
  | integer => Reader.integer version
  | float => Reader.float version
  | string => Reader.string version
  | list => Reader.list version
  | map => Reader.map version
  | header => Reader.structureHeader

def readBy (value : Reader Value) : (op : ReadOperation) → Reader op.Result
  | .value => value
  | .integer => Reader.integerBy value
  | .float => Reader.floatBy value
  | .string => Reader.stringBy value
  | .list => Reader.listBy value
  | .map => Reader.mapBy value
  | .header => Reader.structureHeader

theorem read_eq (version : Version) (op : ReadOperation) :
    op.read version = op.readBy (Reader.value version) := by cases op <;> rfl

end ReadOperation

theorem Sequential.readBy {ι : Type} {version : ι → Version}
    {P : (α : Type) → (ι → Reader α) → Prop} (closed : Sequential version P)
    {read : ι → Reader Value} (inside : P Value read) (op : ReadOperation) :
    P op.Result fun i => op.readBy (read i) := by
  cases op with
  | value => exact inside
  | integer => exact closed.integerBy inside
  | float => exact closed.floatBy inside
  | string => exact closed.stringBy inside
  | list => exact closed.listBy inside
  | map => exact closed.mapBy inside
  | header => exact closed.structureHeader

namespace ReadOperation

theorem advances_read (version : Version) (op : ReadOperation) : Advances (op.read version) := by
  rw [read_eq]
  have inside : Advances (Reader.value version) := advances_value version
  exact @Sequential.readBy Version _ _ (advances_compositional version).toSequential
    (fun _ => Reader.value version) inside op

theorem consumes_read (version : Version) (op : ReadOperation) : Consumes (op.read version) := by
  have closed := (advances_compositional version).toSequential
  have expecting {α : Type} (expected : ValueType) (as? : Value → Option α) :
      Consumes (Reader.expecting (Reader.value version) expected as?) := by
    apply consumes_bind (consumes_value version)
    intro v
    cases as? v with
    | some a => exact closed.pure a
    | none => exact closed.malformed _
  cases op with
  | value => exact consumes_value version
  | integer | float | string | list | map => exact expecting _ _
  | header =>
    apply consumes_bind consumes_byte
    intro b
    split
    · exact closed.headerAfter _
    · exact closed.malformed _

def watched (alarm : (α : Type) → Reader α) (version : Version) (calls : Nat) (op : ReadOperation) :
    Reader op.Result :=
  op.readBy (Reader.watched alarm version calls)

theorem matches_read (alarm : (α : Type) → Reader α) (version : Version) {depth : Nat} (calls : Nat)
    (within : depth ≤ maxDepth) (enough : maxDepth < depth + calls) (op : ReadOperation) :
    Matches depth depth depth (op.watched alarm version calls) (op.read version) := by
  rw [read_eq]
  exact (twins_sequential version depth).readBy (twins (matches_watched version within enough)) op

end ReadOperation

def Cursor.position (input : List UInt8) (cursor : Cursor) : Nat :=
  input.length - cursor.rest.length

inductive Reached (version : Version) (input : List UInt8) : Cursor → Prop
  | start : Reached version input (.start input)
  | read {cursor : Cursor} (op : ReadOperation) : Reached version input cursor →
      Reached version input (stop (op.read version cursor))

section Reached

variable {version : Version} {input : List UInt8} {cursor : Cursor}

theorem Reached.suffix (reached : Reached version input cursor) : cursor.rest <:+ input := by
  induction reached with
  | start => exact List.suffix_rfl
  | read op _ ih => exact (op.advances_read version _).trans ih

/-- What is left is what stands behind the position. -/
theorem Reached.rest_eq (reached : Reached version input cursor) :
    cursor.position input ≤ input.length ∧ cursor.rest = input.drop (cursor.position input) :=
  ⟨Nat.sub_le _ _, List.suffix_iff_eq_drop.mp reached.suffix⟩

end Reached

/-- Wherever reading has come to, unless the counter is beyond the limit: the position stays within
the input and does not go back. A read that gives something goes forth and leaves the counter as it
was, and one that fails does not leave it lower. The watch never finds anything, so the counter is
within the limit in front of every value, the calls inside each other are at most one more than the
levels left, and room is made for no more elements than bytes are left. -/
theorem reads_balanced (version : Version) (input : List UInt8) (cursor : Cursor)
    (reached : Reached version input cursor) (within : cursor.depth ≤ maxDepth)
    (op : ReadOperation) :
    cursor.rest = input.drop (cursor.position input) ∧
      cursor.position input ≤ (stop (op.read version cursor)).position input ∧
      (stop (op.read version cursor)).position input ≤ input.length ∧
      (∀ a after, op.read version cursor = .ok a after →
        cursor.position input < after.position input ∧ after.depth = cursor.depth) ∧
      (∀ e after, op.read version cursor = .error e after → cursor.depth ≤ after.depth) ∧
      ∀ alarm : (α : Type) → Reader α,
        op.watched alarm version (maxDepth + 1 - cursor.depth) cursor = op.read version cursor := by
  have shorter := (op.advances_read version cursor).length_le
  have inside := reached.suffix.length_le
  have balanced (alarm : (α : Type) → Reader α) := op.matches_read alarm version
    (maxDepth + 1 - cursor.depth) within (by omega) cursor rfl
  have ended := (balanced fun _ => throw .invalidUtf8).2
  refine ⟨reached.rest_eq.2, by unfold Cursor.position; omega, Nat.sub_le _ _, ?_, ?_,
    fun alarm => (balanced alarm).1⟩
  · intro a after given
    have consumed := op.consumes_read version cursor a after given
    rw [given] at ended
    refine ⟨?_, ended⟩
    unfold Cursor.position
    omega
  · intro e after failed
    rw [failed] at ended
    exact ended

def sampleLists : List UInt8 := [0x91, 0xC4, 0x91, 0x2A]

/-- Once the first list has failed, its level stays counted while the second is read. -/
theorem sample_balanced : Reached .v1 sampleLists ⟨[0x91, 0x2A], 1⟩ ∧ 1 ≤ maxDepth ∧
    Reader.value .v1 ⟨[0x91, 0x2A], 1⟩ = .ok (.list [.integer 42]) ⟨[], 1⟩ ∧
    (2 : Nat) < 4 ∧ ∀ alarm : (α : Type) → Reader α,
      Reader.watched alarm .v1 32 ⟨[0x91, 0x2A], 1⟩ = .ok (.list [.integer 42]) ⟨[], 1⟩ := by
  have reached : Reached .v1 sampleLists ⟨[0x91, 0x2A], 1⟩ :=
    @Reached.read .v1 sampleLists (.start sampleLists) .value .start
  have read : Reader.value .v1 ⟨[0x91, 0x2A], 1⟩ = .ok (.list [.integer 42]) ⟨[], 1⟩ := by
    cbv
  obtain ⟨-, -, -, given, -, watched⟩ :=
    reads_balanced .v1 sampleLists _ reached (by decide) .value
  exact ⟨reached, by decide, read, (given _ _ read).1, fun alarm => (watched alarm).trans read⟩

end GraphProtocol.Wire
