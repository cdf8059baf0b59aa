import Mathlib.Tactic
import GraphProtocol.Wire.Reader

/-!
# What readers have from their parts

A property of readers is compositional if the elementary readers have it and every
way of putting readers together hands it on. The reader for values then has it, at
any number of levels. A reader is taken at all versions at once, so that a property
may also compare what two versions make of the same bytes.
-/

set_option autoImplicit false

namespace GraphProtocol

open Wire

/-- Whether the error is a verdict on bytes that are there, and not on where they end. -/
def ProtocolError.judgesBytes : ProtocolError → Bool
  | malformed _ | unknownStructure _ _ | structureArity _ _ _ | depthExceeded _ | invalidUtf8 =>
    true
  | _ => false

namespace Wire

/-! ## What has been given, and what has failed -/

section Outcomes

variable {α β : Type} {read : Reader α} {next : α → Reader β} {cursor after : Cursor}

theorem sequence_after {a : α} (given : read cursor = .ok a after) :
    (read >>= next) cursor = next a after := by
  change EStateM.bind read next _ = _
  unfold EStateM.bind
  rw [given]

theorem sequence_ends {e : ProtocolError} (failed : read cursor = .error e after) :
    (read >>= next) cursor = .error e after := by
  change EStateM.bind read next _ = _
  unfold EStateM.bind
  rw [failed]

theorem sequence_given {b : β} : (read >>= next) cursor = .ok b after ↔
    ∃ a between, read cursor = .ok a between ∧ next a between = .ok b after := by
  change EStateM.bind read next cursor = _ ↔ _
  unfold EStateM.bind
  cases read cursor with
  | ok a between => simp
  | error e between => simp

theorem sequence_failed {e : ProtocolError} : (read >>= next) cursor = .error e after ↔
    read cursor = .error e after ∨
      ∃ a between, read cursor = .ok a between ∧ next a between = .error e after := by
  change EStateM.bind read next cursor = _ ↔ _
  unfold EStateM.bind
  cases read cursor with
  | ok a between => simp
  | error e between => simp

theorem enter_given {inner : Option (Reader Value)} {body : Reader Value → Reader α} {a : α}
    (given : Reader.enter inner body cursor = .ok a after) :
    ∃ read, inner = some read ∧ body read ⟨cursor.rest, cursor.depth + 1⟩ = .ok a after := by
  cases inner with
  | none => cases given
  | some read => exact ⟨read, rfl, given⟩

theorem leaving_given {body : Reader α} {a : α} : Reader.leaving body cursor = .ok a after ↔
    ∃ between, body cursor = .ok a between ∧
      after = { between with depth := between.depth - 1 } := by
  unfold Reader.leaving
  cases body cursor with
  | ok b between => simp [eq_comm]
  | error e between => simp

theorem leaving_failed {body : Reader α} {e : ProtocolError} :
    Reader.leaving body cursor = .error e after ↔
      ∃ between, body cursor = .error e between ∧
        after = { between with depth := between.depth - 1 } := by
  unfold Reader.leaving
  cases body cursor with
  | ok b between => simp
  | error e between => simp [eq_comm]

theorem orMalformed_given {value : Option α} {cause : Malformation} {a : α}
    (given : Reader.orMalformed value cause cursor = .ok a after) :
    value = some a ∧ after = cursor := by
  cases value with
  | none => cases given
  | some b =>
    cases given
    exact ⟨rfl, rfl⟩

theorem outcome_failed {e : ProtocolError} {bytes : List UInt8} :
    Reader.outcome read bytes = .error e ↔ ∃ after, read (.start bytes) = .error e after := by
  unfold Reader.outcome
  cases read (.start bytes) with
  | ok a after => simp
  | error e after => simp

end Outcomes

/-! ## The parts of readers -/

/-- Elementary readers have the property, and sequences of readers hand it on. Readers are taken
in families, each at a version of its own. -/
structure Sequential {ι : Type} (version : ι → Version) (P : (α : Type) → (ι → Reader α) → Prop) :
    Prop where
  pure : ∀ {α : Type} (a : α), P α fun _ => Pure.pure a
  fail : ∀ {α : Type} {e : Version → ProtocolError}, (∀ v, (e v).judgesBytes = true) →
    P α fun i => throw (e (version i))
  bind : ∀ {α β : Type} {read : ι → Reader α} {next : ι → α → Reader β},
    P α read → (∀ a, P β fun i => next i a) → P β fun i => read i >>= next i
  byte : P UInt8 fun _ => Reader.byte
  take : ∀ count, P (List UInt8) fun _ => Reader.take count
  require : ∀ count, P Unit fun _ => Reader.require count
  /-- What only the later versions read. -/
  extended : ∀ {α : Type} {read : ι → Reader α} {e : Version → ProtocolError},
    (∀ v, (e v).judgesBytes = true) → P α read →
    P α fun i => if (version i).hasExtendedValues then read i else throw (e (version i))

/-- The property is also kept whatever happens to the depth. -/
structure Compositional (P : (α : Type) → (Version → Reader α) → Prop) : Prop
    extends Sequential (fun v => v) P where
  depth : ∀ change : Nat → Nat,
    P Unit fun _ => modify fun cursor => { cursor with depth := change cursor.depth }
  leaving : ∀ {α : Type} {read : Version → Reader α}, P α read →
    P α fun v => Reader.leaving (read v)

namespace Sequential

variable {ι : Type} {version : ι → Version} {P : (α : Type) → (ι → Reader α) → Prop}
  (closed : Sequential version P) {α β : Type}
include closed

theorem wrap {read : ι → Reader α} (wrap : α → β) (first : P α read) :
    P β fun i => read i >>= fun a => Pure.pure (wrap a) :=
  closed.bind first fun a => closed.pure (wrap a)

theorem refuse {e : ProtocolError} (verdict : e.judgesBytes = true) : P α fun _ => throw e :=
  closed.fail (e := fun _ => e) fun _ => verdict

theorem malformed (cause : Malformation) : P α fun _ => Reader.malformed cause :=
  closed.refuse rfl

theorem orMalformed (value : Option α) (cause : Malformation) :
    P α fun _ => Reader.orMalformed value cause := by
  cases value with
  | some a => exact closed.pure a
  | none => exact closed.malformed cause

theorem unsigned (width : Nat) : P Nat fun _ => Reader.unsigned width :=
  closed.wrap ofBigEndian (closed.take width)

theorem signed (width : Nat) : P Int64 fun _ => Reader.signed width :=
  closed.wrap (fun bytes => Int64.ofInt (ofSignedBigEndian bytes)) (closed.take width)

theorem extent (size : Extent) : P Nat fun _ => Reader.extent size := by
  cases size with
  | inline size => exact closed.pure size
  | following width => exact closed.unsigned width

theorem text (size : Nat) : P String fun _ => Reader.text size := by
  apply closed.bind (closed.take size)
  intro bytes
  cases ofUtf8? bytes with
  | some s => exact closed.pure s
  | none => exact closed.refuse rfl

theorem items {read : ι → Reader α} (each : P α read) (count : Nat) :
    P (List α) fun i => Reader.items (read i) count := by
  have onto (done : List α) : P (List α) fun i => Reader.itemsOnto (read i) count done := by
    induction count generalizing done with
    | zero => exact closed.pure done.reverse
    | succ count ih => exact closed.bind each fun item => ih (item :: done)
  exact onto []

theorem headerAfter (size : Extent) : P (Nat × UInt8) fun _ => Reader.headerAfter size :=
  closed.bind (closed.extent size) fun fields => closed.wrap (fields, ·) closed.byte

theorem structureHeader : P (Nat × UInt8) fun _ => Reader.structureHeader := by
  apply closed.bind closed.byte
  intro b
  split
  · exact closed.headerAfter _
  · exact closed.malformed _

/-! ## Fields -/

section Fields

variable {read : ι → Reader Value} (inside : P Value read)
include inside

theorem expecting (expected : ValueType) (as? : Value → Option α) :
    P α fun i => Reader.expecting (read i) expected as? := by
  apply closed.bind inside
  intro value
  cases as? value with
  | some a => exact closed.pure a
  | none => exact closed.malformed (.unexpectedType expected value.type)

theorem integerBy : P Int64 fun i => Reader.integerBy (read i) := closed.expecting inside _ _

theorem floatBy : P Binary64 fun i => Reader.floatBy (read i) := closed.expecting inside _ _

theorem stringBy : P String fun i => Reader.stringBy (read i) := closed.expecting inside _ _

theorem listBy : P (List Value) fun i => Reader.listBy (read i) := closed.expecting inside _ _

theorem mapBy : P (Dict Value) fun i => Reader.mapBy (read i) := closed.expecting inside _ _

theorem listOfBy (convert : Value → Except Malformation α) :
    P (List α) fun i => Reader.listOfBy (read i) convert := by
  apply closed.bind (closed.listBy inside)
  intro values
  cases values.mapM convert with
  | ok converted => exact closed.pure converted
  | error cause => exact closed.malformed cause

theorem entry : P (String × Value) fun i => Reader.entry (read i) := by
  apply closed.bind inside
  intro key
  cases key with
  | string key => exact closed.wrap (key, ·) inside
  | _ => exact closed.malformed _

theorem nodeFields : P (Node Value) fun i => Reader.nodeFields (read i) :=
  closed.bind (closed.integerBy inside) fun id =>
    closed.bind (closed.listOfBy inside _) fun labels =>
      closed.wrap (Node.mk id labels) (closed.mapBy inside)

theorem unboundFields : P (UnboundRelationship Value) fun i => Reader.unboundFields (read i) :=
  closed.bind (closed.integerBy inside) fun id =>
    closed.bind (closed.stringBy inside) fun type =>
      closed.wrap (UnboundRelationship.mk id type) (closed.mapBy inside)

theorem relationshipFields : P (Relationship Value) fun i => Reader.relationshipFields (read i) :=
  closed.bind (closed.integerBy inside) fun id =>
    closed.bind (closed.integerBy inside) fun startNode =>
      closed.bind (closed.integerBy inside) fun endNode =>
        closed.bind (closed.stringBy inside) fun type =>
          closed.wrap (Relationship.mk id startNode endNode type) (closed.mapBy inside)

theorem pathFields : P (Path Value) fun i => Reader.pathFields (read i) :=
  closed.bind (closed.listOfBy inside _) fun nodes =>
    closed.bind (closed.listOfBy inside _) fun relationships =>
      closed.wrap (Path.mk nodes relationships) (closed.listOfBy inside _)

omit inside in
theorem localDateTimeOf (second nanos : Int64) :
    P Calendar.LocalDateTime fun _ => Reader.localDateTimeOf second nanos := by
  unfold Reader.localDateTimeOf
  split
  · exact closed.orMalformed _ _
  · exact closed.malformed _

theorem fieldsOf (kind : StructureKind) : P Value fun i => Reader.fieldsOf (read i) kind := by
  have integer := closed.integerBy inside
  have float := closed.floatBy inside
  cases kind with
  | node => exact closed.wrap Value.node (closed.nodeFields inside)
  | relationship => exact closed.wrap Value.relationship (closed.relationshipFields inside)
  | unboundRelationship =>
    exact closed.wrap Value.unboundRelationship (closed.unboundFields inside)
  | path => exact closed.wrap Value.path (closed.pathFields inside)
  | point2D =>
    exact closed.bind integer fun srid => closed.bind float fun x =>
      closed.wrap (fun y => Value.point2D ⟨srid, x, y⟩) float
  | point3D =>
    exact closed.bind integer fun srid => closed.bind float fun x => closed.bind float fun y =>
      closed.wrap (fun z => Value.point3D ⟨srid, x, y, z⟩) float
  | date =>
    exact closed.bind integer fun days => closed.wrap Value.date (closed.orMalformed _ _)
  | time =>
    exact closed.bind integer fun nanos => closed.bind integer fun seconds =>
      closed.bind (closed.orMalformed _ _) fun time =>
        closed.wrap (fun offset => Value.time ⟨time, offset⟩) (closed.orMalformed _ _)
  | localTime =>
    exact closed.bind integer fun nanos => closed.wrap Value.localTime (closed.orMalformed _ _)
  | localDateTime =>
    exact closed.bind integer fun second => closed.bind integer fun nanos =>
      closed.wrap Value.localDateTime (closed.localDateTimeOf second nanos)
  | dateTime =>
    exact closed.bind integer fun second => closed.bind integer fun nanos =>
      closed.bind integer fun seconds => closed.bind (closed.orMalformed _ _) fun offset =>
        closed.bind (closed.localDateTimeOf second nanos) fun wall =>
          closed.wrap Value.dateTime (closed.orMalformed _ _)
  | zonedDateTime =>
    exact closed.bind integer fun second => closed.bind integer fun nanos =>
      closed.bind (closed.stringBy inside) fun zone =>
        closed.wrap (fun wall => Value.zonedDateTime ⟨wall, zone⟩)
          (closed.localDateTimeOf second nanos)
  | duration =>
    exact closed.bind integer fun months => closed.bind integer fun days =>
      closed.bind integer fun seconds =>
        closed.wrap (fun nanos => Value.duration ⟨months, days, seconds, nanos⟩) integer

end Fields

end Sequential

/-! ## Structures and values -/

/-- A signature is unknown to all versions, or names one structure wherever that exists. -/
theorem ofSignature?_cases (signature : UInt8) :
    (∀ v, StructureKind.ofSignature? v signature = none) ∨
      ∃ kind : StructureKind, ∀ v, StructureKind.ofSignature? v signature =
        if kind.isExtended && !v.hasExtendedValues then none else some kind := by
  by_cases known : ∃ kind : StructureKind, kind.signature = signature
  · obtain ⟨kind, rfl⟩ := known
    right
    exact ⟨kind, fun v => by cases v <;> cases kind <;> rfl⟩
  · left
    intro v
    apply List.find?_eq_none.mpr
    intro kind _ found
    exact known ⟨kind, eq_of_beq (Bool.and_eq_true_iff.mp found).1⟩

def Reader.valueAfter (version : Version) (list : Nat → Reader (List Value))
    (map : Nat → Reader (Dict Value)) (inStructure : Nat → UInt8 → Reader Value) (b : UInt8) :
    Reader Value :=
  match Marker.ofByte? b with
  | some .null => return .null
  | some (.boolean v) => return .boolean v
  | some .float => return .float (.ofWord (← unsigned 8))
  | some (.smallInteger i) => return .integer (Int64.ofInt i)
  | some (.integer width) => return .integer (← signed width)
  | some (.sized .string size) => return .string (← text (← extent size))
  | some (.sized .byteArray size) =>
    if version.hasExtendedValues then return .bytes (← take (← extent size))
    else malformed (.unknownMarker b)
  | some (.sized .list size) => return .list (← list (← extent size))
  | some (.sized .map size) => return .map (← map (← extent size))
  | some (.structure size) => do
    let (fields, signature) ← headerAfter size
    inStructure fields signature
  | none => malformed (.unknownMarker b)

def Reader.structureWithin (version : Version) (inner : Option (Reader Value)) (fields : Nat)
    (signature : UInt8) : Reader Value :=
  enter inner fun read => leaving (structureBody version read fields signature)

/-- A value is its marker and what stands behind that. -/
theorem valueBy_eq (version : Version) (inner : Option (Reader Value)) :
    Reader.valueBy version inner = Reader.byte >>= Reader.valueAfter version
      (Reader.listBody inner) (Reader.mapBody inner) (Reader.structureWithin version inner) := rfl

namespace Sequential

variable {ι : Type} {version : ι → Version} {P : (α : Type) → (ι → Reader α) → Prop}
  (closed : Sequential version P)
include closed

/-- A structure of the later versions is unknown to the first. -/
theorem structureBody {read : ι → Reader Value} (inside : P Value read) (fields : Nat)
    (signature : UInt8) :
    P Value fun i => Reader.structureBody (version i) (read i) fields signature := by
  unfold Reader.structureBody
  rcases ofSignature?_cases signature with unknown | ⟨kind, known⟩
  · simp only [unknown]
    exact closed.fail (e := fun v => .unknownStructure signature v) fun _ => rfl
  · simp only [known]
    have counted : P Value fun i => if fields = kind.arity then Reader.fieldsOf (read i) kind
        else throw (.structureArity signature kind.arity fields) := by
      by_cases right : fields = kind.arity
      · simpa only [if_pos right] using closed.fieldsOf inside kind
      · simpa only [if_neg right] using closed.refuse rfl
    cases kind.isExtended with
    | false => simpa using counted
    | true =>
      have guarded := closed.extended (e := fun v => .unknownStructure signature v)
        (fun _ => rfl) counted
      convert guarded using 2 with i
      cases (version i).hasExtendedValues <;> rfl

theorem valueAfter {list : ι → Nat → Reader (List Value)} {map : ι → Nat → Reader (Dict Value)}
    {inStructure : ι → Nat → UInt8 → Reader Value}
    (lists : ∀ size, P (List Value) fun i => list i size)
    (maps : ∀ size, P (Dict Value) fun i => map i size)
    (structures : ∀ fields signature, P Value fun i => inStructure i fields signature) (b : UInt8) :
    P Value fun i => Reader.valueAfter (version i) (list i) (map i) (inStructure i) b := by
  unfold Reader.valueAfter
  cases Marker.ofByte? b with
  | none => exact closed.malformed _
  | some marker =>
    cases marker with
    | null => exact closed.pure _
    | boolean b => exact closed.pure _
    | float => exact closed.wrap _ (closed.unsigned 8)
    | smallInteger i => exact closed.pure _
    | integer width => exact closed.wrap _ (closed.signed width)
    | sized kind size =>
      cases kind with
      | string => exact closed.bind (closed.extent size) fun n => closed.wrap _ (closed.text n)
      | byteArray =>
        apply closed.extended (e := fun _ => .malformed (.unknownMarker b)) fun _ => rfl
        exact closed.bind (closed.extent size) fun n => closed.wrap _ (closed.take n)
      | list => exact closed.bind (closed.extent size) fun n => closed.wrap _ (lists n)
      | map => exact closed.bind (closed.extent size) fun n => closed.wrap _ (maps n)
    | «structure» size =>
      exact closed.bind (closed.headerAfter size) fun header => structures header.1 header.2

end Sequential

inductive Below (P : (α : Type) → (Version → Reader α) → Prop) :
    (Version → Option (Reader Value)) → Prop
  | none : Below P fun _ => none
  | some {read : Version → Reader Value} : P Value read → Below P fun v => some (read v)

namespace Compositional

variable {P : (α : Type) → (Version → Reader α) → Prop} (closed : Compositional P) {α β : Type}
include closed

/-- No level is left. -/
theorem beyond (body : Reader Value → Reader α) : P α fun _ => Reader.enter none body :=
  closed.bind (closed.depth (· + 1)) fun _ => closed.refuse rfl

theorem enter {read : Version → Reader Value} {body : Version → Reader Value → Reader α}
    (inside : P α fun v => body v (read v)) :
    P α fun v => Reader.enter (some (read v)) (body v) :=
  closed.bind (closed.depth (· + 1)) fun _ => inside

/-- A collection, whose depth is lowered only if its parts are read. -/
theorem level {read : Version → Reader Value} {body : Reader Value → Reader α} (wrap : α → β)
    (inside : P α fun v => body (read v)) :
    P β fun v => Reader.enter (some (read v)) fun read => do
      let parts ← body read
      Reader.leave
      return wrap parts :=
  closed.enter <| closed.bind inside fun parts =>
    closed.bind (closed.depth (· - 1)) fun _ => closed.pure (wrap parts)

section Levels

variable {inner : Version → Option (Reader Value)} (below : Below P inner)
include below

theorem listBody (size : Nat) : P (List Value) fun v => Reader.listBody (inner v) size := by
  apply closed.bind (closed.require size)
  intro _
  cases below with
  | none => exact closed.beyond _
  | some inside => exact closed.level id (closed.items inside size)

theorem mapBody (size : Nat) : P (Dict Value) fun v => Reader.mapBody (inner v) size := by
  apply closed.bind (closed.require (2 * size))
  intro _
  cases below with
  | none => exact closed.beyond _
  | some inside => exact closed.level Dict.ofList (closed.items (closed.entry inside) size)

theorem structureWithin (fields : Nat) (signature : UInt8) :
    P Value fun v => Reader.structureWithin v (inner v) fields signature := by
  cases below with
  | none => exact closed.beyond id
  | some inside =>
    exact closed.enter (closed.leaving (closed.structureBody inside fields signature))

theorem valueAfter (b : UInt8) :
    P Value fun v => Reader.valueAfter v (Reader.listBody (inner v)) (Reader.mapBody (inner v))
      (Reader.structureWithin v (inner v)) b :=
  closed.toSequential.valueAfter (closed.listBody below) (closed.mapBody below)
    (closed.structureWithin below) b

theorem valueBy : P Value fun v => Reader.valueBy v (inner v) :=
  closed.bind closed.byte (closed.valueAfter below)

end Levels

/-- The reader for values has what its parts have. -/
theorem valueWithin (levels : Nat) : P Value fun v => Reader.valueWithin v levels := by
  -- By induction on the levels left, as the reader inside has one less.
  induction levels with
  | zero => exact closed.valueBy .none
  | succ levels ih => exact closed.valueBy (.some ih)

end Compositional

end Wire

/-! ## The one value of some bytes -/

namespace Value

variable {version : Version} {bytes : List UInt8}

theorem decode_given {v : Value} : Value.decode version bytes = .ok v ↔
    ∃ depth, Reader.value version (.start bytes) = .ok v ⟨[], depth⟩ := by
  unfold Value.decode Reader.outcome
  constructor
  · intro given
    split at given
    · next a after came =>
      cases given
      obtain ⟨v, ⟨rest, depth⟩, read, ended⟩ := sequence_given.mp came
      obtain ⟨⟨⟩, _, finished, returned⟩ := sequence_given.mp ended
      cases returned
      cases rest with
      | nil => exact ⟨depth, read⟩
      | cons b rest => cases finished
    · cases given
  · rintro ⟨depth, read⟩
    have ended : (do
        let v ← Reader.value version
        Reader.finish
        return v) (.start bytes) = .ok v ⟨[], depth⟩ :=
      sequence_given.mpr ⟨v, _, read, sequence_given.mpr ⟨(), _, rfl, rfl⟩⟩
    rw [ended]

theorem decode_failed {e : ProtocolError}
    (failed : Reader.outcome (Reader.value version) bytes = .error e) :
    Value.decode version bytes = .error e := by
  obtain ⟨after, came⟩ := outcome_failed.mp failed
  exact outcome_failed.mpr ⟨after, sequence_failed.mpr (.inl came)⟩

end Value

end GraphProtocol
