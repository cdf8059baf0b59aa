import GraphProtocol.Message.Catalogue
import GraphProtocol.Proofs.Wire.Canonical

/-!
# Requests on the wire

A request is written as a header and its parts, each of which is a value: texts, maps, and maps that
may hold primitive values only. What has been written is read back as the parts, from which the
request is made again. Transaction options survive their map, which leaves out the defaults.
-/

set_option autoImplicit false

namespace GraphProtocol

open Wire

/-! ## Buffers -/

namespace Wire.Written

variable {w : Written} {buffer : List UInt8}

theorem onto_clear (clear : w.abort = none) : w.onto buffer = (.ok (), buffer ++ w.bytes) := by
  unfold onto
  rw [clear]

theorem onto_refused {cause : Unsupported} (refused : w.abort = some (.error cause)) :
    w.onto buffer = (.error (.error (.unsupported cause)), buffer) := by
  unfold onto
  rw [refused]
  simp only [List.take_left]

theorem onto_breakdown (broken : w.abort = some .breakdown) :
    w.onto buffer = (.error .breakdown, buffer ++ w.bytes) := by
  unfold onto
  rw [broken]

/-- What is refused is cut off again. -/
theorem onto_error {e : ProtocolError} {after : List UInt8}
    (outcome : w.onto buffer = (.error (.error e), after)) : after = buffer := by
  cases cut : w.abort with
  | none => cases (onto_clear cut).symm.trans outcome
  | some abort =>
    cases abort with
    | error cause =>
      cases (onto_refused cut).symm.trans outcome
      rfl
    | breakdown => cases (onto_breakdown cut).symm.trans outcome

theorem onto_ok {after : List UInt8} (outcome : w.onto buffer = (.ok (), after)) :
    w.abort = none := by
  cases cut : w.abort with
  | none => rfl
  | some abort =>
    cases abort with
    | error cause => cases (onto_refused cut).symm.trans outcome
    | breakdown => cases (onto_breakdown cut).symm.trans outcome

theorem append_nothing : w ++ concat [] = w := by
  obtain ⟨bytes, abort⟩ := w
  cases abort with
  | some abort => exact append_aborted rfl
  | none =>
    rw [append_clear rfl]
    exact congrArg (Written.mk · none) (List.append_nil bytes)

end Wire.Written

/-! ## Messages -/

namespace Wire

variable {version : Version}

theorem writeStructureHeader_small {fields : Nat} (small : fields < 16) (signature : UInt8) :
    writeStructureHeader fields signature =
      .ofBytes [UInt8.ofNat (structureInlineBase + fields), signature] := if_pos small

theorem reads_structureHeader {fields : Nat} (small : fields < 16) (signature : UInt8) :
    Reads Reader.structureHeader (writeStructureHeader fields signature).bytes
      (fields, signature) := by
  rw [writeStructureHeader_small small]
  apply reads_bind (reads_byte _)
  rw [ofByte?_structure small]
  exact reads_bind (reads_pure fields) (reads_wrap (fields, ·) (reads_byte signature))

/-- Values are read one after another from where no level is open. -/
theorem items_start {values : List Value} (each : ∀ v ∈ values,
      (v.write version).abort = none ∧ v.nesting ≤ maxDepth ∧ v.IsRegular) (rest : List UInt8) :
    Reader.items (Reader.value version) values.length
      ⟨values.flatMap (fun v => (v.write version).bytes) ++ rest, 0⟩ = .ok values ⟨rest, 0⟩ := by
  have onto (done : List Value) : Reader.itemsOnto (Reader.value version) values.length done
      ⟨values.flatMap (fun v => (v.write version).bytes) ++ rest, 0⟩ =
        .ok (done.reverse ++ values) ⟨rest, 0⟩ := by
    induction values generalizing done with
    | nil =>
      rw [List.append_nil]
      rfl
    | cons v others ih =>
      obtain ⟨clear, nesting, regular⟩ := each v List.mem_cons_self
      have first := travels_value v regular maxDepth nesting clear
        (others.flatMap (fun v => (v.write version).bytes) ++ rest) 0
      have further := ih (fun w among => each w (List.mem_cons_of_mem _ among)) (v :: done)
      rw [List.reverse_cons, List.append_assoc] at further
      rw [List.flatMap_cons, List.append_assoc]
      exact sequence_given.mpr ⟨v, _, first, further⟩
  exact onto []

/-- Whatever is read nests no deeper than values may, and is regular. -/
theorem yields_start (version : Version) : Yields (Reader.value version) (Legible maxDepth) := by
  constructor
  intro cursor v after given
  have legible := (yields_within version (maxDepth - cursor.depth)).given cursor v after given
  exact ⟨legible.nesting.trans (Nat.sub_le _ _), legible.regular⟩

end Wire

/-! ## Maps -/

theorem Dict.isPrimitive_get? {d : Dict Value} {key : String} {v : Value}
    (plain : d.firstComplex? = none) (found : d.get? key = some v) : v.isPrimitive = true := by
  obtain ⟨entry, at_, rfl⟩ := Option.map_eq_some_iff.mp found
  have tested := List.find?_eq_none.mp plain entry (List.mem_of_find?_eq_some at_)
  simpa using tested

theorem Value.distinct_map {d : Dict Value} : (Value.map d).hasDistinctKeys = true ↔
    d.DistinctKeys ∧ ∀ v ∈ d.values, v.hasDistinctKeys = true := by
  rw [distinct_iff]
  simp [dicts, children]

theorem Value.distinct_insert {d : Dict Value} {key : String} {v : Value}
    (distinct : (Value.map d).hasDistinctKeys = true) (inside : v.hasDistinctKeys = true) :
    (Value.map (d.insert key v)).hasDistinctKeys = true := by
  obtain ⟨keys, values⟩ := distinct_map.mp distinct
  refine distinct_map.mpr ⟨Dict.distinct_insert keys key v, ?_⟩
  intro w among
  obtain ⟨entry, held, rfl⟩ := List.mem_map.mp among
  rcases Dict.mem_insertEntry held with rfl | old
  · exact inside
  · exact values _ (Dict.mem_values old)

theorem Value.isPrimitive_map {d : Dict Value} :
    (Value.map d).isPrimitive = true ↔ d.firstComplex? = none := by
  rw [isPrimitive, Dict.firstComplex?]
  simp [Dict.values]

/-! ## Transaction options -/

namespace TxMetadata

variable {m : TxMetadata}

theorem get?_bookmarks (m : TxMetadata) : m.toMap.get? bookmarksKey =
    if m.bookmarks.isEmpty then none else some (.list (m.bookmarks.map .string)) := by
  unfold toMap
  cases m.timeout <;> cases m.entries.isEmpty <;> cases m.bookmarks.isEmpty <;>
    simp [Dict.get?_insert, bookmarksKey, timeoutKey, entriesKey]

theorem get?_timeout (m : TxMetadata) : m.toMap.get? timeoutKey =
    m.timeout.map fun limit => .integer (Int64.ofNat (min limit.millis maxTimeout)) := by
  unfold toMap
  cases m.timeout <;> cases m.entries.isEmpty <;> cases m.bookmarks.isEmpty <;>
    simp [Dict.get?_insert, bookmarksKey, timeoutKey, entriesKey]

theorem get?_entries (m : TxMetadata) : m.toMap.get? entriesKey =
    if m.entries.isEmpty then none else some (.map m.entries) := by
  unfold toMap
  cases m.timeout <;> cases m.entries.isEmpty <;> cases m.bookmarks.isEmpty <;>
    simp [Dict.get?_insert, bookmarksKey, timeoutKey, entriesKey]

theorem bookmarksOf_toMap (m : TxMetadata) : bookmarksOf m.toMap = .ok m.bookmarks := by
  unfold bookmarksOf
  rw [get?_bookmarks]
  cases empty : m.bookmarks.isEmpty with
  | true => simp [List.isEmpty_iff.mp empty]
  | false =>
    have texts : (m.bookmarks.map Value.string).mapM Value.asString? = some m.bookmarks := by
      induction m.bookmarks with
      | nil => rfl
      | cons first rest ih => simp [Value.asString?, ih]
    simp [texts]

theorem entriesOf_toMap (plain : m.toMap.firstComplex? = none) :
    entriesOf m.toMap = .ok m.entries := by
  have found := get?_entries m
  unfold entriesOf
  rw [found]
  cases empty : m.entries.isEmpty with
  | true =>
    have none : m.entries = .empty := congrArg Dict.mk (List.isEmpty_iff.mp empty)
    simp [none]
  | false =>
    rw [empty] at found
    have inside : m.entries.firstComplex? = none :=
      Value.isPrimitive_map.mp (Dict.isPrimitive_get? plain found)
    simp [inside]

def WholeTimeout (m : TxMetadata) : Prop :=
  ∀ limit, m.timeout = some limit → ∃ millis ≤ maxTimeout, limit = .ofMillis millis

theorem timeoutOf_toMap (whole : m.WholeTimeout) : timeoutOf m.toMap = .ok m.timeout := by
  unfold timeoutOf
  rw [get?_timeout]
  cases given : m.timeout with
  | none => rfl
  | some limit =>
    obtain ⟨millis, small, rfl⟩ := whole limit given
    have same : (Span.ofMillis millis).millis = millis := Nat.mul_div_cancel millis (by decide)
    have held : (Int64.ofNat millis).toInt = millis := by
      rw [Int64.toInt_ofNat_of_lt (Nat.lt_succ_of_le small)]
    simp [same, Nat.min_eq_left small, held]

/-- Options come back from their map. -/
theorem ofMap_toMap (plain : m.toMap.firstComplex? = none) (whole : m.WholeTimeout) :
    ofMap m.toMap = .ok m := by
  unfold ofMap
  rw [timeoutOf_toMap whole, entriesOf_toMap plain, bookmarksOf_toMap]
  rfl

theorem toMap_distinct (entries : (Value.map m.entries).hasDistinctKeys = true) :
    (Value.map m.toMap).hasDistinctKeys = true := by
  have nothing : (Value.map .empty).hasDistinctKeys = true :=
    Value.distinct_map.mpr ⟨List.nodup_nil, List.forall_mem_nil _⟩
  have texts : (Value.list (m.bookmarks.map .string)).hasDistinctKeys = true := by
    apply (@legible_list 0 _ _).regular.distinct
    intro v among
    obtain ⟨bookmark, -, rfl⟩ := List.mem_map.mp among
    exact legible_flat rfl
  have marked := @Value.distinct_insert _ bookmarksKey _ nothing texts
  have count (i : Int64) : (Value.integer i).hasDistinctKeys = true :=
    (@legible_flat 0 (.integer i) rfl).regular.distinct
  unfold toMap
  cases m.bookmarks.isEmpty <;> cases m.timeout <;> cases m.entries.isEmpty <;>
    simp [Value.distinct_insert, nothing, marked, count, entries]

end TxMetadata

/-! ## Parts -/

/-- A field of a request as it is written. -/
inductive Request.Part where
  | text (s : String)
  | map (d : Dict Value)
  /-- A map that may hold primitive values only. -/
  | plain (d : Dict Value)

namespace Request

namespace Part

def value : Part → Value
  | text s => .string s
  | map d | plain d => .map d

def map? : Part → Option (Dict Value)
  | text _ => none
  | map d | plain d => some d

def write (version : Version) : Part → Written
  | text s => writeString s
  | map d => d.write version
  | plain d => d.writePrimitive version

end Part

def parts (version : Version) : Request → List Part
  | init agent auth => [.text agent, .plain auth]
  | hello extra => [.plain extra]
  | run statement parameters metadata =>
    if version.usesHello then [.text statement, .map parameters, .plain metadata.toMap]
    else [.text statement, .map parameters]
  | begin metadata => [.plain metadata.toMap]
  | pullAll | discardAll | reset | commit | rollback | goodbye => []

/-- A request as it arrives. Before the third version, statements come without options. -/
def received (version : Version) : Request → Request
  | run statement parameters metadata =>
    run statement parameters (if version.usesHello then metadata else .default)
  | r => r

variable {version : Version} {r : Request}

theorem write_parts (version : Version) (r : Request) : r.write version =
    writeStructureHeader (r.parts version).length r.kind.signature ++
      .concat ((r.parts version).map (Part.write version)) := by
  cases r with
  | run statement parameters metadata =>
    cases uses : version.usesHello <;>
      simp [write, parts, uses, Written.concat_cons, Written.append_nothing, Written.append_assoc,
        Part.write, kind]
  | _ =>
    simp [write, parts, Written.concat_cons, Written.append_nothing, Written.append_assoc,
      Part.write, kind]

/-- A part that can be written is written as its value is, and is primitive where it has to be. -/
theorem part_clear {part : Part} (clear : (part.write version).abort = none) :
    part.write version = part.value.write version ∧
      ∀ d, part = .plain d → d.firstComplex? = none := by
  cases part with
  | text s => exact ⟨(Value.write_string s).symm, by rintro _ ⟨⟩⟩
  | map d => exact ⟨(Value.write_map d).symm, by rintro _ ⟨⟩⟩
  | plain d =>
    change (d.writePrimitive version).abort = none at clear
    change d.writePrimitive version = _ ∧ _
    unfold Dict.writePrimitive at clear ⊢
    cases first : d.firstComplex? with
    | some entry => rw [first] at clear; cases clear
    | none =>
      refine ⟨(Value.write_map d).symm, ?_⟩
      rintro _ ⟨⟩
      exact first

/-! ## Layouts -/

end Request

def RequestKind.arity (version : Version) : RequestKind → Nat
  | .init => 2
  | .run => if version.usesHello then 3 else 2
  | .hello | .begin => 1
  | _ => 0

theorem arity_small (version : Version) (kind : RequestKind) : kind.arity version < 16 := by
  cases version <;> cases kind <;> decide

theorem layout_arity {version : Version} {l : RequestLayout}
    (known : l ∈ RequestLayout.ofVersion version) : l.fields = l.kind.arity version := by
  unfold RequestLayout.ofVersion at known
  rw [List.mem_mergeSort] at known
  revert l
  cases version <;> decide

namespace Request

variable {version : Version} {r : Request}

theorem parts_arity (version : Version) (r : Request) :
    (r.parts version).length = r.kind.arity version := by
  cases r with
  | run =>
    unfold parts
    cases uses : version.usesHello <;> simp [kind, RequestKind.arity, uses]
  | _ => rfl

/-- The layout of a request that the version knows. -/
theorem known_layout (known : r.isKnown version = true) :
    ∃ layout, RequestLayout.find? version r.kind.signature = some layout ∧ layout.kind = r.kind ∧
      layout.fields = (r.parts version).length := by
  unfold isKnown at known
  cases found : RequestLayout.find? version r.kind.signature with
  | none => rw [found] at known; cases known
  | some layout =>
    rw [found] at known
    have same : layout.kind = r.kind := beq_iff_eq.mp known
    refine ⟨layout, rfl, same, ?_⟩
    rw [parts_arity, ← same]
    exact layout_arity (List.mem_of_find?_eq_some found)

/-! ## Reading back -/

def options : Request → TxMetadata
  | run _ _ metadata | begin metadata => metadata
  | _ => .default

def dicts : Request → List (Dict Value)
  | init _ auth => [auth]
  | hello extra => [extra]
  | run _ parameters metadata => [parameters, metadata.entries]
  | begin metadata => [metadata.entries]
  | pullAll | discardAll | reset | commit | rollback | goodbye => []

def maps (version : Version) (r : Request) : List (Dict Value) :=
  (r.parts version).filterMap Part.map?

/-- What a request must be like to be read back: keys are distinct, the maps of its message nest no
deeper than values may and hold no leap second, a greeting names its user agent, and a timeout is
whole milliseconds. -/
structure IsPlain (version : Version) (r : Request) : Prop where
  distinct : ∀ d ∈ r.dicts, (Value.map d).hasDistinctKeys = true
  nesting : ∀ d ∈ r.maps version, (Value.map d).nesting ≤ maxDepth
  unleaping : ∀ d ∈ r.maps version, (Value.map d).lacksLeapSeconds = true
  agent : ∀ extra, r = .hello extra → ∃ agent, extra.get? userAgentKey = some (.string agent)
  timeout : r.options.WholeTimeout

theorem maps_distinct (distinct : ∀ d ∈ r.dicts, (Value.map d).hasDistinctKeys = true) :
    ∀ d ∈ r.maps version, (Value.map d).hasDistinctKeys = true := by
  cases r with
  | init agent auth => simpa [maps, parts, Part.map?, dicts] using distinct
  | hello extra => simpa [maps, parts, Part.map?, dicts] using distinct
  | run statement parameters metadata =>
    simp only [dicts, List.forall_mem_cons] at distinct
    obtain ⟨own, entries, -⟩ := distinct
    have options := TxMetadata.toMap_distinct entries
    unfold maps parts
    cases version.usesHello
    · exact List.forall_mem_cons.mpr ⟨own, List.forall_mem_nil _⟩
    · exact List.forall_mem_cons.mpr
        ⟨own, List.forall_mem_cons.mpr ⟨options, List.forall_mem_nil _⟩⟩
  | begin metadata =>
    have entries := distinct metadata.entries List.mem_cons_self
    simp [maps, parts, Part.map?, TxMetadata.toMap_distinct entries]
  | pullAll | discardAll | reset | commit | rollback | goodbye => exact List.forall_mem_nil _

theorem metadataOf_toMap {m : TxMetadata} (plain : m.toMap.firstComplex? = none)
    (whole : m.WholeTimeout) : metadataOf m.toMap = .ok m := by
  unfold metadataOf
  rw [TxMetadata.ofMap_toMap plain whole]
  rfl

/-- The request is made again from the values of its parts. -/
theorem ofFields_parts {layout : RequestLayout} (kind : layout.kind = r.kind)
    (fields : layout.fields = (r.parts version).length)
    (plain : ∀ d, .plain d ∈ r.parts version → d.firstComplex? = none)
    (isPlain : r.IsPlain version) :
    ofFields layout ((r.parts version).map Part.value) = .ok (r.received version) := by
  unfold ofFields
  rw [kind]
  cases r with
  | init agent auth =>
    have primitive : requirePrimitive "auth token" auth = .ok () := by
      unfold requirePrimitive
      rw [plain auth (by simp [parts])]
    change requirePrimitive "auth token" auth >>= _ = _
    rw [primitive]
    rfl
  | hello extra =>
    have primitive : requirePrimitive "HELLO" extra = .ok () := by
      unfold requirePrimitive
      rw [plain extra (by simp [parts])]
    obtain ⟨agent, named⟩ := isPlain.agent extra rfl
    change requirePrimitive "HELLO" extra >>= _ = _
    rw [primitive]
    change (match extra.get? userAgentKey with | _ => _) = _
    rw [named]
    rfl
  | run statement parameters metadata =>
    have whole : metadata.WholeTimeout := isPlain.timeout
    cases uses : version.usesHello with
    | false =>
      simp only [parts, uses, Bool.false_eq_true, if_false, List.length_cons, List.length_nil]
        at fields ⊢
      change (if layout.fields = 3 then _ else _) = _
      rw [fields, if_neg (by decide), received, uses]
      rfl
    | true =>
      simp only [parts, uses, if_true, List.length_cons, List.length_nil] at fields plain ⊢
      change (if layout.fields = 3 then metadataOf metadata.toMap >>= _ else _) = _
      rw [if_pos fields, metadataOf_toMap (plain _ (by simp)) whole, received, uses]
      rfl
  | begin metadata =>
    have whole : metadata.WholeTimeout := isPlain.timeout
    change metadataOf metadata.toMap >>= _ = _
    rw [metadataOf_toMap (plain _ (by simp [parts])) whole]
    rfl
  | pullAll | discardAll | reset | commit | rollback | goodbye => rfl

/-- A message that holds a header and values, as many as the layout has. -/
theorem decode_values {layout : RequestLayout} {signature : UInt8} {values : List Value}
    (found : RequestLayout.find? version signature = some layout) (small : layout.fields < 16)
    (fields : layout.fields = values.length)
    (each : ∀ v ∈ values, (v.write version).abort = none ∧ v.nesting ≤ maxDepth ∧ v.IsRegular)
    (made : ofFields layout values = .ok r) :
    decode version ((writeStructureHeader layout.fields signature).bytes ++
      values.flatMap fun v => (v.write version).bytes) = .ok (r, layout.reply) := by
  have header : Reader.structureHeader (.start _) = _ :=
    reads_structureHeader small signature (values.flatMap fun v => (v.write version).bytes) 0
  have items := items_start each []
  rw [List.append_nil, ← fields] at items
  unfold decode
  rw [header]
  dsimp only
  rw [found]
  dsimp only
  have read : readFields version layout layout.fields
      ⟨values.flatMap fun v => (v.write version).bytes, 0⟩ = .ok r ⟨[], 0⟩ := by
    unfold readFields
    rw [if_pos rfl]
    refine sequence_given.mpr ⟨values, _, items, ?_⟩
    refine sequence_given.mpr ⟨(), _, rfl, ?_⟩
    rw [made]
    rfl
  rw [read]

theorem part_sent {part : Part} (isPlain : r.IsPlain version) (among : part ∈ r.parts version)
    (clear : (part.write version).abort = none) : (part.value.write version).abort = none ∧
      part.value.nesting ≤ maxDepth ∧ part.value.IsRegular := by
  refine ⟨(part_clear clear).1 ▸ clear, ?_⟩
  have held {d : Dict Value} (is : part.map? = some d) : d ∈ r.maps version :=
    List.mem_filterMap.mpr ⟨part, among, is⟩
  cases part with
  | text s =>
    have flat : Legible maxDepth (.string s) := legible_flat rfl
    exact ⟨flat.nesting, flat.regular⟩
  | map d | plain d =>
    have field : d ∈ r.maps version := held rfl
    exact ⟨isPlain.nesting d field, maps_distinct isPlain.distinct d field,
      isPlain.unleaping d field⟩

/-- What has been written of a request is read as the request. -/
theorem decode_written {layout : RequestLayout}
    (found : RequestLayout.find? version r.kind.signature = some layout)
    (kind : layout.kind = r.kind) (clear : (r.write version).abort = none)
    (isPlain : r.IsPlain version) :
    decode version (r.write version).bytes = .ok (r.received version, layout.reply) := by
  have fields : layout.fields = (r.parts version).length := by
    rw [parts_arity, ← kind]
    exact layout_arity (List.mem_of_find?_eq_some found)
  have small : layout.fields < 16 := by
    rw [fields, parts_arity]
    exact arity_small version r.kind
  rw [write_parts, ← fields] at clear ⊢
  have cleared : ∀ part ∈ r.parts version, (part.write version).abort = none := by
    intro part among
    have parts := Written.concat_abort.mp (Written.append_abort.mp clear).2
    exact parts _ (List.mem_map_of_mem among)
  have written : (r.parts version).flatMap (fun part => (part.write version).bytes) =
      ((r.parts version).map Part.value).flatMap fun v => (v.write version).bytes := by
    rw [List.flatMap_map]
    apply List.flatMap_congr
    intro part among
    rw [(part_clear (cleared part among)).1]
  rw [Written.append_bytes clear, Written.concat_bytes (Written.append_abort.mp clear).2,
    List.flatMap_map, written]
  apply decode_values found small
  · rw [fields, List.length_map]
  · intro v among
    obtain ⟨part, held, rfl⟩ := List.mem_map.mp among
    exact part_sent isPlain held (cleared part held)
  · apply ofFields_parts kind fields ?_ isPlain
    intro d among
    exact (part_clear (cleared _ among)).2 d rfl

/-- A request is appended to a buffer as a whole or not at all. What has been appended is read as
the request, with the way that its kind is answered. -/
theorem encode_returns {buffer after : List UInt8} {outcome : Except (Abort ProtocolError) Unit}
    (encoded : r.encodeOnto version buffer = (outcome, after)) :
    (∀ e, outcome = .error (.error e) → after = buffer) ∧
    (outcome = .ok () → ∃ message layout, after = buffer ++ message ∧
      r.encode version = .ok message ∧
      RequestLayout.find? version r.kind.signature = some layout ∧ layout.kind = r.kind ∧
      (r.IsPlain version → decode version message = .ok (r.received version, layout.reply))) := by
  unfold encode
  unfold encodeOnto at encoded ⊢
  cases known : r.isKnown version with
  | false =>
    rw [known] at encoded
    cases encoded
    exact ⟨fun _ _ => rfl, by rintro ⟨⟩⟩
  | true =>
    rw [known, if_pos rfl] at encoded
    rw [if_pos rfl]
    refine ⟨?_, ?_⟩
    · rintro e rfl
      exact Written.onto_error encoded
    · rintro rfl
      have clear : (r.write version).abort = none := Written.onto_ok encoded
      cases (Written.onto_clear clear).symm.trans encoded
      obtain ⟨layout, found, kind, -⟩ := known_layout known
      refine ⟨_, layout, rfl, ?_, found, kind, decode_written found kind clear⟩
      rw [Written.onto_clear clear]
      rfl

def sampleRun : Request :=
  .run "RETURN $x" ⟨[("x", .list [.integer 1])]⟩
    ⟨["b:7"], some (.ofMillis 250), ⟨[("app", .string "t")]⟩⟩

def sampleMessage : List UInt8 :=
  [0xB3, 0x10, 0x89, 0x52, 0x45, 0x54, 0x55, 0x52, 0x4E, 0x20, 0x24, 0x78, 0xA1, 0x81, 0x78,
    0x91, 0x01, 0xA3, 0x89, 0x62, 0x6F, 0x6F, 0x6B, 0x6D, 0x61, 0x72, 0x6B, 0x73, 0x91, 0x83,
    0x62, 0x3A, 0x37, 0x8A, 0x74, 0x78, 0x5F, 0x74, 0x69, 0x6D, 0x65, 0x6F, 0x75, 0x74, 0xC9,
    0x00, 0xFA, 0x8B, 0x74, 0x78, 0x5F, 0x6D, 0x65, 0x74, 0x61, 0x64, 0x61, 0x74, 0x61, 0xA1,
    0x83, 0x61, 0x70, 0x70, 0x81, 0x74]

theorem sample_plain : sampleRun.IsPlain .v3 where
  distinct := List.forall_mem_cons.mpr
    ⟨by cbv, List.forall_mem_cons.mpr ⟨by cbv, List.forall_mem_nil _⟩⟩
  nesting := List.forall_mem_cons.mpr
    ⟨by cbv, List.forall_mem_cons.mpr ⟨by cbv, List.forall_mem_nil _⟩⟩
  unleaping := List.forall_mem_cons.mpr
    ⟨by cbv, List.forall_mem_cons.mpr ⟨by cbv, List.forall_mem_nil _⟩⟩
  agent := by rintro _ ⟨⟩
  timeout := by
    rintro limit ⟨⟩
    exact ⟨250, by decide, rfl⟩

/-- The sample comes back; a statement that the first version cannot send, which it notices behind
the name of a parameter, leaves nothing behind. -/
theorem sample_returns :
    (∃ layout, RequestLayout.find? .v3 RequestKind.run.signature = some layout ∧
      decode .v3 sampleMessage = .ok (sampleRun, layout.reply)) ∧
    ∃ e, (run "RETURN $x" ⟨[("x", .bytes [1])]⟩ .default).encodeOnto .v1 [1, 2] =
      (.error (.error e), [1, 2]) := by
  constructor
  · have encoded : sampleRun.encodeOnto .v3 [1, 2] = (.ok (), [1, 2] ++ sampleMessage) := by cbv
    obtain ⟨message, layout, same, -, found, -, read⟩ := (encode_returns encoded).2 rfl
    cases List.append_cancel_left same
    exact ⟨layout, found, read sample_plain⟩
  · exact ⟨.unsupported (.notAvailable .bytes .v1), by cbv⟩

end Request

end GraphProtocol
