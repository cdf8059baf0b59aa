import GraphProtocol.Proofs.Connection.Inbox
import GraphProtocol.Proofs.Message.Requests
import GraphProtocol.Proofs.Wire.Versions

/-!
# Requests of the first version in the later ones

The second version reads the requests of the first as the first does. The third does so with the
requests without fields, but has given statements a third field, and refuses those that come with
two.
-/

set_option autoImplicit false

namespace GraphProtocol

open Wire

/-! ## What arrives -/

/-- Times are values of the later versions. -/
theorem Value.unleaping_plain {v : Value} (plain : v.requiresExtended = false) :
    v.lacksLeapSeconds = true := by
  induction v using child_induction with
  | step v ih =>
  have timeless : ∀ child ∈ v.children, child.requiresExtended = false := by
    intro child among
    rw [← Bool.not_eq_true] at plain ⊢
    exact fun required => plain (requiresExtended_iff.mpr (.inr ⟨child, among, required⟩))
  refine everywhere_iff.mpr ⟨?_, fun child among => ih child among (timeless child among)⟩
  cases v with
  | time | localTime | localDateTime | dateTime | zonedDateTime =>
    rw [requiresExtended] at plain
    cases plain
  | _ => rfl

namespace Request

variable {version later : Version} {message : List UInt8} {r : Request} {reply : ReplyStrategy}

theorem mapField_found {kind : RequestKind} {name : String} {values : List Value} {place : Nat}
    {d : Dict Value} (given : mapField kind name values place = .ok d) :
    values[place]? = some (.map d) := by
  unfold mapField field at given
  cases found : values[place]? with
  | none => rw [found] at given; cases given
  | some v =>
    rw [found] at given
    cases v with
    | map => cases given; rfl
    | _ => cases given

/-- The parameters of a statement are a value that has been read. -/
theorem ofFields_parameters {layout : RequestLayout} {values : List Value} {statement : String}
    {parameters : Dict Value} {metadata : TxMetadata}
    (made : ofFields layout values = .ok (.run statement parameters metadata)) :
    .map parameters ∈ values := by
  have kind : layout.kind = .run := (fields_kind made).symm
  unfold ofFields at made
  simp only [kind] at made
  obtain ⟨text, -, made⟩ := except_bind_ok made
  obtain ⟨d, given, made⟩ := except_bind_ok made
  have same : d = parameters := by
    split at made
    · obtain ⟨map, -, made⟩ := except_bind_ok made
      obtain ⟨options, -, made⟩ := except_bind_ok made
      cases made
      rfl
    · cases made
      rfl
  exact same ▸ List.mem_of_getElem? (mapField_found given)

/-- What a request that has been decoded was made of. -/
theorem decode_made (given : decode version message = .ok (r, reply)) :
    ∃ layout ∈ RequestLayout.ofVersion version, ∃ values, ofFields layout values = .ok r ∧
      ∀ v ∈ values, Legible maxDepth v := by
  unfold decode at given
  split at given
  · cases given
  next fields signature cursor _ =>
  split at given
  · cases given
  next layout found =>
  have listed : layout ∈ RequestLayout.ofVersion version := List.mem_of_find?_eq_some found
  split at given <;> cases given
  next rest read =>
  unfold readFields at read
  split at read
  · obtain ⟨values, between, came, read⟩ := sequence_given.mp read
    obtain ⟨⟨⟩, last, -, read⟩ := sequence_given.mp read
    have each := (yields_items (yields_start version)).given _ values _ came
    cases made : ofFields layout values with
    | error e => rw [made] at read; cases read
    | ok request =>
      rw [made] at read
      cases read
      exact ⟨layout, listed, values, made, each⟩
  · cases read

/-- The parameters of a statement that has been decoded nest no deeper than values may, have
distinct keys and no leap second. -/
theorem decode_parameters {statement : String} {parameters : Dict Value} {metadata : TxMetadata}
    (given : decode version message = .ok (.run statement parameters metadata, reply)) :
    Legible maxDepth (.map parameters) := by
  obtain ⟨layout, -, values, made, each⟩ := decode_made given
  exact each _ (ofFields_parameters made)

/-! ## Later versions -/

theorem encode_written (encoded : r.encode version = .ok message) : r.isKnown version = true ∧
    (r.write version).abort = none ∧ (r.write version).bytes = message := by
  unfold encode encodeOnto at encoded
  cases known : r.isKnown version with
  | false => rw [known] at encoded; cases encoded
  | true =>
    rw [known, if_pos rfl] at encoded
    cases cut : (r.write version).abort with
    | some abort =>
      cases abort with
      | error cause => rw [Written.onto_refused cut] at encoded; cases encoded
      | breakdown => rw [Written.onto_breakdown cut] at encoded; cases encoded
    | none =>
      rw [Written.onto_clear cut] at encoded
      cases encoded
      exact ⟨rfl, rfl, rfl⟩

/-- Another number of fields than the version has is fatal. -/
theorem decode_arity {layout : RequestLayout} {signature : UInt8} {fields : Nat}
    (found : RequestLayout.find? version signature = some layout) (small : fields < 16)
    (other : fields ≠ layout.fields) (body : List UInt8) :
    decode version ((writeStructureHeader fields signature).bytes ++ body) =
      .error (.fatal (.structureArity layout.signature layout.fields fields)) := by
  have header : Reader.structureHeader (.start _) = _ :=
    reads_structureHeader small signature body 0
  unfold decode
  rw [header]
  dsimp only
  rw [found]
  dsimp only
  unfold readFields
  rw [if_neg other]
  rfl

theorem run_write (uses : version.usesHello = false) (statement : String) (parameters : Dict Value)
    (metadata : TxMetadata) : (run statement parameters metadata).write version =
      writeStructureHeader 2 RequestKind.run.signature ++
        (writeString statement ++ parameters.write version) := by
  unfold write
  rw [← Written.append_assoc]
  simp [uses, kind]

/-- The parameters that the first version sends hold no value of the later versions. -/
theorem run_plain {statement : String} {parameters : Dict Value} {metadata : TxMetadata}
    (clear : ((run statement parameters metadata).write .v1).abort = none) :
    (Value.map parameters).requiresExtended = false := by
  rw [run_write rfl] at clear
  have parts := Written.append_abort.mp (Written.append_abort.mp clear).2
  rw [← Value.write_map] at parts
  refine Bool.eq_false_iff.mpr fun required => ?_
  cases (Value.write_clear.mp parts.2).available required

/-- The requests of the first version that do not open a session. -/
theorem first_requests (known : r.isKnown .v1 = true) (other : r.kind.isHandshake = false) :
    (∃ statement parameters metadata, r = .run statement parameters metadata) ∨
      r = .pullAll ∨ r = .discardAll ∨ r = .reset := by
  cases r with
  | init | hello => cases other
  | begin | commit | rollback | goodbye =>
    refine absurd known (Bool.eq_false_iff.mp ?_)
    cbv
  | run statement parameters metadata => exact .inl ⟨statement, parameters, metadata, rfl⟩
  | pullAll | discardAll | reset => simp

theorem received_again (version later : Version) (r : Request)
    (first : version.usesHello = false) :
    (r.received version).received later = r.received version := by
  cases r with
  | run => simp [received, first]
  | _ => rfl

section First

variable (known : r.isKnown .v1 = true) (other : r.kind.isHandshake = false)
  (clear : (r.write .v1).abort = none) (same : r.kind = .run → later = .v1 ∨ later = .v2)
include known other clear same

/-- Later versions write the requests of the first as it does, but for statements in the third. -/
theorem write_later :
    (r.received .v1).write later = r.write .v1 ∧ (r.received .v1).isKnown later = true := by
  rcases first_requests known other with ⟨statement, parameters, metadata, rfl⟩ | rfl | rfl | rfl
  · have uses : later.usesHello = false := by
      rcases same rfl with rfl | rfl <;> rfl
    have known : (run statement parameters .default).isKnown later = true := by
      rcases same rfl with rfl | rfl <;> cbv
    refine ⟨?_, known⟩
    have alike : parameters.write later = parameters.write .v1 := by
      rw [← Value.write_map, ← Value.write_map]
      have timeless := Bool.eq_false_iff.mp (run_plain clear)
      exact Value.write_congr fun required => absurd required timeless
    change (run statement parameters .default).write later = _
    rw [run_write uses, run_write rfl, alike]
  all_goals cases later <;> exact ⟨rfl, by cbv⟩

/-- A request of the first version as it arrives can be read back if its parameters do not nest too
deep. -/
theorem received_plain (distinct : ∀ d ∈ r.dicts, (Value.map d).hasDistinctKeys = true)
    (nesting : ∀ d ∈ r.maps .v1, (Value.map d).nesting ≤ maxDepth) :
    (r.received .v1).IsPlain later := by
  rcases first_requests known other with ⟨statement, parameters, metadata, rfl⟩ | rfl | rfl | rfl
  · have uses : later.usesHello = false := by
      rcases same rfl with rfl | rfl <;> rfl
    have one : maps later ((run statement parameters metadata).received .v1) = [parameters] := by
      simp only [received, maps, parts, uses, Bool.false_eq_true, if_false]
      rfl
    constructor
    · exact List.forall_mem_cons.mpr ⟨distinct parameters List.mem_cons_self,
        List.forall_mem_cons.mpr ⟨by cbv, List.forall_mem_nil _⟩⟩
    · rw [one]
      exact nesting
    · rw [one]
      have unleaping := Value.unleaping_plain (run_plain clear)
      exact List.forall_mem_cons.mpr ⟨unleaping, List.forall_mem_nil _⟩
    · rintro _ ⟨⟩
    · rintro _ ⟨⟩
  all_goals
    exact ⟨List.forall_mem_nil _, List.forall_mem_nil _, List.forall_mem_nil _, by rintro _ ⟨⟩,
      by rintro _ ⟨⟩⟩

end First

/-- A request that the first version sends is read as it arrives there by the second version if its
parameters do not nest too deep, and by the third if it is no statement. Statements lack a field
there. -/
theorem later_decodes (encoded : r.encode .v1 = .ok message) (other : r.kind.isHandshake = false)
    (distinct : ∀ d ∈ r.dicts, (Value.map d).hasDistinctKeys = true) :
    (∀ later, later ≠ .v1 → ((∃ reply, decode later message = .ok (r.received .v1, reply)) ↔
      (r.kind = .run → later = .v2 ∧ ∀ d ∈ r.maps .v1, (Value.map d).nesting ≤ maxDepth))) ∧
    (r.kind = .run →
      decode .v3 message = .error (.fatal (.structureArity RequestKind.run.signature 3 2))) := by
  obtain ⟨known, clear, rfl⟩ := encode_written encoded
  have refused : r.kind = .run → decode .v3 (r.write .v1).bytes =
      .error (.fatal (.structureArity RequestKind.run.signature 3 2)) := by
    intro kind
    rcases first_requests known other with ⟨statement, parameters, metadata, rfl⟩ | rfl | rfl | rfl
    · rw [run_write rfl] at clear ⊢
      rw [Written.append_bytes clear]
      have found : RequestLayout.find? .v3 RequestKind.run.signature =
          some ⟨.run, 3, .summary⟩ := by
        cbv
      exact decode_arity found (by decide) (by decide) _
    all_goals cases kind
  refine ⟨?_, refused⟩
  intro later after
  constructor
  · rintro ⟨reply, given⟩ kind
    rcases first_requests known other with ⟨statement, parameters, metadata, rfl⟩ | rfl | rfl | rfl
    · cases later with
      | v1 => exact absurd rfl after
      | v2 =>
        have parameters := (decode_parameters given).nesting
        exact ⟨rfl, List.forall_mem_cons.mpr ⟨parameters, List.forall_mem_nil _⟩⟩
      | v3 => cases (refused kind).symm.trans given
    all_goals cases kind
  · intro fits
    have same : r.kind = .run → later = .v1 ∨ later = .v2 := fun kind => .inr (fits kind).1
    have nesting : ∀ d ∈ r.maps .v1, (Value.map d).nesting ≤ maxDepth := by
      rcases first_requests known other with ⟨_, _, _, rfl⟩ | rfl | rfl | rfl
      · exact (fits rfl).2
      all_goals exact List.forall_mem_nil _
    obtain ⟨alike, known'⟩ := write_later known other clear same
    obtain ⟨layout, found, kind, -⟩ := known_layout known'
    have read := decode_written found kind (alike ▸ clear)
      (received_plain known other clear same distinct nesting)
    rw [alike, received_again .v1 later r rfl] at read
    exact ⟨layout.reply, read⟩

def sampleStatement : List UInt8 :=
  [0xB2, 0x10, 0x88, 0x52, 0x45, 0x54, 0x55, 0x52, 0x4E, 0x20, 0x31, 0xA0]

theorem sample_later :
    (∃ reply, decode .v2 sampleStatement = .ok (run "RETURN 1" .empty .default, reply)) ∧
    ¬(∃ reply, decode .v3 sampleStatement = .ok (run "RETURN 1" .empty .default, reply)) ∧
    ∃ reply, decode .v3 [0xB0, 0x3F] = .ok (.pullAll, reply) := by
  have encoded : (run "RETURN 1" .empty .default).encode .v1 = .ok sampleStatement := by cbv
  have distinct : ∀ d ∈ (run "RETURN 1" .empty .default).dicts,
      (Value.map d).hasDistinctKeys = true :=
    List.forall_mem_cons.mpr ⟨by cbv, List.forall_mem_cons.mpr ⟨by cbv, List.forall_mem_nil _⟩⟩
  have fits : ∀ d ∈ (run "RETURN 1" .empty .default).maps .v1, (Value.map d).nesting ≤ maxDepth :=
    List.forall_mem_cons.mpr ⟨by cbv, List.forall_mem_nil _⟩
  have statement := (later_decodes encoded rfl distinct).1
  have encoded' : pullAll.encode .v1 = .ok [0xB0, 0x3F] := by cbv
  have plain := (later_decodes encoded' rfl (List.forall_mem_nil _)).1
  refine ⟨(statement .v2 (by decide)).mpr fun _ => ⟨rfl, fits⟩, ?_, (plain .v3 (by decide)).mpr ?_⟩
  · intro read
    cases ((statement .v3 (by decide)).mp read rfl).1
  · rintro ⟨⟩

/-- The third version does not read the statement that the first has written. -/
theorem sample_refused : ¬∀ later r message, r.encode .v1 = .ok message →
    r.kind.isHandshake = false → ∃ reply, decode later message = .ok (r, reply) := by
  intro all
  have encoded : (run "RETURN 1" .empty .default).encode .v1 = .ok sampleStatement := by cbv
  obtain ⟨reply, read⟩ := all .v3 _ _ encoded rfl
  have refused : decode .v3 sampleStatement =
      .error (.fatal (.structureArity RequestKind.run.signature 3 2)) := by cbv
  cases refused.symm.trans read

end Request

end GraphProtocol
