import GraphProtocol.Proofs.Message.Requests

/-!
# Records on the wire

A record is written as the list of its fields. A client reads that list as a value, so it takes one
of the levels that values may nest, and each field has one level less than a value of its own.
-/

set_option autoImplicit false

namespace GraphProtocol

open Wire

theorem Wire.reads_whole {version : Version} {v : Value} (legible : Legible maxDepth v)
    (clear : (v.write version).abort = none) :
    Reader.value version ⟨(v.write version).bytes, 0⟩ = .ok v ⟨[], 0⟩ := by
  have came := travels_value _ legible.regular maxDepth legible.nesting clear [] 0
  rw [List.append_nil] at came
  exact came

namespace Response

variable {version : Version} {fields : List Value} {message : List UInt8}

/-- The message of a response is its header and then what follows. -/
theorem encode_headed {r : Response} {arity : Nat} {w : Written}
    (written : r.write version = writeStructureHeader arity r.kind.signature ++ w)
    (encoded : r.encode version = .ok message) : w.abort = none ∧
      message = (writeStructureHeader arity r.kind.signature).bytes ++ w.bytes := by
  unfold encode Written.result at encoded
  rw [written] at encoded
  cases refused : (writeStructureHeader arity r.kind.signature ++ w).abort with
  | some cause => rw [refused] at encoded; cases encoded
  | none =>
    rw [refused] at encoded
    cases encoded
    exact ⟨(Written.append_abort.mp refused).2, Written.append_bytes refused⟩

theorem record_write (version : Version) (fields : List Value) :
    (record fields).write version = writeStructureHeader 1 ResponseKind.record.signature ++
      (Value.list fields).write version :=
  congrArg (writeStructureHeader 1 ResponseKind.record.signature ++ ·)
    (Value.write_list fields).symm

theorem record_encoded (encoded : (record fields).encode version = .ok message) :
    ((Value.list fields).write version).abort = none ∧
      message = (writeStructureHeader 1 ResponseKind.record.signature).bytes ++
        ((Value.list fields).write version).bytes :=
  encode_headed (record_write version fields) encoded

/-- Behind its header a response is read as its kind says. -/
theorem read_kind (version : Version) (kind : ResponseKind) {fields : Nat} (small : fields < 16)
    (body : List UInt8) :
    read version (.start ((writeStructureHeader fields kind.signature).bytes ++ body)) =
      (readBody version kind >>= fun given => if fields = given.2 then pure given.1
        else throw (.structureArity kind.signature given.2 fields)) ⟨body, 0⟩ := by
  have header : Reader.structureHeader (.start _) = _ :=
    reads_structureHeader small kind.signature body 0
  have named : ResponseKind.ofSignature? kind.signature = some kind := by cases kind <;> rfl
  unfold read
  show EStateM.bind Reader.structureHeader _ _ = _
  unfold EStateM.bind
  rw [header]
  dsimp only
  rw [named]

/-- Behind the header of a record its fields are read as a list. -/
theorem read_record (version : Version) (body : List UInt8) :
    read version (.start
        ((writeStructureHeader 1 ResponseKind.record.signature).bytes ++ body)) =
      (Reader.list version >>= fun fields => pure (record fields)) ⟨body, 0⟩ := by
  rw [read_kind version .record (by decide)]
  dsimp only [readBody]
  rw [bind_assoc]
  rfl

/-- What has been written of a record is read back, and exactly its bytes, if and only if each field
nests less deep than values may. -/
theorem record_returns_iff (regular : ∀ v ∈ fields, v.IsRegular)
    (encoded : (record fields).encode version = .ok message) :
    (∃ cursor, read version (.start message) = .ok (.record fields) cursor ∧ cursor.rest = []) ↔
      ∀ v ∈ fields, v.nesting < maxDepth := by
  obtain ⟨clear, rfl⟩ := record_encoded encoded
  rw [read_record]
  constructor
  · rintro ⟨cursor, given, -⟩
    obtain ⟨items, between, came, made⟩ := sequence_given.mp given
    cases made
    obtain ⟨v, _, came, made⟩ := sequence_given.mp came
    cases v with
    | list items =>
      cases made
      have nesting := ((yields_start version).given _ _ _ came).nesting
      exact fun v among => Nat.lt_succ_of_le (Value.nesting_list_le.mp nesting v among)
    | _ => cases made
  · intro shallow
    have whole : (Value.list fields).IsRegular :=
      Value.regular_iff.mpr ⟨List.forall_mem_nil _, by rintro _ ⟨⟩, regular⟩
    have within : (Value.list fields).nesting ≤ maxDepth :=
      Value.nesting_list_le.mpr fun v among => Nat.le_of_lt_succ (shallow v among)
    have came := reads_whole ⟨within, whole⟩ clear
    refine ⟨⟨[], 0⟩, ?_, rfl⟩
    exact sequence_given.mpr ⟨fields, _, sequence_given.mpr ⟨_, _, came, rfl⟩, rfl⟩

end Response

end GraphProtocol
