import GraphProtocol.Proofs.Message.Records
import GraphProtocol.Proofs.Wire.Versions

/-!
# Responses on the wire

Every response that has been written is read back as it was, and exactly its bytes, as long as its
list of fields or its metadata can be read as a value. No response is written as nothing.
-/

set_option autoImplicit false

namespace GraphProtocol

open Wire

theorem Failure.toMap_legible (f : Failure) : Legible maxDepth (.map f.toMap) := by
  have distinct : f.toMap.DistinctKeys :=
    Dict.distinct_insert (Dict.distinct_insert (d := .empty) List.nodup_nil _ _) _ _
  apply legible_map distinct
  intro v among
  obtain ⟨entry, held, rfl⟩ := List.mem_map.mp among
  rcases Dict.mem_insertEntry held with rfl | held
  · exact legible_flat rfl
  · cases List.mem_singleton.mp held
    exact legible_flat rfl

namespace Response

variable {version : Version} {r : Response} {message : List UInt8}

def IsLegible : Response → Prop
  | success metadata => Legible maxDepth (.map metadata)
  | record fields => Legible maxDepth (.list fields)
  | ignored | failure _ => True

/-! ## Bodies -/

def writeBody (version : Version) : Response → Written
  | success metadata => metadata.writePrimitive version
  | record fields => (Value.list fields).write version
  | ignored => .concat []
  | failure f => f.toMap.writePrimitive version

def arity : Response → Nat
  | ignored => 0
  | success _ | record _ | failure _ => 1

theorem arity_small (r : Response) : r.arity < 16 := by
  cases r <;> simp [arity]

theorem write_body (version : Version) (r : Response) :
    r.write version = writeStructureHeader r.arity r.kind.signature ++ r.writeBody version := by
  cases r with
  | success | failure => rfl
  | record fields => exact record_write version fields
  | ignored => exact Written.append_nothing.symm

/-- A map that may hold primitive values only is read back where it stands. -/
theorem reads_metadata {metadata : Dict Value} (legible : Legible maxDepth (.map metadata))
    (clear : (metadata.writePrimitive version).abort = none) :
    Reader.map version ⟨(metadata.writePrimitive version).bytes, 0⟩ = .ok metadata ⟨[], 0⟩ := by
  have plain : ((Request.Part.plain metadata).write version).abort = none := clear
  have same : metadata.writePrimitive version = (Value.map metadata).write version :=
    (Request.part_clear plain).1
  rw [same] at clear ⊢
  exact sequence_given.mpr ⟨.map metadata, _, reads_whole legible clear, rfl⟩

theorem reads_fields {fields : List Value} (legible : Legible maxDepth (.list fields))
    (clear : ((Value.list fields).write version).abort = none) :
    Reader.list version ⟨((Value.list fields).write version).bytes, 0⟩ = .ok fields ⟨[], 0⟩ := by
  have came := travels_value _ legible.regular maxDepth legible.nesting clear [] 0
  rw [List.append_nil] at came
  exact sequence_given.mpr ⟨.list fields, _, came, rfl⟩

theorem failureText_toMap (f : Failure) (cursor : Cursor) :
    failureText f.toMap "code" cursor = .ok f.code cursor ∧
      failureText f.toMap "message" cursor = .ok f.message cursor := by
  have code : f.toMap.get? "code" = some (.string f.code) := by
    simp [Failure.toMap, Dict.get?_insert]
  have message : f.toMap.get? "message" = some (.string f.message) := by
    simp [Failure.toMap, Dict.get?_insert]
  unfold failureText
  rw [code, message]
  exact ⟨rfl, rfl⟩

theorem readBody_written (legible : r.IsLegible) (clear : (r.writeBody version).abort = none) :
    readBody version r.kind ⟨(r.writeBody version).bytes, 0⟩ = .ok (r, r.arity) ⟨[], 0⟩ := by
  cases r with
  | success metadata =>
    exact sequence_given.mpr ⟨metadata, _, reads_metadata legible clear, rfl⟩
  | record fields => exact sequence_given.mpr ⟨fields, _, reads_fields legible clear, rfl⟩
  | ignored => rfl
  | failure f =>
    obtain ⟨code, message⟩ := failureText_toMap f ⟨[], 0⟩
    have map := reads_metadata f.toMap_legible clear
    exact sequence_given.mpr ⟨f.toMap, _, map, sequence_given.mpr ⟨f.code, _, code,
      sequence_given.mpr ⟨f.message, _, message, rfl⟩⟩⟩

/-! ## Whole responses -/

theorem encode_body (encoded : r.encode version = .ok message) :
    (r.writeBody version).abort = none ∧
      message = (writeStructureHeader r.arity r.kind.signature).bytes ++
        (r.writeBody version).bytes :=
  encode_headed (write_body version r) encoded

/-- What has been written of a response is read back, and exactly its bytes. -/
theorem read_encoded (legible : r.IsLegible) (encoded : r.encode version = .ok message) :
    read version (.start message) = .ok r ⟨[], 0⟩ := by
  obtain ⟨clear, rfl⟩ := encode_body encoded
  rw [read_kind version r.kind r.arity_small]
  refine sequence_given.mpr ⟨(r, r.arity), _, readBody_written legible clear, ?_⟩
  rw [if_pos rfl]
  rfl

theorem metadata_prepared (metadata : Dict Value) :
    (metadata.writePrimitive version).Only (· ≠ .breakdown) := by
  unfold Dict.writePrimitive
  cases plain : metadata.firstComplex? with
  | some entry =>
    rintro abort ⟨⟩
    exact nofun
  | none =>
    have primitive := Value.isPrimitive_map.mpr plain
    have written : ((Value.map metadata).write version).Only (· ≠ .breakdown) :=
      Value.write_prepared fun _ => Value.localTimes_of_primitive primitive
    rwa [Value.write_map] at written

/-- Nothing but a record can hold what the program is not prepared for. -/
theorem encode_prepared
    (shown : ∀ fields, r = .record fields → (Value.list fields).hasLocalTimes = true) :
    r.encode version ≠ .error .breakdown := by
  have body : (r.writeBody version).Only (· ≠ .breakdown) := by
    cases r with
    | success metadata => exact metadata_prepared metadata
    | record fields => exact Value.write_prepared fun _ => shown fields rfl
    | ignored => exact only_clear rfl
    | failure f => exact metadata_prepared f.toMap
  have header : (writeStructureHeader r.arity r.kind.signature).abort = none := by
    rw [writeStructureHeader_small r.arity_small]
    rfl
  intro broken
  unfold encode Written.result at broken
  rw [write_body] at broken
  cases met : (writeStructureHeader r.arity r.kind.signature ++ r.writeBody version).abort with
  | none => rw [met] at broken; cases broken
  | some abort =>
    rw [met] at broken
    cases abort with
    | error cause => cases broken
    | breakdown => exact only_append (only_clear header) body _ met rfl

theorem encode_unsupported {e : ProtocolError} (refused : r.encode version = .error (.error e)) :
    ∃ cause, e = .unsupported cause := by
  unfold encode Written.result at refused
  cases met : (r.write version).abort with
  | none => rw [met] at refused; cases refused
  | some abort =>
    rw [met] at refused
    cases abort with
    | error cause => cases refused; exact ⟨cause, rfl⟩
    | breakdown => cases refused

/-- There is a header at least. -/
theorem encode_ne_nil (encoded : r.encode version = .ok message) : message ≠ [] := by
  obtain ⟨-, rfl⟩ := encode_body encoded
  rw [writeStructureHeader_small r.arity_small]
  exact List.cons_ne_nil _ _

end Response

end GraphProtocol
