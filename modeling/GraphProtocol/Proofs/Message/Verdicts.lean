import GraphProtocol.Proofs.Message.Options
import GraphProtocol.Proofs.Message.Successors

/-!
# What becomes of a message

Reading a request ends in one of four ways. An unknown signature is noticed behind the header and
before anything else, unacceptable contents only when all fields have been read up to the end of
the message, and every other fault is fatal. A request that has been read can be written again, in
no more bytes and as the same request.
-/

set_option autoImplicit false

namespace GraphProtocol

open Wire

/-! ## Headers -/

/-- Whether a message starts with the header of a structure: the number of fields stands in the
marker, or in one or two bytes behind it, and the signature comes next. -/
inductive Headed : List UInt8 → Nat → UInt8 → List UInt8 → Prop
  | inline {fields : Nat} {signature : UInt8} {body : List UInt8} : fields < 16 →
      Headed (UInt8.ofNat (0xB0 + fields) :: signature :: body) fields signature body
  | one {count signature : UInt8} {body : List UInt8} :
      Headed (0xDC :: count :: signature :: body) count.toNat signature body
  | two {high low signature : UInt8} {body : List UInt8} :
      Headed (0xDD :: high :: low :: signature :: body) (256 * high.toNat + low.toNat) signature
        body

theorem ofByte?_header {b : UInt8} {size : Extent}
    (marked : Marker.ofByte? b = some (.structure size)) :
    (∃ fields < 16, b = UInt8.ofNat (0xB0 + fields) ∧ size = .inline fields) ∨
      b = 0xDC ∧ size = .following 1 ∨ b = 0xDD ∧ size = .following 2 := by
  unfold Marker.ofByte? at marked
  dsimp only at marked
  repeat' split at marked
  all_goals cases marked
  · refine .inl ⟨b.toNat - 0xB0, by omega, ?_, rfl⟩
    rw [Nat.add_sub_cancel' (by omega), UInt8.ofNat_toNat]
  · next is => exact .inr (.inl ⟨UInt8.toNat_inj.mp is, rfl⟩)
  · next is => exact .inr (.inr ⟨UInt8.toNat_inj.mp is, rfl⟩)

variable {version : Version} {message body : List UInt8} {fields : Nat} {signature : UInt8}
  {cursor : Cursor}

theorem ofBigEndian_one (b : UInt8) : ofBigEndian [b] = b.toNat := by simp [ofBigEndian]

theorem ofBigEndian_two (high low : UInt8) :
    ofBigEndian [high, low] = 256 * high.toNat + low.toNat := by
  simp [ofBigEndian, Nat.mul_comm]

theorem byte_read {rest : List UInt8} {depth : Nat} {b : UInt8}
    (given : Reader.byte ⟨rest, depth⟩ = .ok b cursor) :
    ∃ body, rest = b :: body ∧ cursor = ⟨body, depth⟩ := by
  cases rest with
  | nil => cases given
  | cons _ body =>
    cases given
    exact ⟨body, rfl, rfl⟩

theorem header_given
    (given : Reader.structureHeader (.start message) = .ok (fields, signature) cursor) :
    ∃ body, Headed message fields signature body ∧ cursor = ⟨body, 0⟩ := by
  obtain ⟨b, between, first, given⟩ := sequence_given.mp given
  cases message with
  | nil => cases first
  | cons _ rest =>
  cases first
  cases marked : Marker.ofByte? b with
  | none =>
    rw [marked] at given
    cases given
  | some marker =>
    rw [marked] at given
    cases marker with
    | «structure» size =>
      obtain ⟨count, between, sized, given⟩ := sequence_given.mp given
      obtain ⟨named, after, signed, given⟩ := sequence_given.mp given
      cases given
      rcases ofByte?_header marked with ⟨fields, small, rfl, rfl⟩ | ⟨rfl, rfl⟩ | ⟨rfl, rfl⟩
      · cases sized
        obtain ⟨body, rfl, rfl⟩ := byte_read signed
        exact ⟨body, .inline small, rfl⟩
      · rcases rest with _ | ⟨count, rest⟩
        · cases sized
        · cases sized
          obtain ⟨body, rfl, rfl⟩ := byte_read signed
          exact ⟨body, ofBigEndian_one count ▸ .one, rfl⟩
      · rcases rest with _ | ⟨high, _ | ⟨low, rest⟩⟩
        · cases sized
        · cases sized
        · cases sized
          obtain ⟨body, rfl, rfl⟩ := byte_read signed
          exact ⟨body, ofBigEndian_two high low ▸ .two, rfl⟩
    | _ => cases given

theorem header_read (headed : Headed message fields signature body) :
    Reader.structureHeader (.start message) = .ok (fields, signature) ⟨body, 0⟩ := by
  cases headed with
  | inline small =>
    have read := reads_structureHeader small signature body 0
    rw [writeStructureHeader_small small] at read
    exact read
  | @one count =>
    rw [← ofBigEndian_one]
    rfl
  | @two high low =>
    rw [← ofBigEndian_two]
    rfl

namespace Request

/-! ## Faults -/

section Faults

variable {α β : Type}

def FailsKnown (x : Except ProtocolError α) : Prop :=
  ∀ e, x = .error e → (∃ fault, e = .invalidRequest fault) ∨ e.isFatal = true

theorem known_ok (v : α) : FailsKnown (.ok v : Except ProtocolError α) := nofun

theorem known_fatal {e : ProtocolError} (fatal : e.isFatal = true) :
    FailsKnown (.error e : Except ProtocolError α) := by
  rintro _ ⟨⟩
  exact .inr fatal

theorem known_invalid (fault : RequestFault) :
    FailsKnown (.error (.invalidRequest fault) : Except ProtocolError α) := by
  rintro _ ⟨⟩
  exact .inl ⟨fault, rfl⟩

theorem known_bind {x : Except ProtocolError α} {f : α → Except ProtocolError β}
    (first : FailsKnown x) (further : ∀ v, FailsKnown (f v)) : FailsKnown (x >>= f) := by
  cases x with
  | error e =>
    rintro _ ⟨⟩
    exact first e rfl
  | ok v => exact further v

theorem known_field (kind : RequestKind) (name : String) (values : List Value) (place : Nat) :
    FailsKnown (field kind name values place) := by
  unfold field
  split
  · exact known_ok _
  · exact known_fatal rfl

theorem known_stringField (kind : RequestKind) (name : String) (values : List Value) (place : Nat) :
    FailsKnown (stringField kind name values place) := by
  refine known_bind (known_field kind name values place) fun v => ?_
  split
  · exact known_ok _
  · exact known_fatal rfl

theorem known_mapField (kind : RequestKind) (name : String) (values : List Value) (place : Nat) :
    FailsKnown (mapField kind name values place) := by
  refine known_bind (known_field kind name values place) fun v => ?_
  split
  · exact known_ok _
  · exact known_fatal rfl

theorem known_requirePrimitive (place : String) (map : Dict Value) :
    FailsKnown (requirePrimitive place map) := by
  unfold requirePrimitive
  split
  · exact known_invalid _
  · exact known_ok _

theorem known_metadataOf (map : Dict Value) : FailsKnown (metadataOf map) := by
  unfold metadataOf
  cases TxMetadata.ofMap map with
  | error fault => exact known_invalid fault
  | ok metadata => exact known_ok metadata

theorem known_ofFields (layout : RequestLayout) (values : List Value) :
    FailsKnown (ofFields layout values) := by
  unfold ofFields
  cases layout.kind with
  | init =>
    exact known_bind (known_stringField _ _ _ _) fun agent =>
      known_bind (known_mapField _ _ _ _) fun auth =>
      known_bind (known_requirePrimitive _ _) fun _ => known_ok _
  | hello =>
    refine known_bind (known_mapField _ _ _ _) fun extra =>
      known_bind (known_requirePrimitive _ _) fun _ => ?_
    split
    · exact known_ok _
    · exact known_invalid _
    · exact known_invalid _
  | run =>
    refine known_bind (known_stringField _ _ _ _) fun statement =>
      known_bind (known_mapField _ _ _ _) fun parameters => ?_
    split
    · exact known_bind (known_mapField _ _ _ _) fun map =>
        known_bind (known_metadataOf map) fun metadata => known_ok _
    · exact known_ok _
  | begin =>
    exact known_bind (known_mapField _ _ _ _) fun map =>
      known_bind (known_metadataOf map) fun metadata => known_ok _
  | pullAll | discardAll | reset | commit | rollback | goodbye => exact known_ok _

end Faults

/-! ## Verdicts -/

/-- The ways in which reading a message can end. -/
inductive Verdict (version : Version) (message : List UInt8) :
    Except Undecodable (Request × ReplyStrategy) → Prop
  | unknown {fields : Nat} {signature : UInt8} {body : List UInt8} :
      Headed message fields signature body → RequestLayout.find? version signature = none →
      Verdict version message (.error (.unknownSignature signature))
  | fatal {e : ProtocolError} : (∀ fields signature body, Headed message fields signature body →
        RequestLayout.find? version signature ≠ none) → e.isFatal = true →
      Verdict version message (.error (.fatal e))
  | invalid {layout : RequestLayout} {body : List UInt8} {values : List Value} {depth : Nat}
      {fault : RequestFault} : Headed message layout.fields layout.signature body →
      RequestLayout.find? version layout.signature = some layout →
      Reader.items (Reader.value version) layout.fields ⟨body, 0⟩ = .ok values ⟨[], depth⟩ →
      ofFields layout values = .error (.invalidRequest fault) →
      Verdict version message (.error (.invalid layout.kind fault))
  | made {layout : RequestLayout} {body : List UInt8} {values : List Value} {depth : Nat}
      {r : Request} : Headed message layout.fields layout.signature body →
      RequestLayout.find? version layout.signature = some layout →
      Reader.items (Reader.value version) layout.fields ⟨body, 0⟩ = .ok values ⟨[], depth⟩ →
      ofFields layout values = .ok r → Verdict version message (.ok (r, layout.reply))

theorem fatal_structureHeader : FailsFatally Reader.structureHeader := by
  refine fatal_bind fatal_byte fun b => ?_
  split
  next size _ => exact (fatal_compositional .v1).headerAfter size
  · exact fatal_throw rfl

theorem find?_signature {layout : RequestLayout}
    (found : RequestLayout.find? version signature = some layout) :
    layout.signature = signature := by
  simpa using List.find?_some found

inductive Filled (version : Version) (layout : RequestLayout) (fields : Nat) (body : List UInt8) :
    EStateM.Result ProtocolError Cursor Request → Prop
  | fatal {e : ProtocolError} {after : Cursor} : e.isFatal = true →
      Filled version layout fields body (.error e after)
  | judged {values : List Value} {depth : Nat} {outcome : Except ProtocolError Request} :
      fields = layout.fields →
      Reader.items (Reader.value version) layout.fields ⟨body, 0⟩ = .ok values ⟨[], depth⟩ →
      ofFields layout values = outcome → Filled version layout fields body
        (match outcome with
          | .ok r => .ok r ⟨[], depth⟩
          | .error e => .error e ⟨[], depth⟩)

theorem finish_given {after : Cursor} (given : Reader.finish cursor = .ok () after) :
    after = cursor ∧ ∃ depth, cursor = ⟨[], depth⟩ := by
  obtain ⟨rest, depth⟩ := cursor
  cases rest with
  | nil =>
    cases given
    exact ⟨rfl, depth, rfl⟩
  | cons => cases given

theorem readFields_filled (version : Version) (layout : RequestLayout) (fields : Nat)
    (body : List UInt8) :
    Filled version layout fields body (readFields version layout fields ⟨body, 0⟩) := by
  have inside : FailsFatally (Reader.value version) := fun cursor =>
    (fatal_compositional version).valueWithin (maxDepth - cursor.depth) cursor
  have each : FailsFatally (Reader.items (Reader.value version) fields) :=
    (fatal_compositional version).items inside fields
  cases ended : readFields version layout fields ⟨body, 0⟩ with
  | ok r after =>
    unfold readFields at ended
    split at ended
    next same =>
      obtain ⟨values, between, read, ended⟩ := sequence_given.mp ended
      obtain ⟨⟨⟩, last, finished, ended⟩ := sequence_given.mp ended
      obtain ⟨rfl, depth, rfl⟩ := finish_given finished
      cases made : ofFields layout values with
      | error e =>
        rw [made] at ended
        cases ended
      | ok request =>
        rw [made] at ended
        cases ended
        exact .judged same (same ▸ read) made
    · cases ended
  | error e after =>
    unfold readFields at ended
    split at ended
    next same =>
      rcases sequence_failed.mp ended with failed | ⟨values, between, read, ended⟩
      · exact .fatal (each _ _ _ failed)
      rcases sequence_failed.mp ended with failed | ⟨⟨⟩, last, finished, ended⟩
      · exact .fatal (fatal_finish _ _ _ failed)
      obtain ⟨rfl, depth, rfl⟩ := finish_given finished
      cases made : ofFields layout values with
      | error e =>
        rw [made] at ended
        cases ended
        exact .judged same (same ▸ read) made
      | ok request =>
        rw [made] at ended
        cases ended
    · cases ended
      exact .fatal rfl

theorem decode_verdict (version : Version) (message : List UInt8) :
    Verdict version message (decode version message) := by
  unfold decode
  split
  next e after failed =>
    refine .fatal (fun fields signature body headed => ?_) (fatal_structureHeader _ _ _ failed)
    cases (header_read headed).symm.trans failed
  next fields signature cursor read =>
  obtain ⟨body, headed, rfl⟩ := header_given read
  split
  next missing => exact .unknown headed missing
  next layout found =>
  have known : ∀ fields signature body, Headed message fields signature body →
      RequestLayout.find? version signature ≠ none := by
    intro fields' signature' body' headed'
    cases (header_read headed').symm.trans read
    simp [found]
  have filled := readFields_filled version layout fields body
  generalize readFields version layout fields ⟨body, 0⟩ = outcome at filled
  cases filled with
  | @fatal e _ fatal =>
    cases e with
    | invalidRequest => cases fatal
    | _ => exact .fatal known fatal
  | @judged values depth outcome same filled made =>
    cases find?_signature found
    subst same
    cases outcome with
    | ok r => exact .made headed found filled made
    | error e =>
      rcases known_ofFields layout values e made with ⟨fault, rfl⟩ | fatal
      · exact .invalid headed found filled made
      · cases e with
        | invalidRequest => cases fatal
        | _ => exact .fatal known fatal

/-! ## Writing again -/

/-- Whether a part of a request that has been read from a value can be written again, in no more
bytes than the value. -/
structure Restored (version : Version) (part : Part) (v : Value) : Prop where
  legible : Legible maxDepth part.value
  plain : ∀ d, part = .plain d → d.firstComplex? = none
  within : (part.write version).Within (v.write version)

section Restored

variable {d : Dict Value}

theorem restored_text (s : String) : Restored version (.text s) (.string s) :=
  ⟨legible_flat rfl, by rintro _ ⟨⟩, by rw [Value.write_string]; exact Written.within_refl⟩

theorem restored_map (legible : Legible maxDepth (.map d)) : Restored version (.map d) (.map d) :=
  ⟨legible, by rintro _ ⟨⟩, by rw [Value.write_map]; exact Written.within_refl⟩

theorem writePrimitive_plain (plain : d.firstComplex? = none) :
    d.writePrimitive version = d.write version := by
  unfold Dict.writePrimitive
  rw [plain]

theorem restored_plain (legible : Legible maxDepth (.map d)) (plain : d.firstComplex? = none) :
    Restored version (.plain d) (.map d) where
  legible := legible
  plain := by
    rintro _ ⟨⟩
    exact plain
  within := by
    rw [Value.write_map]
    exact writePrimitive_plain plain ▸ Written.within_refl

theorem restored_options {m : TxMetadata} (legible : Legible maxDepth (.map d))
    (given : TxMetadata.ofMap d = .ok m) : Restored version (.plain m.toMap) (.map d) := by
  obtain ⟨legible, plain, within⟩ := TxMetadata.toMap_read given legible version
  refine ⟨legible, ?_, ?_⟩
  · rintro _ ⟨⟩
    exact plain
  · have same : (Part.plain m.toMap).write version = m.toMap.write version :=
      writePrimitive_plain plain
    rw [Value.write_map, same]
    exact within

end Restored

/-! ## Fields -/

section Made

variable {layout : RequestLayout} {values : List Value} {r : Request}

theorem stringField_found {kind : RequestKind} {name s : String} {place : Nat}
    (given : stringField kind name values place = .ok s) : values[place]? = some (.string s) := by
  unfold stringField field at given
  cases found : values[place]? with
  | none => rw [found] at given; cases given
  | some v =>
    rw [found] at given
    cases v with
    | string => cases given; rfl
    | _ => cases given

theorem requirePrimitive_given {place : String} {d : Dict Value}
    (given : requirePrimitive place d = .ok ()) : d.firstComplex? = none := by
  unfold requirePrimitive at given
  split at given
  · cases given
  · assumption

theorem metadataOf_given {map : Dict Value} {m : TxMetadata} (given : metadataOf map = .ok m) :
    TxMetadata.ofMap map = .ok m := by
  unfold metadataOf at given
  cases read : TxMetadata.ofMap map with
  | error fault => rw [read] at given; cases given
  | ok m' =>
    rw [read] at given
    cases given
    rfl

/-- What a request is made of. -/
inductive MadeOf (layout : RequestLayout) (values : List Value) : Request → Prop
  | init {agent : String} {auth : Dict Value} : values[0]? = some (.string agent) →
      values[1]? = some (.map auth) → auth.firstComplex? = none →
      MadeOf layout values (.init agent auth)
  | hello {extra : Dict Value} {agent : String} : values[0]? = some (.map extra) →
      extra.firstComplex? = none → extra.get? userAgentKey = some (.string agent) →
      MadeOf layout values (.hello extra)
  | bare {statement : String} {parameters : Dict Value} : layout.fields ≠ 3 →
      values[0]? = some (.string statement) → values[1]? = some (.map parameters) →
      MadeOf layout values (.run statement parameters .default)
  | run {statement : String} {parameters map : Dict Value} {m : TxMetadata} : layout.fields = 3 →
      values[0]? = some (.string statement) → values[1]? = some (.map parameters) →
      values[2]? = some (.map map) → TxMetadata.ofMap map = .ok m →
      MadeOf layout values (.run statement parameters m)
  | begin {map : Dict Value} {m : TxMetadata} : values[0]? = some (.map map) →
      TxMetadata.ofMap map = .ok m → MadeOf layout values (.begin m)
  | empty {r : Request} : r.options = .default → r.dicts = [] →
      (∀ version, r.parts version = []) → MadeOf layout values r

theorem ofFields_made (made : ofFields layout values = .ok r) : MadeOf layout values r := by
  unfold ofFields at made
  split at made
  · obtain ⟨agent, first, made⟩ := except_bind_ok made
    obtain ⟨auth, second, made⟩ := except_bind_ok made
    obtain ⟨⟨⟩, primitive, made⟩ := except_bind_ok made
    cases made
    exact .init (stringField_found first) (mapField_found second)
      (requirePrimitive_given primitive)
  · obtain ⟨extra, first, made⟩ := except_bind_ok made
    obtain ⟨⟨⟩, primitive, made⟩ := except_bind_ok made
    split at made
    next agent named =>
      cases made
      exact .hello (mapField_found first) (requirePrimitive_given primitive) named
    · cases made
    · cases made
  · obtain ⟨statement, first, made⟩ := except_bind_ok made
    obtain ⟨parameters, second, made⟩ := except_bind_ok made
    split at made
    next three =>
      obtain ⟨map, third, made⟩ := except_bind_ok made
      obtain ⟨m, read, made⟩ := except_bind_ok made
      cases made
      exact .run three (stringField_found first) (mapField_found second) (mapField_found third)
        (metadataOf_given read)
    next other =>
      cases made
      exact .bare other (stringField_found first) (mapField_found second)
  · obtain ⟨map, first, made⟩ := except_bind_ok made
    obtain ⟨m, read, made⟩ := except_bind_ok made
    cases made
    exact .begin (mapField_found first) (metadataOf_given read)
  all_goals
    cases made
    exact .empty rfl rfl fun _ => rfl

theorem made_options (made : MadeOf layout values r) : r.options = .default ∨
    ∃ map, .map map ∈ values ∧ TxMetadata.ofMap map = .ok r.options := by
  cases made with
  | init | hello | bare => exact .inl rfl
  | run _ _ _ third read => exact .inr ⟨_, List.mem_of_getElem? third, read⟩
  | begin first read => exact .inr ⟨_, List.mem_of_getElem? first, read⟩
  | empty none _ _ => exact .inl none

section Complete

variable (arity : layout.fields = r.kind.arity version)
include arity

theorem run_uses (run : r.kind = .run) : version.usesHello = decide (layout.fields = 3) := by
  rw [arity, run, RequestKind.arity]
  cases version.usesHello <;> rfl

/-- The fields of a request that has been read are those that it is written with. -/
theorem made_restored (made : MadeOf layout values r) (counted : values.length = layout.fields)
    (each : ∀ v ∈ values, Legible maxDepth v) :
    List.Forall₂ (Restored version) (r.parts version) values := by
  have count := counted.trans arity
  cases made with
  | init first second plain =>
    obtain ⟨a, b, rfl⟩ := List.length_eq_two.mp count
    cases first
    cases second
    exact .cons (restored_text _) (.cons (restored_plain (each _ (by simp)) plain) .nil)
  | hello first plain _ =>
    obtain ⟨a, rfl⟩ := List.length_eq_one_iff.mp count
    cases first
    exact .cons (restored_plain (each _ (by simp)) plain) .nil
  | bare other first second =>
    have uses : version.usesHello = false := by rw [run_uses arity rfl, decide_eq_false other]
    rw [kind, RequestKind.arity, uses] at count
    obtain ⟨a, b, rfl⟩ := List.length_eq_two.mp count
    cases first
    cases second
    rw [parts, uses]
    exact .cons (restored_text _) (.cons (restored_map (each _ (by simp))) .nil)
  | run three first second third read =>
    have uses : version.usesHello = true := by rw [run_uses arity rfl, decide_eq_true three]
    rw [kind, RequestKind.arity, uses] at count
    obtain ⟨a, b, c, rfl⟩ := List.length_eq_three.mp count
    cases first
    cases second
    cases third
    rw [parts, uses]
    exact .cons (restored_text _) (.cons (restored_map (each _ (by simp)))
      (.cons (restored_options (each _ (by simp)) read) .nil))
  | begin first read =>
    obtain ⟨a, rfl⟩ := List.length_eq_one_iff.mp count
    cases first
    exact .cons (restored_options (each _ (by simp)) read) .nil
  | empty _ _ none =>
    rw [← parts_arity, none version] at count
    rw [none version, List.eq_nil_of_length_eq_zero count]
    exact .nil

theorem made_received (made : MadeOf layout values r) : r.received version = r := by
  cases made with
  | bare other =>
    have uses : version.usesHello = false := by rw [run_uses arity rfl, decide_eq_false other]
    rw [received, uses]
    rfl
  | run three =>
    have uses : version.usesHello = true := by rw [run_uses arity rfl, decide_eq_true three]
    rw [received, uses]
    rfl
  | empty _ _ none =>
    cases r with
    | run => cases uses : version.usesHello <;> cases (none .v1)
    | _ => rfl
  | _ => rfl

end Complete

/-- The maps of a request that has been read are regular and not too deep. -/
theorem made_dicts (made : MadeOf layout values r) (each : ∀ v ∈ values, Legible maxDepth v) :
    ∀ d ∈ r.dicts, Legible maxDepth (.map d) := by
  have nothing : Legible maxDepth (.map .empty) :=
    legible_map List.nodup_nil (List.forall_mem_nil _)
  cases made with
  | init _ second _ => simpa [dicts] using each _ (List.mem_of_getElem? second)
  | hello first _ _ => simpa [dicts] using each _ (List.mem_of_getElem? first)
  | bare _ _ second =>
    simpa [dicts, TxMetadata.default] using ⟨each _ (List.mem_of_getElem? second), nothing⟩
  | run _ _ second third read =>
    have entries := TxMetadata.entries_legible read (each _ (List.mem_of_getElem? third))
    simpa [dicts] using ⟨each _ (List.mem_of_getElem? second), entries⟩
  | begin first read =>
    have entries := TxMetadata.entries_legible read (each _ (List.mem_of_getElem? first))
    simpa [dicts] using entries
  | empty _ none _ => simp [none]

theorem restored_parts {parts : List Part}
    (restored : List.Forall₂ (Restored version) parts values) :
    ∀ part ∈ parts, ∃ v, Restored version part v := by
  induction restored with
  | nil => exact List.forall_mem_nil _
  | cons first _ ih => exact List.forall_mem_cons.mpr ⟨⟨_, first⟩, ih⟩

theorem restored_within {parts : List Part}
    (restored : List.Forall₂ (Restored version) parts values) :
    (Written.concat (parts.map (Part.write version))).Within
      (.concat (values.map (·.write version))) := by
  induction restored with
  | nil => exact Written.within_refl
  | cons first _ ih =>
    rw [List.map_cons, List.map_cons, Written.concat_cons, Written.concat_cons]
    exact Written.within_append first.within ih

/-- A request that has been read is one that can be read back. -/
theorem made_plain (made : MadeOf layout values r)
    (restored : List.Forall₂ (Restored version) (r.parts version) values)
    (each : ∀ v ∈ values, Legible maxDepth v) : r.IsPlain version := by
  have legible : ∀ d ∈ r.maps version, Legible maxDepth (.map d) := by
    intro d among
    obtain ⟨part, held, is⟩ := List.mem_filterMap.mp among
    obtain ⟨v, restored⟩ := restored_parts restored part held
    cases part with
    | text => cases is
    | map | plain =>
      cases is
      exact restored.legible
  refine ⟨fun d among => (made_dicts made each d among).regular.distinct,
    fun d among => (legible d among).nesting,
    fun d among => (legible d among).regular.unleaping, ?_, ?_⟩
  · rintro extra rfl
    cases made with
    | hello _ _ named => exact ⟨_, named⟩
    | empty _ none _ => cases none
  · rcases made_options made with none | ⟨map, among, read⟩
    · rw [none]
      rintro limit ⟨⟩
    · exact TxMetadata.ofMap_whole read

end Made

/-! ## What has been read -/

theorem headed_length (headed : Headed message fields signature body) :
    body.length + 2 ≤ message.length := by
  cases headed <;> simp

/-- A request that the version knows and that can be written is encoded as it is written. -/
theorem encode_of_clear {layout : RequestLayout} {r : Request}
    (found : RequestLayout.find? version r.kind.signature = some layout)
    (kind : layout.kind = r.kind) (clear : (r.write version).abort = none) :
    r.encode version = .ok (r.write version).bytes := by
  have known : r.isKnown version = true := by
    unfold isKnown
    rw [found]
    exact beq_iff_eq.mpr kind
  unfold encode encodeOnto
  rw [known, if_pos rfl, Written.onto_clear clear]
  rfl

/-- A request is written in no more bytes than its header and the values it was read from have. -/
theorem write_restored {r : Request} {values : List Value} {cursor after : Cursor}
    (restored : List.Forall₂ (Restored version) (r.parts version) values)
    (paid : Pays cursor after (.concat (values.map (·.write version)))) :
    (r.write version).abort = none ∧ (r.write version).bytes.length ≤ cursor.rest.length + 2 := by
  have small : (r.parts version).length < 16 := parts_arity version r ▸ arity_small version r.kind
  have body := pays_within paid (restored_within restored)
  rw [write_parts, writeStructureHeader_small small]
  have header : (Written.ofBytes [UInt8.ofNat (structureInlineBase + (r.parts version).length),
      r.kind.signature]).abort = none := rfl
  have clear := Written.append_abort.mpr ⟨header, body.clear⟩
  refine ⟨clear, ?_⟩
  have covered := body.covered
  rw [Written.append_bytes clear, List.length_append]
  simp only [Written.ofBytes, List.length_cons, List.length_nil]
  omega

/-- A request that has been read is written in no more bytes than it was read from, and these are
read as the request. -/
theorem encode_read {r : Request} {reply : ReplyStrategy}
    (given : decode version message = .ok (r, reply)) :
    ∃ shorter, r.encode version = .ok shorter ∧ shorter.length ≤ message.length ∧
      decode version shorter = .ok (r, reply) := by
  have verdict := decode_verdict version message
  rw [given] at verdict
  cases verdict with
  | @made layout body values depth _ headed found read made =>
  have kind : layout.kind = r.kind := (fields_kind made).symm
  have arity : layout.fields = r.kind.arity version :=
    kind ▸ layout_arity (List.mem_of_find?_eq_some found)
  have affords : Affords version (Reader.value version) := fun cursor =>
    affords_within version (maxDepth - cursor.depth) cursor
  obtain ⟨counted, paid⟩ := items_given affords read
  have each : ∀ v ∈ values, Legible maxDepth v :=
    (yields_items (yields_start version)).given _ values _ read
  have source := ofFields_made made
  have restored := made_restored arity source counted each
  obtain ⟨clear, short⟩ := write_restored restored paid
  have named : RequestLayout.find? version r.kind.signature = some layout := kind ▸ found
  have back := decode_written named kind clear (made_plain source restored each)
  rw [made_received arity source] at back
  exact ⟨(r.write version).bytes, encode_of_clear named kind clear,
    short.trans (headed_length headed), back⟩

/-- The credentials and transaction options of a request that has been read are primitive. -/
theorem read_primitive {r : Request} {reply : ReplyStrategy}
    (given : decode version message = .ok (r, reply)) :
    (∀ auth, r.authToken? = some auth → (Value.map auth).isPrimitive = true) ∧
      (Value.map r.options.entries).isPrimitive = true := by
  have verdict := decode_verdict version message
  rw [given] at verdict
  cases verdict with
  | @made layout body values depth _ headed found read made =>
  have source := ofFields_made made
  constructor
  · intro auth told
    cases source with
    | init _ _ plain =>
      cases told
      exact Value.isPrimitive_map.mpr plain
    | hello _ plain _ =>
      cases told
      refine Value.isPrimitive_map.mpr (List.find?_eq_none.mpr fun entry among => ?_)
      exact List.find?_eq_none.mp plain entry (List.mem_filter.mp among).1
    | bare | run | begin => cases told
    | empty _ none _ =>
      cases r with
      | init | hello => cases none
      | _ => cases told
  · rcases made_options source with none | ⟨map, -, read⟩
    · rw [none]
      cbv
    · exact Value.isPrimitive_map.mpr (TxMetadata.ofMap_plain read)

end Request

def ValueType.primitives : List ValueType :=
  [.null, .boolean, .integer, .float, .string, .list, .map]

theorem Value.primitive_everywhere {v : Value} (plain : v.isPrimitive = true) :
    v.everywhere (fun part => ValueType.primitives.contains part.type) = true := by
  induction v using child_induction with
  | step v ih =>
  refine everywhere_iff.mpr ?_
  cases v with
  | null | boolean | integer | float | string => exact ⟨rfl, List.forall_mem_nil _⟩
  | list | map =>
    rw [isPrimitive] at plain
    refine ⟨rfl, fun child among => ih child among ?_⟩
    exact List.all_eq_true.mp plain ⟨child, among⟩ (List.mem_attach _ _)
  | _ => simp [isPrimitive] at plain

/-- Which of the four outcomes a message has, and what each of them says. -/
theorem Request.decode_outcomes (version : Version) (message : List UInt8) :
    (∀ signature, decode version message = .error (.unknownSignature signature) ↔
      (∃ fields body, Headed message fields signature body) ∧
        RequestLayout.find? version signature = none) ∧
    (∀ kind fault, decode version message = .error (.invalid kind fault) →
      ∃ layout body values depth, RequestLayout.find? version layout.signature = some layout ∧
        layout.kind = kind ∧ Headed message layout.fields layout.signature body ∧
        Reader.items (Reader.value version) layout.fields ⟨body, 0⟩ = .ok values ⟨[], depth⟩) ∧
    (∀ e, decode version message = .error (.fatal e) → e.isFatal = true) ∧
    ∀ r reply, decode version message = .ok (r, reply) →
      (∃ shorter, r.encode version = .ok shorter ∧ shorter.length ≤ message.length ∧
        decode version shorter = .ok (r, reply)) ∧
      (∀ auth, r.authToken? = some auth →
        (Value.map auth).everywhere (ValueType.primitives.contains ·.type) = true) ∧
      (Value.map r.options.entries).everywhere (ValueType.primitives.contains ·.type) = true := by
  refine ⟨fun signature => ?_, fun kind fault given => ?_, fun e given => ?_,
    fun r reply given => ?_⟩
  · have verdict := decode_verdict version message
    constructor
    · intro given
      rw [given] at verdict
      cases verdict with
      | unknown headed missing => exact ⟨⟨_, _, headed⟩, missing⟩
    · rintro ⟨⟨fields, body, headed⟩, missing⟩
      unfold decode
      rw [header_read headed]
      dsimp only
      rw [missing]
  · have verdict := decode_verdict version message
    rw [given] at verdict
    cases verdict with
    | invalid headed found read _ => exact ⟨_, _, _, _, found, rfl, headed, read⟩
  · have verdict := decode_verdict version message
    rw [given] at verdict
    cases verdict with
    | fatal _ fatal => exact fatal
  · obtain ⟨credentials, options⟩ := read_primitive given
    exact ⟨encode_read given, fun auth told => Value.primitive_everywhere (credentials auth told),
      Value.primitive_everywhere options⟩

end GraphProtocol
