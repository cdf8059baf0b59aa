import GraphProtocol.Proofs.Value.Entries
import GraphProtocol.Proofs.Wire.Reading

/-!
# Values that are carried

What is written is carried by a reader if it is read back, unless it could not be
written. Sizes, numbers, texts, lists, maps and the headers of structures are each
carried by the reader for values, at any level that leaves room for what they hold.
-/

set_option autoImplicit false

namespace GraphProtocol.Wire

/-! ## Writing in parts -/

namespace Written

variable {a b c : Written}

theorem append_aborted {abort : Abort Unsupported} (aborted : a.abort = some abort) :
    a ++ b = a := by
  change append a b = a
  unfold append
  rw [aborted]

theorem append_clear (clear : a.abort = none) : a ++ b = ⟨a.bytes ++ b.bytes, b.abort⟩ := by
  change append a b = _
  unfold append
  rw [clear]

theorem append_assoc : a ++ b ++ c = a ++ (b ++ c) := by
  cases first : a.abort with
  | some abort => rw [append_aborted first, append_aborted first, append_aborted first]
  | none =>
    rw [append_clear first]
    cases second : b.abort with
    | some abort => rw [append_aborted second, append_clear first, append_aborted rfl, second]
    | none =>
      rw [append_clear second, append_clear first, append_clear rfl, List.append_assoc]

/-- A sequence is written without an obstacle if its parts are. -/
theorem append_abort : (a ++ b).abort = none ↔ a.abort = none ∧ b.abort = none := by
  cases first : a.abort with
  | some abort => simp [append_aborted first, first]
  | none => simp [append_clear first]

theorem append_bytes (clear : (a ++ b).abort = none) : (a ++ b).bytes = a.bytes ++ b.bytes := by
  rw [append_clear (append_abort.mp clear).1]

theorem concat_cons (part : Written) (parts : List Written) :
    concat (part :: parts) = part ++ concat parts := by
  unfold concat
  simp only [List.span_eq_takeWhile_dropWhile]
  cases aborted : part.abort with
  | some abort =>
    rw [append_aborted aborted]
    simp only [List.takeWhile_cons, List.dropWhile_cons, aborted, Option.isNone_some,
      Bool.false_eq_true, if_false, List.flatMap_nil, List.nil_append]
    rw [← aborted]
  | none =>
    rw [append_clear aborted]
    simp only [List.takeWhile_cons, List.dropWhile_cons, aborted, Option.isNone_none, if_true,
      List.flatMap_cons]
    cases parts.dropWhile fun part => part.abort.isNone with
    | nil => rfl
    | cons next rest => simp

theorem concat_abort {parts : List Written} :
    (concat parts).abort = none ↔ ∀ part ∈ parts, part.abort = none := by
  induction parts with
  | nil => simp [concat]
  | cons part rest ih => simp [concat_cons, append_abort, ih]

theorem concat_bytes {parts : List Written} (clear : (concat parts).abort = none) :
    (concat parts).bytes = parts.flatMap (·.bytes) := by
  induction parts with
  | nil => rfl
  | cons part rest ih =>
    rw [concat_cons] at clear ⊢
    rw [append_bytes clear, ih (append_abort.mp clear).2, List.flatMap_cons]

end Written

/-! ## Carried parts -/

section Parts

variable {α β : Type}

/-- The reader reads back what is written, unless it could not be written. -/
def Carries (read : Reader α) (w : Written) (a : α) : Prop :=
  w.abort = none → Reads read w.bytes a

theorem carries_bytes {read : Reader α} {bytes : List UInt8} {a : α} (reads : Reads read bytes a) :
    Carries read (.ofBytes bytes) a := fun _ => reads

theorem carries_bind {read : Reader α} {next : α → Reader β} {early late : Written} {a : α} {b : β}
    (first : Carries read early a) (further : Carries (next a) late b) :
    Carries (read >>= next) (early ++ late) b := by
  intro clear
  obtain ⟨clear', clear''⟩ := Written.append_abort.mp clear
  rw [Written.append_bytes clear]
  exact reads_bind (first clear') (further clear'')

theorem carries_wrap {read : Reader α} {w : Written} {a : α} (wrap : α → β)
    (first : Carries read w a) : Carries (read >>= fun a => pure (wrap a)) w (wrap a) :=
  fun clear => reads_wrap wrap (first clear)

end Parts

/-! ## Markers -/

theorem ofByte?_inline {kind : SizedKind} {base size : Nat} (has : inlineBase kind = some base)
    (small : size < 16) :
    Marker.ofByte? (UInt8.ofNat (base + size)) = some (.sized kind (.inline size)) := by
  have all : ∀ size < 16, Marker.ofByte? (UInt8.ofNat (base + size)) =
      some (.sized kind (.inline size)) := by
    cases kind <;> cases has <;> decide
  exact all size small

theorem ofByte?_structure {fields : Nat} (small : fields < 16) :
    Marker.ofByte? (UInt8.ofNat (structureInlineBase + fields)) =
      some (.structure (.inline fields)) := by
  have all : ∀ fields < 16, Marker.ofByte? (UInt8.ofNat (structureInlineBase + fields)) =
      some (.structure (.inline fields)) := by decide
  exact all fields small

theorem ofByte?_small {i : Int} (low : -16 ≤ i) (high : i ≤ 127) :
    Marker.ofByte? (UInt8.ofNat (i % range 1).toNat) = some (.smallInteger i) := by
  have all : ∀ n : Nat, n < 144 → Marker.ofByte? (UInt8.ofNat (((n : Int) - 16) % range 1).toNat) =
      some (.smallInteger ((n : Int) - 16)) := by decide
  have here := all (i + 16).toNat (by omega)
  rwa [Int.toNat_of_nonneg (by omega), Int.add_sub_cancel] at here

/-! ## Collections -/

section Collections

variable {version : Version} {inner : Option (Reader Value)} {α : Type}

def sized (inner : Option (Reader Value)) : SizedKind → Nat → Reader Value
  | .string, size => return .string (← Reader.text size)
  | .byteArray, size => return .bytes (← Reader.take size)
  | .list, size => return .list (← Reader.listBody inner size)
  | .map, size => return .map (← Reader.mapBody inner size)

theorem reads_sized {kind : SizedKind} {b : UInt8} {extent : Extent} {size : Nat}
    {early late : List UInt8} {v : Value} (marked : Marker.ofByte? b = some (.sized kind extent))
    (allowed : kind = .byteArray → version.hasExtendedValues = true)
    (counted : Reads (Reader.extent extent) early size)
    (body : Reads (sized inner kind size) late v) :
    Reads (Reader.valueBy version inner) (b :: (early ++ late)) v := by
  apply reads_bind (reads_byte b)
  rw [marked]
  cases kind with
  | byteArray =>
    dsimp only
    rw [if_pos (allowed rfl)]
    exact reads_bind counted body
  | string | list | map => exact reads_bind counted body

def Marked (kind : SizedKind) (size : Nat) (bytes : List UInt8) : Prop :=
  ∃ b extent early, bytes = b :: early ∧
    Marker.ofByte? b = some (.sized kind extent) ∧ Reads (Reader.extent extent) early size

theorem marked_following {kind : SizedKind} {size : Nat}
    (clear : (writeSize.following kind size).abort = none) :
    Marked kind size (writeSize.following kind size).bytes := by
  unfold writeSize.following at clear ⊢
  by_cases one : size < UInt8.size
  · rw [if_pos one]
    exact ⟨_, .following 1, _, rfl, by cases kind <;> rfl, reads_unsigned one⟩
  by_cases two : size < UInt16.size
  · rw [if_neg one, if_pos two]
    exact ⟨_, .following 2, _, rfl, by cases kind <;> rfl, reads_unsigned two⟩
  by_cases four : size < UInt32.size
  · rw [if_neg one, if_neg two, if_pos four]
    exact ⟨_, .following 4, _, rfl, by cases kind <;> rfl, reads_unsigned four⟩
  · simp [one, two, four, Written.refuse] at clear

theorem marked_size {kind : SizedKind} {size : Nat} (clear : (writeSize kind size).abort = none) :
    Marked kind size (writeSize kind size).bytes := by
  unfold writeSize at clear ⊢
  cases has : inlineBase kind with
  | none =>
    rw [has] at clear
    exact marked_following clear
  | some base =>
    rw [has] at clear
    by_cases small : size < 16
    · simp only [if_pos small]
      exact ⟨_, .inline size, [], rfl, ofByte?_inline has small, reads_pure size⟩
    · simp only [if_neg small] at clear ⊢
      exact marked_following clear

theorem carries_sized {kind : SizedKind} {size : Nat} {w : Written} {v : Value}
    (allowed : kind = .byteArray → version.hasExtendedValues = true)
    (body : Carries (sized inner kind size) w v) :
    Carries (Reader.valueBy version inner) (writeSize kind size ++ w) v := by
  intro clear
  obtain ⟨clear', clear''⟩ := Written.append_abort.mp clear
  obtain ⟨b, extent, early, bytes, marked, counted⟩ := marked_size clear'
  rw [Written.append_bytes clear, bytes]
  exact reads_sized marked allowed counted (body clear'')

/-- Every value takes at least a byte. -/
theorem reads_nonempty {bytes : List UInt8} {v : Value}
    (reads : Reads (Reader.valueBy version inner) bytes v) : 0 < bytes.length := by
  cases bytes with
  | nil => cases reads [] 0
  | cons b rest => exact Nat.succ_pos _

theorem carries_string (s : String) :
    Carries (Reader.valueBy version inner) (writeString s) (.string s) := by
  apply carries_sized
  · rintro ⟨⟩
  · exact carries_wrap Value.string (carries_bytes (reads_text s))

theorem carries_byteArray (allowed : version.hasExtendedValues = true) (bytes : List UInt8) :
    Carries (Reader.valueBy version inner) (writeBytes bytes) (.bytes bytes) := by
  apply carries_sized
  · exact fun _ => allowed
  · exact carries_wrap Value.bytes (carries_bytes (reads_take bytes))

theorem require_ok {count depth : Nat} {bytes : List UInt8} (enough : count ≤ bytes.length) :
    Reader.require count ⟨bytes, depth⟩ = .ok () ⟨bytes, depth⟩ := by
  have length : (bytes.take count).length = count := List.length_take_of_le enough
  unfold Reader.require
  rw [length, if_neg (Nat.lt_irrefl count)]

/-- What is read one level down, between raising and lowering the depth counter. -/
theorem reads_level {β γ : Type} {count : Nat} {read : Reader Value}
    {body : Reader Value → Reader β} {bytes : List UInt8} {b : β} (wrap : β → γ)
    (enough : count ≤ bytes.length) (inside : Reads (body read) bytes b) :
    Reads (do
      Reader.require count
      Reader.enter (some read) fun read => do
        let parts ← body read
        Reader.leave
        return wrap parts) bytes (wrap b) := by
  intro rest depth
  change EStateM.bind _ _ _ = _
  unfold EStateM.bind
  rw [require_ok (by rw [List.length_append]; omega)]
  change EStateM.bind (body read) _ ⟨bytes ++ rest, depth + 1⟩ = _
  unfold EStateM.bind
  rw [inside]
  rfl

theorem length_flatMap_le {β γ : Type} {parts : List β} {bytes : β → List γ} {least : Nat}
    (each : ∀ part ∈ parts, least ≤ (bytes part).length) :
    least * parts.length ≤ (parts.flatMap bytes).length := by
  induction parts with
  | nil => exact Nat.zero_le _
  | cons part rest ih =>
    have first := each part List.mem_cons_self
    have others := ih fun part among => each part (List.mem_cons_of_mem _ among)
    rw [List.length_cons, List.flatMap_cons, List.length_append, Nat.mul_succ]
    omega

/-- The elements of a list are read one level down. -/
theorem carries_list {items : List α} {write : (x : α) → x ∈ items → Written} (item : α → Value)
    (each : ∀ x (h : x ∈ items), Carries (Reader.valueBy version inner) (write x h) (item x)) :
    Carries (Reader.valueBy version (some (Reader.valueBy version inner)))
      (writeListWith items write) (.list (items.map item)) := by
  apply carries_sized
  · rintro ⟨⟩
  intro clear
  rw [Written.concat_bytes clear, List.flatMap_map]
  have cleared := Written.concat_abort.mp clear
  have one (x : { x // x ∈ items }) (among : x ∈ items.attach) :
      Reads (Reader.valueBy version inner) (write x.1 x.2).bytes (item x.1) :=
    each x.1 x.2 (cleared _ (List.mem_map_of_mem among))
  have all := reads_items one
  -- Before the elements, the reader asks for a byte for each of them.
  have enough := length_flatMap_le fun x among => reads_nonempty (one x among)
  rw [Nat.one_mul] at enough
  have same : items.attach.map (fun x => item x.1) = items.map item := by simp
  rw [same, List.length_attach] at all
  rw [List.length_attach] at enough
  exact reads_wrap Value.list (reads_level id enough all)

/-- A key and its value, each in bytes of its own. -/
theorem reads_entry {read : Reader Value} {key : String} {v : Value} {early late : List UInt8}
    (first : Reads read early (.string key)) (second : Reads read late v) :
    Reads (Reader.entry read) (early ++ late) (key, v) := by
  apply reads_bind first
  exact reads_wrap (key, ·) second

/-- The entries of a map are read one level down. -/
theorem carries_dict {d : Dict Value} {write : (x : Value) → x ∈ d.values → Written}
    (distinct : d.DistinctKeys)
    (each : ∀ x (h : x ∈ d.values), Carries (Reader.valueBy version inner) (write x h) x) :
    Carries (Reader.valueBy version (some (Reader.valueBy version inner)))
      (writeDictWith d write) (.map d) := by
  apply carries_sized
  · rintro ⟨⟩
  intro clear
  rw [Written.concat_bytes clear, List.flatMap_map]
  have cleared := Written.concat_abort.mp clear
  have parts (key : String) (x : Value) (h : (key, x) ∈ d.entries) :
      ∃ early late, (writeString key ++ write x (Dict.mem_values h)).bytes = early ++ late ∧
        Reads (Reader.valueBy version inner) early (.string key) ∧
        Reads (Reader.valueBy version inner) late x := by
    have clear' := cleared _ (List.mem_map_of_mem (List.mem_attach _ ⟨(key, x), h⟩))
    obtain ⟨first, second⟩ := Written.append_abort.mp clear'
    exact ⟨_, _, Written.append_bytes clear', carries_string key first, each x _ second⟩
  have one (e : { e // e ∈ d.entries }) (_ : e ∈ d.entries.attach) :
      Reads (Reader.entry (Reader.valueBy version inner))
        (writeString e.1.1 ++ write e.1.2 (Dict.mem_values e.2)).bytes e.1 := by
    obtain ⟨early, late, bytes, first, second⟩ := parts e.1.1 e.1.2 e.2
    rw [bytes]
    exact reads_entry first second
  -- Before the entries, the reader asks for two bytes for each of them.
  have two (e : { e // e ∈ d.entries }) (_ : e ∈ d.entries.attach) :
      2 ≤ (writeString e.1.1 ++ write e.1.2 (Dict.mem_values e.2)).bytes.length := by
    obtain ⟨early, late, bytes, first, second⟩ := parts e.1.1 e.1.2 e.2
    have pos := reads_nonempty first
    have pos' := reads_nonempty second
    rw [bytes, List.length_append]
    omega
  have all := reads_items one
  have enough := length_flatMap_le two
  rw [List.attach_map_subtype_val, List.length_attach] at all
  rw [List.length_attach] at enough
  have read : Reads (Reader.mapBody (some (Reader.valueBy version inner)) d.entries.length) _ _ :=
    reads_level Dict.ofList enough all
  rw [Dict.ofList_entries distinct] at read
  exact reads_wrap Value.map read

end Collections

/-! ## Plain values -/

section Plain

variable {version : Version} {inner : Option (Reader Value)}

theorem carries_null : Carries (Reader.valueBy version inner) writeNull .null :=
  carries_bytes fun _ _ => rfl

theorem carries_boolean (b : Bool) :
    Carries (Reader.valueBy version inner) (writeBoolean b) (.boolean b) := by
  cases b <;> exact carries_bytes fun _ _ => rfl

/-- An integer behind its marker. -/
theorem carries_wide {b : UInt8} {width : Nat} {i : Int64}
    (marked : Marker.ofByte? b = some (.integer width))
    (low : -(range width / 2 : Int) ≤ i.toInt) (high : i.toInt < ((range width : Int) + 1) / 2) :
    Carries (Reader.valueBy version inner) (.ofBytes (b :: signedBigEndian width i.toInt))
      (.integer i) := by
  apply carries_bytes
  apply reads_bind (reads_byte b)
  rw [marked]
  exact reads_wrap Value.integer (reads_signed low high)

theorem carries_integer (i : Int64) :
    Carries (Reader.valueBy version inner) (writeInteger i) (.integer i) := by
  have low := i.le_toInt
  have high := i.toInt_lt
  unfold writeInteger
  dsimp only
  split
  · next small =>
    apply carries_bytes
    apply reads_bind (reads_byte (UInt8.ofNat ((i.toInt % range 1).toNat / range 0)))
    rw [show range 0 = 1 from rfl, Nat.div_one, ofByte?_small small.1 small.2]
    change Reads (pure (Value.integer (Int64.ofInt i.toInt))) [] _
    rw [Int64.ofInt_toInt]
    exact reads_pure _
  split
  · next one => exact carries_wide rfl (by simp [range]; omega) (by simp [range]; omega)
  split
  · next two => exact carries_wide rfl (by simp [range]; omega) (by simp [range]; omega)
  split
  · next four => exact carries_wide rfl (by simp [range]; omega) (by simp [range]; omega)
  · exact carries_wide rfl (by simp [range]; omega) (by simp [range]; omega)

theorem carries_float (x : Binary64) :
    Carries (Reader.valueBy version inner) (writeFloat x) (.float x) := by
  apply carries_bytes
  apply reads_bind (reads_byte 0xC1)
  have small : x.word < range 8 := x.bits.toNat_lt
  have read := reads_wrap (fun word => Value.float (.ofWord word)) (reads_unsigned small)
  have same : Binary64.ofWord x.word = x := congrArg Binary64.mk (UInt64.ofNat_toNat)
  rw [same] at read
  exact read

end Plain

end GraphProtocol.Wire
