import Mathlib.Tactic
import GraphProtocol.Wire.Reader
import GraphProtocol.Wire.Writer

/-!
# Reading what has been written

A reader reads certain bytes if it reads them whatever follows, and stops right
behind them. Readers are put together from parts as the bytes are. What is written
is carried by a reader if it is read back, unless it could not be written.
-/

set_option autoImplicit false

namespace GraphProtocol.Wire

/-! ## Bytes of numbers and texts -/

theorem range_succ (width : Nat) : range (width + 1) = 256 * range width := by
  simp only [range, Nat.shiftLeft_eq, one_mul]
  ring

theorem range_pos (width : Nat) : 0 < range width := by
  simp [range, Nat.shiftLeft_eq]

theorem ofBigEndian_cons (b : UInt8) (bytes : List UInt8) :
    ofBigEndian (b :: bytes) = b.toNat * range bytes.length + ofBigEndian bytes := by
  -- The fold starts from any number, which ends up above all the bytes.
  have onto (start : Nat) : bytes.foldl (fun n b => n * 256 + b.toNat) start =
      start * range bytes.length + bytes.foldl (fun n b => n * 256 + b.toNat) 0 := by
    induction bytes generalizing start with
    | nil => simp [range]
    | cons c rest ih =>
      simp only [List.foldl_cons, List.length_cons]
      rw [ih, ih (0 * 256 + c.toNat), range_succ]
      ring
  unfold ofBigEndian
  rw [List.foldl_cons, onto, Nat.zero_mul, Nat.zero_add]

/-- The lowest bytes are the number, up to what is above them. -/
theorem ofBigEndian_bigEndian (width n : Nat) :
    ofBigEndian (bigEndian width n) = n % range width := by
  induction width with
  | zero => simp [bigEndian, ofBigEndian, range, Nat.mod_one]
  | succ width ih =>
    rw [bigEndian, ofBigEndian_cons, length_bigEndian, ih, UInt8.toNat_ofNat', range_succ,
      Nat.mul_comm 256, Nat.mod_mul]
    ring

theorem ofBigEndian_lt (bytes : List UInt8) : ofBigEndian bytes < range bytes.length := by
  induction bytes with
  | nil => exact range_pos 0
  | cons b rest ih =>
    have small := b.toNat_lt
    rw [ofBigEndian_cons, List.length_cons, range_succ]
    calc b.toNat * range rest.length + ofBigEndian rest
        < b.toNat * range rest.length + range rest.length := Nat.add_lt_add_left ih _
      _ = (b.toNat + 1) * range rest.length := (Nat.succ_mul _ _).symm
      _ ≤ 256 * range rest.length := Nat.mul_le_mul_right _ small

theorem ofSignedBigEndian_ge (bytes : List UInt8) :
    -(range bytes.length / 2 : Int) ≤ ofSignedBigEndian bytes :=
  Int.le_bmod (by exact_mod_cast range_pos bytes.length)

theorem ofSignedBigEndian_lt (bytes : List UInt8) :
    ofSignedBigEndian bytes < ((range bytes.length : Int) + 1) / 2 :=
  Int.bmod_lt (by exact_mod_cast range_pos bytes.length)

theorem ofSignedBigEndian_signed {width : Nat} {i : Int} (low : -(range width / 2 : Int) ≤ i)
    (high : i < ((range width : Int) + 1) / 2) :
    ofSignedBigEndian (signedBigEndian width i) = i := by
  have pos := range_pos width
  have nonneg : 0 ≤ i % (range width : Int) := Int.emod_nonneg i (by omega)
  have small : i % (range width : Int) < range width := Int.emod_lt_of_pos i (by omega)
  unfold ofSignedBigEndian signedBigEndian
  rw [length_bigEndian, ofBigEndian_bigEndian, Nat.mod_eq_of_lt (by omega),
    Int.toNat_of_nonneg nonneg, Int.emod_bmod]
  exact Int.bmod_eq_of_le low high

theorem ofUtf8?_utf8 (s : String) : ofUtf8? (utf8 s) = some s := by
  have valid : s.toByteArray.IsValidUTF8 := s.isValidUTF8
  change String.fromUTF8? s.toByteArray = some s
  unfold String.fromUTF8?
  rw [dif_pos valid]
  rfl

theorem utf8_ofUtf8? {bytes : List UInt8} {s : String} (spelt : ofUtf8? bytes = some s) :
    utf8 s = bytes := by
  unfold ofUtf8? String.fromUTF8? at spelt
  split at spelt
  · cases spelt
    rfl
  · cases spelt

/-! ## Readers -/

variable {α β : Type}

def Reads (read : Reader α) (bytes : List UInt8) (a : α) : Prop :=
  ∀ rest depth, read ⟨bytes ++ rest, depth⟩ = .ok a ⟨rest, depth⟩

theorem reads_pure (a : α) : Reads (pure a) [] a := fun _ _ => rfl

theorem reads_bind {read : Reader α} {next : α → Reader β} {early late : List UInt8} {a : α} {b : β}
    (first : Reads read early a) (further : Reads (next a) late b) :
    Reads (read >>= next) (early ++ late) b := by
  intro rest depth
  change EStateM.bind read next _ = _
  unfold EStateM.bind
  rw [List.append_assoc, first]
  exact further rest depth

/-- What is read is wrapped up. -/
theorem reads_wrap {read : Reader α} {bytes : List UInt8} {a : α} (wrap : α → β)
    (first : Reads read bytes a) : Reads (read >>= fun a => pure (wrap a)) bytes (wrap a) := by
  have both : Reads (read >>= fun a => pure (wrap a)) (bytes ++ []) (wrap a) :=
    reads_bind first (reads_pure (wrap a))
  rwa [List.append_nil] at both

theorem reads_byte (b : UInt8) : Reads Reader.byte [b] b := fun _ _ => rfl

theorem reads_take (bytes : List UInt8) : Reads (Reader.take bytes.length) bytes bytes := by
  intro rest depth
  simp [Reader.take]

theorem reads_unsigned {width n : Nat} (small : n < range width) :
    Reads (Reader.unsigned width) (bigEndian width n) n := by
  have taken := reads_wrap ofBigEndian (reads_take (bigEndian width n))
  rwa [length_bigEndian, ofBigEndian_bigEndian, Nat.mod_eq_of_lt small] at taken

theorem reads_signed {width : Nat} {i : Int64} (low : -(range width / 2 : Int) ≤ i.toInt)
    (high : i.toInt < ((range width : Int) + 1) / 2) :
    Reads (Reader.signed width) (signedBigEndian width i.toInt) i := by
  have taken := reads_wrap (Int64.ofInt ∘ ofSignedBigEndian)
    (reads_take (signedBigEndian width i.toInt))
  rw [Function.comp, ofSignedBigEndian_signed low high, Int64.ofInt_toInt, signedBigEndian,
    length_bigEndian] at taken
  exact taken

theorem reads_text (s : String) : Reads (Reader.text (utf8 s).length) (utf8 s) s := by
  have both : Reads (Reader.text (utf8 s).length) (utf8 s ++ []) s := by
    apply reads_bind (reads_take (utf8 s))
    rw [ofUtf8?_utf8]
    exact reads_pure s
  rwa [List.append_nil] at both

/-- Items are read one after another. -/
theorem reads_items {read : Reader α} {item : β → α} {bytes : β → List UInt8} {parts : List β}
    (each : ∀ part ∈ parts, Reads read (bytes part) (item part)) :
    Reads (Reader.items read parts.length) (parts.flatMap bytes) (parts.map item) := by
  have onto (done : List α) : Reads (Reader.itemsOnto read parts.length done)
      (parts.flatMap bytes) (done.reverse ++ parts.map item) := by
    induction parts generalizing done with
    | nil =>
      rw [List.map_nil, List.append_nil]
      exact reads_pure done.reverse
    | cons part rest ih =>
      have further := ih (fun part among => each part (List.mem_cons_of_mem _ among))
        (item part :: done)
      rw [List.reverse_cons, List.append_assoc] at further
      exact reads_bind (each part List.mem_cons_self) further
  exact onto []

end GraphProtocol.Wire
