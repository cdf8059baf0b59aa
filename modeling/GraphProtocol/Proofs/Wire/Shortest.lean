import GraphProtocol.Proofs.Wire.Carrying

/-!
# The shortest forms

What is written of a size or an integer is no longer than any form in which a marker
may announce it, and what is written of the entries of a dictionary no longer than
what is written of the entries it was made from.
-/

set_option autoImplicit false

namespace GraphProtocol

open Wire

namespace Wire

/-! ## No longer -/

namespace Written

/-- If the second is written without an obstacle, so is the first, and in no more bytes. -/
structure Within (a b : Written) : Prop where
  clear : b.abort = none → a.abort = none
  short : b.abort = none → a.bytes.length ≤ b.bytes.length

/-- A sequence is no longer than another if nothing is new in it, and the sum of its parts is no
larger. -/
theorem within_concat {parts parts' : List Written} (known : ∀ part ∈ parts, part ∈ parts')
    (less : (parts.map (·.bytes.length)).sum ≤ (parts'.map (·.bytes.length)).sum) :
    (concat parts).Within (concat parts') := by
  have length {parts : List Written} (free : (concat parts).abort = none) :
      (concat parts).bytes.length = (parts.map (·.bytes.length)).sum := by
    rw [concat_bytes free, List.length_flatMap]
  have clear (free : (concat parts').abort = none) : (concat parts).abort = none :=
    concat_abort.mpr fun part among => concat_abort.mp free part (known part among)
  constructor
  · exact clear
  · intro free
    rw [length free, length (clear free)]
    exact less

end Written

/-! ## Markers -/

def Marker.IsGenuine : Marker → Prop
  | .smallInteger i => -16 ≤ i ∧ i ≤ 127
  | .integer width => width = 1 ∨ width = 2 ∨ width = 4 ∨ width = 8
  | .sized kind (.inline size) => size < 16 ∧ (inlineBase kind).isSome = true
  | .sized _ (.following width) => width = 1 ∨ width = 2 ∨ width = 4
  | _ => True

theorem ofByte?_genuine {b : UInt8} {marker : Marker} (marked : Marker.ofByte? b = some marker) :
    marker.IsGenuine := by
  have bound := b.toNat_lt
  unfold Marker.ofByte? at marked
  dsimp only at marked
  repeat' split at marked
  all_goals cases marked <;> simp [Marker.IsGenuine, inlineBase] <;> omega

/-! ## Sizes -/

section Sizes

variable {kind : SizedKind} {size : Nat}

theorem following_clear :
    (writeSize.following kind size).abort = none ↔ size < UInt32.size := by
  have ordered : UInt8.size < UInt16.size ∧ UInt16.size < UInt32.size := by decide
  unfold writeSize.following
  dsimp only
  split_ifs <;> simp [Written.ofBytes, Written.refuse] <;> omega

theorem writeSize_clear : (writeSize kind size).abort = none ↔ size < UInt32.size := by
  unfold writeSize
  cases inlineBase kind with
  | none => exact following_clear
  | some base =>
    dsimp only
    split
    · next small =>
      have far : 16 < UInt32.size := by decide
      exact ⟨fun _ => by omega, fun _ => rfl⟩
    · exact following_clear

theorem writeSize_refused (exceeds : ¬size < UInt32.size) :
    writeSize kind size = .refuse (.tooLong kind size) := by
  have far : UInt16.size < UInt32.size := by decide
  have near : UInt8.size < UInt16.size := by decide
  have inline : 16 < UInt8.size := by decide
  have following : writeSize.following kind size = .refuse (.tooLong kind size) := by
    unfold writeSize.following
    rw [if_neg (by omega), if_neg (by omega), if_neg exceeds]
  unfold writeSize
  cases inlineBase kind with
  | none => exact following
  | some base => exact (if_neg (by omega)).trans following

theorem following_wide {width : Nat} (wide : width = 1 ∨ width = 2 ∨ width = 4)
    (fits : size < range width) : (writeSize.following kind size).bytes.length ≤ 1 + width := by
  unfold writeSize.following
  rcases wide with rfl | rfl | rfl
  · rw [if_pos (show size < UInt8.size from fits)]
    simp [Written.ofBytes]
  · have fits : size < UInt16.size := fits
    dsimp only
    split_ifs <;> simp [Written.ofBytes]
  · have fits : size < UInt32.size := fits
    dsimp only
    split_ifs <;> simp [Written.ofBytes]

theorem writeSize_inline {base : Nat} (has : inlineBase kind = some base) (small : size < 16) :
    writeSize kind size = .ofBytes [UInt8.ofNat (base + size)] := by
  unfold writeSize
  rw [has]
  exact if_pos small

theorem writeSize_wide {width : Nat} (wide : width = 1 ∨ width = 2 ∨ width = 4)
    (fits : size < range width) : (writeSize kind size).bytes.length ≤ 1 + width := by
  unfold writeSize
  cases inlineBase kind with
  | none => exact following_wide wide fits
  | some base =>
    dsimp only
    split
    · simp [Written.ofBytes]
    · exact following_wide wide fits

theorem following_mono {more : Nat} (less : size ≤ more) (fits : more < UInt32.size) :
    (writeSize.following kind size).bytes.length ≤
      (writeSize.following kind more).bytes.length := by
  have fits' : size < UInt32.size := by omega
  unfold writeSize.following
  dsimp only
  rw [if_pos fits, if_pos fits']
  split_ifs <;> simp [Written.ofBytes] <;> omega

/-- A smaller size is written in no more bytes. -/
theorem writeSize_mono {more : Nat} (less : size ≤ more) :
    (writeSize kind size).Within (writeSize kind more) := by
  constructor
  · intro clear
    have fits := writeSize_clear.mp clear
    exact writeSize_clear.mpr (by omega)
  · intro clear
    have fits := writeSize_clear.mp clear
    have longer : (writeSize.following kind size).bytes.length ≤ _ := following_mono less fits
    unfold writeSize
    cases inlineBase kind with
    | none => exact longer
    | some base =>
      dsimp only
      split_ifs with small small'
      · exact Nat.le_refl _
      · unfold writeSize.following
        dsimp only
        rw [if_pos fits]
        split_ifs <;> simp [Written.ofBytes]
      · omega
      · exact longer

end Sizes

/-! ## Integers -/

section Integers

variable {i : Int64}

theorem writeInteger_clear : (writeInteger i).abort = none := by
  unfold writeInteger
  dsimp only
  split_ifs <;> rfl

theorem writeInteger_small (low : -16 ≤ i.toInt) (high : i.toInt ≤ 127) :
    (writeInteger i).bytes.length = 1 := by
  unfold writeInteger
  rw [if_pos ⟨low, high⟩]
  rfl

theorem writeInteger_wide {width : Nat} (wide : width = 1 ∨ width = 2 ∨ width = 4 ∨ width = 8)
    (low : -(range width / 2 : Int) ≤ i.toInt) (high : i.toInt < ((range width : Int) + 1) / 2) :
    (writeInteger i).bytes.length ≤ 1 + width := by
  unfold writeInteger
  rcases wide with rfl | rfl | rfl | rfl <;> simp [range] at low high <;> dsimp only <;>
    split_ifs <;> simp [Written.ofBytes, signedBigEndian] <;> omega

end Integers

end Wire

end GraphProtocol
