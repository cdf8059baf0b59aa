import Mathlib.Data.List.Basic
import GraphProtocol.Text.Unsigned

/-!
# Spellings of numbers

A number is read from its decimal digits. They may stand behind a plus sign and behind zeros, and
these are all the texts from which it is read.
-/

set_option autoImplicit false

namespace GraphProtocol.Text

/-! ## Decimal digits -/

theorem decimal_lt {c : Char} (decimal : c.isDigit = true) : c.toNat - '0'.toNat < 10 := by
  have bounds := Char.isDigit_iff_toNat.mp decimal
  have largest : '9'.toNat = '0'.toNat + 9 := rfl
  omega

theorem digit?_decimal {c : Char} (decimal : c.isDigit = true) :
    digit? 10 c = some (c.toNat - '0'.toNat) := by
  unfold digit?
  rw [if_pos decimal]
  exact if_pos (decimal_lt decimal)

theorem digits?_decimal {cs : List Char} (nonempty : cs ≠ [])
    (decimal : ∀ c ∈ cs, c.isDigit = true) :
    digits? 10 cs = some (Nat.ofDigitChars 10 cs 0) := by
  have values : cs.mapM (digit? 10) = some (cs.map fun c => c.toNat - '0'.toNat) := by
    clear nonempty
    induction cs with
    | nil => rfl
    | cons c rest ih =>
      have first := digit?_decimal (decimal c List.mem_cons_self)
      have others := ih fun d among => decimal d (List.mem_cons_of_mem _ among)
      rw [List.mapM_cons, first, others]
      rfl
  have filled : (cs.map fun c => c.toNat - '0'.toNat).isEmpty = false := by
    simpa using nonempty
  unfold digits?
  rw [values, Option.bind_eq_bind, Option.bind_some, if_neg (by rw [filled]; simp),
    List.foldl_map, Nat.ofDigitChars_eq_foldl]

theorem afterPlus_decimal {cs : List Char} (decimal : ∀ c ∈ cs, c.isDigit = true) :
    afterPlus cs = cs := by
  unfold afterPlus
  split
  · cases decimal _ List.mem_cons_self
  · rfl

/-- A number in decimal digits is read back. -/
theorem unsigned?_toString {largest n : Nat} (fits : n ≤ largest) :
    unsigned? largest (toString n).toList = some n := by
  have spelt : (toString n).toList = Nat.toDigits 10 n := Nat.toList_repr
  have decimal : ∀ c ∈ Nat.toDigits 10 n, c.isDigit = true := fun c among =>
    Nat.isDigit_of_mem_toDigits (by decide) (by decide) among
  unfold unsigned?
  rw [spelt, afterPlus_decimal decimal, digits?_decimal Nat.toDigits_ne_nil decimal,
    Nat.ofDigitChars_ten_toDigits]
  exact Option.filter_some_pos (decide_eq_true fits)

/-! ## All spellings -/

/-- A number as it may be written: behind a plus sign, and behind zeros. -/
structure Spelling where
  plus : Bool
  zeros : Nat
  number : Nat
  deriving DecidableEq, Repr

namespace Spelling

def digits (x : Spelling) : List Char := List.replicate x.zeros '0' ++ Nat.toDigits 10 x.number

def chars (x : Spelling) : List Char := (if x.plus then ['+'] else []) ++ x.digits

theorem digits_ne_nil (x : Spelling) : x.digits ≠ [] :=
  List.append_ne_nil_of_right_ne_nil _ Nat.toDigits_ne_nil

theorem digits_decimal (x : Spelling) : ∀ c ∈ x.digits, c.isDigit = true := by
  intro c among
  rcases List.mem_append.mp among with zero | digit
  · rw [List.eq_of_mem_replicate zero]
    rfl
  · exact Nat.isDigit_of_mem_toDigits (by decide) (by decide) digit

theorem digits_value (x : Spelling) : Nat.ofDigitChars 10 x.digits 0 = x.number := by
  unfold digits
  rw [Nat.ofDigitChars_append, Nat.ofDigitChars_replicate_zero, Nat.mul_zero,
    Nat.ofDigitChars_ten_toDigits]

end Spelling

section Decimal

variable {c : Char} {cs : List Char}

theorem digitChar_decimal (decimal : c.isDigit = true) : (c.toNat - '0'.toNat).digitChar = c := by
  have bounds := Char.isDigit_iff_toNat.mp decimal
  have zero : '0'.toNat = 48 := rfl
  apply Char.toNat_inj.mp
  rw [Nat.toNat_digitChar_of_lt_ten (decimal_lt decimal)]
  omega

theorem decimal_cons : (∀ d ∈ c :: cs, d.isDigit = true) ↔
    c.isDigit = true ∧ ∀ d ∈ cs, d.isDigit = true := List.forall_mem_cons

/-- Behind a number that is not zero, digits are the digits of the number that they make. -/
theorem toDigits_onto (decimal : ∀ d ∈ cs, d.isDigit = true) {start : Nat} (pos : 0 < start) :
    Nat.toDigits 10 start ++ cs = Nat.toDigits 10 (Nat.ofDigitChars 10 cs start) := by
  induction cs generalizing start with
  | nil => simp
  | cons c rest ih =>
    obtain ⟨first, others⟩ := decimal_cons.mp decimal
    have small := decimal_lt first
    have joined := Nat.toDigits_append_toDigits (b := 10) (by decide) pos small
    rw [Nat.toDigits_of_lt_base small, digitChar_decimal first] at joined
    calc Nat.toDigits 10 start ++ c :: rest
        = (Nat.toDigits 10 start ++ [c]) ++ rest := by simp
      _ = Nat.toDigits 10 (10 * start + (c.toNat - '0'.toNat)) ++ rest := by rw [joined]
      _ = Nat.toDigits 10 (Nat.ofDigitChars 10 (c :: rest) start) := by
        rw [ih others (by omega), Nat.ofDigitChars_cons]

/-- Any digits are the digits of their number, behind zeros. -/
theorem digits_spelt (nonempty : cs ≠ []) (decimal : ∀ d ∈ cs, d.isDigit = true) :
    ∃ zeros, cs = (⟨false, zeros, Nat.ofDigitChars 10 cs 0⟩ : Spelling).digits := by
  induction cs with
  | nil => exact absurd rfl nonempty
  | cons c rest ih =>
    obtain ⟨first, others⟩ := decimal_cons.mp decimal
    by_cases zero : c = '0'
    · subst zero
      by_cases last : rest = []
      · subst last
        exact ⟨0, rfl⟩
      · obtain ⟨zeros, spelt⟩ := ih last others
        refine ⟨zeros + 1, ?_⟩
        have value : Nat.ofDigitChars 10 ('0' :: rest) 0 = Nat.ofDigitChars 10 rest 0 := by
          rw [Nat.ofDigitChars_cons]
          rfl
        rw [value]
        exact congrArg ('0' :: ·) spelt
    · have bounds := Char.isDigit_iff_toNat.mp first
      have nonzero : c.toNat ≠ '0'.toNat := fun same => zero (Char.toNat_inj.mp same)
      have pos : 0 < c.toNat - '0'.toNat := by omega
      have onto := toDigits_onto others pos
      rw [Nat.toDigits_of_lt_base (decimal_lt first), digitChar_decimal first] at onto
      refine ⟨0, ?_⟩
      rw [Nat.ofDigitChars_cons]
      simpa [Spelling.digits] using onto

theorem digit?_some {d : Nat} (read : digit? 10 c = some d) : c.isDigit = true := by
  by_cases decimal : c.isDigit = true
  · exact decimal
  · unfold digit? at read
    rw [if_neg decimal] at read
    dsimp only at read
    split_ifs at read <;> omega

theorem digits?_some {n : Nat} (read : digits? 10 cs = some n) :
    cs ≠ [] ∧ (∀ c ∈ cs, c.isDigit = true) ∧ n = Nat.ofDigitChars 10 cs 0 := by
  have decimal : ∀ c ∈ cs, c.isDigit = true := by
    unfold digits? at read
    cases each : cs.mapM (digit? 10) with
    | none =>
      rw [each] at read
      cases read
    | some values =>
      clear read
      induction cs generalizing values with
      | nil => exact List.forall_mem_nil _
      | cons c rest ih =>
        rw [List.mapM_cons] at each
        obtain ⟨value, first, each⟩ := Option.bind_eq_some_iff.mp each
        obtain ⟨more, others, -⟩ := Option.bind_eq_some_iff.mp each
        exact decimal_cons.mpr ⟨digit?_some first, ih more others⟩
  have nonempty : cs ≠ [] := by
    rintro rfl
    cases read
  rw [digits?_decimal nonempty decimal] at read
  exact ⟨nonempty, decimal, (Option.some.inj read).symm⟩

end Decimal

theorem Spelling.afterPlus_chars (x : Spelling) : afterPlus x.chars = x.digits := by
  unfold chars
  split
  · rfl
  · exact afterPlus_decimal x.digits_decimal

/-- Two spellings of a number differ in the sign or in the zeros. -/
theorem Spelling.chars_injective : Function.Injective Spelling.chars := by
  intro x y same
  have digits : x.digits = y.digits := by
    rw [← x.afterPlus_chars, ← y.afterPlus_chars, same]
  have number : x.number = y.number := by
    rw [← x.digits_value, ← y.digits_value, digits]
  have zeros : x.zeros = y.zeros := by
    have lengths := congrArg List.length digits
    simpa [Spelling.digits, number] using lengths
  have plus : x.plus = y.plus := by
    have lengths := congrArg List.length same
    unfold chars at lengths
    rw [digits, List.length_append, List.length_append] at lengths
    cases hx : x.plus <;> cases hy : y.plus <;> simp [hx, hy] at lengths ⊢
  obtain ⟨_, _, _⟩ := x
  obtain ⟨_, _, _⟩ := y
  cases plus
  cases zeros
  cases number
  rfl

/-- The texts from which a number is read are its spellings. -/
theorem unsigned?_iff {largest n : Nat} {cs : List Char} : unsigned? largest cs = some n ↔
    n ≤ largest ∧ ∃ x : Spelling, x.chars = cs ∧ x.number = n := by
  unfold unsigned?
  rw [Option.filter_eq_some_iff, decide_eq_true_iff, and_comm]
  apply and_congr_right
  intro _
  constructor
  · intro read
    obtain ⟨nonempty, decimal, rfl⟩ := digits?_some read
    obtain ⟨zeros, spelt⟩ := digits_spelt nonempty decimal
    unfold afterPlus at spelt ⊢
    split at spelt
    · exact ⟨⟨true, zeros, _⟩, congrArg ('+' :: ·) spelt.symm, rfl⟩
    · exact ⟨⟨false, zeros, _⟩, spelt.symm, rfl⟩
  · rintro ⟨x, rfl, rfl⟩
    rw [x.afterPlus_chars, digits?_decimal x.digits_ne_nil x.digits_decimal, x.digits_value]

end GraphProtocol.Text
