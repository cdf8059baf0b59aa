/-!
# Floating-point words

A 64-bit floating-point number is kept as its bits, so that payloads of
not-a-number words survive. Comparison follows the numbers and not the bits:
a not-a-number differs from everything, itself included, and the two zeros
agree.
-/

set_option autoImplicit false

namespace GraphProtocol

/-- The bits of a binary floating-point number: sign, eleven exponent bits, fraction. -/
structure Binary64 where
  bits : UInt64
  deriving DecidableEq, Repr, Inhabited

namespace Binary64

def ofWord (word : Nat) : Binary64 := ⟨UInt64.ofNat word⟩

def word (x : Binary64) : Nat := x.bits.toNat

def signWeight : Nat := 0x8000000000000000

def exponentWeight : Nat := 0x10000000000000

def isNegative (x : Binary64) : Bool := signWeight ≤ x.word

def exponentField (x : Binary64) : Nat := x.word / exponentWeight % 2048

def fraction (x : Binary64) : Nat := x.word % exponentWeight

def isNaN (x : Binary64) : Bool := x.exponentField == 2047 && x.fraction != 0

def isInfinite (x : Binary64) : Bool := x.exponentField == 2047 && x.fraction == 0

def isZero (x : Binary64) : Bool := x.word % signWeight == 0

def sameNumber (x y : Binary64) : Bool :=
  !x.isNaN && !y.isNaN && (x.bits == y.bits || (x.isZero && y.isZero))

def neg (x : Binary64) : Binary64 := ⟨x.bits ^^^ 0x8000000000000000⟩

def significand (x : Binary64) : Nat :=
  if x.exponentField = 0 then x.fraction else exponentWeight + x.fraction

def scale (x : Binary64) : Int :=
  if x.exponentField = 0 then -1074 else (x.exponentField : Int) - 1075

/-- Order of the numbers; a not-a-number is below nothing and above nothing. -/
def le (x y : Binary64) : Bool :=
  if x.isNaN || y.isNaN then false
  else match x.isNegative, y.isNegative with
    | false, false => x.word ≤ y.word
    | true, true => y.word ≤ x.word
    | true, false => true
    | false, true => x.isZero && y.isZero

def add (x y : Binary64) : Binary64 :=
  ⟨(Float.ofBits x.bits + Float.ofBits y.bits).toBits⟩

def infinity : Binary64 := ofWord (2047 * exponentWeight)

/-- The number nearest to `num / den`, a tie going to the even significand. -/
def ofRatio (num den : Nat) : Binary64 :=
  if num = 0 then ofWord 0
  else
    let guess : Int := (num.log2 : Int) - den.log2 - 52
    let reaches (s : Int) : Bool :=
      exponentWeight * (den <<< s.toNat) ≤ num <<< (-s).toNat
    let s := max (if reaches guess then guess else guess - 1) (-1074)
    let scaledNum := num <<< (-s).toNat
    let scaledDen := den <<< s.toNat
    let q := scaledNum / scaledDen
    let r := scaledNum % scaledDen
    let rounded := if 2 * r > scaledDen || (2 * r == scaledDen && q % 2 == 1) then q + 1 else q
    let result := (s + 1074).toNat * exponentWeight + rounded
    if result < 2047 * exponentWeight then ofWord result else infinity

end Binary64

end GraphProtocol
