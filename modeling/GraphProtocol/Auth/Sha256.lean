import GraphProtocol.Wire.Bytes

/-!
# SHA-256

The 256-bit hash of a byte string: the message is padded to blocks of 64 bytes,
each block is expanded to 64 words and folded into eight words of state by 64
rounds.
-/

set_option autoImplicit false

namespace GraphProtocol.Sha256

def initial : List UInt32 :=
  [0x6a09e667, 0xbb67ae85, 0x3c6ef372, 0xa54ff53a, 0x510e527f, 0x9b05688c, 0x1f83d9ab, 0x5be0cd19]

def constants : List UInt32 := [
  0x428a2f98, 0x71374491, 0xb5c0fbcf, 0xe9b5dba5, 0x3956c25b, 0x59f111f1, 0x923f82a4, 0xab1c5ed5,
  0xd807aa98, 0x12835b01, 0x243185be, 0x550c7dc3, 0x72be5d74, 0x80deb1fe, 0x9bdc06a7, 0xc19bf174,
  0xe49b69c1, 0xefbe4786, 0x0fc19dc6, 0x240ca1cc, 0x2de92c6f, 0x4a7484aa, 0x5cb0a9dc, 0x76f988da,
  0x983e5152, 0xa831c66d, 0xb00327c8, 0xbf597fc7, 0xc6e00bf3, 0xd5a79147, 0x06ca6351, 0x14292967,
  0x27b70a85, 0x2e1b2138, 0x4d2c6dfc, 0x53380d13, 0x650a7354, 0x766a0abb, 0x81c2c92e, 0x92722c85,
  0xa2bfe8a1, 0xa81a664b, 0xc24b8b70, 0xc76c51a3, 0xd192e819, 0xd6990624, 0xf40e3585, 0x106aa070,
  0x19a4c116, 0x1e376c08, 0x2748774c, 0x34b0bcb5, 0x391c0cb3, 0x4ed8aa4a, 0x5b9cca4f, 0x682e6ff3,
  0x748f82ee, 0x78a5636f, 0x84c87814, 0x8cc70208, 0x90befffa, 0xa4506ceb, 0xbef9a3f7, 0xc67178f2]

def rotateRight (x n : UInt32) : UInt32 := (x >>> n) ||| (x <<< (32 - n))

def smallSigma0 (x : UInt32) : UInt32 := rotateRight x 7 ^^^ rotateRight x 18 ^^^ (x >>> 3)

def smallSigma1 (x : UInt32) : UInt32 := rotateRight x 17 ^^^ rotateRight x 19 ^^^ (x >>> 10)

def bigSigma0 (x : UInt32) : UInt32 := rotateRight x 2 ^^^ rotateRight x 13 ^^^ rotateRight x 22

def bigSigma1 (x : UInt32) : UInt32 := rotateRight x 6 ^^^ rotateRight x 11 ^^^ rotateRight x 25

def choose (x y z : UInt32) : UInt32 := (x &&& y) ^^^ (~~~x &&& z)

def majority (x y z : UInt32) : UInt32 := (x &&& y) ^^^ (x &&& z) ^^^ (y &&& z)

def pad (message : List UInt8) : List UInt8 :=
  let length := message.length
  message ++ 0x80 :: List.replicate ((119 - length % 64) % 64) 0 ++ Wire.bigEndian 8 (8 * length)

def words : List UInt8 → List UInt32
  | a :: b :: c :: d :: rest => UInt32.ofNat (Wire.ofBigEndian [a, b, c, d]) :: words rest
  | _ => []

def expand : Nat → List UInt32 → List UInt32
  | 0, schedule => schedule
  | count + 1, schedule =>
    let word (i : Nat) : UInt32 := schedule.getD i 0
    expand count
      ((smallSigma1 (word 1) + word 6 + smallSigma0 (word 14) + word 15) :: schedule)

def round (state : List UInt32) (input : UInt32 × UInt32) : List UInt32 :=
  match state with
  | [a, b, c, d, e, f, g, h] =>
    let t1 := h + bigSigma1 e + choose e f g + input.2 + input.1
    let t2 := bigSigma0 a + majority a b c
    [t1 + t2, a, b, c, d + t1, e, f, g]
  | other => other

def compress (state block : List UInt32) : List UInt32 :=
  let schedule := (expand 48 block.reverse).reverse
  List.zipWith (· + ·) state ((schedule.zip constants).foldl round state)

def blocks : Nat → List UInt32 → List UInt32 → List UInt32
  | 0, state, _ => state
  | count + 1, state, input => blocks count (compress state (input.take 16)) (input.drop 16)

def hash (message : List UInt8) : List UInt8 :=
  let input := words (pad message)
  (blocks (input.length / 16) initial input).flatMap fun w => Wire.bigEndian 4 w.toNat

end GraphProtocol.Sha256
