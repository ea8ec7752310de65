/-
The SHA-256 hash. A message is padded to whole blocks of sixty-four bytes; every block extends its
sixteen words to sixty-four and stirs them into a state of eight words.
-/
import TokenOverlay.Digest

namespace TokenOverlay.Sha256

/-! ## Words -/

def rotr (x : UInt32) (n : UInt32) : UInt32 :=
  (x >>> n) ||| (x <<< (32 - n))

def bigSigma0 (x : UInt32) : UInt32 := rotr x 2 ^^^ rotr x 13 ^^^ rotr x 22
def bigSigma1 (x : UInt32) : UInt32 := rotr x 6 ^^^ rotr x 11 ^^^ rotr x 25
def smallSigma0 (x : UInt32) : UInt32 := rotr x 7 ^^^ rotr x 18 ^^^ (x >>> 3)
def smallSigma1 (x : UInt32) : UInt32 := rotr x 17 ^^^ rotr x 19 ^^^ (x >>> 10)
def choose (x y z : UInt32) : UInt32 := (x &&& y) ^^^ (~~~x &&& z)
def majority (x y z : UInt32) : UInt32 := (x &&& y) ^^^ (x &&& z) ^^^ (y &&& z)

/-- The round constants: the fractional bits of the cube roots of the first sixty-four primes. -/
def roundConstants : List UInt32 :=
  [0x428a2f98, 0x71374491, 0xb5c0fbcf, 0xe9b5dba5, 0x3956c25b, 0x59f111f1, 0x923f82a4, 0xab1c5ed5,
   0xd807aa98, 0x12835b01, 0x243185be, 0x550c7dc3, 0x72be5d74, 0x80deb1fe, 0x9bdc06a7, 0xc19bf174,
   0xe49b69c1, 0xefbe4786, 0x0fc19dc6, 0x240ca1cc, 0x2de92c6f, 0x4a7484aa, 0x5cb0a9dc, 0x76f988da,
   0x983e5152, 0xa831c66d, 0xb00327c8, 0xbf597fc7, 0xc6e00bf3, 0xd5a79147, 0x06ca6351, 0x14292967,
   0x27b70a85, 0x2e1b2138, 0x4d2c6dfc, 0x53380d13, 0x650a7354, 0x766a0abb, 0x81c2c92e, 0x92722c85,
   0xa2bfe8a1, 0xa81a664b, 0xc24b8b70, 0xc76c51a3, 0xd192e819, 0xd6990624, 0xf40e3585, 0x106aa070,
   0x19a4c116, 0x1e376c08, 0x2748774c, 0x34b0bcb5, 0x391c0cb3, 0x4ed8aa4a, 0x5b9cca4f, 0x682e6ff3,
   0x748f82ee, 0x78a5636f, 0x84c87814, 0x8cc70208, 0x90befffa, 0xa4506ceb, 0xbef9a3f7, 0xc67178f2]

/-! ## State -/

structure State where
  (a b c d e f g h : UInt32)

/-- The fractional bits of the square roots of the first eight primes. -/
def State.initial : State :=
  ⟨0x6a09e667, 0xbb67ae85, 0x3c6ef372, 0xa54ff53a, 0x510e527f, 0x9b05688c, 0x1f83d9ab, 0x5be0cd19⟩

/-- One round with its constant and its word of the schedule. -/
def State.round (s : State) (kw : UInt32 × UInt32) : State :=
  let t1 := s.h + bigSigma1 s.e + choose s.e s.f s.g + kw.1 + kw.2
  let t2 := bigSigma0 s.a + majority s.a s.b s.c
  ⟨t1 + t2, s.a, s.b, s.c, s.d + t1, s.e, s.f, s.g⟩

def State.add (s t : State) : State :=
  ⟨s.a + t.a, s.b + t.b, s.c + t.c, s.d + t.d, s.e + t.e, s.f + t.f, s.g + t.g, s.h + t.h⟩

def State.words (s : State) : List UInt32 :=
  [s.a, s.b, s.c, s.d, s.e, s.f, s.g, s.h]

/-- The bytes of a word, most significant first. -/
def wordBytes (w : UInt32) : Bytes :=
  Bytes.ofNatBE 4 w.toNat

def State.bytes (s : State) : Bytes :=
  s.words.flatMap wordBytes

theorem State.length_bytes (s : State) : s.bytes.length = 32 := by
  simp [State.bytes, State.words, wordBytes]

/-! ## Messages -/

/-- A one bit, zero bits up to eight bytes short of a block, and the length in bits. -/
def pad (m : Bytes) : Bytes :=
  m ++ [0x80] ++ List.replicate ((119 - m.length % 64) % 64) 0 ++ Bytes.ofNatBE 8 (8 * m.length)

/-- The words of a block, most significant byte first. -/
def blockWords (b : Bytes) : List UInt32 :=
  (Bytes.chunks 4 b).map fun w => UInt32.ofNat (Bytes.toNatBE w)

/-- Puts `n` further words in front of a schedule that runs backwards. -/
def extend : Nat → List UInt32 → List UInt32
  | 0, ws => ws
  | n + 1, ws =>
    extend n ((smallSigma1 (ws.getD 1 0) + ws.getD 6 0 + smallSigma0 (ws.getD 14 0) + ws.getD 15 0)
      :: ws)

/-- The sixty-four words stirred in for a block. -/
def schedule (b : Bytes) : List UInt32 :=
  (extend 48 (blockWords b).reverse).reverse

/-- Stirs one block into the state. -/
def State.absorb (s : State) (b : Bytes) : State :=
  s.add ((roundConstants.zip (schedule b)).foldl State.round s)

/-- The hash of a message. -/
def hash (m : Bytes) : Digest :=
  let s := (Bytes.chunks 64 (pad m)).foldl State.absorb State.initial
  ⟨s.bytes, s.length_bytes⟩

/-- The hash of the hash of a message. -/
def doubleHash (m : Bytes) : Digest :=
  hash (hash m).bytes

/-- The key under which an output script is indexed: the first eleven bytes of its hash. -/
def scriptKey (script : Bytes) : Bytes :=
  (hash script).bytes.take 11

end TokenOverlay.Sha256
