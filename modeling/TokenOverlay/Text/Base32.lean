/-
Base-32 text of byte strings: the bits of the bytes, highest first, cut into groups of five and
written in an alphabet of the ten digits and twenty-two lower-case letters (no `i`, `l`, `o`, `u`).
A last group that is too short is filled with zero bits on the right.
-/
import TokenOverlay.Bytes

namespace TokenOverlay.Base32

/-- The thirty-two symbols in the order of their values. -/
def alphabet : List Char :=
  "0123456789abcdefghjkmnpqrstvwxyz".toList

/-- The eight bits of a byte, highest first. -/
def bitsOfByte (b : UInt8) : List Bool :=
  [7, 6, 5, 4, 3, 2, 1, 0].map fun i => b.toNat.testBit i

/-- The bits of a byte string, highest first. -/
def bits (b : Bytes) : List Bool :=
  b.flatMap bitsOfByte

/-- The symbol of a group of five bits. -/
def symbol (a b c d e : Bool) : Char :=
  alphabet.getD (16 * a.toNat + 8 * b.toNat + 4 * c.toNat + 2 * d.toNat + e.toNat) '0'

/-- The symbols of a bit string, zero bits filling up the last group. -/
def symbols : List Bool → List Char
  | a :: b :: c :: d :: e :: rest => symbol a b c d e :: symbols rest
  | [a, b, c, d] => [symbol a b c d false]
  | [a, b, c] => [symbol a b c false false]
  | [a, b] => [symbol a b false false false]
  | [a] => [symbol a false false false false]
  | [] => []

/-- The base-32 digits of a byte string. -/
def encode (b : Bytes) : List Char :=
  symbols (bits b)

/-- The base-32 text of a byte string. -/
def text (b : Bytes) : String :=
  String.ofList (encode b)

end TokenOverlay.Base32
