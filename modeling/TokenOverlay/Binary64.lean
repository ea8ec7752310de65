/-
Binary64 numbers as words of sixty-four bits: a sign, eleven bits of exponent and fifty-two of
fraction. `Format.widen` reads a narrower interchange format and `Format.narrow?` finds the word of
that format from which the number reads back bit for bit, if there is one.
-/
namespace TokenOverlay

/-- A binary64 number. -/
structure Binary64 where
  bits : UInt64
  deriving DecidableEq, Repr

namespace Binary64

/-- How many fractions there are: the weight of the implicit bit. -/
def fractions : Nat := 1 <<< 52

/-- The sign bit. -/
def sign (x : Binary64) : Nat := x.bits.toNat >>> 63

/-- The biased exponent. -/
def exponent (x : Binary64) : Nat := (x.bits.toNat >>> 52) % 2048

/-- The fraction. -/
def fraction (x : Binary64) : Nat := x.bits.toNat % fractions

def isNaN (x : Binary64) : Bool := x.exponent == 2047 && x.fraction != 0

def isFinite (x : Binary64) : Bool := x.exponent != 2047

/-- Whether the number is a zero of either sign. -/
def isZero (x : Binary64) : Bool := x.exponent == 0 && x.fraction == 0

/-- The number with the given parts. -/
def ofParts (sign exponent fraction : Nat) : Binary64 :=
  ⟨UInt64.ofNat (sign <<< 63 + exponent <<< 52 + fraction)⟩

/-- The `m` and `q` of a finite number of magnitude `m * 2 ^ q`. -/
def scaled (x : Binary64) : Nat × Int :=
  if x.exponent = 0 then (x.fraction, -1074)
  else (fractions + x.fraction, (x.exponent : Int) - 1075)

/-! ## Narrower formats -/

/-- A narrower interchange format. -/
structure Format where
  exponentBits : Nat
  fractionBits : Nat
  deriving DecidableEq, Repr

def half : Format := ⟨5, 10⟩

def single : Format := ⟨8, 23⟩

namespace Format

def bias (f : Format) : Nat := 1 <<< (f.exponentBits - 1) - 1

/-- The largest biased exponent, kept for infinities and for what is not a number. -/
def maxExponent (f : Format) : Nat := 1 <<< f.exponentBits - 1

/-- The number that a word of the format stands for. What is not a number gets the quiet bit. -/
def widen (f : Format) (word : Nat) : Binary64 :=
  let sign := word >>> (f.exponentBits + f.fractionBits) % 2
  let exponent := word >>> f.fractionBits % 1 <<< f.exponentBits
  let fraction := word % 1 <<< f.fractionBits
  let spare := 52 - f.fractionBits
  if exponent = f.maxExponent then
    if fraction = 0 then ofParts sign 2047 0
    else ofParts sign 2047 (fraction <<< spare ||| 1 <<< 51)
  else if exponent = 0 then
    if fraction = 0 then ofParts sign 0 0
    else
      let top := Nat.log2 fraction
      ofParts sign (1024 + top - f.bias - f.fractionBits) ((fraction - 1 <<< top) <<< (52 - top))
  else ofParts sign (exponent + 1023 - f.bias) (fraction <<< spare)

/-- The word that keeps the highest bits of a number, where the exponent is in reach. -/
def truncate? (f : Format) (x : Binary64) : Option Nat :=
  let signBit := x.sign <<< (f.exponentBits + f.fractionBits)
  let spare := 52 - f.fractionBits
  if x.exponent = 2047 then
    some (signBit + f.maxExponent <<< f.fractionBits + x.fraction >>> spare)
  else if x.exponent + f.bias > 1023 then
    if x.exponent + f.bias - 1023 < f.maxExponent then
      some (signBit + (x.exponent + f.bias - 1023) <<< f.fractionBits + x.fraction >>> spare)
    else none
  else if x.exponent = 0 then some signBit
  else some (signBit + (fractions + x.fraction) >>> (spare + (1024 - f.bias - x.exponent)))

/-- The word of the format from which the number reads back exactly. -/
def narrow? (f : Format) (x : Binary64) : Option Nat :=
  match f.truncate? x with
  | some word => if f.widen word = x then some word else none
  | none => none

end Format

end Binary64

end TokenOverlay
