/-
Decimal text of binary64 numbers. The digits are the fewest that read back as the number, and of
those the nearest to it; they are found in exact integer arithmetic on the number's rounding
interval. How the digits are laid out is the business of a `Layout`.
-/
import TokenOverlay.Binary64

namespace TokenOverlay.Binary64

/-! ## Digits -/

/-- Where a number exactly between two candidates goes. -/
inductive Tie
  | up
  | even
  deriving DecidableEq, Repr

/-- The power of ten with an exponent that is not negative; 1 otherwise. -/
def tens (k : Int) : Nat := Nat.pow 10 k.toNat

/-- The power of two with an exponent that is not negative; 1 otherwise. -/
def twos (e : Int) : Nat := 1 <<< e.toNat

/-- Whether `c * 10 ^ k` is less than, equal to or greater than `a * 2 ^ e`. -/
def compareScaled (c : Nat) (k : Int) (a : Nat) (e : Int) : Ordering :=
  compare (c * tens k * twos (-e)) (a * twos e * tens (-k))

/-- Whether `c * 10 ^ k` rounds to `m * 2 ^ q`: it lies between the middles to the two neighbours,
which count only if `m` is even. The gap below a power of two is half as wide, unless the number is
subnormal or the smallest normal one. -/
def roundsTo (m : Nat) (q : Int) (c : Nat) (k : Int) : Bool :=
  let below := if m = fractions ∧ -1074 < q then 4 * m - 1 else 4 * m - 2
  let low := compareScaled c k below (q - 2)
  let high := compareScaled c k (4 * m + 2) (q - 2)
  let closed := m % 2 == 0
  (low == .gt || (closed && low == .eq)) && (high == .lt || (closed && high == .eq))

/-- The point of the grid of `10 ^ k` nearest to `m * 2 ^ q` among those that round to it. -/
def onGrid? (tie : Tie) (m : Nat) (q : Int) (k : Int) : Option Nat :=
  let c := m * twos q * tens (-k) / (twos (-q) * tens k)
  match decide (0 < c) && roundsTo m q c k, roundsTo m q (c + 1) k with
  | true, false => some c
  | false, true => some (c + 1)
  | false, false => none
  | true, true =>
    match compareScaled (2 * c + 1) k (2 * m) q with
    | .gt => some c
    | .lt => some (c + 1)
    | .eq => match tie with
      | .up => some (c + 1)
      | .even => if c % 2 = 0 then some c else some (c + 1)

/-- The decimal exponent of the first digit of `m * 2 ^ q`. -/
def leadingExponent (m : Nat) (q : Int) : Int :=
  let guess := (((Nat.log2 m : Nat) + q) * 30103).fdiv 100000
  if compareScaled 1 (guess + 1) m q != .gt then guess + 1
  else if compareScaled 1 guess m q != .gt then guess
  else guess - 1

/-- The first grid, from one digit to seventeen, with a point that rounds to `m * 2 ^ q`. -/
def shortest (tie : Tie) (m : Nat) (q : Int) : Nat × Int :=
  let p := leadingExponent m q
  ((List.range 17).findSome? fun (i : Nat) =>
    (onGrid? tie m q (p - i)).map fun c => (c, p - i)).getD (0, 0)

/-- Digits without trailing zeros and the decimal exponent of the first of them. -/
structure Digits where
  digits : List Char
  exponent : Int
  deriving DecidableEq, Repr

/-- The digits of `c * 10 ^ k`. -/
def Digits.ofScaled (c : Nat) (k : Int) : Digits :=
  let ds := Nat.toDigits 10 c
  ⟨(ds.reverse.dropWhile (· == '0')).reverse, k + ds.length - 1⟩

/-- The shortest digits of the magnitude of a finite number. -/
def digits (tie : Tie) (x : Binary64) : Digits :=
  if x.isZero then ⟨['0'], 0⟩
  else
    let (m, q) := x.scaled
    let (c, k) := shortest tie m q
    Digits.ofScaled c k

/-! ## Layout -/

/-- How a number is written. -/
structure Layout where
  /-- Where an exact tie between two shortest forms goes. -/
  tie : Tie
  /-- The least exponent of the first digit for which the form is positional. -/
  minPositional : Int
  /-- The greatest exponent of the first digit for which the form is positional. -/
  maxPositional : Int
  /-- What stands before a non-negative exponent. -/
  plus : String
  /-- The least number of digits of an exponent. -/
  exponentDigits : Nat
  /-- The text of an infinity after its sign. -/
  infinity : String
  /-- The text of what is not a number. -/
  notANumber : String

namespace Layout

/-- The digits around a point, with at least one digit on either side. -/
def positional (d : Digits) : List Char :=
  match d.exponent with
  | .ofNat n =>
    let whole := d.digits.take (n + 1)
    let rest := d.digits.drop (n + 1)
    whole ++ List.replicate (n + 1 - whole.length) '0' ++ '.' :: (if rest.isEmpty then ['0'] else rest)
  | .negSucc n => '0' :: '.' :: List.replicate n '0' ++ d.digits

/-- One digit, the others after a point, and the exponent. -/
def scientific (l : Layout) (d : Digits) : List Char :=
  let power := Nat.toDigits 10 d.exponent.natAbs
  let padded := List.replicate (l.exponentDigits - power.length) '0' ++ power
  let mark := if d.exponent < 0 then ['-'] else l.plus.toList
  let tail := d.digits.drop 1
  d.digits.take 1 ++ (if tail.isEmpty then [] else '.' :: tail) ++ 'e' :: mark ++ padded

/-- The text of a number. -/
def text (l : Layout) (x : Binary64) : String :=
  let sign := if x.sign = 1 then "-" else ""
  if x.isNaN then l.notANumber
  else if !x.isFinite then sign ++ l.infinity
  else
    let d := x.digits l.tie
    let positionally := decide (l.minPositional ≤ d.exponent ∧ d.exponent ≤ l.maxPositional)
    sign ++ String.ofList (if positionally then positional d else l.scientific d)

end Layout

end TokenOverlay.Binary64
