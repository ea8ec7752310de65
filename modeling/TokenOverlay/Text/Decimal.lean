/-
Decimal text of natural numbers. Reading takes ASCII digits only, any number of leading zeros and
no sign; writing gives the shortest form.
-/
namespace TokenOverlay.Decimal

/-- The value of a string of digits, most significant first. -/
def value (digits : List Char) : Nat :=
  digits.foldl (fun n c => 10 * n + (c.toNat - '0'.toNat)) 0

/-- One or more ASCII digits. -/
def isNumber (cs : List Char) : Bool :=
  !cs.isEmpty && cs.all Char.isDigit

/-- Reads one or more digits. -/
def read? (cs : List Char) : Option Nat :=
  if isNumber cs then some (value cs) else none

/-- The shortest digits of a number. -/
def text (n : Nat) : String :=
  toString n

end TokenOverlay.Decimal
