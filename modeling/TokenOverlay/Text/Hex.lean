/-
Hexadecimal text of byte strings. Writing uses lower-case digits, high half first; reading takes
either case. A text is measured in UTF-8 bytes, so that a length error counts bytes and not
characters.
-/
import TokenOverlay.Bytes

namespace TokenOverlay.Hex

/-- Why a text is not the hex of a byte string. -/
inductive Error
  | oddLength (length : Nat)
  | wrongLength (expected actual : Nat)
  | badDigit
  deriving DecidableEq, Repr

def Error.message : Error → String
  | .oddLength n => s!"hex string has odd length {n}"
  | .wrongLength expected actual => s!"expected {expected} hex chars but got {actual}"
  | .badDigit => "invalid hex character"

/-! ## Digits -/

/-- The lower-case digit of a number below sixteen. -/
def digit (n : Nat) : Char :=
  if n < 10 then Char.ofNat (48 + n) else Char.ofNat (87 + n)

/-- The value of a digit of either case. -/
def value? (c : Char) : Option Nat :=
  if '0' ≤ c ∧ c ≤ '9' then some (c.toNat - 48)
  else if 'a' ≤ c ∧ c ≤ 'f' then some (c.toNat - 87)
  else if 'A' ≤ c ∧ c ≤ 'F' then some (c.toNat - 55)
  else none

/-- An ASCII hex digit of either case. -/
def isDigit (c : Char) : Bool :=
  (value? c).isSome

/-! ## Byte strings -/

/-- The two digits of a byte, high half first. -/
def pair (b : UInt8) : List Char :=
  [digit (b.toNat / 16), digit (b.toNat % 16)]

/-- The digits of a byte string. -/
def encode (b : Bytes) : List Char :=
  b.flatMap pair

/-- The hex text of a byte string. -/
def text (b : Bytes) : String :=
  String.ofList (encode b)

/-- Reads digits two by two; a digit left over or a character that is no digit fails. -/
def decode? : List Char → Option Bytes
  | [] => some []
  | [_] => none
  | h :: l :: rest =>
    match value? h, value? l, decode? rest with
    | some hi, some lo, some bytes => some (UInt8.ofNat (16 * hi + lo) :: bytes)
    | _, _, _ => none

/-- Reads a hex text of any even length. -/
def decode (s : String) : Except Error Bytes :=
  if s.utf8ByteSize % 2 ≠ 0 then .error (.oddLength s.utf8ByteSize)
  else match decode? s.toList with
    | some b => .ok b
    | none => .error .badDigit

/-- Reads the hex text of exactly `n` bytes. -/
def decodeExactly (n : Nat) (s : String) : Except Error Bytes :=
  if s.utf8ByteSize ≠ n * 2 then .error (.wrongLength (n * 2) s.utf8ByteSize)
  else match decode? s.toList with
    | some b => .ok b
    | none => .error .badDigit

/-! ## Laws -/

@[simp] theorem length_encode (b : Bytes) : (encode b).length = 2 * b.length := by
  induction b with
  | nil => rfl
  | cons x bs ih => simp [encode, pair] at ih ⊢; omega

theorem length_of_decode? {s : List Char} {b : Bytes} (h : decode? s = some b) :
    s.length = 2 * b.length := by
  fun_induction decode? s generalizing b <;> grind

/-- Each digit reads back as its value. -/
theorem value?_digit {n : Nat} (h : n < 16) : value? (digit n) = some n := by
  rcases n with _ | _ | _ | _ | _ | _ | _ | _ | _ | _ | _ | _ | _ | _ | _ | _ | n
  all_goals first | rfl | omega

theorem decode?_encode (b : Bytes) : decode? (encode b) = some b := by
  induction b with
  | nil => rfl
  | cons x bs ih =>
    have hx : x.toNat < 256 := x.toNat_lt
    have h1 := value?_digit (n := x.toNat / 16) (by omega)
    have h2 := value?_digit (n := x.toNat % 16) (by omega)
    have h3 : 16 * (x.toNat / 16) + x.toNat % 16 = x.toNat := by omega
    simp only [encode] at ih
    simp [encode, pair, decode?, h1, h2, h3, ih]

end TokenOverlay.Hex
