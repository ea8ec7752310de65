/-
The heads of encoded items: a major type and an argument, which may be written in more bytes than it
needs. Lengths may be left open, to be ended by a break.
-/
import TokenOverlay.Cbor.Item

namespace TokenOverlay.Cbor

/-- The head of an item; an open length is `none`. -/
inductive Head
  | unsigned (n : UInt64)
  | negative (n : UInt64)
  | bytes (length : Option Nat)
  | text (length : Option Nat)
  | array (length : Option Nat)
  | map (length : Option Nat)
  | tag (number : UInt64)
  | simple (code : Nat)
  | float (x : Binary64)
  | break
  deriving DecidableEq, Repr

/-- The first `n` bytes and what follows them, if there are so many. -/
def take? (n : Nat) (b : Bytes) : Option (Bytes × Bytes) :=
  if b.length < n then none else some (b.take n, b.drop n)

/-- The argument of a head. -/
inductive Argument
  /-- A value within the first byte. -/
  | short (n : Nat)
  /-- A value in the bytes that follow. -/
  | field (b : Bytes)
  | indefinite
  deriving DecidableEq, Repr

/-- The value of an argument. -/
def Argument.value? : Argument → Option Nat
  | .short n => some n
  | .field b => some (Bytes.toNatBE b)
  | .indefinite => none

/-- The argument that the low five bits of a first byte announce, and what follows it. -/
def Argument.read? (info : Nat) (b : Bytes) : Option (Argument × Bytes) :=
  let field (n : Nat) := (take? n b).map fun (f, rest) => (Argument.field f, rest)
  if info < 24 then some (.short info, b)
  else if info = 24 then field 1
  else if info = 25 then field 2
  else if info = 26 then field 4
  else if info = 27 then field 8
  else if info = 31 then some (.indefinite, b)
  else none

/-- The head with a major type and an argument. -/
def Head.make? (major : Nat) (arg : Argument) : Option Head :=
  let word := arg.value?.map UInt64.ofNat
  match major with
  | 0 => word.map .unsigned
  | 1 => word.map .negative
  | 2 => some (.bytes arg.value?)
  | 3 => some (.text arg.value?)
  | 4 => some (.array arg.value?)
  | 5 => some (.map arg.value?)
  | 6 => word.map .tag
  | _ =>
    match arg with
    | .indefinite => some .break
    | .short n => some (.simple n)
    | .field b =>
      match b.length with
      | 1 => some (.simple (Bytes.toNatBE b))
      | 2 => some (.float (Binary64.half.widen (Bytes.toNatBE b)))
      | 4 => some (.float (Binary64.single.widen (Bytes.toNatBE b)))
      | _ => some (.float ⟨UInt64.ofNat (Bytes.toNatBE b)⟩)

/-- The head at the front of a byte string and what follows it. -/
def Head.read? : Bytes → Option (Head × Bytes)
  | [] => none
  | b :: rest => do
    let (arg, rest) ← Argument.read? (b.toNat % 32) rest
    let head ← Head.make? (b.toNat / 32) arg
    return (head, rest)

end TokenOverlay.Cbor
