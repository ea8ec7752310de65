/-
Reading encoded items. Any valid encoding is taken: heads wider than needed, open lengths, strings in
segments (which may nest), and numbers written as tagged byte strings of at most sixteen bytes.
Containers and tags may nest to a bounded depth, and what follows the item is left alone.
-/
import TokenOverlay.Cbor.Head

namespace TokenOverlay.Cbor

/-! ## Strings -/

/-- Which kind of string is read. -/
inductive StringKind
  | bytes
  | text
  deriving DecidableEq, Repr

/-- Whether bytes may form a segment of a string of this kind. -/
def StringKind.admits : StringKind → Bytes → Bool
  | .bytes, _ => true
  | .text, b => (Bytes.toText? b).isSome

/-- The length that a head announces for a string of this kind: `some none` if it is open. -/
def StringKind.length? : StringKind → Head → Option (Option Nat)
  | .bytes, .bytes n => some n
  | .text, .text n => some n
  | _, _ => none

/-- A segment of known length. -/
def segment? (kind : StringKind) (n : Nat) (b : Bytes) : Option (Bytes × Bytes) :=
  (take? n b).filter fun r => kind.admits r.1

/-- The joined segments of a string of open length, `nested` levels of which are to be closed. -/
def segments? (kind : StringKind) : Nat → Nat → Bytes → Option (Bytes × Bytes)
  | 0, _, _ => none
  | fuel + 1, nested, b =>
    match Head.read? b with
    | none => none
    | some (.break, rest) =>
      match nested with
      | 0 => some ([], rest)
      | n + 1 => segments? kind fuel n rest
    | some (head, rest) =>
      match kind.length? head with
      | none => none
      | some none => segments? kind fuel (nested + 1) rest
      | some (some n) => do
        let (s, rest) ← segment? kind n rest
        let (tail, rest) ← segments? kind fuel nested rest
        return (s ++ tail, rest)

/-- A string whose head has been read. -/
def string? (kind : StringKind) (length : Option Nat) (b : Bytes) : Option (Bytes × Bytes) :=
  match length with
  | some n => segment? kind n b
  | none => segments? kind (b.length + 1) 0 b

/-! ## Numbers as byte strings -/

def tagUnsigned : UInt64 := 2

def tagNegative : UInt64 := 3

/-- A byte string without its leading zeros. -/
def significant (b : Bytes) : Bytes :=
  b.dropWhile (· == 0)

/-- The item that a tagged byte string of at most sixteen bytes stands for: an integer if it fits a
word, else the tag with the significant bytes. A negative number below `-2 ^ 127` is refused. -/
def bigNumber? (number : UInt64) (b : Bytes) : Option Item :=
  let n := Bytes.toNatBE b
  if n < UInt64.size then
    some (if number = tagUnsigned then .unsigned (UInt64.ofNat n) else .negative (UInt64.ofNat n))
  else if number = tagNegative ∧ 1 <<< 127 ≤ n then none
  else some (.tag number (.bytes (significant b)))

/-- The length of the byte string under a tag that makes it a number. -/
def bigNumberLength? (number : UInt64) (b : Bytes) : Option (Nat × Bytes) :=
  if number = tagUnsigned ∨ number = tagNegative then
    match Head.read? b with
    | some (.bytes (some n), rest) => if n ≤ 16 then some (n, rest) else none
    | _ => none
  else none

/-! ## Items -/

/-- The item of a simple value. -/
def simple? : Nat → Option Item
  | 20 => some (.bool false)
  | 21 => some (.bool true)
  | 22 => some .null
  | 23 => some .null
  | _ => none

mutual

/-- An item and what follows it; containers and tags may nest `depth` deep. -/
def item? : (fuel depth : Nat) → Bytes → Option (Item × Bytes)
  | 0, _, _ => none
  | fuel + 1, depth, b =>
    match Head.read? b with
    | none => none
    | some (.unsigned n, rest) => some (.unsigned n, rest)
    | some (.negative n, rest) => some (.negative n, rest)
    | some (.float x, rest) => some (.float x, rest)
    | some (.simple code, rest) => (simple? code).map (·, rest)
    | some (.break, _) => none
    | some (.bytes length, rest) =>
      (string? .bytes length rest).map fun (s, rest) => (.bytes s, rest)
    | some (.text length, rest) => do
      let (s, rest) ← string? .text length rest
      return (.text (← Bytes.toText? s), rest)
    | some (.array length, rest) =>
      match depth with
      | 0 => none
      | d + 1 => (items? fuel d length rest).map fun (xs, rest) => (.array xs, rest)
    | some (.map length, rest) =>
      match depth with
      | 0 => none
      | d + 1 => (entries? fuel d length rest).map fun (xs, rest) => (.map xs, rest)
    | some (.tag number, rest) =>
      match bigNumberLength? number rest with
      | some (n, rest) => do
        let (s, rest) ← take? n rest
        return (← bigNumber? number s, rest)
      | none =>
        match depth with
        | 0 => none
        | d + 1 => (item? fuel d rest).map fun (x, rest) => (.tag number x, rest)

/-- So many items, or the items up to a break. -/
def items? : (fuel depth : Nat) → (length : Option Nat) → Bytes → Option (List Item × Bytes)
  | 0, _, _, _ => none
  | _ + 1, _, some 0, b => some ([], b)
  | fuel + 1, depth, some (n + 1), b => do
    let (x, rest) ← item? fuel depth b
    let (xs, rest) ← items? fuel depth (some n) rest
    return (x :: xs, rest)
  | fuel + 1, depth, none, b =>
    match b with
    | 0xff :: rest => some ([], rest)
    | _ => do
      let (x, rest) ← item? fuel depth b
      let (xs, rest) ← items? fuel depth none rest
      return (x :: xs, rest)

/-- So many entries, or the entries up to a break. -/
def entries? : (fuel depth : Nat) → (length : Option Nat) → Bytes →
    Option (List (Item × Item) × Bytes)
  | 0, _, _, _ => none
  | _ + 1, _, some 0, b => some ([], b)
  | fuel + 1, depth, some (n + 1), b => do
    let (k, rest) ← item? fuel depth b
    let (v, rest) ← item? fuel depth rest
    let (es, rest) ← entries? fuel depth (some n) rest
    return ((k, v) :: es, rest)
  | fuel + 1, depth, none, b =>
    match b with
    | 0xff :: rest => some ([], rest)
    | _ => do
      let (k, rest) ← item? fuel depth b
      let (v, rest) ← item? fuel depth rest
      let (es, rest) ← entries? fuel depth none rest
      return ((k, v) :: es, rest)

end

/-- How deep containers and tags may nest. -/
def maxDepth : Nat := 256

/-- The item at the front of a byte string and what follows it. Every second step takes a byte, so
twice the length is enough steps. -/
def Item.read? (b : Bytes) : Option (Item × Bytes) :=
  item? (2 * b.length + 2) maxDepth b

end TokenOverlay.Cbor
