/-
Outpoints: an output of a transaction, named by the transaction id and the output index. A token is
named by the outpoint it was committed at and a location is the outpoint that holds it, so both are
outpoints too. An outpoint has a binary form of thirty-six bytes, a compact text (the displayed
transaction id, the letter `i`, the index in decimal) and a display-only reference in base 32.
-/
import TokenOverlay.Digest
import TokenOverlay.Text.Base32
import TokenOverlay.Text.Decimal

namespace TokenOverlay

/-- An output of a transaction. -/
structure Outpoint where
  txid : Digest
  index : UInt32
  deriving DecidableEq, Repr, Inhabited

/-- The name of a token: the outpoint it was committed at. -/
abbrev TokenId := Outpoint

namespace Outpoint

/-- Why a text or a byte string names no outpoint. -/
inductive Error
  | missingSeparator
  | badHash
  | badIndex (text : String)
  | indexTooLarge (index max : Nat)
  | wrongLength (length : Nat)
  deriving DecidableEq, Repr

def Error.message : Error → String
  | .missingSeparator => "compact id must have the output separator 'i' at offset 64"
  | .badHash => "compact id hash part is not 32 bytes of hex"
  | .badIndex text => s!"compact id output index '{text}' is not an unsigned decimal"
  | .indexTooLarge index max =>
    s!"compact id output index {index} is greater than the maximum of {max}"
  | .wrongLength n => s!"binary id must be 36 bytes but got {n}"

/-! ## Binary form -/

/-- The transaction id in wire order, then the index in four bytes, the least significant first. -/
def bytes (o : Outpoint) : Bytes :=
  o.txid.bytes ++ Bytes.ofNatLE 4 o.index.toNat

def ofBytes (b : Bytes) : Except Error Outpoint :=
  if b.length ≠ 36 then .error (.wrongLength b.length)
  else match Digest.ofBytes? (b.take 32) with
    | some txid => .ok ⟨txid, UInt32.ofNat (Bytes.toNatLE (b.drop 32))⟩
    | none => .error (.wrongLength b.length)

/-! ## Compact text -/

/-- The letter between the transaction id and the index. -/
def separator : Char := 'i'

/-- The displayed transaction id, the separator and the index in decimal. -/
def compact (o : Outpoint) : String :=
  s!"{o.txid.text}{separator}{Decimal.text o.index.toNat}"

/-- The number of bytes of a character string in UTF-8. -/
def byteSize (cs : List Char) : Nat :=
  (cs.map Char.utf8Size).foldr (· + ·) 0

/-- The index written after the separator: digits of a number that fits a word and is at most `max`. -/
def readIndex (max : UInt32) (cs : List Char) : Except Error UInt32 :=
  match Decimal.read? cs with
  | none => .error (.badIndex (String.ofList cs))
  | some n =>
    if UInt64.size ≤ n then .error (.badIndex (String.ofList cs))
    else if max.toNat < n then .error (.indexTooLarge n max.toNat)
    else .ok (UInt32.ofNat n)

/-- Reads a compact text whose index is at most `max`. The first separator must follow exactly
sixty-four bytes; the transaction id may use digits of either case. -/
def ofCompact (max : UInt32) (s : String) : Except Error Outpoint :=
  let head := s.toList.takeWhile (· != separator)
  match s.toList.dropWhile (· != separator) with
  | [] => .error .missingSeparator
  | _ :: index =>
    if byteSize head ≠ 64 then .error .missingSeparator
    else match Digest.ofDigits? head with
      | none => .error .badHash
      | some txid => (readIndex max index).map (⟨txid, ·⟩)

/-- The largest index taken where no other bound is given. -/
def defaultMaxIndex : UInt32 := 100000

/-- Whether a text reads as a compact outpoint under the default bound. -/
def isCompact (s : String) : Bool :=
  (ofCompact defaultMaxIndex s).toBool

/-! ## Other forms -/

/-- The display-only reference: the displayed transaction id in base 32 and the index. -/
def reference (o : Outpoint) : String :=
  s!"{Base32.text o.txid.reversedBytes}{separator}{Decimal.text o.index.toNat}"

/-- The pair of the displayed transaction id and the index. -/
def pairText (o : Outpoint) : String :=
  s!"({o.txid.text}, {o.index.toNat})"

/-- Outpoints are ordered by transaction id, then by index. -/
def le (a b : Outpoint) : Bool :=
  if a.txid = b.txid then a.index ≤ b.index else a.txid.le b.txid

end Outpoint

end TokenOverlay
