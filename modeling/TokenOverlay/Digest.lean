/-
Digests of thirty-two bytes. A digest keeps its bytes in wire order and is shown byte-reversed, so
its text is not the hex of its bytes; `ofText` and `text` both reverse and undo each other.
-/
import TokenOverlay.Text.Hex

namespace TokenOverlay

/-- A digest: thirty-two bytes in wire order. -/
structure Digest where
  bytes : Bytes
  length_bytes : bytes.length = 32
  deriving DecidableEq

namespace Digest

/-- The digest with the given bytes, if there are thirty-two. -/
def ofBytes? (b : Bytes) : Option Digest :=
  if h : b.length = 32 then some ⟨b, h⟩ else none

/-- The digest whose bytes are all `b`. -/
def fill (b : UInt8) : Digest :=
  ⟨List.replicate 32 b, List.length_replicate⟩

/-- The bytes in display order. -/
def reversedBytes (d : Digest) : Bytes :=
  d.bytes.reverse

/-- The displayed digits: hex of the bytes in display order. -/
def digits (d : Digest) : List Char :=
  Hex.encode d.reversedBytes

/-- The displayed text. -/
def text (d : Digest) : String :=
  Hex.text d.reversedBytes

/-- The digest shown by sixty-four digits. -/
def ofDigits? (cs : List Char) : Option Digest :=
  (Hex.decode? cs).bind fun b => ofBytes? b.reverse

/-- Reads the displayed text. -/
def ofText (s : String) : Except Hex.Error Digest :=
  match Hex.decodeExactly 32 s with
  | .error e => .error e
  | .ok b => match ofBytes? b.reverse with
    | some d => .ok d
    | none => .error .badDigit

/-- Digests are ordered by their bytes in wire order, the first byte weighing most. -/
def le (a b : Digest) : Bool :=
  decide (a.bytes ≤ b.bytes)

@[ext] theorem ext {a b : Digest} (h : a.bytes = b.bytes) : a = b := by
  cases a; cases b; simp_all

@[simp] theorem ofBytes?_bytes (d : Digest) : ofBytes? d.bytes = some d := by
  simp [ofBytes?, d.length_bytes]

instance : Inhabited Digest := ⟨fill 0⟩

instance : Repr Digest := ⟨fun d _ => d.text⟩

end Digest

end TokenOverlay
