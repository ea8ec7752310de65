/-
Building scripts. Data is always pushed literally in the shortest encoding, never as a small-integer
opcode, so the pushed bytes read back as written; an element of more than 520 bytes is refused and
leaves the script as it was.
-/
import TokenOverlay.Script.Instruction

namespace TokenOverlay.Script

/-- The most bytes a pushed element may have. -/
def maxElementSize : Nat := 520

/-- An element that is too large to be pushed. -/
structure ElementTooLarge where
  size : Nat
  deriving DecidableEq, Repr

def ElementTooLarge.message (e : ElementTooLarge) : String :=
  s!"adding a data element of {e.size} bytes exceed the maximum allowed script element size of {maxElementSize}"

/-- A script under construction. -/
structure Builder where
  script : Bytes := []
  deriving DecidableEq, Repr

namespace Builder

def addOp (b : Builder) (code : UInt8) : Builder :=
  ⟨b.script ++ [code]⟩

def addData (b : Builder) (data : Bytes) : Except ElementTooLarge Builder :=
  if maxElementSize < data.length then .error ⟨data.length⟩
  else .ok ⟨b.script ++ (PushForm.shortest data.length).encode data⟩

/-- The script built so far, and an empty builder. -/
def drain (b : Builder) : Bytes × Builder :=
  (b.script, ⟨[]⟩)

end Builder

end TokenOverlay.Script
