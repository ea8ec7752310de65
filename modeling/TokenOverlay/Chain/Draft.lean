/-
Drafts of reveal transactions: inputs and outputs are added one after the other, and an input
reveals an operation under a fixed key. An input that is given no outpoint spends one made up from
its number.
-/
import TokenOverlay.Fault
import TokenOverlay.Payload.Encoding
import TokenOverlay.Script.Envelope

namespace TokenOverlay

/-- The digest whose displayed digits begin with the given bytes and go on with a filling byte. -/
def Digest.ofDisplayPrefix? (lead : Bytes) (fill : UInt8) : Option Digest :=
  if lead.length ≤ 32 then ofBytes? (lead ++ List.replicate (32 - lead.length) fill).reverse else none

/-- A transaction under construction. -/
structure Draft where
  id : Digest := .fill 0xee
  inputs : List Input := []
  outputs : List Output := []

namespace Draft

/-- The key that reveals are made under. -/
def key : Bytes := List.replicate 32 0x11

/-- The made-up outpoint of the next input: its number, and a digest of bytes one more than it. -/
def nextOutpoint (d : Draft) : Except Fault Outpoint :=
  let n := d.inputs.length
  if n % 256 = 255 then .error .draftOverflow
  else .ok ⟨.fill (UInt8.ofNat (n + 1)), UInt32.ofNat n⟩

def addOutput (d : Draft) (o : Output) : Draft :=
  { d with outputs := d.outputs ++ [o] }

/-- Adds an input without an envelope. -/
def addInput (d : Draft) : Except Fault Draft := do
  let spends ← d.nextOutpoint
  return { d with inputs := d.inputs ++ [⟨spends, [List.replicate 64 0x30]⟩] }

/-- Adds an input that spends an outpoint and reveals an envelope: its witness is a signature, the
envelope's script and a control block. -/
def addReveal (d : Draft) (spends? : Option Outpoint) (e : Envelope) : Except Fault Draft := do
  let spends ← match spends? with
    | some o => pure o
    | none => d.nextOutpoint
  match Envelope.build key e with
  | .error _ => .error .draftOverflow
  | .ok script =>
    return { d with
      inputs := d.inputs ++ [⟨spends, [List.replicate 64 0x01, script, List.replicate 33 0xc0]⟩] }

/-- The finished transaction. -/
def finish (d : Draft) : Transaction :=
  ⟨d.id, d.inputs, d.outputs⟩

end Draft

end TokenOverlay
