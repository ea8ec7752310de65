/-
Output scripts with a meaning for the overlay: outputs that can never be spent, and markers that
name the token a transaction pays for. Every marker script is unspendable.
-/
import TokenOverlay.Script.Envelope

namespace TokenOverlay.Script

/-- A script that begins with a return, with or without a pushed zero before it. -/
def isUnspendable : Bytes → Bool
  | a :: b :: _ => a == opReturn || (a == opFalse && b == opReturn)
  | [a] => a == opReturn
  | [] => false

/-- What stands between the return and the token of a payment marker: the envelope marker, a push of
the letter `p`, and the opcode that pushes thirty-six bytes. -/
def paymentLead : Bytes :=
  Envelope.marker ++ [0x01, 0x70, 0x24]

/-- A payment marker for a token. -/
def paymentMarker (id : TokenId) : Bytes :=
  opReturn :: paymentLead ++ id.bytes

/-- The script after its return. -/
def afterReturn? : Bytes → Option Bytes
  | a :: b :: rest =>
    if a = opReturn then some (b :: rest)
    else if a = opFalse ∧ b = opReturn then some rest
    else none
  | [a] => if a = opReturn then some [] else none
  | [] => none

/-- The token that a payment marker names; anything may follow the token. -/
def paidToken? (script : Bytes) : Option TokenId := do
  let rest ← afterReturn? script
  let rest ← Envelope.strip? paymentLead rest
  (Outpoint.ofBytes (rest.take 36)).toOption

end TokenOverlay.Script

namespace TokenOverlay.Transaction

/-- The token a transaction declares to pay for: that of its first payment marker. -/
def paidToken? (tx : Transaction) : Option TokenId :=
  tx.outputs.findSome? fun o => Script.paidToken? o.script

end TokenOverlay.Transaction
