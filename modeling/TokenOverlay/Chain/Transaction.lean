/-
The view of a base-ledger transaction that the overlay reads: the outpoint and the witness of every
input, the value and the script of every output.
-/
import TokenOverlay.Chain.Outpoint

namespace TokenOverlay

/-- The stack of byte strings that unlocks an input. -/
abbrev Witness := List Bytes

structure Input where
  spends : Outpoint
  witness : Witness
  deriving DecidableEq, Repr

structure Output where
  value : UInt64
  script : Bytes
  deriving DecidableEq, Repr

structure Transaction where
  id : Digest
  inputs : List Input
  outputs : List Output
  deriving DecidableEq, Repr

/-- The output values in order. -/
def Transaction.outputValues (tx : Transaction) : List UInt64 :=
  tx.outputs.map Output.value

end TokenOverlay
