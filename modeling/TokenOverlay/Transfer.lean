/-
Where spent tokens go. A non-fungible token moves to the output with the index of its input. The
units of a fungible token colour whole outputs in order, after those it asked to skip, for as long
as what is left covers the next one; units left over are burned.
-/
import TokenOverlay.Fault
import TokenOverlay.Located
import TokenOverlay.Script.Output

namespace TokenOverlay

/-! ## Fungible tokens -/

/-- The outputs that a token colours, in ascending order, and the units left over. -/
structure Coloring where
  outputs : List Nat
  left : UInt64
  deriving DecidableEq, Repr

namespace Coloring

/-- The sum of two words, or the largest word if the sum is beyond it. -/
def cappedSum (a b : UInt64) : UInt64 :=
  UInt64.ofNat (min (a.toNat + b.toNat) (UInt64.size - 1))

/-- Goes through outputs, the first of which is number `i`. Outputs are passed over while the total
passed over is below what is to be skipped; each one after that is coloured while what is left covers
it, and the first that it does not cover ends the colouring. -/
def place (skip : UInt64) (i : Nat) (passed left : UInt64) : List UInt64 → Coloring
  | [] => ⟨[], left⟩
  | v :: rest =>
    if passed < skip then place skip (i + 1) (cappedSum passed v) left rest
    else if left < v then ⟨[], left⟩
    else
      let r := place skip (i + 1) passed (left - v) rest
      ⟨i :: r.outputs, r.left⟩

/-- Colours outputs with the units of a token, after skipping some. -/
def ofValues (units skip : UInt64) (values : List UInt64) : Coloring :=
  place skip 0 0 units values

end Coloring

/-- The units of a token that an operation asks to skip: a number under the compact id of the token,
in a skip at the first input. A number beyond a word counts as the largest one. -/
def skipAmount (op? : Option Located) (token : TokenId) : UInt64 :=
  match op? with
  | none => 0
  | some op =>
    if op.isFirst .skip then
      match (op.payload.get? token.compact).bind Payload.Value.asInt? with
      | some (.ofNat n) => UInt64.ofNat (min n (UInt64.size - 1))
      | _ => 0
    else 0

/-- Where the units of a token go. -/
def colorOutputs (token : TokenId) (units : UInt64) (tx : Transaction) (op? : Option Located) :
    Coloring :=
  .ofValues units (skipAmount op? token) tx.outputValues

/-! ## Non-fungible tokens -/

/-- Where a non-fungible token goes: to the output with the index of its input, or to the first one
if that output is missing or unspendable. -/
def placeToken (inputs : List Nat) (tx : Transaction) : Except Fault Nat :=
  match inputs with
  | [i] =>
    match tx.outputs[i]? with
    | some o => .ok (if Script.isUnspendable o.script then 0 else i)
    | none => .ok 0
  | _ => .error .notSpentOnce

end TokenOverlay
