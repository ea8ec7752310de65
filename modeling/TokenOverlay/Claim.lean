/-
Claims of units of a deployed token. Only the form of a claim is judged here: whether the ticker is
deployed, and whether its terms are met, is for the index to say.
-/
import TokenOverlay.Located
import TokenOverlay.NameKind

namespace TokenOverlay.Claim

open Payload (Map Value)

/-- Why an operation is no well-formed claim. -/
inductive Refusal
  | notAClaim (kind : OpKind)
  | notAtFirstInput (index : Nat)
  | fieldNotAMap (field : String)
  | badTicker
  deriving DecidableEq, Repr

def Refusal.message : Refusal → String
  | notAClaim kind => s!"operation {kind} is not a decentralized mint claim"
  | notAtFirstInput i => s!"decentralized mint claims must be at input 0 but found at input {i}"
  | fieldNotAMap field => s!"payload field '{field}' must be a map"
  | badTicker => "mint_ticker is missing or not a valid ticker"

/-- The first field of a payload that is there and no map. -/
def badField? (payload : Map) : Option String :=
  ["meta", "args", "ctx", "init"].find? fun field =>
    match payload.get? field with
    | some v => v.asMap?.isNone
    | none => false

/-- The ticker that a payload names, if it is a valid one. -/
def namedTicker? (payload : Map) : Option String := do
  let args ← (← payload.get? "args").asMap?
  let ticker ← (← args.get? "mint_ticker").asText?
  if NameKind.ticker.accepts ticker then some ticker else none

/-- The ticker that a well-formed claim is for. -/
def ticker (op : Located) : Except Refusal String :=
  if op.kind ≠ .claim then .error (.notAClaim op.kind)
  else if op.inputIndex ≠ 0 then .error (.notAtFirstInput op.inputIndex)
  else match badField? op.payload with
    | some field => .error (.fieldNotAMap field)
    | none =>
      match namedTicker? op.payload with
      | some t => .ok t
      | none => .error .badTicker

/-- The ticker that is claimed, if any; a claim that is not well-formed is noted. -/
def accept? (op : Located) : Option String × List Log :=
  match ticker op with
  | .ok t => (some t, [])
  | .error (.notAClaim _) => (none, [])
  | .error refusal =>
    (none, [.debug s!"tx {op.reveal.txid.text}: ignoring dmt claim: {refusal.message}"])

end TokenOverlay.Claim
