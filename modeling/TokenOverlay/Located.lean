/-
Locating the operation of a transaction. Inputs are tried in order: the envelope of an input's
witness decides for that input, and the first input whose envelope has a sound payload decides for
the transaction. Envelopes with other payloads are noted and passed over.
-/
import TokenOverlay.Payload.Sanitize
import TokenOverlay.Script.Envelope

namespace TokenOverlay

/-- An operation and where it was found. -/
structure Located where
  kind : OpKind
  payload : Payload.Map
  payloadBytes : Bytes
  /-- The index of the input whose witness carries the operation. -/
  inputIndex : Nat
  /-- The outpoint that the input spends. -/
  commit : Outpoint
  /-- The place of the commit as the index knows it. -/
  commitLocation : Outpoint
  /-- The output that receives what the operation creates. -/
  reveal : Outpoint

/-- Whether an operation of the given kind was found at the first input. Only there does a mint, a
claim or a skip count. -/
def Located.isFirst (op : Located) (kind : OpKind) : Bool :=
  op.kind == kind && op.inputIndex == 0

namespace Transaction

/-- The first operation among inputs, the first of which is number `i`. -/
def locateFrom (id : Digest) (i : Nat) : List Input → Option Located × List Log
  | [] => (none, [])
  | input :: rest =>
    match Envelope.ofWitness input.witness with
    | (none, logs) =>
      let r := locateFrom id (i + 1) rest
      (r.1, logs ++ r.2)
    | (some e, logs) =>
      match Payload.decodeSound e.payload with
      | .ok payload =>
        (some ⟨e.kind, payload, e.payload, i, input.spends, input.spends, ⟨id, 0⟩⟩, logs)
      | .error err =>
        let note := s!"tx {id.text}: skipping {e.kind} operation at input {i}: {err.message}"
        let r := locateFrom id (i + 1) rest
        (r.1, logs ++ Log.debug note :: r.2)

/-- The operation a transaction carries, and the notes on what was passed over. -/
def locate (tx : Transaction) : Option Located × List Log :=
  locateFrom tx.id 0 tx.inputs

end Transaction

end TokenOverlay
