/-
Envelopes: the part of a witness script that carries an operation. A script holds one if it begins
with a push of a thirty-two byte key and has, somewhere after the key, a conditional whose first
push is the marker; the first such place decides. The operation code follows, and the pushes up to
the end of the conditional make up the payload.
-/
import TokenOverlay.Chain.Transaction
import TokenOverlay.Log
import TokenOverlay.Operation
import TokenOverlay.Script.Builder

namespace TokenOverlay

/-- An operation and the payload pushed after it. -/
structure Envelope where
  kind : OpKind
  payload : Bytes
  deriving DecidableEq, Repr

namespace Envelope

open Script

/-- A push of the text `atom`. -/
def marker : Bytes := [0x04, 0x61, 0x74, 0x6f, 0x6d]

/-- The opcode that pushes a key. -/
def keyPush : UInt8 := 0x20

/-- The bytes of a key push. -/
def keyPushLength : Nat := 33

/-- A key push, a conditional and the marker. -/
def minLength : Nat := 39

/-- The push of an operation code. -/
def codePush (kind : OpKind) : Bytes :=
  let code := Bytes.ofText kind.code
  UInt8.ofNat code.length :: code

/-! ## Reading -/

/-- The pushed data of all instructions before the end of the conditional, or of the whole script if
it has none. A push that cannot be read counts only if it stands before that end. -/
def readPayload (script : Bytes) : Except Script.Error Bytes :=
  let reading := Script.read script
  let body := reading.instructions.takeWhile (· != .op opEndIf)
  match reading.error with
  | some e =>
    if body.length < reading.instructions.length then .ok (body.flatMap Instruction.data)
    else .error e
  | none => .ok (body.flatMap Instruction.data)

/-- What follows a lead, if the byte string begins with it. -/
def strip? (lead b : Bytes) : Option Bytes :=
  if lead.isPrefixOf b then some (b.drop lead.length) else none

/-- The operation at the front of a script and what follows its code, which must not be empty. -/
def readCode (script : Bytes) : Option (OpKind × Bytes) :=
  OpKind.all.findSome? fun kind =>
    match strip? (codePush kind) script with
    | some (b :: rest) => some (kind, b :: rest)
    | _ => none

/-- What follows the first conditional that pushes the marker. -/
def afterMarker : Bytes → Option Bytes
  | [] => none
  | b :: rest =>
    if b = opIf ∧ marker.isPrefixOf rest then some (rest.drop marker.length) else afterMarker rest

/-- The envelope of a script, if it has one. -/
def ofScript (script : Bytes) : Except Script.Error (Option Envelope) :=
  if script.length < minLength ∨ script.head? ≠ some keyPush then .ok none
  else match (afterMarker (script.drop keyPushLength)).bind readCode with
    | none => .ok none
    | some (kind, rest) => (readPayload rest).map fun payload => some ⟨kind, payload⟩

/-- The first element of a witness that holds an envelope decides; elements that cannot be read are
noted and passed over. -/
def ofWitness : Witness → Option Envelope × List Log
  | [] => (none, [])
  | element :: rest =>
    match ofScript element with
    | .ok (some e) => (some e, [])
    | .ok none => ofWitness rest
    | .error e =>
      let r := ofWitness rest
      (r.1, Log.debug s!"skipping witness element with malformed envelope: {e.message}" :: r.2)

/-! ## Writing -/

/-- The script that reveals an envelope under a key: the key, a signature check, and a conditional
that pushes the marker, the operation code and the payload in pieces of at most 520 bytes. -/
def build (key : Bytes) (e : Envelope) : Except ElementTooLarge Bytes := do
  let b ← ({} : Builder).addData key
  let b := ((b.addOp opCheckSig).addOp opFalse).addOp opIf
  let b ← b.addData (marker.drop 1)
  let b ← b.addData (Bytes.ofText e.kind.code)
  let b ← (Bytes.chunks maxElementSize e.payload).foldlM Builder.addData b
  return (b.addOp opEndIf).script

end Envelope

end TokenOverlay
