/-
Why bytes are not an acceptable payload, or a value cannot be written.
-/
namespace TokenOverlay.Payload

inductive Error
  | empty
  | malformed
  | notAMap
  | nonTextKey
  | fieldNotAMap (field : String)
  | banned (field kind : String) (path : List String)
  | intOutOfRange (value : Int)
  deriving DecidableEq, Repr

def Error.message : Error → String
  | .empty => "payload is empty"
  | .malformed => "payload is not valid CBOR"
  | .notAMap => "decoded payload top level is not a map"
  | .nonTextKey => "payload map contains a non-text key"
  | .fieldNotAMap field => s!"payload field '{field}' must be a map"
  | .banned field kind path =>
    let place := ".".intercalate path
    s!"payload field '{field}' contains a banned {kind} value at '{place}'"
  | .intOutOfRange n => s!"payload could not be encoded: integer {n} out of range"

end TokenOverlay.Payload
