/-
Which payloads are sound. Four fields are looked at, in a fixed order: each is absent or a map that
holds, through nested maps and sequences, nothing but truth values, numbers, texts, sequences and
maps; one of them may hold byte strings too. The first offence in document order is reported with
the way to it.
-/
import TokenOverlay.Payload.Encoding

namespace TokenOverlay.Payload

/-- A looked-at field and whether it may hold byte strings. -/
structure Field where
  name : String
  bytesAllowed : Bool
  deriving DecidableEq, Repr

/-- The looked-at fields in the order in which they are checked. -/
def fields : List Field :=
  [⟨"meta", false⟩, ⟨"args", false⟩, ⟨"ctx", false⟩, ⟨"init", true⟩]

/-- A banned value: the way to it and its kind. -/
structure Offence where
  path : List String
  kind : String
  deriving DecidableEq, Repr

/-- The offence seen from one level further out. -/
def Offence.under (key : String) (o : Offence) : Offence :=
  { o with path := key :: o.path }

mutual

/-- The first banned value within a value. -/
def Value.offence? (bytesAllowed : Bool) : Value → Option Offence
  | .bool _ | .int _ | .float _ | .text _ => none
  | .bytes _ => if bytesAllowed then none else some ⟨[], "bytes"⟩
  | .map entries => mapOffence? bytesAllowed entries
  | .seq items => seqOffence? bytesAllowed 0 items
  | .null => some ⟨[], "null"⟩
  | .tagged .. => some ⟨[], "tagged"⟩

/-- The first banned value in the items of a sequence, the first of which is number `i`. -/
def seqOffence? (bytesAllowed : Bool) (i : Nat) : List Value → Option Offence
  | [] => none
  | v :: rest =>
    match v.offence? bytesAllowed with
    | some o => some (o.under (toString i))
    | none => seqOffence? bytesAllowed (i + 1) rest

/-- The first banned value in the entries of a map. -/
def mapOffence? (bytesAllowed : Bool) : List (String × Value) → Option Offence
  | [] => none
  | (key, v) :: rest =>
    match v.offence? bytesAllowed with
    | some o => some (o.under key)
    | none => mapOffence? bytesAllowed rest

end

/-- Checks one field of a payload. -/
def Field.check (f : Field) (m : Map) : Except Error Unit :=
  match m.get? f.name with
  | none => .ok ()
  | some (.map entries) =>
    match mapOffence? f.bytesAllowed entries with
    | none => .ok ()
    | some o => .error (.banned f.name o.kind o.path)
  | some _ => .error (.fieldNotAMap f.name)

/-- Checks fields one after the other. -/
def checkFields (m : Map) : List Field → Except Error Unit
  | [] => .ok ()
  | f :: rest =>
    match f.check m with
    | .ok () => checkFields m rest
    | .error e => .error e

/-- Checks that a payload is sound. -/
def sanitize (m : Map) : Except Error Unit :=
  checkFields m fields

/-- Reads a payload and checks that it is sound. -/
def decodeSound (b : Bytes) : Except Error Map :=
  match decode b with
  | .error e => .error e
  | .ok m =>
    match sanitize m with
    | .ok () => .ok m
    | .error e => .error e

end TokenOverlay.Payload
