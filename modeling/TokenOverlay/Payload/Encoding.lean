/-
The encoding of payloads. Reading takes the first item of the bytes, which must be a map with text
keys all the way down; writing fails only on an integer beyond a word, and names the first one.
-/
import TokenOverlay.Cbor.Reader
import TokenOverlay.Payload.Error
import TokenOverlay.Payload.Value

namespace TokenOverlay.Payload

/-! ## From items -/

mutual

/-- The value of an item, or `none` if a map in it has a key that is no text. -/
def Value.ofItem? : Cbor.Item → Option Value
  | .null => some .null
  | .bool b => some (.bool b)
  | .unsigned n => some (.int n.toNat)
  | .negative n => some (.int (-1 - n.toNat))
  | .float x => some (.float x)
  | .text s => some (.text s)
  | .bytes b => some (.bytes b)
  | .array items => (valuesOfItems? items).map .seq
  | .map entries => (mapOfEntries? [] entries).map .map
  | .tag n item => (Value.ofItem? item).map (.tagged n)

def valuesOfItems? : List Cbor.Item → Option (List Value)
  | [] => some []
  | item :: rest =>
    match Value.ofItem? item, valuesOfItems? rest with
    | some v, some vs => some (v :: vs)
    | _, _ => none

/-- Puts the entries into a map one after the other. -/
def mapOfEntries? (m : Map) : List (Cbor.Item × Cbor.Item) → Option Map
  | [] => some m
  | (.text key, item) :: rest =>
    match Value.ofItem? item with
    | some v => mapOfEntries? (m.insert key v) rest
    | none => none
  | _ :: _ => none

end

/-- Reads a payload. Bytes after the first item do not matter. -/
def decode (b : Bytes) : Except Error Map :=
  if b.isEmpty then .error .empty
  else match Cbor.Item.read? b with
    | none => .error .malformed
    | some (.map entries, _) =>
      match mapOfEntries? [] entries with
      | some m => .ok m
      | none => .error .nonTextKey
    | some _ => .error .notAMap

/-! ## To items -/

/-- The item of an integer from `-2 ^ 64` to `2 ^ 64 - 1`. -/
def intItem (n : Int) : Except Error Cbor.Item :=
  match n with
  | .ofNat k => if k < UInt64.size then .ok (.unsigned (UInt64.ofNat k)) else .error (.intOutOfRange n)
  | .negSucc k => if k < UInt64.size then .ok (.negative (UInt64.ofNat k)) else .error (.intOutOfRange n)

mutual

/-- The item of a value. -/
def Value.toItem : Value → Except Error Cbor.Item
  | .null => .ok .null
  | .bool b => .ok (.bool b)
  | .int n => intItem n
  | .float x => .ok (.float x)
  | .text s => .ok (.text s)
  | .bytes b => .ok (.bytes b)
  | .seq items => (itemsOfValues items).map .array
  | .map entries => (entriesOfMap entries).map .map
  | .tagged n v => v.toItem.map (.tag n)

def itemsOfValues : List Value → Except Error (List Cbor.Item)
  | [] => .ok []
  | v :: rest =>
    match v.toItem with
    | .error e => .error e
    | .ok item => (itemsOfValues rest).map (item :: ·)

def entriesOfMap : List (String × Value) → Except Error (List (Cbor.Item × Cbor.Item))
  | [] => .ok []
  | (key, v) :: rest =>
    match v.toItem with
    | .error e => .error e
    | .ok item => (entriesOfMap rest).map ((.text key, item) :: ·)

end

/-- Writes a value. -/
def Value.encode (v : Value) : Except Error Bytes :=
  v.toItem.map Cbor.Item.write

/-- Writes a payload. -/
def encode (m : Map) : Except Error Bytes :=
  (Value.map m).encode

end TokenOverlay.Payload
