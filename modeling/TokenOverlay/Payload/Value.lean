/-
Payload values: what an operation says, as numbers, texts, byte strings, sequences and maps. Maps
have text keys and keep the order in which the keys first came; a key that comes again replaces the
value and keeps its place, so the keys of a map built by insertion are pairwise different.
-/
import TokenOverlay.Assoc
import TokenOverlay.Binary64.Shortest
import TokenOverlay.Json.Value
import TokenOverlay.Text.Hex

namespace TokenOverlay.Payload

/-- A payload value. -/
inductive Value
  | null
  | bool (b : Bool)
  | int (n : Int)
  | float (x : Binary64)
  | text (s : String)
  | bytes (b : Bytes)
  | seq (items : List Value)
  | map (entries : List (String × Value))
  | tagged (number : UInt64) (value : Value)
  deriving Inhabited

/-- The entries of a payload map, in order. -/
abbrev Map := Assoc String Value

/-- The value under a key. -/
def Map.get? (m : Map) (key : String) : Option Value :=
  List.lookup key m

namespace Value

/-- The name of the kind of a value. -/
def kind : Value → String
  | .null => "null"
  | .bool _ => "bool"
  | .int _ => "integer"
  | .float _ => "float"
  | .text _ => "text"
  | .bytes _ => "bytes"
  | .seq _ => "sequence"
  | .map _ => "map"
  | .tagged .. => "tagged"

/-! ## Views -/

def asText? : Value → Option String
  | .text s => some s
  | _ => none

def asMap? : Value → Option Map
  | .map m => some m
  | _ => none

def asSeq? : Value → Option (List Value)
  | .seq items => some items
  | _ => none

def asBytes? : Value → Option Bytes
  | .bytes b => some b
  | _ => none

/-- Reads an integer; truth values count as 0 and 1. -/
def asInt? : Value → Option Int
  | .int n => some n
  | .bool b => some b.toNat
  | _ => none

/-- Reads an integer that fits an unsigned word. -/
def asWord? (v : Value) : Option UInt64 :=
  match v.asInt? with
  | some n => if 0 ≤ n ∧ n < UInt64.size then some (UInt64.ofNat n.toNat) else none
  | none => none

/-- Whether a value counts as not given: null, false, zero, and whatever is empty. -/
def isBlank : Value → Bool
  | .null => true
  | .bool b => !b
  | .int n => n == 0
  | .float x => x.isZero
  | .text s => s.isEmpty
  | .bytes b => b.isEmpty
  | .seq items => items.isEmpty
  | .map entries => entries.isEmpty
  | .tagged .. => false

def isNull : Value → Bool
  | .null => true
  | _ => false

/-! ## JSON -/

/-- Numbers in JSON: the fewest digits, ties to the even neighbour, positional from `1e-5` up to
`1e16`; there is no text for what is not finite. -/
def jsonNumbers : Binary64.Layout where
  tie := .even
  minPositional := -5
  maxPositional := 15
  plus := ""
  exponentDigits := 1
  infinity := "null"
  notANumber := "null"

mutual

/-- The JSON form of a value: byte strings in hex, tags left out. -/
def toJson : Value → JsonValue
  | .null => .null
  | .bool b => .bool b
  | .int n => .number (toString n)
  | .float x => if x.isFinite then .number (jsonNumbers.text x) else .null
  | .text s => .str s
  | .bytes b => .str (Hex.text b)
  | .seq items => .array (itemsToJson items)
  | .map entries => .object (entriesToJson entries)
  | .tagged _ v => v.toJson

def itemsToJson : List Value → List JsonValue
  | [] => []
  | v :: rest => v.toJson :: itemsToJson rest

def entriesToJson : List (String × Value) → List (Option String × JsonValue)
  | [] => []
  | (k, v) :: rest => (some k, v.toJson) :: entriesToJson rest

end

end Value

/-- The JSON form of a map. -/
def Map.toJson (m : Map) : JsonValue :=
  (Value.map m).toJson

end TokenOverlay.Payload
