/-
Items of the concise binary object representation. Integers are words of sixty-four bits of either
sign, so every item can be written; map keys may be any items.
-/
import TokenOverlay.Binary64
import TokenOverlay.Bytes

namespace TokenOverlay.Cbor

/-- A data item. `negative n` stands for `-1 - n`. -/
inductive Item
  | null
  | bool (b : Bool)
  | unsigned (n : UInt64)
  | negative (n : UInt64)
  | float (x : Binary64)
  | text (s : String)
  | bytes (b : Bytes)
  | array (items : List Item)
  | map (entries : List (Item × Item))
  | tag (number : UInt64) (item : Item)
  deriving Inhabited

/-! ## Writing -/

/-- The head of an item: its major type and an argument in the fewest bytes. -/
def writeHead (major n : Nat) : Bytes :=
  let lead (info : Nat) := UInt8.ofNat (32 * major + info)
  if n < 24 then [lead n]
  else if n < UInt8.size then lead 24 :: Bytes.ofNatBE 1 n
  else if n < UInt16.size then lead 25 :: Bytes.ofNatBE 2 n
  else if n < UInt32.size then lead 26 :: Bytes.ofNatBE 4 n
  else lead 27 :: Bytes.ofNatBE 8 n

/-- A number in the narrowest format that keeps all its bits. -/
def writeFloat (x : Binary64) : Bytes :=
  match Binary64.half.narrow? x, Binary64.single.narrow? x with
  | some w, _ => 0xf9 :: Bytes.ofNatBE 2 w
  | none, some w => 0xfa :: Bytes.ofNatBE 4 w
  | none, none => 0xfb :: Bytes.ofNatBE 8 x.bits.toNat

mutual

/-- The bytes of an item. -/
def Item.write : Item → Bytes
  | .null => [0xf6]
  | .bool false => [0xf4]
  | .bool true => [0xf5]
  | .unsigned n => writeHead 0 n.toNat
  | .negative n => writeHead 1 n.toNat
  | .float x => writeFloat x
  | .text s =>
    let b := Bytes.ofText s
    writeHead 3 b.length ++ b
  | .bytes b => writeHead 2 b.length ++ b
  | .array items => writeHead 4 items.length ++ writeItems items
  | .map entries => writeHead 5 entries.length ++ writeEntries entries
  | .tag n item => writeHead 6 n.toNat ++ item.write

def writeItems : List Item → Bytes
  | [] => []
  | item :: rest => item.write ++ writeItems rest

def writeEntries : List (Item × Item) → Bytes
  | [] => []
  | (key, value) :: rest => key.write ++ (value.write ++ writeEntries rest)

end

end TokenOverlay.Cbor
