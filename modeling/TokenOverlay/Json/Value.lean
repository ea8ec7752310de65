/-
JSON documents and their compact text: no blanks, members in the order they are held, and in strings
only quotes, backslashes and control characters escaped.
-/
import TokenOverlay.Text.Decimal

namespace TokenOverlay

/-- A JSON value. Numbers keep the text they are written with. A string or a member name read from a
document is `none` if its escapes name no characters (a surrogate without its partner). -/
inductive JsonValue
  | null
  | bool (b : Bool)
  | number (text : String)
  | string (text : Option String)
  | array (items : List JsonValue)
  | object (members : List (Option String × JsonValue))
  deriving Inhabited

namespace JsonValue

def str (s : String) : JsonValue := .string (some s)

def nat (n : Nat) : JsonValue := .number (Decimal.text n)

/-- An object with the given members. -/
def members (fields : List (String × JsonValue)) : JsonValue :=
  .object (fields.map fun f => (some f.1, f.2))

/-- A value that may be absent. -/
def orNull (f : α → JsonValue) : Option α → JsonValue
  | none => .null
  | some a => f a

/-! ## Compact text -/

/-- The four lower-case hex digits of a number below `2 ^ 16`. -/
def hex4 (n : Nat) : List Char :=
  let ds := Nat.toDigits 16 n
  List.replicate (4 - ds.length) '0' ++ ds

/-- A character inside a string literal. -/
def escape (c : Char) : List Char :=
  if c = '"' then ['\\', '"']
  else if c = '\\' then ['\\', '\\']
  else if c = '\x08' then ['\\', 'b']
  else if c = '\x0c' then ['\\', 'f']
  else if c = '\n' then ['\\', 'n']
  else if c = '\r' then ['\\', 'r']
  else if c = '\t' then ['\\', 't']
  else if c.toNat < 32 then '\\' :: 'u' :: hex4 c.toNat
  else [c]

/-- A string literal. -/
def quote (s : String) : String :=
  String.ofList ('"' :: s.toList.flatMap escape ++ ['"'])

mutual

/-- The compact text of a value. -/
def compact : JsonValue → String
  | .null => "null"
  | .bool b => if b then "true" else "false"
  | .number text => text
  | .string s => quote (s.getD "")
  | .array items => "[" ++ compactItems items ++ "]"
  | .object ms => "\x7b" ++ compactMembers ms ++ "\x7d"

/-- The items of an array with commas between them. -/
def compactItems : List JsonValue → String
  | [] => ""
  | [v] => compact v
  | v :: w :: rest => compact v ++ "," ++ compactItems (w :: rest)

/-- The members of an object with commas between them. -/
def compactMembers : List (Option String × JsonValue) → String
  | [] => ""
  | [(k, v)] => quote (k.getD "") ++ ":" ++ compact v
  | (k, v) :: m :: rest => quote (k.getD "") ++ ":" ++ compact v ++ "," ++ compactMembers (m :: rest)

end

end JsonValue

end TokenOverlay
