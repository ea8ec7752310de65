/-
Bracket expressions. Their text comes as tokens, in which escapes are already resolved; the tokens
between an opening bracket and the one that closes it are read as a union of characters, ranges,
named sets and nested brackets, with operators between whole unions that bind from the left.
-/
import TokenOverlay.Pattern.Syntax

namespace TokenOverlay.Pattern

/-- A piece of the text of a bracket expression. -/
inductive BracketToken
  /-- A character that may have a meaning in brackets. -/
  | raw (c : Char)
  /-- A character that stands for itself. -/
  | quoted (c : Char)
  | charSet (s : CharSet)

namespace BracketToken

/-- The characters that mean something unless they are quoted. -/
def isMeta (c : Char) : Bool :=
  "\\.+*?()|[]\x7b\x7d^$#&-~".toList.contains c

/-- The token of a character given by an escape. Only a character with a meaning needs quoting. -/
def ofEscaped (c : Char) : BracketToken :=
  if isMeta c then quoted c else raw c

end BracketToken

namespace CharSet

open BracketToken

/-! ## Named classes of ASCII -/

/-- The ranges of a class of ASCII characters. -/
def asciiClass? (name : String) : Option Unicode.Ranges :=
  match name with
  | "alnum" => some (.ofList [(0x30, 0x39), (0x41, 0x5A), (0x61, 0x7A)])
  | "alpha" => some (.ofList [(0x41, 0x5A), (0x61, 0x7A)])
  | "ascii" => some (.ofList [(0x00, 0x7F)])
  | "blank" => some (.ofList [(0x09, 0x09), (0x20, 0x20)])
  | "cntrl" => some (.ofList [(0x00, 0x1F), (0x7F, 0x7F)])
  | "digit" => some (.ofList [(0x30, 0x39)])
  | "graph" => some (.ofList [(0x21, 0x7E)])
  | "lower" => some (.ofList [(0x61, 0x7A)])
  | "print" => some (.ofList [(0x20, 0x7E)])
  | "punct" => some (.ofList [(0x21, 0x2F), (0x3A, 0x40), (0x5B, 0x60), (0x7B, 0x7E)])
  | "space" => some (.ofList [(0x09, 0x0D), (0x20, 0x20)])
  | "upper" => some (.ofList [(0x41, 0x5A)])
  | "word" => some (.ofList [(0x30, 0x39), (0x41, 0x5A), (0x5F, 0x5F), (0x61, 0x7A)])
  | "xdigit" => some (.ofList [(0x30, 0x39), (0x41, 0x46), (0x61, 0x66)])
  | _ => none

/-- The name up to the next colon, and what follows it. -/
def classNameTo : List BracketToken → Option (List Char × List BracketToken)
  | raw ':' :: rest => some ([], raw ':' :: rest)
  | raw c :: rest => (classNameTo rest).map fun (name, r) => (c :: name, r)
  | _ => none

/-- A class of ASCII characters after its opening bracket: a name between colons, perhaps negated. -/
def asciiClassAfter? (tokens : List BracketToken) : Option (CharSet × List BracketToken) := do
  let (negated, rest) ← match tokens with
    | raw ':' :: raw '^' :: rest => some (true, rest)
    | raw ':' :: rest => some (false, rest)
    | _ => none
  let (name, rest) ← classNameTo rest
  match rest with
  | raw ':' :: raw ']' :: rest =>
    let set ← asciiClass? (String.ofList name)
    return (.named set negated, rest)
  | _ => none

/-! ## Items -/

/-- A token as an item of a union. Whatever it is elsewhere, a character stands for itself here. -/
def ofToken : BracketToken → CharSet
  | raw c | quoted c => .range c c
  | charSet s => s

/-- A token as an end of a range. -/
def endOfRange? : BracketToken → Option Char
  | raw c | quoted c => some c
  | charSet _ => none

/-- An item that begins with the given token: the token alone, or a range if a hyphen follows that
neither closes the brackets nor is half of an operator. -/
def item? (first : BracketToken) : List BracketToken → Option (CharSet × List BracketToken)
  | [] => none
  | raw '-' :: raw ']' :: rest => some (ofToken first, raw '-' :: raw ']' :: rest)
  | raw '-' :: raw '-' :: rest => some (ofToken first, raw '-' :: raw '-' :: rest)
  | raw '-' :: last :: rest => do
    let low ← endOfRange? first
    let high ← endOfRange? last
    if low ≤ high then some (.range low high, rest) else none
  | [raw '-'] => none
  | rest => some (ofToken first, rest)

/-! ## Brackets -/

/-- The left side of an operator that waits for its right side. -/
abbrev Pending := Option (SetOp × CharSet)

/-- A union together with what waits for it. -/
def settle (pending : Pending) (u : CharSet) : CharSet :=
  match pending with
  | none => u
  | some (op, left) => .combine op left u

/-- The operator that two characters spell. -/
def operator? : List BracketToken → Option (SetOp × List BracketToken)
  | raw '&' :: raw '&' :: rest => some (.intersection, rest)
  | raw '-' :: raw '-' :: rest => some (.difference, rest)
  | raw '~' :: raw '~' :: rest => some (.symmetricDifference, rest)
  | _ => none

/-- Hyphens right after an opening bracket stand for themselves. -/
def leadingHyphens (u : CharSet) : List BracketToken → CharSet × List BracketToken
  | raw '-' :: rest => leadingHyphens (.union u (.range '-' '-')) rest
  | rest => (u, rest)

/-- What stands right after an opening bracket: whether the set is negated, and the characters that
only there stand for themselves, which are hyphens or else one closing bracket. -/
def opening (tokens : List BracketToken) : Bool × CharSet × List BracketToken :=
  let (negated, rest) := match tokens with
    | raw '^' :: rest => (true, rest)
    | rest => (false, rest)
  match rest with
  | raw ']' :: rest => (negated, .range ']' ']', rest)
  | _ => (negated, leadingHyphens .nothing rest)

/-- The set after an opening bracket, up to the bracket that closes it. -/
def read? (negated : Bool) (pending : Pending) (u : CharSet) :
    Nat → List BracketToken → Option (CharSet × List BracketToken)
  | 0, _ => none
  | _ + 1, [] => none
  | _ + 1, raw ']' :: rest => some (.bracket negated (settle pending u), rest)
  | fuel + 1, raw '[' :: rest =>
    match asciiClassAfter? rest with
    | some (s, rest) => read? negated pending (.union u s) fuel rest
    | none =>
      let (negated', u', rest) := opening rest
      match read? negated' none u' fuel rest with
      | some (s, rest) => read? negated pending (.union u s) fuel rest
      | none => none
  | fuel + 1, first :: rest =>
    match operator? (first :: rest) with
    | some (op, rest) => read? negated (some (op, settle pending u)) .nothing fuel rest
    | none =>
      match item? first rest with
      | some (s, rest) => read? negated pending (.union u s) fuel rest
      | none => none

/-- The set of a whole bracket expression, without its opening bracket. -/
def ofTokens? (tokens : List BracketToken) : Option CharSet :=
  let (negated, u, rest) := opening tokens
  match read? negated none u (tokens.length + 1) rest with
  | some (s, []) => some s
  | _ => none

end CharSet

end TokenOverlay.Pattern
