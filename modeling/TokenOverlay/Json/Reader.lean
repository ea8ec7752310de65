/-
Reading JSON documents. The grammar is the strict one: four blank characters, no leading zeros, no
trailing commas, no raw control characters in strings, nothing after the value.
-/
import TokenOverlay.Json.Value
import TokenOverlay.Text.Hex

namespace TokenOverlay.JsonValue

/-! ## Lexical parts -/

def isBlank (c : Char) : Bool :=
  c == ' ' || c == '\n' || c == '\t' || c == '\r'

def skipBlanks (cs : List Char) : List Char :=
  cs.dropWhile isBlank

/-- What follows a word, if the text begins with it. -/
def word? (w : String) (cs : List Char) : Option (List Char) :=
  if w.toList.isPrefixOf cs then some (cs.drop w.length) else none

/-- A maximal run of at least one digit and what follows it. -/
def digits1? (cs : List Char) : Option (List Char × List Char) :=
  let ds := cs.takeWhile Char.isDigit
  if ds.isEmpty then none else some (ds, cs.dropWhile Char.isDigit)

/-- A point and digits, or nothing. -/
def fraction? : List Char → Option (List Char × List Char)
  | '.' :: cs => (digits1? cs).map fun (ds, rest) => ('.' :: ds, rest)
  | cs => some ([], cs)

/-- An exponent mark, a sign if there is one, and digits; or nothing. -/
def exponent? (cs : List Char) : Option (List Char × List Char) :=
  match cs with
  | e :: rest =>
    if e = 'e' ∨ e = 'E' then
      match rest with
      | s :: rest' =>
        if s = '+' ∨ s = '-' then (digits1? rest').map fun (ds, r) => (e :: s :: ds, r)
        else (digits1? rest).map fun (ds, r) => (e :: ds, r)
      | [] => none
    else some ([], cs)
  | [] => some ([], [])

/-- A number literal and what follows it. -/
def number? (cs : List Char) : Option (List Char × List Char) := do
  let (sign, cs) := match cs with
    | '-' :: rest => (['-'], rest)
    | _ => ([], cs)
  let (whole, cs) ← match cs with
    | '0' :: rest => some (['0'], rest)
    | _ => digits1? cs
  let (part, cs) ← fraction? cs
  let (power, cs) ← exponent? cs
  return (sign ++ whole ++ part ++ power, cs)

/-- A piece of a string literal: a character, or a unit of UTF-16 given by an escape. -/
inductive Piece
  | char (c : Char)
  | unit (n : Nat)

/-- The value of four hex digits. -/
def hex4? : List Char → Option Nat
  | [a, b, c, d] => do
    return 4096 * (← Hex.value? a) + 256 * (← Hex.value? b) + 16 * (← Hex.value? c) + (← Hex.value? d)
  | _ => none

/-- The character that a one-letter escape names. -/
def escaped? (c : Char) : Option Char :=
  match c with
  | '"' => some '"'
  | '\\' => some '\\'
  | '/' => some '/'
  | 'b' => some '\x08'
  | 'f' => some '\x0c'
  | 'n' => some '\n'
  | 'r' => some '\r'
  | 't' => some '\t'
  | _ => none

/-- The pieces of a string literal after its opening quote, and what follows the closing one. -/
def pieces? : List Char → Option (List Piece × List Char)
  | [] => none
  | '"' :: rest => some ([], rest)
  | '\\' :: 'u' :: a :: b :: c :: d :: rest => do
    let n ← hex4? [a, b, c, d]
    let (ps, r) ← pieces? rest
    return (.unit n :: ps, r)
  | '\\' :: c :: rest => do
    let e ← escaped? c
    let (ps, r) ← pieces? rest
    return (.char e :: ps, r)
  | c :: rest =>
    if c.toNat < 32 then none
    else do
      let (ps, r) ← pieces? rest
      return (.char c :: ps, r)

/-- The characters of the pieces; a surrogate needs its partner right after it. -/
def joinPieces? : List Piece → Option (List Char)
  | [] => some []
  | .char c :: rest => (joinPieces? rest).map (c :: ·)
  | .unit n :: rest =>
    if n < 0xD800 ∨ 0xE000 ≤ n then (joinPieces? rest).map (Char.ofNat n :: ·)
    else match rest with
      | .unit m :: rest' =>
        if n < 0xDC00 ∧ 0xDC00 ≤ m ∧ m < 0xE000 then
          (joinPieces? rest').map (Char.ofNat (0x10000 + (n - 0xD800) * 0x400 + (m - 0xDC00)) :: ·)
        else none
      | _ => none

/-- A string after its opening quote. -/
def string? (cs : List Char) : Option (Option String × List Char) := do
  let (ps, rest) ← pieces? cs
  return ((joinPieces? ps).map String.ofList, rest)

/-! ## Documents -/

mutual

/-- A value and what follows it. -/
def value? : Nat → List Char → Option (JsonValue × List Char)
  | 0, _ => none
  | fuel + 1, cs =>
    match skipBlanks cs with
    | '"' :: rest => (string? rest).map fun (s, r) => (.string s, r)
    | '[' :: rest =>
      match skipBlanks rest with
      | ']' :: r => some (.array [], r)
      | _ => (items? fuel rest).map fun (vs, r) => (.array vs, r)
    | '\x7b' :: rest =>
      match skipBlanks rest with
      | '\x7d' :: r => some (.object [], r)
      | _ => (members? fuel rest).map fun (ms, r) => (.object ms, r)
    | cs' =>
      match word? "null" cs', word? "true" cs', word? "false" cs' with
      | some r, _, _ => some (.null, r)
      | _, some r, _ => some (.bool true, r)
      | _, _, some r => some (.bool false, r)
      | _, _, _ => (number? cs').map fun (n, r) => (.number (String.ofList n), r)

/-- The items of an array up to its closing bracket. -/
def items? : Nat → List Char → Option (List JsonValue × List Char)
  | 0, _ => none
  | fuel + 1, cs => do
    let (v, r) ← value? fuel cs
    match skipBlanks r with
    | ',' :: r' =>
      let (vs, r'') ← items? fuel r'
      return (v :: vs, r'')
    | ']' :: r' => return ([v], r')
    | _ => none

/-- The members of an object up to its closing brace. -/
def members? : Nat → List Char → Option (List (Option String × JsonValue) × List Char)
  | 0, _ => none
  | fuel + 1, cs =>
    match skipBlanks cs with
    | '"' :: rest => do
      let (k, r) ← string? rest
      match skipBlanks r with
      | ':' :: r =>
        let (v, r) ← value? fuel r
        match skipBlanks r with
        | ',' :: r' =>
          let (ms, r'') ← members? fuel r'
          return ((k, v) :: ms, r'')
        | '\x7d' :: r' => return ([(k, v)], r')
        | _ => none
      | _ => none
    | _ => none

end

/-- The document a text holds. Every step of the reader takes a character, so twice the length of
the text is enough steps. -/
def ofText? (s : String) : Option JsonValue := do
  let (v, rest) ← value? (2 * s.length + 2) s.toList
  if (skipBlanks rest).isEmpty then some v else none

/-! ## Typed views -/

def asText? : JsonValue → Option String
  | .string s => s
  | _ => none

/-- The value of a number below `size` that is written with digits alone. -/
def asNat? (size : Nat) : JsonValue → Option Nat
  | .number text => (Decimal.read? text.toList).filter (· < size)
  | _ => none

/-- The text of a document that is a single string. -/
def textDocument? (s : String) : Option String :=
  (ofText? s).bind asText?

end TokenOverlay.JsonValue
