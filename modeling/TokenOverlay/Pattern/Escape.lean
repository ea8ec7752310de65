/-
Escapes in patterns. Some mean the same inside of brackets and elsewhere; anchors and references
stand only outside, and there their letters lose the meaning that they have as characters.
-/
import TokenOverlay.Pattern.Bracket
import TokenOverlay.Pattern.Reading
import TokenOverlay.Text.Hex

namespace TokenOverlay.Pattern

open Read

/-! ## Escapes -/

/-- What an escape stands for. -/
inductive Escape
  | char (c : Char) (fold : Bool)
  | set (s : CharSet) (fold : Bool)
  | hexDigit (negated : Bool)
  | node (n : Node)

/-- The value of hex digits. -/
def hexValue? (digits : List Char) : Option Nat :=
  digits.foldlM (fun n c => (Hex.value? c).map (16 * n + ·)) 0

/-- The character with the given number. -/
def scalar? (n : Nat) : Option Char :=
  if n.isValidChar then some (Char.ofNat n) else none

/-- A character given by `width` hex digits, or by one to eight in braces. -/
def hexEscape? (width : Nat) (cs : List Char) : Option (Char × List Char) :=
  let digits := cs.take width
  if digits.length = width ∧ digits.all Hex.isDigit then do
    let c ← (hexValue? digits).bind scalar?
    return (c, cs.drop width)
  else match cs with
    | '\x7b' :: cs =>
      let digits := cs.takeWhile Hex.isDigit
      match cs.dropWhile Hex.isDigit with
      | '\x7d' :: rest =>
        if digits.isEmpty ∨ 8 < digits.length then none
        else do
          let c ← (hexValue? digits).bind scalar?
          return (c, rest)
      | _ => none
    | _ => none

/-- What stands before and after the first place of a sign, given what was passed, in reverse. -/
def splitAt? (sign : List Char) (passed : List Char) : List Char → Option (String × String)
  | [] => none
  | c :: cs =>
    if sign.isPrefixOf (c :: cs) then
      some (String.ofList passed.reverse, String.ofList ((c :: cs).drop sign.length))
    else splitAt? sign (c :: passed) cs

/-- The set of characters that a name in braces stands for. -/
def propertyNamed? (negated : Bool) (name : List Char) : Option CharSet :=
  match splitAt? ['!', '='] [] name with
  | some (a, v) => (Unicode.valued? a v).map fun r => .named r !negated
  | none =>
    match (splitAt? [':'] [] name).or (splitAt? ['='] [] name) with
    | some (a, v) => (Unicode.valued? a v).map fun r => .named r negated
    | none => (Unicode.named? (String.ofList name)).map fun r => .named r negated

/-- The set of characters that a one-letter name or a name in braces stands for. -/
def property? (negated : Bool) : List Char → Option (CharSet × List Char)
  | '\x7b' :: cs =>
    match cs.dropWhile (· != '\x7d') with
    | _ :: rest => (propertyNamed? negated (cs.takeWhile (· != '\x7d'))).map (·, rest)
    | [] => none
  | c :: rest => (Unicode.named? (String.singleton c)).map fun r => (.named r negated, rest)
  | [] => none

/-- The characters that letters stand for, inside of brackets and elsewhere. -/
def controlChar? (c : Char) : Option Char :=
  match c with
  | 'a' => some '\x07'
  | 'b' => some '\x08'
  | 'f' => some '\x0c'
  | 'n' => some '\n'
  | 'r' => some '\r'
  | 't' => some '\t'
  | 'v' => some '\x0b'
  | 'e' => some '\x1b'
  | _ => none

/-- The letters that mean something only outside of brackets, and inside stand for themselves. -/
def isOutsideLetter (c : Char) : Bool :=
  ['k', 'A', 'z', 'b', 'B', 'K', 'G'].contains c

/-- A reference by name after its letter. -/
def letterReference : Read Node := do
  match ← rest with
  | '\'' :: _ => namedReference ['\''] '\'' true
  | _ => namedReference ['<'] '>' true

/-- An anchor whose letter may not be followed by a brace. -/
def bareAnchor (a : Anchor) : Read Node := do
  match ← rest with
  | '\x7b' :: _ => failure
  | _ => return .anchor a

/-- The part that an escape stands for outside of brackets only. -/
def outsideEscape? (c : Char) : Option (Read Node) :=
  match c with
  | 'k' => some letterReference
  | 'A' => some (return .anchor .textStart)
  | 'z' => some (return .anchor .textEnd)
  | 'b' => some (bareAnchor .wordEdge)
  | 'B' => some (bareAnchor .notWordEdge)
  | '<' => some (return .anchor .wordStart)
  | '>' => some (return .anchor .wordEnd)
  | 'K' => some (return .forget)
  | 'G' => some (return .searchStart)
  | _ => none

/-- An escape that means the same inside of brackets and elsewhere. -/
def commonEscape (c : Char) : Read Escape := do
  let f ← flags
  match c with
  | 'd' => return .set (.named Unicode.digit false) f.fold
  | 'D' => return .set (.named Unicode.digit true) f.fold
  | 's' => return .set (.named Unicode.space false) f.fold
  | 'S' => return .set (.named Unicode.space true) f.fold
  | 'w' => return .set (.named Unicode.word false) f.fold
  | 'W' => return .set (.named Unicode.word true) f.fold
  | 'h' => return .hexDigit false
  | 'H' => return .hexDigit true
  | 'x' => return .char (← take (hexEscape? 2 (← rest))) f.fold
  | 'u' => return .char (← take (hexEscape? 4 (← rest))) f.fold
  | 'U' => return .char (← take (hexEscape? 8 (← rest))) f.fold
  | 'p' => return .set (← take (property? false (← rest))) f.fold
  | 'P' => return .set (← take (property? true (← rest))) f.fold
  | _ =>
    match controlChar? c with
    | some d => return .char d false
    | none => if c.isAlpha && !isOutsideLetter c then failure else return .char c false

/-- The escape after a backslash. -/
def escape (length : Nat) (inBrackets : Bool) : Read Escape := do
  match ← rest with
  | [] => failure
  | c :: cs =>
    if c.isDigit then return .node (← numberedReference length)
    else
      setRest cs
      match if inBrackets then none else outsideEscape? c with
      | some read => return .node (← read)
      | none => commonEscape c

/-- The text of the set of hex digits. -/
def hexDigitTokens (negated : Bool) : List BracketToken :=
  (if negated then "[^0-9A-Fa-f]" else "[0-9A-Fa-f]").toList.map .raw

/-! ## Brackets -/

/-- The tokens up to the bracket that closes the given number of opening ones, after those that are
done, the last of which comes first. -/
def bracketTokens (length : Nat) : Nat → Nat → List BracketToken → Read (List BracketToken)
  | 0, _, _ => failure
  | fuel + 1, depth, done => do
    match ← rest with
    | [] => failure
    | '\\' :: cs =>
      setRest cs
      let tokens ← match ← escape length true with
        | .char c _ => pure [.ofEscaped c]
        | .set s _ => pure [.charSet s]
        | .hexDigit negated => pure (hexDigitTokens negated)
        | .node _ => failure
      bracketTokens length fuel depth (tokens.reverse ++ done)
    | c :: cs =>
      setRest cs
      let done := .raw c :: done
      if c = '[' then bracketTokens length fuel (depth + 1) done
      else if c = ']' then
        if depth ≤ 1 then return done.reverse else bracketTokens length fuel (depth - 1) done
      else bracketTokens length fuel depth done

/-- A bracket expression after its opening bracket. A closing bracket right at the front stands for
itself. -/
def brackets (length : Nat) : Read CharSet := do
  let cs ← rest
  let (front, cs) := match cs with
    | '^' :: ']' :: cs => ([.raw ']', .raw '^'], cs)
    | '^' :: cs => ([.raw '^'], cs)
    | ']' :: cs => ([.raw ']'], cs)
    | cs => ([], cs)
  setRest cs
  let tokens ← bracketTokens length (length + 1) 1 front
  CharSet.ofTokens? tokens

end TokenOverlay.Pattern
