/-
Reading the text of a pattern step by step: what a reader knows at a place, the blanks it passes
over, and the numbers, names and references that stand in several kinds of parts.
-/
import TokenOverlay.Pattern.Syntax
import TokenOverlay.Text.Decimal

namespace TokenOverlay.Pattern

/-! ## State -/

structure Flags where
  /-- Letters match in either case. -/
  fold : Bool := false
  /-- Anchors of the text hold at every line. -/
  lines : Bool := false
  /-- A point matches a newline too. -/
  dotAll : Bool := false
  /-- Quantifiers are lazy, and those marked lazy are not. -/
  lazy : Bool := false
  /-- Blanks and comments between parts do not matter. -/
  free : Bool := false
  deriving DecidableEq, Repr

/-- What a reader knows at a place in the text. -/
structure Reading where
  rest : List Char
  /-- How often something was taken from the text; two equal counts mean the same place. -/
  taken : Nat := 0
  flags : Flags := {}
  /-- The number of groups opened so far. -/
  groups : Nat := 0
  /-- The names of groups, the last one first. -/
  names : List (String × Nat) := []
  /-- The groups that references name. -/
  referenced : List Nat := []
  /-- Whether a reference gave the number of its group. -/
  byNumber : Bool := false

/-- A step of a reader; it fails where the text is no pattern. -/
abbrev Read := StateT Reading Option

namespace Read

def rest : Read (List Char) := return (← get).rest

def flags : Read Flags := return (← get).flags

/-- The number of times that something was taken. -/
def taken : Read Nat := return (← get).taken

/-- Goes on to what follows something that is taken. -/
def setRest (cs : List Char) : Read Unit :=
  modify fun s => { s with rest := cs, taken := s.taken + 1 }

def setFlags (f : Flags) : Read Unit := modify fun s => { s with flags := f }

/-- Takes the result of a function on the text that follows. -/
def take (r : Option (α × List Char)) : Read α := do
  let (a, cs) ← r
  setRest cs
  return a

/-- Takes the given character. -/
def expect (c : Char) : Read Unit := do
  match ← rest with
  | d :: cs => if c = d then setRest cs else failure
  | [] => failure

/-- Opens a group and gives it the next number. -/
def openGroup : Read Nat := do
  modify fun s => { s with groups := s.groups + 1 }
  return (← get).groups

/-- Notes that a reference names a group. -/
def refer (group : Nat) : Read Node := do
  modify fun s => { s with referenced := group :: s.referenced }
  return .reference group

end Read

open Read

/-! ## Blanks -/

/-- Where a reader stands that skips blanks. -/
inductive Skipping
  | between
  /-- In a comment that ends with its line. -/
  | onLine
  /-- In a comment in parentheses. -/
  | inParentheses
  /-- In such a comment, after a backslash. -/
  | escaped

/-- Where text is free, whether a character is blank or begins a comment. -/
def isBlank (free : Bool) (c : Char) : Bool :=
  free && (c == '#' || c == ' ' || c == '\r' || c == '\n' || c == '\t')

/-- What follows comments in parentheses and, where text is free, blanks and comments on lines. -/
def afterBlanks? (free : Bool) : Skipping → List Char → Option (List Char)
  | .between, [] | .onLine, [] => some []
  | .inParentheses, [] | .escaped, [] => none
  | .between, '(' :: '?' :: '#' :: rest => afterBlanks? free .inParentheses rest
  | .between, c :: rest =>
    if isBlank free c then afterBlanks? free (if c == '#' then .onLine else .between) rest
    else some (c :: rest)
  | .onLine, c :: rest => afterBlanks? free (if c == '\n' then .between else .onLine) rest
  | .inParentheses, c :: rest =>
    afterBlanks? free (if c == '\\' then .escaped else if c == ')' then .between else .inParentheses)
      rest
  | .escaped, _ :: rest => afterBlanks? free .inParentheses rest

/-- Whether there is something to skip. -/
def startsBlank (free : Bool) : List Char → Bool
  | '(' :: '?' :: '#' :: _ => true
  | c :: _ => isBlank free c
  | [] => false

def blanks : Read Unit := do
  let free := (← flags).free
  if startsBlank free (← rest) then setRest (← afterBlanks? free .between (← rest))

/-- Takes a closing parenthesis after blanks. -/
def close : Read Unit := do
  blanks
  expect ')'

/-! ## Numbers and names -/

/-- The digits at the front of a text as a number that fits a word. -/
def number? (cs : List Char) : Option (Nat × List Char) :=
  match Decimal.read? (cs.takeWhile Char.isDigit) with
  | some n => if n < UInt64.size then some (n, cs.dropWhile Char.isDigit) else none
  | none => none

/-- The bounds of a quantifier after its opening brace. The greatest number there is stands for no
bound. -/
def bounds? (free : Bool) (cs : List Char) : Option ((Nat × Option Nat) × List Char) := do
  let cs ← afterBlanks? free .between cs
  let (least, cs) ← match cs with
    | ',' :: _ => some (0, cs)
    | _ => number? cs
  let cs ← afterBlanks? free .between cs
  let (most, cs) ← match cs with
    | '\x7d' :: _ => some (least, cs)
    | ',' :: cs => (afterBlanks? free .between cs).map fun cs => (number? cs).getD (UInt64.size - 1, cs)
    | _ => none
  match ← afterBlanks? free .between cs with
  | '\x7d' :: cs => return ((least, if most = UInt64.size - 1 then none else some most), cs)
  | _ => none

def isNameChar (c : Char) : Bool :=
  c == '_' || Unicode.alphanumeric.contains c

/-- A name between two marks, the first of which may be missing. -/
def name? (opening : List Char) (closing : Char) (cs : List Char) :
    Option (List Char × List Char) :=
  if opening.isPrefixOf cs then
    let cs := cs.drop opening.length
    match cs.takeWhile isNameChar, cs.dropWhile isNameChar with
    | c :: name, d :: rest => if d = closing then some (c :: name, rest) else none
    | _, _ => none
  else none

/-- A number counted back from the group opened last, between two marks. -/
def relative? (opening : List Char) (closing : Char) (cs : List Char) :
    Option (Nat × List Char) := do
  let (name, rest) ← name? (opening ++ ['-']) closing cs
  let n ← Decimal.read? name
  return (n, rest)

/-! ## References -/

/-- A reference to a group by name, or by number in the place of a name. -/
def namedReference (opening : List Char) (closing : Char) (allowRelative : Bool) : Read Node := do
  let cs ← rest
  let s ← get
  match name? opening closing cs with
  | some (name, rest) =>
    setRest rest
    match s.names.lookup (String.ofList name) with
    | some group => refer group
    | none =>
      let group ← Decimal.read? name
      refer group
  | none =>
    if allowRelative then
      let (n, rest) ← relative? opening closing cs
      setRest rest
      if n ≤ s.groups + 1 then refer (s.groups + 1 - n) else failure
    else failure

/-- A reference to a group by number, which must be less than half of the length of the text. -/
def numberedReference (length : Nat) : Read Node := do
  let group ← take (number? (← rest))
  if group < length / 2 then
    modify fun s => { s with byNumber := true }
    refer group
  else failure

end TokenOverlay.Pattern
