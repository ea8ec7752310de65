/-
Reading patterns. A quantifier takes the one part before it; a brace that begins no quantifier
stands for itself. Flags set in the middle of a part hold from there on; a group with flags of its
own restores the flags that held before it. Whether references name groups is known only at the end.
-/
import TokenOverlay.Pattern.Escape

namespace TokenOverlay.Pattern

open Read

/-! ## Parts -/

/-- The part that an escape stands for. -/
def Escape.toNode : Escape → Node
  | char c fold => .atom (.char c fold)
  | set s fold => .atom (.set s fold)
  | hexDigit negated =>
    .atom (.set (.bracket negated (.union (.range '0' '9') (.union (.range 'A' 'F') (.range 'a' 'f')))) false)
  | node n => n

/-- What a quantifier asks for, and what follows it. -/
def quantifier? (free : Bool) : List Char → Option ((Nat × Option Nat) × List Char)
  | '?' :: cs => some ((0, some 1), cs)
  | '*' :: cs => some ((0, none), cs)
  | '+' :: cs => some ((1, none), cs)
  | '\x7b' :: cs => bounds? free cs
  | _ => none

/-- A part with the quantifier that follows it, if one does. -/
def quantified (part : Node) : Read Node := do
  blanks
  let f ← flags
  match quantifier? f.free (← rest) with
  | none => return part
  | some ((least, most), cs) =>
    if !part.isRepeatable then failure
    setRest cs
    blanks
    let lazy ← match ← rest with
      | '?' :: cs => do setRest cs; pure true
      | _ => pure false
    let node := Node.times part least most (lazy == f.lazy)
    match ← rest with
    | '+' :: cs => do setRest cs; return .atomic node
    | _ => return node

/-- Parts in a row. -/
def Node.ofParts : List Node → Node
  | [] => .empty
  | [n] => n
  | ns => .sequence ns

/-- The most groups that may stand in each other. -/
def maxDepth : Nat := 64

/-- A flag that a letter sets or clears. -/
def Flags.change? (f : Flags) (on : Bool) (c : Char) : Option Flags :=
  match c with
  | 'i' => some { f with fold := on }
  | 'm' => some { f with lines := on }
  | 's' => some { f with dotAll := on }
  | 'U' => some { f with lazy := on }
  | 'x' => some { f with free := on }
  | 'u' => if on then some f else none
  | _ => none

/-- Letters of flags up to a closing parenthesis or a colon, which is the result. `bare` says that
nothing stood before, `dashed` that the character before is the hyphen that turns to clearing. -/
def flagLetters : Nat → (on bare dashed : Bool) → Read Char
  | 0, _, _, _ => failure
  | fuel + 1, on, bare, dashed => do
    let before ← taken
    blanks
    let moved := before < (← taken)
    match ← rest with
    | [] => failure
    | '-' :: cs =>
      if !on then failure
      setRest cs
      flagLetters fuel false false true
    | ')' :: cs =>
      if (bare && !moved) || (dashed && !moved) then failure
      setRest cs
      return ')'
    | ':' :: cs =>
      if dashed && !moved then failure
      setRest cs
      return ':'
    | c :: cs =>
      match (← flags).change? on c with
      | none => failure
      | some f =>
        setFlags f
        setRest cs
        flagLetters fuel on false false

/-- How a group begins, after its opening parenthesis. -/
inductive GroupKind
  | look (kind : Look)
  | atomic
  /-- A group with a number and perhaps a name. -/
  | capture
  | named (opening : Char) (closing : Char)
  /-- A reference by name in the form of a group. -/
  | reference
  | conditional
  | flags
  deriving DecidableEq, Repr

/-- The kind of a group and what follows the mark of it. -/
def groupKind : List Char → GroupKind × List Char
  | '?' :: '=' :: cs => (.look ⟨false, false⟩, cs)
  | '?' :: '!' :: cs => (.look ⟨false, true⟩, cs)
  | '?' :: '<' :: '=' :: cs => (.look ⟨true, false⟩, cs)
  | '?' :: '<' :: '!' :: cs => (.look ⟨true, true⟩, cs)
  | '?' :: '<' :: cs => (.named '<' '>', '<' :: cs)
  | '?' :: '\'' :: cs => (.named '\'' '\'', '\'' :: cs)
  | '?' :: 'P' :: '<' :: cs => (.named '<' '>', '<' :: cs)
  | '?' :: 'P' :: '=' :: cs => (.reference, cs)
  | '?' :: '>' :: cs => (.atomic, cs)
  | '?' :: '(' :: cs => (.conditional, cs)
  | '?' :: cs => (.flags, cs)
  | cs => (.capture, cs)

/-- A condition whose body is `body`: the first branch is taken where the condition holds, the
others where it does not. -/
def Node.ofCondition (test body : Node) : Node :=
  let test := match test with
    | .reference n => .matched n
    | other => other
  let (yes, no) := match body with
    | .choice (yes :: [no]) => (yes, no)
    | .choice (yes :: rest) => (yes, .choice rest)
    | other => (other, .empty)
  if yes.isEmpty && no.isEmpty then test else .conditional test yes no

mutual

/-- Branches with bars between them. A pattern that numbers its references may not name groups. -/
def branches (length : Nat) : Nat → Nat → Read Node
  | 0, _ => failure
  | fuel + 1, depth => do
    let first ← parts length fuel depth []
    blanks
    match ← rest with
    | '|' :: _ => moreBranches length fuel depth [first]
    | _ =>
      let s ← get
      if s.byNumber && !s.names.isEmpty then failure
      return first

/-- The choice between branches that are done, the last one first, and those that follow, each with a
bar before it. -/
def moreBranches (length : Nat) : Nat → Nat → List Node → Read Node
  | 0, _, _ => failure
  | fuel + 1, depth, done => do
    match ← rest with
    | '|' :: cs =>
      setRest cs
      let branch ← parts length fuel depth []
      blanks
      moreBranches length fuel depth (branch :: done)
    | _ => return .choice done.reverse

/-- The parts of a branch, up to where no part begins. -/
def parts (length : Nat) : Nat → Nat → List Node → Read Node
  | 0, _, _ => failure
  | fuel + 1, depth, done => do
    let before ← taken
    if (← rest).isEmpty then return .ofParts done.reverse
    let node ← atom length fuel depth
    let node ← quantified node
    if (← taken) = before then return .ofParts done.reverse
    parts length fuel depth (if node.isEmpty then done else node :: done)

/-- One part without a quantifier. Where no part begins it is empty. -/
def atom (length : Nat) : Nat → Nat → Read Node
  | 0, _ => failure
  | fuel + 1, depth => do
    blanks
    let f ← flags
    match ← rest with
    | [] => return .empty
    | c :: cs =>
      if ['+', '*', '?', '|', ')'].contains c then return .empty
      setRest cs
      match c with
      | '.' => return .atom (.any f.dotAll)
      | '^' => return .anchor (if f.lines then .lineStart else .textStart)
      | '$' => return .anchor (if f.lines then .lineEnd else .textEnd)
      | '(' => group length fuel (depth + 1)
      | '\\' => return (← escape length false).toNode
      | '[' => return .atom (.set (← brackets length) f.fold)
      | c => return .atom (.char c f.fold)

/-- A group after its opening parenthesis. -/
def group (length : Nat) : Nat → Nat → Read Node
  | 0, _ => failure
  | fuel + 1, depth => do
    if maxDepth ≤ depth then failure
    blanks
    let (kind, cs) := groupKind (← rest)
    setRest cs
    match kind with
    | .look kind =>
      let body ← branches length fuel depth
      close
      return .look kind body
    | .atomic =>
      let body ← branches length fuel depth
      close
      return .atomic body
    | .capture =>
      let number ← openGroup
      let body ← branches length fuel depth
      close
      return .group number body
    | .named opening closing =>
      let number ← openGroup
      let name ← take (name? [opening] closing (← rest))
      modify fun s => { s with names := (String.ofList name, number) :: s.names }
      let body ← branches length fuel depth
      close
      return .group number body
    | .reference => namedReference [] ')' false
    | .conditional => conditional length fuel depth
    | .flags =>
      let old ← flags
      match ← flagLetters (length + 1) true true false with
      | ':' =>
        let body ← branches length fuel depth
        expect ')'
        setFlags old
        return body
      | _ => return .empty

/-- A condition after both of its opening parentheses. -/
def conditional (length : Nat) : Nat → Nat → Read Node
  | 0, _ => failure
  | fuel + 1, depth => do
    let test ← match ← rest with
      | [] => failure
      | c :: _ =>
        if c.isDigit then numberedReference length
        else if c = '\'' then namedReference ['\''] '\'' true
        else if c = '<' then namedReference ['<'] '>' true
        else branches length fuel depth
    close
    let before ← taken
    let body ← branches length fuel depth
    if (← taken) = before then
      match test with
      | .reference number =>
        close
        return .matched number
      | _ => failure
    else
      close
      return .ofCondition test body

end

/-! ## Whole patterns -/

/-- A pattern as read: its syntax, the number of its groups, and those that it refers to. -/
structure Source where
  node : Node
  groups : Nat
  referenced : List Nat

/-- Reads a whole text. Every reference must name a group of the pattern, and none the whole match.
Every step of the reader goes at most a few steps deeper for each character that it takes. -/
def Source.ofText? (s : String) : Option Source := do
  let (node, r) ← (branches s.utf8ByteSize (10 * s.length + 20) 0).run { rest := s.toList }
  if r.rest.isEmpty && r.referenced.all fun n => 0 < n && n ≤ r.groups then
    some ⟨node, r.groups, r.referenced⟩
  else none

end TokenOverlay.Pattern
