/-
The rules of a parent realm for its subrealms. A rule says which names it is for, by a pattern for
the whole name, and what is to be paid for such a name.
-/
import TokenOverlay.Chain.Transaction
import TokenOverlay.Pattern
import TokenOverlay.Payload.Value

namespace TokenOverlay.Subrealm

/-! ## Payments -/

/-- A payment that a rule asks for. -/
structure Price where
  /-- The hex of the script to pay to, as the rule spells it. -/
  scriptHex : String
  least : UInt64
  deriving DecidableEq, Repr

/-- Whether an output makes a payment. Only a script in plain lower-case hex can be paid. -/
def Price.isMetBy (p : Price) (o : Output) : Bool :=
  Hex.text o.script == p.scriptHex && p.least ≤ o.value

/-! ## Rules -/

section

variable [Pattern.SizeLimit]

structure Rule where
  pattern : String
  matcher : Pattern.Matcher
  prices : List Price
  /-- The matcher is the one of the pattern between anchors. -/
  matcher_eq : Pattern.Matcher.ofText? (Pattern.anchored pattern) = some matcher

namespace Rule

/-- Rules with equal patterns and prices are equal. -/
instance : BEq Rule where
  beq a b := a.pattern == b.pattern && a.prices == b.prices

/-- The rule of a pattern, if it is a pattern. -/
def ofPattern? (pattern : String) (prices : List Price) : Option Rule :=
  match h : Pattern.Matcher.ofText? (Pattern.anchored pattern) with
  | some matcher => some ⟨pattern, matcher, prices, h⟩
  | none => none

/-- Whether a rule is for a name. -/
def accepts (r : Rule) (name : String) : Except Fault Bool :=
  r.matcher.finds name

/-- Whether a transaction makes all payments of a rule. -/
def isPaidBy (r : Rule) (tx : Transaction) : Bool :=
  r.prices.all fun p => tx.outputs.any p.isMetBy

end Rule

end

/-! ## Patterns -/

/-- How numbers read as patterns: the fewest digits, a tie going up, positional from `1e-4` below
`1e16`, otherwise with a signed exponent of at least two digits. -/
def patternNumbers : Binary64.Layout where
  tie := .up
  minPositional := -4
  maxPositional := 15
  plus := "+"
  exponentDigits := 2
  infinity := "inf"
  notANumber := "nan"

/-- The pattern that a scalar reads as. -/
def patternOf? : Payload.Value → Option String
  | .text s => some s
  | .int n => some (toString n)
  | .bool b => some (if b then "True" else "False")
  | .float x => some (patternNumbers.text x)
  | _ => none

end TokenOverlay.Subrealm
