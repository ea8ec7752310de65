/-
Texts that may end in one newline. The grammars of names and of work requirements leave a single
final newline out of account.
-/
namespace TokenOverlay.Line

/-- The characters without one final newline. -/
def core (cs : List Char) : List Char :=
  if cs.getLast? = some '\n' then cs.dropLast else cs

/-- A lower-case ASCII letter. -/
def isLower (c : Char) : Bool :=
  'a' ≤ c && c ≤ 'z'

/-- A lower-case ASCII letter or a digit. -/
def isLowerOrDigit (c : Char) : Bool :=
  isLower c || c.isDigit

end TokenOverlay.Line
