/-
Patterns of names. The text of a pattern is put between anchors as it stands and then read as a
whole, and what was read is looked for in a name. A regular pattern is run by an automaton in linear
time, any other by backtracking, which may give up.
-/
import TokenOverlay.Pattern.Machine
import TokenOverlay.Pattern.Reader

namespace TokenOverlay.Pattern

/-- What looks for a pattern in a text. -/
inductive Matcher
  | automaton (m : Automaton)
  | program (p : Program)

namespace Matcher

variable [SizeLimit]

/-- Reads a pattern and makes its matcher. -/
def ofText? (s : String) : Option Matcher := do
  let source ← Source.ofText? s
  if source.node.isHard source.referenced then
    return .program (← Program.ofNode? source.referenced source.groups source.node)
  else
    return .automaton (← Automaton.ofParts? [source.node])

/-- Whether the pattern matches anywhere in a text. -/
def finds (m : Matcher) (s : String) : Except Fault Bool :=
  let text := s.toList.toArray
  match m with
  | automaton m => .ok (m.finds text)
  | program p => Machine.finds p text

end Matcher

/-- The text of a pattern between the anchors of a whole name. -/
def anchored (s : String) : String :=
  "^(?:" ++ s ++ ")$"

end TokenOverlay.Pattern
