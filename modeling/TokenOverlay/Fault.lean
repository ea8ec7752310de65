/-
Faults: states that no sound index hands over, and numbers that leave their range. A fault is not
an answer about a transaction; it says that no answer can be given.
-/
namespace TokenOverlay

inductive Fault
  /-- A sum of heights is beyond a word. -/
  | heightOverflow
  /-- A located operation names a commit location that is not the outpoint it was committed at. -/
  | commitMismatch
  /-- A non-fungible token does not come from exactly one input. -/
  | notSpentOnce
  /-- A drafted transaction has no room for what is asked of it. -/
  | draftOverflow
  /-- A pattern refers to a group that was entered again beyond the place where it last ended. -/
  | staleGroup
  deriving DecidableEq, Repr

end TokenOverlay
