/-
Diagnostics. A function that notes why it passed something over returns its notes beside its
result, in the order in which they arose; nothing is printed here.
-/
namespace TokenOverlay

inductive Log.Level
  | debug
  | warn
  deriving DecidableEq, Repr

/-- A diagnostic note. -/
structure Log where
  level : Log.Level
  text : String
  deriving DecidableEq, Repr

namespace Log

def debug (text : String) : Log := ⟨.debug, text⟩

def warn (text : String) : Log := ⟨.warn, text⟩

/-- The level in capitals and the text. -/
def line (l : Log) : String :=
  match l.level with
  | .debug => s!"DEBUG {l.text}"
  | .warn => s!"WARN {l.text}"

end Log

end TokenOverlay
