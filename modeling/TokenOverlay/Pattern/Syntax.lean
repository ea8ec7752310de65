/-
The syntax of name patterns: regular expressions over characters, with look-around, references to
groups, atomic groups and conditions besides the regular operators. Every group carries its number,
counted from the left.
-/
import TokenOverlay.Unicode.Folding
import TokenOverlay.Unicode.Property

namespace TokenOverlay.Pattern

/-! ## Sets of characters -/

/-- How two sets in brackets are combined. -/
inductive SetOp
  | intersection
  | difference
  | symmetricDifference
  deriving DecidableEq, Repr

/-- A set of characters as a bracket expression builds it. -/
inductive CharSet
  /-- No character. -/
  | nothing
  /-- The characters from one to another. -/
  | range (low high : Char)
  /-- The characters in or outside of a set with a name. -/
  | named (set : Unicode.Ranges) (negated : Bool)
  | union (a b : CharSet)
  | combine (op : SetOp) (a b : CharSet)
  /-- A set in brackets of its own. -/
  | bracket (negated : Bool) (set : CharSet)

namespace CharSet

/-- Whether a set with some membership test holds a character; with case folding, the character or
one that differs from it in case alone. -/
def folded (fold : Bool) (holds : Char → Bool) (c : Char) : Bool :=
  if fold then (Unicode.folds c).any holds else holds c

/-- Whether a set holds a character. Case is folded before a set is negated or combined. -/
def contains (fold : Bool) : CharSet → Char → Bool
  | nothing, _ => false
  | range low high, c => low ≤ c && c ≤ high
  | named set negated, c => folded fold set.contains c != negated
  | union a b, c => a.contains fold c || b.contains fold c
  | combine op a b, c =>
    let inA := folded fold (a.contains fold) c
    let inB := folded fold (b.contains fold) c
    match op with
    | .intersection => inA && inB
    | .difference => inA && !inB
    | .symmetricDifference => inA != inB
  | bracket negated set, c => folded fold (set.contains fold) c != negated

end CharSet

/-! ## Parts of one character, and of none -/

/-- A part of a pattern that takes exactly one character. -/
inductive Atom
  /-- A character, perhaps in either case. -/
  | char (c : Char) (fold : Bool)
  /-- Any character, perhaps with the exception of a newline. -/
  | any (newline : Bool)
  | set (s : CharSet) (fold : Bool)

/-- Whether an atom takes a character. -/
def Atom.takes : Atom → Char → Bool
  | char c fold, d => CharSet.folded fold (· == c) d
  | any newline, d => newline || d != '\n'
  | set s fold, d => s.contains fold d

/-- A condition on a place between two characters. -/
inductive Anchor
  | textStart
  | textEnd
  | lineStart
  | lineEnd
  | wordEdge
  | notWordEdge
  | wordStart
  | wordEnd
  deriving DecidableEq, Repr

namespace Anchor

/-- Anchors that tell words apart. -/
def seesWords : Anchor → Bool
  | wordEdge | notWordEdge | wordStart | wordEnd => true
  | _ => false

/-- Whether an anchor holds between a character and the next one; at either end of the text there is
none. -/
def holds (before after : Option Char) (a : Anchor) : Bool :=
  let inWord (c : Option Char) := c.any Unicode.word.contains
  match a with
  | textStart => before.isNone
  | textEnd => after.isNone
  | lineStart => before.isNone || before == some '\n'
  | lineEnd => after.isNone || after == some '\n'
  | wordEdge => inWord before != inWord after
  | notWordEdge => inWord before == inWord after
  | wordStart => !inWord before && inWord after
  | wordEnd => inWord before && !inWord after

/-- Whether an anchor holds before the character with the given number. -/
def holdsAt (text : Array Char) (i : Nat) (a : Anchor) : Bool :=
  a.holds (if i = 0 then none else text[i - 1]?) text[i]?

end Anchor

/-! ## Patterns -/

/-- Where and how look-around looks. -/
structure Look where
  behind : Bool
  negative : Bool
  deriving DecidableEq, Repr

inductive Node
  | empty
  | atom (a : Atom)
  | anchor (a : Anchor)
  | sequence (parts : List Node)
  | choice (branches : List Node)
  | group (number : Nat) (body : Node)
  /-- A body repeated between two numbers of times, the second of which may be missing. -/
  | times (body : Node) (least : Nat) (most : Option Nat) (greedy : Bool)
  | look (kind : Look) (body : Node)
  /-- What a group matched. -/
  | reference (number : Nat)
  | atomic (body : Node)
  /-- Leaves what was matched so far out of the match; this changes nothing in whether there is one. -/
  | forget
  /-- The place where the search began. -/
  | searchStart
  /-- Whether a group took part in the match. -/
  | matched (number : Nat)
  | conditional (test yes no : Node)
  deriving Inhabited

namespace Node

def isEmpty : Node → Bool
  | empty => true
  | _ => false

/-- Whether a quantifier may follow a node. -/
def isRepeatable : Node → Bool
  | empty | anchor _ | look .. => false
  | _ => true

/-! ## Length -/

mutual

/-- The least number of characters that a node takes; look-around and references count as none. -/
def minLength : Node → Nat
  | atom _ => 1
  | sequence parts => totalMinLength 0 parts
  | choice branches => leastMinLength none branches
  | group _ body | atomic body => body.minLength
  | times body least _ _ => body.minLength * least
  | conditional test yes no => test.minLength + min yes.minLength no.minLength
  | _ => 0

/-- The least length of parts in a row, on top of a length. -/
def totalMinLength (length : Nat) : List Node → Nat
  | [] => length
  | n :: rest => totalMinLength (length + n.minLength) rest

/-- The least length of any of some branches, and of one more if it is given. -/
def leastMinLength (length? : Option Nat) : List Node → Nat
  | [] => length?.getD 0
  | n :: rest =>
    let length := n.minLength
    leastMinLength (some ((length?.map (min length)).getD length)) rest

end

mutual

/-- Whether a node takes the same number of characters in every match. -/
def hasFixedLength : Node → Bool
  | empty | atom _ | anchor _ | look .. | forget | searchStart | matched _ => true
  | sequence parts => allFixed parts
  | choice branches => allFixed branches && sameMinLength branches
  | group _ body | atomic body => body.hasFixedLength
  | times body least most _ => body.hasFixedLength && most == some least
  | reference _ => false
  | conditional test yes no =>
    test.hasFixedLength && yes.hasFixedLength && no.hasFixedLength &&
      test.minLength + yes.minLength == no.minLength

def allFixed : List Node → Bool
  | [] => true
  | n :: rest => n.hasFixedLength && allFixed rest

/-- Whether all nodes of a list have the same least length. -/
def sameMinLength : List Node → Bool
  | [] => true
  | n :: rest => rest.all fun m => m.minLength == n.minLength

end

/-! ## Regular parts -/

mutual

/-- Whether a node is beyond a finite automaton: it looks around, tells words apart, or holds a
reference or a group that one of the given references names. -/
def isHard (referenced : List Nat) : Node → Bool
  | empty | atom _ => false
  | anchor a => a.seesWords
  | sequence parts => anyHard referenced parts
  | choice branches => anyHard referenced branches
  | group number body => body.isHard referenced || referenced.contains number
  | times body _ _ _ => body.isHard referenced
  | _ => true

def anyHard (referenced : List Nat) : List Node → Bool
  | [] => false
  | n :: rest => n.isHard referenced || anyHard referenced rest

end

end Node

end TokenOverlay.Pattern
