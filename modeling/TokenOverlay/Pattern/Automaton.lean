/-
Finite automata for the regular parts of patterns. A run keeps the states that are reached at a
place in order of preference and each of them once, so it takes time in proportion to the text and
the automaton; the states after one that accepts are dropped, so the match is the one that a search
with backtracking would find first.
-/
import TokenOverlay.Pattern.Syntax

namespace TokenOverlay.Pattern

/-- A state of an automaton. -/
inductive State
  /-- Takes a character. -/
  | atom (a : Atom) (next : Nat)
  | anchor (a : Anchor) (next : Nat)
  /-- Goes on in two ways, the first of which is preferred. -/
  | split (first second : Nat)
  | accept
  | fail

structure Automaton where
  states : Array State
  start : Nat

/-- Which automata are small enough to be built. An engine counts the bytes of their states, and how many these are
is up to the engine: all that is known is that anchors around a pattern do not make it smaller. -/
class SizeLimit where
  /-- Whether the automaton of parts in a row is small enough. -/
  admits : List Node → Bool
  admits_empty : admits [.empty] = true
  admits_anchored {n : Node} (h : admits [.sequence [.anchor .textStart, n, .anchor .textEnd]] = true) :
    admits [n] = true

namespace Automaton

/-! ## Construction -/

/-- States under construction: given where to go on, a builder adds states and says where to begin. -/
abbrev Build := Nat → Array State → Nat × Array State

/-- Adds a state. -/
def add (s : State) : Array State → Nat × Array State :=
  fun states => (states.size, states.push s)

/-- A choice between two ways; a lazy one prefers the second. -/
def splitOf (greedy : Bool) (into past : Nat) : State :=
  if greedy then .split into past else .split past into

/-- A part one or more times. -/
def loop (greedy : Bool) (body : Build) : Build := fun next states =>
  let here := states.size
  let (start, states) := body here (states.push .fail)
  (start, states.setIfInBounds here (splitOf greedy start next))

/-- A part a fixed number of times. -/
def copies (body : Build) : Nat → Build
  | 0 => fun next states => (next, states)
  | n + 1 => fun next states =>
    let (start, states) := copies body n next states
    body start states

/-- A part up to a number of times. -/
def upTo (greedy : Bool) (body : Build) : Nat → Build
  | 0 => fun next states => (next, states)
  | n + 1 => fun next states =>
    let (rest, states) := upTo greedy body n next states
    let (start, states) := body rest states
    add (splitOf greedy start next) states

/-- A part repeated between two bounds. -/
def repeated (greedy : Bool) (least : Nat) (most : Option Nat) (body : Build) : Build :=
  fun next states =>
    match most with
    | some most =>
      let (start, states) := upTo greedy body (most - least) next states
      copies body least start states
    | none =>
      let (start, states) := loop greedy body next states
      if least = 0 then add (splitOf greedy start next) states
      else copies body (least - 1) start states

/-- Parts in a row, the last one first. -/
def inARow (parts : List Build) : Build := fun next states =>
  parts.foldl (fun (next, states) part => part next states) (next, states)

/-- One of some branches, the last one first and the first one preferred. -/
def anyOf : List Build → Build
  | [] => fun _ => add .fail
  | last :: others => fun next states =>
    others.foldl (fun (second, states) branch =>
      let (first, states) := branch next states
      add (.split first second) states) (last next states)

mutual

/-- The states of a node. What no automaton can do fails. -/
def build : Node → Build
  | .empty => fun next states => (next, states)
  | .atom a => fun next => add (.atom a next)
  | .anchor a => fun next => add (.anchor a next)
  | .sequence parts => inARow (builders [] parts)
  | .choice branches => anyOf (builders [] branches)
  | .group _ body => build body
  | .times body least most greedy => repeated greedy least most (build body)
  | _ => fun _ => add .fail

/-- Builders of nodes, the last one first, in front of some others. -/
def builders (done : List Build) : List Node → List Build
  | [] => done
  | n :: rest => builders (build n :: done) rest

end

/-- The automaton of parts in a row. -/
def ofParts (parts : List Node) : Automaton :=
  let (start, states) := inARow (builders [] parts) 0 #[.accept]
  ⟨states, start⟩

/-! ## Runs -/

/-- The states that wait for a character at a place, in order of preference, and whether one was
reached that accepts. -/
structure Front where
  waiting : List (Atom × Nat) := []
  accepts : Bool := false

/-- Follows all ways that take no character, from the states on a stack. A state that was visited
already is left out, and so is everything after a state that accepts. -/
def follow (m : Automaton) (text : Array Char) (i : Nat) :
    Nat → List Nat → Array Bool → List (Atom × Nat) → Front
  | 0, _, _, found => ⟨found.reverse, false⟩
  | _ + 1, [], _, found => ⟨found.reverse, false⟩
  | fuel + 1, s :: stack, visited, found =>
    if visited.getD s true then follow m text i fuel stack visited found
    else
      let visited := visited.setIfInBounds s true
      match m.states[s]? with
      | some (.atom a next) => follow m text i fuel stack visited ((a, next) :: found)
      | some (.anchor a next) =>
        if a.holdsAt text i then follow m text i fuel (next :: stack) visited found
        else follow m text i fuel stack visited found
      | some (.split first second) => follow m text i fuel (first :: second :: stack) visited found
      | some .accept => ⟨found.reverse, true⟩
      | some .fail | none => follow m text i fuel stack visited found

/-- The front of some states at a place. Every state is followed at most once and leads to at most
two more. -/
def front (m : Automaton) (text : Array Char) (i : Nat) (states : List Nat) : Front :=
  m.follow text i (2 * m.states.size + states.length + 1) states
    (Array.replicate m.states.size false) []

/-- The states after a character. -/
def Front.after (f : Front) (c : Char) : List Nat :=
  f.waiting.filterMap fun (a, next) => if a.takes c then some next else none

/-- The end of the preferred match, given the states at a place and the end of the best match so far. -/
def runFrom (m : Automaton) (text : Array Char) : Nat → Nat → List Nat → Option Nat → Option Nat
  | 0, _, _, best => best
  | fuel + 1, i, states, best =>
    if states.isEmpty then best
    else
      let f := m.front text i states
      let best := if f.accepts then some i else best
      match text[i]? with
      | some c => runFrom m text fuel (i + 1) (f.after c) best
      | none => best

/-- The end of the preferred match that begins at a place. -/
def endFrom? (m : Automaton) (text : Array Char) (i : Nat) : Option Nat :=
  m.runFrom text (text.size + 1 - i) i [m.start] none

/-- Whether there is a match that begins at or after a place, or that the given states lead to. -/
def findsFrom (m : Automaton) (text : Array Char) : Nat → Nat → List Nat → Bool
  | 0, _, _ => false
  | fuel + 1, i, states =>
    let f := m.front text i (states ++ [m.start])
    f.accepts ||
      match text[i]? with
      | some c => findsFrom m text fuel (i + 1) (f.after c)
      | none => false

/-- Whether there is a match anywhere in a text. -/
def finds (m : Automaton) (text : Array Char) : Bool :=
  m.findsFrom text (text.size + 1) 0 []

/-! ## Size -/

/-- The most bytes that the states of an automaton may take. -/
def maxSize : Nat := 10 * 1024 * 1024

/-- The bytes that one plain state takes. -/
def stateSize : Nat := 32

/-- The number of ranges in a set, and whether all of them are within ASCII. -/
def rangesOf : CharSet → Nat × Bool
  | .nothing => (0, true)
  | .range _ high => (1, high.toNat < 128)
  | .named set negated =>
    (set.bounds.size, !negated && set.bounds.all fun b => b.2 < 128)
  | .union a b | .combine _ a b =>
    let (n, inA) := rangesOf a
    let (m, inB) := rangesOf b
    (n + m, inA && inB)
  | .bracket negated s =>
    let (n, ascii) := rangesOf s
    (n + 1, ascii && !negated)

/-- About how many bytes the states of an atom take. -/
def atomSize : Atom → Nat
  | .char c fold => if fold then 2 * stateSize + 16 else stateSize * c.utf8Size
  | .any _ => 16 * stateSize
  | .set s _ =>
    let (n, ascii) := rangesOf s
    if ascii then 2 * stateSize + 8 * n else 16 * stateSize + 2 * stateSize * n

mutual

/-- About how many bytes the states of a node take. -/
def sizeOf : Node → Nat
  | .atom a => atomSize a
  | .anchor _ => stateSize
  | .sequence parts => sizeOfAll 0 parts
  | .choice branches => sizeOfAll (2 * stateSize) branches
  | .group _ body => sizeOf body + 2 * stateSize
  | .times body least most _ =>
    match most with
    | some most => sizeOf body * most + (most - least) * stateSize + stateSize
    | none => sizeOf body * max least 1 + 3 * stateSize
  | _ => 0

def sizeOfAll (size : Nat) : List Node → Nat
  | [] => size
  | n :: rest => sizeOfAll (size + sizeOf n) rest

end

/-- The limit by an estimate of the bytes of all states. -/
instance estimatedLimit : SizeLimit where
  admits parts := sizeOfAll 0 parts ≤ maxSize
  admits_empty := rfl
  admits_anchored h := by
    refine decide_eq_true ?_
    have hwhole := of_decide_eq_true h
    simp only [sizeOfAll, sizeOf] at hwhole ⊢
    omega

/-! ## Bounds and nesting -/

mutual

/-- Whether the bounds of all quantifiers are in order and fit thirty-two bits. -/
def boundsFit : Node → Bool
  | .sequence parts | .choice parts => allBoundsFit parts
  | .group _ body | .atomic body | .look _ body => boundsFit body
  | .times body least most _ =>
    boundsFit body && least < UInt32.size &&
      match most with
      | some most => least ≤ most && most < UInt32.size
      | none => true
  | _ => true

def allBoundsFit : List Node → Bool
  | [] => true
  | n :: rest => boundsFit n && allBoundsFit rest

end

/-- The most operators that may stand in each other, brackets included. -/
def maxNesting : Nat := 250

/-- The number of items of a set, and how deep sets are nested in the deepest of them. -/
def setNesting : CharSet → Nat × Nat
  | .nothing => (0, 0)
  | .range .. | .named .. => (1, 0)
  | .union a b => ((setNesting a).1 + 1, max (setNesting a).2 (setNesting b).2)
  | .combine _ a b => (1, 1 + max (depth (setNesting a)) (depth (setNesting b)))
  | .bracket _ s => (1, 1 + depth (setNesting s))
where
  /-- A union of several items is one level above them. -/
  depth (items : Nat × Nat) : Nat := if items.1 ≤ 1 then items.2 else items.2 + 1

mutual

/-- How deep operators are nested in a node where a bare operator may stand that binds as tightly as
`tight` says: 0 for a choice, 1 for a sequence, 2 for a repetition. Any other one has parentheses. -/
def nesting (tight : Nat) : Node → Nat
  | .atom (.char _ fold) => fold.toNat
  | .atom (.any newline) => newline.toNat
  | .atom (.set s fold) => fold.toNat + (setNesting s).2
  | .anchor a => (a == .lineStart || a == .lineEnd).toNat
  | .choice branches => (decide (0 < tight)).toNat + 1 + deepest 1 0 branches
  | .sequence parts => (decide (1 < tight)).toNat + 1 + deepest 2 0 parts
  | .times body _ _ _ => (decide (2 < tight)).toNat + 1 + nesting 3 body
  | .group _ body => 1 + nesting 0 body
  | _ => 0

/-- The greatest depth in nodes, or the given one. -/
def deepest (tight depth : Nat) : List Node → Nat
  | [] => depth
  | n :: rest => deepest tight (max depth (nesting tight n)) rest

end

/-- The automaton of parts in a row, unless a quantifier is out of order, operators are nested too
deep or it grows too large. -/
def ofParts? [SizeLimit] (parts : List Node) : Option Automaton :=
  if allBoundsFit parts && deepest 1 0 parts ≤ maxNesting && SizeLimit.admits parts then
    some (ofParts parts)
  else none

end Automaton

end TokenOverlay.Pattern
