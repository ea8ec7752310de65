/-
Running programs by backtracking. The machine keeps a stack of choices; each remembers the whole
state at which it was left behind. A run gives up, and finds nothing, when it takes up more choices
or leaves more of them behind than its limits allow.
-/
import TokenOverlay.Fault
import TokenOverlay.Pattern.Program

namespace TokenOverlay.Pattern.Machine

/-- Where a run stands. -/
structure Place where
  /-- The next instruction. -/
  pc : Nat
  /-- The number of characters before the place in the text. -/
  offset : Nat
  slots : Array (Option Nat)
  /-- The numbers of choices that were noted, the last one first. -/
  held : List Nat

/-- What an instruction does. -/
inductive Effect
  | go (p : Place)
  /-- Goes on and leaves a choice behind. -/
  | fork (p later : Place)
  /-- Goes on with no more choices than the given number. -/
  | cut (p : Place) (choices : Nat)
  /-- Fails after dropping choices down to the one that leads to an instruction. -/
  | refuse (past : Nat)
  | fail
  | accept
  | fault (f : Fault)

namespace Place

def slot (p : Place) (i : Nat) : Option Nat :=
  p.slots.getD i none

def setSlot (p : Place) (i : Nat) (n : Nat) : Place :=
  { p with slots := p.slots.setIfInBounds i (some n) }

def goTo (p : Place) (pc : Nat) : Place :=
  { p with pc := pc }

def moveTo (p : Place) (i pc : Nat) : Place :=
  { p with offset := i, pc := pc }

/-- Enters a body or goes past it, leaving the other way behind. -/
def choose (p : Place) (greedy : Bool) (body past : Nat) : Effect :=
  if greedy then .fork (p.goTo body) (p.goTo past) else .fork (p.goTo past) (p.goTo body)

/-- Matches the text of a group once more. -/
def reference (p : Place) (text : Array Char) (group next : Nat) : Effect :=
  match p.slot (2 * group), p.slot (2 * group + 1) with
  | some low, some high =>
    if high < low then .fault .staleGroup
    else
      let last := p.offset + (high - low)
      if last ≤ text.size ∧
          (List.range (high - low)).all fun k => text[low + k]? == text[p.offset + k]? then
        .go (p.moveTo last next)
      else .fail
  | _, _ => .fail

/-- Counts a repetition. -/
def count (p : Place) (slot least : Nat) (most : Option Nat) (greedy : Bool) (body past : Nat) :
    Effect :=
  let n := (p.slot slot).getD 0
  if most = some n then .go (p.goTo past)
  else
    let p := p.setSlot slot (n + 1)
    if least ≤ n then p.choose greedy body past else .go (p.goTo body)

/-- Counts a repetition of a body that may be empty. -/
def countMoving (p : Place) (slot place least : Nat) (greedy : Bool) (body past : Nat) : Effect :=
  let n := (p.slot slot).getD 0
  if least < n ∧ p.slot place = some p.offset then .fail
  else
    let p' := p.setSlot slot (n + 1)
    if least ≤ n then (p'.setSlot place p.offset).choose greedy body past else .go (p'.goTo body)

end Place

/-- What the next instruction does, where there are the given number of choices. -/
def step (program : Program) (text : Array Char) (choices : Nat) (p : Place) : Effect :=
  match program.instructions[p.pc]? with
  | none => .fail
  | some i =>
    match i with
    | .atom a next =>
      match text[p.offset]? with
      | some c => if a.takes c then .go (p.moveTo (p.offset + 1) next) else .fail
      | none => .fail
    | .anchor a next => if a.holdsAt text p.offset then .go (p.goTo next) else .fail
    | .regular m next =>
      match m.endFrom? text p.offset with
      | some last => .go (p.moveTo last next)
      | none => .fail
    | .split first second => .fork (p.goTo first) (p.goTo second)
    | .mark slot next => .go ((p.setSlot slot p.offset).goTo next)
    | .zero slot next => .go ((p.setSlot slot 0).goTo next)
    | .recall slot next => .go (p.moveTo ((p.slot slot).getD 0) next)
    | .back count next => if count ≤ p.offset then .go (p.moveTo (p.offset - count) next) else .fail
    | .refuse past => .refuse past
    | .count slot least most greedy body past => p.count slot least most greedy body past
    | .countMoving slot place least greedy body past =>
      p.countMoving slot place least greedy body past
    | .reference group next => p.reference text group next
    | .matched group next => if (p.slot (2 * group)).isSome then .go (p.goTo next) else .fail
    | .searchStart next => if p.offset = 0 then .go (p.goTo next) else .fail
    | .hold next => .go { p with pc := next, held := choices :: p.held }
    | .release next =>
      .cut { p with pc := next, held := p.held.drop 1 } (p.held.headD choices)
    | .accept => .accept

/-- The choices left behind, how many they are, and how many more may be taken up. -/
structure Choices where
  stack : List Place
  size : Nat
  budget : Nat

/-- The most choices that may be left behind at a time. -/
def maxChoices : Nat := 1000000

/-- The most choices that a run may take up. -/
def maxBacktracks : Nat := 1000000

namespace Choices

def push (c : Choices) (p : Place) : Option Choices :=
  if c.size < maxChoices then some { c with stack := p :: c.stack, size := c.size + 1 } else none

/-- Takes up the choice left behind last. -/
def pop (c : Choices) : Option (Place × Choices) :=
  match c.stack with
  | [] => none
  | p :: rest => if c.budget = 0 then none else some (p, ⟨rest, c.size - 1, c.budget - 1⟩)

/-- Keeps the given number of choices, those left behind first. -/
def keep (c : Choices) (n : Nat) : Choices :=
  { c with stack := c.stack.drop (c.size - n), size := min c.size n }

/-- Drops choices down to and with the first one that leads to an instruction. -/
def dropTo (past : Nat) : List Place → Nat → List Place × Nat
  | [], size => ([], size)
  | p :: rest, size => if p.pc = past then (rest, size - 1) else dropTo past rest (size - 1)

def refuse (c : Choices) (past : Nat) : Choices :=
  let (stack, size) := dropTo past c.stack c.size
  { c with stack := stack, size := size }

end Choices

/-- Runs a program from a place on, for a number of steps. -/
def run (program : Program) (text : Array Char) : Nat → Place → Choices → Except Fault Bool
  | 0, _, _ => .ok false
  | fuel + 1, p, c =>
    match step program text c.size p with
    | .go p => run program text fuel p c
    | .fork p later =>
      match c.push later with
      | some c => run program text fuel p c
      | none => .ok false
    | .cut p n => run program text fuel p (c.keep n)
    | .refuse past =>
      match (c.refuse past).pop with
      | some (p, c) => run program text fuel p c
      | none => .ok false
    | .fail =>
      match c.pop with
      | some (p, c) => run program text fuel p c
      | none => .ok false
    | .accept => .ok true
    | .fault f => .error f

/-- The most steps of a run. The limit on choices ends any run long before. -/
def maxSteps : Nat := 1000000000000000

/-- Whether a program finds a match in a text. -/
def finds (program : Program) (text : Array Char) : Except Fault Bool :=
  run program text maxSteps ⟨program.start, 0, Array.replicate program.slots none, []⟩
    ⟨[], 0, maxBacktracks⟩

end TokenOverlay.Pattern.Machine
