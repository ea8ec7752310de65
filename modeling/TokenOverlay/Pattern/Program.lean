/-
Programs for patterns that no finite automaton can run. A node that is regular is left to an
automaton as a whole wherever it need not be entered again: in look-around, in an atomic group, and
at both ends of a sequence as far as the length is fixed. All else becomes instructions that may
leave choices behind.
-/
import TokenOverlay.Pattern.Automaton

namespace TokenOverlay.Pattern

/-- An instruction. Slots hold places in the text and counts of repetitions. -/
inductive Instruction
  | atom (a : Atom) (next : Nat)
  | anchor (a : Anchor) (next : Nat)
  /-- Goes to the end of what an automaton prefers to match. -/
  | regular (m : Automaton) (next : Nat)
  /-- Goes on in the first way and leaves the second as a choice. -/
  | split (first second : Nat)
  /-- Notes the place in a slot. -/
  | mark (slot next : Nat)
  /-- Begins a count in a slot. -/
  | zero (slot next : Nat)
  /-- Goes back to the place in a slot. -/
  | recall (slot next : Nat)
  /-- Goes back by a number of characters. -/
  | back (count next : Nat)
  /-- Fails, after dropping all choices down to the one that leads to `past`. -/
  | refuse (past : Nat)
  /-- Counts a repetition and enters the body, or goes on once there were enough. -/
  | count (slot least : Nat) (most : Option Nat) (greedy : Bool) (body past : Nat)
  /-- Counts a repetition of a body that may be empty. One more than the least number of them fails
  at the place where the last one began, which is kept in a slot of its own. -/
  | countMoving (slot place least : Nat) (greedy : Bool) (body past : Nat)
  | reference (group next : Nat)
  | matched (group next : Nat)
  | searchStart (next : Nat)
  /-- Notes how many choices there are. -/
  | hold (next : Nat)
  /-- Drops the choices made since the last note. -/
  | release (next : Nat)
  | accept

/-- Instructions under construction, and the number of slots in use. -/
structure Code where
  instructions : Array Instruction
  slots : Nat

/-- A program: where it begins, and how many slots it needs. -/
structure Program where
  instructions : Array Instruction
  start : Nat
  slots : Nat

namespace Program

variable [SizeLimit]

/-! ## Construction -/

/-- Given where to go on, a builder adds instructions and says where to begin; it fails where the
pattern cannot be run. -/
abbrev Build := Nat → Code → Option (Nat × Code)

def skip : Build := fun next code => some (next, code)

def add (i : Instruction) (code : Code) : Option (Nat × Code) :=
  some (code.instructions.size, { code with instructions := code.instructions.push i })

/-- Parts in a row, the last one first. -/
def inARow (parts : List Build) : Build := fun next code =>
  parts.foldlM (fun (next, code) part => part next code) (next, code)

/-- The choice between a body and what is past it. -/
def splitOf (greedy : Bool) (into past : Nat) : Instruction :=
  if greedy then .split into past else .split past into

/-- A body that comes back to an instruction in front of it, which is made when the start of the body
is known. The result is the place of that instruction and the start of the body. -/
def around (body : Build) (head : Nat → Instruction) (code : Code) :
    Option ((Nat × Nat) × Code) := do
  let here := code.instructions.size
  let (start, code) ← body here { code with instructions := code.instructions.push .accept }
  return ((here, start),
    { code with instructions := code.instructions.setIfInBounds here (head start) })

/-- The next free slot. -/
def newSlot (code : Code) : Nat × Code :=
  (code.slots, { code with slots := code.slots + 1 })

/-- One of some branches, the last one first and the first one preferred. -/
def anyOf : List Build → Build
  | [] => skip
  | last :: others => fun next code => do
    others.foldlM (fun (second, code) branch => do
      let (first, code) ← branch next code
      add (.split first second) code) (← last next code)

/-- A body repeated between two bounds. -/
def repeated (least : Nat) (most : Option Nat) (greedy movable : Bool) (body : Build) : Build :=
  fun next code =>
    if least = 0 ∧ most = some 1 then do
      let (start, code) ← body next code
      add (splitOf greedy start next) code
    else if most = none ∧ movable then do
      let (slot, code) := newSlot code
      let (place, code) := newSlot code
      let ((head, _), code) ←
        around body (fun start => .countMoving slot place least greedy start next) code
      add (.zero slot head) code
    else if most = none ∧ least ≤ 1 then do
      let ((head, start), code) ← around body (fun start => splitOf greedy start next) code
      return (if least = 0 then head else start, code)
    else do
      let (slot, code) := newSlot code
      let ((head, _), code) ←
        around body (fun start => .count slot least most greedy start next) code
      add (.zero slot head) code

/-- Look-around at a body; looking behind, the body must have a fixed length. -/
def lookAround (kind : Look) (fixed : Bool) (length : Nat) (body : Build) : Build :=
  let body : Build :=
    if kind.behind then fun next code =>
      if fixed then (body next code).bind fun (start, code) => add (.back length start) code
      else none
    else body
  if kind.negative then fun next code => do
    let (last, code) ← add (.refuse next) code
    let (start, code) ← body last code
    add (.split start next) code
  else fun next code => do
    let (slot, code) := newSlot code
    let (last, code) ← add (.recall slot next) code
    let (start, code) ← body last code
    add (.mark slot start) code

/-- Parts in a row that are left to one automaton; characters need none. -/
def regular (parts : List Node) : Build := fun next code =>
  let atoms := parts.filterMap fun
    | .atom a => some a
    | _ => none
  if atoms.length = parts.length then
    atoms.foldrM (fun a (next, code) => add (.atom a next) code) (next, code)
  else (Automaton.ofParts? parts).bind fun m => add (.regular m next) code

/-- A test whose choices are dropped when it holds, and a way for either outcome. -/
def choose (test yes no : Build) : Build := fun next code => do
  let (no, code) ← no next code
  let (yes, code) ← yes next code
  let (last, code) ← add (.release yes) code
  let (test, code) ← test last code
  let (start, code) ← add (.split test no) code
  add (.hold start) code

/-- How many parts at the front of a list are regular and of fixed length. -/
def frontLength (referenced : List Nat) (parts : List Node) : Nat :=
  (parts.takeWhile fun n => n.hasFixedLength && !n.isHard referenced).length

/-- How many parts at the back of a list are regular, and of fixed length where the list may be
entered again. -/
def backLength (referenced : List Nat) (again : Bool) (parts : List Node) : Nat :=
  (parts.reverse.takeWhile fun n => !n.isHard referenced && (!again || n.hasFixedLength)).length

mutual

/-- The instructions of a node. `again` says that the node may be entered again for another match, so
that even a regular one has to leave its choices behind. -/
def build (referenced : List Nat) (again : Bool) : Node → Build
  | .empty => skip
  | .atom a => fun next => add (.atom a next)
  | .anchor a => fun next => add (.anchor a next)
  | .sequence parts =>
    if again || Node.anyHard referenced parts then
      let front := frontLength referenced parts
      let back := backLength referenced again (parts.drop front)
      let count := parts.length - front - back
      inARow [regular (parts.drop (front + count)), inARow (middleParts referenced [] front count parts),
        regular (parts.take front)]
    else regular [.sequence parts]
  | .choice branches =>
    if again || Node.anyHard referenced branches then anyOf (eachOf referenced again [] branches)
    else regular [.choice branches]
  | .group number body =>
    if again || body.isHard referenced || referenced.contains number then fun next code => do
      let (last, code) ← add (.mark (2 * number + 1) next) code
      let (start, code) ← build referenced again body last code
      add (.mark (2 * number) start) code
    else regular [.group number body]
  | .times body least most greedy =>
    if again || body.isHard referenced then
      let again := if least = 0 ∧ most = some 1 then again else true
      repeated least most greedy (body.minLength == 0) (build referenced again body)
    else regular [.times body least most greedy]
  | .look kind (.choice branches) =>
    let fixed := (Node.choice branches).hasFixedLength
    if kind.behind && !fixed then
      let parts := lookAtEach referenced kind [] branches
      if kind.negative then inARow parts else anyOf parts
    else lookAround kind fixed (Node.choice branches).minLength
      (build referenced false (.choice branches))
  | .look kind body =>
    lookAround kind body.hasFixedLength body.minLength (build referenced false body)
  | .reference group => fun next => add (.reference group next)
  | .atomic body => fun next code => do
    let (last, code) ← add (.release next) code
    let (start, code) ← build referenced false body last code
    add (.hold start) code
  | .forget => skip
  | .searchStart => fun next => add (.searchStart next)
  | .matched group => fun next => add (.matched group next)
  | .conditional test yes no =>
    choose (build referenced again test) (build referenced again yes) (build referenced again no)

/-- Builders of some parts in the middle of a list, the last one first, in front of some others. -/
def middleParts (referenced : List Nat) (done : List Build) : Nat → Nat → List Node → List Build
  | _, _, [] => done
  | 0, 0, _ :: _ => done
  | 0, count + 1, n :: rest => middleParts referenced (build referenced true n :: done) 0 count rest
  | before + 1, count, _ :: rest => middleParts referenced done before count rest

/-- Builders of branches, the last one first, in front of some others. -/
def eachOf (referenced : List Nat) (again : Bool) (done : List Build) : List Node → List Build
  | [] => done
  | n :: rest => eachOf referenced again (build referenced again n :: done) rest

/-- Builders of look-around at each of some branches, the last one first, in front of some others. -/
def lookAtEach (referenced : List Nat) (kind : Look) (done : List Build) : List Node → List Build
  | [] => done
  | n :: rest =>
    lookAtEach referenced kind
      (lookAround kind n.hasFixedLength n.minLength (build referenced false n) :: done) rest

end

/-- The program that looks for a node anywhere in a text, from the first place on. -/
def ofNode? (referenced : List Nat) (groups : Nat) (n : Node) : Option Program := do
  let search : Build := fun next code => do
    let ((head, _), code) ← around (fun next => add (.atom (.any true) next))
      (fun start => .split next start) code
    return (head, code)
  let (start, code) ← inARow [build referenced true n, search] 0 ⟨#[.accept], 2 * (groups + 1)⟩
  return ⟨code.instructions, start, code.slots⟩

end Program

end TokenOverlay.Pattern
