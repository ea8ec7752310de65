/-
Sets of characters as ranges of scalar values, and the compact text that tables of them are kept in.
A table lists numbers: for each range, how far it lies after the one before, and how many more
characters it has.
-/
namespace TokenOverlay.Unicode

/-! ## Numbers in tables -/

/-- The value of a digit that ends a number. -/
def lastDigit? (c : Char) : Option Nat :=
  if '0' ≤ c ∧ c ≤ '9' then some (c.toNat - 48)
  else if 'a' ≤ c ∧ c ≤ 'v' then some (c.toNat - 87)
  else none

/-- The value of a digit that more digits follow. -/
def innerDigit (c : Char) : Nat :=
  if 'A' ≤ c ∧ c ≤ 'Z' then c.toNat - 65
  else if 'w' ≤ c ∧ c ≤ 'z' then c.toNat - 93
  else if c = '-' then 30
  else 31

/-- The numbers that a text holds, in base 32 and without separators: every number ends with a digit
of a kind that stands nowhere else. -/
def numbers (text : String) : List Nat :=
  let step (s : Nat × List Nat) (c : Char) : Nat × List Nat :=
    match lastDigit? c with
    | some d => (0, (32 * s.1 + d) :: s.2)
    | none => (32 * s.1 + innerDigit c, s.2)
  (text.toList.foldl step (0, [])).2.reverse

/-! ## Sets -/

/-- A set of scalar values as disjoint closed ranges in ascending order. -/
structure Ranges where
  bounds : Array (Nat × Nat)

namespace Ranges

/-- The set of ranges that are in order already. -/
def ofList (bounds : List (Nat × Nat)) : Ranges := ⟨bounds.toArray⟩

protected def none : Ranges := ⟨#[]⟩

/-- All characters. -/
def all : Ranges := ofList [(0, 0xD7FF), (0xE000, 0x10FFFF)]

/-- Looks for a number in ranges, `count` of them from number `first` on, by halving. -/
def search (bounds : Array (Nat × Nat)) (n : Nat) : Nat → Nat → Nat → Bool
  | 0, _, _ => false
  | fuel + 1, first, count =>
    if count = 0 then false
    else
      let half := count / 2
      match bounds[first + half]? with
      | none => false
      | some (low, high) =>
        if n < low then search bounds n fuel first half
        else if high < n then search bounds n fuel (first + half + 1) (count - half - 1)
        else true

def contains (r : Ranges) (c : Char) : Bool :=
  search r.bounds c.toNat (r.bounds.size + 1) 0 r.bounds.size

/-- The ranges of a list of gaps and lengths. -/
def ofGaps (next : Nat) : List Nat → List (Nat × Nat)
  | gap :: more :: rest => (next + gap, next + gap + more) :: ofGaps (next + gap + more + 1) rest
  | _ => []

/-- Joins a range and the ranges after it, in ascending order of their lower ends, where they meet. -/
def joinFrom (low high : Nat) : List (Nat × Nat) → List (Nat × Nat)
  | [] => [(low, high)]
  | (l, h) :: rest =>
    if l ≤ high + 1 then joinFrom low (max high h) rest else (low, high) :: joinFrom l h rest

/-- Joins ranges in ascending order of their lower ends where they meet. -/
def join : List (Nat × Nat) → List (Nat × Nat)
  | [] => []
  | (low, high) :: rest => joinFrom low high rest

/-- The union of sets. -/
def unions (sets : List Ranges) : Ranges :=
  let bounds := sets.flatMap fun r => r.bounds.toList
  ofList (join (bounds.mergeSort fun a b => a.1 ≤ b.1))

/-- The ranges between the given ones, from a number on and up to the last character. -/
def gaps (next : Nat) : List (Nat × Nat) → List (Nat × Nat)
  | [] => if next ≤ 0x10FFFF then [(next, 0x10FFFF)] else []
  | (low, high) :: rest =>
    if next < low then (next, low - 1) :: gaps (high + 1) rest else gaps (high + 1) rest

/-- The characters that are not in a set. -/
def complement (r : Ranges) : Ranges :=
  ofList (gaps 0 r.bounds.toList)

end Ranges

/-! ## Tables -/

/-- A named set as a table keeps it. -/
structure Table where
  names : List String
  text : String

def Table.ranges (t : Table) : Ranges :=
  .ofList (Ranges.ofGaps 0 (numbers t.text))

/-- The set with the given name. -/
def Table.find? (tables : List Table) (name : String) : Option Ranges :=
  (tables.find? fun t => t.names.contains name).map Table.ranges

end TokenOverlay.Unicode
