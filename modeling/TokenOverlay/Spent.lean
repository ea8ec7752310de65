/-
What the index says of the tokens a transaction spends: for every input that spends any, in
ascending order, a list of records. A record holds a token's value as eight bytes at an offset;
reading all records fails as a whole at the first one that is too short.
-/
import TokenOverlay.Chain.Outpoint

namespace TokenOverlay

/-! ## Tables by input -/

/-- Lists of entries by input index. The indexes are strictly ascending. -/
structure ByInput (α : Type) where
  rows : List (Nat × List α)
  ascending : (rows.map Prod.fst).Pairwise (· < ·)

namespace ByInput

variable {α β ε : Type}

def empty : ByInput α := ⟨[], .nil⟩

instance : Inhabited (ByInput α) := ⟨empty⟩

def isEmpty (t : ByInput α) : Bool := t.rows.isEmpty

/-- The entries of all inputs in order. -/
def entries (t : ByInput α) : List α := t.rows.flatMap Prod.snd

/-- Rows with more entries at an input, after those it has. -/
def extendRows (i : Nat) (xs : List α) : List (Nat × List α) → List (Nat × List α)
  | [] => [(i, xs)]
  | (j, ys) :: rest =>
    if i < j then (i, xs) :: (j, ys) :: rest
    else if i = j then (j, ys ++ xs) :: rest
    else (j, ys) :: extendRows i xs rest

theorem mem_keys_extendRows {i k : Nat} {xs : List α} {rows : List (Nat × List α)} :
    k ∈ (extendRows i xs rows).map Prod.fst ↔ k = i ∨ k ∈ rows.map Prod.fst := by
  induction rows with
  | nil => simp [extendRows]
  | cons r rest ih =>
    simp only [extendRows]
    split
    · simp
    · split
      · next h => simp [h]
      · simp [ih, or_left_comm]

theorem extendRows_ascending {i : Nat} {xs : List α} {rows : List (Nat × List α)}
    (h : (rows.map Prod.fst).Pairwise (· < ·)) :
    ((extendRows i xs rows).map Prod.fst).Pairwise (· < ·) := by
  induction rows with
  | nil => simp [extendRows]
  | cons r rest ih =>
    obtain ⟨hr, hrest⟩ := List.pairwise_cons.1 h
    simp only [extendRows]
    split
    · next hlt =>
      refine List.pairwise_cons.2 ⟨fun k hk => ?_, h⟩
      rcases List.mem_cons.1 hk with rfl | hk
      · exact hlt
      · exact Nat.lt_trans hlt (hr k hk)
    · split
      · exact List.pairwise_cons.2 ⟨hr, hrest⟩
      · refine List.pairwise_cons.2 ⟨fun k hk => ?_, ih hrest⟩
        rcases mem_keys_extendRows.1 hk with rfl | hk
        · omega
        · exact hr k hk

/-- Adds entries at an input, after those it has. -/
def extend (t : ByInput α) (i : Nat) (xs : List α) : ByInput α :=
  ⟨extendRows i xs t.rows, extendRows_ascending t.ascending⟩

/-- Replaces every entry of the rows, from the first on, and stops at the first failure. -/
def mapRows (f : α → Except ε β) : List (Nat × List α) → Except ε (List (Nat × List β))
  | [] => .ok []
  | (i, xs) :: rest =>
    match xs.mapM f with
    | .error e => .error e
    | .ok ys => (mapRows f rest).map ((i, ys) :: ·)

theorem keys_of_mapRows {f : α → Except ε β} {rows : List (Nat × List α)}
    {out : List (Nat × List β)} (h : mapRows f rows = .ok out) :
    out.map Prod.fst = rows.map Prod.fst := by
  induction rows generalizing out with
  | nil => cases h; rfl
  | cons r rest ih =>
    simp only [mapRows] at h
    split at h
    · cases h
    · cases hr : mapRows f rest with
      | error e => rw [hr] at h; cases h
      | ok o => rw [hr] at h; cases h; simp [ih hr]

/-- Replaces every entry and stops at the first failure. -/
def mapM (f : α → Except ε β) (t : ByInput α) : Except ε (ByInput β) :=
  match h : mapRows f t.rows with
  | .error e => .error e
  | .ok rows => .ok ⟨rows, by rw [keys_of_mapRows h]; exact t.ascending⟩

end ByInput

/-! ## Spent tokens -/

/-- A token and the value it is spent with. -/
structure SpentToken where
  token : TokenId
  value : UInt64
  deriving DecidableEq, Repr

/-- A record of a spent token as the index keeps it. -/
structure SpentRecord where
  token : TokenId
  data : Bytes
  deriving DecidableEq, Repr

namespace SpentRecord

/-- A record that ends before its value does. -/
structure TooShort where
  length : Nat
  offset : Nat
  deriving DecidableEq, Repr

def TooShort.message (e : TooShort) : String :=
  s!"spent atomical record of {e.length} bytes is too short to hold a value at offset {e.offset}"

/-- Reads the eight bytes at the offset, least significant first. What follows them does not
matter. -/
def read (offset : UInt64) (r : SpentRecord) : Except TooShort SpentToken :=
  if offset.toNat + 8 ≤ r.data.length then
    .ok ⟨r.token, UInt64.ofNat (Bytes.toNatLE ((r.data.drop offset.toNat).take 8))⟩
  else .error ⟨r.data.length, offset.toNat⟩

/-- Reads the records of all inputs. -/
def readAll (offset : UInt64) (records : ByInput SpentRecord) : Except TooShort (ByInput SpentToken) :=
  records.mapM (read offset)

end SpentRecord

namespace ByInput

/-- The total value a token is spent with, over all inputs. -/
def total (spent : ByInput SpentToken) (token : TokenId) : Nat :=
  ((spent.entries.filter fun s => s.token = token).map fun s => s.value.toNat).foldr (· + ·) 0

/-- The inputs at which a token is spent. -/
def inputsOf (spent : ByInput SpentToken) (token : TokenId) : List Nat :=
  (spent.rows.filter fun row => row.2.any fun s => s.token = token).map Prod.fst

end ByInput

end TokenOverlay
