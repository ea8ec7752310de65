/-
Ordered maps as lists of pairs. A key keeps the place at which it first came, and its value is the
one that came last; so a map built by `insert` has pairwise different keys.
-/
namespace TokenOverlay

/-- A map as its pairs in order. -/
abbrev Assoc (κ : Type) (β : Type u) := List (κ × β)

namespace Assoc

variable {κ : Type} {β : Type u} [DecidableEq κ]

/-- Puts a value under a key: in the place the key has, else at the end. -/
def insert (m : Assoc κ β) (key : κ) (value : β) : Assoc κ β :=
  match m with
  | [] => [(key, value)]
  | (k, v) :: rest => if k = key then (k, value) :: rest else (k, v) :: insert rest key value

/-- The keys in order. -/
def keys (m : Assoc κ β) : List κ :=
  m.map Prod.fst

theorem mem_keys_insert {m : Assoc κ β} {key : κ} {value : β} {k : κ} :
    k ∈ (m.insert key value).keys ↔ k = key ∨ k ∈ m.keys := by
  induction m with
  | nil => simp [insert, keys]
  | cons p rest ih =>
    simp only [keys] at ih
    by_cases h : p.1 = key
    · simp [insert, keys, h]
    · simp [insert, keys, h, ih, or_left_comm]

theorem nodup_keys_insert {m : Assoc κ β} (h : m.keys.Nodup) (key : κ) (value : β) :
    (m.insert key value).keys.Nodup := by
  induction m with
  | nil => simp [insert, keys]
  | cons p rest ih =>
    have hp := List.nodup_cons.1 h
    by_cases hk : p.1 = key
    · simpa [insert, keys, hk] using h
    · have hm : p.1 ∉ (insert rest key value).keys := by
        rw [mem_keys_insert]
        exact fun hc => hc.elim hk hp.1
      simpa [insert, keys, hk] using ⟨by simpa [keys] using hm, ih hp.2⟩

end Assoc

end TokenOverlay
