/-
Exact sums of words: the order of the words does not matter, more words or greater ones never give
less, and as many words as fit a word never sum up to more than two words hold.
-/
import Mathlib.Data.List.Perm.Subperm
import TokenOverlay.Proofs.Coloring

namespace TokenOverlay.Coloring

variable {α : Type} {xs ys : List UInt64}

theorem exactSum_cons (x : UInt64) (xs : List UInt64) : exactSum (x :: xs) = x.toNat + exactSum xs := rfl

theorem exactSum_perm (h : xs.Perm ys) : exactSum xs = exactSum ys := by
  induction h with
  | nil => rfl
  | cons x _ ih => rw [exactSum_cons, exactSum_cons, ih]
  | swap x y rest => simp only [exactSum_cons]; omega
  | trans _ _ ih₁ ih₂ => exact ih₁.trans ih₂

theorem exactSum_sublist (h : xs.Sublist ys) : exactSum xs ≤ exactSum ys := by
  induction h with
  | slnil => exact Nat.le_refl _
  | cons y _ ih => rw [exactSum_cons]; omega
  | cons_cons x _ ih => rw [exactSum_cons, exactSum_cons]; omega

theorem exactSum_map_subperm {l₁ l₂ : List α} (h : l₁.Subperm l₂) (f : α → UInt64) :
    exactSum (l₁.map f) ≤ exactSum (l₂.map f) := by
  obtain ⟨l, hperm, hsub⟩ := h
  rw [← exactSum_perm (hperm.map f)]
  exact exactSum_sublist (hsub.map f)

theorem exactSum_map_le {f g : α → UInt64} {l : List α} (h : ∀ a ∈ l, f a ≤ g a) :
    exactSum (l.map f) ≤ exactSum (l.map g) := by
  induction l with
  | nil => exact Nat.le_refl _
  | cons a rest ih =>
    obtain ⟨ha, hrest⟩ := List.forall_mem_cons.1 h
    have := ih hrest
    have := UInt64.le_iff_toNat_le.1 ha
    simp only [List.map_cons, exactSum_cons]
    omega

theorem exactSum_le_length_mul (xs : List UInt64) : exactSum xs ≤ xs.length * (UInt64.size - 1) := by
  induction xs with
  | nil => exact Nat.le_refl _
  | cons x rest ih =>
    have := x.toNat_lt
    rw [exactSum_cons, List.length_cons, Nat.succ_mul]
    simp only [UInt64.size] at ih ⊢
    omega

/-- A number of words that fits a word sums up to less than two words can hold. -/
theorem exactSum_lt (h : xs.length < UInt64.size) : exactSum xs < UInt64.size * UInt64.size := by
  have hle := exactSum_le_length_mul xs
  have hmul : xs.length * (UInt64.size - 1) ≤ (UInt64.size - 1) * (UInt64.size - 1) :=
    Nat.mul_le_mul_right _ (Nat.le_sub_one_of_lt h)
  simp only [UInt64.size] at hle hmul ⊢
  omega

end TokenOverlay.Coloring
