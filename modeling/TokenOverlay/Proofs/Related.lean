/-
Lists that are related item by item. Every item of either list has a partner in the other, and a list has a
related one exactly if each of its items has something related to it.
-/
import Mathlib.Data.List.Forall2

namespace TokenOverlay

open List (Forall₂)

variable {α β : Type} {R : α → β → Prop} {xs : List α} {ys : List β}

theorem exists_right_of_mem (h : Forall₂ R xs ys) {x : α} (hx : x ∈ xs) : ∃ y ∈ ys, R x y := by
  induction h with
  | nil => cases hx
  | cons hxy _ ih =>
    rcases List.mem_cons.1 hx with rfl | hx
    · exact ⟨_, List.mem_cons_self, hxy⟩
    · obtain ⟨y, hy, hr⟩ := ih hx
      exact ⟨y, List.mem_cons_of_mem _ hy, hr⟩

theorem exists_left_of_mem (h : Forall₂ R xs ys) {y : β} (hy : y ∈ ys) : ∃ x ∈ xs, R x y :=
  exists_right_of_mem h.flip hy

theorem exists_forall₂_iff : (∃ ys, Forall₂ R xs ys) ↔ ∀ x ∈ xs, ∃ y, R x y := by
  induction xs with
  | nil => exact ⟨fun _ => List.forall_mem_nil _, fun _ => ⟨[], .nil⟩⟩
  | cons x xs ih =>
    rw [List.forall_mem_cons, ← ih]
    constructor
    · rintro ⟨ys, h⟩
      cases h with
      | cons hxy hrest => exact ⟨⟨_, hxy⟩, _, hrest⟩
    · rintro ⟨⟨y, hxy⟩, ys, hrest⟩
      exact ⟨y :: ys, .cons hxy hrest⟩

/-- Relates the lists the other way round, by what holds of the items of the first. -/
theorem forall₂_swap {S : β → α → Prop} (h : Forall₂ R xs ys) (hS : ∀ x ∈ xs, ∀ y, R x y → S y x) :
    Forall₂ S ys xs := by
  induction h with
  | nil => exact .nil
  | cons hxy _ ih =>
    obtain ⟨hx, hrest⟩ := List.forall_mem_cons.1 hS
    exact .cons (hx _ hxy) (ih hrest)

end TokenOverlay
