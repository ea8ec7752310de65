/-
Where a non-fungible token ends up. It stays with the output of its input where that can be spent and goes
to the first output otherwise, whatever the first output is. So it is lost where neither of the two can be
spent, even if a third output could have taken it.
-/
import TokenOverlay.Transfer

namespace TokenOverlay

/-! ## Outputs that can be spent -/

/-- A script that no input can satisfy: a return stands first, or behind a pushed zero. -/
def Script.IsReturn (script : Bytes) : Prop :=
  [opReturn] <+: script ∨ [opFalse, opReturn] <+: script

theorem Script.isUnspendable_iff {script : Bytes} : isUnspendable script = true ↔ IsReturn script := by
  rcases script with _ | ⟨a, _ | ⟨b, rest⟩⟩
  · simp [isUnspendable, IsReturn]
  · simp [isUnspendable, IsReturn, List.cons_prefix_cons, eq_comm (a := opReturn)]
  · simp [isUnspendable, IsReturn, List.cons_prefix_cons, eq_comm (a := opReturn), eq_comm (a := opFalse)]

namespace Transaction

variable {tx : Transaction} {i k : Nat}

/-- There is an output with this index, and it can be spent. -/
def CanSpend (tx : Transaction) (k : Nat) : Prop :=
  ∃ o, tx.outputs[k]? = some o ∧ ¬ Script.IsReturn o.script

theorem placeToken_of_canSpend (h : tx.CanSpend i) : placeToken [i] tx = .ok i := by
  obtain ⟨o, ho, hscript⟩ := h
  simp only [placeToken, ho]
  rw [if_neg (mt Script.isUnspendable_iff.1 hscript)]

theorem placeToken_of_not_canSpend (h : ¬ tx.CanSpend i) : placeToken [i] tx = .ok 0 := by
  cases ho : tx.outputs[i]? with
  | none => simp only [placeToken, ho]
  | some o =>
    have hscript : Script.IsReturn o.script := Classical.not_not.1 fun hscript => h ⟨o, ho, hscript⟩
    simp only [placeToken, ho]
    rw [if_pos (Script.isUnspendable_iff.2 hscript)]

/-- A token that is spent at one input is placed at one output: that of its input if it can be spent, and
the first one otherwise. It is kept exactly if one of these two can be spent. -/
theorem token_kept_iff (tx : Transaction) (i : Nat) :
    ∃ k, placeToken [i] tx = .ok k ∧ (tx.CanSpend i → k = i) ∧ (¬ tx.CanSpend i → k = 0) ∧
      (tx.CanSpend k ↔ tx.CanSpend i ∨ tx.CanSpend 0) := by
  by_cases h : tx.CanSpend i
  · refine ⟨i, placeToken_of_canSpend h, fun _ => rfl, fun hnot => absurd h hnot, ?_⟩
    exact ⟨.inl, fun _ => h⟩
  · refine ⟨0, placeToken_of_not_canSpend h, fun hi => absurd hi h, fun _ => rfl, ?_⟩
    exact ⟨.inr, fun hor => hor.resolve_left h⟩

/-- A token spent at the first input goes to a first output that cannot be spent, although the second one can. -/
theorem token_lost_beside_spendable :
    let tx : Transaction := ⟨.fill 0xee, [⟨⟨.fill 0x55, 0⟩, []⟩], [⟨546, [Script.opReturn]⟩, ⟨546, [0x51]⟩]⟩
    tx.CanSpend 1 ∧ placeToken [0] tx = .ok 0 ∧ ¬ tx.CanSpend 0 := by
  refine ⟨⟨_, rfl, ?_⟩, rfl, ?_⟩
  · rw [← Script.isUnspendable_iff]
    decide
  · rintro ⟨o, ho, hscript⟩
    cases ho
    exact hscript (Script.isUnspendable_iff.1 rfl)

end Transaction

end TokenOverlay
