/-
Heights counted from a commit. A sum that fits a word is the exact one, so a window with bounds that
fit compares heights as exact integers do. A reveal is compared without a sum and needs no bounds; a
height to pay at is a sum, and there is none where no word holds it.
-/
import TokenOverlay.Proofs.Except
import TokenOverlay.Window

namespace TokenOverlay

variable {p : Params} {height delay commit reveal : UInt64}

theorem heightAfter_ok (h : height.toNat + delay.toNat < UInt64.size) :
    heightAfter height delay = .ok (height + delay) :=
  if_pos h

theorem toNat_heightAfter (h : height.toNat + delay.toNat < UInt64.size) :
    (height + delay).toNat = height.toNat + delay.toNat :=
  toNat_of_heightAfter (heightAfter_ok h)

theorem heightAfter_ok_iff {sum : UInt64} :
    heightAfter height delay = .ok sum ↔ sum.toNat = height.toNat + delay.toNat := by
  constructor
  · exact toNat_of_heightAfter
  · intro h
    have hfits : height.toNat + delay.toNat < UInt64.size := h ▸ sum.toNat_lt
    rw [heightAfter_ok hfits, ← UInt64.toNat_inj.1 (h.trans (toNat_heightAfter hfits).symm)]

theorem heightAfter_overflow (h : UInt64.size ≤ height.toNat + delay.toNat) :
    heightAfter height delay = .error .heightOverflow :=
  if_neg (Nat.not_lt.2 h)

theorem heightAfter_error_iff :
    heightAfter height delay = .error .heightOverflow ↔ UInt64.size ≤ height.toNat + delay.toNat := by
  constructor
  · intro h
    refine Nat.not_lt.1 fun hfits => ?_
    rw [heightAfter_ok hfits] at h
    cases h
  · exact heightAfter_overflow

namespace Params

/-- A claim to a name is in time unless it is revealed more than the delay after its commit; no sum of
heights is too large for the comparison. -/
theorem nameRevealsInTime_eq_false :
    p.nameRevealsInTime commit reveal = false ↔ commit.toNat + p.nameRevealDelay.toNat < reveal.toNat := by
  rw [← Bool.not_eq_true, nameRevealsInTime, inTime_iff, Nat.not_le]

/-- A payment counts up to the last height of the window. -/
theorem paysInTime_ok (h : commit.toNat + p.paymentDelay.toNat < UInt64.size) :
    p.paysInTime commit height = .ok (decide (height ≤ commit + p.paymentDelay)) := by
  unfold paysInTime payUntil
  rw [heightAfter_ok h]
  rfl

/-- An answer about a payment is the exact one. -/
theorem within_of_paysInTime {within : Bool} (h : p.paysInTime commit height = .ok within) :
    within = true ↔ height.toNat ≤ commit.toNat + p.paymentDelay.toNat := by
  obtain ⟨last, hlast, rfl⟩ := map_ok_iff.1 h
  rw [decide_eq_true_iff, UInt64.le_iff_toNat_le, toNat_of_heightAfter hlast]

/-- Windows agree with exact integers, whatever the delays and the heights are. A reveal is in time exactly if
it comes at most its delay after the commit. The heights between which to pay are the exact sums, and there is
no such height exactly where no word holds the sum. A payment has an answer wherever the last height to pay at
fits a word, and no answer is ever other than the exact one. -/
theorem windows_exact (p : Params) (commit height : UInt64) :
    (p.revealsInTime commit height = true ↔ height.toNat ≤ commit.toNat + p.revealDelay.toNat) ∧
    (p.nameRevealsInTime commit height = true ↔ height.toNat ≤ commit.toNat + p.nameRevealDelay.toNat) ∧
    (∀ first, p.payFrom commit = .ok first ↔ first.toNat = commit.toNat + p.nameRevealDelay.toNat) ∧
    (p.payFrom commit = .error .heightOverflow ↔ UInt64.size ≤ commit.toNat + p.nameRevealDelay.toNat) ∧
    (∀ last, p.payUntil commit = .ok last ↔ last.toNat = commit.toNat + p.paymentDelay.toNat) ∧
    (p.payUntil commit = .error .heightOverflow ↔ UInt64.size ≤ commit.toNat + p.paymentDelay.toNat) ∧
    (commit.toNat + p.paymentDelay.toNat < UInt64.size → ∃ within, p.paysInTime commit height = .ok within) ∧
    ∀ within, p.paysInTime commit height = .ok within →
      (within = true ↔ height.toNat ≤ commit.toNat + p.paymentDelay.toNat) := by
  refine ⟨inTime_iff .., inTime_iff .., fun _ => heightAfter_ok_iff, heightAfter_error_iff,
    fun _ => heightAfter_ok_iff, heightAfter_error_iff, fun hfits => ?_, fun _ => within_of_paysInTime⟩
  exact ⟨_, paysInTime_ok hfits⟩

/-- A commit so late that the last height to pay at is the last height of all. -/
theorem windows_exact_last :
    let commit : UInt64 := 0xfffffffffffffff0
    let last : UInt64 := 0xffffffffffffffff
    commit.toNat + mainnet.paymentDelay.toNat < UInt64.size ∧ mainnet.payUntil commit = .ok last ∧
      mainnet.paysInTime commit last = .ok true ∧ mainnet.revealsInTime commit last = true ∧
      mainnet.nameRevealsInTime commit last = false := by
  intro commit last
  have hfits : commit.toNat + mainnet.paymentDelay.toNat < UInt64.size := by decide
  obtain ⟨hreveals, hnames, -, -, huntil, -, hanswers, hexact⟩ := windows_exact mainnet commit last
  obtain ⟨within, hwithin⟩ := hanswers hfits
  obtain rfl : within = true := (hexact within hwithin).2 (by decide)
  refine ⟨hfits, (huntil last).2 (by decide), hwithin, hreveals.2 (by decide), ?_⟩
  rw [Bool.eq_false_iff, Ne, hnames]
  decide

/-- With the longest payment delay there is no last height to pay at but for the first block, while the longest
delay of reveals puts every reveal in time. -/
theorem unlimited_payment_overflows :
    let p : Params := { mainnet with revealDelay := 0xffffffffffffffff, paymentDelay := 0xffffffffffffffff }
    p.revealsInTime 100 101 = true ∧ (101 : UInt64).toNat ≤ (100 : UInt64).toNat + p.paymentDelay.toNat ∧
      p.payUntil 100 = .error .heightOverflow ∧ p.paysInTime 100 101 = .error .heightOverflow := by
  decide

end Params

end TokenOverlay
