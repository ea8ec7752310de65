/-
Height windows. A reveal is in time if it comes at most a delay after its commit; a subrealm may be
paid for between two heights that are counted from its commit. The first kind of window never needs
a sum, so it has an answer for all heights; the second adds a delay to a height and has none where
the sum is beyond a word.
-/
import TokenOverlay.Fault
import TokenOverlay.Params

namespace TokenOverlay

/-- The height that lies a delay after another one. -/
def heightAfter (height delay : UInt64) : Except Fault UInt64 :=
  if height.toNat + delay.toNat < UInt64.size then .ok (height + delay) else .error .heightOverflow

/-- Whether a height is at most a delay after a commit. A delay greater than the height reaches back
to the first block. -/
def inTime (delay commit height : UInt64) : Bool :=
  decide (height.toNat - delay.toNat ≤ commit.toNat)

namespace Params

/-- Whether a mint is revealed in time. -/
def revealsInTime (p : Params) (commit reveal : UInt64) : Bool :=
  inTime p.revealDelay commit reveal

/-- Whether a claim to a name is revealed in time. -/
def nameRevealsInTime (p : Params) (commit reveal : UInt64) : Bool :=
  inTime p.nameRevealDelay commit reveal

/-- The first height at which a subrealm should be paid for: before it, an earlier commit to the same
name may still be revealed. -/
def payFrom (p : Params) (commit : UInt64) : Except Fault UInt64 :=
  heightAfter commit p.nameRevealDelay

/-- The last height at which a payment for a subrealm counts. -/
def payUntil (p : Params) (commit : UInt64) : Except Fault UInt64 :=
  heightAfter commit p.paymentDelay

/-- Whether a payment seen at a height counts. -/
def paysInTime (p : Params) (commit height : UInt64) : Except Fault Bool :=
  (p.payUntil commit).map fun last => decide (height ≤ last)

end Params

/-! ## Laws -/

theorem inTime_iff (delay commit height : UInt64) :
    inTime delay commit height = true ↔ height.toNat ≤ commit.toNat + delay.toNat := by
  simp only [inTime, decide_eq_true_eq]; omega

theorem toNat_of_heightAfter {height delay sum : UInt64} (h : heightAfter height delay = .ok sum) :
    sum.toNat = height.toNat + delay.toNat := by
  unfold heightAfter at h
  split at h
  · next hlt =>
    cases h
    rw [UInt64.toNat_add, Nat.mod_eq_of_lt hlt]
  · cases h

end TokenOverlay
