/-
The payment window of a subrealm claimed by rule. The standing that is reported of an open claim agrees
with the window that is advertised for its payment: a claim that is not paid for waits for the first
height of the window, is open up to the last and has expired behind it, while one that is paid for never
expires. A last height that was recorded with the claim takes the place of the one that is counted from
its commit.
-/
import TokenOverlay.Proofs.Candidate.Standing

namespace TokenOverlay.Candidate

variable {p : Params} {height : UInt64} {claim : NameClaim} {leader : Leader} {payment : Payment}
  {w : PaymentWindow}

/-! ## Phases of a claim by rule -/

theorem Payment.phaseAt_of_paid (hpaid : payment.paidBy? ≠ none) :
    payment.phaseAt w height = if height < w.first then .waiting else .settled := by
  unfold phaseAt
  rw [if_neg fun h => hpaid h.2.1]

theorem Payment.phaseAt_of_unpaid (hkind : payment.kind = .byRule) (hpaid : payment.paidBy? = none) :
    payment.phaseAt w height =
      if w.last < height then .expired else if height < w.first then .waiting else .settled := by
  unfold phaseAt
  simp [hkind, hpaid]

theorem waitingReport_of_paid (hkind : payment.kind = .byRule) (hpaid : payment.paidBy? ≠ none) :
    (waitingReport p leader payment).status = .paidPrematurely := by
  obtain ⟨txid, htxid⟩ := Option.ne_none_iff_exists'.1 hpaid
  unfold waitingReport
  rw [hkind, htxid]

theorem waitingReport_of_unpaid (hkind : payment.kind = .byRule) (hpaid : payment.paidBy? = none) :
    (waitingReport p leader payment).status = .awaitingPaymentWindow := by
  unfold waitingReport
  rw [hkind, hpaid]

/-- Once the commits are settled the leader's stage is reported. -/
theorem settledReport_status (claim : NameClaim) (leader : Leader) (due : UInt64) :
    (settledReport claim leader due).status = leader.stage.status := by
  unfold settledReport
  cases leader.stage <;> rfl

theorem Stage.status_of_unverified {stage : Stage} (h : stage ≠ .verified) :
    stage.status = .pending ∨ stage.status = .awaitingPayment := by
  cases stage with
  | verified => exact absurd rfl h
  | pending => exact .inl rfl
  | awaitingPayment => exact .inr rfl

/-- Up to the last height an unpaid claim waits for the window and then has the leader's stage; behind it
the claim has expired. -/
theorem Phase.report_of_unpaid (hkind : payment.kind = .byRule) (hpaid : payment.paidBy? = none)
    (hstage : leader.stage ≠ .verified) (claim : NameClaim) (w : PaymentWindow) (height : UInt64) :
    let r := (payment.phaseAt w height).report p claim leader payment w.last
    (r.status = .paymentNotReceived ↔ w.last < height) ∧
      (height ≤ w.last → (r.status = .awaitingPaymentWindow ↔ height < w.first)) ∧
      (height ≤ w.last → w.first ≤ height → r.status = leader.stage.status) := by
  intro r
  have hsettled := settledReport_status claim leader w.last
  have hstatus := Stage.status_of_unverified hstage
  by_cases hlast : w.last < height
  · have hr : r.status = .paymentNotReceived := by
      show ((payment.phaseAt w height).report p claim leader payment w.last).status = _
      rw [Payment.phaseAt_of_unpaid hkind hpaid, if_pos hlast]
      rfl
    have hnot : ¬ height ≤ w.last := UInt64.not_le.2 hlast
    exact ⟨iff_of_true hr hlast, fun hle => absurd hle hnot, fun hle => absurd hle hnot⟩
  · by_cases hfirst : height < w.first
    · have hr : r.status = .awaitingPaymentWindow := by
        show ((payment.phaseAt w height).report p claim leader payment w.last).status = _
        rw [Payment.phaseAt_of_unpaid hkind hpaid, if_neg hlast, if_pos hfirst]
        exact waitingReport_of_unpaid hkind hpaid
      refine ⟨iff_of_false ?_ hlast, fun _ => iff_of_true hr hfirst, fun _ hle => ?_⟩
      · rw [hr]
        decide
      · exact absurd hfirst (UInt64.not_lt.2 hle)
    · have hr : r.status = leader.stage.status := by
        show ((payment.phaseAt w height).report p claim leader payment w.last).status = _
        rw [Payment.phaseAt_of_unpaid hkind hpaid, if_neg hlast, if_neg hfirst]
        exact hsettled
      refine ⟨iff_of_false ?_ hlast, fun _ => iff_of_false ?_ hfirst, fun _ _ => hr⟩
      · rw [hr]
        rcases hstatus with h | h <;> rw [h] <;> decide
      · rw [hr]
        rcases hstatus with h | h <;> rw [h] <;> decide

/-- A claim that is paid for does not expire; before the window opens the payment is premature. -/
theorem Phase.report_of_paid (hkind : payment.kind = .byRule) (hpaid : payment.paidBy? ≠ none)
    (hstage : leader.stage ≠ .verified) (claim : NameClaim) (w : PaymentWindow) (height : UInt64) :
    let r := (payment.phaseAt w height).report p claim leader payment w.last
    r.status ≠ .revealedLate ∧ r.status ≠ .paymentNotReceived ∧
      (r.status = .paidPrematurely ↔ height < w.first) := by
  intro r
  by_cases hfirst : height < w.first
  · have hr : r.status = .paidPrematurely := by
      show ((payment.phaseAt w height).report p claim leader payment w.last).status = _
      rw [Payment.phaseAt_of_paid hpaid, if_pos hfirst]
      exact waitingReport_of_paid hkind hpaid
    rw [hr]
    exact ⟨by decide, by decide, iff_of_true rfl hfirst⟩
  · have hr : r.status = leader.stage.status := by
      show ((payment.phaseAt w height).report p claim leader payment w.last).status = _
      rw [Payment.phaseAt_of_paid hpaid, if_neg hfirst]
      exact settledReport_status claim leader w.last
    rw [hr]
    rcases Stage.status_of_unverified hstage with h | h <;> rw [h] <;>
      exact ⟨by decide, by decide, iff_of_false (by decide) hfirst⟩

theorem dueNote_eq (due : UInt64) :
    dueNote due = "The payment must be received by block height " ++ Nat.repr due.toNat ++
      " to claim successfully" :=
  rfl

theorem otherDueNote_eq (due : UInt64) :
    otherDueNote due = "Another Atomical is the leading candidate and they have until block height " ++
      Nat.repr due.toNat ++ " to claim successfully." :=
  rfl

/-- What is said of a claim that waits for its payment names the last height for it, in decimal. -/
theorem Phase.note_of_awaitingPayment {phase : Phase} {due : UInt64}
    (h : (phase.report p claim leader payment due).status = .awaitingPayment) :
    (phase.report p claim leader payment due).note? = some
      (if leader.token? = some claim.token then
        "The payment must be received by block height " ++ Nat.repr due.toNat ++ " to claim successfully"
      else "Another Atomical is the leading candidate and they have until block height " ++ Nat.repr due.toNat ++
        " to claim successfully.") := by
  rw [← dueNote_eq, ← otherDueNote_eq]
  cases phase with
  | waiting =>
    have hwaiting : (waitingReport p leader payment).status = .awaitingPayment := h
    unfold waitingReport at hwaiting
    split at hwaiting <;> cases hwaiting
  | settled =>
    have hsettled : (settledReport claim leader due).status = .awaitingPayment := h
    show (settledReport claim leader due).note? = _
    unfold settledReport at hsettled ⊢
    cases hstage : leader.stage with
    | awaitingPayment => rfl
    | pending => rw [hstage] at hsettled; cases hsettled
    | verified => rw [hstage] at hsettled; cases hsettled
  | expired => cases h

/-! ## A recorded last height -/

/-- The delay for payments does not matter to a claim with a last height recorded for its payment. -/
theorem subrealmReport_of_due {due : UInt64} (h : payment.due? = some due) (delay : UInt64) :
    subrealmReport { p with paymentDelay := delay } height claim leader payment =
      subrealmReport p height claim leader payment := by
  have hdue : ∀ q : Params, paymentDue q claim.commit payment = .ok due := by
    intro q
    unfold paymentDue
    rw [h]
  unfold subrealmReport openReport
  rw [hdue, hdue]
  rfl

/-! ## The window and the standing -/

/-- The standing of a claim by rule agrees with its payment window. Of an open claim, for whose name a
rule applies, both can be told at every height. The claim has expired if it is not paid for and the last
height has passed; before that it waits for the first height, and then the leader's stage is reported. A
claim that is paid for never expires. The note on a claim that waits for its payment gives the last height
in decimal. A recorded last height stands in the window and in the note, in place of the counted one. -/
theorem standing_agrees_with_window (height : UInt64) (hfits : payment.Fits p claim.commit) (htime : ¬ claim.Late p)
    (hkind : payment.kind = .byRule) (hrule : payment.hasRule = true) (hstage : leader.stage ≠ .verified) :
    ∃ w r, paymentWindow p claim.commit payment = .ok (some w) ∧
      subrealmReport p height claim leader payment = .ok r ∧
      (payment.paidBy? = none →
        (r.status = .paymentNotReceived ↔ w.last < height) ∧
        (height ≤ w.last → (r.status = .awaitingPaymentWindow ↔ height < w.first)) ∧
        (height ≤ w.last → w.first ≤ height → r.status = leader.stage.status)) ∧
      (payment.paidBy? ≠ none →
        r.status ≠ .revealedLate ∧ r.status ≠ .paymentNotReceived ∧
        (r.status = .paidPrematurely ↔ height < w.first)) ∧
      (r.status = .awaitingPayment → r.note? = some
        (if leader.token? = some claim.token then
          "The payment must be received by block height " ++ Nat.repr w.last.toNat ++ " to claim successfully"
        else "Another Atomical is the leading candidate and they have until block height " ++ Nat.repr w.last.toNat ++
          " to claim successfully.")) ∧
      (∀ due, payment.due? = some due → w.last = due ∧ ∀ delay,
        subrealmReport { p with paymentDelay := delay } height claim leader payment = .ok r) ∧
      (payment.due? = none → payment.paidBy? = none → ∃ within, p.paysInTime claim.commit height = .ok within ∧
        (r.status ≠ .paymentNotReceived ↔ within = true)) := by
  have hopen : decided? p claim leader payment = none := decided?_eq_none.2 ⟨htime, hstage, fun _ => hrule⟩
  have hreport : subrealmReport p height claim leader payment = .ok _ := subrealmReport_ok hfits
  rw [hopen, Option.getD_none] at hreport
  refine ⟨_, _, paymentWindow_ok hfits hkind, hreport, fun hpaid => ?_, fun hpaid => ?_,
    Phase.note_of_awaitingPayment, fun due hdue => ⟨?_, fun delay => ?_⟩, fun hdue hpaid => ?_⟩
  · exact Phase.report_of_unpaid hkind hpaid hstage claim _ height
  · exact Phase.report_of_paid hkind hpaid hstage claim _ height
  · unfold bounds
    rw [hdue]
    rfl
  · rw [subrealmReport_of_due hdue, hreport]
  · -- without a recorded height the window ends where payments stop counting
    have hlast : (bounds p claim.commit payment).last = claim.commit + p.paymentDelay := by
      unfold bounds
      rw [hdue]
      rfl
    refine ⟨_, Params.paysInTime_ok (hfits.last hdue), ?_⟩
    rw [Ne, (Phase.report_of_unpaid hkind hpaid hstage claim _ height).1, hlast, UInt64.not_lt, decide_eq_true_iff]

/-- A claim that is not paid for and leads, with a last height recorded for its payment that comes before the
window opens: it waits at that height and has expired at the next one. With a later one, the note on it and on a
claim that does not lead gives that height, which is not the one counted from the commit. -/
theorem standing_agrees_with_window_recorded :
    let claim : NameClaim := ⟨⟨.fill 1, 0⟩, 100, 101⟩
    let leader : Leader := ⟨.awaitingPayment, some ⟨.fill 1, 0⟩⟩
    let other : Leader := ⟨.awaitingPayment, some ⟨.fill 2, 0⟩⟩
    let early : Payment := ⟨.byRule, true, none, some 101⟩
    let late : Payment := ⟨.byRule, true, none, some 110⟩
    (early.Fits .mainnet claim.commit ∧ late.Fits .mainnet claim.commit) ∧ ¬ claim.Late .mainnet ∧
      (early.kind = .byRule ∧ late.kind = .byRule) ∧ (early.hasRule = true ∧ late.hasRule = true) ∧
      (leader.stage ≠ .verified ∧ other.stage ≠ .verified) ∧
      paymentWindow .mainnet claim.commit early = .ok (some ⟨103, 101⟩) ∧
      (∃ r, subrealmReport .mainnet 101 claim leader early = .ok r ∧ r.status = .awaitingPaymentWindow) ∧
      (∃ r, subrealmReport .mainnet 102 claim leader early = .ok r ∧ r.status = .paymentNotReceived) ∧
      paymentWindow .mainnet claim.commit { late with due? := none } = .ok (some ⟨103, 115⟩) ∧
      paymentWindow .mainnet claim.commit late = .ok (some ⟨103, 110⟩) ∧
      (∃ r, subrealmReport .mainnet 105 claim leader late = .ok r ∧ r.status = .awaitingPayment ∧
        r.note? = some "The payment must be received by block height 110 to claim successfully") ∧
      ∃ r, subrealmReport .mainnet 105 claim other late = .ok r ∧ r.status = .awaitingPayment ∧ r.note? = some
        "Another Atomical is the leading candidate and they have until block height 110 to claim successfully." := by
  intro claim leader other early late
  have hearly : early.Fits .mainnet claim.commit := ⟨by decide, fun h => by cases h⟩
  have hlate : late.Fits .mainnet claim.commit := ⟨by decide, fun h => by cases h⟩
  have htime : ¬ claim.Late .mainnet := by decide
  have hstage : leader.stage ≠ .verified := by decide
  have hother : other.stage ≠ .verified := by decide
  have hearlyWindow : paymentWindow .mainnet claim.commit early = .ok (some ⟨103, 101⟩) := rfl
  have hlateWindow : paymentWindow .mainnet claim.commit late = .ok (some ⟨103, 110⟩) := rfl
  refine ⟨⟨hearly, hlate⟩, htime, ⟨rfl, rfl⟩, ⟨rfl, rfl⟩, ⟨hstage, hother⟩, hearlyWindow, ?_, ?_, rfl, hlateWindow,
    ?_, ?_⟩
  · obtain ⟨w, r, hw, hr, hunpaid, -⟩ := standing_agrees_with_window 101 hearly htime rfl rfl hstage
    cases hearlyWindow.symm.trans hw
    exact ⟨r, hr, ((hunpaid rfl).2.1 (by decide)).2 (by decide)⟩
  · obtain ⟨w, r, hw, hr, hunpaid, -⟩ := standing_agrees_with_window 102 hearly htime rfl rfl hstage
    cases hearlyWindow.symm.trans hw
    exact ⟨r, hr, (hunpaid rfl).1.2 (by decide)⟩
  · obtain ⟨w, r, hw, hr, hunpaid, -, hnote, -⟩ := standing_agrees_with_window 105 hlate htime rfl rfl hstage
    cases hlateWindow.symm.trans hw
    have hstatus : r.status = .awaitingPayment := (hunpaid rfl).2.2 (by decide) (by decide)
    exact ⟨r, hr, hstatus, (hnote hstatus).trans (by decide +kernel)⟩
  · obtain ⟨w, r, hw, hr, hunpaid, -, hnote, -⟩ := standing_agrees_with_window 105 hlate htime rfl rfl hother
    cases hlateWindow.symm.trans hw
    have hstatus : r.status = .awaitingPayment := (hunpaid rfl).2.2 (by decide) (by decide)
    exact ⟨r, hr, hstatus, (hnote hstatus).trans (by decide +kernel)⟩

end TokenOverlay.Candidate
