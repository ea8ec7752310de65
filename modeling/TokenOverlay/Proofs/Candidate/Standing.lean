/-
The standing of a subrealm candidate over time. Some claims have a standing that no height changes. All
others go through phases: until an earlier commit to the name can no longer be revealed nothing is
settled, then the leader's stage is reported, and an unpaid claim expires after the last height for its
payment. What is reported depends on the height only through its phase, and phases only move forward, so
the standing of a claim does too.
-/
import TokenOverlay.Candidate
import TokenOverlay.Proofs.Window

namespace TokenOverlay.Candidate

variable {p : Params} {height height' : UInt64} {claim : NameClaim} {leader : Leader} {payment : Payment}
  {kind : NameKind}

/-! ## Names -/

/-- A claim was revealed more than the delay after its commit. -/
def NameClaim.Late (p : Params) (claim : NameClaim) : Prop :=
  claim.commit.toNat + p.nameRevealDelay.toNat < claim.reveal.toNat

instance : DecidablePred (NameClaim.Late p) := fun claim =>
  inferInstanceAs (Decidable (claim.commit.toNat + p.nameRevealDelay.toNat < claim.reveal.toNat))

theorem NameClaim.late_iff : p.nameRevealsInTime claim.commit claim.reveal = false ↔ claim.Late p :=
  Params.nameRevealsInTime_eq_false

theorem nameReport_late (h : claim.Late p) :
    nameReport p claim leader kind = ⟨.revealedLate, none, some (lateNote p.nameRevealDelay)⟩ := by
  unfold nameReport
  simp [NameClaim.late_iff.2 h]

theorem nameReport_revealedLate_iff :
    (nameReport p claim leader kind).status = .revealedLate ↔ claim.Late p := by
  rw [← NameClaim.late_iff]
  unfold nameReport
  cases hstage : leader.stage <;> grind

theorem nameReport_verified_iff :
    (nameReport p claim leader kind).status = .verified ↔
      ¬ claim.Late p ∧ leader.stage = .verified ∧ leader.token? = some claim.token := by
  rw [← NameClaim.late_iff]
  unfold nameReport
  cases hstage : leader.stage <;> grind

theorem nameReport_claimedByOther_iff :
    (nameReport p claim leader kind).status = .claimedByOther ↔
      ¬ claim.Late p ∧ leader.stage = .verified ∧ leader.token? ≠ some claim.token := by
  rw [← NameClaim.late_iff]
  unfold nameReport
  cases hstage : leader.stage <;> grind

/-- Only the leader can be a candidate that is still pending, and of a subrealm nobody is. -/
theorem nameReport_pendingCandidate_iff :
    (nameReport p claim leader kind).status = .pendingCandidate ↔
      ¬ claim.Late p ∧ leader.stage = .pending ∧ kind ≠ .subrealm ∧ leader.token? = some claim.token := by
  rw [← NameClaim.late_iff]
  unfold nameReport
  cases hstage : leader.stage <;> grind

/-! ## Phases -/

/-- Where the height of a question falls in the time of a claim. -/
inductive Phase
  /-- An earlier commit to the name may still be revealed. -/
  | waiting
  /-- No earlier commit can be revealed any more. -/
  | settled
  /-- The last height for a payment has passed and there is none. -/
  | expired
  deriving DecidableEq, Repr

/-- The order in which a claim goes through the phases. -/
def Phase.rank : Phase → Nat
  | waiting => 0
  | settled => 1
  | expired => 2

/-- The heights that bound the phases of a claim: those of its payment window. -/
def bounds (p : Params) (commit : UInt64) (payment : Payment) : PaymentWindow :=
  ⟨commit + p.nameRevealDelay, payment.due?.getD (commit + p.paymentDelay)⟩

/-- The heights counted from a commit fit a word, as far as they are counted. -/
structure Payment.Fits (p : Params) (commit : UInt64) (payment : Payment) : Prop where
  first : commit.toNat + p.nameRevealDelay.toNat < UInt64.size
  last : payment.due? = none → commit.toNat + p.paymentDelay.toNat < UInt64.size

/-- The phase of a height. Only a claim by rule that is not paid for expires, and it does so even if the
last height for the payment comes before the window opens. -/
def Payment.phaseAt (payment : Payment) (w : PaymentWindow) (height : UInt64) : Phase :=
  if payment.kind = .byRule ∧ payment.paidBy? = none ∧ w.last < height then .expired
  else if height < w.first then .waiting
  else .settled

/-- What is reported in a phase. -/
def Phase.report (p : Params) (claim : NameClaim) (leader : Leader) (payment : Payment) (due : UInt64) :
    Phase → Report
  | waiting => waitingReport p leader payment
  | settled => settledReport claim leader due
  | expired => ⟨.paymentNotReceived, none, some unpaidNote⟩

theorem Payment.phaseAt_eq_expired {w : PaymentWindow} :
    payment.phaseAt w height = .expired ↔
      payment.kind = .byRule ∧ payment.paidBy? = none ∧ w.last < height := by
  unfold phaseAt
  grind

theorem Payment.phaseAt_eq_waiting {w : PaymentWindow} :
    payment.phaseAt w height = .waiting ↔
      ¬ (payment.kind = .byRule ∧ payment.paidBy? = none ∧ w.last < height) ∧ height < w.first := by
  unfold phaseAt
  grind

/-- Phases only move forward as heights rise. -/
theorem Payment.phaseAt_mono (w : PaymentWindow) (h : height ≤ height') :
    (payment.phaseAt w height).rank ≤ (payment.phaseAt w height').rank := by
  cases hlater : payment.phaseAt w height' with
  | expired => cases payment.phaseAt w height <;> decide
  | settled =>
    -- the first height has passed then, but a claim that had expired before would still be expired
    cases hearlier : payment.phaseAt w height with
    | waiting => decide
    | settled => exact Nat.le_refl _
    | expired =>
      obtain ⟨hkind, hpaid, hlast⟩ := phaseAt_eq_expired.1 hearlier
      rw [phaseAt_eq_expired.2 ⟨hkind, hpaid, UInt64.lt_of_lt_of_le hlast h⟩] at hlater
      cases hlater
  | waiting =>
    obtain ⟨hopen, hfirst⟩ := phaseAt_eq_waiting.1 hlater
    have hstill : payment.phaseAt w height = .waiting := by
      refine phaseAt_eq_waiting.2 ⟨fun hexpired => hopen ?_, UInt64.lt_of_le_of_lt h hfirst⟩
      exact ⟨hexpired.1, hexpired.2.1, UInt64.lt_of_lt_of_le hexpired.2.2 h⟩
    exact Nat.le_of_eq (congrArg Phase.rank hstill)

/-! ## The report at a height -/

theorem paymentDue_ok (hfits : payment.Fits p claim.commit) :
    paymentDue p claim.commit payment = .ok (bounds p claim.commit payment).last := by
  unfold paymentDue bounds
  cases hdue : payment.due? with
  | some due => rfl
  | none => exact heightAfter_ok (hfits.last hdue)

theorem paymentWindow_ok (hfits : payment.Fits p claim.commit) (hkind : payment.kind = .byRule) :
    paymentWindow p claim.commit payment = .ok (some (bounds p claim.commit payment)) := by
  unfold paymentWindow Params.payFrom
  rw [hkind, heightAfter_ok hfits.first, paymentDue_ok hfits]
  rfl

theorem openReport_ok (hfits : payment.Fits p claim.commit) :
    openReport p height claim leader payment =
      .ok ((payment.phaseAt (bounds p claim.commit payment) height).report p claim leader payment
        (bounds p claim.commit payment).last) := by
  have hfirst : p.payFrom claim.commit = .ok (bounds p claim.commit payment).first := heightAfter_ok hfits.first
  unfold openReport Payment.phaseAt
  rw [paymentDue_ok hfits, hfirst]
  simp only [bind, Except.bind]
  split
  · rfl
  · split <;> rfl

/-- The report that a claim has at every height, if it has one: it was revealed late, is verified, has no
rule to be paid under, or was lost to another claim. -/
def decided? (p : Params) (claim : NameClaim) (leader : Leader) (payment : Payment) : Option Report :=
  let base := nameReport p claim leader .subrealm
  if base.status = .revealedLate ∨ base.status = .verified then some base
  else if payment.kind = .byRule ∧ !payment.hasRule then some ⟨.noApplicableRule, none, none⟩
  else if base.status = .claimedByOther then some base
  else none

theorem subrealmReport_of_decided {r : Report} (h : decided? p claim leader payment = some r) :
    subrealmReport p height claim leader payment = .ok r := by
  unfold decided? at h
  unfold subrealmReport
  grind

theorem subrealmReport_of_open (h : decided? p claim leader payment = none) :
    subrealmReport p height claim leader payment = openReport p height claim leader payment := by
  unfold decided? at h
  unfold subrealmReport
  grind

/-- A decided report is that of the name, or says that no rule applies where the name decides nothing. -/
theorem decided?_cases {r : Report} (h : decided? p claim leader payment = some r) :
    (r = nameReport p claim leader .subrealm ∧
      (r.status = .revealedLate ∨ r.status = .verified ∨ r.status = .claimedByOther)) ∨
    (r = ⟨.noApplicableRule, none, none⟩ ∧ (nameReport p claim leader .subrealm).status ≠ .revealedLate ∧
      (nameReport p claim leader .subrealm).status ≠ .verified) := by
  unfold decided? at h
  grind

/-- A claim is open as long as it was revealed in time, nobody is verified, and a rule applies to the name
if the claim is one by rule. -/
theorem decided?_eq_none :
    decided? p claim leader payment = none ↔
      ¬ claim.Late p ∧ leader.stage ≠ .verified ∧ (payment.kind = .byRule → payment.hasRule = true) := by
  unfold decided?
  simp only [nameReport_revealedLate_iff, nameReport_verified_iff, nameReport_claimedByOther_iff]
  grind

/-- The report at a height is the one that is decided, or else that of the phase of the height. -/
theorem subrealmReport_ok (hfits : payment.Fits p claim.commit) :
    subrealmReport p height claim leader payment =
      .ok ((decided? p claim leader payment).getD
        ((payment.phaseAt (bounds p claim.commit payment) height).report p claim leader payment
          (bounds p claim.commit payment).last)) := by
  cases hdecided : decided? p claim leader payment with
  | some r => exact subrealmReport_of_decided hdecided
  | none => rw [subrealmReport_of_open hdecided, openReport_ok hfits, Option.getD_none]

/-! ## The order of standings -/

/-- Standings that end a claim. -/
def Status.isFinal : Status → Bool
  | revealedLate | verified | claimedByOther | noApplicableRule | paymentNotReceived => true
  | _ => false

/-- The phase that a standing belongs to, for those that an open claim can have. -/
def Status.phase? : Status → Option Phase
  | awaitingConfirmations | awaitingPaymentWindow | paidPrematurely => some .waiting
  | pending | awaitingPayment => some .settled
  | paymentNotReceived => some .expired
  | _ => none

theorem decided?_isFinal {r : Report} (h : decided? p claim leader payment = some r) :
    r.status.isFinal = true := by
  rcases decided?_cases h with ⟨-, hstatus | hstatus | hstatus⟩ | ⟨rfl, -⟩
  · rw [hstatus]; rfl
  · rw [hstatus]; rfl
  · rw [hstatus]; rfl
  · rfl

/-- What is reported of an open claim tells the phase. -/
theorem Phase.phase?_report (hstage : leader.stage ≠ .verified) (due : UInt64) (phase : Phase) :
    (phase.report p claim leader payment due).status.phase? = some phase := by
  cases phase with
  | waiting =>
    show (waitingReport p leader payment).status.phase? = some waiting
    unfold waitingReport
    split <;> rfl
  | settled =>
    show (settledReport claim leader due).status.phase? = some settled
    unfold settledReport
    cases hleader : leader.stage with
    | verified => exact absurd hleader hstage
    | pending => rfl
    | awaitingPayment => rfl
  | expired => rfl

theorem Status.eq_expired_of_isFinal {status : Status} {phase : Phase} (hfinal : status.isFinal = true)
    (hphase : status.phase? = some phase) : phase = .expired := by
  cases status <;> cases hfinal <;> cases hphase
  rfl

/-- The standing of a subrealm candidate only moves forward. Once it is final the whole report stays as it
is; before that the phases follow one another in order, and within a phase nothing of the report changes. -/
theorem standing_moves_forward (leader : Leader) (hfits : payment.Fits p claim.commit) (hle : height ≤ height') :
    ∃ r r', subrealmReport p height claim leader payment = .ok r ∧
      subrealmReport p height' claim leader payment = .ok r' ∧
      (r.status.isFinal = true → r' = r) ∧
      (r.status.isFinal = false → ∃ phase phase', r.status.phase? = some phase ∧
        r'.status.phase? = some phase' ∧ phase.rank ≤ phase'.rank ∧ (phase = phase' → r' = r)) := by
  refine ⟨_, _, subrealmReport_ok hfits, subrealmReport_ok hfits, ?_⟩
  cases hdecided : decided? p claim leader payment with
  | some r =>
    refine ⟨fun _ => rfl, fun hfinal => ?_⟩
    rw [Option.getD_some, decided?_isFinal hdecided] at hfinal
    cases hfinal
  | none =>
    obtain ⟨-, hstage, -⟩ := decided?_eq_none.1 hdecided
    simp only [Option.getD_none]
    have hmono := payment.phaseAt_mono (bounds p claim.commit payment) hle
    generalize payment.phaseAt (bounds p claim.commit payment) height = phase at hmono ⊢
    generalize payment.phaseAt (bounds p claim.commit payment) height' = phase' at hmono ⊢
    refine ⟨fun hfinal => ?_, fun _ => ?_⟩
    · -- the only final standing of an open claim is that of the last phase
      have hexpired : phase = .expired := Status.eq_expired_of_isFinal hfinal (Phase.phase?_report hstage _ _)
      subst hexpired
      cases phase' with
      | waiting => exact absurd hmono (by decide)
      | settled => exact absurd hmono (by decide)
      | expired => rfl
    · refine ⟨phase, phase', Phase.phase?_report hstage _ _, Phase.phase?_report hstage _ _, hmono, ?_⟩
      rintro rfl
      rfl

/-- A claim that is not paid for and that another one leads: it waits for the window at height 102, and has
expired at height 116. -/
theorem standing_moves_forward_unpaid :
    let claim : NameClaim := ⟨⟨.fill 1, 0⟩, 100, 101⟩
    let leader : Leader := ⟨.awaitingPayment, some ⟨.fill 2, 0⟩⟩
    let payment : Payment := ⟨.byRule, true, none, none⟩
    payment.Fits .mainnet claim.commit ∧ (102 : UInt64) ≤ 116 ∧
      ∃ r r', subrealmReport .mainnet 102 claim leader payment = .ok r ∧
        subrealmReport .mainnet 116 claim leader payment = .ok r' ∧
        r.status = .awaitingPaymentWindow ∧ r'.status = .paymentNotReceived ∧
        ∃ phase phase', r.status.phase? = some phase ∧ r'.status.phase? = some phase' ∧
          phase.rank ≤ phase'.rank := by
  intro claim leader payment
  have hfits : payment.Fits .mainnet claim.commit := ⟨by decide, by decide⟩
  have hle : (102 : UInt64) ≤ 116 := by decide
  obtain ⟨r, r', hr, hr', -, hopen⟩ := standing_moves_forward leader hfits hle
  have hstatus : r.status = .awaitingPaymentWindow := by
    have : (subrealmReport .mainnet 102 claim leader payment).map Report.status = .ok .awaitingPaymentWindow := rfl
    rw [hr] at this
    exact Except.ok.inj this
  have hstatus' : r'.status = .paymentNotReceived := by
    have : (subrealmReport .mainnet 116 claim leader payment).map Report.status = .ok .paymentNotReceived := rfl
    rw [hr'] at this
    exact Except.ok.inj this
  obtain ⟨phase, phase', hphase, hphase', hrank, -⟩ := hopen (hstatus ▸ rfl)
  exact ⟨hfits, hle, r, r', hr, hr', hstatus, hstatus', phase, phase', hphase, hphase', hrank⟩

end TokenOverlay.Candidate
