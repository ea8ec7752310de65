/-
One claim to a name at a time. A claim is verified only if the leading candidate is verified and is that
claim, whether it is asked about as one to a name of some kind or as one to a subrealm at some height; so
of two claims by different tokens at most one is verified, and at most one is the pending candidate. A
claim that was revealed late has no standing, whoever leads.
-/
import TokenOverlay.Proofs.Candidate.Standing

namespace TokenOverlay.Candidate

variable {p : Params} {claim : NameClaim} {leader : Leader} {payment : Payment} {r : Report}

/-! ## What a report says of the leader -/

/-- A report accords with the leading candidate: it speaks of a late reveal, of a verified claim or of a
pending candidate only where the claim is one, and of the first two always then. -/
structure Report.Accords (p : Params) (claim : NameClaim) (leader : Leader) (r : Report) : Prop where
  late : r.status = .revealedLate ↔ claim.Late p
  token_of_late : claim.Late p → r.token? = none
  verified : r.status = .verified ↔
    ¬ claim.Late p ∧ leader.stage = .verified ∧ leader.token? = some claim.token
  token_of_candidate : r.status = .pendingCandidate → leader.token? = some claim.token

theorem nameReport_accords (p : Params) (claim : NameClaim) (leader : Leader) (kind : NameKind) :
    (nameReport p claim leader kind).Accords p claim leader where
  late := nameReport_revealedLate_iff
  token_of_late h := by rw [nameReport_late h]
  verified := nameReport_verified_iff
  token_of_candidate h := (nameReport_pendingCandidate_iff.1 h).2.2.2

/-- A report whose status is none of the three accords with the leader if the claim is in time and not
verified. -/
theorem Report.accords_of_status (hlate : ¬ claim.Late p)
    (hother : ¬ (leader.stage = .verified ∧ leader.token? = some claim.token))
    (h : r.status ≠ .revealedLate ∧ r.status ≠ .verified ∧ r.status ≠ .pendingCandidate) :
    r.Accords p claim leader where
  late := iff_of_false h.1 hlate
  token_of_late := fun hclaim => absurd hclaim hlate
  verified := iff_of_false h.2.1 fun hverified => hother hverified.2
  token_of_candidate := fun hcandidate => absurd hcandidate h.2.2

theorem Phase.report_accords (hlate : ¬ claim.Late p) (hstage : leader.stage ≠ .verified) (due : UInt64)
    (phase : Phase) : (phase.report p claim leader payment due).Accords p claim leader := by
  have hphase : (phase.report p claim leader payment due).status.phase? = some phase :=
    Phase.phase?_report hstage due phase
  refine Report.accords_of_status hlate (fun h => hstage h.1) ⟨?_, ?_, ?_⟩ <;>
    intro hstatus <;> rw [hstatus] at hphase <;> cases hphase

theorem decided?_accords (h : decided? p claim leader payment = some r) : r.Accords p claim leader := by
  rcases decided?_cases h with ⟨rfl, -⟩ | ⟨rfl, hlate, hverified⟩
  · exact nameReport_accords p claim leader .subrealm
  · have hclaim : ¬ claim.Late p := mt nameReport_revealedLate_iff.2 hlate
    refine Report.accords_of_status hclaim (fun hother => ?_) ⟨?_, ?_, ?_⟩
    · exact hverified (nameReport_verified_iff.2 ⟨hclaim, hother⟩)
    · decide
    · decide
    · decide

theorem subrealmReport_accords (hfits : payment.Fits p claim.commit) (height : UInt64) :
    ∃ r, subrealmReport p height claim leader payment = .ok r ∧ r.Accords p claim leader := by
  refine ⟨_, subrealmReport_ok hfits, ?_⟩
  cases hdecided : decided? p claim leader payment with
  | some r => exact decided?_accords hdecided
  | none =>
    obtain ⟨hlate, hstage, -⟩ := decided?_eq_none.1 hdecided
    exact Phase.report_accords hlate hstage _ _

/-! ## Two claims -/

/-- What is asked of a claim: its standing as one to a name of some kind, or as one to a subrealm at a
height, with what is known of its payment. -/
inductive Question
  | name (kind : NameKind)
  | subrealm (height : UInt64) (payment : Payment)

namespace Question

/-- The heights that the answer counts from the commit fit a word. -/
def Fits (p : Params) (claim : NameClaim) : Question → Prop
  | name _ => True
  | subrealm _ payment => payment.Fits p claim.commit

def answer (p : Params) (leader : Leader) (claim : NameClaim) : Question → Except Fault Report
  | name kind => .ok (nameReport p claim leader kind)
  | subrealm height payment => subrealmReport p height claim leader payment

/-- A claim that was revealed late is answered whatever is asked of it: no height is counted for it. -/
theorem answer_late (q : Question) (h : claim.Late p) :
    q.answer p leader claim = .ok ⟨.revealedLate, none, some (lateNote p.nameRevealDelay)⟩ := by
  cases q with
  | name kind => exact congrArg Except.ok (nameReport_late h)
  | subrealm height payment =>
    have hdecided : decided? p claim leader payment = some (nameReport p claim leader .subrealm) := by
      unfold decided?
      rw [if_pos (.inl (nameReport_revealedLate_iff.2 h))]
    rw [← nameReport_late h]
    exact subrealmReport_of_decided hdecided

theorem answer_accords (q : Question) (hfits : q.Fits p claim) :
    ∃ r, q.answer p leader claim = .ok r ∧ r.Accords p claim leader := by
  cases q with
  | name kind => exact ⟨_, rfl, nameReport_accords p claim leader kind⟩
  | subrealm height payment => exact subrealmReport_accords hfits height

end Question

/-- At most one claim to a name is declared. Every question that counts heights within a word has an answer:
the claim was revealed late, with no candidate named, exactly if it is late by the exact heights, and it is
verified exactly if it is not late and the leading candidate is verified and is this claim. One that is
late is answered even where heights go beyond a word. Of two claims by different tokens, whatever is asked
of either, at most one is verified and at most one is the pending candidate. -/
theorem one_claim_declared (p : Params) (leader : Leader) :
    (∀ (claim : NameClaim) (q : Question), claim.commit.toNat + p.nameRevealDelay.toNat < claim.reveal.toNat →
      ∃ r, q.answer p leader claim = .ok r ∧ r.status = .revealedLate ∧ r.token? = none) ∧
    (∀ (claim : NameClaim) (q : Question), q.Fits p claim → ∃ r, q.answer p leader claim = .ok r ∧
      (r.status = .revealedLate ↔ claim.commit.toNat + p.nameRevealDelay.toNat < claim.reveal.toNat) ∧
      (r.status = .revealedLate → r.token? = none) ∧
      (r.status = .verified ↔ ¬ claim.commit.toNat + p.nameRevealDelay.toNat < claim.reveal.toNat ∧
        leader.stage = .verified ∧ leader.token? = some claim.token)) ∧
    ∀ (a b : NameClaim) (q q' : Question), a.token ≠ b.token → q.Fits p a → q'.Fits p b →
      ∃ r r', q.answer p leader a = .ok r ∧ q'.answer p leader b = .ok r' ∧
        ¬ (r.status = .verified ∧ r'.status = .verified) ∧
        ¬ (r.status = .pendingCandidate ∧ r'.status = .pendingCandidate) := by
  refine ⟨fun claim q hlate => ⟨_, q.answer_late hlate, rfl, rfl⟩, fun claim q hq => ?_,
    fun a b q q' hne hq hq' => ?_⟩
  · obtain ⟨r, hr, haccords⟩ := q.answer_accords hq
    exact ⟨r, hr, haccords.late, fun hlate => haccords.token_of_late (haccords.late.1 hlate), haccords.verified⟩
  · obtain ⟨r, hr, haccords⟩ := q.answer_accords hq
    obtain ⟨r', hr', haccords'⟩ := q'.answer_accords hq'
    -- there is one leader, and it is one token
    have hleads : leader.token? = some a.token → leader.token? = some b.token → False := by
      intro ha hb
      exact hne (Option.some.inj (ha.symm.trans hb))
    refine ⟨r, r', hr, hr', ?_, ?_⟩
    · rintro ⟨hverified, hverified'⟩
      exact hleads (haccords.verified.1 hverified).2.2 (haccords'.verified.1 hverified').2.2
    · rintro ⟨hcandidate, hcandidate'⟩
      exact hleads (haccords.token_of_candidate hcandidate) (haccords'.token_of_candidate hcandidate')

/-- A verified leader, asked about as a realm, and a claim by another token, asked about as a subrealm that
is paid for. -/
theorem one_claim_declared_verified :
    let a : NameClaim := ⟨⟨.fill 1, 0⟩, 100, 103⟩
    let b : NameClaim := ⟨⟨.fill 1, 1⟩, 100, 101⟩
    let leader : Leader := ⟨.verified, some a.token⟩
    let payment : Payment := ⟨.byRule, true, some (.fill 9), none⟩
    a.token ≠ b.token ∧ (Question.name .realm).Fits .mainnet a ∧ (Question.subrealm 120 payment).Fits .mainnet b ∧
      ∃ r r', (Question.name .realm).answer .mainnet leader a = .ok r ∧
        (Question.subrealm 120 payment).answer .mainnet leader b = .ok r' ∧
        r.status = .verified ∧ r'.status ≠ .verified := by
  intro a b leader payment
  have hne : a.token ≠ b.token := by decide
  have hfits : (Question.name .realm).Fits .mainnet a := trivial
  have hfits' : (Question.subrealm 120 payment).Fits .mainnet b := ⟨by decide, fun _ => by decide⟩
  obtain ⟨-, hone, htwo⟩ := one_claim_declared .mainnet leader
  obtain ⟨r, hr, -, -, hverified⟩ := hone a (.name .realm) hfits
  obtain ⟨r₁, r', hr₁, hr', hnot, -⟩ := htwo a b _ _ hne hfits hfits'
  have hstatus : r.status = .verified := hverified.2 ⟨by decide, rfl, rfl⟩
  refine ⟨hne, hfits, hfits', r, r', hr, hr', hstatus, fun hstatus' => hnot ⟨?_, hstatus'⟩⟩
  rw [← Except.ok.inj (hr.symm.trans hr₁)]
  exact hstatus

end TokenOverlay.Candidate
