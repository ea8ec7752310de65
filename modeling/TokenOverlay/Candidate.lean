/-
The standing of one candidate for a name. Which candidate leads is known from elsewhere; here the
heights of a claim, and for a subrealm its payment, decide what is reported of the claim. A claim
that was revealed late has no standing at all. A subrealm claimed by rule has to be paid for between
two heights.
-/
import TokenOverlay.NameKind
import TokenOverlay.Window
import TokenOverlay.Chain.Outpoint

namespace TokenOverlay.Candidate

/-! ## What is known -/

/-- How far the leading candidate of a name has come. -/
inductive Stage
  | verified
  | pending
  | awaitingPayment
  deriving DecidableEq, Repr

/-- The leading candidate of a name. -/
structure Leader where
  stage : Stage
  token? : Option TokenId
  deriving DecidableEq, Repr

/-- A claim to a name. -/
structure NameClaim where
  token : TokenId
  commit : UInt64
  reveal : UInt64
  deriving DecidableEq, Repr

/-- Who has to pay for a subrealm. -/
inductive PaymentKind
  /-- The claimant, as a rule of the parent realm asks. -/
  | byRule
  /-- Nobody: the owner of the parent realm mints it. -/
  | byParent
  deriving DecidableEq, Repr

/-- What is known of the payment for a subrealm. -/
structure Payment where
  kind : PaymentKind
  /-- Whether a rule of the parent realm applies to the name. -/
  hasRule : Bool
  /-- The transaction that paid. -/
  paidBy? : Option Digest
  /-- The last height for the payment, if one was recorded with the candidate. -/
  due? : Option UInt64
  deriving DecidableEq, Repr

/-! ## What is reported -/

inductive Status
  | verified
  | claimedByOther
  | pending
  | pendingCandidate
  | pendingClaimedByOther
  | awaitingConfirmations
  | awaitingPaymentWindow
  | paidPrematurely
  | awaitingPayment
  | revealedLate
  | paymentNotReceived
  | noApplicableRule
  deriving DecidableEq, Repr

def Status.code : Status → String
  | verified => "verified"
  | claimedByOther => "claimed_by_other"
  | pending => "pending"
  | pendingCandidate => "pending_candidate"
  | pendingClaimedByOther => "pending_claimed_by_other"
  | awaitingConfirmations => "pending_awaiting_confirmations"
  | awaitingPaymentWindow => "pending_awaiting_confirmations_for_payment_window"
  | paidPrematurely => "pending_awaiting_confirmations_payment_received_prematurely"
  | awaitingPayment => "pending_awaiting_payment"
  | revealedLate => "expired_revealed_late"
  | paymentNotReceived => "expired_payment_not_received"
  | noApplicableRule => "invalid_request_subrealm_no_matched_applicable_rule"

/-- The status that says no more than how far the leader has come. -/
def Stage.status : Stage → Status
  | verified => .verified
  | pending => .pending
  | awaitingPayment => .awaitingPayment

structure Report where
  status : Status
  /-- The candidate that the status speaks of. -/
  token? : Option TokenId
  note? : Option String
  deriving DecidableEq, Repr

/-- The heights between which a subrealm is to be paid for. -/
structure PaymentWindow where
  first : UInt64
  last : UInt64
  deriving DecidableEq, Repr

/-! ## Names -/

def lateNote (delay : UInt64) : String :=
  s!"The maximum number of blocks between commit and reveal is {delay} blocks"

def verifiedNote (kind : NameKind) : String :=
  s!"Successfully verified and claimed {kind} for current Atomical"

def lostNote (kind : NameKind) : String :=
  s!"Failed to claim {kind} for current Atomical because it was claimed first by another Atomical"

def leadingNote (kind : NameKind) (delay : UInt64) : String :=
  s!"The current Atomical is the leading candidate for the {kind}. Wait the {delay} blocks after commit to achieve confirmation"

/-- The standing of a candidate for a name of any kind. Of a subrealm that is still pending it says
no more than the leader's stage. -/
def nameReport (p : Params) (claim : NameClaim) (leader : Leader) (kind : NameKind) : Report :=
  let leads := leader.token? = some claim.token
  if !p.nameRevealsInTime claim.commit claim.reveal then
    ⟨.revealedLate, none, some (lateNote p.nameRevealDelay)⟩
  else match leader.stage with
    | .verified =>
      if leads then ⟨.verified, leader.token?, some (verifiedNote kind)⟩
      else ⟨.claimedByOther, leader.token?, some (lostNote kind)⟩
    | .pending =>
      if kind = .subrealm then ⟨.pending, leader.token?, none⟩
      else if leads then
        ⟨.pendingCandidate, leader.token?, some (leadingNote kind p.nameRevealDelay)⟩
      else ⟨.pendingClaimedByOther, leader.token?, some (lostNote kind)⟩
    | .awaitingPayment => ⟨.awaitingPayment, leader.token?, none⟩

/-! ## Subrealms -/

/-- The last height for a payment: the recorded one, else the one counted from the commit. -/
def paymentDue (p : Params) (commit : UInt64) (payment : Payment) : Except Fault UInt64 :=
  match payment.due? with
  | some due => .ok due
  | none => p.payUntil commit

/-- The heights between which a claim is to be paid for, if it is to be paid for. -/
def paymentWindow (p : Params) (commit : UInt64) (payment : Payment) :
    Except Fault (Option PaymentWindow) :=
  match payment.kind with
  | .byParent => .ok none
  | .byRule => do
    let first ← p.payFrom commit
    let last ← paymentDue p commit payment
    return some ⟨first, last⟩

def unpaidNote : String :=
  "A valid payment was not received before the 'payment_due_no_later_than_height' limit"

def prematureNote (delay : UInt64) : String :=
  s!"A payment was received, but the minimum delay of {delay} blocks has not yet elapsed to declare a winner"

def windowNote : String :=
  "Await until the 'make_payment_from_height' block height for the payment window to be open with status 'pending_awaiting_payment'"

def elapseNote (delay : UInt64) : String :=
  s!"Await {delay} blocks has elapsed to verify"

def dueNote (due : UInt64) : String :=
  s!"The payment must be received by block height {due} to claim successfully"

def otherDueNote (due : UInt64) : String :=
  s!"Another Atomical is the leading candidate and they have until block height {due} to claim successfully."

/-- The report while an earlier commit may still be revealed. -/
def waitingReport (p : Params) (leader : Leader) (payment : Payment) : Report :=
  match payment.kind, payment.paidBy? with
  | .byRule, some _ =>
    ⟨.paidPrematurely, leader.token?, some (prematureNote p.nameRevealDelay)⟩
  | .byRule, none => ⟨.awaitingPaymentWindow, leader.token?, some windowNote⟩
  | .byParent, _ => ⟨.awaitingConfirmations, leader.token?, some (elapseNote p.nameRevealDelay)⟩

/-- The report once no earlier commit can be revealed any more. -/
def settledReport (claim : NameClaim) (leader : Leader) (due : UInt64) : Report :=
  match leader.stage with
  | .awaitingPayment =>
    let leads := leader.token? = some claim.token
    ⟨.awaitingPayment, leader.token?, some (if leads then dueNote due else otherDueNote due)⟩
  | stage => ⟨stage.status, leader.token?, none⟩

/-- The report of a claim that nothing has decided yet. -/
def openReport (p : Params) (height : UInt64) (claim : NameClaim) (leader : Leader)
    (payment : Payment) : Except Fault Report := do
  let due ← paymentDue p claim.commit payment
  if payment.kind = .byRule ∧ payment.paidBy? = none ∧ due < height then
    return ⟨.paymentNotReceived, none, some unpaidNote⟩
  else
    let first ← p.payFrom claim.commit
    if height < first then return waitingReport p leader payment
    else return settledReport claim leader due

/-- The standing of a candidate for a subrealm at a height. -/
def subrealmReport (p : Params) (height : UInt64) (claim : NameClaim) (leader : Leader)
    (payment : Payment) : Except Fault Report :=
  let base := nameReport p claim leader .subrealm
  if base.status = .revealedLate ∨ base.status = .verified then .ok base
  else if payment.kind = .byRule ∧ !payment.hasRule then .ok ⟨.noApplicableRule, none, none⟩
  else if base.status = .claimedByOther then .ok base
  else openReport p height claim leader payment

end TokenOverlay.Candidate
