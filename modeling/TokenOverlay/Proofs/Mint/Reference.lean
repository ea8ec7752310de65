/-
The references of accepted mints. The reference of a token is made of the commit transaction and of the index of
the reveal output, which is always the first one. So it tells the commit transactions of two tokens apart, and
does not tell the outputs of one commit transaction apart.
-/
import TokenOverlay.Proofs.Chain.Forms
import TokenOverlay.Proofs.Locate
import TokenOverlay.Proofs.Mint.Judge

namespace TokenOverlay.Mint

variable {c c' : Config} {tx tx' : Transaction} {op op' : Located} {spent spent' : ByInput SpentToken}
variable {record record' : Record}

/-! ## Mints of any commit -/

/-- A transaction that reveals a non-fungible token with nothing said of it. -/
def plainMint (id : Digest) (commit : Outpoint) : Transaction :=
  ⟨id, [⟨commit, [Transaction.revealScript .nft [1, 0xa0]]⟩], [⟨546, []⟩]⟩

/-- The operation of a plain mint. -/
def plainOperation (id : Digest) (commit : Outpoint) : Located :=
  ⟨.nft, [], [0xa0], 0, commit, commit, ⟨id, 0⟩⟩

theorem locate_plainMint (id : Digest) (commit : Outpoint) :
    (plainMint id commit).locate.1 = some (plainOperation id commit) := by
  have hdecides : Envelope.Decides ⟨.nft, [0xa0]⟩ [Transaction.revealScript .nft [1, 0xa0]] :=
    Envelope.ofWitness_eq_some.1 (by decide +kernel)
  refine Transaction.locate_eq_some.2 ⟨⟨_, rfl, ?_⟩, fun j hj => absurd hj (Nat.not_lt_zero j)⟩
  exact Input.operation?_eq_some.2 ⟨_, [], ⟨hdecides, rfl⟩, rfl⟩

theorem judge_plainMint (id : Digest) (commit : Outpoint) :
    ∃ record, judgeUnder {} (plainOperation id commit) (plainMint id commit) .empty = .ok (.ok record) ∧
      record.token = commit := by
  have hjudge : judge .mainnet (plainOperation id commit) (plainMint id commit) .empty = .ok _ := rfl
  have hpasses := judge_ok.1 hjudge
  exact ⟨_, judgeUnder_eq_ok_iff.2 ⟨hpasses, fun h => h.2 rfl⟩, hpasses.token⟩

/-! ## What a reference tells -/

theorem reference_of_accepted (hop : tx.locate.1 = some op) (h : judgeUnder c op tx spent = .ok (.ok record)) :
    record.reference = (⟨record.token.txid, 0⟩ : Outpoint).reference := by
  obtain ⟨_, _, -, -, -, -, -, -, hreveal⟩ := Transaction.located_origin hop
  rw [Record.reference, (judgeUnder_ok h).reveal, hreveal]

/-- The references of two accepted mints agree exactly if the two tokens were committed by one transaction. -/
theorem reference_eq_iff_commit_eq (hop : tx.locate.1 = some op)
    (h : judgeUnder c op tx spent = .ok (.ok record)) (hop' : tx'.locate.1 = some op')
    (h' : judgeUnder c' op' tx' spent' = .ok (.ok record')) :
    record.reference = record'.reference ↔ record.token.txid = record'.token.txid := by
  rw [reference_of_accepted hop h, reference_of_accepted hop' h', Outpoint.reference_inj, Outpoint.mk.injEq]
  exact and_iff_left rfl

/-- Two tokens of two commit transactions, with one index. -/
theorem reference_eq_iff_commit_eq_apart :
    ∃ op op' record record', (plainMint (.fill 9) ⟨.fill 5, 0⟩).locate.1 = some op ∧
      judgeUnder {} op (plainMint (.fill 9) ⟨.fill 5, 0⟩) .empty = .ok (.ok record) ∧
      (plainMint (.fill 10) ⟨.fill 6, 0⟩).locate.1 = some op' ∧
      judgeUnder {} op' (plainMint (.fill 10) ⟨.fill 6, 0⟩) .empty = .ok (.ok record') ∧
      record.reference ≠ record'.reference := by
  obtain ⟨record, h, htoken⟩ := judge_plainMint (.fill 9) ⟨.fill 5, 0⟩
  obtain ⟨record', h', htoken'⟩ := judge_plainMint (.fill 10) ⟨.fill 6, 0⟩
  refine ⟨_, _, record, record', locate_plainMint _ _, h, locate_plainMint _ _, h', ?_⟩
  rw [ne_eq, reference_eq_iff_commit_eq (locate_plainMint _ _) h (locate_plainMint _ _) h', htoken, htoken']
  decide

/-- Two tokens of one commit transaction have one reference. -/
theorem reference_shared :
    ∃ op op' record record', (plainMint (.fill 9) ⟨.fill 5, 0⟩).locate.1 = some op ∧
      judgeUnder {} op (plainMint (.fill 9) ⟨.fill 5, 0⟩) .empty = .ok (.ok record) ∧
      (plainMint (.fill 10) ⟨.fill 5, 1⟩).locate.1 = some op' ∧
      judgeUnder {} op' (plainMint (.fill 10) ⟨.fill 5, 1⟩) .empty = .ok (.ok record') ∧
      record.token ≠ record'.token ∧ record.reference = record'.reference := by
  obtain ⟨record, h, htoken⟩ := judge_plainMint (.fill 9) ⟨.fill 5, 0⟩
  obtain ⟨record', h', htoken'⟩ := judge_plainMint (.fill 10) ⟨.fill 5, 1⟩
  refine ⟨_, _, record, record', locate_plainMint _ _, h, locate_plainMint _ _, h', ?_, ?_⟩
  · rw [htoken, htoken']
    decide
  · rw [reference_of_accepted (locate_plainMint _ _) h, reference_of_accepted (locate_plainMint _ _) h', htoken, htoken']

end TokenOverlay.Mint
