/-
What an accepted mint went through. The record is taken apart into what each gate found, so that a
law of accepted mints is a law of the gates it speaks of.
-/
import TokenOverlay.Mint.Judge
import TokenOverlay.Proofs.Mint.Gate

namespace TokenOverlay.Mint

/-- A mint passes all gates, each of which found its part of the record. -/
structure Passes (p : Params) (op : Located) (tx : Transaction) (spent : ByInput SpentToken)
    (record : Record) : Prop where
  place : checkPlace op = .ok (record.fungibility, record.issue?)
  output : firstOutput tx = .ok record.output
  fields : Fields.ofPayload op.payload = .ok record.fields
  work : checkWork op record.fields.args = .ok record.work
  nameWork : ∃ named?, checkRequestCount record.fields.args = .ok named? ∧
    checkNameWork p named? record.work = .ok ()
  parents : checkParents p record.fields.args spent = .ok record.parents?
  request : checkRequest p op.kind record.fields.args = .ok (record.request?, record.deployment?)
  token : record.token = op.commit
  commitLocation : record.commitLocation = op.commitLocation
  reveal : record.reveal = op.reveal

variable {c : Config} {p : Params} {op : Located} {tx : Transaction} {spent : ByInput SpentToken}
variable {record : Record}

theorem judge_ok : judge p op tx spent = .ok record ↔ Passes p op tx spent record := by
  simp only [judge, bind_ok_iff]
  constructor
  · rintro ⟨⟨fungibility, issue?⟩, hplace, output, houtput, fields, hfields, work, hwork, named?, hnamed,
      parents?, hparents, ⟨request?, deployment?⟩, hrequest, ⟨⟩, hname, h⟩
    cases h
    exact ⟨hplace, houtput, hfields, hwork, ⟨named?, hnamed, hname⟩, hparents, hrequest, rfl, rfl, rfl⟩
  · intro h
    obtain ⟨named?, hnamed, hname⟩ := h.nameWork
    refine ⟨_, h.place, _, h.output, _, h.fields, _, h.work, named?, hnamed, _, h.parents, _, h.request,
      (), hname, ?_⟩
    simp only [← h.token, ← h.commitLocation, ← h.reveal]
    rfl

/-- Sanity checks turn some records into faults and alter none. -/
theorem judgeUnder_eq_ok_iff : judgeUnder c op tx spent = .ok (.ok record) ↔
    Passes c.params op tx spent record ∧ ¬ (c.sanityChecks = true ∧ op.commitLocation ≠ op.commit) := by
  unfold judgeUnder
  cases hjudge : judge c.params op tx spent with
  | error refusal =>
    constructor
    · intro h
      cases h
    · rintro ⟨hpasses, -⟩
      rw [judge_ok.2 hpasses] at hjudge
      cases hjudge
  | ok found =>
    have hfound := judge_ok.1 hjudge
    have hsame : Passes c.params op tx spent record ↔ found = record := by
      rw [← judge_ok, hjudge, Except.ok.injEq]
    rw [hsame, ← hfound.commitLocation, ← hfound.token]
    constructor
    · intro h
      dsimp only at h
      split at h
      · cases h
      · rename_i hfault
        cases h
        exact ⟨rfl, hfault⟩
    · rintro ⟨rfl, hfault⟩
      exact if_neg hfault

theorem judgeUnder_ok (h : judgeUnder c op tx spent = .ok (.ok record)) : Passes c.params op tx spent record :=
  (judgeUnder_eq_ok_iff.1 h).1

/-! ## Names -/

/-- A name that is granted was counted, so if it needs work there is enough of it on the commit. -/
theorem Passes.nameWork_of_needsWork (h : Passes p op tx spent record) {request : Request}
    (hr : record.request? = some request) (hk : request.kind.needsWork = true) :
    ∃ w, record.work.commit? = some w ∧ p.minNameWork.toNat ≤ w.stem.length := by
  obtain ⟨named?, hcount, hname⟩ := h.nameWork
  have hnamed : request.NamedBy record.fields.args := checkRequest_named (hr ▸ h.request)
  obtain rfl := checkRequestCount_named hcount hnamed.mem_requestedKinds hk
  exact checkNameWork_some.1 hname

/-- The work that is kept for the commit was done by the commit. -/
theorem Passes.commitWork_meets (h : Passes p op tx spent record) {w : Bitwork}
    (hw : record.work.commit? = some w) : w.Meets op.commit.txid.digits := by
  obtain ⟨hcommit, -⟩ := checkWork_ok.1 h.work
  rw [hw] at hcommit
  exact (workDone_some.1 hcommit).2

/-- No realm, container or ticker is granted without work: the record keeps a requirement with a long
enough stem of hex digits, which the displayed id of the commit meets. -/
theorem granted_name_worked {request : Request} (h : judgeUnder c op tx spent = .ok (.ok record))
    (hr : record.request? = some request)
    (hk : request.kind = .realm ∨ request.kind = .container ∨ request.kind = .ticker) :
    ∃ w, record.work.commit? = some w ∧ c.params.minNameWork.toNat ≤ w.stem.length ∧
      (∀ digit ∈ w.stem.toList, Hex.IsLowerDigit digit) ∧ w.Meets op.commit.txid.digits := by
  have hpasses := judgeUnder_ok h
  have hneeds : request.kind.needsWork = true := by
    rcases hk with hk | hk | hk <;> rw [hk] <;> rfl
  obtain ⟨w, hw, hlong⟩ := hpasses.nameWork_of_needsWork hr hneeds
  have hmeets := hpasses.commitWork_meets hw
  exact ⟨w, hw, hlong, hmeets.isLowerDigit, hmeets⟩

/-- The id of the commit is shown as `000080ff…`: four zeros and a digit of at least 7. -/
theorem granted_name_worked_realm :
    let txid : Digest := ⟨List.replicate 29 0xff ++ [0x80, 0, 0], rfl⟩
    let args : Payload.Map := [("request_realm", .text "abc"), ("bitworkc", .text "0000.7")]
    let op : Located := ⟨.nft, [("args", .map args)], [], 0, ⟨txid, 0⟩, ⟨txid, 0⟩, ⟨.fill 9, 0⟩⟩
    let tx : Transaction := ⟨.fill 9, [], [⟨546, []⟩]⟩
    ∃ record, judgeUnder {} op tx .empty = .ok (.ok record) ∧ record.request? = some (.realm "abc") ∧
      ∃ w, record.work.commit? = some w ∧ 4 ≤ w.stem.length ∧
        (∀ digit ∈ w.stem.toList, Hex.IsLowerDigit digit) ∧ w.Meets txid.digits := by
  intro txid args op tx
  refine ⟨_, rfl, rfl, ?_⟩
  exact granted_name_worked (show judgeUnder {} op tx .empty = .ok (.ok _) from rfl) rfl (.inl rfl)

end TokenOverlay.Mint
