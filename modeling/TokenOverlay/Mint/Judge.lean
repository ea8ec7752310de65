/-
Judging a mint: all gates in their order, and the record of a mint that passes them. With sanity
checks on, a record whose commit location is not the outpoint of its commit is a fault; an operation
that was located and not altered never meets it.
-/
import TokenOverlay.Fault
import TokenOverlay.Mint.Gate

namespace TokenOverlay.Mint

/-- The record of a mint, or the first gate it fails at. -/
def judge (p : Params) (op : Located) (tx : Transaction) (spent : ByInput SpentToken) :
    Except Refusal Record := do
  let (fungibility, issue?) ← checkPlace op
  let output ← firstOutput tx
  let fields ← Fields.ofPayload op.payload
  let work ← checkWork op fields.args
  let named? ← checkRequestCount fields.args
  let parents? ← checkParents p fields.args spent
  let (request?, deployment?) ← checkRequest p op.kind fields.args
  checkNameWork p named? work
  return {
    token := op.commit, fungibility, issue?, commitLocation := op.commitLocation,
    reveal := op.reveal, output, fields, work, request?, parents?, deployment? }

/-- Judges a mint under a configuration. A refusal comes before a fault. -/
def judgeUnder (c : Config) (op : Located) (tx : Transaction) (spent : ByInput SpentToken) :
    Except Fault (Except Refusal Record) :=
  match judge c.params op tx spent with
  | .error refusal => .ok (.error refusal)
  | .ok record =>
    if c.sanityChecks ∧ record.commitLocation ≠ record.token then .error .commitMismatch
    else .ok (.ok record)

/-- The note on a refusal, if there is anything to note. -/
def noteOn (op : Located) (tx : Transaction) (refusal : Refusal) : List Log :=
  let place := s!"mint {op.commitLocation.compact}: {refusal.message}"
  if refusal.isSilent then []
  else if refusal.isMisplaced then [.debug s!"tx {tx.id.text}: ignoring {place}"]
  else [.warn s!"tx {tx.id.text}: rejected {place}"]

/-- The record of a mint that is accepted; a refusal is noted. -/
def accept? (c : Config) (op : Located) (tx : Transaction) (spent : ByInput SpentToken) :
    Except Fault (Option Record × List Log) :=
  match judgeUnder c op tx spent with
  | .error fault => .error fault
  | .ok (.ok record) => .ok (some record, [])
  | .ok (.error refusal) => .ok (none, noteOn op tx refusal)

end TokenOverlay.Mint
