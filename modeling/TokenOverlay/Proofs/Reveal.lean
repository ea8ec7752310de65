/-
What comes of a transaction. Its operation was located in it and not altered, so that the commit location is
that of the commit and the payload is sound: no mint meets the fault that sanity checks look for, and whatever a
record keeps of the payload is as sound as that is. Only spent tokens whose records are too short leave a
transaction without an answer.
-/
import TokenOverlay.Proofs.Locate
import TokenOverlay.Proofs.Mint.Fields
import TokenOverlay.Proofs.Spent
import TokenOverlay.Reveal

namespace TokenOverlay

open List (Forall₂)
open Payload (Map Value)

variable {c : Config} {tx : Transaction} {op : Located} {spent : ByInput SpentToken} {r : Reveal}
  {logs : List Log} {records : ByInput SpentRecord}

/-! ## Located operations -/

namespace Transaction

theorem located_commit (h : tx.locate.1 = some op) : op.commitLocation = op.commit := by
  obtain ⟨input, e, -, -, -, -, hcommit, hlocation, -⟩ := located_origin h
  rw [hcommit, hlocation]

theorem located_sound (h : tx.locate.1 = some op) : ∀ f ∈ Payload.fields, f.Sound op.payload := by
  obtain ⟨input, e, -, hcarries, -⟩ := located_origin h
  exact Payload.sound_of_decodeSound hcarries.sound

end Transaction

/-! ## Judging without a fault -/

namespace Mint

/-- A mint whose commit location is that of its commit is judged alike with and without sanity checks. -/
theorem judgeUnder_of_located (h : op.commitLocation = op.commit) :
    judgeUnder c op tx spent = .ok (judge c.params op tx spent) := by
  unfold judgeUnder
  cases hjudge : judge c.params op tx spent with
  | error refusal => rfl
  | ok record =>
    have hpasses := judge_ok.1 hjudge
    have hsame : record.commitLocation = record.token := by
      rw [hpasses.commitLocation, hpasses.token, h]
    simp [hsame]

theorem exists_accept? (h : op.commitLocation = op.commit) : ∃ found, accept? c op tx spent = .ok found := by
  unfold accept?
  rw [judgeUnder_of_located h]
  cases judge c.params op tx spent with
  | error refusal => exact ⟨_, rfl⟩
  | ok record => exact ⟨_, rfl⟩

theorem accept?_sanity (h : op.commitLocation = op.commit) (sanity : Bool) :
    accept? { c with sanityChecks := sanity } op tx spent = accept? c op tx spent := by
  unfold accept?
  rw [judgeUnder_of_located h, judgeUnder_of_located h]

theorem accept?_some {record : Record} (h : accept? c op tx spent = .ok (some record, logs)) :
    Passes c.params op tx spent record := by
  unfold accept? at h
  split at h
  · cases h
  · rename_i found hfound
    cases h
    exact judgeUnder_ok hfound
  · cases h

end Mint

/-! ## Outcomes -/

namespace Reveal

theorem ofSpent_ok (h : ofSpent c tx spent = .ok (r, logs)) :
    r.operation? = tx.locate.1 ∧ r.spent = spent ∧
      ∀ record, r.mint? = some record →
        ∃ op, tx.locate.1 = some op ∧ Mint.Passes c.params op tx spent record := by
  unfold ofSpent at h
  split at h
  · rename_i hlocate
    cases h
    rw [hlocate]
    exact ⟨rfl, rfl, fun _ hmint => by cases hmint⟩
  · rename_i op _ hlocate
    obtain ⟨found, hfound, heq⟩ := map_ok_iff.1 h
    cases heq
    unfold ofOperation at hfound
    split at hfound
    · cases hfound
    · rename_i mint? _ haccept
      cases hfound
      rw [hlocate]
      refine ⟨rfl, rfl, fun record hmint => ⟨op, rfl, ?_⟩⟩
      obtain rfl : mint? = some record := hmint
      exact Mint.accept?_some haccept

theorem exists_ofSpent (c : Config) (tx : Transaction) (spent : ByInput SpentToken) :
    ∃ r logs, ofSpent c tx spent = .ok (r, logs) := by
  unfold ofSpent
  split
  · exact ⟨_, _, rfl⟩
  · rename_i op _ hlocate
    have hcommit : op.commitLocation = op.commit := Transaction.located_commit (congrArg Prod.fst hlocate)
    obtain ⟨found, hfound⟩ : ∃ found, Mint.accept? c op tx spent = .ok found := Mint.exists_accept? hcommit
    simp only [ofOperation, hfound]
    exact ⟨_, _, rfl⟩

theorem ofSpent_sanity (sanity : Bool) :
    ofSpent { c with sanityChecks := sanity } tx spent = ofSpent c tx spent := by
  unfold ofSpent
  split
  · rfl
  · rename_i op _ hlocate
    have hcommit : op.commitLocation = op.commit := Transaction.located_commit (congrArg Prod.fst hlocate)
    rw [ofOperation, ofOperation, Mint.accept?_sanity hcommit]

theorem process_ok (h : process c tx records = .ok (.ok (r, logs))) : ∃ spent,
    SpentRecord.readAll c.params.recordValueOffset records = .ok spent ∧ ofSpent c tx spent = .ok (r, logs) :=
  map_ok_iff.1 h

theorem process_error_iff {e : SpentRecord.TooShort} : process c tx records = .error e ↔
    SpentRecord.readAll c.params.recordValueOffset records = .error e :=
  map_error_iff

theorem exists_process_error : (∃ e, process c tx records = .error e) ↔
    ∃ r ∈ records.entries, r.IsShort c.params.recordValueOffset := by
  simp only [process_error_iff]
  exact SpentRecord.exists_readAll_error

/-- Once the records are read, there is an answer and no fault. -/
theorem answer_of_process {outcome : Except Fault (Reveal × List Log)} (h : process c tx records = .ok outcome) :
    ∃ r logs, outcome = .ok (r, logs) ∧
      SpentRecord.readAll c.params.recordValueOffset records = .ok r.spent := by
  obtain ⟨spent, hread, rfl⟩ := map_ok_iff.1 h
  obtain ⟨r, logs, hr⟩ := exists_ofSpent c tx spent
  obtain ⟨-, rfl, -⟩ := ofSpent_ok hr
  exact ⟨r, logs, hr, hread⟩

theorem process_sanity (c : Config) (tx : Transaction) (records : ByInput SpentRecord) (sanity : Bool) :
    process { c with sanityChecks := sanity } tx records = process c tx records := by
  unfold process
  exact congrArg (Except.map · _) (funext fun spent => ofSpent_sanity sanity)

/-- What was revealed is sound. The looked-at fields of the operation are absent or maps without banned values;
the record of a mint has these maps, and an empty one where there is none. So no located operation is ever
refused, as a mint or as a claim, for a field that is no map. -/
theorem revealed_fields_sound (c : Config) (tx : Transaction) (records : ByInput SpentRecord) :
    (∀ (r : Reveal) (logs : List Log) (op : Located), process c tx records = .ok (.ok (r, logs)) →
      r.operation? = some op →
      (∀ f ∈ Payload.fields, f.Sound op.payload) ∧
      ∀ record, r.mint? = some record → ∀ e ∈ record.fields.named,
        Mint.HasMap op.payload e.1 e.2 ∧ ∀ w : Value, w.Within (.map e.2) → w.Admitted (e.1 == "init")) ∧
    ∀ op, tx.locate.1 = some op → ∀ field,
      (∀ (c : Config) (tx : Transaction) (spent : ByInput SpentToken),
        Mint.judgeUnder c op tx spent ≠ .ok (.error (.fieldNotAMap field))) ∧
      Claim.ticker op ≠ .error (.fieldNotAMap field) := by
  constructor
  · intro r logs op h hop
    obtain ⟨spent, -, hspent⟩ := process_ok h
    obtain ⟨hlocate, -, hmint⟩ := ofSpent_ok hspent
    rw [hop] at hlocate
    have hsound := Transaction.located_sound hlocate.symm
    refine ⟨hsound, fun record hrecord e he => ?_⟩
    -- the record was made of the operation that was located
    obtain ⟨op', hop', hpasses⟩ := hmint record hrecord
    obtain rfl : op = op' := Option.some.inj (hlocate.trans hop')
    have hmap := Mint.Fields.ofPayload_ok.1 hpasses.fields e he
    have hfield : Payload.Field.Sound ⟨e.1, e.1 == "init"⟩ op.payload := hsound _ (Mint.Fields.looked_at he)
    exact ⟨hmap, fun w hw => Mint.HasMap.admitted (f := ⟨e.1, e.1 == "init"⟩) hmap hfield w hw⟩
  · intro op hop field
    have hsound := Transaction.located_sound hop
    refine ⟨fun c tx spent h => ?_, Claim.ticker_ne_fieldNotAMap hsound field⟩
    -- without a fault the judgement is that of the gates
    rw [Mint.judgeUnder_of_located (Transaction.located_commit hop)] at h
    exact Mint.judge_blameless hsound field (Except.ok.inj h)

/-- A mint with bytes under `init` and a list under `args`. -/
theorem revealed_fields_sound_init :
    let payload : Bytes := [0xa2, 0x64, 0x69, 0x6e, 0x69, 0x74, 0xa1, 0x61, 0x61, 0x41, 1,
      0x64, 0x61, 0x72, 0x67, 0x73, 0xa1, 0x61, 0x62, 0x81, 5]
    let mint : Input := ⟨⟨.fill 1, 0⟩, [Transaction.revealScript .nft (21 :: payload)]⟩
    let tx : Transaction := ⟨.fill 9, [mint], [⟨546, []⟩]⟩
    ∃ r logs op record, process {} tx .empty = .ok (.ok (r, logs)) ∧ r.operation? = some op ∧
      r.mint? = some record ∧ (∀ f ∈ Payload.fields, f.Sound op.payload) ∧
      ∀ e ∈ record.fields.named, ∀ w : Value, w.Within (.map e.2) → w.Admitted (e.1 == "init") := by
  intro payload mint tx
  have hfound : ((process {} tx .empty).toOption.bind Except.toOption).any
      (fun found => found.1.operation?.isSome && found.1.mint?.isSome) = true := by decide +kernel
  obtain ⟨found, hprocess, hsome⟩ := (Option.any_eq_true _ _).1 hfound
  obtain ⟨outcome, houtcome, hanswer⟩ := Option.bind_eq_some_iff.1 hprocess
  rw [toOption_eq_some] at houtcome hanswer
  rw [hanswer] at houtcome
  obtain ⟨hop, hmint⟩ := Bool.and_eq_true_iff.1 hsome
  obtain ⟨op, hop⟩ := Option.isSome_iff_exists.1 hop
  obtain ⟨record, hrecord⟩ := Option.isSome_iff_exists.1 hmint
  obtain ⟨hsound, hfields⟩ := (revealed_fields_sound {} tx .empty).1 found.1 found.2 op houtcome hop
  exact ⟨found.1, found.2, op, record, houtcome, hop, hrecord, hsound, fun e he => (hfields record hrecord e he).2⟩

/-- A transaction is answered for as a whole or not at all. There is no answer exactly if a record is too short,
and the first such record is named; otherwise every record is read, and keeps its input and its place. No fault
is met, so that it does not matter whether sanity checks are on. -/
theorem process_all_or_nothing (c : Config) (tx : Transaction) (records : ByInput SpentRecord) :
    ((∃ e, process c tx records = .error e) ↔
      ∃ r ∈ records.entries, r.data.length < c.params.recordValueOffset.toNat + 8) ∧
    (∀ e, process c tx records = .error e ↔ ∃ before r after, records.entries = before ++ r :: after ∧
      (∀ x ∈ before, ¬ x.data.length < c.params.recordValueOffset.toNat + 8) ∧
      r.data.length < c.params.recordValueOffset.toNat + 8 ∧
      e = ⟨r.data.length, c.params.recordValueOffset.toNat⟩) ∧
    ((∀ r ∈ records.entries, ¬ r.data.length < c.params.recordValueOffset.toNat + 8) →
      ∃ r logs, process c tx records = .ok (.ok (r, logs)) ∧
        Forall₂ (fun row new => row.1 = new.1 ∧ Forall₂ (SpentRecord.Holds c.params.recordValueOffset) row.2 new.2)
          records.rows r.spent.rows) ∧
    (∀ fault, process c tx records ≠ .ok (.error fault)) ∧
    (∀ sanity, process { c with sanityChecks := sanity } tx records = process c tx records) ∧
    ∀ op, tx.locate.1 = some op → op.commitLocation = op.commit := by
  refine ⟨exists_process_error, fun e => ?_, fun hlong => ?_, fun fault h => ?_, process_sanity c tx records,
    fun op => Transaction.located_commit⟩
  · rw [process_error_iff]
    exact SpentRecord.readAll_error_iff
  · cases hprocess : process c tx records with
    | error e =>
      obtain ⟨r, hr, hshort⟩ := exists_process_error.1 ⟨e, hprocess⟩
      exact absurd hshort (hlong r hr)
    | ok outcome =>
      obtain ⟨r, logs, rfl, hread⟩ := answer_of_process hprocess
      exact ⟨r, logs, rfl, SpentRecord.readAll_ok hread⟩
  · obtain ⟨r, logs, hr, -⟩ := answer_of_process h
    cases hr

/-- A record of nine bytes is too short at the greatest offset, and holds a value at offset one. -/
theorem process_all_or_nothing_offsets :
    let config (offset : UInt64) : Config := { params := { Params.mainnet with recordValueOffset := offset } }
    let tx : Transaction := ⟨.fill 9, [], []⟩
    let records : ByInput SpentRecord :=
      ⟨[(0, []), (2, [⟨⟨.fill 1, 0⟩, [0, 1, 2, 3, 4, 5, 6, 7, 8]⟩])], by decide⟩
    process (config 18446744073709551615) tx records = .error ⟨9, 18446744073709551615⟩ ∧
      ∃ r logs, process (config 1) tx records = .ok (.ok (r, logs)) ∧
        Forall₂ (fun row new => row.1 = new.1 ∧ Forall₂ (SpentRecord.Holds 1) row.2 new.2)
          records.rows r.spent.rows := by
  intro config tx records
  obtain ⟨-, hfirst, -⟩ := process_all_or_nothing (config 18446744073709551615) tx records
  obtain ⟨-, -, hread, -⟩ := process_all_or_nothing (config 1) tx records
  constructor
  · refine (hfirst _).2 ⟨[], _, [], rfl, List.forall_mem_nil _, ?_, rfl⟩
    decide
  · refine hread fun r hr => ?_
    obtain rfl := List.mem_singleton.1 hr
    decide

end Reveal

end TokenOverlay
