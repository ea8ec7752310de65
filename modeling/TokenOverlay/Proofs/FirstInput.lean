/-
What the first input decides. An operation found at any other input is refused as a mint and as a
claim, and skips nothing, so as far as these go it may as well not be there: two transactions whose
first inputs agree are granted the same, whatever they carry further on.
-/
import TokenOverlay.Proofs.Locate
import TokenOverlay.Reveal
import TokenOverlay.Transfer

namespace TokenOverlay

variable {c : Config} {tx tx₁ tx₂ : Transaction} {spent : ByInput SpentToken} {op : Located}

/-! ## Operations found elsewhere -/

namespace Mint

theorem checkPlace_elsewhere (h : op.inputIndex ≠ 0) : ∃ refusal, checkPlace op = .error refusal := by
  unfold checkPlace
  split
  · exact ⟨_, rfl⟩
  · rw [if_pos h]
    exact ⟨_, rfl⟩

theorem judge_elsewhere (p : Params) (tx : Transaction) (spent : ByInput SpentToken) (h : op.inputIndex ≠ 0) :
    ∃ refusal, judge p op tx spent = .error refusal := by
  obtain ⟨refusal, hplace⟩ := checkPlace_elsewhere h
  refine ⟨refusal, ?_⟩
  unfold judge
  rw [hplace]
  rfl

/-- No operation found elsewhere mints, and none is a fault. -/
theorem accept?_elsewhere (h : op.inputIndex ≠ 0) : (accept? c op tx spent).map Prod.fst = .ok none := by
  obtain ⟨refusal, hjudge⟩ := judge_elsewhere c.params tx spent h
  simp only [accept?, judgeUnder, hjudge]
  rfl

end Mint

namespace Claim

theorem ticker_elsewhere (h : op.inputIndex ≠ 0) : ∃ refusal, ticker op = .error refusal := by
  unfold ticker
  split
  · exact ⟨_, rfl⟩
  · exact ⟨_, rfl⟩

theorem accept?_elsewhere (h : op.inputIndex ≠ 0) : (accept? op).1 = none := by
  obtain ⟨refusal, hticker⟩ := ticker_elsewhere h
  unfold accept?
  rw [hticker]
  cases refusal <;> rfl

end Claim

theorem skipAmount_elsewhere (token : TokenId) (h : op.inputIndex ≠ 0) : skipAmount (some op) token = 0 := by
  have hfirst : op.isFirst .skip = false := by
    rw [Located.isFirst, Bool.and_eq_false_iff]
    exact .inr (beq_eq_false_iff_ne.2 h)
  simp [skipAmount, hfirst]

/-! ## The first output -/

namespace Mint

/-- A mint sees no output but the first. -/
theorem judge_congr (p : Params) (h : tx₁.outputs.head? = tx₂.outputs.head?) :
    judge p op tx₁ spent = judge p op tx₂ spent := by
  have hout : firstOutput tx₁ = firstOutput tx₂ := by
    have hhead : ∀ tx : Transaction, firstOutput tx = tx.outputs.head?.elim (.error .noOutputs) .ok := by
      intro tx
      unfold firstOutput
      cases tx.outputs with
      | nil => rfl
      | cons o rest => rfl
    rw [hhead, hhead, h]
  unfold judge
  rw [hout]

theorem accept?_congr (h : tx₁.outputs.head? = tx₂.outputs.head?) :
    (accept? c op tx₁ spent).map Prod.fst = (accept? c op tx₂ spent).map Prod.fst := by
  simp only [accept?, judgeUnder, judge_congr c.params h]
  split
  · rfl
  · rfl
  · rfl

end Mint

/-! ## The first input -/

namespace Transaction

/-- The operation of the first input. -/
def firstOperation? (tx : Transaction) : Option Located :=
  tx.inputs.head?.bind (Input.operation? tx.id 0)

theorem le_index_of_locateFrom {id : Digest} {i : Nat} {inputs : List Input}
    (h : (locateFrom id i inputs).1 = some op) : i ≤ op.inputIndex := by
  obtain ⟨k, input, -, hop, -⟩ := locateFrom_eq_some.1 h
  rw [Input.inputIndex_of_operation? hop]
  exact Nat.le_add_right i k

/-- Whatever takes an operation found elsewhere for none depends on the operation of the first input
alone. -/
theorem apply_locate {β : Type} {f : Option Located → β}
    (hf : ∀ op, op.inputIndex ≠ 0 → f (some op) = f none) (tx : Transaction) :
    f tx.locate.1 = f tx.firstOperation? := by
  unfold locate firstOperation?
  cases tx.inputs with
  | nil => rfl
  | cons input rest =>
    rw [locateFrom_cons, List.head?_cons, Option.bind_some]
    cases input.operation? tx.id 0 with
    | some op => rfl
    | none =>
      rw [Option.none_or]
      -- what is found now was found at a later input
      cases hlater : (locateFrom tx.id (0 + 1) rest).1 with
      | none => rfl
      | some op => exact hf op (Nat.ne_of_gt (le_index_of_locateFrom hlater))

end Transaction

namespace Reveal

/-- What an operation is granted: the record of a mint and the ticker of a claim. -/
def granted (c : Config) (tx : Transaction) (spent : ByInput SpentToken) :
    Option Located → Except Fault (Option Mint.Record × Option String)
  | none => .ok (none, none)
  | some op => ((Mint.accept? c op tx spent).map Prod.fst).map fun mint? => (mint?, (Claim.accept? op).1)

theorem granted_ofSpent (c : Config) (tx : Transaction) (spent : ByInput SpentToken) :
    (ofSpent c tx spent).map (fun r => (r.1.mint?, r.1.claimed?)) = granted c tx spent tx.locate.1 := by
  unfold ofSpent
  rcases tx.locate with ⟨_ | op, logs⟩
  · rfl
  · simp only [granted, ofOperation]
    cases Mint.accept? c op tx spent <;> rfl

theorem granted_elsewhere (h : op.inputIndex ≠ 0) :
    granted c tx spent (some op) = granted c tx spent none := by
  simp only [granted, Mint.accept?_elsewhere h, Claim.accept?_elsewhere h]
  rfl

theorem granted_congr (h : tx₁.outputs.head? = tx₂.outputs.head?) (op? : Option Located) :
    granted c tx₁ spent op? = granted c tx₂ spent op? := by
  cases op? with
  | none => rfl
  | some op => simp only [granted, Mint.accept?_congr h]

/-- What a transaction is granted is what the operation of its first input is. -/
theorem granted_process (c : Config) (tx : Transaction) (records : ByInput SpentRecord) :
    (process c tx records).map (Except.map fun r => (r.1.mint?, r.1.claimed?)) =
      (SpentRecord.readAll c.params.recordValueOffset records).map
        fun spent => granted c tx spent tx.firstOperation? := by
  unfold process
  cases SpentRecord.readAll c.params.recordValueOffset records with
  | error e => rfl
  | ok spent =>
    refine congrArg Except.ok ((granted_ofSpent c tx spent).trans ?_)
    exact Transaction.apply_locate (fun _ => granted_elsewhere) tx

end Reveal

/-- Skips are asked for by the operation of the first input. -/
theorem skipAmount_locate (tx : Transaction) (token : TokenId) :
    skipAmount tx.locate.1 token = skipAmount tx.firstOperation? token :=
  Transaction.apply_locate (f := (skipAmount · token)) (fun _ => skipAmount_elsewhere token) tx

/-- Only the first input mints, claims and skips. Two transactions with the same id, the same first
input and the same first output are granted the same mint and the same claim, or fail alike; if they
have all outputs in common, the units of every token go to the same outputs. -/
theorem first_input_decides (hid : tx₁.id = tx₂.id) (hinput : tx₁.inputs.head? = tx₂.inputs.head?)
    (houtput : tx₁.outputs.head? = tx₂.outputs.head?) :
    (∀ (c : Config) (records : ByInput SpentRecord),
      (Reveal.process c tx₁ records).map (Except.map fun r => (r.1.mint?, r.1.claimed?)) =
        (Reveal.process c tx₂ records).map (Except.map fun r => (r.1.mint?, r.1.claimed?))) ∧
    (tx₁.outputs = tx₂.outputs → ∀ (token : TokenId) (units : UInt64),
      colorOutputs token units tx₁ tx₁.locate.1 = colorOutputs token units tx₂ tx₂.locate.1) := by
  have hfirst : tx₁.firstOperation? = tx₂.firstOperation? := by
    rw [Transaction.firstOperation?, Transaction.firstOperation?, hid, hinput]
  constructor
  · intro c records
    rw [Reveal.granted_process, Reveal.granted_process, hfirst]
    simp only [Reveal.granted_congr houtput]
  · intro houtputs token units
    have hvalues : tx₁.outputValues = tx₂.outputValues := congrArg (List.map Output.value) houtputs
    rw [colorOutputs, colorOutputs, skipAmount_locate, skipAmount_locate, hfirst, hvalues]

/-- Behind a first input with a rejected payload, a mint and a skip come to the same. -/
theorem first_input_decides_rejected :
    let first : Input := ⟨⟨.fill 1, 0⟩, [Transaction.revealScript .nft [1, 0xff]]⟩
    let mint : Input := ⟨⟨.fill 2, 0⟩, [Transaction.revealScript .nft [1, 0xa0]]⟩
    let skip : Input := ⟨⟨.fill 3, 0⟩, [Transaction.revealScript .skip [1, 0xa0]]⟩
    let tx₁ : Transaction := ⟨.fill 9, [first, mint], [⟨546, []⟩]⟩
    let tx₂ : Transaction := ⟨.fill 9, [first, skip], [⟨546, []⟩]⟩
    (tx₁.locate.1.map fun op => (op.inputIndex, op.kind)) = some (1, .nft) ∧
      (tx₂.locate.1.map fun op => (op.inputIndex, op.kind)) = some (1, .skip) ∧
      (∀ (c : Config) (records : ByInput SpentRecord),
        (Reveal.process c tx₁ records).map (Except.map fun r => (r.1.mint?, r.1.claimed?)) =
          (Reveal.process c tx₂ records).map (Except.map fun r => (r.1.mint?, r.1.claimed?))) ∧
      ∀ (token : TokenId) (units : UInt64),
        colorOutputs token units tx₁ tx₁.locate.1 = colorOutputs token units tx₂ tx₂.locate.1 := by
  intro first mint skip tx₁ tx₂
  obtain ⟨hgranted, hcolored⟩ := first_input_decides (show tx₁.id = tx₂.id from rfl) rfl rfl
  exact ⟨by decide +kernel, by decide +kernel, hgranted, hcolored rfl⟩

end TokenOverlay
