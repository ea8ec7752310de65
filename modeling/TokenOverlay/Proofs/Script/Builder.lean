/-
Runs of a script builder. Each step that adds to a script appends whole encodings to it, and a step that is
refused appends nothing, so what was added since the last drain reads back one instruction after the other,
whatever the data spells.
-/
import TokenOverlay.Proofs.Script.Pushes

namespace TokenOverlay.Script

/-! ## Steps -/

/-- What is asked of a builder. -/
inductive Step
  | data (data : Bytes)
  | op (code : UInt8)
  | drain
  deriving DecidableEq, Repr

/-- What a builder answers. -/
inductive Answer
  | added
  | refused (e : ElementTooLarge)
  | drained (script : Bytes)
  deriving DecidableEq, Repr

namespace Step

/-- A step that adds to the script: data of any size, or an opcode that is not one of pushes of bytes. -/
def Adds : Step → Prop
  | data _ => True
  | op code => ¬ (0x01 ≤ code ∧ code ≤ 0x4e)
  | drain => False

/-- The bytes that a step adds. -/
def bytes : Step → Bytes
  | data d => if d.length ≤ 520 then shortestPush d else []
  | op code => [code]
  | drain => []

/-- The instructions that a step adds. -/
def instructions : Step → List Instruction
  | data d => if d.length ≤ 520 then [.push d] else []
  | op code => if code = 0x00 then [.push []] else [.op code]
  | drain => []

end Step

namespace Builder

variable {s : Step} {steps before : List Step} {data : Bytes}

/-- One step of a builder, which goes on unchanged after an element that is too large. -/
def step (b : Builder) : Step → Builder × Answer
  | .data d =>
    match b.addData d with
    | .ok b' => (b', .added)
    | .error e => (b, .refused e)
  | .op code => (b.addOp code, .added)
  | .drain => (b.drain.2, .drained b.drain.1)

/-- The builder after some steps. -/
def run (b : Builder) (steps : List Step) : Builder :=
  steps.foldl (fun b s => (b.step s).1) b

/-- Nothing was done yet, or the last step was a drain. -/
def Fresh (steps : List Step) : Prop :=
  steps = [] ∨ steps.getLast? = some .drain

/-! ## One step -/

theorem addData_error (b : Builder) (h : maxElementSize < data.length) : b.addData data = .error ⟨data.length⟩ :=
  if_pos h

theorem step_data (b : Builder) (h : data.length ≤ 520) :
    b.step (.data data) = (⟨b.script ++ shortestPush data⟩, .added) := by
  simp only [step, addData_ok b h]

theorem step_data_refused (b : Builder) (h : 520 < data.length) :
    b.step (.data data) = (b, .refused ⟨data.length⟩) := by
  simp only [step, addData_error b h]

theorem step_drain (b : Builder) : b.step .drain = ({}, .drained b.script) := rfl

theorem script_step (b : Builder) (h : s.Adds) : (b.step s).1.script = b.script ++ s.bytes := by
  cases s with
  | data d =>
    by_cases hsize : d.length ≤ 520
    · simp only [Step.bytes, if_pos hsize, step_data b hsize]
    · simp only [Step.bytes, if_neg hsize, step_data_refused b (Nat.lt_of_not_le hsize), List.append_nil]
  | op code => rfl
  | drain => exact absurd h id

/-- What a step adds reads back as its instructions, whatever follows. -/
theorem yields_step (h : s.Adds) : Yields s.bytes s.instructions := by
  cases s with
  | data d =>
    by_cases hsize : d.length ≤ 520
    · simp only [Step.bytes, Step.instructions, if_pos hsize]
      exact Yields.shortestPush hsize
    · simp only [Step.bytes, Step.instructions, if_neg hsize]
      exact Yields.nil
  | op code =>
    by_cases hcode : code = 0x00
    · -- a false is a push of no bytes
      subst hcode
      have hempty : ([] : Bytes).length ≤ PushForm.direct.capacity := Nat.zero_le _
      exact Yields.push .direct hempty
    · simp only [Step.bytes, Step.instructions, if_neg hcode]
      refine Yields.op (UInt8.lt_iff_toNat_lt.2 ?_)
      have hne : code.toNat ≠ 0 := fun hzero => hcode (UInt8.toNat_inj.1 hzero)
      have hrange : ¬ (1 ≤ code.toNat ∧ code.toNat ≤ 78) := by
        rintro ⟨hlow, hhigh⟩
        exact h ⟨UInt8.le_iff_toNat_le.2 hlow, UInt8.le_iff_toNat_le.2 hhigh⟩
      show 78 < code.toNat
      omega
  | drain => exact absurd h id

/-! ## Runs -/

theorem run_append (b : Builder) (front back : List Step) : b.run (front ++ back) = (b.run front).run back :=
  List.foldl_append

theorem script_run (b : Builder) (h : ∀ s ∈ steps, s.Adds) :
    (b.run steps).script = b.script ++ steps.flatMap Step.bytes := by
  induction steps generalizing b with
  | nil => exact (List.append_nil _).symm
  | cons s rest ih =>
    obtain ⟨hs, hrest⟩ := List.forall_mem_cons.1 h
    show ((b.step s).1.run rest).script = _
    rw [ih _ hrest, script_step b hs, List.flatMap_cons, List.append_assoc]

theorem yields_run (h : ∀ s ∈ steps, s.Adds) :
    Yields (steps.flatMap Step.bytes) (steps.flatMap Step.instructions) := by
  induction steps with
  | nil => exact Yields.nil
  | cons s rest ih =>
    obtain ⟨hs, hrest⟩ := List.forall_mem_cons.1 h
    rw [List.flatMap_cons, List.flatMap_cons]
    exact (yields_step hs).append (ih hrest)

theorem run_fresh (h : Fresh before) : run {} before = {} := by
  rcases h with rfl | hlast
  · rfl
  · obtain ⟨front, rfl⟩ := List.getLast?_eq_some_iff.1 hlast
    rw [run_append]
    rfl

/-- What was added since the last drain reads back, in order and without an error: a push of every element that is
not too large, an empty push for every false, and every other opcode. An element that is too large is refused, and
the builder stays as it was. A drain answers the script that was built and leaves an empty builder. -/
theorem run_reads_back :
    (∀ before steps, Fresh before → (∀ s ∈ steps, s.Adds) →
      (run {} (before ++ steps)).script = steps.flatMap Step.bytes ∧
      read (run {} (before ++ steps)).script = ⟨steps.flatMap Step.instructions, none⟩) ∧
    (∀ (b : Builder) data, data.length ≤ 520 → (b.step (.data data)).2 = .added) ∧
    (∀ (b : Builder) data, 520 < data.length →
      b.addData data = .error ⟨data.length⟩ ∧ b.step (.data data) = (b, .refused ⟨data.length⟩)) ∧
    ∀ b : Builder, b.step .drain = ({}, .drained b.script) := by
  refine ⟨fun before steps hbefore hsteps => ?_, fun b data h => ?_, fun b data h => ?_, step_drain⟩
  · have hscript : (run {} (before ++ steps)).script = steps.flatMap Step.bytes := by
      rw [run_append, run_fresh hbefore, script_run _ hsteps]
      rfl
    refine ⟨hscript, ?_⟩
    rw [hscript]
    exact (yields_run hsteps).read_eq
  · rw [step_data b h]
  · exact ⟨addData_error b h, step_data_refused b h⟩

/-- A run with an element that is too large, data that spells opcodes, and a false, after a drain. -/
theorem run_reads_back_refused :
    let before : List Step := [.op 0xac, .drain]
    let large : Bytes := List.replicate 521 0x00
    let steps : List Step := [.data [0x63, 0x4e], .data large, .op 0x00, .data (List.replicate 76 0x68), .op 0x63]
    Fresh before ∧ (∀ s ∈ steps, s.Adds) ∧
      read (run {} (before ++ steps)).script =
        ⟨[.push [0x63, 0x4e], .push [], .push (List.replicate 76 0x68), .op 0x63], none⟩ ∧
      (520 < large.length ∧ (run {} before).step (.data large) = (run {} before, .refused ⟨521⟩)) ∧
      ((run {} before).step (.data [0x63, 0x4e])).2 = .added := by
  intro before large steps
  obtain ⟨hread, hadded, hrefused, -⟩ := run_reads_back
  have hfalse : (Step.op 0x00).Adds := fun h => absurd h.1 (by decide)
  have hif : (Step.op 0x63).Adds := fun h => absurd h.2 (by decide)
  have hsteps : ∀ s ∈ steps, s.Adds := by
    intro s hs
    simp only [steps, List.mem_cons, List.not_mem_nil, or_false] at hs
    rcases hs with rfl | rfl | rfl | rfl | rfl
    · trivial
    · trivial
    · exact hfalse
    · trivial
    · exact hif
  have hlength : large.length = 521 := List.length_replicate
  have hlarge : 520 < large.length := by omega
  have hinstructions : steps.flatMap Step.instructions =
      [.push [0x63, 0x4e], .push [], .push (List.replicate 76 0x68), .op 0x63] := by
    have hnone : ∀ d : Bytes, 520 < d.length → (Step.data d).instructions = [] := fun d h => if_neg (Nat.not_le.2 h)
    simp only [steps, List.flatMap_cons, List.flatMap_nil, hnone large hlarge]
    rfl
  obtain ⟨-, hscript⟩ := hread before steps (.inr rfl) hsteps
  obtain ⟨-, hanswer⟩ := hrefused (run {} before) large hlarge
  rw [hinstructions] at hscript
  rw [hlength] at hanswer
  exact ⟨.inr rfl, hsteps, hscript, ⟨hlarge, hanswer⟩, hadded _ _ (by decide)⟩

end Builder

end TokenOverlay.Script
