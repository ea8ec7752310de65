/-
Colouring in exact numbers. Words stand in for sums that may be beyond them: the total passed over is
capped, and what is left is reduced by one value after the other. Neither matters to the result. The
outputs coloured are those from the first place at which the exact total passed over is what is to be
skipped, up to the last one that the units cover, and every unit is either on one of them or left.
-/
import TokenOverlay.Proofs.Locate
import TokenOverlay.Proofs.Payload.Decode
import TokenOverlay.Transfer

namespace TokenOverlay

namespace Coloring

/-! ## Exact totals -/

/-- The sum of values in exact numbers. -/
def exactSum (values : List UInt64) : Nat :=
  values.foldr (fun v n => v.toNat + n) 0

/-- The exact total of the outputs `i, …, j - 1`. -/
def total (values : List UInt64) (i j : Nat) : Nat :=
  exactSum ((values.drop i).take (j - i))

theorem exactSum_append (xs ys : List UInt64) : exactSum (xs ++ ys) = exactSum xs + exactSum ys := by
  induction xs with
  | nil => simp [exactSum]
  | cons x xs ih => simp only [exactSum, List.cons_append, List.foldr_cons] at ih ⊢; omega

@[simp] theorem total_self (values : List UInt64) (i : Nat) : total values i i = 0 := by
  simp [total, exactSum]

@[simp] theorem total_succ_succ (v : UInt64) (rest : List UInt64) (i j : Nat) :
    total (v :: rest) (i + 1) (j + 1) = total rest i j := by
  simp [total]

@[simp] theorem total_zero_succ (v : UInt64) (rest : List UInt64) (j : Nat) :
    total (v :: rest) 0 (j + 1) = v.toNat + total rest 0 j := by
  simp [total, exactSum]

theorem total_add_one {values : List UInt64} {i j : Nat} {v : UInt64} (hij : i ≤ j)
    (hv : values[j]? = some v) : total values i (j + 1) = total values i j + v.toNat := by
  have hd : (values.drop i)[j - i]? = some v := by
    rw [List.getElem?_drop, Nat.add_sub_cancel' hij]; exact hv
  unfold total
  rw [Nat.sub_add_comm hij, List.take_add_one, hd, exactSum_append]
  simp [exactSum]

theorem total_mono (values : List UInt64) (i : Nat) {j j' : Nat} (h : j ≤ j') :
    total values i j ≤ total values i j' := by
  unfold total
  have hsub : j' - i = (j - i) + (j' - i - (j - i)) := by omega
  rw [hsub, List.take_add, exactSum_append]
  exact Nat.le_add_right _ _

/-! ## Capped sums -/

theorem toNat_cappedSum (a b : UInt64) :
    (cappedSum a b).toNat = min (a.toNat + b.toNat) (UInt64.size - 1) := by
  have : min (a.toNat + b.toNat) (UInt64.size - 1) < UInt64.size := by
    simp only [UInt64.size]; omega
  simp only [cappedSum, UInt64.toNat_ofNat']
  exact Nat.mod_eq_of_lt this

/-- What is still to be skipped after one more output. The cap does not matter, since no more than a
word can be asked for. -/
theorem due_cappedSum (skip passed v : UInt64) :
    skip.toNat - (cappedSum passed v).toNat = skip.toNat - passed.toNat - v.toNat := by
  have := skip.toNat_lt
  rw [toNat_cappedSum]
  simp only [UInt64.size]; omega

/-! ## The exact colouring -/

/-- The first place at which the total passed over is what is to be skipped, or the end if there is no
such place. -/
def SkipEnd (values : List UInt64) (skip k : Nat) : Prop :=
  (skip ≤ total values 0 k ∧ ∀ j < k, total values 0 j < skip) ∨
    (k = values.length ∧ ∀ j ≤ values.length, total values 0 j < skip)

theorem skipEnd_zero (values : List UInt64) : SkipEnd values 0 0 :=
  .inl ⟨Nat.zero_le _, fun j hj => absurd hj (Nat.not_lt_zero j)⟩

/-- An output is passed over while anything is to be skipped. -/
theorem skipEnd_cons {v : UInt64} {rest : List UInt64} {skip k : Nat} (h : 0 < skip)
    (hk : SkipEnd rest (skip - v.toNat) k) : SkipEnd (v :: rest) skip (k + 1) := by
  rcases hk with ⟨hle, hlt⟩ | ⟨hk, hlt⟩
  · refine .inl ⟨by rw [total_zero_succ]; omega, fun j hj => ?_⟩
    cases j with
    | zero => rw [total_self]; exact h
    | succ j =>
      have := hlt j (by omega)
      rw [total_zero_succ]; omega
  · refine .inr ⟨by rw [hk, List.length_cons], fun j hj => ?_⟩
    cases j with
    | zero => rw [total_self]; exact h
    | succ j =>
      have := hlt j (by simpa using hj)
      rw [total_zero_succ]; omega

/-- The colouring with the outputs `k, …, m - 1`, in exact numbers. -/
structure Exact (values : List UInt64) (units skip k m : Nat) (c : Coloring) : Prop where
  skipEnd : SkipEnd values skip k
  le : k ≤ m
  le_length : m ≤ values.length
  outputs : c.outputs = List.range' k (m - k)
  conserved : total values k m + c.left.toNat = units
  greatest : ∀ n, k ≤ n → n ≤ values.length → total values k n ≤ units → n ≤ m
  uncovered : ∀ v, values[m]? = some v → c.left < v

/-- A run of outputs that leaves less than the next one is the longest that the units cover. -/
theorem run_greatest {values : List UInt64} {units k m : Nat} {left : UInt64} (hkm : k ≤ m)
    (hsum : total values k m + left.toNat = units) (hnext : ∀ v, values[m]? = some v → left < v) :
    ∀ n, k ≤ n → n ≤ values.length → total values k n ≤ units → n ≤ m := by
  intro n _ hn hle
  refine Nat.le_of_not_lt fun hlt => ?_
  -- a longer run holds the next output, whose value is more than what was left
  have hm : m < values.length := by omega
  have hv : values[m]? = some values[m] := List.getElem?_eq_getElem hm
  have hmore := total_mono values k (show m + 1 ≤ n by omega)
  rw [total_add_one hkm hv] at hmore
  have := UInt64.lt_iff_toNat_lt.1 (hnext _ hv)
  omega

/-- Once all that was asked for is skipped, a run of outputs is coloured from the next one on. -/
theorem place_done {skip passed : UInt64} (h : ¬ passed < skip) (values : List UInt64) (i : Nat)
    (left : UInt64) : ∃ m ≤ values.length, (place skip i passed left values).outputs = List.range' i m ∧
      total values 0 m + (place skip i passed left values).left.toNat = left.toNat ∧
      ∀ v, values[m]? = some v → (place skip i passed left values).left < v := by
  induction values generalizing i left with
  | nil => exact ⟨0, Nat.le_refl 0, rfl, by simp [place], by simp⟩
  | cons v rest ih =>
    simp only [place, h, if_false]
    by_cases hv : left < v
    · simp only [hv, if_true]
      refine ⟨0, Nat.zero_le _, rfl, by simp, fun w hw => ?_⟩
      cases hw; exact hv
    · obtain ⟨m, hm, hout, hsum, hnext⟩ := ih (i + 1) (left - v)
      simp only [hv, if_false]
      have hle : v ≤ left := UInt64.not_lt.1 hv
      rw [UInt64.toNat_sub_of_le _ _ hle] at hsum
      have := UInt64.le_iff_toNat_le.1 hle
      refine ⟨m + 1, by simpa using hm, ?_, ?_, fun w hw => hnext w hw⟩
      · rw [hout, List.range'_succ]
      · rw [total_zero_succ]; omega

/-- Going through outputs passes over as many as it takes, and colours a run of those that follow. -/
theorem place_spec (skip : UInt64) (values : List UInt64) (i : Nat) (passed left : UInt64) :
    ∃ k m, SkipEnd values (skip.toNat - passed.toNat) k ∧ k ≤ m ∧ m ≤ values.length ∧
      (place skip i passed left values).outputs = List.range' (i + k) (m - k) ∧
      total values k m + (place skip i passed left values).left.toNat = left.toNat ∧
      ∀ v, values[m]? = some v → (place skip i passed left values).left < v := by
  -- what is still due takes the place of the amount to skip; one more output lowers it by its value
  induction values generalizing i passed with
  | nil =>
    refine ⟨0, 0, ?_, Nat.le_refl 0, Nat.le_refl 0, rfl, by simp [place], by simp⟩
    by_cases h : skip.toNat - passed.toNat = 0
    · rw [h]; exact skipEnd_zero []
    · exact .inr ⟨rfl, fun j hj => by obtain rfl := Nat.le_zero.1 hj; rw [total_self]; omega⟩
  | cons v rest ih =>
    by_cases h : passed < skip
    · obtain ⟨k, m, hend, hkm, hm, hout, hsum, hnext⟩ := ih (i + 1) (cappedSum passed v)
      simp only [place, h, if_true]
      have := UInt64.lt_iff_toNat_lt.1 h
      rw [due_cappedSum] at hend
      refine ⟨k + 1, m + 1, skipEnd_cons (by omega) hend, by omega, by simpa using hm, ?_, ?_,
        fun w hw => hnext w hw⟩
      · rw [hout, Nat.add_sub_add_right, Nat.add_right_comm, Nat.add_assoc]
      · rw [total_succ_succ]; exact hsum
    · obtain ⟨m, hm, hout, hsum, hnext⟩ := place_done h (v :: rest) i left
      have := UInt64.le_iff_toNat_le.1 (UInt64.not_lt.1 h)
      refine ⟨0, m, ?_, Nat.zero_le m, hm, hout, hsum, hnext⟩
      rw [Nat.sub_eq_zero_of_le this]
      exact skipEnd_zero _

/-- Colouring agrees with exact numbers, whatever the values are. -/
theorem ofValues_exact (units skip : UInt64) (values : List UInt64) :
    ∃ k m, Exact values units.toNat skip.toNat k m (ofValues units skip values) := by
  obtain ⟨k, m, hend, hkm, hm, hout, hsum, hnext⟩ := place_spec skip values 0 0 units
  rw [Nat.zero_add] at hout
  exact ⟨k, m, hend, hkm, hm, hout, hsum, run_greatest hkm hsum hnext, hnext⟩

/-- Capped totals and values of 0: all of the first two outputs is skipped although their sum is beyond
a word, and the output of no value is coloured. -/
example : ofValues 7 0xffffffffffffffff [0xfffffffffffffffe, 2, 0, 7, 1] = ⟨[2, 3], 0⟩ := by
  decide

end Coloring

/-! ## Skips -/

/-- An operation asks to skip a number of units of a token: it is a skip found at the first input, and
its payload holds the number under the compact id of the token. Truth values count as 0 and 1. -/
def Located.AsksToSkip (op : Located) (token : TokenId) (n : Nat) : Prop :=
  op.kind = .skip ∧ op.inputIndex = 0 ∧ (op.payload.get? token.compact = some (.int n) ∨
    ∃ b : Bool, op.payload.get? token.compact = some (.bool b) ∧ n = b.toNat)

/-- The exact number of units of a token that are to be skipped; it is 0 if nothing is asked for. -/
def SkipAsked (op? : Option Located) (token : TokenId) (n : Nat) : Prop :=
  (∃ op, op? = some op ∧ op.AsksToSkip token n) ∨
    (n = 0 ∧ ∀ op m, op? = some op → ¬ op.AsksToSkip token m)

theorem Located.asksToSkip_iff {op : Located} {token : TokenId} {n : Nat} :
    op.AsksToSkip token n ↔ op.isFirst .skip = true ∧
      (op.payload.get? token.compact).bind Payload.Value.asInt? = some (n : Int) := by
  simp only [AsksToSkip, isFirst, Bool.and_eq_true, beq_iff_eq, and_assoc, Option.bind_eq_some_iff,
    Payload.Value.asInt?_eq_some]
  refine and_congr_right fun _ => and_congr_right fun _ => ?_
  constructor
  · rintro (h | ⟨b, h, hn⟩)
    · exact ⟨_, h, .inl rfl⟩
    · exact ⟨_, h, .inr ⟨b, rfl, congrArg Nat.cast hn⟩⟩
  · rintro ⟨v, h, rfl | ⟨b, rfl, hn⟩⟩
    · exact .inl h
    · exact .inr ⟨b, h, Int.ofNat_inj.1 hn⟩

/-- A located operation never asks to skip more than a word. -/
theorem asksToSkip_lt {tx : Transaction} {op : Located} {token : TokenId} {n : Nat}
    (h : tx.locate.1 = some op) (hn : op.AsksToSkip token n) : n < UInt64.size := by
  obtain ⟨-, -, hint | ⟨b, -, rfl⟩⟩ := hn
  · -- a payload that was decoded holds no integer beyond a word
    obtain ⟨input, e, -, hc, -⟩ := Transaction.located_origin h
    have := (Payload.decode_int_bounds (Payload.decode_of_decodeSound hc.sound) hint).2
    omega
  · have := Bool.toNat_le b
    simp only [UInt64.size]; omega

theorem toNat_skipAmount {op : Located} {token : TokenId} {n : Nat} (h : op.AsksToSkip token n) :
    (skipAmount (some op) token).toNat = min n (UInt64.size - 1) := by
  obtain ⟨hfirst, hv⟩ := Located.asksToSkip_iff.1 h
  simp only [skipAmount, hfirst, hv, if_true, UInt64.toNat_ofNat', UInt64.size]
  omega

theorem skipAmount_eq_zero {op : Located} {token : TokenId} (h : ∀ n, ¬ op.AsksToSkip token n) :
    skipAmount (some op) token = 0 := by
  simp only [skipAmount]
  split
  · rename_i hfirst
    split
    · rename_i n hv
      exact absurd (Located.asksToSkip_iff.2 ⟨hfirst, hv⟩) (h n)
    · rfl
  · rfl

/-- What a located operation asks to skip is skipped exactly. -/
theorem skipAsked_skipAmount (tx : Transaction) (token : TokenId) :
    SkipAsked tx.locate.1 token (skipAmount tx.locate.1 token).toNat := by
  cases hop : tx.locate.1 with
  | none => exact .inr ⟨rfl, by simp⟩
  | some op =>
    by_cases h : ∃ n, op.AsksToSkip token n
    · obtain ⟨n, hn⟩ := h
      have hlt := asksToSkip_lt hop hn
      rw [toNat_skipAmount hn, Nat.min_eq_left (Nat.le_sub_one_of_lt hlt)]
      exact .inl ⟨op, rfl, hn⟩
    · rw [skipAmount_eq_zero (not_exists.1 h)]
      refine .inr ⟨rfl, fun op' m hop' hm => h ⟨m, ?_⟩⟩
      rw [Option.some.inj hop']
      exact hm

/-- Where the units of a token go, in exact numbers. As many units are skipped as the operation of the
transaction asks for, outputs are coloured from there on for as long as the units cover them, and what
is not on a coloured output is left over. -/
theorem colorOutputs_exact (token : TokenId) (units : UInt64) (tx : Transaction) :
    ∃ skip k m, SkipAsked tx.locate.1 token skip ∧
      Coloring.Exact tx.outputValues units.toNat skip k m (colorOutputs token units tx tx.locate.1) := by
  obtain ⟨k, m, h⟩ := Coloring.ofValues_exact units (skipAmount tx.locate.1 token) tx.outputValues
  exact ⟨_, k, m, skipAsked_skipAmount tx token, h⟩

end TokenOverlay
