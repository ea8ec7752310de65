/-
When a displayed transaction id meets a work requirement. A displayed id has lower-case hex digits
only, so a stem with any other character is met by none.
-/
import TokenOverlay.Bitwork
import TokenOverlay.Digest

namespace TokenOverlay

/-! ## Displayed digits -/

/-- A lower-case hex digit. -/
def Hex.IsLowerDigit (c : Char) : Prop :=
  ('0' ≤ c ∧ c ≤ '9') ∨ ('a' ≤ c ∧ c ≤ 'f')

instance : DecidablePred Hex.IsLowerDigit := fun c =>
  inferInstanceAs (Decidable (('0' ≤ c ∧ c ≤ '9') ∨ ('a' ≤ c ∧ c ≤ 'f')))

theorem Hex.isLowerDigit_digit : ∀ n < 16, IsLowerDigit (digit n) := by decide

theorem Hex.isLowerDigit_of_mem_encode {b : Bytes} {c : Char} (h : c ∈ encode b) : IsLowerDigit c := by
  obtain ⟨x, -, hx⟩ := List.mem_flatMap.1 h
  have hlt : x.toNat < 256 := x.toNat_lt
  simp only [pair, List.mem_cons, List.not_mem_nil, or_false] at hx
  rcases hx with rfl | rfl
  · exact isLowerDigit_digit _ (by omega)
  · exact isLowerDigit_digit _ (by omega)

theorem Digest.isLowerDigit_of_mem_digits {d : Digest} {c : Char} (h : c ∈ d.digits) : Hex.IsLowerDigit c :=
  Hex.isLowerDigit_of_mem_encode h

namespace Bitwork

/-! ## Requirements -/

/-- An id meets a requirement: it begins with the stem, and a least value above 0 is reached by the
digit after the stem. -/
structure Meets (w : Bitwork) (id : List Char) : Prop where
  stem : w.stem.toList <+: id
  next : ∀ least, w.extension? = some least → 0 < least →
    ∃ c digit, id[w.stem.length]? = some c ∧ Hex.value? c = some digit ∧ least ≤ digit

theorem isMetBy_iff {w : Bitwork} {id : List Char} : w.isMetBy id = true ↔ w.Meets id := by
  have hhead : (id.drop w.stem.length).head? = id[w.stem.length]? := List.head?_drop
  simp only [isMetBy, Bool.and_eq_true, List.isPrefixOf_iff_prefix, hhead]
  constructor
  · rintro ⟨hstem, hnext⟩
    refine ⟨hstem, fun least hl hpos => ?_⟩
    rw [hl] at hnext
    -- a least value of 0 asks for no digit and is a case of its own
    obtain ⟨least, rfl⟩ := Nat.exists_eq_succ_of_ne_zero (Nat.ne_of_gt hpos)
    cases hd : id[w.stem.length]?.bind Hex.value? with
    | none => simp [hd] at hnext
    | some digit =>
      obtain ⟨c, hc, hv⟩ := Option.bind_eq_some_iff.1 hd
      simp only [hd, decide_eq_true_eq] at hnext
      exact ⟨c, digit, hc, hv, hnext⟩
  · rintro ⟨hstem, hnext⟩
    refine ⟨hstem, ?_⟩
    split
    · rfl
    · rfl
    · rename_i least hne hl
      obtain ⟨c, digit, hc, hv, hle⟩ := hnext least hl (Nat.pos_of_ne_zero hne)
      simp [hc, hv, hle]

/-- The stem of a requirement that a transaction met has lower-case hex digits only. -/
theorem Meets.isLowerDigit {w : Bitwork} {d : Digest} (h : w.Meets d.digits) :
    ∀ c ∈ w.stem.toList, Hex.IsLowerDigit c :=
  fun _ hc => Digest.isLowerDigit_of_mem_digits (h.stem.subset hc)

end Bitwork

end TokenOverlay
