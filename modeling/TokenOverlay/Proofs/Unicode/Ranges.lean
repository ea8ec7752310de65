/-
Looking characters up in sets of ranges. Halving finds a character exactly if one of the ranges holds it, as
long as the ranges are in ascending order. So the blanks are the characters with the property of white space.
-/
import TokenOverlay.Unicode.Property

namespace TokenOverlay.Unicode

namespace Ranges

variable {bounds : Array (Nat × Nat)} {n first count fuel : Nat}

/-- Ranges in order: none is empty, and each begins behind the ends of those before it. -/
structure Ascending (bounds : Array (Nat × Nat)) : Prop where
  nonempty : ∀ i (hi : i < bounds.size), bounds[i].1 ≤ bounds[i].2
  behind : ∀ i j (hi : i < bounds.size) (hj : j < bounds.size), i < j → bounds[i].2 < bounds[j].1

/-- One of the ranges, `count` of them from number `first` on, holds a number. -/
def Held (bounds : Array (Nat × Nat)) (n first count : Nat) : Prop :=
  ∃ i, ∃ hi : i < bounds.size, first ≤ i ∧ i < first + count ∧ bounds[i].1 ≤ n ∧ n ≤ bounds[i].2

theorem ascending_ofList {ranges : List (Nat × Nat)} (hnonempty : ∀ r ∈ ranges, r.1 ≤ r.2)
    (hbehind : ranges.Pairwise fun r r' => r.2 < r'.1) : Ascending (ofList ranges).bounds where
  nonempty i hi := by
    simp only [ofList, List.getElem_toArray]
    exact hnonempty _ (List.getElem_mem _)
  behind i j hi hj hlt := by
    simp only [ofList, List.getElem_toArray]
    exact List.pairwise_iff_getElem.1 hbehind i j _ _ hlt

/-- Halving looks at the range in the middle and goes on in the half that can still hold the number. -/
theorem search_iff (h : Ascending bounds) (hfuel : count ≤ fuel) (hsize : first + count ≤ bounds.size) :
    search bounds n fuel first count = true ↔ Held bounds n first count := by
  induction fuel generalizing first count with
  | zero =>
    simp only [search, Bool.false_eq_true, false_iff]
    rintro ⟨i, -, hlow, hhigh, -⟩
    omega
  | succ fuel ih =>
    unfold search
    split
    · simp only [Bool.false_eq_true, false_iff]
      rintro ⟨i, -, hlow, hhigh, -⟩
      omega
    · have hmiddle : first + count / 2 < bounds.size := by omega
      simp only [Array.getElem?_eq_getElem hmiddle]
      have hrange := h.nonempty _ hmiddle
      split
      · rename_i hbelow
        rw [ih (by omega) (by omega)]
        constructor
        · rintro ⟨i, hi, hlow, hhigh, hin⟩
          exact ⟨i, hi, hlow, by omega, hin⟩
        · rintro ⟨i, hi, hlow, hhigh, hin⟩
          refine ⟨i, hi, hlow, Nat.lt_of_not_le fun hge => ?_, hin⟩
          -- the ranges from the middle on lie above the number
          rcases Nat.lt_or_eq_of_le hge with hlt | rfl
          · have := h.behind _ i hmiddle hi hlt
            omega
          · omega
      · split
        · rename_i habove
          rw [ih (by omega) (by omega)]
          constructor
          · rintro ⟨i, hi, hlow, hhigh, hin⟩
            exact ⟨i, hi, by omega, by omega, hin⟩
          · rintro ⟨i, hi, hlow, hhigh, hin⟩
            refine ⟨i, hi, Nat.lt_of_not_le fun hle => ?_, by omega, hin⟩
            rcases Nat.lt_or_eq_of_le hle with hlt | rfl
            · have := h.behind i _ hi hmiddle hlt
              omega
            · omega
        · simp only [true_iff]
          exact ⟨_, hmiddle, by omega, by omega, by omega, by omega⟩

/-- A set holds the characters of its ranges. -/
theorem contains_iff {ranges : List (Nat × Nat)} (hnonempty : ∀ r ∈ ranges, r.1 ≤ r.2)
    (hbehind : ranges.Pairwise fun r r' => r.2 < r'.1) {c : Char} :
    (ofList ranges).contains c = true ↔ ∃ r ∈ ranges, r.1 ≤ c.toNat ∧ c.toNat ≤ r.2 := by
  unfold contains
  rw [search_iff (ascending_ofList hnonempty hbehind) (Nat.le_succ _) (by omega)]
  constructor
  · rintro ⟨i, hi, -, -, hin⟩
    simp only [ofList, List.getElem_toArray] at hin
    exact ⟨_, List.getElem_mem _, hin⟩
  · rintro ⟨r, hr, hin⟩
    obtain ⟨i, hi, rfl⟩ := List.getElem_of_mem hr
    exact ⟨i, hi, Nat.zero_le i, by simpa [ofList] using hi, hin⟩

end Ranges

/-! ## Blanks -/

/-- A blank: a character with the property of white space. -/
def IsBlank (c : Char) : Prop :=
  (0x9 ≤ c.toNat ∧ c.toNat ≤ 0xD) ∨ c.toNat = 0x20 ∨ c.toNat = 0x85 ∨ c.toNat = 0xA0 ∨ c.toNat = 0x1680 ∨
    (0x2000 ≤ c.toNat ∧ c.toNat ≤ 0x200A) ∨ c.toNat = 0x2028 ∨ c.toNat = 0x2029 ∨ c.toNat = 0x202F ∨
    c.toNat = 0x205F ∨ c.toNat = 0x3000

/-- The ranges that the table of blanks holds. -/
def blankRanges : List (Nat × Nat) :=
  [(0x9, 0xD), (0x20, 0x20), (0x85, 0x85), (0xA0, 0xA0), (0x1680, 0x1680), (0x2000, 0x200A), (0x2028, 0x2029),
    (0x202F, 0x202F), (0x205F, 0x205F), (0x3000, 0x3000)]

theorem space_eq : space = Ranges.ofList blankRanges :=
  congrArg Ranges.mk (show space.bounds = blankRanges.toArray by decide +kernel)

theorem space_contains_iff {c : Char} : space.contains c = true ↔ IsBlank c := by
  rw [space_eq, Ranges.contains_iff (by decide) (by decide)]
  simp only [blankRanges, List.mem_cons, List.not_mem_nil, or_false, exists_eq_or_imp, exists_eq_left, IsBlank]
  omega

end TokenOverlay.Unicode
