/-
Decimal text. A number is written without leading zeros and reads back as itself. Reading passes over
leading zeros, so a text is the one its number is written as exactly if it has none.
-/
import TokenOverlay.Text.Decimal

namespace TokenOverlay.Decimal

variable {cs : List Char}

/-! ## Writing, then reading -/

theorem toList_text (n : Nat) : (text n).toList = Nat.toDigits 10 n := by
  rw [text, Nat.toString_eq_ofList_toDigits, String.toList_ofList]

theorem isNumber_text (n : Nat) : isNumber (text n).toList = true := by
  rw [toList_text, isNumber, Bool.and_eq_true, List.all_eq_true]
  refine ⟨?_, fun c hc => Nat.isDigit_of_mem_toDigits (by decide) (by decide) hc⟩
  cases h : Nat.toDigits 10 n with
  | nil => exact absurd h Nat.toDigits_ne_nil
  | cons c rest => rfl

theorem value_text (n : Nat) : value (text n).toList = n := by
  rw [toList_text]
  exact Nat.ofDigitChars_ten_toDigits

/-! ## Reading, then writing -/

/-- A string of digits has no leading zeros: if it begins with a zero it is that zero. -/
def IsShortest (cs : List Char) : Prop :=
  cs = ['0'] ∨ cs.head? ≠ some '0'

theorem toNat_of_isDigit {c : Char} (h : c.isDigit = true) : 48 ≤ c.toNat ∧ c.toNat ≤ 57 :=
  Char.isDigit_iff_toNat.1 h

theorem isNumber_cons {c : Char} {rest : List Char} :
    isNumber (c :: rest) = true ↔ c.isDigit = true ∧ ∀ d ∈ rest, d.isDigit = true := by
  simp [isNumber]

theorem digitChar_of_isDigit {c : Char} (h : c.isDigit = true) : Nat.digitChar (c.toNat - 48) = c := by
  obtain ⟨hlow, hhigh⟩ := toNat_of_isDigit h
  apply Char.toNat_inj.1
  rw [Nat.toNat_digitChar_of_lt_ten (by omega)]
  omega

/-- Digits after those of a number above 0 are the digits of a larger number. -/
theorem toDigits_append {n : Nat} (hn : 0 < n) (hcs : ∀ c ∈ cs, c.isDigit = true) :
    Nat.toDigits 10 n ++ cs = Nat.toDigits 10 (Nat.ofDigitChars 10 cs n) := by
  induction cs generalizing n with
  | nil => rw [List.append_nil, Nat.ofDigitChars_nil]
  | cons c rest ih =>
    obtain ⟨hc, hrest⟩ := List.forall_mem_cons.1 hcs
    have hd : c.toNat - 48 < 10 := by
      have := toNat_of_isDigit hc
      omega
    have hlast := Nat.toDigits_append_toDigits (b := 10) (by decide) hn hd
    rw [Nat.toDigits_of_lt_base hd, digitChar_of_isDigit hc] at hlast
    calc Nat.toDigits 10 n ++ c :: rest
        = (Nat.toDigits 10 n ++ [c]) ++ rest := by rw [List.append_assoc, List.singleton_append]
      _ = Nat.toDigits 10 (10 * n + (c.toNat - 48)) ++ rest := by rw [hlast]
      _ = Nat.toDigits 10 (Nat.ofDigitChars 10 rest (10 * n + (c.toNat - 48))) := ih (by omega) hrest
      _ = Nat.toDigits 10 (Nat.ofDigitChars 10 (c :: rest) n) := by rw [Nat.ofDigitChars_cons]; rfl

theorem text_value_of_head {c : Char} {rest : List Char} (h : isNumber (c :: rest) = true) (hc : c ≠ '0') :
    (text (value (c :: rest))).toList = c :: rest := by
  obtain ⟨hdigit, hrest⟩ := isNumber_cons.1 h
  have hbounds := toNat_of_isDigit hdigit
  have hne : c.toNat ≠ 48 := fun he => hc (Char.toNat_inj.1 he)
  have happend := toDigits_append (n := c.toNat - 48) (by omega) hrest
  rw [Nat.toDigits_of_lt_base (by omega), digitChar_of_isDigit hdigit] at happend
  have hvalue : value (c :: rest) = Nat.ofDigitChars 10 rest (c.toNat - 48) := by
    rw [value, List.foldl_cons, Nat.mul_zero, Nat.zero_add]
    rfl
  rw [toList_text, hvalue, ← happend, List.singleton_append]

/-- All that a text holds besides the digits its number is written with are zeros in front. -/
theorem exists_zeros_append (h : isNumber cs = true) :
    ∃ zeros, (∀ z ∈ zeros, z = '0') ∧ cs = zeros ++ (text (value cs)).toList := by
  induction cs with
  | nil => cases h
  | cons c rest ih =>
    by_cases hc : c = '0'
    · subst hc
      cases rest with
      | nil => exact ⟨[], List.forall_mem_nil _, rfl⟩
      | cons d more =>
        obtain ⟨zeros, hzeros, heq⟩ := ih (isNumber_cons.2 (List.forall_mem_cons.1 (isNumber_cons.1 h).2))
        exact ⟨'0' :: zeros, List.forall_mem_cons.2 ⟨rfl, hzeros⟩, congrArg ('0' :: ·) heq⟩
    · exact ⟨[], List.forall_mem_nil _, (text_value_of_head h hc).symm⟩

/-- A text is what its number is written as exactly if it has no leading zeros. -/
theorem text_value_iff (h : isNumber cs = true) : (text (value cs)).toList = cs ↔ IsShortest cs := by
  constructor
  · intro htext
    by_cases hhead : cs.head? = some '0'
    · obtain ⟨rest, rfl⟩ := List.head?_eq_some_iff.1 hhead
      cases rest with
      | nil => exact .inl rfl
      | cons d more =>
        -- the digits after the zero would be a shorter way to write the same number
        obtain ⟨zeros, -, heq⟩ :=
          exists_zeros_append (isNumber_cons.2 (List.forall_mem_cons.1 (isNumber_cons.1 h).2))
        have hsame : value (d :: more) = value ('0' :: d :: more) := rfl
        rw [hsame, htext] at heq
        have hlength := congrArg List.length heq
        simp only [List.length_append, List.length_cons] at hlength
        omega
    · exact .inr hhead
  · rintro (rfl | hhead)
    · rfl
    · cases cs with
      | nil => cases h
      | cons c rest => exact text_value_of_head h fun hc => hhead (congrArg some hc)

end TokenOverlay.Decimal
