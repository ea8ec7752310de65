/-
Which texts are the hex of a byte string: those of an even number of lower-case digits. No two byte
strings have the same hex. Reading takes digits of either case, and what it takes is written again in
lower case.
-/
import TokenOverlay.Proofs.Bitwork

namespace TokenOverlay.Hex

theorem char_le_iff {a b : Char} : a ≤ b ↔ a.toNat ≤ b.toNat :=
  Iff.rfl

/-- Every lower-case digit is the digit of a number. -/
theorem exists_digit_eq {c : Char} (h : IsLowerDigit c) : ∃ n < 16, digit n = c := by
  rcases h with ⟨h₁, h₂⟩ | ⟨h₁, h₂⟩
  · rw [char_le_iff] at h₁ h₂
    have h₁ : 48 ≤ c.toNat := h₁
    have h₂ : c.toNat ≤ 57 := h₂
    refine ⟨c.toNat - 48, by omega, ?_⟩
    rw [digit, if_pos (by omega), Nat.add_sub_cancel' h₁, Char.ofNat_toNat]
  · rw [char_le_iff] at h₁ h₂
    have h₁ : 97 ≤ c.toNat := h₁
    have h₂ : c.toNat ≤ 102 := h₂
    refine ⟨c.toNat - 87, by omega, ?_⟩
    rw [digit, if_neg (by omega), Nat.add_sub_cancel' (by omega), Char.ofNat_toNat]

/-- Two digits are those of a byte. -/
theorem exists_pair_eq {h l : Char} (hh : IsLowerDigit h) (hl : IsLowerDigit l) : ∃ b, pair b = [h, l] := by
  obtain ⟨m, hm, rfl⟩ := exists_digit_eq hh
  obtain ⟨n, hn, rfl⟩ := exists_digit_eq hl
  have hb : (UInt8.ofNat (16 * m + n)).toNat = 16 * m + n := by
    rw [UInt8.toNat_ofNat']
    omega
  refine ⟨UInt8.ofNat (16 * m + n), ?_⟩
  rw [pair, hb, show (16 * m + n) / 16 = m by omega, show (16 * m + n) % 16 = n by omega]

theorem exists_encode_eq : ∀ {cs : List Char}, cs.length % 2 = 0 → (∀ c ∈ cs, IsLowerDigit c) →
    ∃ b, encode b = cs
  | [], _, _ => ⟨[], rfl⟩
  | [_], heven, _ => by cases heven
  | h :: l :: rest, heven, hlow => by
    obtain ⟨hh, hlow⟩ := List.forall_mem_cons.1 hlow
    obtain ⟨hl, hrest⟩ := List.forall_mem_cons.1 hlow
    obtain ⟨x, hx⟩ := exists_pair_eq hh hl
    have heven : rest.length % 2 = 0 := by
      simp only [List.length_cons] at heven
      omega
    obtain ⟨b, hb⟩ := exists_encode_eq heven hrest
    exact ⟨x :: b, by rw [encode, List.flatMap_cons, hx, ← encode, hb]; rfl⟩

/-- A text is the hex of a byte string if it has an even number of lower-case digits and nothing
else. -/
theorem exists_text_eq_iff {s : String} :
    (∃ b, text b = s) ↔ s.length % 2 = 0 ∧ ∀ c ∈ s.toList, IsLowerDigit c := by
  constructor
  · rintro ⟨b, rfl⟩
    refine ⟨?_, fun c hc => isLowerDigit_of_mem_encode (b := b) (by simpa [text] using hc)⟩
    rw [text, String.length_ofList, length_encode]
    omega
  · rintro ⟨heven, hlow⟩
    obtain ⟨b, hb⟩ := exists_encode_eq (String.length_toList ▸ heven) hlow
    exact ⟨b, by rw [text, hb, String.ofList_toList]⟩

/-! ## Reading -/

/-- An ASCII hex digit of either case. -/
def IsDigit (c : Char) : Prop :=
  ('0' ≤ c ∧ c ≤ '9') ∨ ('a' ≤ c ∧ c ≤ 'f') ∨ ('A' ≤ c ∧ c ≤ 'F')

theorem isDigit_iff {c : Char} : isDigit c = true ↔ IsDigit c := by
  unfold isDigit value? IsDigit
  split
  · simp [*]
  · split
    · simp [*]
    · split
      · simp [*]
      · simp [*]

/-- Hex digits are ASCII characters up to the letter `f`. -/
theorem le_of_isDigit {c : Char} (h : isDigit c = true) : c ≤ 'f' := by
  have hf : ('f' : Char).toNat = 102 := rfl
  unfold isDigit value? at h
  rw [char_le_iff, hf]
  split at h
  · rename_i hc
    have : c.toNat ≤ 57 := hc.2
    omega
  · split at h
    · rename_i hc
      exact hc.2
    · split at h
      · rename_i hc
        have : c.toNat ≤ 70 := hc.2
        omega
      · cases h

theorem isDigit_of_decode? : ∀ {cs : List Char} {b : Bytes}, decode? cs = some b →
    ∀ c ∈ cs, isDigit c = true
  | [], _, _ => List.forall_mem_nil _
  | [_], _, h => nomatch h
  | high :: low :: rest, _, h => by
    rw [decode?] at h
    split at h
    · rename_i hi lo bytes hhi hlo hrest
      have hhi : isDigit high = true := by rw [isDigit, hhi]; rfl
      have hlo : isDigit low = true := by rw [isDigit, hlo]; rfl
      exact List.forall_mem_cons.2 ⟨hhi, List.forall_mem_cons.2 ⟨hlo, isDigit_of_decode? hrest⟩⟩
    · cases h

/-- Digits take one byte each. -/
theorem utf8ByteSize_of_isDigit {cs : List Char} (h : ∀ c ∈ cs, isDigit c = true) :
    (String.ofList cs).utf8ByteSize = cs.length := by
  induction cs with
  | nil => rfl
  | cons c rest ih =>
    obtain ⟨hc, hrest⟩ := List.forall_mem_cons.1 h
    have hsize : c.utf8Size = 1 :=
      Char.utf8Size_eq_one_iff.2 (UInt32.le_trans (le_of_isDigit hc) (by decide))
    rw [String.ofList_cons, String.utf8ByteSize_append, String.utf8ByteSize_singleton, ih hrest, hsize,
      List.length_cons, Nat.add_comm]

theorem digit_of_value?_ascii : ∀ k < 128, ∀ n ∈ value? (Char.ofNat k),
    n < 16 ∧ digit n = (Char.ofNat k).toLower := by decide

/-- The digit of a value is the lower-case form of any digit that has it. -/
theorem digit_of_value? {c : Char} {n : Nat} (h : value? c = some n) : n < 16 ∧ digit n = c.toLower := by
  have hle : c.toNat ≤ 102 := le_of_isDigit (by rw [isDigit, h]; rfl)
  have hascii := digit_of_value?_ascii c.toNat (by omega)
  rw [Char.ofNat_toNat] at hascii
  exact hascii n h

/-- What was read is written in lower case. -/
theorem encode_of_decode? : ∀ {cs : List Char} {b : Bytes}, decode? cs = some b →
    encode b = cs.map Char.toLower
  | [], _, h => by cases h; rfl
  | [_], _, h => nomatch h
  | high :: low :: rest, _, h => by
    rw [decode?] at h
    split at h
    · rename_i hi lo bytes hhi hlo hrest
      cases h
      obtain ⟨hhi, hhigh⟩ := digit_of_value? hhi
      obtain ⟨hlo, hlow⟩ := digit_of_value? hlo
      have hbyte : (UInt8.ofNat (16 * hi + lo)).toNat = 16 * hi + lo := by
        rw [UInt8.toNat_ofNat']
        omega
      rw [encode, List.flatMap_cons, ← encode, encode_of_decode? hrest, pair, hbyte,
        show (16 * hi + lo) / 16 = hi by omega, show (16 * hi + lo) % 16 = lo by omega, hhigh, hlow]
      rfl
    · cases h

theorem toLower_of_isLowerDigit {c : Char} (h : IsLowerDigit c) : c.toLower = c := by
  obtain ⟨n, hn, rfl⟩ := exists_digit_eq h
  exact (digit_of_value? (value?_digit hn)).2.symm

end TokenOverlay.Hex
