/-
Which texts spell an outpoint: sixty-four hex digits of either case that show the transaction id, the
separator, and one or more decimal digits of the index. Reading accepts exactly these, up to its bound
on the index.
-/
import TokenOverlay.Chain.Outpoint
import TokenOverlay.Proofs.Digest
import TokenOverlay.Proofs.Except
import TokenOverlay.Proofs.Text

namespace TokenOverlay

namespace Outpoint

variable {max : UInt32} {s : String} {o : Outpoint}

/-- A text spells an outpoint. -/
def SpelledBy (o : Outpoint) (s : String) : Prop :=
  ∃ hash index, s.toList = hash ++ separator :: index ∧ Digest.ofDigits? hash = some o.txid ∧
    Decimal.isNumber index = true ∧ Decimal.value index = o.index.toNat

theorem readIndex_ok {cs : List Char} {i : UInt32} :
    readIndex max cs = .ok i ↔ Decimal.isNumber cs = true ∧ Decimal.value cs = i.toNat ∧ i ≤ max := by
  have hmax := max.toNat_lt
  have hi := i.toNat_lt
  rw [UInt32.le_iff_toNat_le]
  unfold readIndex Decimal.read?
  by_cases hnumber : Decimal.isNumber cs = true
  · simp only [hnumber, if_true, true_and, UInt64.size]
    constructor
    · intro h
      split at h
      · cases h
      · split at h
        · cases h
        · cases h
          rw [UInt32.toNat_ofNat']
          omega
    · rintro ⟨hvalue, hle⟩
      rw [if_neg (by omega), if_neg (by omega), hvalue, UInt32.ofNat_toNat]
  · simp [hnumber]

theorem byteSize_eq_utf8ByteSize (cs : List Char) : byteSize cs = (String.ofList cs).utf8ByteSize := by
  induction cs with
  | nil => rfl
  | cons c rest ih =>
    rw [String.ofList_cons, String.utf8ByteSize_append, String.utf8ByteSize_singleton, ← ih]
    rfl

/-! ## The separator -/

theorem ofCompact_unseparated (h : separator ∉ s.toList) : ofCompact max s = .error .missingSeparator := by
  simp only [ofCompact, dropWhile_bne_of_notMem h]

/-- What the reading of a text depends on: what stands before its first separator and what after it. -/
theorem ofCompact_separated {hash index : List Char} (hs : s.toList = hash ++ separator :: index)
    (h : separator ∉ hash) :
    ofCompact max s =
      if byteSize hash ≠ 64 then .error .missingSeparator
      else match Digest.ofDigits? hash with
        | none => .error .badHash
        | some txid => (readIndex max index).map (⟨txid, ·⟩) := by
  cases hd : Digest.ofDigits? hash with
  | none => simp only [ofCompact, hs, takeWhile_bne_append h, dropWhile_bne_append h, hd]
  | some txid => simp only [ofCompact, hs, takeWhile_bne_append h, dropWhile_bne_append h, hd]

theorem ofCompact_of_hash {hash index : List Char} {txid : Digest}
    (hs : s.toList = hash ++ separator :: index) (h : Digest.ofDigits? hash = some txid) :
    ofCompact max s = (readIndex max index).map (⟨txid, ·⟩) := by
  obtain ⟨hlength, hdigits⟩ := Digest.isDigit_of_ofDigits? h
  have hsize : byteSize hash = 64 := by
    rw [byteSize_eq_utf8ByteSize, Hex.utf8ByteSize_of_isDigit hdigits, hlength]
  have hseparator : separator ∉ hash := fun hc => absurd (hdigits _ hc) (by decide)
  rw [ofCompact_separated hs hseparator, if_neg (not_not.2 hsize), h]

/-- A text reads as an outpoint exactly if it spells it and the index is within the bound. -/
theorem ofCompact_ok : ofCompact max s = .ok o ↔ o.SpelledBy s ∧ o.index ≤ max := by
  constructor
  · intro h
    by_cases hs : separator ∈ s.toList
    · obtain ⟨hash, index, hs, hseparator⟩ := List.eq_append_cons_of_mem hs
      rw [ofCompact_separated hs hseparator] at h
      split at h
      · cases h
      · split at h
        · cases h
        · rename_i txid htxid
          obtain ⟨i, hi, rfl⟩ := map_ok_iff.1 h
          obtain ⟨hnumber, hvalue, hle⟩ := readIndex_ok.1 hi
          exact ⟨⟨hash, index, hs, htxid, hnumber, hvalue⟩, hle⟩
    · rw [ofCompact_unseparated hs] at h
      cases h
  · rintro ⟨⟨hash, index, hs, htxid, hnumber, hvalue⟩, hle⟩
    rw [ofCompact_of_hash hs htxid, readIndex_ok.2 ⟨hnumber, hvalue, hle⟩]
    rfl

end Outpoint

end TokenOverlay
