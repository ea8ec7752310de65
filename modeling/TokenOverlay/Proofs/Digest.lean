/-
Displayed digests. A digest is read from the text it is shown as, and the text it was read from is the
one it is shown as, up to the case of the digits.
-/
import TokenOverlay.Proofs.Hex

namespace TokenOverlay.Digest

variable {cs : List Char} {d : Digest}

theorem ofBytes?_eq_some {b : Bytes} : ofBytes? b = some d ↔ b = d.bytes := by
  constructor
  · intro h
    unfold ofBytes? at h
    split at h
    · cases h
      rfl
    · cases h
  · rintro rfl
    exact ofBytes?_bytes d

theorem ofDigits?_eq_some : ofDigits? cs = some d ↔ Hex.decode? cs = some d.reversedBytes := by
  rw [ofDigits?, Option.bind_eq_some_iff]
  simp only [ofBytes?_eq_some]
  constructor
  · rintro ⟨b, hb, hd⟩
    rw [hb, reversedBytes, ← hd, List.reverse_reverse]
  · intro h
    exact ⟨d.reversedBytes, h, by rw [reversedBytes, List.reverse_reverse]⟩

@[simp] theorem length_reversedBytes (d : Digest) : d.reversedBytes.length = 32 := by
  rw [reversedBytes, List.length_reverse, d.length_bytes]

theorem isDigit_of_ofDigits? (h : ofDigits? cs = some d) :
    cs.length = 64 ∧ ∀ c ∈ cs, Hex.isDigit c = true := by
  have hb := ofDigits?_eq_some.1 h
  refine ⟨?_, Hex.isDigit_of_decode? hb⟩
  rw [Hex.length_of_decode? hb, length_reversedBytes]

theorem ofDigits?_digits (d : Digest) : ofDigits? d.digits = some d :=
  ofDigits?_eq_some.2 (Hex.decode?_encode _)

/-- A digest is shown in lower case. -/
theorem digits_of_ofDigits? (h : ofDigits? cs = some d) : d.digits = cs.map Char.toLower :=
  Hex.encode_of_decode? (ofDigits?_eq_some.1 h)

/-- A text is read as a digest by its digits alone. -/
theorem ofText_ok {s : String} : ofText s = .ok d ↔ ofDigits? s.toList = some d := by
  rw [ofDigits?_eq_some]
  unfold ofText Hex.decodeExactly
  constructor
  · intro h
    split at h
    · cases h
    · rename_i b hb
      split at h
      · rename_i d' hd
        cases h
        split at hb
        · cases hb
        · split at hb
          · rename_i b' hb'
            cases hb
            rw [hb', reversedBytes, ← ofBytes?_eq_some.1 hd, List.reverse_reverse]
          · cases hb
      · cases h
  · intro h
    have hsize : s.utf8ByteSize = 32 * 2 := by
      have := Hex.utf8ByteSize_of_isDigit (Hex.isDigit_of_decode? h)
      rw [String.ofList_toList, Hex.length_of_decode? h, length_reversedBytes] at this
      omega
    have hd : ofBytes? d.reversedBytes.reverse = some d :=
      ofBytes?_eq_some.2 (by rw [reversedBytes, List.reverse_reverse])
    simp only [hsize, ne_eq, not_true_eq_false, if_false, h, hd]

end TokenOverlay.Digest
