/-
Hex text of byte strings and digests. A text is read exactly if it has an even number of hex digits and nothing
else, and a digest is read from sixty-four; what was read is written in lower case. The bytes of a text in UTF-8,
read two by two, give what its characters give, since no byte of a character outside ASCII is a digit.
-/
import TokenOverlay.Proofs.Digest

namespace TokenOverlay

namespace Hex

variable {b : Bytes} {c : Char} {cs : List Char} {s : String}

/-! ## Characters -/

theorem exists_decode? : ∀ {cs : List Char}, cs.length % 2 = 0 → (∀ c ∈ cs, isDigit c = true) →
    ∃ b, decode? cs = some b
  | [], _, _ => ⟨[], rfl⟩
  | [_], heven, _ => by cases heven
  | high :: low :: rest, heven, hdigits => by
    obtain ⟨hhigh, hdigits⟩ := List.forall_mem_cons.1 hdigits
    obtain ⟨hlow, hrest⟩ := List.forall_mem_cons.1 hdigits
    obtain ⟨m, hm⟩ := Option.isSome_iff_exists.1 hhigh
    obtain ⟨n, hn⟩ := Option.isSome_iff_exists.1 hlow
    have heven : rest.length % 2 = 0 := by
      simp only [List.length_cons] at heven
      omega
    obtain ⟨b, hb⟩ := exists_decode? heven hrest
    exact ⟨_, by rw [decode?, hm, hn, hb]⟩

theorem length_of_decode?_text (h : decode? s.toList = some b) : s.utf8ByteSize = 2 * b.length := by
  have hsize := utf8ByteSize_of_isDigit (isDigit_of_decode? h)
  rwa [String.ofList_toList, length_of_decode? h] at hsize

/-- A text is read by its characters alone: one that has the digits of a byte string has its length too. -/
theorem decode_ok : decode s = .ok b ↔ decode? s.toList = some b := by
  unfold decode
  constructor
  · intro h
    split at h
    · cases h
    · split at h
      · rename_i b' hb
        cases h
        exact hb
      · cases h
  · intro h
    have heven : ¬ s.utf8ByteSize % 2 ≠ 0 := by
      rw [length_of_decode?_text h]
      omega
    rw [if_neg heven, h]

theorem exists_decode_iff :
    (∃ b, decode s = .ok b) ↔ s.utf8ByteSize % 2 = 0 ∧ ∀ c ∈ s.toList, IsDigit c := by
  simp only [decode_ok, ← isDigit_iff]
  constructor
  · rintro ⟨b, h⟩
    refine ⟨?_, isDigit_of_decode? h⟩
    rw [length_of_decode?_text h]
    omega
  · rintro ⟨heven, hdigits⟩
    have hsize := utf8ByteSize_of_isDigit hdigits
    rw [String.ofList_toList] at hsize
    exact exists_decode? (hsize ▸ heven) hdigits

theorem ofList_map_toLower (s : String) : String.ofList (s.toList.map Char.toLower) = s.toLower := by
  apply String.toList_injective
  rw [String.toList_ofList]
  exact String.toList_map.symm

theorem text_of_decode (h : decode s = .ok b) : text b = s.toLower := by
  rw [text, encode_of_decode? (decode_ok.1 h), ofList_map_toLower]

/-! ## Bytes -/

/-- The characters whose codes are the bytes, one for each byte. -/
def codes (b : Bytes) : List Char :=
  b.map fun x => Char.ofNat x.toNat

theorem ofText_eq_flatMap (s : String) : Bytes.ofText s = s.toList.flatMap String.utf8EncodeChar := by
  unfold Bytes.ofText
  conv => lhs; rw [← String.ofList_toList (s := s)]
  simp [String.ofList, List.utf8Encode]

theorem codes_utf8EncodeChar (h : c.toNat ≤ 127) : codes (String.utf8EncodeChar c) = [c] := by
  have hbyte : (UInt8.ofNat c.toNat).toNat = c.toNat := by
    rw [UInt8.toNat_ofNat']
    omega
  have hencode : String.utf8EncodeChar c = [UInt8.ofNat c.toNat] := if_pos h
  rw [hencode, codes, List.map_singleton, hbyte, Char.ofNat_toNat]

theorem le_of_isDigit_ofNat : ∀ k < 256, isDigit (Char.ofNat k) = true → k ≤ 102 := by decide +kernel

/-- The first byte of a character outside ASCII is no digit. -/
theorem isDigit_of_codes (h : ∀ d ∈ codes (String.utf8EncodeChar c), isDigit d = true) : isDigit c = true := by
  rcases Nat.lt_or_ge 127 c.toNat with hlarge | hsmall
  · have hval : c.val.toNat = c.toNat := rfl
    obtain ⟨x, hx, hcode⟩ : ∃ x ∈ String.utf8EncodeChar c, 102 < x.toNat := by
      unfold String.utf8EncodeChar
      simp only [hval, if_neg (Nat.not_le.2 hlarge)]
      split
      · exact ⟨_, List.mem_cons_self, by rw [UInt8.toNat_ofNat']; omega⟩
      · split
        · exact ⟨_, List.mem_cons_self, by rw [UInt8.toNat_ofNat']; omega⟩
        · exact ⟨_, List.mem_cons_self, by rw [UInt8.toNat_ofNat']; omega⟩
    have hle := le_of_isDigit_ofNat x.toNat x.toNat_lt (h _ (List.mem_map_of_mem hx))
    omega
  · rw [codes_utf8EncodeChar hsmall] at h
    exact h c List.mem_cons_self

/-- Reading the bytes of a text in UTF-8 gives what reading its characters gives. -/
theorem decode?_codes (s : String) : decode? (codes (Bytes.ofText s)) = decode? s.toList := by
  have hcodes : codes (Bytes.ofText s) = s.toList.flatMap fun c => codes (String.utf8EncodeChar c) := by
    rw [ofText_eq_flatMap, codes, List.map_flatMap]
    rfl
  by_cases hdigits : ∀ c ∈ s.toList, isDigit c = true
  · have hascii : ∀ c ∈ s.toList, codes (String.utf8EncodeChar c) = [c] := fun c hc =>
      codes_utf8EncodeChar (Nat.le_trans (le_of_isDigit (hdigits c hc)) (by decide))
    rw [hcodes, List.flatMap_def, List.map_congr_left hascii, ← List.flatMap_def, List.flatMap_singleton']
  · have hbytes : ¬ ∀ d ∈ codes (Bytes.ofText s), isDigit d = true := by
      intro hall
      refine hdigits fun c hc => isDigit_of_codes fun d hd => hall d ?_
      rw [hcodes]
      exact List.mem_flatMap.2 ⟨c, hc, hd⟩
    rw [Option.eq_none_iff_forall_ne_some.2 fun b hb => hdigits (isDigit_of_decode? hb),
      Option.eq_none_iff_forall_ne_some.2 fun b hb => hbytes (isDigit_of_decode? hb)]

end Hex

namespace Digest

variable {d : Digest} {s : String}

theorem ofText_text (d : Digest) : ofText d.text = .ok d := by
  rw [ofText_ok, text, Hex.text, String.toList_ofList]
  exact ofDigits?_digits d

theorem exists_ofText_iff :
    (∃ d, ofText s = .ok d) ↔ s.length = 64 ∧ ∀ c ∈ s.toList, Hex.IsDigit c := by
  simp only [ofText_ok, ← Hex.isDigit_iff, ← String.length_toList]
  constructor
  · rintro ⟨d, h⟩
    exact isDigit_of_ofDigits? h
  · rintro ⟨hlength, hdigits⟩
    obtain ⟨b, hb⟩ := Hex.exists_decode? (by omega) hdigits
    have hbytes : b.reverse.length = 32 := by
      have := Hex.length_of_decode? hb
      rw [List.length_reverse]
      omega
    refine ⟨⟨b.reverse, hbytes⟩, ofDigits?_eq_some.2 ?_⟩
    rw [hb, reversedBytes, List.reverse_reverse]

theorem text_of_ofText (h : ofText s = .ok d) : d.text = s.toLower := by
  rw [← Hex.ofList_map_toLower]
  exact congrArg String.ofList (digits_of_ofDigits? (ofText_ok.1 h))

/-- A digest is read from the bytes of its text in the other order. -/
theorem decode_of_ofText (h : ofText s = .ok d) : Hex.decode s = .ok d.bytes.reverse :=
  Hex.decode_ok.2 (ofDigits?_eq_some.1 (ofText_ok.1 h))

/-- Byte strings and digests are read from their hex. A text is read as a byte string exactly if it has an even number
of bytes and only hex digits of either case, and as a digest exactly if it has sixty-four of them; what was read is
written as the text in lower case, and a digest has the bytes that were read in the other order. Whatever characters a
text has, it is read as if each of its bytes in UTF-8 were a character of its own. -/
theorem hex_read_exactly :
    (∀ b : Bytes, Hex.decode (Hex.text b) = .ok b) ∧
    (∀ s, (∃ b, Hex.decode s = .ok b) ↔ s.utf8ByteSize % 2 = 0 ∧ ∀ c ∈ s.toList, Hex.IsDigit c) ∧
    (∀ s b, Hex.decode s = .ok b → Hex.text b = s.toLower) ∧
    (∀ s, Hex.decode? (Hex.codes (Bytes.ofText s)) = Hex.decode? s.toList) ∧
    (∀ d, ofText d.text = .ok d) ∧
    (∀ s, (∃ d, ofText s = .ok d) ↔ s.length = 64 ∧ ∀ c ∈ s.toList, Hex.IsDigit c) ∧
    ∀ s d, ofText s = .ok d → d.text = s.toLower ∧ ∃ b, Hex.decode s = .ok b ∧ d.bytes = b.reverse := by
  refine ⟨fun b => ?_, fun s => Hex.exists_decode_iff, fun s b => Hex.text_of_decode, Hex.decode?_codes,
    ofText_text, fun s => exists_ofText_iff, fun s d h => ⟨text_of_ofText h, ?_⟩⟩
  · rw [Hex.decode_ok, Hex.text, String.toList_ofList, Hex.decode?_encode]
  · exact ⟨_, decode_of_ofText h, (List.reverse_reverse _).symm⟩

/-- Digits of both cases. The digest that is read ends with the byte that its text begins with. -/
theorem hex_read_exactly_mixed :
    let s := "8E40af02265360d59f4ecf9ae9ebf8f00a3118408f5a9cdcbcc9c0f93642F3AB"
    Hex.decode "DEADbeef" = .ok [0xde, 0xad, 0xbe, 0xef] ∧ Hex.text [0xde, 0xad, 0xbe, 0xef] = "DEADbeef".toLower ∧
      ∃ d, ofText s = .ok d ∧ d.text = s.toLower ∧ d.bytes.getLast? = some 0x8e := by
  intro s
  obtain ⟨-, -, hlower, -, -, hread, hdigest⟩ := hex_read_exactly
  have hbytes : Hex.decode "DEADbeef" = .ok [0xde, 0xad, 0xbe, 0xef] := rfl
  have hdigits : ∀ c ∈ s.toList, Hex.IsDigit c := fun c hc => by
    have hall : s.toList.all Hex.isDigit = true := by decide +kernel
    exact Hex.isDigit_iff.1 (List.all_eq_true.1 hall c hc)
  obtain ⟨d, hd⟩ := (hread s).2 ⟨by decide +kernel, hdigits⟩
  obtain ⟨htext, b, hb, hreversed⟩ := hdigest s d hd
  have hfirst : (Hex.decode s).toOption.bind List.head? = some 0x8e := by decide +kernel
  refine ⟨hbytes, hlower _ _ hbytes, d, hd, htext, ?_⟩
  rw [hb] at hfirst
  rw [hreversed, List.getLast?_reverse]
  exact hfirst

end Digest

end TokenOverlay
