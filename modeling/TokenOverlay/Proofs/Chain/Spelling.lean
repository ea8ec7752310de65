/-
The spellings of an outpoint. A compact text is written in one way, in lower case and without leading
zeros, but the transaction id is read in either case and the index with any number of zeros in front,
so one outpoint has several spellings. Of the plain ones, which are those that could have been
written, it has one.
-/
import TokenOverlay.Proofs.Chain.Forms

namespace TokenOverlay.Outpoint

variable {max : UInt32} {s : String} {o : Outpoint}

/-- A text is a plain spelling: what stands before its separator are lower-case digits, and the digits
behind it have no leading zeros. -/
def IsPlain (s : String) : Prop :=
  ∃ hash index, s.toList = hash ++ separator :: index ∧ (∀ c ∈ hash, Hex.IsLowerDigit c) ∧
    Decimal.IsShortest index

theorem isPlain_compact (o : Outpoint) : IsPlain o.compact := by
  have hindex : Decimal.IsShortest (Decimal.text o.index.toNat).toList := by
    rw [← Decimal.text_value_iff (Decimal.isNumber_text _), Decimal.value_text]
  exact ⟨_, _, toList_compact o, fun c => Digest.isLowerDigit_of_mem_digits, hindex⟩

/-- A text is divided in one way by its first separator. -/
theorem separated_inj : ∀ {hash hash' index index' : List Char},
    hash ++ separator :: index = hash' ++ separator :: index' → separator ∉ hash → separator ∉ hash' →
      hash = hash' ∧ index = index'
  | [], [], _, _, h, _, _ => ⟨rfl, (List.cons.inj h).2⟩
  | [], _ :: _, _, _, h, _, hnot => absurd (List.mem_cons.2 (.inl (List.cons.inj h).1)) hnot
  | _ :: _, [], _, _, h, hnot, _ => absurd (List.mem_cons.2 (.inl (List.cons.inj h).1.symm)) hnot
  | c :: _, _ :: _, _, _, h, hnot, hnot' => by
    obtain ⟨rfl, hrest⟩ := List.cons.inj h
    obtain ⟨rfl, rfl⟩ := separated_inj hrest (mt (List.mem_cons_of_mem c) hnot)
      (mt (List.mem_cons_of_mem c) hnot')
    exact ⟨rfl, rfl⟩

/-- What is written of a text that was read: its hex digits in lower case, and its index without the
zeros in front. -/
theorem SpelledBy.toList_compact (h : o.SpelledBy s) :
    ∃ hash zeros index, s.toList = hash ++ separator :: (zeros ++ index) ∧ (∀ z ∈ zeros, z = '0') ∧
      o.compact.toList = hash.map Char.toLower ++ separator :: index := by
  obtain ⟨hash, digits, hs, htxid, hnumber, hvalue⟩ := h
  obtain ⟨zeros, hzeros, hdigits⟩ := Decimal.exists_zeros_append hnumber
  refine ⟨hash, zeros, (Decimal.text (Decimal.value digits)).toList, hdigits ▸ hs, hzeros, ?_⟩
  rw [Outpoint.toList_compact, Digest.digits_of_ofDigits? htxid, hvalue]

/-- A text that was read is written again as it was exactly if it is a plain spelling. -/
theorem SpelledBy.compact_eq_iff (h : o.SpelledBy s) : o.compact = s ↔ IsPlain s := by
  constructor
  · rintro rfl
    exact isPlain_compact o
  · rintro ⟨hash, index, hs, hlower, hshortest⟩
    obtain ⟨hash', index', hs', htxid, hnumber, hvalue⟩ := h
    obtain ⟨-, hdigits⟩ := Digest.isDigit_of_ofDigits? htxid
    have hnot : separator ∉ hash := fun hc => absurd (hlower _ hc) (by decide)
    have hnot' : separator ∉ hash' := fun hc => absurd (hdigits _ hc) (by decide)
    -- the parts that are plain are the parts that were read
    obtain ⟨rfl, rfl⟩ := separated_inj (hs.symm.trans hs') hnot hnot'
    have hcase : hash.map Char.toLower = hash :=
      (List.map_congr_left fun c hc => Hex.toLower_of_isLowerDigit (hlower c hc)).trans (List.map_id hash)
    apply String.toList_injective
    rw [Outpoint.toList_compact, Digest.digits_of_ofDigits? htxid, ← hvalue,
      (Decimal.text_value_iff hnumber).2 hshortest, hcase, hs]

theorem SpelledBy.isPlain_unique {t : String} (hs : o.SpelledBy s) (ht : o.SpelledBy t) (hps : IsPlain s)
    (hpt : IsPlain t) : s = t :=
  (hs.compact_eq_iff.2 hps).symm.trans (ht.compact_eq_iff.2 hpt)

/-- When a text that reads as an outpoint is the compact text of that outpoint: exactly if it is a plain
spelling. In any case the two differ at most in the case of the hex digits and in zeros in front of the
index, and no two plain spellings read as the same outpoint, under whatever bounds. -/
theorem written_as_read_iff_plain (h : ofCompact max s = .ok o) :
    (o.compact = s ↔ IsPlain s) ∧
    (∃ hash zeros index, s.toList = hash ++ separator :: (zeros ++ index) ∧ (∀ z ∈ zeros, z = '0') ∧
      o.compact.toList = hash.map Char.toLower ++ separator :: index) ∧
    ∀ (max' : UInt32) (t : String), ofCompact max' t = .ok o → IsPlain s → IsPlain t → s = t := by
  obtain ⟨hs, -⟩ := ofCompact_ok.1 h
  refine ⟨hs.compact_eq_iff, hs.toList_compact, fun max' t ht => ?_⟩
  obtain ⟨ht, -⟩ := ofCompact_ok.1 ht
  exact hs.isPlain_unique ht

/-- A text of sixty-four digits, the separator and an index that is written without leading zeros. -/
theorem written_as_read_iff_plain_lower :
    let s : String := String.ofList ((List.replicate 32 ['a', 'b']).flatten ++ ['i', '7'])
    let o : Outpoint := ⟨.fill 0xab, 7⟩
    ofCompact defaultMaxIndex s = .ok o ∧ IsPlain s ∧ o.compact = s := by
  intro s o
  have hread : ofCompact defaultMaxIndex s = .ok o := by decide +kernel
  have hlower : ∀ c ∈ (List.replicate 32 ['a', 'b']).flatten, Hex.IsLowerDigit c := by
    intro c hc
    obtain ⟨pair, hpair, hc⟩ := List.mem_flatten.1 hc
    obtain rfl := List.eq_of_mem_replicate hpair
    rcases List.mem_pair.1 hc with rfl | rfl
    · decide
    · decide
  have hplain : IsPlain s := ⟨_, ['7'], String.toList_ofList, hlower, .inr (by decide)⟩
  obtain ⟨hiff, -⟩ := written_as_read_iff_plain hread
  exact ⟨hread, hplain, hiff.2 hplain⟩

/-- One outpoint read from three texts: with upper-case digits, with zeros in front of the index, and as
it is written. -/
theorem spelled_three_ways :
    let upper : String := String.ofList ((List.replicate 32 ['A', 'B']).flatten ++ ['i', '7'])
    let padded : String := String.ofList ((List.replicate 32 ['a', 'b']).flatten ++ ['i', '0', '0', '7'])
    let o : Outpoint := ⟨.fill 0xab, 7⟩
    ofCompact defaultMaxIndex upper = .ok o ∧ ofCompact defaultMaxIndex padded = .ok o ∧
      upper ≠ padded ∧ o.compact ≠ upper ∧ o.compact ≠ padded := by
  decide +kernel

end TokenOverlay.Outpoint
