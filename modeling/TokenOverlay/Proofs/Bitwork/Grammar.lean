/-
How a work requirement is written and what it asks of an id. The reader takes a stem, and after a point the digits
of a number up to fifteen, and nothing else. A displayed id meets a requirement exactly if it begins with the stem
and, where the least value is above zero, with the stem and one more digit of at least that value; so the order of
requirements can be told from their stems and least values.
-/
import TokenOverlay.Proofs.Decimal
import TokenOverlay.Proofs.Digest
import TokenOverlay.Proofs.Text

namespace TokenOverlay

theorem Hex.le_of_isLowerDigit {c : Char} (h : IsLowerDigit c) : c ≤ 'f' := by
  obtain ⟨n, hn, rfl⟩ := exists_digit_eq h
  exact le_of_isDigit (by rw [isDigit, value?_digit hn]; rfl)

namespace Bitwork

variable {s : String} {w : Bitwork} {id stem ext digits : List Char}

/-! ## Reading -/

/-- A stem: one to sixty-four lower-case letters and digits, and perhaps a newline. -/
def IsStem (stem : List Char) : Prop :=
  ∃ core newline, stem = core ++ newline ∧ 1 ≤ core.length ∧ core.length ≤ 64 ∧
    (∀ c ∈ core, ('a' ≤ c ∧ c ≤ 'z') ∨ ('0' ≤ c ∧ c ≤ '9')) ∧ Line.IsEnd newline

/-- Digits, with or without leading zeros, of a number up to fifteen. -/
def IsExtension (digits : List Char) (n : Nat) : Prop :=
  digits ≠ [] ∧ (∀ c ∈ digits, c.isDigit = true) ∧ Nat.ofDigitChars 10 digits 0 = n ∧ n ≤ 15

/-- How a requirement is written: the stem alone, or the stem, a point and the digits of the extension. -/
structure WrittenAs (w : Bitwork) (s : String) : Prop where
  text : w.text = s
  stem : IsStem w.stem.toList
  extension : (w.extension? = none ∧ s.toList = w.stem.toList) ∨
    ∃ digits n, w.extension? = some n ∧ IsExtension digits n ∧ s.toList = w.stem.toList ++ '.' :: digits

theorem isStem_iff : isStem stem = true ↔ IsStem stem := by
  have hcore : isStem stem = true ↔ 1 ≤ (Line.core stem).length ∧ (Line.core stem).length ≤ 64 ∧
      ∀ c ∈ Line.core stem, ('a' ≤ c ∧ c ≤ 'z') ∨ ('0' ≤ c ∧ c ≤ '9') := by
    simp only [isStem, Bool.and_eq_true, Bool.not_eq_true', List.isEmpty_eq_false_iff,
      decide_eq_true_eq, List.all_eq_true, Line.isLowerOrDigit_iff, and_assoc]
    rw [← List.length_pos_iff]
    rfl
  rw [hcore]
  constructor
  · rintro ⟨hpos, hle, hall⟩
    obtain ⟨newline, hend, heq⟩ := Line.exists_core_append stem
    exact ⟨_, newline, heq, hpos, hle, hall, hend⟩
  · rintro ⟨core, newline, rfl, hpos, hle, hall, hend⟩
    have hline : '\n' ∉ core := fun hc => absurd (hall _ hc) (by decide)
    rw [Line.core_append hline hend]
    exact ⟨hpos, hle, hall⟩

theorem IsStem.point_notMem (h : IsStem stem) : '.' ∉ stem := by
  obtain ⟨core, newline, rfl, -, -, hall, hend⟩ := h
  intro hc
  rcases List.mem_append.1 hc with hc | hc
  · exact absurd (hall _ hc) (by decide)
  · rcases hend with rfl | rfl <;> revert hc <;> decide

theorem IsStem.ne_nil (h : IsStem stem) : stem ≠ [] := by
  obtain ⟨core, newline, rfl, hpos, -⟩ := h
  intro heq
  rw [(List.append_eq_nil_iff.1 heq).1] at hpos
  exact absurd hpos (by decide)

theorem extensionValue?_eq_some {n : Nat} : extensionValue? digits = some n ↔ IsExtension digits n := by
  simp only [extensionValue?, Option.filter_eq_some_iff, Decimal.read?, Decimal.isNumber, decide_eq_true_eq,
    Option.ite_none_right_eq_some, Option.some.injEq, Bool.and_eq_true, Bool.not_eq_true',
    List.isEmpty_eq_false_iff, List.all_eq_true, and_assoc]
  rfl

theorem IsExtension.point_notMem {n : Nat} (h : IsExtension digits n) : '.' ∉ digits :=
  fun hc => absurd (h.2.1 _ hc) (by decide)

theorem ofText_unpointed (hne : s.toList ≠ []) (h : '.' ∉ s.toList) :
    ofText s = if isStem s.toList = true then .ok ⟨s, s, none⟩ else .error (.badStem s) := by
  have hs : s.isEmpty = false := by
    rw [Bool.eq_false_iff, Ne, String.isEmpty_iff]
    rintro rfl
    exact hne rfl
  simp only [ofText, takeWhile_bne_of_notMem h, dropWhile_bne_of_notMem h, hs, String.ofList_toList]
  cases isStem s.toList <;> rfl

theorem ofText_pointed (hs : s.toList = stem ++ '.' :: ext) (h : '.' ∉ stem) :
    ofText s =
      if '.' ∈ ext then .error (.tooManySeparators s)
      else if isStem stem = true then
        match extensionValue? ext with
        | some n => .ok ⟨s, String.ofList stem, some n⟩
        | none => .error (.badExtension (String.ofList ext))
      else .error (.badStem (String.ofList stem)) := by
  have hne : s.isEmpty = false := by
    rw [Bool.eq_false_iff, Ne, String.isEmpty_iff]
    rintro rfl
    cases stem <;> cases hs
  simp only [ofText, hs, takeWhile_bne_append h, dropWhile_bne_append h, hne, List.drop_succ_cons, List.drop_zero]
  cases isStem stem <;> rfl

theorem exists_ofText_of_pointed (hs : s.toList = stem ++ '.' :: ext) (hstem : IsStem stem) {n : Nat}
    (hext : IsExtension ext n) : ofText s = .ok ⟨s, String.ofList stem, some n⟩ := by
  rw [ofText_pointed hs hstem.point_notMem, if_neg hext.point_notMem, if_pos (isStem_iff.2 hstem)]
  simp only [extensionValue?_eq_some.2 hext]

/-- A text is read as a requirement exactly if the requirement is written so. -/
theorem ofText_ok : ofText s = .ok w ↔ w.WrittenAs s := by
  constructor
  · intro h
    by_cases hpoint : '.' ∈ s.toList
    · obtain ⟨stem, ext, hs, hstem⟩ := List.eq_append_cons_of_mem hpoint
      rw [ofText_pointed hs hstem] at h
      split at h
      · cases h
      split at h
      · rename_i hisStem
        split at h
        · rename_i n hext
          cases h
          refine ⟨rfl, ?_, .inr ⟨ext, n, rfl, extensionValue?_eq_some.1 hext, ?_⟩⟩
          · exact isStem_iff.1 (by rwa [String.toList_ofList])
          · rw [String.toList_ofList, hs]
        · cases h
      · cases h
    · by_cases hne : s.toList = []
      · rw [String.toList_eq_nil_iff.1 hne] at h
        cases h
      · rw [ofText_unpointed hne hpoint] at h
        split at h
        · rename_i hisStem
          cases h
          exact ⟨rfl, isStem_iff.1 hisStem, .inl ⟨rfl, rfl⟩⟩
        · cases h
  · obtain ⟨text, stem, extension?⟩ := w
    rintro ⟨htext, hstem, ⟨hnone, hs⟩ | ⟨digits, n, hsome, hext, hs⟩⟩
    · cases htext
      cases hnone
      cases String.toList_injective hs
      rw [ofText_unpointed hstem.ne_nil hstem.point_notMem, if_pos (isStem_iff.2 hstem)]
    · cases htext
      cases hsome
      rw [exists_ofText_of_pointed hs hstem hext, String.ofList_toList]

/-! ## Meeting -/

/-- The least value of the digit after the stem; a requirement without an extension has none above zero. -/
def least (w : Bitwork) : Nat :=
  w.extension?.getD 0

/-- A transaction id as it is displayed: sixty-four lower-case hex digits. -/
def IsDisplayed (id : List Char) : Prop :=
  id.length = 64 ∧ ∀ c ∈ id, Hex.IsLowerDigit c

theorem isDisplayed_digits (d : Digest) : IsDisplayed d.digits := by
  refine ⟨?_, fun c hc => d.isLowerDigit_of_mem_digits hc⟩
  rw [Digest.digits, Hex.length_encode, d.length_reversedBytes]

theorem append_singleton_isPrefix_iff {c : Char} :
    stem ++ [c] <+: id ↔ stem <+: id ∧ id[stem.length]? = some c := by
  constructor
  · rintro ⟨rest, rfl⟩
    rw [List.append_assoc]
    exact ⟨List.prefix_append _ _, by simp⟩
  · rintro ⟨⟨rest, rfl⟩, hc⟩
    rw [List.getElem?_append_right (Nat.le_refl _), Nat.sub_self, ← List.head?_eq_getElem?] at hc
    obtain ⟨rest, rfl⟩ := List.head?_eq_some_iff.1 hc
    exact ⟨rest, by rw [List.append_assoc, List.singleton_append]⟩

/-- A displayed id meets a requirement if it begins with the stem and, where a digit is asked for, goes on with
one that is large enough. -/
theorem isMetBy_displayed_iff (hid : IsDisplayed id) : w.isMetBy id = true ↔ w.stem.toList <+: id ∧
    (0 < w.least → ∃ n < 16, w.least ≤ n ∧ w.stem.toList ++ [Hex.digit n] <+: id) := by
  rw [isMetBy_iff]
  constructor
  · rintro ⟨hstem, hnext⟩
    refine ⟨hstem, fun hpos => ?_⟩
    cases hext : w.extension? with
    | none => simp [least, hext] at hpos
    | some least =>
      have hleast : w.least = least := by rw [Bitwork.least, hext, Option.getD_some]
      obtain ⟨c, n, hc, hn, hle⟩ := hnext least hext (hleast ▸ hpos)
      obtain ⟨m, hm, rfl⟩ := Hex.exists_digit_eq (hid.2 c (List.mem_of_getElem? hc))
      rw [Hex.value?_digit hm] at hn
      cases hn
      refine ⟨n, hm, hleast ▸ hle, append_singleton_isPrefix_iff.2 ⟨hstem, ?_⟩⟩
      rwa [String.length_toList]
  · rintro ⟨hstem, hnext⟩
    refine ⟨hstem, fun least hext hpos => ?_⟩
    have hleast : w.least = least := by rw [Bitwork.least, hext, Option.getD_some]
    obtain ⟨n, hn, hle, hdigit⟩ := hnext (hleast ▸ hpos)
    have hc := (append_singleton_isPrefix_iff.1 hdigit).2
    rw [String.length_toList] at hc
    exact ⟨_, n, hc, Hex.value?_digit hn, hleast ▸ hle⟩

variable {w' : Bitwork}

theorem isMetBy_of_least_le (hid : IsDisplayed id) (hstem : w'.stem = w.stem) (hle : w'.least ≤ w.least)
    (h : w.isMetBy id = true) : w'.isMetBy id = true := by
  rw [isMetBy_displayed_iff hid] at h ⊢
  rw [hstem]
  refine ⟨h.1, fun hpos => ?_⟩
  obtain ⟨n, hn, hleast, hdigit⟩ := h.2 (Nat.lt_of_lt_of_le hpos hle)
  exact ⟨n, hn, Nat.le_trans hle hleast, hdigit⟩

theorem isMetBy_of_least_eq_zero (hid : IsDisplayed id) (h : w.least = 0) :
    w.isMetBy id = true ↔ w.stem.toList <+: id := by
  rw [isMetBy_displayed_iff hid, h]
  exact and_iff_left fun hpos => absurd hpos (Nat.lt_irrefl 0)

theorem isMetBy_of_stem_isPrefix (hid : IsDisplayed id) (hstem : w'.stem.toList <+: w.stem.toList)
    (hzero : w'.least = 0) (h : w.isMetBy id = true) : w'.isMetBy id = true :=
  (isMetBy_of_least_eq_zero hid hzero).2 (hstem.trans ((isMetBy_displayed_iff hid).1 h).1)

/-- Only one digit has the largest value. -/
theorem isMetBy_of_least_eq_max (hid : IsDisplayed id) (h : w.least = 15) :
    w.isMetBy id = true ↔ w.stem.toList ++ ['f'] <+: id := by
  rw [isMetBy_displayed_iff hid, h]
  constructor
  · rintro ⟨-, hnext⟩
    obtain ⟨n, hn, hle, hdigit⟩ := hnext (by decide)
    obtain rfl : n = 15 := by omega
    exact hdigit
  · intro hdigit
    exact ⟨(append_singleton_isPrefix_iff.1 hdigit).1, fun _ => ⟨15, by decide, Nat.le_refl 15, hdigit⟩⟩

theorem isMetBy_of_mem_stem (hid : IsDisplayed id) {c : Char} (hc : c ∈ w.stem.toList)
    (h : ¬ Hex.IsLowerDigit c) : w.isMetBy id = false := by
  rw [Bool.eq_false_iff]
  intro hmet
  exact h (hid.2 c (((isMetBy_displayed_iff hid).1 hmet).1.subset hc))

/-- No digit is left after a stem that is as long as an id. -/
theorem isMetBy_of_length_le (hid : IsDisplayed id) (hlength : 64 ≤ w.stem.length) (hpos : 0 < w.least) :
    w.isMetBy id = false := by
  rw [Bool.eq_false_iff]
  intro hmet
  obtain ⟨n, -, -, hdigit⟩ := ((isMetBy_displayed_iff hid).1 hmet).2 hpos
  have hle := hdigit.length_le
  rw [List.length_append, String.length_toList, hid.1, List.length_singleton] at hle
  omega

/-- Which texts are requirements, and which displayed ids meet one. A requirement with a lower least value, or with
a shorter stem and no extension, asks for no more; the largest extension asks for one more `f`. A stem that has any
character but a lower-case hex digit is met by no id, nor is an extension of a stem that is as long as an id. -/
theorem written_and_met_exactly (s : String) :
    ((∃ w, ofText s = .ok w) ↔ ∃ stem ext, s.toList = stem ++ ext ∧ IsStem stem ∧
      (ext = [] ∨ ∃ digits n, ext = '.' :: digits ∧ IsExtension digits n)) ∧
    ∀ w, ofText s = .ok w → w.WrittenAs s ∧ ∀ id, IsDisplayed id →
      (w.isMetBy id = true ↔ w.stem.toList <+: id ∧
        (0 < w.least → ∃ n < 16, w.least ≤ n ∧ w.stem.toList ++ [Hex.digit n] <+: id)) ∧
      (∀ w' : Bitwork, w'.stem = w.stem → w'.least ≤ w.least → w.isMetBy id = true → w'.isMetBy id = true) ∧
      (∀ w' : Bitwork, w'.stem.toList <+: w.stem.toList → w'.least = 0 → w.isMetBy id = true →
        w'.isMetBy id = true) ∧
      (w.least = 15 → ∀ w' : Bitwork, w'.stem.toList = w.stem.toList ++ ['f'] → w'.least = 0 →
        (w.isMetBy id = true ↔ w'.isMetBy id = true)) ∧
      ((∃ c ∈ w.stem.toList, c = '\n' ∨ 'f' < c) → w.isMetBy id = false) ∧
      (64 ≤ w.stem.length → 0 < w.least → w.isMetBy id = false) := by
  constructor
  · constructor
    · rintro ⟨w, h⟩
      obtain ⟨-, hstem, ⟨-, hs⟩ | ⟨digits, n, -, hext, hs⟩⟩ := ofText_ok.1 h
      · exact ⟨_, [], by rw [hs, List.append_nil], hstem, .inl rfl⟩
      · exact ⟨_, _, hs, hstem, .inr ⟨digits, n, rfl, hext⟩⟩
    · rintro ⟨stem, ext, hs, hstem, rfl | ⟨digits, n, rfl, hext⟩⟩
      · rw [List.append_nil] at hs
        exact ⟨⟨s, s, none⟩, ofText_ok.2 ⟨rfl, hs ▸ hstem, .inl ⟨rfl, rfl⟩⟩⟩
      · exact ⟨_, exists_ofText_of_pointed hs hstem hext⟩
  · intro w h
    refine ⟨ofText_ok.1 h, fun id hid => ⟨isMetBy_displayed_iff hid, ?_, ?_, ?_, ?_, ?_⟩⟩
    · exact fun w' => isMetBy_of_least_le hid
    · exact fun w' => isMetBy_of_stem_isPrefix hid
    · intro hmax w' hstem hzero
      rw [isMetBy_of_least_eq_max hid hmax, isMetBy_of_least_eq_zero hid hzero, hstem]
    · rintro ⟨c, hc, hbad⟩
      refine isMetBy_of_mem_stem hid hc ?_
      rcases hbad with rfl | hbad
      · decide
      · exact fun hdigit => Char.not_lt.2 (Hex.le_of_isLowerDigit hdigit) hbad
    · exact isMetBy_of_length_le hid

/-- An extension with leading zeros: it is met by an id that goes on with the digit, and then so is the stem alone. -/
theorem written_and_met_exactly_padded :
    let w : Bitwork := ⟨"00ab.007", "00ab", some 7⟩
    let id : List Char := Digest.digits ⟨List.replicate 30 0xaa ++ [0xab, 0x00], rfl⟩
    ofText "00ab.007" = .ok w ∧ IsDisplayed id ∧ w.isMetBy id = true ∧
      (∃ n < 16, w.least ≤ n ∧ w.stem.toList ++ [Hex.digit n] <+: id) ∧
      (⟨"00", "00", none⟩ : Bitwork).isMetBy id = true := by
  intro w id
  have hread : ofText "00ab.007" = .ok w := rfl
  have hid : IsDisplayed id := isDisplayed_digits _
  have hmet : w.isMetBy id = true := by decide +kernel
  obtain ⟨-, hwritten⟩ := written_and_met_exactly "00ab.007"
  obtain ⟨-, hids⟩ := hwritten w hread
  obtain ⟨hexact, -, hshorter, -⟩ := hids id hid
  exact ⟨hread, hid, hmet, (hexact.1 hmet).2 (by decide), hshorter ⟨"00", "00", none⟩ (by decide) rfl hmet⟩

end Bitwork

end TokenOverlay
