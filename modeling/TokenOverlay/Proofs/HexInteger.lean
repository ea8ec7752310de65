/-
The grammar of integers in base sixteen: blanks, a sign, a mark of the base with or without an underscore,
groups of digits with single underscores between them, and blanks. The reader strips one part after the other,
which decides the grammar because no digit is a blank, a sign or the letter of a mark.
-/
import Mathlib.Data.List.TakeWhile
import TokenOverlay.Proofs.Hex
import TokenOverlay.Proofs.Unicode.Ranges
import TokenOverlay.Text.HexInteger

namespace TokenOverlay.HexInteger

open Unicode (IsBlank)

variable {c : Char} {cs before sign mark digits behind rest : List Char} {groups : List (List Char)}

/-! ## Groups -/

/-- One or more groups of one or more digits. -/
structure AreGroups (groups : List (List Char)) : Prop where
  some_group : groups ≠ []
  digits : ∀ group ∈ groups, group ≠ [] ∧ ∀ c ∈ group, Hex.IsDigit c

theorem splitOn_underscore (cs : List Char) : ('_' :: cs).splitOn '_' = [] :: cs.splitOn '_' := by
  simp [List.splitOn, List.splitOnP_cons_eq_if_modifyHead]

theorem splitOn_of_ne (h : c ≠ '_') (cs : List Char) :
    (c :: cs).splitOn '_' = (cs.splitOn '_').modifyHead (c :: ·) := by
  simp [List.splitOn, List.splitOnP_cons_eq_if_modifyHead, h]

theorem ne_underscore (h : Hex.isDigit c = true) : c ≠ '_' := by
  rintro rfl
  cases h

/-- A text is grouped if it has digits on both sides of every underscore. -/
theorem isGrouped_eq_splitOn (cs : List Char) :
    isGrouped cs = (cs.splitOn '_').all fun group => !group.isEmpty && group.all Hex.isDigit := by
  fun_induction isGrouped cs with
  | case1 => rfl
  | case2 c =>
    by_cases h : c = '_'
    · subst h
      rfl
    · rw [splitOn_of_ne h, List.splitOn_nil]
      simp
  | case3 c rest ih =>
    by_cases h : c = '_'
    · subst h
      rw [splitOn_underscore]
      rfl
    · rw [splitOn_of_ne h, splitOn_underscore, ih]
      simp
  | case4 c rest hrest hnot ih =>
    by_cases h : c = '_'
    · subst h
      rw [splitOn_underscore]
      rfl
    · rcases rest with _ | ⟨d, more⟩
      · exact absurd rfl hrest
      · have hd : d ≠ '_' := fun he => hnot more (by rw [he])
        obtain ⟨group, groups, hmore⟩ := List.exists_cons_of_ne_nil (List.splitOn_ne_nil '_' more)
        rw [ih, splitOn_of_ne h, splitOn_of_ne hd, hmore]
        simp [Bool.and_assoc]

/-- A text is grouped if it is groups of digits with single underscores between them. -/
theorem isGrouped_iff : isGrouped cs = true ↔ ∃ groups, AreGroups groups ∧ cs = ['_'].intercalate groups := by
  have hgroups : isGrouped cs = true ↔ AreGroups (cs.splitOn '_') := by
    simp only [isGrouped_eq_splitOn, List.all_eq_true, Bool.and_eq_true, Bool.not_eq_true',
      List.isEmpty_eq_false_iff, Hex.isDigit_iff]
    exact ⟨fun h => ⟨List.splitOn_ne_nil _ _, h⟩, fun h => h.digits⟩
  rw [hgroups]
  constructor
  · intro h
    exact ⟨_, h, (List.intercalate_splitOn '_').symm⟩
  · rintro ⟨groups, h, rfl⟩
    have hnot : ∀ group ∈ groups, '_' ∉ group := fun group hgroup hc =>
      ne_underscore (Hex.isDigit_iff.2 ((h.digits group hgroup).2 _ hc)) rfl
    rwa [List.splitOn_intercalate '_' hnot h.some_group]

/-- Digits and underscores are all there is between the first digit and the last. -/
theorem mem_of_isGrouped (h : isGrouped cs = true) : ∀ c ∈ cs, c = '_' ∨ Hex.isDigit c = true := by
  fun_induction isGrouped cs with
  | case1 => cases h
  | case2 d =>
    intro c hc
    rw [List.mem_singleton.1 hc]
    exact .inr h
  | case3 d rest ih =>
    obtain ⟨hd, hrest⟩ := Bool.and_eq_true_iff.1 h
    exact List.forall_mem_cons.2 ⟨.inr hd, List.forall_mem_cons.2 ⟨.inl rfl, ih hrest⟩⟩
  | case4 d rest _ _ ih =>
    obtain ⟨hd, hrest⟩ := Bool.and_eq_true_iff.1 h
    exact List.forall_mem_cons.2 ⟨.inr hd, ih hrest⟩

theorem head_of_isGrouped (h : isGrouped cs = true) : ∃ c rest, cs = c :: rest ∧ Hex.isDigit c = true := by
  fun_induction isGrouped cs with
  | case1 => cases h
  | case2 c => exact ⟨c, [], rfl, h⟩
  | case3 c rest _ => exact ⟨c, '_' :: rest, rfl, (Bool.and_eq_true_iff.1 h).1⟩
  | case4 c rest _ _ _ => exact ⟨c, rest, rfl, (Bool.and_eq_true_iff.1 h).1⟩

/-! ## Signs and marks -/

/-- No sign, or one of the two. -/
def signs : List (List Char) :=
  [[], ['+'], ['-']]

/-- No mark of the base, or one in either case, with or without an underscore behind it. -/
def marks : List (List Char) :=
  [[], ['0', 'x'], ['0', 'X'], ['0', 'x', '_'], ['0', 'X', '_']]

theorem exists_sign (cs : List Char) : ∃ sign ∈ signs, cs = sign ++ afterSign cs := by
  fun_cases afterSign cs with
  | case1 rest => exact ⟨['+'], by decide, rfl⟩
  | case2 rest => exact ⟨['-'], by decide, rfl⟩
  | case3 => exact ⟨[], by decide, rfl⟩

theorem exists_mark (cs : List Char) : ∃ mark ∈ marks, cs = mark ++ afterMark cs := by
  fun_cases afterMark cs with
  | case1 rest => exact ⟨['0', 'x', '_'], by decide, rfl⟩
  | case2 rest => exact ⟨['0', 'X', '_'], by decide, rfl⟩
  | case3 rest => exact ⟨['0', 'x'], by decide, rfl⟩
  | case4 rest => exact ⟨['0', 'X'], by decide, rfl⟩
  | case5 => exact ⟨[], by decide, rfl⟩

/-- A first digit zero is no mark unless the letter of a mark follows it. -/
theorem afterMark_self (h : ∀ c ∈ rest, c ≠ 'x' ∧ c ≠ 'X') : afterMark (c :: rest) = c :: rest := by
  rcases rest with _ | ⟨d, more⟩
  · simp [afterMark]
  · obtain ⟨hlower, hupper⟩ := h d List.mem_cons_self
    simp [afterMark, hlower, hupper]

theorem afterMark_append (hmark : mark ∈ marks) (h : isGrouped digits = true) :
    afterMark (mark ++ digits) = digits := by
  obtain ⟨d, rest, rfl, hd⟩ := head_of_isGrouped h
  have hunderscore : d ≠ '_' := ne_underscore hd
  have hletter : ∀ c ∈ rest, c ≠ 'x' ∧ c ≠ 'X' := fun c hc => by
    rcases mem_of_isGrouped h c (List.mem_cons_of_mem d hc) with rfl | hdigit
    · decide
    · constructor <;> rintro rfl <;> cases hdigit
  simp only [marks, List.mem_cons, List.not_mem_nil, or_false] at hmark
  rcases hmark with rfl | rfl | rfl | rfl | rfl
  · exact afterMark_self hletter
  · simp [afterMark, hunderscore]
  · simp [afterMark, hunderscore]
  · rfl
  · rfl

theorem afterSign_append (hsign : sign ∈ signs) (h : ∀ c ∈ rest, c ≠ '+' ∧ c ≠ '-') :
    afterSign (sign ++ rest) = rest := by
  simp only [signs, List.mem_cons, List.not_mem_nil, or_false] at hsign
  rcases hsign with rfl | rfl | rfl
  · rcases rest with _ | ⟨c, rest⟩
    · rfl
    · simp [afterSign, h c List.mem_cons_self]
  · rfl
  · rfl

/-! ## Numerals -/

/-- A sign, a mark and groups of digits, the parts of an integer without the blanks around it. -/
structure IsNumeral (sign mark : List Char) (groups : List (List Char)) : Prop where
  sign : sign ∈ signs
  mark : mark ∈ marks
  groups : AreGroups groups

/-- The characters of an integer. -/
def numeral (sign mark : List Char) (groups : List (List Char)) : List Char :=
  sign ++ (mark ++ ['_'].intercalate groups)

theorem exists_numeral (h : isGrouped (afterMark (afterSign cs)) = true) :
    ∃ sign mark groups, IsNumeral sign mark groups ∧ cs = numeral sign mark groups := by
  obtain ⟨sign, hsign, hcs⟩ := exists_sign cs
  obtain ⟨mark, hmark, hrest⟩ := exists_mark (afterSign cs)
  obtain ⟨groups, hgroups, hdigits⟩ := isGrouped_iff.1 h
  refine ⟨sign, mark, groups, ⟨hsign, hmark, hgroups⟩, ?_⟩
  rw [numeral, ← hdigits, ← hrest, ← hcs]

theorem mem_sign : ∀ sign ∈ signs, sign.length ≤ 1 ∧ ∀ c ∈ sign, c = '+' ∨ c = '-' := by
  simp [signs]

theorem mem_mark : ∀ mark ∈ marks, ∀ c ∈ mark, c = '0' ∨ c = 'x' ∨ c = 'X' ∨ c = '_' := by
  simp [marks]

theorem mark_places : ∀ mark ∈ marks, (∀ c ∈ mark.head?, c = '0') ∧ ∀ c ∈ mark.drop 2, c = '_' := by
  simp [marks]

theorem not_isBlank_of_isDigit (h : Hex.isDigit c = true) : ¬ IsBlank c := by
  have h := Hex.isDigit_iff.1 h
  simp only [Hex.IsDigit, Hex.char_le_iff, Char.reduceToNat] at h
  unfold IsBlank
  omega

namespace IsNumeral

variable (h : IsNumeral sign mark groups)

include h

theorem isGrouped_digits : isGrouped (['_'].intercalate groups) = true :=
  isGrouped_iff.2 ⟨groups, h.groups, rfl⟩

theorem mem_digits (hc : c ∈ ['_'].intercalate groups) : c = '_' ∨ Hex.isDigit c = true :=
  mem_of_isGrouped h.isGrouped_digits c hc

/-- A sign stands in front of everything else. -/
theorem ne_sign (hc : c ∈ mark ++ ['_'].intercalate groups) : c ≠ '+' ∧ c ≠ '-' := by
  rcases List.mem_append.1 hc with hc | hc
  · rcases mem_mark mark h.mark c hc with rfl | rfl | rfl | rfl <;> decide
  · rcases h.mem_digits hc with rfl | hdigit
    · decide
    · constructor <;> rintro rfl <;> cases hdigit

theorem not_isBlank (hc : c ∈ numeral sign mark groups) : ¬ IsBlank c := by
  unfold numeral at hc
  simp only [List.mem_append] at hc
  rcases hc with hc | hc | hc
  · rcases (mem_sign sign h.sign).2 c hc with rfl | rfl <;> simp [IsBlank]
  · rcases mem_mark mark h.mark c hc with rfl | rfl | rfl | rfl <;> simp [IsBlank]
  · rcases h.mem_digits hc with rfl | hdigit
    · simp [IsBlank]
    · exact not_isBlank_of_isDigit hdigit

theorem exists_digit : ∃ c ∈ numeral sign mark groups, Hex.isDigit c = true := by
  obtain ⟨d, rest, hdigits, hd⟩ := head_of_isGrouped h.isGrouped_digits
  refine ⟨d, ?_, hd⟩
  simp [numeral, hdigits]

theorem isGrouped_afterMark : isGrouped (afterMark (afterSign (numeral sign mark groups))) = true := by
  rw [numeral, afterSign_append h.sign fun c hc => h.ne_sign hc, afterMark_append h.mark h.isGrouped_digits]
  exact h.isGrouped_digits

end IsNumeral

/-! ## Blanks around a numeral -/

theorem dropWhile_blanks {rest : List Char} (h : ∀ b ∈ before, IsBlank b) (hc : ¬ IsBlank c) :
    (before ++ c :: rest).dropWhile Unicode.space.contains = c :: rest := by
  have hblank : ∀ b ∈ before, Unicode.space.contains b = true := fun b hb => Unicode.space_contains_iff.2 (h b hb)
  rw [List.dropWhile_append_of_pos hblank, List.dropWhile_cons_of_neg (mt Unicode.space_contains_iff.1 hc)]

/-- Trimming takes the blanks around characters that are no blanks. -/
theorem trim_append (hbefore : ∀ c ∈ before, IsBlank c) (hbehind : ∀ c ∈ behind, IsBlank c)
    (hcs : ∀ c ∈ cs, ¬ IsBlank c) (hne : cs ≠ []) : trim (before ++ (cs ++ behind)) = cs := by
  have hfront : (before ++ (cs ++ behind)).dropWhile Unicode.space.contains = cs ++ behind := by
    obtain ⟨c, rest, rfl⟩ := List.exists_cons_of_ne_nil hne
    exact dropWhile_blanks hbefore (hcs c List.mem_cons_self)
  have hback : (behind.reverse ++ cs.reverse).dropWhile Unicode.space.contains = cs.reverse := by
    obtain ⟨c, rest, hlast⟩ := List.exists_cons_of_ne_nil (mt List.reverse_eq_nil_iff.1 hne)
    have hc : c ∈ cs := by
      rw [← List.mem_reverse, hlast]
      exact List.mem_cons_self
    rw [hlast]
    exact dropWhile_blanks (fun b hb => hbehind b (List.mem_reverse.1 hb)) (hcs c hc)
  rw [trim, hfront, List.reverse_append, hback, List.reverse_reverse]

/-- All that trimming takes are blanks. -/
theorem exists_trim (cs : List Char) : ∃ before behind, (∀ c ∈ before, IsBlank c) ∧ (∀ c ∈ behind, IsBlank c) ∧
    cs = before ++ (trim cs ++ behind) := by
  have hblank : ∀ (l : List Char) c, c ∈ l.takeWhile Unicode.space.contains → IsBlank c := fun l c hc =>
    Unicode.space_contains_iff.1 (List.mem_takeWhile_imp hc)
  have hbehind : ∀ c ∈ ((cs.dropWhile Unicode.space.contains).reverse.takeWhile Unicode.space.contains).reverse,
      IsBlank c := fun c hc => hblank _ c (List.mem_reverse.1 hc)
  refine ⟨_, _, hblank cs, hbehind, ?_⟩
  rw [trim, ← List.reverse_append, List.takeWhile_append_dropWhile, List.reverse_reverse,
    List.takeWhile_append_dropWhile]

theorem accepts_iff {s : String} : accepts s = true ↔ ∃ before sign mark groups behind,
    (∀ c ∈ before, IsBlank c) ∧ (∀ c ∈ behind, IsBlank c) ∧ IsNumeral sign mark groups ∧
      s.toList = before ++ (numeral sign mark groups ++ behind) := by
  unfold accepts
  constructor
  · intro h
    obtain ⟨before, behind, hbefore, hbehind, hs⟩ := exists_trim s.toList
    obtain ⟨sign, mark, groups, hnumeral, htrim⟩ := exists_numeral h
    exact ⟨before, sign, mark, groups, behind, hbefore, hbehind, hnumeral, htrim ▸ hs⟩
  · rintro ⟨before, sign, mark, groups, behind, hbefore, hbehind, hnumeral, hs⟩
    obtain ⟨c, hc, -⟩ := hnumeral.exists_digit
    rw [hs, trim_append hbefore hbehind (fun c hc => hnumeral.not_isBlank hc) (List.ne_nil_of_mem hc)]
    exact hnumeral.isGrouped_afterMark

/-! ## Where a character can stand -/

theorem append_eq_append_cons {α : Type} {l r front back : List α} {c : α} (h : l ++ r = front ++ c :: back) :
    (∃ m, l = front ++ c :: m ∧ back = m ++ r) ∨ ∃ m, front = l ++ m ∧ r = m ++ c :: back := by
  rcases List.append_eq_append_iff.1 h with ⟨m, hfront, hr⟩ | ⟨m, hl, hback⟩
  · exact .inr ⟨m, hfront, hr⟩
  · rcases List.cons_eq_append_iff.1 hback with ⟨rfl, hr⟩ | ⟨m, rfl, hr⟩
    · exact .inr ⟨[], by rw [hl, List.append_nil, List.append_nil], hr⟩
    · exact .inl ⟨m, hl, hr⟩

theorem front_of_sign {back : List Char} (hsign : sign ∈ signs) (h : sign = rest ++ c :: back) : rest = [] := by
  have hlength := (mem_sign sign hsign).1
  rw [h, List.length_append, List.length_cons] at hlength
  exact List.eq_nil_of_length_eq_zero (by omega)

/-- The letter of a mark stands behind a zero. -/
theorem front_of_letter {back : List Char} (hmark : mark ∈ marks) (hc : c = 'x' ∨ c = 'X')
    (h : mark = rest ++ c :: back) : rest = ['0'] := by
  have hzero : c ≠ '0' := by rcases hc with rfl | rfl <;> decide
  have hunderscore : c ≠ '_' := by rcases hc with rfl | rfl <;> decide
  obtain ⟨hhead, htail⟩ := mark_places mark hmark
  rcases rest with _ | ⟨a, _ | ⟨b, rest⟩⟩
  · refine absurd (hhead c ?_) hzero
    rw [h]
    rfl
  · rw [hhead a (by rw [h]; rfl)]
  · refine absurd (htail c ?_) hunderscore
    rw [h]
    exact List.mem_append_right rest List.mem_cons_self

section Places

variable {front back : List Char} (hbefore : ∀ d ∈ before, IsBlank d) (hbehind : ∀ d ∈ behind, IsBlank d)
  (h : IsNumeral sign mark groups) (hs : before ++ (numeral sign mark groups ++ behind) = front ++ c :: back)

include hbefore hbehind h hs

/-- A blank stands in front of the numeral or behind it. -/
theorem blank_outside (hc : IsBlank c) : (∀ d ∈ front, IsBlank d) ∨ ∀ d ∈ back, IsBlank d := by
  rcases append_eq_append_cons hs with ⟨m, rfl, -⟩ | ⟨m, -, hrest⟩
  · exact .inl fun d hd => hbefore d (List.mem_append_left _ hd)
  · rcases append_eq_append_cons hrest with ⟨m', hnumeral, -⟩ | ⟨m', -, rfl⟩
    · refine absurd hc (h.not_isBlank ?_)
      rw [hnumeral]
      exact List.mem_append_right _ List.mem_cons_self
    · exact .inr fun d hd => hbehind d (List.mem_append_right _ (List.mem_cons_of_mem c hd))

omit h in
/-- What is no blank stands in the numeral. -/
theorem exists_place (hc : ¬ IsBlank c) :
    ∃ m m', front = before ++ m ∧ numeral sign mark groups = m ++ c :: m' := by
  rcases append_eq_append_cons hs with ⟨m, rfl, -⟩ | ⟨m, hfront, hrest⟩
  · exact absurd (hbefore c (List.mem_append_right _ List.mem_cons_self)) hc
  · rcases append_eq_append_cons hrest with ⟨m', hnumeral, -⟩ | ⟨m', -, rfl⟩
    · exact ⟨m, m', hfront, hnumeral⟩
    · exact absurd (hbehind c (List.mem_append_right _ List.mem_cons_self)) hc

/-- A sign has nothing but blanks in front of it. -/
theorem sign_first (hc : c = '+' ∨ c = '-') : ∀ d ∈ front, IsBlank d := by
  have hblank : ¬ IsBlank c := by rcases hc with rfl | rfl <;> simp [IsBlank]
  obtain ⟨m, m', rfl, hnumeral⟩ := exists_place hbefore hbehind hs hblank
  rcases append_eq_append_cons hnumeral with ⟨m'', hsign, -⟩ | ⟨m'', -, hrest⟩
  · rw [front_of_sign h.sign hsign, List.append_nil]
    exact hbefore
  · have hmem : c ∈ mark ++ ['_'].intercalate groups := by
      rw [hrest]
      exact List.mem_append_right _ List.mem_cons_self
    obtain ⟨hplus, hminus⟩ := h.ne_sign hmem
    exact absurd hc (not_or.2 ⟨hplus, hminus⟩)

/-- The letter of a mark has a zero in front of it, which follows the sign. -/
theorem letter_in_mark (hc : c = 'x' ∨ c = 'X') : front = before ++ (sign ++ ['0']) := by
  have hblank : ¬ IsBlank c := by rcases hc with rfl | rfl <;> simp [IsBlank]
  obtain ⟨m, m', rfl, hnumeral⟩ := exists_place hbefore hbehind hs hblank
  rcases append_eq_append_cons hnumeral with ⟨m'', hsign, -⟩ | ⟨m'', rfl, hrest⟩
  · have hmem : c ∈ sign := by
      rw [hsign]
      exact List.mem_append_right _ List.mem_cons_self
    rcases (mem_sign sign h.sign).2 c hmem with rfl | rfl <;> simp at hc
  · rcases append_eq_append_cons hrest with ⟨m, hmark, -⟩ | ⟨m, -, hdigits⟩
    · rw [front_of_letter h.mark hc hmark]
    · have hmem : c ∈ ['_'].intercalate groups := by
        rw [hdigits]
        exact List.mem_append_right _ List.mem_cons_self
      rcases h.mem_digits hmem with rfl | hdigit
      · simp at hc
      · rcases hc with rfl | rfl <;> cases hdigit

end Places

theorem accepts_of_lowerDigits {s : String} (hne : s ≠ "") (hlow : ∀ c ∈ s.toList, Hex.IsLowerDigit c) :
    accepts s = true := by
  have hdigits : ∀ c ∈ s.toList, Hex.IsDigit c := fun c hc => (hlow c hc).imp_right .inl
  have hgroups : AreGroups [s.toList] := by
    refine ⟨List.cons_ne_nil _ _, fun group hgroup => ?_⟩
    rw [List.mem_singleton.1 hgroup]
    exact ⟨mt String.toList_eq_nil_iff.1 hne, hdigits⟩
  refine accepts_iff.2 ⟨[], [], [], [s.toList], [], List.forall_mem_nil _, List.forall_mem_nil _,
    ⟨by decide, by decide, hgroups⟩, ?_⟩
  simp [numeral]

/-- The grammar of integers in base sixteen: blanks, a sign or none, a mark of the base with or without an underscore
or none, one or more groups of one or more digits with single underscores between them, and blanks. Lower-case hex is
always an integer. An integer has a digit; a blank in it has only blanks in front of it or only blanks behind it, a
sign has only blanks in front of it, and the letter of a mark has a zero in front of it, which follows blanks and a
sign. -/
theorem numerals_accepted_exactly :
    (∀ s : String, accepts s = true ↔ ∃ before sign mark groups behind, (∀ c ∈ before, IsBlank c) ∧
      (∀ c ∈ behind, IsBlank c) ∧ sign ∈ signs ∧ mark ∈ marks ∧ AreGroups groups ∧
      s.toList = before ++ sign ++ mark ++ ['_'].intercalate groups ++ behind) ∧
    (∀ s : String, s ≠ "" → (∀ c ∈ s.toList, Hex.IsLowerDigit c) → accepts s = true) ∧
    ∀ s : String, accepts s = true → (∃ c ∈ s.toList, Hex.IsDigit c) ∧
      ∀ front c back, s.toList = front ++ c :: back →
        (IsBlank c → (∀ d ∈ front, IsBlank d) ∨ ∀ d ∈ back, IsBlank d) ∧
        (c = '+' ∨ c = '-' → ∀ d ∈ front, IsBlank d) ∧
        (c = 'x' ∨ c = 'X' → ∃ before, ∃ sign ∈ signs, (∀ d ∈ before, IsBlank d) ∧ front = before ++ (sign ++ ['0'])) := by
  refine ⟨fun s => ?_, fun s => accepts_of_lowerDigits, fun s hs => ?_⟩
  · rw [accepts_iff]
    constructor
    · rintro ⟨before, sign, mark, groups, behind, hbefore, hbehind, ⟨hsign, hmark, hgroups⟩, hs⟩
      refine ⟨before, sign, mark, groups, behind, hbefore, hbehind, hsign, hmark, hgroups, ?_⟩
      simp [hs, numeral]
    · rintro ⟨before, sign, mark, groups, behind, hbefore, hbehind, hsign, hmark, hgroups, hs⟩
      refine ⟨before, sign, mark, groups, behind, hbefore, hbehind, ⟨hsign, hmark, hgroups⟩, ?_⟩
      simp [hs, numeral]
  · obtain ⟨before, sign, mark, groups, behind, hbefore, hbehind, h, htext⟩ := accepts_iff.1 hs
    constructor
    · obtain ⟨c, hc, hdigit⟩ := h.exists_digit
      refine ⟨c, ?_, Hex.isDigit_iff.1 hdigit⟩
      rw [htext]
      exact List.mem_append_right _ (List.mem_append_left _ hc)
    · intro front c back hplace
      have hplace := htext.symm.trans hplace
      exact ⟨blank_outside hbefore hbehind h hplace, sign_first hbefore hbehind h hplace,
        fun hc => ⟨before, sign, h.sign, hbefore, letter_in_mark hbefore hbehind h hplace hc⟩⟩

/-- A no-break space, a sign, a mark with an underscore, two groups in both cases and a line break. Lower-case hex that
begins like a mark. -/
theorem numerals_accepted_exactly_marked :
    let s := "\u00a0-0X_5_aF\n"
    accepts s = true ∧ accepts "0e" = true ∧ (∃ c ∈ s.toList, Hex.IsDigit c) ∧
      ((∀ d ∈ [], IsBlank d) ∨ ∀ d ∈ "-0X_5_aF\n".toList, IsBlank d) ∧
      (∀ d ∈ ['\u00a0'], IsBlank d) ∧
      ∃ before, ∃ sign ∈ signs, (∀ d ∈ before, IsBlank d) ∧ ['\u00a0', '-', '0'] = before ++ (sign ++ ['0']) := by
  intro s
  obtain ⟨hexact, hlower, hplaces⟩ := numerals_accepted_exactly
  have hfront : ∀ d ∈ ['\u00a0'], IsBlank d := by simp [IsBlank]
  have hback : ∀ d ∈ ['\n'], IsBlank d := by simp [IsBlank]
  have hgroups : AreGroups [['5'], ['a', 'F']] := ⟨by decide, by simp [Hex.IsDigit]⟩
  have haccepted : accepts s = true := (hexact s).2
    ⟨['\u00a0'], ['-'], ['0', 'X', '_'], [['5'], ['a', 'F']], ['\n'], hfront, hback, by decide, by decide, hgroups,
      by decide +kernel⟩
  obtain ⟨hdigit, hplace⟩ := hplaces s haccepted
  obtain ⟨hblank, -, -⟩ := hplace [] '\u00a0' ['-', '0', 'X', '_', '5', '_', 'a', 'F', '\n'] (by decide +kernel)
  obtain ⟨-, hsign, -⟩ := hplace ['\u00a0'] '-' ['0', 'X', '_', '5', '_', 'a', 'F', '\n'] (by decide +kernel)
  obtain ⟨-, -, hmark⟩ := hplace ['\u00a0', '-', '0'] 'X' ['_', '5', '_', 'a', 'F', '\n'] (by decide +kernel)
  have hlow : ∀ c ∈ "0e".toList, Hex.IsLowerDigit c := by simp [Hex.IsLowerDigit]
  exact ⟨haccepted, hlower "0e" (by decide) hlow, hdigit, hblank (hfront _ List.mem_cons_self), hsign (.inr rfl),
    hmark (.inr rfl)⟩

end TokenOverlay.HexInteger
