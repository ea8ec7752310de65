/-
The languages of names. The base rule counts bytes with a final newline and the grammar counts characters
without it. Together they leave words of lower-case letters, digits and hyphens that begin with no hyphen and
take at most sixty-four bytes with their newline; the last character of the whole text is no hyphen, so a word
may end in one only in front of a newline. A realm begins with a letter, and a ticker has no hyphens and is
shorter.
-/
import TokenOverlay.NameKind
import TokenOverlay.Proofs.Text

namespace TokenOverlay.NameKind

variable {s : String} {cs core : List Char} {c : Char} {first : Char → Bool}

/-! ## Written names -/

/-- A lower-case ASCII letter. -/
def IsLetter (c : Char) : Prop :=
  'a' ≤ c ∧ c ≤ 'z'

/-- A decimal digit. -/
def IsDigit (c : Char) : Prop :=
  '0' ≤ c ∧ c ≤ '9'

/-- A lower-case letter, a digit or a hyphen. -/
def IsNameChar (c : Char) : Prop :=
  IsLetter c ∨ IsDigit c ∨ c = '-'

/-- A text is its core, or its core and a newline. -/
def IsCore (core : List Char) (s : String) : Prop :=
  s.toList = core ∨ s.toList = core ++ ['\n']

/-- A ticker and its core. -/
structure TickerText (s : String) (core : List Char) : Prop where
  line : IsCore core s
  nonempty : 1 ≤ core.length
  short : core.length ≤ 21
  chars : ∀ c ∈ core, IsLetter c ∨ IsDigit c

/-- A subrealm or container name and its core. -/
structure WordText (s : String) (core : List Char) : Prop where
  line : IsCore core s
  size : s.utf8ByteSize ≤ 64
  nonempty : core ≠ []
  chars : ∀ c ∈ core, IsNameChar c
  front : core.head? ≠ some '-'
  back : s.toList.getLast? ≠ some '-'

/-! ## Characters -/

theorem isLower_iff : Line.isLower c = true ↔ IsLetter c := by
  simp [Line.isLower, IsLetter]

theorem isLowerOrDigit_iff : Line.isLowerOrDigit c = true ↔ IsLetter c ∨ IsDigit c :=
  Line.isLowerOrDigit_iff

theorem isNameChar_iff : isNameChar c = true ↔ IsNameChar c := by
  rw [isNameChar, Bool.or_eq_true, isLowerOrDigit_iff, beq_iff_eq, IsNameChar, or_assoc]

theorem ne_hyphen (h : IsLetter c ∨ IsDigit c) : c ≠ '-' := by
  rintro rfl
  rcases h with h | h
  · exact absurd h.1 (by decide)
  · exact absurd h.1 (by decide)

/-- Characters of names are ASCII, and no upper-case letter, newline or carriage return is one. -/
theorem IsNameChar.plain (h : IsNameChar c) :
    c.toNat < 128 ∧ ¬ ('A' ≤ c ∧ c ≤ 'Z') ∧ c ≠ '\r' ∧ c ≠ '\n' := by
  have hle : ∀ {a b : Char}, a ≤ b → a.toNat ≤ b.toNat := fun h => h
  have hcode : c.toNat = 45 ∨ 48 ≤ c.toNat ∧ c.toNat ≤ 57 ∨ 97 ≤ c.toNat ∧ c.toNat ≤ 122 := by
    rcases h with h | h | rfl
    · exact .inr (.inr ⟨hle h.1, hle h.2⟩)
    · exact .inr (.inl ⟨hle h.1, hle h.2⟩)
    · exact .inl rfl
  refine ⟨by omega, fun hupper => ?_, ?_, ?_⟩
  · have hlow : 65 ≤ c.toNat := hle hupper.1
    have hhigh : c.toNat ≤ 90 := hle hupper.2
    omega
  · rintro rfl
    revert hcode
    decide
  · rintro rfl
    revert hcode
    decide

/-! ## Cores -/

theorem isCore_core (s : String) : IsCore (Line.core s.toList) s := by
  obtain ⟨newline, hend, heq⟩ := Line.exists_core_append s.toList
  rcases hend with rfl | rfl
  · exact .inl (heq.trans (List.append_nil _))
  · exact .inr heq

theorem IsCore.core_eq (h : IsCore core s) (hline : '\n' ∉ core) : Line.core s.toList = core := by
  rcases h with hs | hs
  · have hcore := Line.core_append hline (.inl rfl)
    rw [List.append_nil] at hcore
    rw [hs, hcore]
  · rw [hs, Line.core_append hline (.inr rfl)]

theorem newline_notMem (h : ∀ c ∈ core, IsNameChar c) : '\n' ∉ core :=
  fun hc => (h _ hc).plain.2.2.2 rfl

theorem IsCore.head?_eq (h : IsCore core s) (hne : core ≠ []) : s.toList.head? = core.head? := by
  obtain ⟨c, rest, rfl⟩ := List.exists_cons_of_ne_nil hne
  rcases h with hs | hs <;> rw [hs]
  rfl

theorem IsCore.length_le (h : IsCore core s) : core.length ≤ s.utf8ByteSize := by
  refine Nat.le_trans ?_ (length_le_utf8ByteSize s)
  rcases h with hs | hs <;> rw [hs]
  rw [List.length_append]
  omega

/-! ## Reading -/

theorem isBase_iff : isBase s = true ↔
    s.toList ≠ [] ∧ s.utf8ByteSize ≤ 64 ∧ s.toList.head? ≠ some '-' ∧ s.toList.getLast? ≠ some '-' := by
  simp only [isBase, Bool.and_eq_true, decide_eq_true_eq, Bool.not_eq_true', bne_iff_ne, and_assoc, Ne,
    String.toList_eq_nil_iff, Bool.eq_false_iff, String.isEmpty_iff]
  exact Iff.rfl

theorem isWord_iff : isWord first cs = true ↔ ∃ c rest, Line.core cs = c :: rest ∧ first c = true ∧
    rest.length < 64 ∧ ∀ x ∈ rest, IsNameChar x := by
  unfold isWord
  cases hcore : Line.core cs with
  | nil => simp
  | cons c rest =>
    simp only [Bool.and_eq_true, decide_eq_true_eq, List.all_eq_true, isNameChar_iff, and_assoc]
    constructor
    · exact fun h => ⟨c, rest, rfl, h⟩
    · rintro ⟨_, _, heq, h⟩
      cases heq
      exact h

/-- The base rule and a grammar together: a written word with a first character of the class. -/
theorem isBase_and_isWord_iff (hfirst : ∀ c, first c = true → IsLetter c ∨ IsDigit c) :
    (isBase s && isWord first s.toList) = true ↔
      ∃ core, WordText s core ∧ ∃ c, core.head? = some c ∧ first c = true := by
  rw [Bool.and_eq_true, isBase_iff, isWord_iff]
  constructor
  · rintro ⟨⟨-, hsize, -, hback⟩, c, rest, hcore, hc, -, hrest⟩
    have hs : IsCore (c :: rest) s := hcore ▸ isCore_core s
    refine ⟨c :: rest, ⟨hs, hsize, List.cons_ne_nil c rest, ?_, ?_, hback⟩, c, rfl, hc⟩
    · exact List.forall_mem_cons.2 ⟨(hfirst c hc).imp_right .inl, hrest⟩
    · exact fun hhead => ne_hyphen (hfirst c hc) (Option.some.inj hhead)
  · rintro ⟨core, hword, c, hhead, hc⟩
    obtain ⟨rest, rfl⟩ := List.head?_eq_some_iff.1 hhead
    have hlength := Nat.le_trans hword.line.length_le hword.size
    have hfront := hword.line.head?_eq hword.nonempty
    refine ⟨⟨fun hnil => ?_, hword.size, hfront ▸ hword.front, hword.back⟩, c, rest, ?_, hc, ?_, ?_⟩
    · rw [hnil, hhead] at hfront
      cases hfront
    · exact hword.line.core_eq (newline_notMem hword.chars)
    · exact hlength
    · exact (List.forall_mem_cons.1 hword.chars).2

/-- No hyphen begins a word, so a letter or a digit does. -/
theorem WordText.exists_front (h : WordText s core) : ∃ c, core.head? = some c ∧ Line.isLowerOrDigit c = true := by
  obtain ⟨c, rest, rfl⟩ := List.exists_cons_of_ne_nil h.nonempty
  refine ⟨c, rfl, isLowerOrDigit_iff.2 ?_⟩
  rcases h.chars c List.mem_cons_self with hc | hc | rfl
  · exact .inl hc
  · exact .inr hc
  · exact absurd rfl h.front

theorem accepts_word_iff : (isBase s && isWord Line.isLowerOrDigit s.toList) = true ↔ ∃ core, WordText s core := by
  rw [isBase_and_isWord_iff fun _ => isLowerOrDigit_iff.1]
  exact ⟨fun ⟨core, h, _⟩ => ⟨core, h⟩, fun ⟨core, h⟩ => ⟨core, h, h.exists_front⟩⟩

theorem accepts_realm_iff :
    accepts .realm s = true ↔ ∃ core, WordText s core ∧ ∃ c, core.head? = some c ∧ IsLetter c := by
  simp only [accepts, isBase_and_isWord_iff fun c hc => .inl (isLower_iff.1 hc), isLower_iff]

theorem accepts_ticker_iff : accepts .ticker s = true ↔ ∃ core, TickerText s core := by
  simp only [accepts, isTicker, Bool.and_eq_true, Bool.not_eq_true', List.isEmpty_eq_false_iff, decide_eq_true_eq,
    List.all_eq_true, isLowerOrDigit_iff, and_assoc]
  constructor
  · rintro ⟨hne, hshort, hchars⟩
    exact ⟨_, isCore_core s, List.length_pos_iff.2 hne, hshort, hchars⟩
  · rintro ⟨core, h⟩
    have hline : '\n' ∉ core := newline_notMem fun c hc => (h.chars c hc).imp_right .inl
    rw [h.line.core_eq hline]
    exact ⟨List.length_pos_iff.1 h.nonempty, h.short, h.chars⟩

/-! ## All kinds -/

theorem exists_core_of_accepts (kind : NameKind) (h : accepts kind s = true) :
    ∃ core, IsCore core s ∧ ∀ c ∈ core, IsNameChar c := by
  have hword : (∃ core, WordText s core) → ∃ core, IsCore core s ∧ ∀ c ∈ core, IsNameChar c :=
    fun ⟨core, h⟩ => ⟨core, h.line, h.chars⟩
  cases kind with
  | realm =>
    obtain ⟨core, h, -⟩ := accepts_realm_iff.1 h
    exact hword ⟨core, h⟩
  | subrealm => exact hword (accepts_word_iff.1 h)
  | container => exact hword (accepts_word_iff.1 h)
  | ticker =>
    obtain ⟨core, h⟩ := accepts_ticker_iff.1 h
    exact ⟨core, h.line, fun c hc => (h.chars c hc).imp_right .inl⟩

/-- The only newline of a name is its last character. -/
theorem IsCore.newline_last {front back : List Char} (h : IsCore core s) (hline : '\n' ∉ core)
    (hs : s.toList = front ++ '\n' :: back) : back = [] := by
  rcases h with hcore | hcore
  · exact absurd (hcore ▸ hs ▸ List.mem_append_cons_self) hline
  · rw [hcore] at hs
    rcases List.append_eq_append_iff.1 hs with ⟨more, rfl, htail⟩ | ⟨more, hmore, htail⟩
    · cases more with
      | nil => exact (List.cons.inj htail).2.symm
      | cons c more => cases more <;> cases htail
    · cases more with
      | nil => exact (List.cons.inj htail).2
      | cons c more =>
        obtain ⟨rfl, -⟩ := List.cons.inj htail
        exact absurd (hmore ▸ List.mem_append_cons_self) hline

/-- Which texts are names of each kind. Every name of a realm is one of a subrealm and of a container. No name of
any kind has an upper-case letter, a character beyond ASCII or a carriage return, or a newline that is not its
last character. -/
theorem accepts_exactly (s : String) :
    (accepts .ticker s = true ↔ ∃ core, TickerText s core) ∧
    (accepts .subrealm s = true ↔ ∃ core, WordText s core) ∧
    (accepts .container s = true ↔ ∃ core, WordText s core) ∧
    (accepts .realm s = true ↔ ∃ core, WordText s core ∧ ∃ c, core.head? = some c ∧ IsLetter c) ∧
    (accepts .realm s = true → accepts .subrealm s = true ∧ accepts .container s = true) ∧
    ∀ kind, accepts kind s = true →
      (∀ c ∈ s.toList, c.toNat < 128 ∧ ¬ ('A' ≤ c ∧ c ≤ 'Z') ∧ c ≠ '\r') ∧
      ∀ front back, s.toList = front ++ '\n' :: back → back = [] := by
  refine ⟨accepts_ticker_iff, accepts_word_iff, accepts_word_iff, accepts_realm_iff, fun h => ?_, fun kind h => ?_⟩
  · obtain ⟨core, hword, -⟩ := accepts_realm_iff.1 h
    exact ⟨accepts_word_iff.2 ⟨core, hword⟩, accepts_word_iff.2 ⟨core, hword⟩⟩
  · obtain ⟨core, hcore, hchars⟩ := exists_core_of_accepts kind h
    refine ⟨fun c hc => ?_, fun front back => hcore.newline_last (newline_notMem hchars)⟩
    have hmem : c ∈ core ∨ c = '\n' := by
      rcases hcore with hs | hs
      · exact .inl (hs ▸ hc)
      · rw [hs, List.mem_append, List.mem_singleton] at hc
        exact hc
    rcases hmem with hc | rfl
    · obtain ⟨hascii, hupper, hreturn, -⟩ := (hchars c hc).plain
      exact ⟨hascii, hupper, hreturn⟩
    · decide

/-- A hyphen in front of the newline, in a name of each kind but a ticker. -/
theorem accepts_exactly_hyphen :
    let s := "abc-\n"
    accepts .realm s = true ∧ accepts .subrealm s = true ∧ accepts .container s = true ∧
      accepts .ticker s = false ∧ '\r' ∉ s.toList ∧ ∀ front back, s.toList = front ++ '\n' :: back → back = [] := by
  intro s
  obtain ⟨-, -, -, hrealm, hwords, hall⟩ := accepts_exactly s
  have hword : WordText s ['a', 'b', 'c', '-'] :=
    { line := .inr (by decide)
      size := by decide
      nonempty := List.cons_ne_nil _ _
      chars := by simp [IsNameChar, IsLetter, IsDigit]
      front := by decide
      back := by decide }
  have hname : accepts .realm s = true := hrealm.2 ⟨_, hword, 'a', rfl, by decide, by decide⟩
  obtain ⟨hsubrealm, hcontainer⟩ := hwords hname
  obtain ⟨hchars, hnewline⟩ := hall .container hcontainer
  exact ⟨hname, hsubrealm, hcontainer, by decide, fun hc => (hchars _ hc).2.2 rfl, hnewline⟩

end TokenOverlay.NameKind
