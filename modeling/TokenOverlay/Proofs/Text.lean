/-
Texts in pieces: a text cut at the first place of a mark, and a text with or without a final newline. A text has
no more characters than bytes.
-/
import Mathlib.Data.List.TakeWhile
import TokenOverlay.Text.Line

namespace TokenOverlay

/-! ## Marks -/

section Marks

variable {mark : Char} {front rest cs : List Char}

theorem takeWhile_bne_append (h : mark ∉ front) : (front ++ mark :: rest).takeWhile (· != mark) = front := by
  have hkeep : ∀ c ∈ front, (c != mark) = true := fun c hc => bne_iff_ne.2 fun he => h (he ▸ hc)
  rw [List.takeWhile_append_of_pos hkeep, List.takeWhile_cons_of_neg (by simp), List.append_nil]

theorem dropWhile_bne_append (h : mark ∉ front) :
    (front ++ mark :: rest).dropWhile (· != mark) = mark :: rest := by
  have hkeep : ∀ c ∈ front, (c != mark) = true := fun c hc => bne_iff_ne.2 fun he => h (he ▸ hc)
  rw [List.dropWhile_append_of_pos hkeep, List.dropWhile_cons_of_neg (by simp)]

theorem takeWhile_bne_of_notMem (h : mark ∉ cs) : cs.takeWhile (· != mark) = cs :=
  List.takeWhile_eq_self_iff.2 fun _ hc => bne_iff_ne.2 fun he => h (he ▸ hc)

theorem dropWhile_bne_of_notMem (h : mark ∉ cs) : cs.dropWhile (· != mark) = [] :=
  List.dropWhile_eq_nil_iff.2 fun _ hc => bne_iff_ne.2 fun he => h (he ▸ hc)

end Marks

/-! ## Bytes -/

theorem length_le_utf8ByteSize (s : String) : s.toList.length ≤ s.utf8ByteSize := by
  have hlist : ∀ cs : List Char, cs.length ≤ (String.ofList cs).utf8ByteSize := by
    intro cs
    induction cs with
    | nil => exact Nat.le_refl 0
    | cons c rest ih =>
      have hpos := c.utf8Size_pos
      rw [String.ofList_cons, String.utf8ByteSize_append, String.utf8ByteSize_singleton, List.length_cons]
      omega
  have hs := hlist s.toList
  rwa [String.ofList_toList] at hs

/-! ## Final newlines -/

namespace Line

variable {cs core newline : List Char} {c : Char}

/-- Nothing, or a newline. -/
def IsEnd (newline : List Char) : Prop :=
  newline = [] ∨ newline = ['\n']

theorem exists_core_append (cs : List Char) : ∃ newline, IsEnd newline ∧ cs = Line.core cs ++ newline := by
  unfold Line.core
  split
  · rename_i hlast
    refine ⟨['\n'], .inr rfl, ?_⟩
    obtain ⟨front, rfl⟩ := List.getLast?_eq_some_iff.1 hlast
    rw [List.dropLast_concat]
  · exact ⟨[], .inl rfl, (List.append_nil cs).symm⟩

theorem core_append (h : '\n' ∉ core) (hend : IsEnd newline) : Line.core (core ++ newline) = core := by
  unfold Line.core
  rcases hend with rfl | rfl
  · rw [List.append_nil, if_neg fun hlast => h (List.mem_of_getLast? hlast)]
  · rw [List.getLast?_concat, if_pos rfl, List.dropLast_concat]

theorem isLowerOrDigit_iff :
    isLowerOrDigit c = true ↔ ('a' ≤ c ∧ c ≤ 'z') ∨ ('0' ≤ c ∧ c ≤ '9') := by
  simp [isLowerOrDigit, isLower, Char.isDigit, Char.le_def]

end Line

end TokenOverlay
