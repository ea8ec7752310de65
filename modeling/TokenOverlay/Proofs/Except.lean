/-
When computations that may fail succeed: a sequence if each of its steps does in turn, a mapped
computation if the one below does, a list of them if each one does. A list of them fails as the first
one does that fails.
-/
import Mathlib.Data.List.Forall2

namespace TokenOverlay

variable {ε α β : Type}

theorem bind_ok_iff {first : Except ε α} {next : α → Except ε β} {r : β} :
    first >>= next = .ok r ↔ ∃ a, first = .ok a ∧ next a = .ok r := by
  rcases first with e | a
  · exact ⟨nofun, fun ⟨_, h, _⟩ => nomatch h⟩
  · refine ⟨fun h => ⟨a, rfl, h⟩, ?_⟩
    rintro ⟨_, h, hr⟩
    cases h; exact hr

theorem map_ok_iff {below : Except ε α} {f : α → β} {r : β} :
    below.map f = .ok r ↔ ∃ a, below = .ok a ∧ f a = r := by
  rcases below with e | a
  · exact ⟨nofun, fun ⟨_, h, _⟩ => nomatch h⟩
  · refine ⟨fun h => ⟨a, rfl, Except.ok.inj h⟩, ?_⟩
    rintro ⟨_, h, hr⟩
    cases h; exact congrArg Except.ok hr

theorem bind_error_iff {first : Except ε α} {next : α → Except ε β} {e : ε} :
    first >>= next = .error e ↔ first = .error e ∨ ∃ a, first = .ok a ∧ next a = .error e := by
  rcases first with e' | a
  · constructor
    · intro h
      cases h
      exact .inl rfl
    · rintro (h | ⟨_, h, _⟩) <;> cases h
      rfl
  · constructor
    · exact fun h => .inr ⟨a, rfl, h⟩
    · rintro (h | ⟨_, h, he⟩) <;> cases h
      exact he

theorem map_error_iff {below : Except ε α} {f : α → β} {e : ε} : below.map f = .error e ↔ below = .error e := by
  rcases below with e' | a <;> simp [Except.map]

theorem toOption_eq_some {x : Except ε α} {a : α} : x.toOption = some a ↔ x = .ok a := by
  rcases x with e | b
  · exact ⟨nofun, nofun⟩
  · exact ⟨fun h => congrArg Except.ok (Option.some.inj h), fun h => congrArg some (Except.ok.inj h)⟩

/-- What comes of each item of a list. -/
theorem forall₂_of_mapM_ok {f : α → Except ε β} {xs : List α} {ys : List β} (h : xs.mapM f = .ok ys) :
    List.Forall₂ (fun x y => f x = .ok y) xs ys := by
  induction xs generalizing ys with
  | nil =>
    rw [List.mapM_nil] at h
    cases h
    exact .nil
  | cons x rest ih =>
    rw [List.mapM_cons] at h
    obtain ⟨y, hy, h⟩ := bind_ok_iff.1 h
    obtain ⟨ys', hys, h⟩ := bind_ok_iff.1 h
    cases h
    exact .cons hy (ih hys)

theorem mapM_ok_iff {f : α → Except ε β} {xs : List α} {ys : List β} :
    xs.mapM f = .ok ys ↔ List.Forall₂ (fun x y => f x = .ok y) xs ys := by
  constructor
  · exact forall₂_of_mapM_ok
  · intro h
    induction h with
    | nil => rfl
    | cons hx _ ih =>
      rw [List.mapM_cons]
      exact bind_ok_iff.2 ⟨_, hx, bind_ok_iff.2 ⟨_, ih, rfl⟩⟩

/-! ## The first failure -/

variable {f : α → Except ε β} {x : α} {xs ys : List α} {e : ε}

/-- A computation fails at an item of a list, after it has succeeded at all items before that. -/
def FailsFirst (f : α → Except ε β) (xs : List α) (e : ε) : Prop :=
  ∃ before x after, xs = before ++ x :: after ∧ (∀ y ∈ before, ∃ b, f y = .ok b) ∧ f x = .error e

theorem not_failsFirst_nil : ¬ FailsFirst f [] e := by
  rintro ⟨before, x, after, h, -⟩
  simp at h

theorem failsFirst_cons :
    FailsFirst f (x :: xs) e ↔ f x = .error e ∨ (∃ b, f x = .ok b) ∧ FailsFirst f xs e := by
  constructor
  · rintro ⟨before, y, after, h, hbefore, hy⟩
    cases before with
    | nil =>
      cases h
      exact .inl hy
    | cons z before =>
      cases h
      obtain ⟨hz, hbefore⟩ := List.forall_mem_cons.1 hbefore
      exact .inr ⟨hz, before, y, after, rfl, hbefore, hy⟩
  · rintro (h | ⟨hx, before, y, after, rfl, hbefore, hy⟩)
    · exact ⟨[], x, xs, rfl, List.forall_mem_nil _, h⟩
    · exact ⟨x :: before, y, after, rfl, List.forall_mem_cons.2 ⟨hx, hbefore⟩, hy⟩

theorem failsFirst_append : FailsFirst f (xs ++ ys) e ↔
    FailsFirst f xs e ∨ (∀ x ∈ xs, ∃ b, f x = .ok b) ∧ FailsFirst f ys e := by
  induction xs with
  | nil => simp [not_failsFirst_nil]
  | cons x xs ih =>
    rw [List.cons_append, failsFirst_cons, failsFirst_cons, ih, List.forall_mem_cons]
    tauto

/-- Something fails first exactly if something fails. -/
theorem exists_failsFirst : (∃ e, FailsFirst f xs e) ↔ ∃ x ∈ xs, ∃ e, f x = .error e := by
  constructor
  · rintro ⟨e, before, x, after, rfl, -, hx⟩
    exact ⟨x, List.mem_append_right _ List.mem_cons_self, e, hx⟩
  · rintro ⟨x, hx, e, he⟩
    induction xs with
    | nil => cases hx
    | cons y ys ih =>
      simp only [failsFirst_cons]
      cases hy : f y with
      | error e' => exact ⟨e', .inl rfl⟩
      | ok b =>
        rcases List.mem_cons.1 hx with rfl | hx
        · rw [hy] at he
          cases he
        · obtain ⟨e', he'⟩ := ih hx
          exact ⟨e', .inr ⟨⟨b, rfl⟩, he'⟩⟩

theorem mapM_error_iff : xs.mapM f = .error e ↔ FailsFirst f xs e := by
  induction xs with
  | nil => exact iff_of_false (fun h => by cases h) not_failsFirst_nil
  | cons x xs ih =>
    rw [failsFirst_cons, ← ih, List.mapM_cons, bind_error_iff]
    refine or_congr_right ⟨?_, ?_⟩
    · rintro ⟨b, hx, h⟩
      rcases bind_error_iff.1 h with h | ⟨bs, -, h⟩
      · exact ⟨⟨b, hx⟩, h⟩
      · cases h
    · rintro ⟨⟨b, hx⟩, h⟩
      exact ⟨b, hx, bind_error_iff.2 (.inl h)⟩

/-! ## Searches -/

variable {q : α → Except ε Bool}

theorem findM?_cons :
    (x :: xs).findM? q = q x >>= fun found => bif found then .ok (some x) else xs.findM? q := by
  rw [List.findM?]
  cases q x with
  | error e => rfl
  | ok found => cases found <;> rfl

/-- An item of a list gives an answer to a test, and no item before it passes. -/
def AnswersFirst (q : α → Except ε Bool) (xs : List α) (x : α) (answer : Except ε Bool) : Prop :=
  ∃ before after, xs = before ++ x :: after ∧ (∀ y ∈ before, q y = .ok false) ∧ q x = answer

theorem answersFirst_cons {y : α} {answer : Except ε Bool} : AnswersFirst q (y :: xs) x answer ↔
    y = x ∧ q y = answer ∨ q y = .ok false ∧ AnswersFirst q xs x answer := by
  constructor
  · rintro ⟨before, after, h, hbefore, hx⟩
    cases before with
    | nil =>
      cases h
      exact .inl ⟨rfl, hx⟩
    | cons z before =>
      cases h
      obtain ⟨hz, hbefore⟩ := List.forall_mem_cons.1 hbefore
      exact .inr ⟨hz, before, after, rfl, hbefore, hx⟩
  · rintro (⟨rfl, hx⟩ | ⟨hy, before, after, rfl, hbefore, hx⟩)
    · exact ⟨[], xs, rfl, List.forall_mem_nil _, hx⟩
    · exact ⟨y :: before, after, rfl, List.forall_mem_cons.2 ⟨hy, hbefore⟩, hx⟩

theorem not_answersFirst_nil {answer : Except ε Bool} : ¬ AnswersFirst q [] x answer := by
  rintro ⟨before, after, h, -⟩
  simp at h

/-- A search finds the first item that passes the test. -/
theorem findM?_some_iff : xs.findM? q = .ok (some x) ↔ AnswersFirst q xs x (.ok true) := by
  induction xs with
  | nil => exact iff_of_false (fun h => by cases h) not_answersFirst_nil
  | cons y ys ih =>
    rw [findM?_cons, answersFirst_cons, ← ih]
    cases hy : q y with
    | error e => exact iff_of_false (fun h => by cases h) (by simp)
    | ok found => cases found <;> simp [bind, Except.bind]

theorem findM?_none_iff : xs.findM? q = .ok none ↔ ∀ x ∈ xs, q x = .ok false := by
  induction xs with
  | nil => exact iff_of_true rfl (List.forall_mem_nil _)
  | cons y ys ih =>
    rw [findM?_cons, List.forall_mem_cons, ← ih]
    cases hy : q y with
    | error e => exact iff_of_false (fun h => by cases h) (by simp)
    | ok found => cases found <;> simp [bind, Except.bind]

/-- A search fails at the first item that does not fail the test. -/
theorem findM?_error_iff : xs.findM? q = .error e ↔ ∃ x, AnswersFirst q xs x (.error e) := by
  induction xs with
  | nil => exact iff_of_false (fun h => by cases h) (fun ⟨_, h⟩ => not_answersFirst_nil h)
  | cons y ys ih =>
    simp only [findM?_cons, answersFirst_cons, exists_or, exists_and_left, ← ih]
    cases hy : q y with
    | error e => simp [bind, Except.bind]
    | ok found => cases found <;> simp [bind, Except.bind]

end TokenOverlay
