/-
What stands behind an item. A reader decides by nothing behind the item that it reads: neither the break of an
open length nor the look at what is under a tag goes past its end. So the same item is read whatever stands
behind it, and steps that a reader has left over change nothing.
-/
import TokenOverlay.Proofs.Cbor.Bounds

namespace TokenOverlay.Cbor

variable {d fuel fuel' : Nat} {number : UInt64} {b s rest : Bytes} {kind : StringKind} {item : Item}

/-! ## Heads and strings -/

theorem take?_trailing {n : Nat} (h : take? n b = some (s, rest)) (tail : Bytes) :
    take? n (b ++ tail) = some (s, rest ++ tail) := by
  obtain ⟨hlength, rfl⟩ := take?_eq_some h
  rw [List.append_assoc, take?_append hlength]

theorem Argument.read?_trailing {info : Nat} {arg : Argument} (h : Argument.read? info b = some (arg, rest))
    (tail : Bytes) : Argument.read? info (b ++ tail) = some (arg, rest ++ tail) := by
  have hfield {n : Nat} (h : ((take? n b).map fun r => (Argument.field r.1, r.2)) = some (arg, rest)) :
      ((take? n (b ++ tail)).map fun r => (Argument.field r.1, r.2)) = some (arg, rest ++ tail) := by
    obtain ⟨r, hr, heq⟩ := Option.map_eq_some_iff.1 h
    cases heq
    rw [take?_trailing hr, Option.map_some]
  -- the width of the argument is told by the low bits alone
  unfold Argument.read? at h ⊢
  repeat' split
  all_goals simp only [*, if_true, if_false] at h
  all_goals first | exact hfield h | cases h <;> rfl

theorem Head.read?_trailing {head : Head} (h : Head.read? b = some (head, rest)) (tail : Bytes) :
    Head.read? (b ++ tail) = some (head, rest ++ tail) := by
  cases b with
  | nil => cases h
  | cons x b =>
    simp only [List.cons_append, Head.read?, Option.bind_eq_bind, Option.bind_eq_some_iff] at h ⊢
    obtain ⟨r, harg, head', hmake, heq⟩ := h
    cases heq
    exact ⟨_, Argument.read?_trailing harg tail, head, hmake, rfl⟩

theorem segment?_trailing {n : Nat} (h : segment? kind n b = some (s, rest)) (tail : Bytes) :
    segment? kind n (b ++ tail) = some (s, rest ++ tail) := by
  obtain ⟨htake, hadmits⟩ := Option.filter_eq_some_iff.1 h
  exact Option.filter_eq_some_iff.2 ⟨take?_trailing htake tail, hadmits⟩

/-- A reader that has a first step still has one with more steps. -/
theorem exists_succ_of_le (h : fuel + 1 ≤ fuel') : ∃ more, fuel ≤ more ∧ fuel' = more + 1 := by
  cases fuel' with
  | zero => exact absurd h (Nat.not_succ_le_zero fuel)
  | succ more => exact ⟨more, Nat.le_of_succ_le_succ h, rfl⟩

theorem segments?_trailing {nested : Nat} (h : segments? kind fuel nested b = some (s, rest))
    (hle : fuel ≤ fuel') (tail : Bytes) :
    segments? kind fuel' nested (b ++ tail) = some (s, rest ++ tail) := by
  fun_induction segments? kind fuel nested b generalizing s fuel' with
  | case1 => cases h
  | case2 => cases h
  | case3 fuel b rest' hhead =>
    obtain ⟨more, -, rfl⟩ := exists_succ_of_le hle
    cases h
    rw [segments?, Head.read?_trailing hhead]
  | case4 fuel b rest' hhead n ih =>
    obtain ⟨more, hmore, rfl⟩ := exists_succ_of_le hle
    rw [segments?, Head.read?_trailing hhead]
    exact ih h hmore
  | case5 => cases h
  | case6 fuel nested b head rest' _ hhead hopen ih =>
    obtain ⟨more, hmore, rfl⟩ := exists_succ_of_le hle
    rw [segments?, Head.read?_trailing hhead]
    simp only [hopen]
    exact ih h hmore
  | case7 fuel nested b head rest' _ hhead n hlength ih =>
    obtain ⟨more, hmore, rfl⟩ := exists_succ_of_le hle
    simp only [Option.bind_eq_bind, Option.bind_eq_some_iff] at h
    obtain ⟨front, hfront, behind, hbehind, heq⟩ := h
    cases heq
    rw [segments?, Head.read?_trailing hhead]
    simp only [hlength, segment?_trailing hfront tail, Option.bind_eq_bind, Option.bind_some]
    rw [ih _ hbehind hmore]
    rfl

theorem string?_trailing {length : Option Nat} (h : string? kind length b = some (s, rest)) (tail : Bytes) :
    string? kind length (b ++ tail) = some (s, rest ++ tail) := by
  cases length with
  | some n => exact segment?_trailing h tail
  | none =>
    refine segments?_trailing h ?_ tail
    rw [List.length_append]
    omega

/-! ## Numbers under a tag -/

/-- One head tells whether a number stands under a tag. -/
theorem bigNumberLength?_trailing {head : Head} (h : Head.read? b = some (head, rest)) (tail : Bytes) :
    bigNumberLength? number (b ++ tail) = (bigNumberLength? number b).map fun r => (r.1, r.2 ++ tail) := by
  simp only [bigNumberLength?, h, Head.read?_trailing h tail]
  split
  · cases head with
    | bytes length =>
      cases length with
      | none => rfl
      | some n =>
        dsimp only
        split <;> rfl
    | _ => rfl
  · rfl

theorem exists_head_of_bigNumberLength? {n : Nat} (h : bigNumberLength? number b = some (n, rest)) :
    ∃ head body, Head.read? b = some (head, body) := by
  unfold bigNumberLength? at h
  cases hhead : Head.read? b with
  | none => simp [hhead] at h
  | some r => exact ⟨r.1, r.2, rfl⟩

/-! ## Items -/

theorem exists_head_of_item? (h : item? fuel d b = some (item, rest)) :
    ∃ head body, Head.read? b = some (head, body) := by
  cases fuel with
  | zero => cases h
  | succ fuel =>
    rw [item?] at h
    cases hhead : Head.read? b with
    | none => rw [hhead] at h; cases h
    | some r => exact ⟨r.1, r.2, rfl⟩

/-- Bytes that hold an item are not the end of an open length, whatever stands behind them. -/
theorem append_ne_break (h : item? fuel d b = some (item, rest)) (hopen : ∀ after, b ≠ 0xff :: after)
    (tail after : Bytes) : b ++ tail ≠ 0xff :: after := by
  obtain ⟨head, body, hhead⟩ := exists_head_of_item? h
  cases b with
  | nil => cases hhead
  | cons x b =>
    intro heq
    cases heq
    exact hopen b rfl

/-- What a reader with so many steps yields is yielded with more steps too, whatever stands behind it. -/
structure ReadsAlike (fuel : Nat) : Prop where
  item : ∀ {fuel' d : Nat} {b rest : Bytes} {x : Item}, item? fuel d b = some (x, rest) → fuel ≤ fuel' →
    ∀ tail, item? fuel' d (b ++ tail) = some (x, rest ++ tail)
  items : ∀ {fuel' d : Nat} {length : Option Nat} {b rest : Bytes} {xs : List Item},
    items? fuel d length b = some (xs, rest) → fuel ≤ fuel' →
    ∀ tail, items? fuel' d length (b ++ tail) = some (xs, rest ++ tail)
  entries : ∀ {fuel' d : Nat} {length : Option Nat} {b rest : Bytes} {es : List (Item × Item)},
    entries? fuel d length b = some (es, rest) → fuel ≤ fuel' →
    ∀ tail, entries? fuel' d length (b ++ tail) = some (es, rest ++ tail)

theorem ReadsAlike.tag_step (hread : ReadsAlike fuel) {body : Bytes} (hhead : Head.read? b = some (.tag number, body))
    (h : item? (fuel + 1) d b = some (item, rest)) (hle : fuel ≤ fuel') (tail : Bytes) :
    item? (fuel' + 1) d (b ++ tail) = some (item, rest ++ tail) := by
  simp only [item?, hhead, Head.read?_trailing hhead tail] at h ⊢
  cases hlong : bigNumberLength? number body with
  | some r =>
    simp only [hlong, Option.bind_eq_bind, Option.bind_eq_some_iff] at h
    obtain ⟨front, htake, x, hx, heq⟩ := h
    cases heq
    obtain ⟨inner, behind, hinner⟩ := exists_head_of_bigNumberLength? hlong
    simp only [bigNumberLength?_trailing hinner tail, hlong, Option.map_some, take?_trailing htake tail,
      Option.bind_eq_bind, Option.bind_some, hx]
    rfl
  | none =>
    rw [hlong] at h
    cases d with
    | zero => cases h
    | succ d =>
      obtain ⟨r, hitem, heq⟩ := Option.map_eq_some_iff.1 h
      cases heq
      obtain ⟨inner, behind, hinner⟩ := exists_head_of_item? hitem
      simp only [bigNumberLength?_trailing hinner tail, hlong, Option.map_none, hread.item hitem hle tail,
        Option.map_some]

theorem ReadsAlike.item_step (hread : ReadsAlike fuel) (h : item? (fuel + 1) d b = some (item, rest))
    (hle : fuel ≤ fuel') (tail : Bytes) : item? (fuel' + 1) d (b ++ tail) = some (item, rest ++ tail) := by
  obtain ⟨head, body, hhead⟩ := exists_head_of_item? h
  cases head with
  | tag number => exact hread.tag_step hhead h hle tail
  | unsigned n | negative n | float x =>
    simp only [item?, hhead, Head.read?_trailing hhead tail] at h ⊢
    cases h
    rfl
  | «break» =>
    simp only [item?, hhead] at h
    cases h
  | simple code =>
    simp only [item?, hhead, Head.read?_trailing hhead tail, Option.map_eq_some_iff] at h ⊢
    obtain ⟨x, hx, heq⟩ := h
    cases heq
    exact ⟨_, hx, rfl⟩
  | bytes length =>
    simp only [item?, hhead, Head.read?_trailing hhead tail, Option.map_eq_some_iff] at h ⊢
    obtain ⟨r, hstring, heq⟩ := h
    cases heq
    exact ⟨_, string?_trailing hstring tail, rfl⟩
  | text length =>
    simp only [item?, hhead, Head.read?_trailing hhead tail, Option.bind_eq_bind, Option.bind_eq_some_iff] at h ⊢
    obtain ⟨r, hstring, s, hs, heq⟩ := h
    cases heq
    exact ⟨_, string?_trailing hstring tail, s, hs, rfl⟩
  | array length =>
    simp only [item?, hhead, Head.read?_trailing hhead tail] at h ⊢
    cases d with
    | zero => cases h
    | succ d =>
      obtain ⟨r, hitems, heq⟩ := Option.map_eq_some_iff.1 h
      cases heq
      exact Option.map_eq_some_iff.2 ⟨_, hread.items hitems hle tail, rfl⟩
  | map length =>
    simp only [item?, hhead, Head.read?_trailing hhead tail] at h ⊢
    cases d with
    | zero => cases h
    | succ d =>
      obtain ⟨r, hentries, heq⟩ := Option.map_eq_some_iff.1 h
      cases heq
      exact Option.map_eq_some_iff.2 ⟨_, hread.entries hentries hle tail, rfl⟩

theorem ReadsAlike.items_step (hread : ReadsAlike fuel) {length : Option Nat} {xs : List Item}
    (h : items? (fuel + 1) d length b = some (xs, rest)) (hle : fuel ≤ fuel') (tail : Bytes) :
    items? (fuel' + 1) d length (b ++ tail) = some (xs, rest ++ tail) := by
  cases length with
  | some n =>
    cases n with
    | zero => cases h; rfl
    | succ n =>
      simp only [items?, Option.bind_eq_bind, Option.bind_eq_some_iff] at h ⊢
      obtain ⟨r, hitem, rs, hitems, heq⟩ := h
      cases heq
      exact ⟨_, hread.item hitem hle tail, _, hread.items hitems hle tail, rfl⟩
  | none =>
    unfold items? at h ⊢
    split at h
    · cases h
      rfl
    · rename_i hopen
      simp only [Option.bind_eq_bind, Option.bind_eq_some_iff] at h
      obtain ⟨r, hitem, rs, hitems, heq⟩ := h
      cases heq
      split
      · rename_i after hend
        exact absurd hend (append_ne_break hitem hopen tail after)
      · simp only [hread.item hitem hle tail, hread.items hitems hle tail, Option.bind_eq_bind, Option.bind_some]
        rfl

theorem ReadsAlike.entries_step (hread : ReadsAlike fuel) {length : Option Nat} {es : List (Item × Item)}
    (h : entries? (fuel + 1) d length b = some (es, rest)) (hle : fuel ≤ fuel') (tail : Bytes) :
    entries? (fuel' + 1) d length (b ++ tail) = some (es, rest ++ tail) := by
  cases length with
  | some n =>
    cases n with
    | zero => cases h; rfl
    | succ n =>
      simp only [entries?, Option.bind_eq_bind, Option.bind_eq_some_iff] at h ⊢
      obtain ⟨k, hkey, v, hvalue, rs, hentries, heq⟩ := h
      cases heq
      exact ⟨_, hread.item hkey hle tail, _, hread.item hvalue hle tail, _, hread.entries hentries hle tail, rfl⟩
  | none =>
    unfold entries? at h ⊢
    split at h
    · cases h
      rfl
    · rename_i hopen
      simp only [Option.bind_eq_bind, Option.bind_eq_some_iff] at h
      obtain ⟨k, hkey, v, hvalue, rs, hentries, heq⟩ := h
      cases heq
      split
      · rename_i after hend
        exact absurd hend (append_ne_break hkey hopen tail after)
      · simp only [hread.item hkey hle tail, hread.item hvalue hle tail, hread.entries hentries hle tail,
          Option.bind_eq_bind, Option.bind_some]
        rfl

theorem readsAlike (fuel : Nat) : ReadsAlike fuel := by
  induction fuel with
  | zero =>
    -- a reader without steps yields nothing
    refine ⟨fun h => ?_, fun h => ?_, fun h => ?_⟩ <;> cases h
  | succ fuel ih =>
    refine ⟨fun h hle tail => ?_, fun h hle tail => ?_, fun h hle tail => ?_⟩
    all_goals obtain ⟨more, hmore, rfl⟩ := exists_succ_of_le hle
    · exact ih.item_step h hmore tail
    · exact ih.items_step h hmore tail
    · exact ih.entries_step h hmore tail

/-- An item is read alike whatever stands behind it, and that is left alone. -/
theorem Item.read?_trailing (h : Item.read? b = some (item, rest)) (tail : Bytes) :
    Item.read? (b ++ tail) = some (item, rest ++ tail) := by
  refine (readsAlike _).item h ?_ tail
  rw [List.length_append]
  omega

end TokenOverlay.Cbor
