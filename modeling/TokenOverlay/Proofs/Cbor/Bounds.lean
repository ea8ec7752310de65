/-
What a reader can yield. An item that was read fits the levels that its reader follows, and nothing in it is
longer than the bytes that it was read from; so whatever was read can be written and read once more.
-/
import TokenOverlay.Proofs.Cbor.Reread

namespace TokenOverlay.Cbor

variable {d fuel : Nat} {number : UInt64} {b s rest : Bytes} {kind : StringKind}

/-! ## Heads and strings -/

theorem Argument.read?_length {info : Nat} {arg : Argument} (h : Argument.read? info b = some (arg, rest)) :
    rest.length ≤ b.length := by
  have hfield {n : Nat} (h : ((take? n b).map fun r => (Argument.field r.1, r.2)) = some (arg, rest)) :
      rest.length ≤ b.length := by
    obtain ⟨r, hr, heq⟩ := Option.map_eq_some_iff.1 h
    cases heq
    obtain ⟨-, rfl⟩ := take?_eq_some hr
    rw [List.length_append]
    omega
  unfold Argument.read? at h
  repeat' split at h
  all_goals first | exact hfield h | cases h <;> exact Nat.le_refl _

theorem Head.read?_length {head : Head} (h : Head.read? b = some (head, rest)) : rest.length < b.length := by
  cases b with
  | nil => cases h
  | cons x b =>
    simp only [Head.read?, Option.bind_eq_bind, Option.bind_eq_some_iff] at h
    obtain ⟨r, harg, head', -, heq⟩ := h
    cases heq
    exact Nat.lt_succ_of_le (Argument.read?_length harg)

theorem segment?_length {n : Nat} (h : segment? kind n b = some (s, rest)) :
    s.length + rest.length = b.length := by
  obtain ⟨htake, -⟩ := Option.filter_eq_some_iff.1 h
  obtain ⟨-, rfl⟩ := take?_eq_some htake
  exact List.length_append.symm

theorem segments?_length {nested : Nat} (h : segments? kind fuel nested b = some (s, rest)) :
    s.length + rest.length ≤ b.length := by
  fun_induction segments? kind fuel nested b generalizing s with
  | case1 => cases h
  | case2 => cases h
  | case3 fuel b rest' hhead =>
    cases h
    exact Nat.le_of_lt (by simpa using Head.read?_length hhead)
  | case4 fuel b rest' hhead n ih =>
    have := Head.read?_length hhead
    have := ih h
    omega
  | case5 => cases h
  | case6 fuel nested b head rest' _ hhead _ ih =>
    have := Head.read?_length hhead
    have := ih h
    omega
  | case7 fuel nested b head rest' _ hhead n _ ih =>
    simp only [Option.bind_eq_bind, Option.bind_eq_some_iff] at h
    obtain ⟨front, hfront, tail, htail, heq⟩ := h
    cases heq
    have := Head.read?_length hhead
    have := segment?_length hfront
    have := ih _ htail
    rw [List.length_append]
    omega

theorem string?_length {length : Option Nat} (h : string? kind length b = some (s, rest)) :
    s.length + rest.length ≤ b.length := by
  cases length with
  | some n => exact Nat.le_of_eq (segment?_length h)
  | none => exact segments?_length h

/-! ## Numbers under a tag -/

theorem length_significant_le (b : Bytes) : (significant b).length ≤ b.length :=
  (List.dropWhile_sublist _).length_le

theorem bigNumberLength?_eq_some {n : Nat} (h : bigNumberLength? number b = some (n, rest)) :
    (number = tagUnsigned ∨ number = tagNegative) ∧ n ≤ 16 ∧ rest.length < b.length := by
  unfold bigNumberLength? at h
  split at h
  · rename_i hnumber
    split at h
    · rename_i hhead
      split at h
      · rename_i hshort
        cases h
        exact ⟨hnumber, hshort, Head.read?_length hhead⟩
      · cases h
    · cases h
  · cases h

/-- The number that a short byte string stands for is an item that any reader takes back. -/
theorem bigNumber?_fits {item : Item} (hnumber : number = tagUnsigned ∨ number = tagNegative)
    (hshort : b.length ≤ 16) (h : bigNumber? number b = some item) : item.Fits d := by
  simp only [bigNumber?] at h
  split at h
  · split at h <;> cases h <;> exact .leaf trivial trivial
  · split at h
    · cases h
    · cases h
      exact .number (Item.digits?_eq_some.2 ⟨rfl, hnumber, Nat.le_trans (length_significant_le b) hshort⟩)

/-! ## Items -/

theorem simple?_fits {code : Nat} {item : Item} (h : simple? code = some item) : item.Fits d := by
  unfold simple? at h
  split at h <;> cases h <;> exact .leaf trivial trivial

/-- What a reader with so many steps yields from less than a word of bytes fits the levels that it follows,
and has no more items than there were bytes. -/
structure ReadsFitting (fuel : Nat) : Prop where
  item : ∀ {d : Nat} {b rest : Bytes} {x : Item}, b.length < UInt64.size → item? fuel d b = some (x, rest) →
    x.Fits d ∧ rest.length < b.length
  items : ∀ {d : Nat} {length : Option Nat} {b rest : Bytes} {xs : List Item}, b.length < UInt64.size →
    items? fuel d length b = some (xs, rest) → (∀ x ∈ xs, x.Fits d) ∧ xs.length + rest.length ≤ b.length
  entries : ∀ {d : Nat} {length : Option Nat} {b rest : Bytes} {es : List (Item × Item)},
    b.length < UInt64.size → entries? fuel d length b = some (es, rest) →
    ((∀ e ∈ es, e.1.Fits d) ∧ ∀ e ∈ es, e.2.Fits d) ∧ es.length + rest.length ≤ b.length

theorem bigNumber?_read {n : Nat} {body after : Bytes} {item : Item}
    (hlong : bigNumberLength? number body = some (n, after)) (htake : take? n after = some (s, rest))
    (h : bigNumber? number s = some item) : item.Fits d ∧ rest.length < body.length := by
  obtain ⟨hnumber, hshort, hafter⟩ := bigNumberLength?_eq_some hlong
  obtain ⟨hlength, rfl⟩ := take?_eq_some htake
  rw [List.length_append] at hafter
  exact ⟨bigNumber?_fits hnumber (by omega) h, by omega⟩

/-- Under a tag stands a number, or an item one level further in. -/
theorem ReadsFitting.tag_step (hread : ReadsFitting fuel) {item : Item} {body : Bytes}
    (hb : b.length < UInt64.size) (hhead : Head.read? b = some (.tag number, body))
    (h : item? (fuel + 1) d b = some (item, rest)) : item.Fits d ∧ rest.length < b.length := by
  have hbody := Head.read?_length hhead
  simp only [item?, hhead] at h
  cases hlong : bigNumberLength? number body with
  | some r =>
    simp only [hlong, Option.bind_eq_bind, Option.bind_eq_some_iff] at h
    obtain ⟨_, htake, x, hx, heq⟩ := h
    cases heq
    obtain ⟨hfits, hlength⟩ := bigNumber?_read hlong htake hx
    exact ⟨hfits, by omega⟩
  | none =>
    rw [hlong] at h
    cases d with
    | zero => cases h
    | succ d =>
      obtain ⟨r, hitem, heq⟩ := Option.map_eq_some_iff.1 h
      cases heq
      obtain ⟨hfits, hlength⟩ := hread.item (by omega) hitem
      exact ⟨hfits.tagged number, by omega⟩

theorem ReadsFitting.item_step (hread : ReadsFitting fuel) {item : Item} (hb : b.length < UInt64.size)
    (h : item? (fuel + 1) d b = some (item, rest)) : item.Fits d ∧ rest.length < b.length := by
  have hwhole := h
  rw [item?] at h
  cases hhead : Head.read? b with
  | none => rw [hhead] at h; cases h
  | some r =>
    obtain ⟨head, body⟩ := r
    have hbody := Head.read?_length hhead
    rw [hhead] at h
    cases head with
    | unsigned n | negative n | float x =>
      cases h
      exact ⟨.leaf trivial trivial, hbody⟩
    | «break» => cases h
    | simple code =>
      obtain ⟨x, hx, heq⟩ := Option.map_eq_some_iff.1 h
      cases heq
      exact ⟨simple?_fits hx, hbody⟩
    | bytes length =>
      obtain ⟨r, hstring, heq⟩ := Option.map_eq_some_iff.1 h
      cases heq
      have := string?_length hstring
      exact ⟨.leaf trivial (show r.1.length < UInt64.size by omega), by omega⟩
    | text length =>
      simp only [Option.bind_eq_bind, Option.bind_eq_some_iff] at h
      obtain ⟨r, hstring, s, hs, heq⟩ := h
      cases heq
      have := string?_length hstring
      have htext := congrArg List.length (Bytes.ofText_of_toText? hs)
      exact ⟨.leaf trivial (show (Bytes.ofText s).length < UInt64.size by omega), by omega⟩
    | array length =>
      cases d with
      | zero => cases h
      | succ d =>
        obtain ⟨r, hitems, heq⟩ := Option.map_eq_some_iff.1 h
        cases heq
        obtain ⟨hfits, hlength⟩ := hread.items (by omega) hitems
        exact ⟨.array (by omega) hfits, by omega⟩
    | map length =>
      cases d with
      | zero => cases h
      | succ d =>
        obtain ⟨r, hentries, heq⟩ := Option.map_eq_some_iff.1 h
        cases heq
        obtain ⟨⟨hkeys, hvalues⟩, hlength⟩ := hread.entries (by omega) hentries
        exact ⟨.map (by omega) hkeys hvalues, by omega⟩
    | tag number => exact hread.tag_step hb hhead hwhole

/-- A reader of items ends without one, or reads one and then the others. -/
theorem items?_cases {length : Option Nat} {xs : List Item}
    (h : items? (fuel + 1) d length b = some (xs, rest)) : (xs = [] ∧ rest.length ≤ b.length) ∨
      ∃ x middle tail length', item? fuel d b = some (x, middle) ∧
        items? fuel d length' middle = some (tail, rest) ∧ xs = x :: tail := by
  cases length with
  | some n =>
    cases n with
    | zero =>
      cases h
      exact .inl ⟨rfl, Nat.le_refl _⟩
    | succ n =>
      simp only [items?, Option.bind_eq_bind, Option.bind_eq_some_iff] at h
      obtain ⟨r, hitem, rs, hitems, heq⟩ := h
      cases heq
      exact .inr ⟨_, _, _, _, hitem, hitems, rfl⟩
  | none =>
    unfold items? at h
    split at h
    · cases h
      exact .inl ⟨rfl, by simp⟩
    · simp only [Option.bind_eq_bind, Option.bind_eq_some_iff] at h
      obtain ⟨r, hitem, rs, hitems, heq⟩ := h
      cases heq
      exact .inr ⟨_, _, _, _, hitem, hitems, rfl⟩

theorem ReadsFitting.items_step (hread : ReadsFitting fuel) {length : Option Nat} {xs : List Item}
    (hb : b.length < UInt64.size) (h : items? (fuel + 1) d length b = some (xs, rest)) :
    (∀ x ∈ xs, x.Fits d) ∧ xs.length + rest.length ≤ b.length := by
  rcases items?_cases h with ⟨rfl, hlength⟩ | ⟨x, middle, tail, length', hitem, hitems, rfl⟩
  · exact ⟨List.forall_mem_nil _, by simpa using hlength⟩
  · obtain ⟨hfits, hlength⟩ := hread.item hb hitem
    obtain ⟨hall, hlengths⟩ := hread.items (by omega) hitems
    refine ⟨List.forall_mem_cons.2 ⟨hfits, hall⟩, ?_⟩
    rw [List.length_cons]
    omega

/-- A reader of entries ends without one, or reads a key, a value and then the others. -/
theorem entries?_cases {length : Option Nat} {es : List (Item × Item)}
    (h : entries? (fuel + 1) d length b = some (es, rest)) : (es = [] ∧ rest.length ≤ b.length) ∨
      ∃ k behindKey v behindValue tail length', item? fuel d b = some (k, behindKey) ∧
        item? fuel d behindKey = some (v, behindValue) ∧
        entries? fuel d length' behindValue = some (tail, rest) ∧ es = (k, v) :: tail := by
  cases length with
  | some n =>
    cases n with
    | zero =>
      cases h
      exact .inl ⟨rfl, Nat.le_refl _⟩
    | succ n =>
      simp only [entries?, Option.bind_eq_bind, Option.bind_eq_some_iff] at h
      obtain ⟨k, hkey, v, hvalue, rs, hentries, heq⟩ := h
      cases heq
      exact .inr ⟨_, _, _, _, _, _, hkey, hvalue, hentries, rfl⟩
  | none =>
    unfold entries? at h
    split at h
    · cases h
      exact .inl ⟨rfl, by simp⟩
    · simp only [Option.bind_eq_bind, Option.bind_eq_some_iff] at h
      obtain ⟨k, hkey, v, hvalue, rs, hentries, heq⟩ := h
      cases heq
      exact .inr ⟨_, _, _, _, _, _, hkey, hvalue, hentries, rfl⟩

theorem ReadsFitting.entries_step (hread : ReadsFitting fuel) {length : Option Nat} {es : List (Item × Item)}
    (hb : b.length < UInt64.size) (h : entries? (fuel + 1) d length b = some (es, rest)) :
    ((∀ e ∈ es, e.1.Fits d) ∧ ∀ e ∈ es, e.2.Fits d) ∧ es.length + rest.length ≤ b.length := by
  rcases entries?_cases h with ⟨rfl, hlength⟩ |
    ⟨k, behindKey, v, behindValue, tail, length', hkey, hvalue, hentries, rfl⟩
  · exact ⟨⟨List.forall_mem_nil _, List.forall_mem_nil _⟩, by simpa using hlength⟩
  · obtain ⟨hkeyFits, hkeyLength⟩ := hread.item hb hkey
    obtain ⟨hvalueFits, hvalueLength⟩ := hread.item (by omega) hvalue
    obtain ⟨⟨hkeys, hvalues⟩, hlengths⟩ := hread.entries (by omega) hentries
    refine ⟨⟨List.forall_mem_cons.2 ⟨hkeyFits, hkeys⟩, List.forall_mem_cons.2 ⟨hvalueFits, hvalues⟩⟩, ?_⟩
    rw [List.length_cons]
    omega

theorem readsFitting (fuel : Nat) : ReadsFitting fuel := by
  induction fuel with
  | zero =>
    -- a reader without steps yields nothing
    refine ⟨fun _ h => ?_, fun _ h => ?_, fun _ h => ?_⟩ <;> cases h
  | succ fuel ih => exact ⟨ih.item_step, ih.items_step, ih.entries_step⟩

/-- An item that was read can be read again. -/
theorem Item.fits_of_read? {item : Item} (hb : b.length < UInt64.size) (h : Item.read? b = some (item, rest)) :
    item.Fits maxDepth :=
  ((readsFitting _).item hb h).1

end TokenOverlay.Cbor
