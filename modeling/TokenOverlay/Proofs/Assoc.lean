/-
Maps filled with pairs one after the other. A key is left with the value that came last. The map has as
many entries as there were pairs exactly if no key came twice, and then it is the list of pairs itself.
-/
import TokenOverlay.Assoc

namespace TokenOverlay.Assoc

variable {κ : Type} {β : Type u} {m : Assoc κ β} {key : κ} {value : β} {e : κ × β}

/-! ## Keys -/

theorem mem_keys_of_mem (h : e ∈ m) : e.1 ∈ m.keys :=
  List.mem_map_of_mem h

/-- A pair is the last one under its key. -/
def IsLast (e : κ × β) (pairs : Assoc κ β) : Prop :=
  ∃ before after, pairs = before ++ e :: after ∧ e.1 ∉ keys after

theorem isLast_cons {p : κ × β} {rest : Assoc κ β} :
    IsLast e (p :: rest) ↔ (p = e ∧ e.1 ∉ keys rest) ∨ IsLast e rest := by
  constructor
  · rintro ⟨before, after, heq, hlast⟩
    cases before with
    | nil =>
      obtain ⟨rfl, rfl⟩ := List.cons.inj heq
      exact .inl ⟨rfl, hlast⟩
    | cons q before =>
      obtain ⟨-, rfl⟩ := List.cons.inj heq
      exact .inr ⟨before, after, rfl, hlast⟩
  · rintro (⟨rfl, hlast⟩ | ⟨before, after, rfl, hlast⟩)
    · exact ⟨[], rest, rfl, hlast⟩
    · exact ⟨p :: before, after, rfl, hlast⟩

variable [DecidableEq κ]

/-! ## One pair -/

theorem insert_of_new (h : key ∉ m.keys) : m.insert key value = m ++ [(key, value)] := by
  induction m with
  | nil => rfl
  | cons p rest ih =>
    obtain ⟨hne, hrest⟩ := not_or.1 (mt List.mem_cons.2 h)
    rw [insert, if_neg (Ne.symm hne), ih hrest]
    rfl

theorem length_insert_of_mem (h : key ∈ m.keys) : (m.insert key value).length = m.length := by
  induction m with
  | nil => cases h
  | cons p rest ih =>
    rw [insert]
    split
    · rfl
    · rename_i hne
      have hrest : key ∈ keys rest := (List.mem_cons.1 h).resolve_left (Ne.symm hne)
      rw [List.length_cons, List.length_cons, ih hrest]

theorem mem_insert_iff (h : m.keys.Nodup) : e ∈ m.insert key value ↔ e = (key, value) ∨ e.1 ≠ key ∧ e ∈ m := by
  induction m with
  | nil => simp [insert]
  | cons p rest ih =>
    obtain ⟨hp, hrest⟩ := List.nodup_cons.1 h
    rw [insert]
    split
    · rename_i hkey
      rw [List.mem_cons, List.mem_cons, hkey]
      -- the value is put in place of the one there, and no other entry has the key
      constructor
      · rintro (rfl | he)
        · exact .inl rfl
        · exact .inr ⟨fun heq => hp (hkey ▸ heq ▸ mem_keys_of_mem he), .inr he⟩
      · rintro (rfl | ⟨hne, rfl | he⟩)
        · exact .inl rfl
        · exact absurd hkey hne
        · exact .inr he
    · rename_i hne
      rw [List.mem_cons, ih hrest, List.mem_cons]
      constructor
      · rintro (rfl | rfl | ⟨hkey, he⟩)
        · exact .inr ⟨hne, .inl rfl⟩
        · exact .inl rfl
        · exact .inr ⟨hkey, .inr he⟩
      · rintro (rfl | ⟨hkey, rfl | he⟩)
        · exact .inr (.inl rfl)
        · exact .inl rfl
        · exact .inr (.inr ⟨hkey, he⟩)

/-! ## Several pairs -/

/-- Puts the values of several pairs under their keys, one after the other. -/
def insertAll (m : Assoc κ β) (pairs : List (κ × β)) : Assoc κ β :=
  pairs.foldl (fun m p => m.insert p.1 p.2) m

theorem nodup_keys_insertAll (h : m.keys.Nodup) (pairs : Assoc κ β) : (m.insertAll pairs).keys.Nodup := by
  induction pairs generalizing m with
  | nil => exact h
  | cons p rest ih => exact ih (nodup_keys_insert h p.1 p.2)

/-- An entry of a map that was filled was put last under its key, or was there and its key was left
alone. -/
theorem mem_insertAll_iff (h : m.keys.Nodup) {pairs : Assoc κ β} :
    e ∈ m.insertAll pairs ↔ IsLast e pairs ∨ (e ∈ m ∧ e.1 ∉ keys pairs) := by
  induction pairs generalizing m with
  | nil =>
    constructor
    · exact fun he => .inr ⟨he, List.not_mem_nil⟩
    · rintro (⟨before, after, heq, -⟩ | ⟨he, -⟩)
      · simp at heq
      · exact he
  | cons p rest ih =>
    rw [insertAll, List.foldl_cons, ← insertAll, ih (nodup_keys_insert h p.1 p.2), isLast_cons,
      mem_insert_iff h]
    have hkeys : e.1 ∉ keys (p :: rest) ↔ e.1 ≠ p.1 ∧ e.1 ∉ keys rest := by
      rw [keys, List.map_cons, List.mem_cons, not_or]
      rfl
    rw [hkeys]
    constructor
    · rintro (hlast | ⟨heq | ⟨hne, he⟩, hrest⟩)
      · exact .inl (.inr hlast)
      · exact .inl (.inl ⟨heq.symm, hrest⟩)
      · exact .inr ⟨he, hne, hrest⟩
    · rintro ((⟨heq, hrest⟩ | hlast) | ⟨he, hne, hrest⟩)
      · exact .inr ⟨.inl heq.symm, hrest⟩
      · exact .inl hlast
      · exact .inr ⟨.inr ⟨hne, he⟩, hrest⟩

theorem mem_insertAll_nil_iff {pairs : Assoc κ β} : e ∈ insertAll [] pairs ↔ IsLast e pairs :=
  (mem_insertAll_iff (m := []) List.nodup_nil).trans (or_iff_left fun h => List.not_mem_nil h.1)

theorem length_insertAll_le (m pairs : Assoc κ β) : (m.insertAll pairs).length ≤ m.length + pairs.length := by
  induction pairs generalizing m with
  | nil => exact Nat.le_refl _
  | cons p rest ih =>
    have hrest := ih (m.insert p.1 p.2)
    have hone : (m.insert p.1 p.2).length ≤ m.length + 1 := by
      by_cases h : p.1 ∈ m.keys
      · rw [length_insert_of_mem h]
        omega
      · exact Nat.le_of_eq (by rw [insert_of_new h, List.length_append, List.length_singleton])
    rw [insertAll, List.foldl_cons, ← insertAll, List.length_cons]
    omega

/-- Pairs with keys that are all new, and pairwise different, stand behind what was there. -/
theorem insertAll_of_nodup {pairs : Assoc κ β} (h : (keys (m ++ pairs)).Nodup) :
    m.insertAll pairs = m ++ pairs := by
  induction pairs generalizing m with
  | nil => exact (List.append_nil m).symm
  | cons p rest ih =>
    have hsplit : m ++ p :: rest = (m ++ [p]) ++ rest := by rw [List.append_assoc, List.singleton_append]
    have hnew : p.1 ∉ m.keys := by
      rw [keys, List.map_append, List.nodup_append] at h
      exact fun hmem => h.2.2 _ hmem _ (List.mem_cons_self) rfl
    rw [insertAll, List.foldl_cons, ← insertAll, insert_of_new hnew, hsplit]
    exact ih (hsplit ▸ h)

theorem nodup_of_length_insertAll {pairs : Assoc κ β} (hm : m.keys.Nodup)
    (h : (m.insertAll pairs).length = m.length + pairs.length) : (keys (m ++ pairs)).Nodup := by
  induction pairs generalizing m with
  | nil => rwa [List.append_nil]
  | cons p rest ih =>
    rw [insertAll, List.foldl_cons, ← insertAll, List.length_cons] at h
    by_cases hmem : p.1 ∈ m.keys
    · -- a key that is there already adds no entry
      have hle := length_insertAll_le (m.insert p.1 p.2) rest
      rw [length_insert_of_mem hmem] at hle
      omega
    · have hnodup := nodup_keys_insert hm p.1 p.2
      rw [insert_of_new hmem] at h hnodup
      have := ih hnodup (by rw [h, List.length_append, List.length_singleton]; omega)
      rwa [List.append_assoc, List.singleton_append] at this

/-- No pair is lost exactly if no key comes twice. -/
theorem length_insertAll_iff {pairs : Assoc κ β} :
    (insertAll [] pairs).length = pairs.length ↔ pairs.keys.Nodup := by
  constructor
  · intro h
    exact nodup_of_length_insertAll (m := []) List.nodup_nil (by rw [h, List.length_nil, Nat.zero_add])
  · intro h
    rw [insertAll_of_nodup (m := []) h, List.nil_append]

end TokenOverlay.Assoc
