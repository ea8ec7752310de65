/-
What a payload that was read can hold. Every value of its top level is the value of an item, and the
integers of items are words of either sign, so a payload never holds an integer beyond them.
-/
import TokenOverlay.Payload.Sanitize

namespace TokenOverlay.Payload

/-! ## Lookup -/

theorem Map.get?_cons (key k : String) (v : Value) (rest : Map) :
    Map.get? ((key, v) :: rest) k = if k = key then some v else rest.get? k := by
  unfold Map.get?
  by_cases h : k = key
  · subst h; simp
  · rw [List.lookup_cons, beq_eq_false_iff_ne.2 h, if_neg h]

theorem Map.get?_insert (m : Map) (key k : String) (v : Value) :
    Map.get? (m.insert key v) k = if k = key then some v else m.get? k := by
  induction m with
  | nil => exact Map.get?_cons key k v []
  | cons p rest ih =>
    obtain ⟨k', v'⟩ := p
    by_cases hk : k' = key
    · simp only [Assoc.insert, hk, if_true, Map.get?_cons]
      split <;> rfl
    · simp only [Assoc.insert, hk, if_false, Map.get?_cons, ih]
      split <;> split <;> simp_all

/-! ## Values of items -/

theorem Value.asInt?_eq_some {v : Value} {n : Int} :
    v.asInt? = some n ↔ v = .int n ∨ ∃ b : Bool, v = .bool b ∧ n = b.toNat := by
  cases v <;> simp [asInt?, eq_comm]

/-- The integers that items can stand for. -/
theorem Value.int_bounds {item : Cbor.Item} {n : Int} (h : Value.ofItem? item = some (.int n)) :
    -(UInt64.size : Int) ≤ n ∧ n < UInt64.size := by
  cases item with
  | unsigned w =>
    have := w.toNat_lt
    simp only [Value.ofItem?, Option.some.injEq, Value.int.injEq] at h
    simp only [UInt64.size]; omega
  | negative w =>
    have := w.toNat_lt
    simp only [Value.ofItem?, Option.some.injEq, Value.int.injEq] at h
    simp only [UInt64.size]; omega
  | _ => simp [Value.ofItem?] at h

/-- A value of a map that was filled with entries was there before or is that of an item. -/
theorem get?_mapOfEntries? {m out : Map} {entries : List (Cbor.Item × Cbor.Item)}
    (h : mapOfEntries? m entries = some out) {key : String} {v : Value} (hv : out.get? key = some v) :
    m.get? key = some v ∨ ∃ item, Value.ofItem? item = some v := by
  induction entries generalizing m with
  | nil =>
    simp only [mapOfEntries?, Option.some.injEq] at h
    exact .inl (h ▸ hv)
  | cons entry rest ih =>
    obtain ⟨k, item⟩ := entry
    cases k with
    | text k =>
      simp only [mapOfEntries?] at h
      split at h
      · rename_i w hw
        rcases ih h with hm | hi
        · rw [Map.get?_insert] at hm
          split at hm
          · cases hm; exact .inr ⟨item, hw⟩
          · exact .inl hm
        · exact .inr hi
      · cases h
    | _ => simp [mapOfEntries?] at h

theorem decode_of_decodeSound {b : Bytes} {m : Map} (h : decodeSound b = .ok m) : decode b = .ok m := by
  unfold decodeSound at h
  split at h
  · cases h
  · rename_i m' hm
    split at h
    · cases h; exact hm
    · cases h

/-- A payload is filled with the entries of an item. -/
theorem mapOfEntries?_of_decode {b : Bytes} {m : Map} (h : decode b = .ok m) :
    ∃ entries rest, Cbor.Item.read? b = some (.map entries, rest) ∧ mapOfEntries? [] entries = some m := by
  unfold decode at h
  split at h
  · cases h
  · split at h
    · cases h
    · rename_i entries rest hread
      split at h
      · rename_i m' hm
        cases h; exact ⟨entries, rest, hread, hm⟩
      · cases h
    · cases h

/-- An integer at the top level of a payload that was read is a word of either sign. -/
theorem decode_int_bounds {b : Bytes} {m : Map} (h : decode b = .ok m) {key : String} {n : Int}
    (hn : m.get? key = some (.int n)) : -(UInt64.size : Int) ≤ n ∧ n < UInt64.size := by
  obtain ⟨entries, rest, -, hm⟩ := mapOfEntries?_of_decode h
  rcases get?_mapOfEntries? hm hn with hnil | ⟨item, hitem⟩
  · cases hnil
  · exact Value.int_bounds hitem

end TokenOverlay.Payload
