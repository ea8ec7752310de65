/-
Values as they are read: what a value is if it reads as a number or as a map, and that the keys of
every map in a payload that was read are pairwise different.
-/
import TokenOverlay.Proofs.Payload.Decode

namespace TokenOverlay.Payload

/-! ## Numbers -/

/-- A value reads as a natural number; truth values read as 0 and 1. -/
def Value.ReadsAs (v : Value) (n : Nat) : Prop :=
  v = .int n ∨ ∃ b : Bool, v = .bool b ∧ n = b.toNat

/-- A value reads as one number at most. -/
theorem Value.ReadsAs.unique {v : Value} {m n : Nat} (hm : v.ReadsAs m) (hn : v.ReadsAs n) : m = n := by
  rcases hm with rfl | ⟨b, rfl, rfl⟩
  · rcases hn with h | ⟨b, h, -⟩ <;> cases h
    rfl
  · rcases hn with h | ⟨b', h, rfl⟩ <;> cases h
    rfl

theorem Value.asWord?_eq_some {v : Value} {w : UInt64} : v.asWord? = some w ↔ v.ReadsAs w.toNat := by
  have hw := w.toNat_lt
  constructor
  · intro h
    unfold asWord? at h
    split at h
    · rename_i n hn
      split at h
      · rename_i hrange
        cases h
        have hn' : ((UInt64.ofNat n.toNat).toNat : Int) = n := by
          rw [UInt64.toNat_ofNat']
          simp only [UInt64.size] at hrange
          omega
        rcases asInt?_eq_some.1 hn with rfl | ⟨b, rfl, hb⟩
        · exact .inl (by rw [hn'])
        · exact .inr ⟨b, rfl, by omega⟩
      · cases h
    · cases h
  · intro h
    have hn : v.asInt? = some (w.toNat : Int) := by
      rcases h with rfl | ⟨b, rfl, hb⟩
      · rfl
      · exact congrArg (fun n : Nat => some (n : Int)) hb.symm
    have hrange : (0 : Int) ≤ w.toNat ∧ (w.toNat : Int) < UInt64.size := by
      simp only [UInt64.size]; omega
    simp only [asWord?, hn, hrange, and_self, if_true, Int.toNat_natCast, UInt64.ofNat_toNat]

/-! ## Maps -/

theorem Value.asMap?_eq_some {v : Value} {m : Map} : v.asMap? = some m ↔ v = .map m := by
  cases v <;> simp [asMap?]

theorem Map.mem_of_get? {m : Map} {key : String} {v : Value} (h : m.get? key = some v) : (key, v) ∈ m := by
  induction m with
  | nil => cases h
  | cons e rest ih =>
    obtain ⟨k, w⟩ := e
    rw [Map.get?_cons] at h
    split at h
    · rename_i hk
      cases h
      rw [hk]
      exact List.mem_cons_self
    · exact List.mem_cons_of_mem _ (ih h)

theorem mem_insert {m : Map} {key : String} {v : Value} {e : String × Value} (h : e ∈ m.insert key v) :
    e = (key, v) ∨ e ∈ m := by
  induction m with
  | nil => exact .inl (List.mem_singleton.1 h)
  | cons e' rest ih =>
    obtain ⟨k, w⟩ := e'
    rw [Assoc.insert] at h
    split at h
    · rename_i hk
      rw [List.mem_cons, hk] at h
      rw [List.mem_cons]
      exact h.imp_right .inr
    · rcases List.mem_cons.1 h with rfl | h
      · exact .inr List.mem_cons_self
      · exact (ih h).imp_right (List.mem_cons_of_mem _)

/-! ## Keys -/

mutual

/-- Whether the keys of every map in a value are pairwise different. -/
def Value.keysDiffer : Value → Bool
  | .seq items => itemsKeysDiffer items
  | .map entries => decide (entries.map Prod.fst).Nodup && entriesKeysDiffer entries
  | .tagged _ v => v.keysDiffer
  | _ => true

def itemsKeysDiffer : List Value → Bool
  | [] => true
  | v :: rest => v.keysDiffer && itemsKeysDiffer rest

def entriesKeysDiffer : List (String × Value) → Bool
  | [] => true
  | (_, v) :: rest => v.keysDiffer && entriesKeysDiffer rest

end

theorem itemsKeysDiffer_iff {items : List Value} :
    itemsKeysDiffer items = true ↔ ∀ v ∈ items, v.keysDiffer = true := by
  induction items with
  | nil => simp [itemsKeysDiffer]
  | cons v rest ih => simp [itemsKeysDiffer, ih]

theorem entriesKeysDiffer_iff {entries : List (String × Value)} :
    entriesKeysDiffer entries = true ↔ ∀ e ∈ entries, e.2.keysDiffer = true := by
  induction entries with
  | nil => simp [entriesKeysDiffer]
  | cons e rest ih => simp [entriesKeysDiffer, ih]

theorem Value.keysDiffer_seq {items : List Value} :
    (Value.seq items).keysDiffer = true ↔ ∀ v ∈ items, v.keysDiffer = true := by
  rw [keysDiffer, itemsKeysDiffer_iff]

theorem Value.keysDiffer_map {m : Map} :
    (Value.map m).keysDiffer = true ↔ m.keys.Nodup ∧ ∀ e ∈ m, e.2.keysDiffer = true := by
  rw [keysDiffer, Bool.and_eq_true, decide_eq_true_eq, entriesKeysDiffer_iff, Assoc.keys]

theorem Value.keysDiffer_of_get? {m : Map} {key : String} {v : Value} (hm : (Value.map m).keysDiffer = true)
    (h : m.get? key = some v) : v.keysDiffer = true :=
  (keysDiffer_map.1 hm).2 _ (Map.mem_of_get? h)

theorem Value.keysDiffer_insert {m : Map} {key : String} {v : Value} (hm : (Value.map m).keysDiffer = true)
    (hv : v.keysDiffer = true) : (Value.map (m.insert key v)).keysDiffer = true := by
  obtain ⟨hnodup, hvalues⟩ := keysDiffer_map.1 hm
  refine keysDiffer_map.2 ⟨Assoc.nodup_keys_insert hnodup key v, fun e he => ?_⟩
  rcases mem_insert he with rfl | he
  · exact hv
  · exact hvalues e he

mutual

/-- Every map in the value of an item has pairwise different keys. -/
theorem keysDiffer_ofItem? : ∀ (item : Cbor.Item) {v : Value}, Value.ofItem? item = some v →
    v.keysDiffer = true
  | .null, _, h | .bool _, _, h | .unsigned _, _, h | .negative _, _, h | .float _, _, h | .text _, _, h
  | .bytes _, _, h => by cases h; rfl
  | .array items, _, h => by
    obtain ⟨vs, hvs, rfl⟩ := Option.map_eq_some_iff.1 h
    exact Value.keysDiffer_seq.2 (keysDiffer_valuesOfItems? items hvs)
  | .map entries, _, h => by
    obtain ⟨m, hm, rfl⟩ := Option.map_eq_some_iff.1 h
    exact keysDiffer_mapOfEntries? entries rfl hm
  | .tag _ item, _, h => by
    obtain ⟨v, hv, rfl⟩ := Option.map_eq_some_iff.1 h
    rw [Value.keysDiffer]
    exact keysDiffer_ofItem? item hv

theorem keysDiffer_valuesOfItems? : ∀ (items : List Cbor.Item) {vs : List Value},
    valuesOfItems? items = some vs → ∀ v ∈ vs, v.keysDiffer = true
  | [], _, h => by cases h; exact List.forall_mem_nil _
  | item :: rest, vs, h => by
    rw [valuesOfItems?] at h
    split at h
    · rename_i v vs hv hvs
      cases h
      exact List.forall_mem_cons.2 ⟨keysDiffer_ofItem? item hv, keysDiffer_valuesOfItems? rest hvs⟩
    · cases h

theorem keysDiffer_mapOfEntries? : ∀ (entries : List (Cbor.Item × Cbor.Item)) {m out : Map},
    (Value.map m).keysDiffer = true → mapOfEntries? m entries = some out →
      (Value.map out).keysDiffer = true
  | [], _, _, hm, h => by cases h; exact hm
  | (.text key, item) :: rest, m, out, hm, h => by
    rw [mapOfEntries?] at h
    split at h
    · rename_i v hv
      exact keysDiffer_mapOfEntries? rest (Value.keysDiffer_insert hm (keysDiffer_ofItem? item hv)) h
    · cases h
  | (.null, _) :: _, _, _, _, h | (.bool _, _) :: _, _, _, _, h | (.unsigned _, _) :: _, _, _, _, h
  | (.negative _, _) :: _, _, _, _, h | (.float _, _) :: _, _, _, _, h | (.bytes _, _) :: _, _, _, _, h
  | (.array _, _) :: _, _, _, _, h | (.map _, _) :: _, _, _, _, h | (.tag _ _, _) :: _, _, _, _, h => by
    cases h

end

/-- The keys of a payload that was read are pairwise different, and so are those of all maps in it. -/
theorem decode_keysDiffer {b : Bytes} {m : Map} (h : decode b = .ok m) : (Value.map m).keysDiffer = true := by
  obtain ⟨entries, rest, -, hm⟩ := mapOfEntries?_of_decode h
  exact keysDiffer_mapOfEntries? entries rfl hm

end TokenOverlay.Payload
