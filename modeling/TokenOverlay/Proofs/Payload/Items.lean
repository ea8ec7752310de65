/-
Values and the items that stand for them. A value has an item exactly if the integers in it are words of
either sign; an item has a value if its map keys are texts. The item of a value has that value again, as long
as no key comes twice.
-/
import TokenOverlay.Proofs.Assoc
import TokenOverlay.Proofs.Except
import TokenOverlay.Proofs.Payload.Parts
import TokenOverlay.Proofs.Payload.Value
import TokenOverlay.Proofs.Related

namespace TokenOverlay.Payload

open List (Forall₂)

variable {v part : Value} {vs : List Value} {m : Map} {x item : Cbor.Item} {items : List Cbor.Item}
  {entries : List (Cbor.Item × Cbor.Item)} {number : UInt64} {b : Bytes}

/-! ## To items -/

/-- An entry of a map and an entry of items that stands for it. -/
def EntryItem (e : String × Value) (x : Cbor.Item × Cbor.Item) : Prop :=
  x.1 = .text e.1 ∧ e.2.toItem = .ok x.2

theorem itemsOfValues_ok : itemsOfValues vs = .ok items ↔ Forall₂ (fun v x => v.toItem = .ok x) vs items := by
  induction vs generalizing items with
  | nil =>
    constructor
    · intro h
      cases h
      exact .nil
    · intro h
      cases h
      rfl
  | cons v rest ih =>
    rw [itemsOfValues]
    constructor
    · intro h
      cases hv : v.toItem with
      | error e => rw [hv] at h; cases h
      | ok x =>
        rw [hv] at h
        obtain ⟨xs, hxs, rfl⟩ := map_ok_iff.1 h
        exact .cons hv (ih.1 hxs)
    · intro h
      cases h with
      | cons hv hrest => rw [hv]; exact map_ok_iff.2 ⟨_, ih.2 hrest, rfl⟩

theorem entriesOfMap_ok : entriesOfMap m = .ok entries ↔ Forall₂ EntryItem m entries := by
  induction m generalizing entries with
  | nil =>
    constructor
    · intro h
      cases h
      exact .nil
    · intro h
      cases h
      rfl
  | cons e rest ih =>
    rw [entriesOfMap]
    constructor
    · intro h
      cases hv : e.2.toItem with
      | error e => rw [hv] at h; cases h
      | ok x =>
        rw [hv] at h
        obtain ⟨xs, hxs, rfl⟩ := map_ok_iff.1 h
        exact .cons ⟨rfl, hv⟩ (ih.1 hxs)
    · intro h
      cases h with
      | @cons _ x _ _ he hrest =>
        obtain ⟨key, value⟩ := x
        obtain ⟨hkey, hvalue⟩ := he
        rw [hvalue, ← show key = .text e.1 from hkey]
        exact map_ok_iff.2 ⟨_, ih.2 hrest, rfl⟩

theorem Value.toItem_seq : (Value.seq vs).toItem = .ok item ↔
    ∃ items, item = .array items ∧ Forall₂ (fun v x => v.toItem = .ok x) vs items := by
  rw [toItem, map_ok_iff]
  simp only [itemsOfValues_ok]
  exact exists_congr fun items => by rw [and_comm, eq_comm]

theorem Value.toItem_map : (Value.map m).toItem = .ok item ↔
    ∃ entries, item = .map entries ∧ Forall₂ EntryItem m entries := by
  rw [toItem, map_ok_iff]
  simp only [entriesOfMap_ok]
  exact exists_congr fun entries => by rw [and_comm, eq_comm]

theorem Value.toItem_tagged : (Value.tagged number v).toItem = .ok item ↔
    ∃ x, item = .tag number x ∧ v.toItem = .ok x := by
  rw [toItem, map_ok_iff]
  exact exists_congr fun x => by rw [and_comm, eq_comm]

/-! ## From items -/

/-- An entry of items and the key and value that it stands for. -/
def ItemEntry (x : Cbor.Item × Cbor.Item) (e : String × Value) : Prop :=
  x.1 = .text e.1 ∧ Value.ofItem? x.2 = some e.2

theorem valuesOfItems?_eq_some :
    valuesOfItems? items = some vs ↔ Forall₂ (fun x v => Value.ofItem? x = some v) items vs := by
  induction items generalizing vs with
  | nil =>
    constructor
    · intro h
      cases h
      exact .nil
    · intro h
      cases h
      rfl
  | cons x rest ih =>
    rw [valuesOfItems?]
    constructor
    · intro h
      split at h
      · rename_i v vs hv hvs
        cases h
        exact .cons hv (ih.1 hvs)
      · cases h
    · intro h
      cases h with
      | cons hv hrest => rw [hv, ih.2 hrest]

theorem mapOfEntries?_eq_some {out : Map} : mapOfEntries? m entries = some out ↔
    ∃ pairs : Map, Forall₂ ItemEntry entries pairs ∧ m.insertAll pairs = out := by
  induction entries generalizing m with
  | nil =>
    rw [mapOfEntries?, Option.some.injEq]
    constructor
    · rintro rfl
      exact ⟨[], .nil, rfl⟩
    · rintro ⟨pairs, hpairs, h⟩
      cases hpairs
      exact h
  | cons x rest ih =>
    obtain ⟨key, value⟩ := x
    constructor
    · intro h
      cases key with
      | text key =>
        rw [mapOfEntries?] at h
        split at h
        · rename_i v hv
          obtain ⟨pairs, hpairs, hout⟩ := ih.1 h
          exact ⟨(key, v) :: pairs, .cons ⟨rfl, hv⟩ hpairs, hout⟩
        · cases h
      | _ => cases h
    · rintro ⟨pairs, hpairs, hout⟩
      cases hpairs with
      | @cons _ e _ _ he hrest =>
        obtain ⟨hkey, hvalue⟩ := he
        obtain rfl : key = .text e.1 := hkey
        rw [mapOfEntries?, show Value.ofItem? value = some e.2 from hvalue]
        exact ih.2 ⟨_, hrest, hout⟩

theorem Value.ofItem?_eq_seq : ofItem? item = some (.seq vs) ↔
    ∃ items, item = .array items ∧ Forall₂ (fun x v => ofItem? x = some v) items vs := by
  cases item <;> simp [ofItem?, valuesOfItems?_eq_some]

theorem Value.ofItem?_eq_map : ofItem? item = some (.map m) ↔
    ∃ entries, item = .map entries ∧ mapOfEntries? [] entries = some m := by
  cases item <;> simp [ofItem?]

theorem Value.ofItem?_eq_tagged : ofItem? item = some (.tagged number v) ↔
    ∃ x, item = .tag number x ∧ ofItem? x = some v := by
  cases item with
  | tag n x => simp [ofItem?, eq_comm, and_comm]
  | _ => simp [ofItem?]

theorem Value.ofItem?_eq_bytes : ofItem? item = some (.bytes b) ↔ item = .bytes b := by
  cases item <;> simp [ofItem?]

theorem mem_of_mem_insertAll {pairs : Map} {e : String × Value} (h : e ∈ Assoc.insertAll [] pairs) :
    e ∈ pairs := by
  obtain ⟨before, after, rfl, -⟩ := Assoc.mem_insertAll_nil_iff.1 h
  simp

/-- Every part of the value of an item is the value of an item. -/
theorem Value.ofItem?_within (h : part.Within v) (hv : ofItem? item = some v) : ∃ x, ofItem? x = some part := by
  induction h generalizing item with
  | self => exact ⟨item, hv⟩
  | item hmem _ ih =>
    obtain ⟨items, -, hitems⟩ := ofItem?_eq_seq.1 hv
    obtain ⟨x, -, hx⟩ := exists_left_of_mem hitems hmem
    exact ih hx
  | entry hmem _ ih =>
    obtain ⟨entries, -, hentries⟩ := ofItem?_eq_map.1 hv
    obtain ⟨pairs, hpairs, rfl⟩ := mapOfEntries?_eq_some.1 hentries
    -- the entry is one of the pairs that were put into the map
    obtain ⟨x, -, -, hx⟩ := exists_left_of_mem hpairs (mem_of_mem_insertAll hmem)
    exact ih hx
  | tagged _ ih =>
    obtain ⟨x, -, hx⟩ := ofItem?_eq_tagged.1 hv
    exact ih hx

/-! ## There and back -/

/-- An integer is a word of either sign. -/
def IsWord (n : Int) : Prop :=
  -(UInt64.size : Int) ≤ n ∧ n < UInt64.size

theorem intItem_ok {n : Int} : (∃ x, intItem n = .ok x) ↔ IsWord n := by
  unfold IsWord intItem
  cases n with
  | ofNat k =>
    simp only [Int.ofNat_eq_natCast]
    split
    · exact ⟨fun _ => by omega, fun _ => ⟨_, rfl⟩⟩
    · refine iff_of_false ?_ (by omega)
      rintro ⟨_, h⟩
      cases h
  | negSucc k =>
    simp only [Int.negSucc_eq]
    split
    · exact ⟨fun _ => by omega, fun _ => ⟨_, rfl⟩⟩
    · refine iff_of_false ?_ (by omega)
      rintro ⟨_, h⟩
      cases h

theorem ofItem?_intItem {n : Int} (h : intItem n = .ok item) : Value.ofItem? item = some (.int n) := by
  have hword {k : Nat} (hk : k < UInt64.size) : (UInt64.ofNat k).toNat = k := by
    rw [UInt64.toNat_ofNat']
    exact Nat.mod_eq_of_lt hk
  unfold intItem at h
  split at h <;> split at h
  · rename_i hk
    cases h
    simp [Value.ofItem?, hword hk]
  · cases h
  · rename_i hk
    cases h
    simp [Value.ofItem?, hword hk, Int.negSucc_eq]
    omega
  · cases h

/-- An integer among the values is a word of either sign. -/
def Value.IntIsWord : Value → Prop
  | .int n => IsWord n
  | _ => True

theorem Value.forall_int_within :
    (∀ n : Int, (Value.int n).Within v → IsWord n) ↔ ∀ w : Value, w.Within v → w.IntIsWord := by
  constructor
  · intro h w hw
    cases w with
    | int n => exact h n hw
    | _ => trivial
  · exact fun h n hn => h (.int n) hn

theorem Value.exists_toItem : (∃ item, v.toItem = .ok item) ↔ ∀ w : Value, w.Within v → w.IntIsWord := by
  induction v using Value.induct with
  | leaf v hleaf =>
    rw [forall_within_leaf hleaf]
    cases v with
    | int n => exact intItem_ok
    | seq | map | tagged => exact hleaf.elim
    | _ => exact iff_of_true ⟨_, rfl⟩ trivial
  | seq vs ih =>
    calc (∃ item, (Value.seq vs).toItem = .ok item)
      _ ↔ ∃ items, Forall₂ (fun v x => v.toItem = .ok x) vs items := by simp [toItem_seq]
      _ ↔ ∀ v ∈ vs, ∃ x, v.toItem = .ok x := exists_forall₂_iff
      _ ↔ ∀ v ∈ vs, ∀ w : Value, w.Within v → w.IntIsWord := forall₂_congr ih
      _ ↔ ∀ w : Value, w.Within (.seq vs) → w.IntIsWord := by
        rw [forall_within_seq]
        exact (and_iff_right trivial).symm
  | map m ih =>
    calc (∃ item, (Value.map m).toItem = .ok item)
      _ ↔ ∃ entries, Forall₂ EntryItem m entries := by simp [toItem_map]
      _ ↔ ∀ e ∈ m, ∃ x, EntryItem e x := exists_forall₂_iff
      _ ↔ ∀ e ∈ m, ∃ x, e.2.toItem = .ok x := forall₂_congr fun e _ => by simp [EntryItem]
      _ ↔ ∀ e ∈ m, ∀ w : Value, w.Within e.2 → w.IntIsWord := forall₂_congr ih
      _ ↔ ∀ w : Value, w.Within (.map m) → w.IntIsWord := by
        rw [forall_within_map]
        exact (and_iff_right trivial).symm
  | tagged number v ih =>
    calc (∃ item, (Value.tagged number v).toItem = .ok item)
      _ ↔ ∃ x, v.toItem = .ok x := by simp [toItem_tagged]
      _ ↔ ∀ w : Value, w.Within v → w.IntIsWord := ih
      _ ↔ ∀ w : Value, w.Within (.tagged number v) → w.IntIsWord := by
        rw [forall_within_tagged]
        exact (and_iff_right trivial).symm

/-- A value has an item exactly if every integer in it is a word of either sign. -/
theorem Value.toItem_ok_iff : (∃ item, v.toItem = .ok item) ↔ ∀ n : Int, (Value.int n).Within v → IsWord n :=
  exists_toItem.trans forall_int_within.symm

/-- The value of an item can be written. -/
theorem Value.toItem_of_ofItem? (h : ofItem? item = some v) : ∃ x, v.toItem = .ok x := by
  refine toItem_ok_iff.2 fun n hn => ?_
  obtain ⟨x, hx⟩ := ofItem?_within hn h
  exact int_bounds hx

/-- The item of a value in which no key comes twice stands for that value. -/
theorem Value.ofItem?_toItem (hkeys : v.keysDiffer = true) (h : v.toItem = .ok item) :
    ofItem? item = some v := by
  induction v using Value.induct generalizing item with
  | leaf v hleaf =>
    cases v with
    | int n => exact ofItem?_intItem h
    | seq | map | tagged => exact hleaf.elim
    | _ => cases h; rfl
  | seq vs ih =>
    obtain ⟨items, rfl, hitems⟩ := toItem_seq.1 h
    have hback : Forall₂ (fun x v => ofItem? x = some v) items vs :=
      forall₂_swap hitems fun v hv x hx => ih v hv (keysDiffer_seq.1 hkeys v hv) hx
    exact ofItem?_eq_seq.2 ⟨items, rfl, hback⟩
  | map m ih =>
    obtain ⟨hnodup, hvalues⟩ := keysDiffer_map.1 hkeys
    obtain ⟨entries, rfl, hentries⟩ := toItem_map.1 h
    have hback : Forall₂ ItemEntry entries m :=
      forall₂_swap hentries fun e he x hx => ⟨hx.1, ih e he (hvalues e he) hx.2⟩
    -- no key comes twice, so that the entries are put one behind the other
    have hfill : Assoc.insertAll [] m = m := Assoc.insertAll_of_nodup (m := []) hnodup
    exact ofItem?_eq_map.2 ⟨entries, rfl, mapOfEntries?_eq_some.2 ⟨m, hback, hfill⟩⟩
  | tagged number v ih =>
    obtain ⟨x, rfl, hx⟩ := toItem_tagged.1 h
    rw [keysDiffer] at hkeys
    exact ofItem?_eq_tagged.2 ⟨x, rfl, ih hkeys hx⟩

end TokenOverlay.Payload
