/-
The parts of a payload value: the value, and whatever stands in it at any depth. What holds of all parts of a
value holds of the value and of all parts of the values in it, so that such a property can be followed down
the value; and a property of all values is shown along the values that stand in each.
-/
import TokenOverlay.Payload.Value

namespace TokenOverlay.Payload

/-! ## Parts -/

/-- A value occurs within a value: it is that value, or occurs within one of its items, within the value of
one of its entries, or under its tag. -/
inductive Value.Within : Value → Value → Prop
  | self (v : Value) : Within v v
  | item {part v : Value} {items : List Value} (hv : v ∈ items) (h : Within part v) : Within part (.seq items)
  | entry {part : Value} {entries : List (String × Value)} {e : String × Value} (he : e ∈ entries)
      (h : Within part e.2) : Within part (.map entries)
  | tagged {part v : Value} {number : UInt64} (h : Within part v) : Within part (.tagged number v)

namespace Value

variable {P : Value → Prop} {part v : Value} {items : List Value} {entries : List (String × Value)}
  {number : UInt64}

@[simp] theorem within_seq : Within part (.seq items) ↔ part = .seq items ∨ ∃ v ∈ items, Within part v := by
  constructor
  · intro h
    cases h with
    | self => exact .inl rfl
    | item hv h => exact .inr ⟨_, hv, h⟩
  · rintro (rfl | ⟨v, hv, h⟩)
    · exact .self _
    · exact .item hv h

@[simp] theorem within_map :
    Within part (.map entries) ↔ part = .map entries ∨ ∃ e ∈ entries, Within part e.2 := by
  constructor
  · intro h
    cases h with
    | self => exact .inl rfl
    | entry he h => exact .inr ⟨_, he, h⟩
  · rintro (rfl | ⟨e, he, h⟩)
    · exact .self _
    · exact .entry he h

@[simp] theorem within_tagged : Within part (.tagged number v) ↔ part = .tagged number v ∨ Within part v := by
  constructor
  · intro h
    cases h with
    | self => exact .inl rfl
    | tagged h => exact .inr h
  · rintro (rfl | h)
    · exact .self _
    · exact .tagged h

/-- A value that holds no other values. -/
def IsLeaf : Value → Prop
  | .seq _ | .map _ | .tagged .. => False
  | _ => True

theorem within_leaf (hleaf : v.IsLeaf) : Within part v ↔ part = v := by
  constructor
  · intro h
    cases h with
    | self => rfl
    | item | entry | tagged => exact hleaf.elim
  · rintro rfl
    exact .self _

theorem forall_within_seq : (∀ part, Within part (.seq items) → P part) ↔
    P (.seq items) ∧ ∀ v ∈ items, ∀ part, Within part v → P part := by
  constructor
  · exact fun h => ⟨h _ (.self _), fun v hv part hpart => h part (.item hv hpart)⟩
  · rintro ⟨hself, hitems⟩ part hpart
    rcases within_seq.1 hpart with rfl | ⟨v, hv, hpart⟩
    · exact hself
    · exact hitems v hv part hpart

theorem forall_within_map : (∀ part, Within part (.map entries) → P part) ↔
    P (.map entries) ∧ ∀ e ∈ entries, ∀ part, Within part e.2 → P part := by
  constructor
  · exact fun h => ⟨h _ (.self _), fun e he part hpart => h part (.entry he hpart)⟩
  · rintro ⟨hself, hentries⟩ part hpart
    rcases within_map.1 hpart with rfl | ⟨e, he, hpart⟩
    · exact hself
    · exact hentries e he part hpart

theorem forall_within_tagged : (∀ part, Within part (.tagged number v) → P part) ↔
    P (.tagged number v) ∧ ∀ part, Within part v → P part := by
  simp only [within_tagged, or_imp, forall_and, forall_eq]

theorem forall_within_leaf (hleaf : v.IsLeaf) : (∀ part, Within part v → P part) ↔ P v := by
  simp only [within_leaf hleaf, forall_eq]

/-! ## Induction -/

/-- Induction on a value, along the values that stand in it. -/
@[elab_as_elim]
theorem induct (leaf : ∀ v : Value, v.IsLeaf → P v)
    (seq : ∀ items : List Value, (∀ v ∈ items, P v) → P (.seq items))
    (map : ∀ entries : List (String × Value), (∀ e ∈ entries, P e.2) → P (.map entries))
    (tagged : ∀ (number : UInt64) (v : Value), P v → P (.tagged number v)) (v : Value) : P v :=
  @Value.rec P (fun items => ∀ v ∈ items, P v) (fun entries => ∀ e ∈ entries, P e.2) (fun e => P e.2)
    (leaf .null trivial) (fun b => leaf (.bool b) trivial) (fun n => leaf (.int n) trivial)
    (fun x => leaf (.float x) trivial) (fun s => leaf (.text s) trivial) (fun b => leaf (.bytes b) trivial)
    seq map tagged (List.forall_mem_nil _) (fun _ _ hv hrest => List.forall_mem_cons.2 ⟨hv, hrest⟩)
    (List.forall_mem_nil _) (fun _ _ he hrest => List.forall_mem_cons.2 ⟨he, hrest⟩) (fun _ _ hv => hv) v

end Value

end TokenOverlay.Payload
