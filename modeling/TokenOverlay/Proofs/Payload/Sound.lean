/-
Sound payloads. The check walks through maps and sequences until it meets a banned value; so what passes it
holds no banned value at any depth, and whatever holds none passes.
-/
import TokenOverlay.Payload.Sanitize
import TokenOverlay.Proofs.Payload.Parts

namespace TokenOverlay.Payload

variable {v : Value} {vs : List Value} {m : Map} {f : Field} {bytesAllowed : Bool} {i : Nat} {b : Bytes}

/-! ## Banned values -/

/-- A value that may stand in a looked-at field: no null, nothing tagged, and bytes only where they are
allowed. -/
def Value.Admitted (bytesAllowed : Bool) : Value → Prop
  | .null | .tagged .. => False
  | .bytes _ => bytesAllowed = true
  | _ => True

theorem seqOffence?_eq_none :
    seqOffence? bytesAllowed i vs = none ↔ ∀ v ∈ vs, v.offence? bytesAllowed = none := by
  induction vs generalizing i with
  | nil => simp [seqOffence?]
  | cons v rest ih =>
    rw [seqOffence?, List.forall_mem_cons]
    cases v.offence? bytesAllowed with
    | none => simp [ih]
    | some o => simp

theorem mapOffence?_eq_none :
    mapOffence? bytesAllowed m = none ↔ ∀ e ∈ m, e.2.offence? bytesAllowed = none := by
  induction m with
  | nil => simp [mapOffence?]
  | cons e rest ih =>
    rw [mapOffence?, List.forall_mem_cons]
    cases e.2.offence? bytesAllowed with
    | none => simp [ih]
    | some o => simp

/-- No offence is found in a value exactly if every value in it, at any depth, is admitted. -/
theorem Value.offence?_eq_none :
    v.offence? bytesAllowed = none ↔ ∀ w : Value, w.Within v → w.Admitted bytesAllowed := by
  induction v using Value.induct with
  | leaf v hleaf =>
    rw [forall_within_leaf hleaf]
    cases v with
    | null => simp [offence?, Admitted]
    | bytes b => simp [offence?, Admitted]
    | seq | map | tagged => exact hleaf.elim
    | _ => exact iff_of_true rfl trivial
  | seq vs ih =>
    rw [forall_within_seq, offence?, seqOffence?_eq_none, forall₂_congr ih]
    exact (and_iff_right trivial).symm
  | map m ih =>
    rw [forall_within_map, offence?, mapOffence?_eq_none, forall₂_congr ih]
    exact (and_iff_right trivial).symm
  | tagged number v _ =>
    -- a tag is banned whatever stands under it
    rw [forall_within_tagged]
    exact iff_of_false (fun h => by cases h) fun h => h.1

/-! ## Fields -/

/-- A field of a payload is absent, or a map in which every value is admitted. -/
def Field.Sound (f : Field) (m : Map) : Prop :=
  ∀ v, m.get? f.name = some v →
    (∃ entries, v = .map entries) ∧ ∀ w : Value, w.Within v → w.Admitted f.bytesAllowed

theorem Field.check_ok : f.check m = .ok () ↔ f.Sound m := by
  unfold check Sound
  cases m.get? f.name with
  | none => simp
  | some v =>
    cases v with
    | map entries =>
      have hparts := @Value.offence?_eq_none (.map entries) f.bytesAllowed
      rw [Value.offence?] at hparts
      simp only [Option.some.injEq, forall_eq']
      rw [← hparts, and_iff_right ⟨entries, rfl⟩]
      cases mapOffence? f.bytesAllowed entries <;> simp
    | _ => simp

theorem checkFields_ok {fs : List Field} : checkFields m fs = .ok () ↔ ∀ f ∈ fs, f.Sound m := by
  induction fs with
  | nil => simp [checkFields]
  | cons f rest ih =>
    rw [checkFields, List.forall_mem_cons, ← Field.check_ok, ← ih]
    cases f.check m with
    | ok => simp
    | error e => simp

/-- A payload is sound exactly if every looked-at field is. -/
theorem sanitize_ok : sanitize m = .ok () ↔ ∀ f ∈ fields, f.Sound m :=
  checkFields_ok

theorem sound_of_decodeSound (h : decodeSound b = .ok m) : ∀ f ∈ fields, f.Sound m := by
  rw [← sanitize_ok]
  unfold decodeSound at h
  split at h
  · cases h
  · split at h
    · rename_i hsound
      cases h
      exact hsound
    · cases h

end TokenOverlay.Payload
