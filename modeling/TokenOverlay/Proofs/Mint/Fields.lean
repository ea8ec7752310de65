/-
What a mint keeps of a payload: the maps under four of its fields, an absent one as the empty map. Of the gates
only the one that reads these maps finds fault with a field, and a sound payload gives it no reason to.
-/
import TokenOverlay.Claim
import TokenOverlay.Proofs.Mint.Judge
import TokenOverlay.Proofs.Payload.Sound

namespace TokenOverlay

open Payload (Map Value)

namespace Mint

variable {payload m : Map} {field : String} {fields : Fields} {f : Payload.Field} {op : Located}

/-! ## The maps of a payload -/

/-- The map under a field of a payload; it is empty if there is no such field. -/
def HasMap (payload : Map) (field : String) (m : Map) : Prop :=
  payload.get? field = some (.map m) ∨ (payload.get? field = none ∧ m = [])

theorem fieldMap_ok : fieldMap payload field = .ok m ↔ HasMap payload field m := by
  unfold fieldMap HasMap
  cases payload.get? field with
  | none => simp [eq_comm]
  | some v => cases v <;> simp

/-- A sound field has a map, in which every value is admitted. -/
theorem exists_fieldMap (h : f.Sound payload) : ∃ m, fieldMap payload f.name = .ok m := by
  simp only [fieldMap_ok, HasMap]
  cases hv : payload.get? f.name with
  | none => exact ⟨[], .inr ⟨rfl, rfl⟩⟩
  | some v =>
    obtain ⟨⟨entries, rfl⟩, -⟩ := h v hv
    exact ⟨entries, .inl rfl⟩

theorem HasMap.admitted (h : HasMap payload f.name m) (hsound : f.Sound payload) (w : Value)
    (hw : w.Within (.map m)) : w.Admitted f.bytesAllowed := by
  rcases h with h | ⟨-, rfl⟩
  · exact (hsound _ h).2 w hw
  · -- nothing stands in an empty map
    obtain rfl : w = .map [] := by simpa using hw
    trivial

/-- The maps of a record, each under the field that it is read from. -/
def Fields.named (fields : Fields) : List (String × Map) :=
  [("meta", fields.metadata), ("args", fields.args), ("ctx", fields.ctx), ("init", fields.init)]

theorem Fields.ofPayload_ok : ofPayload payload = .ok fields ↔ ∀ e ∈ fields.named, HasMap payload e.1 e.2 := by
  simp only [ofPayload, bind_ok_iff, fieldMap_ok, named, List.forall_mem_cons]
  constructor
  · rintro ⟨metadata, hmetadata, args, hargs, ctx, hctx, init, hinit, h⟩
    cases h
    exact ⟨hmetadata, hargs, hctx, hinit, List.forall_mem_nil _⟩
  · rintro ⟨hmetadata, hargs, hctx, hinit, -⟩
    exact ⟨_, hmetadata, _, hargs, _, hctx, _, hinit, rfl⟩

/-- The maps of a record stand under the looked-at fields, of which only `init` may hold bytes. -/
theorem Fields.looked_at {e : String × Map} (he : e ∈ fields.named) :
    ⟨e.1, e.1 == "init"⟩ ∈ Payload.fields := by
  simp only [named, List.mem_cons, List.not_mem_nil, or_false] at he
  rcases he with rfl | rfl | rfl | rfl <;> simp [Payload.fields]

theorem Fields.exists_ofPayload (h : ∀ f ∈ Payload.fields, f.Sound payload) :
    ∃ fields, ofPayload payload = .ok fields := by
  simp only [Payload.fields, List.forall_mem_cons] at h
  obtain ⟨hmetadata, hargs, hctx, hinit, -⟩ := h
  obtain ⟨metadata, hmetadata⟩ := exists_fieldMap hmetadata
  obtain ⟨args, hargs⟩ := exists_fieldMap hargs
  obtain ⟨ctx, hctx⟩ := exists_fieldMap hctx
  obtain ⟨init, hinit⟩ := exists_fieldMap hinit
  simp only [ofPayload, bind_ok_iff]
  exact ⟨_, metadata, hmetadata, args, hargs, ctx, hctx, init, hinit, rfl⟩

/-! ## Gates that find no fault with a field -/

variable {α β : Type} {p : Params} {tx : Transaction} {spent : ByInput SpentToken} {args : Map}

/-- A computation does not end with fault found with a field. -/
def Blameless (x : Except Refusal α) : Prop :=
  ∀ field, x ≠ .error (.fieldNotAMap field)

theorem blameless_ok (a : α) : Blameless (.ok a) :=
  fun _ h => by cases h

theorem Blameless.bind {x : Except Refusal α} {next : α → Except Refusal β} (hx : Blameless x)
    (hnext : ∀ a, Blameless (next a)) : Blameless (x >>= next) := by
  intro field h
  cases x with
  | error e =>
    cases h
    exact hx field rfl
  | ok a => exact hnext a field h

theorem Blameless.map {x : Except Refusal α} {g : α → β} (hx : Blameless x) : Blameless (x.map g) := by
  intro field h
  cases x with
  | error e =>
    cases h
    exact hx field rfl
  | ok a => cases h

theorem checkPlace_blameless : Blameless (checkPlace op) := by
  intro field h
  unfold checkPlace at h
  repeat' split at h
  all_goals cases h

theorem firstOutput_blameless : Blameless (firstOutput tx) := by
  intro field h
  unfold firstOutput at h
  split at h <;> cases h

theorem optionalWork_blameless {argument : String} : Blameless (optionalWork args argument) := by
  unfold optionalWork
  split
  · exact blameless_ok _
  · refine Blameless.map fun field h => ?_
    unfold readWork at h
    repeat' split at h
    all_goals cases h

theorem workDone_blameless {argument : String} {txid : Digest} : Blameless (workDone args argument txid) := by
  intro field h
  unfold workDone at h
  split at h
  · split at h <;> cases h
  · exact optionalWork_blameless field h

theorem checkWork_blameless : Blameless (checkWork op args) :=
  workDone_blameless.bind fun _ => workDone_blameless.bind fun _ => blameless_ok _

theorem checkRequestCount_blameless : Blameless (checkRequestCount args) := by
  intro field h
  unfold checkRequestCount at h
  dsimp only at h
  split at h <;> cases h

theorem checkParentList_blameless {found : Assoc TokenId UInt64} {entries : List (String × Value)} :
    Blameless (checkParentList p spent found entries) := by
  induction entries generalizing found with
  | nil => exact blameless_ok _
  | cons entry rest ih =>
    intro field h
    rw [checkParentList] at h
    split at h
    · rename_i e he
      cases h
      unfold checkParent at he
      repeat' split at he
      all_goals cases he
    · exact ih field h

theorem checkParents_blameless : Blameless (checkParents p args spent) := by
  unfold checkParents
  repeat' split
  · exact blameless_ok _
  · exact fun _ h => by cases h
  · exact fun _ h => by cases h
  · exact checkParentList_blameless.map

theorem subrealmRequest_blameless {name : String} : Blameless (subrealmRequest p args name) := by
  intro field h
  unfold subrealmRequest at h
  repeat' split at h
  all_goals cases h

theorem nftRequest_blameless : Blameless (nftRequest p args) := by
  unfold nftRequest
  repeat' split
  · exact blameless_ok _
  · exact fun _ h => by cases h
  · exact subrealmRequest_blameless.map
  · exact fun _ h => by cases h
  · exact blameless_ok _
  · exact fun _ h => by cases h
  · exact blameless_ok _

theorem tickerRequest_blameless : Blameless (tickerRequest args) := by
  intro field h
  unfold tickerRequest at h
  repeat' split at h
  all_goals cases h

theorem boundedArg_blameless {key : String} {b : Bounds} : Blameless (boundedArg args key b) := by
  intro field h
  unfold boundedArg at h
  split at h <;> cases h

theorem checkDeployment_blameless : Blameless (checkDeployment p args) :=
  boundedArg_blameless.bind fun _ => boundedArg_blameless.bind fun _ => boundedArg_blameless.bind fun _ =>
    optionalWork_blameless.bind fun _ => optionalWork_blameless.bind fun _ => blameless_ok _

theorem checkRequest_blameless {kind : OpKind} : Blameless (checkRequest p kind args) := by
  cases kind with
  | nft => exact nftRequest_blameless.map
  | ft => exact tickerRequest_blameless.map
  | dft =>
    exact tickerRequest_blameless.bind fun _ => checkDeployment_blameless.bind fun _ => blameless_ok _
  | _ => exact fun _ h => by cases h

theorem checkNameWork_blameless {kind? : Option NameKind} {work : Work} :
    Blameless (checkNameWork p kind? work) := by
  intro field h
  unfold checkNameWork at h
  repeat' split at h
  all_goals cases h

/-- A mint with a sound payload is never refused for a field. -/
theorem judge_blameless (h : ∀ f ∈ Payload.fields, f.Sound op.payload) : Blameless (judge p op tx spent) := by
  -- the one gate that could find fault with a field has nothing to find
  obtain ⟨fields, hfields⟩ := Fields.exists_ofPayload h
  have hread : Blameless (Fields.ofPayload op.payload) := hfields ▸ blameless_ok fields
  -- the gates in their order
  refine checkPlace_blameless.bind fun _ => firstOutput_blameless.bind fun _ => hread.bind fun _ => ?_
  refine checkWork_blameless.bind fun _ => checkRequestCount_blameless.bind fun _ => ?_
  refine checkParents_blameless.bind fun _ => checkRequest_blameless.bind fun _ => ?_
  exact checkNameWork_blameless.bind fun _ => blameless_ok _

end Mint

/-! ## Claims -/

namespace Claim

theorem badField?_eq_none {payload : Map} (h : ∀ f ∈ Payload.fields, f.Sound payload) :
    badField? payload = none := by
  refine List.find?_eq_none.2 fun name hname => ?_
  obtain ⟨f, hf, rfl⟩ := List.mem_map.1 (show name ∈ Payload.fields.map Payload.Field.name from hname)
  cases hv : payload.get? f.name with
  | none => simp
  | some v =>
    obtain ⟨⟨entries, rfl⟩, -⟩ := h f hf v hv
    simp [Value.asMap?]

/-- A claim with a sound payload is never refused for a field. -/
theorem ticker_ne_fieldNotAMap {op : Located} (h : ∀ f ∈ Payload.fields, f.Sound op.payload) (field : String) :
    ticker op ≠ .error (.fieldNotAMap field) := by
  intro hfield
  unfold ticker at hfield
  split at hfield
  · cases hfield
  · split at hfield
    · cases hfield
    · rw [badField?_eq_none h] at hfield
      dsimp only at hfield
      split at hfield <;> cases hfield

end Claim

end TokenOverlay
