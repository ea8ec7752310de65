/-
Arguments that are there and say nothing. A blank value counts as not given, so an optional argument with one can
be left out without changing the verdict on a mint or any part of its record but the arguments themselves. There is
one place where it cannot: the names that a non-fungible token may claim are looked for as texts, and the empty text
is one. It is read as a claim to a name that no grammar accepts, although the count of names has not seen it.
-/
import TokenOverlay.Proofs.Mint.Fields
import TokenOverlay.Proofs.Payload.Decode

namespace TokenOverlay

open Payload (Map Value)

variable {c : Config} {p : Params} {op : Located} {tx : Transaction} {spent : ByInput SpentToken}
  {payload args args' : Map} {key field : String} {v : Value}

/-! ## Leaving out an argument -/

/-- A map without an entry. -/
def Payload.Map.without (m : Map) (key : String) : Map :=
  m.filter fun e => e.1 != key

/-- A value that, if it is a map, lacks an entry. -/
def Payload.Value.without (key : String) : Value → Value
  | .map m => .map (Map.without m key)
  | v => v

theorem Payload.Map.get?_without (m : Map) (key k : String) :
    (m.without key).get? k = if k = key then none else m.get? k := by
  induction m with
  | nil => simp [without, get?]
  | cons e rest ih =>
    obtain ⟨k', w⟩ := e
    simp only [without] at ih
    by_cases hkey : k' = key
    · subst hkey
      rw [without, List.filter_cons_of_neg (by simp), ih, get?_cons]
      split <;> simp_all
    · rw [without, List.filter_cons_of_pos (by simpa using hkey), get?_cons, get?_cons, ih]
      split <;> simp_all

/-- A payload without one of its arguments. -/
def Payload.Map.withoutArg (payload : Map) (key : String) : Map :=
  payload.map fun e => if e.1 = "args" then (e.1, e.2.without key) else e

theorem Payload.Map.get?_withoutArg :
    (payload.withoutArg key).get? field =
      if field = "args" then (payload.get? field).map (Value.without key) else payload.get? field := by
  induction payload with
  | nil => simp [withoutArg, get?]
  | cons e rest ih =>
    obtain ⟨k, w⟩ := e
    rw [withoutArg] at ih
    rw [withoutArg, List.map_cons, get?_cons]
    by_cases hk : k = "args"
    · rw [if_pos hk, get?_cons, ih]
      split <;> simp_all
    · rw [if_neg hk, get?_cons, ih]
      split <;> simp_all

/-- An operation without one of its arguments. -/
def Located.withoutArg (op : Located) (key : String) : Located :=
  { op with payload := op.payload.withoutArg key }

namespace Mint

def Fields.withoutArg (fields : Fields) (key : String) : Fields :=
  { fields with args := fields.args.without key }

/-- A record that says of an argument that it was not there, and is the same in everything else. -/
def Record.withoutArg (record : Record) (key : String) : Record :=
  { record with fields := record.fields.withoutArg key }

theorem fieldMap_withoutArg_self :
    fieldMap (payload.withoutArg key) "args" = (fieldMap payload "args").map (·.without key) := by
  unfold fieldMap
  rw [Map.get?_withoutArg, if_pos rfl]
  cases payload.get? "args" with
  | none => rfl
  | some v => cases v <;> rfl

theorem fieldMap_withoutArg_of_ne (h : field ≠ "args") :
    fieldMap (payload.withoutArg key) field = fieldMap payload field := by
  unfold fieldMap
  rw [Map.get?_withoutArg, if_neg h]

theorem Fields.ofPayload_withoutArg :
    ofPayload (payload.withoutArg key) = (ofPayload payload).map (·.withoutArg key) := by
  have hmeta : fieldMap (payload.withoutArg key) "meta" = fieldMap payload "meta" :=
    fieldMap_withoutArg_of_ne (by decide)
  have hctx : fieldMap (payload.withoutArg key) "ctx" = fieldMap payload "ctx" :=
    fieldMap_withoutArg_of_ne (by decide)
  have hinit : fieldMap (payload.withoutArg key) "init" = fieldMap payload "init" :=
    fieldMap_withoutArg_of_ne (by decide)
  rw [ofPayload, ofPayload, hmeta, hctx, hinit, fieldMap_withoutArg_self]
  cases fieldMap payload "meta" <;> cases fieldMap payload "args" <;> cases fieldMap payload "ctx" <;>
    cases fieldMap payload "init" <;> rfl

theorem Fields.args_of_ofPayload {fields : Fields} (h : ofPayload payload = .ok fields)
    (hargs : payload.get? "args" = some (.map args)) : fields.args = args := by
  rcases ofPayload_ok.1 h ("args", fields.args) (by simp [named]) with hmap | ⟨hnone, -⟩
  · rw [hargs] at hmap
    cases hmap
    rfl
  · rw [hargs] at hnone
    cases hnone

/-! ## Gates that ask what is given -/

/-- The keys that a mint may leave out: those of the names, and those of the work and the parents. -/
def optionalKeys : List String :=
  NameKind.all.map NameKind.requestKey ++ ["bitworkc", "bitworkr", "parents", "mint_bitworkc", "mint_bitworkr"]

theorem get?_without_of_ne (h : field ≠ key) : (args.without key).get? field = args.get? field := by
  rw [Map.get?_without, if_neg h]

/-- What is given stays the same when a blank value is left out. -/
theorem given?_without (hv : args.get? key = some v) (hblank : v.isBlank = true) (k : String) :
    given? (args.without key) k = given? args k := by
  unfold given?
  rw [Map.get?_without]
  split
  · rename_i hk
    rw [hk, hv, Option.filter_some]
    simp [hblank]
  · rfl

theorem optionalWork_congr (h : ∀ k, given? args' k = given? args k) (argument : String) :
    optionalWork args' argument = optionalWork args argument := by
  rw [optionalWork, optionalWork, h]

theorem checkWork_congr (h : ∀ k, given? args' k = given? args k) : checkWork op args' = checkWork op args := by
  simp only [checkWork, workDone, optionalWork_congr h]

theorem checkRequestCount_congr (h : ∀ k, given? args' k = given? args k) :
    checkRequestCount args' = checkRequestCount args := by
  have hkinds : requestedKinds args' = requestedKinds args := by
    unfold requestedKinds
    simp only [h]
  rw [checkRequestCount, checkRequestCount, hkinds]

theorem checkParents_congr (h : ∀ k, given? args' k = given? args k) :
    checkParents p args' spent = checkParents p args spent := by
  rw [checkParents, checkParents, h]

theorem ne_of_mem_optionalKeys (hkey : key ∈ optionalKeys) (h : field ∉ optionalKeys) : field ≠ key :=
  fun hsame => h (hsame ▸ hkey)

/-- The terms of a deployment are no optional arguments, and the work that comes with them is. -/
theorem checkDeployment_without (hkey : key ∈ optionalKeys) (h : ∀ k, given? (args.without key) k = given? args k) :
    checkDeployment p (args.without key) = checkDeployment p args := by
  have hterm : ∀ term ∈ ["mint_height", "mint_amount", "max_mints"], ∀ b,
      boundedArg (args.without key) term b = boundedArg args term b := by
    intro term hterm b
    have hrequired : ∀ term ∈ ["mint_height", "mint_amount", "max_mints"], term ∉ optionalKeys := by decide
    rw [boundedArg, boundedArg, get?_without_of_ne (ne_of_mem_optionalKeys hkey (hrequired term hterm))]
  simp only [checkDeployment, optionalWork_congr h, hterm, List.mem_cons, true_or, or_true]

/-! ## Names -/

/-- The kinds of name that are looked for before another one in a non-fungible mint. -/
def namesBefore : NameKind → List NameKind
  | .realm => []
  | .subrealm => [.realm]
  | .container => [.realm, .subrealm]
  | .ticker => []

/-- An argument is read as a claim to the empty name: in a non-fungible mint the empty text stands under the key
of a realm, subrealm or container, and no text under the keys that are looked at before. -/
def ReadAsEmptyName (kind : OpKind) (args : Map) (key : String) : Prop :=
  kind = .nft ∧ ∃ name ∈ [NameKind.realm, .subrealm, .container], key = name.requestKey ∧
    textArg? args key = some "" ∧ ∀ other ∈ namesBefore name, textArg? args other.requestKey = none

theorem textArg?_without_of_ne (h : field ≠ key) : textArg? (args.without key) field = textArg? args field := by
  rw [textArg?, textArg?, get?_without_of_ne h]

theorem textArg?_without_self : textArg? (args.without key) key = none := by
  rw [textArg?, Map.get?_without, if_pos rfl]
  rfl

/-- A blank value reads as no text or as the empty one. -/
theorem textArg?_of_isBlank (hv : args.get? key = some v) (hblank : v.isBlank = true) :
    textArg? args key = none ∨ textArg? args key = some "" := by
  rw [textArg?, hv]
  cases v with
  | text s =>
    rw [Value.isBlank, String.isEmpty_iff] at hblank
    rw [hblank]
    exact .inr rfl
  | _ => exact .inl rfl

theorem textArg?_without (hv : args.get? key = some v) (hblank : v.isBlank = true) (k : String) :
    textArg? (args.without key) k = textArg? args k ∨ (k = key ∧ textArg? args key = some "") := by
  by_cases hk : k = key
  · subst hk
    rw [textArg?_without_self]
    rcases textArg?_of_isBlank hv hblank with hnone | hempty
    · exact .inl hnone.symm
    · exact .inr ⟨rfl, hempty⟩
  · exact .inl (textArg?_without_of_ne hk)

/-- A name that is looked for is read alike, unless the empty name is read. -/
theorem textArg?_without_of_read (name : NameKind) (hv : args.get? key = some v) (hblank : v.isBlank = true)
    (hread : ¬ ReadAsEmptyName .nft args key) (hname : name ∈ [NameKind.realm, .subrealm, .container])
    (hbefore : ∀ other ∈ namesBefore name, textArg? args other.requestKey = none) :
    textArg? (args.without key) name.requestKey = textArg? args name.requestKey := by
  rcases textArg?_without hv hblank name.requestKey with hsame | ⟨hkey, hempty⟩
  · exact hsame
  · exact absurd ⟨rfl, name, hname, hkey.symm, hempty, hbefore⟩ hread

theorem subrealmRequest_without (hkey : key ∈ optionalKeys) (name : String) :
    subrealmRequest p (args.without key) name = subrealmRequest p args name := by
  have hclaim : "claim_type" ≠ key := ne_of_mem_optionalKeys hkey (by decide)
  have hparent : "parent_realm" ≠ key := ne_of_mem_optionalKeys hkey (by decide)
  rw [subrealmRequest, subrealmRequest, textArg?_without_of_ne hclaim, textArg?_without_of_ne hparent]

theorem nftRequest_without (hkey : key ∈ optionalKeys) (hv : args.get? key = some v) (hblank : v.isBlank = true)
    (hread : ¬ ReadAsEmptyName .nft args key) : nftRequest p (args.without key) = nftRequest p args := by
  have hrealm := textArg?_without_of_read .realm hv hblank hread (by simp) (by simp [namesBefore])
  cases hr : textArg? args NameKind.realm.requestKey with
  | some name => simp only [nftRequest, hrealm, hr]
  | none =>
    have hsubrealm := textArg?_without_of_read .subrealm hv hblank hread (by simp)
      (by simpa [namesBefore] using hr)
    cases hs : textArg? args NameKind.subrealm.requestKey with
    | some name => simp only [nftRequest, hrealm, hr, hsubrealm, hs, subrealmRequest_without hkey]
    | none =>
      have hcontainer := textArg?_without_of_read .container hv hblank hread (by simp)
        (by simpa [namesBefore] using ⟨hr, hs⟩)
      rw [nftRequest, nftRequest, hrealm, hr, hsubrealm, hs, hcontainer]
      cases textArg? args NameKind.container.requestKey <;> rfl

theorem accepts_empty (kind : NameKind) : kind.accepts "" = false :=
  Bool.eq_false_iff.2 fun h => NameKind.ne_empty_of_accepts h rfl

/-- The empty name is refused. -/
theorem nftRequest_readAsEmptyName (h : ReadAsEmptyName .nft args key) :
    ∃ name : NameKind, nftRequest p args = .error (.badName name "") := by
  obtain ⟨-, name, hname, rfl, hempty, hbefore⟩ := h
  refine ⟨name, ?_⟩
  cases name with
  | realm => simp only [nftRequest, hempty, accepts_empty, Bool.false_eq_true, if_false]
  | subrealm =>
    have hr := hbefore .realm (by simp [namesBefore])
    simp only [nftRequest, hr, hempty, accepts_empty, Bool.false_eq_true, if_false]
  | container =>
    have hr := hbefore .realm (by simp [namesBefore])
    have hs := hbefore .subrealm (by simp [namesBefore])
    simp only [nftRequest, hr, hs, hempty, accepts_empty, Bool.false_eq_true, if_false]
  | ticker => simp at hname

/-- A blank ticker is refused as an absent one is, for another reason. -/
theorem tickerRequest_without (hv : args.get? key = some v) (hblank : v.isBlank = true) {request : Request} :
    tickerRequest (args.without key) = .ok request ↔ tickerRequest args = .ok request := by
  rcases textArg?_without hv hblank NameKind.ticker.requestKey with hsame | ⟨rfl, hempty⟩
  · rw [tickerRequest, tickerRequest, hsame]
  · simp [tickerRequest, textArg?_without_self, hempty, accepts_empty]

theorem checkRequest_without (hkey : key ∈ optionalKeys) (hv : args.get? key = some v) (hblank : v.isBlank = true)
    {kind : OpKind} (hread : ¬ ReadAsEmptyName kind args key) {found : Option Request × Option Deployment} :
    checkRequest p kind (args.without key) = .ok found ↔ checkRequest p kind args = .ok found := by
  cases kind with
  | nft => rw [checkRequest, checkRequest, nftRequest_without hkey hv hblank hread]
  | ft => simp only [checkRequest, map_ok_iff, tickerRequest_without hv hblank]
  | dft =>
    have hgiven := given?_without hv hblank
    simp only [checkRequest, bind_ok_iff, tickerRequest_without hv hblank, checkDeployment_without hkey hgiven]
  | _ => rfl

/-! ## The verdict -/

variable {record : Record}

/-- Every gate finds the same without the blank argument. -/
theorem passes_withoutArg_iff {record' : Record} (hkey : key ∈ optionalKeys)
    (hargs : op.payload.get? "args" = some (.map args)) (hv : args.get? key = some v) (hblank : v.isBlank = true)
    (hread : ¬ ReadAsEmptyName op.kind args key) :
    Passes p (op.withoutArg key) tx spent record' ↔
      ∃ record, Passes p op tx spent record ∧ record' = record.withoutArg key := by
  have hgiven := given?_without hv hblank
  constructor
  · intro h
    have hfields := h.fields
    rw [Located.withoutArg, Fields.ofPayload_withoutArg, map_ok_iff] at hfields
    obtain ⟨fields, hfields, heq⟩ := hfields
    obtain rfl := Fields.args_of_ofPayload hfields hargs
    have hsame : record'.fields.args = fields.args.without key := heq ▸ rfl
    refine ⟨{ record' with fields }, ?_, ?_⟩
    · obtain ⟨named?, hcount, hname⟩ := h.nameWork
      rw [hsame, checkRequestCount_congr hgiven] at hcount
      exact {
        place := h.place
        output := h.output
        fields := hfields
        work := by rw [← checkWork_congr hgiven, ← hsame]; exact h.work
        nameWork := ⟨named?, hcount, hname⟩
        parents := by rw [← checkParents_congr hgiven, ← hsame]; exact h.parents
        request := (checkRequest_without hkey hv hblank hread).1 (hsame ▸ h.request)
        token := h.token
        commitLocation := h.commitLocation
        reveal := h.reveal }
    · rw [Record.withoutArg, heq]
  · rintro ⟨record, h, rfl⟩
    obtain rfl := Fields.args_of_ofPayload h.fields hargs
    obtain ⟨named?, hcount, hname⟩ := h.nameWork
    exact {
      place := h.place
      output := h.output
      fields := by rw [Located.withoutArg, Fields.ofPayload_withoutArg, h.fields]; rfl
      work := (checkWork_congr hgiven).trans h.work
      nameWork := ⟨named?, (checkRequestCount_congr hgiven).trans hcount, hname⟩
      parents := (checkParents_congr hgiven).trans h.parents
      request := (checkRequest_without hkey hv hblank hread).2 h.request
      token := h.token
      commitLocation := h.commitLocation
      reveal := h.reveal }

/-- A blank optional argument counts as not given. Unless it is read as a claim to the empty name, a mint is
accepted with it exactly if it is accepted without it, and the records differ in the arguments alone. Where it is
read so, the mint is refused whatever else it says. -/
theorem blank_argument_not_given (hkey : key ∈ optionalKeys) (hargs : op.payload.get? "args" = some (.map args))
    (hv : args.get? key = some v) (hblank : v.isBlank = true) :
    (¬ ReadAsEmptyName op.kind args key → ∀ record', judgeUnder c (op.withoutArg key) tx spent = .ok (.ok record') ↔
      ∃ record, judgeUnder c op tx spent = .ok (.ok record) ∧ record' = record.withoutArg key) ∧
    (ReadAsEmptyName op.kind args key → ∀ record, judgeUnder c op tx spent ≠ .ok (.ok record)) := by
  refine ⟨fun hread record' => ?_, fun hread record h => ?_⟩
  · have hpasses : Passes c.params (op.withoutArg key) tx spent record' ↔ _ :=
      passes_withoutArg_iff hkey hargs hv hblank hread
    simp only [judgeUnder_eq_ok_iff, hpasses]
    constructor
    · rintro ⟨⟨record, hrecord, heq⟩, hfault⟩
      exact ⟨record, ⟨hrecord, hfault⟩, heq⟩
    · rintro ⟨record, ⟨hrecord, hfault⟩, heq⟩
      exact ⟨⟨record, hrecord, heq⟩, hfault⟩
  · have hpasses := judgeUnder_ok h
    have hrequest := hpasses.request
    rw [hread.1, Fields.args_of_ofPayload hpasses.fields hargs] at hrequest
    obtain ⟨name, herror⟩ := nftRequest_readAsEmptyName (p := c.params) (hread.1 ▸ hread)
    rw [checkRequest, herror] at hrequest
    cases hrequest

/-- A realm is claimed, and an empty container behind it: the container is never looked at. -/
theorem blank_argument_not_given_behind :
    let txid : Digest := ⟨List.replicate 29 0xff ++ [0x80, 0, 0], rfl⟩
    let args : Map := [("request_container", .text ""), ("request_realm", .text "abc"), ("bitworkc", .text "0000.7")]
    let op : Located := ⟨.nft, [("args", .map args)], [], 0, ⟨txid, 0⟩, ⟨txid, 0⟩, ⟨.fill 9, 0⟩⟩
    let tx : Transaction := ⟨.fill 9, [], [⟨546, []⟩]⟩
    "request_container" ∈ optionalKeys ∧ op.payload.get? "args" = some (.map args) ∧
      args.get? "request_container" = some (.text "") ∧ (Value.text "").isBlank = true ∧
      ¬ ReadAsEmptyName op.kind args "request_container" ∧
      ∃ record, judgeUnder {} op tx .empty = .ok (.ok record) ∧
        judgeUnder {} (op.withoutArg "request_container") tx .empty =
          .ok (.ok (record.withoutArg "request_container")) := by
  intro txid args op tx
  have hkey : "request_container" ∈ optionalKeys := by decide
  have hread : ¬ ReadAsEmptyName op.kind args "request_container" := by
    rintro ⟨-, name, hname, hsame, -, hbefore⟩
    obtain rfl : name = .container := by
      revert hsame
      cases name <;> decide
    exact absurd (hbefore .realm (by simp [namesBefore])) (by decide)
  have hargs : op.payload.get? "args" = some (.map args) := rfl
  have haccepted : judgeUnder {} op tx .empty = .ok (.ok _) := rfl
  refine ⟨hkey, hargs, rfl, rfl, hread, _, haccepted, ?_⟩
  exact ((blank_argument_not_given hkey hargs rfl rfl).1 hread _).2 ⟨_, haccepted, rfl⟩

/-- An empty realm refuses a mint that is accepted without it. -/
theorem empty_realm_refused :
    let op : Located :=
      ⟨.nft, [("args", .map [("request_realm", .text "")])], [], 0, ⟨.fill 7, 0⟩, ⟨.fill 7, 0⟩, ⟨.fill 9, 0⟩⟩
    let tx : Transaction := ⟨.fill 9, [], [⟨546, []⟩]⟩
    (Value.text "").isBlank = true ∧ judgeUnder {} op tx .empty = .ok (.error (.badName .realm "")) ∧
      ∃ record, judgeUnder {} (op.withoutArg "request_realm") tx .empty = .ok (.ok record) := by
  intro op tx
  exact ⟨rfl, rfl, _, rfl⟩

end Mint

end TokenOverlay
