/-
The record of an accepted mint agrees with itself, with the arguments of the mint and with the operation. The
gates read the arguments with different notions of what is there: a value that is not blank, a text, an integer.
One after the other they still leave no record in which a name, a work requirement or a term of a deployment has
another source than the argument it stands for.
-/
import TokenOverlay.Proofs.Chain.Compact
import TokenOverlay.Proofs.Mint.Fields
import TokenOverlay.Proofs.Payload.Value

namespace TokenOverlay

open Payload (Map Value)

theorem Bitwork.text_of_ofText {s : String} {w : Bitwork} (h : ofText s = .ok w) : w.text = s := by
  unfold ofText at h
  dsimp only at h
  repeat' split at h
  all_goals cases h
  all_goals rfl

namespace Mint

variable {c : Config} {p : Params} {op : Located} {tx : Transaction} {spent : ByInput SpentToken} {args : Map}
  {key argument name : String} {kept? : Option Bitwork} {record : Record}

/-! ## Work -/

/-- A value that is not blank stands under a key. -/
def IsGiven (args : Map) (key : String) : Prop :=
  ∃ v, args.get? key = some v ∧ v.isBlank = false

theorem isGiven_iff : IsGiven args key ↔ (given? args key).isSome = true := by
  rw [Option.isSome_iff_exists]
  exact exists_congr fun v => given?_eq_some.symm

/-- What is kept of a work requirement is what an argument says: there is one exactly if the argument is given,
and its text is that argument. -/
structure WorkRead (args : Map) (argument : String) (kept? : Option Bitwork) : Prop where
  isSome_iff : kept?.isSome = true ↔ IsGiven args argument
  text : ∀ w, kept? = some w → args.get? argument = some (.text w.text)

theorem optionalWork_none : optionalWork args argument = .ok none ↔ given? args argument = none := by
  unfold optionalWork
  cases given? args argument with
  | none => simp
  | some v => simp [map_ok_iff]

theorem optionalWork_read (h : optionalWork args argument = .ok kept?) : WorkRead args argument kept? := by
  cases kept? with
  | none =>
    have hnone := optionalWork_none.1 h
    refine ⟨?_, fun w hw => by cases hw⟩
    rw [isGiven_iff, hnone]
    rfl
  | some w =>
    obtain ⟨s, hgiven, hs⟩ := optionalWork_some.1 h
    have hget := (given?_eq_some.1 hgiven).1
    refine ⟨?_, fun w' hw' => ?_⟩
    · rw [isGiven_iff, hgiven]
      rfl
    · cases hw'
      rw [hget, Bitwork.text_of_ofText hs]

/-- Looking at whether work was done does not change what is kept of the requirement. -/
theorem optionalWork_of_workDone {txid : Digest} (h : workDone args argument txid = .ok kept?) :
    optionalWork args argument = .ok kept? := by
  unfold workDone at h
  split at h
  · rename_i w hw
    split at h
    · cases h
      exact hw
    · cases h
  · exact h

/-- Work that a mint asks of a transaction: what is kept is what the argument says, and it was done. -/
structure WorkKept (args : Map) (argument : String) (txid : Digest) (kept? : Option Bitwork) : Prop
    extends WorkRead args argument kept? where
  meets : ∀ w, kept? = some w → w.Meets txid.digits

theorem workDone_kept {txid : Digest} (h : workDone args argument txid = .ok kept?) :
    WorkKept args argument txid kept? := by
  refine ⟨optionalWork_read (optionalWork_of_workDone h), fun w hw => ?_⟩
  subst hw
  exact (workDone_some.1 h).2

/-! ## Names -/

/-- No two of the names that are asked for are of different kinds. -/
theorem eq_of_checkRequestCount {named? : Option NameKind} (h : checkRequestCount args = .ok named?)
    {one two : NameKind} (hone : IsGiven args one.requestKey) (htwo : IsGiven args two.requestKey) : one = two := by
  have hle : (requestedKinds args).length ≤ 1 := by
    simp only [checkRequestCount] at h
    split at h
    · cases h
    · rename_i hle
      exact Nat.le_of_not_lt hle
  rw [isGiven_iff, ← mem_requestedKinds] at hone htwo
  obtain ⟨kind, honly⟩ := List.length_eq_one_iff.1 (Nat.le_antisymm hle (List.length_pos_of_mem hone))
  rw [honly, List.mem_singleton] at hone htwo
  rw [hone, htwo]

/-- A granted name is what the arguments ask for: the key of its kind is the only one that is given, the text
under it is the name, and the grammar of the kind accepts it. -/
structure Request.Agrees (request : Request) (args : Map) : Prop where
  given_iff : ∀ kind : NameKind, IsGiven args kind.requestKey ↔ kind = request.kind
  text : args.get? request.kind.requestKey = some (.text request.name)
  accepted : request.kind.accepts request.name = true

theorem Request.NamedBy.agrees {request : Request} {named? : Option NameKind} (h : request.NamedBy args)
    (hcount : checkRequestCount args = .ok named?) : request.Agrees args := by
  have hgiven : IsGiven args request.kind.requestKey := isGiven_iff.2 (Mint.mem_requestedKinds.1 h.mem_requestedKinds)
  refine ⟨fun kind => ⟨fun hkind => eq_of_checkRequestCount hcount hkind hgiven, ?_⟩, ?_, h.accepted⟩
  · rintro rfl
    exact hgiven
  · exact textArg?_eq_some.1 h.text

theorem ClaimKind.text_of_ofText? {s : String} {claim : ClaimKind} (h : ofText? s = some claim) : claim.text = s := by
  unfold ofText? at h
  simpa using List.find?_some h

/-- A subrealm is claimed under a parent and in a way that the arguments say. -/
structure SubrealmRead (p : Params) (args : Map) (parent : TokenId) (claim : ClaimKind) : Prop where
  spelled : ∃ s, args.get? "parent_realm" = some (.text s) ∧ parent.SpelledBy s
  index_le : parent.index ≤ p.maxOutputIndex
  claim : args.get? "claim_type" = some (.text claim.text)

theorem subrealmRequest_read {request : Request} (h : subrealmRequest p args name = .ok request) :
    ∃ parent claim, request = .subrealm name parent claim ∧ SubrealmRead p args parent claim := by
  unfold subrealmRequest at h
  split at h
  · cases h
  · rename_i claim hclaim
    split at h
    · rename_i parent hparent
      cases h
      obtain ⟨s, hs, hread⟩ := Option.bind_eq_some_iff.1 hclaim
      obtain ⟨t, ht, hcompact⟩ := Option.map_eq_some_iff.1 hparent
      obtain ⟨hspelled, hle⟩ := Outpoint.ofCompact_ok.1 hcompact
      refine ⟨parent, claim, rfl, ⟨t, textArg?_eq_some.1 ht, hspelled⟩, hle, ?_⟩
      rw [ClaimKind.text_of_ofText? hread]
      exact textArg?_eq_some.1 hs
    · cases h

/-- A non-fungible token asks for a realm, a container or a subrealm, if for anything. -/
theorem nftRequest_ok {request : Request} (h : nftRequest p args = .ok (some request)) :
    (∃ name, request = .realm name) ∨ (∃ name, request = .container name) ∨
      ∃ name parent claim, request = .subrealm name parent claim ∧ SubrealmRead p args parent claim := by
  unfold nftRequest at h
  split at h
  · split at h <;> cases h
    exact .inl ⟨_, rfl⟩
  · split at h
    · obtain ⟨request', hrequest, heq⟩ := map_ok_iff.1 h
      cases heq
      exact .inr (.inr ⟨_, subrealmRequest_read hrequest⟩)
    · cases h
  · split at h <;> cases h
    exact .inr (.inl ⟨_, rfl⟩)
  · cases h

theorem tickerRequest_ok {request : Request} (h : tickerRequest args = .ok request) :
    ∃ name, request = .ticker name := by
  unfold tickerRequest at h
  split at h
  · cases h
  · split at h
    · cases h
      exact ⟨_, rfl⟩
    · cases h

/-! ## Terms -/

/-- A term of a deployment: the integer that an argument reads as, within its bounds. -/
structure TermRead (args : Map) (key : String) (b : Bounds) (n : UInt64) : Prop where
  reads : ∃ v, args.get? key = some v ∧ v.ReadsAs n.toNat
  low_le : b.low ≤ n
  le_high : n ≤ b.high

theorem boundedArg_ok {b : Bounds} {n : UInt64} (h : boundedArg args key b = .ok n) : TermRead args key b n := by
  unfold boundedArg at h
  split at h
  · rename_i n' hn
    cases h
    obtain ⟨hread, hbounds⟩ := Option.filter_eq_some_iff.1 hn
    obtain ⟨v, hv, hword⟩ := Option.bind_eq_some_iff.1 hread
    simp only [Bounds.contains, Bool.and_eq_true, decide_eq_true_eq] at hbounds
    exact ⟨⟨v, hv, Value.asWord?_eq_some.1 hword⟩, hbounds.1, hbounds.2⟩
  · cases h

/-- The terms of a deployment are those that the arguments say. -/
structure Deployment.Agrees (p : Params) (args : Map) (d : Deployment) : Prop where
  height : TermRead args "mint_height" p.deployHeight d.height
  amount : TermRead args "mint_amount" p.deployAmount d.amount
  claims : TermRead args "max_mints" p.deployClaims d.claims
  commitWork : WorkRead args "mint_bitworkc" d.commitWork?
  revealWork : WorkRead args "mint_bitworkr" d.revealWork?

theorem checkDeployment_ok {d : Deployment} (h : checkDeployment p args = .ok d) : d.Agrees p args := by
  simp only [checkDeployment, bind_ok_iff] at h
  obtain ⟨height, hheight, amount, hamount, claims, hclaims, commitWork?, hcommit, revealWork?, hreveal, heq⟩ := h
  cases heq
  exact ⟨boundedArg_ok hheight, boundedArg_ok hamount, boundedArg_ok hclaims, optionalWork_read hcommit,
    optionalWork_read hreveal⟩

/-! ## Records -/

/-- A record has the parts that the kind of its operation gives it, and no others. -/
def Record.Fits (p : Params) (record : Record) : OpKind → Prop
  | .nft => record.fungibility = .unique ∧ record.issue? = none ∧ record.deployment? = none ∧
      ∀ name, record.request? ≠ some (.ticker name)
  | .ft => record.fungibility = .fungible ∧ record.issue? = some .direct ∧ record.deployment? = none ∧
      ∃ name, record.request? = some (.ticker name)
  | .dft => record.fungibility = .fungible ∧ record.issue? = some .decentralized ∧
      (∃ d, record.deployment? = some d ∧ d.Agrees p record.fields.args) ∧
      ∃ name, record.request? = some (.ticker name)
  | _ => False

theorem checkPlace_ok {created : Fungibility × Option Issue} (h : checkPlace op = .ok created) :
    creates? op.kind = some created := by
  unfold checkPlace at h
  split at h
  · cases h
  · rename_i created' hcreated
    split at h
    · cases h
    · cases h
      exact hcreated

/-- What each kind of mint asks for and comes with. -/
theorem checkRequest_ok {kind : OpKind} {request? : Option Request} {deployment? : Option Deployment}
    (h : checkRequest p kind args = .ok (request?, deployment?)) :
    (kind = .nft ∧ nftRequest p args = .ok request? ∧ deployment? = none) ∨
    (kind = .ft ∧ (∃ name, request? = some (.ticker name)) ∧ deployment? = none) ∨
    (kind = .dft ∧ (∃ name, request? = some (.ticker name)) ∧ ∃ d, deployment? = some d ∧ d.Agrees p args) := by
  unfold checkRequest at h
  split at h
  · obtain ⟨found?, hnft, heq⟩ := map_ok_iff.1 h
    cases heq
    exact .inl ⟨rfl, hnft, rfl⟩
  · obtain ⟨request, hticker, heq⟩ := map_ok_iff.1 h
    cases heq
    obtain ⟨name, rfl⟩ := tickerRequest_ok hticker
    exact .inr (.inl ⟨rfl, ⟨name, rfl⟩, rfl⟩)
  · obtain ⟨request, hticker, hrest⟩ := bind_ok_iff.1 h
    obtain ⟨d, hdeployment, heq⟩ := bind_ok_iff.1 hrest
    cases heq
    obtain ⟨name, rfl⟩ := tickerRequest_ok hticker
    exact .inr (.inr ⟨rfl, ⟨name, rfl⟩, d, rfl, checkDeployment_ok hdeployment⟩)
  · cases h

theorem Passes.fits (h : Passes p op tx spent record) : record.Fits p op.kind := by
  have hplace := checkPlace_ok h.place
  rcases checkRequest_ok h.request with ⟨hkind, hnft, hnone⟩ | ⟨hkind, hticker, hnone⟩ | ⟨hkind, hticker, hterms⟩
  · rw [hkind] at hplace ⊢
    obtain ⟨hfungibility, hissue⟩ := Prod.mk.inj (Option.some.inj hplace)
    refine ⟨hfungibility.symm, hissue.symm, hnone, fun name hname => ?_⟩
    rcases nftRequest_ok (hname ▸ hnft) with ⟨_, heq⟩ | ⟨_, heq⟩ | ⟨_, _, _, heq, -⟩ <;> cases heq
  · rw [hkind] at hplace ⊢
    obtain ⟨hfungibility, hissue⟩ := Prod.mk.inj (Option.some.inj hplace)
    exact ⟨hfungibility.symm, hissue.symm, hnone, hticker⟩
  · rw [hkind] at hplace ⊢
    obtain ⟨hfungibility, hissue⟩ := Prod.mk.inj (Option.some.inj hplace)
    exact ⟨hfungibility.symm, hissue.symm, hterms, hticker⟩

theorem Passes.subrealm (h : Passes p op tx spent record) {parent : TokenId} {claim : ClaimKind}
    (hr : record.request? = some (.subrealm name parent claim)) : SubrealmRead p record.fields.args parent claim := by
  rcases checkRequest_ok h.request with ⟨-, hnft, -⟩ | ⟨-, ⟨ticker, hticker⟩, -⟩ | ⟨-, ⟨ticker, hticker⟩, -⟩
  · rcases nftRequest_ok (hr ▸ hnft) with ⟨_, heq⟩ | ⟨_, heq⟩ | ⟨_, _, _, heq, hread⟩ <;> cases heq
    exact hread
  -- a fungible token asks for a ticker
  all_goals
    rw [hr] at hticker
    cases hticker

theorem firstOutput_ok {o : Output} (h : firstOutput tx = .ok o) : tx.outputs.head? = some o := by
  unfold firstOutput at h
  split at h
  · cases h
  · rename_i o' rest houtputs
    cases h
    rw [houtputs, List.head?_cons]

/-- A record agrees with itself and with what it was made of. -/
structure Record.Coherent (p : Params) (op : Located) (tx : Transaction) (record : Record) : Prop where
  fields : ∀ e ∈ record.fields.named, HasMap op.payload e.1 e.2
  one_name : ∀ one two : NameKind, IsGiven record.fields.args one.requestKey →
    IsGiven record.fields.args two.requestKey → one = two
  name : ∀ request, record.request? = some request → request.Agrees record.fields.args
  fits : record.Fits p op.kind
  subrealm : ∀ name parent claim, record.request? = some (.subrealm name parent claim) →
    SubrealmRead p record.fields.args parent claim
  commitWork : WorkKept record.fields.args "bitworkc" op.commit.txid record.work.commit?
  revealWork : WorkKept record.fields.args "bitworkr" op.reveal.txid record.work.reveal?
  token : record.token = op.commit
  commitLocation : record.commitLocation = op.commitLocation
  reveal : record.reveal = op.reveal
  output : tx.outputs.head? = some record.output

/-- The record of an accepted mint is coherent. At most one name is asked for, and a name that is granted is
that one. A non-fungible token has neither an issue nor terms and never a ticker, a fungible one has a ticker,
and terms exactly if it is deployed; the terms are the integers of the arguments, within their bounds. A subrealm
comes with a parent within the bound and a way to claim it. Work is kept exactly if it was asked for, and then it
was done. The outpoints are those of the operation. -/
theorem accepted_mint_coherent (h : judgeUnder c op tx spent = .ok (.ok record)) :
    record.Coherent c.params op tx := by
  have hpasses := judgeUnder_ok h
  obtain ⟨named?, hcount, -⟩ := hpasses.nameWork
  obtain ⟨hcommit, hreveal⟩ := checkWork_ok.1 hpasses.work
  exact {
    fields := Fields.ofPayload_ok.1 hpasses.fields
    one_name := fun _ _ => eq_of_checkRequestCount hcount
    name := fun request hr => (checkRequest_named (hr ▸ hpasses.request)).agrees hcount
    fits := hpasses.fits
    subrealm := fun _ _ _ => hpasses.subrealm
    commitWork := workDone_kept hcommit
    revealWork := workDone_kept hreveal
    token := hpasses.token
    commitLocation := hpasses.commitLocation
    reveal := hpasses.reveal
    output := firstOutput_ok hpasses.output }

/-- A deployment that opens at a truth value, with one name blank and one given. -/
theorem accepted_mint_coherent_deployed :
    let txid : Digest := ⟨List.replicate 29 0xff ++ [0x80, 0, 0], rfl⟩
    let args : Map := [("request_realm", .int 0), ("request_ticker", .text "pepe"), ("bitworkc", .text "0000.7"),
      ("mint_height", .bool true), ("mint_amount", .int 546), ("max_mints", .int 100000), ("mint_bitworkr", .text "ab")]
    let op : Located := ⟨.dft, [("args", .map args)], [], 0, ⟨txid, 0⟩, ⟨txid, 0⟩, ⟨.fill 9, 0⟩⟩
    let tx : Transaction := ⟨.fill 9, [], [⟨546, []⟩]⟩
    ∃ record, judgeUnder {} op tx .empty = .ok (.ok record) ∧ record.request? = some (.ticker "pepe") ∧
      record.deployment? = some ⟨1, 546, 100000, none, some ⟨"ab", "ab", none⟩⟩ ∧
      record.Coherent .mainnet op tx := by
  intro txid args op tx
  have haccepted : judgeUnder {} op tx .empty = .ok (.ok _) := rfl
  exact ⟨_, haccepted, rfl, rfl, accepted_mint_coherent haccepted⟩

end Mint

end TokenOverlay
