/-
What it means to pass the gates of a mint. A name is read from the arguments twice: the count of
names asks which keys are given, the request takes only texts that the grammar of their kind
accepts. No grammar accepts the empty text, so a name that is granted has been counted.
-/
import TokenOverlay.Mint.Gate
import TokenOverlay.Proofs.Bitwork
import TokenOverlay.Proofs.Except

namespace TokenOverlay

theorem NameKind.ne_empty_of_accepts {kind : NameKind} {s : String} (h : kind.accepts s = true) :
    s ≠ "" := by
  rintro rfl
  cases kind <;> revert h <;> decide

namespace Mint

open Payload (Map Value)

/-! ## Arguments -/

theorem given?_eq_some {args : Map} {key : String} {v : Value} :
    given? args key = some v ↔ args.get? key = some v ∧ v.isBlank = false := by
  rw [given?, Option.filter_eq_some_iff, Bool.not_eq_true']

theorem textArg?_eq_some {args : Map} {key s : String} :
    textArg? args key = some s ↔ args.get? key = some (.text s) := by
  rw [textArg?, Option.bind_eq_some_iff]
  constructor
  · rintro ⟨v, hv, hs⟩
    cases v <;> cases hs
    exact hv
  · intro h
    exact ⟨_, h, rfl⟩

/-- A text counts as given unless it is empty. -/
theorem given?_of_textArg? {args : Map} {key s : String} (h : textArg? args key = some s) (hs : s ≠ "") :
    given? args key = some (.text s) := by
  refine given?_eq_some.2 ⟨textArg?_eq_some.1 h, ?_⟩
  rw [Value.isBlank, Bool.eq_false_iff, ne_eq, String.isEmpty_iff]
  exact hs

/-! ## Work -/

theorem readWork_ok {argument : String} {v : Value} {w : Bitwork} :
    readWork argument v = .ok w ↔ ∃ s, v = .text s ∧ Bitwork.ofText s = .ok w := by
  constructor
  · intro h
    unfold readWork at h
    split at h
    · cases h
    · rename_i s hs
      split at h
      · rename_i w' hw
        cases h
        cases v <;> cases hs
        exact ⟨s, rfl, hw⟩
      · cases h
  · rintro ⟨s, rfl, hw⟩
    simp only [readWork, Value.asText?, hw]

theorem optionalWork_some {args : Map} {argument : String} {w : Bitwork} :
    optionalWork args argument = .ok (some w) ↔
      ∃ s, given? args argument = some (.text s) ∧ Bitwork.ofText s = .ok w := by
  unfold optionalWork
  cases hv : given? args argument with
  | none => simp
  | some v => simp [map_ok_iff, readWork_ok]

/-- A work requirement that is kept was given as a text and has been met. -/
theorem workDone_some {args : Map} {argument : String} {txid : Digest} {w : Bitwork} :
    workDone args argument txid = .ok (some w) ↔
      (∃ s, given? args argument = some (.text s) ∧ Bitwork.ofText s = .ok w) ∧ w.Meets txid.digits := by
  rw [← optionalWork_some, ← Bitwork.isMetBy_iff]
  unfold workDone
  split
  · rename_i w' hw'
    rw [hw']
    split
    · rename_i hmet
      constructor
      · intro h
        cases h
        exact ⟨rfl, hmet⟩
      · rintro ⟨h, -⟩
        exact h
    · rename_i hmet
      constructor
      · intro h
        cases h
      · rintro ⟨h, hw⟩
        cases h
        exact absurd hw hmet
  · rename_i hother
    constructor
    · intro h
      exact absurd h (hother w)
    · rintro ⟨h, -⟩
      exact h

theorem checkWork_ok {op : Located} {args : Map} {work : Work} :
    checkWork op args = .ok work ↔
      workDone args "bitworkc" op.commit.txid = .ok work.commit? ∧
      workDone args "bitworkr" op.reveal.txid = .ok work.reveal? := by
  unfold checkWork
  simp only [bind_ok_iff]
  constructor
  · rintro ⟨commit?, hc, reveal?, hr, h⟩
    cases h
    exact ⟨hc, hr⟩
  · rintro ⟨hc, hr⟩
    exact ⟨_, hc, _, hr, rfl⟩

/-! ## The count of names -/

theorem mem_requestedKinds {args : Map} {kind : NameKind} :
    kind ∈ requestedKinds args ↔ (given? args kind.requestKey).isSome = true := by
  rw [requestedKinds, List.mem_filter, and_iff_right]
  cases kind <;> decide

/-- A name that is asked for and needs work is the one that the count reports. -/
theorem checkRequestCount_named {args : Map} {kind : NameKind} {named? : Option NameKind}
    (h : checkRequestCount args = .ok named?) (hk : kind ∈ requestedKinds args)
    (hw : kind.needsWork = true) : named? = some kind := by
  simp only [checkRequestCount] at h
  split at h
  · cases h
  · rename_i hone
    cases h
    -- one kind at least is asked for, and more than one would have been refused
    have hlen : (requestedKinds args).length = 1 :=
      Nat.le_antisymm (Nat.le_of_not_lt hone) (List.length_pos_of_mem hk)
    obtain ⟨k, honly⟩ := List.length_eq_one_iff.1 hlen
    rw [honly, List.mem_singleton] at hk
    subst hk
    rw [honly, List.find?_singleton, if_pos hw]

theorem checkNameWork_some {p : Params} {kind : NameKind} {work : Work} :
    checkNameWork p (some kind) work = .ok () ↔
      ∃ w, work.commit? = some w ∧ p.minNameWork.toNat ≤ w.stem.length := by
  unfold checkNameWork
  cases work.commit? with
  | none => simp
  | some w => simp

/-! ## The name of a mint -/

/-- The arguments name what a request asks for: under the key of its kind stands its name, which the
grammar of the kind accepts. -/
structure Request.NamedBy (r : Request) (args : Map) : Prop where
  text : textArg? args r.kind.requestKey = some r.name
  accepted : r.kind.accepts r.name = true

/-- A name that the arguments give counts as asked for. -/
theorem Request.NamedBy.mem_requestedKinds {r : Request} {args : Map} (h : r.NamedBy args) :
    r.kind ∈ requestedKinds args := by
  rw [Mint.mem_requestedKinds, given?_of_textArg? h.text (NameKind.ne_empty_of_accepts h.accepted)]
  rfl

theorem subrealmRequest_ok {p : Params} {args : Map} {name : String} {r : Request}
    (h : subrealmRequest p args name = .ok r) : ∃ parent claim, r = .subrealm name parent claim := by
  unfold subrealmRequest at h
  split at h
  · cases h
  · split at h
    · cases h
      exact ⟨_, _, rfl⟩
    · cases h

theorem nftRequest_named {p : Params} {args : Map} {r : Request}
    (h : nftRequest p args = .ok (some r)) : r.NamedBy args := by
  unfold nftRequest at h
  split at h
  · rename_i name hname
    split at h
    · rename_i haccepts
      cases h
      exact ⟨hname, haccepts⟩
    · cases h
  · rename_i name _ hname
    split at h
    · rename_i haccepts
      obtain ⟨r', hr', hsome⟩ := map_ok_iff.1 h
      cases hsome
      obtain ⟨parent, claim, rfl⟩ := subrealmRequest_ok hr'
      exact ⟨hname, haccepts⟩
    · cases h
  · rename_i name _ _ hname
    split at h
    · rename_i haccepts
      cases h
      exact ⟨hname, haccepts⟩
    · cases h
  · cases h

theorem tickerRequest_named {args : Map} {r : Request} (h : tickerRequest args = .ok r) :
    r.NamedBy args := by
  unfold tickerRequest at h
  split at h
  · cases h
  · rename_i name hname
    split at h
    · rename_i haccepts
      cases h
      exact ⟨hname, haccepts⟩
    · cases h

/-- Whatever a mint of any kind is granted, the arguments name it. -/
theorem checkRequest_named {p : Params} {kind : OpKind} {args : Map} {r : Request}
    {deployment? : Option Deployment} (h : checkRequest p kind args = .ok (some r, deployment?)) :
    r.NamedBy args := by
  unfold checkRequest at h
  split at h
  · obtain ⟨r?, hr, hpair⟩ := map_ok_iff.1 h
    cases hpair
    exact nftRequest_named hr
  · obtain ⟨r', hr, hpair⟩ := map_ok_iff.1 h
    cases hpair
    exact tickerRequest_named hr
  · obtain ⟨r', hr, h⟩ := bind_ok_iff.1 h
    obtain ⟨deployment, -, hpair⟩ := bind_ok_iff.1 h
    cases hpair
    exact tickerRequest_named hr
  · cases h

end Mint

end TokenOverlay
