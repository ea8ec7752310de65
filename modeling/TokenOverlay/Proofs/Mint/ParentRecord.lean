/-
What a mint records of the parents it lists. The list is keyed by texts and the record by tokens, so
two entries whose keys spell the same token end up in one, with the minimum that was listed last.
Nothing is lost exactly if the keys spell pairwise different tokens, as plain spellings do.
-/
import Mathlib.Data.List.Nodup
import TokenOverlay.Proofs.Assoc
import TokenOverlay.Proofs.Chain.Spelling
import TokenOverlay.Proofs.Mint.Parents

namespace TokenOverlay.Mint

open Payload (Map Value)

variable {p : Params} {args : Map} {spent : ByInput SpentToken} {listed : List (String × Value)}

/-- An entry lists a token with a minimum: its key reads as the token and its value as the number. -/
structure ListedAs (p : Params) (entry : String × Value) (found : TokenId × UInt64) : Prop where
  key : Outpoint.ofCompact p.maxOutputIndex entry.1 = .ok found.1
  minimum : entry.2.ReadsAs found.2.toNat

/-- A list gives a token its minimum in an entry after which no key spells that token. -/
def LastListed (p : Params) (listed : List (String × Value)) (found : TokenId × UInt64) : Prop :=
  ∃ before entry after, listed = before ++ entry :: after ∧ ListedAs p entry found ∧
    ∀ later ∈ after, Outpoint.ofCompact p.maxOutputIndex later.1 ≠ .ok found.1

/-- No two keys of a list spell the same token. -/
def SpelledApart (p : Params) (listed : List (String × Value)) : Prop :=
  (listed.map fun entry => Outpoint.ofCompact p.maxOutputIndex entry.1).Nodup

/-! ## From the list to the record -/

/-- The record is filled with one pair for each listed entry, in order. -/
theorem checkParentList_ok {found parents : Assoc TokenId UInt64} :
    checkParentList p spent found listed = .ok parents ↔
      ∃ pairs, List.Forall₂ (fun entry pair => checkParent p spent entry = .ok pair) listed pairs ∧
        parents = found.insertAll pairs := by
  induction listed generalizing found with
  | nil =>
    rw [checkParentList]
    constructor
    · intro h
      cases h
      exact ⟨[], .nil, rfl⟩
    · rintro ⟨pairs, hpairs, rfl⟩
      cases hpairs
      rfl
  | cons entry rest ih =>
    rw [checkParentList]
    cases hentry : checkParent p spent entry with
    | error refusal =>
      constructor
      · intro h
        cases h
      · rintro ⟨pairs, hpairs, -⟩
        cases hpairs with
        | cons hpair _ => rw [hentry] at hpair; cases hpair
    | ok pair =>
      obtain ⟨token, minimum⟩ := pair
      refine ih.trans ⟨?_, ?_⟩
      · rintro ⟨pairs, hpairs, rfl⟩
        exact ⟨(token, minimum) :: pairs, .cons hentry hpairs, rfl⟩
      · rintro ⟨pairs, hpairs, rfl⟩
        cases hpairs with
        | cons hpair hrest =>
          rw [hentry] at hpair
          cases hpair
          exact ⟨_, hrest, rfl⟩

theorem checkParents_some {parents : Assoc TokenId UInt64} (h : checkParents p args spent = .ok (some parents)) :
    ∃ listed pairs, args.get? "parents" = some (.map listed) ∧ List.Forall₂ (ListedAs p) listed pairs ∧
      parents = Assoc.insertAll [] pairs := by
  unfold checkParents at h
  split at h
  · cases h
  · rename_i v hv
    split at h
    · cases h
    · rename_i listed hmap
      split at h
      · cases h
      · obtain ⟨_, hlist, ⟨⟩⟩ := map_ok_iff.1 h
        obtain ⟨pairs, hpairs, rfl⟩ := checkParentList_ok.1 hlist
        obtain ⟨hget, -⟩ := given?_eq_some.1 hv
        refine ⟨listed, pairs, Value.asMap?_eq_some.1 hmap ▸ hget, hpairs.imp fun entry pair hpair => ?_, rfl⟩
        obtain ⟨hkey, hminimum, -⟩ := checkParent_ok.1 hpair
        exact ⟨hkey, Value.asWord?_eq_some.1 hminimum⟩

/-! ## Keys that spell one token -/

theorem map_ofCompact_of_listedAs {pairs : List (TokenId × UInt64)}
    (h : List.Forall₂ (ListedAs p) listed pairs) :
    (listed.map fun entry => Outpoint.ofCompact p.maxOutputIndex entry.1) = (Assoc.keys pairs).map .ok := by
  induction h with
  | nil => rfl
  | cons hpair _ ih => rw [List.map_cons, ih, hpair.key]; rfl

theorem spelledApart_iff {pairs : List (TokenId × UInt64)} (h : List.Forall₂ (ListedAs p) listed pairs) :
    SpelledApart p listed ↔ (Assoc.keys pairs).Nodup := by
  rw [SpelledApart, map_ofCompact_of_listedAs h]
  exact List.nodup_map_iff fun _ _ => Except.ok.inj

theorem exists_token_of_mem {pairs : List (TokenId × UInt64)} (h : List.Forall₂ (ListedAs p) listed pairs) :
    ∀ entry ∈ listed, ∃ token, Outpoint.ofCompact p.maxOutputIndex entry.1 = .ok token := by
  induction h with
  | nil => exact List.forall_mem_nil _
  | cons hpair _ ih => exact List.forall_mem_cons.2 ⟨⟨_, hpair.key⟩, ih⟩

/-- Different plain spellings are read as different tokens. -/
theorem spelledApart_of_plain {pairs : List (TokenId × UInt64)} (h : List.Forall₂ (ListedAs p) listed pairs)
    (hplain : ∀ entry ∈ listed, Outpoint.IsPlain entry.1) (hkeys : (listed.map Prod.fst).Nodup) :
    SpelledApart p listed := by
  have hinj : ∀ s ∈ listed.map Prod.fst, ∀ t ∈ listed.map Prod.fst,
      Outpoint.ofCompact p.maxOutputIndex s = Outpoint.ofCompact p.maxOutputIndex t → s = t := by
    intro s hs t ht heq
    obtain ⟨one, hone, rfl⟩ := List.mem_map.1 hs
    obtain ⟨two, htwo, rfl⟩ := List.mem_map.1 ht
    obtain ⟨token, htoken⟩ := exists_token_of_mem h one hone
    obtain ⟨hs, -⟩ := Outpoint.ofCompact_ok.1 htoken
    obtain ⟨ht, -⟩ := Outpoint.ofCompact_ok.1 (heq ▸ htoken)
    exact hs.isPlain_unique ht (hplain one hone) (hplain two htwo)
  have := List.Nodup.map_on hinj hkeys
  rwa [List.map_map] at this

/-! ## Entries listed last -/

theorem ListedAs.unique {entry : String × Value} {one two : TokenId × UInt64} (h : ListedAs p entry one)
    (h' : ListedAs p entry two) : one = two := by
  have hkey : one.1 = two.1 := Except.ok.inj (h.key.symm.trans h'.key)
  have hminimum : one.2 = two.2 :=
    Option.some.inj ((Value.asWord?_eq_some.2 h.minimum).symm.trans (Value.asWord?_eq_some.2 h'.minimum))
  exact Prod.ext hkey hminimum

theorem lastListed_cons {entry : String × Value} {found : TokenId × UInt64} :
    LastListed p (entry :: listed) found ↔ (ListedAs p entry found ∧
      ∀ later ∈ listed, Outpoint.ofCompact p.maxOutputIndex later.1 ≠ .ok found.1) ∨
      LastListed p listed found := by
  constructor
  · rintro ⟨before, entry', after, heq, hentry, hlast⟩
    cases before with
    | nil =>
      obtain ⟨rfl, rfl⟩ := List.cons.inj heq
      exact .inl ⟨hentry, hlast⟩
    | cons first before =>
      obtain ⟨-, rfl⟩ := List.cons.inj heq
      exact .inr ⟨before, entry', after, rfl, hentry, hlast⟩
  · rintro (⟨hentry, hlast⟩ | ⟨before, entry', after, rfl, hentry, hlast⟩)
    · exact ⟨[], entry, listed, rfl, hentry, hlast⟩
    · exact ⟨entry :: before, entry', after, rfl, hentry, hlast⟩

theorem isLast_iff_lastListed {pairs : List (TokenId × UInt64)} (h : List.Forall₂ (ListedAs p) listed pairs)
    {found : TokenId × UInt64} : Assoc.IsLast found pairs ↔ LastListed p listed found := by
  induction h with
  | nil =>
    constructor
    · rintro ⟨before, after, heq, -⟩
      simp at heq
    · rintro ⟨before, entry, after, heq, -⟩
      simp at heq
  | @cons entry pair listed pairs hpair hrest ih =>
    -- the first pair is the last one of its token just if the first entry is
    have hsame : pair = found ↔ ListedAs p entry found :=
      ⟨fun heq => heq ▸ hpair, fun hfound => hpair.unique hfound⟩
    have hlast : found.1 ∉ Assoc.keys pairs ↔
        ∀ later ∈ listed, Outpoint.ofCompact p.maxOutputIndex later.1 ≠ .ok found.1 := by
      rw [← List.mem_map_of_injective (fun _ _ => Except.ok.inj), ← map_ofCompact_of_listedAs hrest]
      simp
    rw [Assoc.isLast_cons, lastListed_cons, hsame, hlast, ih]

/-! ## The record -/

/-- What is recorded of the parents that a mint lists. Each token that a key spells has the minimum that
was listed last under a spelling of it. There is one entry for each listed key exactly if no two keys
spell the same token, and then the entries come in the order of the keys, each with the token that its
key spells and the minimum that is listed under it. Keys that differ and are plain spellings never
spell the same token. -/
theorem parents_recorded_apart {parents : Assoc TokenId UInt64}
    (h : checkParents p args spent = .ok (some parents)) :
    ∃ listed, args.get? "parents" = some (.map listed) ∧
      (∀ found, found ∈ parents ↔ LastListed p listed found) ∧ parents.keys.Nodup ∧
      (parents.length = listed.length ↔ SpelledApart p listed) ∧
      (SpelledApart p listed → List.Forall₂ (ListedAs p) listed parents) ∧
      ((∀ entry ∈ listed, Outpoint.IsPlain entry.1) → (listed.map Prod.fst).Nodup → SpelledApart p listed) := by
  obtain ⟨listed, pairs, hget, hpairs, rfl⟩ := checkParents_some h
  refine ⟨listed, hget, fun found => ?_, Assoc.nodup_keys_insertAll (m := []) List.nodup_nil pairs, ?_,
    fun hapart => ?_, spelledApart_of_plain hpairs⟩
  · rw [Assoc.mem_insertAll_nil_iff, isLast_iff_lastListed hpairs]
  · rw [hpairs.length_eq, Assoc.length_insertAll_iff, spelledApart_iff hpairs]
  · rw [Assoc.insertAll_of_nodup (m := []) ((spelledApart_iff hpairs).1 hapart), List.nil_append]
    exact hpairs

/-- Two tokens listed under plain spellings: the record has both, in the order of the list. -/
theorem parents_recorded_apart_pair :
    let one : TokenId := ⟨.fill 8, 3⟩
    let two : TokenId := ⟨.fill 9, 0⟩
    let spent : ByInput SpentToken := ⟨[(0, [⟨two, 7⟩]), (2, [⟨one, 1000⟩])], by decide⟩
    let args : Map := [("parents", .map [(one.compact, .int 1000), (two.compact, .bool true)])]
    let parents : Assoc TokenId UInt64 := [(one, 1000), (two, 1)]
    checkParents .mainnet args spent = .ok (some parents) ∧
      ∃ listed, args.get? "parents" = some (.map listed) ∧ SpelledApart .mainnet listed ∧
        List.Forall₂ (ListedAs .mainnet) listed parents := by
  intro one two spent args parents
  have h : checkParents .mainnet args spent = .ok (some parents) := by decide +kernel
  obtain ⟨listed, hget, -, -, -, hinOrder, hplain⟩ := parents_recorded_apart h
  cases hget
  have hapart : SpelledApart .mainnet _ :=
    hplain (by simp [Outpoint.isPlain_compact]) (by decide +kernel)
  exact ⟨h, _, rfl, hapart, hinOrder hapart⟩

/-- A token listed under two spellings of it, with a minimum of 1000 and then of 1: the record has one
entry, and the first minimum is not in it. -/
theorem parents_listed_twice :
    let parent : TokenId := ⟨.fill 0xab, 7⟩
    let upper : String := String.ofList ((List.replicate 32 ['A', 'B']).flatten ++ ['i', '7'])
    let spent : ByInput SpentToken := ⟨[(0, [⟨parent, 1000⟩])], by decide⟩
    let listed : Map := [(parent.compact, .int 1000), (upper, .int 1)]
    let parents : Assoc TokenId UInt64 := [(parent, 1)]
    listed.keys.Nodup ∧ checkParents .mainnet [("parents", .map listed)] spent = .ok (some parents) ∧
      parents.length ≠ listed.length ∧ ¬ ∀ entry ∈ listed, ∃ found ∈ parents, ListedAs .mainnet entry found := by
  intro parent upper spent listed parents
  refine ⟨by decide +kernel, by decide +kernel, by decide, fun h => ?_⟩
  obtain ⟨found, hfound, -, hminimum⟩ := h _ List.mem_cons_self
  obtain rfl := List.mem_singleton.1 hfound
  obtain hreads | ⟨b, hreads, -⟩ := hminimum
  · cases hreads
  · cases hreads

end TokenOverlay.Mint
