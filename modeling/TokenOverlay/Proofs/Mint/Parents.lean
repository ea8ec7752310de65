/-
When a mint passes the gate of its parents. Every listed parent must be spent with at least the listed
value, and the value it is spent with is an exact total over all inputs. So the gate sees of the spent
tokens only which ones there are and the total of each: how a total is spread does not matter, and
nothing that is spent besides can do harm.
-/
import TokenOverlay.Proofs.Chain.Compact
import TokenOverlay.Proofs.Mint.Gate
import TokenOverlay.Proofs.Payload.Value
import TokenOverlay.Proofs.Sums

namespace TokenOverlay

open Payload (Map Value)

/-! ## Spent tokens -/

namespace ByInput

variable {spent other : ByInput SpentToken} {token : TokenId}

/-- A token is among those spent. -/
def Spends (spent : ByInput SpentToken) (token : TokenId) : Prop :=
  ∃ s ∈ spent.entries, s.token = token

theorem inputsOf_isEmpty : (spent.inputsOf token).isEmpty = false ↔ spent.Spends token := by
  simp only [inputsOf, Spends, entries, List.isEmpty_eq_false_iff, ne_eq, List.map_eq_nil_iff,
    List.filter_eq_nil_iff, List.any_eq_true, decide_eq_true_eq, List.mem_flatMap]
  push Not
  constructor
  · rintro ⟨row, hrow, s, hs, htoken⟩
    exact ⟨s, ⟨row, hrow, hs⟩, htoken⟩
  · rintro ⟨s, ⟨row, hrow, hs⟩, htoken⟩
    exact ⟨row, hrow, s, hs, htoken⟩

theorem Spends.rows_ne_nil (h : spent.Spends token) : spent.rows ≠ [] := by
  obtain ⟨s, hs, -⟩ := h
  obtain ⟨row, hrow, -⟩ := List.mem_flatMap.1 hs
  exact List.ne_nil_of_mem hrow

theorem total_eq_exactSum (spent : ByInput SpentToken) (token : TokenId) :
    spent.total token =
      Coloring.exactSum ((spent.entries.filter fun s => s.token = token).map SpentToken.value) := by
  rw [total, Coloring.exactSum, List.foldr_map, List.foldr_map]

theorem Spends.of_subperm (h : spent.entries.Subperm other.entries) (hs : spent.Spends token) :
    other.Spends token := by
  obtain ⟨s, hs, htoken⟩ := hs
  exact ⟨s, h.subset hs, htoken⟩

theorem total_le_of_subperm (h : spent.entries.Subperm other.entries) (token : TokenId) :
    spent.total token ≤ other.total token := by
  rw [total_eq_exactSum, total_eq_exactSum]
  exact Coloring.exactSum_map_subperm (h.filter _) _

/-- A total of fewer records than fit a word is less than two words can hold. -/
theorem total_lt (h : spent.entries.length < UInt64.size) (token : TokenId) :
    spent.total token < UInt64.size * UInt64.size := by
  rw [total_eq_exactSum]
  refine Coloring.exactSum_lt (Nat.lt_of_le_of_lt ?_ h)
  rw [List.length_map]
  exact List.length_filter_le _ _

end ByInput

namespace Mint

variable {p : Params} {args : Map} {spent other : ByInput SpentToken} {entry : String × Value}

/-! ## One parent -/

/-- An entry lists a parent that is spent with enough value: its key spells a token with an index within
the bound, its value reads as a word, and the token is spent with at least that much in all. -/
def ParentSpent (p : Params) (spent : ByInput SpentToken) (key : String) (v : Value) : Prop :=
  ∃ (parent : TokenId) (minimum : Nat), parent.SpelledBy key ∧ parent.index ≤ p.maxOutputIndex ∧
    v.ReadsAs minimum ∧ minimum < UInt64.size ∧ spent.Spends parent ∧ minimum ≤ spent.total parent

theorem checkParent_ok {parent : TokenId} {minimum : UInt64} :
    checkParent p spent entry = .ok (parent, minimum) ↔
      Outpoint.ofCompact p.maxOutputIndex entry.1 = .ok parent ∧ entry.2.asWord? = some minimum ∧
        spent.Spends parent ∧ minimum.toNat ≤ spent.total parent := by
  unfold checkParent
  constructor
  · intro h
    split at h
    · cases h
    · rename_i parent' hparent
      split at h
      · cases h
      · rename_i minimum' hminimum
        split at h
        · cases h
        · rename_i hspent
          split at h
          · cases h
          · rename_i htotal
            cases h
            exact ⟨hparent, hminimum, ByInput.inputsOf_isEmpty.1 (by simpa using hspent),
              Nat.le_of_not_lt htotal⟩
  · rintro ⟨hparent, hminimum, hspent, htotal⟩
    simp only [hparent, hminimum, ByInput.inputsOf_isEmpty.2 hspent, Nat.not_lt.2 htotal, if_false,
      Bool.false_eq_true]

theorem exists_checkParent_ok :
    (∃ found, checkParent p spent entry = .ok found) ↔ ParentSpent p spent entry.1 entry.2 := by
  constructor
  · rintro ⟨⟨parent, minimum⟩, h⟩
    obtain ⟨hparent, hminimum, hspent, htotal⟩ := checkParent_ok.1 h
    obtain ⟨hspelled, hindex⟩ := Outpoint.ofCompact_ok.1 hparent
    exact ⟨parent, minimum.toNat, hspelled, hindex, Value.asWord?_eq_some.1 hminimum, minimum.toNat_lt,
      hspent, htotal⟩
  · rintro ⟨parent, minimum, hspelled, hindex, hreads, hlt, hspent, htotal⟩
    have hword : (UInt64.ofNat minimum).toNat = minimum := by
      rw [UInt64.toNat_ofNat']
      exact Nat.mod_eq_of_lt hlt
    refine ⟨(parent, UInt64.ofNat minimum), checkParent_ok.2 ⟨Outpoint.ofCompact_ok.2 ⟨hspelled, hindex⟩,
      Value.asWord?_eq_some.2 ?_, hspent, ?_⟩⟩
    · rw [hword]
      exact hreads
    · rw [hword]
      exact htotal

/-- One more token spent, or more of one, never turns a parent away. -/
theorem checkParent_mono (hspends : ∀ token, spent.Spends token → other.Spends token)
    (htotal : ∀ token, spent.total token ≤ other.total token) {found : TokenId × UInt64}
    (h : checkParent p spent entry = .ok found) : checkParent p other entry = .ok found := by
  obtain ⟨parent, minimum⟩ := found
  obtain ⟨hparent, hminimum, hspent, hle⟩ := checkParent_ok.1 h
  exact checkParent_ok.2 ⟨hparent, hminimum, hspends parent hspent, Nat.le_trans hle (htotal parent)⟩

/-! ## All parents -/

theorem exists_checkParentList_ok {found : Assoc TokenId UInt64} {listed : List (String × Value)} :
    (∃ parents, checkParentList p spent found listed = .ok parents) ↔
      ∀ entry ∈ listed, ParentSpent p spent entry.1 entry.2 := by
  induction listed generalizing found with
  | nil => exact ⟨fun _ => List.forall_mem_nil _, fun _ => ⟨found, rfl⟩⟩
  | cons entry rest ih =>
    rw [List.forall_mem_cons, ← exists_checkParent_ok, checkParentList]
    cases hentry : checkParent p spent entry with
    | error refusal => simp
    | ok pair =>
      obtain ⟨parent, minimum⟩ := pair
      exact ih.trans ⟨fun h => ⟨⟨_, rfl⟩, h⟩, And.right⟩

theorem checkParentList_mono (hspends : ∀ token, spent.Spends token → other.Spends token)
    (htotal : ∀ token, spent.total token ≤ other.total token) {listed : List (String × Value)}
    {found parents : Assoc TokenId UInt64} (h : checkParentList p spent found listed = .ok parents) :
    checkParentList p other found listed = .ok parents := by
  induction listed generalizing found with
  | nil => exact h
  | cons entry rest ih =>
    rw [checkParentList] at h ⊢
    split at h
    · cases h
    · rename_i parent minimum hentry
      rw [checkParent_mono hspends htotal hentry]
      exact ih h

/-! ## The gate -/

theorem checkParents_blank (h : ∀ v, args.get? "parents" = some v → v.isBlank = true) :
    checkParents p args spent = .ok none := by
  have hgiven : given? args "parents" = none := by
    refine Option.eq_none_iff_forall_ne_some.2 fun v hv => ?_
    obtain ⟨hv, hblank⟩ := given?_eq_some.1 hv
    rw [h v hv] at hblank
    cases hblank
  rw [checkParents, hgiven]

theorem checkParents_given {v : Value} (hv : args.get? "parents" = some v) (hblank : v.isBlank = false) :
    (∃ parents, checkParents p args spent = .ok (some parents)) ↔
      ∃ listed, v = .map listed ∧ spent.rows ≠ [] ∧
        ∀ entry ∈ listed, ParentSpent p spent entry.1 entry.2 := by
  simp only [checkParents, given?_eq_some.2 ⟨hv, hblank⟩]
  cases hmap : v.asMap? with
  | none =>
    constructor
    · rintro ⟨parents, h⟩
      cases h
    · rintro ⟨listed, rfl, -⟩
      cases hmap
  | some listed =>
    obtain rfl := Value.asMap?_eq_some.1 hmap
    have hempty : spent.isEmpty = true ↔ spent.rows = [] := List.isEmpty_iff
    by_cases hrows : spent.rows = []
    · simp only [hempty.2 hrows, if_true]
      constructor
      · rintro ⟨parents, h⟩
        cases h
      · rintro ⟨-, -, hne, -⟩
        exact absurd hrows hne
    · simp only [if_neg (mt hempty.1 hrows)]
      constructor
      · rintro ⟨parents, h⟩
        obtain ⟨parents, hparents, -⟩ := map_ok_iff.1 h
        exact ⟨listed, rfl, hrows, exists_checkParentList_ok.1 ⟨parents, hparents⟩⟩
      · rintro ⟨_, ⟨⟩, -, h⟩
        obtain ⟨parents, hparents⟩ := exists_checkParentList_ok.2 h
        exact ⟨parents, map_ok_iff.2 ⟨parents, hparents, rfl⟩⟩

/-- What passes the gate passes it with the same parents if more is spent. -/
theorem checkParents_mono (hspends : ∀ token, spent.Spends token → other.Spends token)
    (htotal : ∀ token, spent.total token ≤ other.total token) {parents? : Option (Assoc TokenId UInt64)}
    (h : checkParents p args spent = .ok parents?) : checkParents p args other = .ok parents? := by
  unfold checkParents at h ⊢
  cases hgiven : given? args "parents" with
  | none => rw [hgiven] at h; exact h
  | some v =>
    simp only [hgiven] at h ⊢
    cases hmap : v.asMap? with
    | none => rw [hmap] at h; cases h
    | some listed =>
      simp only [hmap] at h ⊢
      split at h
      · cases h
      · obtain ⟨parents, hparents, rfl⟩ := map_ok_iff.1 h
        -- a map that is not blank has an entry, and the parent it lists is spent
        obtain ⟨-, hblank⟩ := given?_eq_some.1 hgiven
        obtain rfl := Value.asMap?_eq_some.1 hmap
        obtain ⟨entry, hentry⟩ := List.exists_mem_of_ne_nil listed (List.isEmpty_eq_false_iff.1 hblank)
        obtain ⟨parent, -, -, -, -, -, hspent, -⟩ :=
          exists_checkParentList_ok.1 ⟨parents, hparents⟩ entry hentry
        have hrows : ¬ other.isEmpty = true := mt List.isEmpty_iff.1 (hspends parent hspent).rows_ne_nil
        rw [if_neg hrows, checkParentList_mono hspends htotal hparents]
        rfl

/-- When the listed parents of a mint are accepted. If none are given, or only a blank, nothing is asked
for. If any are given they must be a map, something must be spent, and every entry must list a token
that is spent, with at least the listed value in all. The totals are exact. So the outcome depends only
on which tokens are spent and on the total of each, however it is spread over inputs and records and in
whatever order, and what is spent besides does not matter. -/
theorem parents_gate_exact (p : Params) (args : Map) (hcount : spent.entries.length < UInt64.size) :
    ((∀ v, args.get? "parents" = some v → v.isBlank = true) → checkParents p args spent = .ok none) ∧
    (∀ v, args.get? "parents" = some v → v.isBlank = false →
      ((∃ parents, checkParents p args spent = .ok (some parents)) ↔
        ∃ listed, v = .map listed ∧ spent.rows ≠ [] ∧ ∀ entry ∈ listed, ∃ (parent : TokenId) (minimum : Nat),
          parent.SpelledBy entry.1 ∧ parent.index ≤ p.maxOutputIndex ∧ entry.2.ReadsAs minimum ∧
          minimum < UInt64.size ∧ spent.Spends parent ∧ minimum ≤ spent.total parent)) ∧
    (∀ other : ByInput SpentToken, (∀ token, spent.Spends token ↔ other.Spends token) →
      (∀ token, spent.total token = other.total token) →
      ∀ parents?, checkParents p args spent = .ok parents? ↔ checkParents p args other = .ok parents?) ∧
    (∀ other : ByInput SpentToken, spent.entries.Perm other.entries →
      ∀ parents?, checkParents p args spent = .ok parents? ↔ checkParents p args other = .ok parents?) ∧
    (∀ other : ByInput SpentToken, spent.entries.Subperm other.entries →
      ∀ parents?, checkParents p args spent = .ok parents? → checkParents p args other = .ok parents?) ∧
    ∀ token, spent.total token < UInt64.size * UInt64.size := by
  have hmore : ∀ one two : ByInput SpentToken, one.entries.Subperm two.entries →
      ∀ parents?, checkParents p args one = .ok parents? → checkParents p args two = .ok parents? :=
    fun one two h parents? hone =>
      checkParents_mono (fun _ => .of_subperm h) (ByInput.total_le_of_subperm h) hone
  refine ⟨checkParents_blank, fun v => checkParents_given, fun other hspends htotal parents? => ⟨?_, ?_⟩,
    fun other hperm parents? => ⟨hmore spent other hperm.subperm parents?,
      hmore other spent hperm.symm.subperm parents?⟩, hmore spent, ByInput.total_lt hcount⟩
  · exact checkParents_mono (fun token => (hspends token).1) fun token => Nat.le_of_eq (htotal token)
  · exact checkParents_mono (fun token => (hspends token).2) fun token => Nat.le_of_eq (htotal token).symm

/-- A parent of which 600 is spent at the first input and 400 at the third, besides another token: the
gate passes with a minimum of 1000, in any order of the records, and not with a minimum of 1001. -/
theorem parents_gate_exact_split :
    let parent : TokenId := ⟨.fill 8, 3⟩
    let spent : ByInput SpentToken :=
      ⟨[(0, [⟨parent, 600⟩]), (2, [⟨⟨.fill 9, 0⟩, 7⟩, ⟨parent, 400⟩])], by decide⟩
    let args (minimum : Int) : Map := [("parents", .map [(parent.compact, .int minimum)])]
    spent.entries.length < UInt64.size ∧ spent.total parent = 1000 ∧
      (∃ parents, checkParents .mainnet (args 1000) spent = .ok (some parents) ∧
        ∀ other : ByInput SpentToken, spent.entries.Perm other.entries →
          checkParents .mainnet (args 1000) other = .ok (some parents)) ∧
      ¬ ∃ parents, checkParents .mainnet (args 1001) spent = .ok (some parents) := by
  intro parent spent args
  have hcount : spent.entries.length < UInt64.size := by decide
  have htotal : spent.total parent = 1000 := by decide
  have hspelled : Outpoint.ofCompact Params.mainnet.maxOutputIndex parent.compact = .ok parent := by
    decide +kernel
  have hspends : spent.Spends parent := ⟨⟨parent, 600⟩, by decide, rfl⟩
  obtain ⟨-, hgiven, -, hperm, -⟩ := parents_gate_exact .mainnet (args 1000) hcount
  obtain ⟨-, hmore, -⟩ := parents_gate_exact .mainnet (args 1001) hcount
  refine ⟨hcount, htotal, ?_, ?_⟩
  · obtain ⟨parents, hparents⟩ := (hgiven _ rfl rfl).2 ⟨_, rfl, List.cons_ne_nil _ _, fun entry hentry => by
      obtain rfl := List.mem_singleton.1 hentry
      obtain ⟨hparent, hindex⟩ := Outpoint.ofCompact_ok.1 hspelled
      exact ⟨parent, 1000, hparent, hindex, .inl rfl, by decide, hspends, Nat.le_of_eq htotal.symm⟩⟩
    exact ⟨parents, hparents, fun other h => (hperm other h _).1 hparents⟩
  · rintro ⟨parents, hparents⟩
    obtain ⟨_, ⟨⟩, -, hall⟩ := (hmore _ rfl rfl).1 ⟨parents, hparents⟩
    obtain ⟨found, minimum, hfound, hindex, hreads, -, -, hle⟩ := hall _ (List.mem_singleton.2 rfl)
    have hsame : Except.ok found = (.ok parent : Except Outpoint.Error Outpoint) :=
      (Outpoint.ofCompact_ok.2 ⟨hfound, hindex⟩).symm.trans hspelled
    cases hsame
    obtain hreads | ⟨b, hreads, -⟩ := hreads
    · cases hreads
      exact absurd (htotal ▸ hle) (by decide)
    · cases hreads

end Mint

end TokenOverlay
