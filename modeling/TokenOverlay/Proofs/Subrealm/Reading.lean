/-
When an update holds rules, and which. All values of its list must be well formed and its first height in
effect must fit a word; then there is one rule for each value, in the order of the list. Otherwise there is
no rule at all: the first malformed value is blamed by its number, but only once the update as a whole has
passed its own checks.
-/
import TokenOverlay.Proofs.Subrealm.RuleSet
import TokenOverlay.Proofs.Window

namespace TokenOverlay.Subrealm

open Payload (Map Value)

variable {p : Params} {i : Nat} {u : Update} {v : Value} {values : List Value} {entry : String × Value}
  {outputs : Map} {pattern : String} {price : Price} {e : Refusal}

/-! ## Well-formed rules -/

/-- The pattern that a scalar stands for. -/
inductive PatternText : Value → String → Prop
  | text (s : String) : PatternText (.text s) s
  | int (n : Int) : PatternText (.int n) (toString n)
  | bool (b : Bool) : PatternText (.bool b) (if b then "True" else "False")
  | float (x : Binary64) : PatternText (.float x) (patternNumbers.text x)

/-- A value has a pattern and at least one output. -/
def Spells (v : Value) (pattern : String) (outputs : Map) : Prop :=
  ∃ (m : Map) (scalar : Value), v = .map m ∧ m.get? "p" = some scalar ∧ PatternText scalar pattern ∧
    m.get? "o" = some (.map outputs) ∧ outputs ≠ []

/-- An output whose key is a number in base sixteen, with an amount between the least payment and the
greatest word. -/
structure Payable (p : Params) (entry : String × Value) : Prop where
  script : HexInteger.accepts entry.1 = true
  amount : ∃ n, entry.2.ReadsAs n ∧ p.minPayment.toNat ≤ n ∧ n < UInt64.size

/-- A price names the script of an output and asks for exactly its amount. -/
structure Asks (entry : String × Value) (price : Price) : Prop where
  script : price.scriptHex = entry.1
  least : entry.2.ReadsAs price.least.toNat

theorem patternOf?_eq_some : patternOf? v = some pattern ↔ PatternText v pattern := by
  constructor
  · intro h
    cases v <;> cases h <;> constructor
  · intro h
    cases h <;> rfl

theorem Spells.outputs_unique {pattern' : String} {outputs' : Map} (h : Spells v pattern outputs)
    (h' : Spells v pattern' outputs') : outputs = outputs' := by
  obtain ⟨m, _, rfl, -, -, houtputs, -⟩ := h
  obtain ⟨m', _, hm, -, -, houtputs', -⟩ := h'
  cases hm
  rw [houtputs] at houtputs'
  cases houtputs'
  rfl

theorem readPrice_ok_iff : readPrice p i entry = .ok price ↔ Payable p entry ∧ Asks entry price := by
  rw [readPrice_ok, Value.asWord?_eq_some]
  constructor
  · rintro ⟨hscript, hleast, hmin, haccepts⟩
    exact ⟨⟨haccepts, _, hleast, UInt64.le_iff_toNat_le.1 hmin, price.least.toNat_lt⟩, hscript, hleast⟩
  · rintro ⟨⟨haccepts, n, hn, hmin, -⟩, hscript, hleast⟩
    obtain rfl := hn.unique hleast
    exact ⟨hscript, hleast, UInt64.le_iff_toNat_le.2 hmin, haccepts⟩

theorem Payable.exists_readPrice (h : Payable p entry) : ∃ price, readPrice p i entry = .ok price := by
  obtain ⟨n, hn, -, hlt⟩ := h.amount
  have hword : (UInt64.ofNat n).toNat = n := UInt64.toNat_ofNat_of_lt' hlt
  exact ⟨⟨entry.1, .ofNat n⟩, readPrice_ok_iff.2 ⟨h, rfl, hword.symm ▸ hn⟩⟩

section

variable [Pattern.SizeLimit] {rule : Rule}

/-- A pattern can be matched once it stands between the anchors. -/
def Compiles (pattern : String) : Prop :=
  ∃ matcher, Pattern.Matcher.ofText? (Pattern.anchored pattern) = some matcher

/-- A value from which a rule can be read. -/
def WellFormed (p : Params) (v : Value) : Prop :=
  ∃ pattern outputs, Spells v pattern outputs ∧ (∀ entry ∈ outputs, Payable p entry) ∧ Compiles pattern

/-- A rule has the pattern of a value, and its outputs in order. -/
def States (v : Value) (rule : Rule) : Prop :=
  ∃ outputs, Spells v rule.pattern outputs ∧ List.Forall₂ Asks outputs rule.prices

theorem readRule_ok_iff : readRule p i v = .ok rule ↔ WellFormed p v ∧ States v rule := by
  rw [readRule_ok]
  constructor
  · rintro ⟨m, scalar, outputs, rfl, hscalar, houtputs, hfilled, hpattern, hprices⟩
    have hspells : Spells (.map m) rule.pattern outputs :=
      ⟨m, scalar, rfl, hscalar, patternOf?_eq_some.1 hpattern, houtputs, hfilled⟩
    simp only [mapM_ok_iff, readPrice_ok_iff, List.forall₂_and_left] at hprices
    exact ⟨⟨_, outputs, hspells, hprices.1, rule.matcher, rule.matcher_eq⟩, outputs, hspells, hprices.2⟩
  · rintro ⟨⟨_, outputs, hspells, hpayable, -⟩, outputs', hspells', hasks⟩
    obtain rfl := hspells.outputs_unique hspells'
    obtain ⟨m, scalar, rfl, hscalar, hpattern, houtputs, hfilled⟩ := hspells'
    refine ⟨m, scalar, outputs, rfl, hscalar, houtputs, hfilled, patternOf?_eq_some.2 hpattern, ?_⟩
    simp only [mapM_ok_iff, readPrice_ok_iff, List.forall₂_and_left]
    exact ⟨hpayable, hasks⟩

theorem WellFormed.exists_readRule (h : WellFormed p v) : ∃ rule, readRule p i v = .ok rule := by
  obtain ⟨pattern, outputs, hspells, hpayable, matcher, hmatcher⟩ := h
  cases hprices : outputs.mapM (readPrice p i) with
  | error e =>
    obtain ⟨_, entry, _, rfl, -, hentry⟩ := mapM_error_iff.1 hprices
    obtain ⟨price, hprice⟩ := (hpayable entry (by simp)).exists_readPrice (i := i)
    rw [hprice] at hentry
    cases hentry
  | ok prices =>
    obtain ⟨m, scalar, rfl, hscalar, hpattern, houtputs, hfilled⟩ := hspells
    exact ⟨⟨pattern, matcher, prices, hmatcher⟩, readRule_ok.2
      ⟨m, scalar, outputs, rfl, hscalar, houtputs, hfilled, patternOf?_eq_some.2 hpattern, hprices⟩⟩

end

/-- A rule with two outputs. -/
theorem wellFormed_plain :
    WellFormed .mainnet (.map [("p", .text "a+"), ("o", .map [("5120aa", .int 1000), ("0014bb", .int 500)])]) := by
  refine ⟨"a+", _, ⟨_, _, rfl, rfl, .text "a+", rfl, by simp⟩, ?_, Option.isSome_iff_exists.1 (by decide +kernel)⟩
  simp only [List.forall_mem_cons]
  exact ⟨⟨by decide, 1000, .inl rfl, by decide, by decide⟩, ⟨by decide, 500, .inl rfl, by decide, by decide⟩,
    List.forall_mem_nil _⟩

/-! ## Blame -/

/-- The number of the rule that a refusal blames. -/
def Refusal.rule? : Refusal → Option Nat
  | notAMap | wrongPath _ | rulesNotAList | rulesTooLarge .. | unwritable _ => none
  | malformedRule i | patternNotScalar i | badPattern i | noOutputs i | badValue i _ | badScript i _ => some i

theorem readPrice_error (h : readPrice p i entry = .error e) : e.rule? = some i := by
  obtain ⟨scriptHex, value⟩ := entry
  simp only [readPrice] at h
  split at h
  · cases h
    rfl
  · split at h
    · cases h
      rfl
    · split at h <;> cases h
      rfl

section

variable [Pattern.SizeLimit]

/-- A refusal of a rule blames that rule. -/
theorem readRule_error (h : readRule p i v = .error e) : e.rule? = some i := by
  unfold readRule at h
  split at h
  · cases h
    rfl
  · split at h
    · cases h
      rfl
    · rcases bind_error_iff.1 h with h | ⟨prices, -, h⟩
      · obtain ⟨_, _, _, -, -, hentry⟩ := mapM_error_iff.1 h
        exact readPrice_error hentry
      · split at h
        · cases h
          rfl
        · split at h <;> cases h
          rfl

/-! ## Lists of rules -/

theorem readRules_ok_iff {found : List Rule} : readRules p i values = .ok found ↔
    (∀ v ∈ values, WellFormed p v) ∧ List.Forall₂ States values found := by
  rw [← List.forall₂_and_left]
  induction values generalizing i found with
  | nil =>
    rw [readRules, List.forall₂_nil_left_iff]
    exact ⟨fun h => (Except.ok.inj h).symm, fun h => congrArg Except.ok h.symm⟩
  | cons v rest ih =>
    rw [List.forall₂_cons_left_iff]
    constructor
    · intro h
      obtain ⟨rule, hrule, h⟩ := bind_ok_iff.1 h
      obtain ⟨others, hothers, h⟩ := bind_ok_iff.1 h
      cases h
      exact ⟨rule, others, readRule_ok_iff.1 hrule, ih.1 hothers, rfl⟩
    · rintro ⟨rule, others, hrule, hothers, rfl⟩
      exact bind_ok_iff.2 ⟨rule, readRule_ok_iff.2 hrule, bind_ok_iff.2 ⟨others, ih.2 hothers, rfl⟩⟩

theorem exists_readRules (h : ∀ v ∈ values, WellFormed p v) : ∃ found, readRules p i values = .ok found := by
  induction values generalizing i with
  | nil => exact ⟨[], rfl⟩
  | cons v rest ih =>
    obtain ⟨hv, hrest⟩ := List.forall_mem_cons.1 h
    obtain ⟨rule, hrule⟩ := hv.exists_readRule (i := i)
    obtain ⟨others, hothers⟩ := ih hrest (i := i + 1)
    exact ⟨rule :: others, bind_ok_iff.2 ⟨rule, hrule, bind_ok_iff.2 ⟨others, hothers, rfl⟩⟩⟩

/-- The first malformed value is blamed, by its place in the list. -/
theorem readRules_error {before after : List Value} (hbefore : ∀ w ∈ before, WellFormed p w)
    (hv : ¬ WellFormed p v) :
    ∃ e, readRules p i (before ++ v :: after) = .error e ∧ e.rule? = some (i + before.length) := by
  induction before generalizing i with
  | nil =>
    cases hread : readRule p i v with
    | error e => exact ⟨e, bind_error_iff.2 (.inl hread), readRule_error hread⟩
    | ok rule => exact absurd (readRule_ok_iff.1 hread).1 hv
  | cons w before ih =>
    obtain ⟨hw, hbefore⟩ := List.forall_mem_cons.1 hbefore
    obtain ⟨rule, hrule⟩ := hw.exists_readRule (i := i)
    obtain ⟨e, he, hblame⟩ := ih hbefore (i := i + 1)
    refine ⟨e, bind_error_iff.2 (.inr ⟨rule, hrule, bind_error_iff.2 (.inl he)⟩), ?_⟩
    rw [hblame, List.length_cons]
    congr 1
    omega

end

/-! ## Updates -/

/-- An update lists the values of its rules: they stand under the rules path, and are not too many bytes. -/
def Lists (p : Params) (data : Value) (values : List Value) : Prop :=
  ∃ m : Map, data = .map m ∧ m.get? "$path" = some (.text p.rulesPath) ∧ m.get? "rules" = some (.seq values) ∧
    values ≠ [] ∧ ∃ b, (Value.seq values).encode = .ok b ∧ b.length ≤ p.maxRulesSize.toNat

namespace RuleSet

theorem ruleValues_ok_iff {data : Value} : ruleValues p data = .ok values ↔ Lists p data values := by
  have hpath : ∀ m : Map, (m.get? "$path").bind Value.asText? = some p.rulesPath ↔
      m.get? "$path" = some (.text p.rulesPath) := by
    intro m
    rcases m.get? "$path" with _ | v
    · simp
    · cases v <;> simp [Value.asText?]
  simp only [ruleValues_ok, hpath, Lists]

/-- A refusal of an update as a whole blames no rule. -/
theorem ruleValues_error {data : Value} (h : ruleValues p data = .error e) : e.rule? = none := by
  unfold ruleValues at h
  split at h
  · cases h
    rfl
  · split at h
    · cases h
      rfl
    · split at h
      · split at h
        · cases h
          rfl
        · split at h <;> cases h
          rfl
      · cases h
        rfl

variable [Pattern.SizeLimit] {rule : Rule} {rules : RuleSet}

theorem rulesOf_ok_iff {data : Value} {found : List Rule} : rulesOf p data = .ok found ↔
    ∃ values, Lists p data values ∧ (∀ v ∈ values, WellFormed p v) ∧ List.Forall₂ States values found := by
  simp only [rulesOf, bind_ok_iff, ruleValues_ok_iff, readRules_ok_iff]

/-- A set is what an update says: its heights are those of the update, and it has one rule for each value. -/
structure Holds (p : Params) (u : Update) (values : List Value) (rules : RuleSet) : Prop where
  txid : rules.txid = u.txid
  height : rules.height = u.height
  validFrom : rules.validFrom.toNat = u.height.toNat + p.rulesDelay.toNat
  rules : List.Forall₂ States values rules.rules

theorem ofUpdate_of_error (h : rulesOf p u.data = .error e) : ofUpdate p u = .ok (.error e) := by
  rw [ofUpdate, h]

theorem ofUpdate_of_ok {found : List Rule} (h : rulesOf p u.data = .ok found) :
    ofUpdate p u = (heightAfter u.height p.rulesDelay).map fun first => .ok ⟨u.txid, u.height, first, found⟩ := by
  rw [ofUpdate, h]

theorem ofUpdate_ok_iff : ofUpdate p u = .ok (.ok rules) ↔
    ∃ values, Lists p u.data values ∧ (∀ v ∈ values, WellFormed p v) ∧ Holds p u values rules := by
  constructor
  · intro h
    cases hfound : rulesOf p u.data with
    | error e =>
      rw [ofUpdate_of_error hfound] at h
      cases h
    | ok found =>
      rw [ofUpdate_of_ok hfound, map_ok_iff] at h
      obtain ⟨first, hfirst, h⟩ := h
      cases h
      obtain ⟨values, hlists, hvalues, hstates⟩ := rulesOf_ok_iff.1 hfound
      exact ⟨values, hlists, hvalues, rfl, rfl, heightAfter_ok_iff.1 hfirst, hstates⟩
  · rintro ⟨values, hlists, hvalues, hholds⟩
    rw [ofUpdate_of_ok (rulesOf_ok_iff.2 ⟨values, hlists, hvalues, hholds.rules⟩), map_ok_iff]
    refine ⟨rules.validFrom, heightAfter_ok_iff.2 hholds.validFrom, ?_⟩
    rw [← hholds.txid, ← hholds.height]

theorem exists_rulesOf (hlists : Lists p u.data values) (h : ∀ v ∈ values, WellFormed p v) :
    ∃ found, rulesOf p u.data = .ok found := by
  obtain ⟨found, hfound⟩ := exists_readRules (i := 0) h
  exact ⟨found, bind_ok_iff.2 ⟨values, ruleValues_ok_iff.2 hlists, hfound⟩⟩

theorem exists_ofUpdate_iff : (∃ rules, ofUpdate p u = .ok (.ok rules)) ↔
    (∃ values, Lists p u.data values ∧ ∀ v ∈ values, WellFormed p v) ∧
      u.height.toNat + p.rulesDelay.toNat < UInt64.size := by
  constructor
  · rintro ⟨rules, hrules⟩
    obtain ⟨values, hlists, hvalues, hholds⟩ := ofUpdate_ok_iff.1 hrules
    exact ⟨⟨values, hlists, hvalues⟩, hholds.validFrom ▸ rules.validFrom.toNat_lt⟩
  · rintro ⟨⟨values, hlists, hvalues⟩, hfits⟩
    obtain ⟨found, hfound⟩ := exists_rulesOf hlists hvalues
    rw [ofUpdate_of_ok hfound, heightAfter_ok hfits]
    exact ⟨_, rfl⟩

/-- Only a height that is beyond a word keeps well-formed rules from being held. -/
theorem ofUpdate_error_iff (f : Fault) : ofUpdate p u = .error f ↔ f = .heightOverflow ∧
    (∃ values, Lists p u.data values ∧ ∀ v ∈ values, WellFormed p v) ∧
      UInt64.size ≤ u.height.toNat + p.rulesDelay.toNat := by
  constructor
  · intro h
    cases hfound : rulesOf p u.data with
    | error e =>
      rw [ofUpdate_of_error hfound] at h
      cases h
    | ok found =>
      obtain ⟨values, hlists, hvalues, -⟩ := rulesOf_ok_iff.1 hfound
      rw [ofUpdate_of_ok hfound, map_error_iff] at h
      have hsize : UInt64.size ≤ u.height.toNat + p.rulesDelay.toNat := by
        by_contra hfits
        rw [heightAfter_ok (Nat.not_le.1 hfits)] at h
        cases h
      rw [heightAfter_overflow hsize] at h
      cases h
      exact ⟨rfl, ⟨values, hlists, hvalues⟩, hsize⟩
  · rintro ⟨rfl, ⟨values, hlists, hvalues⟩, hsize⟩
    obtain ⟨found, hfound⟩ := exists_rulesOf hlists hvalues
    rw [ofUpdate_of_ok hfound, heightAfter_overflow hsize]
    rfl

/-- The first malformed value of an update puts an end to all of its rules. -/
theorem ofUpdate_malformed {before after : List Value} (hlists : Lists p u.data (before ++ v :: after))
    (hbefore : ∀ w ∈ before, WellFormed p w) (hv : ¬ WellFormed p v) :
    ∃ e, ofUpdate p u = .ok (.error e) ∧ e.rule? = some before.length := by
  obtain ⟨e, he, hblame⟩ : ∃ e, readRules p 0 (before ++ v :: after) = .error e ∧ _ := readRules_error hbefore hv
  have hrules : rulesOf p u.data = .error e :=
    bind_error_iff.2 (.inr ⟨_, ruleValues_ok_iff.2 hlists, he⟩)
  exact ⟨e, ofUpdate_of_error hrules, by rw [hblame, Nat.zero_add]⟩

theorem ofUpdate_unlisted (h : ∀ values, ¬ Lists p u.data values) :
    ∃ e, ofUpdate p u = .ok (.error e) ∧ e.rule? = none := by
  cases hvalues : ruleValues p u.data with
  | error e => exact ⟨e, ofUpdate_of_error (bind_error_iff.2 (.inl hvalues)), ruleValues_error hvalues⟩
  | ok values => exact absurd (ruleValues_ok_iff.1 hvalues) (h values)

/-! ## Lookups -/

/-- The rule with a number gives an answer about a name, and no rule before it is for the name. -/
def Answers (s : RuleSet) (name : String) (answer : Except Fault Bool) (rule : Rule) (n : Nat) : Prop :=
  ∃ before after, s.rules = before ++ rule :: after ∧ before.length = n ∧
    (∀ earlier ∈ before, earlier.accepts name = .ok false) ∧ rule.accepts name = answer

theorem forall_mem_zipIdx {q : Rule → Prop} {found : List Rule} :
    (∀ numbered ∈ found.zipIdx, q numbered.1) ↔ ∀ rule ∈ found, q rule := by
  conv => rhs; rw [← List.zipIdx_map_fst 0 found]
  exact List.forall_mem_map.symm

theorem answersFirst_zipIdx {name : String} {answer : Except Fault Bool} {n : Nat} :
    AnswersFirst (fun numbered : Rule × Nat => numbered.1.accepts name) rules.rules.zipIdx (rule, n) answer ↔
      rules.Answers name answer rule n := by
  constructor
  · rintro ⟨_, _, h, hrefuse, hrule⟩
    obtain ⟨before, rest, hsplit, rfl, hrest⟩ := List.zipIdx_eq_append_iff.1 h
    obtain ⟨rule', after, rfl, hpair, -⟩ := List.zipIdx_eq_cons_iff.1 hrest.symm
    cases hpair
    exact ⟨before, after, hsplit, by omega, forall_mem_zipIdx.1 hrefuse, hrule⟩
  · rintro ⟨before, after, hsplit, rfl, hrefuse, hrule⟩
    refine ⟨before.zipIdx, after.zipIdx (before.length + 1), ?_, forall_mem_zipIdx.2 hrefuse, hrule⟩
    rw [hsplit, List.zipIdx_append, List.zipIdx_cons, Nat.zero_add]

theorem ruleFor?_eq_some {name : String} {n : Nat} :
    rules.ruleFor? name = .ok (some (rule, n)) ↔ rules.Answers name (.ok true) rule n :=
  findM?_some_iff.trans answersFirst_zipIdx

theorem ruleFor?_eq_none {name : String} :
    rules.ruleFor? name = .ok none ↔ ∀ rule ∈ rules.rules, rule.accepts name = .ok false :=
  findM?_none_iff.trans (forall_mem_zipIdx (q := fun rule => rule.accepts name = .ok false))

theorem ruleFor?_eq_error {name : String} {f : Fault} :
    rules.ruleFor? name = .error f ↔ ∃ rule n, rules.Answers name (.error f) rule n := by
  refine findM?_error_iff.trans ?_
  simp only [Prod.exists, answersFirst_zipIdx]

end RuleSet

/-! ## The whole -/

/-- When an update holds rules, and which. It does exactly if it lists values under the rules path, all of
them are well formed, and the height at which they take effect fits a word. Then it has one rule for each
value, in the order of the list, with the outputs of the value in their order; the scripts of a rule are
pairwise different if the keys of all maps in the update are, as they are in any payload that was read. A
name is looked up from the first rule on, and the first one that is for it applies. A malformed value leaves
no rule, and the first one is blamed, whatever the height; an update that lists no values blames no rule.
Only the height of well-formed rules can be out of range. -/
theorem rules_held_all_or_none [Pattern.SizeLimit] (p : Params) (u : Update) :
    ((∃ rules, RuleSet.ofUpdate p u = .ok (.ok rules)) ↔
      (∃ values, Lists p u.data values ∧ ∀ v ∈ values, WellFormed p v) ∧
        u.height.toNat + p.rulesDelay.toNat < UInt64.size) ∧
    (∀ rules, RuleSet.ofUpdate p u = .ok (.ok rules) →
      (∃ values, Lists p u.data values ∧ rules.Holds p u values) ∧
      (u.data.keysDiffer = true → ∀ rule ∈ rules.rules, (rule.prices.map Price.scriptHex).Nodup)) ∧
    (∀ (rules : RuleSet) (name : String),
      (∀ rule n, rules.ruleFor? name = .ok (some (rule, n)) ↔ rules.Answers name (.ok true) rule n) ∧
      (rules.ruleFor? name = .ok none ↔ ∀ rule ∈ rules.rules, rule.accepts name = .ok false) ∧
      ∀ f, rules.ruleFor? name = .error f ↔ ∃ rule n, rules.Answers name (.error f) rule n) ∧
    (∀ before v after, Lists p u.data (before ++ v :: after) → (∀ w ∈ before, WellFormed p w) →
      ¬ WellFormed p v → ∃ e, RuleSet.ofUpdate p u = .ok (.error e) ∧ e.rule? = some before.length) ∧
    ((∀ values, ¬ Lists p u.data values) → ∃ e, RuleSet.ofUpdate p u = .ok (.error e) ∧ e.rule? = none) ∧
    ∀ f, RuleSet.ofUpdate p u = .error f ↔ f = .heightOverflow ∧
      (∃ values, Lists p u.data values ∧ ∀ v ∈ values, WellFormed p v) ∧
        UInt64.size ≤ u.height.toNat + p.rulesDelay.toNat := by
  refine ⟨RuleSet.exists_ofUpdate_iff, fun rules hrules => ⟨?_, fun hdata rule hrule => ?_⟩, fun rules name => ?_,
    fun before v after => RuleSet.ofUpdate_malformed, RuleSet.ofUpdate_unlisted, RuleSet.ofUpdate_error_iff⟩
  · obtain ⟨values, hlists, -, hholds⟩ := RuleSet.ofUpdate_ok_iff.1 hrules
    exact ⟨values, hlists, hholds⟩
  · exact RuleSet.nodup_scripts hdata hrules hrule
  · exact ⟨fun rule n => RuleSet.ruleFor?_eq_some, RuleSet.ruleFor?_eq_none, fun f => RuleSet.ruleFor?_eq_error⟩

/-- A well-formed value with a malformed one behind it: alone it is held, together neither is. -/
theorem rules_held_all_or_none_malformed :
    let good : Value := .map [("p", .text "a+"), ("o", .map [("5120aa", .int 1000), ("0014bb", .int 500)])]
    let bad : Value := .map [("p", .text "a+")]
    let held : Update := ⟨.fill 8, 100, 8, .map [("$path", .text "/subrealms"), ("rules", .seq [good])]⟩
    let refused : Update := ⟨.fill 9, 100, 9, .map [("$path", .text "/subrealms"), ("rules", .seq [good, bad])]⟩
    Lists .mainnet held.data [good] ∧ Lists .mainnet refused.data [good, bad] ∧
      WellFormed .mainnet good ∧ ¬ WellFormed .mainnet bad ∧ held.data.keysDiffer = true ∧
      (∃ rules, RuleSet.ofUpdate .mainnet held = .ok (.ok rules) ∧
        ∀ rule ∈ rules.rules, (rule.prices.map Price.scriptHex).Nodup) ∧
      ∃ e, RuleSet.ofUpdate .mainnet refused = .ok (.error e) ∧ e.rule? = some 1 := by
  intro good bad held refused
  have hheld : Lists .mainnet held.data [good] := ⟨_, rfl, rfl, rfl, by simp, _, rfl, by decide +kernel⟩
  have hrefused : Lists .mainnet refused.data [good, bad] := ⟨_, rfl, rfl, rfl, by simp, _, rfl, by decide +kernel⟩
  have hgood : ∀ v ∈ [good], WellFormed .mainnet v := List.forall_mem_singleton.2 wellFormed_plain
  have hbad : ¬ WellFormed .mainnet bad := by
    rintro ⟨_, _, ⟨m, _, hm, -, -, houtputs, -⟩, -⟩
    obtain rfl := Value.map.inj hm
    cases houtputs
  have hkeys : held.data.keysDiffer = true := by decide
  obtain ⟨hiff, hholds, -⟩ := rules_held_all_or_none .mainnet held
  obtain ⟨rules, hrules⟩ := hiff.2 ⟨⟨_, hheld, hgood⟩, by decide⟩
  obtain ⟨-, -, -, hmalformed, -⟩ := rules_held_all_or_none .mainnet refused
  exact ⟨hheld, hrefused, wellFormed_plain, hbad, hkeys, ⟨rules, hrules, (hholds rules hrules).2 hkeys⟩,
    hmalformed [good] bad [] hrefused hgood hbad⟩

/-- Well-formed rules at the last height: there is no word for the height at which they take effect. -/
theorem rules_at_last_height :
    let value : Value := .map [("p", .text "a+"), ("o", .map [("5120aa", .int 1000), ("0014bb", .int 500)])]
    let data : Value := .map [("$path", .text "/subrealms"), ("rules", .seq [value])]
    let u : Update := ⟨.fill 8, 18446744073709551615, 8, data⟩
    RuleSet.ofUpdate .mainnet u = .error .heightOverflow ∧
      ¬ ((∃ rules, RuleSet.ofUpdate .mainnet u = .ok (.ok rules)) ↔
        ∃ values, Lists .mainnet u.data values ∧ ∀ v ∈ values, WellFormed .mainnet v) := by
  intro value data u
  have hwell : ∃ values, Lists .mainnet u.data values ∧ ∀ v ∈ values, WellFormed .mainnet v :=
    ⟨[value], ⟨_, rfl, rfl, rfl, by simp, _, rfl, by decide +kernel⟩,
      List.forall_mem_singleton.2 wellFormed_plain⟩
  have hfault : RuleSet.ofUpdate .mainnet u = .error .heightOverflow :=
    (RuleSet.ofUpdate_error_iff _).2 ⟨rfl, hwell, by decide⟩
  refine ⟨hfault, fun hiff => ?_⟩
  obtain ⟨rules, hrules⟩ := hiff.2 hwell
  rw [hfault] at hrules
  cases hrules

end TokenOverlay.Subrealm
