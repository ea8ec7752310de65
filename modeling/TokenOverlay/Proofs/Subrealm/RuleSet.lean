/-
What the rules of a set were read from. Every check on an update is taken apart into what it found,
so that a law of the rules of a set is a law of the values that they come from.
-/
import TokenOverlay.Proofs.Except
import TokenOverlay.Proofs.Payload.Value
import TokenOverlay.Subrealm.RuleSet

namespace TokenOverlay.Subrealm

open Payload (Map Value)

variable {p : Params} {i : Nat} {u : Update}

theorem filledMap?_eq_some {v : Value} {m : Map} : filledMap? v = some m ↔ v = .map m ∧ m ≠ [] := by
  rw [filledMap?, Option.filter_eq_some_iff, Value.asMap?_eq_some]
  simp

theorem given?_eq_some {m : Map} {key : String} {v : Value} :
    given? m key = some v ↔ m.get? key = some v ∧ v.isNull = false := by
  rw [given?, Option.filter_eq_some_iff, Bool.not_eq_true']

/-! ## Rules -/

/-- A price is read from its entry: the key is its script and the value its least amount. -/
theorem readPrice_ok {entry : String × Value} {price : Price} :
    readPrice p i entry = .ok price ↔ price.scriptHex = entry.1 ∧ entry.2.asWord? = some price.least ∧
      p.minPayment ≤ price.least ∧ HexInteger.accepts entry.1 = true := by
  obtain ⟨scriptHex, value⟩ := entry
  simp only [readPrice]
  constructor
  · intro h
    split at h
    · cases h
    · rename_i least hleast
      split at h
      · cases h
      · rename_i hmin
        split at h
        · cases h
        · rename_i hscript
          cases h
          exact ⟨rfl, hleast, UInt64.not_lt.1 hmin, by simpa using hscript⟩
  · rintro ⟨rfl, hleast, hmin, haccepts⟩
    simp only [hleast, UInt64.not_lt.2 hmin, haccepts, if_false, Bool.not_true, Bool.false_eq_true]

theorem scripts_of_mapM_readPrice {entries : Map} {prices : List Price}
    (h : entries.mapM (readPrice p i) = .ok prices) :
    prices.map Price.scriptHex = entries.map Prod.fst := by
  have hprices := forall₂_of_mapM_ok h
  clear h
  induction hprices with
  | nil => rfl
  | cons hprice _ ih => rw [List.map_cons, List.map_cons, ih, (readPrice_ok.1 hprice).1]

theorem parts?_eq_some {v : Value} {parts : Value × Value} : parts? v = some parts ↔
    ∃ m : Map, v = .map m ∧ given? m "p" = some parts.1 ∧ given? m "o" = some parts.2 := by
  unfold parts?
  constructor
  · intro h
    obtain ⟨m, hm, h⟩ := Option.bind_eq_some_iff.1 h
    obtain ⟨pattern, hpattern, h⟩ := Option.bind_eq_some_iff.1 h
    obtain ⟨outputs, houtputs, h⟩ := Option.bind_eq_some_iff.1 h
    cases h
    exact ⟨m, Value.asMap?_eq_some.1 hm, hpattern, houtputs⟩
  · rintro ⟨m, rfl, hpattern, houtputs⟩
    exact Option.bind_eq_some_iff.2 ⟨m, rfl, Option.bind_eq_some_iff.2 ⟨_, hpattern,
      Option.bind_eq_some_iff.2 ⟨_, houtputs, rfl⟩⟩⟩

section

variable [Pattern.SizeLimit] {rule : Rule}

theorem ofPattern?_eq_some {pattern : String} {prices : List Price} :
    Rule.ofPattern? pattern prices = some rule ↔ rule.pattern = pattern ∧ rule.prices = prices := by
  constructor
  · unfold Rule.ofPattern?
    split
    · rintro ⟨⟩
      exact ⟨rfl, rfl⟩
    · intro h
      cases h
  · rintro ⟨rfl, rfl⟩
    have hmatcher := rule.matcher_eq
    unfold Rule.ofPattern?
    split
    · rename_i matcher h
      rw [hmatcher] at h
      cases h
      rfl
    · rename_i h
      rw [hmatcher] at h
      cases h

/-- The value of a rule is a map with a pattern and with outputs, each of which gives a price. -/
theorem readRule_ok {v : Value} : readRule p i v = .ok rule ↔
    ∃ (m : Map) (pattern : Value) (entries : Map), v = .map m ∧ m.get? "p" = some pattern ∧
      m.get? "o" = some (.map entries) ∧ entries ≠ [] ∧ patternOf? pattern = some rule.pattern ∧
      entries.mapM (readPrice p i) = .ok rule.prices := by
  unfold readRule
  constructor
  · intro h
    split at h
    · cases h
    · rename_i pattern outputs hparts
      obtain ⟨m, rfl, hpattern, houtputs⟩ := parts?_eq_some.1 hparts
      split at h
      · cases h
      · rename_i entries hentries
        obtain ⟨rfl, hfilled⟩ := filledMap?_eq_some.1 hentries
        obtain ⟨prices, hprices, h⟩ := bind_ok_iff.1 h
        split at h
        · cases h
        · rename_i text htext
          split at h
          · rename_i rule' hrule
            cases h
            obtain ⟨rfl, rfl⟩ := ofPattern?_eq_some.1 hrule
            exact ⟨m, pattern, entries, rfl, (given?_eq_some.1 hpattern).1, (given?_eq_some.1 houtputs).1,
              hfilled, htext, hprices⟩
          · cases h
  · rintro ⟨m, pattern, entries, rfl, hpattern, houtputs, hfilled, htext, hprices⟩
    have hnull : pattern.isNull = false := by
      cases pattern with
      | null => cases htext
      | _ => rfl
    have hparts : parts? (.map m) = some (pattern, .map entries) :=
      parts?_eq_some.2 ⟨m, rfl, given?_eq_some.2 ⟨hpattern, hnull⟩, given?_eq_some.2 ⟨houtputs, rfl⟩⟩
    have hentries : filledMap? (.map entries) = some entries := filledMap?_eq_some.2 ⟨rfl, hfilled⟩
    have hrule : Rule.ofPattern? rule.pattern rule.prices = some rule := ofPattern?_eq_some.2 ⟨rfl, rfl⟩
    simp only [hparts, hentries]
    exact bind_ok_iff.2 ⟨_, hprices, by simp only [htext, hrule]⟩

theorem exists_of_mem_readRules {values : List Value} {found : List Rule}
    (h : readRules p i values = .ok found) (hrule : rule ∈ found) :
    ∃ j, ∃ v ∈ values, readRule p j v = .ok rule := by
  induction values generalizing i found with
  | nil =>
    cases h
    cases hrule
  | cons v rest ih =>
    obtain ⟨first, hfirst, h⟩ := bind_ok_iff.1 h
    obtain ⟨others, hothers, h⟩ := bind_ok_iff.1 h
    cases h
    rcases List.mem_cons.1 hrule with rfl | hrule
    · exact ⟨i, v, List.mem_cons_self, hfirst⟩
    · obtain ⟨j, w, hw, hread⟩ := ih hothers hrule
      exact ⟨j, w, List.mem_cons_of_mem _ hw, hread⟩

end

/-! ## Sets -/

namespace RuleSet

theorem ruleValues_ok {data : Value} {values : List Value} : ruleValues p data = .ok values ↔
    ∃ m : Map, data = .map m ∧ (m.get? "$path").bind Value.asText? = some p.rulesPath ∧
      m.get? "rules" = some (.seq values) ∧ values ≠ [] ∧
      ∃ b, (Value.seq values).encode = .ok b ∧ b.length ≤ p.maxRulesSize.toNat := by
  unfold ruleValues
  constructor
  · intro h
    split at h
    · cases h
    · rename_i m hm
      obtain ⟨rfl, -⟩ := filledMap?_eq_some.1 hm
      split at h
      · cases h
      · rename_i hpath
        split at h
        · rename_i items hitems
          obtain ⟨hitems, hfilled⟩ := Option.filter_eq_some_iff.1 hitems
          split at h
          · cases h
          · rename_i b hb
            split at h
            · cases h
            · rename_i hsize
              cases h
              exact ⟨m, rfl, not_not.1 hpath, hitems, by simpa [Value.isBlank] using hfilled, b, hb,
                Nat.not_lt.1 hsize⟩
        · cases h
  · rintro ⟨m, rfl, hpath, hitems, hfilled, b, hb, hsize⟩
    have hm : filledMap? (.map m) = some m :=
      filledMap?_eq_some.2 ⟨rfl, by rintro rfl; cases hitems⟩
    have hitems : (m.get? "rules").filter (fun v => !v.isBlank) = some (.seq values) :=
      Option.filter_eq_some_iff.2 ⟨hitems, by simpa [Value.isBlank] using hfilled⟩
    simp only [hm, hpath, hitems, hb, Nat.not_lt.2 hsize, ne_eq, not_true_eq_false, if_false]

variable [Pattern.SizeLimit] {rules : RuleSet} {rule : Rule}

/-- Every rule of a set is read from a value in the list of rules that the update holds. -/
theorem exists_of_mem_rules (hset : ofUpdate p u = .ok (.ok rules)) (hrule : rule ∈ rules.rules) :
    ∃ (m : Map) (values : List Value) (v : Value) (j : Nat), u.data = .map m ∧ m.get? "rules" = some (.seq values) ∧ v ∈ values ∧
      readRule p j v = .ok rule := by
  unfold ofUpdate at hset
  split at hset
  · cases hset
  · rename_i found hfound
    obtain ⟨first, -, hset⟩ := map_ok_iff.1 hset
    cases hset
    obtain ⟨values, hvalues, hread⟩ := bind_ok_iff.1 hfound
    obtain ⟨m, hm, -, hrules, -⟩ := ruleValues_ok.1 hvalues
    obtain ⟨j, v, hv, hread⟩ := exists_of_mem_readRules hread hrule
    exact ⟨m, values, v, j, hm, hrules, hv, hread⟩

/-- The one rule of a set, by what is read of it. -/
theorem exists_rule_of_map {α : Type} {f : Rule → α} {x : α}
    (h : ((ofUpdate p u).toOption.bind Except.toOption).map (fun rules => rules.rules.map f) = some [x]) :
    ∃ rules rule, ofUpdate p u = .ok (.ok rules) ∧ rule ∈ rules.rules ∧ f rule = x := by
  obtain ⟨rules, hrules, hmap⟩ := Option.map_eq_some_iff.1 h
  obtain ⟨outcome, houtcome, hrules⟩ := Option.bind_eq_some_iff.1 hrules
  obtain ⟨rule, hrule, hx⟩ := List.mem_map.1 (hmap ▸ List.mem_singleton.2 rfl : x ∈ rules.rules.map f)
  exact ⟨rules, rule, by rw [toOption_eq_some.1 houtcome, toOption_eq_some.1 hrules], hrule, hx⟩

/-- The scripts that a rule asks to pay are pairwise different, since they are keys of one map. -/
theorem nodup_scripts (hdata : u.data.keysDiffer = true) (hset : ofUpdate p u = .ok (.ok rules))
    (hrule : rule ∈ rules.rules) : (rule.prices.map Price.scriptHex).Nodup := by
  obtain ⟨m, values, v, j, hm, hvalues, hv, hread⟩ := exists_of_mem_rules hset hrule
  obtain ⟨m', pattern, entries, rfl, -, hentries, -, -, hprices⟩ := readRule_ok.1 hread
  -- the map of the outputs is a value in the map of the rule, that one in the list, the list in the data
  rw [hm] at hdata
  have hlist := Value.keysDiffer_seq.1 (Value.keysDiffer_of_get? hdata hvalues) _ hv
  have houtputs := Value.keysDiffer_of_get? hlist hentries
  rw [scripts_of_mapM_readPrice hprices]
  exact (Value.keysDiffer_map.1 houtputs).1

end RuleSet

end TokenOverlay.Subrealm
