/-
When a transaction pays for a subrealm. Every price of a rule is looked for on its own, yet no output
counts for two prices: the scripts of the prices are keys of one map, and different scripts have
different hex. So a rule is paid exactly if its prices can be met by outputs of their own.
-/
import Mathlib.Data.List.FinRange
import TokenOverlay.Proofs.Hex
import TokenOverlay.Proofs.Subrealm.RuleSet
import TokenOverlay.Proofs.Sums

namespace TokenOverlay.Subrealm

open Coloring (exactSum)

variable {p : Params} {u : Update} {tx tx₁ tx₂ : Transaction}

/-- An output meets a price: the price spells its script in lower-case hex, and its value is at least
what is asked for. -/
structure Price.MetBy (price : Price) (o : Output) : Prop where
  script : Hex.text o.script = price.scriptHex
  value : price.least ≤ o.value

theorem Price.isMetBy_iff {price : Price} {o : Output} : price.isMetBy o = true ↔ price.MetBy o := by
  simp only [isMetBy, Bool.and_eq_true, beq_iff_eq, decide_eq_true_eq]
  exact ⟨fun h => ⟨h.1, h.2⟩, fun h => ⟨h.script, h.value⟩⟩

/-- A price of plain lower-case hex digits, an even number of them, is met by some output, and no other
price is. -/
theorem Price.exists_metBy_iff {price : Price} :
    (∃ o, price.MetBy o) ↔
      price.scriptHex.length % 2 = 0 ∧ ∀ c ∈ price.scriptHex.toList, Hex.IsLowerDigit c := by
  rw [← Hex.exists_text_eq_iff]
  constructor
  · rintro ⟨o, h⟩
    exact ⟨o.script, h.script⟩
  · rintro ⟨script, h⟩
    exact ⟨⟨price.least, script⟩, h, UInt64.le_refl _⟩

theorem map_eq_map_finRange {α β : Type} (l : List α) (f : α → β) :
    l.map f = (List.finRange l.length).map fun i => f l[i] := by
  rw [← List.ofFn_eq_map]
  exact (List.ofFn_getElem_eq_map l f).symm

section

variable [Pattern.SizeLimit] {rules : RuleSet} {rule : Rule}

namespace Rule

theorem isPaidBy_iff : rule.isPaidBy tx = true ↔ ∀ price ∈ rule.prices, ∃ o ∈ tx.outputs, price.MetBy o := by
  simp only [isPaidBy, List.all_eq_true, List.any_eq_true, Price.isMetBy_iff]

/-- Outputs are assigned to the prices of a rule, each to one price at most. -/
structure Assigns (rule : Rule) (tx : Transaction)
    (output : Fin rule.prices.length → Fin tx.outputs.length) : Prop where
  injective : Function.Injective output
  met : ∀ i : Fin rule.prices.length, rule.prices[i].MetBy tx.outputs[output i]

/-- Prices of different scripts are met by different outputs. -/
theorem isPaidBy_iff_assigns (hscripts : (rule.prices.map Price.scriptHex).Nodup) :
    rule.isPaidBy tx = true ↔ ∃ output, rule.Assigns tx output := by
  rw [isPaidBy_iff]
  constructor
  · intro h
    have houtput : ∀ i : Fin rule.prices.length, ∃ j : Fin tx.outputs.length,
        rule.prices[i].MetBy tx.outputs[j] := by
      intro i
      obtain ⟨o, ho, hmet⟩ := h rule.prices[i] (List.getElem_mem i.2)
      obtain ⟨j, hj, rfl⟩ := List.getElem_of_mem ho
      exact ⟨⟨j, hj⟩, hmet⟩
    choose output hmet using houtput
    refine ⟨output, fun i j hij => ?_, hmet⟩
    have hscript : rule.prices[i].scriptHex = rule.prices[j].scriptHex := by
      rw [← (hmet i).script, ← (hmet j).script, hij]
    have hprice : rule.prices[i] = rule.prices[j] :=
      List.inj_on_of_nodup_map hscripts (List.getElem_mem i.2) (List.getElem_mem j.2) hscript
    exact List.nodup_iff_injective_getElem.1 hscripts.of_map hprice
  · rintro ⟨output, hassigns⟩ price hprice
    obtain ⟨i, hi, rfl⟩ := List.getElem_of_mem hprice
    exact ⟨tx.outputs[output ⟨i, hi⟩], List.getElem_mem _, hassigns.met ⟨i, hi⟩⟩

/-- Prices that are met apart never ask for more than all outputs hold. -/
theorem Assigns.sum_le {output : Fin rule.prices.length → Fin tx.outputs.length}
    (h : rule.Assigns tx output) : exactSum (rule.prices.map Price.least) ≤ exactSum tx.outputValues := by
  have hused : ((List.finRange rule.prices.length).map output).Subperm (List.finRange tx.outputs.length) :=
    List.subperm_of_subset ((List.nodup_finRange _).map h.injective) fun j _ => List.mem_finRange j
  calc exactSum (rule.prices.map Price.least)
      = exactSum ((List.finRange _).map fun i => rule.prices[i].least) := by
        rw [map_eq_map_finRange]
    _ ≤ exactSum ((List.finRange _).map fun i => tx.outputs[output i].value) :=
        Coloring.exactSum_map_le fun i _ => (h.met i).value
    _ = exactSum (((List.finRange _).map output).map fun j => tx.outputs[j].value) := by
        rw [List.map_map]; rfl
    _ ≤ exactSum ((List.finRange _).map fun j => tx.outputs[j].value) :=
        Coloring.exactSum_map_subperm hused _
    _ = exactSum tx.outputValues := by
        rw [Transaction.outputValues, map_eq_map_finRange tx.outputs]

/-- More outputs and greater values never turn a paid transaction into an unpaid one. -/
theorem isPaidBy_mono
    (h : ∀ o ∈ tx₁.outputs, ∃ o' ∈ tx₂.outputs, o'.script = o.script ∧ o.value ≤ o'.value)
    (hpaid : rule.isPaidBy tx₁ = true) : rule.isPaidBy tx₂ = true := by
  rw [isPaidBy_iff] at hpaid ⊢
  intro price hprice
  obtain ⟨o, ho, hmet⟩ := hpaid price hprice
  obtain ⟨o', ho', hscript, hvalue⟩ := h o ho
  exact ⟨o', ho', hscript ▸ hmet.script, UInt64.le_trans hmet.value hvalue⟩

theorem isPaidBy_perm (h : tx₁.outputs.Perm tx₂.outputs) : rule.isPaidBy tx₁ = rule.isPaidBy tx₂ := by
  rw [Bool.eq_iff_iff, isPaidBy_iff, isPaidBy_iff]
  simp only [h.mem_iff]

theorem exists_isPaidBy_iff :
    (∃ tx, rule.isPaidBy tx = true) ↔ ∀ price ∈ rule.prices, ∃ o, price.MetBy o := by
  simp only [isPaidBy_iff]
  constructor
  · rintro ⟨tx, h⟩ price hprice
    obtain ⟨o, -, hmet⟩ := h price hprice
    exact ⟨o, hmet⟩
  · intro h
    choose output hmet using h
    refine ⟨⟨.fill 0, [], rule.prices.attach.map fun price => output price.1 price.2⟩, fun price hprice => ?_⟩
    exact ⟨output price hprice, List.mem_map.2 ⟨⟨price, hprice⟩, List.mem_attach _ _, rfl⟩,
      hmet price hprice⟩

end Rule

/-- When a transaction pays a rule that an update holds. It does exactly if every price is met by an
output of its own; so all prices together never ask for more than all outputs hold. Neither the order
of the outputs matters, nor do further outputs or greater values do any harm. A rule can be paid at
all exactly if every script is spelled by an even number of lower-case hex digits. The maps of the
update have pairwise different keys, as those of any payload that was read. -/
theorem rule_paid_apart (hdata : u.data.keysDiffer = true)
    (hset : RuleSet.ofUpdate p u = .ok (.ok rules)) (hrule : rule ∈ rules.rules) :
    (∀ tx, rule.isPaidBy tx = true ↔
      ∃ output : Fin rule.prices.length → Fin tx.outputs.length, Function.Injective output ∧
        ∀ i : Fin rule.prices.length, Hex.text tx.outputs[output i].script = rule.prices[i].scriptHex ∧
          rule.prices[i].least ≤ tx.outputs[output i].value) ∧
    (∀ tx, rule.isPaidBy tx = true →
      exactSum (rule.prices.map Price.least) ≤ exactSum tx.outputValues) ∧
    (∀ tx₁ tx₂ : Transaction, tx₁.outputs.Perm tx₂.outputs → rule.isPaidBy tx₁ = rule.isPaidBy tx₂) ∧
    (∀ tx₁ tx₂ : Transaction,
      (∀ o ∈ tx₁.outputs, ∃ o' ∈ tx₂.outputs, o'.script = o.script ∧ o.value ≤ o'.value) →
      rule.isPaidBy tx₁ = true → rule.isPaidBy tx₂ = true) ∧
    ((∃ tx, rule.isPaidBy tx = true) ↔ ∀ price ∈ rule.prices,
      price.scriptHex.length % 2 = 0 ∧ ∀ c ∈ price.scriptHex.toList, Hex.IsLowerDigit c) := by
  have hscripts := RuleSet.nodup_scripts hdata hset hrule
  refine ⟨fun tx => ?_, fun tx hpaid => ?_, fun tx₁ tx₂ => Rule.isPaidBy_perm,
    fun tx₁ tx₂ => Rule.isPaidBy_mono, ?_⟩
  · rw [Rule.isPaidBy_iff_assigns hscripts]
    constructor
    · rintro ⟨output, h⟩
      exact ⟨output, h.injective, fun i => ⟨(h.met i).script, (h.met i).value⟩⟩
    · rintro ⟨output, hinjective, hmet⟩
      exact ⟨output, hinjective, fun i => ⟨(hmet i).1, (hmet i).2⟩⟩
  · obtain ⟨output, h⟩ := (Rule.isPaidBy_iff_assigns hscripts).1 hpaid
    exact h.sum_le
  · rw [Rule.exists_isPaidBy_iff]
    exact forall₂_congr fun price _ => Price.exists_metBy_iff

end

/-- A rule with two prices is paid by two outputs in the opposite order. -/
theorem rule_paid_apart_swapped :
    let outputs : Payload.Map := [("5120aa", .int 1000), ("0014bb", .int 500)]
    let item : Payload.Value := .map [("p", .text "a+"), ("o", .map outputs)]
    let data : Payload.Value := .map [("$path", .text "/subrealms"), ("rules", .seq [item])]
    let u : Update := ⟨.fill 8, 100, 8, data⟩
    let tx : Transaction := ⟨.fill 9, [], [⟨600, [0x00, 0x14, 0xbb]⟩, ⟨1000, [0x51, 0x20, 0xaa]⟩]⟩
    ∃ rules rule, u.data.keysDiffer = true ∧ RuleSet.ofUpdate .mainnet u = .ok (.ok rules) ∧
      rule ∈ rules.rules ∧ rule.prices = [⟨"5120aa", 1000⟩, ⟨"0014bb", 500⟩] ∧ rule.isPaidBy tx = true ∧
      (∃ output : Fin rule.prices.length → Fin tx.outputs.length, Function.Injective output ∧
        ∀ i : Fin rule.prices.length, Hex.text tx.outputs[output i].script = rule.prices[i].scriptHex ∧
          rule.prices[i].least ≤ tx.outputs[output i].value) ∧
      exactSum (rule.prices.map Price.least) ≤ exactSum tx.outputValues := by
  intro outputs item data u tx
  have hread : ((RuleSet.ofUpdate .mainnet u).toOption.bind Except.toOption).map
      (fun rules => rules.rules.map Rule.prices) = some [[⟨"5120aa", 1000⟩, ⟨"0014bb", 500⟩]] := by
    decide +kernel
  obtain ⟨rules, rule, hset, hrule, hprice⟩ := RuleSet.exists_rule_of_map hread
  have hpaid : rule.isPaidBy tx = true := by
    rw [Rule.isPaidBy, hprice]
    decide
  obtain ⟨happart, hsum, -⟩ := rule_paid_apart (u := u) (by decide) hset hrule
  exact ⟨rules, rule, by decide, hset, hrule, hprice, hpaid, (happart tx).1 hpaid, hsum tx hpaid⟩

end TokenOverlay.Subrealm
