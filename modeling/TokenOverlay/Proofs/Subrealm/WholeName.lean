/-
Which names a rule is for. The text of a pattern is put between the anchors of a whole name as it stands. A
text that is a pattern by itself keeps its meaning there, so the rule is only for names that it matches from
the first character to the last; but a text that is none may become one between the anchors, and then break
out of them.
-/
import TokenOverlay.Proofs.Pattern.Whole
import TokenOverlay.Proofs.Subrealm.RuleSet

namespace TokenOverlay.Subrealm

open Pattern (Matcher Source)

/-- A rule whose text is a pattern by itself has a matcher for it, and only applies to names that the pattern
matches from the first character to the last. A regular pattern matches exactly these. -/
theorem rule_applies_to_whole_names [Pattern.SizeLimit] {rule : Rule} {own : Source}
    (hown : Source.ofText? rule.pattern = some own) :
    (∃ m, Matcher.ofText? rule.pattern = some m) ∧
    (∀ name, rule.accepts name = .ok true → own.MatchesWhole name.toList.toArray) ∧
    (own.node.isHard own.referenced = false →
      ∀ name, rule.accepts name = .ok true ↔ own.node.Spans name.toList.toArray 0 name.toList.toArray.size) :=
  ⟨Matcher.exists_ofText?_of_anchored hown rule.matcher_eq,
    fun _ => Matcher.matchesWhole_of_finds hown rule.matcher_eq,
    fun hregular _ => Matcher.finds_iff_spans hown hregular rule.matcher_eq⟩

/-- A pattern with a reference: it is for names that say something twice. -/
theorem rule_applies_to_whole_names_twice :
    let item : Payload.Value := .map [("p", .text "(a+)\\1"), ("o", .map [("5120aa", .int 1000)])]
    let data : Payload.Value := .map [("$path", .text "/subrealms"), ("rules", .seq [item])]
    let u : Update := ⟨.fill 8, 100, 8, data⟩
    ∃ rules rule own, RuleSet.ofUpdate .mainnet u = .ok (.ok rules) ∧ rule ∈ rules.rules ∧
      Source.ofText? rule.pattern = some own ∧ rule.accepts "aaaa" = .ok true ∧ rule.accepts "aaa" = .ok false ∧
      own.MatchesWhole "aaaa".toList.toArray := by
  intro item data u
  have hread : ((RuleSet.ofUpdate .mainnet u).toOption.bind Except.toOption).map
      (fun rules => rules.rules.map fun rule => ((Source.ofText? rule.pattern).isSome,
        (rule.accepts "aaaa").toOption, (rule.accepts "aaa").toOption)) = some [(true, some true, some false)] := by
    decide +kernel
  obtain ⟨rules, rule, hset, hrule, hfacts⟩ := RuleSet.exists_rule_of_map hread
  obtain ⟨hown, htwice, honce⟩ : _ = true ∧ _ = some true ∧ _ = some false := by
    simpa only [Prod.mk.injEq] using hfacts
  obtain ⟨own, hown⟩ := Option.isSome_iff_exists.1 hown
  have htwice := toOption_eq_some.1 htwice
  exact ⟨rules, rule, own, hset, hrule, hown, htwice, toOption_eq_some.1 honce,
    (rule_applies_to_whole_names hown).2.1 "aaaa" htwice⟩

/-- A text that is no pattern becomes one between the anchors, where its first branch has lost the end and its
second one the start. -/
theorem rule_applies_beyond_anchors :
    let item : Payload.Value := .map [("p", .text "a)|(?:b"), ("o", .map [("5120aa", .int 1000)])]
    let data : Payload.Value := .map [("$path", .text "/subrealms"), ("rules", .seq [item])]
    let u : Update := ⟨.fill 8, 100, 8, data⟩
    ∃ rules rule, RuleSet.ofUpdate .mainnet u = .ok (.ok rules) ∧ rule ∈ rules.rules ∧ rule.pattern = "a)|(?:b" ∧
      (Matcher.ofText? rule.pattern).isNone = true ∧ rule.accepts "axyz" = .ok true := by
  intro item data u
  have hread : ((RuleSet.ofUpdate .mainnet u).toOption.bind Except.toOption).map
      (fun rules => rules.rules.map fun rule => (rule.pattern, (Matcher.ofText? rule.pattern).isNone,
        (rule.accepts "axyz").toOption)) = some [("a)|(?:b", true, some true)] := by
    decide +kernel
  obtain ⟨rules, rule, hset, hrule, hfacts⟩ := RuleSet.exists_rule_of_map hread
  obtain ⟨hpattern, hnone, haccepts⟩ : _ = "a)|(?:b" ∧ _ = true ∧ _ = some true := by
    simpa only [Prod.mk.injEq] using hfacts
  exact ⟨rules, rule, hset, hrule, hpattern, hnone, toOption_eq_some.1 haccepts⟩

end TokenOverlay.Subrealm
