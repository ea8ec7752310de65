/-
Which update of a history decides. The foremost update of a height stands for all updates of that
height, and whether an update has taken effect depends on its height alone; so in an ordered history
the first update that has taken effect decides, and that is the last one of the greatest height in
effect. What stands in front of it has no say until it takes effect itself.
-/
import Mathlib.Data.List.Nodup
import TokenOverlay.Proofs.Except
import TokenOverlay.Proofs.Window
import TokenOverlay.Subrealm.RuleSet

namespace TokenOverlay

namespace Subrealm

variable {p : Params} {height : UInt64} {history : History} {u v : Update}

/-- An update has taken effect at a height. -/
def Update.InEffect (p : Params) (height : UInt64) (u : Update) : Prop :=
  u.height.toNat + p.rulesDelay.toNat ≤ height.toNat

instance : DecidablePred (Update.InEffect p height) := fun u =>
  inferInstanceAs (Decidable (u.height.toNat + p.rulesDelay.toNat ≤ height.toNat))

theorem Update.inEffect_congr (h : u.height = v.height) : u.InEffect p height ↔ v.InEffect p height := by
  rw [InEffect, InEffect, h]

namespace History

/-- Heights never rise along a history, and the numbers of the transactions fall. -/
def Ordered (history : History) : Prop :=
  history.Pairwise fun newer older => older.height ≤ newer.height ∧ older.txNum < newer.txNum

/-- Every update of a history takes effect at a height that fits a word. -/
def Fits (p : Params) (history : History) : Prop :=
  ∀ u ∈ history, u.height.toNat + p.rulesDelay.toNat < UInt64.size

/-- The update that decides at a height: it is in effect, no other one in effect is higher, and of
those at its height it is the last. -/
structure Governs (p : Params) (height : UInt64) (history : History) (u : Update) : Prop where
  mem : u ∈ history
  inEffect : u.InEffect p height
  highest : ∀ v ∈ history, v.InEffect p height → v.height ≤ u.height
  last : ∀ v ∈ history, v.height = u.height → v.txNum ≤ u.txNum

/-! ## Order -/

theorem disorder?_eq_none : history.disorder? = none ↔ history.Ordered := by
  have hchain : history.Ordered ↔
      history.IsChain fun newer older => older.height ≤ newer.height ∧ older.txNum < newer.txNum := by
    have : IsTrans Update fun newer older => older.height ≤ newer.height ∧ older.txNum < newer.txNum :=
      ⟨fun _ _ _ hab hbc => ⟨UInt64.le_trans hbc.1 hab.1, UInt64.lt_trans hbc.2 hab.2⟩⟩
    exact List.isChain_iff_pairwise.symm
  rw [hchain]
  clear hchain
  induction history with
  | nil => simp [disorder?]
  | cons b rest ih =>
    cases rest with
    | nil => simp [disorder?]
    | cons a rest =>
      rw [disorder?, List.isChain_cons_cons]
      by_cases hab : a.height ≤ b.height ∧ a.txNum < b.txNum
      · rw [if_pos (by simpa [Update.precedes] using hab)]
        exact ih.trans (and_iff_right hab).symm
      · rw [if_neg (by simpa [Update.precedes] using hab)]
        exact ⟨nofun, fun h => absurd h.1 hab⟩

/-- No two updates of an ordered history have the same number. -/
theorem Ordered.eq_of_txNum (h : history.Ordered) (hu : u ∈ history) (hv : v ∈ history)
    (htx : u.txNum = v.txNum) : u = v := by
  have hnodup : (history.map Update.txNum).Nodup :=
    List.pairwise_map.2 (h.imp fun hab => (UInt64.ne_of_lt hab.2).symm)
  exact List.inj_on_of_nodup_map hnodup hu hv htx

/-! ## The update in effect -/

/-- Leaving out all but the foremost update of each height does not change which update is the first
to pass a test on heights. -/
theorem find?_foremost {q : Update → Bool} (hq : ∀ u v, u.height = v.height → q u = q v)
    (history : History) : history.foremost.find? q = history.find? q := by
  induction history with
  | nil => rfl
  | cons u rest ih =>
    rw [foremost, List.find?_cons, List.find?_cons]
    cases hu : q u with
    | true => rfl
    | false =>
      -- updates at the height of `u` fail the test as `u` does
      have hsame : ∀ v : Update, decide ((v.height != u.height) = true ∧ q v = true) = q v := by
        intro v
        by_cases hv : v.height = u.height
        · simp [hv, hq v u hv, hu]
        · simp [hv]
      rw [List.find?_filter, ← ih]
      exact congrArg (fun test => List.find? test (foremost rest)) (funext hsame)

theorem mem_of_mem_foremost (h : u ∈ history.foremost) : u ∈ history := by
  induction history with
  | nil => exact h
  | cons v rest ih =>
    rcases List.mem_cons.1 h with rfl | h
    · exact List.mem_cons_self
    · exact List.mem_cons_of_mem _ (ih (List.mem_filter.1 h).1)

theorem inEffect?_eq_find? (hfits : history.Fits p) :
    history.inEffect? p height = .ok (history.find? fun u => decide (u.InEffect p height)) := by
  induction history with
  | nil => rfl
  | cons u rest ih =>
    obtain ⟨hu, hrest⟩ := List.forall_mem_cons.1 hfits
    have hdecide : u.height + p.rulesDelay ≤ height ↔ u.InEffect p height := by
      rw [UInt64.le_iff_toNat_le, toNat_heightAfter hu, Update.InEffect]
    rw [inEffect?, heightAfter_ok hu, List.find?_cons]
    show (if u.height + p.rulesDelay ≤ height then .ok (some u) else inEffect? p height rest) = _
    by_cases h : u.InEffect p height
    · rw [if_pos (hdecide.2 h), decide_eq_true h]
    · rw [if_neg (mt hdecide.1 h), decide_eq_false h]
      exact ih hrest

/-- In an ordered history the first update in effect governs, and no other one does. -/
theorem find?_eq_some_iff (h : history.Ordered) :
    (history.find? fun u => decide (u.InEffect p height)) = some u ↔ history.Governs p height u := by
  have hgoverns : ∀ w, (history.find? fun u => decide (u.InEffect p height)) = some w →
      history.Governs p height w := by
    intro w hw
    obtain ⟨heff, front, back, rfl, hfront⟩ := List.find?_eq_some_iff_append.1 hw
    simp only [decide_eq_true_eq, Bool.not_eq_true', decide_eq_false_iff_not] at heff hfront
    have hback := (List.pairwise_cons.1 (List.pairwise_append.1 h).2.1).1
    refine ⟨by simp, heff, fun v hv hveff => ?_, fun v hv heq => ?_⟩
    · rcases List.mem_append.1 hv with hv | hv
      · exact absurd hveff (hfront v hv)
      · rcases List.mem_cons.1 hv with rfl | hv
        · exact UInt64.le_refl _
        · exact (hback v hv).1
    · rcases List.mem_append.1 hv with hv | hv
      · exact absurd ((Update.inEffect_congr heq).2 heff) (hfront v hv)
      · rcases List.mem_cons.1 hv with rfl | hv
        · exact UInt64.le_refl _
        · exact UInt64.le_of_lt (hback v hv).2
  refine ⟨hgoverns u, fun hu => ?_⟩
  cases hw : history.find? fun u => decide (u.InEffect p height) with
  | none =>
    have := List.find?_eq_none.1 hw u hu.mem
    exact absurd (decide_eq_true hu.inEffect) this
  | some w =>
    have hw := hgoverns w hw
    have hheight : w.height = u.height :=
      UInt64.le_antisymm (hu.highest w hw.mem hw.inEffect) (hw.highest u hu.mem hu.inEffect)
    have htx : w.txNum = u.txNum :=
      UInt64.le_antisymm (hu.last w hw.mem hheight) (hw.last u hu.mem hheight.symm)
    rw [h.eq_of_txNum hw.mem hu.mem htx]

end History

/-! ## The rules in effect -/

section

variable [Pattern.SizeLimit]

/-- The rules of the update that decides, and a note if it holds none. -/
def rulesOfUpdate (p : Params) : Option Update → Except Fault (Option RuleSet × List Log)
  | none => .ok (none, [])
  | some u => (RuleSet.ofUpdate p u).map fun
    | .ok rules => (some rules, [])
    | .error r => (none, [refusalNote u r])

theorem rulesAt_ordered (hfits : history.Fits p) (h : history.Ordered) :
    rulesAt p height history =
      rulesOfUpdate p (history.find? fun u => decide (u.InEffect p height)) := by
  have hforemost : history.foremost.Fits p := fun u hu => hfits u (History.mem_of_mem_foremost hu)
  have hsame := History.find?_foremost (q := fun u => decide (u.InEffect p height))
    (fun u v huv => decide_eq_decide.2 (Update.inEffect_congr huv)) history
  simp only [rulesAt, History.collapse, History.disorder?_eq_none.2 h, History.inEffect?_eq_find? hforemost,
    hsame]
  cases history.find? fun u => decide (u.InEffect p height) with
  | none => rfl
  | some u =>
    simp only [rulesOfUpdate]
    cases hset : RuleSet.ofUpdate p u with
    | error f => simp only [bind, Except.bind, hset]; rfl
    | ok outcome => cases outcome <;> simp only [bind, Except.bind, hset] <;> rfl

theorem rulesAt_disordered (h : ¬ history.Ordered) : ∃ note, rulesAt p height history = .ok (none, [note]) := by
  cases hd : history.disorder? with
  | none => exact absurd (History.disorder?_eq_none.1 hd) h
  | some d => exact ⟨disorderNote d, by simp only [rulesAt, History.collapse, hd]⟩

/-- What an update holds, with the heights it is recorded under and valid from. -/
theorem RuleSet.ofUpdate_fits (h : u.height.toNat + p.rulesDelay.toNat < UInt64.size) :
    ∃ outcome, RuleSet.ofUpdate p u = .ok outcome ∧ ∀ rules, outcome = .ok rules →
      rules.height = u.height ∧ rules.validFrom.toNat = u.height.toNat + p.rulesDelay.toNat := by
  unfold RuleSet.ofUpdate
  cases RuleSet.rulesOf p u.data with
  | error r => exact ⟨_, rfl, nofun⟩
  | ok found =>
    rw [heightAfter_ok h]
    refine ⟨_, rfl, fun rules hrules => ?_⟩
    cases hrules
    exact ⟨rfl, toNat_heightAfter h⟩

/-- An update that governs decides alone, whether it holds rules or is refused. -/
theorem rulesAt_of_governs (hfits : history.Fits p) (h : history.Ordered)
    (hu : history.Governs p height u) :
    ∃ outcome, RuleSet.ofUpdate p u = .ok outcome ∧
      (rulesAt p height history).map Prod.fst = .ok outcome.toOption ∧
      ∀ rules, outcome = .ok rules → rules.height = u.height ∧
        rules.validFrom.toNat = u.height.toNat + p.rulesDelay.toNat ∧ rules.validFrom ≤ height := by
  obtain ⟨outcome, houtcome, hheights⟩ := RuleSet.ofUpdate_fits (hfits u hu.mem)
  refine ⟨outcome, houtcome, ?_, fun rules hrules => ?_⟩
  · rw [rulesAt_ordered hfits h, (History.find?_eq_some_iff h).2 hu, rulesOfUpdate, houtcome]
    cases outcome <;> rfl
  · obtain ⟨hheight, hvalid⟩ := hheights rules hrules
    refine ⟨hheight, hvalid, UInt64.le_iff_toNat_le.2 ?_⟩
    rw [hvalid]
    exact hu.inEffect

theorem rulesAt_of_none_inEffect (hfits : history.Fits p) (h : history.Ordered)
    (hnone : ∀ u ∈ history, ¬ u.InEffect p height) : rulesAt p height history = .ok (none, []) := by
  have hfind : (history.find? fun u => decide (u.InEffect p height)) = none :=
    List.find?_eq_none.2 fun u hu => by simpa using hnone u hu
  rw [rulesAt_ordered hfits h, hfind, rulesOfUpdate]

/-- Updates in front that are not yet in effect do not matter. -/
theorem rulesAt_append {front : History} (hfits : History.Fits p (front ++ history))
    (h : History.Ordered (front ++ history)) (hfront : ∀ u ∈ front, ¬ u.InEffect p height) :
    rulesAt p height (front ++ history) = rulesAt p height history := by
  have hback : history.Fits p := fun u hu => hfits u (List.mem_append_right front hu)
  have hfind : (front.find? fun u => decide (u.InEffect p height)) = none :=
    List.find?_eq_none.2 fun u hu => by simpa using hfront u hu
  rw [rulesAt_ordered hfits h, rulesAt_ordered hback (List.pairwise_append.1 h).2.1, List.find?_append, hfind,
    Option.none_or]

/-- Which rules are in effect at a height. A history out of order yields none. In an ordered one the
last update at the greatest height in effect decides alone: its rules are in effect as it holds them,
or there are none if it is refused, whatever older updates hold. An update that is not yet in effect
can be added in front, or taken away there, without any change. -/
theorem latest_update_decides (height : UInt64) (hfits : history.Fits p) :
    (¬ history.Ordered → (rulesAt p height history).map Prod.fst = .ok none) ∧
    (history.Ordered →
      ((∀ u ∈ history, ¬ u.InEffect p height) → (rulesAt p height history).map Prod.fst = .ok none) ∧
      ((∃ u ∈ history, u.InEffect p height) → ∃! u, history.Governs p height u) ∧
      (∀ u, history.Governs p height u → ∃ outcome, RuleSet.ofUpdate p u = .ok outcome ∧
        (rulesAt p height history).map Prod.fst = .ok outcome.toOption ∧
        ∀ rules, outcome = .ok rules → rules.height = u.height ∧
          rules.validFrom.toNat = u.height.toNat + p.rulesDelay.toNat ∧ rules.validFrom ≤ height) ∧
      ∀ front : History, (∀ u ∈ front, ¬ u.InEffect p height) → History.Fits p (front ++ history) →
        History.Ordered (front ++ history) →
        rulesAt p height (front ++ history) = rulesAt p height history) := by
  refine ⟨fun h => ?_, fun h => ⟨fun hnone => ?_, ?_, fun u hu => rulesAt_of_governs hfits h hu,
    fun front hfront hfits' h' => rulesAt_append hfits' h' hfront⟩⟩
  · obtain ⟨note, hnote⟩ := rulesAt_disordered h
    rw [hnote]
    rfl
  · rw [rulesAt_of_none_inEffect hfits h hnone]
    rfl
  · rintro ⟨v, hv, hveff⟩
    cases hw : history.find? fun u => decide (u.InEffect p height) with
    | none => exact absurd (decide_eq_true hveff) (List.find?_eq_none.1 hw v hv)
    | some w =>
      refine ⟨w, (History.find?_eq_some_iff h).1 hw, fun u hu => ?_⟩
      rw [(History.find?_eq_some_iff h).2 hu] at hw
      exact Option.some.inj hw

end

/-- Of two updates of block 100 the last one decides from block 103 on, until block 113, when the
malformed update of block 110 puts an end to all rules. -/
theorem latest_update_decides_malformed :
    let rule : Payload.Value := .map [("p", .text "a+"), ("o", .map [("5120aa", .int 1000)])]
    let data : Payload.Value := .map [("$path", .text "/subrealms"), ("rules", .seq [rule])]
    let malformed : Update := ⟨.fill 9, 110, 9, .null⟩
    let last : Update := ⟨.fill 8, 100, 8, data⟩
    let history : History := [malformed, last, ⟨.fill 7, 100, 7, .null⟩]
    history.Fits .mainnet ∧ history.Ordered ∧ history.Governs .mainnet 112 last ∧
      history.Governs .mainnet 113 malformed ∧
      (∃ rules, RuleSet.ofUpdate .mainnet last = .ok (.ok rules) ∧
        (rulesAt .mainnet 112 history).map Prod.fst = .ok (some rules) ∧ rules.height = 100) ∧
      (rulesAt .mainnet 113 history).map Prod.fst = .ok none ∧
      rulesAt .mainnet 112 history = rulesAt .mainnet 112 (history.drop 1) := by
  intro rule data malformed last history
  have hfits : history.Fits .mainnet := by unfold History.Fits; decide
  have hordered : history.Ordered := by unfold History.Ordered; decide
  have hlast : history.Governs .mainnet 112 last := ⟨by simp [history], by decide, by decide, by decide⟩
  have hmalformed : history.Governs .mainnet 113 malformed :=
    ⟨by simp [history], by decide, by decide, by decide⟩
  refine ⟨hfits, hordered, hlast, hmalformed, ?_, ?_, ?_⟩
  · obtain ⟨outcome, houtcome, hrules, hheights⟩ :=
      ((latest_update_decides 112 hfits).2 hordered).2.2.1 last hlast
    have hok : (RuleSet.ofUpdate .mainnet last).toOption.any Except.isOk = true := by decide +kernel
    cases outcome with
    | error r => rw [houtcome] at hok; cases hok
    | ok rules => exact ⟨rules, houtcome, hrules, (hheights rules rfl).1⟩
  · obtain ⟨outcome, houtcome, hrules, -⟩ :=
      ((latest_update_decides 113 hfits).2 hordered).2.2.1 malformed hmalformed
    cases houtcome
    exact hrules
  · have hback : History.Fits .mainnet (history.drop 1) := fun u hu => hfits u (List.mem_of_mem_drop hu)
    exact ((latest_update_decides 112 hback).2 (List.pairwise_cons.1 hordered).2).2.2.2 [malformed]
      (by decide) hfits hordered

end Subrealm

end TokenOverlay
