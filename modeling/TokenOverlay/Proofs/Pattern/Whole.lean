/-
Patterns of whole names. Between the anchors of a whole name a pattern keeps its tree, so its matcher finds
a match in a text just if the tree matches all of it: a regular one by the places that it relates, any
other by a run of its own program that comes from the start of the text to its end.
-/
import TokenOverlay.Pattern
import TokenOverlay.Proofs.Pattern.Anchored
import TokenOverlay.Proofs.Pattern.Resumed
import TokenOverlay.Proofs.Pattern.Search

namespace TokenOverlay.Pattern

variable {text : Array Char} {n : Node} {referenced : List Nat} {i j : Nat}

/-! ## Anchors at either end -/

namespace Anchor

theorem holdsAt_textStart (hi : i ≤ text.size) : textStart.holdsAt text i = true ↔ i = 0 := by
  rw [holdsAt, holds]
  split
  · rename_i h
    exact iff_of_true rfl h
  · rename_i h
    rw [Option.isNone_iff_eq_none, Array.getElem?_eq_none_iff]
    omega

theorem holdsAt_textEnd : textEnd.holdsAt text i = true ↔ text.size ≤ i := by
  rw [holdsAt, holds, Option.isNone_iff_eq_none, Array.getElem?_eq_none_iff]

end Anchor

theorem Automaton.runFrom_nil {m : Automaton} (fuel : Nat) (best : Option Nat) : m.runFrom text fuel i [] best = best := by
  cases fuel <;> rfl

/-- The automaton of an anchor stays where it is. -/
theorem Automaton.endFrom?_anchor {a : Anchor} (h : (ofParts [.anchor a]).endFrom? text i = some j) :
    i ≤ text.size ∧ a.holdsAt text i = true ∧ j = i := by
  have hparts : ofParts [.anchor a] = ⟨#[.accept, .anchor a 0], 1⟩ := rfl
  have hstart : (ofParts [.anchor a]).start = 1 := rfl
  have hfront : (ofParts [.anchor a]).front text i [1] = ⟨[], a.holdsAt text i⟩ := by
    rw [hparts, front]
    cases ha : a.holdsAt text i <;> simp [follow, ha]
  rw [endFrom?] at h
  obtain hi | hi := Nat.lt_or_ge text.size i
  · rw [Nat.sub_eq_zero_of_le hi] at h
    cases h
  · rw [Nat.sub_add_comm hi, runFrom, hstart, List.isEmpty_cons, if_neg Bool.false_ne_true, hfront] at h
    have hbest : (if a.holdsAt text i = true then some i else none) = some j := by
      cases hc : text[i]? with
      | none =>
        rw [hc] at h
        exact h
      | some c =>
        rw [hc] at h
        exact (runFrom_nil ..).symm.trans h
    split at hbest
    · rename_i ha
      exact ⟨hi, ha, (Option.some.inj hbest).symm⟩
    · cases hbest

/-! ## Regular patterns -/

section Regular

theorem Node.isHard_wholeName : n.wholeName.isHard referenced = n.isHard referenced := by
  unfold wholeName
  cases n <;> simp [isEmpty, isHard, anyHard, Anchor.seesWords]

/-! ### Ends within the text -/

theorem Repeats.le_of_le {R : Nat → Nat → Prop} {bound : Nat} (hR : ∀ i j, R i j → i ≤ bound → j ≤ bound) {count : Nat}
    (h : Repeats R count i j) (hi : i ≤ bound) : j ≤ bound := by
  induction count generalizing i with
  | zero =>
    obtain rfl : i = j := h
    exact hi
  | succ count ih =>
    obtain ⟨k, hk, h⟩ := h
    exact ih h (hR i k hk hi)

mutual

theorem Node.Spans.le_size : ∀ (n : Node) (i j : Nat), n.Spans text i j → i ≤ text.size → j ≤ text.size
  | .empty, _, _, h, hi => h ▸ hi
  | .atom _, _, _, ⟨⟨_, hc, _⟩, hj⟩, _ => hj ▸ (Array.getElem?_eq_some_iff.1 hc).1
  | .anchor _, _, _, h, hi => h.2 ▸ hi
  | .sequence parts, i, j, h, hi => SpansInARow.le_size parts i j h hi
  | .choice branches, i, j, h, hi => SpansAny.le_size branches i j h hi
  | .group _ body, i, j, h, hi => Node.Spans.le_size body i j h hi
  | .times body _ _ _, _, _, ⟨_, _, _, h⟩, hi => h.le_of_le (Node.Spans.le_size body) hi

theorem SpansInARow.le_size : ∀ (nodes : List Node) (i j : Nat), SpansInARow text nodes i j → i ≤ text.size →
    j ≤ text.size
  | [], _, _, h, hi => h ▸ hi
  | n :: rest, i, j, ⟨k, hn, h⟩, hi => SpansInARow.le_size rest k j h (Node.Spans.le_size n i k hn hi)

theorem SpansAny.le_size : ∀ (nodes : List Node) (i j : Nat), SpansAny text nodes i j → i ≤ text.size →
    j ≤ text.size
  | n :: _, i, j, .inl h, hi => Node.Spans.le_size n i j h hi
  | _ :: rest, i, j, .inr h, hi => SpansAny.le_size rest i j h hi

end

/-- A pattern between anchors matches somewhere just if it matches from start to end. -/
theorem Node.spans_wholeName : (∃ i ≤ text.size, ∃ j, SpansInARow text [n.wholeName] i j) ↔ n.Spans text 0 text.size := by
  -- the start holds at the first place only, and what is spanned from there does not go beyond the end
  have hwhole : ∀ i j, i ≤ text.size →
      (SpansInARow text [n.wholeName] i j ↔ i = 0 ∧ n.Spans text 0 text.size ∧ j = text.size) := by
    intro i j hi
    unfold wholeName
    split
    · rename_i hempty
      obtain rfl : n = .empty := by cases n <;> first | rfl | cases hempty
      simp only [SpansInARow, Node.Spans, Anchor.holdsAt_textStart hi, Anchor.holdsAt_textEnd]
      constructor
      · rintro ⟨_, ⟨_, ⟨rfl, rfl⟩, _, ⟨hend, rfl⟩, rfl⟩, rfl⟩
        exact ⟨rfl, Nat.le_antisymm hi hend, Nat.le_antisymm hi hend⟩
      · rintro ⟨rfl, h, rfl⟩
        exact ⟨_, ⟨0, ⟨rfl, rfl⟩, 0, ⟨Nat.le_of_eq h.symm, rfl⟩, rfl⟩, h⟩
    · simp only [SpansInARow, Node.Spans, Anchor.holdsAt_textStart hi, Anchor.holdsAt_textEnd]
      constructor
      · rintro ⟨_, ⟨_, ⟨rfl, rfl⟩, k, h, _, ⟨hend, rfl⟩, rfl⟩, rfl⟩
        obtain rfl := Nat.le_antisymm (Node.Spans.le_size n _ _ h hi) hend
        exact ⟨rfl, h, rfl⟩
      · rintro ⟨rfl, h, rfl⟩
        exact ⟨_, ⟨0, ⟨rfl, rfl⟩, _, h, _, ⟨Nat.le_refl _, rfl⟩, rfl⟩, rfl⟩
  constructor
  · rintro ⟨i, hi, j, h⟩
    exact ((hwhole i j hi).1 h).2.1
  · exact fun h => ⟨0, Nat.zero_le _, _, (hwhole 0 _ (Nat.zero_le _)).2 ⟨rfl, h, rfl⟩⟩

namespace Automaton

theorem nesting_mono (n : Node) : nesting 1 n ≤ nesting 2 n := by
  cases n with
  | atom a => cases a <;> simp [nesting]
  | _ => simp [nesting]

section

variable [SizeLimit]

theorem ofParts?_eq_some {parts : List Node} {m : Automaton} : ofParts? parts = some m ↔
    (allBoundsFit parts = true ∧ deepest 1 0 parts ≤ maxNesting ∧ SizeLimit.admits parts = true) ∧
      m = ofParts parts := by
  unfold ofParts?
  rw [Option.ite_none_right_eq_some, Option.some.injEq, Bool.and_eq_true, Bool.and_eq_true, decide_eq_true_eq,
    and_assoc (a := allBoundsFit parts = true), eq_comm (a := ofParts parts)]

/-- A pattern that is within the limits between anchors is within them on its own. -/
theorem ofParts?_of_wholeName {m : Automaton} (h : ofParts? [n.wholeName] = some m) :
    m = ofParts [n.wholeName] ∧ allBoundsFit [n.wholeName] = true ∧ ∃ own, ofParts? [n] = some own := by
  obtain ⟨⟨hbounds, hdeep, hsize⟩, rfl⟩ := ofParts?_eq_some.1 h
  refine ⟨rfl, hbounds, ofParts [n], ofParts?_eq_some.2 ⟨?_, rfl⟩⟩
  have hnesting := nesting_mono n
  by_cases hempty : n.isEmpty = true
  · obtain rfl : n = .empty := by cases n <;> first | rfl | cases hempty
    exact ⟨rfl, Nat.zero_le _, SizeLimit.admits_empty⟩
  · simp only [Node.wholeName, hempty, allBoundsFit, boundsFit, deepest, nesting, Bool.and_true, Bool.true_and,
      Bool.false_eq_true, if_false] at hbounds hdeep hsize ⊢
    refine ⟨hbounds, ?_, SizeLimit.admits_anchored hsize⟩
    omega

end

end Automaton

end Regular

/-! ## Other patterns -/

namespace Program

section

variable [SizeLimit] {groups : Nat} {program : Program}

/-- The program of a node put on at one place: the search through the text is left out. -/
def ofBody? (referenced : List Nat) (groups : Nat) (n : Node) : Option Program :=
  (build referenced true n 0 ⟨#[.accept], 2 * (groups + 1)⟩).map fun (start, code) => ⟨code.instructions, start, code.slots⟩

/-- A search stands behind the instructions of a node. -/
theorem ofNode?_eq_some : ofNode? referenced groups n = some program ↔
    ∃ start code, build referenced true n 0 ⟨#[.accept], 2 * (groups + 1)⟩ = some (start, code) ∧
      program = ⟨(code.instructions.push (.split start (code.instructions.size + 1))).push
        (.atom (.any true) code.instructions.size), code.instructions.size, code.slots⟩ := by
  have hset : ∀ (is : Array Instruction) (i j k : Instruction),
      ((is.push i).push j).setIfInBounds is.size k = (is.push k).push j := by
    intro is i j k
    apply Array.ext <;> grind
  simp only [ofNode?, inARow, List.foldlM_cons, List.foldlM_nil, around, add, Option.bind_eq_bind, Option.bind_some,
    Option.bind_assoc, Option.pure_def, hset, Array.size_push]
  rw [Option.bind_eq_some_iff]
  constructor
  · rintro ⟨⟨start, code⟩, hbuild, h⟩
    exact ⟨start, code, hbuild, (Option.some.inj h).symm⟩
  · rintro ⟨start, code, hbuild, rfl⟩
    exact ⟨(start, code), hbuild, rfl⟩

/-- The instructions of a node between anchors. -/
theorem build_wholeName (hhard : n.isHard referenced = true) :
    build referenced true n.wholeName = inARow [regular [.anchor .textEnd], inARow [build referenced true n],
      regular [.anchor .textStart]] := by
  have hempty : n.isEmpty = false := by cases n <;> first | rfl | cases hhard
  have hfront : frontLength referenced [.anchor .textStart, n, .anchor .textEnd] = 1 := by
    simp [frontLength, List.takeWhile, Node.hasFixedLength, Node.isHard, Anchor.seesWords, hhard]
  have hback : backLength referenced true [n, .anchor .textEnd] = 1 := by
    simp [backLength, List.takeWhile, Node.hasFixedLength, Node.isHard, Anchor.seesWords, hhard]
  rw [Node.wholeName, hempty, if_neg Bool.false_ne_true, build]
  simp only [Bool.true_or, if_true, hfront, List.drop_succ_cons, List.drop_zero, hback, List.length_cons, List.length_nil]
  rfl

/-- An automaton of an anchor. -/
theorem regular_anchor {a : Anchor} {next : Nat} {code : Code} {result : Nat × Code}
    (h : regular [.anchor a] next code = some result) :
    add (.regular (.ofParts [.anchor a]) next) code = some result := by
  obtain ⟨m, hm, h⟩ := Option.bind_eq_some_iff.1 h
  rwa [(Automaton.ofParts?_eq_some.1 hm).2] at h

end

theorem inARow_cons {b : Build} {rest : List Build} {next : Nat} {code : Code} {result : Nat × Code} :
    inARow (b :: rest) next code = some result ↔
      ∃ s c, b next code = some (s, c) ∧ inARow rest s c = some result := by
  rw [inARow, List.foldlM_cons, Option.bind_eq_bind, Option.bind_eq_some_iff, Prod.exists]
  rfl

/-- At first there is only the instruction that accepts, and the one that stands for it. -/
theorem shifted_accept (e : Instruction) (slots : Nat) : Shifted e [] ⟨#[.accept], slots⟩ ⟨#[.accept, e], slots⟩ where
  slots := rfl
  size := rfl
  accept := rfl
  first := rfl
  instead := rfl
  others k hk := by
    rw [Array.getElem?_eq_none (show 2 ≤ k + 1 from Nat.succ_le_succ hk), Array.getElem?_eq_none hk]
    rfl
  within k i hi t ht := by
    cases k with
    | zero =>
      cases hi
      cases ht
    | succ k =>
      rw [Array.getElem?_eq_none (Nat.succ_le_succ (Nat.zero_le k))] at hi
      cases hi
  accepts k hk := .inl (Nat.lt_one_iff.1 (Array.getElem?_eq_some_iff.1 hk).1)

/-- The instructions around a node between anchors. -/
theorem wraps_of_shifted {first last : Automaton} {s : Nat} {c d : Code} (h : Shifted (.regular last 0) [] c d)
    (hs : s < c.instructions.size) :
    Machine.Wraps
      ⟨((d.instructions.push (.regular first (s + 1))).push (.split d.instructions.size (d.instructions.size + 2))).push
        (.atom (.any true) (d.instructions.size + 1)), d.instructions.size + 1, d.slots⟩
      ⟨c.instructions, s, c.slots⟩ first last d.instructions.size := by
  have hkeeps : ∀ (k : Nat) (i₁ i₂ i₃ : Instruction) (i : Instruction), d.instructions[k]? = some i →
      (((d.instructions.push i₁).push i₂).push i₃)[k]? = some i := by
    grind
  exact
    { slots := h.slots
      entry := rfl
      search := by grind
      skip := by grind
      first := by grind
      last := hkeeps _ _ _ _ _ h.instead
      start := hs
      accept := h.accept
      others := fun k i hk hi => hkeeps _ _ _ _ _ (by rw [h.others k hk, hi]; rfl)
      within := h.within
      accepts := fun k hk => (h.accepts k hk).resolve_right List.not_mem_nil }

/-- The program of a pattern between anchors holds the one of the pattern itself. -/
theorem wraps_of_wholeName [SizeLimit] {groups : Nat} {whole : Program} (hhard : n.isHard referenced = true)
    (h : ofNode? referenced groups n.wholeName = some whole) :
    ∃ own head, ofBody? referenced groups n = some own ∧
      Machine.Wraps whole own (.ofParts [.anchor .textStart]) (.ofParts [.anchor .textEnd]) head := by
  obtain ⟨start, code, hbuild, rfl⟩ := ofNode?_eq_some.1 h
  rw [build_wholeName hhard] at hbuild
  obtain ⟨_, _, hlast, hbuild⟩ := inARow_cons.1 hbuild
  cases regular_anchor hlast
  obtain ⟨s', c', hnode, hbuild⟩ := inARow_cons.1 hbuild
  obtain ⟨_, _, hfirst, hbuild⟩ := inARow_cons.1 hbuild
  cases regular_anchor hfirst
  cases hbuild
  obtain ⟨_, _, hnode, hbuild⟩ := inARow_cons.1 hnode
  cases hbuild
  -- behind the instruction that accepts stands the end of the text, and then the pattern's own instructions
  have hshifted := shifted_accept (.regular (.ofParts [.anchor .textEnd]) 0) (2 * (groups + 1))
  obtain ⟨s, c, hown, rfl, hs, -, h⟩ := Moves.build referenced true n hshifted Nat.one_pos s' c' hnode
  refine ⟨⟨c.instructions, s, c.slots⟩, c'.instructions.size, ?_, ?_⟩
  · rw [ofBody?, hown]
    rfl
  · simp only [Array.size_push]
    exact wraps_of_shifted h hs

end Program

/-! ## Whole names -/

variable [SizeLimit]

/-- A pattern matches a text from start to end: as a relation of places if it is regular, and by a run of its
program otherwise. -/
def Source.MatchesWhole (s : Source) (text : Array Char) : Prop :=
  if s.node.isHard s.referenced = true then
    ∃ own, Program.ofBody? s.referenced s.groups s.node = some own ∧ Machine.EndsWithText own text (Machine.init own)
  else s.node.Spans text 0 text.size

namespace Matcher

variable {pattern : String} {own : Source} {m : Matcher} {name : String}

/-- What the matcher between anchors is made of. -/
theorem ofText?_anchored (hown : Source.ofText? pattern = some own) (h : ofText? (anchored pattern) = some m) :
    if own.node.isHard own.referenced = true then
      ∃ program, Program.ofNode? own.referenced own.groups own.node.wholeName = some program ∧ m = .program program
    else ∃ a, Automaton.ofParts? [own.node.wholeName] = some a ∧ m = .automaton a := by
  obtain ⟨whole, hwhole, h⟩ := Option.bind_eq_some_iff.1 h
  obtain rfl := Source.ofText?_anchored hown hwhole
  dsimp only at h
  rw [Node.isHard_wholeName] at h
  split at h
  · rename_i hhard
    rw [if_pos hhard]
    obtain ⟨program, hprogram, h⟩ := Option.bind_eq_some_iff.1 h
    exact ⟨program, hprogram, (Option.some.inj h).symm⟩
  · rename_i hregular
    rw [if_neg hregular]
    obtain ⟨a, ha, h⟩ := Option.bind_eq_some_iff.1 h
    exact ⟨a, ha, (Option.some.inj h).symm⟩

/-- A regular pattern between anchors finds a match in a text just if it matches all of it. -/
theorem finds_iff_spans (hown : Source.ofText? pattern = some own) (hregular : own.node.isHard own.referenced = false)
    (h : ofText? (anchored pattern) = some m) :
    m.finds name = .ok true ↔ own.node.Spans name.toList.toArray 0 name.toList.toArray.size := by
  have hmatcher := ofText?_anchored hown h
  rw [hregular, if_neg Bool.false_ne_true] at hmatcher
  obtain ⟨a, ha, rfl⟩ := hmatcher
  obtain ⟨rfl, hbounds, -⟩ := Automaton.ofParts?_of_wholeName ha
  rw [finds, Except.ok.injEq, Automaton.finds_ofParts hbounds, Node.spans_wholeName]

/-- A pattern that is one by itself only finds a match between anchors in a text that it matches from start
to end, and has a matcher by itself. -/
theorem matchesWhole_of_finds (hown : Source.ofText? pattern = some own) (h : ofText? (anchored pattern) = some m)
    (hfinds : m.finds name = .ok true) : own.MatchesWhole name.toList.toArray := by
  unfold Source.MatchesWhole
  split
  · rename_i hhard
    have hmatcher := ofText?_anchored hown h
    rw [if_pos hhard] at hmatcher
    obtain ⟨program, hprogram, rfl⟩ := hmatcher
    obtain ⟨body, head, hbody, hw⟩ := Program.wraps_of_wholeName hhard hprogram
    refine ⟨body, hbody, hw.endsWithText (fun i j hend => ?_) (fun i j hend => ?_) hfinds⟩
    · obtain ⟨hi, ha, rfl⟩ := Automaton.endFrom?_anchor hend
      have := (Anchor.holdsAt_textStart hi).1 ha
      exact ⟨this, this⟩
    · obtain ⟨hi, ha, rfl⟩ := Automaton.endFrom?_anchor hend
      exact Nat.le_antisymm hi (Anchor.holdsAt_textEnd.1 ha)
  · rename_i hregular
    exact (finds_iff_spans hown (Bool.eq_false_iff.2 hregular) h).1 hfinds

theorem exists_ofText?_of_anchored (hown : Source.ofText? pattern = some own) (h : ofText? (anchored pattern) = some m) :
    ∃ m, ofText? pattern = some m := by
  have hmatcher := ofText?_anchored hown h
  unfold ofText?
  rw [hown, Option.bind_eq_bind, Option.bind_some]
  split at hmatcher
  · rename_i hhard
    rw [if_pos hhard]
    obtain ⟨program, hprogram, -⟩ := hmatcher
    obtain ⟨body, head, hbody, -⟩ := Program.wraps_of_wholeName hhard hprogram
    obtain ⟨⟨start, code⟩, hbuild, -⟩ := Option.map_eq_some_iff.1 hbody
    rw [Program.ofNode?_eq_some.2 ⟨start, code, hbuild, rfl⟩]
    exact ⟨_, rfl⟩
  · rename_i hregular
    rw [if_neg hregular]
    obtain ⟨a, ha, -⟩ := hmatcher
    obtain ⟨-, -, b, hb⟩ := Automaton.ofParts?_of_wholeName ha
    rw [hb]
    exact ⟨_, rfl⟩

end Matcher

end TokenOverlay.Pattern
