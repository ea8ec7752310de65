/-
All matches that a program finds from a place on. A run ends at the first match; a run that goes on after
it as if it had failed takes up the next choice and comes to the other ones. Among these a search for a
whole name picks one: where the start of the text stands in front of a node and its end behind it, the
search finds a match only if the program of the node, put at the start of the text and resumed often
enough, comes to a match that ends where the text does.
-/
import Mathlib.Logic.Relation
import TokenOverlay.Pattern.Machine
import TokenOverlay.Proofs.Pattern.Shifted

namespace TokenOverlay.Pattern.Machine

open Relation (ReflTransGen)

variable {program : Program} {text : Array Char}

/-! ## Resumed runs -/

/-- One step of a run that takes a match for a failure. -/
def resume (program : Program) (text : Array Char) : Place × Choices → Option (Place × Choices)
  | (p, c) =>
    match step program text c.size p with
    | .go p => some (p, c)
    | .fork p later => (c.push later).map (p, ·)
    | .cut p n => some (p, c.keep n)
    | .refuse past => (c.refuse past).pop
    | .fail | .accept => c.pop
    | .fault _ => none

/-- A resumed run leads from one place to another. -/
def Resumes (program : Program) (text : Array Char) : Place × Choices → Place × Choices → Prop :=
  ReflTransGen fun x y => resume program text x = some y

/-- A match is found just where a run stands. -/
def Matches (program : Program) (text : Array Char) (x : Place × Choices) : Prop :=
  step program text x.2.size x.1 = .accept

/-- Where a run of a program begins. -/
def init (program : Program) : Place × Choices :=
  (⟨program.start, 0, Array.replicate program.slots none, []⟩, ⟨[], 0, maxBacktracks⟩)

theorem exists_matches_of_run {fuel : Nat} {p : Place} {c : Choices} (h : run program text fuel p c = .ok true) :
    ∃ x, Resumes program text (p, c) x ∧ Matches program text x := by
  induction fuel generalizing p c with
  | zero => cases h
  | succ fuel ih =>
    -- a step that is no match is one of the resumed run as well
    have hgo : ∀ {q d}, resume program text (p, c) = some (q, d) → run program text fuel q d = .ok true →
        ∃ x, Resumes program text (p, c) x ∧ Matches program text x := by
      intro q d hstep hrun
      obtain ⟨x, hx, hmatch⟩ := ih hrun
      exact ⟨x, .head hstep hx, hmatch⟩
    rw [run] at h
    split at h
    · rename_i q hq
      exact hgo (by rw [resume, hq]) h
    · rename_i q later hq
      split at h
      · rename_i d hd
        exact hgo (by simp only [resume, hq, hd, Option.map_some]) h
      · cases h
    · rename_i q n hq
      exact hgo (by rw [resume, hq]) h
    · rename_i past hq
      split at h
      · rename_i q d hd
        exact hgo (by simp only [resume, hq, hd]) h
      · cases h
    · rename_i hq
      split at h
      · rename_i q d hd
        exact hgo (by simp only [resume, hq, hd]) h
      · cases h
    · rename_i hq
      exact ⟨(p, c), .refl, hq⟩
    · cases h

/-- What a search finds is a match of a resumed run. -/
theorem exists_matches_of_finds (h : finds program text = .ok true) :
    ∃ x, Resumes program text (init program) x ∧ Matches program text x :=
  exists_matches_of_run h

/-! ## A place further on -/

namespace Place

/-- The place before an instruction one further on, with one more choice in front of all others. -/
def shift (p : Place) : Place :=
  { p with pc := p.pc + 1, held := p.held.map (· + 1) }

end Place

namespace Effect

/-- The effect of an instruction one place further on. -/
def shift : Effect → Effect
  | go p => go p.shift
  | fork p later => fork p.shift later.shift
  | cut p choices => cut p.shift (choices + 1)
  | refuse past => refuse (past + 1)
  | fail => fail
  | accept => accept
  | fault f => fault f

theorem shift_ite (c : Prop) [Decidable c] (x y : Effect) :
    (if c then x else y).shift = if c then x.shift else y.shift :=
  apply_ite shift c x y

/-- Where an effect may lead. -/
def places : Effect → List Place
  | go p | cut p _ => [p]
  | fork p later => [p, later]
  | refuse _ | fail | accept | fault _ => []

/-- An effect leads to some instructions only, and is no match. -/
structure LeadsTo (targets : List Nat) (x : Effect) : Prop where
  ne_accept : x ≠ .accept
  places : ∀ p ∈ x.places, p.pc ∈ targets

namespace LeadsTo

variable {targets : List Nat} {p later : Place} {x y : Effect}

theorem go (hp : p.pc ∈ targets) : LeadsTo targets (.go p) :=
  ⟨nofun, List.forall_mem_singleton.2 hp⟩

theorem fork (hp : p.pc ∈ targets) (hlater : later.pc ∈ targets) : LeadsTo targets (.fork p later) :=
  ⟨nofun, List.forall_mem_cons.2 ⟨hp, List.forall_mem_singleton.2 hlater⟩⟩

theorem fail : LeadsTo targets .fail :=
  ⟨nofun, nofun⟩

theorem refuse {past : Nat} : LeadsTo targets (.refuse past) :=
  ⟨nofun, nofun⟩

theorem fault {f : Fault} : LeadsTo targets (.fault f) :=
  ⟨nofun, nofun⟩

theorem ite {c : Prop} [Decidable c] (hx : LeadsTo targets x) (hy : LeadsTo targets y) :
    LeadsTo targets (if c then x else y) := by
  split
  · exact hx
  · exact hy

theorem choose (greedy : Bool) {body past : Nat} (hbody : body ∈ targets) (hpast : past ∈ targets) :
    LeadsTo targets (p.choose greedy body past) :=
  ite (fork hbody hpast) (fork hpast hbody)

end LeadsTo

end Effect

variable {e i : Instruction} {whole own : Program} {choices : Nat} {p : Place}

namespace Place

@[simp] theorem shift_offset : p.shift.offset = p.offset := rfl

@[simp] theorem shift_slot (slot : Nat) : p.shift.slot slot = p.slot slot := rfl

@[simp] theorem shift_setSlot (slot n : Nat) : p.shift.setSlot slot n = (p.setSlot slot n).shift := rfl

@[simp] theorem shift_goTo (pc : Nat) : p.shift.goTo (pc + 1) = (p.goTo pc).shift := rfl

@[simp] theorem shift_moveTo (offset pc : Nat) : p.shift.moveTo offset (pc + 1) = (p.moveTo offset pc).shift := rfl

@[simp] theorem shift_choose (greedy : Bool) (body past : Nat) :
    p.shift.choose greedy (body + 1) (past + 1) = (p.choose greedy body past).shift := by
  cases greedy <;> rfl

theorem shift_reference (group next : Nat) :
    p.shift.reference text group (next + 1) = (p.reference text group next).shift := by
  simp only [reference, shift_slot, shift_offset, shift_moveTo]
  cases p.slot (2 * group) with
  | none => rfl
  | some low =>
    cases p.slot (2 * group + 1) with
    | none => rfl
    | some high =>
      simp only [Effect.shift_ite]
      rfl

theorem shift_count (slot least : Nat) (most : Option Nat) (greedy : Bool) (body past : Nat) :
    p.shift.count slot least most greedy (body + 1) (past + 1) = (p.count slot least most greedy body past).shift := by
  simp only [count, shift_slot, shift_setSlot, shift_goTo, shift_choose, Effect.shift_ite]
  rfl

theorem shift_countMoving (slot place least : Nat) (greedy : Bool) (body past : Nat) :
    p.shift.countMoving slot place least greedy (body + 1) (past + 1) =
      (p.countMoving slot place least greedy body past).shift := by
  simp only [countMoving, shift_slot, shift_offset, shift_setSlot, shift_goTo, shift_choose, Effect.shift_ite]
  rfl

end Place

/-- An instruction a place further on does the same there. -/
theorem step_shift (hown : own.instructions[p.pc]? = some i) (hwhole : whole.instructions[p.pc + 1]? = some i.shift) :
    step whole text (choices + 1) p.shift = (step own text choices p).shift := by
  have hshift : whole.instructions[p.shift.pc]? = some i.shift := hwhole
  rw [step, step, hown, hshift]
  cases i with
  | atom a next =>
    simp only [Instruction.shift, Place.shift_offset, Place.shift_moveTo]
    cases text[p.offset]? with
    | none => rfl
    | some c =>
      simp only [Effect.shift_ite]
      rfl
  | anchor a next =>
    simp only [Instruction.shift, Place.shift_offset, Place.shift_goTo, Effect.shift_ite]
    rfl
  | regular m next =>
    simp only [Instruction.shift, Place.shift_offset, Place.shift_moveTo]
    cases m.endFrom? text p.offset <;> rfl
  | back n next =>
    simp only [Instruction.shift, Place.shift_offset, Place.shift_moveTo, Effect.shift_ite]
    rfl
  | count slot least most greedy body past => exact Place.shift_count ..
  | countMoving slot place least greedy body past => exact Place.shift_countMoving ..
  | reference group next => exact Place.shift_reference ..
  | matched group next =>
    simp only [Instruction.shift, Place.shift_slot, Place.shift_goTo, Effect.shift_ite]
    rfl
  | searchStart next =>
    simp only [Instruction.shift, Place.shift_offset, Place.shift_goTo, Effect.shift_ite]
    rfl
  | release next =>
    cases hheld : p.held with
    | nil => simp [Instruction.shift, Place.shift, Effect.shift, hheld]
    | cons n rest => simp [Instruction.shift, Place.shift, Effect.shift, hheld]
  | _ => rfl

/-- An instruction that does not accept leads to its targets only. -/
theorem step_leadsTo (hown : own.instructions[p.pc]? = some i) (hi : i ≠ .accept) :
    (step own text choices p).LeadsTo i.targets := by
  rw [step, hown]
  cases i with
  | atom a next =>
    dsimp only
    split
    · exact .ite (.go List.mem_cons_self) .fail
    · exact .fail
  | regular m next =>
    dsimp only
    split
    · exact .go List.mem_cons_self
    · exact .fail
  | anchor a next => exact .ite (.go List.mem_cons_self) .fail
  | split first second => exact .fork List.mem_cons_self (List.mem_cons_of_mem _ List.mem_cons_self)
  | back n next => exact .ite (.go List.mem_cons_self) .fail
  | refuse past => exact .refuse
  | count slot least most greedy body past =>
    have hpast : past ∈ [body, past] := List.mem_cons_of_mem _ List.mem_cons_self
    exact .ite (.go hpast) (.ite (.choose greedy List.mem_cons_self hpast) (.go List.mem_cons_self))
  | countMoving slot place least greedy body past =>
    have hpast : past ∈ [body, past] := List.mem_cons_of_mem _ List.mem_cons_self
    exact .ite .fail (.ite (.choose greedy List.mem_cons_self hpast) (.go List.mem_cons_self))
  | reference group next =>
    dsimp only [Place.reference]
    split
    · exact .ite .fault (.ite (.go List.mem_cons_self) .fail)
    · exact .fail
  | matched group next => exact .ite (.go List.mem_cons_self) .fail
  | searchStart next => exact .ite (.go List.mem_cons_self) .fail
  | accept => exact absurd rfl hi
  | _ => exact ⟨(fun h => by cases h), List.forall_mem_singleton.2 List.mem_cons_self⟩

/-! ## Choices above another one -/

theorem Choices.pop_eq_some {c d : Choices} :
    c.pop = some (p, d) ↔ c.stack = p :: d.stack ∧ c.budget ≠ 0 ∧ d.size = c.size - 1 ∧ d.budget = c.budget - 1 := by
  obtain ⟨stack, size, budget⟩ := d
  rw [pop]
  constructor
  · intro h
    split at h
    · cases h
    · rename_i hstack
      split at h
      · cases h
      · rename_i hbudget
        cases h
        exact ⟨hstack, hbudget, rfl, rfl⟩
  · rintro ⟨hstack, hbudget, rfl, rfl⟩
    rw [hstack]
    exact if_neg hbudget

/-- The same choices in two runs, those of the second one a place further on and above one more choice. -/
structure Above (bottom : Place) (bound : Nat) (c d : Choices) : Prop where
  stack : d.stack = c.stack.map Place.shift ++ [bottom]
  size : d.size = c.size + 1
  budget : d.budget = c.budget
  length : c.size = c.stack.length
  within : ∀ q ∈ c.stack, q.pc < bound

namespace Above

variable {bottom q : Place} {bound n past : Nat} {c d d' : Choices}

theorem push (h : Above bottom bound c d) (hq : q.pc < bound) (hd : d.push q.shift = some d') :
    ∃ c', c.push q = some c' ∧ Above bottom bound c' d' := by
  unfold Choices.push at hd
  split at hd
  · rename_i hsize
    cases hd
    rw [h.size] at hsize
    refine ⟨_, if_pos (Nat.lt_of_succ_lt hsize), ?_⟩
    exact
      { stack := by simp [h.stack]
        size := by simp [h.size]
        budget := h.budget
        length := by simp [h.length]
        within := List.forall_mem_cons.2 ⟨hq, h.within⟩ }
  · cases hd

theorem pop (h : Above bottom bound c d) (hd : d.pop = some (p, d')) :
    (∃ q c', c.pop = some (q, c') ∧ p = q.shift ∧ q.pc < bound ∧ Above bottom bound c' d') ∨
      (p = bottom ∧ d'.stack = []) := by
  obtain ⟨hstack, hbudget, hsize, hbudget'⟩ := Choices.pop_eq_some.1 hd
  rw [h.stack] at hstack
  cases hc : c.stack with
  | nil =>
    rw [hc, List.map_nil, List.nil_append, List.cons.injEq] at hstack
    exact .inr ⟨hstack.1.symm, hstack.2.symm⟩
  | cons q rest =>
    rw [hc, List.map_cons, List.cons_append, List.cons.injEq] at hstack
    have hwithin := h.within
    have hlength := h.length
    rw [hc, List.forall_mem_cons] at hwithin
    rw [hc, List.length_cons] at hlength
    refine .inl ⟨q, ⟨rest, c.size - 1, c.budget - 1⟩,
      Choices.pop_eq_some.2 ⟨hc, h.budget ▸ hbudget, rfl, rfl⟩, hstack.1.symm, hwithin.1, ?_⟩
    exact
      { stack := hstack.2.symm
        size := by rw [hsize, h.size, hlength]; rfl
        budget := by rw [hbudget', h.budget]
        length := by rw [hlength]; rfl
        within := hwithin.2 }

theorem keep (h : Above bottom bound c d) : Above bottom bound (c.keep n) (d.keep (n + 1)) where
  stack := by
    have hdrop : c.size - n ≤ (c.stack.map Place.shift).length := by rw [List.length_map, h.length]; omega
    simp only [Choices.keep, h.stack, h.size]
    rw [Nat.add_sub_add_right, List.drop_append_of_le_length hdrop, List.map_drop]
  size := by simp only [Choices.keep, h.size]; omega
  budget := h.budget
  length := by simp only [Choices.keep, List.length_drop, ← h.length]; omega
  within q hq := h.within q (List.mem_of_mem_drop hq)

theorem dropTo (bottom : Place) (past : Nat) (stack : List Place) :
    (∃ rest, Choices.dropTo past stack stack.length = (rest, rest.length) ∧
      Choices.dropTo (past + 1) (stack.map Place.shift ++ [bottom]) (stack.length + 1) =
        (rest.map Place.shift ++ [bottom], rest.length + 1) ∧ ∀ q ∈ rest, q ∈ stack) ∨
      (Choices.dropTo (past + 1) (stack.map Place.shift ++ [bottom]) (stack.length + 1)).1 = [] := by
  induction stack with
  | nil =>
    refine .inr ?_
    rw [List.map_nil, List.nil_append, Choices.dropTo]
    split <;> rfl
  | cons q rest ih =>
    simp only [Choices.dropTo, List.map_cons, List.cons_append, List.length_cons, Nat.add_sub_cancel]
    by_cases hq : q.pc = past
    · exact .inl ⟨rest, if_pos hq, if_pos (congrArg (· + 1) hq), fun q => List.mem_cons_of_mem _⟩
    · rw [if_neg hq, if_neg (show q.shift.pc ≠ past + 1 from fun h => hq (Nat.succ.inj h))]
      obtain ⟨rest', h, h', hmem⟩ | h := ih
      · exact .inl ⟨rest', h, h', fun q hq => List.mem_cons_of_mem _ (hmem q hq)⟩
      · exact .inr h

/-- Dropping choices ends above the one below, unless all are dropped. -/
theorem refuse (h : Above bottom bound c d) (past : Nat) :
    Above bottom bound (c.refuse past) (d.refuse (past + 1)) ∨ (d.refuse (past + 1)).stack = [] := by
  unfold Choices.refuse
  rw [h.stack, h.size, h.length]
  obtain ⟨rest, hc, hd, hmem⟩ | hd := dropTo bottom past c.stack
  · rw [hc, hd]
    exact .inl
      { stack := rfl
        size := rfl
        budget := h.budget
        length := rfl
        within := fun q hq => h.within q (hmem q hq) }
  · exact .inr hd

end Above

/-! ## A node between anchors -/

/-- A program stands in another one behind an automaton that goes on to its start, and another automaton
stands for the instruction that accepts. In front of both a search goes through the text. -/
structure Wraps (whole own : Program) (first last : Automaton) (head : Nat) : Prop where
  slots : whole.slots = own.slots
  entry : whole.start = head + 1
  search : whole.instructions[head + 1]? = some (.split head (head + 2))
  skip : whole.instructions[head + 2]? = some (.atom (.any true) (head + 1))
  first : whole.instructions[head]? = some (.regular first (own.start + 1))
  last : whole.instructions[1]? = some (.regular last 0)
  start : own.start < own.instructions.size
  accept : own.instructions[0]? = some .accept
  others : ∀ k i, 0 < k → own.instructions[k]? = some i → whole.instructions[k + 1]? = some i.shift
  within : ∀ (k : Nat) (i : Instruction), own.instructions[k]? = some i → ∀ t ∈ i.targets, t < own.instructions.size
  accepts : ∀ k, own.instructions[k]? = some .accept → k = 0

/-- A run of the whole program is inside: it stands where a run of the own program does. -/
structure Inside (own : Program) (bottom : Place) (x y : Place × Choices) : Prop where
  place : y.1 = x.1.shift
  within : x.1.pc < own.instructions.size
  choices : Above bottom own.instructions.size x.2 y.2

/-- The search goes on behind the first place. -/
inductive Lost (head : Nat) : Place × Choices → Prop
  | skip {p c} (hp : p.pc = head + 2) (hc : c.stack = []) : Lost head (p, c)
  | search {p c} (hp : p.pc = head + 1) (hoffset : 0 < p.offset) (hc : c.stack = []) : Lost head (p, c)
  | first {p c q} (hp : p.pc = head) (hoffset : 0 < p.offset) (hc : c.stack = [q]) (hq : q.pc = head + 2) :
    Lost head (p, c)

section Wraps

variable {first last : Automaton} {head : Nat} {bottom : Place} {x y z : Place × Choices}

theorem step_regular {m : Automaton} {next : Nat} (h : program.instructions[p.pc]? = some (.regular m next)) :
    step program text choices p = match m.endFrom? text p.offset with
      | some last => .go (p.moveTo last next)
      | none => .fail := by
  cases hend : m.endFrom? text p.offset <;> simp only [step, h, hend]

/-- Only an instruction that accepts is a match. -/
theorem not_matches (h : program.instructions[x.1.pc]? = some i) (hi : i ≠ .accept) : ¬ Matches program text x :=
  (step_leadsTo h hi).ne_accept

theorem not_pop_of_stack {c d : Choices} (hc : c.stack = []) : c.pop ≠ some (p, d) := by
  intro h
  rw [(Choices.pop_eq_some.1 h).1] at hc
  cases hc

namespace Lost

variable (hw : Wraps whole own first last head) (hfirst : ∀ i j, first.endFrom? text i = some j → i = 0)

include hw hfirst

theorem resume (h : Lost head y) (hz : resume whole text y = some z) : Lost head z := by
  cases h with
  | @skip p c hp hc =>
    have hstep : step whole text c.size p =
        text[p.offset]?.elim .fail fun _ => .go (p.moveTo (p.offset + 1) (head + 1)) := by
      rw [step, hp, hw.skip]
      cases text[p.offset]? <;> rfl
    rw [Machine.resume, hstep] at hz
    cases hchar : text[p.offset]? with
    | none =>
      rw [hchar] at hz
      exact absurd hz (not_pop_of_stack hc)
    | some a =>
      rw [hchar] at hz
      cases hz
      exact .search rfl (Nat.succ_pos _) hc
  | @search p c hp hoffset hc =>
    have hstep : step whole text c.size p = .fork (p.goTo head) (p.goTo (head + 2)) := by
      rw [step, hp, hw.search]
    rw [Machine.resume, hstep] at hz
    obtain ⟨d, hd, rfl⟩ := Option.map_eq_some_iff.1 hz
    unfold Choices.push at hd
    split at hd
    · cases hd
      exact .first rfl hoffset (by rw [hc]) rfl
    · cases hd
  | @first p c q hp hoffset hc hq =>
    have hstep : step whole text c.size p = _ := step_regular (hp ▸ hw.first)
    cases hend : first.endFrom? text p.offset with
    | some j => exact absurd (hfirst _ _ hend) (Nat.ne_of_gt hoffset)
    | none =>
      rw [hend] at hstep
      rw [Machine.resume, hstep] at hz
      obtain ⟨hstack, -, -⟩ := Choices.pop_eq_some.1 hz
      rw [hc, List.cons.injEq] at hstack
      exact .skip (hstack.1 ▸ hq) hstack.2.symm

omit hfirst in
theorem not_matches (h : Lost head y) : ¬ Matches whole text y := by
  cases h with
  | skip hp hc => exact Machine.not_matches (i := .atom (.any true) (head + 1)) (hp ▸ hw.skip) nofun
  | search hp hoffset hc => exact Machine.not_matches (i := .split head (head + 2)) (hp ▸ hw.search) nofun
  | first hp hoffset hc hq => exact Machine.not_matches (i := .regular first (own.start + 1)) (hp ▸ hw.first) nofun

theorem resumes (h : Lost head y) (hz : Resumes whole text y z) : Lost head z := by
  induction hz with
  | refl => exact h
  | tail _ hstep ih => exact ih.resume hw hfirst hstep

end Lost

/-- A run of a program, resumed after every match, comes to a match that ends where the text does. -/
def EndsWithText (own : Program) (text : Array Char) (x : Place × Choices) : Prop :=
  ∃ z, Resumes own text x z ∧ Matches own text z ∧ z.1.offset = text.size

namespace Inside

variable (hw : Wraps whole own first last head) (hlast : ∀ i j, last.endFrom? text i = some j → i = text.size)

include hw

/-- The instruction where a run inside stands, unless it is at the end of the node. -/
theorem exists_instruction (h : Inside own bottom x y) (hpc : x.1.pc ≠ 0) :
    ∃ i, own.instructions[x.1.pc]? = some i ∧ i ≠ .accept ∧ whole.instructions[y.1.pc]? = some i.shift := by
  have hown := Array.getElem?_eq_getElem h.within
  refine ⟨_, hown, fun haccept => hpc (hw.accepts _ (haccept ▸ hown)), ?_⟩
  rw [h.place]
  exact hw.others _ _ (Nat.pos_of_ne_zero hpc) hown

theorem not_matches (h : Inside own bottom x y) : ¬ Matches whole text y := by
  by_cases hpc : x.1.pc = 0
  · refine Machine.not_matches (i := .regular last 0) ?_ nofun
    rw [h.place, Place.shift, hpc]
    exact hw.last
  · obtain ⟨i, -, hi, hwhole⟩ := h.exists_instruction hw hpc
    exact Machine.not_matches hwhole fun hshift => hi (by cases i <;> cases hshift; rfl)

omit hw in
/-- A choice that is taken up is one of the own run, unless it is the one of the search. -/
theorem pop {c d : Choices} (h : Above bottom own.instructions.size c d) (hbottom : bottom.pc = head + 2)
    (hd : d.pop = some z) : (∃ x, c.pop = some x ∧ Inside own bottom x z) ∨ Lost head z := by
  obtain ⟨q, d'⟩ := z
  obtain ⟨p, c', hc, rfl, hp, h⟩ | ⟨rfl, hstack⟩ := h.pop hd
  · exact .inl ⟨(p, c'), hc, rfl, hp, h⟩
  · exact .inr (.skip hbottom hstack)

include hlast

/-- A run inside goes on as the own run does, unless that is at a match at the end of the text or has no
choices left. -/
theorem resume (h : Inside own bottom x y) (hbottom : bottom.pc = head + 2) (hz : resume whole text y = some z) :
    EndsWithText own text x ∨ (∃ x', Machine.resume own text x = some x' ∧ Inside own bottom x' z) ∨ Lost head z := by
  obtain ⟨p, c⟩ := x
  obtain ⟨q, d⟩ := y
  obtain rfl : q = p.shift := h.place
  have hchoices : Above bottom own.instructions.size c d := h.choices
  by_cases hpc : p.pc = 0
  · have hown : step own text c.size p = .accept := by
      rw [step, hpc, hw.accept]
    have hlastAt : whole.instructions[p.shift.pc]? = some (.regular last 0) := by
      rw [Place.shift, hpc]
      exact hw.last
    have hstep : step whole text d.size p.shift = _ := step_regular hlastAt
    -- the own run is at a match, and the whole one looks whether the text ends there
    cases hend : last.endFrom? text p.offset with
    | some j => exact .inl ⟨(p, c), .refl, hown, hlast _ _ hend⟩
    | none =>
      rw [Place.shift_offset, hend] at hstep
      rw [Machine.resume, hstep] at hz
      refine .inr ?_
      rw [Machine.resume, hown]
      exact pop hchoices hbottom hz
  · obtain ⟨i, hown, hi, hwhole⟩ := h.exists_instruction hw hpc
    have hstep : step whole text d.size p.shift = (step own text c.size p).shift := by
      rw [hchoices.size]
      exact step_shift hown hwhole
    have hleads : (step own text c.size p).LeadsTo i.targets := step_leadsTo hown hi
    have hwithin : ∀ r ∈ (step own text c.size p).places, r.pc < own.instructions.size :=
      fun r hr => hw.within _ _ hown _ (hleads.places r hr)
    refine .inr ?_
    rw [Machine.resume, hstep] at hz
    rw [Machine.resume]
    cases heffect : step own text c.size p with
    | go r =>
      rw [heffect] at hz hwithin
      cases hz
      exact .inl ⟨(r, c), rfl, rfl, hwithin r List.mem_cons_self, hchoices⟩
    | fork r later =>
      rw [heffect] at hz hwithin
      obtain ⟨d', hd', rfl⟩ := Option.map_eq_some_iff.1 hz
      obtain ⟨c', hc', hchoices⟩ := hchoices.push (hwithin later (List.mem_cons_of_mem _ List.mem_cons_self)) hd'
      exact .inl ⟨(r, c'), Option.map_eq_some_iff.2 ⟨c', hc', rfl⟩, rfl, hwithin r List.mem_cons_self, hchoices⟩
    | cut r n =>
      rw [heffect] at hz hwithin
      cases hz
      exact .inl ⟨(r, c.keep n), rfl, rfl, hwithin r List.mem_cons_self, hchoices.keep⟩
    | refuse past =>
      rw [heffect] at hz
      obtain hchoices | hstack := hchoices.refuse past
      · exact pop hchoices hbottom hz
      · exact absurd hz (not_pop_of_stack hstack)
    | fail =>
      rw [heffect] at hz
      exact pop hchoices hbottom hz
    | accept => exact absurd heffect hleads.ne_accept
    | fault f =>
      rw [heffect] at hz
      cases hz

theorem endsWithText (hfirst : ∀ i j, first.endFrom? text i = some j → i = 0) (h : Inside own bottom x y)
    (hbottom : bottom.pc = head + 2) (hz : Resumes whole text y z) (hmatch : Matches whole text z) : EndsWithText own text x := by
  induction hz using ReflTransGen.head_induction_on generalizing x with
  | refl => exact absurd hmatch (h.not_matches hw)
  | head hstep hrest ih =>
    obtain hends | ⟨x', hx', h⟩ | hlost := h.resume hw hlast hbottom hstep
    · exact hends
    · obtain ⟨z', hz', hends⟩ := ih h
      exact ⟨z', .head hx' hz', hends⟩
    · exact absurd hmatch ((hlost.resumes hw hfirst hrest).not_matches hw)

end Inside

/-- A search of the whole program finds a match only if the own program does, from the start of the text to
its end. -/
theorem Wraps.endsWithText (hw : Wraps whole own first last head)
    (hfirst : ∀ i j, first.endFrom? text i = some j → i = 0 ∧ j = 0)
    (hlast : ∀ i j, last.endFrom? text i = some j → i = text.size) (h : finds whole text = .ok true) :
    EndsWithText own text (init own) := by
  obtain ⟨z, hz, hmatch⟩ := exists_matches_of_finds h
  have hfirst' : ∀ i j, first.endFrom? text i = some j → i = 0 := fun i j h => (hfirst i j h).1
  let p : Place := ⟨head, 0, Array.replicate own.slots none, []⟩
  let bottom : Place := ⟨head + 2, 0, Array.replicate own.slots none, []⟩
  have hinit : init whole = (p.goTo (head + 1), ⟨[], 0, maxBacktracks⟩) := by
    rw [init, hw.entry, hw.slots]
    rfl
  rw [hinit] at hz
  -- the search first looks for a match at the start of the text
  obtain rfl | ⟨y, hy, hz⟩ := hz.cases_head
  · exact absurd hmatch (not_matches (i := .split head (head + 2)) hw.search nofun)
  have hfork : step whole text 0 (p.goTo (head + 1)) = .fork p bottom := by
    rw [step, show whole.instructions[(p.goTo (head + 1)).pc]? = _ from hw.search]
    rfl
  rw [resume, hfork] at hy
  obtain rfl : (p, ⟨[bottom], 1, maxBacktracks⟩) = y := Option.some.inj hy
  obtain rfl | ⟨y, hy, hz⟩ := hz.cases_head
  · exact absurd hmatch (not_matches (i := .regular first (own.start + 1)) hw.first nofun)
  have hstep : step whole text 1 p = _ := step_regular hw.first
  cases hend : first.endFrom? text 0 with
  | some j =>
    rw [show first.endFrom? text p.offset = _ from hend] at hstep
    rw [resume, hstep] at hy
    obtain rfl := (hfirst 0 j hend).2
    have hinside : Inside own bottom (init own) y := by
      cases hy
      exact ⟨rfl, hw.start, rfl, rfl, rfl, rfl, nofun⟩
    exact hinside.endsWithText hw hlast hfirst' rfl hz hmatch
  | none =>
    rw [show first.endFrom? text p.offset = _ from hend] at hstep
    rw [resume, hstep] at hy
    have hlost : Lost head y := by
      cases hy
      exact .skip rfl rfl
    exact absurd hmatch ((hlost.resumes hw hfirst' hz).not_matches hw)

end Wraps

end TokenOverlay.Pattern.Machine
