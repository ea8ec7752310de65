/-
The instructions of a node are the same wherever they are put. Where they begin one place further on, and
so does what they go on to, every instruction stands one place further on and goes on one place further. A
builder is put together from others and only knows the number of instructions before it, so that holds of a
node by the builders of its parts. On the way it is kept that instructions lead to instructions only, and
which of them accept: those at some places kept free for others until a loop is closed.
-/
import TokenOverlay.Pattern.Program

namespace TokenOverlay.Pattern

namespace Instruction

/-- An instruction that goes on one place further. -/
def shift : Instruction → Instruction
  | .atom a next => .atom a (next + 1)
  | .anchor a next => .anchor a (next + 1)
  | .regular m next => .regular m (next + 1)
  | .split first second => .split (first + 1) (second + 1)
  | .mark slot next => .mark slot (next + 1)
  | .zero slot next => .zero slot (next + 1)
  | .recall slot next => .recall slot (next + 1)
  | .back n next => .back n (next + 1)
  | .refuse past => .refuse (past + 1)
  | .count slot least most greedy body past => .count slot least most greedy (body + 1) (past + 1)
  | .countMoving slot place least greedy body past => .countMoving slot place least greedy (body + 1) (past + 1)
  | .reference group next => .reference group (next + 1)
  | .matched group next => .matched group (next + 1)
  | .searchStart next => .searchStart (next + 1)
  | .hold next => .hold (next + 1)
  | .release next => .release (next + 1)
  | .accept => .accept

/-- Where an instruction may go on. -/
def targets : Instruction → List Nat
  | .atom _ next | .anchor _ next | .regular _ next | .mark _ next | .zero _ next | .recall _ next | .back _ next
  | .reference _ next | .matched _ next | .searchStart next | .hold next | .release next => [next]
  | .split first second => [first, second]
  | .count _ _ _ _ body past | .countMoving _ _ _ _ body past => [body, past]
  | .refuse _ | .accept => []

/-- An instruction that does not accept and goes on to one of so many. -/
structure Fits (i : Instruction) (n : Nat) : Prop where
  ne_accept : i ≠ .accept
  targets : ∀ t ∈ i.targets, t < n

namespace Fits

variable {i : Instruction} {n t u : Nat}

theorem one (hi : i.targets = [t]) (ht : t < n) : i.Fits n where
  ne_accept h := by
    rw [h] at hi
    cases hi
  targets := by
    rw [hi]
    exact List.forall_mem_singleton.2 ht

theorem two (hi : i.targets = [t, u]) (ht : t < n) (hu : u < n) : i.Fits n where
  ne_accept h := by
    rw [h] at hi
    cases hi
  targets := by
    rw [hi]
    exact List.forall_mem_cons.2 ⟨ht, List.forall_mem_singleton.2 hu⟩

theorem refuse {past : Nat} : (Instruction.refuse past).Fits n :=
  ⟨nofun, nofun⟩

end Fits

end Instruction

namespace Program

variable {e i : Instruction} {free : List Nat} {c d : Code} {here low next : Nat}

/-- The same instructions in two programs, in the second one a place further on. There another instruction
stands for the one that accepts in front of all others; no more of them accept, but for those at places that
are kept free. -/
structure Shifted (e : Instruction) (free : List Nat) (c d : Code) : Prop where
  slots : d.slots = c.slots
  size : d.instructions.size = c.instructions.size + 1
  accept : c.instructions[0]? = some .accept
  first : d.instructions[0]? = some .accept
  instead : d.instructions[1]? = some e
  others : ∀ k, 0 < k → d.instructions[k + 1]? = c.instructions[k]?.map Instruction.shift
  within : ∀ (k : Nat) (i : Instruction), c.instructions[k]? = some i → ∀ t ∈ i.targets, t < c.instructions.size
  accepts : ∀ k, c.instructions[k]? = some .accept → k = 0 ∨ k ∈ free

namespace Shifted

theorem size_pos (h : Shifted e free c d) : 0 < c.instructions.size :=
  (Array.getElem?_eq_some_iff.1 h.accept).1

/-- One instruction more. -/
theorem push (h : Shifted e free c d) (hi : i.Fits c.instructions.size) :
    Shifted e free { c with instructions := c.instructions.push i }
      { d with instructions := d.instructions.push i.shift } where
  slots := h.slots
  size := by simp [h.size]
  accept := by grind [h.accept]
  first := by grind [h.first]
  instead := by grind [h.instead]
  others k hk := by
    have := h.others k hk
    grind [h.size]
  within k j hj t ht := by
    have := h.within k j
    have := hi.targets
    grind
  accepts k hk := by
    have := h.accepts k
    have := hi.ne_accept
    grind

/-- One place more that is kept free. -/
theorem keepFree (h : Shifted e free c d) :
    Shifted e (c.instructions.size :: free) { c with instructions := c.instructions.push .accept }
      { d with instructions := d.instructions.push .accept } where
  slots := h.slots
  size := by simp [h.size]
  accept := by grind [h.accept]
  first := by grind [h.first]
  instead := by grind [h.instead]
  others k hk := by
    have := h.others k hk
    grind [h.size, Instruction.shift]
  within k j hj t ht := by
    have := h.within k j
    grind [Instruction.targets]
  accepts k hk := by
    have := h.accepts k
    grind

/-- The instruction at a place that was kept free. -/
theorem fill (h : Shifted e (here :: free) c d) (hpos : 0 < here) (hi : i.Fits c.instructions.size) :
    Shifted e free { c with instructions := c.instructions.setIfInBounds here i }
      { d with instructions := d.instructions.setIfInBounds (here + 1) i.shift } where
  slots := h.slots
  size := by simp [h.size]
  accept := by grind [h.accept]
  first := by grind [h.first]
  instead := by grind [h.instead]
  others k hk := by
    have := h.others k hk
    grind [h.size]
  within k j hj t ht := by
    have := h.within k j
    have := hi.targets
    grind
  accepts k hk := by
    have := h.accepts k
    have := hi.ne_accept
    grind

theorem newSlot (h : Shifted e free c d) :
    (Program.newSlot d).1 = (Program.newSlot c).1 ∧ Shifted e free (Program.newSlot c).2 (Program.newSlot d).2 :=
  ⟨h.slots, { h with slots := by rw [Program.newSlot, Program.newSlot, h.slots] }⟩

end Shifted

/-- Where the second of two constructions succeeds, so does the first one, with the same instructions a
place further on. Both keep a number of instructions at least. -/
def Follows (e : Instruction) (free : List Nat) (low : Nat) (x y : Option (Nat × Code)) : Prop :=
  ∀ start d, y = some (start, d) → ∃ s c, x = some (s, c) ∧ start = s + 1 ∧ s < c.instructions.size ∧
    low ≤ c.instructions.size ∧ Shifted e free c d

namespace Follows

variable {x y : Option (Nat × Code)} {f g : Nat × Code → Option (Nat × Code)}

theorem some (h : Shifted e free c d) {s : Nat} (hs : s < c.instructions.size) :
    Follows e free c.instructions.size (.some (s, c)) (.some (s + 1, d)) := by
  rintro _ _ ⟨⟩
  exact ⟨s, c, rfl, rfl, hs, Nat.le_refl _, h⟩

theorem of_le {high : Nat} (h : Follows e free high x y) (hle : low ≤ high) : Follows e free low x y := by
  intro start d hd
  obtain ⟨s, c, hx, hstart, hs, hhigh, h⟩ := h start d hd
  exact ⟨s, c, hx, hstart, hs, Nat.le_trans hle hhigh, h⟩

theorem bind {held : List Nat} (hx : Follows e held low x y)
    (hf : ∀ s c d, Shifted e held c d → low ≤ c.instructions.size → s < c.instructions.size →
      Follows e free c.instructions.size (f (s, c)) (g (s + 1, d))) : Follows e free low (x.bind f) (y.bind g) := by
  intro start d hd
  obtain ⟨⟨_, d₁⟩, hy, hd⟩ := Option.bind_eq_some_iff.1 hd
  obtain ⟨s, c₁, rfl, rfl, hs, hlow, h⟩ := hx _ _ hy
  exact (hf s c₁ d₁ h hlow hs).of_le hlow start d hd

theorem add (h : Shifted e free c d) (hi : i.Fits c.instructions.size) :
    Follows e free c.instructions.size (Program.add i c) (Program.add i.shift d) := by
  have hlast := some (h.push hi) (s := c.instructions.size) (by simp)
  rw [← h.size] at hlast
  exact hlast.of_le (by simp)

end Follows

/-- A builder builds the same instructions one place further on. -/
def Moves (b : Build) : Prop :=
  ∀ ⦃e free next c d⦄, Shifted e free c d → next < c.instructions.size →
    Follows e free c.instructions.size (b next c) (b (next + 1) d)

namespace Moves

variable {b body : Build}

theorem skip : Moves skip :=
  fun _ _ _ _ _ h hnext => .some h hnext

/-- A builder of one instruction. -/
theorem one {i : Nat → Instruction} (hshift : ∀ next, i (next + 1) = (i next).shift)
    (htargets : ∀ next, (i next).targets = [next]) : Moves fun next => Program.add (i next) := by
  intro e free next c d h hnext
  dsimp only
  rw [hshift]
  exact .add h (.one (htargets next) hnext)

theorem inARow {parts : List Build} (hparts : ∀ b ∈ parts, Moves b) : Moves (Program.inARow parts) := by
  induction parts with
  | nil => exact skip
  | cons b rest ih =>
    rw [List.forall_mem_cons] at hparts
    intro e free next c d h hnext
    rw [Program.inARow, Program.inARow, List.foldlM_cons, List.foldlM_cons]
    exact (hparts.1 h hnext).bind fun s c d h _ hs => ih hparts.2 h hs

theorem anyOf {branches : List Build} (hbranches : ∀ b ∈ branches, Moves b) : Moves (Program.anyOf branches) := by
  cases branches with
  | nil => exact skip
  | cons last others =>
    rw [List.forall_mem_cons] at hbranches
    obtain ⟨hlast, hothers⟩ := hbranches
    intro e free next c d h hnext
    refine (hlast h hnext).bind fun s c₁ d₁ h hlow hs => ?_
    have hnext := Nat.lt_of_lt_of_le hnext hlow
    clear hlow
    -- what is kept along the branches is where to go on after any of them
    induction others generalizing s c₁ d₁ with
    | nil => exact .some h hs
    | cons b rest ih =>
      rw [List.forall_mem_cons] at hothers
      rw [List.foldlM_cons, List.foldlM_cons]
      refine ((hothers.1 h hnext).bind fun t c₂ d₂ h hlow ht => ?_).bind fun t c₂ d₂ h hlow ht =>
        ih hothers.2 t c₂ d₂ h ht (Nat.lt_of_lt_of_le hnext hlow)
      exact .add h (.two rfl ht (by omega))

/-! ### Repetitions -/

theorem shift_splitOf (greedy : Bool) (into past : Nat) :
    splitOf greedy (into + 1) (past + 1) = (splitOf greedy into past).shift := by
  cases greedy <;> rfl

theorem splitOf_fits (greedy : Bool) {into past n : Nat} (hinto : into < n) (hpast : past < n) :
    (splitOf greedy into past).Fits n := by
  cases greedy with
  | true => exact .two rfl hinto hpast
  | false => exact .two rfl hpast hinto

/-- A body that comes back to an instruction in front of it: its place is kept free until the body is built. -/
theorem around (hbody : Moves body) {head head' : Nat → Instruction} {f g : (Nat × Nat) × Code → Option (Nat × Code)}
    (h : Shifted e free c d) (hshift : ∀ s, head' (s + 1) = (head s).shift)
    (hhead : ∀ s n, s < n → c.instructions.size ≤ n → (head s).Fits n)
    (hf : ∀ here s c₁ d₁, Shifted e free c₁ d₁ → here < c₁.instructions.size → s < c₁.instructions.size →
      Follows e free c₁.instructions.size (f ((here, s), c₁)) (g ((here + 1, s + 1), d₁))) :
    Follows e free c.instructions.size ((Program.around body head c).bind f) ((Program.around body head' d).bind g) := by
  unfold Program.around
  simp only [Option.bind_eq_bind, Option.bind_assoc, Option.pure_def, Option.bind_some]
  have hloop := hbody h.keepFree (show c.instructions.size < _ by simp)
  rw [← h.size] at hloop
  refine (hloop.bind fun s c₁ d₁ h₁ hlow hs => ?_).of_le (by simp)
  rw [Array.size_push] at hlow
  have hfill := h₁.fill h.size_pos (hhead s _ hs (by omega))
  rw [h.size, hshift]
  have := hf c.instructions.size s _ _ hfill (by simp; omega) (by simpa using hs)
  simpa using this

theorem repeated (least : Nat) (most : Option Nat) (greedy movable : Bool) (hbody : Moves body) :
    Moves (Program.repeated least most greedy movable body) := by
  intro e free next c d h hnext
  have hpast : ∀ n, c.instructions.size ≤ n → next < n := fun n => Nat.lt_of_lt_of_le hnext
  unfold Program.repeated
  dsimp only
  split
  · refine (hbody h hnext).bind fun s c₁ d₁ h₁ hlow hs => ?_
    rw [shift_splitOf]
    exact .add h₁ (splitOf_fits greedy hs (hpast _ hlow))
  · split
    · obtain ⟨hslot, h⟩ := h.newSlot
      obtain ⟨hplace, h⟩ := h.newSlot
      simp only [hslot, hplace]
      refine hbody.around h (fun s => rfl) (fun s n hs hn => .two rfl hs (hpast n hn)) fun here s c₁ d₁ h₁ hhere _ => ?_
      exact .add h₁ (.one rfl hhere)
    · split
      · refine hbody.around h (fun s => shift_splitOf greedy s next)
          (fun s n hs hn => splitOf_fits greedy hs (hpast n hn)) fun here s c₁ d₁ h₁ hhere hs => ?_
        dsimp only
        split
        · exact .some h₁ hhere
        · exact .some h₁ hs
      · obtain ⟨hslot, h⟩ := h.newSlot
        simp only [hslot]
        refine hbody.around h (fun s => rfl) (fun s n hs hn => .two rfl hs (hpast n hn)) fun here s c₁ d₁ h₁ hhere _ => ?_
        exact .add h₁ (.one rfl hhere)

/-! ### Look-around, automata and conditions -/

theorem lookAround (kind : Look) (fixed : Bool) (length : Nat) (hbody : Moves body) :
    Moves (Program.lookAround kind fixed length body) := by
  -- what looks behind first goes back
  have hback : Moves (if kind.behind then fun next code =>
      if fixed then (body next code).bind fun entry => Program.add (.back length entry.1) entry.2
      else none
      else body) := by
    split
    · intro e free next c d h hnext
      dsimp only
      split
      · refine (hbody h hnext).bind fun s c₁ d₁ h₁ _ hs => ?_
        exact .add (i := .back length s) h₁ (.one rfl hs)
      · intro s d h
        cases h
    · exact hbody
  intro e free next c d h hnext
  unfold Program.lookAround
  split
  · refine (Follows.add (i := .refuse next) h .refuse).bind fun last c₁ d₁ h₁ hlow hlast => ?_
    refine (hback h₁ hlast).bind fun s c₂ d₂ h₂ hlow₂ hs => ?_
    exact .add (i := .split s next) h₂ (.two rfl hs (by omega))
  · obtain ⟨hslot, h⟩ := h.newSlot
    dsimp only
    rw [hslot]
    refine (Follows.add (i := .recall _ next) h (.one rfl hnext)).bind fun last c₁ d₁ h₁ _ hlast => ?_
    refine (hback h₁ hlast).bind fun s c₂ d₂ h₂ _ hs => ?_
    exact .add (i := .mark _ s) h₂ (.one rfl hs)

theorem choose {test yes no : Build} (htest : Moves test) (hyes : Moves yes) (hno : Moves no) :
    Moves (Program.choose test yes no) := by
  intro e free next c d h hnext
  refine (hno h hnext).bind fun no c₁ d₁ h₁ hlow₁ hno => ?_
  refine (hyes h₁ (Nat.lt_of_lt_of_le hnext hlow₁)).bind fun yes c₂ d₂ h₂ hlow₂ hyes => ?_
  refine (Follows.add (i := .release yes) h₂ (.one rfl hyes)).bind fun last c₃ d₃ h₃ hlow₃ hlast => ?_
  refine (htest h₃ hlast).bind fun test c₄ d₄ h₄ hlow₄ htest => ?_
  refine (Follows.add (i := .split test no) h₄ (.two rfl htest (by omega))).bind fun start c₅ d₅ h₅ _ hstart => ?_
  exact .add (i := .hold start) h₅ (.one rfl hstart)

/-! ### Nodes -/

variable [SizeLimit]

theorem regular (parts : List Node) : Moves (Program.regular parts) := by
  intro e free next c d h hnext
  unfold Program.regular
  dsimp only
  split
  · generalize parts.filterMap _ = atoms
    induction atoms with
    | nil => exact .some h hnext
    | cons a rest ih =>
      rw [List.foldrM_cons, List.foldrM_cons]
      exact ih.bind fun s c₁ d₁ h₁ _ hs => .add (i := .atom a s) h₁ (.one rfl hs)
  · cases Automaton.ofParts? parts with
    | none => exact nofun
    | some m => exact .add (i := .regular m next) h (.one rfl hnext)

mutual

theorem build (referenced : List Nat) (again : Bool) : ∀ n : Node, Moves (Program.build referenced again n)
  | .empty => skip
  | .atom a => one (i := .atom a) (fun _ => rfl) fun _ => rfl
  | .anchor a => one (i := .anchor a) (fun _ => rfl) fun _ => rfl
  | .sequence parts => by
    rw [Program.build]
    split
    · dsimp only
      exact inARow (List.forall_mem_cons.2 ⟨regular _, List.forall_mem_cons.2
        ⟨inARow (middleParts referenced [] _ _ parts nofun), List.forall_mem_cons.2 ⟨regular _, nofun⟩⟩⟩)
    · exact regular _
  | .choice branches => by
    rw [Program.build]
    split
    · exact anyOf (eachOf referenced again [] branches nofun)
    · exact regular _
  | .group number body => by
    rw [Program.build]
    split
    · intro e free next c d h hnext
      refine (Follows.add (i := .mark _ next) h (.one rfl hnext)).bind fun last c₁ d₁ h₁ _ hlast => ?_
      refine (build referenced again body h₁ hlast).bind fun s c₂ d₂ h₂ _ hs => ?_
      exact .add (i := .mark _ s) h₂ (.one rfl hs)
    · exact regular _
  | .times body least most greedy => by
    rw [Program.build]
    split
    · exact repeated least most greedy _ (build referenced _ body)
    · exact regular _
  | .look kind body => by
    -- looking behind at branches of different lengths is done branch by branch
    have hbody := build referenced false body
    cases body with
    | choice branches =>
      rw [Program.build]
      dsimp only
      split
      · have hparts := lookAtEach referenced kind [] branches nofun
        split
        · exact inARow hparts
        · exact anyOf hparts
      · exact lookAround kind _ _ hbody
    | _ => exact lookAround kind _ _ hbody
  | .reference group => one (i := .reference group) (fun _ => rfl) fun _ => rfl
  | .atomic body => by
    rw [Program.build]
    intro e free next c d h hnext
    refine (Follows.add (i := .release next) h (.one rfl hnext)).bind fun last c₁ d₁ h₁ _ hlast => ?_
    refine (build referenced false body h₁ hlast).bind fun s c₂ d₂ h₂ _ hs => ?_
    exact .add (i := .hold s) h₂ (.one rfl hs)
  | .forget => skip
  | .searchStart => one (i := .searchStart) (fun _ => rfl) fun _ => rfl
  | .matched group => one (i := .matched group) (fun _ => rfl) fun _ => rfl
  | .conditional test yes no => choose (build referenced again test) (build referenced again yes) (build referenced again no)

theorem middleParts (referenced : List Nat) (done : List Build) : ∀ (before count : Nat) (nodes : List Node),
    (∀ b ∈ done, Moves b) → ∀ b ∈ Program.middleParts referenced done before count nodes, Moves b
  | _, _, [], hdone => by
    rwa [Program.middleParts]
  | 0, 0, _ :: _, hdone => by
    rwa [Program.middleParts]
  | 0, count + 1, n :: rest, hdone =>
    middleParts referenced _ 0 count rest (List.forall_mem_cons.2 ⟨build referenced true n, hdone⟩)
  | before + 1, count, _ :: rest, hdone => middleParts referenced done before count rest hdone

theorem lookAtEach (referenced : List Nat) (kind : Look) (done : List Build) : ∀ nodes : List Node,
    (∀ b ∈ done, Moves b) → ∀ b ∈ Program.lookAtEach referenced kind done nodes, Moves b
  | [], hdone => hdone
  | n :: rest, hdone => lookAtEach referenced kind _ rest
    (List.forall_mem_cons.2 ⟨lookAround kind _ _ (build referenced false n), hdone⟩)

theorem eachOf (referenced : List Nat) (again : Bool) (done : List Build) : ∀ nodes : List Node,
    (∀ b ∈ done, Moves b) → ∀ b ∈ Program.eachOf referenced again done nodes, Moves b
  | [], hdone => hdone
  | n :: rest, hdone => eachOf referenced again _ rest (List.forall_mem_cons.2 ⟨build referenced again n, hdone⟩)

end

end Moves

end Program

end TokenOverlay.Pattern
