/-
What a regular pattern matches, and that its automaton goes exactly these ways. A node relates the place
where a match begins to the places where it may end. The states that are built for it, with a state to go
on to, lead from a place to acceptance just if the node matches from there to a place from where the state
to go on to leads to acceptance. That holds in any array that has the new states at their places, so parts
are put together without regard to the rest, and a loop may be closed after its body was built.
-/
import TokenOverlay.Pattern.Automaton

namespace TokenOverlay.Pattern

/-! ## What a node matches -/

/-- So many steps of a relation between places, one after the other. -/
def Repeats (R : Nat → Nat → Prop) : Nat → Nat → Nat → Prop
  | 0, i, j => i = j
  | n + 1, i, j => ∃ k, R i k ∧ Repeats R n k j

section Repeats

variable {R : Nat → Nat → Prop} {i j : Nat}

theorem repeats_one : Repeats R 1 i j ↔ R i j := by
  constructor
  · rintro ⟨k, hR, rfl⟩
    exact hR
  · exact fun h => ⟨j, h, rfl⟩

theorem repeats_add (n m : Nat) : Repeats R (n + m) i j ↔ ∃ k, Repeats R n i k ∧ Repeats R m k j := by
  induction n generalizing i with
  | zero =>
    rw [Nat.zero_add]
    constructor
    · exact fun h => ⟨i, rfl, h⟩
    · rintro ⟨k, rfl, h⟩
      exact h
  | succ n ih =>
    rw [Nat.succ_add]
    constructor
    · rintro ⟨l, hR, h⟩
      obtain ⟨k, hn, hm⟩ := ih.1 h
      exact ⟨k, ⟨l, hR, hn⟩, hm⟩
    · rintro ⟨k, ⟨l, hR, hn⟩, hm⟩
      exact ⟨l, hR, ih.2 ⟨k, hn, hm⟩⟩

end Repeats

mutual

/-- A regular node matches a text from one place to another. -/
def Node.Spans (text : Array Char) : Node → Nat → Nat → Prop
  | .empty, i, j => i = j
  | .atom a, i, j => (∃ c, text[i]? = some c ∧ a.takes c = true) ∧ j = i + 1
  | .anchor a, i, j => a.holdsAt text i = true ∧ i = j
  | .sequence parts, i, j => SpansInARow text parts i j
  | .choice branches, i, j => SpansAny text branches i j
  | .group _ body, i, j => body.Spans text i j
  | .times body least most _, i, j =>
    ∃ n, least ≤ n ∧ (∀ m, most = some m → n ≤ m) ∧ Repeats (body.Spans text) n i j
  | _, _, _ => False

/-- Nodes match one after the other. -/
def SpansInARow (text : Array Char) : List Node → Nat → Nat → Prop
  | [], i, j => i = j
  | n :: rest, i, j => ∃ k, n.Spans text i k ∧ SpansInARow text rest k j

/-- One of some nodes matches. -/
def SpansAny (text : Array Char) : List Node → Nat → Nat → Prop
  | [], _, _ => False
  | n :: rest, i, j => n.Spans text i j ∨ SpansAny text rest i j

end

namespace Automaton

/-! ## Ways through states -/

/-- One step from a state at a place: to a state and a place. -/
def Steps (states : Array State) (text : Array Char) (s i t j : Nat) : Prop :=
  match states[s]? with
  | some (.atom a next) => (∃ c, text[i]? = some c ∧ a.takes c = true) ∧ t = next ∧ j = i + 1
  | some (.anchor a next) => a.holdsAt text i = true ∧ t = next ∧ j = i
  | some (.split first second) => (t = first ∨ t = second) ∧ j = i
  | _ => False

/-- So many steps lead from a state at a place to a state that accepts. -/
def Leads (states : Array State) (text : Array Char) : Nat → Nat → Nat → Prop
  | 0, s, _ => states[s]? = some .accept
  | n + 1, s, i => ∃ t j, Steps states text s i t j ∧ Leads states text n t j

section Steps

variable {all : Array State} {text : Array Char} {n s i t j next : Nat}

theorem steps_atom {a : Atom} (hs : all[s]? = some (.atom a next)) :
    Steps all text s i t j ↔ (∃ c, text[i]? = some c ∧ a.takes c = true) ∧ t = next ∧ j = i + 1 := by
  rw [Steps, hs]

theorem steps_anchor {a : Anchor} (hs : all[s]? = some (.anchor a next)) :
    Steps all text s i t j ↔ a.holdsAt text i = true ∧ t = next ∧ j = i := by
  rw [Steps, hs]

theorem steps_split {first second : Nat} (hs : all[s]? = some (.split first second)) :
    Steps all text s i t j ↔ (t = first ∨ t = second) ∧ j = i := by
  rw [Steps, hs]

theorem steps_splitOf {greedy : Bool} {into past : Nat} (hs : all[s]? = some (splitOf greedy into past)) :
    Steps all text s i t j ↔ (t = into ∨ t = past) ∧ j = i := by
  cases greedy with
  | false => exact (steps_split hs).trans (and_congr_left' or_comm)
  | true => exact steps_split hs

theorem not_steps_fail (hs : all[s]? = some .fail) : ¬ Steps all text s i t j := by
  rw [Steps, hs]
  exact id

/-- A state that does not accept leads to acceptance by a first step. -/
theorem leads_step (hs : all[s]? ≠ some .accept) (h : Leads all text n s i) :
    ∃ t j m, m < n ∧ Steps all text s i t j ∧ Leads all text m t j := by
  cases n with
  | zero => exact absurd h hs
  | succ n =>
    obtain ⟨t, j, hstep, h⟩ := h
    exact ⟨t, j, n, Nat.lt_succ_self n, hstep, h⟩

theorem leads_of_step (hstep : Steps all text s i t j) (h : Leads all text n t j) : ∃ n, Leads all text n s i :=
  ⟨n + 1, t, j, hstep, h⟩

end Steps

/-! ## Builders -/

/-- An array has the states of another one at their places, from a number on. -/
def HasFrom (all : Array State) (low : Nat) (states : Array State) : Prop :=
  ∀ k, low ≤ k → k < states.size → all[k]? = states[k]?

namespace HasFrom

variable {all states : Array State} {low : Nat}

theorem of_keeps {more : Array State} (h : HasFrom all low more) (hsize : states.size ≤ more.size)
    (hkeeps : ∀ k, k < states.size → more[k]? = states[k]?) : HasFrom all low states :=
  fun k hlow hk => (h k hlow (Nat.lt_of_lt_of_le hk hsize)).trans (hkeeps k hk)

theorem of_le {high : Nat} (h : HasFrom all low states) (hle : low ≤ high) : HasFrom all high states :=
  fun k hlow hk => h k (Nat.le_trans hle hlow) hk

theorem of_push {s : State} (h : HasFrom all low (states.push s)) : HasFrom all low states :=
  h.of_keeps (by rw [Array.size_push]; exact Nat.le_succ _) fun _ hk => by
    rw [Array.getElem?_push, if_neg (Nat.ne_of_lt hk)]

theorem getElem?_size {s : State} (h : HasFrom all low (states.push s)) (hlow : low ≤ states.size) :
    all[states.size]? = some s := by
  rw [h _ hlow (by rw [Array.size_push]; exact Nat.lt_succ_self _), Array.getElem?_push, if_pos rfl]

end HasFrom

/-- The states of a builder lead from one place to another as a relation says: they keep those that are
there, and wherever they are, they lead to acceptance just if the state to go on to does from a place that
is related. -/
structure Means (text : Array Char) (b : Build) (R : Nat → Nat → Prop) : Prop where
  grows : ∀ next states, states.size ≤ (b next states).2.size
  keeps : ∀ next states k, k < states.size → (b next states).2[k]? = states[k]?
  sound : ∀ {next states all}, HasFrom all states.size (b next states).2 → ∀ {n i},
    Leads all text n (b next states).1 i → ∃ j m, m ≤ n ∧ R i j ∧ Leads all text m next j
  complete : ∀ {next states all}, HasFrom all states.size (b next states).2 → ∀ {m i j},
    R i j → Leads all text m next j → ∃ n, Leads all text n (b next states).1 i

namespace Means

variable {text : Array Char} {b c : Build} {R Q : Nat → Nat → Prop}

theorem congr (h : Means text b R) (hR : ∀ i j, R i j ↔ Q i j) : Means text b Q := by
  obtain rfl : R = Q := funext fun i => funext fun j => propext (hR i j)
  exact h

/-- Nothing. -/
theorem skip : Means text (fun next states => (next, states)) Eq where
  grows _ _ := Nat.le_refl _
  keeps _ _ _ _ := rfl
  sound _ _ _ h := ⟨_, _, Nat.le_refl _, rfl, h⟩
  complete _ _ _ _ hR h := ⟨_, hR ▸ h⟩

theorem grows_push {states more : Array State} {s : State} (h : states.size ≤ more.size) :
    states.size ≤ (more.push s).size := by
  rw [Array.size_push]
  exact Nat.le_succ_of_le h

theorem keeps_push {states more : Array State} {s : State} {k : Nat} (hsize : states.size ≤ more.size)
    (hkeeps : more[k]? = states[k]?) (hk : k < states.size) : (more.push s)[k]? = states[k]? := by
  rw [Array.getElem?_push, if_neg (Nat.ne_of_lt (Nat.lt_of_lt_of_le hk hsize)), hkeeps]

/-- A state that never goes on. -/
theorem fail : Means text (fun _ => Automaton.add .fail) fun _ _ => False where
  grows _ _ := grows_push (Nat.le_refl _)
  keeps _ _ _ hk := keeps_push (Nat.le_refl _) rfl hk
  sound hall _ _ h := by
    have hs := hall.getElem?_size (Nat.le_refl _)
    obtain ⟨_, _, _, -, hstep, -⟩ := leads_step (by rw [Automaton.add, hs]; nofun) h
    exact absurd hstep (not_steps_fail hs)
  complete _ _ _ _ h := h.elim

theorem atom (a : Atom) : Means text (fun next => Automaton.add (.atom a next))
    fun i j => (∃ c, text[i]? = some c ∧ a.takes c = true) ∧ j = i + 1 where
  grows _ _ := grows_push (Nat.le_refl _)
  keeps _ _ _ hk := keeps_push (Nat.le_refl _) rfl hk
  sound hall _ _ h := by
    have hs := hall.getElem?_size (Nat.le_refl _)
    obtain ⟨t, j, m, hm, hstep, hgo⟩ := leads_step (by rw [Automaton.add, hs]; nofun) h
    obtain ⟨hc, rfl, hj⟩ := (steps_atom hs).1 hstep
    exact ⟨j, m, Nat.le_of_lt hm, ⟨hc, hj⟩, hgo⟩
  complete hall _ _ _ hR h :=
    leads_of_step ((steps_atom (hall.getElem?_size (Nat.le_refl _))).2 ⟨hR.1, rfl, hR.2⟩) h

theorem anchor (a : Anchor) : Means text (fun next => Automaton.add (.anchor a next))
    fun i j => a.holdsAt text i = true ∧ i = j where
  grows _ _ := grows_push (Nat.le_refl _)
  keeps _ _ _ hk := keeps_push (Nat.le_refl _) rfl hk
  sound hall _ _ h := by
    have hs := hall.getElem?_size (Nat.le_refl _)
    obtain ⟨t, j, m, hm, hstep, hgo⟩ := leads_step (by rw [Automaton.add, hs]; nofun) h
    obtain ⟨ha, rfl, rfl⟩ := (steps_anchor hs).1 hstep
    exact ⟨j, m, Nat.le_of_lt hm, ⟨ha, rfl⟩, hgo⟩
  complete hall _ _ _ hR h :=
    leads_of_step ((steps_anchor (hall.getElem?_size (Nat.le_refl _))).2 ⟨hR.1, rfl, hR.2.symm⟩) h

/-- One builder before another, whose states are made first. -/
theorem comp (hb : Means text b R) (hc : Means text c Q) :
    Means text (fun next states => b (c next states).1 (c next states).2) fun i j => ∃ k, R i k ∧ Q k j where
  grows next states := Nat.le_trans (hc.grows next states) (hb.grows _ _)
  keeps next states k hk := by
    rw [hb.keeps _ _ k (Nat.lt_of_lt_of_le hk (hc.grows next states)), hc.keeps next states k hk]
  sound {next states all} hall n i h := by
    obtain ⟨k, m, hm, hR, h⟩ := hb.sound (hall.of_le (hc.grows next states)) h
    obtain ⟨j, l, hl, hQ, h⟩ := hc.sound (hall.of_keeps (hb.grows _ _) (hb.keeps _ _)) h
    exact ⟨j, l, Nat.le_trans hl hm, ⟨k, hR, hQ⟩, h⟩
  complete {next states all} hall m i j hRQ h := by
    obtain ⟨k, hR, hQ⟩ := hRQ
    obtain ⟨n, h⟩ := hc.complete (hall.of_keeps (hb.grows _ _) (hb.keeps _ _)) hQ h
    exact hb.complete (hall.of_le (hc.grows next states)) hR h

/-- A builder that may be passed by. -/
theorem optional (greedy : Bool) (hb : Means text b R) :
    Means text (fun next states => Automaton.add (splitOf greedy (b next states).1 next) (b next states).2)
      fun i j => R i j ∨ i = j where
  grows next states := grows_push (hb.grows next states)
  keeps next states k hk := keeps_push (hb.grows next states) (hb.keeps next states k hk) hk
  sound {next states all} hall n i h := by
    have hs := hall.getElem?_size (hb.grows next states)
    obtain ⟨t, j, m, hm, hstep, hgo⟩ := leads_step (by rw [Automaton.add, hs, splitOf]; cases greedy <;> nofun) h
    obtain ⟨rfl | rfl, rfl⟩ := (steps_splitOf hs).1 hstep
    · obtain ⟨k, l, hl, hR, h⟩ := hb.sound hall.of_push hgo
      exact ⟨k, l, Nat.le_trans hl (Nat.le_of_lt hm), .inl hR, h⟩
    · exact ⟨j, m, Nat.le_of_lt hm, .inr rfl, hgo⟩
  complete {next states all} hall m i j hR h := by
    have hs := hall.getElem?_size (hb.grows next states)
    obtain hR | rfl := hR
    · obtain ⟨n, h⟩ := hb.complete hall.of_push hR h
      exact leads_of_step ((steps_splitOf hs).2 ⟨.inl rfl, rfl⟩) h
    · exact leads_of_step ((steps_splitOf hs).2 ⟨.inr rfl, rfl⟩) h

/-- Two builders side by side, the states of the second one made first. -/
theorem either (hb : Means text b R) (hc : Means text c Q) :
    Means text (fun next states =>
      Automaton.add (.split (b next (c next states).2).1 (c next states).1) (b next (c next states).2).2)
      fun i j => R i j ∨ Q i j where
  grows next states := grows_push (Nat.le_trans (hc.grows next states) (hb.grows _ _))
  keeps next states k hk := by
    refine keeps_push (Nat.le_trans (hc.grows next states) (hb.grows _ _)) ?_ hk
    rw [hb.keeps _ _ k (Nat.lt_of_lt_of_le hk (hc.grows next states)), hc.keeps next states k hk]
  sound {next states all} hall n i h := by
    have hs := hall.getElem?_size (Nat.le_trans (hc.grows next states) (hb.grows _ _))
    obtain ⟨t, j, m, hm, hstep, hgo⟩ := leads_step (by rw [Automaton.add, hs]; nofun) h
    obtain ⟨rfl | rfl, rfl⟩ := (steps_split hs).1 hstep
    · obtain ⟨k, l, hl, hR, h⟩ := hb.sound (hall.of_push.of_le (hc.grows next states)) hgo
      exact ⟨k, l, Nat.le_trans hl (Nat.le_of_lt hm), .inl hR, h⟩
    · obtain ⟨k, l, hl, hQ, h⟩ := hc.sound (hall.of_push.of_keeps (hb.grows _ _) (hb.keeps _ _)) hgo
      exact ⟨k, l, Nat.le_trans hl (Nat.le_of_lt hm), .inr hQ, h⟩
  complete {next states all} hall m i j hRQ h := by
    have hs := hall.getElem?_size (Nat.le_trans (hc.grows next states) (hb.grows _ _))
    obtain hR | hQ := hRQ
    · obtain ⟨n, h⟩ := hb.complete (hall.of_push.of_le (hc.grows next states)) hR h
      exact leads_of_step ((steps_split hs).2 ⟨.inl rfl, rfl⟩) h
    · obtain ⟨n, h⟩ := hc.complete (hall.of_push.of_keeps (hb.grows _ _) (hb.keeps _ _)) hQ h
      exact leads_of_step ((steps_split hs).2 ⟨.inr rfl, rfl⟩) h

/-! ### Repetitions -/

/-- The choice of a loop stands at the place kept free for it, and the body's states are as they were built. -/
theorem hasFrom_loop {greedy : Bool} {next : Nat} {states all : Array State} (hb : Means text b R)
    (hall : HasFrom all states.size (Automaton.loop greedy b next states).2) :
    all[states.size]? = some (splitOf greedy (b states.size (states.push .fail)).1 next) ∧
      HasFrom all (states.push .fail).size (b states.size (states.push .fail)).2 := by
  have hlt : states.size < (b states.size (states.push .fail)).2.size :=
    Nat.lt_of_lt_of_le (by rw [Array.size_push]; exact Nat.lt_succ_self _) (hb.grows states.size (states.push .fail))
  constructor
  · rw [hall _ (Nat.le_refl _) (by rw [Automaton.loop, Array.size_setIfInBounds]; exact hlt), Automaton.loop,
      Array.getElem?_setIfInBounds_self_of_lt hlt]
  · intro k hlow hk
    rw [Array.size_push] at hlow
    rw [hall k (Nat.le_of_succ_le hlow) (by rw [Automaton.loop, Array.size_setIfInBounds]; exact hk), Automaton.loop,
      Array.getElem?_setIfInBounds_ne (Nat.ne_of_lt hlow)]

/-- A loop, whose choice at the end of the body stands at a place kept free for it. -/
theorem loop (greedy : Bool) (hb : Means text b R) :
    Means text (loop greedy b) fun i j => ∃ n, 0 < n ∧ Repeats R n i j where
  grows next states := by
    rw [Automaton.loop, Array.size_setIfInBounds]
    exact Nat.le_trans (grows_push (Nat.le_refl _)) (hb.grows _ _)
  keeps next states k hk := by
    have hpush : k < (states.push .fail).size := by
      rw [Array.size_push]
      exact Nat.lt_succ_of_lt hk
    rw [Automaton.loop, Array.getElem?_setIfInBounds_ne (Nat.ne_of_gt hk), hb.keeps _ _ k hpush]
    exact keeps_push (Nat.le_refl _) rfl hk
  sound {next states all} hall n := by
    obtain ⟨hchoice, hbody⟩ := hb.hasFrom_loop hall
    -- by induction on the number of steps: each time round takes one more than the body
    induction n using Nat.strongRecOn with
    | _ n ih =>
      intro i h
      obtain ⟨k, m, hm, hR, h⟩ := hb.sound hbody h
      obtain ⟨t, j, l, hl, hstep, hgo⟩ := leads_step (by rw [hchoice, splitOf]; cases greedy <;> nofun) h
      have hln : l < n := Nat.lt_of_lt_of_le hl hm
      obtain ⟨rfl | rfl, rfl⟩ := (steps_splitOf hchoice).1 hstep
      · obtain ⟨e, m', hm', ⟨count, -, hrepeats⟩, hend⟩ := ih l hln hgo
        exact ⟨e, m', Nat.le_trans hm' (Nat.le_of_lt hln), ⟨count + 1, Nat.succ_pos _, j, hR, hrepeats⟩, hend⟩
      · exact ⟨j, l, Nat.le_of_lt hln, ⟨1, Nat.one_pos, repeats_one.2 hR⟩, hgo⟩
  complete {next states all} hall m i j hR h := by
    obtain ⟨hchoice, hbody⟩ := hb.hasFrom_loop hall
    obtain ⟨count, hcount, hR⟩ := hR
    induction count generalizing i with
    | zero => cases hcount
    | succ count ih =>
      obtain ⟨k, hR, hrepeats⟩ := hR
      cases count with
      | zero =>
        obtain rfl : k = j := hrepeats
        obtain ⟨n, h⟩ := leads_of_step ((steps_splitOf hchoice).2 ⟨.inr rfl, rfl⟩) h
        exact hb.complete hbody hR h
      | succ count =>
        obtain ⟨n, h⟩ := ih k (Nat.succ_pos _) hrepeats
        obtain ⟨n, h⟩ := leads_of_step ((steps_splitOf hchoice).2 ⟨.inl rfl, rfl⟩) h
        exact hb.complete hbody hR h

theorem copies (hb : Means text b R) : ∀ n, Means text (copies b n) (Repeats R n)
  | 0 => skip
  | n + 1 => hb.comp (hb.copies n)

theorem upTo (greedy : Bool) (hb : Means text b R) :
    ∀ n, Means text (upTo greedy b n) fun i j => ∃ k, k ≤ n ∧ Repeats R k i j
  | 0 => skip.congr fun i j => by
    constructor
    · rintro rfl
      exact ⟨0, Nat.le_refl 0, rfl⟩
    · rintro ⟨k, hk, h⟩
      obtain rfl := Nat.le_zero.1 hk
      exact h
  | n + 1 => ((hb.comp (hb.upTo greedy n)).optional greedy).congr fun i j => by
    constructor
    · rintro (⟨k, hR, m, hm, h⟩ | rfl)
      · exact ⟨m + 1, Nat.succ_le_succ hm, k, hR, h⟩
      · exact ⟨0, Nat.zero_le _, rfl⟩
    · rintro ⟨m, hm, h⟩
      cases m with
      | zero => exact .inr h
      | succ m =>
        obtain ⟨k, hR, h⟩ := h
        exact .inl ⟨k, hR, m, Nat.le_of_succ_le_succ hm, h⟩

theorem repeated (greedy : Bool) (least : Nat) (most : Option Nat) (hb : Means text b R)
    (hmost : ∀ m, most = some m → least ≤ m) :
    Means text (repeated greedy least most b) fun i j =>
      ∃ n, least ≤ n ∧ (∀ m, most = some m → n ≤ m) ∧ Repeats R n i j := by
  cases most with
  | some most =>
    refine ((hb.copies least).comp (hb.upTo greedy (most - least))).congr fun i j => ?_
    have hle := hmost most rfl
    constructor
    · rintro ⟨k, hleast, n, hn, h⟩
      refine ⟨least + n, Nat.le_add_right _ _, fun m hm => ?_, (repeats_add least n).2 ⟨k, hleast, h⟩⟩
      cases hm
      omega
    · rintro ⟨n, hn, hbound, h⟩
      obtain ⟨k, hleast, h⟩ := (repeats_add least (n - least)).1 (by rwa [Nat.add_sub_cancel' hn])
      exact ⟨k, hleast, n - least, Nat.sub_le_sub_right (hbound most rfl) least, h⟩
  | none =>
    have hany (n m : Nat) (hm : none = some m) : n ≤ m := by cases hm
    by_cases hleast : least = 0
    · have : Automaton.repeated greedy least none b = fun next states =>
          Automaton.add (splitOf greedy (Automaton.loop greedy b next states).1 next)
            (Automaton.loop greedy b next states).2 := by
        funext next states
        simp only [Automaton.repeated, if_pos hleast]
      rw [this]
      refine ((hb.loop greedy).optional greedy).congr fun i j => ?_
      constructor
      · rintro (⟨n, -, h⟩ | rfl)
        · exact ⟨n, by omega, hany n, h⟩
        · exact ⟨0, by omega, hany 0, rfl⟩
      · rintro ⟨n, -, -, h⟩
        cases n with
        | zero => exact .inr h
        | succ n => exact .inl ⟨n + 1, Nat.succ_pos n, h⟩
    · have : Automaton.repeated greedy least none b = fun next states =>
          Automaton.copies b (least - 1) (Automaton.loop greedy b next states).1
            (Automaton.loop greedy b next states).2 := by
        funext next states
        simp only [Automaton.repeated, if_neg hleast]
      rw [this]
      refine ((hb.copies (least - 1)).comp (hb.loop greedy)).congr fun i j => ?_
      constructor
      · rintro ⟨k, hleast, n, hn, h⟩
        exact ⟨least - 1 + n, by omega, hany _, (repeats_add _ n).2 ⟨k, hleast, h⟩⟩
      · rintro ⟨n, hn, -, h⟩
        obtain ⟨k, hleast, h⟩ := (repeats_add (least - 1) (n - (least - 1))).1 (by
          rwa [Nat.add_sub_cancel' (by omega)])
        exact ⟨k, hleast, n - (least - 1), by omega, h⟩

/-! ### Nodes -/

theorem builders_eq (done : List Build) (nodes : List Node) : builders done nodes = (nodes.map build).reverse ++ done := by
  induction nodes generalizing done with
  | nil => rfl
  | cons n rest ih => rw [builders, ih, List.map_cons, List.reverse_cons, List.append_assoc, List.singleton_append]

theorem inARow_builders_cons (n : Node) (rest : List Node) :
    Automaton.inARow (builders [] (n :: rest)) = fun next states =>
      Automaton.build n (Automaton.inARow (builders [] rest) next states).1
        (Automaton.inARow (builders [] rest) next states).2 := by
  funext next states
  simp only [builders_eq, Automaton.inARow, List.map_cons, List.reverse_cons, List.append_nil, List.foldl_append,
    List.foldl_cons, List.foldl_nil]

theorem anyOf_builders_cons (n m : Node) (rest : List Node) :
    Automaton.anyOf (builders [] (n :: m :: rest)) = fun next states =>
      Automaton.add
        (.split (Automaton.build n next (Automaton.anyOf (builders [] (m :: rest)) next states).2).1
          (Automaton.anyOf (builders [] (m :: rest)) next states).1)
        (Automaton.build n next (Automaton.anyOf (builders [] (m :: rest)) next states).2).2 := by
  funext next states
  have hne : ((m :: rest).map Automaton.build).reverse ≠ [] := by simp
  rw [builders_eq, builders_eq, List.append_nil, List.append_nil, List.map_cons (l := m :: rest), List.reverse_cons]
  obtain ⟨last, others, hlast⟩ := List.exists_cons_of_ne_nil hne
  rw [hlast]
  simp only [List.cons_append, Automaton.anyOf, List.foldl_append, List.foldl_cons, List.foldl_nil]

mutual

/-- The states that are built for a node lead just where it matches. -/
theorem build : ∀ n : Node, boundsFit n = true → Means text (build n) (n.Spans text)
  | .empty, _ => skip
  | .atom a, _ => Means.atom a
  | .anchor a, _ => Means.anchor a
  | .sequence parts, h => inARow parts h
  | .choice branches, h => anyOf branches h
  | .group _ body, h => build body h
  | .times body least most greedy, h => by
    simp only [boundsFit, Bool.and_eq_true] at h
    obtain ⟨⟨hbody, -⟩, hmost⟩ := h
    refine (build body hbody).repeated greedy least most fun m hm => ?_
    subst hm
    rw [Bool.and_eq_true, decide_eq_true_eq] at hmost
    exact hmost.1
  | .look .., _ => Means.fail
  | .reference _, _ => Means.fail
  | .atomic _, _ => Means.fail
  | .forget, _ => Means.fail
  | .searchStart, _ => Means.fail
  | .matched _, _ => Means.fail
  | .conditional .., _ => Means.fail

theorem inARow : ∀ nodes : List Node, allBoundsFit nodes = true →
    Means text (inARow (builders [] nodes)) (SpansInARow text nodes)
  | [], _ => skip
  | n :: rest, h => by
    rw [allBoundsFit, Bool.and_eq_true] at h
    rw [inARow_builders_cons]
    exact (build n h.1).comp (inARow rest h.2)

theorem anyOf : ∀ nodes : List Node, allBoundsFit nodes = true →
    Means text (anyOf (builders [] nodes)) (SpansAny text nodes)
  | [], _ => Means.fail
  | [n], h => by
    rw [allBoundsFit, Bool.and_eq_true] at h
    exact (build n h.1).congr fun i j => (or_iff_left id).symm
  | n :: m :: rest, h => by
    rw [allBoundsFit, Bool.and_eq_true] at h
    rw [anyOf_builders_cons]
    exact (build n h.1).either (anyOf (m :: rest) h.2)

end

end Means

end Automaton

end TokenOverlay.Pattern
