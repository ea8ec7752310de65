/-
The search of an automaton finds a match just if there is one. At a place the states that take no
character are followed until none is left; a state that was seen leads nowhere new, and what was seen is
closed under such steps. So the front holds every atom that is reached and knows whether a state was
reached that accepts, and the search goes all ways that lead to acceptance and no others.
-/
import Mathlib.Logic.Relation
import TokenOverlay.Proofs.Pattern.Language

namespace TokenOverlay.Pattern.Automaton

open Relation (ReflTransGen)

variable {m : Automaton} {text : Array Char} {i s t : Nat}

/-! ## Steps that take no character -/

/-- Steps at a place lead from a state to another. -/
def Reaches (m : Automaton) (text : Array Char) (i : Nat) : Nat → Nat → Prop :=
  ReflTransGen fun s t => Steps m.states text s i t i

/-- A step takes a character or stays at its place. -/
theorem steps_cases {j : Nat} (h : Steps m.states text s i t j) :
    (j = i) ∨ ∃ a c, m.states[s]? = some (.atom a t) ∧ text[i]? = some c ∧ a.takes c = true ∧ j = i + 1 := by
  unfold Steps at h
  split at h
  · rename_i a next hs
    obtain ⟨⟨c, hc, ha⟩, rfl, hj⟩ := h
    exact .inr ⟨a, c, hs, hc, ha, hj⟩
  · exact .inl h.2.2
  · exact .inl h.2
  · exact h.elim

/-- A way to acceptance stays at its place up to a state that accepts or takes the character there. -/
theorem exists_leads_iff :
    (∃ n, Leads m.states text n s i) ↔
      (∃ t, m.Reaches text i s t ∧ m.states[t]? = some .accept) ∨
        ∃ t a next c, m.Reaches text i s t ∧ m.states[t]? = some (.atom a next) ∧ text[i]? = some c ∧
          a.takes c = true ∧ ∃ n, Leads m.states text n next (i + 1) := by
  constructor
  · rintro ⟨n, h⟩
    induction n generalizing s with
    | zero => exact .inl ⟨s, .refl, h⟩
    | succ n ih =>
      obtain ⟨t, j, hstep, h⟩ := h
      obtain rfl | ⟨a, c, hs, hc, ha, rfl⟩ := steps_cases hstep
      · obtain ⟨u, hreach, hu⟩ | ⟨u, a, next, c, hreach, hu⟩ := ih h
        · exact .inl ⟨u, .head hstep hreach, hu⟩
        · exact .inr ⟨u, a, next, c, .head hstep hreach, hu⟩
      · exact .inr ⟨s, a, t, c, .refl, hs, hc, ha, n, h⟩
  · -- steps at the place are put in front of a way one by one, from the last one on
    have hback : ∀ {t}, m.Reaches text i s t → (∃ n, Leads m.states text n t i) → ∃ n, Leads m.states text n s i := by
      intro t hreach
      induction hreach with
      | refl => exact id
      | tail _ hstep ih => exact fun ⟨n, h⟩ => ih (leads_of_step hstep h)
    rintro (⟨t, hreach, ht⟩ | ⟨t, a, next, c, hreach, ht, hc, ha, n, h⟩)
    · exact hback hreach ⟨0, ht⟩
    · exact hback hreach (leads_of_step ((steps_atom ht).2 ⟨⟨c, hc, ha⟩, rfl, rfl⟩) h)

/-! ## Following -/

/-- A state is reached from one of a list. -/
def ReachesFrom (m : Automaton) (text : Array Char) (i : Nat) (stack : List Nat) (t : Nat) : Prop :=
  ∃ s ∈ stack, m.Reaches text i s t

section ReachesFrom

variable {stack : List Nat}

theorem ReachesFrom.self : m.ReachesFrom text i (s :: stack) s :=
  ⟨s, List.mem_cons_self, .refl⟩

theorem ReachesFrom.tail (h : m.ReachesFrom text i stack t) : m.ReachesFrom text i (s :: stack) t := by
  obtain ⟨u, hu, h⟩ := h
  exact ⟨u, List.mem_cons_of_mem s hu, h⟩

/-- The states that a step leads to stand for the one it leads from. -/
theorem ReachesFrom.of_steps (more : List Nat) (hmore : ∀ u ∈ more, Steps m.states text s i u i)
    (h : m.ReachesFrom text i (more ++ stack) t) : m.ReachesFrom text i (s :: stack) t := by
  obtain ⟨u, hu, h⟩ := h
  obtain hu | hu := List.mem_append.1 hu
  · exact ⟨s, List.mem_cons_self, .head (hmore u hu) h⟩
  · exact .tail ⟨u, hu, h⟩

end ReachesFrom

/-- What is found by following is reached: a state that accepts, and every atom that waits. -/
structure Front.Sound (m : Automaton) (text : Array Char) (i : Nat) (stack : List Nat) (found : List (Atom × Nat))
    (f : Front) : Prop where
  accepts : f.accepts = true → ∃ t, m.ReachesFrom text i stack t ∧ m.states[t]? = some .accept
  waiting : ∀ a next, (a, next) ∈ f.waiting →
    (a, next) ∈ found ∨ ∃ t, m.ReachesFrom text i stack t ∧ m.states[t]? = some (.atom a next)

theorem Front.Sound.weaken {stack more : List Nat} {found found' : List (Atom × Nat)} {f : Front}
    (h : f.Sound m text i more found') (hreach : ∀ t, m.ReachesFrom text i more t → m.ReachesFrom text i stack t)
    (hfound : ∀ a next, (a, next) ∈ found' →
      (a, next) ∈ found ∨ ∃ t, m.ReachesFrom text i stack t ∧ m.states[t]? = some (.atom a next)) :
    f.Sound m text i stack found where
  accepts hacc := by
    obtain ⟨t, ht, hstate⟩ := h.accepts hacc
    exact ⟨t, hreach t ht, hstate⟩
  waiting a next hmem := by
    obtain hmem | ⟨t, ht, hstate⟩ := h.waiting a next hmem
    · exact hfound a next hmem
    · exact .inr ⟨t, hreach t ht, hstate⟩

theorem Front.sound_found (stack : List Nat) (found : List (Atom × Nat)) :
    Front.Sound m text i stack found ⟨found.reverse, false⟩ where
  accepts h := by cases h
  waiting _ _ hmem := .inl (List.mem_reverse.1 hmem)

theorem follow_sound (fuel : Nat) (stack : List Nat) (visited : Array Bool) (found : List (Atom × Nat)) :
    (m.follow text i fuel stack visited found).Sound m text i stack found := by
  induction fuel generalizing stack visited found with
  | zero => exact Front.sound_found stack found
  | succ fuel ih =>
    cases stack with
    | nil => exact Front.sound_found [] found
    | cons s stack =>
      rw [follow]
      split
      · exact (ih stack visited found).weaken (fun _ => .tail) fun _ _ => .inl
      · dsimp only
        split
        · rename_i a next hs
          refine (ih stack _ _).weaken (fun _ => .tail) fun b after hmem => ?_
          obtain heq | hmem := List.mem_cons.1 hmem
          · cases heq
            exact .inr ⟨s, .self, hs⟩
          · exact .inl hmem
        · rename_i a next hs
          split
          · rename_i ha
            refine (ih (next :: stack) _ found).weaken (fun _ => .of_steps [next] fun u hu => ?_) fun _ _ => .inl
            obtain rfl := List.mem_singleton.1 hu
            exact (steps_anchor hs).2 ⟨ha, rfl, rfl⟩
          · exact (ih stack _ found).weaken (fun _ => .tail) fun _ _ => .inl
        · rename_i first second hs
          refine (ih (first :: second :: stack) _ found).weaken
            (fun _ => .of_steps [first, second] fun u hu => ?_) fun _ _ => .inl
          exact (steps_split hs).2 ⟨by simpa using hu, rfl⟩
        · rename_i hs
          exact ⟨fun _ => ⟨s, .self, hs⟩, fun _ _ hmem => .inl (List.mem_reverse.1 hmem)⟩
        · exact (ih stack _ found).weaken (fun _ => .tail) fun _ _ => .inl
        · exact (ih stack _ found).weaken (fun _ => .tail) fun _ _ => .inl

/-! ### What was seen -/

/-- A state was seen, or is none. -/
def Seen (visited : Array Bool) (s : Nat) : Prop :=
  visited.getD s true = true

theorem seen_set {visited : Array Bool} :
    Seen (visited.setIfInBounds s true) t ↔ t = s ∨ Seen visited t := by
  unfold Seen
  rw [Array.getD_eq_getD_getElem?, Array.getD_eq_getD_getElem?, Array.getElem?_setIfInBounds]
  split
  · rename_i hst
    refine iff_of_true ?_ (.inl hst.symm)
    split <;> rfl
  · rename_i hst
    exact (or_iff_right (Ne.symm hst)).symm

/-- Seeing a state leaves one less that was not seen. -/
theorem count_false_set {visited : Array Bool} (hs : ¬ Seen visited s) :
    (visited.setIfInBounds s true).count false + 1 = visited.count false := by
  have hlt : s < visited.size := Decidable.byContradiction fun hge => hs (by rw [Seen, Array.getD, dif_neg hge])
  have hfalse : visited[s] = false := by
    rw [Seen, Array.getD, dif_pos hlt] at hs
    exact Bool.eq_false_iff.2 hs
  have hpos : 0 < visited.count false := Array.count_pos_iff.2 (hfalse ▸ Array.getElem_mem hlt)
  rw [Array.setIfInBounds, dif_pos hlt, Array.count_set, hfalse]
  simp
  omega

/-- What was seen so far: no state that accepts, atoms only that are among those found, and no step to a
state that is neither seen nor about to be. -/
structure Explored (m : Automaton) (text : Array Char) (i : Nat) (stack : List Nat) (visited : Array Bool)
    (found : List (Atom × Nat)) : Prop where
  accepts : ∀ s, Seen visited s → m.states[s]? ≠ some .accept
  atoms : ∀ s a next, Seen visited s → m.states[s]? = some (.atom a next) → (a, next) ∈ found
  steps : ∀ s t, Seen visited s → Steps m.states text s i t i → t ∈ stack ∨ Seen visited t

namespace Explored

variable {stack more : List Nat} {visited : Array Bool} {found found' : List (Atom × Nat)}

/-- At first no state was seen. -/
theorem init : Explored m text i stack (Array.replicate m.states.size false) [] := by
  have hnone : ∀ s, Seen (Array.replicate m.states.size false) s → m.states[s]? = none := by
    intro s hs
    rw [Seen, Array.getD_eq_getD_getElem?, Array.getElem?_replicate] at hs
    split at hs
    · cases hs
    · rename_i hge
      exact Array.getElem?_eq_none (Nat.le_of_not_lt hge)
  exact
    { accepts := fun s hs => by rw [hnone s hs]; nofun
      atoms := fun s a next hs h => by rw [hnone s hs] at h; cases h
      steps := fun s t hs h => by rw [Steps, hnone s hs] at h; exact h.elim }

/-- A state that was seen before need not be followed. -/
theorem pop (h : Explored m text i (s :: stack) visited found) (hs : Seen visited s) :
    Explored m text i stack visited found :=
  { h with
    steps := fun u t hu hstep => by
      obtain ht | ht := h.steps u t hu hstep
      · obtain rfl | ht := List.mem_cons.1 ht
        · exact .inr hs
        · exact .inl ht
      · exact .inr ht }

/-- A state is seen when what it leads to is about to be. -/
theorem see (h : Explored m text i (s :: stack) visited found) (hs : ¬ Seen visited s)
    (haccept : m.states[s]? ≠ some .accept) (hatom : ∀ a next, m.states[s]? = some (.atom a next) → (a, next) ∈ found')
    (hfound : ∀ p ∈ found, p ∈ found') (hmore : ∀ t, Steps m.states text s i t i → t ∈ more) :
    Explored m text i (more ++ stack) (visited.setIfInBounds s true) found' where
  accepts u hu := by
    obtain rfl | hu := seen_set.1 hu
    · exact haccept
    · exact h.accepts u hu
  atoms u a next hu hstate := by
    obtain rfl | hu := seen_set.1 hu
    · exact hatom a next hstate
    · exact hfound _ (h.atoms u a next hu hstate)
  steps u t hu hstep := by
    rw [seen_set, List.mem_append]
    obtain rfl | hu := seen_set.1 hu
    · exact .inl (.inl (hmore t hstep))
    · obtain ht | ht := h.steps u t hu hstep
      · obtain rfl | ht := List.mem_cons.1 ht
        · exact .inr (.inl rfl)
        · exact .inl (.inr ht)
      · exact .inr (.inr ht)

/-- What is reached from a state that was seen was seen, once nothing is left to follow. -/
theorem reaches (h : Explored m text i [] visited found) (hs : Seen visited s) (hreach : m.Reaches text i s t) :
    Seen visited t := by
  induction hreach with
  | refl => exact hs
  | tail _ hstep ih => exact (h.steps _ _ ih hstep).resolve_left List.not_mem_nil

end Explored

/-- Following to the end without acceptance sees all states of the stack and all they lead to. Every turn
takes a state off the stack, and puts two on it at most if that one was not seen before. -/
theorem follow_explored {stack : List Nat} {visited : Array Bool} {found : List (Atom × Nat)} {fuel : Nat} {f : Front}
    (hfuel : stack.length + 2 * visited.count false < fuel) (h : Explored m text i stack visited found)
    (hf : m.follow text i fuel stack visited found = f) (hno : f.accepts = false) :
    ∃ seen, Explored m text i [] seen f.waiting ∧ (∀ s ∈ stack, Seen seen s) ∧ ∀ s, Seen visited s → Seen seen s := by
  induction fuel generalizing stack visited found with
  | zero => cases hfuel
  | succ fuel ih =>
    cases stack with
    | nil =>
      subst hf
      exact ⟨visited, ⟨h.accepts, fun s a next hs hstate => List.mem_reverse.2 (h.atoms s a next hs hstate), h.steps⟩,
        nofun, fun _ => id⟩
    | cons s stack =>
      rw [List.length_cons] at hfuel
      rw [follow] at hf
      split at hf
      · rename_i hs
        obtain ⟨seen, hseen, hstack, hvisited⟩ := ih (by omega) (h.pop hs) hf
        exact ⟨seen, hseen, List.forall_mem_cons.2 ⟨hvisited s hs, hstack⟩, hvisited⟩
      · rename_i hs
        have hcount := count_false_set hs
        -- a state that does not accept: it is seen, and what it leads to comes onto the stack
        have hgo : ∀ more {found'}, more.length ≤ 2 → m.states[s]? ≠ some .accept →
            (∀ a next, m.states[s]? = some (.atom a next) → (a, next) ∈ found') → (∀ p ∈ found, p ∈ found') →
            (∀ t, Steps m.states text s i t i → t ∈ more) →
            m.follow text i fuel (more ++ stack) (visited.setIfInBounds s true) found' = f →
            ∃ seen, Explored m text i [] seen f.waiting ∧ (∀ t ∈ s :: stack, Seen seen t) ∧
              ∀ t, Seen visited t → Seen seen t := by
          intro more found' hlength haccept hatom hfound hmore hf
          obtain ⟨seen, hseen, hstack, hvisited⟩ :=
            ih (by rw [List.length_append]; omega) (h.see hs haccept hatom hfound hmore) hf
          refine ⟨seen, hseen, List.forall_mem_cons.2 ⟨hvisited s (seen_set.2 (.inl rfl)), fun t ht => ?_⟩,
            fun t ht => hvisited t (seen_set.2 (.inr ht))⟩
          exact hstack t (List.mem_append_right _ ht)
        dsimp only at hf
        split at hf
        · rename_i a next hstate
          refine hgo [] (Nat.zero_le 2) (by rw [hstate]; nofun) (fun b after hb => ?_)
            (fun p hp => List.mem_cons_of_mem _ hp) (fun t hstep => ?_) hf
          · rw [hstate] at hb
            cases hb
            exact List.mem_cons_self
          · exact absurd ((steps_atom hstate).1 hstep).2.2 (Nat.ne_of_lt (Nat.lt_succ_self i))
        · rename_i a next hstate
          have hnotAtom : ∀ b after, m.states[s]? = some (.atom b after) → (b, after) ∈ found := by
            rw [hstate]; nofun
          split at hf
          · exact hgo [next] (Nat.le_succ 1) (by rw [hstate]; nofun) hnotAtom (fun _ => id)
              (fun t hstep => List.mem_singleton.2 ((steps_anchor hstate).1 hstep).2.1) hf
          · rename_i ha
            exact hgo [] (Nat.zero_le 2) (by rw [hstate]; nofun) hnotAtom (fun _ => id)
              (fun t hstep => absurd ((steps_anchor hstate).1 hstep).1 ha) hf
        · rename_i first second hstate
          exact hgo [first, second] (Nat.le_refl 2) (by rw [hstate]; nofun) (by rw [hstate]; nofun) (fun _ => id)
            (fun t hstep => by simpa using ((steps_split hstate).1 hstep).1) hf
        · rw [← hf] at hno
          cases hno
        · rename_i hstate
          exact hgo [] (Nat.zero_le 2) (by rw [hstate]; nofun) (by rw [hstate]; nofun) (fun _ => id)
            (fun t hstep => absurd hstep (not_steps_fail hstate)) hf
        · rename_i hstate
          exact hgo [] (Nat.zero_le 2) (by rw [hstate]; nofun) (by rw [hstate]; nofun) (fun _ => id)
            (fun t hstep => by rw [Steps, hstate] at hstep; exact hstep.elim) hf

/-! ## Fronts -/

section Front

variable {states : List Nat}

theorem front_sound : (m.front text i states).Sound m text i states [] :=
  follow_sound ..

/-- A front that does not accept comes from states that reach no state that accepts, and all atoms they
reach are waiting. -/
theorem front_complete (hno : (m.front text i states).accepts = false) (h : m.ReachesFrom text i states t) :
    m.states[t]? ≠ some .accept ∧
      ∀ a next, m.states[t]? = some (.atom a next) → (a, next) ∈ (m.front text i states).waiting := by
  obtain ⟨seen, hseen, hstack, -⟩ :=
    follow_explored (by rw [Array.count_replicate_self]; omega) Explored.init rfl hno
  obtain ⟨s, hs, hreach⟩ := h
  have ht := hseen.reaches (hstack s hs) hreach
  exact ⟨hseen.accepts t ht, fun a next => hseen.atoms t a next ht⟩

theorem front_accepts :
    (m.front text i states).accepts = true ↔ ∃ t, m.ReachesFrom text i states t ∧ m.states[t]? = some .accept := by
  refine ⟨front_sound.accepts, fun ⟨t, hreach, ht⟩ => Decidable.byContradiction fun hno => ?_⟩
  exact (front_complete (Bool.eq_false_iff.2 hno) hreach).1 ht

theorem mem_front_waiting {a : Atom} {next : Nat} (hno : (m.front text i states).accepts = false) :
    (a, next) ∈ (m.front text i states).waiting ↔
      ∃ t, m.ReachesFrom text i states t ∧ m.states[t]? = some (.atom a next) := by
  refine ⟨fun h => (front_sound.waiting a next h).resolve_left List.not_mem_nil, fun ⟨t, hreach, ht⟩ => ?_⟩
  exact (front_complete hno hreach).2 a next ht

theorem Front.mem_after {f : Front} {c : Char} : s ∈ f.after c ↔ ∃ a, (a, s) ∈ f.waiting ∧ a.takes c = true := by
  rw [Front.after, List.mem_filterMap]
  constructor
  · rintro ⟨⟨a, next⟩, hmem, h⟩
    dsimp only at h
    split at h
    · rename_i ha
      cases h
      exact ⟨a, hmem, ha⟩
    · cases h
  · rintro ⟨a, hmem, ha⟩
    exact ⟨(a, s), hmem, if_pos ha⟩

end Front

/-! ## Searching -/

/-- Some state of a list leads to acceptance from a place. -/
def Arrives (m : Automaton) (text : Array Char) (i : Nat) (states : List Nat) : Prop :=
  ∃ s ∈ states, ∃ n, Leads m.states text n s i

section Arrives

variable {states : List Nat}

theorem arrives_append {more : List Nat} :
    m.Arrives text i (states ++ more) ↔ m.Arrives text i states ∨ m.Arrives text i more := by
  simp only [Arrives, List.mem_append, or_and_right, exists_or]

theorem arrives_of_accepts (h : (m.front text i states).accepts = true) : m.Arrives text i states := by
  obtain ⟨t, ⟨s, hs, hreach⟩, ht⟩ := front_accepts.1 h
  exact ⟨s, hs, exists_leads_iff.2 (.inl ⟨t, hreach, ht⟩)⟩

/-- A front that does not accept arrives just as far as the states after the character at its place. -/
theorem arrives_iff_after (hno : (m.front text i states).accepts = false) :
    m.Arrives text i states ↔
      ∃ c, text[i]? = some c ∧ m.Arrives text (i + 1) ((m.front text i states).after c) := by
  constructor
  · rintro ⟨s, hs, h⟩
    obtain ⟨t, hreach, ht⟩ | ⟨t, a, next, c, hreach, ht, hc, ha, h⟩ := exists_leads_iff.1 h
    · exact absurd ht (front_complete hno ⟨s, hs, hreach⟩).1
    · exact ⟨c, hc, next, Front.mem_after.2 ⟨a, (mem_front_waiting hno).2 ⟨t, ⟨s, hs, hreach⟩, ht⟩, ha⟩, h⟩
  · rintro ⟨c, hc, next, hnext, h⟩
    obtain ⟨a, hmem, ha⟩ := Front.mem_after.1 hnext
    obtain ⟨t, ⟨s, hs, hreach⟩, ht⟩ := (mem_front_waiting hno).1 hmem
    exact ⟨s, hs, exists_leads_iff.2 (.inr ⟨t, a, next, c, hreach, ht, hc, ha, h⟩)⟩

end Arrives

/-- The search finds a match just if the states it has lead to acceptance, or the start does from its
place or a later one. -/
theorem findsFrom_iff {fuel : Nat} {states : List Nat} (hi : i ≤ text.size)
    (hfuel : fuel + i = text.size + 1) :
    m.findsFrom text fuel i states = true ↔
      m.Arrives text i states ∨ ∃ k, i ≤ k ∧ k ≤ text.size ∧ m.Arrives text k [m.start] := by
  induction fuel generalizing i states with
  | zero => omega
  | succ fuel ih =>
    rw [findsFrom]
    -- the start counts as one of the states that the search has at its place
    have hhere : (m.Arrives text i states ∨ ∃ k, i ≤ k ∧ k ≤ text.size ∧ m.Arrives text k [m.start]) ↔
        m.Arrives text i (states ++ [m.start]) ∨ ∃ k, i + 1 ≤ k ∧ k ≤ text.size ∧ m.Arrives text k [m.start] := by
      rw [arrives_append, or_assoc]
      refine or_congr_right ⟨fun ⟨k, hik, hk, h⟩ => ?_, ?_⟩
      · obtain rfl | hlt := Nat.eq_or_lt_of_le hik
        · exact .inl h
        · exact .inr ⟨k, hlt, hk, h⟩
      · rintro (h | ⟨k, hik, hk, h⟩)
        · exact ⟨i, Nat.le_refl i, by omega, h⟩
        · exact ⟨k, Nat.le_of_succ_le hik, hk, h⟩
    rw [hhere, Bool.or_eq_true]
    by_cases hacc : (m.front text i (states ++ [m.start])).accepts = true
    · exact iff_of_true (.inl hacc) (.inl (arrives_of_accepts hacc))
    · rw [arrives_iff_after (Bool.eq_false_iff.2 hacc), or_iff_right hacc]
      cases hc : text[i]? with
      | some c =>
        obtain ⟨hlt, -⟩ := Array.getElem?_eq_some_iff.1 hc
        rw [ih hlt (by omega)]
        simp only [Option.some.injEq, exists_eq_left']
      | none =>
        have hge := Array.getElem?_eq_none_iff.1 hc
        refine iff_of_false Bool.false_ne_true ?_
        -- the place is the end of the text: no character follows, and no later place either
        rintro (⟨c, h, -⟩ | ⟨k, hik, hk, -⟩)
        · cases h
        · omega

theorem finds_iff : m.finds text = true ↔ ∃ i ≤ text.size, ∃ n, Leads m.states text n m.start i := by
  rw [finds, findsFrom_iff (Nat.zero_le _) (by omega)]
  simp [Arrives]

/-- The automaton of parts in a row finds a match in a text just if they match somewhere in it, one after
the other. -/
theorem finds_ofParts {parts : List Node} (h : allBoundsFit parts = true) :
    (ofParts parts).finds text = true ↔ ∃ i ≤ text.size, ∃ j, SpansInARow text parts i j := by
  have hparts : Means text (inARow (builders [] parts)) (SpansInARow text parts) := .inARow parts h
  have hall : HasFrom (ofParts parts).states 1 (ofParts parts).states := fun _ _ _ => rfl
  have haccept : (ofParts parts).states[0]? = some .accept := hparts.keeps 0 #[.accept] 0 Nat.one_pos
  rw [finds_iff]
  refine exists_congr fun i => and_congr_right fun _ => ⟨fun ⟨n, hn⟩ => ?_, fun ⟨j, hj⟩ => ?_⟩
  · obtain ⟨j, -, -, hspans, -⟩ := hparts.sound hall hn
    exact ⟨j, hspans⟩
  · exact hparts.complete hall hj (show Leads _ text 0 0 j from haccept)

end TokenOverlay.Pattern.Automaton
