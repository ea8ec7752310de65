/-
Patterns between the anchors of a whole name. The text of a pattern is put between them as it stands, so
it could close the bracket that is meant for it, as `a)|(?:b` does. A text that is a pattern by itself
does not: read between the anchors it is the same tree, or the whole is no pattern.
-/
import TokenOverlay.Pattern
import TokenOverlay.Proofs.Pattern.InStep

namespace TokenOverlay.Pattern

open Read

variable {d length length' fuel : Nat}

/-! ## Steps as tests on the next character -/

theorem branches_succ (length fuel depth : Nat) : branches length (fuel + 1) depth = (do
    let first ← parts length fuel depth []
    blanks
    if (← rest).head? = some '|' then moreBranches length fuel depth [first]
    else
      let s ← get
      if s.byNumber && !s.names.isEmpty then failure
      return first) := by
  rw [branches]
  congr 1
  funext first
  congr 1
  funext _
  congr 1
  funext cs
  split
  · rfl
  · rename_i hne
    rw [if_neg fun h => ?_]
    obtain ⟨cs, rfl⟩ := List.head?_eq_some_iff.1 h
    exact hne cs rfl

theorem moreBranches_succ (length fuel depth : Nat) (done : List Node) :
    moreBranches length (fuel + 1) depth done = (do
      let cs ← rest
      if cs.head? = some '|' then
        setRest cs.tail
        let branch ← parts length fuel depth []
        blanks
        moreBranches length fuel depth (branch :: done)
      else return .choice done.reverse) := by
  rw [moreBranches]
  congr 1
  funext cs
  split
  · rfl
  · rename_i hne
    rw [if_neg fun h => ?_]
    obtain ⟨cs, rfl⟩ := List.head?_eq_some_iff.1 h
    exact hne cs rfl

/-- The part that begins with a character. -/
def atomOf (length fuel depth : Nat) (f : Flags) (c : Char) : Read Node :=
  if c = '.' then return .atom (.any f.dotAll)
  else if c = '^' then return .anchor (if f.lines then .lineStart else .textStart)
  else if c = '$' then return .anchor (if f.lines then .lineEnd else .textEnd)
  else if c = '(' then group length fuel (depth + 1)
  else if c = '\\' then return (← escape length false).toNode
  else if c = '[' then return .atom (.set (← brackets length) f.fold)
  else return .atom (.char c f.fold)

theorem atom_succ (length fuel depth : Nat) : atom length (fuel + 1) depth = (do
    blanks
    let f ← flags
    match ← rest with
    | [] => return .empty
    | c :: cs =>
      if ['+', '*', '?', '|', ')'].contains c then return .empty
      setRest cs
      atomOf length fuel depth f c) := by
  rw [atom]
  congr 1
  funext _
  congr 1
  funext f
  congr 1
  funext cs
  cases cs with
  | nil => rfl
  | cons c cs =>
    dsimp only
    split
    · rfl
    · congr 1
      funext _
      unfold atomOf
      split <;> simp_all

/-- A condition after its test. -/
def afterTest (length fuel depth : Nat) (test : Node) : Read Node := do
  close
  let before ← taken
  let body ← branches length fuel depth
  if (← taken) = before then
    match test with
    | .reference number =>
      close
      return .matched number
    | _ => failure
  else
    close
    return .ofCondition test body

theorem conditional_succ (length fuel depth : Nat) : conditional length (fuel + 1) depth = (do
    match ← rest with
    | [] => failure >>= afterTest length fuel depth
    | c :: _ =>
      if c.isDigit then numberedReference length >>= afterTest length fuel depth
      else if c = '\'' then namedReference ['\''] '\'' true >>= afterTest length fuel depth
      else if c = '<' then namedReference ['<'] '>' true >>= afterTest length fuel depth
      else branches length fuel depth >>= afterTest length fuel depth) := by
  rw [conditional]
  rfl

/-- The parts of a branch where the text is not at its end. -/
def partsOn (length fuel depth : Nat) (done : List Node) : Read Node := do
  let before ← taken
  let node ← atom length fuel depth
  let node ← quantified node
  if (← taken) = before then return .ofParts done.reverse
  parts length fuel depth (if node.isEmpty then done else node :: done)

section Runs

variable {r : Reading}

@[simp] theorem run_rest : rest.run r = some (r.rest, r) := rfl

@[simp] theorem run_flags : flags.run r = some (r.flags, r) := rfl

@[simp] theorem run_taken : taken.run r = some (r.taken, r) := rfl

@[simp] theorem run_setRest (cs : List Char) :
    (setRest cs).run r = some ((), { r with rest := cs, taken := r.taken + 1 }) := rfl

theorem run_blanks (h : startsBlank r.flags.free r.rest = false) : blanks.run r = some ((), r) := by
  simp [blanks, h]

theorem run_quantified (part : Node) (h : startsBlank r.flags.free r.rest = false)
    (hnone : quantifier? r.flags.free r.rest = none) : (quantified part).run r = some (part, r) := by
  simp [quantified, run_blanks h, hnone]

theorem parts_run_nil (h : r.rest = []) (length fuel depth : Nat) (done : List Node) :
    (parts length (fuel + 1) depth done).run r = some (.ofParts done.reverse, r) := by
  rw [parts]
  simp [h]

theorem parts_run_cons (h : r.rest ≠ []) (length fuel depth : Nat) (done : List Node) :
    (parts length (fuel + 1) depth done).run r = (partsOn length fuel depth done).run r := by
  rw [parts]
  simp [partsOn, h]

end Runs

/-! ## At the closing -/

section Closing

variable {r s : Reading} (h : r.rest = closing)
include h

theorem startsBlank_closing : startsBlank r.flags.free r.rest = false := by
  rw [h]
  cases r.flags.free <;> rfl

theorem atom_closing {length fuel depth : Nat} {node : Node}
    (hnode : (atom length fuel depth).run r = some (node, s)) : node = .empty ∧ s = r := by
  cases fuel with
  | zero =>
    rw [atom] at hnode
    cases hnode
  | succ fuel =>
    rw [atom_succ] at hnode
    simp only [StateT.run_bind, run_blanks (startsBlank_closing h), run_flags, run_rest, Option.bind_eq_bind,
      Option.bind_some, h, closing] at hnode
    cases hnode
    exact ⟨rfl, rfl⟩

/-- No part begins at the closing. -/
theorem parts_closing {length fuel depth : Nat} {done : List Node} {node : Node}
    (hnode : (parts length fuel depth done).run r = some (node, s)) : node = .ofParts done.reverse ∧ s = r := by
  have hquantifier : quantifier? r.flags.free r.rest = none := by
    rw [h]
    rfl
  cases fuel with
  | zero =>
    rw [parts] at hnode
    cases hnode
  | succ fuel =>
    rw [parts_run_cons (by rw [h]; exact List.cons_ne_nil _ _), partsOn] at hnode
    simp only [StateT.run_bind, run_taken, Option.bind_eq_bind, Option.bind_some] at hnode
    obtain ⟨⟨part, t⟩, hpart, hnode⟩ := Option.bind_eq_some_iff.1 hnode
    obtain ⟨rfl, rfl⟩ := atom_closing h hpart
    simp only [run_quantified _ (startsBlank_closing h) hquantifier, Option.bind_some, if_true] at hnode
    cases hnode
    exact ⟨rfl, rfl⟩

end Closing

/-! ## Readers in step -/

/-- All readers of parts do the same in both texts if they go at most so deep in the first. -/
structure AllInStep (d length length' fuel : Nat) : Prop where
  branches : ∀ fuel' depth depth', InStep d Eq (branches length fuel depth) (branches length' fuel' depth')
  moreBranches : ∀ fuel' depth depth' done,
    InStep d Eq (moreBranches length fuel depth done) (moreBranches length' fuel' depth' done)
  parts : ∀ fuel' depth depth' done, InStep d Eq (parts length fuel depth done) (parts length' fuel' depth' done)
  atom : ∀ fuel' depth depth', InStep d Eq (atom length fuel depth) (atom length' fuel' depth')
  group : ∀ fuel' depth depth', InStep d Eq (group length fuel depth) (group length' fuel' depth')
  conditional : ∀ fuel' depth depth',
    InStep d Eq (conditional length fuel depth) (conditional length' fuel' depth')

namespace AllInStep

variable (ih : AllInStep d length length' fuel) (fuel' depth depth' : Nat)
include ih

theorem branches_succ : InStep d Eq (Pattern.branches length (fuel + 1) depth) (Pattern.branches length' fuel' depth') := by
  cases fuel' with
  | zero =>
    rw [Pattern.branches.eq_1 length']
    exact .failure_right
  | succ fuel' =>
    rw [Pattern.branches_succ, Pattern.branches_succ]
    refine .bindEq (ih.parts ..) fun first => .bindEq .blanks fun _ => .bind .rest fun cs cs' h => ?_
    simp only [h.head?_eq_some_iff (show '|' ≠ ')' by decide)]
    split
    · exact ih.moreBranches ..
    · refine .bind .get fun r r' hr => ?_
      obtain ⟨_, -, rfl⟩ := hr
      split
      · exact .failure_bind
      · exact .pure rfl

theorem moreBranches_succ (done : List Node) :
    InStep d Eq (Pattern.moreBranches length (fuel + 1) depth done) (Pattern.moreBranches length' fuel' depth' done) := by
  cases fuel' with
  | zero =>
    rw [Pattern.moreBranches.eq_1 length']
    exact .failure_right
  | succ fuel' =>
    rw [Pattern.moreBranches_succ, Pattern.moreBranches_succ]
    refine .bind .rest fun cs cs' h => ?_
    simp only [h.head?_eq_some_iff (show '|' ≠ ')' by decide)]
    split
    · rename_i hbar
      exact .bindEq (.setRest (h.tail hbar)) fun _ => .bindEq (ih.parts ..) fun _ =>
        .bindEq .blanks fun _ => ih.moreBranches ..
    · exact .pure rfl

theorem atomOf (f : Flags) (c : Char) :
    InStep d Eq (atomOf length fuel depth f c) (Pattern.atomOf length' fuel' depth' f c) := by
  unfold Pattern.atomOf
  split_ifs
  · exact .pure rfl
  · exact .pure rfl
  · exact .pure rfl
  · exact .pure rfl
  · exact .pure rfl
  · exact ih.group ..
  · exact .bindEq (.escape ..) fun _ => .pure rfl
  · exact .bindEq (.brackets ..) fun _ => .pure rfl
  · exact .pure rfl

theorem atom_succ : InStep d Eq (Pattern.atom length (fuel + 1) depth) (Pattern.atom length' fuel' depth') := by
  cases fuel' with
  | zero =>
    rw [Pattern.atom.eq_1 length']
    exact .failure_right
  | succ fuel' =>
    rw [Pattern.atom_succ, Pattern.atom_succ]
    refine .bindEq .blanks fun _ => .bindEq .flags fun f => .bind .rest fun cs cs' h => ?_
    obtain ⟨rfl, rfl | rfl⟩ | ⟨c, rest, rest', rfl, rfl, hrest⟩ := h.head
    · exact .pure rfl
    · exact .pure rfl
    · dsimp only
      split
      · exact .pure rfl
      · exact .bindEq (.setRest hrest) fun _ => ih.atomOf ..

theorem group_succ : InStep d Eq (Pattern.group length (fuel + 1) depth) (Pattern.group length' fuel' depth') := by
  cases fuel' with
  | zero =>
    rw [Pattern.group.eq_1 length']
    exact .failure_right
  | succ fuel' =>
    rw [Pattern.group, Pattern.group]
    have hbody {f f' : Node → Read Node} (hf : ∀ body, InStep d Eq (f body) (f' body)) :
        InStep d Eq (Pattern.branches length fuel depth >>= f) (Pattern.branches length' fuel' depth' >>= f') :=
      .bindEq (ih.branches ..) hf
    split
    · exact .failure_bind
    · split
      · exact .failure_right
      · refine .bindEq .blanks fun _ => .bind .rest fun cs cs' h => ?_
        obtain ⟨hkind, hgoes⟩ := groupKind_tallies h
        generalize groupKind cs = p, groupKind cs' = p' at hkind hgoes
        obtain ⟨kind, cs⟩ := p
        obtain ⟨_, cs'⟩ := p'
        cases hkind
        dsimp only
        refine .bindEq (.setRest hgoes) fun _ => ?_
        cases kind with
        | look kind => exact hbody fun _ => .bindEq .close fun _ => .pure rfl
        | atomic => exact hbody fun _ => .bindEq .close fun _ => .pure rfl
        | capture => exact .bindEq .openGroup fun _ => hbody fun _ => .bindEq .close fun _ => .pure rfl
        | named opening mark =>
          refine .bindEq .openGroup fun _ => .bind .rest fun cs cs' h => ?_
          exact .bindEq (.take (name?_kept _ _ h)) fun _ => .bindEq (.modify fun _ _ _ => rfl) fun _ =>
            hbody fun _ => .bindEq .close fun _ => .pure rfl
        | reference => exact .namedReference _ _ _ fun h => by cases h
        | conditional => exact ih.conditional ..
        | flags =>
          refine .bindEq .flags fun old => .bindEq (.flagLetters ..) fun c => ?_
          split
          · exact hbody fun _ => .bindEq (.expect _) fun _ => .bindEq (.setFlags _) fun _ => .pure rfl
          · exact .pure rfl

theorem afterTest (test : Node) :
    InStep d Eq (afterTest length fuel depth test) (Pattern.afterTest length' fuel' depth' test) := by
  refine .bindEq .close fun _ => .bind .taken fun n n' hn => .bindEq (ih.branches ..) fun body => ?_
  refine .bind .taken fun k k' hk => ?_
  have hsame : k' = n' ↔ k = n := by omega
  simp only [hsame]
  split
  · split
    · exact .bindEq .close fun _ => .pure rfl
    · exact .failure_left
  · exact .bindEq .close fun _ => .pure rfl

theorem conditional_succ :
    InStep d Eq (Pattern.conditional length (fuel + 1) depth) (Pattern.conditional length' fuel' depth') := by
  cases fuel' with
  | zero =>
    rw [Pattern.conditional.eq_1 length']
    exact .failure_right
  | succ fuel' =>
    rw [Pattern.conditional_succ, Pattern.conditional_succ]
    refine .bind .rest fun cs cs' h => ?_
    obtain ⟨rfl, -⟩ | ⟨c, rest, rest', rfl, rfl, -⟩ := h.head
    · exact .failure_bind
    · dsimp only
      split_ifs
      · exact .bindEq (.numberedReference ..) fun _ => ih.afterTest ..
      · exact .bindEq (.namedReference _ _ _ fun _ => ⟨_, rfl⟩) fun _ => ih.afterTest ..
      · exact .bindEq (.namedReference _ _ _ fun _ => ⟨_, rfl⟩) fun _ => ih.afterTest ..
      · exact .bindEq (ih.branches ..) fun _ => ih.afterTest ..

theorem partsOn (done : List Node) :
    InStep d Eq (partsOn length fuel depth done) (Pattern.partsOn length' fuel' depth' done) := by
  refine .bind .taken fun n n' hn => .bindEq (ih.atom ..) fun node => .bindEq (.quantified node) fun part => ?_
  refine .bind .taken fun k k' hk => ?_
  have hsame : k' = n' ↔ k = n := by omega
  simp only [hsame]
  split
  · exact .pure rfl
  · exact ih.parts ..

theorem parts_succ (done : List Node) :
    InStep d Eq (Pattern.parts length (fuel + 1) depth done) (Pattern.parts length' fuel' depth' done) := by
  cases fuel' with
  | zero =>
    rw [Pattern.parts.eq_1 length']
    exact .failure_right
  | succ fuel' =>
    intro r r' hr a s ha a' s' ha'
    obtain ⟨cs, hcs, rfl⟩ := id hr
    by_cases hend : r.rest = []
    · rw [parts_run_nil hend] at ha
      cases ha
      obtain ⟨-, rfl | rfl⟩ | ⟨c, rest, rest', hrest, -⟩ := hcs.head
      · rw [parts_run_nil rfl] at ha'
        cases ha'
        exact ⟨rfl, hr⟩
      · -- the closing ends the parts as the end of the text does
        obtain ⟨rfl, rfl⟩ := parts_closing rfl ha'
        exact ⟨rfl, hr⟩
      · rw [hend] at hrest
        cases hrest
    · have hend' : cs ≠ [] := by
        rintro rfl
        exact hend hcs.eq_nil
      rw [parts_run_cons hend] at ha
      rw [parts_run_cons hend'] at ha'
      exact ih.partsOn _ _ _ done hr ha ha'

end AllInStep

/-- All readers of parts do the same in both texts. -/
theorem allInStep (d length length' fuel : Nat) : AllInStep d length length' fuel := by
  induction fuel with
  | zero =>
    constructor
    all_goals intros
    · rw [branches.eq_1 length]
      exact .failure_left
    · rw [moreBranches.eq_1 length]
      exact .failure_left
    · rw [parts.eq_1 length]
      exact .failure_left
    · rw [atom.eq_1 length]
      exact .failure_left
    · rw [group.eq_1 length]
      exact .failure_left
    · rw [conditional.eq_1 length]
      exact .failure_left
  | succ fuel ih =>
    exact ⟨ih.branches_succ, ih.moreBranches_succ, ih.parts_succ, ih.atom_succ, ih.group_succ, ih.conditional_succ⟩

/-! ## Whole patterns -/

/-- A pattern between the anchors of a whole name. -/
def Node.wholeName (n : Node) : Node :=
  .sequence (if n.isEmpty then [.anchor .textStart, .anchor .textEnd]
    else [.anchor .textStart, n, .anchor .textEnd])

section Wrapped

variable {r s t : Reading} {cs : List Char} {node body : Node} {length fuel depth : Nat} {done : List Node}

theorem parts_ok (hr : r.rest ≠ []) (h : (parts length (fuel + 1) depth done).run r = some (node, s)) :
    ∃ part u q v, (atom length fuel depth).run r = some (part, u) ∧ (quantified part).run u = some (q, v) ∧
      (v.taken ≠ r.taken →
        (parts length fuel depth (if q.isEmpty then done else q :: done)).run v = some (node, s)) := by
  rw [parts_run_cons hr, partsOn] at h
  simp only [StateT.run_bind, run_taken, Option.bind_eq_bind, Option.bind_some] at h
  obtain ⟨⟨part, u⟩, hpart, h⟩ := Option.bind_eq_some_iff.1 h
  obtain ⟨⟨q, v⟩, hq, h⟩ := Option.bind_eq_some_iff.1 h
  refine ⟨part, u, q, v, hpart, hq, fun hne => ?_⟩
  rw [if_neg hne] at h
  exact h

theorem run_atom {c : Char} (hrest : r.rest = c :: cs) (hblank : startsBlank r.flags.free r.rest = false)
    (hc : ['+', '*', '?', '|', ')'].contains c = false) :
    (atom length (fuel + 1) depth).run r =
      (atomOf length fuel depth r.flags c).run { r with rest := cs, taken := r.taken + 1 } := by
  rw [atom_succ]
  simp only [StateT.run_bind, run_blanks hblank, run_flags, run_rest, Option.bind_eq_bind, Option.bind_some, hrest,
    hc, Bool.false_eq_true, if_false, run_setRest]

theorem run_flagLetters_colon (hrest : r.rest = ':' :: cs) (hfree : r.flags.free = false) (fuel : Nat) :
    (flagLetters (fuel + 1) true true false).run r = some (':', { r with rest := cs, taken := r.taken + 1 }) := by
  have hblank : startsBlank r.flags.free r.rest = false := by rw [hrest, hfree]; rfl
  simp [flagLetters, run_blanks hblank, hrest]

theorem run_expect {c : Char} {u : Unit} (h : (expect c).run r = some (u, s)) :
    ∃ cs, r.rest = c :: cs ∧ s = { r with rest := cs, taken := r.taken + 1 } := by
  rw [expect] at h
  simp only [StateT.run_bind, run_rest, Option.bind_eq_bind, Option.bind_some] at h
  split at h
  · rename_i d cs hrest
    split at h
    · rename_i hcd
      cases h
      exact ⟨cs, hcd ▸ hrest, rfl⟩
    · cases h
  · cases h

/-- A group that only brackets its branches, and restores the flags. -/
theorem group_colon_ok (hrest : r.rest = '?' :: ':' :: cs) (hfree : r.flags.free = false)
    (h : (group length (fuel + 1) 1).run r = some (node, s)) :
    ∃ t cs', (branches length fuel 1).run { r with rest := cs, taken := r.taken + 2 } = some (node, t) ∧
      t.rest = ')' :: cs' ∧ s = { t with rest := cs', taken := t.taken + 1, flags := r.flags } := by
  have hblank : startsBlank r.flags.free r.rest = false := by rw [hrest, hfree]; rfl
  have hkind : groupKind ('?' :: ':' :: cs) = (.flags, ':' :: cs) := rfl
  have hletters := run_flagLetters_colon (r := { r with rest := ':' :: cs, taken := r.taken + 1 }) rfl hfree length
  rw [group] at h
  simp only [maxDepth, run_blanks hblank, run_rest, run_setRest, run_flags, StateT.run_bind, Option.bind_eq_bind,
    Option.bind_some, hrest, hkind, Nat.reduceLeDiff, if_false, hletters] at h
  obtain ⟨⟨body, t⟩, hbody, h⟩ := Option.bind_eq_some_iff.1 h
  obtain ⟨⟨_, t'⟩, hexpect, h⟩ := Option.bind_eq_some_iff.1 h
  obtain ⟨cs', hcs', rfl⟩ := run_expect hexpect
  cases h
  exact ⟨t, cs', hbody, hcs', rfl⟩

/-- The anchor at the end of the text. -/
theorem parts_textEnd (hrest : r.rest = ['$']) (hflags : r.flags = {})
    (h : (parts length (fuel + 2) depth done).run r = some (node, s)) :
    node = .ofParts (.anchor .textEnd :: done).reverse ∧ s = { r with rest := [], taken := r.taken + 1 } := by
  have hblank : startsBlank r.flags.free r.rest = false := by rw [hrest, hflags]; rfl
  obtain ⟨part, u, q, v, hpart, hq, hparts⟩ := parts_ok (by rw [hrest]; exact List.cons_ne_nil _ _) h
  rw [run_atom hrest hblank rfl, hflags] at hpart
  cases hpart
  rw [run_quantified _ rfl rfl] at hq
  cases hq
  have hparts := hparts (Nat.succ_ne_self _)
  rw [parts_run_nil rfl] at hparts
  cases hparts
  exact ⟨rfl, by rw [hflags]⟩

/-- A single branch that ends the text. -/
theorem branches_ok (h : (branches length (fuel + 1) depth).run r = some (node, s)) :
    ∃ first u, (parts length fuel depth []).run r = some (first, u) ∧ (u.rest = [] → node = first ∧ s = u) := by
  rw [branches_succ] at h
  simp only [StateT.run_bind, Option.bind_eq_bind] at h
  obtain ⟨⟨first, u⟩, hfirst, h⟩ := Option.bind_eq_some_iff.1 h
  refine ⟨first, u, hfirst, fun hu => ?_⟩
  have hblank : startsBlank u.flags.free u.rest = false := by rw [hu]; rfl
  simp only [run_blanks hblank, run_rest, Option.bind_some, hu, List.head?_nil, reduceCtorEq, if_false,
    StateT.run_bind, Option.bind_eq_bind] at h
  obtain ⟨⟨_, _⟩, hget, h⟩ := Option.bind_eq_some_iff.1 h
  cases hget
  split at h
  · cases h
  · cases h
    exact ⟨rfl, rfl⟩

/-- The whole of a text between the anchors, given how the part in brackets is read. -/
theorem branches_wrapped
    (h : (branches length (fuel + 5) 0).run { rest := '^' :: '(' :: '?' :: ':' :: cs } = some (node, s)) :
    ∃ body t, (branches length fuel 1).run { rest := cs, taken := 4 } = some (body, t) ∧
      (GoesOn [] t.rest → 0 < t.taken →
        node = body.wholeName ∧ s = { t with rest := [], taken := t.taken + 2, flags := {} }) := by
  obtain ⟨first, u, hfirst, hend⟩ := branches_ok h
  obtain ⟨start, v, _, w, hstart, hq, hparts⟩ := parts_ok (List.cons_ne_nil _ _) hfirst
  rw [run_atom rfl rfl rfl] at hstart
  cases hstart
  rw [run_quantified _ rfl rfl] at hq
  cases hq
  obtain ⟨body, v, q, w, hgroup, hq, hparts⟩ := parts_ok (List.cons_ne_nil _ _) (hparts (Nat.succ_ne_self _))
  rw [run_atom rfl rfl rfl] at hgroup
  obtain ⟨t, cs', hbody, hrest, rfl⟩ := group_colon_ok rfl rfl hgroup
  refine ⟨body, t, hbody, fun hgoes ht => ?_⟩
  obtain rfl : cs' = ['$'] := by
    rw [hrest] at hgoes
    cases hgoes
    rfl
  rw [run_quantified _ rfl rfl] at hq
  cases hq
  obtain ⟨htree, hu⟩ := parts_textEnd rfl rfl (hparts (Nat.ne_of_gt (Nat.succ_lt_succ ht)))
  obtain ⟨rfl, rfl⟩ := hend (by rw [hu])
  refine ⟨?_, hu⟩
  rw [htree, Node.wholeName]
  cases body.isEmpty <;> rfl

end Wrapped

theorem toList_anchored (text : String) :
    (anchored text).toList = '^' :: '(' :: '?' :: ':' :: (text.toList ++ closing) := by
  rw [anchored, String.toList_append, String.toList_append]
  rfl

theorem length_anchored (text : String) : (anchored text).length = text.length + 6 := by
  rw [← String.length_toList, toList_anchored, ← String.length_toList]
  simp [closing]

namespace Source

variable {text : String} {source own whole : Source}

theorem ofText?_eq_some : ofText? text = some source ↔
    ∃ r, (branches text.utf8ByteSize (10 * text.length + 20) 0).run { rest := text.toList } = some (source.node, r) ∧
      r.rest = [] ∧ (r.referenced.all fun n => 0 < n && n ≤ r.groups) = true ∧
      source = ⟨source.node, r.groups, r.referenced⟩ := by
  unfold ofText?
  rw [Option.bind_eq_bind, Option.bind_eq_some_iff]
  constructor
  · rintro ⟨⟨node, r⟩, hr, h⟩
    dsimp only at h
    split at h
    · rename_i hcheck
      cases h
      rw [Bool.and_eq_true, List.isEmpty_iff] at hcheck
      exact ⟨r, hr, hcheck.1, hcheck.2, rfl⟩
    · cases h
  · rintro ⟨r, hr, hrest, hall, hsource⟩
    refine ⟨(source.node, r), hr, ?_⟩
    dsimp only
    rw [if_pos (by rw [hrest, hall]; rfl), hsource]

/-- A text that is a pattern by itself is the same pattern between the anchors of a whole name. -/
theorem ofText?_anchored (hown : ofText? text = some own) (hwhole : ofText? (anchored text) = some whole) :
    whole = ⟨own.node.wholeName, own.groups, own.referenced⟩ := by
  obtain ⟨r, hr, hrest, -, hown⟩ := ofText?_eq_some.1 hown
  obtain ⟨s, hs, -, -, hwhole⟩ := ofText?_eq_some.1 hwhole
  rw [toList_anchored, length_anchored] at hs
  obtain ⟨body, t, hbody, hend⟩ := branches_wrapped hs
  obtain ⟨rfl, cs, hcs, rfl⟩ := (allInStep 4 _ _ _).branches _ 0 1 ⟨_, .closed _, rfl⟩ hr hbody
  obtain ⟨hnode, hs⟩ := hend (hrest ▸ hcs) (Nat.succ_pos _)
  rw [hwhole, hnode, hs, hown]

end Source

end TokenOverlay.Pattern
