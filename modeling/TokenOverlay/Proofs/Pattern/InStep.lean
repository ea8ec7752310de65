/-
Reading a pattern beside reading the same text with the closing of a whole name after it. A step of a
reader does the same in both wherever both succeed. What two steps give is compared by a relation, and
one rule puts steps together, so that the readers are compared part by part. How deep they may go, and
the bound on the numbers of references, may differ.
-/
import TokenOverlay.Proofs.Pattern.GoesOn

namespace TokenOverlay.Pattern

open Read

/-! ## Readings and steps -/

/-- Two readings that differ in the text that follows, and by `d` in how often something was taken. -/
def Alike (d : Nat) (r r' : Reading) : Prop :=
  ∃ cs, GoesOn r.rest cs ∧ r' = { r with rest := cs, taken := r.taken + d }

variable {α β : Type} {d : Nat} {R : α → α → Prop} {S : β → β → Prop}

/-- Where two steps succeed from readings that are alike, their results are related and the readings
alike again. -/
def InStep (d : Nat) (R : α → α → Prop) (m m' : Read α) : Prop :=
  ∀ ⦃r r'⦄, Alike d r r' → ∀ ⦃a s⦄, m.run r = some (a, s) → ∀ ⦃a' s'⦄, m'.run r' = some (a', s') →
    R a a' ∧ Alike d s s'

namespace InStep

theorem pure {a a' : α} (h : R a a') : InStep d R (pure a) (pure a') := by
  intro r r' hr b s hb b' s' hb'
  cases hb
  cases hb'
  exact ⟨h, hr⟩

theorem bind {m m' : Read α} {f f' : α → Read β} (hm : InStep d R m m')
    (hf : ∀ a a', R a a' → InStep d S (f a) (f' a')) : InStep d S (m >>= f) (m' >>= f') := by
  intro r r' hr b s hb b' s' hb'
  obtain ⟨⟨a, t⟩, ha, hb⟩ := Option.bind_eq_some_iff.1 hb
  obtain ⟨⟨a', t'⟩, ha', hb'⟩ := Option.bind_eq_some_iff.1 hb'
  obtain ⟨hR, ht⟩ := hm hr ha ha'
  exact hf a a' hR ht hb hb'

/-- After steps with equal results. -/
theorem bindEq {m m' : Read α} {f f' : α → Read β} (hm : InStep d Eq m m')
    (hf : ∀ a, InStep d S (f a) (f' a)) : InStep d S (m >>= f) (m' >>= f') := by
  refine bind hm fun a a' h => ?_
  subst h
  exact hf a

theorem failure_left {m : Read α} : InStep d R failure m := by
  intro r r' _ a s h
  cases h

theorem failure_bind {f : β → Read α} {m : Read α} : InStep d R (failure >>= f) m := by
  intro r r' _ a s h
  cases h

theorem failure_right {m : Read α} : InStep d R m failure := by
  intro r r' _ a s _ a' s' h
  cases h

theorem lift {o o' : Option α} (h : ∀ a a', o = some a → o' = some a' → R a a') :
    InStep d R (liftM o) (liftM o') := by
  intro r r' hr a s ha a' s' ha'
  obtain ⟨b, hb, ha⟩ := Option.bind_eq_some_iff.1 ha
  obtain ⟨b', hb', ha'⟩ := Option.bind_eq_some_iff.1 ha'
  cases ha
  cases ha'
  exact ⟨h _ _ hb hb', hr⟩

theorem liftSame (o : Option α) : InStep d Eq (liftM o) (liftM o) :=
  lift fun _ _ ha ha' => Option.some.inj (ha.symm.trans ha')

theorem get : InStep d (Alike d) get get := by
  intro r r' hr a s ha a' s' ha'
  cases ha
  cases ha'
  exact ⟨hr, hr⟩

theorem rest : InStep d GoesOn rest rest :=
  bind get fun r r' hr => pure (by obtain ⟨cs, hcs, rfl⟩ := hr; exact hcs)

theorem taken : InStep d (fun n n' => n' = n + d) taken taken :=
  bind get fun r r' hr => pure (by obtain ⟨cs, -, rfl⟩ := hr; rfl)

theorem flags : InStep d Eq flags flags :=
  bind get fun r r' hr => pure (by obtain ⟨cs, -, rfl⟩ := hr; rfl)

theorem setRest {cs cs' : List Char} (h : GoesOn cs cs') : InStep d Eq (setRest cs) (setRest cs') := by
  intro r r' hr a s ha a' s' ha'
  cases ha
  cases ha'
  obtain ⟨-, -, rfl⟩ := hr
  exact ⟨rfl, cs', h, by simp only [Nat.add_right_comm]⟩

/-- A change that has nothing to do with the text. -/
theorem modify {f : Reading → Reading}
    (hf : ∀ r cs n, f { r with rest := cs, taken := n } = { f r with rest := cs, taken := n }) :
    InStep d Eq (modify f) (modify f) := by
  intro r r' hr a s ha a' s' ha'
  cases ha
  cases ha'
  obtain ⟨cs, hcs, rfl⟩ := hr
  have hself : f r = { f r with rest := r.rest, taken := r.taken } := hf r r.rest r.taken
  have hrest : (f r).rest = r.rest := by rw [hself]
  have htaken : (f r).taken = r.taken := by rw [hself]
  refine ⟨rfl, cs, hrest ▸ hcs, ?_⟩
  rw [hf, htaken]

theorem setFlags (f : Flags) : InStep d Eq (setFlags f) (setFlags f) :=
  modify fun _ _ _ => rfl

theorem openGroup : InStep d Eq openGroup openGroup := by
  refine bindEq (modify fun _ _ _ => rfl) fun _ => bind get fun r r' hr => pure ?_
  obtain ⟨cs, -, rfl⟩ := hr
  rfl

theorem refer (group : Nat) : InStep d Eq (refer group) (refer group) :=
  bindEq (modify fun _ _ _ => rfl) fun _ => pure rfl

theorem take {o o' : Option (α × List Char)} (h : Kept o o') : InStep d Eq (take o) (take o') := by
  refine bind (R := Tallies) (lift fun p p' hp hp' => ?_) ?_
  · obtain ⟨q, hq, hp⟩ := h p hp
    rw [hp'] at hq
    exact Option.some.inj hq ▸ hp
  · rintro ⟨a, cs⟩ ⟨a', cs'⟩ ⟨rfl, hcs⟩
    exact bindEq (setRest hcs) fun _ => pure rfl

/-! ## Blanks -/

theorem blanks : InStep d Eq blanks blanks := by
  refine bindEq flags fun f => bind rest fun cs cs' h => ?_
  rw [startsBlank_goesOn f.free h]
  split
  · refine bind rest fun cs cs' h => bind (lift fun p p' hp hp' => ?_) fun p p' h => setRest h
    obtain ⟨q, hq, hgoes⟩ := afterBlanks?_goesOn h hp
    rw [hp'] at hq
    exact Option.some.inj hq ▸ hgoes
  · exact pure rfl

theorem expect (c : Char) : InStep d Eq (expect c) (expect c) := by
  refine bind rest fun cs cs' h => ?_
  obtain ⟨rfl, -⟩ | ⟨_, rest, rest', rfl, rfl, hrest⟩ := h.head
  · exact failure_left
  · dsimp only
    split
    · exact setRest hrest
    · exact failure_left

theorem close : InStep d Eq close close :=
  bindEq blanks fun _ => expect ')'

/-! ## References -/

theorem numberedReference (length length' : Nat) :
    InStep d Eq (numberedReference length) (numberedReference length') := by
  refine bind rest fun cs cs' h => bindEq (take (kept_of_rel (number?_rel h))) fun group => ?_
  split
  · split
    · exact bindEq (modify fun _ _ _ => rfl) fun _ => refer group
    · exact failure_right
  · exact failure_left

theorem namedReference (opening : List Char) (mark : Char) (relative : Bool)
    (hopening : relative = true → ∃ o, opening = [o]) :
    InStep d Eq (namedReference opening mark relative) (namedReference opening mark relative) := by
  refine bind rest fun cs cs' h => bind get fun r r' hr => ?_
  obtain ⟨_, -, rfl⟩ := hr
  cases hname : name? opening mark cs with
  | some p =>
    obtain ⟨p', hp', heq, hgoes⟩ := name?_kept opening mark h p hname
    rw [Option.mem_def.1 hp']
    dsimp only
    rw [← heq]
    refine bindEq (setRest hgoes) fun _ => ?_
    split
    · exact refer _
    · exact bindEq (liftSame _) fun n => refer n
  | none =>
    dsimp only
    split
    · rename_i hrelative
      obtain ⟨o, rfl⟩ := hopening hrelative
      cases hnumber : relative? [o] mark cs with
      | none => exact failure_left
      | some p =>
        obtain ⟨p', hp', heq, hgoes⟩ := relative?_kept [o] mark h p hnumber
        rw [name?_eq_none h hname hnumber, Option.mem_def.1 hp']
        dsimp only
        refine bind (R := fun q q' => q = p ∧ q' = p') (lift fun q q' hq hq' => ?_) ?_
        · exact ⟨(Option.some.inj hq).symm, (Option.some.inj hq').symm⟩
        · rintro q q' ⟨rfl, rfl⟩
          rw [← heq]
          refine bindEq (setRest hgoes) fun _ => ?_
          split
          · exact refer _
          · exact failure_left
    · exact failure_left

/-! ## Escapes -/

theorem letterReference : InStep d Eq letterReference letterReference := by
  refine bind rest fun cs cs' h => ?_
  obtain ⟨rfl, rfl | rfl⟩ | ⟨c, rest, rest', rfl, rfl, -⟩ := h.head
  · exact namedReference _ _ _ fun _ => ⟨_, rfl⟩
  · exact namedReference _ _ _ fun _ => ⟨_, rfl⟩
  · split
    · rename_i heq
      cases heq
      exact namedReference _ _ _ fun _ => ⟨_, rfl⟩
    · rename_i hne
      split
      · rename_i heq
        cases heq
        exact absurd rfl (hne rest)
      · exact namedReference _ _ _ fun _ => ⟨_, rfl⟩

theorem bareAnchor (a : Anchor) : InStep d Eq (bareAnchor a) (bareAnchor a) := by
  refine bind rest fun cs cs' h => ?_
  obtain ⟨rfl, rfl | rfl⟩ | ⟨c, rest, rest', rfl, rfl, -⟩ := h.head
  · exact pure rfl
  · exact pure rfl
  · split
    · exact failure_left
    · rename_i hne
      split
      · exact failure_right
      · exact pure rfl

theorem outsideEscape? {c : Char} {read : Read Node} (h : outsideEscape? c = some read) :
    InStep d Eq read read := by
  unfold Pattern.outsideEscape? at h
  split at h
  all_goals cases h
  · exact letterReference
  · exact pure rfl
  · exact pure rfl
  · exact bareAnchor _
  · exact bareAnchor _
  · exact pure rfl
  · exact pure rfl
  · exact pure rfl
  · exact pure rfl

theorem commonEscape (c : Char) : InStep d Eq (commonEscape c) (commonEscape c) := by
  have hhex (width : Nat) (fold : Bool) : InStep d Eq
      (do return Escape.char (← Read.take (hexEscape? width (← Read.rest))) fold)
      (do return Escape.char (← Read.take (hexEscape? width (← Read.rest))) fold) :=
    bind rest fun _ _ h => bindEq (take (hexEscape?_kept width h)) fun _ => pure rfl
  have hproperty (negated fold : Bool) : InStep d Eq
      (do return Escape.set (← Read.take (property? negated (← Read.rest))) fold)
      (do return Escape.set (← Read.take (property? negated (← Read.rest))) fold) :=
    bind rest fun _ _ h => bindEq (take (property?_kept negated h)) fun _ => pure rfl
  refine bindEq flags fun f => ?_
  split
  case h_9 => exact hhex 2 _
  case h_10 => exact hhex 4 _
  case h_11 => exact hhex 8 _
  case h_12 => exact hproperty _ _
  case h_13 => exact hproperty _ _
  case h_14 =>
    split
    · exact pure rfl
    · split
      · exact failure_left
      · exact pure rfl
  all_goals exact pure rfl

theorem escape (length length' : Nat) (inBrackets : Bool) :
    InStep d Eq (escape length inBrackets) (escape length' inBrackets) := by
  refine bind rest fun cs cs' h => ?_
  obtain ⟨rfl, -⟩ | ⟨c, rest, rest', rfl, rfl, hrest⟩ := h.head
  · exact failure_left
  · dsimp only
    split
    · exact bindEq (numberedReference _ _) fun _ => pure rfl
    · refine bindEq (setRest hrest) fun _ => ?_
      split
      · rename_i read hread
        have hread : Pattern.outsideEscape? c = some read := by
          split at hread
          · cases hread
          · exact hread
        exact bindEq (outsideEscape? hread) fun _ => pure rfl
      · exact commonEscape c

/-! ## Brackets -/

/-- The step of a bracket expression as a test on the next character. -/
theorem bracketTokens_succ (length fuel depth : Nat) (done : List BracketToken) :
    Pattern.bracketTokens length (fuel + 1) depth done = (do
      match ← Read.rest with
      | [] => failure
      | c :: cs =>
        Read.setRest cs
        if c = '\\' then do
          let tokens ← match ← Pattern.escape length true with
            | .char c _ => Pure.pure [.ofEscaped c]
            | .set s _ => Pure.pure [.charSet s]
            | .hexDigit negated => Pure.pure (hexDigitTokens negated)
            | .node _ => failure
          Pattern.bracketTokens length fuel depth (tokens.reverse ++ done)
        else if c = '[' then Pattern.bracketTokens length fuel (depth + 1) (.raw c :: done)
        else if c = ']' then
          if depth ≤ 1 then return (.raw c :: done).reverse
          else Pattern.bracketTokens length fuel (depth - 1) (.raw c :: done)
        else Pattern.bracketTokens length fuel depth (.raw c :: done)) := by
  rw [Pattern.bracketTokens]
  congr 1
  funext cs
  split
  · rfl
  · rfl
  · rename_i c cs hne
    have hc : c ≠ '\\' := fun h => hne (h ▸ rfl)
    simp only [if_neg hc]

theorem bracketTokens (length length' : Nat) (fuel fuel' depth : Nat) (done : List BracketToken) :
    InStep d Eq (bracketTokens length fuel depth done) (bracketTokens length' fuel' depth done) := by
  induction fuel generalizing fuel' depth done with
  | zero => exact failure_left
  | succ fuel ih =>
    cases fuel' with
    | zero => exact failure_right
    | succ fuel' =>
      rw [bracketTokens_succ, bracketTokens_succ]
      refine bind rest fun cs cs' h => ?_
      obtain ⟨rfl, -⟩ | ⟨c, rest, rest', rfl, rfl, hrest⟩ := h.head
      · exact failure_left
      · refine bindEq (setRest hrest) fun _ => ?_
        split_ifs
        · refine bindEq (escape _ _ _) fun e => ?_
          cases e with
          | char => exact bindEq (pure rfl) fun _ => ih _ _ _
          | set => exact bindEq (pure rfl) fun _ => ih _ _ _
          | hexDigit => exact bindEq (pure rfl) fun _ => ih _ _ _
          | node => exact bindEq failure_left fun _ => ih _ _ _
        · exact ih _ _ _
        · exact pure rfl
        · exact ih _ _ _
        · exact ih _ _ _

theorem brackets (length length' : Nat) : InStep d Eq (brackets length) (brackets length') := by
  refine bind rest fun cs cs' h => ?_
  obtain ⟨hfront, hgoes⟩ := bracketFront_tallies h
  change InStep d Eq (do
      Read.setRest (bracketFront cs).2
      let tokens ← Pattern.bracketTokens length (length + 1) 1 (bracketFront cs).1
      CharSet.ofTokens? tokens) (do
      Read.setRest (bracketFront cs').2
      let tokens ← Pattern.bracketTokens length' (length' + 1) 1 (bracketFront cs').1
      CharSet.ofTokens? tokens)
  rw [← hfront]
  exact bindEq (setRest hgoes) fun _ => bindEq (bracketTokens _ _ _ _ _ _) fun _ => liftSame _

/-! ## Quantifiers and flags -/

/-- The mark of a possessive quantifier, or none. -/
theorem possessiveMark (node : Node) :
    InStep d Eq
      (do match ← Read.rest with
        | '+' :: cs => do Read.setRest cs; return .atomic node
        | _ => return node)
      (do match ← Read.rest with
        | '+' :: cs => do Read.setRest cs; return .atomic node
        | _ => return node) := by
  refine bind rest fun cs cs' h => ?_
  obtain ⟨rfl, rfl | rfl⟩ | ⟨c, rest, rest', rfl, rfl, hrest⟩ := h.head
  · exact pure rfl
  · exact pure rfl
  · split
    · rename_i heq
      cases heq
      exact bindEq (setRest hrest) fun _ => pure rfl
    · rename_i hne
      split
      · rename_i heq
        cases heq
        exact absurd rfl (hne rest)
      · exact pure rfl

theorem quantified (part : Node) : InStep d Eq (quantified part) (quantified part) := by
  refine bindEq blanks fun _ => bindEq flags fun f => bind rest fun cs cs' h => ?_
  have hquantifier := quantifier?_rel f.free h
  generalize quantifier? f.free cs = o, quantifier? f.free cs' = o' at hquantifier ⊢
  cases hquantifier with
  | none => exact pure rfl
  | some hbounds =>
    rename_i p p'
    obtain ⟨⟨least, most⟩, cs⟩ := p
    obtain ⟨⟨_, _⟩, cs'⟩ := p'
    obtain ⟨heq, hgoes⟩ := hbounds
    cases heq
    dsimp only
    split
    · exact failure_bind
    · refine bindEq (setRest hgoes) fun _ => bindEq blanks fun _ => bind rest fun cs cs' h => ?_
      obtain ⟨rfl, rfl | rfl⟩ | ⟨c, rest, rest', rfl, rfl, hrest⟩ := h.head
      · exact possessiveMark _
      · exact possessiveMark _
      · split
        · rename_i heq
          cases heq
          exact bindEq (setRest hrest) fun _ => possessiveMark _
        · rename_i hne
          split
          · rename_i heq
            cases heq
            exact absurd rfl (hne rest)
          · exact possessiveMark _

theorem flagLetters (fuel fuel' : Nat) (on bare dashed : Bool) :
    InStep d Eq (flagLetters fuel on bare dashed) (flagLetters fuel' on bare dashed) := by
  induction fuel generalizing fuel' on bare dashed with
  | zero => exact failure_left
  | succ fuel ih =>
    cases fuel' with
    | zero => exact failure_right
    | succ fuel' =>
      refine bind taken fun n n' hn => bindEq blanks fun _ => bind taken fun k k' hk => ?_
      have hmoved : (n' < k') ↔ n < k := by omega
      refine bind rest fun cs cs' h => ?_
      obtain ⟨rfl, -⟩ | ⟨c, rest, rest', rfl, rfl, hrest⟩ := h.head
      · exact failure_left
      · simp only [hmoved]
        split
        · rename_i heq
          cases heq
        · rename_i heq
          cases heq
          split
          · exact failure_bind
          · exact bindEq (setRest hrest) fun _ => ih _ _ _ _
        · rename_i heq
          cases heq
          split
          · exact failure_bind
          · exact bindEq (setRest hrest) fun _ => pure rfl
        · rename_i heq
          cases heq
          split
          · exact failure_bind
          · exact bindEq (setRest hrest) fun _ => pure rfl
        · rename_i hdash hclose hcolon heq
          cases heq
          split
          · rename_i heq
            cases heq
          · rename_i heq
            cases heq
            exact absurd rfl hdash
          · rename_i heq
            cases heq
            exact absurd rfl hclose
          · rename_i heq
            cases heq
            exact absurd rfl hcolon
          · rename_i heq
            cases heq
            refine bindEq flags fun f => ?_
            split
            · exact failure_left
            · exact bindEq (setFlags _) fun _ => bindEq (setRest hrest) fun _ => ih _ _ _ _

end InStep

end TokenOverlay.Pattern
