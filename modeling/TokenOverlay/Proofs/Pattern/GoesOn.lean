/-
A text beside the same text with the closing of a whole name after it. What a reader looks for in the
text that follows is found in both or in neither, and what is left of them goes on as before: no number,
name, quantifier or mark of a group reaches beyond a parenthesis that closes. Only blanks may: in free
text a comment that runs to the end takes the closing with it, and then both texts are at their ends.
-/
import Mathlib.Tactic.SplitIfs
import TokenOverlay.Pattern.Reader

namespace TokenOverlay.Pattern

/-- What follows a pattern between the anchors of a whole name. -/
def closing : List Char := [')', '$']

/-- A text and the same text with the closing after it, or the ends of both. -/
inductive GoesOn : List Char → List Char → Prop
  | closed (cs : List Char) : GoesOn cs (cs ++ closing)
  | ended : GoesOn [] []

variable {α : Type}

namespace GoesOn

variable {cs cs' : List Char} {p : Char → Bool}

theorem takeWhile (hp : p ')' = false) (h : GoesOn cs cs') : cs'.takeWhile p = cs.takeWhile p := by
  cases h with
  | ended => rfl
  | closed =>
    induction cs with
    | nil => rw [List.nil_append, closing, List.takeWhile_cons, hp]; rfl
    | cons c cs ih => rw [List.cons_append, List.takeWhile_cons, List.takeWhile_cons, ih]

theorem dropWhile (hp : p ')' = false) (h : GoesOn cs cs') : GoesOn (cs.dropWhile p) (cs'.dropWhile p) := by
  cases h with
  | ended => exact .ended
  | closed =>
    induction cs with
    | nil => rw [List.nil_append, closing, List.dropWhile_cons, hp]; exact .closed []
    | cons c cs ih =>
      rw [List.cons_append, List.dropWhile_cons, List.dropWhile_cons]
      split
      · exact ih
      · exact .closed (c :: cs)

theorem of_append (front : List Char) (h : GoesOn (front ++ cs) cs') :
    ∃ rest, cs' = front ++ rest ∧ GoesOn cs rest := by
  generalize hcs : front ++ cs = text at h
  cases h with
  | closed => exact ⟨cs ++ closing, by rw [← hcs, List.append_assoc], .closed cs⟩
  | ended =>
    obtain ⟨rfl, rfl⟩ := List.append_eq_nil_iff.1 hcs
    exact ⟨[], rfl, .ended⟩

theorem eq_nil (h : GoesOn cs []) : cs = [] := by
  cases cs with
  | nil => rfl
  | cons c cs =>
    obtain ⟨rest, hrest, -⟩ := of_append [c] h
    cases hrest

/-- Both texts begin with the same character, or the first one is at its end. -/
theorem head (h : GoesOn cs cs') :
    (cs = [] ∧ (cs' = [] ∨ cs' = closing)) ∨ ∃ c rest rest', cs = c :: rest ∧ cs' = c :: rest' ∧ GoesOn rest rest' := by
  cases h with
  | ended => exact .inl ⟨rfl, .inl rfl⟩
  | closed =>
    cases cs with
    | nil => exact .inl ⟨rfl, .inr rfl⟩
    | cons c rest => exact .inr ⟨c, rest, rest ++ closing, rfl, rfl, .closed rest⟩

theorem head?_eq_some_iff (h : GoesOn cs cs') {c : Char} (hc : c ≠ ')') :
    cs'.head? = some c ↔ cs.head? = some c := by
  obtain ⟨rfl, rfl | rfl⟩ | ⟨c, rest, rest', rfl, rfl, -⟩ := h.head
  · exact Iff.rfl
  · simp [closing, hc.symm]
  · exact Iff.rfl

theorem tail (h : GoesOn cs cs') {c : Char} (hc : cs.head? = some c) : GoesOn cs.tail cs'.tail := by
  obtain ⟨rfl, -⟩ | ⟨c, rest, rest', rfl, rfl, hrest⟩ := h.head
  · cases hc
  · exact hrest

/-- A stretch of characters that ends within the text ends there in both texts. -/
theorem stretch {d : Char} {rest : List Char} (h : GoesOn cs cs') (hrest : cs.dropWhile p = d :: rest) :
    cs'.takeWhile p = cs.takeWhile p ∧ ∃ rest', cs'.dropWhile p = d :: rest' ∧ GoesOn rest rest' := by
  cases h with
  | ended => cases hrest
  | closed =>
    have hstop : ∀ c ∈ cs.takeWhile p, p c = true := List.all_eq_true.1 List.all_takeWhile
    have hd : p d = false := by
      have := List.head?_dropWhile_not p cs
      rw [hrest] at this
      simpa using this
    have hcs : cs ++ closing = cs.takeWhile p ++ d :: (rest ++ closing) := by
      rw [← List.cons_append, ← hrest, ← List.append_assoc, List.takeWhile_append_dropWhile]
    rw [hcs, List.takeWhile_append_of_pos hstop, List.dropWhile_append_of_pos hstop,
      List.takeWhile_cons_of_neg (by simp [hd]), List.dropWhile_cons_of_neg (by simp [hd])]
    exact ⟨List.append_nil _, _, rfl, .closed rest⟩

end GoesOn

/-- Equal results, and texts that go on. -/
def Tallies (p p' : α × List Char) : Prop :=
  p.1 = p'.1 ∧ GoesOn p.2 p'.2

/-- What is found in a text is found in the other one. -/
def Kept (o o' : Option (α × List Char)) : Prop :=
  ∀ p ∈ o, ∃ p' ∈ o', Tallies p p'

theorem kept_of_rel {o o' : Option (α × List Char)} (h : Option.Rel Tallies o o') : Kept o o' := by
  cases h with
  | none => exact fun p hp => nomatch hp
  | some h => exact fun p hp => ⟨_, rfl, Option.some.inj hp ▸ h⟩

/-! ## Numbers, names and escapes -/

section Texts

variable {cs cs' : List Char}

theorem number?_rel (h : GoesOn cs cs') : Option.Rel Tallies (number? cs) (number? cs') := by
  unfold number?
  rw [h.takeWhile rfl]
  split
  · split
    · exact .some ⟨rfl, h.dropWhile rfl⟩
    · exact .none
  · exact .none

theorem name?_eq_some {opening : List Char} {mark : Char} {name rest : List Char} :
    name? opening mark cs = some (name, rest) ↔
      name ≠ [] ∧ ∃ cs₁, cs = opening ++ cs₁ ∧ cs₁.takeWhile isNameChar = name ∧
        cs₁.dropWhile isNameChar = mark :: rest := by
  simp only [name?]
  constructor
  · intro h
    split at h
    · rename_i hopening
      obtain ⟨cs₁, rfl⟩ := List.isPrefixOf_iff_prefix.1 hopening
      rw [List.drop_left] at h
      split at h
      · rename_i c name d rest htake hdrop
        split at h
        · rename_i hd
          cases h
          exact ⟨List.cons_ne_nil _ _, cs₁, rfl, htake, hd ▸ hdrop⟩
        · cases h
      · cases h
    · cases h
  · rintro ⟨hne, cs₁, rfl, htake, hdrop⟩
    rw [if_pos (List.isPrefixOf_iff_prefix.2 (List.prefix_append ..)), List.drop_left, htake, hdrop]
    cases name with
    | nil => exact absurd rfl hne
    | cons c name => exact if_pos rfl

theorem name?_kept (opening : List Char) (mark : Char) (h : GoesOn cs cs') :
    Kept (name? opening mark cs) (name? opening mark cs') := by
  rintro ⟨name, rest⟩ hname
  obtain ⟨hne, cs, rfl, htake, hdrop⟩ := name?_eq_some.1 hname
  obtain ⟨cs', rfl, hcs⟩ := h.of_append
  obtain ⟨htake', rest', hdrop', hrest⟩ := hcs.stretch hdrop
  exact ⟨(name, rest'), name?_eq_some.2 ⟨hne, cs', rfl, htake'.trans htake, hdrop'⟩, rfl, hrest⟩

theorem relative?_kept (opening : List Char) (mark : Char) (h : GoesOn cs cs') :
    Kept (relative? opening mark cs) (relative? opening mark cs') := by
  rintro ⟨n, rest⟩ hn
  obtain ⟨⟨name, rest⟩, hname, hn⟩ := Option.bind_eq_some_iff.1 hn
  obtain ⟨n, hread, hn⟩ := Option.bind_eq_some_iff.1 hn
  cases hn
  obtain ⟨⟨_, rest'⟩, hname', rfl, hrest⟩ := name?_kept _ _ h _ hname
  refine ⟨(n, rest'), ?_, rfl, hrest⟩
  simp only [relative?, Option.mem_def, Option.mem_def.1 hname', Option.bind_eq_bind, Option.bind_some, hread]
  rfl

/-- Where a relative number follows, no name does, in either text. -/
theorem name?_eq_none {opening mark : Char} (h : GoesOn cs cs') (hname : name? [opening] mark cs = none)
    {p : Nat × List Char} (hp : relative? [opening] mark cs = some p) : name? [opening] mark cs' = none := by
  obtain ⟨⟨name, rest⟩, hrelative, -⟩ := Option.bind_eq_some_iff.1 hp
  obtain ⟨hne, ds, rfl, htake, hdrop⟩ := name?_eq_some.1 hrelative
  -- the hyphen is no character of a name, as otherwise it would begin one
  have hhyphen : isNameChar '-' = false := by
    refine Bool.eq_false_iff.2 fun hc => ?_
    have : name? [opening] mark ([opening] ++ ['-'] ++ ds) = some ('-' :: name, rest) :=
      name?_eq_some.2 ⟨List.cons_ne_nil _ _, '-' :: ds, rfl,
        by rw [List.takeWhile_cons_of_pos hc, htake], by rw [List.dropWhile_cons_of_pos hc, hdrop]⟩
    rw [hname] at this
    cases this
  refine Option.eq_none_iff_forall_ne_some.2 fun ⟨name', rest'⟩ h' => ?_
  obtain ⟨hne', cs₁, hcs₁, htake', -⟩ := name?_eq_some.1 h'
  obtain ⟨ds', rfl, -⟩ := h.of_append
  obtain rfl : '-' :: ds' = cs₁ := by simpa using hcs₁
  rw [List.takeWhile_cons_of_neg (by simp [hhyphen])] at htake'
  exact hne' htake'.symm

theorem hexEscape?_kept (width : Nat) (h : GoesOn cs cs') : Kept (hexEscape? width cs) (hexEscape? width cs') := by
  rintro ⟨c, rest⟩ hc
  simp only [hexEscape?, Option.mem_def] at hc ⊢
  split at hc
  · rename_i hdigits
    obtain ⟨d, hd, hc⟩ := Option.bind_eq_some_iff.1 hc
    cases hc
    obtain ⟨rest', hcs', hrest⟩ := (List.take_append_drop width cs ▸ h).of_append
    have htake : cs'.take width = cs.take width := by rw [hcs', List.take_left' hdigits.1]
    have hdrop : cs'.drop width = rest' := by rw [hcs', List.drop_left' hdigits.1]
    rw [htake, hdrop, if_pos hdigits, hd]
    exact ⟨(c, rest'), rfl, rfl, hrest⟩
  · rename_i hdigits
    split at hc
    · rename_i cs
      split at hc
      · rename_i rest hrest
        split at hc
        · cases hc
        · rename_i hcount
          obtain ⟨d, hd, hc⟩ := Option.bind_eq_some_iff.1 hc
          cases hc
          obtain ⟨cs', rfl, hcs⟩ := GoesOn.of_append ['\x7b'] h
          obtain ⟨htake, rest', hdrop, hrest⟩ := hcs.stretch hrest
          have hbrace : ¬ (((['\x7b'] ++ cs').take width).length = width ∧
              ((['\x7b'] ++ cs').take width).all Hex.isDigit = true) := by
            cases width with
            | zero => exact absurd ⟨rfl, rfl⟩ hdigits
            | succ n => exact fun h => absurd (List.all_eq_true.1 h.2 _ List.mem_cons_self) (by decide)
          refine ⟨(c, rest'), ?_, rfl, hrest⟩
          rw [if_neg hbrace]
          simp only [List.singleton_append, hdrop, htake, if_neg hcount, hd]
          rfl
      · cases hc
    · cases hc

theorem property?_kept (negated : Bool) (h : GoesOn cs cs') :
    Kept (property? negated cs) (property? negated cs') := by
  rintro ⟨set, rest⟩ hset
  unfold property? at hset
  split at hset
  · rename_i cs
    split at hset
    · rename_i brace rest hrest
      obtain ⟨found, hfound, hset⟩ := Option.map_eq_some_iff.1 hset
      cases hset
      obtain ⟨cs', rfl, hcs⟩ := GoesOn.of_append ['\x7b'] h
      obtain ⟨htake, rest', hdrop, hrest⟩ := hcs.stretch hrest
      refine ⟨(set, rest'), ?_, rfl, hrest⟩
      simp only [List.singleton_append, property?, hdrop, htake, hfound, Option.map_some, Option.mem_def]
    · cases hset
  · rename_i c rest hne
    obtain ⟨found, hfound, hset⟩ := Option.map_eq_some_iff.1 hset
    cases hset
    obtain ⟨rest', rfl, hrest⟩ := GoesOn.of_append [c] h
    refine ⟨(.named found negated, rest'), ?_, rfl, hrest⟩
    have : property? negated (c :: rest') = (Unicode.named? (String.singleton c)).map fun r => (.named r negated, rest') := by
      unfold property?
      split
      · rename_i heq
        cases heq
        exact absurd rfl hne
      · rename_i heq
        cases heq
        rfl
      · rename_i heq
        cases heq
    rw [List.singleton_append, this, hfound]
    rfl
  · cases hset

/-! ## Blanks -/

/-- Three characters never open a comment across the end of the text. -/
theorem comment_closed {rest : List Char} (h : cs ++ closing = '(' :: '?' :: '#' :: rest) :
    ∃ rest', cs = '(' :: '?' :: '#' :: rest' := by
  match cs, h with
  | [], h => cases h
  | [_], h => cases h
  | [_, _], h => cases h
  | _ :: _ :: _ :: rest', h => cases h; exact ⟨rest', rfl⟩

theorem afterBlanks?_between (free : Bool) {c : Char} {rest : List Char}
    (h : ∀ r, c = '(' → rest = '?' :: '#' :: r → False) :
    afterBlanks? free .between (c :: rest) =
      if isBlank free c then afterBlanks? free (if c == '#' then .onLine else .between) rest
      else some (c :: rest) := by
  rw [afterBlanks?]
  exact h

/-- Blanks end in both texts, unless a comment in parentheses is open at the end of the first. What
follows closes it. -/
theorem afterBlanks?_closed (free : Bool) (place : Skipping) (cs : List Char) :
    (∃ p ∈ afterBlanks? free place cs, ∃ p' ∈ afterBlanks? free place (cs ++ closing), GoesOn p p') ∨
      afterBlanks? free place cs = none ∧ ∀ p ∈ afterBlanks? free place (cs ++ closing), p = ['$'] := by
  fun_induction afterBlanks? free place cs with
  | case1 => exact .inl ⟨[], rfl, closing, by cases free <;> rfl, .closed []⟩
  | case2 => exact .inl ⟨[], rfl, [], rfl, .ended⟩
  | case3 =>
    have : afterBlanks? free .inParentheses closing = some ['$'] := by cases free <;> rfl
    exact .inr ⟨rfl, fun p hp => (Option.some.inj (this.symm.trans hp)).symm⟩
  | case4 => exact .inr ⟨rfl, fun p hp => nomatch hp⟩
  | case5 rest ih => exact ih
  | case6 c rest hcomment hblank ih =>
    rw [List.cons_append, afterBlanks?_between free fun r hc hr => ?_, if_pos hblank]
    · exact ih
    · obtain ⟨r', hr'⟩ := comment_closed (show (c :: rest) ++ closing = _ by rw [List.cons_append, hc, hr])
      cases hr'
      exact hcomment _ rfl rfl
  | case7 c rest hcomment hblank =>
    rw [List.cons_append, afterBlanks?_between free fun r hc hr => ?_, if_neg hblank]
    · exact .inl ⟨_, rfl, _, rfl, .closed (c :: rest)⟩
    · obtain ⟨r', hr'⟩ := comment_closed (show (c :: rest) ++ closing = _ by rw [List.cons_append, hc, hr])
      cases hr'
      exact hcomment _ rfl rfl
  | case8 c rest ih => exact ih
  | case9 c rest ih => exact ih
  | case10 c rest ih => exact ih

/-- Blanks end in both texts where they do in the first. -/
theorem afterBlanks?_goesOn {free : Bool} {place : Skipping} {p : List Char} (h : GoesOn cs cs')
    (hp : afterBlanks? free place cs = some p) : ∃ p', afterBlanks? free place cs' = some p' ∧ GoesOn p p' := by
  cases h with
  | ended =>
    cases place <;> cases hp
    · exact ⟨[], rfl, .ended⟩
    · exact ⟨[], rfl, .ended⟩
  | closed =>
    obtain ⟨q, hq, p', hp', hgoes⟩ | ⟨hnone, -⟩ := afterBlanks?_closed free place cs
    · exact ⟨p', hp', Option.some.inj (hp.symm.trans hq) ▸ hgoes⟩
    · rw [hp] at hnone
      cases hnone

/-- Where they do not, they end at the anchor of the closing or not at all. -/
theorem afterBlanks?_open {free : Bool} {place : Skipping} {p' : List Char} (h : GoesOn cs cs')
    (hnone : afterBlanks? free place cs = none) (hp' : afterBlanks? free place cs' = some p') : p' = ['$'] := by
  cases h with
  | ended =>
    rw [hnone] at hp'
    cases hp'
  | closed =>
    obtain ⟨q, hq, -⟩ | ⟨-, hall⟩ := afterBlanks?_closed free place cs
    · rw [Option.mem_def, hnone] at hq
      cases hq
    · exact hall p' hp'

theorem startsBlank_goesOn (free : Bool) (h : GoesOn cs cs') : startsBlank free cs' = startsBlank free cs := by
  cases h with
  | ended => rfl
  | closed =>
    cases cs with
    | nil => cases free <;> rfl
    | cons c rest =>
      by_cases hcomment : ∃ r, c :: rest = '(' :: '?' :: '#' :: r
      · obtain ⟨r, hr⟩ := hcomment
        rw [hr]
        rfl
      · have hclosed : ¬ ∃ r, c :: (rest ++ closing) = '(' :: '?' :: '#' :: r := by
          rintro ⟨r, hr⟩
          exact hcomment (comment_closed hr)
        rw [List.cons_append, startsBlank, startsBlank]
        · exact fun r hc hr => hcomment ⟨r, by rw [hc, hr]⟩
        · exact fun r hc hr => hclosed ⟨r, by rw [hc, hr]⟩

/-! ## Quantifiers -/

/-- A step that goes on after blanks tallies if what follows does, and if nothing goes on at the anchor of
the closing. -/
theorem bind_afterBlanks?_rel {free : Bool} {f : List Char → Option (α × List Char)}
    (hf : ∀ {cs cs'}, GoesOn cs cs' → Option.Rel Tallies (f cs) (f cs')) (hend : f ['$'] = none)
    (h : GoesOn cs cs') :
    Option.Rel Tallies ((afterBlanks? free .between cs).bind f) ((afterBlanks? free .between cs').bind f) := by
  cases hblank : afterBlanks? free .between cs with
  | some p =>
    obtain ⟨p', hp', hgoes⟩ := afterBlanks?_goesOn h hblank
    rw [hp']
    exact hf hgoes
  | none =>
    cases hblank' : afterBlanks? free .between cs' with
    | none => exact .none
    | some p' =>
      rw [afterBlanks?_open h hblank hblank', Option.bind_some, hend]
      exact .none

/-- The end of the bounds of a quantifier. -/
def closeBounds (least most : Nat) : List Char → Option ((Nat × Option Nat) × List Char)
  | '\x7d' :: cs => some ((least, if most = UInt64.size - 1 then none else some most), cs)
  | _ => none

/-- The greater bound of a quantifier, and the end. -/
def upperBound (free : Bool) (least : Nat) (cs : List Char) : Option ((Nat × Option Nat) × List Char) :=
  match cs with
  | '\x7d' :: _ => (afterBlanks? free .between cs).bind (closeBounds least least)
  | ',' :: cs =>
    ((afterBlanks? free .between cs).map fun cs => (number? cs).getD (UInt64.size - 1, cs)).bind fun p =>
      (afterBlanks? free .between p.2).bind (closeBounds least p.1)
  | _ => none

/-- The lesser bound of a quantifier, and the rest. -/
def lowerBound (free : Bool) (cs : List Char) : Option ((Nat × Option Nat) × List Char) :=
  match cs with
  | ',' :: _ => (afterBlanks? free .between cs).bind (upperBound free 0)
  | _ => (number? cs).bind fun p => (afterBlanks? free .between p.2).bind (upperBound free p.1)

theorem bounds?_eq (free : Bool) (cs : List Char) :
    bounds? free cs = (afterBlanks? free .between cs).bind (lowerBound free) := by
  rfl

theorem closeBounds_cons (least most : Nat) (c : Char) (cs : List Char) :
    closeBounds least most (c :: cs) =
      if c = '\x7d' then some ((least, if most = UInt64.size - 1 then none else some most), cs) else none := by
  unfold closeBounds
  split <;> simp_all

theorem upperBound_cons (free : Bool) (least : Nat) (c : Char) (cs : List Char) :
    upperBound free least (c :: cs) =
      if c = '\x7d' then (afterBlanks? free .between (c :: cs)).bind (closeBounds least least)
      else if c = ',' then
        (afterBlanks? free .between cs).bind fun cs =>
          (afterBlanks? free .between ((number? cs).getD (UInt64.size - 1, cs)).2).bind
            (closeBounds least ((number? cs).getD (UInt64.size - 1, cs)).1)
      else none := by
  unfold upperBound
  split
  · rename_i h
    cases h
    rw [if_pos rfl]
  · rename_i h
    cases h
    rw [if_neg (by decide), if_pos rfl, Option.bind_map]
    rfl
  · rename_i hclose hcomma
    have hnotClose : c ≠ '\x7d' := fun h => hclose cs (congrArg (· :: cs) h)
    have hnotComma : c ≠ ',' := fun h => hcomma cs (congrArg (· :: cs) h)
    rw [if_neg hnotClose, if_neg hnotComma]

theorem lowerBound_cons (free : Bool) (c : Char) (cs : List Char) :
    lowerBound free (c :: cs) =
      if c = ',' then (afterBlanks? free .between (c :: cs)).bind (upperBound free 0)
      else (number? (c :: cs)).bind fun p => (afterBlanks? free .between p.2).bind (upperBound free p.1) := by
  unfold lowerBound
  split <;> simp_all

theorem closeBounds_rel (least most : Nat) (h : GoesOn cs cs') :
    Option.Rel Tallies (closeBounds least most cs) (closeBounds least most cs') := by
  obtain ⟨rfl, rfl | rfl⟩ | ⟨c, rest, rest', rfl, rfl, hrest⟩ := h.head
  · exact .none
  · exact .none
  · rw [closeBounds_cons, closeBounds_cons]
    by_cases hc : c = '\x7d'
    · rw [if_pos hc, if_pos hc]
      exact .some ⟨rfl, hrest⟩
    · rw [if_neg hc, if_neg hc]
      exact .none

theorem getD_number?_tallies (n : Nat) (h : GoesOn cs cs') :
    Tallies ((number? cs).getD (n, cs)) ((number? cs').getD (n, cs')) := by
  have hnumber := number?_rel h
  generalize number? cs = o, number? cs' = o' at hnumber ⊢
  cases hnumber with
  | none => exact ⟨rfl, h⟩
  | some hp => exact hp

theorem upperBound_rel (free : Bool) (least : Nat) (h : GoesOn cs cs') :
    Option.Rel Tallies (upperBound free least cs) (upperBound free least cs') := by
  have hclose {most : Nat} {cs cs' : List Char} (h : GoesOn cs cs') :
      Option.Rel Tallies ((afterBlanks? free .between cs).bind (closeBounds least most))
        ((afterBlanks? free .between cs').bind (closeBounds least most)) :=
    bind_afterBlanks?_rel (closeBounds_rel least most) rfl h
  obtain ⟨rfl, rfl | rfl⟩ | ⟨c, rest, rest', rfl, rfl, hrest⟩ := h.head
  · exact .none
  · exact .none
  · rw [upperBound_cons, upperBound_cons]
    split_ifs
    · exact hclose h
    · refine bind_afterBlanks?_rel (fun h => ?_) (by cases free <;> rfl) hrest
      obtain ⟨hmost, hgoes⟩ := getD_number?_tallies (UInt64.size - 1) h
      rw [hmost]
      exact hclose hgoes
    · exact .none

theorem lowerBound_rel (free : Bool) (h : GoesOn cs cs') :
    Option.Rel Tallies (lowerBound free cs) (lowerBound free cs') := by
  have hupper {least : Nat} {cs cs' : List Char} (h : GoesOn cs cs') :
      Option.Rel Tallies ((afterBlanks? free .between cs).bind (upperBound free least))
        ((afterBlanks? free .between cs').bind (upperBound free least)) :=
    bind_afterBlanks?_rel (upperBound_rel free least) rfl h
  obtain ⟨rfl, rfl | rfl⟩ | ⟨c, rest, rest', rfl, rfl, -⟩ := h.head
  · exact .none
  · exact .none
  · rw [lowerBound_cons, lowerBound_cons]
    split_ifs
    · exact hupper h
    · have hnumber := number?_rel h
      generalize number? (c :: rest) = o, number? (c :: rest') = o' at hnumber ⊢
      cases hnumber with
      | none => exact .none
      | some hp =>
        rw [Option.bind_some, Option.bind_some, ← hp.1]
        exact hupper hp.2

theorem bounds?_rel (free : Bool) (h : GoesOn cs cs') :
    Option.Rel Tallies (bounds? free cs) (bounds? free cs') := by
  rw [bounds?_eq, bounds?_eq]
  exact bind_afterBlanks?_rel (lowerBound_rel free) (by cases free <;> rfl) h

theorem quantifier?_cons (free : Bool) (c : Char) (cs : List Char) :
    quantifier? free (c :: cs) =
      if c = '?' then some ((0, some 1), cs)
      else if c = '*' then some ((0, none), cs)
      else if c = '+' then some ((1, none), cs)
      else if c = '\x7b' then bounds? free cs
      else none := by
  unfold quantifier?
  split <;> simp_all

theorem quantifier?_rel (free : Bool) (h : GoesOn cs cs') :
    Option.Rel Tallies (quantifier? free cs) (quantifier? free cs') := by
  obtain ⟨rfl, rfl | rfl⟩ | ⟨c, rest, rest', rfl, rfl, hrest⟩ := h.head
  · exact .none
  · exact .none
  · rw [quantifier?_cons, quantifier?_cons]
    split_ifs
    · exact .some ⟨rfl, hrest⟩
    · exact .some ⟨rfl, hrest⟩
    · exact .some ⟨rfl, hrest⟩
    · exact bounds?_rel free hrest
    · exact .none

/-! ## Groups -/

theorem groupKind_cons {c : Char} (h : c ≠ '?') (cs : List Char) : groupKind (c :: cs) = (.capture, c :: cs) := by
  unfold groupKind
  split <;> simp_all

theorem groupKind_question (c : Char) (cs : List Char) :
    groupKind ('?' :: c :: cs) =
      if c = '=' then (.look ⟨false, false⟩, cs)
      else if c = '!' then (.look ⟨false, true⟩, cs)
      else if c = '<' then
        if cs.head? = some '=' then (.look ⟨true, false⟩, cs.tail)
        else if cs.head? = some '!' then (.look ⟨true, true⟩, cs.tail)
        else (.named '<' '>', '<' :: cs)
      else if c = '\'' then (.named '\'' '\'', '\'' :: cs)
      else if c = 'P' ∧ cs.head? = some '<' then (.named '<' '>', cs)
      else if c = 'P' ∧ cs.head? = some '=' then (.reference, cs.tail)
      else if c = '>' then (.atomic, cs)
      else if c = '(' then (.conditional, cs)
      else (.flags, c :: cs) := by
  unfold groupKind
  split
  case h_11 heq =>
    cases heq
    split_ifs <;> simp_all [List.head?_eq_some_iff]
  all_goals simp_all [List.head?_eq_some_iff]

theorem groupKind_tallies (h : GoesOn cs cs') : Tallies (groupKind cs) (groupKind cs') := by
  obtain ⟨rfl, rfl | rfl⟩ | ⟨c, rest, rest', rfl, rfl, hrest⟩ := h.head
  · exact ⟨rfl, .ended⟩
  · exact ⟨rfl, .closed []⟩
  · by_cases hc : c = '?'
    · subst hc
      obtain ⟨rfl, rfl | rfl⟩ | ⟨d, more, more', rfl, rfl, hmore⟩ := hrest.head
      · exact ⟨rfl, .ended⟩
      · exact ⟨rfl, .closed []⟩
      · rw [groupKind_question, groupKind_question]
        simp only [hmore.head?_eq_some_iff (show '=' ≠ ')' by decide),
          hmore.head?_eq_some_iff (show '!' ≠ ')' by decide), hmore.head?_eq_some_iff (show '<' ≠ ')' by decide)]
        split_ifs with _ _ hmark heq hbang hmark _ href
        · exact ⟨rfl, hmore⟩
        · exact ⟨rfl, hmore⟩
        · exact ⟨rfl, hmore.tail heq⟩
        · exact ⟨rfl, hmore.tail hbang⟩
        · exact ⟨rfl, hmark ▸ hrest⟩
        · exact ⟨rfl, hmark ▸ hrest⟩
        · exact ⟨rfl, hmore⟩
        · exact ⟨rfl, hmore.tail href.2⟩
        · exact ⟨rfl, hmore⟩
        · exact ⟨rfl, hmore⟩
        · exact ⟨rfl, hrest⟩
    · rw [groupKind_cons hc, groupKind_cons hc]
      exact ⟨rfl, h⟩

/-! ## Brackets -/

/-- What the text right after an opening bracket holds as characters, and what is left of it. -/
def bracketFront (cs : List Char) : List BracketToken × List Char :=
  match cs with
  | '^' :: ']' :: cs => ([.raw ']', .raw '^'], cs)
  | '^' :: cs => ([.raw '^'], cs)
  | ']' :: cs => ([.raw ']'], cs)
  | cs => ([], cs)

theorem bracketFront_cons (c : Char) (cs : List Char) :
    bracketFront (c :: cs) =
      if c = '^' then
        if cs.head? = some ']' then ([.raw ']', .raw '^'], cs.tail) else ([.raw '^'], cs)
      else if c = ']' then ([.raw ']'], cs)
      else ([], c :: cs) := by
  unfold bracketFront
  split <;> simp_all [List.head?_eq_some_iff]

theorem bracketFront_tallies (h : GoesOn cs cs') : Tallies (bracketFront cs) (bracketFront cs') := by
  obtain ⟨rfl, rfl | rfl⟩ | ⟨c, rest, rest', rfl, rfl, hrest⟩ := h.head
  · exact ⟨rfl, .ended⟩
  · exact ⟨rfl, .closed []⟩
  · rw [bracketFront_cons, bracketFront_cons]
    simp only [hrest.head?_eq_some_iff (show ']' ≠ ')' by decide)]
    split_ifs with _ hbracket
    · exact ⟨rfl, hrest.tail hbracket⟩
    · exact ⟨rfl, hrest⟩
    · exact ⟨rfl, hrest⟩
    · exact ⟨rfl, h⟩

end Texts

end TokenOverlay.Pattern
