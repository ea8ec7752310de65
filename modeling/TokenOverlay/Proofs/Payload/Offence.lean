/-
Where a payload offends. A value stands in another one at a place, the numbers of the entries and items on the
way down to it, and under a path, what these are called. Places come in the order of the document, by the first
number in which they differ. The check stops at the first looked-at field that offends, and in that field at the
banned value whose place comes first; what it reports is the kind of that value and the path to it.
-/
import TokenOverlay.Proofs.Except
import TokenOverlay.Proofs.Payload.Sound

namespace TokenOverlay.Payload

variable {v w w' : Value} {items : List Value} {m entries : Map} {place place' : List Nat} {path path' : List String}
  {bytesAllowed : Bool} {o : Offence} {f : Field} {e : Error} {i : Nat}

/-! ## Places -/

/-- A value stands in another one, at a place and under a path: from outside in, an entry of a map has its
number and its key, an item of a sequence its number and that number in decimal. Nothing stands under a tag. -/
inductive Value.At : Value → List Nat → List String → Value → Prop
  | self (v : Value) : At v [] [] v
  | item {items : List Value} {i : Nat} {v w : Value} {place : List Nat} {path : List String}
      (hv : items[i]? = some v) (h : At v place path w) : At (.seq items) (i :: place) (toString i :: path) w
  | entry {entries : List (String × Value)} {i : Nat} {key : String} {v w : Value} {place : List Nat}
      {path : List String} (hv : entries[i]? = some (key, v)) (h : At v place path w) :
      At (.map entries) (i :: place) (key :: path) w

/-- One place comes before another in the document: where they first differ, its number is smaller. -/
def Precedes (place place' : List Nat) : Prop :=
  List.Lex (· < ·) place place'

theorem not_precedes_nil : ¬ Precedes place [] := by
  intro h
  cases h

theorem precedes_cons {j : Nat} :
    Precedes (i :: place) (j :: place') ↔ i < j ∨ (i = j ∧ Precedes place place') := by
  constructor
  · intro h
    cases h with
    | rel hlt => exact .inl hlt
    | cons hrest => exact .inr ⟨rfl, hrest⟩
  · rintro (hlt | ⟨rfl, hrest⟩)
    · exact .rel hlt
    · exact .cons hrest

/-- Of two different places one comes before the other; a place comes before those that lead on from it. -/
theorem precedes_or_precedes (h : place ≠ place') : Precedes place place' ∨ Precedes place' place := by
  induction place generalizing place' with
  | nil =>
    cases place' with
    | nil => exact absurd rfl h
    | cons j rest => exact .inl .nil
  | cons i rest ih =>
    cases place' with
    | nil => exact .inr .nil
    | cons j rest' =>
      simp only [precedes_cons]
      rcases Nat.lt_trichotomy i j with hlt | rfl | hgt
      · exact .inl (.inl hlt)
      · have hrest : rest ≠ rest' := fun hrest => h (congrArg (i :: ·) hrest)
        exact (ih hrest).imp (fun h => .inr ⟨rfl, h⟩) fun h => .inr ⟨rfl, h⟩
      · exact .inr (.inl hgt)

namespace Value

/-- There is one value at a place, and one path to it. -/
theorem At.unique (h : At v place path w) (h' : At v place path' w') : path = path' ∧ w = w' := by
  induction h generalizing path' with
  | self v =>
    cases h'
    exact ⟨rfl, rfl⟩
  | item hv h ih =>
    cases h' with
    | item hv' h' =>
      obtain rfl := Option.some.inj (hv.symm.trans hv')
      obtain ⟨rfl, rfl⟩ := ih h'
      exact ⟨rfl, rfl⟩
  | entry hv h ih =>
    cases h' with
    | entry hv' h' =>
      obtain ⟨rfl, rfl⟩ := Prod.mk.inj (Option.some.inj (hv.symm.trans hv'))
      obtain ⟨rfl, rfl⟩ := ih h'
      exact ⟨rfl, rfl⟩

theorem At.within (h : At v place path w) : w.Within v := by
  induction h with
  | self v => exact .self v
  | item hv h ih => exact .item (List.mem_of_getElem? hv) ih
  | entry hv h ih => exact .entry (List.mem_of_getElem? hv) ih

/-! ## The first banned value -/

/-- A banned value stands at a place, under a path. -/
structure BannedAt (bytesAllowed : Bool) (v : Value) (place : List Nat) (path : List String) (w : Value) : Prop where
  stands : At v place path w
  banned : ¬ w.Admitted bytesAllowed

/-- The banned value whose place comes first, and the path to it. -/
def FirstBanned (bytesAllowed : Bool) (v : Value) (path : List String) (w : Value) : Prop :=
  ∃ place, BannedAt bytesAllowed v place path w ∧
    ∀ place' path' w', BannedAt bytesAllowed v place' path' w' → ¬ Precedes place' place

theorem FirstBanned.unique (h : FirstBanned bytesAllowed v path w) (h' : FirstBanned bytesAllowed v path' w') :
    path = path' ∧ w = w' := by
  obtain ⟨place, hbanned, hfirst⟩ := h
  obtain ⟨place', hbanned', hfirst'⟩ := h'
  have hplace : place = place' := by
    by_contra hne
    rcases precedes_or_precedes hne with hlt | hlt
    · exact hfirst' _ _ _ hbanned hlt
    · exact hfirst _ _ _ hbanned' hlt
  subst hplace
  exact hbanned.stands.unique hbanned'.stands

/-- A banned value that nothing stands in is the first one. -/
theorem FirstBanned.self (h : ¬ v.Admitted bytesAllowed) : FirstBanned bytesAllowed v [] v :=
  ⟨[], ⟨.self v, h⟩, fun _ _ _ _ => not_precedes_nil⟩

/-- The first banned value of an item is that of the sequence if the items before it have none. -/
theorem FirstBanned.item (hv : items[i]? = some v) (h : FirstBanned bytesAllowed v path w)
    (hbefore : ∀ j u, j < i → items[j]? = some u → ∀ place path w, ¬ BannedAt bytesAllowed u place path w) :
    FirstBanned bytesAllowed (.seq items) (toString i :: path) w := by
  obtain ⟨place, hbanned, hfirst⟩ := h
  refine ⟨i :: place, ⟨.item hv hbanned.stands, hbanned.banned⟩, ?_⟩
  rintro place' path' w' ⟨hstands, hw'⟩ hprecedes
  cases hstands with
  | self => exact hw' trivial
  | item hu hstands =>
    rcases precedes_cons.1 hprecedes with hlt | ⟨rfl, hlt⟩
    · exact hbefore _ _ hlt hu _ _ _ ⟨hstands, hw'⟩
    · obtain rfl := Option.some.inj (hv.symm.trans hu)
      exact hfirst _ _ _ ⟨hstands, hw'⟩ hlt

/-- The first banned value of an entry is that of the map if the entries before it have none. -/
theorem FirstBanned.entry {key : String} (hv : entries[i]? = some (key, v))
    (h : FirstBanned bytesAllowed v path w)
    (hbefore : ∀ j e, j < i → entries[j]? = some e → ∀ place path w, ¬ BannedAt bytesAllowed e.2 place path w) :
    FirstBanned bytesAllowed (.map entries) (key :: path) w := by
  obtain ⟨place, hbanned, hfirst⟩ := h
  refine ⟨i :: place, ⟨.entry hv hbanned.stands, hbanned.banned⟩, ?_⟩
  rintro place' path' w' ⟨hstands, hw'⟩ hprecedes
  cases hstands with
  | self => exact hw' trivial
  | entry hu hstands =>
    rcases precedes_cons.1 hprecedes with hlt | ⟨rfl, hlt⟩
    · exact hbefore _ _ hlt hu _ _ _ ⟨hstands, hw'⟩
    · obtain ⟨-, rfl⟩ := Prod.mk.inj (Option.some.inj (hv.symm.trans hu))
      exact hfirst _ _ _ ⟨hstands, hw'⟩ hlt

end Value

/-! ## The search -/

open Value (At BannedAt FirstBanned)

theorem seqOffence?_eq_some (h : seqOffence? bytesAllowed i items = some o) :
    ∃ (n : Nat) (v : Value) (inner : Offence), items[n]? = some v ∧ v.offence? bytesAllowed = some inner ∧
      o = inner.under (toString (i + n)) ∧
      ∀ j u, j < n → items[j]? = some u → u.offence? bytesAllowed = none := by
  induction items generalizing i with
  | nil => cases h
  | cons first rest ih =>
    rw [seqOffence?] at h
    cases hfirst : first.offence? bytesAllowed with
    | some inner =>
      rw [hfirst] at h
      cases h
      exact ⟨0, first, inner, rfl, hfirst, rfl, fun j u hj => absurd hj (Nat.not_lt_zero j)⟩
    | none =>
      rw [hfirst] at h
      obtain ⟨n, v, inner, hv, hinner, rfl, hbefore⟩ := ih h
      refine ⟨n + 1, v, inner, hv, hinner, by rw [Nat.add_right_comm, Nat.add_assoc], fun j u hj hu => ?_⟩
      cases j with
      | zero =>
        cases hu
        exact hfirst
      | succ j => exact hbefore j u (Nat.lt_of_succ_lt_succ hj) hu

theorem mapOffence?_eq_some (h : mapOffence? bytesAllowed entries = some o) :
    ∃ (n : Nat) (key : String) (v : Value) (inner : Offence), entries[n]? = some (key, v) ∧
      v.offence? bytesAllowed = some inner ∧ o = inner.under key ∧
      ∀ j e, j < n → entries[j]? = some e → e.2.offence? bytesAllowed = none := by
  induction entries with
  | nil => cases h
  | cons first rest ih =>
    obtain ⟨key, value⟩ := first
    rw [mapOffence?] at h
    cases hfirst : value.offence? bytesAllowed with
    | some inner =>
      rw [hfirst] at h
      cases h
      exact ⟨0, key, value, inner, rfl, hfirst, rfl, fun j e hj => absurd hj (Nat.not_lt_zero j)⟩
    | none =>
      rw [hfirst] at h
      obtain ⟨n, key', v, inner, hv, hinner, rfl, hbefore⟩ := ih h
      refine ⟨n + 1, key', v, inner, hv, hinner, rfl, fun j e hj he => ?_⟩
      cases j with
      | zero =>
        cases he
        exact hfirst
      | succ j => exact hbefore j e (Nat.lt_of_succ_lt_succ hj) he

/-- Where no offence is found, no banned value stands. -/
theorem not_bannedAt_of_offence? (h : v.offence? bytesAllowed = none) (place : List Nat) (path : List String)
    (w : Value) : ¬ BannedAt bytesAllowed v place path w :=
  fun hw => hw.banned (Value.offence?_eq_none.1 h w hw.stands.within)

/-- An offence that is found is the first banned value, with the path to it. -/
theorem firstBanned_of_offence? (h : v.offence? bytesAllowed = some o) :
    ∃ w, FirstBanned bytesAllowed v o.path w ∧ o.kind = w.kind := by
  induction v using Value.induct generalizing o with
  | leaf v hleaf =>
    cases v with
    | null =>
      cases h
      exact ⟨_, .self id, rfl⟩
    | bytes b =>
      rw [Value.offence?] at h
      split at h
      · cases h
      · rename_i hbytes
        cases h
        exact ⟨_, .self hbytes, rfl⟩
    | seq | map | tagged => exact hleaf.elim
    | _ => cases h
  | tagged number v _ =>
    cases h
    exact ⟨_, .self id, rfl⟩
  | seq items ih =>
    obtain ⟨n, v, inner, hv, hinner, rfl, hbefore⟩ := seqOffence?_eq_some h
    obtain ⟨w, hfirst, hkind⟩ := ih v (List.mem_of_getElem? hv) hinner
    rw [Nat.zero_add]
    exact ⟨w, hfirst.item hv fun j u hj hu => not_bannedAt_of_offence? (hbefore j u hj hu), hkind⟩
  | map entries ih =>
    obtain ⟨n, key, v, inner, hv, hinner, rfl, hbefore⟩ := mapOffence?_eq_some h
    obtain ⟨w, hfirst, hkind⟩ := ih (key, v) (List.mem_of_getElem? hv) hinner
    exact ⟨w, hfirst.entry hv fun j e hj he => not_bannedAt_of_offence? (hbefore j e hj he), hkind⟩

theorem Value.offence?_eq_some :
    v.offence? bytesAllowed = some o ↔ ∃ w, FirstBanned bytesAllowed v o.path w ∧ o.kind = w.kind := by
  refine ⟨firstBanned_of_offence?, ?_⟩
  rintro ⟨w, hw, hkind⟩
  cases hfound : v.offence? bytesAllowed with
  | none =>
    obtain ⟨place, hbanned, -⟩ := hw
    exact absurd hbanned (not_bannedAt_of_offence? hfound place o.path w)
  | some found =>
    obtain ⟨w', hw', hkind'⟩ := firstBanned_of_offence? hfound
    obtain ⟨hpath, rfl⟩ := hw'.unique hw
    have hsame : found = o := by
      cases found
      cases o
      exact Offence.mk.injEq .. ▸ ⟨hpath, hkind'.trans hkind.symm⟩
    rw [hsame]

/-! ## Fields -/

/-- A field is absent, or a map in which every value that stands anywhere is admitted. -/
def Field.Clean (f : Field) (m : Map) : Prop :=
  ∀ v, m.get? f.name = some v →
    (∃ entries, v = .map entries) ∧ ∀ place path w, At v place path w → w.Admitted f.bytesAllowed

/-- What is reported of a field that offends: that it is no map, else the first banned value in it. -/
inductive Field.Reports (f : Field) (m : Map) : Error → Prop
  | notAMap {v : Value} (hv : m.get? f.name = some v) (hmap : ∀ entries, v ≠ .map entries) :
      Reports f m (.fieldNotAMap f.name)
  | banned {entries : Map} {path : List String} {w : Value} (hv : m.get? f.name = some (.map entries))
      (hw : FirstBanned f.bytesAllowed (.map entries) path w) : Reports f m (.banned f.name w.kind path)

theorem Field.clean_iff_sound : f.Clean m ↔ f.Sound m := by
  unfold Clean Sound
  refine forall₂_congr fun v _ => and_congr_right fun _ => ⟨fun h w hw => ?_, fun h _ _ w hw => h w hw.within⟩
  -- an offence would be a banned value that stands somewhere
  have hnone : v.offence? f.bytesAllowed = none := by
    refine Option.eq_none_iff_forall_ne_some.2 fun o ho => ?_
    obtain ⟨w, ⟨place, hbanned, -⟩, -⟩ := firstBanned_of_offence? ho
    exact hbanned.banned (h place _ w hbanned.stands)
  exact Value.offence?_eq_none.1 hnone w hw

theorem Field.check_error : f.check m = .error e ↔ f.Reports m e := by
  unfold check
  constructor
  · intro h
    split at h
    · cases h
    · rename_i entries hv
      split at h
      · cases h
      · rename_i o ho
        cases h
        obtain ⟨w, hw, hkind⟩ := firstBanned_of_offence? (v := .map entries) ho
        rw [hkind]
        exact .banned hv hw
    · rename_i v hmap hv
      cases h
      exact .notAMap hv hmap
  · intro h
    cases h with
    | notAMap hv hmap =>
      rename_i v
      rw [hv]
      cases v with
      | map entries => exact absurd rfl (hmap entries)
      | _ => rfl
    | banned hv hw =>
      rename_i entries path w
      have ho : (Value.map entries).offence? f.bytesAllowed = some ⟨path, w.kind⟩ :=
        Value.offence?_eq_some.2 ⟨w, hw, rfl⟩
      rw [Value.offence?] at ho
      simp only [hv, ho]

theorem checkFields_error {fs : List Field} : checkFields m fs = .error e ↔ FailsFirst (·.check m) fs e := by
  induction fs with
  | nil => exact iff_of_false (fun h => by cases h) not_failsFirst_nil
  | cons f rest ih =>
    rw [checkFields, failsFirst_cons, ← ih]
    cases f.check m with
    | ok => simp
    | error e' => simp

theorem checkFields_congr {m' : Map} {fs : List Field} (h : ∀ f ∈ fs, m'.get? f.name = m.get? f.name) :
    checkFields m' fs = checkFields m fs := by
  induction fs with
  | nil => rfl
  | cons f rest ih =>
    obtain ⟨hf, hrest⟩ := List.forall_mem_cons.1 h
    rw [checkFields, checkFields, ih hrest, Field.check, Field.check, hf]

/-! ## Payloads -/

/-- What the check of a payload finds. It looks at four fields in a fixed order and fails at the first of them
that is neither absent nor a map without banned values: with that field if it is no map, else with the first
banned value in it in the order of the document, the kind of that value and the keys and numbers that lead to
it, which the message joins by points. Other fields do not matter. -/
theorem sanitize_reports_first (m : Map) :
    fields = [⟨"meta", false⟩, ⟨"args", false⟩, ⟨"ctx", false⟩, ⟨"init", true⟩] ∧
    (sanitize m = .ok () ↔ ∀ f ∈ fields, f.Clean m) ∧
    (∀ e, sanitize m = .error e ↔ ∃ before f after, fields = before ++ f :: after ∧
      (∀ g ∈ before, g.Clean m) ∧ f.Reports m e) ∧
    (∀ field kind path, (Error.banned field kind path).message = "payload field '" ++ field ++
      "' contains a banned " ++ kind ++ " value at '" ++ ".".intercalate path ++ "'") ∧
    ∀ m' : Map, (∀ f ∈ fields, m'.get? f.name = m.get? f.name) → sanitize m' = sanitize m := by
  refine ⟨rfl, ?_, fun e => ?_, fun field kind path => ?_, fun m' => checkFields_congr⟩
  · simp only [Field.clean_iff_sound]
    exact sanitize_ok
  · have hok : ∀ g : Field, (∃ u, g.check m = .ok u) ↔ g.Clean m := fun g => by
      rw [Field.clean_iff_sound, ← Field.check_ok]
      exact ⟨fun ⟨_, h⟩ => h, fun h => ⟨_, h⟩⟩
    simp only [← Field.check_error, ← hok]
    exact checkFields_error
  · rfl

/-- Bytes in a list, behind items that are sound and in front of a field that is no map. -/
theorem sanitize_reports_first_nested :
    let list : Value := .seq [.int 1, .map [("raw", .bytes [0]), ("none", .null)]]
    let m : Map := [("other", .null), ("init", .text ""), ("args", .map [("list", list)])]
    let m' : Map := m.drop 1
    (∃ before f after, fields = before ++ f :: after ∧ (∀ g ∈ before, g.Clean m) ∧
      f.Reports m (.banned "args" "bytes" ["list", "1", "raw"])) ∧
    (∀ f ∈ fields, m'.get? f.name = m.get? f.name) ∧ sanitize m' = sanitize m := by
  intro list m m'
  have herror : sanitize m = .error (.banned "args" "bytes" ["list", "1", "raw"]) := by rfl
  have hsame : ∀ f ∈ fields, m'.get? f.name = m.get? f.name := by
    simp only [fields, List.forall_mem_cons]
    exact ⟨rfl, rfl, rfl, rfl, List.forall_mem_nil _⟩
  obtain ⟨-, -, hfirst, -, hothers⟩ := sanitize_reports_first m
  exact ⟨(hfirst _).1 herror, hsame, hothers m' hsame⟩

end TokenOverlay.Payload
