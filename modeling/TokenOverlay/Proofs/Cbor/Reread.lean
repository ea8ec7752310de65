/-
What is read from the bytes of an item. An item is read back as it is, but for short byte strings under a tag
for numbers: these are read as the numbers that they stand for. A reader that follows as many levels as the
item has takes it back whatever stands behind it, and two steps for each byte are enough.
-/
import TokenOverlay.Proofs.Cbor.Head
import TokenOverlay.Proofs.Related

namespace TokenOverlay.Cbor

open List (Forall₂)

/-! ## Rereading -/

/-- The byte string that a tag reads as a number: a short one under one of the two tags for numbers. -/
def Item.digits? (number : UInt64) : Item → Option Bytes
  | .bytes b => if (number = tagUnsigned ∨ number = tagNegative) ∧ b.length ≤ 16 then some b else none
  | _ => none

mutual

/-- The item that is read from the bytes of an item. -/
def Item.reread? : Item → Option Item
  | .array items => (rereadItems? items).map .array
  | .map entries => (rereadEntries? entries).map .map
  | .tag number item =>
    match item.digits? number with
    | some b => bigNumber? number b
    | none => item.reread?.map (.tag number)
  | item => some item

def rereadItems? : List Item → Option (List Item)
  | [] => some []
  | item :: rest => do
    let x ← item.reread?
    let xs ← rereadItems? rest
    return x :: xs

def rereadEntries? : List (Item × Item) → Option (List (Item × Item))
  | [] => some []
  | (key, value) :: rest => do
    let k ← key.reread?
    let v ← value.reread?
    let es ← rereadEntries? rest
    return (k, v) :: es

end

/-- An item without items in it. -/
def Item.IsLeaf : Item → Prop
  | .array _ | .map _ | .tag .. => False
  | _ => True

/-- An item for a reader that follows `d` levels of containers and tags. A number under a tag is no level of
its own. -/
inductive Item.Fits : Nat → Item → Prop
  | leaf {d : Nat} {item : Item} (h : item.IsLeaf) (hcount : item.Counted) : Item.Fits d item
  | array {d : Nat} {items : List Item} (hcount : items.length < UInt64.size)
      (h : ∀ x ∈ items, Item.Fits d x) : Item.Fits (d + 1) (.array items)
  | map {d : Nat} {entries : List (Item × Item)} (hcount : entries.length < UInt64.size)
      (hkeys : ∀ e ∈ entries, Item.Fits d e.1) (hvalues : ∀ e ∈ entries, Item.Fits d e.2) :
      Item.Fits (d + 1) (.map entries)
  | number {d : Nat} {number : UInt64} {item : Item} {b : Bytes} (h : item.digits? number = some b) :
      Item.Fits d (.tag number item)
  | tag {d : Nat} {number : UInt64} {item : Item} (h : item.digits? number = none) (hitem : Item.Fits d item) :
      Item.Fits (d + 1) (.tag number item)

variable {d : Nat} {number : UInt64} {item : Item} {b : Bytes}

theorem Item.digits?_eq_some : item.digits? number = some b ↔
    item = .bytes b ∧ (number = tagUnsigned ∨ number = tagNegative) ∧ b.length ≤ 16 := by
  cases item with
  | bytes b' =>
    simp only [digits?, Option.ite_none_right_eq_some, Option.some.injEq, Item.bytes.injEq]
    constructor
    · rintro ⟨h, rfl⟩
      exact ⟨rfl, h⟩
    · rintro ⟨rfl, h⟩
      exact ⟨h, rfl⟩
  | _ => simp [digits?]

theorem Item.reread?_leaf (h : item.IsLeaf) : item.reread? = some item := by
  cases item with
  | array | map | tag => exact h.elim
  | _ => rfl

theorem Item.Fits.counted (h : item.Fits d) : item.Counted := by
  cases h with
  | leaf _ hcount | array hcount _ | map hcount _ _ => exact hcount
  | number | tag => trivial

/-- A tag is a level for a reader, unless what is under it is read as a number. -/
theorem Item.Fits.tagged (h : item.Fits d) (number : UInt64) : (Item.tag number item).Fits (d + 1) := by
  cases hdigits : item.digits? number with
  | none => exact .tag hdigits h
  | some b => exact .number hdigits

/-! ## Reading what was written -/

theorem string?_append {kind : StringKind} {s : Bytes} (h : kind.admits s = true) (rest : Bytes) :
    string? kind (some s.length) (s ++ rest) = some (s, rest) := by
  rw [string?, segment?, take?_append rfl, Option.filter_some, if_pos h]

/-- A tag reads the byte string behind it as a number exactly if it is a short one. -/
theorem bigNumberLength?_write (h : item.Counted) (rest : Bytes) :
    bigNumberLength? number (item.write ++ rest) = (item.digits? number).map fun b => (b.length, b ++ rest) := by
  simp only [bigNumberLength?, Item.readHead_write h]
  cases item with
  | bytes b =>
    simp only [Item.head, Item.body, Item.digits?]
    split <;> rename_i hnumber
    · simp only [hnumber, true_and]
      split <;> rfl
    · simp only [hnumber, false_and, if_false, Option.map_none]
  | _ => simp [Item.head, Item.digits?]

theorem item?_write_leaf (h : item.IsLeaf) (hcount : item.Counted) (fuel : Nat) (rest : Bytes) :
    item? (fuel + 1) d (item.write ++ rest) = some (item, rest) := by
  rw [item?, Item.readHead_write hcount]
  cases item with
  | null | unsigned n | negative n | float x => rfl
  | bool b => cases b <;> rfl
  | text s =>
    have hadmits : StringKind.text.admits (Bytes.ofText s) = true := by
      rw [StringKind.admits, Bytes.toText?_ofText]
      rfl
    simp [Item.head, Item.body, string?_append hadmits, Bytes.toText?_ofText]
  | bytes b => simp [Item.head, Item.body, string?_append (show StringKind.bytes.admits b = true from rfl)]
  | array | map | tag => exact h.elim

/-- A reader with two steps for each byte reads from the bytes of an item what rereading says. -/
def Item.ReadsBack (d : Nat) (item : Item) : Prop :=
  ∀ (fuel : Nat) (rest : Bytes), 2 * item.write.length ≤ fuel →
    item? fuel d (item.write ++ rest) = item.reread?.map (·, rest)

theorem items?_write {items : List Item} (h : ∀ x ∈ items, x.ReadsBack d) (fuel : Nat) (rest : Bytes)
    (hfuel : 2 * (writeItems items).length < fuel) :
    items? fuel d (some items.length) (writeItems items ++ rest) = (rereadItems? items).map (·, rest) := by
  induction items generalizing fuel with
  | nil =>
    cases fuel with
    | zero => exact absurd hfuel (Nat.not_lt_zero _)
    | succ fuel => rfl
  | cons x items ih =>
    obtain ⟨hx, hitems⟩ := List.forall_mem_cons.1 h
    -- the item has a first byte, whose steps are left for the list
    have hpos := x.length_body_lt
    rw [writeItems, List.length_append] at hfuel
    cases fuel with
    | zero => exact absurd hfuel (Nat.not_lt_zero _)
    | succ fuel =>
      rw [writeItems, List.append_assoc, List.length_cons, items?, hx fuel _ (by omega), rereadItems?]
      cases x.reread? with
      | none => rfl
      | some y =>
        simp only [Option.map_some, Option.bind_eq_bind, Option.bind_some, ih hitems fuel (by omega)]
        cases rereadItems? items <;> rfl

theorem entries?_write {entries : List (Item × Item)} (hkeys : ∀ e ∈ entries, e.1.ReadsBack d)
    (hvalues : ∀ e ∈ entries, e.2.ReadsBack d) (fuel : Nat) (rest : Bytes)
    (hfuel : 2 * (writeEntries entries).length < fuel) :
    entries? fuel d (some entries.length) (writeEntries entries ++ rest) =
      (rereadEntries? entries).map (·, rest) := by
  induction entries generalizing fuel with
  | nil =>
    cases fuel with
    | zero => exact absurd hfuel (Nat.not_lt_zero _)
    | succ fuel => rfl
  | cons e entries ih =>
    obtain ⟨key, value⟩ := e
    obtain ⟨(hkey : key.ReadsBack d), hkeys⟩ := List.forall_mem_cons.1 hkeys
    obtain ⟨(hvalue : value.ReadsBack d), hvalues⟩ := List.forall_mem_cons.1 hvalues
    have hpos := key.length_body_lt
    simp only [writeEntries, List.length_append] at hfuel
    cases fuel with
    | zero => exact absurd hfuel (Nat.not_lt_zero _)
    | succ fuel =>
      rw [writeEntries, List.append_assoc, List.append_assoc, List.length_cons, entries?,
        hkey fuel _ (by omega), rereadEntries?]
      cases key.reread? with
      | none => rfl
      | some k =>
        simp only [Option.map_some, Option.bind_eq_bind, Option.bind_some, hvalue fuel _ (by omega)]
        cases value.reread? with
        | none => rfl
        | some v =>
          simp only [Option.map_some, Option.bind_some, ih hkeys hvalues fuel (by omega)]
          cases rereadEntries? entries <;> rfl

/-- An item begins with a byte, so that a reader with a step for each has a first one. -/
theorem Item.readsBack_of_step (h : ∀ (fuel : Nat) (rest : Bytes), 2 * item.body.length < fuel →
    item? (fuel + 1) d (item.write ++ rest) = item.reread?.map (·, rest)) : item.ReadsBack d := by
  intro fuel rest hfuel
  have hbody := item.length_body_lt
  cases fuel with
  | zero => omega
  | succ fuel => exact h fuel rest (by omega)

theorem Item.Fits.readsBack (h : item.Fits d) : item.ReadsBack d := by
  induction h with
  | leaf hleaf hcount =>
    refine Item.readsBack_of_step fun fuel rest _ => ?_
    rw [item?_write_leaf hleaf hcount, Item.reread?_leaf hleaf, Option.map_some]
  | @array d items hcount h ih =>
    refine Item.readsBack_of_step fun fuel rest hfuel => ?_
    rw [item?, @Item.readHead_write (.array items) hcount]
    simp only [Item.head, Item.body, items?_write ih fuel rest hfuel]
    simp only [Item.reread?, Option.map_map]
    rfl
  | @map d entries hcount _ _ ihkeys ihvalues =>
    refine Item.readsBack_of_step fun fuel rest hfuel => ?_
    rw [item?, @Item.readHead_write (.map entries) hcount]
    simp only [Item.head, Item.body, entries?_write ihkeys ihvalues fuel rest hfuel]
    simp only [Item.reread?, Option.map_map]
    rfl
  | @number d number item b h =>
    refine Item.readsBack_of_step fun fuel rest _ => ?_
    -- the head of the byte string is read with the tag, and its bytes are the number
    obtain ⟨rfl, -, hshort⟩ := Item.digits?_eq_some.1 h
    have hcount : Item.Counted (.bytes b) := Nat.lt_of_le_of_lt hshort (by decide)
    rw [item?, @Item.readHead_write (.tag number (.bytes b)) trivial]
    simp only [Item.head, Item.body, bigNumberLength?_write hcount, h, Option.map_some, take?_append rfl]
    simp only [Item.reread?, h, Option.bind_eq_bind, Option.bind_some]
    cases bigNumber? number b <;> rfl
  | @tag d number item h hitem ih =>
    refine Item.readsBack_of_step fun fuel rest hfuel => ?_
    rw [item?, @Item.readHead_write (.tag number item) trivial]
    simp only [Item.head, Item.body, bigNumberLength?_write hitem.counted, h, Option.map_none]
    simp only [ih fuel rest (Nat.le_of_lt hfuel), Item.reread?, h, Option.map_map]
    rfl

/-- Reading the bytes of an item that fits yields what rereading says, and leaves what stands behind them. -/
theorem Item.read?_write (h : item.Fits maxDepth) (rest : Bytes) :
    Item.read? (item.write ++ rest) = item.reread?.map (·, rest) := by
  refine h.readsBack _ rest ?_
  rw [List.length_append]
  omega

/-! ## What rereading can yield -/

theorem rereadItems?_eq_some {items xs : List Item} : rereadItems? items = some xs ↔
    Forall₂ (fun x y => x.reread? = some y) items xs := by
  induction items generalizing xs with
  | nil =>
    constructor
    · intro h
      cases h
      exact .nil
    · intro h
      cases h
      rfl
  | cons x rest ih =>
    simp only [rereadItems?, Option.bind_eq_bind, Option.bind_eq_some_iff]
    constructor
    · rintro ⟨y, hy, ys, hys, h⟩
      cases h
      exact .cons hy (ih.1 hys)
    · intro h
      cases h with
      | cons hy hrest => exact ⟨_, hy, _, ih.2 hrest, rfl⟩

theorem rereadEntries?_eq_some {entries es : List (Item × Item)} : rereadEntries? entries = some es ↔
    Forall₂ (fun x y => x.1.reread? = some y.1 ∧ x.2.reread? = some y.2) entries es := by
  induction entries generalizing es with
  | nil =>
    constructor
    · intro h
      cases h
      exact .nil
    · intro h
      cases h
      rfl
  | cons x rest ih =>
    simp only [rereadEntries?, Option.bind_eq_bind, Option.bind_eq_some_iff]
    constructor
    · rintro ⟨k, hk, v, hv, ys, hys, h⟩
      cases h
      exact .cons ⟨hk, hv⟩ (ih.1 hys)
    · intro h
      cases h with
      | cons hy hrest => exact ⟨_, hy.1, _, hy.2, _, ih.2 hrest, rfl⟩

theorem bigNumber?_cases {x : Item} (h : bigNumber? number b = some x) :
    (∃ n, x = .unsigned n) ∨ (∃ n, x = .negative n) ∨ x = .tag number (.bytes (significant b)) := by
  simp only [bigNumber?] at h
  repeat' split at h
  all_goals cases h
  · exact .inl ⟨_, rfl⟩
  · exact .inr (.inl ⟨_, rfl⟩)
  · exact .inr (.inr rfl)

/-- A number is kept under its tag exactly if it goes beyond a word, and then without leading zeros. -/
theorem bigNumber?_eq_tag {x : Item} : bigNumber? number b = some (.tag number x) ↔
    x = .bytes (significant b) ∧ UInt64.size ≤ Bytes.toNatBE b ∧
      ¬ (number = tagNegative ∧ 1 <<< 127 ≤ Bytes.toNatBE b) := by
  simp only [bigNumber?]
  split
  · rename_i hword
    have hsmall := Nat.not_le.2 hword
    split <;> simp [hsmall]
  · rename_i hword
    have hlarge := Nat.not_lt.1 hword
    split
    · rename_i hrefused
      exact iff_of_false (fun h => by cases h) fun h => h.2.2 hrefused
    · rename_i hrefused
      rw [and_iff_left ⟨hlarge, hrefused⟩]
      simp [eq_comm]

/-- A tag is read as the number that is under it, or else with what is read under it. -/
theorem Item.reread?_tag {x : Item} : (Item.tag number item).reread? = some x ↔
    (∃ b, item.digits? number = some b ∧ bigNumber? number b = some x) ∨
      (item.digits? number = none ∧ ∃ y, item.reread? = some y ∧ .tag number y = x) := by
  rw [reread?]
  cases item.digits? number with
  | none => simp
  | some b => simp

theorem Item.reread?_tag_cases {x : Item} (h : (Item.tag number item).reread? = some x) :
    (∃ n, x = .unsigned n) ∨ (∃ n, x = .negative n) ∨ ∃ y, x = .tag number y := by
  rcases reread?_tag.1 h with ⟨b, -, hb⟩ | ⟨-, y, -, hy⟩
  · rcases bigNumber?_cases hb with hx | hx | hx
    · exact .inl hx
    · exact .inr (.inl hx)
    · exact .inr (.inr ⟨_, hx⟩)
  · exact .inr (.inr ⟨y, hy.symm⟩)

theorem Item.reread?_eq_array {xs : List Item} : item.reread? = some (.array xs) ↔
    ∃ items, item = .array items ∧ Forall₂ (fun x y => x.reread? = some y) items xs := by
  cases item with
  | array items => simp [reread?, rereadItems?_eq_some]
  | tag number y =>
    constructor
    · intro h
      rcases reread?_tag_cases h with ⟨_, h⟩ | ⟨_, h⟩ | ⟨_, h⟩ <;> cases h
    · rintro ⟨_, h, -⟩
      cases h
  | _ => simp [reread?]

theorem Item.reread?_eq_map {es : List (Item × Item)} : item.reread? = some (.map es) ↔
    ∃ entries, item = .map entries ∧
      Forall₂ (fun x y => x.1.reread? = some y.1 ∧ x.2.reread? = some y.2) entries es := by
  cases item with
  | map entries => simp [reread?, rereadEntries?_eq_some]
  | tag number y =>
    constructor
    · intro h
      rcases reread?_tag_cases h with ⟨_, h⟩ | ⟨_, h⟩ | ⟨_, h⟩ <;> cases h
    · rintro ⟨_, h, -⟩
      cases h
  | _ => simp [reread?]

theorem Item.reread?_eq_bytes : item.reread? = some (.bytes b) ↔ item = .bytes b := by
  cases item with
  | tag number y =>
    constructor
    · intro h
      rcases reread?_tag_cases h with ⟨_, h⟩ | ⟨_, h⟩ | ⟨_, h⟩ <;> cases h
    · intro h
      cases h
  | _ => simp [reread?]

theorem Item.reread?_eq_tag {x : Item} : item.reread? = some (.tag number x) ↔
    ∃ y, item = .tag number y ∧ ((∃ b, y.digits? number = some b ∧ bigNumber? number b = some (.tag number x)) ∨
      (y.digits? number = none ∧ y.reread? = some x)) := by
  constructor
  · intro h
    cases item with
    | tag n y =>
      obtain rfl : n = number := by
        rcases reread?_tag_cases h with ⟨_, h⟩ | ⟨_, h⟩ | ⟨_, h⟩ <;> cases h
        rfl
      refine ⟨y, rfl, (reread?_tag.1 h).imp_right ?_⟩
      rintro ⟨hdigits, z, hz, heq⟩
      cases heq
      exact ⟨hdigits, hz⟩
    | array | map => simp [reread?] at h
    | _ => cases h
  · rintro ⟨y, rfl, h⟩
    refine reread?_tag.2 (h.imp_right ?_)
    rintro ⟨hdigits, hy⟩
    exact ⟨hdigits, x, hy, rfl⟩

end TokenOverlay.Cbor
