/-
Writing and reading a payload. A payload that nests no deeper than a reader follows is written exactly if its
integers are words of either sign, and without tags it is read back as it was. Under the tags for numbers a
byte string is read back as it was only in the form that is kept, and whatever was read once has that form.
-/
import TokenOverlay.Proofs.Cbor.Reread
import TokenOverlay.Proofs.Payload.Items

namespace TokenOverlay.Payload

open List (Forall₂)

variable {v : Value} {vs : List Value} {m : Map} {item : Cbor.Item} {number : UInt64} {b : Bytes} {d : Nat}

/-! ## Depth and size -/

mutual

/-- How deep sequences, maps and tags nest in a value. -/
def Value.nesting : Value → Nat
  | .seq items => itemsNesting items + 1
  | .map entries => entriesNesting entries + 1
  | .tagged _ v => v.nesting + 1
  | _ => 0

def itemsNesting : List Value → Nat
  | [] => 0
  | v :: rest => max v.nesting (itemsNesting rest)

def entriesNesting : List (String × Value) → Nat
  | [] => 0
  | (_, v) :: rest => max v.nesting (entriesNesting rest)

end

theorem itemsNesting_le : itemsNesting vs ≤ d ↔ ∀ v ∈ vs, v.nesting ≤ d := by
  induction vs with
  | nil => simp [itemsNesting]
  | cons v rest ih => rw [itemsNesting, Nat.max_le, ih, List.forall_mem_cons]

theorem entriesNesting_le : entriesNesting m ≤ d ↔ ∀ e ∈ m, e.2.nesting ≤ d := by
  induction m with
  | nil => simp [entriesNesting]
  | cons e rest ih => rw [entriesNesting, Nat.max_le, ih, List.forall_mem_cons]

/-- The length of a value is a word, as are those of the keys of a map. -/
def Value.Counted : Value → Prop
  | .text s => (Bytes.ofText s).length < UInt64.size
  | .bytes b => b.length < UInt64.size
  | .seq items => items.length < UInt64.size
  | .map entries => entries.length < UInt64.size ∧ ∀ e ∈ entries, (Bytes.ofText e.1).length < UInt64.size
  | _ => True

/-! ## Items that fit -/

/-- Whatever is written of a value can be read by a reader that follows `d` levels. -/
def Value.Fits (d : Nat) (v : Value) : Prop :=
  ∀ item, v.toItem = .ok item → item.Fits d

theorem Value.isLeaf_of_ofItem? {n : Int} (h : ofItem? item = some (.int n)) : item.IsLeaf ∧ item.Counted := by
  cases item with
  | unsigned | negative => exact ⟨trivial, trivial⟩
  | _ => simp [ofItem?] at h

theorem Value.isLeaf_toItem (hleaf : v.IsLeaf) (h : v.toItem = .ok item) :
    item.IsLeaf ∧ (v.Counted → item.Counted) := by
  cases v with
  | int n =>
    obtain ⟨hitem, hcount⟩ := isLeaf_of_ofItem? (ofItem?_intItem h)
    exact ⟨hitem, fun _ => hcount⟩
  | seq | map | tagged => exact hleaf.elim
  | _ => cases h; exact ⟨trivial, id⟩

theorem Value.fits_leaf (hleaf : v.IsLeaf) (hcount : v.Counted) : v.Fits d := by
  intro item h
  obtain ⟨hitem, hkeep⟩ := isLeaf_toItem hleaf h
  exact .leaf hitem (hkeep hcount)

theorem Value.fits_seq (hcount : vs.length < UInt64.size) (h : ∀ v ∈ vs, v.Fits d) :
    (Value.seq vs).Fits (d + 1) := by
  intro item hitem
  obtain ⟨items, rfl, hitems⟩ := toItem_seq.1 hitem
  refine .array (hitems.length_eq ▸ hcount) fun x hx => ?_
  obtain ⟨v, hv, hx⟩ := exists_left_of_mem hitems hx
  exact h v hv x hx

theorem Value.fits_map (hcount : m.length < UInt64.size)
    (hkeys : ∀ e ∈ m, (Bytes.ofText e.1).length < UInt64.size) (h : ∀ e ∈ m, e.2.Fits d) :
    (Value.map m).Fits (d + 1) := by
  intro item hitem
  obtain ⟨entries, rfl, hentries⟩ := toItem_map.1 hitem
  refine .map (hentries.length_eq ▸ hcount) (fun x hx => ?_) (fun x hx => ?_)
  · obtain ⟨e, he, hkey, -⟩ := exists_left_of_mem hentries hx
    rw [hkey]
    exact .leaf trivial (hkeys e he)
  · obtain ⟨e, he, -, hvalue⟩ := exists_left_of_mem hentries hx
    exact h e he x.2 hvalue

theorem Value.fits_tagged (h : v.Fits d) (number : UInt64) : (Value.tagged number v).Fits (d + 1) := by
  intro item hitem
  obtain ⟨x, rfl, hx⟩ := toItem_tagged.1 hitem
  exact (h x hx).tagged number

/-- A value that nests no deeper than `d` levels and has lengths that are words. -/
theorem Value.fits_of_nesting (hd : v.nesting ≤ d) (hcount : ∀ w : Value, w.Within v → w.Counted) :
    v.Fits d := by
  induction v using Value.induct generalizing d with
  | leaf v hleaf => exact fits_leaf hleaf (hcount v (.self v))
  | seq vs ih =>
    obtain ⟨hself, hitems⟩ := forall_within_seq.1 hcount
    cases d with
    | zero => exact absurd hd (Nat.not_succ_le_zero _)
    | succ d =>
      have hbelow := itemsNesting_le.1 (Nat.le_of_succ_le_succ hd)
      exact fits_seq hself fun v hv => ih v hv (hbelow v hv) (hitems v hv)
  | map m ih =>
    obtain ⟨⟨hself, hkeys⟩, hvalues⟩ := forall_within_map.1 hcount
    cases d with
    | zero => exact absurd hd (Nat.not_succ_le_zero _)
    | succ d =>
      have hbelow := entriesNesting_le.1 (Nat.le_of_succ_le_succ hd)
      exact fits_map hself hkeys fun e he => ih e he (hbelow e he) (hvalues e he)
  | tagged number v ih =>
    cases d with
    | zero => exact absurd hd (Nat.not_succ_le_zero _)
    | succ d => exact fits_tagged (ih (Nat.le_of_succ_le_succ hd) (forall_within_tagged.1 hcount).2) number

/-! ## Settled values -/

/-- Under a tag for numbers a byte string of at most sixteen bytes stays as it is if it begins with no zero and
stands for a number beyond a word, which a reader does not refuse as too low. -/
def Value.Kept : Value → Prop
  | .tagged number (.bytes b) => number = Cbor.tagUnsigned ∨ number = Cbor.tagNegative → b.length ≤ 16 →
      Cbor.significant b = b ∧ UInt64.size ≤ Bytes.toNatBE b ∧
        ¬ (number = Cbor.tagNegative ∧ 1 <<< 127 ≤ Bytes.toNatBE b)
  | _ => True

/-- Every byte string under a tag in a value stays as it is. -/
def Value.Settled (v : Value) : Prop :=
  ∀ w : Value, w.Within v → w.Kept

theorem Value.settled_seq : (Value.seq vs).Settled ↔ ∀ v ∈ vs, v.Settled :=
  forall_within_seq.trans (and_iff_right trivial)

theorem Value.settled_map : (Value.map m).Settled ↔ ∀ e ∈ m, e.2.Settled :=
  forall_within_map.trans (and_iff_right trivial)

theorem Value.settled_tagged : (Value.tagged number v).Settled ↔ (Value.tagged number v).Kept ∧ v.Settled :=
  forall_within_tagged

theorem Value.settled_of_plain (h : ∀ (number : UInt64) (w : Value), ¬ (Value.tagged number w).Within v) :
    v.Settled := by
  intro w hw
  cases w with
  | tagged number w => exact absurd hw (h number w)
  | _ => trivial

theorem Value.eq_bytes_of_toItem (h : v.toItem = .ok (.bytes b)) : v = .bytes b := by
  cases v with
  | int n =>
    -- the item of an integer stands for that integer
    have hback := ofItem?_intItem h
    cases hback
  | seq =>
    obtain ⟨_, hitem, -⟩ := toItem_seq.1 h
    cases hitem
  | map =>
    obtain ⟨_, hitem, -⟩ := toItem_map.1 h
    cases hitem
  | tagged =>
    obtain ⟨_, hitem, -⟩ := toItem_tagged.1 h
    cases hitem
  | bytes => cases h; rfl
  | _ => cases h

theorem Value.kept_bytes : (Value.tagged number (.bytes b)).Kept ↔
    ∀ s, Cbor.Item.digits? number (.bytes b) = some s →
      Cbor.bigNumber? number s = some (.tag number (.bytes b)) := by
  simp only [Kept, Cbor.bigNumber?_eq_tag, Cbor.Item.digits?_eq_some]
  constructor
  · rintro h s ⟨hs, hnumber, hshort⟩
    cases hs
    obtain ⟨hbytes, hlarge⟩ := h hnumber hshort
    exact ⟨by rw [hbytes], hlarge⟩
  · intro h hnumber hshort
    obtain ⟨hbytes, hlarge⟩ := h b ⟨rfl, hnumber, hshort⟩
    exact ⟨(Cbor.Item.bytes.inj hbytes).symm, hlarge⟩

/-- The item of a settled value is read back as it is. -/
theorem Value.reread?_of_settled (hv : v.Settled) (h : v.toItem = .ok item) : item.reread? = some item := by
  induction v using Value.induct generalizing item with
  | leaf v hleaf => exact Cbor.Item.reread?_leaf (isLeaf_toItem hleaf h).1
  | seq vs ih =>
    obtain ⟨items, rfl, hitems⟩ := toItem_seq.1 h
    refine Cbor.Item.reread?_eq_array.2 ⟨items, rfl, List.forall₂_same.2 fun x hx => ?_⟩
    obtain ⟨v, hmem, hx⟩ := exists_left_of_mem hitems hx
    exact ih v hmem (settled_seq.1 hv v hmem) hx
  | map m ih =>
    obtain ⟨entries, rfl, hentries⟩ := toItem_map.1 h
    refine Cbor.Item.reread?_eq_map.2 ⟨entries, rfl, List.forall₂_same.2 fun x hx => ?_⟩
    obtain ⟨e, hmem, hkey, hvalue⟩ := exists_left_of_mem hentries hx
    exact ⟨by rw [hkey]; rfl, ih e hmem (settled_map.1 hv e hmem) hvalue⟩
  | tagged number v ih =>
    obtain ⟨x, rfl, hx⟩ := toItem_tagged.1 h
    obtain ⟨hself, hbelow⟩ := settled_tagged.1 hv
    refine Cbor.Item.reread?_eq_tag.2 ⟨x, rfl, ?_⟩
    cases hdigits : x.digits? number with
    | none => exact .inr ⟨rfl, ih hbelow hx⟩
    | some s =>
      -- only a byte string is written as one, and under this tag it is kept
      obtain ⟨rfl, -⟩ := Cbor.Item.digits?_eq_some.1 hdigits
      obtain rfl := eq_bytes_of_toItem hx
      exact .inl ⟨s, rfl, kept_bytes.1 hself s hdigits⟩

/-! ## Payloads -/

theorem decode_ok : decode b = .ok m ↔
    ∃ item rest, Cbor.Item.read? b = some (item, rest) ∧ Value.ofItem? item = some (.map m) := by
  constructor
  · intro h
    obtain ⟨entries, rest, hread, hm⟩ := mapOfEntries?_of_decode h
    exact ⟨_, rest, hread, Value.ofItem?_eq_map.2 ⟨entries, rfl, hm⟩⟩
  · rintro ⟨item, rest, hread, hitem⟩
    obtain ⟨entries, rfl, hm⟩ := Value.ofItem?_eq_map.1 hitem
    cases b with
    | nil => cases hread
    | cons => simp [decode, hread, hm]

theorem encode_ok : encode m = .ok b ↔ ∃ item, (Value.map m).toItem = .ok item ∧ item.write = b :=
  map_ok_iff

theorem decode_write (h : item.Fits Cbor.maxDepth) : decode item.write = .ok m ↔
    ∃ x, item.reread? = some x ∧ Value.ofItem? x = some (.map m) := by
  have hread := Cbor.Item.read?_write h []
  rw [List.append_nil] at hread
  rw [decode_ok, hread]
  cases item.reread? <;> simp

/-- Reading undoes writing. A payload without tags that nests no deeper than a reader follows is written exactly
if every integer in it is a word of either sign, and then the same keys and values are read back in the same
order. No map has a key twice, and no length is beyond a word. -/
theorem encode_reads_back (hkeys : (Value.map m).keysDiffer = true)
    (hcount : ∀ w : Value, w.Within (.map m) → w.Counted)
    (hplain : ∀ (number : UInt64) (w : Value), ¬ (Value.tagged number w).Within (.map m))
    (hdepth : (Value.map m).nesting ≤ Cbor.maxDepth) :
    ((∃ b, encode m = .ok b) ↔ ∀ n : Int, (Value.int n).Within (.map m) → IsWord n) ∧
      ∀ b, encode m = .ok b → decode b = .ok m := by
  constructor
  · rw [← Value.toItem_ok_iff]
    simp [encode_ok]
  · intro b hb
    obtain ⟨item, hitem, rfl⟩ := encode_ok.1 hb
    refine (decode_write (Value.fits_of_nesting hdepth hcount item hitem)).2 ⟨item, ?_, ?_⟩
    · exact Value.reread?_of_settled (Value.settled_of_plain hplain) hitem
    · exact Value.ofItem?_toItem hkeys hitem

/-- The lowest integer in a list behind an empty map, and a byte string in a map under an empty key. -/
theorem encode_reads_back_nested : ∃ b,
    encode [("b", .seq [.map [], .int (-18446744073709551616)]), ("a", .map [("", .bytes [0])])] = .ok b ∧
      decode b = .ok [("b", .seq [.map [], .int (-18446744073709551616)]), ("a", .map [("", .bytes [0])])] := by
  have hcount (w : Value) (hw : w.Within (.map [("b", .seq [.map [], .int (-18446744073709551616)]),
      ("a", .map [("", .bytes [0])])])) : w.Counted := by
    simp at hw
    rcases hw with rfl | (rfl | rfl | h) | rfl | h
    · exact ⟨by decide, by decide⟩
    · exact show 2 < UInt64.size by decide
    · exact ⟨by decide, by decide⟩
    · cases h; trivial
    · exact ⟨by decide, by decide⟩
    · cases h; exact show 1 < UInt64.size by decide
  have hplain (number : UInt64) (w : Value) : ¬ (Value.tagged number w).Within (.map [
      ("b", .seq [.map [], .int (-18446744073709551616)]), ("a", .map [("", .bytes [0])])]) := by
    intro hw
    simp at hw
    rcases hw with h | h <;> cases h
  obtain ⟨hwritten, hread⟩ := encode_reads_back (by decide) hcount hplain (by decide)
  obtain ⟨b, hb⟩ := hwritten.2 fun n hn => by
    simp at hn
    rcases hn with h | h
    · cases h; exact ⟨by decide, by decide⟩
    · cases h
  exact ⟨b, hb, hread b hb⟩

end TokenOverlay.Payload
