/-
Writing once more what was read. A payload that was read can always be written, and it is read from the new
bytes as it was exactly if it is settled: a byte string of open length under a tag for numbers keeps the tag,
but is written with its length, and is then taken for a number. Whatever is read from the new bytes is settled.
-/
import Mathlib.Data.List.DropRight
import TokenOverlay.Proofs.Cbor.Bounds
import TokenOverlay.Proofs.Payload.RoundTrip

namespace TokenOverlay.Payload

variable {v : Value} {m : Map} {x item : Cbor.Item} {b : Bytes} {d : Nat}

/-! ## What was read fits -/

/-- A value can be followed as deep as the item that it was made of. -/
theorem Value.fits_ofItem? (h : item.Fits d) (hv : ofItem? item = some v) : v.Fits d := by
  induction h generalizing v with
  | leaf hleaf hcount =>
    rename_i item
    cases item with
    | array | map | tag => exact hleaf.elim
    | _ => cases hv; exact fits_leaf trivial hcount
  | array hcount _ ih =>
    obtain ⟨vs, hvs, rfl⟩ := Option.map_eq_some_iff.1 hv
    have hitems := valuesOfItems?_eq_some.1 hvs
    refine fits_seq (hitems.length_eq ▸ hcount) fun v hv => ?_
    obtain ⟨x, hx, hvalue⟩ := exists_left_of_mem hitems hv
    exact ih x hx hvalue
  | map hcount hkeys _ _ ihvalues =>
    obtain ⟨m, hm, rfl⟩ := Option.map_eq_some_iff.1 hv
    obtain ⟨pairs, hpairs, rfl⟩ := mapOfEntries?_eq_some.1 hm
    -- a key that comes again adds no entry
    have hlength : (Assoc.insertAll [] pairs).length ≤ pairs.length := by
      simpa using Assoc.length_insertAll_le [] pairs
    refine fits_map ?_ (fun e he => ?_) (fun e he => ?_)
    · exact Nat.lt_of_le_of_lt hlength (hpairs.length_eq ▸ hcount)
    · obtain ⟨x, hx, hkey, -⟩ := exists_left_of_mem hpairs (mem_of_mem_insertAll he)
      have hfits := hkeys x hx
      rw [hkey] at hfits
      exact hfits.counted
    · obtain ⟨x, hx, -, hvalue⟩ := exists_left_of_mem hpairs (mem_of_mem_insertAll he)
      exact ihvalues x hx hvalue
  | number hdigits =>
    -- the tag and its byte string are written as they were
    obtain ⟨rfl, -⟩ := Cbor.Item.digits?_eq_some.1 hdigits
    cases hv
    intro item hitem
    cases hitem
    exact .number hdigits
  | tag _ _ ih =>
    obtain ⟨w, hw, rfl⟩ := Option.map_eq_some_iff.1 hv
    exact fits_tagged (ih hw) _

/-! ## What was reread is settled -/

theorem toNatLE_append_zero (b : Bytes) : Bytes.toNatLE (b ++ [0]) = Bytes.toNatLE b := by
  induction b with
  | nil => rfl
  | cons x b ih => rw [List.cons_append, Bytes.toNatLE, ih, Bytes.toNatLE]

theorem toNatBE_significant (b : Bytes) : Bytes.toNatBE (Cbor.significant b) = Bytes.toNatBE b := by
  induction b with
  | nil => rfl
  | cons x b ih =>
    rw [Cbor.significant, List.dropWhile_cons]
    split
    · rename_i hzero
      obtain rfl := beq_iff_eq.1 hzero
      -- the first byte is the last one when bytes are counted from the other end
      calc Bytes.toNatBE (Cbor.significant b)
        _ = Bytes.toNatBE b := ih
        _ = Bytes.toNatLE (b.reverse ++ [0]) := (toNatLE_append_zero b.reverse).symm
        _ = Bytes.toNatBE (0 :: b) := by rw [Bytes.toNatBE, List.reverse_cons]
    · rfl

/-- The form in which a number is kept under its tag is kept. -/
theorem kept_significant {number : UInt64} {s : Bytes}
    (h : Cbor.bigNumber? number s = some (.tag number (.bytes b))) : (Value.tagged number (.bytes b)).Kept := by
  intro _ _
  obtain ⟨hbytes, hnumber⟩ := Cbor.bigNumber?_eq_tag.1 h
  cases hbytes
  rw [toNatBE_significant]
  exact ⟨List.dropWhile_idempotent _ s, hnumber⟩

/-- The value of an item that was reread is settled. -/
theorem Value.settled_of_reread? (h : item.reread? = some x) (hv : ofItem? x = some v) : v.Settled := by
  induction v using Value.induct generalizing item x with
  | leaf v hleaf =>
    refine (forall_within_leaf hleaf).2 ?_
    cases v with
    | tagged => exact hleaf.elim
    | _ => trivial
  | seq vs ih =>
    obtain ⟨xs, rfl, hvs⟩ := ofItem?_eq_seq.1 hv
    obtain ⟨items, rfl, hxs⟩ := Cbor.Item.reread?_eq_array.1 h
    refine settled_seq.2 fun v hv => ?_
    obtain ⟨x, hx, hvalue⟩ := exists_left_of_mem hvs hv
    obtain ⟨item, -, hitem⟩ := exists_left_of_mem hxs hx
    exact ih v hv hitem hvalue
  | map m ih =>
    obtain ⟨xs, rfl, hm⟩ := ofItem?_eq_map.1 hv
    obtain ⟨entries, rfl, hxs⟩ := Cbor.Item.reread?_eq_map.1 h
    obtain ⟨pairs, hpairs, rfl⟩ := mapOfEntries?_eq_some.1 hm
    refine settled_map.2 fun e he => ?_
    obtain ⟨x, hx, -, hvalue⟩ := exists_left_of_mem hpairs (mem_of_mem_insertAll he)
    obtain ⟨entry, -, -, hentry⟩ := exists_left_of_mem hxs hx
    exact ih e he hentry hvalue
  | tagged number v ih =>
    obtain ⟨y, rfl, hy⟩ := ofItem?_eq_tagged.1 hv
    obtain ⟨z, rfl, ⟨s, hdigits, hnumber⟩ | ⟨hdigits, hz⟩⟩ := Cbor.Item.reread?_eq_tag.1 h
    · -- a number that is kept under its tag
      obtain ⟨hy', -⟩ := Cbor.bigNumber?_eq_tag.1 hnumber
      cases hy'
      cases hy
      have hbytes : (Value.bytes (Cbor.significant s)).Settled :=
        (forall_within_leaf (show (Value.bytes _).IsLeaf from trivial)).2 trivial
      exact settled_tagged.2 ⟨kept_significant hnumber, hbytes⟩
    · refine settled_tagged.2 ⟨?_, ih hz hy⟩
      cases v with
      | bytes b =>
        -- under this tag a byte string is no number
        rw [ofItem?_eq_bytes.1 hy, Cbor.Item.reread?_eq_bytes] at hz
        rw [hz] at hdigits
        exact kept_bytes.2 fun s hs => by rw [hdigits] at hs; cases hs
      | _ => trivial

/-! ## Payloads -/

/-- A payload that was read is written again. From the new bytes it is read as it was exactly if it is settled,
and is then as sound as before; whatever is read from them is settled. -/
theorem reencoding_settles {b : Bytes} {m : Map} (hb : b.length < UInt64.size) (h : decode b = .ok m) :
    ∃ c, encode m = .ok c ∧ (decode c = .ok m ↔ (Value.map m).Settled) ∧
      ((Value.map m).Settled → decodeSound c = decodeSound b) ∧
      ∀ m', decode c = .ok m' → (Value.map m').Settled := by
  obtain ⟨item, rest, hread, hitem⟩ := decode_ok.1 h
  obtain ⟨again, hagain⟩ := Value.toItem_of_ofItem? hitem
  have hfits : again.Fits Cbor.maxDepth :=
    Value.fits_ofItem? (Cbor.Item.fits_of_read? hb hread) hitem again hagain
  have hsettled {m' : Map} (hm : decode again.write = .ok m') : (Value.map m').Settled := by
    obtain ⟨x, hx, hvalue⟩ := (decode_write hfits).1 hm
    exact Value.settled_of_reread? hx hvalue
  have hback (hm : (Value.map m).Settled) : decode again.write = .ok m :=
    (decode_write hfits).2 ⟨again, Value.reread?_of_settled hm hagain,
      Value.ofItem?_toItem (decode_keysDiffer h) hagain⟩
  refine ⟨again.write, encode_ok.2 ⟨again, hagain, rfl⟩, ⟨hsettled, hback⟩, fun hm => ?_, fun m' => hsettled⟩
  rw [decodeSound, decodeSound, hback hm, h]

/-- A map of open length in which a key comes twice, the second time with the lowest number beyond a word. -/
theorem reencoding_settles_beyond_word : ∃ c,
    encode [("a", .tagged 2 (.bytes [1, 0, 0, 0, 0, 0, 0, 0, 0]))] = .ok c ∧
      decode c = .ok [("a", .tagged 2 (.bytes [1, 0, 0, 0, 0, 0, 0, 0, 0]))] := by
  have hread : decode [0xbf, 0x61, 0x61, 0x18, 5, 0x61, 0x61, 0xc2, 0x49, 1, 0, 0, 0, 0, 0, 0, 0, 0, 0xff, 7] =
      .ok [("a", .tagged 2 (.bytes [1, 0, 0, 0, 0, 0, 0, 0, 0]))] := rfl
  obtain ⟨c, hwritten, hback, -⟩ := reencoding_settles (by decide) hread
  refine ⟨c, hwritten, hback.2 fun w hw => ?_⟩
  simp at hw
  rcases hw with rfl | rfl | h
  · trivial
  · exact fun _ _ => ⟨by decide, by decide, by decide⟩
  · cases h; trivial

/-- The number five in a byte string of open length keeps its tag, and is refused; written again it is read as
an integer, and is sound. -/
theorem reencoding_unsettled :
    decode [0xa1, 0x64, 0x61, 0x72, 0x67, 0x73, 0xa1, 0x61, 0x61, 0xc2, 0x5f, 0x41, 5, 0xff] =
        .ok [("args", .map [("a", .tagged 2 (.bytes [5]))])] ∧
      encode [("args", .map [("a", .tagged 2 (.bytes [5]))])] =
        .ok [0xa1, 0x64, 0x61, 0x72, 0x67, 0x73, 0xa1, 0x61, 0x61, 0xc2, 0x41, 5] ∧
      decode [0xa1, 0x64, 0x61, 0x72, 0x67, 0x73, 0xa1, 0x61, 0x61, 0xc2, 0x41, 5] =
        .ok [("args", .map [("a", .int 5)])] ∧
      decode [0xa1, 0x64, 0x61, 0x72, 0x67, 0x73, 0xa1, 0x61, 0x61, 0xc2, 0x41, 5] ≠
        .ok [("args", .map [("a", .tagged 2 (.bytes [5]))])] ∧
      decodeSound [0xa1, 0x64, 0x61, 0x72, 0x67, 0x73, 0xa1, 0x61, 0x61, 0xc2, 0x5f, 0x41, 5, 0xff] =
        .error (.banned "args" "tagged" ["a"]) ∧
      decodeSound [0xa1, 0x64, 0x61, 0x72, 0x67, 0x73, 0xa1, 0x61, 0x61, 0xc2, 0x41, 5] =
        .ok [("args", .map [("a", .int 5)])] := by
  refine ⟨rfl, rfl, rfl, ?_, rfl, rfl⟩
  show (Except.ok [("args", .map [("a", .int 5)])] : Except Error Map) ≠ _
  simp

end TokenOverlay.Payload
