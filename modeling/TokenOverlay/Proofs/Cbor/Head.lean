/-
The heads of items as they are written. A head is read back whatever follows it, and its argument is the
number it was written for; a number in a narrower format is read back to the same bits. Every item is a head
and a body, so that a reader of items can be followed without looking at bytes.
-/
import Mathlib.Algebra.Group.Nat.Defs
import TokenOverlay.Cbor.Reader

namespace TokenOverlay

/-! ## Texts -/

namespace Bytes

theorem toText?_ofText (s : String) : toText? (ofText s) = some s := by
  have hbytes : (⟨(ofText s).toArray⟩ : ByteArray) = s.toByteArray := rfl
  rw [toText?, hbytes, String.fromUTF8?, dif_pos s.isValidUTF8]
  rfl

theorem ofText_of_toText? {b : Bytes} {s : String} (h : toText? b = some s) : ofText s = b := by
  unfold toText? String.fromUTF8? at h
  split at h
  · cases h; rfl
  · cases h

end Bytes

/-! ## Words of narrower formats -/

namespace Binary64

theorem sign_lt (x : Binary64) : x.sign < 2 := by
  have := x.bits.toNat_lt
  rw [sign, Nat.shiftRight_eq_div_pow]
  omega

theorem fraction_lt (x : Binary64) : x.fraction < 2 ^ 52 :=
  Nat.mod_lt _ (by decide)

namespace Format

variable {f : Format} {x : Binary64} {w : Nat}

/-- The parts of a word stand side by side. -/
theorem word_lt {sign exponent fraction : Nat} (hs : sign < 2) (he : exponent < 2 ^ f.exponentBits)
    (hf : fraction < 2 ^ f.fractionBits) :
    sign <<< (f.exponentBits + f.fractionBits) + exponent <<< f.fractionBits + fraction <
      2 ^ (f.exponentBits + f.fractionBits + 1) := by
  simp only [Nat.shiftLeft_eq, Nat.pow_succ, Nat.pow_add]
  have hexponent : (exponent + 1) * 2 ^ f.fractionBits ≤ 2 ^ f.exponentBits * 2 ^ f.fractionBits :=
    Nat.mul_le_mul_right _ he
  have hsign : sign * (2 ^ f.exponentBits * 2 ^ f.fractionBits) ≤
      1 * (2 ^ f.exponentBits * 2 ^ f.fractionBits) :=
    Nat.mul_le_mul_right _ (by omega)
  rw [Nat.add_mul] at hexponent
  omega

/-- A fraction that loses its lowest bits fits the narrower field. -/
theorem shiftRight_lt {fraction width lost : Nat} (h : fraction < 2 ^ (width + lost)) :
    fraction >>> lost < 2 ^ width := by
  rw [Nat.shiftRight_eq_div_pow, Nat.div_lt_iff_lt_mul (Nat.two_pow_pos lost), ← Nat.pow_add]
  exact h

theorem truncate?_lt (hf : f.fractionBits ≤ 52) (h : f.truncate? x = some w) :
    w < 2 ^ (f.exponentBits + f.fractionBits + 1) := by
  have hs := x.sign_lt
  have hmax : f.maxExponent < 2 ^ f.exponentBits := by
    have := Nat.two_pow_pos f.exponentBits
    rw [maxExponent, Nat.one_shiftLeft]
    omega
  have hfraction : x.fraction >>> (52 - f.fractionBits) < 2 ^ f.fractionBits :=
    shiftRight_lt (by rw [Nat.add_sub_cancel' hf]; exact x.fraction_lt)
  unfold truncate? at h
  simp only at h
  split at h
  · cases h
    exact word_lt hs hmax hfraction
  · split at h
    · split at h
      · cases h
        exact word_lt hs (by omega) hfraction
      · cases h
    · split at h
      · cases h
        simpa using @word_lt f x.sign 0 0 hs (Nat.two_pow_pos _) (Nat.two_pow_pos _)
      · cases h
        -- the implicit bit is shifted into the field, and at least one place further
        have hlost : 53 ≤ f.fractionBits + (52 - f.fractionBits + (1024 - f.bias - x.exponent)) := by omega
        have hwhole : fractions + x.fraction < 2 ^ 53 := by
          have := x.fraction_lt
          rw [fractions, Nat.one_shiftLeft]
          omega
        have hshifted := shiftRight_lt (Nat.lt_of_lt_of_le hwhole (Nat.pow_le_pow_right Nat.two_pos hlost))
        simpa using @word_lt f x.sign 0 _ hs (Nat.two_pow_pos _) hshifted

/-- A word found for a number fits the format and stands for the number. -/
theorem narrow?_eq_some (hf : f.fractionBits ≤ 52) (h : f.narrow? x = some w) :
    w < 2 ^ (f.exponentBits + f.fractionBits + 1) ∧ f.widen w = x := by
  unfold narrow? at h
  split at h
  · rename_i word hword
    split at h
    · rename_i hwiden
      cases h
      exact ⟨truncate?_lt hf hword, hwiden⟩
    · cases h
  · cases h

end Format

end Binary64

/-! ## Heads -/

namespace Cbor

theorem take?_append {front : Bytes} {n : Nat} (h : front.length = n) (rest : Bytes) :
    take? n (front ++ rest) = some (front, rest) := by
  rw [take?, if_neg (by rw [List.length_append]; omega), List.take_left' h, List.drop_left' h]

theorem take?_eq_some {n : Nat} {b front rest : Bytes} (h : take? n b = some (front, rest)) :
    front.length = n ∧ b = front ++ rest := by
  unfold take? at h
  split at h
  · cases h
  · cases h
    exact ⟨List.length_take_of_le (by omega), (List.take_append_drop n b).symm⟩

/-- The first byte of a head is its major type and five bits of the argument. -/
theorem Head.read?_cons {major info : Nat} (hmajor : major < 8) (hinfo : info < 32) (b : Bytes) :
    Head.read? (UInt8.ofNat (32 * major + info) :: b) =
      (Argument.read? info b).bind fun r => (Head.make? major r.1).map (·, r.2) := by
  have hbyte : (UInt8.ofNat (32 * major + info)).toNat = 32 * major + info := by
    rw [UInt8.toNat_ofNat']
    omega
  have hlow : (32 * major + info) % 32 = info := by omega
  have hhigh : (32 * major + info) / 32 = major := by omega
  simp only [Head.read?, hbyte, hlow, hhigh]
  cases Argument.read? info b with
  | none => rfl
  | some r =>
    simp only [Option.bind_eq_bind, Option.bind_some]
    cases Head.make? major r.1 <;> rfl

/-- The low bits of first bytes that announce a field, each with the width of the field. -/
def fieldWidths : List (Nat × Nat) :=
  [(24, 1), (25, 2), (26, 4), (27, 8)]

/-- A head whose argument stands in a field of its own. -/
theorem Head.read?_field {major info : Nat} {field : Bytes} (hmajor : major < 8)
    (h : (info, field.length) ∈ fieldWidths) (rest : Bytes) :
    Head.read? (UInt8.ofNat (32 * major + info) :: (field ++ rest)) =
      (Head.make? major (.field field)).map (·, rest) := by
  have hargument : info < 32 ∧ Argument.read? info (field ++ rest) = some (.field field, rest) := by
    simp only [fieldWidths, List.mem_cons, Prod.mk.injEq, List.not_mem_nil, or_false] at h
    rcases h with ⟨rfl, h⟩ | ⟨rfl, h⟩ | ⟨rfl, h⟩ | ⟨rfl, h⟩ <;> simp [Argument.read?, take?_append h]
  rw [Head.read?_cons hmajor hargument.1, hargument.2, Option.bind_some]

/-- The argument of a head is read back, whichever width it was written in. -/
theorem Head.read?_writeHead {major n : Nat} (hmajor : major < 8) (hn : n < UInt64.size) (rest : Bytes) :
    ∃ arg : Argument, arg.value? = some n ∧
      Head.read? (writeHead major n ++ rest) = (Head.make? major arg).map (·, rest) := by
  have hfield {info w : Nat} (hw : (info, w) ∈ fieldWidths) (h : n < Bytes.count w) :
      ∃ arg : Argument, arg.value? = some n ∧
        Head.read? (UInt8.ofNat (32 * major + info) :: (Bytes.ofNatBE w n ++ rest)) =
          (Head.make? major arg).map (·, rest) := by
    refine ⟨.field (Bytes.ofNatBE w n), ?_, Head.read?_field hmajor (by rwa [Bytes.length_ofNatBE]) rest⟩
    rw [Argument.value?, Bytes.toNatBE_ofNatBE, Nat.mod_eq_of_lt h]
  unfold writeHead
  split
  · rename_i hshort
    refine ⟨.short n, rfl, ?_⟩
    rw [List.singleton_append, Head.read?_cons hmajor (by omega), Argument.read?, if_pos hshort,
      Option.bind_some]
  split
  · exact hfield (by decide) ‹_›
  split
  · exact hfield (by decide) ‹_›
  split
  · exact hfield (by decide) ‹_›
  · exact hfield (by decide) hn

/-- A number is read back from whichever format it was written in. -/
theorem Head.read?_writeFloat (x : Binary64) (rest : Bytes) :
    Head.read? (writeFloat x ++ rest) = some (.float x, rest) := by
  have hread {info w n : Nat} (hw : (info, w) ∈ fieldWidths)
      (hmake : Head.make? 7 (.field (Bytes.ofNatBE w n)) = some (.float x)) :
      Head.read? (UInt8.ofNat (32 * 7 + info) :: (Bytes.ofNatBE w n ++ rest)) = some (.float x, rest) := by
    rw [Head.read?_field (by decide) (by rwa [Bytes.length_ofNatBE]), hmake, Option.map_some]
  have hvalue {w n : Nat} (h : n < Bytes.count w) : Bytes.toNatBE (Bytes.ofNatBE w n) = n := by
    rw [Bytes.toNatBE_ofNatBE, Nat.mod_eq_of_lt h]
  unfold writeFloat
  split
  · rename_i w hw
    obtain ⟨(hlt : w < Bytes.count 2), hwiden⟩ := Binary64.Format.narrow?_eq_some (by decide) hw
    exact @hread 25 2 w (by decide) (by simp only [Head.make?, Bytes.length_ofNatBE, hvalue hlt, hwiden])
  · rename_i w _ hw
    obtain ⟨(hlt : w < Bytes.count 4), hwiden⟩ := Binary64.Format.narrow?_eq_some (by decide) hw
    exact @hread 26 4 w (by decide) (by simp only [Head.make?, Bytes.length_ofNatBE, hvalue hlt, hwiden])
  · refine @hread 27 8 x.bits.toNat (by decide) ?_
    simp only [Head.make?, Bytes.length_ofNatBE, @hvalue 8 x.bits.toNat x.bits.toNat_lt, UInt64.ofNat_toNat]

/-! ## Items -/

/-- The head that an item is written with. -/
def Item.head : Item → Head
  | .null => .simple 22
  | .bool b => .simple (if b then 21 else 20)
  | .unsigned n => .unsigned n
  | .negative n => .negative n
  | .float x => .float x
  | .text s => .text (some (Bytes.ofText s).length)
  | .bytes b => .bytes (some b.length)
  | .array items => .array (some items.length)
  | .map entries => .map (some entries.length)
  | .tag n _ => .tag n

/-- What is written after the head of an item. -/
def Item.body : Item → Bytes
  | .text s => Bytes.ofText s
  | .bytes b => b
  | .array items => writeItems items
  | .map entries => writeEntries entries
  | .tag _ item => item.write
  | _ => []

/-- A head can hold the length of an item. -/
def Item.Counted : Item → Prop
  | .text s => (Bytes.ofText s).length < UInt64.size
  | .bytes b => b.length < UInt64.size
  | .array items => items.length < UInt64.size
  | .map entries => entries.length < UInt64.size
  | _ => True

theorem length_writeHead_pos (major n : Nat) : 0 < (writeHead major n).length := by
  unfold writeHead
  repeat' split
  all_goals exact Nat.succ_pos _

theorem length_writeFloat_pos (x : Binary64) : 0 < (writeFloat x).length := by
  unfold writeFloat
  split <;> exact Nat.succ_pos _

theorem Item.length_body_lt (item : Item) : item.body.length < item.write.length := by
  have hhead := length_writeHead_pos
  cases item with
  | bool b => cases b <;> exact Nat.succ_pos _
  | null => exact Nat.succ_pos _
  | unsigned n | negative n => exact hhead _ _
  | float x => exact length_writeFloat_pos x
  | text s | bytes b | array items | map entries | tag n item =>
    simp only [Item.body, Item.write, List.length_append]
    exact Nat.lt_add_of_pos_left (hhead _ _)

theorem Head.read?_head {major n : Nat} {head : Head} (hmajor : major < 8) (hn : n < UInt64.size)
    (hmake : ∀ arg : Argument, arg.value? = some n → Head.make? major arg = some head) (rest : Bytes) :
    Head.read? (writeHead major n ++ rest) = some (head, rest) := by
  obtain ⟨arg, harg, hread⟩ := Head.read?_writeHead hmajor hn rest
  rw [hread, hmake arg harg, Option.map_some]

/-- Reading the bytes of an item begins with its head and leaves its body. -/
theorem Item.readHead_write {item : Item} (h : item.Counted) (rest : Bytes) :
    Head.read? (item.write ++ rest) = some (item.head, item.body ++ rest) := by
  have hword {arg : Argument} {n : UInt64} (harg : arg.value? = some n.toNat) :
      arg.value?.map UInt64.ofNat = some n := by
    rw [harg, Option.map_some, UInt64.ofNat_toNat]
  cases item with
  | null => rfl
  | bool b => cases b <;> rfl
  | float x => exact Head.read?_writeFloat x rest
  | unsigned n =>
    refine Head.read?_head (by decide) n.toNat_lt (fun arg harg => ?_) rest
    simp only [Head.make?, hword harg, Item.head, Option.map_some]
  | negative n =>
    refine Head.read?_head (by decide) n.toNat_lt (fun arg harg => ?_) rest
    simp only [Head.make?, hword harg, Item.head, Option.map_some]
  | text s | bytes b | array items | map entries =>
    rw [Item.write, List.append_assoc]
    exact Head.read?_head (by decide) h (fun arg harg => by simp only [Head.make?, harg, Item.head]) _
  | tag n item =>
    rw [Item.write, List.append_assoc]
    refine Head.read?_head (by decide) n.toNat_lt (fun arg harg => ?_) _
    simp only [Head.make?, hword harg, Item.head, Option.map_some]

end Cbor

end TokenOverlay
