/-
Base-32 text, read back. The groups of five bits that the symbols stand for make up the bits of the byte string
again, with fewer than five zero bits behind them. So no two byte strings have the same text.
-/
import TokenOverlay.Text.Base32

namespace TokenOverlay.Base32

variable {a b : Bytes} {x y : List Bool}

/-! ## Symbols -/

/-- The five bits of a symbol, highest first. -/
def group (c : Char) : List Bool :=
  [4, 3, 2, 1, 0].map fun i => (alphabet.idxOf c).testBit i

theorem group_symbol : ∀ a b c d e : Bool, group (symbol a b c d e) = [a, b, c, d, e] := by decide

/-- How many zero bits fill up the last group. -/
def padding (n : Nat) : Nat :=
  (5 - n % 5) % 5

theorem padding_add_five (n : Nat) : padding (n + 5) = padding n := by
  rw [padding, Nat.add_mod_right]
  rfl

/-- The groups of the symbols are the bits that were written and the zero bits behind them. -/
theorem flatMap_group_symbols (x : List Bool) :
    (symbols x).flatMap group = x ++ List.replicate (padding x.length) false := by
  fun_induction symbols x with
  | case1 a b c d e rest ih =>
    have hlength : (a :: b :: c :: d :: e :: rest).length = rest.length + 5 := rfl
    rw [List.flatMap_cons, group_symbol, ih, hlength, padding_add_five]
    rfl
  | case6 => rfl
  | _ => rw [List.flatMap_singleton, group_symbol]; rfl

theorem length_symbols (x : List Bool) : (symbols x).length = (x.length + 4) / 5 := by
  fun_induction symbols x with
  | case1 a b c d e rest ih =>
    simp only [List.length_cons, ih]
    omega
  | _ => simp only [List.length_cons, List.length_nil, Nat.reduceAdd, Nat.reduceDiv]

theorem symbols_inj (hlength : x.length = y.length) (h : symbols x = symbols y) : x = y := by
  have hbits := congrArg (List.flatMap group) h
  rw [flatMap_group_symbols, flatMap_group_symbols, hlength] at hbits
  exact List.append_cancel_right hbits

/-! ## Bytes -/

theorem bitsOfByte_inj {b b' : UInt8} (h : bitsOfByte b = bitsOfByte b') : b = b' := by
  have hbit := List.map_inj_left.1 h
  refine UInt8.toNat_inj.1 (Nat.eq_of_testBit_eq fun i => ?_)
  rcases Nat.lt_or_ge i 8 with hi | hi
  · refine hbit i ?_
    simp only [List.mem_cons]
    omega
  · -- a byte has no bit above the seventh
    have hfar (x : UInt8) : x.toNat.testBit i = false :=
      Nat.testBit_lt_two_pow (Nat.lt_of_lt_of_le x.toNat_lt (Nat.pow_le_pow_right (by omega) hi))
    rw [hfar b, hfar b']

theorem length_bits (b : Bytes) : (bits b).length = 8 * b.length := by
  induction b with
  | nil => rfl
  | cons x b ih =>
    rw [bits, List.flatMap_cons, List.length_append, ← bits, ih, List.length_cons, Nat.mul_succ, Nat.add_comm]
    rfl

theorem bits_inj : ∀ {a b : Bytes}, bits a = bits b → a = b
  | [], [], _ => rfl
  | [], _ :: _, h => by cases h
  | _ :: _, [], h => by cases h
  | x :: a, y :: b, h => by
    rw [bits, bits, List.flatMap_cons, List.flatMap_cons] at h
    obtain ⟨hbyte, hrest⟩ := List.append_inj h rfl
    rw [bitsOfByte_inj hbyte, bits_inj hrest]

theorem length_encode (b : Bytes) : (encode b).length = (8 * b.length + 4) / 5 := by
  rw [encode, length_symbols, length_bits]

/-- The text of a byte string determines it. -/
theorem encode_inj (h : encode a = encode b) : a = b := by
  -- with every byte there is another symbol, so that the texts tell the lengths
  have hlength := congrArg List.length h
  rw [length_encode, length_encode] at hlength
  refine bits_inj (symbols_inj ?_ h)
  rw [length_bits, length_bits]
  omega

end TokenOverlay.Base32
