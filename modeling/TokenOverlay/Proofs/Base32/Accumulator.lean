/-
Base-32 text written through a word. A writer shifts each byte into a word, takes the groups of five bits off
the top of what it holds and masks them away. Between two bytes it holds fewer than five bits, so nothing is
ever shifted out of the word, and what it writes are the groups of the padded bits, one symbol each.
-/
import Mathlib.Algebra.Group.Nat.Defs
import TokenOverlay.Proofs.Base32
import TokenOverlay.Proofs.Chain.Forms

namespace TokenOverlay.Base32

variable {a b m n : Nat} {x y : List Bool}

/-! ## Bits of numbers -/

/-- The low `n` bits of a number, highest first. -/
def lowBits : Nat → Nat → List Bool
  | 0, _ => []
  | n + 1, a => a.testBit n :: lowBits n a

/-- The number with the given bits, highest first. -/
def ofBits (x : List Bool) : Nat :=
  x.foldl (fun n b => 2 * n + b.toNat) 0

theorem length_lowBits (n a : Nat) : (lowBits n a).length = n := by
  induction n with
  | zero => rfl
  | succ n ih => rw [lowBits, List.length_cons, ih]

theorem bitsOfByte_eq (x : UInt8) : bitsOfByte x = lowBits 8 x.toNat := rfl

theorem lowBits_congr (h : ∀ i < n, a.testBit i = b.testBit i) : lowBits n a = lowBits n b := by
  induction n with
  | zero => rfl
  | succ n ih =>
    have hrest : ∀ i < n, a.testBit i = b.testBit i := fun i hi => h i (Nat.lt_succ_of_lt hi)
    rw [lowBits, lowBits, h n (Nat.lt_succ_self n), ih hrest]

theorem lowBits_mod (n a : Nat) : lowBits n (a % 2 ^ n) = lowBits n a := by
  apply lowBits_congr
  intro i hi
  rw [Nat.testBit_mod_two_pow, decide_eq_true hi, Bool.true_and]

theorem lowBits_append (m a : Nat) (hb : b < 2 ^ n) : lowBits (m + n) (2 ^ n * a + b) = lowBits m a ++ lowBits n b := by
  have hbit := Nat.testBit_two_pow_mul_add a hb
  induction m with
  | zero =>
    rw [Nat.zero_add]
    apply lowBits_congr
    intro i hi
    rw [hbit, if_pos hi]
  | succ m ih =>
    rw [Nat.succ_add, lowBits, lowBits, ih, List.cons_append, hbit, if_neg (by omega), Nat.add_sub_cancel]

theorem lowBits_zero (n : Nat) : lowBits n 0 = List.replicate n false := by
  induction n with
  | zero => rfl
  | succ n ih => rw [lowBits, ih, Nat.zero_testBit, List.replicate_succ]

/-! ## Groups -/

/-- The symbol of a number below thirty-two. -/
def digit (n : Nat) : Char :=
  alphabet.getD n '0'

/-- The bits of a byte string with the zero bits that fill up the last group. -/
def padded (b : Bytes) : List Bool :=
  bits b ++ List.replicate (padding (8 * b.length)) false

theorem symbol_testBit (v : Nat) :
    symbol (v.testBit 4) (v.testBit 3) (v.testBit 2) (v.testBit 1) (v.testBit 0) = digit (v % 32) := by
  unfold symbol digit
  simp only [Nat.toNat_testBit]
  congr 1
  omega

theorem digit_ofBits : ∀ a b c d e : Bool, alphabet[ofBits [a, b, c, d, e]]? = some (symbol a b c d e) := by decide

theorem symbols_five (v : Nat) (y : List Bool) : symbols (lowBits 5 v ++ y) = digit (v % 32) :: symbols y := by
  rw [← symbol_testBit]
  rfl

theorem group_digit : ∀ v < 32, group (digit v) = lowBits 5 v := by decide

/-- The highest five of the low bits of a number make a group. -/
theorem lowBits_add_five (n a : Nat) : lowBits (n + 5) a = group (digit (a / 2 ^ n % 32)) ++ lowBits n a := by
  have happend := lowBits_append 5 (a / 2 ^ n) (Nat.mod_lt a (Nat.two_pow_pos n))
  have hfive : lowBits 5 (a / 2 ^ n % 32) = lowBits 5 (a / 2 ^ n) := lowBits_mod 5 _
  rw [Nat.div_add_mod, lowBits_mod, Nat.add_comm] at happend
  rw [happend, group_digit _ (Nat.mod_lt _ (by decide)), hfive]

/-- Symbols are written for their groups, whatever follows. -/
theorem symbols_groups {out : List Char} (h : ∀ c ∈ out, ∃ v < 32, c = digit v) (y : List Bool) :
    symbols (out.flatMap group ++ y) = out ++ symbols y := by
  induction out with
  | nil => rfl
  | cons c out ih =>
    obtain ⟨⟨v, hv, rfl⟩, hrest⟩ := List.forall_mem_cons.1 h
    rw [List.flatMap_cons, List.append_assoc, group_digit v hv, symbols_five, Nat.mod_eq_of_lt hv, ih hrest,
      List.cons_append]

/-- Zero bits that only fill up the last group change nothing. -/
theorem symbols_padded (x : List Bool) : symbols (x ++ List.replicate (padding x.length) false) = symbols x := by
  fun_induction symbols x with
  | case1 a b c d e rest ih =>
    have hlength : (a :: b :: c :: d :: e :: rest).length = rest.length + 5 := rfl
    rw [hlength, padding_add_five, ← ih]
    rfl
  | _ => rfl

/-- A last group that is too short is filled with zero bits on the right. -/
theorem symbols_lowBits (hpos : 0 < n) (hlt : n < 5) (a : Nat) :
    symbols (lowBits n a) = [digit (2 ^ (5 - n) * a % 32)] := by
  have hpadding : padding (lowBits n a).length = 5 - n := by
    rw [length_lowBits, padding]
    omega
  have hbits : lowBits n a ++ List.replicate (5 - n) false = lowBits 5 (2 ^ (5 - n) * a) := by
    have happend := lowBits_append n a (Nat.two_pow_pos (5 - n))
    rw [lowBits_zero, Nat.add_sub_cancel' (Nat.le_of_lt hlt)] at happend
    exact happend.symm
  have hsymbols := symbols_five (2 ^ (5 - n) * a) []
  rw [List.append_nil, ← hbits, ← hpadding, symbols_padded, hpadding] at hsymbols
  rw [hsymbols, symbols]

theorem length_padding (n : Nat) : 5 ∣ n + padding n ∧ padding n < 5 := by
  unfold padding
  omega

/-- Each symbol is that of the group of five bits at its place. -/
theorem symbols_getElem? (h : 5 ∣ x.length) {k : Nat} (hk : 5 * k < x.length) :
    (symbols x)[k]? = alphabet[ofBits ((x.drop (5 * k)).take 5)]? := by
  fun_induction symbols x generalizing k with
  | case1 a b c d e rest ih =>
    simp only [List.length_cons] at h hk
    cases k with
    | zero => exact (digit_ofBits a b c d e).symm
    | succ k =>
      rw [List.getElem?_cons_succ, ih (by omega) (by omega)]
      rfl
  | _ => simp only [List.length_cons, List.length_nil] at h hk; omega

theorem bits_getElem? {b : Bytes} {i j : Nat} (hi : i < b.length) (hj : j < 8) :
    (bits b)[8 * i + j]? = some (b[i].toNat.testBit (7 - j)) := by
  induction b generalizing i with
  | nil => cases hi
  | cons x b ih =>
    have hbits : bits (x :: b) = bitsOfByte x ++ bits b := rfl
    have hlength : (bitsOfByte x).length = 8 := rfl
    rw [hbits]
    cases i with
    | zero =>
      have hplace : ∀ j < 8, [7, 6, 5, 4, 3, 2, 1, 0][j]? = some (7 - j) := by decide
      rw [List.getElem?_append_left (by omega), Nat.mul_zero, Nat.zero_add]
      unfold bitsOfByte
      rw [List.getElem?_map, hplace j hj]
      rfl
    | succ i =>
      rw [List.getElem?_append_right (by omega), hlength, show 8 * (i + 1) + j - 8 = 8 * i + j by omega]
      exact ih (Nat.lt_of_succ_lt_succ hi)

/-! ## The writer -/

/-- A writer that takes bytes and gives symbols: the word that it shifts bytes into, how many bits of it wait for a
full group, and the symbols written so far. -/
structure Writer where
  word : UInt32
  count : UInt32
  out : List Char

namespace Writer

variable {w : Writer}

/-- Writes the symbols of the full groups, highest first. -/
def emit (w : Writer) : Writer :=
  if _h : 5 ≤ w.count then
    emit { w with
      count := w.count - 5
      out := w.out ++ [digit ((w.word >>> (w.count - 5)) &&& 0x1f).toNat] }
  else w
  termination_by w.count.toNat
  decreasing_by
    have := UInt32.toNat_sub_of_le _ _ _h
    have : (5 : UInt32).toNat ≤ w.count.toNat := UInt32.le_iff_toNat_le.1 _h
    have : (5 : UInt32).toNat = 5 := rfl
    omega

/-- The word with the bits of a byte behind those that it held. -/
def shifted (w : Writer) (x : UInt8) : UInt32 :=
  (w.word <<< 8) ||| x.toUInt32

/-- Takes a byte, writes the full groups and masks away what was written. -/
def take (w : Writer) (x : UInt8) : Writer :=
  let full := emit { w with word := w.shifted x, count := w.count + 8 }
  { full with word := full.word &&& ((1 <<< full.count) - 1) }

/-- The writer after the bytes. -/
def taken (b : Bytes) : Writer :=
  b.foldl take ⟨0, 0, []⟩

/-- All symbols, the last of which fills up what is left with zero bits. -/
def finish (w : Writer) : List Char :=
  if 0 < w.count then w.out ++ [digit ((w.word <<< (5 - w.count)) &&& 0x1f).toNat] else w.out

/-- The bits that wait for a full group. -/
def waiting (w : Writer) : List Bool :=
  lowBits w.count.toNat w.word.toNat

/-- A writer has written or still holds all of the bits. -/
structure Keeps (w : Writer) (x : List Bool) : Prop where
  kept : x = w.out.flatMap group ++ w.waiting
  written : ∀ c ∈ w.out, ∃ v < 32, c = digit v

/-- A writer between two bytes has no full group, and no bits in its word but those that wait. -/
structure Ready (w : Writer) (x : List Bool) : Prop extends Keeps w x where
  count_lt : w.count.toNat < 5
  word_lt : w.word.toNat < 2 ^ w.count.toNat

theorem toNat_and_mask (v : UInt32) : (v &&& 0x1f).toNat = v.toNat % 32 := by
  rw [UInt32.toNat_and]
  exact Nat.and_two_pow_sub_one_eq_mod v.toNat 5

theorem toNat_group (v n : UInt32) (h : n.toNat < 32) :
    ((v >>> n) &&& 0x1f).toNat = v.toNat / 2 ^ n.toNat % 32 := by
  rw [toNat_and_mask, UInt32.toNat_shiftRight, Nat.mod_eq_of_lt h, Nat.shiftRight_eq_div_pow]

theorem toNat_lastGroup (v n : UInt32) (h : n.toNat < 32) :
    ((v <<< n) &&& 0x1f).toNat = 2 ^ n.toNat * v.toNat % 32 := by
  rw [toNat_and_mask, UInt32.toNat_shiftLeft, Nat.mod_eq_of_lt h, Nat.shiftLeft_eq, Nat.mul_comm]
  exact Nat.mod_mod_of_dvd _ (by decide)

theorem emit_keeps (h : w.Keeps x) (hcount : w.count.toNat ≤ 32) :
    w.emit.Keeps x ∧ w.emit.word = w.word ∧ w.emit.count.toNat < 5 := by
  fun_induction emit w with
  | case1 w hfull ih =>
    have hfive : 5 ≤ w.count.toNat := UInt32.le_iff_toNat_le.1 hfull
    have hcount' : (w.count - 5).toNat = w.count.toNat - 5 := UInt32.toNat_sub_of_le _ _ hfull
    have hgroup := toNat_group w.word (w.count - 5) (by omega)
    rw [hcount'] at hgroup
    have hwaiting : w.waiting = group (digit (w.word.toNat / 2 ^ (w.count.toNat - 5) % 32)) ++
        lowBits (w.count.toNat - 5) w.word.toNat := by
      rw [← lowBits_add_five, Nat.sub_add_cancel hfive]
      rfl
    refine ih ⟨?_, ?_⟩ ?_
    · rw [h.kept, hwaiting, hgroup]
      simp only [waiting, hcount', List.flatMap_append, List.flatMap_singleton, List.append_assoc]
    · intro c hc
      rcases List.mem_append.1 hc with hc | hc
      · exact h.written c hc
      · exact ⟨_, Nat.mod_lt _ (by decide), by rw [List.mem_singleton.1 hc, hgroup]⟩
    · simp only [hcount']
      omega
  | case2 w hfull =>
    have hfive : ¬ 5 ≤ w.count.toNat := fun hle => hfull (UInt32.le_iff_toNat_le.2 hle)
    exact ⟨h, rfl, by omega⟩

/-- No bit is shifted out of the word: what it holds is the number of all bits that wait. -/
theorem toNat_shifted (h : w.Ready x) (b : UInt8) : (w.shifted b).toNat = 256 * w.word.toNat + b.toNat := by
  have hword : w.word.toNat < 32 :=
    Nat.lt_of_lt_of_le h.word_lt (Nat.pow_le_pow_right (by decide) (Nat.le_of_lt h.count_lt))
  have hbyte : b.toNat < 2 ^ 8 := b.toNat_lt
  have hshift : (w.word <<< 8).toNat = 2 ^ 8 * w.word.toNat := by
    rw [UInt32.toNat_shiftLeft, Nat.shiftLeft_eq, Nat.mul_comm]
    exact Nat.mod_eq_of_lt (by simp; omega)
  unfold shifted
  rw [UInt32.toNat_or, hshift, UInt8.toNat_toUInt32, ← Nat.two_pow_add_eq_or_of_lt hbyte]

theorem toNat_mask {c : UInt32} (v : UInt32) (h : c.toNat < 32) :
    (v &&& ((1 <<< c) - 1)).toNat = v.toNat % 2 ^ c.toNat := by
  have hone : (1 <<< c : UInt32).toNat = 2 ^ c.toNat := by
    have hsmall : 2 ^ c.toNat < 2 ^ 32 := Nat.pow_lt_pow_right (by decide) h
    rw [UInt32.toNat_shiftLeft, Nat.mod_eq_of_lt h, Nat.shiftLeft_eq, UInt32.toNat_one, Nat.one_mul,
      Nat.mod_eq_of_lt hsmall]
  have hle : (1 : UInt32) ≤ 1 <<< c := by
    rw [UInt32.le_iff_toNat_le, hone]
    exact Nat.one_le_two_pow
  rw [UInt32.toNat_and, UInt32.toNat_sub_of_le _ _ hle, hone]
  exact Nat.and_two_pow_sub_one_eq_mod v.toNat c.toNat

theorem take_ready (h : w.Ready x) (b : UInt8) : (w.take b).Ready (x ++ bitsOfByte b) := by
  have hcount : (w.count + 8).toNat = w.count.toNat + 8 := by
    have := h.count_lt
    rw [UInt32.toNat_add]
    exact Nat.mod_eq_of_lt (by simp; omega)
  have hbits : lowBits (w.count.toNat + 8) (w.shifted b).toNat = w.waiting ++ bitsOfByte b := by
    rw [toNat_shifted h, bitsOfByte_eq]
    exact lowBits_append w.count.toNat w.word.toNat b.toNat_lt
  have hfull : Keeps ⟨w.shifted b, w.count + 8, w.out⟩ (x ++ bitsOfByte b) := by
    refine ⟨?_, h.written⟩
    unfold waiting
    rw [hcount, hbits, ← List.append_assoc, ← h.kept]
  obtain ⟨hkeeps, hword, hlt⟩ := emit_keeps hfull (by have := h.count_lt; simp only [hcount]; omega)
  have hmask := toNat_mask (emit ⟨w.shifted b, w.count + 8, w.out⟩).word (Nat.lt_of_lt_of_le hlt (by decide))
  refine ⟨⟨?_, hkeeps.written⟩, hlt, ?_⟩
  · -- what is masked away has been written
    simp only [take, waiting, hmask, lowBits_mod]
    exact hkeeps.kept
  · simp only [take, hmask]
    exact Nat.mod_lt _ (Nat.two_pow_pos _)

theorem taken_ready (b : Bytes) : (taken b).Ready (bits b) := by
  have hrun : ∀ (b : Bytes) (w : Writer) (x : List Bool), w.Ready x → (b.foldl take w).Ready (x ++ bits b) := by
    intro b
    induction b with
    | nil =>
      intro w x h
      rwa [bits, List.flatMap_nil, List.append_nil]
    | cons c b ih =>
      intro w x h
      have hbits : x ++ bits (c :: b) = (x ++ bitsOfByte c) ++ bits b := (List.append_assoc _ _ _).symm
      rw [hbits]
      exact ih _ _ (take_ready h c)
  refine hrun b _ [] ⟨⟨rfl, List.forall_mem_nil _⟩, by decide, by decide⟩

/-- The last symbol is that of the waiting bits and the zero bits that fill up their group. -/
theorem finish_eq (h : w.Ready x) : w.finish = symbols x := by
  have hlt := h.count_lt
  rw [h.kept, symbols_groups h.written]
  unfold finish
  split
  · rename_i hpos
    have hpos : 0 < w.count.toNat := UInt32.lt_iff_toNat_lt.1 hpos
    have hfill : (5 - w.count).toNat = 5 - w.count.toNat :=
      UInt32.toNat_sub_of_le _ _ (UInt32.le_iff_toNat_le.2 (Nat.le_of_lt hlt))
    rw [toNat_lastGroup w.word (5 - w.count) (by omega), hfill, waiting, symbols_lowBits hpos hlt]
  · rename_i hzero
    have hzero : w.count.toNat = 0 := Nat.eq_zero_of_not_pos fun hpos => hzero (UInt32.lt_iff_toNat_lt.2 hpos)
    have hnone : w.waiting = [] := by rw [waiting, hzero, lowBits]
    rw [hnone, symbols, List.append_nil]

end Writer

/-- The symbols that the writer writes for a byte string. -/
def write (b : Bytes) : List Char :=
  (Writer.taken b).finish

/-- The base-32 text of a byte string: its bits with the highest bit of each byte first, filled up with zero bits to
full groups of five, and one symbol for each group. The writer gives this text, and all along it has written or still
holds every bit that it took. Byte strings are told apart by their texts, and outpoints by their references. -/
theorem encode_exact :
    (∀ b : Bytes,
      ((bits b).length = 8 * b.length ∧
        ∀ i (hi : i < b.length) j, j < 8 → (bits b)[8 * i + j]? = some (b[i].toNat.testBit (7 - j))) ∧
      (∃ k < 5, padded b = bits b ++ List.replicate k false) ∧
      (padded b).length = 5 * (encode b).length ∧
      (∀ k < (encode b).length, (encode b)[k]? = alphabet[ofBits (((padded b).drop (5 * k)).take 5)]?) ∧
      (encode b).length = (8 * b.length + 4) / 5 ∧
      write b = encode b ∧
      bits b = (Writer.taken b).out.flatMap group ++ (Writer.taken b).waiting ∧
      (Writer.taken b).waiting.length < 5 ∧
      ∀ x, ((Writer.taken b).shifted x).toNat = 256 * (Writer.taken b).word.toNat + x.toNat) ∧
    (∀ a b : Bytes, encode a = encode b → a = b) ∧
    ∀ o o' : Outpoint, o.reference = o'.reference → o.txid = o'.txid ∧ o.index = o'.index := by
  refine ⟨fun b => ?_, fun a b h => encode_inj h, fun o o' h => ?_⟩
  · have hlength : (padded b).length = 5 * (encode b).length := by
      rw [padded, List.length_append, length_bits, List.length_replicate, length_encode, padding]
      omega
    have hready := Writer.taken_ready b
    refine ⟨⟨length_bits b, fun i hi j hj => bits_getElem? hi hj⟩, ⟨_, (length_padding _).2, rfl⟩, hlength, ?_,
      length_encode b, Writer.finish_eq hready, hready.kept, ?_, Writer.toNat_shifted hready⟩
    · intro k hk
      have hsymbols : encode b = symbols (padded b) := by
        rw [padded, ← length_bits, symbols_padded]
        rfl
      rw [← symbols_getElem? ⟨_, hlength⟩ (by omega), hsymbols]
    · rw [Writer.waiting, length_lowBits]
      exact hready.count_lt
  · rw [Outpoint.reference_inj.1 h]
    exact ⟨rfl, rfl⟩

/-- A byte is two symbols, the second one of its last three bits and two zeros. Two references with one transaction
id and indexes of different lengths. -/
theorem encode_exact_short :
    write [0xff] = ['z', 'w'] ∧ (bits [0xff])[7]? = some ((0xff : UInt8).toNat.testBit 0) ∧
      (encode [0xff])[1]? = alphabet[ofBits [true, true, true, false, false]]? ∧
      encode [0xff] ≠ encode [0xfe] ∧
      (⟨.fill 5, 1⟩ : Outpoint).reference ≠ (⟨.fill 5, 11⟩ : Outpoint).reference := by
  obtain ⟨hexact, hbytes, hreference⟩ := encode_exact
  obtain ⟨⟨-, hbits⟩, -, -, hgroups, -, hwrite, -⟩ := hexact [0xff]
  refine ⟨?_, hbits 0 (by decide) 7 (by decide), hgroups 1 (by decide), fun h => ?_, fun h => ?_⟩
  · rw [hwrite]
    decide
  · exact absurd (hbytes _ _ h) (by decide)
  · exact absurd (hreference _ _ h).2 (by decide)

end TokenOverlay.Base32
