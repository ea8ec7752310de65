/-
The written forms of an outpoint. Binary form and compact text both read back as the outpoint, the
text as long as the index is within the bound, and every byte string of the right length is the binary
form of some outpoint; a reference is never read, but no two outpoints have the same one. Offsets count
bytes while a text is made of characters; a text whose first separator follows sixty-four bytes can be
cut on either side of it, whatever characters it has.
-/
import TokenOverlay.Proofs.Base32
import TokenOverlay.Proofs.Chain.Compact
import TokenOverlay.Proofs.Decimal

namespace TokenOverlay.Outpoint

variable {max : UInt32} {o : Outpoint}

/-! ## Binary form -/

theorem ofBytes_bytes (o : Outpoint) : ofBytes o.bytes = .ok o := by
  obtain ⟨txid, index⟩ := o
  have hlength : (txid.bytes ++ Bytes.ofNatLE 4 index.toNat).length = 36 := by
    rw [List.length_append, txid.length_bytes, Bytes.length_ofNatLE]
  have hindex : UInt32.ofNat (Bytes.toNatLE (Bytes.ofNatLE 4 index.toNat)) = index := by
    have hlt : index.toNat < Bytes.count 4 := index.toNat_lt
    rw [Bytes.toNatLE_ofNatLE, Nat.mod_eq_of_lt hlt, UInt32.ofNat_toNat]
  simp only [ofBytes, bytes, hlength, ne_eq, not_true_eq_false, if_false,
    List.take_left' txid.length_bytes, List.drop_left' txid.length_bytes, Digest.ofBytes?_bytes, hindex]

/-- Thirty-six bytes are the binary form of an outpoint. -/
theorem exists_ofBytes {b : Bytes} (h : b.length = 36) : ∃ o, ofBytes b = .ok o ∧ o.bytes = b := by
  have htake : (b.take 32).length = 32 := by rw [List.length_take, h]; rfl
  have hdrop : (b.drop 32).length = 4 := by rw [List.length_drop, h]
  refine ⟨⟨⟨b.take 32, htake⟩, UInt32.ofNat (Bytes.toNatLE (b.drop 32))⟩, ?_, ?_⟩
  · simp only [ofBytes, h, ne_eq, not_true_eq_false, if_false, Digest.ofBytes?, htake, dif_pos]
  · have hlt : Bytes.toNatLE (b.drop 32) < 2 ^ 32 := by
      have := Bytes.toNatLE_lt (b.drop 32)
      rwa [hdrop] at this
    have hindex : Bytes.ofNatLE 4 (Bytes.toNatLE (b.drop 32)) = b.drop 32 := by
      have := Bytes.ofNatLE_toNatLE (b.drop 32)
      rwa [hdrop] at this
    rw [bytes, UInt32.toNat_ofNat', Nat.mod_eq_of_lt hlt, hindex, List.take_append_drop]

theorem ofBytes_wrongLength {b : Bytes} (h : b.length ≠ 36) :
    ofBytes b = .error (.wrongLength b.length) := by
  rw [ofBytes, if_pos h]

theorem length_bytes (o : Outpoint) : o.bytes.length = 36 := by
  rw [bytes, List.length_append, o.txid.length_bytes, Bytes.length_ofNatLE]

theorem ofBytes_ok {b : Bytes} : ofBytes b = .ok o ↔ b = o.bytes := by
  constructor
  · intro h
    by_cases hlength : b.length = 36
    · obtain ⟨o', hread, rfl⟩ := exists_ofBytes hlength
      rw [hread] at h
      cases h
      rfl
    · rw [ofBytes_wrongLength hlength] at h
      cases h
  · rintro rfl
    exact ofBytes_bytes o

/-! ## Compact text -/

theorem toList_separated (a b : String) :
    (a ++ String.singleton separator ++ b).toList = a.toList ++ separator :: b.toList := by
  rw [String.toList_append, String.toList_append, String.toList_singleton, List.append_assoc, List.singleton_append]

theorem toList_compact (o : Outpoint) :
    o.compact.toList = o.txid.digits ++ separator :: (Decimal.text o.index.toNat).toList := by
  show (o.txid.text ++ String.singleton separator ++ Decimal.text o.index.toNat).toList = _
  rw [toList_separated, Digest.text, Hex.text, String.toList_ofList, Digest.digits]

theorem spelledBy_compact (o : Outpoint) : o.SpelledBy o.compact :=
  ⟨_, _, toList_compact o, Digest.ofDigits?_digits o.txid, Decimal.isNumber_text _, Decimal.value_text _⟩

/-- The compact text of an outpoint is taken by every bound that the index keeps and refused, for its
index, by every other. -/
theorem ofCompact_compact (max : UInt32) (o : Outpoint) :
    ofCompact max o.compact =
      if o.index ≤ max then .ok o else .error (.indexTooLarge o.index.toNat max.toNat) := by
  by_cases hle : o.index ≤ max
  · rw [if_pos hle]
    exact ofCompact_ok.2 ⟨spelledBy_compact o, hle⟩
  · have hlt : max.toNat < o.index.toNat := UInt32.lt_iff_toNat_lt.1 (UInt32.not_le.1 hle)
    have hword : ¬ UInt64.size ≤ o.index.toNat := by
      have := o.index.toNat_lt
      simp only [UInt64.size]
      omega
    rw [if_neg hle, ofCompact_of_hash (toList_compact o) (Digest.ofDigits?_digits o.txid), readIndex,
      Decimal.read?, Decimal.isNumber_text, Decimal.value_text]
    simp only [if_true, if_neg hword, if_pos hlt]
    rfl

/-! ## Byte offsets -/

/-- A text cut at a byte offset. It cannot be cut beyond its end, nor inside a character. -/
def cut? : List Char → Nat → Option (List Char × List Char)
  | cs, 0 => some ([], cs)
  | [], _ + 1 => none
  | c :: rest, n + 1 =>
    if c.utf8Size ≤ n + 1 then (cut? rest (n + 1 - c.utf8Size)).map fun r => (c :: r.1, r.2) else none

/-- The byte offset of the first separator. -/
def separatorOffset? : List Char → Option Nat
  | [] => none
  | c :: rest => if c = separator then some 0 else (separatorOffset? rest).map (c.utf8Size + ·)

/-- Reads a compact text by its byte offsets: the separator must be found at offset 64, and the text is
cut there and one byte further on. There is no result where it cannot be cut. -/
def ofCompactCut? (max : UInt32) (s : String) : Option (Except Error Outpoint) :=
  if separatorOffset? s.toList ≠ some 64 then some (.error .missingSeparator)
  else do
    let (hash, _) ← cut? s.toList 64
    let (_, index) ← cut? s.toList 65
    match Digest.ofText (String.ofList hash) with
    | .error _ => some (.error .badHash)
    | .ok txid => some ((readIndex max index).map (⟨txid, ·⟩))

theorem byteSize_cons (c : Char) (cs : List Char) : byteSize (c :: cs) = c.utf8Size + byteSize cs := rfl

theorem byteSize_append (a b : List Char) : byteSize (a ++ b) = byteSize a + byteSize b := by
  induction a with
  | nil => exact (Nat.zero_add _).symm
  | cons c rest ih => rw [List.cons_append, byteSize_cons, ih, byteSize_cons, Nat.add_assoc]

theorem cut?_eq_some {cs a b : List Char} {n : Nat} :
    cut? cs n = some (a, b) ↔ cs = a ++ b ∧ byteSize a = n := by
  fun_induction cut? cs n generalizing a with
  | case1 cs =>
    constructor
    · intro h
      cases h
      exact ⟨rfl, rfl⟩
    · rintro ⟨rfl, hsize⟩
      cases a with
      | nil => rfl
      | cons c rest =>
        have := c.utf8Size_pos
        rw [byteSize_cons] at hsize
        omega
  | case2 n =>
    constructor
    · nofun
    · rintro ⟨hnil, hsize⟩
      obtain ⟨rfl, rfl⟩ := List.nil_eq_append_iff.1 hnil
      cases hsize
  | case3 c rest n hle ih =>
    rw [Option.map_eq_some_iff]
    constructor
    · rintro ⟨⟨front, back⟩, hcut, heq⟩
      cases heq
      obtain ⟨rfl, hsize⟩ : rest = front ++ back ∧ byteSize front = n + 1 - c.utf8Size := ih.1 hcut
      refine ⟨rfl, ?_⟩
      show c.utf8Size + byteSize front = n + 1
      omega
    · rintro ⟨heq, hsize⟩
      cases a with
      | nil => cases hsize
      | cons d front =>
        obtain ⟨rfl, rfl⟩ := List.cons.inj heq
        rw [byteSize_cons] at hsize
        exact ⟨(front, b), ih.2 ⟨rfl, by omega⟩, rfl⟩
  | case4 c rest n hlt =>
    constructor
    · nofun
    · rintro ⟨heq, hsize⟩
      cases a with
      | nil => cases hsize
      | cons d front =>
        obtain ⟨rfl, -⟩ := List.cons.inj heq
        rw [byteSize_cons] at hsize
        omega

theorem separatorOffset?_unseparated {cs : List Char} (h : separator ∉ cs) : separatorOffset? cs = none := by
  induction cs with
  | nil => rfl
  | cons c rest ih =>
    rw [List.mem_cons, not_or] at h
    rw [separatorOffset?, if_neg (Ne.symm h.1), ih h.2]
    rfl

theorem separatorOffset?_separated {hash : List Char} (h : separator ∉ hash) (index : List Char) :
    separatorOffset? (hash ++ separator :: index) = some (byteSize hash) := by
  induction hash with
  | nil => exact if_pos rfl
  | cons c rest ih =>
    rw [List.mem_cons, not_or] at h
    rw [List.cons_append, separatorOffset?, if_neg (Ne.symm h.1), ih h.2]
    rfl

/-- Reading by byte offsets never fails to cut the text and gives what reading by characters gives. -/
theorem ofCompactCut?_eq (max : UInt32) (s : String) : ofCompactCut? max s = some (ofCompact max s) := by
  unfold ofCompactCut?
  by_cases hs : separator ∈ s.toList
  · obtain ⟨hash, index, hs, hseparator⟩ := List.eq_append_cons_of_mem hs
    rw [ofCompact_separated hs hseparator, hs, separatorOffset?_separated hseparator]
    by_cases hsize : byteSize hash = 64
    · have hfront : cut? (hash ++ separator :: index) 64 = some (hash, separator :: index) :=
        cut?_eq_some.2 ⟨rfl, hsize⟩
      -- the separator takes one byte
      have hback : cut? (hash ++ separator :: index) 65 = some (hash ++ [separator], index) :=
        cut?_eq_some.2 ⟨by rw [List.append_assoc]; rfl, by rw [byteSize_append, hsize]; rfl⟩
      simp only [hsize, ne_eq, not_true_eq_false, if_false, hfront, hback, bind, Option.bind]
      cases htext : Digest.ofText (String.ofList hash) with
      | error e =>
        have hnone : Digest.ofDigits? hash = none := by
          refine Option.eq_none_iff_forall_ne_some.2 fun d hd => ?_
          rw [← String.toList_ofList (l := hash), ← Digest.ofText_ok, htext] at hd
          cases hd
        simp only [hnone]
      | ok txid =>
        have hsome := Digest.ofText_ok.1 htext
        rw [String.toList_ofList] at hsome
        simp only [hsome]
    · rw [if_pos hsize, if_pos fun h => hsize (Option.some.inj h)]
  · rw [separatorOffset?_unseparated hs, ofCompact_unseparated hs]
    rfl

/-! ## Reference -/

theorem toList_reference (o : Outpoint) :
    o.reference.toList = Base32.encode o.txid.reversedBytes ++ separator :: (Decimal.text o.index.toNat).toList := by
  show (Base32.text o.txid.reversedBytes ++ String.singleton separator ++ Decimal.text o.index.toNat).toList = _
  rw [toList_separated, Base32.text, String.toList_ofList]

/-- A reference stands for one outpoint only. -/
theorem reference_inj {a b : Outpoint} : a.reference = b.reference ↔ a = b := by
  refine ⟨fun h => ?_, congrArg reference⟩
  have htext := congrArg String.toList h
  rw [toList_reference, toList_reference] at htext
  -- the digits of every transaction id are of one length
  have hlength : (Base32.encode a.txid.reversedBytes).length = (Base32.encode b.txid.reversedBytes).length := by
    rw [Base32.length_encode, Base32.length_encode, a.txid.length_reversedBytes, b.txid.length_reversedBytes]
  obtain ⟨hdigits, hnumber⟩ := List.append_inj htext hlength
  have htxid : a.txid = b.txid := Digest.ext (List.reverse_inj.1 (Base32.encode_inj hdigits))
  have hindex := congrArg Decimal.value (List.cons.inj hnumber).2
  rw [Decimal.value_text, Decimal.value_text, UInt32.toNat_inj] at hindex
  exact congrArg₂ Outpoint.mk htxid hindex

/-! ## All forms -/

/-- The written forms of an outpoint read back. A byte string is a binary form exactly if it has
thirty-six bytes, and then it is the binary form of what it reads as; the binary form and, if the index
is within the bound, the compact text of an outpoint read as that outpoint. No text is cut beyond its
end or inside a character when it is read. -/
theorem forms_read_back (max : UInt32) :
    (∀ b : Bytes, b.length = 36 → ∃ o, ofBytes b = .ok o ∧ o.bytes = b) ∧
    (∀ o : Outpoint, ofBytes o.bytes = .ok o) ∧
    (∀ o : Outpoint, o.index ≤ max → ofCompact max o.compact = .ok o) ∧
    (∀ o : Outpoint, ¬ o.index ≤ max →
      ofCompact max o.compact = .error (.indexTooLarge o.index.toNat max.toNat)) ∧
    (∀ b : Bytes, b.length ≠ 36 → ofBytes b = .error (.wrongLength b.length)) ∧
    ∀ s : String, ofCompactCut? max s = some (ofCompact max s) := by
  refine ⟨fun b => exists_ofBytes, ofBytes_bytes, fun o hle => ?_, fun o hgt => ?_,
    fun b => ofBytes_wrongLength, ofCompactCut?_eq max⟩
  · rw [ofCompact_compact, if_pos hle]
  · rw [ofCompact_compact, if_neg hgt]

/-- The outpoint with the largest index, under the bound it keeps and under the default one, which it
does not; bytes of no outpoint; and a text in which a character of two bytes stands over offset 64. -/
theorem forms_read_back_largest :
    let o : Outpoint := ⟨.fill 0xab, 0xffffffff⟩
    let b : Bytes := List.replicate 36 0xff
    let s : String := String.ofList (List.replicate 63 'a' ++ ['é', 'i', '0'])
    (b.length = 36 ∧ ∃ p, ofBytes b = .ok p ∧ p.bytes = b) ∧
      (o.index ≤ 0xffffffff ∧ ofCompact 0xffffffff o.compact = .ok o) ∧
      (¬ o.index ≤ defaultMaxIndex ∧
        ofCompact defaultMaxIndex o.compact = .error (.indexTooLarge 4294967295 100000)) ∧
      ((b.drop 1).length ≠ 36 ∧ ofBytes (b.drop 1) = .error (.wrongLength 35)) ∧
      ofCompactCut? defaultMaxIndex s = some (.error .missingSeparator) := by
  intro o b s
  have hlength : b.length = 36 := by decide
  have hshort : (b.drop 1).length ≠ 36 := by decide
  have hkept : o.index ≤ 0xffffffff := by decide
  have hover : ¬ o.index ≤ defaultMaxIndex := by decide
  have hmissing : ofCompact defaultMaxIndex s = .error .missingSeparator := by decide +kernel
  obtain ⟨hbytes, -, -, hlarge, hwrong, hcut⟩ := forms_read_back defaultMaxIndex
  obtain ⟨-, -, hcompact, -⟩ := forms_read_back 0xffffffff
  exact ⟨⟨hlength, hbytes b hlength⟩, ⟨hkept, hcompact o hkept⟩, ⟨hover, hlarge o hover⟩,
    ⟨hshort, hwrong _ hshort⟩, (hcut s).trans (congrArg some hmissing)⟩

end TokenOverlay.Outpoint
