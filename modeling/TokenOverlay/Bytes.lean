/-
Byte strings and the fixed-width numbers written in them. `ofNatLE` and `toNatLE` undo each other
below `count w`; the big-endian forms are their reversals.
-/
namespace TokenOverlay

/-- A byte string. -/
abbrev Bytes := List UInt8

namespace Bytes

/-- How many byte strings of `w` bytes there are. -/
def count : Nat → Nat
  | 0 => 1
  | w + 1 => 256 * count w

/-- The `w` bytes of `n`, least significant first; higher bits are dropped. -/
def ofNatLE : Nat → Nat → Bytes
  | 0, _ => []
  | w + 1, n => UInt8.ofNat (n % 256) :: ofNatLE w (n / 256)

/-- The number with the given bytes, least significant first. -/
def toNatLE : Bytes → Nat
  | [] => 0
  | b :: bs => b.toNat + 256 * toNatLE bs

/-- The `w` bytes of `n`, most significant first. -/
def ofNatBE (w n : Nat) : Bytes :=
  (ofNatLE w n).reverse

/-- The number with the given bytes, most significant first. -/
def toNatBE (b : Bytes) : Nat :=
  toNatLE b.reverse

/-- Cuts a byte string into pieces of `n` bytes, the last of which may be shorter. -/
def chunks (n : Nat) (b : Bytes) : List Bytes :=
  if _h : 0 < n ∧ b ≠ [] then b.take n :: chunks n (b.drop n) else []
  termination_by b.length
  decreasing_by
    have := List.length_pos_iff.2 _h.2
    simp; omega

/-- The bytes of a text in UTF-8. -/
def ofText (s : String) : Bytes :=
  s.toUTF8.data.toList

/-- The text with the given bytes in UTF-8, if there is one. -/
def toText? (b : Bytes) : Option String :=
  String.fromUTF8? ⟨b.toArray⟩

@[simp] theorem length_ofNatLE (w n : Nat) : (ofNatLE w n).length = w := by
  induction w generalizing n with
  | zero => rfl
  | succ w ih => simp [ofNatLE, ih]

@[simp] theorem length_ofNatBE (w n : Nat) : (ofNatBE w n).length = w := by
  simp [ofNatBE]

/-- Reading what was written gives the number back, modulo the width. -/
theorem toNatLE_ofNatLE (w n : Nat) : toNatLE (ofNatLE w n) = n % count w := by
  induction w generalizing n with
  | zero => simp [ofNatLE, toNatLE, count, Nat.mod_one]
  | succ w ih => simp [ofNatLE, toNatLE, count, ih, Nat.mod_mul]

theorem toNatLE_lt (b : Bytes) : toNatLE b < count b.length := by
  induction b with
  | nil => simp [toNatLE, count]
  | cons x bs ih =>
    have hx : x.toNat < 256 := x.toNat_lt
    simp only [toNatLE, List.length_cons, count]
    omega

/-- Writing what was read gives the bytes back. -/
theorem ofNatLE_toNatLE (b : Bytes) : ofNatLE b.length (toNatLE b) = b := by
  induction b with
  | nil => rfl
  | cons x bs ih =>
    have hx : x.toNat < 256 := x.toNat_lt
    have h1 : (x.toNat + 256 * toNatLE bs) % 256 = x.toNat := by omega
    have h2 : (x.toNat + 256 * toNatLE bs) / 256 = toNatLE bs := by omega
    simp [ofNatLE, toNatLE, h1, h2, ih]

theorem toNatBE_ofNatBE (w n : Nat) : toNatBE (ofNatBE w n) = n % count w := by
  simp [toNatBE, ofNatBE, toNatLE_ofNatLE]

/-- The pieces make up the byte string again. -/
theorem flatten_chunks {n : Nat} (hn : 0 < n) (b : Bytes) : (chunks n b).flatten = b := by
  fun_induction chunks n b with
  | case1 b h ih => rw [List.flatten_cons, ih, List.take_append_drop]
  | case2 b h =>
    have hb : b = [] := Decidable.not_not.1 fun hne => h ⟨hn, hne⟩
    rw [hb, List.flatten_nil]

theorem length_le_of_mem_chunks {n : Nat} {b : Bytes} : ∀ piece ∈ chunks n b, piece.length ≤ n := by
  fun_induction chunks n b with
  | case1 b h ih =>
    refine List.forall_mem_cons.2 ⟨?_, ih⟩
    rw [List.length_take]
    omega
  | case2 b h => exact List.forall_mem_nil _

end Bytes

end TokenOverlay
