/-
Reading the records of spent tokens. The records are read in order, so that reading them fails at the first
one that is too short; if none is, every record yields its token and value in the place that it has.
-/
import TokenOverlay.Proofs.Except
import TokenOverlay.Proofs.Related
import TokenOverlay.Spent

namespace TokenOverlay

open List (Forall₂)

/-! ## Tables -/

namespace ByInput

variable {ε α β : Type} {f : α → Except ε β} {e : ε} {t : ByInput α} {rows : List (Nat × List α)}

/-- Rows fail as the entries in them do, one row after the other. -/
theorem mapRows_error_iff : mapRows f rows = .error e ↔ FailsFirst f (rows.flatMap Prod.snd) e := by
  induction rows with
  | nil => exact iff_of_false (fun h => by cases h) not_failsFirst_nil
  | cons row rest ih =>
    have hentries : (∀ x ∈ row.2, ∃ b, f x = .ok b) ↔ ∃ bs, row.2.mapM f = .ok bs := by
      simp only [mapM_ok_iff]
      exact exists_forall₂_iff.symm
    rw [List.flatMap_cons, failsFirst_append, ← ih, ← mapM_error_iff, hentries, mapRows]
    cases row.2.mapM f with
    | error e' => simp
    | ok bs => simp [map_error_iff]

/-- Every row keeps its input, and its entries their places. -/
theorem mapRows_ok {out : List (Nat × List β)} (h : mapRows f rows = .ok out) :
    Forall₂ (fun row new => row.1 = new.1 ∧ Forall₂ (fun x y => f x = .ok y) row.2 new.2) rows out := by
  induction rows generalizing out with
  | nil =>
    cases h
    exact .nil
  | cons row rest ih =>
    rw [mapRows] at h
    split at h
    · cases h
    · rename_i ys hys
      obtain ⟨tail, htail, rfl⟩ := map_ok_iff.1 h
      exact .cons ⟨rfl, mapM_ok_iff.1 hys⟩ (ih htail)

theorem mapM_error_iff_rows : t.mapM f = .error e ↔ mapRows f t.rows = .error e := by
  unfold ByInput.mapM
  split
  · rename_i e' h
    simp [h]
  · rename_i out h
    simp [h]

theorem mapM_ok_rows {out : ByInput β} (h : t.mapM f = .ok out) : mapRows f t.rows = .ok out.rows := by
  unfold ByInput.mapM at h
  split at h
  · cases h
  · rename_i rows hrows
    cases h
    exact hrows

end ByInput

/-! ## Records -/

namespace SpentRecord

variable {offset : UInt64} {r : SpentRecord} {s : SpentToken} {records : ByInput SpentRecord} {e : TooShort}

/-- A record ends before the value at the offset does. -/
def IsShort (offset : UInt64) (r : SpentRecord) : Prop :=
  r.data.length < offset.toNat + 8

/-- A spent token is as its record has it: the value stands at the offset, least significant byte first. -/
structure Holds (offset : UInt64) (r : SpentRecord) (s : SpentToken) : Prop where
  token : s.token = r.token
  value : ∃ before after,
    r.data = before ++ Bytes.ofNatLE 8 s.value.toNat ++ after ∧ before.length = offset.toNat

theorem read_error_iff : r.read offset = .error e ↔ r.IsShort offset ∧ e = ⟨r.data.length, offset.toNat⟩ := by
  unfold read IsShort
  split
  · rename_i hlong
    simp [Nat.not_lt.2 hlong]
  · rename_i hshort
    simp [Nat.not_le.1 hshort, eq_comm]

theorem exists_read_iff : (∃ s, r.read offset = .ok s) ↔ ¬ r.IsShort offset := by
  unfold read IsShort
  split
  · rename_i hlong
    simp [hlong]
  · rename_i hshort
    simp [Nat.not_le.1 hshort]

theorem holds_of_read (h : r.read offset = .ok s) : r.Holds offset s := by
  unfold read at h
  split at h
  · rename_i hlong
    cases h
    -- eight bytes make a word, and the word is written as these bytes
    have hlength : ((r.data.drop offset.toNat).take 8).length = 8 := by
      rw [List.length_take, List.length_drop]
      omega
    have hvalue := Bytes.ofNatLE_toNatLE ((r.data.drop offset.toNat).take 8)
    have hword : Bytes.toNatLE ((r.data.drop offset.toNat).take 8) < UInt64.size := by
      have := Bytes.toNatLE_lt ((r.data.drop offset.toNat).take 8)
      rwa [hlength] at this
    rw [hlength] at hvalue
    refine ⟨rfl, r.data.take offset.toNat, (r.data.drop offset.toNat).drop 8, ?_, ?_⟩
    · rw [UInt64.toNat_ofNat_of_lt' hword, hvalue, List.append_assoc, List.take_append_drop,
        List.take_append_drop]
    · exact List.length_take_of_le (by omega)
  · cases h

/-- Reading fails exactly if a record is too short, and says which one was the first. -/
theorem readAll_error_iff : readAll offset records = .error e ↔
    ∃ before r after, records.entries = before ++ r :: after ∧ (∀ x ∈ before, ¬ x.IsShort offset) ∧
      r.IsShort offset ∧ e = ⟨r.data.length, offset.toNat⟩ := by
  rw [readAll, ByInput.mapM_error_iff_rows, ByInput.mapRows_error_iff, ← ByInput.entries]
  simp only [FailsFirst, read_error_iff, exists_read_iff]

theorem exists_readAll_error :
    (∃ e, readAll offset records = .error e) ↔ ∃ r ∈ records.entries, r.IsShort offset := by
  simp only [readAll, ByInput.mapM_error_iff_rows, ByInput.mapRows_error_iff, exists_failsFirst, read_error_iff]
  simp [ByInput.entries]

/-- What was read keeps its input and its place. -/
theorem readAll_ok {spent : ByInput SpentToken} (h : readAll offset records = .ok spent) :
    Forall₂ (fun row new => row.1 = new.1 ∧ Forall₂ (Holds offset) row.2 new.2) records.rows spent.rows :=
  (ByInput.mapRows_ok (ByInput.mapM_ok_rows h)).imp fun _ _ hrow =>
    ⟨hrow.1, hrow.2.imp fun _ _ => holds_of_read⟩

end SpentRecord

end TokenOverlay
