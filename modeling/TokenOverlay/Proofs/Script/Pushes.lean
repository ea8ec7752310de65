/-
Scripts as they are written. A push reads back as the data that was pushed, in whatever encoding can
hold it and whatever follows, and so does a script that is put together from pushes and opcodes: what
its bytes spell is never taken for an instruction.
-/
import TokenOverlay.Script.Builder

namespace TokenOverlay.Script

variable {data rest : Bytes} {opcode : UInt8}

/-! ## One instruction -/

theorem read_nil : read [] = ⟨[], none⟩ := by
  rw [read]

theorem read_cons {instruction : Instruction} {tail : Bytes} (h : next opcode rest = .ok (instruction, tail)) :
    read (opcode :: rest) = ⟨instruction :: (read tail).instructions, (read tail).error⟩ := by
  rw [read]
  split
  · rename_i e he
    rw [h] at he
    cases he
  · rename_i r hr
    rw [h] at hr
    cases hr
    rfl

theorem takeData_append (data tail : Bytes) : takeData data.length (data ++ tail) = .ok (.push data, tail) := by
  have hlength : ¬ (data ++ tail).length < data.length := by
    rw [List.length_append]
    omega
  rw [takeData, if_neg hlength, List.take_left' rfl, List.drop_left' rfl]

theorem takeSized_field {n w : Nat} (h : n < Bytes.count w) (rest : Bytes) :
    takeSized w (Bytes.ofNatLE w n ++ rest) = takeData n rest := by
  have hw : (Bytes.ofNatLE w n).length = w := Bytes.length_ofNatLE w n
  have hlength : ¬ (Bytes.ofNatLE w n ++ rest).length < w := by
    rw [List.length_append]
    omega
  rw [takeSized, if_neg hlength, List.take_left' hw, List.drop_left' hw, Bytes.toNatLE_ofNatLE, Nat.mod_eq_of_lt h]

theorem takeSized_append {w : Nat} (h : data.length < Bytes.count w) (tail : Bytes) :
    takeSized w (Bytes.ofNatLE w data.length ++ (data ++ tail)) = .ok (.push data, tail) :=
  (takeSized_field h _).trans (takeData_append data tail)

/-- Opcodes below those of sized pushes push as many bytes as they say. -/
theorem next_of_le (h : opcode.toNat ≤ PushForm.direct.capacity) (rest : Bytes) :
    next opcode rest = takeData opcode.toNat rest := by
  have h : opcode.toNat ≤ 75 := h
  -- the opcodes of sized pushes begin at 76
  have hne : ∀ code : UInt8, 75 < code.toNat → opcode ≠ code := by
    rintro code hlt rfl
    omega
  have hle : opcode ≤ maxDirectPush := UInt8.le_iff_toNat_le.2 h
  rw [next, if_neg (hne opPush1 (by decide)), if_neg (hne opPush2 (by decide)),
    if_neg (hne opPush4 (by decide)), if_pos hle]

/-- Opcodes above those of pushes stand alone. -/
theorem next_op (h : opPush4 < opcode) (rest : Bytes) : next opcode rest = .ok (.op opcode, rest) := by
  have h : 78 < opcode.toNat := h
  have hne : ∀ code : UInt8, code.toNat ≤ 78 → opcode ≠ code := by
    rintro code hle rfl
    omega
  have hgt : ¬ opcode ≤ maxDirectPush := by
    rw [UInt8.le_iff_toNat_le]
    have : maxDirectPush.toNat = 75 := rfl
    omega
  rw [next, if_neg (hne opPush1 (by decide)), if_neg (hne opPush2 (by decide)),
    if_neg (hne opPush4 (by decide)), if_neg hgt]

theorem next_direct (h : data.length ≤ PushForm.direct.capacity) (tail : Bytes) :
    next (UInt8.ofNat data.length) (data ++ tail) = .ok (.push data, tail) := by
  have hcode : (UInt8.ofNat data.length).toNat = data.length := by
    have h : data.length ≤ 75 := h
    rw [UInt8.toNat_ofNat']
    omega
  have hle : (UInt8.ofNat data.length).toNat ≤ PushForm.direct.capacity := by
    rw [hcode]
    exact h
  rw [next_of_le hle, hcode, takeData_append]

theorem next_opPush1 (rest : Bytes) : next opPush1 rest = takeSized 1 rest := by
  rw [next, if_pos rfl]

theorem next_opPush2 (rest : Bytes) : next opPush2 rest = takeSized 2 rest := by
  rw [next, if_neg (by decide), if_pos rfl]

theorem next_opPush4 (rest : Bytes) : next opPush4 rest = takeSized 4 rest := by
  rw [next, if_neg (by decide), if_neg (by decide), if_pos rfl]

theorem read_push (form : PushForm) (h : data.length ≤ form.capacity) (tail : Bytes) :
    read (form.encode data ++ tail) = ⟨.push data :: (read tail).instructions, (read tail).error⟩ := by
  rw [PushForm.encode, List.append_assoc]
  cases form with
  | direct => exact read_cons (next_direct h tail)
  | sized1 =>
    have hlt : data.length < Bytes.count 1 := Nat.lt_of_le_of_lt h (by decide)
    exact read_cons ((next_opPush1 _).trans (takeSized_append hlt tail))
  | sized2 =>
    have hlt : data.length < Bytes.count 2 := Nat.lt_of_le_of_lt h (by decide)
    exact read_cons ((next_opPush2 _).trans (takeSized_append hlt tail))
  | sized4 =>
    have hlt : data.length < Bytes.count 4 := Nat.lt_of_le_of_lt h (by decide)
    exact read_cons ((next_opPush4 _).trans (takeSized_append hlt tail))

theorem read_op (h : opPush4 < opcode) (tail : Bytes) :
    read (opcode :: tail) = ⟨.op opcode :: (read tail).instructions, (read tail).error⟩ :=
  read_cons (next_op h tail)

/-! ## Several instructions -/

/-- A byte string reads as the instructions, whatever follows it. -/
def Yields (script : Bytes) (instructions : List Instruction) : Prop :=
  ∀ tail, read (script ++ tail) = ⟨instructions ++ (read tail).instructions, (read tail).error⟩

namespace Yields

variable {script script' : Bytes} {instructions instructions' : List Instruction}

theorem nil : Yields [] [] :=
  fun _ => rfl

theorem push (form : PushForm) (h : data.length ≤ form.capacity) : Yields (form.encode data) [.push data] :=
  read_push form h

theorem op (h : opPush4 < opcode) : Yields [opcode] [.op opcode] :=
  read_op h

theorem append (h : Yields script instructions) (h' : Yields script' instructions') :
    Yields (script ++ script') (instructions ++ instructions') := by
  intro tail
  rw [List.append_assoc, h, h', List.append_assoc]

theorem flatMap {f : Bytes → Bytes} {g : Bytes → Instruction} {pieces : List Bytes}
    (h : ∀ piece ∈ pieces, Yields (f piece) [g piece]) : Yields (pieces.flatMap f) (pieces.map g) := by
  induction pieces with
  | nil => exact nil
  | cons piece rest ih =>
    obtain ⟨hpiece, hrest⟩ := List.forall_mem_cons.1 h
    rw [List.flatMap_cons, List.map_cons]
    exact hpiece.append (ih hrest)

theorem read_eq (h : Yields script instructions) : read script = ⟨instructions, none⟩ := by
  have := h []
  rwa [read_nil, List.append_nil, List.append_nil] at this

end Yields

/-! ## Building -/

/-- The push of an element in the shortest encoding. -/
def shortestPush (data : Bytes) : Bytes :=
  (PushForm.shortest data.length).encode data

theorem shortestPush_direct (h : data.length ≤ 75) : shortestPush data = UInt8.ofNat data.length :: data := by
  have h : data.length ≤ PushForm.direct.capacity := h
  rw [shortestPush, PushForm.shortest, if_pos h]
  rfl

theorem Yields.shortestPush (h : data.length ≤ maxElementSize) : Yields (shortestPush data) [.push data] := by
  have hshort : data.length ≤ PushForm.sized2.capacity := Nat.le_trans h (by decide)
  -- a form is taken if it holds the element, and two bytes of size are enough for any that is pushed
  refine Yields.push _ ?_
  unfold PushForm.shortest
  split
  · assumption
  · split
    · assumption
    · exact hshort

namespace Builder

theorem addData_ok (b : Builder) (h : data.length ≤ maxElementSize) :
    b.addData data = .ok ⟨b.script ++ shortestPush data⟩ := by
  rw [addData, if_neg (Nat.not_lt.2 h), shortestPush]

theorem foldlM_addData {pieces : List Bytes} (h : ∀ piece ∈ pieces, piece.length ≤ maxElementSize)
    (b : Builder) : pieces.foldlM addData b = .ok ⟨b.script ++ pieces.flatMap shortestPush⟩ := by
  induction pieces generalizing b with
  | nil => rw [List.foldlM_nil, List.flatMap_nil, List.append_nil]; rfl
  | cons piece rest ih =>
    obtain ⟨hpiece, hrest⟩ := List.forall_mem_cons.1 h
    rw [List.foldlM_cons, addData_ok b hpiece, List.flatMap_cons, ← List.append_assoc]
    exact ih hrest _

end Builder

end TokenOverlay.Script
