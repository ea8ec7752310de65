/-
What the bytes of a script spell. Reading cuts a script from the front into the encodings of its
instructions, and stops at its end or at a push that is cut short: one that has fewer bytes behind it than
its length field takes, or fewer than its length says. Whatever is cut off that way is an encoding, so a
script falls into instructions in one way only.
-/
import TokenOverlay.Proofs.Script.Pushes

namespace TokenOverlay.Script

variable {script rest tail : Bytes} {opcode : UInt8} {instruction : Instruction} {e : Error} {n w : Nat}

/-! ## Encodings -/

/-- The bytes of an instruction: a push in any encoding that can hold its data, or an opcode above those
of pushes. -/
inductive Instruction.Encodes : Instruction → Bytes → Prop
  | push {data : Bytes} (form : PushForm) (h : data.length ≤ form.capacity) : Encodes (.push data) (form.encode data)
  | op {opcode : UInt8} (h : opPush4 < opcode) : Encodes (.op opcode) [opcode]

/-- The encodings of pushes with a length field, each with its opcode and the width of the field. -/
def sizedPushes : List (PushForm × UInt8 × Nat) :=
  [(.sized1, opPush1, 1), (.sized2, opPush2, 2), (.sized4, opPush4, 4)]

/-- A script that begins with a push that cannot be read. -/
inductive Malformed : Bytes → Error → Prop
  /-- There are fewer bytes than the length field takes. -/
  | length {form : PushForm} {opcode : UInt8} {w : Nat} {rest : Bytes} (hform : (form, opcode, w) ∈ sizedPushes)
      (h : rest.length < w) : Malformed (opcode :: rest) (.shortLength rest)
  /-- There are fewer bytes than the length says. -/
  | data {form : PushForm} {n : Nat} {rest : Bytes} (hform : n ≤ form.capacity) (h : rest.length < n) :
      Malformed (form.head n ++ rest) (.shortData n rest.length)

/-- The bytes of instructions, one after the other. -/
inductive Written : Bytes → List Instruction → Prop
  | nil : Written [] []
  | cons {instruction : Instruction} {bytes rest : Bytes} {instructions : List Instruction}
      (h : instruction.Encodes bytes) (hrest : Written rest instructions) :
      Written (bytes ++ rest) (instruction :: instructions)

/-! ## One instruction -/

theorem next_sized {form : PushForm} (hform : (form, opcode, w) ∈ sizedPushes) (rest : Bytes) :
    next opcode rest = takeSized w rest := by
  simp only [sizedPushes, List.mem_cons, Prod.mk.injEq, List.not_mem_nil, or_false] at hform
  rcases hform with ⟨-, rfl, rfl⟩ | ⟨-, rfl, rfl⟩ | ⟨-, rfl, rfl⟩
  · exact next_opPush1 rest
  · exact next_opPush2 rest
  · exact next_opPush4 rest

/-- The bytes in front of the data of a push with a length field, which holds any length that the encoding
can. -/
theorem head_sized {form : PushForm} (hform : (form, opcode, w) ∈ sizedPushes) (n : Nat) :
    form.head n = opcode :: Bytes.ofNatLE w n ∧ (n ≤ form.capacity ↔ n < Bytes.count w) := by
  simp only [sizedPushes, List.mem_cons, Prod.mk.injEq, List.not_mem_nil, or_false] at hform
  rcases hform with ⟨rfl, rfl, rfl⟩ | ⟨rfl, rfl, rfl⟩ | ⟨rfl, rfl, rfl⟩ <;>
    exact ⟨rfl, (Nat.lt_succ_iff (n := _)).symm⟩

/-- What an opcode begins: a push with a length field, one of as many bytes as it says, or nothing more. -/
theorem opcode_cases (opcode : UInt8) :
    (∃ form w, (form, opcode, w) ∈ sizedPushes) ∨ opcode.toNat ≤ PushForm.direct.capacity ∨ opPush4 < opcode := by
  by_cases h1 : opcode = opPush1
  · exact .inl ⟨.sized1, 1, by simp [sizedPushes, h1]⟩
  by_cases h2 : opcode = opPush2
  · exact .inl ⟨.sized2, 2, by simp [sizedPushes, h2]⟩
  by_cases h4 : opcode = opPush4
  · exact .inl ⟨.sized4, 4, by simp [sizedPushes, h4]⟩
  -- the three opcodes between direct pushes and others are those of sized pushes
  have hne : ∀ code : UInt8, opcode ≠ code → opcode.toNat ≠ code.toNat := fun code h heq => h (UInt8.toNat_inj.1 heq)
  have h1 : opcode.toNat ≠ 76 := hne opPush1 h1
  have h2 : opcode.toNat ≠ 77 := hne opPush2 h2
  have h4 : opcode.toNat ≠ 78 := hne opPush4 h4
  rcases Nat.lt_or_ge 78 opcode.toNat with hgt | hle
  · exact .inr (.inr (UInt8.lt_iff_toNat_lt.2 hgt))
  · refine .inr (.inl ?_)
    show opcode.toNat ≤ 75
    omega

theorem takeData_ok (h : takeData n rest = .ok (instruction, tail)) :
    ∃ data, instruction = .push data ∧ data.length = n ∧ rest = data ++ tail := by
  unfold takeData at h
  split at h
  · cases h
  · rename_i hlong
    cases h
    refine ⟨rest.take n, rfl, ?_, (List.take_append_drop n rest).symm⟩
    rw [List.length_take]
    omega

theorem takeData_error (h : takeData n rest = .error e) : rest.length < n ∧ e = .shortData n rest.length := by
  unfold takeData at h
  split at h
  · rename_i hshort
    cases h
    exact ⟨hshort, rfl⟩
  · cases h

/-- A length field that is there is the bytes of its length. -/
theorem exists_field (h : ¬ rest.length < w) :
    ∃ n back, rest = Bytes.ofNatLE w n ++ back ∧ n < Bytes.count w ∧ takeSized w rest = takeData n back := by
  have hfield : (rest.take w).length = w := by
    rw [List.length_take]
    omega
  refine ⟨Bytes.toNatLE (rest.take w), rest.drop w, ?_, ?_, ?_⟩
  · have hbytes := Bytes.ofNatLE_toNatLE (rest.take w)
    rw [hfield] at hbytes
    rw [hbytes, List.take_append_drop]
  · have hlt := Bytes.toNatLE_lt (rest.take w)
    rwa [hfield] at hlt
  · unfold takeSized
    rw [if_neg h]

theorem encode_direct {data : Bytes} (h : opcode.toNat = data.length) :
    PushForm.direct.encode data = opcode :: data := by
  show UInt8.ofNat data.length :: data = opcode :: data
  rw [← h, UInt8.ofNat_toNat]

/-- What is read off the front of a script is the encoding of an instruction. -/
theorem exists_encodes_of_next (h : next opcode rest = .ok (instruction, tail)) :
    ∃ bytes, instruction.Encodes bytes ∧ opcode :: rest = bytes ++ tail := by
  rcases opcode_cases opcode with ⟨form, w, hform⟩ | hcode | hcode
  · rw [next_sized hform] at h
    by_cases hshort : rest.length < w
    · unfold takeSized at h
      rw [if_pos hshort] at h
      cases h
    · obtain ⟨n, back, rfl, hn, htake⟩ := exists_field hshort
      rw [htake] at h
      obtain ⟨data, rfl, rfl, rfl⟩ := takeData_ok h
      obtain ⟨hhead, hcapacity⟩ := head_sized hform data.length
      refine ⟨form.encode data, .push form (hcapacity.2 hn), ?_⟩
      unfold PushForm.encode
      rw [hhead, List.cons_append, List.cons_append, List.append_assoc]
  · rw [next_of_le hcode] at h
    obtain ⟨data, rfl, hlength, rfl⟩ := takeData_ok h
    refine ⟨PushForm.direct.encode data, .push .direct (hlength ▸ hcode), ?_⟩
    rw [encode_direct hlength.symm, List.cons_append]
  · rw [next_op hcode] at h
    cases h
    exact ⟨[opcode], .op hcode, rfl⟩

theorem next_op_inv {code : UInt8} (h : next opcode rest = .ok (.op code, tail)) : opcode = code ∧ rest = tail := by
  obtain ⟨bytes, hbytes, hscript⟩ := exists_encodes_of_next h
  cases hbytes with
  | op => exact List.cons.inj hscript

/-- A push that cannot be read is cut short, and the error says how. -/
theorem malformed_of_next (h : next opcode rest = .error e) : Malformed (opcode :: rest) e := by
  rcases opcode_cases opcode with ⟨form, w, hform⟩ | hcode | hcode
  · rw [next_sized hform] at h
    by_cases hshort : rest.length < w
    · unfold takeSized at h
      rw [if_pos hshort] at h
      cases h
      exact .length hform hshort
    · obtain ⟨n, back, rfl, hn, htake⟩ := exists_field hshort
      rw [htake] at h
      obtain ⟨hlt, rfl⟩ := takeData_error h
      obtain ⟨hhead, hcapacity⟩ := head_sized hform n
      have hmalformed : Malformed (form.head n ++ back) (.shortData n back.length) := .data (hcapacity.2 hn) hlt
      rwa [hhead] at hmalformed
  · rw [next_of_le hcode] at h
    obtain ⟨hlt, rfl⟩ := takeData_error h
    have hmalformed : Malformed (PushForm.direct.head opcode.toNat ++ rest) (.shortData opcode.toNat rest.length) :=
      .data hcode hlt
    have hhead : PushForm.direct.head opcode.toNat = [opcode] := congrArg (fun b => [b]) (UInt8.ofNat_toNat)
    rwa [hhead] at hmalformed
  · rw [next_op hcode] at h
    cases h

theorem takeData_short (h : rest.length < n) : takeData n rest = .error (.shortData n rest.length) :=
  if_pos h

theorem PushForm.direct_or_sized (form : PushForm) : form = .direct ∨ ∃ opcode w, (form, opcode, w) ∈ sizedPushes := by
  cases form with
  | direct => exact .inl rfl
  | sized1 => exact .inr ⟨opPush1, 1, by simp [sizedPushes]⟩
  | sized2 => exact .inr ⟨opPush2, 2, by simp [sizedPushes]⟩
  | sized4 => exact .inr ⟨opPush4, 4, by simp [sizedPushes]⟩

/-- A push that is cut short cannot be read. -/
theorem next_of_malformed (h : Malformed script e) :
    ∃ opcode rest, script = opcode :: rest ∧ next opcode rest = .error e := by
  cases h with
  | @length form opcode w rest hform hshort =>
    refine ⟨opcode, rest, rfl, ?_⟩
    rw [next_sized hform]
    exact if_pos hshort
  | @data form n rest hform hshort =>
    rcases form.direct_or_sized with rfl | ⟨opcode, w, hsized⟩
    · have hle : n ≤ 75 := hform
      have hcode : (UInt8.ofNat n).toNat = n := by
        rw [UInt8.toNat_ofNat']
        omega
      refine ⟨UInt8.ofNat n, rest, rfl, ?_⟩
      rw [next_of_le (by rw [hcode]; exact hform), hcode, takeData_short hshort]
    · obtain ⟨hhead, hcapacity⟩ := head_sized hsized n
      refine ⟨opcode, Bytes.ofNatLE w n ++ rest, by rw [hhead]; rfl, ?_⟩
      rw [next_sized hsized, takeSized_field (hcapacity.1 hform), takeData_short hshort]

/-! ## Scripts -/

theorem read_error (h : next opcode rest = .error e) : read (opcode :: rest) = ⟨[], some e⟩ := by
  rw [read]
  split
  · rename_i e' he
    rw [h] at he
    cases he
    rfl
  · rename_i r hr
    rw [h] at hr
    cases hr

theorem Malformed.read (h : Malformed script e) : read script = ⟨[], some e⟩ := by
  obtain ⟨opcode, rest, rfl, hnext⟩ := next_of_malformed h
  exact read_error hnext

theorem Instruction.Encodes.yields {bytes : Bytes} (h : instruction.Encodes bytes) : Yields bytes [instruction] := by
  cases h with
  | push form hform => exact Yields.push form hform
  | op hcode => exact Yields.op hcode

namespace Written

variable {bytes : Bytes} {front back : List Instruction}

/-- Instructions that are written are read, whatever follows. -/
theorem yields (h : Written bytes front) : Yields bytes front := by
  induction h with
  | nil => exact Yields.nil
  | cons hfirst _ ih => exact hfirst.yields.append ih

theorem append {bytes' : Bytes} (h : Written bytes front) (h' : Written bytes' back) :
    Written (bytes ++ bytes') (front ++ back) := by
  induction h with
  | nil => exact h'
  | cons hfirst _ ih =>
    rw [List.append_assoc]
    exact .cons hfirst ih

theorem append_inv (h : Written bytes (front ++ back)) :
    ∃ b b', bytes = b ++ b' ∧ Written b front ∧ Written b' back := by
  induction front generalizing bytes with
  | nil => exact ⟨[], bytes, rfl, .nil, h⟩
  | cons instruction front ih =>
    cases h with
    | @cons _ first rest _ hfirst hrest =>
      obtain ⟨b, b', rfl, hfront, hback⟩ := ih hrest
      exact ⟨first ++ b, b', (List.append_assoc first b b').symm, .cons hfirst hfront, hback⟩

theorem op_inv (h : Written bytes (.op opcode :: back)) : ∃ rest, bytes = opcode :: rest := by
  cases h with
  | cons hfirst _ =>
    cases hfirst with
    | op => exact ⟨_, rfl⟩

end Written

/-- Every script is written instructions and then its end, or a push that is cut short. -/
theorem read_exact (script : Bytes) :
    ∃ front tail, script = front ++ tail ∧ Written front (read script).instructions ∧
      ((read script).error = none → tail = []) ∧ ∀ e, (read script).error = some e → Malformed tail e := by
  fun_induction read script with
  | case1 => exact ⟨[], [], rfl, .nil, fun _ => rfl, fun e he => by cases he⟩
  | case2 opcode rest e hnext =>
    refine ⟨[], opcode :: rest, rfl, .nil, fun he => ?_, fun e' he => ?_⟩
    · cases he
    · cases he
      exact malformed_of_next hnext
  | case3 opcode rest r hnext more ih =>
    obtain ⟨first, hfirst, hscript⟩ := exists_encodes_of_next hnext
    obtain ⟨front, tail, hrest, hwritten, hend, herror⟩ := ih
    refine ⟨first ++ front, tail, ?_, .cons hfirst hwritten, hend, herror⟩
    rw [hscript, hrest, List.append_assoc]

end TokenOverlay.Script
