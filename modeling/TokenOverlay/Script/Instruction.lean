/-
Scripts as sequences of instructions: pushes of data, in four encodings, and plain opcodes. Reading
stops at the first push that runs past the end of the script, since nothing after it can be told
apart; all instructions before it are kept.
-/
import TokenOverlay.Text.Hex

namespace TokenOverlay.Script

/-! ## Opcodes -/

/-- Opcodes up to this one push as many bytes as they say. -/
def maxDirectPush : UInt8 := 0x4b

def opPush1 : UInt8 := 0x4c
def opPush2 : UInt8 := 0x4d
def opPush4 : UInt8 := 0x4e
def opFalse : UInt8 := 0x00
def opIf : UInt8 := 0x63
def opEndIf : UInt8 := 0x68
def opReturn : UInt8 := 0x6a
def opCheckSig : UInt8 := 0xac

/-! ## Instructions -/

inductive Instruction
  | push (data : Bytes)
  | op (code : UInt8)
  deriving DecidableEq, Repr

/-- The bytes an instruction contributes to a payload. -/
def Instruction.data : Instruction → Bytes
  | .push d => d
  | .op _ => []

/-- Why an instruction cannot be read: its length field is cut short, or its data is. -/
inductive Error
  | shortLength (rest : Bytes)
  | shortData (needed available : Nat)
  deriving DecidableEq, Repr

def Error.message : Error → String
  | .shortLength rest =>
    let items := ", ".intercalate (rest.map fun b => Hex.text [b])
    s!"invalid push length prefix: [{items}]"
  | .shortData needed available =>
    s!"opcode requires {needed} bytes, but script only has {available} remaining"

/-! ## Reading -/

/-- A push of `n` bytes and what follows it. -/
def takeData (n : Nat) (rest : Bytes) : Except Error (Instruction × Bytes) :=
  if rest.length < n then .error (.shortData n rest.length)
  else .ok (.push (rest.take n), rest.drop n)

/-- A push whose length stands in a field of `w` bytes. -/
def takeSized (w : Nat) (rest : Bytes) : Except Error (Instruction × Bytes) :=
  if rest.length < w then .error (.shortLength rest)
  else takeData (Bytes.toNatLE (rest.take w)) (rest.drop w)

/-- The instruction that an opcode begins and what follows it. -/
def next (opcode : UInt8) (rest : Bytes) : Except Error (Instruction × Bytes) :=
  if opcode = opPush1 then takeSized 1 rest
  else if opcode = opPush2 then takeSized 2 rest
  else if opcode = opPush4 then takeSized 4 rest
  else if opcode ≤ maxDirectPush then takeData opcode.toNat rest
  else .ok (.op opcode, rest)

theorem takeData_length {n : Nat} {rest : Bytes} {r : Instruction × Bytes}
    (h : takeData n rest = .ok r) : r.2.length ≤ rest.length := by
  unfold takeData at h
  split at h
  · cases h
  · obtain rfl := Except.ok.inj h
    simp

theorem takeSized_length {w : Nat} {rest : Bytes} {r : Instruction × Bytes}
    (h : takeSized w rest = .ok r) : r.2.length ≤ rest.length := by
  unfold takeSized at h
  split at h
  · cases h
  · exact Nat.le_trans (takeData_length h) (by simp)

/-- An instruction never leaves more than there was after its opcode. -/
theorem next_length {opcode : UInt8} {rest : Bytes} {r : Instruction × Bytes}
    (h : next opcode rest = .ok r) : r.2.length ≤ rest.length := by
  unfold next at h
  repeat' split at h
  all_goals first
    | exact takeSized_length h
    | exact takeData_length h
    | (obtain rfl := Except.ok.inj h; exact Nat.le_refl _)

/-- What reading a script gave: the instructions, and the error that ended it, if any. -/
structure Reading where
  instructions : List Instruction
  error : Option Error
  deriving DecidableEq, Repr

/-- Reads the instructions of a script. -/
def read (script : Bytes) : Reading :=
  match script with
  | [] => ⟨[], none⟩
  | opcode :: rest =>
    match _h : next opcode rest with
    | .error e => ⟨[], some e⟩
    | .ok r =>
      let tail := read r.2
      ⟨r.1 :: tail.instructions, tail.error⟩
  termination_by script.length
  decreasing_by
    have := next_length _h
    simp; omega

/-! ## Writing -/

/-- The four encodings of a push. -/
inductive PushForm
  | direct
  | sized1
  | sized2
  | sized4
  deriving DecidableEq, Repr

/-- The bytes in front of `n` bytes of data. -/
def PushForm.head (form : PushForm) (n : Nat) : Bytes :=
  match form with
  | .direct => [UInt8.ofNat n]
  | .sized1 => opPush1 :: Bytes.ofNatLE 1 n
  | .sized2 => opPush2 :: Bytes.ofNatLE 2 n
  | .sized4 => opPush4 :: Bytes.ofNatLE 4 n

/-- The most bytes an encoding can push. -/
def PushForm.capacity : PushForm → Nat
  | .direct => 75
  | .sized1 => UInt8.size - 1
  | .sized2 => UInt16.size - 1
  | .sized4 => UInt32.size - 1

/-- A push of data in the given encoding. -/
def PushForm.encode (form : PushForm) (data : Bytes) : Bytes :=
  form.head data.length ++ data

/-- The shortest encoding for `n` bytes. -/
def PushForm.shortest (n : Nat) : PushForm :=
  if n ≤ PushForm.direct.capacity then .direct
  else if n ≤ PushForm.sized1.capacity then .sized1
  else if n ≤ PushForm.sized2.capacity then .sized2
  else .sized4

end TokenOverlay.Script
