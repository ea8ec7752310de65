/-
Reading an envelope by positions. A reader that keeps a position and takes bytes at it has no answer where
it takes a byte that the script does not have; for each of its steps the bytes that it takes are there,
so it always has one. It reads instructions only as far as the payload goes, and gives what is read
off the front of the script.
-/
import TokenOverlay.Proofs.Script.Encoding
import TokenOverlay.Proofs.Script.Envelope

namespace TokenOverlay

namespace Script

variable {script : Bytes} {pos n w : Nat}

/-- The bytes from one position up to another, if the script has them. -/
def slice? (script : Bytes) (first last : Nat) : Option Bytes :=
  if first ≤ last ∧ last ≤ script.length then some ((script.drop first).take (last - first)) else none

/-- A push of `n` bytes at a position, and the position behind it. -/
def dataAt? (script : Bytes) (pos n : Nat) : Option (Except Error (Instruction × Nat)) :=
  if script.length - pos < n then some (.error (.shortData n (script.length - pos)))
  else (slice? script pos (pos + n)).map fun data => .ok (.push data, pos + n)

/-- A push whose length stands at a position in a field of `w` bytes, and the position behind it. -/
def sizedAt? (script : Bytes) (pos w : Nat) : Option (Except Error (Instruction × Nat)) :=
  if script.length - pos < w then (slice? script pos script.length).map fun rest => .error (.shortLength rest)
  else (slice? script pos (pos + w)).bind fun field => dataAt? script (pos + w) (Bytes.toNatLE field)

/-- The instruction at a position and the position behind it. -/
def instructionAt? (script : Bytes) (pos : Nat) : Option (Except Error (Instruction × Nat)) :=
  script[pos]?.bind fun opcode =>
    if opcode = opPush1 then sizedAt? script (pos + 1) 1
    else if opcode = opPush2 then sizedAt? script (pos + 1) 2
    else if opcode = opPush4 then sizedAt? script (pos + 1) 4
    else if opcode ≤ maxDirectPush then dataAt? script (pos + 1) opcode.toNat
    else some (.ok (.op opcode, pos + 1))

/-- What is found at a position is what is read off the rest of the script there, and the position behind it
is that of what is left. -/
inductive ReadsAt (script : Bytes) (pos : Nat) :
    Option (Except Error (Instruction × Nat)) → Except Error (Instruction × Bytes) → Prop
  | error (e : Error) : ReadsAt script pos (some (.error e)) (.error e)
  | ok (instruction : Instruction) {next : Nat} (hpos : pos ≤ next) (hnext : next ≤ script.length) :
      ReadsAt script pos (some (.ok (instruction, next))) (.ok (instruction, script.drop next))

namespace ReadsAt

variable {found : Option (Except Error (Instruction × Nat))} {read : Except Error (Instruction × Bytes)}

theorem ne_none (h : ReadsAt script pos found read) : found ≠ none := by
  cases h with
  | error e => exact Option.some_ne_none _
  | ok instruction hpos hnext => exact Option.some_ne_none _

theorem read_error {e : Error} (h : ReadsAt script pos found read) (hfound : found = some (.error e)) :
    read = .error e := by
  subst hfound
  cases h
  rfl

theorem read_ok {instruction : Instruction} {next : Nat} (h : ReadsAt script pos found read)
    (hfound : found = some (.ok (instruction, next))) :
    read = .ok (instruction, script.drop next) ∧ pos ≤ next ∧ next ≤ script.length := by
  subst hfound
  cases h with
  | ok _ hpos hnext => exact ⟨rfl, hpos, hnext⟩

theorem of_le {pos' : Nat} (h : ReadsAt script pos' found read) (hle : pos ≤ pos') : ReadsAt script pos found read := by
  cases h with
  | error e => exact .error e
  | ok instruction hpos hnext => exact .ok instruction (Nat.le_trans hle hpos) hnext

end ReadsAt

theorem slice?_eq_some {first last : Nat} (h : first ≤ last) (hlast : last ≤ script.length) :
    slice? script first last = some ((script.drop first).take (last - first)) :=
  if_pos ⟨h, hlast⟩

theorem dataAt?_reads (h : pos ≤ script.length) (n : Nat) :
    ReadsAt script pos (dataAt? script pos n) (takeData n (script.drop pos)) := by
  have hlength : (script.drop pos).length = script.length - pos := List.length_drop
  unfold dataAt? takeData
  rw [hlength]
  by_cases hshort : script.length - pos < n
  · rw [if_pos hshort, if_pos hshort]
    exact .error _
  · rw [if_neg hshort, if_neg hshort, slice?_eq_some (by omega) (by omega), Nat.add_sub_cancel_left, List.drop_drop]
    exact .ok _ (by omega) (by omega)

theorem sizedAt?_reads (h : pos ≤ script.length) (w : Nat) :
    ReadsAt script pos (sizedAt? script pos w) (takeSized w (script.drop pos)) := by
  have hlength : (script.drop pos).length = script.length - pos := List.length_drop
  unfold sizedAt? takeSized
  rw [hlength]
  by_cases hshort : script.length - pos < w
  · have hrest : (script.drop pos).take (script.length - pos) = script.drop pos := by
      rw [← hlength, List.take_length]
    rw [if_pos hshort, if_pos hshort, slice?_eq_some h (Nat.le_refl _), hrest]
    exact .error _
  · rw [if_neg hshort, if_neg hshort, slice?_eq_some (by omega) (by omega), Nat.add_sub_cancel_left,
      Option.bind_some, List.drop_drop]
    have hdata : pos + w ≤ script.length := by omega
    exact (dataAt?_reads hdata _).of_le (Nat.le_add_right pos w)

/-- The instruction at a position inside a script is read from bytes that are there. -/
theorem instructionAt?_reads (h : pos < script.length) :
    ReadsAt script (pos + 1) (instructionAt? script pos) (next script[pos] (script.drop (pos + 1))) := by
  unfold instructionAt? next
  rw [List.getElem?_eq_getElem h, Option.bind_some]
  split
  · exact sizedAt?_reads h 1
  · split
    · exact sizedAt?_reads h 2
    · split
      · exact sizedAt?_reads h 4
      · split
        · exact dataAt?_reads h _
        · exact .ok _ (Nat.le_refl _) h

theorem lt_of_instructionAt? {instruction : Instruction} {next : Nat}
    (h : instructionAt? script pos = some (.ok (instruction, next))) : pos < next ∧ next ≤ script.length := by
  have hpos : pos < script.length := by
    by_contra hout
    unfold instructionAt? at h
    rw [List.getElem?_eq_none (by omega)] at h
    cases h
  exact ((instructionAt?_reads hpos).read_ok h).2

end Script

namespace Envelope

open Script

variable {script rest tail : Bytes} {opcode : UInt8} {instruction : Instruction} {e : Script.Error} {pos : Nat}

/-! ## Payloads -/

theorem readPayload_nil : readPayload [] = .ok [] := by
  unfold readPayload
  rw [read_nil]
  rfl

theorem readPayload_error (h : next opcode rest = .error e) : readPayload (opcode :: rest) = .error e := by
  unfold readPayload
  rw [read_error h]
  rfl

theorem readPayload_endIf (rest : Bytes) : readPayload (opEndIf :: rest) = .ok [] :=
  readPayload_append Yields.nil List.not_mem_nil rest

theorem readPayload_step (h : next opcode rest = .ok (instruction, tail)) (hne : instruction ≠ .op opEndIf) :
    readPayload (opcode :: rest) = (readPayload tail).map (instruction.data ++ ·) := by
  have hcut : (instruction :: (Script.read tail).instructions).takeWhile (· != .op opEndIf) =
      instruction :: (Script.read tail).instructions.takeWhile (· != .op opEndIf) := by
    rw [List.takeWhile_cons, if_pos (bne_iff_ne.2 hne)]
  unfold readPayload
  rw [read_cons h]
  dsimp only
  rw [hcut, List.flatMap_cons, List.length_cons, List.length_cons]
  cases (Script.read tail).error with
  | none => rfl
  | some e =>
    dsimp only
    simp only [Nat.add_lt_add_iff_right]
    split <;> rfl

/-- Reads the payload from a position on, behind what was read of it before. -/
def payloadAt? (script : Bytes) (pos : Nat) (payload : Bytes) : Option (Except Script.Error Bytes) :=
  if pos < script.length then
    match _h : instructionAt? script pos with
    | none => none
    | some (.error e) => some (.error e)
    | some (.ok (instruction, next)) =>
      if instruction = .op opEndIf then some (.ok payload) else payloadAt? script next (payload ++ instruction.data)
  else some (.ok payload)
  termination_by script.length - pos
  decreasing_by
    have := lt_of_instructionAt? _h
    omega

/-- Reading a payload by positions gives what reading it off the front gives. -/
theorem payloadAt?_eq (h : pos ≤ script.length) (payload : Bytes) :
    payloadAt? script pos payload = some ((readPayload (script.drop pos)).map (payload ++ ·)) := by
  fun_induction payloadAt? script pos payload with
  | case1 pos payload hpos hnone => exact absurd hnone (instructionAt?_reads hpos).ne_none
  | case2 pos payload hpos e hfound =>
    rw [List.drop_eq_getElem_cons hpos, readPayload_error ((instructionAt?_reads hpos).read_error hfound)]
    rfl
  | case3 pos payload hpos next hfound =>
    have hend : script[pos] = opEndIf := (next_op_inv ((instructionAt?_reads hpos).read_ok hfound).1).1
    rw [List.drop_eq_getElem_cons hpos, hend, readPayload_endIf]
    show some (Except.ok payload) = some (Except.ok (payload ++ []))
    rw [List.append_nil]
  | case4 pos payload hpos instruction next hfound hne ih =>
    obtain ⟨hread, -, hnext⟩ := (instructionAt?_reads hpos).read_ok hfound
    rw [List.drop_eq_getElem_cons hpos, readPayload_step hread hne, ih hnext]
    cases readPayload (script.drop next) with
    | error e => rfl
    | ok more =>
      show some (Except.ok (payload ++ instruction.data ++ more)) = some (Except.ok (payload ++ (instruction.data ++ more)))
      rw [List.append_assoc]
  | case5 pos payload hout =>
    rw [List.drop_eq_nil_of_le (Nat.not_lt.1 hout), readPayload_nil]
    show some (Except.ok payload) = some (Except.ok (payload ++ []))
    rw [List.append_nil]

/-! ## Marker and operation -/

/-- The first position behind a marked conditional, from a position on. It is enough to look where a
conditional has room for the marker behind it. -/
def markAt? (script : Bytes) (pos : Nat) : Option (Option Nat) :=
  if pos < script.length - marker.length then
    script[pos]?.bind fun opcode =>
      if opcode = opIf ∧ slice? script (pos + 1) (pos + 1 + marker.length) = some marker then
        some (some (pos + 1 + marker.length))
      else markAt? script (pos + 1)
  else some none
  termination_by script.length - pos

/-- The first of some operations whose code stands at a position with something behind it, and the position
behind the code. -/
def codeAtPosition? (script : Bytes) (pos : Nat) : List OpKind → Option (Option (OpKind × Nat))
  | [] => some none
  | kind :: kinds =>
    let last := pos + (codePush kind).length
    if last < script.length then
      (slice? script pos last).bind fun code =>
        if code = codePush kind then some (some (kind, last)) else codeAtPosition? script pos kinds
    else codeAtPosition? script pos kinds

/-- The envelope of a script, read by positions. -/
def ofScriptAt? (script : Bytes) : Option (Except Script.Error (Option Envelope)) :=
  if script.length < minLength then some (.ok none)
  else script[0]?.bind fun first =>
    if first ≠ keyPush then some (.ok none)
    else (markAt? script keyPushLength).bind fun mark =>
      match mark with
      | none => some (.ok none)
      | some pos => (codeAtPosition? script pos OpKind.all).bind fun found =>
        match found with
        | none => some (.ok none)
        | some (kind, last) => (payloadAt? script last []).map fun payload => payload.map fun b => some ⟨kind, b⟩

theorem isPrefixOf_iff_take {lead b : Bytes} : lead.isPrefixOf b = true ↔ b.take lead.length = lead := by
  rw [List.isPrefixOf_iff_prefix, List.prefix_iff_eq_take, eq_comm]

theorem afterMarker_short {b : Bytes} (h : b.length ≤ marker.length) : afterMarker b = none := by
  induction b with
  | nil => rfl
  | cons c rest ih =>
    rw [List.length_cons] at h
    have hshort : ¬ marker.isPrefixOf rest = true := by
      intro hprefix
      have := (List.isPrefixOf_iff_prefix.1 hprefix).length_le
      omega
    rw [afterMarker, if_neg fun hand => hshort hand.2, ih (by omega)]

/-- Looking for the marker by positions finds what looking for it off the front finds. -/
theorem markAt?_eq (script : Bytes) (pos : Nat) :
    ∃ mark, markAt? script pos = some mark ∧ afterMarker (script.drop pos) = mark.map (script.drop ·) ∧
      ∀ found ∈ mark, found ≤ script.length := by
  fun_induction markAt? script pos with
  | case1 pos hpos ih =>
    have hlong : pos < script.length := by omega
    have hslice : slice? script (pos + 1) (pos + 1 + marker.length) =
        some ((script.drop (pos + 1)).take marker.length) := by
      rw [slice?_eq_some (by omega) (by omega), Nat.add_sub_cancel_left]
    have hmarked : marker.isPrefixOf (script.drop (pos + 1)) = true ↔
        slice? script (pos + 1) (pos + 1 + marker.length) = some marker := by
      rw [hslice, isPrefixOf_iff_take, Option.some.injEq]
    rw [List.getElem?_eq_getElem hlong, Option.bind_some, List.drop_eq_getElem_cons hlong, afterMarker]
    by_cases hmark : script[pos] = opIf ∧ slice? script (pos + 1) (pos + 1 + marker.length) = some marker
    · rw [if_pos hmark, if_pos ⟨hmark.1, hmarked.2 hmark.2⟩, List.drop_drop]
      refine ⟨_, rfl, rfl, fun found h => ?_⟩
      cases h
      omega
    · rw [if_neg hmark, if_neg fun hand => hmark ⟨hand.1, hmarked.1 hand.2⟩]
      exact ih
  | case2 pos hpos =>
    refine ⟨none, rfl, afterMarker_short ?_, fun found h => by cases h⟩
    rw [List.length_drop]
    omega

theorem codeAt?_of_position {kind : OpKind} (h : pos ≤ script.length) :
    codeAt? (script.drop pos) kind =
      if pos + (codePush kind).length < script.length ∧ (script.drop pos).take (codePush kind).length = codePush kind
      then some (kind, script.drop (pos + (codePush kind).length)) else none := by
  split
  · rename_i hcode
    refine codeAt?_eq_some.2 ⟨rfl, ?_, ?_⟩
    · show script.drop pos = codePush kind ++ script.drop (pos + (codePush kind).length)
      rw [← List.drop_drop]
      conv => lhs; rw [← List.take_append_drop (codePush kind).length (script.drop pos), hcode.2]
    · intro hnil
      have := List.drop_eq_nil_iff.1 hnil
      omega
  · rename_i hcode
    refine Option.eq_none_iff_forall_ne_some.2 fun found hfound => hcode ?_
    obtain ⟨-, hscript, hrest⟩ := codeAt?_eq_some.1 hfound
    have hlength : script.length - pos = (codePush kind).length + found.2.length := by
      rw [← List.length_append, ← hscript, List.length_drop]
    have hpos : 0 < found.2.length := List.length_pos_iff.2 hrest
    refine ⟨by omega, ?_⟩
    rw [hscript, List.take_left' rfl]

/-- Looking for an operation by positions finds what looking for it off the front finds. -/
theorem codeAtPosition?_eq (h : pos ≤ script.length) (kinds : List OpKind) :
    ∃ found, codeAtPosition? script pos kinds = some found ∧
      kinds.findSome? (codeAt? (script.drop pos)) = found.map (fun r => (r.1, script.drop r.2)) ∧
      ∀ r ∈ found, r.2 ≤ script.length := by
  induction kinds with
  | nil => exact ⟨none, rfl, rfl, fun r hr => by cases hr⟩
  | cons kind kinds ih =>
    rw [codeAtPosition?, List.findSome?_cons, codeAt?_of_position h]
    by_cases hlong : pos + (codePush kind).length < script.length
    · rw [if_pos hlong, slice?_eq_some (by omega) (by omega), Option.bind_some, Nat.add_sub_cancel_left]
      by_cases hcode : (script.drop pos).take (codePush kind).length = codePush kind
      · rw [if_pos hcode, if_pos ⟨hlong, hcode⟩]
        refine ⟨_, rfl, rfl, fun r hr => ?_⟩
        cases hr
        exact Nat.le_of_lt hlong
      · rw [if_neg hcode, if_neg fun hand => hcode hand.2]
        exact ih
    · rw [if_neg hlong, if_neg fun hand => hlong hand.1]
      exact ih

/-- Reading an envelope by positions never takes a byte that is not there, and gives what reading it off
the front gives. -/
theorem ofScriptAt?_eq (script : Bytes) : ofScriptAt? script = some (ofScript script) := by
  unfold ofScriptAt? ofScript
  by_cases hshort : script.length < minLength
  · rw [if_pos hshort, if_pos (.inl hshort)]
  · have hlong : 0 < script.length := Nat.lt_of_lt_of_le (by decide) (Nat.not_lt.1 hshort)
    have hhead : script.head? = some script[0] := by
      rw [List.head?_eq_getElem?, List.getElem?_eq_getElem hlong]
    rw [if_neg hshort, List.getElem?_eq_getElem hlong, Option.bind_some, hhead]
    by_cases hkey : script[0] = keyPush
    · rw [if_neg (not_not.2 hkey), if_neg (by simp [hshort, hkey])]
      obtain ⟨mark, hmark, hafter, hle⟩ := markAt?_eq script keyPushLength
      rw [hmark, hafter, Option.bind_some]
      cases mark with
      | none => rfl
      | some pos =>
        obtain ⟨found, hfound, hcode, hlast⟩ := codeAtPosition?_eq (hle pos rfl) OpKind.all
        dsimp only
        rw [hfound, Option.map_some, Option.bind_some, Option.bind_some, readCode_eq_findSome?, hcode]
        cases found with
        | none => rfl
        | some r =>
          dsimp only [Option.map_some]
          rw [payloadAt?_eq (hlast r rfl)]
          cases readPayload (script.drop r.2) <;> rfl
    · rw [if_pos hkey, if_pos (.inr fun h => hkey (Option.some.inj h))]

end Envelope

end TokenOverlay
