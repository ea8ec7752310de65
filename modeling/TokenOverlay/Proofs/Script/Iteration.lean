/-
A script read one item at a time. A reader that keeps a position answers the instruction that it finds there
and moves behind its bytes, or answers an error and moves to the end of the script, where it has no more
answers. So it answers instructions and at most one error, which comes last. The bytes it passes on its way
are encodings of the instructions, and make up the script but for a push that cannot be read.
-/
import TokenOverlay.Proofs.Script.Positions

namespace TokenOverlay.Script

variable {script bytes bytes' tail tail' : Bytes} {instruction instruction' : Instruction} {pos : Nat}

/-! ## The reader -/

/-- An instruction together with the bytes that it was read from. -/
structure Piece where
  instruction : Instruction
  bytes : Bytes
  deriving DecidableEq, Repr

/-- What a reader at a position answers, and the position that it moves to. At the end of the script it has no
more answers. -/
def pull? (script : Bytes) (pos : Nat) : Option (Option (Except Error Piece) × Nat) :=
  if pos < script.length then
    (instructionAt? script pos).bind fun found =>
      match found with
      | .error e => some (some (.error e), script.length)
      | .ok (instruction, next) => (slice? script pos next).map fun bytes => (some (.ok ⟨instruction, bytes⟩), next)
  else some (none, pos)

/-- What happens at a position of a script: nothing at its end, an error where a push cannot be read, and an
instruction where one is encoded. -/
inductive Pulled (script : Bytes) : Nat → Option (Option (Except Error Piece) × Nat) → Prop
  | done : Pulled script script.length (some (none, script.length))
  | error {pos : Nat} {e : Error} (h : Malformed (script.drop pos) e) (hpos : pos < script.length) :
      Pulled script pos (some (some (.error e), script.length))
  | piece {pos next : Nat} {piece : Piece} (hencodes : piece.instruction.Encodes piece.bytes)
      (hscript : script.drop pos = piece.bytes ++ script.drop next) (hlt : pos < next) (hle : next ≤ script.length) :
      Pulled script pos (some (some (.ok piece), next))

theorem pull?_pulled (h : pos ≤ script.length) : Pulled script pos (pull? script pos) := by
  unfold pull?
  rcases Nat.lt_or_eq_of_le h with hpos | rfl
  · rw [if_pos hpos]
    have hreads := instructionAt?_reads hpos
    cases hfound : instructionAt? script pos with
    | none => exact absurd hfound hreads.ne_none
    | some found =>
      rcases found with e | ⟨instruction, next'⟩
      · refine .error ?_ hpos
        rw [List.drop_eq_getElem_cons hpos]
        exact malformed_of_next (hreads.read_error hfound)
      · obtain ⟨hread, hlt, hle⟩ := hreads.read_ok hfound
        obtain ⟨bytes, hencodes, hscript⟩ := exists_encodes_of_next hread
        rw [← List.drop_eq_getElem_cons hpos] at hscript
        -- what the reader passes is what the encoding takes
        have hlength : bytes.length = next' - pos := by
          have := congrArg List.length hscript
          simp only [List.length_drop, List.length_append] at this
          omega
        have hslice : slice? script pos next' = some bytes := by
          rw [slice?_eq_some (Nat.le_of_lt hlt) hle, hscript, List.take_left' hlength]
        simp only [Option.bind_some, hslice, Option.map_some]
        exact .piece hencodes hscript hlt hle
  · rw [if_neg (Nat.lt_irrefl _)]
    exact .done

/-- Whatever a reader answers, it moves on, and not beyond the end. -/
theorem lt_of_pull? {item : Except Error Piece} {next' : Nat} (h : pull? script pos = some (some item, next')) :
    pos < next' ∧ next' ≤ script.length := by
  by_cases hpos : pos ≤ script.length
  · have hpulled := pull?_pulled hpos
    rw [h] at hpulled
    cases hpulled with
    | error _ hlt => exact ⟨hlt, Nat.le_refl _⟩
    | piece _ _ hlt hle => exact ⟨hlt, hle⟩
  · unfold pull? at h
    rw [if_neg (by omega)] at h
    cases h

/-- All answers from a position on. There are none if a byte was taken that the script does not have. -/
def items? (script : Bytes) (pos : Nat) : Option (List (Except Error Piece)) :=
  match _h : pull? script pos with
  | none => none
  | some (none, _) => some []
  | some (some item, next') => (items? script next').map (item :: ·)
  termination_by script.length - pos
  decreasing_by
    have := lt_of_pull? _h
    omega

theorem items?_length (script : Bytes) : items? script script.length = some [] := by
  fun_cases items? script script.length with
  | case1 h =>
    have hpulled := pull?_pulled (Nat.le_refl script.length)
    rw [h] at hpulled
    cases hpulled
  | case2 => rfl
  | case3 item next' h =>
    have := lt_of_pull? h
    omega

/-! ## Partitions -/

/-- What is left of a script behind its last instruction: nothing, or a push that cannot be read. -/
inductive Ends : Bytes → Option Error → Prop
  | nil : Ends [] none
  | malformed {tail : Bytes} {e : Error} (h : Malformed tail e) : Ends tail (some e)

/-- A script is cut into encodings of instructions and an ending. -/
structure Splits (script : Bytes) (pieces : List Piece) (ending : Option Error) (tail : Bytes) : Prop where
  encodes : ∀ piece ∈ pieces, piece.instruction.Encodes piece.bytes
  joined : script = pieces.flatMap Piece.bytes ++ tail
  ends : Ends tail ending

/-- The answers that instructions and an ending come to. -/
def answers (pieces : List Piece) (ending : Option Error) : List (Except Error Piece) :=
  pieces.map .ok ++ ending.toList.map .error

theorem Malformed.ne_nil {e : Error} (h : Malformed tail e) : tail ≠ [] := by
  obtain ⟨opcode, rest, rfl, -⟩ := next_of_malformed h
  exact List.cons_ne_nil opcode rest

theorem Ends.eq_nil_iff {ending : Option Error} (h : Ends tail ending) : ending = none ↔ tail = [] := by
  cases h with
  | nil => exact iff_of_true rfl rfl
  | malformed hmalformed => exact iff_of_false (Option.some_ne_none _) hmalformed.ne_nil

namespace Splits

variable {piece : Piece} {pieces : List Piece} {ending : Option Error}

theorem of_encodes (h : ∀ piece ∈ pieces, piece.instruction.Encodes piece.bytes) :
    Splits (pieces.flatMap Piece.bytes) pieces none [] where
  encodes := h
  joined := (List.append_nil _).symm
  ends := .nil

theorem cons (hfirst : piece.instruction.Encodes piece.bytes) (h : Splits script pieces ending tail) :
    Splits (piece.bytes ++ script) (piece :: pieces) ending tail where
  encodes := List.forall_mem_cons.2 ⟨hfirst, h.encodes⟩
  joined := by rw [h.joined, List.flatMap_cons, List.append_assoc]
  ends := h.ends

theorem written (h : ∀ piece ∈ pieces, piece.instruction.Encodes piece.bytes) :
    Written (pieces.flatMap Piece.bytes) (pieces.map Piece.instruction) := by
  induction pieces with
  | nil => exact .nil
  | cons piece rest ih =>
    obtain ⟨hpiece, hrest⟩ := List.forall_mem_cons.1 h
    rw [List.flatMap_cons, List.map_cons]
    exact .cons hpiece (ih hrest)

/-- Reading a script gives the instructions and the ending that it is cut into. -/
theorem read_eq (h : Splits script pieces ending tail) : read script = ⟨pieces.map Piece.instruction, ending⟩ := by
  rw [h.joined, (written h.encodes).yields tail]
  cases h.ends with
  | nil => rw [read_nil, List.append_nil]
  | malformed hmalformed => rw [hmalformed.read, List.append_nil]

/-- A script is all instructions exactly if no error ends it. -/
theorem whole_iff (h : Splits script pieces ending tail) : ending = none ↔ pieces.flatMap Piece.bytes = script := by
  rw [h.ends.eq_nil_iff, h.joined, List.self_eq_append_right]

end Splits

/-- From any position on, the answers are the instructions and the ending that the rest of the script is cut into. -/
theorem items?_splits (script : Bytes) (pos : Nat) (h : pos ≤ script.length) :
    ∃ pieces ending tail, items? script pos = some (answers pieces ending) ∧
      Splits (script.drop pos) pieces ending tail := by
  fun_induction items? script pos with
  | case1 pos hpull =>
    have hpulled := pull?_pulled h
    rw [hpull] at hpulled
    cases hpulled
  | case2 pos _ hpull =>
    have hpulled := pull?_pulled h
    rw [hpull] at hpulled
    cases hpulled
    rw [List.drop_length]
    exact ⟨[], none, [], rfl, .of_encodes (List.forall_mem_nil _)⟩
  | case3 pos item next' hpull ih =>
    have hpulled := pull?_pulled h
    rw [hpull] at hpulled
    cases hpulled with
    | @error _ e hmalformed _ =>
      -- the error takes the reader to the end, where it stops
      rw [items?_length]
      exact ⟨[], some e, script.drop pos, rfl, List.forall_mem_nil _, rfl, .malformed hmalformed⟩
    | @piece _ _ piece hencodes hscript hlt hle =>
      obtain ⟨pieces, ending, tail, hitems, hsplits⟩ := ih hle
      rw [hitems, hscript]
      exact ⟨piece :: pieces, ending, tail, rfl, hsplits.cons hencodes⟩

/-! ## Encodings -/

/-- An encoding is read as its instruction, whatever follows. -/
theorem Instruction.Encodes.next (h : instruction.Encodes bytes) (tail : Bytes) :
    ∃ opcode rest, bytes = opcode :: rest ∧ next opcode (rest ++ tail) = .ok (instruction, tail) := by
  cases h with
  | @push data form hform =>
    rcases form.direct_or_sized with rfl | ⟨opcode, w, hsized⟩
    · exact ⟨_, data, rfl, next_direct hform tail⟩
    · obtain ⟨hhead, hcapacity⟩ := head_sized hsized data.length
      refine ⟨opcode, Bytes.ofNatLE w data.length ++ data, ?_, ?_⟩
      · unfold PushForm.encode
        rw [hhead]
        rfl
      · rw [next_sized hsized, List.append_assoc, takeSized_append (hcapacity.1 hform)]
  | @op opcode hcode => exact ⟨opcode, [], rfl, next_op hcode tail⟩

/-- No encoding begins another, so the bytes at a place hold one encoding at most. -/
theorem Instruction.Encodes.unique (h : instruction.Encodes bytes) (h' : instruction'.Encodes bytes')
    (hbytes : bytes ++ tail = bytes' ++ tail') : instruction = instruction' ∧ bytes = bytes' := by
  obtain ⟨opcode, rest, rfl, hnext⟩ := h.next tail
  obtain ⟨opcode', rest', rfl, hnext'⟩ := h'.next tail'
  obtain ⟨rfl, hrest⟩ := List.cons.inj hbytes
  change rest ++ tail = rest' ++ tail' at hrest
  rw [hrest, hnext'] at hnext
  cases hnext
  exact ⟨rfl, by rw [List.append_cancel_right hrest]⟩

/-- A script is cut into the same instructions in one way. -/
theorem pieces_unique : ∀ {pieces pieces' : List Piece}, (∀ piece ∈ pieces, piece.instruction.Encodes piece.bytes) →
    (∀ piece ∈ pieces', piece.instruction.Encodes piece.bytes) →
    pieces.map Piece.instruction = pieces'.map Piece.instruction →
    pieces.flatMap Piece.bytes ++ tail = pieces'.flatMap Piece.bytes ++ tail' → pieces = pieces'
  | [], [], _, _, _, _ => rfl
  | [], _ :: _, _, _, h, _ => by cases h
  | _ :: _, [], _, _, h, _ => by cases h
  | ⟨instruction, bytes⟩ :: pieces, ⟨instruction', bytes'⟩ :: pieces', hall, hall', hsame, hbytes => by
    obtain ⟨hfirst, hrest⟩ := List.forall_mem_cons.1 hall
    obtain ⟨hfirst', hrest'⟩ := List.forall_mem_cons.1 hall'
    simp only [List.flatMap_cons, List.append_assoc] at hbytes
    obtain ⟨rfl, rfl⟩ := hfirst.unique hfirst' hbytes
    obtain ⟨-, hsame⟩ := List.cons.inj hsame
    rw [pieces_unique hrest hrest' hsame (List.append_cancel_left hbytes)]

/-- Instructions one after the other are answered one after the other, each with its own bytes. -/
theorem items?_flatMap {pieces : List Piece} (h : ∀ piece ∈ pieces, piece.instruction.Encodes piece.bytes) :
    items? (pieces.flatMap Piece.bytes) 0 = some (answers pieces none) := by
  obtain ⟨found, ending, tail, hitems, hsplits⟩ := items?_splits (pieces.flatMap Piece.bytes) 0 (Nat.zero_le _)
  rw [List.drop_zero] at hsplits
  have hall := Splits.of_encodes h
  have hread := hall.read_eq
  rw [hsplits.read_eq, Reading.mk.injEq] at hread
  obtain ⟨hsame, rfl⟩ := hread
  rw [hitems, pieces_unique hsplits.encodes h hsame (hsplits.joined.symm.trans hall.joined)]

/-- Reading a script by items always comes to an end and cuts the script into pieces: instructions, each answered with
the bytes that encode it, and at most one error, behind all of them. The pieces are the whole script exactly if there
is no error; otherwise what they leave begins with a push that has fewer bytes behind it than its length field takes
or than its length says, and the error tells which. Whatever is written in encodings of instructions is read as these
instructions. -/
theorem items_partition_script :
    (∀ script : Bytes, ∃ (pieces : List Piece) (ending : Option Error) (tail : Bytes),
      items? script 0 = some (pieces.map .ok ++ ending.toList.map .error) ∧
      read script = ⟨pieces.map Piece.instruction, ending⟩ ∧
      (∀ piece ∈ pieces, piece.instruction.Encodes piece.bytes) ∧
      script = pieces.flatMap Piece.bytes ++ tail ∧
      (ending = none ↔ pieces.flatMap Piece.bytes = script) ∧
      ∀ e, ending = some e → Malformed tail e) ∧
    ∀ pieces : List Piece, (∀ piece ∈ pieces, piece.instruction.Encodes piece.bytes) →
      items? (pieces.flatMap Piece.bytes) 0 = some (pieces.map .ok) ∧
      read (pieces.flatMap Piece.bytes) = ⟨pieces.map Piece.instruction, none⟩ := by
  constructor
  · intro script
    obtain ⟨pieces, ending, tail, hitems, hsplits⟩ := items?_splits script 0 (Nat.zero_le _)
    rw [List.drop_zero] at hsplits
    refine ⟨pieces, ending, tail, hitems, hsplits.read_eq, hsplits.encodes, hsplits.joined, hsplits.whole_iff, ?_⟩
    rintro e rfl
    cases hsplits.ends with
    | malformed hmalformed => exact hmalformed
  · intro pieces h
    refine ⟨?_, (Splits.of_encodes h).read_eq⟩
    rw [items?_flatMap h]
    exact congrArg some (List.append_nil _)

/-- An opcode, a push in a longer encoding than it needs, an empty push, and a push that spells an opcode. -/
theorem items_partition_script_longer :
    let pieces : List Piece := [⟨.op opIf, [opIf]⟩, ⟨.push [1, 2], [opPush4, 2, 0, 0, 0, 1, 2]⟩, ⟨.push [], [opFalse]⟩,
      ⟨.push [opEndIf], [opPush1, 1, opEndIf]⟩]
    (∀ piece ∈ pieces, piece.instruction.Encodes piece.bytes) ∧
      items? (pieces.flatMap Piece.bytes) 0 = some (pieces.map .ok) ∧
      read (pieces.flatMap Piece.bytes) = ⟨pieces.map Piece.instruction, none⟩ := by
  intro pieces
  have hencodes : ∀ piece ∈ pieces, piece.instruction.Encodes piece.bytes := by
    intro piece hpiece
    simp only [pieces, List.mem_cons, List.not_mem_nil, or_false] at hpiece
    rcases hpiece with rfl | rfl | rfl | rfl
    · exact .op (by decide)
    · exact .push .sized4 (by decide)
    · exact .push .direct (by decide)
    · exact .push .sized1 (by decide)
  obtain ⟨hitems, hread⟩ := items_partition_script.2 pieces hencodes
  exact ⟨hencodes, hitems, hread⟩

end TokenOverlay.Script
