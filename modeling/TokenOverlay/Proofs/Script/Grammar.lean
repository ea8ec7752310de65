/-
The grammar of envelopes. A script opens an envelope if it begins with a key push and the first marked
conditional behind the key is followed by an operation code with something behind it; later marks do not
count. What stands behind the code is instructions up to the end of the conditional, the end of the
script or a push that is cut short, and the first two make an envelope of all that is pushed. So neither
the key nor what follows the end of the conditional has a say in what is read, nor the way the payload
is cut into pushes.
-/
import TokenOverlay.Proofs.Script.Positions

namespace TokenOverlay.Envelope

open Script

variable {script front rest rest' body tail : Bytes} {kind kind' : OpKind} {instructions : List Instruction}
  {ending : Option Script.Error} {pos : Nat}

/-! ## What a conditional holds -/

/-- How the instructions of a payload come to their end: with the script, with the conditional, or with a
push that cannot be read. -/
inductive Closes : Bytes → Option Script.Error → Prop
  | scriptEnd : Closes [] none
  | endIf (tail : Bytes) : Closes (opEndIf :: tail) none
  | malformed {tail : Bytes} {e : Script.Error} (h : Malformed tail e) : Closes tail (some e)

/-- A byte string begins with the instructions, none of which ends a conditional, and closes behind them. -/
def Holds (rest : Bytes) (instructions : List Instruction) (ending : Option Script.Error) : Prop :=
  ∃ body tail, rest = body ++ tail ∧ Written body instructions ∧ .op opEndIf ∉ instructions ∧ Closes tail ending

/-- The instructions before the end of the conditional are read first, and the reading goes on behind them
if the conditional is ended. -/
theorem Holds.read_eq (h : Holds rest instructions ending) :
    instructions = (Script.read rest).instructions.takeWhile (· != .op opEndIf) ∧
      ending = if instructions.length < (Script.read rest).instructions.length then none
        else (Script.read rest).error := by
  obtain ⟨body, tail, rfl, hwritten, hend, hcloses⟩ := h
  rw [hwritten.yields tail]
  dsimp only
  rw [takeWhile_append_of_unended hend, List.length_append]
  cases hcloses with
  | scriptEnd =>
    rw [read_nil]
    exact ⟨(List.append_nil instructions).symm, (if_neg (Nat.lt_irrefl _)).symm⟩
  | endIf tail =>
    rw [read_op (by decide)]
    refine ⟨(List.append_nil instructions).symm, (if_pos ?_).symm⟩
    rw [List.length_cons]
    omega
  | malformed hmalformed =>
    rw [hmalformed.read]
    exact ⟨(List.append_nil instructions).symm, (if_neg (Nat.lt_irrefl _)).symm⟩

/-- A byte string holds one list of instructions and closes in one way. -/
theorem Holds.unique {instructions' : List Instruction} {ending' : Option Script.Error}
    (h : Holds rest instructions ending) (h' : Holds rest instructions' ending') :
    instructions' = instructions ∧ ending' = ending := by
  obtain ⟨hinstructions, hending⟩ := h.read_eq
  obtain ⟨hinstructions', hending'⟩ := h'.read_eq
  have hsame : instructions' = instructions := hinstructions'.trans hinstructions.symm
  subst hsame
  exact ⟨rfl, hending'.trans hending.symm⟩

theorem exists_holds (rest : Bytes) : ∃ instructions ending, Holds rest instructions ending := by
  obtain ⟨front, tail, hrest, hwritten, hend, herror⟩ := read_exact rest
  by_cases hmem : .op opEndIf ∈ (Script.read rest).instructions
  · obtain ⟨before, behind, hsplit, hbefore⟩ := List.eq_append_cons_of_mem hmem
    rw [hsplit] at hwritten
    obtain ⟨body, more, rfl, hbody, hmore⟩ := hwritten.append_inv
    obtain ⟨more', rfl⟩ := hmore.op_inv
    refine ⟨before, none, body, opEndIf :: (more' ++ tail), ?_, hbody, hbefore, .endIf _⟩
    rw [hrest, List.append_assoc, List.cons_append]
  · cases he : (Script.read rest).error with
    | none =>
      obtain rfl := hend he
      exact ⟨_, none, front, [], hrest, hwritten, hmem, .scriptEnd⟩
    | some e => exact ⟨_, some e, front, tail, hrest, hwritten, hmem, .malformed (herror e he)⟩

/-- What is read of a payload: the data of its pushes, unless one of them cannot be read. -/
def payloadOf (instructions : List Instruction) : Option Script.Error → Except Script.Error Bytes
  | some e => .error e
  | none => .ok (instructions.flatMap Instruction.data)

theorem readPayload_of_holds (h : Holds rest instructions ending) :
    readPayload rest = payloadOf instructions ending := by
  obtain ⟨hinstructions, hending⟩ := h.read_eq
  unfold readPayload
  dsimp only
  rw [← hinstructions]
  cases herror : (Script.read rest).error with
  | none =>
    rw [herror, ite_self] at hending
    rw [hending]
    rfl
  | some e =>
    dsimp only
    rw [herror] at hending
    split
    · rename_i hshort
      rw [hending, if_pos hshort]
      rfl
    · rename_i hlong
      rw [hending, if_neg hlong]
      rfl

theorem payloadOf_append (front instructions : List Instruction) (ending : Option Script.Error) :
    payloadOf (front ++ instructions) ending =
      (payloadOf instructions ending).map (front.flatMap Instruction.data ++ ·) := by
  cases ending with
  | some e => rfl
  | none =>
    unfold payloadOf
    rw [List.flatMap_append]
    rfl

/-- Instructions that stand in front of a payload give their data to it, whatever encodings they have. -/
theorem readPayload_written (h : Written body instructions) (hend : .op opEndIf ∉ instructions) (rest : Bytes) :
    readPayload (body ++ rest) = (readPayload rest).map (instructions.flatMap Instruction.data ++ ·) := by
  obtain ⟨more, ending, hmore⟩ := exists_holds rest
  have hall : Holds (body ++ rest) (instructions ++ more) ending := by
    obtain ⟨behind, tail, rfl, hwritten, hnot, hcloses⟩ := hmore
    refine ⟨body ++ behind, tail, (List.append_assoc body behind tail).symm, h.append hwritten, ?_, hcloses⟩
    rw [List.mem_append, not_or]
    exact ⟨hend, hnot⟩
  rw [readPayload_of_holds hall, readPayload_of_holds hmore, payloadOf_append]

/-! ## The mark -/

/-- A conditional that pushes the marker stands at a position. -/
def MarkedAt (script : Bytes) (pos : Nat) : Prop :=
  script[pos]? = some opIf ∧ (script.drop (pos + 1)).take marker.length = marker

instance : Decidable (MarkedAt script pos) :=
  inferInstanceAs (Decidable (_ ∧ _))

/-- The first such position behind the key. -/
structure FirstMark (script : Bytes) (pos : Nat) : Prop where
  behindKey : keyPushLength ≤ pos
  marked : MarkedAt script pos
  first : ∀ q, keyPushLength ≤ q → q < pos → ¬ MarkedAt script q

/-- Where what follows a mark begins. -/
def behindMark (pos : Nat) : Nat :=
  pos + 1 + marker.length

theorem MarkedAt.le_length (h : MarkedAt script pos) : behindMark pos ≤ script.length := by
  have hlength := congrArg List.length h.2
  rw [List.length_take, List.length_drop] at hlength
  have hmarker : marker.length = 5 := rfl
  unfold behindMark
  omega

/-- Whether a position is marked is told by the bytes up to the end of the marker. -/
theorem markedAt_append (h : behindMark pos ≤ front.length) : MarkedAt (front ++ rest) pos ↔ MarkedAt front pos := by
  unfold behindMark at h
  unfold MarkedAt
  rw [List.getElem?_append_left (by omega), List.drop_append_of_le_length (by omega),
    List.take_append_of_le_length (by rw [List.length_drop]; omega)]

theorem markedAt_drop (n : Nat) : MarkedAt (script.drop n) pos ↔ MarkedAt script (n + pos) := by
  unfold MarkedAt
  rw [List.getElem?_drop, List.drop_drop, Nat.add_assoc]

theorem markedAt_zero {b : UInt8} : MarkedAt (b :: rest) 0 ↔ b = opIf ∧ marker.isPrefixOf rest = true := by
  unfold MarkedAt
  rw [isPrefixOf_iff_take, List.getElem?_cons_zero, Option.some.injEq]
  rfl

theorem markedAt_succ {b : UInt8} : MarkedAt (b :: rest) (pos + 1) ↔ MarkedAt rest pos :=
  Iff.rfl

theorem drop_behindMark_succ (b : UInt8) (script : Bytes) (pos : Nat) :
    (b :: script).drop (behindMark (pos + 1)) = script.drop (behindMark pos) := by
  unfold behindMark
  rw [Nat.add_right_comm (pos + 1) 1, List.drop_succ_cons]

/-- What follows the marker is what stands behind the first marked position. -/
theorem afterMarker_eq_some :
    afterMarker script = some rest ↔
      ∃ pos, MarkedAt script pos ∧ (∀ q, q < pos → ¬ MarkedAt script q) ∧ rest = script.drop (behindMark pos) := by
  induction script with
  | nil =>
    constructor
    · intro h
      cases h
    · rintro ⟨pos, hmarked, -⟩
      cases hmarked.1
  | cons b script ih =>
    rw [afterMarker]
    by_cases hzero : b = opIf ∧ marker.isPrefixOf script = true
    · rw [if_pos hzero, Option.some.injEq]
      have hmarked : MarkedAt (b :: script) 0 := markedAt_zero.2 hzero
      constructor
      · rintro rfl
        exact ⟨0, hmarked, fun q hq => absurd hq (Nat.not_lt_zero q), rfl⟩
      · rintro ⟨pos, -, hfirst, rfl⟩
        cases pos with
        | zero => rfl
        | succ pos => exact absurd hmarked (hfirst 0 (Nat.succ_pos pos))
    · rw [if_neg hzero, ih]
      constructor
      · rintro ⟨pos, hmarked, hfirst, rfl⟩
        refine ⟨pos + 1, markedAt_succ.2 hmarked, fun q hq => ?_, ?_⟩
        · cases q with
          | zero => exact mt markedAt_zero.1 hzero
          | succ q => exact mt markedAt_succ.1 (hfirst q (Nat.lt_of_succ_lt_succ hq))
        · exact (drop_behindMark_succ b script pos).symm
      · rintro ⟨pos, hmarked, hfirst, rfl⟩
        cases pos with
        | zero => exact absurd (markedAt_zero.1 hmarked) hzero
        | succ pos =>
          refine ⟨pos, markedAt_succ.1 hmarked, fun q hq => ?_, drop_behindMark_succ b script pos⟩
          exact mt markedAt_succ.2 (hfirst (q + 1) (Nat.succ_lt_succ hq))

theorem afterMarker_behindKey :
    afterMarker (script.drop keyPushLength) = some rest ↔
      ∃ pos, FirstMark script pos ∧ rest = script.drop (behindMark pos) := by
  have hdrop : ∀ pos, (script.drop keyPushLength).drop (behindMark pos) = script.drop (behindMark (keyPushLength + pos)) := by
    intro pos
    unfold behindMark
    rw [List.drop_drop, Nat.add_assoc keyPushLength, Nat.add_assoc keyPushLength]
  rw [afterMarker_eq_some]
  constructor
  · rintro ⟨pos, hmarked, hfirst, rfl⟩
    refine ⟨keyPushLength + pos, ⟨Nat.le_add_right _ _, (markedAt_drop _).1 hmarked, fun q hq hlt => ?_⟩, hdrop pos⟩
    obtain ⟨q, rfl⟩ := Nat.exists_eq_add_of_le hq
    exact mt (markedAt_drop _).2 (hfirst q (Nat.lt_of_add_lt_add_left hlt))
  · rintro ⟨pos, hfirst, rfl⟩
    obtain ⟨pos, rfl⟩ := Nat.exists_eq_add_of_le hfirst.behindKey
    refine ⟨pos, (markedAt_drop _).2 hfirst.marked, fun q hq => ?_, (hdrop pos).symm⟩
    exact mt (markedAt_drop _).1 (hfirst.first _ (Nat.le_add_right _ _) (Nat.add_lt_add_left hq _))

/-- A script with a mark behind the key has as many bytes as an envelope needs. -/
theorem FirstMark.minLength_le (h : FirstMark script pos) : minLength ≤ script.length := by
  have hlong := h.marked.le_length
  have hbehind := h.behindKey
  have hmarker : marker.length = 5 := rfl
  unfold behindMark at hlong
  unfold keyPushLength at hbehind
  unfold minLength
  omega

/-! ## The opening -/

/-- A script begins with a key push, and its first mark is followed by the code of an operation with something
behind it. -/
structure Opens (script : Bytes) (kind : OpKind) (rest : Bytes) : Prop where
  keyed : script.head? = some keyPush
  mark : ∃ pos, FirstMark script pos ∧ script.drop (behindMark pos) = codePush kind ++ rest
  nonempty : rest ≠ []

theorem opens_iff :
    Opens script kind rest ↔
      script.head? = some keyPush ∧ (afterMarker (script.drop keyPushLength)).bind readCode = some (kind, rest) := by
  rw [Option.bind_eq_some_iff]
  constructor
  · rintro ⟨hkeyed, ⟨pos, hfirst, hcode⟩, hrest⟩
    exact ⟨hkeyed, _, afterMarker_behindKey.2 ⟨pos, hfirst, rfl⟩, readCode_eq_some.2 ⟨hcode, hrest⟩⟩
  · rintro ⟨hkeyed, behind, hafter, hcode⟩
    obtain ⟨pos, hfirst, rfl⟩ := afterMarker_behindKey.1 hafter
    obtain ⟨hscript, hrest⟩ := readCode_eq_some.1 hcode
    exact ⟨hkeyed, ⟨pos, hfirst, hscript⟩, hrest⟩

/-- A script opens with one operation, in one way. -/
theorem Opens.unique (h : Opens script kind rest) (h' : Opens script kind' rest') : kind' = kind ∧ rest' = rest := by
  have hfound := (opens_iff.1 h).2
  rw [(opens_iff.1 h').2, Option.some.injEq, Prod.mk.injEq] at hfound
  exact hfound

/-- What a script opens with is told by the bytes up to the end of the operation code. -/
theorem Opens.replace (h : Opens (front ++ rest) kind rest) (hrest' : rest' ≠ []) :
    Opens (front ++ rest') kind rest' := by
  obtain ⟨hkeyed, ⟨pos, hfirst, hcode⟩, -⟩ := h
  have hlength := congrArg List.length hcode
  rw [List.length_drop, List.length_append, List.length_append] at hlength
  have hlong := hfirst.marked.le_length
  rw [List.length_append] at hlong
  have hmark : behindMark pos ≤ front.length := by omega
  have hbefore : ∀ q, q ≤ pos → (MarkedAt (front ++ rest') q ↔ MarkedAt (front ++ rest) q) := by
    intro q hq
    have hq' : behindMark q ≤ front.length := by
      unfold behindMark at hmark ⊢
      omega
    rw [markedAt_append hq', markedAt_append hq']
  refine ⟨?_, ⟨pos, ⟨hfirst.behindKey, (hbefore pos (Nat.le_refl _)).2 hfirst.marked, fun q hq hlt => ?_⟩, ?_⟩, hrest'⟩
  · cases front with
    | nil => exact absurd hmark (by unfold behindMark; exact Nat.not_succ_le_zero _)
    | cons b front => exact hkeyed
  · exact mt (hbefore q (Nat.le_of_lt hlt)).1 (hfirst.first q hq hlt)
  · rw [List.drop_append_of_le_length hmark] at hcode ⊢
    rw [List.append_cancel_right hcode]

theorem ofScript_of_opens (h : Opens script kind rest) :
    ofScript script = (readPayload rest).map fun payload => some ⟨kind, payload⟩ := by
  obtain ⟨hkeyed, hcode⟩ := opens_iff.1 h
  obtain ⟨pos, hfirst, -⟩ := h.mark
  have hlong : ¬ script.length < minLength := Nat.not_lt.2 hfirst.minLength_le
  unfold ofScript
  rw [if_neg (not_or.2 ⟨hlong, not_not.2 hkeyed⟩), hcode]

theorem ofScript_of_not_opens (h : ∀ kind rest, ¬ Opens script kind rest) : ofScript script = .ok none := by
  unfold ofScript
  split
  · rfl
  · rename_i hnot
    obtain ⟨-, hkeyed⟩ := not_or.1 hnot
    cases hcode : (afterMarker (script.drop keyPushLength)).bind readCode with
    | none => rfl
    | some found => exact absurd (opens_iff.2 ⟨not_not.1 hkeyed, hcode⟩) (h found.1 found.2)

/-! ## What does not matter -/

theorem ofScript_key {key key' : Bytes} (hkey : key.length = 32) (hkey' : key'.length = 32) (rest : Bytes) :
    ofScript (keyPush :: (key' ++ rest)) = ofScript (keyPush :: (key ++ rest)) := by
  have hlength : (keyPush :: (key' ++ rest)).length = (keyPush :: (key ++ rest)).length := by
    rw [List.length_cons, List.length_cons, List.length_append, List.length_append, hkey, hkey']
  have hdrop : ∀ k : Bytes, k.length = 32 → (keyPush :: (k ++ rest)).drop keyPushLength = rest := by
    intro k hk
    show (k ++ rest).drop 32 = rest
    rw [List.drop_left' hk]
  unfold ofScript
  rw [hlength, hdrop key hkey, hdrop key' hkey', List.head?_cons, List.head?_cons]

/-- Pushes of the pieces of a payload, each in an encoding of its own. -/
def pushes (pieces : List (PushForm × Bytes)) : Bytes :=
  pieces.flatMap fun piece => piece.1.encode piece.2

/-- Each piece has an encoding that can hold it. -/
def Fit (pieces : List (PushForm × Bytes)) : Prop :=
  ∀ piece ∈ pieces, piece.2.length ≤ piece.1.capacity

theorem written_pushes {pieces : List (PushForm × Bytes)} (h : Fit pieces) :
    Written (pushes pieces) (pieces.map fun piece => .push piece.2) := by
  induction pieces with
  | nil => exact .nil
  | cons piece pieces ih =>
    obtain ⟨hpiece, hpieces⟩ := List.forall_mem_cons.1 h
    exact .cons (.push piece.1 hpiece) (ih hpieces)

/-- The pieces of a payload are joined when it is read, whatever follows them. -/
theorem readPayload_pushes {pieces : List (PushForm × Bytes)} (h : Fit pieces) (rest : Bytes) :
    readPayload (pushes pieces ++ rest) = (readPayload rest).map (pieces.flatMap Prod.snd ++ ·) := by
  have hend : .op opEndIf ∉ pieces.map fun piece => Instruction.push piece.2 := by
    intro hmem
    obtain ⟨_, -, heq⟩ := List.mem_map.1 hmem
    cases heq
  rw [readPayload_written (written_pushes h) hend, List.flatMap_map]
  rfl

/-! ## The grammar -/

/-- Reading accepts the grammar of envelopes exactly. A script that does not open an envelope has none; one
that does opens it in one way, and what stands behind the operation code holds one list of instructions:
if a push that cannot be read closes it the script is refused for that push, and otherwise the data
of all pushes is the payload. Other keys, other bytes behind the end of the conditional, and other pushes of
the same payload change nothing. No script with a mark is too short, and no byte is read that is not there. -/
theorem envelope_grammar_exact :
    (∀ script : Bytes, ofScript script = .ok none ↔ ¬ ∃ kind rest, Opens script kind rest) ∧
    (∀ script kind rest, Opens script kind rest →
      (∀ kind' rest', Opens script kind' rest' → kind' = kind ∧ rest' = rest) ∧
      ∃ instructions ending, Holds rest instructions ending ∧
        (∀ instructions' ending', Holds rest instructions' ending' →
          instructions' = instructions ∧ ending' = ending) ∧
        (∀ e, ending = some e → ofScript script = .error e) ∧
        (ending = none → ofScript script = .ok (some ⟨kind, instructions.flatMap Instruction.data⟩))) ∧
    (∀ key key' rest : Bytes, key.length = 32 → key'.length = 32 →
      ofScript (keyPush :: (key' ++ rest)) = ofScript (keyPush :: (key ++ rest))) ∧
    (∀ front kind body instructions tail tail', Written body instructions → .op opEndIf ∉ instructions →
      Opens (front ++ (body ++ opEndIf :: tail)) kind (body ++ opEndIf :: tail) →
      ofScript (front ++ (body ++ opEndIf :: tail')) = ofScript (front ++ (body ++ opEndIf :: tail))) ∧
    (∀ front kind pieces pieces' tail, Fit pieces → Fit pieces' →
      pieces'.flatMap Prod.snd = pieces.flatMap Prod.snd → pushes pieces' ++ tail ≠ [] →
      Opens (front ++ (pushes pieces ++ tail)) kind (pushes pieces ++ tail) →
      ofScript (front ++ (pushes pieces' ++ tail)) = ofScript (front ++ (pushes pieces ++ tail))) ∧
    (∀ script pos, FirstMark script pos → minLength ≤ script.length) ∧
    ∀ script, ofScriptAt? script = some (ofScript script) := by
  refine ⟨fun script => ⟨?_, ?_⟩, fun script kind rest h => ⟨fun kind' rest' h' => h.unique h', ?_⟩,
    fun key key' rest hkey hkey' => ofScript_key hkey hkey' rest, ?_, ?_, fun script pos h => h.minLength_le,
    ofScriptAt?_eq⟩
  · rintro hnone ⟨kind, rest, h⟩
    rw [ofScript_of_opens h] at hnone
    cases hread : readPayload rest with
    | error e => rw [hread] at hnone; cases hnone
    | ok payload => rw [hread] at hnone; cases hnone
  · intro hnot
    exact ofScript_of_not_opens fun kind rest h => hnot ⟨kind, rest, h⟩
  · obtain ⟨instructions, ending, hholds⟩ := exists_holds rest
    refine ⟨instructions, ending, hholds, fun _ _ h' => hholds.unique h', fun e he => ?_, fun hend => ?_⟩
    · rw [ofScript_of_opens h, readPayload_of_holds hholds, he]
      rfl
    · rw [ofScript_of_opens h, readPayload_of_holds hholds, hend]
      rfl
  · intro front kind body instructions tail tail' hwritten hend h
    have h' := h.replace (List.append_ne_nil_of_right_ne_nil body (List.cons_ne_nil opEndIf tail'))
    rw [ofScript_of_opens h, ofScript_of_opens h', readPayload_written hwritten hend,
      readPayload_written hwritten hend, readPayload_endIf, readPayload_endIf]
  · intro front kind pieces pieces' tail hfit hfit' hjoined hrest h
    rw [ofScript_of_opens h, ofScript_of_opens (h.replace hrest), readPayload_pushes hfit,
      readPayload_pushes hfit', hjoined]

/-- A conditional without the marker before the one that has it, one payload pushed at once and pushed in three
encodings, and a push that cannot be read behind the end. -/
theorem envelope_grammar_exact_split :
    let key := List.replicate 32 opIf
    let front := keyPush :: (key ++ opIf :: opIf :: (marker ++ codePush .extract))
    let pieces : List (PushForm × Bytes) := [(.direct, [1, 2])]
    let pieces' : List (PushForm × Bytes) := [(.sized4, [1]), (.direct, []), (.sized2, [2])]
    let tail : Bytes := [opEndIf, opPush2]
    let e : Envelope := ⟨.extract, [1, 2]⟩
    Opens (front ++ (pushes pieces ++ tail)) .extract (pushes pieces ++ tail) ∧ Fit pieces ∧ Fit pieces' ∧
      ofScript (front ++ (pushes pieces ++ tail)) = .ok (some e) ∧
      ofScript (front ++ (pushes pieces' ++ tail)) = .ok (some e) ∧
      ofScript (front ++ (pushes pieces ++ [opEndIf])) = .ok (some e) := by
  intro key front pieces pieces' tail e
  have hmark : FirstMark (front ++ (pushes pieces ++ tail)) 34 := by
    refine ⟨by decide, by decide +kernel, fun q hq hlt => ?_⟩
    obtain rfl : q = 33 := by
      have hq : 33 ≤ q := hq
      omega
    decide +kernel
  have hopens : Opens (front ++ (pushes pieces ++ tail)) .extract (pushes pieces ++ tail) :=
    ⟨rfl, ⟨34, hmark, by decide +kernel⟩, by decide⟩
  have hfit : Fit pieces := by unfold Fit; decide
  have hfit' : Fit pieces' := by unfold Fit; decide
  have hread : ofScript (front ++ (pushes pieces ++ tail)) = .ok (some e) := by
    obtain ⟨-, hopened, -⟩ := envelope_grammar_exact
    obtain ⟨-, instructions, ending, -, hunique, -, hok⟩ := hopened _ _ _ hopens
    have hholds : Holds (pushes pieces ++ tail) [.push [1, 2]] none :=
      ⟨pushes pieces, tail, rfl, written_pushes hfit, by decide, .endIf [opPush2]⟩
    obtain ⟨rfl, rfl⟩ := hunique _ _ hholds
    exact hok rfl
  obtain ⟨-, -, -, hbehind, hsplit, -⟩ := envelope_grammar_exact
  refine ⟨hopens, hfit, hfit', hread, ?_, ?_⟩
  · rw [hsplit front .extract pieces pieces' tail hfit hfit' rfl (by decide) hopens, hread]
  · rw [hbehind front .extract (pushes pieces) _ [opPush2] [] (written_pushes hfit) (by decide) hopens]
    exact hread

end TokenOverlay.Envelope
