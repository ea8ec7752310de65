/-
Envelopes that are built and read. A script built for an envelope is found to hold that envelope,
whatever stands behind it. The reader looks for the marker behind the key only, and it takes no pushed
byte for an instruction, so neither key nor payload can change what is read.
-/
import TokenOverlay.Proofs.Except
import TokenOverlay.Proofs.Script.Pushes
import TokenOverlay.Script.Envelope

namespace TokenOverlay

theorem OpKind.mem_all (kind : OpKind) : kind ∈ all := by
  cases kind <;> decide

theorem OpKind.length_code (kind : OpKind) : (Bytes.ofText kind.code).length ≤ 3 := by
  have h : ∀ kind ∈ all, (Bytes.ofText kind.code).length ≤ 3 := by decide +kernel
  exact h kind kind.mem_all

namespace Envelope

open Script

variable {kind : OpKind} {script rest : Bytes}

/-! ## The operation code -/

theorem strip?_eq_some {lead b rest : Bytes} : strip? lead b = some rest ↔ b = lead ++ rest := by
  unfold strip?
  constructor
  · intro h
    split at h
    · rename_i hlead
      obtain ⟨more, rfl⟩ := List.isPrefixOf_iff_prefix.1 hlead
      cases h
      rw [List.drop_left' rfl]
    · cases h
  · rintro rfl
    rw [if_pos (List.isPrefixOf_iff_prefix.2 (List.prefix_append lead rest)), List.drop_left' rfl]

/-- No operation code is the beginning of another one. -/
theorem codePush_prefixFree {kind' : OpKind} (h : codePush kind <+: codePush kind') : kind = kind' := by
  have hall : ∀ a ∈ OpKind.all, ∀ b ∈ OpKind.all, (codePush a).isPrefixOf (codePush b) = true → a = b := by
    decide +kernel
  exact hall kind kind.mem_all kind' kind'.mem_all (List.isPrefixOf_iff_prefix.2 h)

/-- An operation whose code stands at the front of a script with something behind it. -/
def codeAt? (script : Bytes) (kind : OpKind) : Option (OpKind × Bytes) :=
  match strip? (codePush kind) script with
  | some (b :: rest) => some (kind, b :: rest)
  | _ => none

theorem readCode_eq_findSome? (script : Bytes) : readCode script = OpKind.all.findSome? (codeAt? script) := rfl

theorem codeAt?_eq_some {found : OpKind × Bytes} :
    codeAt? script kind = some found ↔ found.1 = kind ∧ script = codePush kind ++ found.2 ∧ found.2 ≠ [] := by
  obtain ⟨kind', rest⟩ := found
  unfold codeAt?
  constructor
  · intro h
    split at h
    · rename_i b rest' hstrip
      cases h
      exact ⟨rfl, strip?_eq_some.1 hstrip, List.cons_ne_nil b rest'⟩
    · cases h
  · rintro ⟨rfl, hscript, hrest⟩
    cases rest with
    | nil => exact absurd rfl hrest
    | cons b rest => rw [strip?_eq_some.2 hscript]

/-- The operation read from a script is the only one whose code stands at its front, and it is read if
anything follows the code. -/
theorem readCode_eq_some : readCode script = some (kind, rest) ↔ script = codePush kind ++ rest ∧ rest ≠ [] := by
  have hfound : ∀ found, readCode script = some found →
      script = codePush found.1 ++ found.2 ∧ found.2 ≠ [] := by
    intro found h
    rw [readCode_eq_findSome?, List.findSome?_eq_some_iff] at h
    obtain ⟨-, k, -, -, hk, -⟩ := h
    obtain ⟨rfl, hscript, hrest⟩ := codeAt?_eq_some.1 hk
    exact ⟨hscript, hrest⟩
  refine ⟨hfound (kind, rest), ?_⟩
  rintro ⟨hscript, hrest⟩
  cases h : readCode script with
  | none =>
    rw [readCode_eq_findSome?, List.findSome?_eq_none_iff] at h
    have hnone := h kind kind.mem_all
    have hsome : codeAt? script kind = some (kind, rest) := codeAt?_eq_some.2 ⟨rfl, hscript, hrest⟩
    rw [hnone] at hsome
    cases hsome
  | some found =>
    obtain ⟨kind', rest'⟩ := found
    obtain ⟨hscript', -⟩ : script = codePush kind' ++ rest' ∧ rest' ≠ [] := hfound _ h
    -- of two codes at the front of one script, one is the beginning of the other
    have hkind : kind' = kind := by
      rcases List.prefix_or_prefix_of_prefix (hscript' ▸ List.prefix_append (codePush kind') rest')
        (hscript ▸ List.prefix_append (codePush kind) rest) with hlead | hlead
      · exact codePush_prefixFree hlead
      · exact (codePush_prefixFree hlead).symm
    rw [hkind] at hscript' ⊢
    rw [List.append_cancel_left (hscript'.symm.trans hscript)]

/-! ## The marker and the payload -/

theorem afterMarker_append {lead : Bytes} (h : opIf ∉ lead) (rest : Bytes) :
    afterMarker (lead ++ opIf :: (marker ++ rest)) = some rest := by
  induction lead with
  | nil =>
    have hmarker : marker.isPrefixOf (marker ++ rest) = true :=
      List.isPrefixOf_iff_prefix.2 (List.prefix_append marker rest)
    rw [List.nil_append, afterMarker, if_pos ⟨rfl, hmarker⟩, List.drop_left' rfl]
  | cons b lead ih =>
    obtain ⟨hb, hlead⟩ := not_or.1 (mt List.mem_cons.2 h)
    rw [List.cons_append, afterMarker, if_neg fun hand => hb hand.1.symm, ih hlead]

theorem takeWhile_append_of_unended {instructions : List Instruction} (hend : .op opEndIf ∉ instructions)
    (more : List Instruction) :
    (instructions ++ more).takeWhile (· != .op opEndIf) = instructions ++ more.takeWhile (· != .op opEndIf) := by
  refine List.takeWhile_append_of_pos fun i hi => ?_
  rw [bne_iff_ne]
  rintro rfl
  exact hend hi

/-- The payload ends with the first end of a conditional; what follows is not read, however it is
formed. -/
theorem readPayload_append {body : Bytes} {instructions : List Instruction} (h : Yields body instructions)
    (hend : .op opEndIf ∉ instructions) (tail : Bytes) :
    readPayload (body ++ opEndIf :: tail) = .ok (instructions.flatMap Instruction.data) := by
  have hread : Script.read (body ++ opEndIf :: tail) =
      ⟨instructions ++ .op opEndIf :: (Script.read tail).instructions, (Script.read tail).error⟩ := by
    rw [h, read_op (by decide)]
  have hbody : (instructions ++ .op opEndIf :: (Script.read tail).instructions).takeWhile (· != .op opEndIf) =
      instructions := by
    rw [takeWhile_append_of_unended hend, List.takeWhile_cons]
    exact List.append_nil instructions
  have hshort : instructions.length < (instructions ++ .op opEndIf :: (Script.read tail).instructions).length := by
    rw [List.length_append, List.length_cons]
    omega
  simp only [readPayload, hread, hbody, if_pos hshort]
  cases (Script.read tail).error <;> rfl

/-- A script with a key, the marker after the first conditional that pushes it, and a known operation
code holds the payload of what follows. -/
theorem ofScript_of_marker {key before payload : Bytes} (hkey : key.length = 32) (hbefore : opIf ∉ before)
    (hrest : rest ≠ []) (hpayload : readPayload rest = .ok payload) :
    ofScript ((keyPush :: key) ++ (before ++ opIf :: (marker ++ (codePush kind ++ rest)))) =
      .ok (some ⟨kind, payload⟩) := by
  have hlength : (keyPush :: key).length = keyPushLength := congrArg (· + 1) hkey
  have hmarker : marker.length = 5 := rfl
  have hlong : ¬ ((keyPush :: key) ++ (before ++ opIf :: (marker ++ (codePush kind ++ rest)))).length < minLength := by
    rw [List.length_append, hlength, List.length_append, List.length_cons, List.length_append, hmarker]
    simp only [keyPushLength, minLength]
    omega
  have hfirst : ¬ ((keyPush :: key) ++ (before ++ opIf :: (marker ++ (codePush kind ++ rest)))).head? ≠ some keyPush :=
    not_not.2 rfl
  -- the marker is looked for behind the key, so it does not matter what the key spells
  rw [ofScript, if_neg (not_or.2 ⟨hlong, hfirst⟩), List.drop_left' hlength, afterMarker_append hbefore,
    Option.bind_some, readCode_eq_some.2 ⟨rfl, hrest⟩]
  dsimp only
  rw [hpayload]
  rfl

/-! ## The script of an envelope -/

/-- The pushes of a payload in pieces. -/
def payloadPushes (payload : Bytes) : Bytes :=
  (Bytes.chunks maxElementSize payload).flatMap shortestPush

/-- What the pushes of a payload read as. -/
def payloadInstructions (payload : Bytes) : List Instruction :=
  (Bytes.chunks maxElementSize payload).map .push

theorem yields_payloadPushes (payload : Bytes) : Yields (payloadPushes payload) (payloadInstructions payload) :=
  Yields.flatMap fun piece hpiece => Yields.shortestPush (Bytes.length_le_of_mem_chunks piece hpiece)

theorem data_payloadInstructions (payload : Bytes) :
    (payloadInstructions payload).flatMap Instruction.data = payload := by
  rw [payloadInstructions, List.flatMap_map]
  show (Bytes.chunks maxElementSize payload).flatMap (fun piece => piece) = payload
  rw [List.flatMap_id', Bytes.flatten_chunks (by decide)]

theorem op_notMem_payloadInstructions (opcode : UInt8) (payload : Bytes) :
    .op opcode ∉ payloadInstructions payload := by
  intro h
  obtain ⟨_, -, ⟨⟩⟩ := List.mem_map.1 h

/-- What a script for an envelope begins with, up to the marker. -/
def lead (key : Bytes) : Bytes :=
  shortestPush key ++ [opCheckSig, opFalse]

/-- What it goes on with behind the marker. -/
def content (e : Envelope) : Bytes :=
  codePush e.kind ++ (payloadPushes e.payload ++ [opEndIf])

/-- What it reads as. -/
def instructions (key : Bytes) (e : Envelope) : List Instruction :=
  [.push key, .op opCheckSig, .push [], .op opIf, .push (marker.drop 1), .push (Bytes.ofText e.kind.code)] ++
    (payloadInstructions e.payload ++ [.op opEndIf])

theorem codePush_eq (kind : OpKind) : codePush kind = shortestPush (Bytes.ofText kind.code) :=
  (shortestPush_direct (Nat.le_trans kind.length_code (by decide))).symm

/-- How a script is built: the key, a signature check, and a conditional that holds the marker, the
operation code and the payload. -/
theorem build_ok {key : Bytes} (hkey : key.length ≤ maxElementSize) (e : Envelope) :
    build key e = .ok (lead key ++ opIf :: (marker ++ e.content)) := by
  have hcode : (Bytes.ofText e.kind.code).length ≤ maxElementSize :=
    Nat.le_trans e.kind.length_code (by decide)
  have hmarker : (marker.drop 1).length ≤ maxElementSize := by decide
  have hmarkerPush : shortestPush (marker.drop 1) = marker := by decide
  refine bind_ok_iff.2 ⟨_, Builder.addData_ok {} hkey, ?_⟩
  refine bind_ok_iff.2 ⟨_, Builder.addData_ok _ hmarker, ?_⟩
  refine bind_ok_iff.2 ⟨_, Builder.addData_ok _ hcode, ?_⟩
  refine bind_ok_iff.2 ⟨_, Builder.foldlM_addData Bytes.length_le_of_mem_chunks _, ?_⟩
  refine congrArg Except.ok ?_
  rw [hmarkerPush, ← codePush_eq]
  simp only [Builder.addOp, lead, content, payloadPushes, List.nil_append, List.append_assoc, List.cons_append]

theorem yields_built {key : Bytes} (hkey : key.length ≤ maxElementSize) (e : Envelope) :
    Yields (lead key ++ opIf :: (marker ++ e.content)) (e.instructions key) := by
  have hcode : Yields (codePush e.kind) [.push (Bytes.ofText e.kind.code)] := by
    rw [codePush_eq]
    exact Yields.shortestPush (Nat.le_trans e.kind.length_code (by decide))
  -- the marker and the zero are pushes in the direct form, of four bytes and of none
  have hmarker : Yields marker [.push (marker.drop 1)] := by
    show Yields (PushForm.direct.encode (marker.drop 1)) _
    exact Yields.push .direct (by decide)
  have hzero : Yields [opFalse] [.push []] := by
    show Yields (PushForm.direct.encode []) _
    exact Yields.push .direct (by decide)
  have hlead : Yields (lead key) [.push key, .op opCheckSig, .push []] :=
    (Yields.shortestPush hkey).append ((Yields.op (by decide)).append hzero)
  have hcontent : Yields e.content ([.push (Bytes.ofText e.kind.code)] ++
      (payloadInstructions e.payload ++ [.op opEndIf])) :=
    hcode.append ((yields_payloadPushes e.payload).append (Yields.op (by decide)))
  exact hlead.append ((Yields.op (by decide)).append (hmarker.append hcontent))

theorem length_le_of_push_mem {key data : Bytes} (hkey : key.length ≤ maxElementSize) {e : Envelope}
    (h : .push data ∈ e.instructions key) : data.length ≤ maxElementSize := by
  rcases List.mem_append.1 h with hfront | hbehind
  · simp only [List.mem_cons, Instruction.push.injEq, reduceCtorEq, List.not_mem_nil, or_false, false_or] at hfront
    rcases hfront with rfl | rfl | rfl | rfl
    · exact hkey
    · exact Nat.zero_le _
    · decide
    · exact Nat.le_trans e.kind.length_code (by decide)
  · rcases List.mem_append.1 hbehind with hpiece | hlast
    · obtain ⟨_, hpiece, ⟨⟩⟩ := List.mem_map.1 hpiece
      exact Bytes.length_le_of_mem_chunks _ hpiece
    · cases List.mem_singleton.1 hlast

theorem ofScript_built {key : Bytes} (hkey : key.length = 32) (e : Envelope) (tail : Bytes) :
    ofScript (lead key ++ opIf :: (marker ++ e.content) ++ tail) = .ok (some e) := by
  have hpush : shortestPush key = keyPush :: key := by
    rw [shortestPush_direct (by omega), hkey]
    rfl
  have hscript : lead key ++ opIf :: (marker ++ e.content) ++ tail = (keyPush :: key) ++ ([opCheckSig, opFalse] ++
      opIf :: (marker ++ (codePush e.kind ++ (payloadPushes e.payload ++ opEndIf :: tail)))) := by
    simp only [lead, content, hpush, List.append_assoc, List.cons_append, List.nil_append]
  have hpayload : readPayload (payloadPushes e.payload ++ opEndIf :: tail) = .ok e.payload := by
    rw [readPayload_append (yields_payloadPushes e.payload) (op_notMem_payloadInstructions _ _),
      data_payloadInstructions]
  rw [hscript]
  exact ofScript_of_marker hkey (by decide) (List.append_ne_nil_of_right_ne_nil _ (List.cons_ne_nil _ _)) hpayload

/-- Building a script and reading it. For every key of thirty-two bytes and every envelope a script is
built, the envelope is found in it whatever bytes follow, and it can be read to its end with no element
of more than 520 bytes pushed in it. -/
theorem build_reads_back {key : Bytes} (hkey : key.length = 32) (e : Envelope) :
    ∃ script, build key e = .ok script ∧
      (∀ tail : Bytes, ofScript (script ++ tail) = .ok (some e)) ∧
      (Script.read script).error = none ∧
      ∀ data, .push data ∈ (Script.read script).instructions → data.length ≤ 520 := by
  have hsmall : key.length ≤ maxElementSize := hkey ▸ (by decide : 32 ≤ maxElementSize)
  refine ⟨_, build_ok hsmall e, ofScript_built hkey e, ?_⟩
  rw [(yields_built hsmall e).read_eq]
  exact ⟨rfl, fun data => length_le_of_push_mem hsmall⟩

/-- A key that begins like a marked conditional, and a payload in two pieces: one of ends of conditionals
only, and one that is a marked conditional with another operation. -/
theorem build_reads_back_imitating :
    let key : Bytes := opIf :: (marker ++ List.replicate 26 opEndIf)
    let e : Envelope := ⟨.skip, List.replicate 520 opEndIf ++ opIf :: (marker ++ codePush .nft ++ [opEndIf])⟩
    key.length = 32 ∧ ∃ script, build key e = .ok script ∧
      (∀ tail : Bytes, ofScript (script ++ tail) = .ok (some e)) ∧
      (Script.read script).error = none ∧
      ∀ data, .push data ∈ (Script.read script).instructions → data.length ≤ 520 := by
  intro key e
  have hkey : key.length = 32 := by decide
  exact ⟨hkey, build_reads_back hkey e⟩

end Envelope

end TokenOverlay
