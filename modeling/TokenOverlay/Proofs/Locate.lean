/-
Which operation a transaction carries. For an input the envelope of the first witness element that
holds one decides; for the transaction the first input decides whose envelope has a sound payload.
The two searches give way at different levels: an element that cannot be read gives way to the next
element of the same witness, an envelope with a rejected payload to the next input.
-/
import TokenOverlay.Located

namespace TokenOverlay

/-! ## The envelope of a witness -/

namespace Envelope

/-- The envelope that an element holds; there is none if the element cannot be read. -/
def held? (element : Bytes) : Option Envelope :=
  match ofScript element with
  | .ok e? => e?
  | .error _ => none

theorem held?_eq_some {element : Bytes} {e : Envelope} :
    held? element = some e ↔ ofScript element = .ok (some e) := by
  unfold held?
  cases ofScript element <;> simp

theorem held?_eq_none {element : Bytes} :
    held? element = none ↔ ∀ e, ofScript element ≠ .ok (some e) := by
  simp only [ne_eq, ← held?_eq_some]
  exact Option.eq_none_iff_forall_ne_some

theorem ofWitness_fst (w : Witness) : (ofWitness w).1 = w.findSome? held? := by
  induction w with
  | nil => rfl
  | cons element rest ih =>
    rw [List.findSome?_cons]
    unfold ofWitness held?
    cases ofScript element with
    | error e => exact ih
    | ok e? =>
      cases e? with
      | none => exact ih
      | some e => rfl

/-- The envelope that decides for a witness: that of the first element that holds one. -/
def Decides (e : Envelope) (w : Witness) : Prop :=
  ∃ before element after, w = before ++ element :: after ∧ ofScript element = .ok (some e) ∧
    ∀ x ∈ before, ∀ e', ofScript x ≠ .ok (some e')

theorem ofWitness_eq_some {w : Witness} {e : Envelope} : (ofWitness w).1 = some e ↔ e.Decides w := by
  rw [ofWitness_fst, List.findSome?_eq_some_iff]
  simp only [held?_eq_some, held?_eq_none, Decides]

/-- An element that cannot be read does not matter to a witness. -/
theorem ofWitness_malformed {front back : Witness} {x : Bytes} {err : Script.Error}
    (h : ofScript x = .error err) :
    (ofWitness (front ++ x :: back)).1 = (ofWitness (front ++ back)).1 := by
  have hx : held? x = none := by unfold held?; rw [h]
  simp only [ofWitness_fst, List.findSome?_append, List.findSome?_cons, hx]

end Envelope

/-! ## The operation of an input -/

namespace Input

/-- An input carries a payload in an envelope: the envelope decides for the input and the payload is
sound. -/
structure Carries (input : Input) (e : Envelope) (payload : Payload.Map) : Prop where
  decides : e.Decides input.witness
  sound : Payload.decodeSound e.payload = .ok payload

/-- The operation of an input of a transaction that is number `i`. -/
def operation? (id : Digest) (i : Nat) (input : Input) : Option Located :=
  match (Envelope.ofWitness input.witness).1 with
  | none => none
  | some e =>
    match Payload.decodeSound e.payload with
    | .ok payload => some ⟨e.kind, payload, e.payload, i, input.spends, input.spends, ⟨id, 0⟩⟩
    | .error _ => none

theorem operation?_eq_some {id : Digest} {i : Nat} {input : Input} {op : Located} :
    input.operation? id i = some op ↔ ∃ e payload, input.Carries e payload ∧
      op = ⟨e.kind, payload, e.payload, i, input.spends, input.spends, ⟨id, 0⟩⟩ := by
  constructor
  · intro h
    unfold operation? at h
    split at h
    · cases h
    · rename_i e he
      split at h
      · rename_i payload hp
        cases h
        exact ⟨e, payload, ⟨Envelope.ofWitness_eq_some.1 he, hp⟩, rfl⟩
      · cases h
  · rintro ⟨e, payload, ⟨he, hp⟩, rfl⟩
    simp only [operation?, Envelope.ofWitness_eq_some.2 he, hp]

theorem operation?_eq_none {id : Digest} {i : Nat} {input : Input} :
    input.operation? id i = none ↔ ∀ e payload, ¬ input.Carries e payload := by
  constructor
  · intro h e payload hc
    rw [operation?_eq_some.2 ⟨e, payload, hc, rfl⟩] at h
    cases h
  · intro h
    rw [Option.eq_none_iff_forall_ne_some]
    intro op hop
    obtain ⟨e, payload, hc, -⟩ := operation?_eq_some.1 hop
    exact h e payload hc

theorem inputIndex_of_operation? {id : Digest} {i : Nat} {input : Input} {op : Located}
    (h : input.operation? id i = some op) : op.inputIndex = i := by
  obtain ⟨e, payload, -, rfl⟩ := operation?_eq_some.1 h
  rfl

/-- A rejected payload leaves the input without an operation, whatever follows in its witness. -/
theorem operation?_rejected {id : Digest} {i : Nat} {input : Input} {e : Envelope} {err : Payload.Error}
    (he : e.Decides input.witness) (hp : Payload.decodeSound e.payload = .error err) :
    input.operation? id i = none := by
  simp only [operation?, Envelope.ofWitness_eq_some.2 he, hp]

end Input

/-! ## The operation of a transaction -/

namespace Transaction

theorem locateFrom_cons (id : Digest) (i : Nat) (input : Input) (rest : List Input) :
    (locateFrom id i (input :: rest)).1 = (input.operation? id i).or (locateFrom id (i + 1) rest).1 := by
  simp only [locateFrom, Input.operation?]
  rcases Envelope.ofWitness input.witness with ⟨_ | e, logs⟩
  · rfl
  · cases hp : Payload.decodeSound e.payload <;> simp only [hp, Option.or]

theorem locateFrom_append (id : Digest) (i : Nat) (before after : List Input) :
    (locateFrom id i (before ++ after)).1 =
      (locateFrom id i before).1.or (locateFrom id (i + before.length) after).1 := by
  induction before generalizing i with
  | nil => rfl
  | cons input rest ih =>
    rw [List.cons_append, locateFrom_cons, locateFrom_cons, ih, Option.or_assoc, List.length_cons,
      Nat.add_right_comm, Nat.add_assoc]

/-- Inputs that yield the same operation are interchangeable. -/
theorem locateFrom_replace {id : Digest} {x y : Input} (h : ∀ i, x.operation? id i = y.operation? id i)
    (i : Nat) (before after : List Input) :
    (locateFrom id i (before ++ x :: after)).1 = (locateFrom id i (before ++ y :: after)).1 := by
  simp only [locateFrom_append, locateFrom_cons, h]

theorem locateFrom_eq_some {id : Digest} {i : Nat} {inputs : List Input} {op : Located} :
    (locateFrom id i inputs).1 = some op ↔ ∃ (k : Nat) (input : Input), inputs[k]? = some input ∧
      input.operation? id (i + k) = some op ∧
      ∀ (j : Nat) (x : Input), j < k → inputs[j]? = some x → x.operation? id (i + j) = none := by
  induction inputs generalizing i with
  | nil => simp [locateFrom]
  | cons input rest ih =>
    rw [locateFrom_cons, Option.or_eq_some_iff, ih]
    -- the later inputs are numbered from `i + 1`
    simp only [Nat.add_right_comm i 1]
    constructor
    · rintro (h | ⟨hn, k, x, hx, hop, hleast⟩)
      · exact ⟨0, input, rfl, h, fun j _ hj => absurd hj (Nat.not_lt_zero j)⟩
      · refine ⟨k + 1, x, hx, hop, fun j y hj hy => ?_⟩
        cases j with
        | zero => cases hy; exact hn
        | succ j => exact hleast j y (Nat.lt_of_succ_lt_succ hj) hy
    · rintro ⟨k, x, hx, hop, hleast⟩
      cases k with
      | zero => cases hx; exact .inl hop
      | succ k =>
        exact .inr ⟨hleast 0 input (Nat.succ_pos k) rfl, k, x, hx, hop,
          fun j y hj hy => hleast (j + 1) y (Nat.succ_lt_succ hj) hy⟩

theorem locateFrom_eq_none {id : Digest} {i : Nat} {inputs : List Input} :
    (locateFrom id i inputs).1 = none ↔
      ∀ (j : Nat) (x : Input), inputs[j]? = some x → x.operation? id (i + j) = none := by
  induction inputs generalizing i with
  | nil => simp [locateFrom]
  | cons input rest ih =>
    rw [locateFrom_cons, Option.or_eq_none_iff, ih]
    simp only [Nat.add_right_comm i 1]
    constructor
    · rintro ⟨h0, h⟩ j x hx
      cases j with
      | zero => cases hx; exact h0
      | succ j => exact h j x hx
    · intro h
      exact ⟨h 0 input rfl, fun j x hx => h (j + 1) x hx⟩

/-- The input with the given index has a deciding envelope with a sound payload. -/
def SoundAt (tx : Transaction) (i : Nat) : Prop :=
  ∃ input e payload, tx.inputs[i]? = some input ∧ input.Carries e payload

theorem not_soundAt {tx : Transaction} {i : Nat} :
    ¬ tx.SoundAt i ↔ ∀ x, tx.inputs[i]? = some x → x.operation? tx.id i = none := by
  constructor
  · intro h x hx
    exact Input.operation?_eq_none.2 fun e payload hc => h ⟨x, e, payload, hx, hc⟩
  · rintro h ⟨x, e, payload, hx, hc⟩
    exact Input.operation?_eq_none.1 (h x hx) e payload hc

/-- A located operation comes from the input it names, and no input before that one is sound. -/
theorem locate_eq_some {tx : Transaction} {op : Located} :
    tx.locate.1 = some op ↔ (∃ input, tx.inputs[op.inputIndex]? = some input ∧
      input.operation? tx.id op.inputIndex = some op) ∧ ∀ j < op.inputIndex, ¬ tx.SoundAt j := by
  simp only [locate, locateFrom_eq_some, Nat.zero_add, not_soundAt]
  constructor
  · rintro ⟨k, input, hk, hop, hleast⟩
    obtain rfl := Input.inputIndex_of_operation? hop
    exact ⟨⟨input, hk, hop⟩, fun j hj x => hleast j x hj⟩
  · rintro ⟨⟨input, hk, hop⟩, hleast⟩
    exact ⟨op.inputIndex, input, hk, hop, fun j x hj => hleast j hj x⟩

theorem locate_eq_none {tx : Transaction} : tx.locate.1 = none ↔ ∀ i, ¬ tx.SoundAt i := by
  simp only [locate, locateFrom_eq_none, Nat.zero_add, not_soundAt]

/-- An operation is located at an input exactly if that is the first sound one. -/
theorem locate_at_iff (tx : Transaction) (i : Nat) :
    (∃ op, tx.locate.1 = some op ∧ op.inputIndex = i) ↔ tx.SoundAt i ∧ ∀ j < i, ¬ tx.SoundAt j := by
  constructor
  · rintro ⟨op, h, rfl⟩
    obtain ⟨⟨input, hi, hop⟩, hleast⟩ := locate_eq_some.1 h
    obtain ⟨e, payload, hc, -⟩ := Input.operation?_eq_some.1 hop
    exact ⟨⟨input, e, payload, hi, hc⟩, hleast⟩
  · rintro ⟨⟨input, e, payload, hi, hc⟩, hleast⟩
    have hsome : input.operation? tx.id i ≠ none := fun hn => Input.operation?_eq_none.1 hn e payload hc
    obtain ⟨op, hop⟩ := Option.ne_none_iff_exists'.1 hsome
    obtain rfl := Input.inputIndex_of_operation? hop
    exact ⟨op, locate_eq_some.2 ⟨⟨input, hi, hop⟩, hleast⟩, rfl⟩

/-- The input at which an operation was located, and the envelope it was read from. -/
theorem located_origin {tx : Transaction} {op : Located} (h : tx.locate.1 = some op) :
    ∃ input e, tx.inputs[op.inputIndex]? = some input ∧ input.Carries e op.payload ∧
      op.kind = e.kind ∧ op.payloadBytes = e.payload ∧
      op.commit = input.spends ∧ op.commitLocation = input.spends ∧ op.reveal = ⟨tx.id, 0⟩ := by
  obtain ⟨⟨input, hi, hop⟩, -⟩ := locate_eq_some.1 h
  obtain ⟨e, payload, hc, heq⟩ := Input.operation?_eq_some.1 hop
  refine ⟨input, e, hi, ?_⟩
  rw [heq]
  exact ⟨hc, rfl, rfl, rfl, rfl, rfl⟩

/-- Where the operation of a transaction comes from. It is that of the first input whose deciding
envelope has a sound payload, and there is none if no input has one. An input whose deciding envelope
has a rejected payload counts for nothing, whatever its witness holds further on; an element that
cannot be read counts for nothing in its witness. -/
theorem locate_first_sound (tx : Transaction) :
    (∀ i, (∃ op, tx.locate.1 = some op ∧ op.inputIndex = i) ↔ tx.SoundAt i ∧ ∀ j < i, ¬ tx.SoundAt j) ∧
    (tx.locate.1 = none ↔ ∀ i, ¬ tx.SoundAt i) ∧
    (∀ op, tx.locate.1 = some op → ∃ (input : Input) (e : Envelope),
      tx.inputs[op.inputIndex]? = some input ∧ e.Decides input.witness ∧
      Payload.decodeSound e.payload = .ok op.payload ∧ op.kind = e.kind ∧ op.payloadBytes = e.payload ∧
      op.commit = input.spends ∧ op.commitLocation = input.spends ∧ op.reveal = ⟨tx.id, 0⟩) ∧
    (∀ (before : List Input) (input : Input) (after : List Input) (e : Envelope) (err : Payload.Error),
      tx.inputs = before ++ input :: after → e.Decides input.witness →
      Payload.decodeSound e.payload = .error err →
      (locate { tx with inputs := before ++ { input with witness := [] } :: after }).1 = tx.locate.1) ∧
    (∀ (before : List Input) (input : Input) (after : List Input) (front : Witness) (x : Bytes)
      (back : Witness) (err : Script.Error), tx.inputs = before ++ input :: after →
      input.witness = front ++ x :: back → Envelope.ofScript x = .error err →
      (locate { tx with inputs := before ++ { input with witness := front ++ back } :: after }).1 =
        tx.locate.1) := by
  refine ⟨locate_at_iff tx, locate_eq_none, fun op h => ?_, ?_, ?_⟩
  · obtain ⟨input, e, hi, hc, hrest⟩ := located_origin h
    exact ⟨input, e, hi, hc.decides, hc.sound, hrest⟩
  · intro before input after e err htx he hp
    simp only [locate, htx]
    refine locateFrom_replace (fun i => ?_) 0 before after
    rw [Input.operation?_rejected he hp]
    rfl
  · intro before input after front x back err htx hw hx
    simp only [locate, htx]
    refine locateFrom_replace (fun i => ?_) 0 before after
    simp only [Input.operation?, hw, Envelope.ofWitness_malformed hx]

/-- A witness element under a fixed key that reveals an operation code and pushes. -/
def revealScript (kind : OpKind) (pushes : Bytes) : Bytes :=
  Envelope.keyPush :: List.replicate 32 7 ++
    Script.opIf :: Envelope.marker ++ Envelope.codePush kind ++ pushes ++ [Script.opEndIf]

/-- At the first input an element is cut short and the payload of the next one is rejected, so that
the sound one behind it does not count; the second input decides. Neither the cut element nor the
whole first witness matters. -/
theorem locate_first_sound_mixed :
    let cut := revealScript .nft [5, 0xa0]
    let bad := revealScript .nft [1, 0xff]
    let good := revealScript .nft [1, 0xa0]
    let first : Input := ⟨⟨.fill 1, 0⟩, [cut, bad, good]⟩
    let second : Input := ⟨⟨.fill 2, 1⟩, [[], revealScript .data [1, 0xa0], good]⟩
    let tx : Transaction := ⟨.fill 9, [first, second], []⟩
    (tx.locate.1.map fun op => (op.inputIndex, op.kind)) = some (1, .data) ∧
      tx.SoundAt 1 ∧ ¬ tx.SoundAt 0 ∧
      (locate { tx with inputs := [{ first with witness := [] }, second] }).1 = tx.locate.1 ∧
      (locate { tx with inputs := [{ first with witness := [bad, good] }, second] }).1 = tx.locate.1 := by
  intro cut bad good first second tx
  have h : (tx.locate.1.map fun op => (op.inputIndex, op.kind)) = some (1, .data) := by decide +kernel
  obtain ⟨hat, -, -, hrejected, hmalformed⟩ := locate_first_sound tx
  obtain ⟨op, hop, hi⟩ := Option.map_eq_some_iff.1 h
  obtain ⟨hs, hleast⟩ := (hat 1).1 ⟨op, hop, congrArg Prod.fst hi⟩
  have hdecides : Envelope.Decides ⟨.nft, [0xff]⟩ first.witness :=
    Envelope.ofWitness_eq_some.1 (by decide +kernel)
  have hcut : (Envelope.ofScript cut).isOk = false := by decide +kernel
  cases herr : Envelope.ofScript cut with
  | ok e? => rw [herr] at hcut; cases hcut
  | error err =>
    exact ⟨h, hs, hleast 0 Nat.one_pos, hrejected [] first [second] _ .malformed rfl hdecides rfl,
      hmalformed [] first [second] [] cut [bad, good] err rfl rfl herr⟩

end Transaction

end TokenOverlay
