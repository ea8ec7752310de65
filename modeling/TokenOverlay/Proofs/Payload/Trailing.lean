/-
Bytes behind a payload. Only the first item of the payload bytes is read, so that bytes pushed after it change
neither what a payload is read as nor which operation a transaction carries.
-/
import TokenOverlay.Proofs.Cbor.Trailing
import TokenOverlay.Proofs.Locate
import TokenOverlay.Proofs.Payload.Decode

namespace TokenOverlay

namespace Payload

variable {b : Bytes} {m : Map}

/-- Bytes that begin with an item are read as that item, and accepted or refused for it. -/
theorem decode_trailing {r : Cbor.Item × Bytes} (h : Cbor.Item.read? b = some r) (tail : Bytes) :
    decode (b ++ tail) = decode b := by
  obtain ⟨item, rest⟩ := r
  cases b with
  | nil => cases h
  | cons x b =>
    have htail := Cbor.Item.read?_trailing h tail
    simp only [decode, List.cons_append, List.isEmpty_cons, h] at htail ⊢
    rw [htail]
    cases item <;> rfl

theorem exists_read?_of_decode (h : decode b = .ok m) : ∃ r, Cbor.Item.read? b = some r := by
  obtain ⟨entries, rest, hread, -⟩ := mapOfEntries?_of_decode h
  exact ⟨_, hread⟩

theorem decodeSound_congr {b b' : Bytes} (h : decode b = decode b') : decodeSound b = decodeSound b' := by
  unfold decodeSound
  rw [h]

theorem decodeSound_trailing (h : decodeSound b = .ok m) (tail : Bytes) : decodeSound (b ++ tail) = .ok m := by
  obtain ⟨r, hread⟩ := exists_read?_of_decode (decode_of_decodeSound h)
  rw [decodeSound_congr (decode_trailing hread tail), h]

end Payload

namespace Transaction

/-- The transaction in which the input with the given index has another witness. -/
def withWitness (tx : Transaction) (i : Nat) (w : Witness) : Transaction :=
  { tx with inputs := tx.inputs.modify i fun input => { input with witness := w } }

variable {tx : Transaction} {op : Located} {w : Witness}

theorem withWitness_getElem? (tx : Transaction) (i : Nat) (w : Witness) :
    (tx.withWitness i w).inputs[i]? = tx.inputs[i]?.map fun input => { input with witness := w } := by
  rw [withWitness, List.getElem?_modify_eq, Option.map_eq_map]

theorem withWitness_getElem?_of_lt (tx : Transaction) {i j : Nat} (h : j < i) (w : Witness) :
    (tx.withWitness i w).inputs[j]? = tx.inputs[j]? := by
  rw [withWitness, List.getElem?_modify_ne _ _ (Nat.ne_of_gt h)]

/-- An operation stays where it was located if the witness there is replaced by one with a sound payload. -/
theorem locate_withWitness {e : Envelope} {payload : Payload.Map} (h : tx.locate.1 = some op)
    (he : e.Decides w) (hsound : Payload.decodeSound e.payload = .ok payload) :
    (tx.withWitness op.inputIndex w).locate.1 =
      some { op with kind := e.kind, payload := payload, payloadBytes := e.payload } := by
  obtain ⟨⟨input, hi, hop⟩, hleast⟩ := locate_eq_some.1 h
  obtain ⟨e₀, payload₀, -, heq⟩ := Input.operation?_eq_some.1 hop
  refine locate_eq_some.2 ⟨⟨{ input with witness := w }, ?_, ?_⟩, fun j hj => ?_⟩
  · rw [withWitness_getElem?, hi, Option.map_some]
  · refine Input.operation?_eq_some.2 ⟨e, payload, ⟨he, hsound⟩, ?_⟩
    rw [heq]
    rfl
  · -- no input before it has changed
    simp only [SoundAt, withWitness_getElem?_of_lt tx hj]
    exact hleast j hj

/-- Trailing bytes never matter to a payload. Bytes that are read as a payload, sound or not, are read as the same
payload whatever is pushed behind them, and the operation of a transaction is located where it was, with the same
payload. -/
theorem trailing_bytes_ignored (b tail : Bytes) (m : Payload.Map) :
    (Payload.decode b = .ok m → Payload.decode (b ++ tail) = .ok m) ∧
    (Payload.decodeSound b = .ok m → Payload.decodeSound (b ++ tail) = .ok m) ∧
    ∀ (tx : Transaction) (op : Located) (w : Witness), tx.locate.1 = some op →
      Envelope.Decides ⟨op.kind, op.payloadBytes ++ tail⟩ w →
      (tx.withWitness op.inputIndex w).locate.1 = some { op with payloadBytes := op.payloadBytes ++ tail } := by
  refine ⟨fun h => ?_, fun h => Payload.decodeSound_trailing h tail, fun tx op w h hw => ?_⟩
  · obtain ⟨r, hread⟩ := Payload.exists_read?_of_decode h
    rw [Payload.decode_trailing hread, h]
  · obtain ⟨input, e, -, hcarries, -, hbytes, -⟩ := located_origin h
    have hsound := Payload.decodeSound_trailing (hbytes ▸ hcarries.sound) tail
    exact locate_withWitness h hw hsound

/-- A map of open length that holds a number under a tag; a break and an empty map are pushed behind it. -/
theorem trailing_bytes_ignored_break :
    let b : Bytes := [0xbf, 0x61, 0x61, 0xc2, 0x41, 5, 0xff]
    let tail : Bytes := [0xff, 0xa0]
    let tx : Transaction := ⟨.fill 9, [⟨⟨.fill 1, 0⟩, [revealScript .nft (7 :: b)]⟩], []⟩
    let w : Witness := [revealScript .nft (7 :: b ++ 2 :: tail)]
    Payload.decodeSound b = .ok [("a", .int 5)] ∧ Payload.decode (b ++ tail) = .ok [("a", .int 5)] ∧
      Payload.decodeSound (b ++ tail) = .ok [("a", .int 5)] ∧
      ∃ op, tx.locate.1 = some op ∧ Envelope.Decides ⟨op.kind, op.payloadBytes ++ tail⟩ w ∧
        (tx.withWitness op.inputIndex w).locate.1 = some { op with payloadBytes := op.payloadBytes ++ tail } := by
  intro b tail tx w
  obtain ⟨hdecode, hsound, hlocate⟩ := trailing_bytes_ignored b tail [("a", .int 5)]
  have hb : Payload.decodeSound b = .ok [("a", .int 5)] := rfl
  have hread : (tx.locate.1.map fun op => (op.kind, op.payloadBytes)) = some (.nft, b) := by decide +kernel
  obtain ⟨op, hop, heq⟩ := Option.map_eq_some_iff.1 hread
  obtain ⟨hkind, hbytes⟩ := Prod.mk.inj heq
  have hw : Envelope.Decides ⟨op.kind, op.payloadBytes ++ tail⟩ w := by
    rw [hkind, hbytes]
    exact Envelope.ofWitness_eq_some.1 (by decide +kernel)
  exact ⟨hb, hdecode (Payload.decode_of_decodeSound hb), hsound hb, op, hop, hw, hlocate tx op w hop hw⟩

end Transaction

end TokenOverlay
