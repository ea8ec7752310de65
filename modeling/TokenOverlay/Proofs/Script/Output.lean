/-
Payment markers. A script names the token that is paid for exactly if it spells a marker: perhaps a pushed
zero, a return, the marker of envelopes, a push of the letter `p` and a push of the token, with anything behind
it. A marker that is cut short names nothing, and no marker can be spent. A transaction pays for the token of
its first marker.
-/
import TokenOverlay.Proofs.Chain.Forms
import TokenOverlay.Proofs.Placement
import TokenOverlay.Proofs.Script.Envelope

namespace TokenOverlay

namespace Script

variable {script rest lead : Bytes} {id : TokenId}

/-! ## Markers -/

/-- What may stand in front of a return: nothing, or a pushed zero. -/
def IsLead (lead : Bytes) : Prop :=
  lead = [] ∨ lead = [opFalse]

/-- A script is a marker for a token. -/
def Marks (script : Bytes) (id : TokenId) : Prop :=
  ∃ lead tail, IsLead lead ∧
    script = lead ++ [opReturn] ++ [0x04, 0x61, 0x74, 0x6f, 0x6d] ++ [0x01, 0x70, 0x24] ++ id.bytes ++ tail

theorem marks_iff : Marks script id ↔ ∃ lead tail, IsLead lead ∧ script = lead ++ paymentMarker id ++ tail := by
  have hspelled : ∀ lead tail : Bytes, lead ++ [opReturn] ++ [0x04, 0x61, 0x74, 0x6f, 0x6d] ++ [0x01, 0x70, 0x24] ++
      id.bytes ++ tail = lead ++ paymentMarker id ++ tail := by
    intro lead tail
    simp only [paymentMarker, paymentLead, Envelope.marker, List.append_assoc, List.cons_append, List.nil_append]
  simp only [Marks, hspelled]

theorem append_paymentMarker (lead tail : Bytes) (id : TokenId) :
    lead ++ paymentMarker id ++ tail = lead ++ opReturn :: (paymentLead ++ (id.bytes ++ tail)) := by
  rw [paymentMarker, List.append_assoc, List.cons_append, List.cons_append, List.append_assoc]

theorem length_paymentMarker (id : TokenId) : (paymentMarker id).length = 45 := by
  rw [paymentMarker, List.cons_append, List.length_cons, List.length_append, id.length_bytes]
  rfl

/-- A marker takes forty-five bytes behind its lead. -/
theorem Marks.exists_length_le (h : Marks script id) :
    ∃ lead tail, IsLead lead ∧ script = lead ++ opReturn :: tail ∧ lead.length + 45 ≤ script.length := by
  obtain ⟨lead, tail, hlead, rfl⟩ := marks_iff.1 h
  refine ⟨lead, _, hlead, append_paymentMarker lead tail id, ?_⟩
  rw [List.length_append, List.length_append, length_paymentMarker]
  omega

theorem Marks.isReturn (h : Marks script id) : IsReturn script := by
  obtain ⟨lead, tail, hlead, rfl, -⟩ := h.exists_length_le
  rcases hlead with rfl | rfl
  · exact .inl ⟨tail, rfl⟩
  · exact .inr ⟨tail, rfl⟩

/-! ## Reading -/

theorem afterReturn?_eq_some :
    afterReturn? script = some rest ↔ ∃ lead, IsLead lead ∧ script = lead ++ opReturn :: rest := by
  constructor
  · intro h
    rcases script with _ | ⟨a, _ | ⟨b, more⟩⟩
    · cases h
    · simp only [afterReturn?, Option.ite_none_right_eq_some, Option.some.injEq] at h
      obtain ⟨rfl, rfl⟩ := h
      exact ⟨[], .inl rfl, rfl⟩
    · simp only [afterReturn?] at h
      split at h
      · rename_i hreturn
        cases h
        exact ⟨[], .inl rfl, by rw [hreturn]; rfl⟩
      · obtain ⟨⟨rfl, rfl⟩, hrest⟩ := Option.ite_none_right_eq_some.1 h
        cases hrest
        exact ⟨[opFalse], .inr rfl, rfl⟩
  · rintro ⟨lead, rfl | rfl, rfl⟩
    · cases rest <;> rfl
    · rfl

/-- Thirty-six bytes are taken off the front for the token. -/
theorem ofBytes_take_eq_some :
    (Outpoint.ofBytes (rest.take 36)).toOption = some id ↔ ∃ tail, rest = id.bytes ++ tail := by
  rw [toOption_eq_some, Outpoint.ofBytes_ok]
  constructor
  · intro h
    exact ⟨rest.drop 36, by rw [← h, List.take_append_drop]⟩
  · rintro ⟨tail, rfl⟩
    exact List.take_left' id.length_bytes

/-- A script names a token exactly if it is a marker for it. -/
theorem paidToken?_eq_some : paidToken? script = some id ↔ Marks script id := by
  simp only [paidToken?, Option.bind_eq_bind, Option.bind_eq_some_iff, afterReturn?_eq_some,
    Envelope.strip?_eq_some, ofBytes_take_eq_some, marks_iff]
  constructor
  · rintro ⟨_, ⟨lead, hlead, rfl⟩, _, rfl, tail, rfl⟩
    exact ⟨lead, tail, hlead, (append_paymentMarker lead tail id).symm⟩
  · rintro ⟨lead, tail, hlead, rfl⟩
    exact ⟨_, ⟨lead, hlead, append_paymentMarker lead tail id⟩, _, rfl, tail, rfl⟩

theorem paidToken?_eq_none : paidToken? script = none ↔ ∀ id, ¬ Marks script id := by
  simp only [Option.eq_none_iff_forall_ne_some, ne_eq, paidToken?_eq_some]

/-- A marker names nothing before its last byte is there. -/
theorem paidToken?_take {n : Nat} (hlead : IsLead lead) (h : n < (lead ++ paymentMarker id).length) :
    paidToken? ((lead ++ paymentMarker id).take n) = none := by
  rw [paidToken?_eq_none]
  intro id' hmarks
  obtain ⟨lead', tail, hlead', hscript, hlength⟩ := hmarks.exists_length_le
  rw [List.length_append, length_paymentMarker] at h
  rw [List.length_take] at hlength
  -- only a lead that is not there any more would leave room for a whole marker
  have hshorter : lead'.length < lead.length := by omega
  rcases hlead with rfl | rfl
  · exact absurd hshorter (Nat.not_lt_zero _)
  · rcases hlead' with rfl | rfl
    · have hfront := congrArg List.head? hscript
      cases n with
      | zero => cases hscript
      | succ n => exact absurd hfront (by simp [opFalse, opReturn])
    · exact absurd hshorter (Nat.lt_irrefl _)

end Script

namespace Transaction

open Script

variable {tx : Transaction} {id : TokenId}

/-! ## Transactions -/

theorem paidToken?_eq_some : tx.paidToken? = some id ↔ ∃ front o back, tx.outputs = front ++ o :: back ∧
    Marks o.script id ∧ ∀ o' ∈ front, ∀ id', ¬ Marks o'.script id' := by
  simp only [paidToken?, List.findSome?_eq_some_iff, Script.paidToken?_eq_some, paidToken?_eq_none]

theorem paidToken?_eq_none : tx.paidToken? = none ↔ ∀ o ∈ tx.outputs, ∀ id, ¬ Marks o.script id := by
  simp only [paidToken?, List.findSome?_eq_none_iff, Script.paidToken?_eq_none]

/-- Which scripts and transactions name a token that is paid for. A script names exactly the token that it is a
marker for, so a marker that is written for a token names that token whatever follows, a marker that is cut short
names none, and a script that names one cannot be spent. A transaction names the token of its first output that is
a marker, and none exactly if no output is one. -/
theorem payment_named_exactly :
    (∀ script id, Script.paidToken? script = some id ↔ Marks script id) ∧
    (∀ script, Script.paidToken? script = none ↔ ∀ id, ¬ Marks script id) ∧
    (∀ lead id tail, IsLead lead → Script.paidToken? (lead ++ paymentMarker id ++ tail) = some id) ∧
    (∀ lead id n, IsLead lead → n < (lead ++ paymentMarker id).length →
      Script.paidToken? ((lead ++ paymentMarker id).take n) = none) ∧
    (∀ script id, Marks script id → isUnspendable script = true) ∧
    (∀ (tx : Transaction) id, tx.paidToken? = some id ↔ ∃ front o back, tx.outputs = front ++ o :: back ∧
      Marks o.script id ∧ ∀ o' ∈ front, ∀ id', ¬ Marks o'.script id') ∧
    ∀ tx : Transaction, tx.paidToken? = none ↔ ∀ o ∈ tx.outputs, ∀ id, ¬ Marks o.script id := by
  refine ⟨fun _ _ => Script.paidToken?_eq_some, fun _ => Script.paidToken?_eq_none, fun lead id tail hlead => ?_,
    fun _ _ _ => paidToken?_take, fun _ _ h => isUnspendable_iff.2 h.isReturn,
    fun _ _ => paidToken?_eq_some, fun _ => paidToken?_eq_none⟩
  exact Script.paidToken?_eq_some.2 (marks_iff.2 ⟨lead, tail, hlead, rfl⟩)

/-- A marker without its last byte, a whole one behind a pushed zero, and one for another token. -/
theorem payment_named_exactly_second :
    let id : TokenId := ⟨.fill 5, 2⟩
    let short := ([] ++ paymentMarker id).take 44
    let whole := [opFalse] ++ paymentMarker id ++ [0xff]
    (IsLead [] ∧ 44 < ([] ++ paymentMarker id).length ∧ Script.paidToken? short = none) ∧
      (IsLead [opFalse] ∧ Script.paidToken? whole = some id) ∧ (Marks whole id ∧ isUnspendable whole = true) ∧
      (⟨.fill 0xee, [], [⟨546, short⟩, ⟨0, whole⟩, ⟨0, paymentMarker ⟨.fill 6, 0⟩⟩]⟩ : Transaction).paidToken? =
        some id := by
  intro id short whole
  obtain ⟨hsome, hnone, hwritten, hcut, hunspendable, hfirst, -⟩ := payment_named_exactly
  have hlength : 44 < ([] ++ paymentMarker id).length := by rw [List.nil_append, length_paymentMarker]; decide
  have hshort : Script.paidToken? short = none := hcut [] id 44 (.inl rfl) hlength
  have hwhole : Script.paidToken? whole = some id := hwritten [opFalse] id [0xff] (.inr rfl)
  have hmarks : Marks whole id := (hsome whole id).1 hwhole
  refine ⟨⟨.inl rfl, hlength, hshort⟩, ⟨.inr rfl, hwhole⟩, ⟨hmarks, hunspendable whole id hmarks⟩, ?_⟩
  refine (hfirst _ id).2 ⟨[⟨546, short⟩], ⟨0, whole⟩, _, rfl, hmarks, fun o ho => ?_⟩
  obtain rfl := List.mem_singleton.1 ho
  exact (hnone short).1 hshort

end Transaction

end TokenOverlay
