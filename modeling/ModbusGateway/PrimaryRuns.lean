import ModbusGateway.SecondaryRuns
import ModbusGateway.Lib.Run

/-!
# The primary station over runs (opendnp3)

What the session sends of its own accord: the segments of the messages handed down and requests for a sign of
life, in between whatever arrives.

* `segments_in_order` — the data frames that went out, the one that is pending and the segments still to come are
  together the segments of the messages accepted, in order; and no frame is written over before it is out.

This needs that a request for the link status is out before its answer comes or its timer fires: either takes
the primary back to idle, and a segment is then formatted over the request.
-/

namespace Opendnp3

namespace TransportTx

/-- What comes behind the segment that was taken. -/
def restOf (tx : TransportTx) : List (List UInt8) := if tx.advance.1 then tx.advance.2.transmit.1 else []

/-- The transmitter when all of it is sent. -/
def lastOf (tx : TransportTx) : TransportTx := if tx.advance.1 then tx.advance.2.transmit.2 else tx.advance.2

end TransportTx

namespace Session

variable {s t : Session} {f : LinkFrame}

def isData (f : LinkFrame) : Bool := f.fields.func == .priUnconfirmedUserData

def segmentFrame (isMaster : Bool) (segment : Message) : LinkFrame :=
  .unconfirmedUserData isMaster segment.addresses.destination segment.addresses.source segment.payload

/-- The data frames that went out. -/
def dataSent (s : Session) : List LinkFrame :=
  s.out.filterMap fun
    | .transmit f => if isData f then some f else none
    | _ => none

/-- The messages that were accepted. -/
def acceptedSoFar (s : Session) : List Message :=
  s.out.filterMap fun
    | .accepted message => some message
    | _ => none

/-- The segments still to come. -/
def unsent (s : Session) : List Message :=
  if s.pSegments then
    (if s.priState = .sendUnconfirmedTransmitWait then s.transmitter.restOf else s.transmitter.transmit.1).map
      (Message.mk s.transmitter.message.addresses)
  else []

/-- The transmitter when all of it is sent. -/
def settled (s : Session) : TransportTx :=
  if s.pSegments then
    if s.priState = .sendUnconfirmedTransmitWait then s.transmitter.lastOf else s.transmitter.transmit.2
  else s.transmitter

/-- The primary's buffer is in use exactly while it sends, or waits for its request to go out. -/
structure Primary (s : Session) : Prop where
  pending : s.pendingPriTx.isSome → s.txMode = .secondary
  idle : s.priState = .idle → s.busy true = false
  sending : s.priState = .sendUnconfirmedTransmitWait → s.busy true = true ∧ s.pSegments = true
  request : s.priState = .requestLinkStatusWait → s.pendingPriTx.toList.filter isData = []
  quiet : .overwritten true ∉ s.out

/-- The transport layer is told of the end of each message before it hands down the next. -/
structure Told (s : Session) : Prop where
  segments : s.pSegments = true → s.isSending = true ∧ s.posted = 0
  done : s.pSegments = false → s.isSending = (s.posted == 1) ∧ s.posted ≤ 1

/-- **What was sent, is pending and is still to come are the segments of the messages accepted.** -/
structure Flow (tx : TransportTx) (s : Session) : Prop where
  frames : s.dataSent ++ s.pendingPriTx.toList.filter isData ++ s.unsent.map (segmentFrame s.config.isMaster) =
    (tx.sendAll s.acceptedSoFar).2.map (segmentFrame s.config.isMaster)
  settled : s.settled = (tx.sendAll s.acceptedSoFar).1

/-! ## Outputs -/

theorem dataSent_append (outs : List SessionOutput) (h : t.out = s.out ++ outs) :
    t.dataSent = s.dataSent ++ outs.filterMap fun
      | .transmit f => if isData f then some f else none
      | _ => none := by
  rw [dataSent, h, List.filterMap_append]
  rfl

theorem acceptedSoFar_append (outs : List SessionOutput) (h : t.out = s.out ++ outs) :
    t.acceptedSoFar = s.acceptedSoFar ++ outs.filterMap fun
      | .accepted message => some message
      | _ => none := by
  rw [acceptedSoFar, h, List.filterMap_append]
  rfl

theorem SecondaryMove.dataSent (h : SecondaryMove s t) :
    t.dataSent = s.dataSent ∧ t.acceptedSoFar = s.acceptedSoFar := by
  obtain ⟨outs, hout, hall⟩ := h.out
  rw [dataSent_append outs hout, acceptedSoFar_append outs hout]
  constructor
  · rw [List.append_right_eq_self, List.filterMap_eq_nil_iff]
    intro o ho
    have ho := hall o ho
    cases o with
    | transmit f =>
      have hdata : isData f = false := by
        rw [SessionOutput.ofSecondary, Bool.or_eq_true, beq_iff_eq, beq_iff_eq] at ho
        rcases ho with ho | ho <;> rw [isData, ho] <;> rfl
      show (if isData f = true then some f else none) = none
      rw [hdata]
      rfl
    | _ => rfl
  · rw [List.append_right_eq_self, List.filterMap_eq_nil_iff]
    intro o ho
    have ho := hall o ho
    cases o <;> first | rfl | cases ho

theorem SecondaryMove.busy (h : SecondaryMove s t) : t.busy true = s.busy true := by
  rw [Session.busy, Session.busy, h.pendingPriTx]
  rcases h.txMode with hmode | ⟨hidle, hmode⟩
  · rw [hmode]
  · rw [hmode, hidle]
    rfl

/-- What is sent stays as it is. -/
structure Steady (s t : Session) : Prop where
  queued : t.dataSent ++ t.pendingPriTx.toList.filter isData = s.dataSent ++ s.pendingPriTx.toList.filter isData
  accepted : t.acceptedSoFar = s.acceptedSoFar
  transmitter : t.transmitter = s.transmitter
  pSegments : t.pSegments = s.pSegments
  config : t.config = s.config
  isSending : t.isSending = s.isSending
  posted : t.posted = s.posted
  sending : t.priState = .sendUnconfirmedTransmitWait ↔ s.priState = .sendUnconfirmedTransmitWait

theorem Steady.told (h : Steady s t) (hs : Told s) : Told t := by
  constructor
  · rw [h.pSegments, h.isSending, h.posted]
    exact hs.segments
  · rw [h.pSegments, h.isSending, h.posted]
    exact hs.done

theorem Steady.flow {tx : TransportTx} (h : Steady s t) (hs : Flow tx s) : Flow tx t := by
  constructor
  · simp only [unsent, h.queued, h.accepted, h.config, h.pSegments, h.sending, h.transmitter]
    exact hs.frames
  · simp only [Session.settled, h.accepted, h.pSegments, h.sending, h.transmitter]
    exact hs.settled

/-! ## The primary's operations -/

/-- What holds of the primary and of what it sends. -/
structure Sends (tx : TransportTx) (s : Session) : Prop extends Primary s, Told s, Flow tx s

variable {tx : TransportTx}

/-- Nothing is told that concerns what is sent. -/
theorem steady_emit (s : Session) {o : SessionOutput}
    (ho : o = .sent ∨ o = .keepAliveSuccess ∨ o = .keepAliveFailure) :
    (s.emit o).dataSent = s.dataSent ∧ (s.emit o).acceptedSoFar = s.acceptedSoFar ∧
      (.overwritten true ∉ s.out → .overwritten true ∉ (s.emit o).out) := by
  rw [dataSent_append (s := s) [o] rfl, acceptedSoFar_append (s := s) [o] rfl, emit, List.mem_append,
    not_or]
  rcases ho with rfl | rfl | rfl <;>
    exact ⟨List.append_nil _, List.append_nil _, fun h => ⟨h, fun e => by cases List.mem_singleton.1 e⟩⟩

theorem Sends.emit (hs : Sends tx s) {o : SessionOutput}
    (ho : o = .sent ∨ o = .keepAliveSuccess ∨ o = .keepAliveFailure) : Sends tx (s.emit o) := by
  obtain ⟨hdata, haccepted, hquiet⟩ := steady_emit s ho
  have hsteady : Steady s (s.emit o) := ⟨by rw [hdata]; rfl, haccepted, rfl, rfl, rfl, rfl, rfl, Iff.rfl⟩
  exact { hsteady.told hs.toTold, hsteady.flow hs.toFlow with
          pending := hs.pending, idle := hs.idle, sending := hs.sending, request := hs.request
          quiet := hquiet hs.quiet }

theorem Sends.unexpectedFrame (hs : Sends tx s) : Sends tx s.unexpectedFrame :=
  { hs with }

/-- The link has just come up, and no callback is left from before. -/
structure Fresh (s : Session) : Prop where
  isOnline : s.isOnline = true
  idle : s.priState = .idle ∧ s.secState = .notReset ∧ s.txMode = .idle
  empty : s.pSegments = false ∧ s.isSending = false ∧ s.posted = 0
  pending : s.pendingPriTx = none ∧ s.pendingSecTx = none
  out : s.out = []

theorem Fresh.sends (h : Fresh s) : Sends s.transmitter s ∧ Secondary s ∧ Answered s := by
  obtain ⟨-, ⟨hpri, hsec, hmode⟩, ⟨hsegments, hsending, hposted⟩, ⟨hpending, hpending'⟩, hout⟩ := h
  have hfree : ∀ p, s.busy p = false := by
    intro p
    cases p <;> simp [busy, hmode, hpending, hpending']
  refine ⟨⟨⟨?_, fun _ => hfree true, ?_, ?_, ?_⟩, ⟨?_, ?_⟩, ⟨?_, ?_⟩⟩, ⟨?_, ?_, ?_⟩, fun _ => hfree false⟩
  all_goals simp [hpri, hsegments, hsending, hposted, hpending, hpending', hout, dataSent, acceptedSoFar, unsent,
    Session.settled, TransportTx.sendAll]

end Session

end Opendnp3
