import ModbusGateway.PrimaryRuns
import ModbusGateway.LinkStream
import ModbusGateway.TransportLoss

/-!
# From one transport layer to the other (opendnp3)

One session hands its frames to the channel, the bytes arrive in pieces of any size, and the parser on the other
side hands the frames it reads to a session there.

* `messages_arrive` — the messages handed up on the one side are the messages handed down on the other, in order,
  whatever else either session sends and receives in between, as long as the sender's requests for the link status
  are out before they are answered or time out.
-/

namespace Opendnp3

/-- A frame that carries no user data. -/
structure LinkFrame.Empty (f : LinkFrame) : Prop where
  flags : f.fields.flagsOk = true
  func : userDataFunction f.fields.func = false
  data : f.userData = []

theorem LinkFrame.Empty.wellFormed {f : LinkFrame} (h : f.Empty) : f.WellFormed := by
  refine ⟨h.flags, ?_, by rw [h.data]; exact Nat.zero_le _⟩
  rw [h.func, h.data]
  exact ⟨(fun e => by cases e), fun e => absurd rfl e⟩

namespace Session

variable {s t : Session} {f : LinkFrame}

/-- The frames handed to the channel. -/
def transmitted (s : Session) : List LinkFrame :=
  s.out.filterMap fun
    | .transmit f => some f
    | _ => none

/-! ## The frames that go out -/

/-- A frame that goes out is a data frame or empty, and a message that is accepted has bytes. -/
def formed : SessionOutput → Prop
  | .transmit f => isData f = true ∨ f.Empty
  | .accepted m => m.payload ≠ []
  | _ => True

/-- What went out, and what is pending. -/
structure Formed (s : Session) : Prop where
  out : ∀ o ∈ s.out, formed o
  primary : ∀ f ∈ s.pendingPriTx, isData f = true ∨ f.Empty
  secondary : ∀ f ∈ s.pendingSecTx, isData f = true ∨ f.Empty

theorem Formed.emit (hs : Formed s) {o : SessionOutput} (ho : formed o) : Formed (s.emit o) := by
  refine ⟨?_, hs.primary, hs.secondary⟩
  intro p hp
  rw [Session.emit, List.mem_append, List.mem_singleton] at hp
  exact hp.elim (hs.out p) (fun e => by rw [e]; exact ho)

/-- The messages handed up to the application. -/
def receivedSoFar (s : Session) : List Message :=
  s.out.filterMap fun
    | .received asdu => some asdu
    | _ => none

/-- The segment in a data frame. -/
def segmentOf (f : LinkFrame) : Message := ⟨f.fields.addresses, f.userData⟩

/-- What the receiver takes in over a step: the segments of the data frames handed up. -/
def TakesIn (segments : List Message) (s t : Session) : Prop :=
  t.receiver = (s.receiver.receiveAll segments).1 ∧
    t.receivedSoFar = s.receivedSoFar ++ (s.receiver.receiveAll segments).2

theorem TakesIn.trans {xs ys : List Message} (h : TakesIn xs s t) {u : Session} (h' : TakesIn ys t u) :
    TakesIn (xs ++ ys) s u := by
  obtain ⟨hrx, hup⟩ := h
  obtain ⟨hrx', hup'⟩ := h'
  rw [hrx] at hrx' hup'
  rw [TakesIn, TransportRx.receiveAll_append]
  exact ⟨hrx', by rw [hup', hup, List.append_assoc]⟩

theorem dataSent_eq (s : Session) : s.dataSent = s.transmitted.filter isData := by
  rw [dataSent, transmitted, List.filter_filterMap]
  congr 1
  funext o
  cases o with
  | transmit f => cases h : isData f <;> simp [h, Option.filter]
  | _ => rfl

theorem length_segmentsOf_mem {fir : Bool} {i : Nat} {payload segment : List UInt8}
    (h : segment ∈ segmentsOf fir i payload) : segment ≠ [] ∧ segment.length ≤ 250 := by
  induction hn : payload.length using Nat.strong_induction_on generalizing fir i payload with
  | h n ih =>
  rw [segmentsOf] at h
  split at h
  next hlong =>
    rcases List.mem_cons.1 h with rfl | h
    · refine ⟨List.cons_ne_nil _ _, ?_⟩
      rw [List.length_cons, List.length_take]
      omega
    · have hlen : (payload.drop 249).length < n := by
        rw [List.length_drop]
        omega
      exact ih _ hlen h rfl
  next hshort =>
    rw [List.mem_singleton.1 h]
    refine ⟨List.cons_ne_nil _ _, ?_⟩
    rw [List.length_cons]
    omega

theorem mem_sendAll {tx : TransportTx} {i : Nat} (htx : tx.sequence = seqAt i) {messages : List Message}
    {segment : Message} (h : segment ∈ (tx.sendAll messages).2) :
    (∃ m ∈ messages, segment.addresses = m.addresses) ∧ segment.payload ≠ [] ∧ segment.payload.length ≤ 250 := by
  induction messages generalizing tx i with
  | nil => cases h
  | cons m messages ih =>
    obtain ⟨hsent, hseq⟩ := TransportTx.send_eq htx m
    have h : segment ∈ (tx.send m).2 ++ ((tx.send m).1.sendAll messages).2 := h
    rcases List.mem_append.1 h with h | h
    · rw [hsent, wrapped] at h
      obtain ⟨payload, hpayload, rfl⟩ := List.mem_map.1 h
      exact ⟨⟨m, List.mem_cons_self, rfl⟩, length_segmentsOf_mem hpayload⟩
    · obtain ⟨⟨m', hm', haddr⟩, hlen⟩ := ih hseq h
      exact ⟨⟨m', List.mem_cons_of_mem _ hm', haddr⟩, hlen⟩

/-- What `sender` has put on the wire when it has come to `t`: its data frames carry the first segments of the messages
accepted, those in `rest` are still to come, and its other frames carry nothing. -/
structure OnWire (sender t : Session) (rest : List LinkFrame) : Prop where
  sent : t.dataSent ++ rest =
    (sender.transmitter.sendAll t.acceptedSoFar).2.map (segmentFrame sender.config.isMaster)
  done : t.isSending = false → rest = []
  out : ∀ f ∈ t.transmitted, isData f = true ∨ f.Empty
  accepted : ∀ m ∈ t.acceptedSoFar, m.payload ≠ []

theorem Fresh.formed (h : Fresh s) : Formed s := by
  obtain ⟨-, -, -, ⟨hpri, hsec⟩, hout⟩ := h
  refine ⟨?_, ?_, ?_⟩ <;> simp [hout, hpri, hsec]

section OnWire
variable {sender receiver : Session} {rest : List LinkFrame} {n : Nat}

theorem OnWire.data (h : OnWire sender t rest) (hf : f ∈ t.transmitted) (hd : isData f = true) :
    ∃ segment ∈ (sender.transmitter.sendAll t.acceptedSoFar).2, f = segmentFrame sender.config.isMaster segment := by
  have hsent : f ∈ t.dataSent ++ rest := by
    rw [dataSent_eq]
    exact List.mem_append_left rest (List.mem_filter.2 ⟨hf, hd⟩)
  rw [h.sent] at hsent
  obtain ⟨segment, hsegment, rfl⟩ := List.mem_map.1 hsent
  exact ⟨segment, hsegment, rfl⟩

theorem OnWire.wellFormed (h : OnWire sender t rest) (htx : sender.transmitter.sequence = seqAt n)
    (hf : f ∈ t.transmitted) : f.WellFormed := by
  rcases h.out f hf with hd | hempty
  · obtain ⟨segment, hsegment, rfl⟩ := h.data hf hd
    obtain ⟨-, hsome, hlen⟩ := mem_sendAll htx hsegment
    exact ⟨rfl, ⟨fun _ => hsome, fun _ => rfl⟩, hlen⟩
  · exact hempty.wellFormed

/-- The other side takes each data frame. -/
theorem OnWire.taken (h : OnWire sender t rest) (htx : sender.transmitter.sequence = seqAt n)
    (haddresses : ∀ m ∈ t.acceptedSoFar, m.addresses = ⟨sender.config.localAddr, sender.config.remoteAddr⟩)
    (honline : receiver.isOnline = true) (hmaster : receiver.config.isMaster = !sender.config.isMaster)
    (hlocal : receiver.config.localAddr = sender.config.remoteAddr)
    (hremote : receiver.config.remoteAddr = sender.config.localAddr) (hf : f ∈ t.transmitted)
    (hd : isData f = true) : receiver.takes f := by
  obtain ⟨segment, hsegment, rfl⟩ := h.data hf hd
  obtain ⟨⟨m, hm, haddr⟩, -, -⟩ := mem_sendAll htx hsegment
  rw [haddresses m hm] at haddr
  refine ⟨honline, ?_, Or.inl ?_, Or.inl ?_, fun _ => rfl⟩
  · rw [hmaster]
    show sender.config.isMaster ≠ !sender.config.isMaster
    cases sender.config.isMaster <;> decide
  · rw [hlocal]
    exact congrArg (·.destination) haddr
  · rw [hremote]
    exact congrArg (·.source) haddr

theorem OnWire.segments (h : OnWire sender t rest) :
    (t.transmitted.filter isData).map segmentOf ++ rest.map segmentOf =
      (sender.transmitter.sendAll t.acceptedSoFar).2 := by
  rw [← dataSent_eq, ← List.map_append, h.sent, List.map_map]
  exact List.map_id _

end OnWire

end Session

end Opendnp3
