import ModbusGateway.Transport

/-!
# A session of the link layer (opendnp3)

The transport layer hands its segments to the link layer one message at a time; the link layer sends them as
unconfirmed frames, answers the other side's requests, and asks for a sign of life when the line has been quiet.
Whatever it sends goes through one transmission at a time, with room for one pending frame of either side.

| here | there |
| --- | --- |
| `Session.queueTransmit`, `tryPendingTx`, `onTxReady`, `onFrame` | link/LinkContext.cpp:149, 386, 126, 297 |
| `trySendUnconfirmed`, `priTxReady`, `onAck`, …, `onTimeout` | the states of link/PriLinkLayerStates.cpp |
| `onResetLinkStates`, …, `secTxReady` | the states of link/SecLinkLayerStates.h, .cpp |
| `beginTransmit`, `upperTxReady` | `BeginTransmit`, `OnTxReady` (transport/TransportLayer.cpp:39, 94) |

The timers are inputs: they may fire at any time. A call of the upper layer that comes back down from `OnReceive`
touches nothing the caller still reads, so it is an input of its own.

* `PrimaryMove`, `SecondaryMove` — what either side leaves alone of the other's variables; the operations of the
  primary are moves of the first kind, those of the secondary of the second.
-/

namespace Opendnp3

/-! ## Frames of a session (`LinkFrame.cpp`) -/

namespace LinkFrame

def unconfirmedUserData (isMaster : Bool) (dest src : UInt16) (userData : List UInt8) : LinkFrame :=
  ⟨⟨.priUnconfirmedUserData, isMaster, false, false, ⟨src, dest⟩⟩, userData⟩

def ack (isMaster isRcvBuffFull : Bool) (dest src : UInt16) : LinkFrame :=
  ⟨⟨.secAck, isMaster, false, isRcvBuffFull, ⟨src, dest⟩⟩, []⟩

def linkStatus (isMaster isRcvBuffFull : Bool) (dest src : UInt16) : LinkFrame :=
  ⟨⟨.secLinkStatus, isMaster, false, isRcvBuffFull, ⟨src, dest⟩⟩, []⟩

def requestLinkStatus (isMaster : Bool) (dest src : UInt16) : LinkFrame :=
  ⟨⟨.priRequestLinkStatus, isMaster, false, false, ⟨src, dest⟩⟩, []⟩

end LinkFrame

/-! ## The two layers -/

inductive LinkTransmitMode where
  | idle
  | primary
  | secondary
deriving DecidableEq, Repr

/-- `PLLS_Idle`, `PLLS_SendUnconfirmedTransmitWait`, `PLLS_RequestLinkStatusWait` -/
inductive PriState where
  | idle
  | sendUnconfirmedTransmitWait
  | requestLinkStatusWait
deriving DecidableEq, Repr

/-- `SLLS_NotReset`, `SLLS_Reset`, `SLLS_TransmitWaitReset`, `SLLS_TransmitWaitNotReset` -/
inductive SecState where
  | notReset
  | reset
  | transmitWaitReset
  | transmitWaitNotReset
deriving DecidableEq, Repr

structure LinkLayerConfig where
  isMaster : Bool
  localAddr : UInt16
  remoteAddr : UInt16
  respondToAnySource : Bool := false
deriving DecidableEq

/-- `StackStatistics::Link` -/
structure LinkStatistics where
  numUnexpectedFrame : Nat := 0
  numBadMasterBit : Nat := 0
  numUnknownDestination : Nat := 0
  numUnknownSource : Nat := 0
deriving DecidableEq

/-- What the session does to the outside. `accepted` is a `BeginTransmit` that returned true; `overwritten` marks a
frame formatted into a buffer whose frame is still in flight or pending. -/
inductive SessionOutput where
  | accepted (message : Message)
  | transmit (frame : LinkFrame)
  | overwritten (isPrimary : Bool)
  | pushed (frame : LinkFrame)
  | received (asdu : Message)
  | sent
  | keepAliveInitiated
  | keepAliveFailure
  | keepAliveSuccess
deriving DecidableEq

/-- The transport layer and the link layer under it; they go online and offline together. `pSegments`: the link
layer takes segments from `transmitter`. `posted`: callbacks that wait on the executor. -/
structure Session where
  config : LinkLayerConfig
  receiver : TransportRx
  transmitter : TransportTx := {}
  isSending : Bool := false
  posted : Nat := 0
  isOnline : Bool := false
  keepAliveTimeout : Bool := false
  pSegments : Bool := false
  txMode : LinkTransmitMode := .idle
  pendingPriTx : Option LinkFrame := none
  pendingSecTx : Option LinkFrame := none
  nextReadFCB : Bool := false
  priState : PriState := .idle
  secState : SecState := .notReset
  statistics : LinkStatistics := {}
  out : List SessionOutput := []

namespace Session

def emit (s : Session) (output : SessionOutput) : Session := { s with out := s.out ++ [output] }

def unexpectedFrame (s : Session) : Session :=
  { s with statistics.numUnexpectedFrame := s.statistics.numUnexpectedFrame + 1 }

/-- A frame lies in the buffer of this side: in flight, or pending. -/
def busy (s : Session) : Bool → Bool
  | true => s.txMode == .primary || s.pendingPriTx.isSome
  | false => s.txMode == .secondary || s.pendingSecTx.isSome

def queueTransmit (s : Session) (frame : LinkFrame) (primary : Bool) : Session :=
  let s := if s.busy primary then s.emit (.overwritten primary) else s
  if s.txMode = .idle then
    { s with txMode := if primary then .primary else .secondary }.emit (.transmit frame)
  else if primary then { s with pendingPriTx := some frame }
  else { s with pendingSecTx := some frame }

def queueAck (s : Session) (destination : UInt16) : Session :=
  s.queueTransmit (.ack s.config.isMaster false destination s.config.localAddr) false

def queueLinkStatus (s : Session) (destination : UInt16) : Session :=
  s.queueTransmit (.linkStatus s.config.isMaster false destination s.config.localAddr) false

def queueRequestLinkStatus (s : Session) (destination : UInt16) : Session :=
  s.queueTransmit (.requestLinkStatus s.config.isMaster destination s.config.localAddr) true

/-- The next segment in an unconfirmed frame (`FormatPrimaryBufferWithUnconfirmed`). -/
def queueSegment (s : Session) : Session :=
  let (segment, transmitter) := s.transmitter.getSegment
  let addr := transmitter.message.addresses
  { s with transmitter }.queueTransmit
    (.unconfirmedUserData s.config.isMaster addr.destination addr.source segment) true

/-- `PushDataUp`: to the transport layer (`TransportLayer::OnReceive`), and on when a fragment is whole. -/
def pushDataUp (s : Session) (frame : LinkFrame) : Session :=
  let (asdu, receiver) := s.receiver.processReceive ⟨frame.fields.addresses, frame.userData⟩
  let s := { s with receiver }.emit (.pushed frame)
  if asdu.payload.isEmpty then s else s.emit (.received asdu)

/-! ### The primary's states -/

def trySendUnconfirmed (s : Session) : Session :=
  match s.priState with
  | .idle => { s.queueSegment with priState := .sendUnconfirmedTransmitWait }
  | _ => s

def trySendRequestLinkStatus (s : Session) : Session :=
  match s.priState with
  | .idle =>
    let s := { s with keepAliveTimeout := false }.queueRequestLinkStatus s.config.remoteAddr
    { s with priState := .requestLinkStatusWait }.emit .keepAliveInitiated
  | _ => s

def priTxReady (s : Session) : Session :=
  match s.priState with
  | .idle => s
  | .sendUnconfirmedTransmitWait =>
    let (more, transmitter) := s.transmitter.advance
    if more then { s with transmitter }.queueSegment
    else { s with transmitter, pSegments := false, posted := s.posted + 1, priState := .idle }
  | .requestLinkStatusWait => s

/-- `OnAck`, and `OnNack` and `OnNotSupported`, which do the same. -/
def onAck (s : Session) : Session :=
  match s.priState with
  | .requestLinkStatusWait => { s with priState := .idle }
  | _ => s.unexpectedFrame

def onLinkStatus (s : Session) : Session :=
  match s.priState with
  | .requestLinkStatusWait => { s with priState := .idle }.emit .keepAliveSuccess
  | _ => s.unexpectedFrame

def onTimeout (s : Session) : Session :=
  match s.priState with
  | .requestLinkStatusWait => { s with priState := .idle }.emit .keepAliveFailure
  | _ => s

/-! ### The secondary's states -/

def onResetLinkStates (s : Session) (source : UInt16) : Session :=
  match s.secState with
  | .notReset | .reset => { s.queueAck source with nextReadFCB := true, secState := .transmitWaitReset }
  | .transmitWaitReset | .transmitWaitNotReset => s

def onRequestLinkStatus (s : Session) (source : UInt16) : Session :=
  match s.secState with
  | .notReset => { s.queueLinkStatus source with secState := .transmitWaitNotReset }
  | .reset => { s.queueLinkStatus source with secState := .transmitWaitReset }
  | .transmitWaitReset | .transmitWaitNotReset => s

def onTestLinkStatus (s : Session) (source : UInt16) (fcb : Bool) : Session :=
  match s.secState with
  | .notReset => s.unexpectedFrame
  | .reset =>
    if s.nextReadFCB = fcb then
      { s.queueAck source with nextReadFCB := !s.nextReadFCB, secState := .transmitWaitReset }
    else s
  | .transmitWaitReset | .transmitWaitNotReset => s

def onConfirmedUserData (s : Session) (frame : LinkFrame) : Session :=
  match s.secState with
  | .notReset => s.unexpectedFrame
  | .reset =>
    let s := if frame.fields.addresses.isBroadcast then s else s.queueAck frame.fields.addresses.source
    let s := if s.nextReadFCB = frame.fields.fcb then { s with nextReadFCB := !s.nextReadFCB }.pushDataUp frame else s
    { s with secState := .transmitWaitReset }
  | .transmitWaitReset | .transmitWaitNotReset => s

def secTxReady (s : Session) : Session :=
  match s.secState with
  | .transmitWaitReset => { s with secState := .reset }
  | .transmitWaitNotReset => { s with secState := .notReset }
  | .notReset | .reset => s

/-! ### Events -/

def tryStartTransmission (s : Session) : Session :=
  let s := if s.keepAliveTimeout then s.trySendRequestLinkStatus else s
  if s.pSegments then s.trySendUnconfirmed else s

def onLowerLayerUp (s : Session) : Session := if s.isOnline then s else { s with isOnline := true }

def onLowerLayerDown (s : Session) : Session :=
  if s.isOnline then
    { s with
      isOnline := false, keepAliveTimeout := false, pSegments := false, txMode := .idle, pendingPriTx := none,
      pendingSecTx := none, priState := .idle, secState := .notReset, isSending := false,
      receiver := { s.receiver with received := [] } }
  else s

/-- `TransportLayer::BeginTransmit`, down to `LinkLayer::Send`. -/
def beginTransmit (s : Session) (message : Message) : Session :=
  if !s.isOnline || message.payload.isEmpty || s.isSending then s
  else
    let s := { s with isSending := true, transmitter := s.transmitter.configure message }.emit (.accepted message)
    if s.pSegments then s else { s with pSegments := true }.tryStartTransmission

/-- The posted callback runs (`TransportLayer::OnTxReady`). -/
def upperTxReady (s : Session) : Session :=
  if s.posted = 0 then s
  else
    let s := { s with posted := s.posted - 1 }
    if s.isOnline && s.isSending then { s with isSending := false }.emit .sent else s

def tryPendingTx (s : Session) (primary : Bool) : Session :=
  match s.txMode, if primary then s.pendingPriTx else s.pendingSecTx with
  | .idle, some frame =>
    let s := s.emit (.transmit frame)
    if primary then { s with pendingPriTx := none, txMode := .primary }
    else { s with pendingSecTx := none, txMode := .secondary }
  | _, _ => s

/-- The channel has written the frame (`LinkLayer::OnTxReady`). -/
def onTxReady (s : Session) : Session :=
  if s.txMode = .idle then s
  else
    let isPrimary := s.txMode == .primary
    let s := ({ s with txMode := .idle }.tryPendingTx false).tryPendingTx true
    (if isPrimary then s.priTxReady else s.secTxReady).tryStartTransmission

def dispatch (s : Session) (frame : LinkFrame) : Session :=
  let header := frame.fields
  match header.func with
  | .secAck | .secNack | .secNotSupported => s.onAck
  | .secLinkStatus => s.onLinkStatus
  | .priTestLinkStates => s.onTestLinkStatus header.addresses.source header.fcb
  | .priResetLinkStates => s.onResetLinkStates header.addresses.source
  | .priRequestLinkStatus => s.onRequestLinkStatus header.addresses.source
  | .priConfirmedUserData => s.onConfirmedUserData frame
  | .priUnconfirmedUserData => s.pushDataUp frame
  | .invalid => s

/-- `LinkLayer::OnFrame` -/
def onFrame (s : Session) (frame : LinkFrame) : Session :=
  let header := frame.fields
  if !s.isOnline then s
  else if header.isFromMaster = s.config.isMaster then
    { s with statistics.numBadMasterBit := s.statistics.numBadMasterBit + 1 }
  else if header.addresses.destination ≠ s.config.localAddr ∧ header.addresses.isBroadcast = false then
    { s with statistics.numUnknownDestination := s.statistics.numUnknownDestination + 1 }
  else if header.addresses.source ≠ s.config.remoteAddr ∧ s.config.respondToAnySource = false then
    { s with statistics.numUnknownSource := s.statistics.numUnknownSource + 1 }
  else if header.addresses.isBroadcast ∧ userDataFunction header.func = false then s.unexpectedFrame
  else (s.dispatch frame).tryStartTransmission

def onKeepAliveTimeout (s : Session) (elapsed : Bool) : Session :=
  if !s.isOnline then s
  else { s with keepAliveTimeout := s.keepAliveTimeout || elapsed }.tryStartTransmission

def onResponseTimeout (s : Session) : Session :=
  if !s.isOnline then s else s.onTimeout.tryStartTransmission

end Session

/-- `keepAlive`: the timer fires, and the time since the last frame has passed or not. -/
inductive SessionInput where
  | up
  | down
  | send (message : Message)
  | callback
  | frame (frame : LinkFrame)
  | txReady
  | keepAlive (elapsed : Bool)
  | responseTimeout
deriving DecidableEq

def Session.step (s : Session) : SessionInput → Session
  | .up => s.onLowerLayerUp
  | .down => s.onLowerLayerDown
  | .send message => s.beginTransmit message
  | .callback => s.upperTxReady
  | .frame frame => s.onFrame frame
  | .txReady => s.onTxReady
  | .keepAlive elapsed => s.onKeepAliveTimeout elapsed
  | .responseTimeout => s.onResponseTimeout

/-! ## What the operations do to the fields -/

namespace Session

variable {s : Session} {f : LinkFrame}

theorem queueTransmit_eq (s : Session) (f : LinkFrame) (p : Bool) : s.queueTransmit f p =
    { s with
      txMode := if s.txMode = .idle then (if p then .primary else .secondary) else s.txMode
      pendingPriTx := if s.txMode ≠ .idle ∧ p = true then some f else s.pendingPriTx
      pendingSecTx := if s.txMode ≠ .idle ∧ p = false then some f else s.pendingSecTx
      out := s.out ++ (if s.busy p then [.overwritten p] else []) ++
        (if s.txMode = .idle then [.transmit f] else []) } := by
  have hover : (if s.busy p = true then s.emit (.overwritten p) else s) =
      { s with out := s.out ++ if s.busy p then [.overwritten p] else [] } := by
    split
    · rfl
    · rw [List.append_nil]
  rw [queueTransmit, hover]
  by_cases hmode : s.txMode = .idle
  · cases p <;> simp [hmode, emit]
  · cases p <;> simp [hmode]

theorem tryPendingTx_false (s : Session) : s.tryPendingTx false =
    if s.txMode = .idle then
      { s with
        txMode := if s.pendingSecTx.isSome then .secondary else .idle
        pendingSecTx := none
        out := s.out ++ (s.pendingSecTx.toList.map .transmit) }
    else s := by
  unfold tryPendingTx
  cases hmode : s.txMode <;> cases hpending : s.pendingSecTx <;> simp [emit]
  cases s
  simp_all

theorem pushDataUp_eq (s : Session) (f : LinkFrame) : s.pushDataUp f =
    { s with
      receiver := (s.receiver.processReceive ⟨f.fields.addresses, f.userData⟩).2
      out := s.out ++ .pushed f ::
        (s.receiver.receiveAll [⟨f.fields.addresses, f.userData⟩]).2.map .received } := by
  rw [TransportRx.receiveAll_cons]
  simp only [pushDataUp, emit]
  split
  · rfl
  · rw [List.append_assoc]
    rfl

end Session

/-! ## What either side leaves alone -/

def SessionOutput.ofPrimary : SessionOutput → Bool
  | .overwritten isPrimary => isPrimary
  | .pushed _ | .received _ => false
  | _ => true

/-- Confirmed user data to everyone. -/
def SessionInput.broadcast : SessionInput → Bool
  | .frame f => f.fields.func == .priConfirmedUserData && f.fields.addresses.isBroadcast
  | _ => false

/-- Requests that set or turn the expected bit themselves. -/
def SessionInput.turnsFCB : SessionInput → Bool
  | .frame f => f.fields.func == .priResetLinkStates || f.fields.func == .priTestLinkStates
  | _ => false

def SessionOutput.ofSecondary : SessionOutput → Bool
  | .overwritten isPrimary => !isPrimary
  | .transmit frame => frame.fields.func == .secAck || frame.fields.func == .secLinkStatus
  | .pushed _ | .received _ => true
  | _ => false

namespace Session

/-- What the primary does, seen from the secondary. -/
structure PrimaryMove (s t : Session) : Prop where
  config : t.config = s.config
  secState : t.secState = s.secState
  pendingSecTx : t.pendingSecTx = s.pendingSecTx
  nextReadFCB : t.nextReadFCB = s.nextReadFCB
  receiver : t.receiver = s.receiver
  isOnline : t.isOnline = s.isOnline
  txMode : t.txMode = s.txMode ∨ s.txMode = .idle ∧ t.txMode = .primary
  out : ∃ outs, t.out = s.out ++ outs ∧ ∀ o ∈ outs, o.ofPrimary = true

/-- What the secondary does, seen from the primary. -/
structure SecondaryMove (s t : Session) : Prop where
  config : t.config = s.config
  priState : t.priState = s.priState
  pendingPriTx : t.pendingPriTx = s.pendingPriTx
  transmitter : t.transmitter = s.transmitter
  pSegments : t.pSegments = s.pSegments
  isSending : t.isSending = s.isSending
  posted : t.posted = s.posted
  isOnline : t.isOnline = s.isOnline
  keepAliveTimeout : t.keepAliveTimeout = s.keepAliveTimeout
  txMode : t.txMode = s.txMode ∨ s.txMode = .idle ∧ t.txMode = .secondary
  out : ∃ outs, t.out = s.out ++ outs ∧ ∀ o ∈ outs, o.ofSecondary = true

variable {s t u : Session} {f : LinkFrame}

theorem PrimaryMove.refl (s : Session) : PrimaryMove s s :=
  ⟨rfl, rfl, rfl, rfl, rfl, rfl, Or.inl rfl, [], (List.append_nil _).symm, fun _ ho => (List.not_mem_nil ho).elim⟩

theorem PrimaryMove.trans (h : PrimaryMove s t) (h' : PrimaryMove t u) : PrimaryMove s u := by
  obtain ⟨hconfig, hstate, hpending, hfcb, hreceiver, honline, hmode, outs, hout, hall⟩ := h
  obtain ⟨hconfig', hstate', hpending', hfcb', hreceiver', honline', hmode', outs', hout', hall'⟩ := h'
  refine ⟨hconfig'.trans hconfig, hstate'.trans hstate, hpending'.trans hpending, hfcb'.trans hfcb,
    hreceiver'.trans hreceiver, honline'.trans honline, ?_, outs ++ outs', ?_, ?_⟩
  · rcases hmode with hmode | ⟨hidle, hmode⟩
    · rwa [hmode] at hmode'
    · rcases hmode' with hmode' | ⟨hidle', -⟩
      · exact Or.inr ⟨hidle, hmode'.trans hmode⟩
      · rw [hmode] at hidle'
        cases hidle'
  · rw [hout', hout, List.append_assoc]
  · intro o ho
    exact (List.mem_append.1 ho).elim (hall o) (hall' o)

theorem SecondaryMove.refl (s : Session) : SecondaryMove s s :=
  ⟨rfl, rfl, rfl, rfl, rfl, rfl, rfl, rfl, rfl, Or.inl rfl, [], (List.append_nil _).symm,
    fun _ ho => (List.not_mem_nil ho).elim⟩

theorem SecondaryMove.trans (h : SecondaryMove s t) (h' : SecondaryMove t u) : SecondaryMove s u := by
  obtain ⟨hconfig, hstate, hpending, htx, hsegments, hsending, hposted, honline, halive, hmode, outs, hout, hall⟩ := h
  obtain ⟨hconfig', hstate', hpending', htx', hsegments', hsending', hposted', honline', halive', hmode', outs', hout',
    hall'⟩ := h'
  refine ⟨hconfig'.trans hconfig, hstate'.trans hstate, hpending'.trans hpending, htx'.trans htx,
    hsegments'.trans hsegments, hsending'.trans hsending, hposted'.trans hposted, honline'.trans honline,
    halive'.trans halive, ?_, outs ++ outs', ?_, ?_⟩
  · rcases hmode with hmode | ⟨hidle, hmode⟩
    · rwa [hmode] at hmode'
    · rcases hmode' with hmode' | ⟨hidle', -⟩
      · exact Or.inr ⟨hidle, hmode'.trans hmode⟩
      · rw [hmode] at hidle'
        cases hidle'
  · rw [hout', hout, List.append_assoc]
  · intro o ho
    exact (List.mem_append.1 ho).elim (hall o) (hall' o)

theorem PrimaryMove.emit (s : Session) {o : SessionOutput} (ho : o.ofPrimary = true) : PrimaryMove s (s.emit o) :=
  ⟨rfl, rfl, rfl, rfl, rfl, rfl, Or.inl rfl, [o], rfl, fun _ h => by rwa [List.mem_singleton.1 h]⟩

theorem eq_of_mem_ite {α : Type} {c : Prop} [Decidable c] {x y : α} (h : y ∈ if c then [x] else []) : y = x := by
  split at h
  · exact List.mem_singleton.1 h
  · cases h

theorem primaryMove_queueTransmit (s : Session) (f : LinkFrame) : PrimaryMove s (s.queueTransmit f true) := by
  rw [queueTransmit_eq]
  refine ⟨rfl, rfl, by simp, rfl, rfl, rfl, ?_, _, List.append_assoc _ _ _, ?_⟩
  · by_cases hmode : s.txMode = .idle <;> simp [hmode]
  · intro o ho
    rcases List.mem_append.1 ho with ho | ho <;> rw [eq_of_mem_ite ho] <;> rfl

theorem primaryMove_queueSegment (s : Session) : PrimaryMove s s.queueSegment := by
  have h := primaryMove_queueTransmit { s with transmitter := s.transmitter.getSegment.2 }
    (.unconfirmedUserData s.config.isMaster s.transmitter.getSegment.2.message.addresses.destination
      s.transmitter.getSegment.2.message.addresses.source s.transmitter.getSegment.1)
  exact { h with }

theorem primaryMove_trySendUnconfirmed (s : Session) : PrimaryMove s s.trySendUnconfirmed := by
  unfold trySendUnconfirmed
  split
  · have h := primaryMove_queueSegment s
    exact { h with }
  · exact .refl s

theorem primaryMove_trySendRequestLinkStatus (s : Session) : PrimaryMove s s.trySendRequestLinkStatus := by
  unfold trySendRequestLinkStatus
  split
  · have h := primaryMove_queueTransmit { s with keepAliveTimeout := false }
      (.requestLinkStatus s.config.isMaster s.config.remoteAddr s.config.localAddr)
    have h' := PrimaryMove.emit ({ s with keepAliveTimeout := false }.queueRequestLinkStatus s.config.remoteAddr)
      (o := .keepAliveInitiated) rfl
    have h'' := PrimaryMove.trans { h with } h'
    exact { h'' with }
  · exact .refl s

theorem primaryMove_tryStartTransmission (s : Session) : PrimaryMove s s.tryStartTransmission := by
  have hfirst : PrimaryMove s (if s.keepAliveTimeout then s.trySendRequestLinkStatus else s) := by
    split
    · exact primaryMove_trySendRequestLinkStatus s
    · exact .refl s
  show PrimaryMove s (if (if s.keepAliveTimeout then s.trySendRequestLinkStatus else s).pSegments then _ else _)
  generalize (if s.keepAliveTimeout then s.trySendRequestLinkStatus else s) = t at hfirst ⊢
  split
  · exact hfirst.trans (primaryMove_trySendUnconfirmed t)
  · exact hfirst

theorem primaryMove_priTxReady (s : Session) : PrimaryMove s s.priTxReady := by
  unfold priTxReady
  split
  · exact .refl s
  · simp only
    split
    · have h := primaryMove_queueSegment { s with transmitter := s.transmitter.advance.2 }
      exact { h with }
    · exact { PrimaryMove.refl s with }
  · exact .refl s

theorem primaryMove_onAck (s : Session) : PrimaryMove s s.onAck := by
  unfold onAck
  split <;> exact { PrimaryMove.refl s with }

theorem primaryMove_onLinkStatus (s : Session) : PrimaryMove s s.onLinkStatus := by
  unfold onLinkStatus
  split
  · exact { PrimaryMove.emit s (o := .keepAliveSuccess) rfl with }
  · exact { PrimaryMove.refl s with }

theorem primaryMove_onTimeout (s : Session) : PrimaryMove s s.onTimeout := by
  unfold onTimeout
  split
  · exact { PrimaryMove.emit s (o := .keepAliveFailure) rfl with }
  · exact { PrimaryMove.refl s with }

theorem primaryMove_beginTransmit (s : Session) (m : Message) : PrimaryMove s (s.beginTransmit m) := by
  have hbegin : PrimaryMove s (({ s with isSending := true, transmitter := s.transmitter.configure m } : Session).emit
      (.accepted m)) := { PrimaryMove.emit s (o := .accepted m) rfl with }
  unfold beginTransmit
  split
  · exact .refl s
  · simp only
    generalize ({ s with isSending := true, transmitter := s.transmitter.configure m } : Session).emit
      (.accepted m) = t at hbegin ⊢
    have hstart := primaryMove_tryStartTransmission { t with pSegments := true }
    split
    · exact hbegin
    · exact PrimaryMove.trans (t := { t with pSegments := true }) { hbegin with } hstart

theorem primaryMove_upperTxReady (s : Session) : PrimaryMove s s.upperTxReady := by
  unfold upperTxReady
  split
  · exact .refl s
  · simp only
    split
    · exact { PrimaryMove.emit s (o := .sent) rfl with }
    · exact { PrimaryMove.refl s with }

theorem primaryMove_onKeepAliveTimeout (s : Session) (elapsed : Bool) :
    PrimaryMove s (s.onKeepAliveTimeout elapsed) := by
  unfold onKeepAliveTimeout
  split
  · exact .refl s
  · have hstart :=
      primaryMove_tryStartTransmission { s with keepAliveTimeout := s.keepAliveTimeout || elapsed }
    exact { hstart with }

theorem primaryMove_onResponseTimeout (s : Session) : PrimaryMove s s.onResponseTimeout := by
  unfold onResponseTimeout
  split
  · exact .refl s
  · exact (primaryMove_onTimeout s).trans (primaryMove_tryStartTransmission _)

theorem primaryMove_tryPendingTx (s : Session) : PrimaryMove s (s.tryPendingTx true) := by
  unfold tryPendingTx
  split
  next f hmode _ => exact ⟨rfl, rfl, rfl, rfl, rfl, rfl, Or.inr ⟨hmode, rfl⟩, [.transmit f], rfl, by simp; rfl⟩
  next => exact .refl s

/-- The frame in flight is written, and a pending one takes its place, an answer first. -/
def release (s : Session) : Session := ({ s with txMode := .idle }.tryPendingTx false).tryPendingTx true

theorem onTxReady_eq (s : Session) : s.onTxReady =
    if s.txMode = .idle then s
    else (if s.txMode = .primary then s.release.priTxReady else s.release.secTxReady).tryStartTransmission := by
  rw [onTxReady]
  cases s.txMode <;> rfl

end Session

end Opendnp3
