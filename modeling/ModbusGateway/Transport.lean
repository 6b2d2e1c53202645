import ModbusGateway.LinkParser

/-!
# The transport function (opendnp3)

A fragment goes out in segments of at most 249 bytes, each behind a byte with FIR, FIN and a sequence number,
and is put together again by the receiver.

| here | there |
| --- | --- |
| `TransportTx.getSegment`, `advance`, `configure` | transport/TransportTx.cpp:34-86 |
| `TransportRx.processReceive` | `TransportRx::ProcessReceive` (transport/TransportRx.cpp:56) |
| `transmit`               | the calls of the link layer: `GetSegment`, then `Advance` while there is more |

* `transmit_eq` — what goes out is `segmentsOf` the fragment.
* `receiveAll_whole` — a fragment that arrives whole is delivered, whatever the receiver held before.
-/

namespace Opendnp3

/-- `app/Message.h` -/
structure Message where
  addresses : Addresses
  payload : List UInt8
deriving DecidableEq

/-- `Message()` -/
def Message.none : Message := ⟨⟨0, 0⟩, []⟩

/-- `SequenceNum<uint8_t, Modulus>::Next` -/
def nextSeq (modulus seq : UInt8) : UInt8 := (seq + 1) % modulus

/-- `TransportHeader::ToByte` -/
def toByte (fir fin : Bool) (seq : UInt8) : UInt8 :=
  (if fir then 0x40 else 0) ||| (if fin then 0x80 else 0) ||| (0x3F &&& seq)

structure TransportHeader where
  fir : Bool
  fin : Bool
  seq : UInt8
deriving DecidableEq

def TransportHeader.ofByte (byte : UInt8) : TransportHeader :=
  ⟨byte &&& 0x40 != 0, byte &&& 0x80 != 0, byte &&& 0x3F⟩

/-! ## Sending (`TransportTx.cpp`) -/

structure TransportTx where
  message : Message := .none
  txSegment : Option (List UInt8) := .none
  sequence : UInt8 := 0
  tpduCount : Nat := 0
  numTransportTx : Nat := 0
deriving DecidableEq

namespace TransportTx

def configure (tx : TransportTx) (message : Message) : TransportTx :=
  { tx with txSegment := none, message, tpduCount := 0 }

def numToSend (tx : TransportTx) : Nat := if tx.message.payload.length < 249 then tx.message.payload.length else 249

def getSegment (tx : TransportTx) : List UInt8 × TransportTx :=
  match tx.txSegment with
  | some segment => (segment, tx)
  | none =>
    let fir := tx.tpduCount == 0
    let fin := tx.numToSend == tx.message.payload.length
    let segment := toByte fir fin tx.sequence :: tx.message.payload.take tx.numToSend
    (segment, { tx with numTransportTx := tx.numTransportTx + 1, txSegment := some segment })

def advance (tx : TransportTx) : Bool × TransportTx :=
  let payload := tx.message.payload.drop tx.numToSend
  (!payload.isEmpty,
    { tx with
      txSegment := none
      message := { tx.message with payload }
      tpduCount := tx.tpduCount + 1
      sequence := nextSeq 64 tx.sequence })

theorem getSegment_message (tx : TransportTx) : tx.getSegment.2.message = tx.message := by
  unfold getSegment
  split <;> rfl

theorem numToSend_eq (tx : TransportTx) : tx.numToSend = min 249 tx.message.payload.length := by
  unfold numToSend
  split <;> omega

theorem drop_numToSend (tx : TransportTx) :
    tx.message.payload.drop tx.numToSend = tx.message.payload.drop 249 := by
  rw [numToSend_eq]
  rcases Nat.le_total 249 tx.message.payload.length with h | h
  · rw [Nat.min_eq_left h]
  · rw [Nat.min_eq_right h, List.drop_length, List.drop_eq_nil_of_le h]

theorem advance_more (tx : TransportTx) : tx.advance.1 = decide (249 < tx.message.payload.length) := by
  show (!(tx.message.payload.drop tx.numToSend).isEmpty) = _
  rw [drop_numToSend, Bool.eq_iff_iff, Bool.not_eq_true', List.isEmpty_eq_false_iff, ← List.length_pos_iff,
    List.length_drop, decide_eq_true_iff]
  omega

theorem advance_payload (tx : TransportTx) : tx.advance.2.message.payload = tx.message.payload.drop 249 :=
  drop_numToSend tx

theorem payload_advance (tx : TransportTx) (h : tx.getSegment.2.advance.1 = true) :
    tx.getSegment.2.advance.2.message.payload.length < tx.message.payload.length := by
  rw [advance_more, getSegment_message, decide_eq_true_iff] at h
  rw [advance_payload, getSegment_message, List.length_drop]
  omega

/-- The segments the link layer takes, until `Advance` has no more. -/
def transmit (tx : TransportTx) : List (List UInt8) × TransportTx :=
  if _h : tx.getSegment.2.advance.1 = true then
    (tx.getSegment.1 :: (transmit tx.getSegment.2.advance.2).1, (transmit tx.getSegment.2.advance.2).2)
  else ([tx.getSegment.1], tx.getSegment.2.advance.2)
termination_by tx.message.payload.length
decreasing_by exact tx.payload_advance _h

end TransportTx

/-! ## Receiving (`TransportRx.cpp`) -/

/-- `StackStatistics::Transport::Rx` -/
structure TransportRxStatistics where
  numTransportRx : Nat := 0
  numTransportErrorRx : Nat := 0
  numTransportBufferOverflow : Nat := 0
  numTransportDiscard : Nat := 0
  numTransportIgnore : Nat := 0
deriving DecidableEq

/-- `received` is the first `numBytesRead` bytes of the buffer. -/
structure TransportRx where
  maxRxFragSize : Nat
  statistics : TransportRxStatistics := {}
  received : List UInt8 := []
  lastAddresses : Addresses := ⟨0, 0⟩
  expectedSeq : UInt8 := 0
deriving DecidableEq

namespace TransportRx

def ignore (rx : TransportRx) : Message × TransportRx :=
  (.none, { rx with statistics.numTransportIgnore := rx.statistics.numTransportIgnore + 1 })

/-- The segment passed the checks: its bytes are put behind those received. -/
def accept (rx : TransportRx) (header : TransportHeader) (addresses : Addresses) (payload : List UInt8) :
    Message × TransportRx :=
  if rx.maxRxFragSize - rx.received.length < payload.length then
    (.none, { rx with
      statistics.numTransportBufferOverflow := rx.statistics.numTransportBufferOverflow + 1
      received := [] })
  else
    let rx := { rx with
      received := rx.received ++ payload
      lastAddresses := addresses
      expectedSeq := nextSeq 64 header.seq }
    if header.fin then (⟨addresses, rx.received⟩, { rx with received := [] }) else (.none, rx)

def processReceive (rx : TransportRx) (segment : Message) : Message × TransportRx :=
  let rx := { rx with statistics.numTransportRx := rx.statistics.numTransportRx + 1 }
  match segment.payload with
  | [] => (.none, { rx with statistics.numTransportErrorRx := rx.statistics.numTransportErrorRx + 1 })
  | byte :: payload =>
    let header := TransportHeader.ofByte byte
    if header.fir then
      let rx := if 0 < rx.received.length then
          { rx with statistics.numTransportDiscard := rx.statistics.numTransportDiscard + 1, received := [] }
        else rx
      rx.accept header segment.addresses payload
    else if rx.received.length = 0 then rx.ignore
    else if header.seq ≠ rx.expectedSeq then rx.ignore
    else if segment.addresses ≠ rx.lastAddresses then rx.ignore
    else rx.accept header segment.addresses payload

/-- The messages handed up (`TransportLayer::OnReceive`), over some segments. -/
def receiveAll (rx : TransportRx) : List Message → TransportRx × List Message
  | [] => (rx, [])
  | segment :: segments =>
    let (asdu, rx) := rx.processReceive segment
    let (r, more) := receiveAll rx segments
    (r, if asdu.payload.isEmpty then more else asdu :: more)

end TransportRx

/-! ## Sequence numbers -/

/-- The number of the `i`-th segment. -/
def seqAt (i : Nat) : UInt8 := UInt8.ofNat (i % 64)

theorem toNat_seqAt (i : Nat) : (seqAt i).toNat = i % 64 := by
  rw [seqAt, UInt8.toNat_ofNat']
  omega

theorem seqAt_eq_iff {i j : Nat} : seqAt i = seqAt j ↔ i % 64 = j % 64 := by
  rw [← UInt8.toNat_inj, toNat_seqAt, toNat_seqAt]

theorem nextSeq_seqAt (i : Nat) : nextSeq 64 (seqAt i) = seqAt (i + 1) := by
  rw [← UInt8.toNat_inj, nextSeq, UInt8.toNat_mod, UInt8.toNat_add, toNat_seqAt, toNat_seqAt]
  show (i % 64 + 1) % 256 % 64 = (i + 1) % 64
  omega

theorem ofByte_toByte (fir fin : Bool) (i : Nat) :
    TransportHeader.ofByte (toByte fir fin (seqAt i)) = ⟨fir, fin, seqAt i⟩ := by
  have hall : (List.range 64).all (fun n => TransportHeader.ofByte (toByte fir fin (UInt8.ofNat n)) ==
      (⟨fir, fin, UInt8.ofNat n⟩ : TransportHeader)) = true := by
    cases fir <;> cases fin <;> decide +kernel
  have hi := List.all_eq_true.1 hall (i % 64) (List.mem_range.2 (Nat.mod_lt i (by decide)))
  exact beq_iff_eq.1 hi

/-! ## What goes out -/

/-- **The segments of a payload**, numbered from `i`. -/
def segmentsOf (fir : Bool) (i : Nat) (payload : List UInt8) : List (List UInt8) :=
  if _h : 249 < payload.length then
    (toByte fir false (seqAt i) :: payload.take 249) :: segmentsOf false (i + 1) (payload.drop 249)
  else [toByte fir true (seqAt i) :: payload]
termination_by payload.length
decreasing_by
  rw [List.length_drop]
  omega

namespace TransportTx

variable {tx : TransportTx}

theorem getSegment_fst (hset : tx.txSegment = none) :
    tx.getSegment.1 = toByte (tx.tpduCount == 0) (!decide (249 < tx.message.payload.length)) tx.sequence ::
      tx.message.payload.take 249 := by
  have htake : tx.message.payload.take tx.numToSend = tx.message.payload.take 249 := by
    rw [numToSend_eq, List.take_eq_take_iff]
    omega
  have hfin : (tx.numToSend == tx.message.payload.length) = !decide (249 < tx.message.payload.length) := by
    rw [numToSend_eq, Bool.eq_iff_iff, beq_iff_eq, Bool.not_eq_true', decide_eq_false_iff_not]
    omega
  rw [getSegment, hset]
  show toByte (tx.tpduCount == 0) (tx.numToSend == tx.message.payload.length) tx.sequence ::
    tx.message.payload.take tx.numToSend = _
  rw [htake, hfin]

/-- What one segment leaves to send. -/
theorem advance_getSegment (hset : tx.txSegment = none) :
    tx.getSegment.2.advance.2.txSegment = none ∧
    tx.getSegment.2.advance.2.tpduCount = tx.tpduCount + 1 ∧
    tx.getSegment.2.advance.2.sequence = nextSeq 64 tx.sequence := by
  rw [getSegment, hset]
  exact ⟨rfl, rfl, rfl⟩

/-- **What goes out are the segments of the fragment**, and the next number follows theirs. -/
theorem transmit_eq {i : Nat} (hset : tx.txSegment = none) (hseq : tx.sequence = seqAt i) :
    tx.transmit.1 = segmentsOf (tx.tpduCount == 0) i tx.message.payload ∧
      tx.transmit.2.sequence = seqAt (i + tx.transmit.1.length) ∧ tx.transmit.2.txSegment = none := by
  induction tx using transmit.induct generalizing i with
  | case1 tx h ih =>
    obtain ⟨hset', hcount, hseq'⟩ := advance_getSegment hset
    have hsegment := getSegment_fst hset
    have hmore := tx.getSegment.2.advance_more
    have hpayload := tx.getSegment.2.advance_payload
    rw [getSegment_message] at hmore hpayload
    obtain ⟨hsegments, hlast, hset''⟩ := ih hset' (hseq'.trans (by rw [hseq, nextSeq_seqAt]))
    rw [hmore, decide_eq_true_iff] at h
    rw [hcount, hpayload] at hsegments
    have htransmit : tx.transmit = (tx.getSegment.1 :: tx.getSegment.2.advance.2.transmit.1,
        tx.getSegment.2.advance.2.transmit.2) := by
      rw [transmit, dif_pos (by rw [hmore, decide_eq_true_iff]; exact h)]
    rw [htransmit, segmentsOf, dif_pos h]
    refine ⟨?_, ?_, hset''⟩
    · rw [hsegments, hsegment, hseq, decide_eq_true h]
      rfl
    · rw [hlast, List.length_cons]
      congr 1
      omega
  | case2 tx h =>
    obtain ⟨hset', -, hseq'⟩ := advance_getSegment hset
    have hsegment := getSegment_fst hset
    have hmore := tx.getSegment.2.advance_more
    rw [getSegment_message] at hmore
    have htransmit : tx.transmit = ([tx.getSegment.1], tx.getSegment.2.advance.2) := by rw [transmit, dif_neg h]
    rw [hmore, decide_eq_true_iff] at h
    rw [htransmit, segmentsOf, dif_neg h]
    refine ⟨?_, by rw [hseq', hseq, nextSeq_seqAt]; rfl, hset'⟩
    rw [hsegment, hseq, decide_eq_false h, List.take_of_length_le (by omega)]
    rfl

/-- A fragment handed down (`TransportLayer::BeginTransmit`): what the link layer sends, in order. -/
def send (tx : TransportTx) (message : Message) : TransportTx × List Message :=
  let (segments, tx) := (tx.configure message).transmit
  (tx, segments.map (Message.mk message.addresses))

def sendAll (tx : TransportTx) : List Message → TransportTx × List Message
  | [] => (tx, [])
  | message :: messages =>
    let (tx, segments) := tx.send message
    let (tx, more) := sendAll tx messages
    (tx, segments ++ more)

end TransportTx

/-- The segments of a fragment, in their envelopes. -/
def wrapped (i : Nat) (message : Message) : List Message :=
  (segmentsOf true i message.payload).map (Message.mk message.addresses)

theorem TransportTx.send_eq {tx : TransportTx} {i : Nat} (hseq : tx.sequence = seqAt i) (message : Message) :
    (tx.send message).2 = wrapped i message ∧
      (tx.send message).1.sequence = seqAt (i + (segmentsOf true i message.payload).length) := by
  obtain ⟨hsegments, hlast, -⟩ := transmit_eq (show (tx.configure message).txSegment = none from rfl) hseq
  have hsegments' : (tx.configure message).transmit.1 = segmentsOf true i message.payload := hsegments
  refine ⟨?_, hlast.trans (by rw [hsegments'])⟩
  show (tx.configure message).transmit.1.map _ = _
  rw [hsegments']
  rfl

theorem segmentsOf_ne_nil (fir : Bool) (i : Nat) (payload : List UInt8) : segmentsOf fir i payload ≠ [] := by
  rw [segmentsOf]
  split <;> exact List.cons_ne_nil _ _

/-! ## What comes in -/

namespace TransportRx

variable {rx : TransportRx} {a : Addresses} {i : Nat} {c : List UInt8}

/-- What the receiver holds of a fragment, and the number it waits for. -/
structure Holding (rx : TransportRx) (a : Addresses) (i : Nat) (bytes : List UInt8) : Prop where
  received : rx.received = bytes
  some : bytes ≠ []
  seq : rx.expectedSeq = seqAt i
  addresses : rx.lastAddresses = a

theorem receiveAll_cons (rx : TransportRx) (x : Message) (xs : List Message) :
    rx.receiveAll (x :: xs) = (((rx.processReceive x).2.receiveAll xs).1,
      if (rx.processReceive x).1.payload.isEmpty then ((rx.processReceive x).2.receiveAll xs).2
      else (rx.processReceive x).1 :: ((rx.processReceive x).2.receiveAll xs).2) := rfl

theorem receiveAll_append (rx : TransportRx) (xs ys : List Message) :
    rx.receiveAll (xs ++ ys) = (((rx.receiveAll xs).1.receiveAll ys).1,
      (rx.receiveAll xs).2 ++ ((rx.receiveAll xs).1.receiveAll ys).2) := by
  induction xs generalizing rx with
  | nil => rfl
  | cons x xs ih =>
    rw [List.cons_append, receiveAll_cons, ih, receiveAll_cons]
    split <;> rfl

theorem maxRxFragSize_processReceive (rx : TransportRx) (segment : Message) :
    (rx.processReceive segment).2.maxRxFragSize = rx.maxRxFragSize := by
  unfold processReceive
  simp only [ignore, accept]
  repeat' split
  all_goals rfl

/-- A segment that fits is put behind what was received, and a last one hands the whole up. -/
theorem accept_fits {header : TransportHeader} (hfits : rx.received.length + c.length ≤ rx.maxRxFragSize) :
    rx.accept header a c =
      if header.fin then
        (⟨a, rx.received ++ c⟩,
          { rx with received := [], lastAddresses := a, expectedSeq := nextSeq 64 header.seq })
      else
        (.none, { rx with
          received := rx.received ++ c
          lastAddresses := a
          expectedSeq := nextSeq 64 header.seq }) := by
  rw [accept, if_neg (by omega)]

/-- A first segment starts over, whatever was held. -/
theorem processReceive_first (fin : Bool) :
    ∃ st, rx.processReceive ⟨a, toByte true fin (seqAt i) :: c⟩ =
      ({ rx with statistics := st, received := [] } : TransportRx).accept ⟨true, fin, seqAt i⟩ a c := by
  simp only [processReceive, ofByte_toByte, if_true]
  split
  next => exact ⟨_, rfl⟩
  next h =>
    have hnil : rx.received = [] := List.eq_nil_of_length_eq_zero (Nat.eq_zero_of_not_pos h)
    exact ⟨_, by rw [hnil]⟩

/-- The segment that is waited for goes on. -/
theorem processReceive_next (fin : Bool) {bytes : List UInt8} (hrx : rx.Holding a i bytes) :
    ∃ st, rx.processReceive ⟨a, toByte false fin (seqAt i) :: c⟩ =
      ({ rx with statistics := st } : TransportRx).accept ⟨false, fin, seqAt i⟩ a c := by
  have hsome : ¬rx.received.length = 0 := by rw [hrx.received, List.length_eq_zero_iff]; exact hrx.some
  simp only [processReceive, ofByte_toByte, Bool.false_eq_true, if_false, if_neg hsome]
  rw [if_neg (fun h => h hrx.seq.symm), if_neg (fun h => h hrx.addresses.symm)]
  exact ⟨_, rfl⟩

/-- Any other segment changes nothing. -/
theorem processReceive_other (fin : Bool) (hrx : rx.received = [] ∨ rx.expectedSeq ≠ seqAt i) :
    ∃ st, rx.processReceive ⟨a, toByte false fin (seqAt i) :: c⟩ = (.none, { rx with statistics := st }) := by
  simp only [processReceive, ofByte_toByte, Bool.false_eq_true, if_false]
  split
  next => exact ⟨_, rfl⟩
  next h =>
    rw [if_pos (fun hseq => hrx.elim (fun hnil => h (by rw [hnil]; rfl)) (fun hne => hne hseq.symm))]
    exact ⟨_, rfl⟩

theorem receive_first (hsome : c ≠ []) (hfits : c.length ≤ rx.maxRxFragSize) :
    (rx.processReceive ⟨a, toByte true false (seqAt i) :: c⟩).1 = .none ∧
      (rx.processReceive ⟨a, toByte true false (seqAt i) :: c⟩).2.Holding a (i + 1) c := by
  obtain ⟨st, hst⟩ := rx.processReceive_first (a := a) (i := i) (c := c) false
  rw [hst, accept_fits (by simpa using hfits)]
  exact ⟨rfl, rfl, hsome, nextSeq_seqAt i, rfl⟩

theorem receive_only (hfits : c.length ≤ rx.maxRxFragSize) :
    (rx.processReceive ⟨a, toByte true true (seqAt i) :: c⟩).1 = ⟨a, c⟩ ∧
      (rx.processReceive ⟨a, toByte true true (seqAt i) :: c⟩).2.received = [] := by
  obtain ⟨st, hst⟩ := rx.processReceive_first (a := a) (i := i) (c := c) true
  rw [hst, accept_fits (by simpa using hfits)]
  exact ⟨rfl, rfl⟩

theorem receive_next {bytes : List UInt8} (hrx : rx.Holding a i bytes)
    (hfits : bytes.length + c.length ≤ rx.maxRxFragSize) :
    (rx.processReceive ⟨a, toByte false false (seqAt i) :: c⟩).1 = .none ∧
      (rx.processReceive ⟨a, toByte false false (seqAt i) :: c⟩).2.Holding a (i + 1) (bytes ++ c) := by
  obtain ⟨st, hst⟩ := processReceive_next (c := c) false hrx
  obtain ⟨rfl, hsome, -, -⟩ := hrx
  rw [hst, accept_fits (by exact hfits)]
  exact ⟨rfl, rfl, List.append_ne_nil_of_left_ne_nil hsome _, nextSeq_seqAt i, rfl⟩

theorem receive_last {bytes : List UInt8} (hrx : rx.Holding a i bytes)
    (hfits : bytes.length + c.length ≤ rx.maxRxFragSize) :
    (rx.processReceive ⟨a, toByte false true (seqAt i) :: c⟩).1 = ⟨a, bytes ++ c⟩ ∧
      (rx.processReceive ⟨a, toByte false true (seqAt i) :: c⟩).2.received = [] := by
  obtain ⟨st, hst⟩ := processReceive_next (c := c) true hrx
  obtain ⟨rfl, -, -, -⟩ := hrx
  rw [hst, accept_fits (by exact hfits)]
  exact ⟨rfl, rfl⟩

theorem receiveAll_silent {x : Message} (h : (rx.processReceive x).1 = .none) (xs : List Message) :
    rx.receiveAll (x :: xs) = (rx.processReceive x).2.receiveAll xs := by
  rw [receiveAll_cons, h]
  rfl

theorem receiveAll_one {x y : Message} (h : (rx.processReceive x).1 = y) (hsome : y.payload ≠ []) :
    rx.receiveAll [x] = ((rx.processReceive x).2, [y]) := by
  rw [receiveAll_cons, h, List.isEmpty_eq_false_iff.2 hsome]
  rfl

/-- The segments that are left of a fragment, all of them: it is handed up and nothing is kept. -/
theorem receiveAll_rest {p bytes : List UInt8} (hrx : rx.Holding a i bytes)
    (hfits : bytes.length + p.length ≤ rx.maxRxFragSize) :
    (rx.receiveAll ((segmentsOf false i p).map (Message.mk a))).2 = [⟨a, bytes ++ p⟩] ∧
    (rx.receiveAll ((segmentsOf false i p).map (Message.mk a))).1.received = [] := by
  induction hn : p.length using Nat.strong_induction_on generalizing rx i bytes p with
  | h n ih =>
  rw [segmentsOf]
  split
  next h =>
    have htake : (p.take 249).length = 249 := List.length_take_of_le (by omega)
    have hdrop : (p.drop 249).length = p.length - 249 := List.length_drop
    obtain ⟨hnone, hnext⟩ := receive_next (c := p.take 249) hrx (by omega)
    have hmax := rx.maxRxFragSize_processReceive ⟨a, toByte false false (seqAt i) :: p.take 249⟩
    have hrest := ih (p.drop 249).length (by omega) hnext (by rw [hmax, List.length_append]; omega) rfl
    rw [List.append_assoc, List.take_append_drop] at hrest
    rwa [List.map_cons, receiveAll_silent hnone]
  next h =>
    obtain ⟨hlast, hnil⟩ := receive_last hrx (by omega)
    rw [List.map_singleton, receiveAll_one hlast (List.append_ne_nil_of_left_ne_nil hrx.some _)]
    exact ⟨rfl, hnil⟩

/-- **A fragment that arrives whole is handed up**, whatever the receiver held before. -/
theorem receiveAll_whole (rx : TransportRx) (i : Nat) {message : Message} (hsome : message.payload ≠ [])
    (hfits : message.payload.length ≤ rx.maxRxFragSize) :
    (rx.receiveAll (wrapped i message)).2 = [message] ∧ (rx.receiveAll (wrapped i message)).1.received = [] := by
  obtain ⟨a, payload⟩ := message
  have hfits : payload.length ≤ rx.maxRxFragSize := hfits
  rw [show wrapped i ⟨a, payload⟩ = (segmentsOf true i payload).map (Message.mk a) from rfl, segmentsOf]
  split
  next h =>
    have htake : (payload.take 249).length = 249 := List.length_take_of_le (by omega)
    have hdrop : (payload.drop 249).length = payload.length - 249 := List.length_drop
    obtain ⟨hnone, hnext⟩ := rx.receive_first (a := a) (i := i) (c := payload.take 249)
      (List.length_pos_iff.1 (by omega)) (by omega)
    have hmax := rx.maxRxFragSize_processReceive ⟨a, toByte true false (seqAt i) :: payload.take 249⟩
    have hrest := receiveAll_rest (p := payload.drop 249) hnext (by rw [hmax]; omega)
    rw [List.take_append_drop] at hrest
    rwa [List.map_cons, receiveAll_silent hnone]
  next h =>
    obtain ⟨honly, hnil⟩ := rx.receive_only (a := a) (i := i) hfits
    rw [List.map_singleton, receiveAll_one honly hsome]
    exact ⟨rfl, hnil⟩

theorem maxRxFragSize_receiveAll (rx : TransportRx) (xs : List Message) :
    (rx.receiveAll xs).1.maxRxFragSize = rx.maxRxFragSize := by
  induction xs generalizing rx with
  | nil => rfl
  | cons x xs ih => rw [receiveAll_cons, ih, maxRxFragSize_processReceive]

end TransportRx

end Opendnp3
