import ModbusGateway.LinkFrames

/-!
# The link layer's parser (opendnp3)

`LinkLayerParser` reads frames out of a buffer of 292 bytes that is filled as the socket delivers.

| here | there |
| --- | --- |
| `sync`                 | `ShiftableBuffer::Sync` (link/ShiftableBuffer.cpp:65) |
| `validateFunctionCode`, `validateHeaderParameters`, `readHeader` | link/LinkLayerParser.cpp:168, 202, 253 |
| `parseSync`, `parseHeader`, `parseBody`, `parseOneStep` | link/LinkLayerParser.cpp:78-148 |
| `parseUntilComplete`, `onRead` | link/LinkLayerParser.cpp:52, 67 |

* `parseOneStep_step` — what a step does, in cases; `stepsLeft_parseOneStep` — the loop ends.
-/

namespace Opendnp3

structure Addresses where
  source : UInt16
  destination : UInt16
deriving DecidableEq

def Addresses.isBroadcast (addresses : Addresses) : Bool :=
  addresses.destination == 0xFFFD || addresses.destination == 0xFFFE || addresses.destination == 0xFFFF

structure LinkHeaderFields where
  func : LinkFunction
  isFromMaster : Bool
  fcb : Bool
  fcvdfc : Bool
  addresses : Addresses
deriving DecidableEq

def LinkHeader.fields (header : LinkHeader) : LinkHeaderFields :=
  ⟨header.getFuncEnum, header.isFromMaster, header.isFcbSet, header.isFcvDfcSet, ⟨header.src, header.dest⟩⟩

/-- What the sink is given. -/
structure LinkFrame where
  fields : LinkHeaderFields
  userData : List UInt8
deriving DecidableEq

/-! ## The parser -/

inductive ParserState where
  | findSync
  | readHeader
  | readBody
  | complete
deriving DecidableEq, Repr

/-- `LinkStatistics::Parser` -/
structure ParserStatistics where
  numHeaderCrcError : Nat := 0
  numBodyCrcError : Nat := 0
  numLinkFrameRx : Nat := 0
  numBadLength : Nat := 0
  numBadFunctionCode : Nat := 0
  numBadFCV : Nat := 0
  numBadFCB : Nat := 0
deriving DecidableEq

/-- `unread` is the buffer from `readPos` to the write position. The user data is copied to the front of the
same buffer, over bytes of the frame that are read already. -/
structure LinkLayerParser where
  statistics : ParserStatistics := {}
  header : LinkHeader := ⟨5, 0, 0, 0⟩
  state : ParserState := .findSync
  frameSize : Nat := 0
  userData : List UInt8 := []
  unread : List UInt8 := []
  readPos : Nat := 0
deriving DecidableEq

def userDataFunction (func : LinkFunction) : Bool :=
  func == .priConfirmedUserData || func == .priUnconfirmedUserData

namespace LinkLayerParser

variable (p : LinkLayerParser)

/-- `ShiftableBuffer::NumWriteBytes` -/
def numWriteBytes : Nat := 292 - (p.readPos + p.unread.length)

def advanceRead (numBytes : Nat) : LinkLayerParser :=
  { p with unread := p.unread.drop numBytes, readPos := p.readPos + numBytes }

/-- The bytes from the first start bytes on, if there are any. -/
def sync : List UInt8 → Bool × List UInt8
  | a :: b :: rest => if a = 0x05 ∧ b = 0x64 then (true, a :: b :: rest) else sync (b :: rest)
  | bytes => (false, bytes)

def validateFunctionCode (header : LinkHeader) (statistics : ParserStatistics) : Bool × ParserStatistics :=
  if header.isPriToSec then
    match header.getFuncEnum with
    | .priConfirmedUserData | .priTestLinkStates =>
      if header.isFcvDfcSet then (true, statistics)
      else (false, { statistics with numBadFCV := statistics.numBadFCV + 1 })
    | .priRequestLinkStatus | .priResetLinkStates | .priUnconfirmedUserData =>
      if header.isFcvDfcSet then (false, { statistics with numBadFCV := statistics.numBadFCV + 1 })
      else (true, statistics)
    | _ => (false, { statistics with numBadFunctionCode := statistics.numBadFunctionCode + 1 })
  else
    match header.getFuncEnum with
    | .secAck | .secNack | .secLinkStatus | .secNotSupported =>
      if header.isFcbSet then (false, { statistics with numBadFCB := statistics.numBadFCB + 1 })
      else (true, statistics)
    | _ => (false, { statistics with numBadFunctionCode := statistics.numBadFunctionCode + 1 })

def badLength : Bool × LinkLayerParser :=
  (false, { p with statistics := { p.statistics with numBadLength := p.statistics.numBadLength + 1 } })

def validateHeaderParameters : Bool × LinkLayerParser :=
  if !p.header.validLength then p.badLength
  else
    let (known, statistics) := validateFunctionCode p.header p.statistics
    if !known then (false, { p with statistics })
    else
      let user_data_length := p.header.dataLength
      let q := { p with statistics, frameSize := calcFrameSize user_data_length }
      if userDataFunction p.header.getFuncEnum && !decide (0 < user_data_length) then q.badLength
      else if !userDataFunction p.header.getFuncEnum && decide (0 < user_data_length) then q.badLength
      else (true, q)

def readHeader : Bool × LinkLayerParser :=
  let p := { p with header := LinkHeader.read p.unread }
  if isCorrectCRC p.unread 8 then p.validateHeaderParameters
  else
    (false, { p with statistics := { p.statistics with numHeaderCrcError := p.statistics.numHeaderCrcError + 1 } })

def failFrame : LinkLayerParser := p.advanceRead 1

def skipToSync : LinkLayerParser :=
  { p with unread := (sync p.unread).2, readPos := p.readPos + (p.unread.length - (sync p.unread).2.length) }

def parseSync : LinkLayerParser :=
  if 10 ≤ p.unread.length then
    if (sync p.unread).1 then { p.skipToSync with state := .readHeader } else { p.skipToSync with state := .findSync }
  else p

def parseHeader : LinkLayerParser :=
  if 10 ≤ p.unread.length then
    if p.readHeader.1 then { p.readHeader.2 with state := .readBody }
    else { p.readHeader.2.failFrame with state := .findSync }
  else p

def parseBody : LinkLayerParser :=
  if p.unread.length < p.frameSize then p
  else
    if validateBodyCRC (p.unread.drop 10) p.header.dataLength then
      { p with userData := readUserData (p.unread.drop 10) p.header.dataLength, state := .complete }
    else
      { p.failFrame with
        statistics := { p.statistics with numBodyCrcError := p.statistics.numBodyCrcError + 1 }
        state := .findSync }

def parseOneStep : LinkLayerParser :=
  match p.state with
  | .findSync => p.parseSync
  | .readHeader => p.parseHeader
  | .readBody => p.parseBody
  | .complete => p

/-- A bound on the steps that are left: a byte given up is worth a round of states. -/
def stepsLeft : Nat := 4 * p.unread.length + match p.state with
  | .findSync => if p.unread.length < 10 then 0 else 3
  | .readHeader => 2
  | .readBody => 1
  | .complete => 0

theorem length_sync (bytes : List UInt8) : (sync bytes).2.length ≤ bytes.length := by
  induction bytes using sync.induct with
  | case1 a b rest h => simp [sync, h]
  | case2 a b rest h ih => simp only [sync, if_neg h, List.length_cons] at ih ⊢; omega
  | case3 bytes h => rw [sync]; exact h

theorem validateHeaderParameters_unread : p.validateHeaderParameters.2.unread = p.unread := by
  unfold validateHeaderParameters badLength
  simp only
  split_ifs <;> rfl

theorem readHeader_unread : p.readHeader.2.unread = p.unread := by
  unfold readHeader
  simp only
  split
  · rw [validateHeaderParameters_unread]
  · rfl

/-- What one step does, in cases. -/
inductive Step (p : LinkLayerParser) : LinkLayerParser → Prop
  /-- Nothing to go on with. -/
  | wait (h : p.state = .findSync ∧ p.unread.length < 10 ∨ p.state = .readHeader ∧ p.unread.length < 10 ∨
      p.state = .readBody ∧ p.unread.length < p.frameSize ∨ p.state = .complete) : Step p p
  | synced (hstate : p.state = .findSync) (hlen : 10 ≤ p.unread.length) (h : (sync p.unread).1 = true) :
      Step p { p.skipToSync with state := .readHeader }
  | unsynced (hstate : p.state = .findSync) (hlen : 10 ≤ p.unread.length) (h : ¬(sync p.unread).1 = true) :
      Step p { p.skipToSync with state := .findSync }
  | header (hstate : p.state = .readHeader) (hlen : 10 ≤ p.unread.length) (h : p.readHeader.1 = true) :
      Step p { p.readHeader.2 with state := .readBody }
  | badHeader (hstate : p.state = .readHeader) (hlen : 10 ≤ p.unread.length) (h : ¬p.readHeader.1 = true) :
      Step p { p.readHeader.2.failFrame with state := .findSync }
  | body (hstate : p.state = .readBody) (hlen : p.frameSize ≤ p.unread.length)
      (h : validateBodyCRC (p.unread.drop 10) p.header.dataLength = true) :
      Step p { p with
        userData := readUserData (p.unread.drop 10) p.header.dataLength
        state := .complete }
  | badBody (hstate : p.state = .readBody) (hlen : p.frameSize ≤ p.unread.length)
      (h : ¬validateBodyCRC (p.unread.drop 10) p.header.dataLength = true) :
      Step p { p.failFrame with
        statistics := { p.statistics with numBodyCrcError := p.statistics.numBodyCrcError + 1 }
        state := .findSync }

theorem parseOneStep_step : Step p p.parseOneStep := by
  unfold parseOneStep
  cases hstate : p.state with
  | findSync =>
    simp only
    unfold parseSync
    by_cases hlen : 10 ≤ p.unread.length
    · rw [if_pos hlen]
      by_cases h : (sync p.unread).1 = true
      · rw [if_pos h]
        exact .synced hstate hlen h
      · rw [if_neg h]
        exact .unsynced hstate hlen h
    · rw [if_neg hlen]
      exact .wait (.inl ⟨hstate, by omega⟩)
  | readHeader =>
    simp only
    unfold parseHeader
    by_cases hlen : 10 ≤ p.unread.length
    · rw [if_pos hlen]
      by_cases h : p.readHeader.1 = true
      · rw [if_pos h]
        exact .header hstate hlen h
      · rw [if_neg h]
        exact .badHeader hstate hlen h
    · rw [if_neg hlen]
      exact .wait (.inr (.inl ⟨hstate, by omega⟩))
  | readBody =>
    simp only
    unfold parseBody
    by_cases hlen : p.unread.length < p.frameSize
    · rw [if_pos hlen]
      exact .wait (.inr (.inr (.inl ⟨hstate, hlen⟩)))
    · rw [if_neg hlen]
      by_cases h : validateBodyCRC (p.unread.drop 10) p.header.dataLength = true
      · rw [if_pos h]
        exact .body hstate (by omega) h
      · rw [if_neg h]
        exact .badBody hstate (by omega) h
  | complete => exact .wait (.inr (.inr (.inr hstate)))

/-- **The loop ends.** -/
theorem stepsLeft_parseOneStep (h : p.parseOneStep.state ≠ p.state) : p.parseOneStep.stepsLeft < p.stepsLeft := by
  have hstep := p.parseOneStep_step
  generalize p.parseOneStep = q at h hstep
  have hsync := length_sync p.unread
  have hheader := p.readHeader_unread
  cases hstep with
  | wait _ => exact absurd rfl h
  | synced hstate hlen _ =>
    simp only [stepsLeft, hstate, skipToSync]
    split <;> omega
  | unsynced hstate _ _ => exact absurd hstate.symm h
  | header hstate hlen _ =>
    simp only [stepsLeft, hstate, hheader]
    omega
  | badHeader hstate hlen _ =>
    simp only [stepsLeft, hstate, failFrame, advanceRead, hheader, List.length_drop]
    split <;> omega
  | body hstate _ _ =>
    simp only [stepsLeft, hstate]
    omega
  | badBody hstate _ _ =>
    simp only [stepsLeft, hstate, failFrame, advanceRead, List.length_drop]
    split <;> omega

def parseUntilComplete (p : LinkLayerParser) : LinkLayerParser :=
  if _h : p.parseOneStep.state ≠ p.state then parseUntilComplete p.parseOneStep else p.parseOneStep
termination_by p.stepsLeft
decreasing_by exact p.stepsLeft_parseOneStep _h

/-- What `PushFrame` hands to the sink. -/
def frame : LinkFrame := ⟨p.header.fields, p.userData⟩

/-- The parser behind a complete frame. -/
def afterFrame : LinkLayerParser :=
  { p.advanceRead p.frameSize with
    statistics := { p.statistics with numLinkFrameRx := p.statistics.numLinkFrameRx + 1 }
    state := .findSync }

/-- The loop of `OnRead`, with the frames it pushes; every turn but the last takes bytes. -/
def parseFrames : Nat → LinkLayerParser → LinkLayerParser × List LinkFrame
  | 0, p => (p.parseUntilComplete, [])
  | n + 1, p =>
    let q := p.parseUntilComplete
    if q.state = .complete then
      let (r, frames) := parseFrames n q.afterFrame
      (r, q.frame :: frames)
    else (q, [])

/-- **`OnRead`** of the bytes that were written to the buffer. -/
def onRead (bytes : List UInt8) : LinkLayerParser × List LinkFrame :=
  let p := { p with unread := p.unread ++ bytes }
  let (q, frames) := parseFrames p.unread.length p
  ({ q with readPos := 0 }, frames)

end LinkLayerParser

end Opendnp3
