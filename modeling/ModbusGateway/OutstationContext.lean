import ModbusGateway.Apdu
import ModbusGateway.KeptBuffer
import ModbusGateway.Transport

/-!
# The outstation's session (opendnp3)

What an outstation does with the fragments of its master: it answers requests, repeats an answer when the request is
repeated, reports events and waits for their confirmation, and speaks up by itself when it may.

| here | there (outstation/) |
| --- | --- |
| `OContext`, its operations | OutstationContext.h, OutstationContext.cpp |
| `onConfirm`, …, `onBroadcastMessage` | the states of OutstationStates.cpp |
| `LastRequest` | RequestHistory.cpp |
| `Selection`, `validateSelection` | ControlState.h |
| `processCommands` | CommandResponseHandler.h, CommandActionAdapter.cpp |
| `processWriteHeader` | WriteHandler.cpp |
| `processReadHeader` | ReadHandler.cpp |
| `processClassHeader` | ClassBasedRequestHandler.cpp |
| `loadResponse` | ResponseContext.cpp |

The parser of object headers, the static database, the command handler and the application are the fields of
`OutstationParts`; `App` is their state. Of the command handler `Begin` and `End` are left out, which stand around the
commands of a request and do nothing in `ModbusCommandHandler` (`Dnp3.cpp:229`). Parsing makes a pass without a
handler first (app/parsing/APDUParser.cpp:53), so a request is refused before any of its headers is handled. The
confirm timer is an input that comes only while the timer runs.
-/

namespace Opendnp3

/-! ## Codes -/

/-- `opendnp3/gen/CommandStatus.h` -/
inductive CommandStatus where
  | success
  | timeout
  | noSelect
  | formatError
  | notSupported
  | alreadyActive
  | hardwareError
  | local
  | tooManyOps
  | notAuthorized
  | automationInhibit
  | processingLimited
  | outOfRange
  | downstreamLocal
  | alreadyComplete
  | blocked
  | cancelled
  | blockedOtherMaster
  | downstreamFail
  | nonParticipating
  | undefined
deriving DecidableEq, Repr

inductive OperateType where
  | selectBeforeOperate
  | directOperate
  | directOperateNoAck
deriving DecidableEq, Repr

/-- `ParseResult`, less `OK`. -/
inductive ParseError where
  | notOnWhitelist
  | notEnoughDataForHeader
  | notEnoughDataForRange
  | notEnoughDataForObjects
  | unreasonableObjectCount
  | unknownObject
  | unknownQualifier
  | invalidObjectQualifier
  | invalidObject
  | badStartStop
  | countOfZero
deriving DecidableEq, Repr

/-- `IINFromParseResult` -/
def iinFromParseError : ParseError → IINField
  | .unknownObject => .ofBit .objectUnknown
  | _ => .ofBit .paramError

inductive RestartMode where
  | unsupported
  | supportedDelayFine
  | supportedDelayCoarse
deriving DecidableEq, Repr

inductive LinkBroadcastAddress where
  | dontConfirm
  | shallConfirm
  | optionalConfirm
deriving DecidableEq, Repr

/-- The cases of `UpdateLastBroadcastMessageReceived`. -/
def LinkBroadcastAddress.ofAddress (destination : UInt16) : Option LinkBroadcastAddress :=
  if destination = 0xFFFD then some .dontConfirm
  else if destination = 0xFFFE then some .shallConfirm
  else if destination = 0xFFFF then some .optionalConfirm
  else none

/-! ## Object headers -/

/-- Headers of a READ: those for the static database, those for the event buffer, and what is for neither. -/
inductive ReadHeader (S : Type) where
  | toStatic (header : S)
  | allEvents (gv : GroupVariation)
  | countOfEvents (gv : GroupVariation) (count : UInt16)
  | other

inductive WriteHeader (S : Type) where
  | iin (values : List (UInt16 × Bool))
  | absoluteTime (values : List Nat)
  | lastRecordedTime (values : List Nat)
  | timeAndInterval (values : S)
  | other

/-- Commands with indices of one or of two bytes. -/
structure CommandHeader (C : Type) where
  twoByte : Bool
  commands : List (C × UInt16)

inductive ClassHeader where
  | allObjects (gv : GroupVariation)
  | other

/-! ## What the session works with -/

/-- The writer of a fragment, the parser, the static database, the command handler and the application. `S`: objects
that the session hands on. A `freeze` may bring events, and so may an `operate`, which is given the database to
update. -/
structure OutstationParts (V σ App C S : Type) where
  start : σ
  remaining : σ → Nat
  eventWriter : WriteHandler σ V
  writeDelay : Bool → UInt16 → σ → σ
  writeCommands : Bool → List (C × UInt16 × CommandStatus) → σ → σ
  parseRead : List UInt8 → Except ParseError (List (ReadHeader S))
  parseWrite : List UInt8 → Except ParseError (List (WriteHeader S))
  parseCommands : List UInt8 → Except ParseError (List (CommandHeader C))
  parseClasses : List UInt8 → Except ParseError (List ClassHeader)
  selectStatic : S → App → App × IINField
  unselectStatic : App → App
  hasStaticSelection : App → Bool
  loadStatic : σ → App → App × σ × Bool
  freeze : Bool → List UInt8 → App → App × List (EventType × Event V Nat) × Option ParseError
  assignClass : List UInt8 → App → App × IINField
  isQUFlagSet : C → Bool
  select : C → UInt16 → App → App × CommandStatus
  operate : C → UInt16 → OperateType → App → App × List (EventType × Event V Nat) × CommandStatus
  applicationIIN : App → IINField
  supportsAssignClass : App → Bool
  supportsWriteAbsoluteTime : App → Bool
  supportsWriteTimeAndInterval : App → Bool
  writeAbsoluteTime : Nat → App → App × Bool
  writeTimeAndInterval : S → App → App × Bool
  restartSupport : Bool → App → RestartMode
  restart : Bool → App → App × UInt16
  onConfirmProcessed : Bool → UInt32 → UInt32 → UInt32 → App → App

structure NumRetries where
  numRetries : Nat := 0
  maxNumRetries : Nat := 0
  isInfinite : Bool := true
deriving DecidableEq

/-- `NumRetries::Retry` -/
def NumRetries.retry (n : NumRetries) : NumRetries × Bool :=
  let n := { n with numRetries := n.numRetries + 1 }
  (n, n.isInfinite || n.numRetries ≤ n.maxNumRetries)

def NumRetries.reset (n : NumRetries) : NumRetries := { n with numRetries := 0 }

/-- Durations in milliseconds. -/
structure OutstationParams where
  maxControlsPerRequest : Nat := 4294967295
  selectTimeout : Nat := 10000
  numUnsolRetries : NumRetries := {}
  noDefferedReadDuringUnsolicitedNullResponse : Bool := false
  maxRxFragSize : Nat := 2048
  allowUnsolicited : Bool := false
  unsolClassMask : ClassField := {}
  respondToAnyMaster : Bool := false
deriving DecidableEq

/-! ## Parts of the state -/

structure LastRequest where
  lastHeader : APDUHeader
  lastObjectsLength : Nat
  lastDigest : UInt16
deriving DecidableEq

/-- `RequestHistory::RecordLastProcessedRequest` -/
def LastRequest.ofRequest (header : APDUHeader) (objects : List UInt8) : LastRequest :=
  ⟨header, objects.length, calcCrc objects⟩

/-- `RequestHistory::FullyEqualsLastRequest` -/
def LastRequest.fullyEquals (last : LastRequest) (header : APDUHeader) (objects : List UInt8) : Bool :=
  last.lastHeader.equals header && last.lastObjectsLength == objects.length && last.lastDigest == calcCrc objects

structure Selection where
  expectedSeq : UInt8
  selectTime : Nat
  digest : UInt16
  length : Nat
deriving DecidableEq

/-- `ControlState::Select` -/
def Selection.ofSelect (seq : UInt8) (now : Nat) (objects : List UInt8) : Selection :=
  ⟨nextAppSeq seq, now, calcCrc objects, objects.length⟩

/-- **`ControlState::ValidateSelection`** -/
def validateSelection (control : Option Selection) (seq : UInt8) (now timeout : Nat) (objects : List UInt8) :
    CommandStatus :=
  match control with
  | none => .noSelect
  | some selection =>
    if selection.expectedSeq != seq then .noSelect
    else if now < selection.selectTime then .timeout
    else if timeout ≤ now - selection.selectTime then .timeout
    else if selection.length == objects.length && selection.digest == calcCrc objects then .success
    else .noSelect

structure TimeSync where
  time : Nat
  expectedSeqNum : UInt8
deriving DecidableEq

inductive OutstationState where
  | idle
  | solicitedConfirmWait
  | unsolicitedConfirmWait
  | nullUnsolicitedConfirmWait
deriving DecidableEq, Repr

/-- What the session does to the outside, with marks: a request is taken for a new one, or for the last one again; a
confirmation is accepted; a transmission is over; the session goes offline. -/
inductive OutstationOutput (σ C : Type) where
  | newRequest (request : ParsedRequest) (now : Nat)
  | repeated (request : ParsedRequest)
  | select (command : C) (index : UInt16) (status : CommandStatus)
  | operate (command : C) (index : UInt16) (opType : OperateType) (status : CommandStatus)
  | transmit (destination : UInt16) (response : Option (Response σ))
  | confirmed (unsolicited : Bool) (seq : UInt8)
  | ready
  | offline

/-- `solTx`, `unsolTx`: the last response of each `TxBuffer`. `now`: the executor's clock. -/
structure OContext (V σ App C : Type) (config : EventBufferConfig) where
  addresses : Addresses
  params : OutstationParams
  events : KeptBuffer V config
  app : App
  now : Nat := 0
  fragmentCount : UInt16 := 0
  isOnline : Bool := false
  isTransmitting : Bool := false
  staticIIN : IINField := .ofBit .deviceRestart
  deferred : Option ParsedRequest := none
  history : Option LastRequest := none
  control : Option Selection := none
  time : Option TimeSync := none
  solNum : UInt8 := 0
  solConfirmNum : UInt8 := 0
  solTx : Option (Response σ) := none
  completedNull : Bool := false
  unsolNum : UInt8 := 0
  unsolConfirmNum : UInt8 := 0
  unsolTx : Option (Response σ) := none
  unsolRetries : NumRetries
  unsolClassMask : ClassField
  shouldCheckForUnsolicited : Bool := false
  lastBroadcastMessageReceived : Option LinkBroadcastAddress := none
  confirmTimer : Bool := false
  state : OutstationState := .idle
  log : List (OutstationOutput σ C) := []

namespace OContext

variable {V σ App C S : Type} {config : EventBufferConfig}

def ofConfig [Inhabited V] (config : EventBufferConfig) (addresses : Addresses) (params : OutstationParams)
    (app : App) : OContext V σ App C config where
  addresses
  params
  events := .ofConfig config
  app
  unsolRetries := params.numUnsolRetries
  unsolClassMask := params.unsolClassMask

def emit (s : OContext V σ App C config) (output : OutstationOutput σ C) : OContext V σ App C config :=
  { s with log := s.log ++ [output] }

/-! ## Responses -/

def canTransmit (s : OContext V σ App C config) : Bool := s.isOnline && !s.isTransmitting

/-- Of both confirm timers: there is one. -/
def restartConfirmTimer (s : OContext V σ App C config) : OContext V σ App C config := { s with confirmTimer := true }

def getDynamicIIN (s : OContext V σ App C config) : OContext V σ App C config × IINField :=
  let classField := s.events.unwrittenClassField
  let (events, overflown) := s.events.isOverflown
  ({ s with events },
    (((IINField.empty.setBitToValue .class1Events classField.class1).setBitToValue .class2Events
      classField.class2).setBitToValue .class3Events classField.class3).setBitToValue .eventBufferOverflow overflown)

def getResponseIIN (P : OutstationParts V σ App C S) (s : OContext V σ App C config) :
    OContext V σ App C config × IINField :=
  let (s, iin) := s.getDynamicIIN
  (s, (s.staticIIN.or iin).or (P.applicationIIN s.app))

def beginTx (s : OContext V σ App C config) (destination : UInt16) (message : Option (Response σ)) :
    OContext V σ App C config :=
  { s with isTransmitting := true }.emit (.transmit destination message)

def checkForBroadcastConfirmation (s : OContext V σ App C config) (response : Response σ) :
    OContext V σ App C config × Response σ :=
  match s.lastBroadcastMessageReceived with
  | none => (s, response)
  | some .shallConfirm => (s, { response with iin := response.iin.or (.ofBit .broadcast), control.con := true })
  | some _ => ({ s with lastBroadcastMessageReceived := none }, { response with iin := response.iin.or (.ofBit .broadcast) })

def beginResponseTx (s : OContext V σ App C config) (destination : UInt16) (response : Response σ) :
    OContext V σ App C config × OutstationState :=
  let (s, response) := s.checkForBroadcastConfirmation response
  let s := { s with solTx := some response, solConfirmNum := response.control.seq }.beginTx destination (some response)
  if response.control.con then (s.restartConfirmTimer, .solicitedConfirmWait) else (s, .idle)

def beginRetransmitLastResponse (s : OContext V σ App C config) (destination : UInt16) : OContext V σ App C config :=
  s.beginTx destination s.solTx

def beginRetransmitLastUnsolicitedResponse (s : OContext V σ App C config) : OContext V σ App C config :=
  s.beginTx s.addresses.destination s.unsolTx

def beginUnsolTx (s : OContext V σ App C config) (response : Response σ) : OContext V σ App C config :=
  let (s, response) := s.checkForBroadcastConfirmation response
  { s with unsolTx := some response, unsolConfirmNum := s.unsolNum, unsolNum := nextAppSeq s.unsolNum }.beginTx
    s.addresses.destination (some response)

/-- `ResponseContext::HasSelection` -/
def hasSelection (P : OutstationParts V σ App C S) (s : OContext V σ App C config) : Bool :=
  P.hasStaticSelection s.app || s.events.hasAnySelection

/-- **`ResponseContext::LoadResponse`** -/
def loadResponse (P : OutstationParts V σ App C S) (s : OContext V σ App C config) (body : σ) :
    OContext V σ App C config × σ × AppControlField :=
  let fir := s.fragmentCount == 0
  let (events, written, notFull) := s.events.load P.eventWriter body
  let s := { s with fragmentCount := s.fragmentCount + 1, events }
  if notFull then
    let (app, whole, fin) := P.loadStatic written s.app
    ({ s with app }, whole, { fir, fin, con := !fin || P.remaining written < P.remaining body })
  else (s, written, { fir, fin := false, con := true })

/-! ## Function handlers -/

/-- The headers one after the other, with the errors of all (`IAPDUHandler::Record`). -/
def processHeaders {α H : Type} (process : α → H → α × IINField) (a : α) (headers : List H) : α × IINField :=
  headers.foldl (fun r header => ((process r.1 header).1, r.2.or (process r.1 header).2)) (a, .empty)

def processReadHeader (P : OutstationParts V σ App C S) (s : OContext V σ App C config) :
    ReadHeader S → OContext V σ App C config × IINField
  | .toStatic header =>
    let (app, iin) := P.selectStatic header s.app
    ({ s with app }, iin)
  | .allEvents gv =>
    let (events, supported) := s.events.selectAll gv
    ({ s with events }, if supported then .empty else .ofBit .funcNotSupported)
  | .countOfEvents gv count =>
    let (events, supported) := s.events.selectCount gv count
    ({ s with events }, if supported then .empty else .ofBit .funcNotSupported)
  | .other => (s, .ofBit .funcNotSupported)

def handleRead (P : OutstationParts V σ App C S) (s : OContext V σ App C config) (objects : List UInt8) (body : σ) :
    OContext V σ App C config × σ × IINField × AppControlField :=
  let s := { s with fragmentCount := 0, events := s.events.unselect, app := P.unselectStatic s.app }
  match P.parseRead objects with
  | .ok headers =>
    let (s, iin) := processHeaders (processReadHeader P) s headers
    let (s, body, control) := s.loadResponse P body
    (s, body, iin, control)
  | .error result => ({ s with fragmentCount := 0 }, body, iinFromParseError result, {})

/-- The state of a `WriteHandler`. -/
structure WriteProgress (V σ App C : Type) (config : EventBufferConfig) where
  context : OContext V σ App C config
  wroteTime : Bool := false
  wroteIIN : Bool := false

/-- `ProcessHeader` of an absolute time, and what it has in common with the one of a recorded time. -/
def writeTime (P : OutstationParts V σ App C S) (w : WriteProgress V σ App C config) (time : Nat) :
    WriteProgress V σ App C config × IINField :=
  let (app, written) := P.writeAbsoluteTime time w.context.app
  ({ w with context.app := app, wroteTime := true }, if written then .empty else .ofBit .paramError)

def processWriteHeader (P : OutstationParts V σ App C S) (w : WriteProgress V σ App C config) :
    WriteHeader S → WriteProgress V σ App C config × IINField
  | .iin [(index, value)] =>
    -- 7 is the index of `DEVICE_RESTART`, which can only be cleared
    if w.wroteIIN || index != 7 || value then (w, .ofBit .paramError)
    else ({ w with context.staticIIN := w.context.staticIIN.clearBit .deviceRestart, wroteIIN := true }, .empty)
  | .iin _ => (w, .ofBit .paramError)
  | .absoluteTime values =>
    if w.wroteTime then (w, .ofBit .paramError)
    else if !P.supportsWriteAbsoluteTime w.context.app then (w, .ofBit .funcNotSupported)
    else match values with
      | [value] => writeTime P w value
      | _ => (w, .ofBit .paramError)
  | .lastRecordedTime values =>
    if w.wroteTime then (w, .ofBit .paramError)
    else if !P.supportsWriteAbsoluteTime w.context.app then (w, .ofBit .funcNotSupported)
    else match values, w.context.time with
      | [value], some sync =>
        if sync.expectedSeqNum != w.context.solNum || w.context.now < sync.time then (w, .ofBit .paramError)
        else writeTime P { w with context.time := none } (value + (w.context.now - sync.time))
      | _, _ => (w, .ofBit .paramError)
  | .timeAndInterval values =>
    if !P.supportsWriteTimeAndInterval w.context.app then (w, .ofBit .funcNotSupported)
    else
      let (app, written) := P.writeTimeAndInterval values w.context.app
      ({ w with context.app := app }, if written then .empty else .ofBit .paramError)
  | .other => (w, .ofBit .funcNotSupported)

def handleWrite (P : OutstationParts V σ App C S) (s : OContext V σ App C config) (objects : List UInt8) :
    OContext V σ App C config × IINField :=
  match P.parseWrite objects with
  | .ok headers =>
    let (w, iin) := processHeaders (processWriteHeader P) { context := s } headers
    (w.context, iin)
  | .error result => (s, iinFromParseError result)

/-- What is done with each command: `CommandActionAdapter` with either handler call, `ConstantCommandAction`. -/
inductive CommandAction where
  | select
  | operate (opType : OperateType)
  | constant (status : CommandStatus)

def action (P : OutstationParts V σ App C S) (a : CommandAction) (s : OContext V σ App C config) (command : C)
    (index : UInt16) : OContext V σ App C config × CommandStatus :=
  match a with
  | .constant status => (s, status)
  | .select =>
    if P.isQUFlagSet command then (s, .notSupported)
    else
      let (app, status) := P.select command index s.app
      ({ s with app }.emit (.select command index status), status)
  | .operate opType =>
    if P.isQUFlagSet command then (s, .notSupported)
    else
      let (app, updates, status) := P.operate command index opType s.app
      ({ s with app, events := s.events.updateAll updates }.emit (.operate command index opType status), status)

/-- The state of a `CommandResponseHandler`; `writer` is `none` where there is nothing to write to. -/
structure CommandProgress (V σ App C : Type) (config : EventBufferConfig) where
  context : OContext V σ App C config
  writer : Option σ
  numRequests : Nat := 0
  numSuccess : Nat := 0

def processCommand (P : OutstationParts V σ App C S) (a : CommandAction) (w : CommandProgress V σ App C config)
    (command : C) (index : UInt16) : CommandProgress V σ App C config × CommandStatus :=
  if w.numRequests < w.context.params.maxControlsPerRequest then
    let (context, status) := action P a w.context command index
    ({ w with
      context
      numRequests := w.numRequests + 1
      numSuccess := if status = .success then w.numSuccess + 1 else w.numSuccess }, status)
  else (w, .tooManyOps)

/-- The commands of a header, with their statuses. -/
def processCommandList (P : OutstationParts V σ App C S) (a : CommandAction) :
    CommandProgress V σ App C config → List (C × UInt16) →
      CommandProgress V σ App C config × List (C × UInt16 × CommandStatus)
  | w, [] => (w, [])
  | w, (command, index) :: rest =>
    let (w, status) := processCommand P a w command index
    let (w, statuses) := processCommandList P a w rest
    (w, (command, index, status) :: statuses)

def processCommandHeader (P : OutstationParts V σ App C S) (a : CommandAction) (w : CommandProgress V σ App C config)
    (header : CommandHeader C) : CommandProgress V σ App C config × IINField :=
  let (w, statuses) := processCommandList P a w header.commands
  ({ w with writer := w.writer.map (P.writeCommands header.twoByte statuses) },
    if statuses.any (·.2.2 == .notSupported) then .ofBit .paramError else .empty)

/-- The commands of a request that parses; its errors, and whether all commands succeeded. -/
def processCommands (P : OutstationParts V σ App C S) (a : CommandAction) (s : OContext V σ App C config)
    (headers : List (CommandHeader C)) (writer : Option σ) :
    OContext V σ App C config × Option σ × IINField × Bool :=
  let (w, iin) := processHeaders (processCommandHeader P a) { context := s, writer } headers
  (w.context, w.writer, iin, w.numRequests == w.numSuccess)

def handleDirectOperate (P : OutstationParts V σ App C S) (s : OContext V σ App C config) (objects : List UInt8)
    (opType : OperateType) (writer : Option σ) : OContext V σ App C config × Option σ × IINField :=
  if writer.any fun body => P.remaining body < objects.length then (s, writer, .ofBit .paramError)
  else
    match P.parseCommands objects with
    | .ok headers =>
      let (s, writer, iin, _) := processCommands P (.operate opType) s headers writer
      ({ s with shouldCheckForUnsolicited := true }, writer, iin)
    | .error result => ({ s with shouldCheckForUnsolicited := true }, writer, iinFromParseError result)

def handleSelect (P : OutstationParts V σ App C S) (s : OContext V σ App C config) (objects : List UInt8) (body : σ) :
    OContext V σ App C config × Option σ × IINField :=
  if P.remaining body < objects.length then (s, some body, .ofBit .paramError)
  else
    match P.parseCommands objects with
    | .ok headers =>
      let (s, writer, iin, allSuccessful) := processCommands P .select s headers (some body)
      (if allSuccessful then { s with control := some (.ofSelect s.solNum s.now objects) } else s, writer, iin)
    | .error result => (s, some body, iinFromParseError result)

def handleCommandWithConstant (P : OutstationParts V σ App C S) (s : OContext V σ App C config) (objects : List UInt8)
    (body : σ) (status : CommandStatus) : OContext V σ App C config × Option σ × IINField :=
  match P.parseCommands objects with
  | .ok headers =>
    let (s, writer, _, _) := processCommands P (.constant status) s headers (some body)
    (s, writer, .empty)
  | .error result => (s, some body, iinFromParseError result)

def handleOperate (P : OutstationParts V σ App C S) (s : OContext V σ App C config) (objects : List UInt8) (body : σ) :
    OContext V σ App C config × Option σ × IINField :=
  if P.remaining body < objects.length then (s, some body, .ofBit .paramError)
  else
    match validateSelection s.control s.solNum s.now s.params.selectTimeout objects with
    | .success =>
      match P.parseCommands objects with
      | .ok headers =>
        let (s, writer, iin, _) := processCommands P (.operate .selectBeforeOperate) s headers (some body)
        ({ s with shouldCheckForUnsolicited := true }, writer, iin)
      | .error result => ({ s with shouldCheckForUnsolicited := true }, some body, iinFromParseError result)
    | status => handleCommandWithConstant P { s with control := none } objects body status

def handleDelayMeasure (P : OutstationParts V σ App C S) (objects : List UInt8) (body : σ) : σ × IINField :=
  if objects.isEmpty then (P.writeDelay false 0 body, .empty) else (body, .ofBit .paramError)

def handleRecordCurrentTime (s : OContext V σ App C config) : OContext V σ App C config × IINField :=
  ({ s with time := some ⟨s.now, nextAppSeq s.solNum⟩ }, .empty)

def handleRestart (P : OutstationParts V σ App C S) (s : OContext V σ App C config) (objects : List UInt8)
    (isWarmRestart : Bool) (body : σ) : OContext V σ App C config × σ × IINField :=
  if !objects.isEmpty then (s, body, .ofBit .paramError)
  else
    match P.restartSupport isWarmRestart s.app with
    | .unsupported => (s, body, .ofBit .funcNotSupported)
    | mode =>
      let (app, delay) := P.restart isWarmRestart s.app
      ({ s with app }, P.writeDelay (mode == .supportedDelayCoarse) delay body, .empty)

def handleAssignClass (P : OutstationParts V σ App C S) (s : OContext V σ App C config) (objects : List UInt8) :
    OContext V σ App C config × IINField :=
  if P.supportsAssignClass s.app then
    let (app, iin) := P.assignClass objects s.app
    ({ s with app }, iin)
  else (s, .ofBit .funcNotSupported)

def processClassHeader (field : ClassField) : ClassHeader → ClassField × IINField
  | .allObjects ⟨60, 2⟩ => ({ field with class1 := true }, .empty)
  | .allObjects ⟨60, 3⟩ => ({ field with class2 := true }, .empty)
  | .allObjects ⟨60, 4⟩ => ({ field with class3 := true }, .empty)
  | _ => (field, .ofBit .funcNotSupported)

def handleDisableUnsolicited (P : OutstationParts V σ App C S) (s : OContext V σ App C config) (objects : List UInt8) :
    OContext V σ App C config × IINField :=
  match P.parseClasses objects with
  | .ok headers =>
    let (field, iin) := processHeaders processClassHeader {} headers
    ({ s with unsolClassMask := s.unsolClassMask.clear field }, iin)
  | .error result => (s, iinFromParseError result)

def handleEnableUnsolicited (P : OutstationParts V σ App C S) (s : OContext V σ App C config) (objects : List UInt8) :
    OContext V σ App C config × IINField :=
  match P.parseClasses objects with
  | .ok headers =>
    let (field, iin) := processHeaders processClassHeader {} headers
    ({ s with unsolClassMask := s.unsolClassMask.set field, shouldCheckForUnsolicited := true }, iin)
  | .error result => (s, iinFromParseError result)

/-- `HandleFreeze`, and `HandleFreezeAndClear` with `clear`. -/
def handleFreeze (P : OutstationParts V σ App C S) (s : OContext V σ App C config) (clear : Bool)
    (objects : List UInt8) : OContext V σ App C config × IINField :=
  let (app, frozen, result) := P.freeze clear objects s.app
  ({ s with app, events := s.events.updateAll frozen }, result.elim .empty iinFromParseError)

/-- **`HandleNonReadResponse`** -/
def handleNonReadResponse (P : OutstationParts V σ App C S) (s : OContext V σ App C config) (header : APDUHeader)
    (objects : List UInt8) (body : σ) : OContext V σ App C config × σ × IINField :=
  match header.function with
  | .write => let (s, iin) := s.handleWrite P objects; (s, body, iin)
  | .select => let (s, writer, iin) := s.handleSelect P objects body; (s, writer.getD body, iin)
  | .operate => let (s, writer, iin) := s.handleOperate P objects body; (s, writer.getD body, iin)
  | .directOperate =>
    let (s, writer, iin) := s.handleDirectOperate P objects .directOperate (some body)
    (s, writer.getD body, iin)
  | .coldRestart => s.handleRestart P objects false body
  | .warmRestart => s.handleRestart P objects true body
  | .assignClass => let (s, iin) := s.handleAssignClass P objects; (s, body, iin)
  | .delayMeasure => let (body, iin) := handleDelayMeasure P objects body; (s, body, iin)
  | .recordCurrentTime =>
    if objects.isEmpty then let (s, iin) := s.handleRecordCurrentTime; (s, body, iin)
    else (s, body, .ofBit .paramError)
  | .disableUnsolicited =>
    if s.params.allowUnsolicited then let (s, iin) := s.handleDisableUnsolicited P objects; (s, body, iin)
    else (s, body, .ofBit .funcNotSupported)
  | .enableUnsolicited =>
    if s.params.allowUnsolicited then let (s, iin) := s.handleEnableUnsolicited P objects; (s, body, iin)
    else (s, body, .ofBit .funcNotSupported)
  | .immedFreeze => let (s, iin) := s.handleFreeze P false objects; (s, body, iin)
  | .freezeClear => let (s, iin) := s.handleFreeze P true objects; (s, body, iin)
  | _ => (s, body, .ofBit .funcNotSupported)

def processBroadcastRequest (P : OutstationParts V σ App C S) (s : OContext V σ App C config)
    (request : ParsedRequest) : OContext V σ App C config :=
  match request.header.function with
  | .write => (s.handleWrite P request.objects).1
  | .directOperateNR => (s.handleDirectOperate P request.objects .directOperateNoAck none).1
  | .immedFreezeNR => (s.handleFreeze P false request.objects).1
  | .freezeClearNR => (s.handleFreeze P true request.objects).1
  | .assignClass =>
    if P.supportsAssignClass s.app then (s.handleAssignClass P request.objects).1 else s
  -- the other way than in `handleNonReadResponse`
  | .recordCurrentTime => if !request.objects.isEmpty then s.handleRecordCurrentTime.1 else s
  | .disableUnsolicited =>
    if s.params.allowUnsolicited then (s.handleDisableUnsolicited P request.objects).1 else s
  | .enableUnsolicited =>
    if s.params.allowUnsolicited then (s.handleEnableUnsolicited P request.objects).1 else s
  | _ => s

def processRequestNoAck (P : OutstationParts V σ App C S) (s : OContext V σ App C config) (request : ParsedRequest) :
    OContext V σ App C config :=
  match request.header.function with
  | .directOperateNR => (s.handleDirectOperate P request.objects .directOperateNoAck none).1
  | .immedFreezeNR => (s.handleFreeze P false request.objects).1
  | .freezeClearNR => (s.handleFreeze P true request.objects).1
  | _ => s

/-! ## Answering -/

def respondToNonReadRequest (P : OutstationParts V σ App C S) (s : OContext V σ App C config)
    (request : ParsedRequest) : OContext V σ App C config × OutstationState :=
  let s := { s with history := some (.ofRequest request.header request.objects) }
  let (s, body, iin) := s.handleNonReadResponse P request.header request.objects P.start
  let (s, responseIIN) := s.getResponseIIN P
  s.beginResponseTx request.addresses.source
    ⟨{ seq := request.header.control.seq }, .response, iin.or responseIIN, body⟩

def respondToReadRequest (P : OutstationParts V σ App C S) (s : OContext V σ App C config)
    (request : ParsedRequest) : OContext V σ App C config × OutstationState :=
  let s := { s with history := some (.ofRequest request.header request.objects) }
  let (s, body, iin, control) := s.handleRead P request.objects P.start
  let (s, responseIIN) := s.getResponseIIN P
  s.beginResponseTx request.addresses.source
    ⟨{ control with seq := request.header.control.seq }, .response, iin.or responseIIN, body⟩

def continueMultiFragResponse (P : OutstationParts V σ App C S) (s : OContext V σ App C config)
    (addresses : Addresses) (seq : UInt8) : OContext V σ App C config × OutstationState :=
  let (s, body, control) := s.loadResponse P P.start
  let (s, responseIIN) := s.getResponseIIN P
  s.beginResponseTx addresses.source ⟨{ control with seq }, .response, responseIIN, body⟩

/-! ## The states (`OutstationStates.cpp`) -/

/-- What a confirmation does in both waits before the events are cleared. -/
def acceptConfirm (s : OContext V σ App C config) (request : ParsedRequest) : OContext V σ App C config :=
  { s with history := none, confirmTimer := false, lastBroadcastMessageReceived := none }.emit
    (.confirmed request.header.control.uns request.header.control.seq)

/-- `application->OnConfirmProcessed` -/
def informApplication (P : OutstationParts V σ App C S) (s : OContext V σ App C config) (unsolicited : Bool) :
    OContext V σ App C config :=
  let numEvents := s.events.1.numUnwritten
  { s with app := P.onConfirmProcessed unsolicited (numEvents .ec1) (numEvents .ec2) (numEvents .ec3) s.app }

def onConfirm (P : OutstationParts V σ App C S) (s : OContext V σ App C config) (request : ParsedRequest) :
    OContext V σ App C config × OutstationState :=
  let control := request.header.control
  match s.state with
  | .idle => (s, .idle)
  | .solicitedConfirmWait =>
    if control.uns || s.solConfirmNum != control.seq then (s, s.state)
    else
      let s := s.acceptConfirm request
      let s := { s with events := s.events.clearWritten }.informApplication P false
      if s.hasSelection P then s.continueMultiFragResponse P request.addresses (nextAppSeq control.seq) else (s, .idle)
  | .unsolicitedConfirmWait | .nullUnsolicitedConfirmWait =>
    if !control.uns || s.unsolConfirmNum != control.seq then (s, s.state)
    else
      let s := (s.acceptConfirm request).informApplication P true
      let s := if s.completedNull then { s with events := s.events.clearWritten } else { s with completedNull := true }
      ({ s with shouldCheckForUnsolicited := true }, .idle)

def onConfirmTimeout (s : OContext V σ App C config) : OContext V σ App C config × OutstationState :=
  match s.state with
  | .idle | .solicitedConfirmWait => (s, .idle)
  | .unsolicitedConfirmWait | .nullUnsolicitedConfirmWait =>
    if s.completedNull then
      let (unsolRetries, shouldRetry) := s.unsolRetries.retry
      let s := { s with unsolRetries }
      if shouldRetry && s.deferred.isNone then
        (s.restartConfirmTimer.beginRetransmitLastUnsolicitedResponse, s.state)
      else ({ s with events := s.events.unselect }, .idle)
    else (s, .idle)

/-- `DeferredRequest::Set`: objects that do not fit its buffer are dropped. -/
def defer (s : OContext V σ App C config) (request : ParsedRequest) : OContext V σ App C config :=
  { s with deferred := some (if request.objects.length ≤ s.params.maxRxFragSize then request
      else { request with objects := [] }) }

def onNewReadRequest (P : OutstationParts V σ App C S) (s : OContext V σ App C config) (request : ParsedRequest) :
    OContext V σ App C config × OutstationState :=
  match s.state with
  | .idle => s.respondToReadRequest P request
  | .solicitedConfirmWait | .nullUnsolicitedConfirmWait =>
    { s with confirmTimer := false }.respondToReadRequest P request
  | .unsolicitedConfirmWait => (s.defer request, s.state)

def onNewNonReadRequest (P : OutstationParts V σ App C S) (s : OContext V σ App C config) (request : ParsedRequest) :
    OContext V σ App C config × OutstationState :=
  match s.state with
  | .idle => s.respondToNonReadRequest P request
  | .solicitedConfirmWait => { s with confirmTimer := false }.respondToNonReadRequest P request
  | .unsolicitedConfirmWait | .nullUnsolicitedConfirmWait =>
    (({ s with deferred := none }.respondToNonReadRequest P request).1, s.state)

def onRepeatNonReadRequest (s : OContext V σ App C config) (request : ParsedRequest) :
    OContext V σ App C config × OutstationState :=
  match s.state with
  | .solicitedConfirmWait =>
    ({ s with confirmTimer := false }.beginRetransmitLastResponse request.addresses.source, s.state)
  | _ => (s.beginRetransmitLastResponse request.addresses.source, s.state)

def onRepeatReadRequest (s : OContext V σ App C config) (request : ParsedRequest) :
    OContext V σ App C config × OutstationState :=
  match s.state with
  | .idle => (s.beginRetransmitLastResponse request.addresses.source, s.state)
  | .solicitedConfirmWait =>
    (s.restartConfirmTimer.beginRetransmitLastResponse request.addresses.source, s.state)
  | .unsolicitedConfirmWait | .nullUnsolicitedConfirmWait => (s.defer request, s.state)

def onBroadcastMessage (P : OutstationParts V σ App C S) (s : OContext V σ App C config) (request : ParsedRequest) :
    OContext V σ App C config × OutstationState :=
  (s.processBroadcastRequest P request, .idle)

/-! ## Requests -/

/-- `this->state = &…` -/
def enter (r : OContext V σ App C config × OutstationState) : OContext V σ App C config := { r.1 with state := r.2 }

def processNewRequest (P : OutstationParts V σ App C S) (s : OContext V σ App C config) (request : ParsedRequest) :
    OContext V σ App C config × OutstationState :=
  let s := { s with solNum := request.header.control.seq }.emit (.newRequest request s.now)
  if request.header.function = .read then s.onNewReadRequest P request else s.onNewNonReadRequest P request

def onReceiveSolRequest (P : OutstationParts V σ App C S) (s : OContext V σ App C config) (request : ParsedRequest) :
    OContext V σ App C config × OutstationState :=
  match s.history with
  | none => s.processNewRequest P request
  | some last =>
    if s.solNum == request.header.control.seq && last.fullyEquals request.header request.objects then
      let s := s.emit (.repeated request)
      if request.header.function = .read then s.onRepeatReadRequest request else s.onRepeatNonReadRequest request
    else s.processNewRequest P request

def processRequest (P : OutstationParts V σ App C S) (s : OContext V σ App C config) (request : ParsedRequest) :
    OContext V σ App C config :=
  if request.header.control.uns then s else enter (s.onReceiveSolRequest P request)

def processConfirm (P : OutstationParts V σ App C S) (s : OContext V σ App C config) (request : ParsedRequest) :
    OContext V σ App C config := enter (s.onConfirm P request)

/-- **`ProcessObjects`** -/
def processObjects (P : OutstationParts V σ App C S) (s : OContext V σ App C config) (request : ParsedRequest) :
    OContext V σ App C config :=
  if request.addresses.isBroadcast then enter (s.onBroadcastMessage P request)
  else if isNoAckFuncCode request.header.function then s.processRequestNoAck P request
  else if s.isTransmitting then s.defer request
  else if request.header.function = .confirm then s.processConfirm P request
  else s.processRequest P request

def updateLastBroadcastMessageReceived (s : OContext V σ App C config) (destination : UInt16) :
    OContext V σ App C config :=
  { s with lastBroadcastMessageReceived := LinkBroadcastAddress.ofAddress destination }

/-- **`ProcessMessage`** -/
def processMessage (P : OutstationParts V σ App C S) (s : OContext V σ App C config) (message : Message) :
    OContext V σ App C config :=
  if message.addresses.destination ≠ s.addresses.source ∧ !message.addresses.isBroadcast then s
  else if !s.params.respondToAnyMaster ∧ message.addresses.source ≠ s.addresses.destination then s
  else
    let s := if message.addresses.isBroadcast then s.updateLastBroadcastMessageReceived message.addresses.destination
      else s
    match parseRequest message.payload with
    | none => s
    | some (header, objects) =>
      if !header.control.isFirAndFin || header.control.con then s
      else s.processObjects P ⟨message.addresses, header, objects⟩

/-! ## Tasks -/

/-- The request has been processed, or stays deferred. -/
def processDeferredRequest (P : OutstationParts V σ App C S) (s : OContext V σ App C config)
    (request : ParsedRequest) : OContext V σ App C config × Bool :=
  if request.header.function = .confirm then (s.processConfirm P request, true)
  else if request.header.function = .read then
    if s.state = .idle then (s.processRequest P request, true) else (s, false)
  else (s.processRequest P request, true)

def checkForDeferredRequest (P : OutstationParts V σ App C S) (s : OContext V σ App C config) :
    OContext V σ App C config :=
  match s.deferred with
  | none => s
  | some request =>
    if s.canTransmit then
      let (s, processed) := s.processDeferredRequest P request
      if processed then { s with deferred := none } else s
    else s

/-- `build::NullUnsolicited` -/
def nullUnsolicited (seq : UInt8) (iin : IINField) (body : σ) : Response σ :=
  ⟨⟨true, true, true, true, seq⟩, .unsolicitedResponse, iin, body⟩

/-- Builds and sends an unsolicited response around `body`, and waits in `wait`. -/
def sendUnsolicited (P : OutstationParts V σ App C S) (s : OContext V σ App C config) (body : σ)
    (wait : OutstationState) : OContext V σ App C config :=
  let (s, iin) := s.getResponseIIN P
  { s.restartConfirmTimer with state := wait }.beginUnsolTx (nullUnsolicited s.unsolNum iin body)

def checkForUnsolicitedNull (P : OutstationParts V σ App C S) (s : OContext V σ App C config) :
    OContext V σ App C config :=
  if s.canTransmit && s.state == .idle && s.params.allowUnsolicited && !s.completedNull then
    s.sendUnsolicited P P.start
      (if s.params.noDefferedReadDuringUnsolicitedNullResponse then .nullUnsolicitedConfirmWait
        else .unsolicitedConfirmWait)
  else s

def checkForUnsolicited (P : OutstationParts V σ App C S) (s : OContext V σ App C config) : OContext V σ App C config :=
  if s.shouldCheckForUnsolicited && s.canTransmit && s.state == .idle && s.params.allowUnsolicited then
    let s := { s with shouldCheckForUnsolicited := false }
    if s.completedNull && s.unsolClassMask.intersects s.events.unwrittenClassField then
      let (events, body, _) := (s.events.unselect.selectAllByClass s.unsolClassMask).load P.eventWriter P.start
      { s with unsolRetries := s.unsolRetries.reset, events }.sendUnsolicited P body .unsolicitedConfirmWait
    else s
  else s

def checkForTaskStart (P : OutstationParts V σ App C S) (s : OContext V σ App C config) : OContext V σ App C config :=
  ((s.checkForDeferredRequest P).checkForUnsolicitedNull P).checkForUnsolicited P

/-! ## Calls from outside -/

def onLowerLayerUp (P : OutstationParts V σ App C S) (s : OContext V σ App C config) : OContext V σ App C config :=
  if s.isOnline then s
  else { s with isOnline := true, shouldCheckForUnsolicited := true }.checkForTaskStart P

def onLowerLayerDown (s : OContext V σ App C config) : OContext V σ App C config :=
  if s.isOnline then
    { s with
      state := .idle
      isOnline := false
      isTransmitting := false
      completedNull := false
      history := none
      deferred := none
      events := s.events.unselect
      fragmentCount := 0
      confirmTimer := false }.emit .offline
  else s

def onTxReady (P : OutstationParts V σ App C S) (s : OContext V σ App C config) : OContext V σ App C config :=
  if s.isOnline && s.isTransmitting then ({ s with isTransmitting := false }.emit .ready).checkForTaskStart P else s

def onReceive (P : OutstationParts V σ App C S) (s : OContext V σ App C config) (message : Message) :
    OContext V σ App C config :=
  if s.isOnline then (s.processMessage P message).checkForTaskStart P else s

def onTimer (P : OutstationParts V σ App C S) (s : OContext V σ App C config) : OContext V σ App C config :=
  if s.confirmTimer then (enter { s with confirmTimer := false }.onConfirmTimeout).checkForTaskStart P else s

def handleNewEvents (P : OutstationParts V σ App C S) (s : OContext V σ App C config) : OContext V σ App C config :=
  { s with shouldCheckForUnsolicited := true }.checkForTaskStart P

/-- The task of `OutstationStack::Apply`: the updates change the database and bring events. -/
def applyUpdates (P : OutstationParts V σ App C S) (s : OContext V σ App C config) (database : App → App)
    (updates : List (EventType × Event V Nat)) : OContext V σ App C config :=
  { s with app := database s.app, events := s.events.updateAll updates }.handleNewEvents P

def setRestartIIN (s : OContext V σ App C config) : OContext V σ App C config :=
  { s with staticIIN := s.staticIIN.setBit .deviceRestart }

end OContext

/-! ## Runs -/

inductive OutstationInput (V App : Type) where
  | lowerLayerUp
  | lowerLayerDown
  | txReady
  | receive (message : Message)
  | confirmTimer
  | apply (database : App → App) (events : List (EventType × Event V Nat))
  | setRestartIIN

namespace OContext

variable {V σ App C S : Type} {config : EventBufferConfig}

/-- An input at the time `now`. -/
def step (P : OutstationParts V σ App C S) (s : OContext V σ App C config) (now : Nat)
    (input : OutstationInput V App) : OContext V σ App C config :=
  let s := { s with now }
  match input with
  | .lowerLayerUp => s.onLowerLayerUp P
  | .lowerLayerDown => s.onLowerLayerDown
  | .txReady => s.onTxReady P
  | .receive message => s.onReceive P message
  | .confirmTimer => s.onTimer P
  | .apply database events => s.applyUpdates P database events
  | .setRestartIIN => s.setRestartIIN

def run (P : OutstationParts V σ App C S) (s : OContext V σ App C config) (inputs : List (Nat × OutstationInput V App)) :
    OContext V σ App C config := inputs.foldl (fun s input => s.step P input.1 input.2) s

end OContext

end Opendnp3
