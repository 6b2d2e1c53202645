import ModbusGateway.Lib.Program
import ModbusGateway.Registers

/-!
# Modbus sessions (`Modbus.cpp`)

The functions that talk to a device, as programs whose calls are libmodbus's, the mutex's and `LogLine`'s.
Each call is answered with what the function returns and with what `errno` holds afterwards: any call may
overwrite it. A log line is kept with its level and scope, its text is not.

| here | there |
| --- | --- |
| `createAndConnect`    | `CreateAndConnect` (`:29`); on failure, what `errno` holds then |
| `readModbusPoint`     | `ReadModbusPoint` (`:58`) |
| `writeHoldingRegister` | `WriteHoldingRegister` (`:223`) |
| `writeCoil`           | `WriteCoil` (`:312`) |

* `createAndConnect_runs` — the four ways `CreateAndConnect` goes.
* `writeSession_ensures` — what holds of a write, from what holds of its connection and of its request.
-/

namespace Gateway

open BinaryFloat (Value)

/-- A `modbus_t*` that is not null. -/
abbrev Ctx := Nat

inductive Call where
  | newTcp (ip : Bytes) (port : Int32)
  | setSlave (ctx : Ctx) (slave_id : Int32)
  | setResponseTimeout (ctx : Ctx) (sec usec : Nat)
  | setByteTimeout (ctx : Ctx) (sec usec : Nat)
  | connect (ctx : Ctx)
  | readBits (ctx : Ctx) (address nb : Int32)
  | readInputBits (ctx : Ctx) (address nb : Int32)
  | readRegisters (ctx : Ctx) (address nb : Int32)
  | readInputRegisters (ctx : Ctx) (address nb : Int32)
  | writeRegister (ctx : Ctx) (address : Int32) (value : UInt16)
  | writeRegisters (ctx : Ctx) (address : Int32) (values : List UInt16)
  | writeBit (ctx : Ctx) (address : Int32) (status : Bool)
  | close (ctx : Ctx)
  | free (ctx : Ctx)
  /-- `modbus_access_mutex` -/
  | lock
  | unlock
  | logLine (level : AppLogLevel) (scope : Bytes)
deriving DecidableEq

/-- What the call returns; a read also fills the buffer it was given. -/
abbrev Call.Answer : Call → Type
  | .newTcp _ _ => Option Ctx
  | .setSlave _ _ | .connect _ | .writeRegister _ _ _ | .writeRegisters _ _ _ | .writeBit _ _ _ => Int32
  | .readBits _ _ _ | .readInputBits _ _ _ | .readRegisters _ _ _ | .readInputRegisters _ _ _ => Int32 × ReadBuffer
  | .setResponseTimeout _ _ _ | .setByteTimeout _ _ _ | .close _ | .free _ | .lock | .unlock | .logLine _ _ => Unit

/-- The answer and `errno` after it. -/
abbrev Reply (c : Call) := c.Answer × Int32

abbrev Modbus := Program Reply

abbrev SessionEvent := Program.Event Reply

def ETIMEDOUT : Int32 := 110
def EINVAL : Int32 := 22

/-- **`MapModbusErrnoToDNP3Status`** -/
def mapModbusErrnoToDNP3Status (errno : Int32) : CommandStatus :=
  if errno = ETIMEDOUT then .timeout
  else if errno = EINVAL then .formatError
  else .downstreamFail

def perform (c : Call) : Modbus (Reply c) := Program.perform c

/-- **`CreateAndConnect`** -/
def createAndConnect (ip : Bytes) (port slave_id : Int32) : Modbus (Except Int32 Ctx) := do
  let (ctx, errno) ← perform (.newTcp ip port)
  match ctx with
  | none => return .error errno
  | some ctx =>
    let (rc, _) ← perform (.setSlave ctx slave_id)
    if rc = -1 then
      let (_, errno) ← perform (.free ctx)
      return .error errno
    else
      let _ ← perform (.setResponseTimeout ctx 1 0)
      let _ ← perform (.setByteTimeout ctx 0 500000)
      let (rc, _) ← perform (.connect ctx)
      if rc = -1 then
        let (_, errno) ← perform (.free ctx)
        return .error errno
      else return .ok ctx

/-- What a read of the point returns when it succeeds: the number of bits or registers. -/
def readCount (type : ReadValueType) : Int32 := if isDiscreteBitType type then 1 else registerCountForType type

/-- The request a point is read with. -/
def readRequest (point : ReadPointConfig) (ctx : Ctx) : Modbus ((Int32 × ReadBuffer) × Int32) :=
  if isDiscreteBitType point.type then
    if isCoilStatusType point.type then perform (.readBits ctx point.address 1)
    else perform (.readInputBits ctx point.address 1)
  else if isHoldingRegisterType point.type then
    perform (.readRegisters ctx point.address (registerCountForType point.type))
  else perform (.readInputRegisters ctx point.address (registerCountForType point.type))

/-- **`ReadModbusPoint`**: `value_out` where it returns `true`. -/
def readModbusPoint (point : ReadPointConfig) : Modbus (Option Value) := do
  let _ ← perform .lock
  match ← createAndConnect (cString point.ip) point.port point.slave_id with
  | .error _ =>
    let _ ← perform .unlock
    return none
  | .ok ctx =>
    let ((rc, tab), _) ← readRequest point ctx
    let _ ← perform (.close ctx)
    let _ ← perform (.free ctx)
    let _ ← perform .unlock
    return if rc = readCount point.type then some (decodePoint point.type tab) else none

/-- The part of the two write functions behind the mutex: connect, `request`, close. The log lines and the
status follow from whether `request` returned `count`. -/
def writeSession (cfg : CommandPointConfig) (count : Int32) (request : Ctx → Modbus (Int32 × Int32)) :
    Modbus CommandStatus := do
  let _ ← perform .lock
  match ← createAndConnect (cString cfg.ip) cfg.port cfg.slave_id with
  | .error errno =>
    let _ ← perform .unlock
    return mapModbusErrnoToDNP3Status errno
  | .ok ctx =>
    let (rc, _) ← request ctx
    if rc = count then
      let _ ← perform (.logLine .info (str "MODBUS-WRITE-OK"))
      let _ ← perform (.close ctx)
      let _ ← perform (.free ctx)
      let _ ← perform .unlock
      return .success
    else
      let _ ← perform (.logLine .error (str "MODBUS-WRITE"))
      let _ ← perform (.close ctx)
      let (_, errno) ← perform (.free ctx)
      let _ ← perform .unlock
      return mapModbusErrnoToDNP3Status errno

/-- The request for the registers of a payload. -/
def registerRequest (cfg : CommandPointConfig) (regs : List UInt16) (ctx : Ctx) : Modbus (Int32 × Int32) :=
  if regs.length = 1 then perform (.writeRegister ctx cfg.modbus_address (regs.getD 0 0))
  else perform (.writeRegisters ctx cfg.modbus_address regs)

/-- **`WriteHoldingRegister`** -/
def writeHoldingRegister (llround : Llround) (cfg : CommandPointConfig) (value : Value) : Modbus CommandStatus :=
  match buildHoldingRegisterWritePayload llround cfg value with
  | .error (payload_status, _) => do
    let _ ← perform (.logLine .error (str "MODBUS-WRITE-PAYLOAD"))
    return payload_status
  | .ok regs => do
    let _ ← perform (.logLine .info (str "MODBUS-WRITE-REQ"))
    writeSession cfg (Int32.ofNat regs.length) (registerRequest cfg regs)

/-- **`WriteCoil`** -/
def writeCoil (cfg : CommandPointConfig) (value : Bool) : Modbus CommandStatus := do
  let _ ← perform (.logLine .info (str "MODBUS-WRITE-REQ"))
  writeSession cfg 1 fun ctx => perform (.writeBit ctx cfg.modbus_address value)

/-! ## What an execution sends -/

/-- The device a context is for, as far as it has been set. -/
structure Peer where
  ip : Bytes
  port : Int32
  slave_id : Option Int32
deriving DecidableEq

inductive RequestBody where
  | readBits (nb : Int32)
  | readInputBits (nb : Int32)
  | readRegisters (nb : Int32)
  | readInputRegisters (nb : Int32)
  | writeRegister (value : UInt16)
  | writeRegisters (values : List UInt16)
  | writeBit (status : Bool)
deriving DecidableEq

structure Request where
  peer : Option Peer
  address : Int32
  body : RequestBody
deriving DecidableEq

abbrev Peers := Ctx → Option Peer

/-- What a call changes in the contexts. -/
def track (peers : Peers) : SessionEvent → Peers
  | ⟨.newTcp ip port, (some ctx, _)⟩ => Function.update peers ctx (some ⟨ip, port, none⟩)
  | ⟨.setSlave ctx slave_id, (rc, _)⟩ =>
    if rc = -1 then peers
    else Function.update peers ctx ((peers ctx).map fun peer => { peer with slave_id := some slave_id })
  | ⟨.free ctx, _⟩ => Function.update peers ctx none
  | _ => peers

/-- The request of a call. -/
def requestOf (peers : Peers) : SessionEvent → Option Request
  | ⟨.readBits ctx address nb, _⟩ => some ⟨peers ctx, address, .readBits nb⟩
  | ⟨.readInputBits ctx address nb, _⟩ => some ⟨peers ctx, address, .readInputBits nb⟩
  | ⟨.readRegisters ctx address nb, _⟩ => some ⟨peers ctx, address, .readRegisters nb⟩
  | ⟨.readInputRegisters ctx address nb, _⟩ => some ⟨peers ctx, address, .readInputRegisters nb⟩
  | ⟨.writeRegister ctx address value, _⟩ => some ⟨peers ctx, address, .writeRegister value⟩
  | ⟨.writeRegisters ctx address values, _⟩ => some ⟨peers ctx, address, .writeRegisters values⟩
  | ⟨.writeBit ctx address status, _⟩ => some ⟨peers ctx, address, .writeBit status⟩
  | _ => none

def requestsFrom (peers : Peers) : List SessionEvent → List Request
  | [] => []
  | e :: trace => (requestOf peers e).toList ++ requestsFrom (track peers e) trace

/-- The requests of an execution, in order. -/
def sent (trace : List SessionEvent) : List Request := requestsFrom (fun _ => none) trace

/-- `modbus_connect` succeeded. -/
def SessionEvent.connects : SessionEvent → Bool
  | ⟨.connect _, (rc, _)⟩ => rc != -1
  | _ => false

/-- A call that makes the connection fails: no context, no slave or no connection. -/
def SessionEvent.refuses : SessionEvent → Bool
  | ⟨.newTcp _ _, (ctx, _)⟩ => ctx.isNone
  | ⟨.setSlave _ _, (rc, _)⟩ | ⟨.connect _, (rc, _)⟩ => rc == -1
  | _ => false

/-- A write of all its registers, or of its bit, is acknowledged. -/
def SessionEvent.acknowledges : SessionEvent → Bool
  | ⟨.writeRegister _ _ _, (rc, _)⟩ | ⟨.writeBit _ _ _, (rc, _)⟩ => rc == 1
  | ⟨.writeRegisters _ _ values, (rc, _)⟩ => rc == Int32.ofNat values.length
  | _ => false

def connected (trace : List SessionEvent) : Bool := trace.any SessionEvent.connects

def refused (trace : List SessionEvent) : Bool := trace.any SessionEvent.refuses

def acknowledged (trace : List SessionEvent) : Bool := trace.any SessionEvent.acknowledges

/-- One request over one connection, unless the environment refuses the connection: then none. -/
structure SendsOne (request : Request) (trace : List SessionEvent) : Prop where
  sent_eq : sent trace = if refused trace then [] else [request]
  connected_eq : connected trace = !refused trace

/-- Nothing but log lines: no call of libmodbus at all. -/
def Silent (trace : List SessionEvent) : Prop := ∀ e ∈ trace, ∃ level scope, e.1 = .logLine level scope

@[simp] theorem connected_nil : connected [] = false := rfl

@[simp] theorem connected_cons (e : SessionEvent) (trace : List SessionEvent) :
    connected (e :: trace) = (e.connects || connected trace) := rfl

@[simp] theorem connected_append (us vs : List SessionEvent) : connected (us ++ vs) = (connected us || connected vs) :=
  List.any_append

@[simp] theorem refused_nil : refused [] = false := rfl

@[simp] theorem refused_cons (e : SessionEvent) (trace : List SessionEvent) :
    refused (e :: trace) = (e.refuses || refused trace) := rfl

@[simp] theorem refused_append (us vs : List SessionEvent) : refused (us ++ vs) = (refused us || refused vs) :=
  List.any_append

@[simp] theorem acknowledged_nil : acknowledged [] = false := rfl

@[simp] theorem acknowledged_cons (e : SessionEvent) (trace : List SessionEvent) :
    acknowledged (e :: trace) = (e.acknowledges || acknowledged trace) := rfl

@[simp] theorem acknowledged_append (us vs : List SessionEvent) :
    acknowledged (us ++ vs) = (acknowledged us || acknowledged vs) := List.any_append

theorem silent_nil : Silent [] := nofun

theorem silent_logLine (level : AppLogLevel) (scope : Bytes) (r : Reply (.logLine level scope))
    {trace : List SessionEvent} (h : Silent trace) : Silent (⟨.logLine level scope, r⟩ :: trace) := by
  rintro e he
  rcases List.mem_cons.1 he with rfl | he
  · exact ⟨level, scope, rfl⟩
  · exact h e he

theorem requestsFrom_append {rest : List SessionEvent} (hrest : ∀ peers, requestsFrom peers rest = [])
    (trace : List SessionEvent) (peers : Peers) : requestsFrom peers (trace ++ rest) = requestsFrom peers trace := by
  induction trace generalizing peers with
  | nil => exact hrest peers
  | cons e trace ih => rw [List.cons_append, requestsFrom, requestsFrom, ih]

/-- Log lines around a session change nothing of it. -/
theorem SendsOne.logLine {request : Request} {trace : List SessionEvent} (h : SendsOne request trace)
    {level : AppLogLevel} {scope : Bytes} (r : Reply (.logLine level scope)) :
    SendsOne request (⟨.logLine level scope, r⟩ :: trace) := ⟨h.sent_eq, h.connected_eq⟩

theorem SendsOne.append_logLine {request : Request} {trace : List SessionEvent} (h : SendsOne request trace)
    {level : AppLogLevel} {scope : Bytes} (r : Reply (.logLine level scope)) :
    SendsOne request (trace ++ [⟨.logLine level scope, r⟩]) := by
  have hrefused : refused (trace ++ [⟨.logLine level scope, r⟩]) = refused trace := by simp [SessionEvent.refuses]
  have hconn : connected (trace ++ [⟨.logLine level scope, r⟩]) = connected trace := by simp [SessionEvent.connects]
  refine ⟨?_, ?_⟩
  · rw [hrefused, sent, requestsFrom_append fun peers => rfl]
    exact h.sent_eq
  · rw [hrefused, hconn]
    exact h.connected_eq

/-! ## Sessions -/

/-- The executions of `CreateAndConnect`. -/
inductive Connecting (ip : Bytes) (port slave_id : Int32) : List SessionEvent → Except Int32 Ctx → Prop where
  | noContext (errno : Int32) : Connecting ip port slave_id [⟨.newTcp ip port, (none, errno)⟩] (.error errno)
  | noSlave (ctx : Ctx) (e1 e2 : Int32) (freed : Reply (.free ctx)) : Connecting ip port slave_id
      [⟨.newTcp ip port, (some ctx, e1)⟩, ⟨.setSlave ctx slave_id, (-1, e2)⟩, ⟨.free ctx, freed⟩] (.error freed.2)
  | noConnection (ctx : Ctx) (e1 rc e2 : Int32) (hslave : rc ≠ -1) (r3 : Reply (.setResponseTimeout ctx 1 0))
      (r4 : Reply (.setByteTimeout ctx 0 500000)) (e5 : Int32) (freed : Reply (.free ctx)) : Connecting ip port slave_id
      [⟨.newTcp ip port, (some ctx, e1)⟩, ⟨.setSlave ctx slave_id, (rc, e2)⟩, ⟨.setResponseTimeout ctx 1 0, r3⟩,
        ⟨.setByteTimeout ctx 0 500000, r4⟩, ⟨.connect ctx, (-1, e5)⟩, ⟨.free ctx, freed⟩] (.error freed.2)
  | connected (ctx : Ctx) (e1 rc e2 : Int32) (hslave : rc ≠ -1) (r3 : Reply (.setResponseTimeout ctx 1 0))
      (r4 : Reply (.setByteTimeout ctx 0 500000)) (rc' e5 : Int32) (hconnect : rc' ≠ -1) : Connecting ip port slave_id
      [⟨.newTcp ip port, (some ctx, e1)⟩, ⟨.setSlave ctx slave_id, (rc, e2)⟩, ⟨.setResponseTimeout ctx 1 0, r3⟩,
        ⟨.setByteTimeout ctx 0 500000, r4⟩, ⟨.connect ctx, (rc', e5)⟩] (.ok ctx)

theorem createAndConnect_runs (ip : Bytes) (port slave_id : Int32) :
    (createAndConnect ip port slave_id).Ensures (Connecting ip port slave_id) := by
  simp only [createAndConnect, perform, Program.ensures_bind, Program.ensures_perform]
  rintro ⟨ctx, e1⟩
  cases ctx with
  | none => exact .noContext e1
  | some ctx =>
    simp only [Program.ensures_bind, Program.ensures_perform]
    rintro ⟨rc, e2⟩
    by_cases hslave : rc = -1
    · simp only [hslave, if_true, Program.ensures_bind, Program.ensures_perform, Program.ensures_pure]
      intro freed
      exact .noSlave ctx e1 e2 freed
    · simp only [hslave, if_false, Program.ensures_bind, Program.ensures_perform]
      rintro r3 r4 ⟨rc', e5⟩
      by_cases hconnect : rc' = -1
      · simp only [hconnect, if_true, Program.ensures_bind, Program.ensures_perform, Program.ensures_pure]
        intro freed
        exact .noConnection ctx e1 rc e2 hslave r3 r4 e5 freed
      · simp only [hconnect, if_false, Program.ensures_pure]
        exact .connected ctx e1 rc e2 hslave r3 r4 rc' e5 hconnect

/-- Connecting either opens a session with the device or is refused and leaves none open; it sends nothing. -/
def Opens (ip : Bytes) (port slave_id : Int32) (trace : List SessionEvent) : Except Int32 Ctx → Prop
  | .ok ctx => (connected trace = true ∧ refused trace = false ∧ acknowledged trace = false) ∧
      ∀ peers rest, ∃ peers', peers' ctx = some ⟨ip, port, some slave_id⟩ ∧
        requestsFrom peers (trace ++ rest) = requestsFrom peers' rest
  | .error _ => (connected trace = false ∧ refused trace = true ∧ acknowledged trace = false) ∧
      ∀ peers rest, ∃ peers', requestsFrom peers (trace ++ rest) = requestsFrom peers' rest

theorem createAndConnect_opens (ip : Bytes) (port slave_id : Int32) :
    (createAndConnect ip port slave_id).Ensures (Opens ip port slave_id) := by
  refine (createAndConnect_runs ip port slave_id).mono ?_
  intro trace result hrun
  cases hrun with
  | noContext errno => exact ⟨⟨rfl, rfl, rfl⟩, fun peers rest => ⟨peers, rfl⟩⟩
  | noSlave ctx e1 e2 freed => exact ⟨⟨rfl, rfl, rfl⟩, fun peers rest => ⟨_, rfl⟩⟩
  | noConnection ctx e1 rc e2 hslave r3 r4 e5 freed =>
    exact ⟨⟨rfl, by simp [SessionEvent.refuses], rfl⟩, fun peers rest => ⟨_, rfl⟩⟩
  | connected ctx e1 rc e2 hslave r3 r4 rc' e5 hconnect =>
    refine ⟨⟨by simp [SessionEvent.connects, hconnect], ?_, rfl⟩, fun peers rest => ⟨_, ?_, rfl⟩⟩
    · simp [SessionEvent.refuses, hslave, hconnect]
    · simp [track, hslave]

/-- Calls that send one request on a context, and have nothing to do with connections. -/
def Asks (address : Int32) (body : RequestBody) (ctx : Ctx) (trace : List SessionEvent) : Prop :=
  (connected trace = false ∧ refused trace = false) ∧
    ∀ peers rest, requestsFrom peers (trace ++ rest) = ⟨peers ctx, address, body⟩ :: requestsFrom peers rest

/-- No connection, no request. -/
theorem SendsOne.of_error {ip : Bytes} {port slave_id errno : Int32} {opening : List SessionEvent}
    (hopen : Opens ip port slave_id opening (.error errno)) (request : Request) (locked : Reply .lock)
    {rest : List SessionEvent} (hrest : connected rest = false) (hnone : ∀ peers, requestsFrom peers rest = []) :
    SendsOne request (⟨.lock, locked⟩ :: (opening ++ rest)) := by
  obtain ⟨⟨hconn, hrefused, -⟩, hrequests⟩ := hopen
  obtain ⟨peers', hpeers⟩ := hrequests (fun _ => none) rest
  have hsent : sent (⟨.lock, locked⟩ :: (opening ++ rest)) = [] := hpeers.trans (hnone peers')
  refine ⟨?_, ?_⟩
  · rw [hsent]
    simp [hrefused]
  · simp [hconn, hrefused, hrest, SessionEvent.connects]

/-- A session that is opened, asks once and is wound up sends one request to its device. -/
theorem SendsOne.of_session {ip : Bytes} {port slave_id address : Int32} {body : RequestBody} {ctx : Ctx}
    {opening asked : List SessionEvent} (hopen : Opens ip port slave_id opening (.ok ctx))
    (hasked : Asks address body ctx asked) (locked : Reply .lock) {rest : List SessionEvent}
    (hrest : refused rest = false) (hnone : ∀ peers, requestsFrom peers rest = []) :
    SendsOne ⟨some ⟨ip, port, some slave_id⟩, address, body⟩ (⟨.lock, locked⟩ :: (opening ++ (asked ++ rest))) := by
  obtain ⟨⟨hconn, hrefused, -⟩, hrequests⟩ := hopen
  obtain ⟨peers', hctx, hpeers⟩ := hrequests (fun _ => none) (asked ++ rest)
  have hsent : sent (⟨.lock, locked⟩ :: (opening ++ (asked ++ rest))) = [⟨peers' ctx, address, body⟩] := by
    refine hpeers.trans ?_
    rw [hasked.2, hnone]
  refine ⟨?_, ?_⟩
  · rw [hsent, hctx]
    simp [hrefused, hasked.1.2, hrest, SessionEvent.refuses]
  · simp [hconn, hrefused, hasked.1.2, hrest, SessionEvent.refuses]

/-! ## Writes -/

/-- A failure is never reported as a success. -/
theorem mapModbusErrno_ne_success (errno : Int32) : mapModbusErrnoToDNP3Status errno ≠ .success := by
  unfold mapModbusErrnoToDNP3Status
  by_cases ht : errno = ETIMEDOUT
  · simp [ht]
  · rw [if_neg ht]
    by_cases hi : errno = EINVAL <;> simp [hi]

/-- What a write does: it sends its request once, and succeeds if that is acknowledged. -/
structure WritesOnce (request : Request) (trace : List SessionEvent) (status : CommandStatus) : Prop where
  sends : SendsOne request trace
  success : status = .success ↔ acknowledged trace = true

theorem WritesOnce.logLine {request : Request} {trace : List SessionEvent} {status : CommandStatus}
    (h : WritesOnce request trace status) {level : AppLogLevel} {scope : Bytes} (r : Reply (.logLine level scope)) :
    WritesOnce request (⟨.logLine level scope, r⟩ :: trace) status := ⟨h.sends.logLine r, h.success⟩

theorem WritesOnce.append_logLine {request : Request} {trace : List SessionEvent} {status : CommandStatus}
    (h : WritesOnce request trace status) {level : AppLogLevel} {scope : Bytes} (r : Reply (.logLine level scope)) :
    WritesOnce request (trace ++ [⟨.logLine level scope, r⟩]) status where
  sends := h.sends.append_logLine r
  success := by
    rw [h.success]
    simp [SessionEvent.acknowledges]

/-- The request of a command with the given body. -/
def CommandPointConfig.request (cfg : CommandPointConfig) (body : RequestBody) : Request :=
  ⟨some ⟨cString cfg.ip, cfg.port, some cfg.slave_id⟩, cfg.modbus_address, body⟩

section
variable {cfg : CommandPointConfig} {count : Int32} {request : Ctx → Modbus (Int32 × Int32)}

/-- **A write session** as a whole: what holds of it when no connection is made, and when one is. -/
theorem writeSession_ensures {P : List SessionEvent → Except Int32 Ctx → Prop}
    {A : Ctx → List SessionEvent → Int32 × Int32 → Prop} {Q : List SessionEvent → CommandStatus → Prop}
    (hopen : (createAndConnect (cString cfg.ip) cfg.port cfg.slave_id).Ensures P)
    (hrequest : ∀ ctx, (request ctx).Ensures (A ctx))
    (herror : ∀ locked unlocked opening errno, P opening (.error errno) →
      Q (⟨.lock, locked⟩ :: (opening ++ [⟨.unlock, unlocked⟩])) (mapModbusErrnoToDNP3Status errno))
    (hsession : ∀ locked opening ctx asked answer level scope logged closed freed unlocked,
      P opening (.ok ctx) → A ctx asked answer →
      Q (⟨.lock, locked⟩ :: (opening ++ (asked ++ [⟨.logLine level scope, logged⟩, ⟨.close ctx, closed⟩,
          ⟨.free ctx, freed⟩, ⟨.unlock, unlocked⟩])))
        (if answer.1 = count then .success else mapModbusErrnoToDNP3Status freed.2)) :
    (writeSession cfg count request).Ensures Q := by
  simp only [writeSession, perform, Program.ensures_bind, Program.ensures_perform]
  intro locked
  refine hopen.mono ?_
  rintro opening (errno | ctx) hP
  · simp only [Program.ensures_bind, Program.ensures_perform, Program.ensures_pure]
    intro unlocked
    exact herror locked unlocked opening errno hP
  · simp only [Program.ensures_bind]
    refine (hrequest ctx).mono ?_
    rintro asked ⟨rc, e2⟩ hA
    -- both outcomes log, close, free and unlock
    by_cases hrc : rc = count
    · simp only [hrc, if_true, Program.ensures_bind, Program.ensures_perform, Program.ensures_pure]
      intro logged closed freed unlocked
      have h := hsession locked opening ctx asked (rc, e2) _ _ logged closed freed unlocked hP hA
      rwa [if_pos hrc] at h
    · simp only [hrc, if_false, Program.ensures_bind, Program.ensures_perform, Program.ensures_pure]
      intro logged closed freed unlocked
      have h := hsession locked opening ctx asked (rc, e2) _ _ logged closed freed unlocked hP hA
      rwa [if_neg hrc] at h

theorem writeSession_sends {body : RequestBody}
    (hrequest : ∀ ctx, (request ctx).Ensures fun trace answer =>
      Asks cfg.modbus_address body ctx trace ∧ acknowledged trace = decide (answer.1 = count)) :
    (writeSession cfg count request).Ensures (WritesOnce (cfg.request body)) := by
  refine writeSession_ensures (createAndConnect_opens _ _ _) hrequest ?_ ?_
  · intro locked unlocked opening errno hopen
    refine ⟨SendsOne.of_error hopen _ locked rfl fun peers => rfl, ?_⟩
    simp [mapModbusErrno_ne_success, hopen.1.2.2, SessionEvent.acknowledges]
  · intro locked opening ctx asked answer level scope logged closed freed unlocked hopen hasked
    refine ⟨SendsOne.of_session hopen hasked.1 locked rfl fun peers => rfl, ?_⟩
    by_cases hcount : answer.1 = count <;>
      simp [hcount, hopen.1.2.2, hasked.2, mapModbusErrno_ne_success, SessionEvent.acknowledges]

end

/-- The request a payload is sent with. -/
def registersBody (regs : List UInt16) : RequestBody :=
  if regs.length = 1 then .writeRegister (regs.getD 0 0) else .writeRegisters regs

theorem registerRequest_asks (cfg : CommandPointConfig) (regs : List UInt16) (ctx : Ctx) :
    (registerRequest cfg regs ctx).Ensures fun trace answer =>
      Asks cfg.modbus_address (registersBody regs) ctx trace ∧
        acknowledged trace = decide (answer.1 = Int32.ofNat regs.length) := by
  unfold registerRequest registersBody
  split
  next hone =>
    rw [hone]
    intro r
    exact ⟨⟨⟨rfl, rfl⟩, fun peers rest => rfl⟩, (Bool.or_false _).trans (Bool.beq_eq_decide_eq r.1 1)⟩
  next =>
    intro r
    exact ⟨⟨⟨rfl, rfl⟩, fun peers rest => rfl⟩, (Bool.or_false _).trans (Bool.beq_eq_decide_eq r.1 _)⟩

/-- A refused payload ends the command before any call of libmodbus. -/
theorem writeHoldingRegister_error {llround : Llround} {cfg : CommandPointConfig} {value : Value}
    {status : CommandStatus} {text : Bytes}
    (h : buildHoldingRegisterWritePayload llround cfg value = .error (status, text)) :
    (writeHoldingRegister llround cfg value).Ensures fun trace result => result = status ∧ Silent trace := by
  unfold writeHoldingRegister
  rw [h]
  exact fun r => ⟨rfl, silent_logLine _ _ r silent_nil⟩

theorem writeHoldingRegister_ok {llround : Llround} {cfg : CommandPointConfig} {value : Value} {regs : List UInt16}
    (h : buildHoldingRegisterWritePayload llround cfg value = .ok regs) :
    (writeHoldingRegister llround cfg value).Ensures (WritesOnce (cfg.request (registersBody regs))) := by
  unfold writeHoldingRegister
  rw [h]
  intro r
  exact (writeSession_sends (registerRequest_asks cfg regs)).mono fun _ _ h => h.logLine r

theorem writeCoil_sends (cfg : CommandPointConfig) (value : Bool) :
    (writeCoil cfg value).Ensures (WritesOnce (cfg.request (.writeBit value))) := by
  have hrequest : ∀ ctx, (perform (.writeBit ctx cfg.modbus_address value)).Ensures fun trace answer =>
      Asks cfg.modbus_address (.writeBit value) ctx trace ∧ acknowledged trace = decide (answer.1 = 1) := fun ctx r =>
    ⟨⟨⟨rfl, rfl⟩, fun peers rest => rfl⟩, (Bool.or_false _).trans (Bool.beq_eq_decide_eq r.1 1)⟩
  intro r
  exact (writeSession_sends hrequest).mono fun _ _ h => h.logLine r

/-! ## Reads -/

/-- How a point is read. -/
def readBody (type : ReadValueType) : RequestBody :=
  if isDiscreteBitType type then if isCoilStatusType type then .readBits 1 else .readInputBits 1
  else if isHoldingRegisterType type then .readRegisters (registerCountForType type)
  else .readInputRegisters (registerCountForType type)

/-- The request of a point with the given body. -/
def ReadPointConfig.request (p : ReadPointConfig) (body : RequestBody) : Request :=
  ⟨some ⟨cString p.ip, p.port, some p.slave_id⟩, p.address, body⟩

/-- A read is answered with `count` and the buffer. -/
def AnswersWith (count : Int32) (tab : ReadBuffer) : SessionEvent → Prop
  | ⟨.readBits _ _ _, (answer, _)⟩ | ⟨.readInputBits _ _ _, (answer, _)⟩
  | ⟨.readRegisters _ _ _, (answer, _)⟩ | ⟨.readInputRegisters _ _ _, (answer, _)⟩ => answer = (count, tab)
  | _ => True

theorem readRequest_asks (point : ReadPointConfig) (count : Int32) (tab : ReadBuffer) (ctx : Ctx) :
    (readRequest point ctx).Ensures fun trace answer => Asks point.address (readBody point.type) ctx trace ∧
      ((∀ e ∈ trace, AnswersWith count tab e) → answer.1 = (count, tab)) := by
  unfold readRequest readBody
  split <;> split <;> exact fun r => ⟨⟨⟨rfl, rfl⟩, fun peers rest => rfl⟩, fun h => h _ List.mem_cons_self⟩

/-- **A poll** sends one read request; connected to a device that answers it, it returns what the point's
type decodes from the answer. -/
theorem readModbusPoint_spec (point : ReadPointConfig) (tab : ReadBuffer) :
    (readModbusPoint point).Ensures fun trace value =>
      SendsOne (point.request (readBody point.type)) trace ∧
      (connected trace = true → (∀ e ∈ trace, AnswersWith (readCount point.type) tab e) →
        value = some (decodePoint point.type tab)) := by
  simp only [readModbusPoint, perform, Program.ensures_bind, Program.ensures_perform]
  intro locked
  refine (createAndConnect_opens _ _ _).mono ?_
  rintro opening (errno | ctx) hopen
  · simp only [Program.ensures_bind, Program.ensures_perform, Program.ensures_pure]
    intro unlocked
    refine ⟨SendsOne.of_error hopen _ locked rfl fun peers => rfl, fun hconn => ?_⟩
    simp [hopen.1.1, SessionEvent.connects] at hconn
  · simp only [Program.ensures_bind]
    refine (readRequest_asks point (readCount point.type) tab ctx).mono ?_
    rintro asked ⟨⟨rc, tab'⟩, e2⟩ ⟨hasked, hanswer⟩
    simp only [Program.ensures_perform, Program.ensures_pure]
    intro closed freed unlocked
    refine ⟨SendsOne.of_session hopen hasked locked rfl fun peers => rfl, fun _ htrace => ?_⟩
    obtain ⟨rfl, rfl⟩ := Prod.mk.inj (hanswer fun e he => htrace e (by simp [he]))
    rw [if_pos rfl]

end Gateway
