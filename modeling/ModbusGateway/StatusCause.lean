import ModbusGateway.WriteRange

/-!
# The cause a command status reports

`MapModbusErrnoToDNP3Status` reads `errno` after the clean-up: `CreateAndConnect` frees the context first,
the write functions log, close and free. What it maps is what `modbus_free` leaves, except after a
`modbus_new_tcp` that failed.

| here | there |
| --- | --- |
| `SessionEvent.fails`   | the tests on the return codes (`Modbus.cpp:32-55`, `:270-277`, `:341-343`) |
| `firstFailure`         | `errno` when the first of them fails |
| `cleanUpErrno`         | `errno` when `modbus_free` has returned |

The two timeouts are set to constants libmodbus accepts; their return codes are not looked at.

* `writeSession_outcome` — what a session returns, in two cases.
* `status_reports_cause_iff` — the status tells the cause exactly when the clean-up keeps its class.
-/

namespace Gateway

open BinaryFloat (Value)

/-! ## Failures and acknowledgements -/

/-- `errno` after the call. -/
def SessionEvent.errno (e : SessionEvent) : Int32 := e.2.2

/-- The call did not do all that was asked of it. -/
def SessionEvent.fails : SessionEvent → Bool
  | ⟨.newTcp _ _, (ctx, _)⟩ => ctx.isNone
  | ⟨.setSlave _ _, (rc, _)⟩ | ⟨.connect _, (rc, _)⟩ => rc == -1
  | ⟨.readBits _ _ nb, ((rc, _), _)⟩ | ⟨.readInputBits _ _ nb, ((rc, _), _)⟩
  | ⟨.readRegisters _ _ nb, ((rc, _), _)⟩ | ⟨.readInputRegisters _ _ nb, ((rc, _), _)⟩ => rc != nb
  | ⟨.writeRegister _ _ _, (rc, _)⟩ | ⟨.writeBit _ _ _, (rc, _)⟩ => rc != 1
  | ⟨.writeRegisters _ _ values, (rc, _)⟩ => rc != Int32.ofNat values.length
  | _ => false

def SessionEvent.isFree : SessionEvent → Bool
  | ⟨.free _, _⟩ => true
  | _ => false

/-- What the first failing call left in `errno`. -/
def firstFailure (trace : List SessionEvent) : Option Int32 :=
  (trace.find? SessionEvent.fails).map SessionEvent.errno

/-- What `modbus_free` left in `errno`, if it was called. -/
def cleanUpErrno (trace : List SessionEvent) : Option Int32 :=
  (trace.find? SessionEvent.isFree).map SessionEvent.errno

/-- The status tells whether the write was acknowledged, and if not why. -/
structure ReportsCause (trace : List SessionEvent) (status : CommandStatus) : Prop where
  success : status = .success ↔ acknowledged trace = true
  cause : acknowledged trace = false → ∃ errno, firstFailure trace = some errno ∧
    (status = .timeout ↔ errno = ETIMEDOUT) ∧ (status = .formatError ↔ errno = EINVAL) ∧
    (status = .downstreamFail ↔ errno ≠ ETIMEDOUT ∧ errno ≠ EINVAL)

/-- `ETIMEDOUT`, `EINVAL` or neither. -/
def SameClass (errno errno' : Int32) : Prop :=
  (errno = ETIMEDOUT ↔ errno' = ETIMEDOUT) ∧ (errno = EINVAL ↔ errno' = EINVAL)

/-- The `modbus_free` of the clean-up leaves an `errno` of the class the first failing call left. -/
def CleanUpKeepsClass (trace : List SessionEvent) : Prop :=
  ∀ cause ∈ firstFailure trace, ∀ errno ∈ cleanUpErrno trace, SameClass errno cause

theorem firstFailure_cons_of_fails {e : SessionEvent} (h : e.fails = true) (trace : List SessionEvent) :
    firstFailure (e :: trace) = some e.errno := by
  rw [firstFailure, List.find?_cons_of_pos h]
  rfl

theorem firstFailure_cons_of_not {e : SessionEvent} (h : e.fails = false) (trace : List SessionEvent) :
    firstFailure (e :: trace) = firstFailure trace := by
  rw [firstFailure, List.find?_cons_of_neg (by simp [h])]
  rfl

section
variable (us vs : List SessionEvent)

@[simp] theorem firstFailure_append : firstFailure (us ++ vs) = (firstFailure us).or (firstFailure vs) := by
  rw [firstFailure, List.find?_append, Option.map_or]
  rfl

@[simp] theorem cleanUpErrno_append : cleanUpErrno (us ++ vs) = (cleanUpErrno us).or (cleanUpErrno vs) := by
  rw [cleanUpErrno, List.find?_append, Option.map_or]
  rfl

end

/-! ## The mapping -/

theorem ETIMEDOUT_ne_EINVAL : ETIMEDOUT ≠ EINVAL := by decide

theorem mapModbusErrno_iff (errno : Int32) :
    (mapModbusErrnoToDNP3Status errno = .timeout ↔ errno = ETIMEDOUT) ∧
    (mapModbusErrnoToDNP3Status errno = .formatError ↔ errno = EINVAL) ∧
    (mapModbusErrnoToDNP3Status errno = .downstreamFail ↔ errno ≠ ETIMEDOUT ∧ errno ≠ EINVAL) := by
  unfold mapModbusErrnoToDNP3Status
  by_cases ht : errno = ETIMEDOUT
  · simp [ht, ETIMEDOUT_ne_EINVAL]
  · by_cases hi : errno = EINVAL
    · simp [hi, ETIMEDOUT_ne_EINVAL.symm]
    · simp [ht, hi]

/-- What one `errno` is mapped to tells the class of another when they are of one class. -/
theorem mapModbusErrno_reports_iff (errno cause : Int32) :
    ((mapModbusErrnoToDNP3Status errno = .timeout ↔ cause = ETIMEDOUT) ∧
      (mapModbusErrnoToDNP3Status errno = .formatError ↔ cause = EINVAL) ∧
      (mapModbusErrnoToDNP3Status errno = .downstreamFail ↔ cause ≠ ETIMEDOUT ∧ cause ≠ EINVAL)) ↔
    SameClass errno cause := by
  obtain ⟨htimeout, hformat, hdown⟩ := mapModbusErrno_iff errno
  rw [htimeout, hformat, hdown, SameClass]
  constructor
  · rintro ⟨ht, hi, -⟩
    exact ⟨ht, hi⟩
  · rintro ⟨ht, hi⟩
    exact ⟨ht, hi, by rw [Ne, Ne, ht, hi]⟩

theorem SameClass.refl (errno : Int32) : SameClass errno errno := ⟨Iff.rfl, Iff.rfl⟩

/-! ## What a session returns -/

/-- The two ways a session ends. A `modbus_new_tcp` that fails leaves no context to free, and its own `errno`
is mapped. -/
inductive Outcome (trace : List SessionEvent) (status : CommandStatus) : Prop where
  | done (hack : acknowledged trace = true) (hfail : firstFailure trace = none) (hstatus : status = .success)
  | failed (cause : Int32) (hack : acknowledged trace = false) (hfail : firstFailure trace = some cause)
      (hstatus : status = mapModbusErrnoToDNP3Status ((cleanUpErrno trace).getD cause))

/-- Success is told truly, whatever `errno` holds. -/
theorem Outcome.success_iff {trace : List SessionEvent} {status : CommandStatus} (h : Outcome trace status) :
    status = .success ↔ acknowledged trace = true := by
  cases h with
  | done hack hfail hstatus => simp [hstatus, hack]
  | failed cause hack hfail hstatus =>
    rw [hack, hstatus]
    simp [mapModbusErrno_ne_success]

theorem Outcome.reports_iff {trace : List SessionEvent} {status : CommandStatus} (h : Outcome trace status) :
    ReportsCause trace status ↔ CleanUpKeepsClass trace := by
  have hsuccess := h.success_iff
  cases h with
  | done hack hfail hstatus =>
    have hkeeps : CleanUpKeepsClass trace := by
      intro cause hcause
      rw [hfail] at hcause
      cases hcause
    have hreports : ReportsCause trace status := ⟨hsuccess, fun hno => by simp [hack] at hno⟩
    exact ⟨fun _ => hkeeps, fun _ => hreports⟩
  | failed cause hack hfail hstatus =>
    have hkeeps : CleanUpKeepsClass trace ↔ SameClass ((cleanUpErrno trace).getD cause) cause := by
      rw [CleanUpKeepsClass, hfail]
      cases cleanUpErrno trace with
      | none => simpa using SameClass.refl cause
      | some errno => simp
    rw [hkeeps, ← mapModbusErrno_reports_iff, ← hstatus]
    constructor
    · intro hreports
      obtain ⟨errno, herrno, hcause⟩ := hreports.cause hack
      obtain rfl : cause = errno := by simpa [hfail] using herrno
      exact hcause
    · intro hcause
      exact ⟨hsuccess, fun _ => ⟨cause, hfail, hcause⟩⟩

/-- Nothing in the trace fails, acknowledges a write or frees a context. -/
def Uneventful (trace : List SessionEvent) : Prop :=
  acknowledged trace = false ∧ firstFailure trace = none ∧ cleanUpErrno trace = none

/-- Connecting fails with a cause and hands on the `errno` after the clean-up, or nothing has failed yet. -/
def ConnectOutcome (trace : List SessionEvent) : Except Int32 Ctx → Prop
  | .ok _ => Uneventful trace
  | .error errno => acknowledged trace = false ∧
      ∃ cause, firstFailure trace = some cause ∧ errno = (cleanUpErrno trace).getD cause

theorem createAndConnect_outcome (ip : Bytes) (port slave_id : Int32) :
    (createAndConnect ip port slave_id).Ensures ConnectOutcome := by
  refine (createAndConnect_runs ip port slave_id).mono ?_
  intro trace result hrun
  cases hrun with
  | noContext errno => exact ⟨rfl, errno, rfl, rfl⟩
  | noSlave ctx e1 e2 freed => exact ⟨rfl, e2, rfl, rfl⟩
  | noConnection ctx e1 rc e2 hslave r3 r4 e5 freed =>
    have hset : (SessionEvent.fails ⟨.setSlave ctx slave_id, (rc, e2)⟩) = false := beq_eq_false_iff_ne.2 hslave
    exact ⟨rfl, e5, firstFailure_cons_of_not hset _, rfl⟩
  | connected ctx e1 rc e2 hslave r3 r4 rc' e5 hconnect =>
    have hset : (SessionEvent.fails ⟨.setSlave ctx slave_id, (rc, e2)⟩) = false := beq_eq_false_iff_ne.2 hslave
    have hopen : (SessionEvent.fails ⟨.connect ctx, (rc', e5)⟩) = false := beq_eq_false_iff_ne.2 hconnect
    exact ⟨rfl, (firstFailure_cons_of_not hset _).trans (firstFailure_cons_of_not hopen []), rfl⟩

/-- One call that is the write of a session: it fails unless it returns `count`. -/
def Writes (count : Int32) (trace : List SessionEvent) (answer : Int32 × Int32) : Prop :=
  cleanUpErrno trace = none ∧ acknowledged trace = decide (answer.1 = count) ∧
    firstFailure trace = if answer.1 = count then none else some answer.2

theorem writes_of_event {count : Int32} {e : SessionEvent} (answer : Int32 × Int32) (hfree : e.isFree = false)
    (hack : e.acknowledges = decide (answer.1 = count)) (hfail : e.fails = !e.acknowledges)
    (herrno : e.errno = answer.2) : Writes count [e] answer := by
  refine ⟨by simp [cleanUpErrno, hfree], by simp [acknowledged, hack], ?_⟩
  by_cases hcount : answer.1 = count
  · rw [firstFailure_cons_of_not (by simp [hfail, hack, hcount]), if_pos hcount]
    rfl
  · rw [firstFailure_cons_of_fails (by simp [hfail, hack, hcount]), if_neg hcount, herrno]

theorem registerRequest_writes (cfg : CommandPointConfig) (regs : List UInt16) (ctx : Ctx) :
    (registerRequest cfg regs ctx).Ensures (Writes (Int32.ofNat regs.length)) := by
  unfold registerRequest
  by_cases hone : regs.length = 1
  · rw [if_pos hone, hone]
    exact fun r => writes_of_event r rfl (Bool.beq_eq_decide_eq r.1 1) rfl rfl
  · rw [if_neg hone]
    exact fun r => writes_of_event r rfl (Bool.beq_eq_decide_eq r.1 _) rfl rfl

theorem writeBit_writes (ctx : Ctx) (address : Int32) (status : Bool) :
    (perform (.writeBit ctx address status)).Ensures (Writes 1) :=
  fun r => writes_of_event r rfl (Bool.beq_eq_decide_eq r.1 1) rfl rfl

/-- A connection that fails ends the session with what `errno` holds after its clean-up. -/
theorem Outcome.of_error {errno : Int32} {opening : List SessionEvent} (hopen : ConnectOutcome opening (.error errno))
    (locked : Reply .lock) {rest : List SessionEvent} (hrest : Uneventful rest) :
    Outcome (⟨.lock, locked⟩ :: (opening ++ rest)) (mapModbusErrnoToDNP3Status errno) := by
  obtain ⟨hack, cause, hfail, rfl⟩ := hopen
  obtain ⟨hack', hfail', hfree'⟩ := hrest
  have hacked : acknowledged (opening ++ rest) = false := by rw [acknowledged_append, hack, hack']; rfl
  have hfailed : firstFailure (opening ++ rest) = some cause := by rw [firstFailure_append, hfail]; rfl
  have hfreed : cleanUpErrno (opening ++ rest) = cleanUpErrno opening := by
    rw [cleanUpErrno_append, hfree', Option.or_none]
  refine .failed cause hacked hfailed ?_
  rw [← hfreed]
  rfl

/-- A session that connects ends with the answer of its write; the context is freed behind it. -/
theorem Outcome.of_session {ctx : Ctx} {count : Int32} {answer : Int32 × Int32} {opening asked : List SessionEvent}
    (hopen : ConnectOutcome opening (.ok ctx)) (hasked : Writes count asked answer) (locked : Reply .lock)
    (rest : List SessionEvent) {errno : Int32} (hack : acknowledged rest = false) (hfail : firstFailure rest = none)
    (hfree : cleanUpErrno rest = some errno) :
    Outcome (⟨.lock, locked⟩ :: (opening ++ (asked ++ rest)))
      (if answer.1 = count then .success else mapModbusErrnoToDNP3Status errno) := by
  obtain ⟨hack₁, hfail₁, hfree₁⟩ := hopen
  obtain ⟨hfree₂, hack₂, hfail₂⟩ := hasked
  have hacked : acknowledged (opening ++ (asked ++ rest)) = decide (answer.1 = count) := by
    rw [acknowledged_append, acknowledged_append, hack₁, hack₂, hack, Bool.false_or, Bool.or_false]
  have hfailed : firstFailure (opening ++ (asked ++ rest)) = if answer.1 = count then none else some answer.2 := by
    rw [firstFailure_append, firstFailure_append, hfail₁, hfail₂, hfail, Option.none_or, Option.or_none]
  have hfreed : cleanUpErrno (opening ++ (asked ++ rest)) = some errno := by
    rw [cleanUpErrno_append, cleanUpErrno_append, hfree₁, hfree₂, hfree, Option.none_or, Option.none_or]
  by_cases hcount : answer.1 = count
  · rw [if_pos hcount] at hfailed ⊢
    exact .done (hacked.trans (decide_eq_true hcount)) hfailed rfl
  · rw [if_neg hcount] at hfailed ⊢
    refine .failed answer.2 (hacked.trans (decide_eq_false hcount)) hfailed ?_
    have hlocked : cleanUpErrno (⟨.lock, locked⟩ :: (opening ++ (asked ++ rest))) = some errno := hfreed
    rw [hlocked]
    rfl

/-- **A session's outcome.** -/
theorem writeSession_outcome (cfg : CommandPointConfig) {count : Int32} {request : Ctx → Modbus (Int32 × Int32)}
    (hrequest : ∀ ctx, (request ctx).Ensures (Writes count)) :
    (writeSession cfg count request).Ensures Outcome := by
  refine writeSession_ensures (createAndConnect_outcome _ _ _) hrequest ?_ ?_
  · intro locked unlocked opening errno hopen
    exact Outcome.of_error hopen locked ⟨rfl, rfl, rfl⟩
  · intro locked opening ctx asked answer level scope logged closed freed unlocked hopen hasked
    exact Outcome.of_session hopen hasked locked _ rfl rfl rfl

/-- The log line before the session changes nothing of it. -/
theorem Outcome.logLine {trace : List SessionEvent} {status : CommandStatus} (h : Outcome trace status)
    {level : AppLogLevel} {scope : Bytes} (r : Reply (.logLine level scope)) :
    Outcome (⟨.logLine level scope, r⟩ :: trace) status := by
  cases h with
  | done hack hfail hstatus => exact .done hack hfail hstatus
  | failed cause hack hfail hstatus => exact .failed cause hack hfail hstatus

theorem writeHoldingRegister_outcome {llround : Llround} {cfg : CommandPointConfig} {value : Value}
    {regs : List UInt16} (h : buildHoldingRegisterWritePayload llround cfg value = .ok regs) :
    (writeHoldingRegister llround cfg value).Ensures Outcome := by
  unfold writeHoldingRegister
  rw [h]
  intro r
  exact (writeSession_outcome cfg (registerRequest_writes cfg regs)).mono fun _ _ hout => hout.logLine r

theorem writeCoil_outcome (cfg : CommandPointConfig) (value : Bool) : (writeCoil cfg value).Ensures Outcome := by
  intro r
  refine (writeSession_outcome cfg fun ctx => ?_).mono fun _ _ hout => hout.logLine r
  exact writeBit_writes ctx cfg.modbus_address value

/-! ## The two write functions -/

/-- The trace and the status of an execution, against each other. -/
def StatusReportsCause (write : Modbus CommandStatus) (env : Env) (past : List SessionEvent) : Prop :=
  ReportsCause (write.run env past).1 (write.run env past).2

/-- **When the status tells the cause**: exactly in the executions whose clean-up keeps the class of `errno`. -/
theorem status_reports_cause_iff (cfg : CommandPointConfig) (env : Env) (past : List SessionEvent) :
    (∀ llround value regs, buildHoldingRegisterWritePayload llround cfg value = .ok regs →
      (StatusReportsCause (writeHoldingRegister llround cfg value) env past ↔
        CleanUpKeepsClass ((writeHoldingRegister llround cfg value).run env past).1)) ∧
    ∀ value, StatusReportsCause (writeCoil cfg value) env past ↔
      CleanUpKeepsClass ((writeCoil cfg value).run env past).1 := by
  constructor
  · intro llround value regs hok
    exact ((writeHoldingRegister_outcome hok).run env past).reports_iff
  · intro value
    exact ((writeCoil_outcome cfg value).run env past).reports_iff

/-- A device that is connected and fails the write with this `errno`. The shutdown of a socket the peer has left by
then fails with `ENOTCONN`. -/
def deviceFails (errno : Int32) : Env := fun _ c =>
  match c with
  | .newTcp _ _ => (some 1, 0)
  | .setSlave _ _ | .connect _ => (0, 0)
  | .writeRegister _ _ _ | .writeRegisters _ _ _ | .writeBit _ _ _ => (-1, errno)
  | .readBits _ _ _ | .readInputBits _ _ _ | .readRegisters _ _ _ | .readInputRegisters _ _ _ => ((-1, {}), errno)
  | .setResponseTimeout _ _ _ | .setByteTimeout _ _ _ | .lock | .unlock | .logLine _ _ => ((), 0)
  | .close _ | .free _ => ((), 107)

/-- The peer resets the connection: of `ECONNRESET` and `ENOTCONN` neither is a timeout or an invalid argument. -/
theorem status_reports_cause_reset :
    firstFailure ((writeHoldingRegister llroundSaturating setPointInt (.finite 7)).run (deviceFails 104) []).1 =
      some 104 ∧
    StatusReportsCause (writeHoldingRegister llroundSaturating setPointInt (.finite 7)) (deviceFails 104) [] := by
  have hfirst : firstFailure ((writeHoldingRegister llroundSaturating setPointInt (.finite 7)).run
      (deviceFails 104) []).1 = some 104 := by decide +kernel
  have hlast : cleanUpErrno ((writeHoldingRegister llroundSaturating setPointInt (.finite 7)).run
      (deviceFails 104) []).1 = some 107 := by decide +kernel
  refine ⟨hfirst, ((status_reports_cause_iff setPointInt (deviceFails 104) []).1 llroundSaturating (.finite 7) [7]
    (by decide +kernel)).2 ?_⟩
  intro cause hcause errno herrno
  rw [hfirst, Option.mem_some_iff] at hcause
  rw [hlast, Option.mem_some_iff] at herrno
  subst hcause herrno
  exact ⟨by decide, by decide⟩

/-- A coil. -/
def setPointCoil : CommandPointConfig := { setPointFloat with target := .coil, value_type := .coilStatusBool }

/-- **The lost timeout.** A write that times out is answered with DOWNSTREAM_FAIL. -/
theorem timeout_misreported :
    firstFailure ((writeCoil setPointCoil true).run (deviceFails ETIMEDOUT) []).1 = some ETIMEDOUT ∧
    ((writeCoil setPointCoil true).run (deviceFails ETIMEDOUT) []).2 = .downstreamFail ∧
    ¬StatusReportsCause (writeCoil setPointCoil true) (deviceFails ETIMEDOUT) [] := by
  have hfail : firstFailure ((writeCoil setPointCoil true).run (deviceFails ETIMEDOUT) []).1 = some ETIMEDOUT := by
    decide +kernel
  have hstatus : ((writeCoil setPointCoil true).run (deviceFails ETIMEDOUT) []).2 = .downstreamFail := by decide +kernel
  refine ⟨hfail, hstatus, ?_⟩
  intro h
  have hno : acknowledged ((writeCoil setPointCoil true).run (deviceFails ETIMEDOUT) []).1 = false := by decide +kernel
  obtain ⟨errno, herrno, htimeout, -⟩ := h.cause hno
  rw [hfail] at herrno
  obtain rfl : ETIMEDOUT = errno := Option.some.inj herrno
  rw [hstatus] at htimeout
  exact nomatch htimeout.2 rfl

end Gateway
