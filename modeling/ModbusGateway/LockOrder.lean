import ModbusGateway.GatewayThreads
import Mathlib.Data.Fintype.EquivFin
import Mathlib.Order.Fin.Basic

/-!
# The order of the mutexes, and the discipline of a Modbus session

The mutexes are taken in the order `dnp3_update_mutex` < `data_mutex`, `modbus_access_mutex` < `log_mutex`: a
log line is written under any of them, the page under `data_mutex`, a point's update under
`dnp3_update_mutex`. `ThreadPhase` is what a thread knows between two calls: what it holds, and how far its libmodbus
context has come. `lockDiscipline` allows a call when the order and the life of a context do.

* `gateway_follows` — every thread of the gateway follows it, whatever its calls are answered.
* `gateway_not_deadlocked` — so no thread requests a mutex it holds and no threads wait for each other.
-/

namespace Gateway

open BinaryFloat (Value)

def Mutex.rank : Mutex → Fin 3
  | .dnp3Update => 0
  | .data => 1
  | .modbusAccess => 1
  | .log => 2

/-- A context from its creation to its release. -/
inductive ContextPhase where
  | none
  | created (ctx : Ctx)
  | connected (ctx : Ctx)
  | closed (ctx : Ctx)
deriving DecidableEq

structure ThreadPhase where
  /-- The last one taken first. -/
  held : List Mutex := []
  context : ContextPhase := .none
  /-- A request has been sent in this turn. -/
  asked : Bool := false

namespace ThreadPhase

def mayAcquire (p : ThreadPhase) (m : Mutex) : Prop := ∀ k ∈ p.held, k.rank < m.rank

/-- `modbus_access_mutex` is not released while a context exists. -/
def mayRelease (p : ThreadPhase) (m : Mutex) : Prop :=
  p.held.head? = some m ∧ (m = .modbusAccess → p.context = .none)

def acquired (p : ThreadPhase) (m : Mutex) : ThreadPhase := { p with held := m :: p.held }

def released (p : ThreadPhase) : ThreadPhase := { p with held := p.held.tail }

/-- The calls of libmodbus that may be made. -/
def mayCall (p : ThreadPhase) : Call → Prop
  | .newTcp _ _ => .modbusAccess ∈ p.held ∧ p.context = .none
  | .setSlave ctx _ | .setResponseTimeout ctx _ _ | .setByteTimeout ctx _ _ | .connect ctx =>
    p.context = .created ctx
  | .readBits ctx _ _ | .readInputBits ctx _ _ | .readRegisters ctx _ _ | .readInputRegisters ctx _ _
  | .writeRegister ctx _ _ | .writeRegisters ctx _ _ | .writeBit ctx _ _ =>
    p.context = .connected ctx ∧ p.asked = false
  | .close ctx => p.context = .connected ctx
  | .free ctx => p.context = .created ctx ∨ p.context = .closed ctx
  | .lock | .unlock | .logLine _ _ => False

/-- Where they lead. -/
def called (p : ThreadPhase) : (c : Call) → Reply c → ThreadPhase
  | .newTcp _ _, (some ctx, _) => { p with context := .created ctx }
  | .connect ctx, (rc, _) => if rc = -1 then p else { p with context := .connected ctx }
  | .readBits _ _ _, _ | .readInputBits _ _ _, _ | .readRegisters _ _ _, _ | .readInputRegisters _ _ _, _
  | .writeRegister _ _ _, _ | .writeRegisters _ _ _, _ | .writeBit _ _ _, _ => { p with asked := true }
  | .close ctx, _ => { p with context := .closed ctx }
  | .free _, _ => { p with context := .none }
  | _, _ => p

/-- Nothing is held and no context exists. -/
def Idle (p : ThreadPhase) : Prop := p.held = [] ∧ p.context = .none

end ThreadPhase

def lockDiscipline : Discipline ThreadReply ThreadPhase where
  allows p
    | .acquire m => p.mayAcquire m
    | .release m => p.mayRelease m
    | .modbus c => p.mayCall c
    | _ => True
  next p
    | .acquire m, _ => p.acquired m
    | .release _, _ => p.released
    | .modbus c, r => p.called c r
    | _, _ => p
  init := {}
  idle := ThreadPhase.Idle

/-- The same of the calls of a session. -/
def sessionProtocol : Protocol Reply ThreadPhase where
  allows p
    | .lock => p.mayAcquire .modbusAccess
    | .unlock => p.mayRelease .modbusAccess
    | .logLine _ _ => p.mayAcquire .log
    | c => p.mayCall c
  next p
    | .lock, _ => p.acquired .modbusAccess
    | .unlock, _ => p.released
    | .logLine _ _, _ => p
    | c, r => p.called c r

/-! ## The functions of a session -/

section
variable {p : ThreadPhase}

theorem mayAcquire_of_idle (hidle : p.Idle) (m : Mutex) : p.mayAcquire m := by
  intro k hk
  rw [hidle.1] at hk
  cases hk

theorem mayAcquire_of_held {k m : Mutex} (hheld : p.held = [k]) (hrank : k.rank < m.rank) : p.mayAcquire m := by
  intro l hl
  rw [hheld, List.mem_singleton] at hl
  exact hl ▸ hrank

theorem mayRelease_of_head {m : Mutex} (hhead : p.held.head? = some m) (hm : m ≠ .modbusAccess) : p.mayRelease m :=
  ⟨hhead, fun h => absurd h hm⟩

theorem createAndConnect_obeys (ip : Bytes) (port slave_id : Int32) (hheld : .modbusAccess ∈ p.held)
    (hnone : p.context = .none) : (createAndConnect ip port slave_id).Obeys sessionProtocol p fun q opened =>
      match opened with
      | .ok ctx => q = { p with context := .connected ctx }
      | .error _ => q = p := by
  obtain ⟨held, context, asked⟩ := p
  obtain rfl : context = .none := hnone
  simp only [createAndConnect, perform, Program.obeys_bind, Program.obeys_perform]
  refine ⟨⟨hheld, rfl⟩, ?_⟩
  rintro ⟨ctx, e1⟩
  cases ctx with
  | none => exact rfl
  | some ctx =>
    simp only [Program.obeys_bind, Program.obeys_perform]
    refine ⟨rfl, ?_⟩
    rintro ⟨rc, e2⟩
    by_cases hslave : rc = -1
    · simp only [hslave, if_true, Program.obeys_bind, Program.obeys_perform, Program.obeys_pure]
      exact ⟨.inl rfl, fun _ => rfl⟩
    · simp only [hslave, if_false, Program.obeys_bind, Program.obeys_perform]
      refine ⟨rfl, fun _ => ⟨rfl, fun _ => ⟨rfl, ?_⟩⟩⟩
      rintro ⟨rc', e5⟩
      by_cases hconnect : rc' = -1
      · simp only [hconnect, if_true, Program.obeys_bind, Program.obeys_perform, Program.obeys_pure]
        exact ⟨.inl rfl, fun _ => rfl⟩
      · simp only [hconnect, if_false, Program.obeys_pure]
        exact if_neg hconnect

theorem readRequest_obeys (point : ReadPointConfig) {ctx : Ctx} (hconnected : p.context = .connected ctx)
    (hasked : p.asked = false) :
    (readRequest point ctx).Obeys sessionProtocol p fun q _ => q = { p with asked := true } := by
  unfold readRequest
  split <;> split <;> exact ⟨⟨hconnected, hasked⟩, fun _ => rfl⟩

theorem registerRequest_obeys (cfg : CommandPointConfig) (regs : List UInt16) {ctx : Ctx}
    (hconnected : p.context = .connected ctx) (hasked : p.asked = false) :
    (registerRequest cfg regs ctx).Obeys sessionProtocol p fun q _ => q = { p with asked := true } := by
  unfold registerRequest
  split <;> exact ⟨⟨hconnected, hasked⟩, fun _ => rfl⟩

/-- How a session with a connection ends. -/
theorem windUp_obeys {ctx : Ctx} {α : Type} (result : Reply (.free ctx) → α) (hheld : p.held = [.modbusAccess])
    (hconnected : p.context = .connected ctx) :
    (do
      let _ ← perform (.close ctx)
      let freed ← perform (.free ctx)
      let _ ← perform .unlock
      return result freed : Modbus α).Obeys sessionProtocol p fun q _ => q.Idle := by
  obtain ⟨held, context, asked⟩ := p
  obtain rfl : held = [.modbusAccess] := hheld
  simp only [perform, Program.obeys_bind, Program.obeys_perform, Program.obeys_pure]
  refine ⟨hconnected, fun _ => ⟨.inr rfl, fun _ => ?_⟩⟩
  exact ⟨⟨rfl, fun _ => rfl⟩, fun _ => ⟨rfl, rfl⟩⟩

theorem readModbusPoint_obeys (point : ReadPointConfig) (hidle : p.Idle) (hasked : p.asked = false) :
    (readModbusPoint point).Obeys sessionProtocol p fun q _ => q.Idle := by
  obtain ⟨held, context, asked⟩ := p
  obtain ⟨rfl, rfl⟩ : held = [] ∧ context = .none := hidle
  obtain rfl : asked = false := hasked
  unfold readModbusPoint perform
  simp only [Program.obeys_bind, Program.obeys_perform]
  refine ⟨mayAcquire_of_idle ⟨rfl, rfl⟩ _, fun _ => ?_⟩
  refine (createAndConnect_obeys _ _ _ List.mem_cons_self rfl).mono ?_
  rintro q (errno | ctx) rfl
  · exact ⟨⟨rfl, fun _ => rfl⟩, fun _ => ⟨rfl, rfl⟩⟩
  · refine Program.obeys_bind.2 ((readRequest_obeys point rfl rfl).mono ?_)
    rintro q ⟨⟨rc, tab⟩, e⟩ rfl
    exact windUp_obeys (fun _ => if rc = readCount point.type then some (decodePoint point.type tab) else none) rfl rfl

/-- Connect, one request, and on both outcomes a log line under the mutex before the session ends. -/
theorem writeSession_obeys {cfg : CommandPointConfig} {count : Int32} {request : Ctx → Modbus (Int32 × Int32)}
    (hrequest : ∀ {p : ThreadPhase} {ctx}, p.context = .connected ctx → p.asked = false →
      (request ctx).Obeys sessionProtocol p fun q _ => q = { p with asked := true })
    (hidle : p.Idle) (hasked : p.asked = false) :
    (writeSession cfg count request).Obeys sessionProtocol p fun q _ => q.Idle := by
  obtain ⟨held, context, asked⟩ := p
  obtain ⟨rfl, rfl⟩ : held = [] ∧ context = .none := hidle
  obtain rfl : asked = false := hasked
  unfold writeSession perform
  simp only [Program.obeys_bind, Program.obeys_perform]
  refine ⟨mayAcquire_of_idle ⟨rfl, rfl⟩ _, fun _ => ?_⟩
  refine (createAndConnect_obeys _ _ _ List.mem_cons_self rfl).mono ?_
  rintro q (errno | ctx) rfl
  · exact ⟨⟨rfl, fun _ => rfl⟩, fun _ => ⟨rfl, rfl⟩⟩
  · refine Program.obeys_bind.2 ((hrequest rfl rfl).mono ?_)
    rintro q ⟨rc, e⟩ rfl
    have hlog : ThreadPhase.mayAcquire ⟨[.modbusAccess], .connected ctx, true⟩ .log :=
      mayAcquire_of_held rfl (by decide)
    by_cases hrc : rc = count
    · rw [if_pos hrc]
      exact ⟨hlog, fun _ => windUp_obeys (fun _ => CommandStatus.success) rfl rfl⟩
    · rw [if_neg hrc]
      exact ⟨hlog, fun _ => windUp_obeys (fun freed => mapModbusErrnoToDNP3Status freed.2) rfl rfl⟩

theorem writeHoldingRegister_obeys (llround : Llround) (cfg : CommandPointConfig) (value : Value) (hidle : p.Idle)
    (hasked : p.asked = false) :
    (writeHoldingRegister llround cfg value).Obeys sessionProtocol p fun q _ => q.Idle := by
  unfold writeHoldingRegister
  split
  · exact ⟨mayAcquire_of_idle hidle .log, fun _ => hidle⟩
  · exact ⟨mayAcquire_of_idle hidle .log, fun _ => writeSession_obeys (registerRequest_obeys cfg _) hidle hasked⟩

theorem writeCoil_obeys (cfg : CommandPointConfig) (value : Bool) (hidle : p.Idle) (hasked : p.asked = false) :
    (writeCoil cfg value).Obeys sessionProtocol p fun q _ => q.Idle := by
  refine ⟨mayAcquire_of_idle hidle .log, fun _ => writeSession_obeys ?_ hidle hasked⟩
  intro p ctx hconnected hasked
  exact ⟨⟨hconnected, hasked⟩, fun _ => rfl⟩

namespace ModbusCommandHandler

variable (llround : Llround) (handler : ModbusCommandHandler) (command : Command) (index : UInt16)

theorem select_obeys (hidle : p.Idle) : (handler.select command index).Obeys sessionProtocol p fun q _ => q.Idle :=
  ⟨mayAcquire_of_idle hidle .log, fun _ => hidle⟩

theorem operateCrob_obeys (opType : OperationType) (hidle : p.Idle) (hasked : p.asked = false) :
    (handler.operateCrob opType index).Obeys sessionProtocol p fun q _ => q.Idle := by
  simp only [operateCrob, perform, Program.obeys_bind, Program.obeys_perform]
  refine ⟨mayAcquire_of_idle hidle .log, fun _ => ?_⟩
  split
  · exact hidle
  · simp only [Program.obeys_bind, Program.obeys_perform, Program.obeys_pure]
    refine ⟨mayAcquire_of_idle hidle .log, fun _ => ?_⟩
    refine (writeCoil_obeys _ _ hidle hasked).mono ?_
    rintro q status hidle
    exact ⟨mayAcquire_of_idle hidle .log, fun _ => hidle⟩

theorem operateAnalog_obeys (value : Value) (hidle : p.Idle) (hasked : p.asked = false) :
    (handler.operateAnalog llround value index).Obeys sessionProtocol p fun q _ => q.Idle := by
  simp only [operateAnalog, perform, Program.obeys_bind, Program.obeys_perform]
  refine ⟨mayAcquire_of_idle hidle .log, fun _ => ?_⟩
  split
  · exact hidle
  · exact writeHoldingRegister_obeys llround _ value hidle hasked

theorem operate_obeys (hidle : p.Idle) (hasked : p.asked = false) :
    (handler.operate llround command index).Obeys sessionProtocol p fun q _ => q.Idle := by
  cases command with
  | crob opType => exact operateCrob_obeys handler index opType hidle hasked
  | _ value => exact operateAnalog_obeys llround handler index _ hidle hasked

end ModbusCommandHandler

end

/-! ## The threads -/

namespace ThreadProgram

variable {p : ThreadPhase}

theorem logLine_obeys (level : AppLogLevel) (scope : Bytes) (hmay : p.mayAcquire .log) :
    (logLine level scope).Obeys lockDiscipline.toProtocol p fun q _ => q = p :=
  ⟨hmay, fun _ => ⟨trivial, fun _ => ⟨mayRelease_of_head rfl (by decide), fun _ => rfl⟩⟩⟩

theorem logLine_idle (level : AppLogLevel) (scope : Bytes) (hidle : p.Idle) :
    (logLine level scope).Obeys lockDiscipline.toProtocol p fun q _ => q.Idle := by
  refine (logLine_obeys level scope (mayAcquire_of_idle hidle .log)).mono ?_
  rintro q r rfl
  exact hidle

theorem logLines_idle (lines : List (AppLogLevel × Bytes)) (hidle : p.Idle) :
    (logLines lines).Obeys lockDiscipline.toProtocol p fun q _ => q.Idle := by
  induction lines generalizing p with
  | nil => exact hidle
  | cons line lines ih => exact Program.obeys_bind.2 ((logLine_idle _ _ hidle).mono fun q r hq => ih hq)

/-- A call of a session is carried out as its protocol has it. -/
theorem carryOut_obeys (c : Call) (h : sessionProtocol.allows p c) :
    (carryOut c).Obeys lockDiscipline.toProtocol p fun q r => q = sessionProtocol.next p c r := by
  cases c with
  | logLine level scope => exact logLine_obeys level scope h
  | _ => exact ⟨h, fun _ => rfl⟩

/-- **A session a thread runs from idle leaves it idle.** -/
theorem session_obeys {α : Type} {m : Modbus α} (h : m.Obeys sessionProtocol p fun q _ => q.Idle) :
    (session m).Obeys lockDiscipline.toProtocol p fun q _ => q.Idle := by
  have htranslated := h.translate (g := id) fun p c hc => carryOut_obeys c hc
  refine htranslated.mono ?_
  rintro q a ⟨q, rfl, hq⟩
  exact hq

theorem publishPointToDNP3_obeys (point_index : Nat) (hidle : p.Idle) :
    (publishPointToDNP3 point_index).Obeys lockDiscipline.toProtocol p fun q _ => q.Idle := by
  obtain ⟨held, context, asked⟩ := p
  obtain ⟨rfl, rfl⟩ : held = [] ∧ context = .none := hidle
  refine ⟨mayAcquire_of_idle ⟨rfl, rfl⟩ .dnp3Update, fun _ => ⟨mayAcquire_of_held rfl (by decide), fun _ => ?_⟩⟩
  refine ⟨trivial, fun _ => ?_⟩
  refine ⟨mayRelease_of_head rfl (by decide), fun _ => ⟨trivial, fun _ => ?_⟩⟩
  exact ⟨mayRelease_of_head rfl (by decide), fun _ => ⟨rfl, rfl⟩⟩

/-- The state is stored and logged under `data_mutex`. -/
theorem storePoll_obeys (point_index : Nat) (value : Option Value) (level : AppLogLevel) (scope : Bytes)
    (hidle : p.Idle) :
    (do
      let _ ← perform (.acquire .data)
      let _ ← perform (.storePoll point_index value)
      let _ ← logLine level scope
      let _ ← perform (.release .data)
      publishPointToDNP3 point_index
      return true : ThreadProgram Bool).Obeys lockDiscipline.toProtocol p fun q _ => q.Idle := by
  obtain ⟨held, context, asked⟩ := p
  obtain ⟨rfl, rfl⟩ : held = [] ∧ context = .none := hidle
  simp only [perform, Program.obeys_bind, Program.obeys_perform]
  refine ⟨mayAcquire_of_idle ⟨rfl, rfl⟩ .data, fun _ => ⟨trivial, fun _ => ?_⟩⟩
  have hlog : ThreadPhase.mayAcquire ⟨[.data], .none, asked⟩ .log := mayAcquire_of_held rfl (by decide)
  refine (logLine_obeys level scope hlog).mono ?_
  rintro q r rfl
  exact ⟨mayRelease_of_head rfl (by decide), fun _ => publishPointToDNP3_obeys point_index ⟨rfl, rfl⟩⟩

theorem pollPoint_obeys (point_index : Nat) (point : ReadPointConfig) :
    (pollPoint point_index point).Obeys lockDiscipline.toProtocol {} fun q _ => q.Idle := by
  simp only [pollPoint, perform, Program.obeys_bind, Program.obeys_perform]
  refine ⟨trivial, ?_⟩
  rintro ⟨running, e⟩
  cases running with
  | false => exact ⟨rfl, rfl⟩
  | true =>
    simp only [if_true, Program.obeys_bind]
    refine (session_obeys (readModbusPoint_obeys point ⟨rfl, rfl⟩ rfl)).mono ?_
    rintro q value hidle
    cases value with
    | none =>
      refine Program.obeys_bind.2 ((logLine_idle _ _ hidle).mono ?_)
      intro q r hidle
      exact storePoll_obeys point_index none .warn (str "MODBUS-STATE") hidle
    | some value => exact storePoll_obeys point_index (some value) .info (str "MODBUS-READ-OK") hidle

theorem handleHttpClient_obeys : handleHttpClient.Obeys lockDiscipline.toProtocol {} fun q _ => q.Idle := by
  simp only [handleHttpClient, perform, Program.obeys_bind, Program.obeys_perform]
  refine ⟨trivial, fun received => ?_⟩
  split
  · refine ⟨mayAcquire_of_idle ⟨rfl, rfl⟩ .data, fun _ => ⟨mayAcquire_of_held rfl (by decide), fun _ => ?_⟩⟩
    refine ⟨trivial, fun _ => ⟨mayRelease_of_head rfl (by decide), fun _ => ?_⟩⟩
    exact ⟨mayRelease_of_head rfl (by decide), fun _ => ⟨rfl, rfl⟩⟩
  · exact ⟨trivial, fun _ => ⟨rfl, rfl⟩⟩

theorem httpServerStart_obeys : httpServerStart.Obeys lockDiscipline.toProtocol {} fun q _ => q.Idle := by
  simp only [httpServerStart, perform, Program.obeys_bind, Program.obeys_perform]
  refine ⟨trivial, fun created => ?_⟩
  split
  · simp only [Program.obeys_bind, Program.obeys_perform]
    refine ⟨trivial, fun bound => ?_⟩
    split
    · simp only [Program.obeys_bind, Program.obeys_perform]
      exact ⟨trivial, fun listening => logLine_idle _ _ ⟨rfl, rfl⟩⟩
    · exact Program.obeys_bind.2 (logLine_idle _ _ ⟨rfl, rfl⟩)
  · exact Program.obeys_bind.2 (logLine_idle _ _ ⟨rfl, rfl⟩)

theorem httpServerTurn_obeys : httpServerTurn.Obeys lockDiscipline.toProtocol {} fun q _ => q.Idle := by
  simp only [httpServerTurn, perform, Program.obeys_bind, Program.obeys_perform]
  refine ⟨trivial, fun running => ?_⟩
  split
  · simp only [Program.obeys_bind, Program.obeys_perform]
    refine ⟨trivial, fun accepted => ?_⟩
    split
    · exact Program.obeys_bind.2 handleHttpClient_obeys
    · exact ⟨rfl, rfl⟩
  · exact ⟨rfl, rfl⟩

theorem executeCommandLine_obeys (profile : ProfileConfig) (raw_line : Bytes) :
    (executeCommandLine profile raw_line).Obeys lockDiscipline.toProtocol {} fun q _ => q.Idle := by
  unfold executeCommandLine
  generalize trimCopy raw_line = line
  by_cases hempty : line.isEmpty
  · simp only [hempty, if_true]
    exact ⟨rfl, rfl⟩
  by_cases hhelp : line = str "help"
  · rw [if_neg hempty, if_pos hhelp]
    exact Program.obeys_bind.2 (logLines_idle _ ⟨rfl, rfl⟩)
  by_cases hshow : line = str "show"
  · rw [if_neg hempty, if_neg hhelp, if_pos hshow]
    exact Program.obeys_bind.2 (logLines_idle _ ⟨rfl, rfl⟩)
  by_cases hquit : line = str "quit" ∨ line = str "exit"
  · rw [if_neg hempty, if_neg hhelp, if_neg hshow, if_pos hquit]
    exact ⟨trivial, fun _ => Program.obeys_bind.2 (logLine_idle _ _ ⟨rfl, rfl⟩)⟩
  · rw [if_neg hempty, if_neg hhelp, if_neg hshow, if_neg hquit]
    exact Program.obeys_bind.2 (logLine_idle _ _ ⟨rfl, rfl⟩)

theorem consoleTurn_obeys (profile : ProfileConfig) :
    (consoleTurn profile).Obeys lockDiscipline.toProtocol {} fun q _ => q.Idle := by
  simp only [consoleTurn, perform, Program.obeys_bind, Program.obeys_perform]
  refine ⟨trivial, fun running => ?_⟩
  split
  · simp only [Program.obeys_bind, Program.obeys_perform]
    refine ⟨trivial, ?_⟩
    rintro ⟨line, e⟩
    cases line with
    | none => exact ⟨rfl, rfl⟩
    | some line => exact Program.obeys_bind.2 (executeCommandLine_obeys profile line)
  · exact ⟨rfl, rfl⟩

theorem mainStart_obeys (startUp : StartUp) :
    (mainStart startUp).Obeys lockDiscipline.toProtocol {} fun q _ => q.Idle := by
  simp only [mainStart, perform, Program.obeys_bind, Program.obeys_perform]
  refine (logLines_idle _ ⟨rfl, rfl⟩).mono fun q _ hidle => ?_
  refine (logLine_idle _ _ hidle).mono fun q _ hidle => ⟨trivial, fun _ => ?_⟩
  refine (logLine_idle _ _ hidle).mono fun q _ hidle => ?_
  refine (logLine_idle _ _ hidle).mono fun q _ hidle => ?_
  exact logLines_idle _ hidle

theorem executor_obeys (llround : Llround) (handler : ModbusCommandHandler) :
    (executor llround handler).Obeys lockDiscipline.toProtocol {} fun q _ => q.Idle := by
  simp only [executor, perform, Program.obeys_bind, Program.obeys_perform]
  refine ⟨trivial, ?_⟩
  rintro ⟨task, e⟩
  cases task with
  | select command index =>
    exact Program.obeys_bind.2 (session_obeys (handler.select_obeys command index ⟨rfl, rfl⟩))
  | operate command index =>
    exact Program.obeys_bind.2 (session_obeys (handler.operate_obeys llround command index ⟨rfl, rfl⟩ rfl))
  | other => exact ⟨rfl, rfl⟩

end ThreadProgram

section
open ThreadProgram
variable {llround : Llround} {startUp : StartUp}

/-- **Every thread follows the discipline.** -/
theorem gateway_follows (t : GatewayThread startUp.profile.read_points.length) :
    Threads.Follows lockDiscipline (gatewayScript llround startUp t) := by
  cases t with
  | poll i => exact ⟨⟨rfl, rfl⟩, pollPoint_obeys i _⟩
  | http => exact ⟨httpServerStart_obeys, httpServerTurn_obeys⟩
  | console => exact ⟨Program.obeys_bind.2 (logLines_idle _ ⟨rfl, rfl⟩), consoleTurn_obeys startUp.profile⟩
  | main => exact ⟨mainStart_obeys startUp, ⟨trivial, fun _ => ⟨rfl, rfl⟩⟩⟩
  | executor => exact ⟨⟨rfl, rfl⟩, executor_obeys llround _⟩

end

/-! ## No deadlock -/

/-- No call of libmodbus acquires or releases. -/
theorem called_held {p : ThreadPhase} (c : Call) (r : Reply c) : (p.called c r).held = p.held := by
  cases c with
  | newTcp ip port =>
    obtain ⟨ctx, e⟩ := r
    cases ctx <;> rfl
  | connect ctx =>
    obtain ⟨rc, e⟩ := r
    simp only [ThreadPhase.called]
    split <;> rfl
  | _ => rfl

theorem lock_ranked : Threads.Ranked lockDiscipline ThreadCall.lockUse ThreadPhase.held Mutex.rank where
  init := rfl
  idle p hidle := hidle.1
  acquire p c m huse hmay := by
    cases c with
    | acquire k =>
      obtain rfl : k = m := by simpa [ThreadCall.lockUse] using huse
      exact ⟨hmay, fun _ => rfl⟩
    | _ => cases huse
  release p c m huse hmay := by
    cases c with
    | release k =>
      obtain rfl : k = m := by simpa [ThreadCall.lockUse] using huse
      obtain ⟨below, htop⟩ := List.head?_eq_some_iff.1 hmay.1
      exact ⟨below, htop, fun _ => by simp [lockDiscipline, ThreadPhase.released, htop]⟩
    | _ => cases huse
  other p c huse hmay r := by
    cases c with
    | acquire k => cases huse
    | release k => cases huse
    | modbus c => exact called_held c r
    | _ => rfl

/-- **Deadlock freedom.** In every state of every run no threads wait for each other's mutexes, and no thread
requests one it holds. -/
theorem gateway_not_deadlocked {llround : Llround} {startUp : StartUp} {trace : List (GatewayEvent startUp)}
    {s : GatewayState startUp} (h : GatewayRun llround startUp trace s) :
    (∀ S, ¬ Threads.Deadlocked ThreadCall.lockUse s S) ∧
      ∀ t m, Threads.Requests ThreadCall.lockUse s t m → s.owner m ≠ some t :=
  ⟨h.not_deadlocked gateway_follows lock_ranked, fun _ _ => h.not_self gateway_follows lock_ranked⟩

/-- What a poller has still to run when its read has failed and that is logged. -/
def failedTurn (point_index : Nat) : ThreadProgram Bool := do
  let _ ← ThreadProgram.perform (.acquire .data)
  let _ ← ThreadProgram.perform (.storePoll point_index none)
  let _ ← ThreadProgram.logLine .warn (str "MODBUS-STATE")
  let _ ← ThreadProgram.perform (.release .data)
  ThreadProgram.publishPointToDNP3 point_index
  return true

/-- A poller whose connection fails at once gets to the mutex of the shared data, and leaves the others free. -/
theorem GatewayRun.failed_read {llround : Llround} {startUp : StartUp} {trace : List (GatewayEvent startUp)}
    {s : GatewayState startUp} (h : GatewayRun llround startUp trace s) (i : Fin startUp.profile.read_points.length)
    (hrest : s.rest (.poll i) = .pure true) (hmodbus : s.owner .modbusAccess = none) (hlog : s.owner .log = none) :
    ∃ trace', GatewayRun llround startUp trace' ⟨Function.update s.rest (.poll i) (failedTurn i), s.owner⟩ := by
  let point := startUp.profile.read_points.get i
  have hturn := h.again (.poll i) hrest
  have hrunning := hturn.call (.poll i) .running (true, 0) (Function.update_self ..) fun m hm => by cases hm
  have hlocked := hrunning.call (.poll i) (.acquire .modbusAccess) ((), 0) (Function.update_self ..) fun m hm => by
    cases hm; exact hmodbus
  have hrefused := hlocked.call (.poll i) (.modbus (.newTcp (cString point.ip) point.port)) (none, 0)
    (Function.update_self ..) fun m hm => by cases hm
  have hunlocked := hrefused.call (.poll i) (.release .modbusAccess) ((), 0) (Function.update_self ..)
    fun m hm => by cases hm
  have hlogging := hunlocked.call (.poll i) (.acquire .log) ((), 0) (Function.update_self ..) fun m hm => by
    cases hm; exact hlog
  have hprinted := hlogging.call (.poll i) (.print .error (str "MODBUS-READ")) ((), 0) (Function.update_self ..)
    fun m hm => by cases hm
  have hlogged := hprinted.call (.poll i) (.release .log) ((), 0) (Function.update_self ..) fun m hm => by cases hm
  simp only [Function.update_idem] at hlogged
  refine ⟨_, (congrArg (GatewayRun llround startUp _) ?_).mp hlogged⟩
  refine congrArg₂ Threads.mk rfl (funext fun m => ?_)
  cases m with
  | modbusAccess => exact hmodbus.symm
  | log => exact hlog.symm
  | _ => rfl

def pointHolding (address : Int32) : ReadPointConfig :=
  { description := str "A", ip := str "10.0.0.1", port := 502, slave_id := 1, type := .holdingInt16, address, count := 1
    dnp3_analog_index := 1, dnp3_status_index := 0 }

/-- A start-up with two read points that logged nothing. -/
def twoPointStartUp : StartUp :=
  { profile := { name := [], read_points := [pointHolding 0, pointHolding 1] }, file := some [], logs := [] }

def poller (i : Fin 2) : GatewayThread twoPointStartUp.profile.read_points.length := .poll i

/-- Both devices are out of reach. The first poller holds the shared data and waits for the log, which the console has;
the second one waits for the first. -/
theorem gateway_not_deadlocked_waiting : ∃ trace s, GatewayRun llroundSaturating twoPointStartUp trace s ∧
    s.owner .data = some (poller 0) ∧ Threads.Requests ThreadCall.lockUse s (poller 0) .log ∧
    s.owner .log = some .console ∧ Threads.Requests ThreadCall.lockUse s (poller 1) .data ∧
    (∀ S, ¬ Threads.Deadlocked ThreadCall.lockUse s S) ∧
      ∀ t m, Threads.Requests ThreadCall.lockUse s t m → s.owner m ≠ some t := by
  have hstart : GatewayRun llroundSaturating twoPointStartUp [] _ := .start
  obtain ⟨_, hfirst⟩ := hstart.failed_read (0 : Fin 2) rfl rfl rfl
  obtain ⟨_, hboth⟩ := hfirst.failed_read (1 : Fin 2) rfl rfl rfl
  have hholds := hboth.call (poller 0) (.acquire .data) ((), 0) rfl fun m hm => by cases hm; rfl
  have hstores := hholds.call (poller 0) (.storePoll 0 none) ((), 0) rfl fun m hm => by cases hm
  have hrun := hstores.call .console (.acquire .log) ((), 0) rfl fun m hm => by cases hm; rfl
  exact ⟨_, _, hrun, rfl, ⟨_, _, rfl, rfl⟩, rfl, ⟨_, _, rfl, rfl⟩, gateway_not_deadlocked hrun⟩

end Gateway
