import ModbusGateway.Commands
import ModbusGateway.Interface
import ModbusGateway.Lib.Threads

/-!
# The threads of the gateway

Each thread as a program whose calls are the four mutexes, libmodbus and what it does to the outside or to the
shared data, the latter answered in any way. `LogLine` and the mutex of a Modbus session are carried out as in
`Log.cpp:63` and by `lock_guard`.

| here | there |
| --- | --- |
| `pollPoint`, `publishPointToDNP3` | `PollPoint`, `PublishPointToDNP3` (`Dnp3.cpp:88-171`) |
| `handleHttpClient` | `HandleHttpClient` (`Interface.cpp:551`) |
| `httpServerStart`, `httpServerTurn` | `HttpServerThread` (`Interface.cpp:627`) |
| `executeCommandLine` | `ExecuteCommandLine` (`Interface.cpp:182`) |
| `consoleStart`, `consoleTurn` | `ConsoleThread` (`Interface.cpp:681`) |
| `mainStart`, `mainTurn` | `main` (`Main.cpp:3`) behind `BuildProfile` |
| `executor`                        | the library's thread: the handler's commands, and tasks that take none of the mutexes |

All threads stand at their start from the beginning: one that is not spawned yet is one that has made no step.
-/

namespace Gateway

open BinaryFloat (Value)

/-- The mutexes of `Log.cpp:3-7`. -/
inductive Mutex where
  | data
  | dnp3Update
  | log
  | modbusAccess
deriving DecidableEq

/-- What the executor does next. -/
inductive Task where
  | select (command : Command) (index : UInt16)
  | operate (command : Command) (index : UInt16)
  | other

inductive ThreadCall where
  | acquire (m : Mutex)
  | release (m : Mutex)
  /-- A call of libmodbus. -/
  | modbus (c : Call)
  /-- The body of `LogLine`. -/
  | print (level : AppLogLevel) (scope : Bytes)
  /-- `g_running.load()` -/
  | running
  /-- `g_running.store(false)` -/
  | stop
  /-- The state of a point after a poll: `pollState`. -/
  | storePoll (point_index : Nat) (value : Option Value)
  /-- What is published of a point: `updateDNP3Values`. -/
  | updateDNP3Values (point_index : Nat)
  /-- `outstation->Apply` -/
  | apply
  | applyInitialState
  | socket
  | bind
  | listen
  | accept
  | recv
  /-- The answer to a request with its effect on the points file: `Gateway.handleHttpClient`. -/
  | answer (received : Bytes)
  | getline
  | nextTask

abbrev ThreadCall.Answer : ThreadCall → Type
  | .modbus c => c.Answer
  | .running | .socket | .bind | .listen | .accept => Bool
  /- Empty where `recv` fails or delivers nothing. -/
  | .recv => Bytes
  | .getline => Option Bytes
  | .nextTask => Task
  | _ => Unit

/-- As for `Call`, `errno` after the call is part of the reply. -/
abbrev ThreadReply (c : ThreadCall) := c.Answer × Int32

abbrev ThreadProgram := Program ThreadReply

def ThreadCall.lockUse : ThreadCall → LockUse Mutex
  | .acquire m => .acquire m
  | .release m => .release m
  | _ => .none

namespace ThreadProgram

def perform (c : ThreadCall) : ThreadProgram (ThreadReply c) := Program.perform c

/-- **`LogLine`** -/
def logLine (level : AppLogLevel) (scope : Bytes) : ThreadProgram (Unit × Int32) := do
  let _ ← perform (.acquire .log)
  let _ ← perform (.print level scope)
  perform (.release .log)

/-- How a thread carries out a call of a Modbus session. -/
def carryOut : (c : Call) → ThreadProgram (Reply c)
  | .lock => perform (.acquire .modbusAccess)
  | .unlock => perform (.release .modbusAccess)
  | .logLine level scope => logLine level scope
  | c => perform (.modbus c)

def session {α : Type} (p : Modbus α) : ThreadProgram α := p.translate carryOut

/-! ## The pollers -/

/-- **`PublishPointToDNP3`** -/
def publishPointToDNP3 (point_index : Nat) : ThreadProgram Unit := do
  let _ ← perform (.acquire .dnp3Update)
  let _ ← perform (.acquire .data)
  let _ ← perform (.updateDNP3Values point_index)
  let _ ← perform (.release .data)
  let _ ← perform .apply
  let _ ← perform (.release .dnp3Update)

/-- **`PollPoint`**: one turn of its loop. -/
def pollPoint (point_index : Nat) (point : ReadPointConfig) : ThreadProgram Bool := do
  let (running, _) ← perform .running
  if running then
    let value ← session (readModbusPoint point)
    if value.isNone then
      let _ ← logLine .error (str "MODBUS-READ")
    let _ ← perform (.acquire .data)
    let _ ← perform (.storePoll point_index value)
    match value with
    | some _ => let _ ← logLine .info (str "MODBUS-READ-OK")
    | none => let _ ← logLine .warn (str "MODBUS-STATE")
    let _ ← perform (.release .data)
    publishPointToDNP3 point_index
    return true
  else return false

/-! ## The panel -/

/-- The paths the page is sent for (`Interface.cpp:615`), behind the three other routes. -/
def isPagePath (path : Bytes) : Prop :=
  ¬ (str "/deletepoint").isPrefixOf path ∧ ¬ (str "/clearpoints").isPrefixOf path ∧
    ¬ (str "/addpoint").isPrefixOf path ∧
    (path = str "/" ∨ (str "/index").isPrefixOf path ∨ (str "/?").isPrefixOf path)

instance (path : Bytes) : Decidable (isPagePath path) := inferInstanceAs (Decidable (_ ∧ _))

/-- **`HandleHttpClient`**: `BuildHtmlPageServerRendered` holds two mutexes, the other routes none. -/
def handleHttpClient : ThreadProgram Unit := do
  let (received, _) ← perform .recv
  if received ≠ [] ∧ isPagePath (requestPath received) then
    let _ ← perform (.acquire .data)
    let _ ← perform (.acquire .log)
    let _ ← perform (.answer received)
    let _ ← perform (.release .log)
    let _ ← perform (.release .data)
  else
    let _ ← perform (.answer received)

/-- **`HttpServerThread`** up to its loop. -/
def httpServerStart : ThreadProgram Bool := do
  let (created, _) ← perform .socket
  if created then
    let (bound, _) ← perform .bind
    if bound then
      let (listening, _) ← perform .listen
      let _ ← logLine (if listening then .info else .error) (str "WEB")
      return listening
    else
      let _ ← logLine .error (str "WEB")
      return false
  else
    let _ ← logLine .error (str "WEB")
    return false

/-- One turn of its loop. -/
def httpServerTurn : ThreadProgram Bool := do
  let (running, _) ← perform .running
  if running then
    let (accepted, _) ← perform .accept
    if accepted then handleHttpClient
    return true
  else return false

/-! ## The console and `main` -/

def logLines : List (AppLogLevel × Bytes) → ThreadProgram Unit
  | [] => return ()
  | (level, scope) :: lines => do
    let _ ← logLine level scope
    logLines lines

/-- **`PrintMappings`** -/
def printMappings (profile : ProfileConfig) : ThreadProgram Unit :=
  logLines ((.info, str "MAP") :: profile.read_points.map (fun _ => (.info, str "READ")) ++
    (.info, str "MAP") :: profile.analog_commands.map (fun _ => (.info, str "AO")) ++
    (.info, str "MAP") :: profile.binary_commands.map fun _ => (.info, str "CROB"))

/-- **`PrintConsoleHelp`** -/
def printConsoleHelp : ThreadProgram Unit := logLines (List.replicate 6 (.info, str "HELP"))

/-- **`ExecuteCommandLine`** -/
def executeCommandLine (profile : ProfileConfig) (raw_line : Bytes) : ThreadProgram Bool := do
  let line := trimCopy raw_line
  if line.isEmpty then return true
  else if line = str "help" then
    printConsoleHelp
    return true
  else if line = str "show" then
    printMappings profile
    return true
  else if line = str "quit" ∨ line = str "exit" then
    let _ ← perform .stop
    let _ ← logLine .info (str "CMD")
    return true
  else
    let _ ← logLine .warn (str "CMD")
    return false

/-- **`ConsoleThread`** up to its loop. -/
def consoleStart : ThreadProgram Bool := do
  printConsoleHelp
  return true

/-- One turn of its loop: without a line it sleeps. -/
def consoleTurn (profile : ProfileConfig) : ThreadProgram Bool := do
  let (running, _) ← perform .running
  if running then
    let (line, _) ← perform .getline
    match line with
    | some line => let _ ← executeCommandLine profile line
    | none => pure ()
    return true
  else return false

/-- **`main`** up to its loop. -/
def mainStart (startUp : StartUp) : ThreadProgram Bool := do
  logLines (startUp.logs.map fun entry => (entry.level, entry.scope))
  let _ ← logLine .info (str "SYSTEM")
  let _ ← perform .applyInitialState
  let _ ← logLine .info (str "SYSTEM")
  let _ ← logLine .info (str "SYSTEM")
  printMappings startUp.profile
  return true

/-- One turn of its loop: it sleeps as long as the gateway runs. -/
def mainTurn : ThreadProgram Bool := do
  let (running, _) ← perform .running
  return running

/-! ## The executor -/

/-- The next task: a command is one of the handler's ten functions. -/
def executor (llround : Llround) (handler : ModbusCommandHandler) : ThreadProgram Bool := do
  let (task, _) ← perform .nextTask
  match task with
  | .select command index =>
    let _ ← session (handler.select command index)
  | .operate command index =>
    let _ ← session (handler.operate llround command index)
  | .other => pure ()
  return true

end ThreadProgram

/-! ## All of them -/

/-- The threads of a gateway with `points` read points. -/
inductive GatewayThread (points : Nat) where
  | poll (point_index : Fin points)
  | http
  | console
  | main
  | executor
deriving DecidableEq

open ThreadProgram in
/-- What each thread runs. -/
def gatewayScript (llround : Llround) (startUp : StartUp) :
    GatewayThread startUp.profile.read_points.length → Script ThreadReply
  | .poll i => ⟨pure true, pollPoint i (startUp.profile.read_points.get i)⟩
  | .http => ⟨httpServerStart, httpServerTurn⟩
  | .console => ⟨consoleStart, consoleTurn startUp.profile⟩
  | .main => ⟨mainStart startUp, mainTurn⟩
  | .executor => ⟨pure true, executor llround (createCommandHandler startUp.profile)⟩

section
variable (llround : Llround) (startUp : StartUp)

abbrev GatewayEvent := ThreadEvent (GatewayThread startUp.profile.read_points.length) ThreadReply

abbrev GatewayState := Threads (GatewayThread startUp.profile.read_points.length) Mutex ThreadReply

/-- A run of the gateway: its events so far and where they lead. -/
abbrev GatewayRun (trace : List (GatewayEvent startUp)) (s : GatewayState startUp) : Prop :=
  Threads.Run ThreadCall.lockUse (gatewayScript llround startUp) trace s

end

section
variable {llround : Llround} {startUp : StartUp} {trace : List (GatewayEvent startUp)} {s : GatewayState startUp}
  (t : GatewayThread startUp.profile.read_points.length)

theorem GatewayRun.call (h : GatewayRun llround startUp trace s) (c : ThreadCall) (r : ThreadReply c)
    {next : ThreadReply c → ThreadProgram Bool} (hrest : s.rest t = .call c next)
    (hfree : ∀ m, c.lockUse = .acquire m → s.owner m = none) :
    GatewayRun llround startUp (trace ++ [(t, some ⟨c, r⟩)])
      ⟨Function.update s.rest t (next r), Threads.owners t s.owner c.lockUse⟩ := h.step (.call r hrest hfree)

theorem GatewayRun.again (h : GatewayRun llround startUp trace s) (hrest : s.rest t = .pure true) :
    GatewayRun llround startUp (trace ++ [(t, none)])
      ⟨Function.update s.rest t (gatewayScript llround startUp t).turn, s.owner⟩ := h.step (.again hrest)

end

/-- The two mutexes are taken for the requests that are answered with the page. -/
theorem page_iff {file_path : Bytes} {fate : WriteFate} {received : Bytes} {file : PointsFile} :
    (∃ notice rows, (handleHttpClient file_path fate received file).1 = .page notice rows) ↔
      received ≠ [] ∧ ThreadProgram.isPagePath (requestPath received) := by
  unfold handleHttpClient ThreadProgram.isPagePath
  generalize requestPath received = path
  by_cases hempty : received = []
  · simp [hempty]
  · have hreceived : ¬ received.isEmpty = true := by simpa using hempty
    rw [if_neg hreceived]
    by_cases hdelete : (str "/deletepoint").isPrefixOf path
    · simp [hdelete]
    rw [if_neg hdelete]
    by_cases hclear : (str "/clearpoints").isPrefixOf path
    · simp [hclear]
    rw [if_neg hclear]
    by_cases hadd : (str "/addpoint").isPrefixOf path
    · simp [hadd]
    rw [if_neg hadd]
    by_cases hpage : path = str "/" ∨ (str "/index").isPrefixOf path ∨ (str "/?").isPrefixOf path
    · rw [if_pos hpage]
      exact ⟨fun _ => ⟨hempty, hdelete, hclear, hadd, hpage⟩, fun _ => ⟨_, _, rfl⟩⟩
    · rw [if_neg hpage]
      constructor
      · rintro ⟨notice, rows, h⟩
        cases h
      · intro h
        exact absurd h.2.2.2.2 hpage

end Gateway
