import ModbusGateway.Dnp3
import ModbusGateway.Modbus

/-!
# DNP3 commands (`Dnp3.cpp:194-422`)

`ModbusCommandHandler` looks a command up in one of its two tables by the index and writes to the point it
finds. The `double` of an analog command is the value it denotes.

`commands_coherent`: with the tables built from the points, a command reaches exactly the point that is
read under its index, and what a poll reads there afterwards, and publishes under that index, is the
commanded value.
-/

namespace Gateway

open BinaryFloat (Value)
open Opendnp3

inductive OperationType where
  | nul
  | pulseOn
  | pulseOff
  | latchOn
  | latchOff
  | undefined
deriving DecidableEq, Repr

/-- A command as the outstation hands it over; a `float` or a `double` may be any value here. -/
inductive Command where
  | crob (opType : OperationType)
  | analogInt16 (value : Int16)
  | analogInt32 (value : Int32)
  | analogFloat32 (value : Value)
  | analogDouble64 (value : Value)

/-- `static_cast<double>(command.value)` of an analog command. -/
def Command.analogValue : Command → Option Value
  | .crob _ => none
  | .analogInt16 value => some (.finite (value.toInt : ℚ))
  | .analogInt32 value => some (.finite (value.toInt : ℚ))
  | .analogFloat32 value => some value
  | .analogDouble64 value => some value

/-- **`FindCommandConfig`** (`Modbus.cpp:4`): the first match. -/
def findCommandConfig (configs : List CommandPointConfig) (dnp3_index : UInt16) (expected_target : WriteTargetType) :
    Option CommandPointConfig :=
  configs.find? fun cfg => cfg.dnp3_index = dnp3_index ∧ cfg.target = expected_target

structure ModbusCommandHandler where
  analog_cmds : List CommandPointConfig
  binary_cmds : List CommandPointConfig

/-- What `main` makes the handler of. -/
def createCommandHandler (profile : ProfileConfig) : ModbusCommandHandler :=
  ⟨profile.analog_commands, profile.binary_commands⟩

namespace ModbusCommandHandler

/-- The scope `Select` logs under. -/
def selectScope : Command → Bytes
  | .crob _ => str "DNP3-CMD-SELECT-CROB"
  | .analogInt16 _ => str "DNP3-CMD-SELECT-AO16"
  | .analogInt32 _ => str "DNP3-CMD-SELECT-AO32"
  | .analogFloat32 _ => str "DNP3-CMD-SELECT-AO32F"
  | .analogDouble64 _ => str "DNP3-CMD-SELECT-AO64F"

def find (handler : ModbusCommandHandler) (command : Command) (index : UInt16) : Option CommandPointConfig :=
  match command with
  | .crob _ => findCommandConfig handler.binary_cmds index .coil
  | _ => findCommandConfig handler.analog_cmds index .holdingRegister

def lookupLevel (cfg : Option CommandPointConfig) : AppLogLevel := if cfg.isSome then .info else .warn

/-- The five overloads of **`Select`**. -/
def select (handler : ModbusCommandHandler) (command : Command) (index : UInt16) : Modbus CommandStatus := do
  let cfg := handler.find command index
  let _ ← perform (.logLine (lookupLevel cfg) (selectScope command))
  return if cfg.isSome then .success else .notSupported

/-- The value of the coil; an unknown type is taken as ON. -/
def coilValue : OperationType → Bool
  | .latchOn | .pulseOn => true
  | .latchOff | .pulseOff => false
  | _ => true

/-- **`Operate`** of a CROB. -/
def operateCrob (handler : ModbusCommandHandler) (opType : OperationType) (index : UInt16) : Modbus CommandStatus := do
  let cfg := findCommandConfig handler.binary_cmds index .coil
  let _ ← perform (.logLine (lookupLevel cfg) (str "DNP3-CMD-OPERATE-CROB"))
  match cfg with
  | none => return .notSupported
  | some cfg =>
    let _ ← perform (.logLine .info (str "DNP3-CMD-CROB-WRITE"))
    let status ← writeCoil cfg (coilValue opType)
    let _ ← perform (.logLine (if status = .success then .info else .error) (str "DNP3-CMD-CROB-RESULT"))
    return status

/-- **`OperateAnalog`** -/
def operateAnalog (llround : Llround) (handler : ModbusCommandHandler) (value : Value) (index : UInt16) :
    Modbus CommandStatus := do
  let cfg := findCommandConfig handler.analog_cmds index .holdingRegister
  let _ ← perform (.logLine (lookupLevel cfg) (str "DNP3-CMD-OPERATE-AO"))
  match cfg with
  | none => return .notSupported
  | some cfg => writeHoldingRegister llround cfg value

/-- The five overloads of **`Operate`**. -/
def operate (llround : Llround) (handler : ModbusCommandHandler) (command : Command) (index : UInt16) :
    Modbus CommandStatus :=
  match command with
  | .crob opType => handler.operateCrob opType index
  | .analogInt16 value => handler.operateAnalog llround (.finite (value.toInt : ℚ)) index
  | .analogInt32 value => handler.operateAnalog llround (.finite (value.toInt : ℚ)) index
  | .analogFloat32 value => handler.operateAnalog llround value index
  | .analogDouble64 value => handler.operateAnalog llround value index

end ModbusCommandHandler

/-! ## The lookup in the built tables -/

section
variable {points : List ReadPointConfig} {kind : ReadValueType → Bool} {make : ReadPointConfig → CommandPointConfig}
  {target : WriteTargetType}

/-- A point that alone has its DNP3 kind and index is the one found under the index. -/
theorem findCommandConfig_some (hmake : ∀ p, (make p).dnp3_index = p.dnp3_analog_index ∧ (make p).target = target)
    {isBinary : Bool} (hkind : ∀ type, kind type = true → publishesAsDnp3Binary type = isBinary)
    (hkeys : (points.map dnpKey).Nodup) {p : ReadPointConfig} (hp : p ∈ points) (hk : kind p.type = true) :
    findCommandConfig ((points.filter (kind ·.type)).map make) p.dnp3_analog_index target = some (make p) := by
  have hmem : make p ∈ (points.filter (kind ·.type)).map make :=
    List.mem_map_of_mem (List.mem_filter.2 ⟨hp, hk⟩)
  have hsome : (findCommandConfig ((points.filter (kind ·.type)).map make) p.dnp3_analog_index target).isSome := by
    refine List.find?_isSome.2 ⟨make p, hmem, ?_⟩
    simp [hmake p]
  obtain ⟨cfg, hcfg⟩ := Option.isSome_iff_exists.1 hsome
  obtain ⟨q, hq, rfl⟩ := List.mem_map.1 (List.mem_of_find?_eq_some hcfg)
  obtain ⟨hq, hqk⟩ := List.mem_filter.1 hq
  have hindex : q.dnp3_analog_index = p.dnp3_analog_index := by
    have h := List.find?_some hcfg
    simpa [(hmake q).1, (hmake q).2] using h
  have hqp : q = p := List.inj_on_of_nodup_map hkeys hq hp (by simp [dnpKey, hkind _ hqk, hkind _ hk, hindex])
  rw [hcfg, hqp]

/-- No point of the kind has the index: nothing is found. -/
theorem findCommandConfig_none (hmake : ∀ p, (make p).dnp3_index = p.dnp3_analog_index ∧ (make p).target = target)
    {index : UInt16} (h : ∀ p ∈ points, p.dnp3_analog_index = index → kind p.type = false) :
    findCommandConfig ((points.filter (kind ·.type)).map make) index target = none := by
  refine List.find?_eq_none.2 ?_
  rintro cfg hcfg
  obtain ⟨q, hq, rfl⟩ := List.mem_map.1 hcfg
  obtain ⟨hq, hqk⟩ := List.mem_filter.1 hq
  have hindex : q.dnp3_analog_index ≠ index := fun hi => by simp [h q hq hi] at hqk
  simp [(hmake q).1, hindex]

end

/-- The handler `main` makes for a profile with tables built from its points. -/
def handlerOf (profile : ProfileConfig) : ModbusCommandHandler :=
  createCommandHandler (buildAutomaticCommandMappingsFromReadPoints profile)

section
variable {profile : ProfileConfig} {index : UInt16}

theorem handlerOf_analog (profile : ProfileConfig) : (handlerOf profile).analog_cmds =
    (profile.read_points.filter (isHoldingRegisterType ·.type)).map analogCommandFor := by
  rw [handlerOf, build_eq]
  rfl

theorem handlerOf_binary (profile : ProfileConfig) : (handlerOf profile).binary_cmds =
    (profile.read_points.filter (isCoilStatusType ·.type)).map binaryCommandFor := by
  rw [handlerOf, build_eq]
  rfl

theorem analog_of_holding (type : ReadValueType) (h : isHoldingRegisterType type = true) :
    publishesAsDnp3Binary type = false := by
  cases type <;> first | rfl | cases h

theorem binary_of_coil (type : ReadValueType) (h : isCoilStatusType type = true) :
    publishesAsDnp3Binary type = true := by
  cases type <;> first | rfl | cases h

theorem holding_of_integerRange {type : ReadValueType} {range : Int × Int} (h : integerRange type = some range) :
    isHoldingRegisterType type = true := by
  cases type <;> first | rfl | cases h

/-! ## One operation -/

namespace ModbusCommandHandler

variable {llround : Llround} {handler : ModbusCommandHandler}

theorem operate_analog {command : Command} {value : Value} (h : command.analogValue = some value) :
    handler.operate llround command index = handler.operateAnalog llround value index := by
  cases command with
  | crob opType => cases h
  | _ v =>
    obtain rfl : _ = value := by simpa [Command.analogValue] using h
    rfl

theorem operateAnalog_none (h : findCommandConfig handler.analog_cmds index .holdingRegister = none) (value : Value) :
    (handler.operateAnalog llround value index).Ensures fun trace status => status = .notSupported ∧ Silent trace := by
  unfold operateAnalog
  rw [h]
  exact fun r => ⟨rfl, silent_logLine _ _ r silent_nil⟩

theorem operateAnalog_some {cfg : CommandPointConfig} {value : Value} {Q : List SessionEvent → CommandStatus → Prop}
    (h : findCommandConfig handler.analog_cmds index .holdingRegister = some cfg)
    (hlog : ∀ trace status, Q trace status → ∀ r, Q (⟨.logLine .info (str "DNP3-CMD-OPERATE-AO"), r⟩ :: trace) status)
    (hwrite : (writeHoldingRegister llround cfg value).Ensures Q) :
    (handler.operateAnalog llround value index).Ensures Q := by
  unfold operateAnalog
  rw [h]
  intro r
  exact hwrite.mono fun trace status hQ => hlog trace status hQ r

theorem operateCrob_none (h : findCommandConfig handler.binary_cmds index .coil = none) (opType : OperationType) :
    (handler.operateCrob opType index).Ensures fun trace status => status = .notSupported ∧ Silent trace := by
  unfold operateCrob
  rw [h]
  exact fun r => ⟨rfl, silent_logLine _ _ r silent_nil⟩

theorem operateCrob_some {cfg : CommandPointConfig} (h : findCommandConfig handler.binary_cmds index .coil = some cfg)
    (opType : OperationType) :
    (handler.operateCrob opType index).Ensures (WritesOnce (cfg.request (.writeBit (coilValue opType)))) := by
  simp only [operateCrob, h, perform, Program.ensures_bind, Program.ensures_perform]
  intro r1 r2
  refine (writeCoil_sends cfg (coilValue opType)).mono ?_
  rintro trace status hwrites r3
  have htrace := (hwrites.append_logLine r3).logLine r2
  simpa using htrace.logLine r1

end ModbusCommandHandler

end

/-! ## Commands against measurements -/

/-- An environment for libmodbus, the log and the mutex. -/
abbrev Env := List SessionEvent → (c : Call) → Reply c

/-- The trace and the status of a command. -/
def execution (llround : Llround) (profile : ProfileConfig) (index : UInt16) (command : Command) (env : Env) :
    List SessionEvent × CommandStatus :=
  ((handlerOf profile).operate llround command index).run env []

/-- How a point is measured while its device holds `tab`. -/
structure MeasuredAs (p : ReadPointConfig) (tab : ReadBuffer) (q : ℚ) : Prop where
  /-- A poll asks the same device and address; -/
  asked : ∀ (env : Env) past, SendsOne (p.request (readBody p.type)) ((readModbusPoint p).run env past).1
  /-- not refused and answered with `tab` it reads `q`, -/
  read : ∀ (env : Env) past, refused ((readModbusPoint p).run env past).1 = false →
    (∀ e ∈ ((readModbusPoint p).run env past).1, AnswersWith (readCount p.type) tab e) →
    ((readModbusPoint p).run env past).2 = some (.finite q)
  /-- and `q` is published at the point's index. -/
  published : ∀ state now, updateDNP3Values p (pollState (some (.finite q)) now state) = shown p (.finite q)

theorem measuredAs_of_decode {p : ReadPointConfig} {tab : ReadBuffer} {q : ℚ}
    (h : decodePoint p.type tab = .finite q) : MeasuredAs p tab q where
  asked env past := ((readModbusPoint_spec p tab).run env past).1
  read env past hrefused := by
    obtain ⟨hsends, hread⟩ := (readModbusPoint_spec p tab).run env past
    rw [← h]
    refine hread ?_
    rw [hsends.connected_eq, hrefused]
    rfl
  published state now := valueUpdate_eq p (.finite q)

/-- An analog command with the value `q` at an index. -/
structure AnalogCoherent (llround : Llround) (profile : ProfileConfig) (index : UInt16) (command : Command) (q : ℚ) :
    Prop where
  /-- With no holding register at the index nothing is sent; -/
  unmapped : (∀ p ∈ profile.read_points, p.dnp3_analog_index = index → isHoldingRegisterType p.type = false) →
    ∀ env, (execution llround profile index command env).2 = .notSupported ∧
      Silent (execution llround profile index command env).1
  /-- a value out of the range of an integer type is refused and not sent; -/
  refused : ∀ p ∈ profile.read_points, p.dnp3_analog_index = index → ∀ lo hi, integerRange p.type = some (lo, hi) →
    Rounding.roundHalfAway q < lo ∨ hi < Rounding.roundHalfAway q →
    ∀ env, (execution llround profile index command env).2 = .outOfRange ∧
      Silent (execution llround profile index command env).1
  /-- any other is written once if the device lets it, with success if that is acknowledged, and is what the point
  is measured as with the written registers. -/
  written : ∀ p ∈ profile.read_points, p.dnp3_analog_index = index → ∀ lo hi, integerRange p.type = some (lo, hi) →
    lo ≤ Rounding.roundHalfAway q → Rounding.roundHalfAway q ≤ hi →
    ∃ regs : List UInt16, (regs.length : Int) = (registerCountForType p.type).toInt ∧
      (∀ env, WritesOnce (p.request (registersBody regs)) (execution llround profile index command env).1
        (execution llround profile index command env).2) ∧
      MeasuredAs p (bufferOf regs) (Rounding.roundHalfAway q)

/-- A CROB at an index. -/
structure CrobCoherent (llround : Llround) (profile : ProfileConfig) (index : UInt16) (opType : OperationType) :
    Prop where
  /-- With no coil at the index nothing is sent; -/
  unmapped : (∀ p ∈ profile.read_points, p.dnp3_analog_index = index → isCoilStatusType p.type = false) →
    ∀ env, (execution llround profile index (.crob opType) env).2 = .notSupported ∧
      Silent (execution llround profile index (.crob opType) env).1
  /-- to a coil the value is written in the same way, and is what the point is measured as with the written bit. -/
  written : ∀ p ∈ profile.read_points, p.dnp3_analog_index = index → isCoilStatusType p.type = true →
    (∀ env, WritesOnce (p.request (.writeBit (ModbusCommandHandler.coilValue opType)))
      (execution llround profile index (.crob opType) env).1
      (execution llround profile index (.crob opType) env).2) ∧
    MeasuredAs p { bit := if ModbusCommandHandler.coilValue opType then 1 else 0 }
      (if ModbusCommandHandler.coilValue opType then 1 else 0)

section
variable {llround : Llround} {profile : ProfileConfig} {index : UInt16}

theorem analogCommandFor_key (p : ReadPointConfig) :
    (analogCommandFor p).dnp3_index = p.dnp3_analog_index ∧ (analogCommandFor p).target = .holdingRegister :=
  ⟨rfl, rfl⟩

theorem binaryCommandFor_key (p : ReadPointConfig) :
    (binaryCommandFor p).dnp3_index = p.dnp3_analog_index ∧ (binaryCommandFor p).target = .coil := ⟨rfl, rfl⟩

/-- The analog table has the command of the holding point at an index. -/
theorem find_holding (hkeys : (profile.read_points.map dnpKey).Nodup) {p : ReadPointConfig}
    (hp : p ∈ profile.read_points) (hk : isHoldingRegisterType p.type = true) :
    findCommandConfig (handlerOf profile).analog_cmds p.dnp3_analog_index .holdingRegister =
      some (analogCommandFor p) := by
  rw [handlerOf_analog]
  exact findCommandConfig_some analogCommandFor_key analog_of_holding hkeys hp hk

theorem find_coil (hkeys : (profile.read_points.map dnpKey).Nodup) {p : ReadPointConfig}
    (hp : p ∈ profile.read_points) (hk : isCoilStatusType p.type = true) :
    findCommandConfig (handlerOf profile).binary_cmds p.dnp3_analog_index .coil = some (binaryCommandFor p) := by
  rw [handlerOf_binary]
  exact findCommandConfig_some binaryCommandFor_key binary_of_coil hkeys hp hk

theorem analogCoherent (hkeys : (profile.read_points.map dnpKey).Nodup) {command : Command} {q : ℚ}
    (hq : command.analogValue = some (.finite q)) : AnalogCoherent llround profile index command q where
  unmapped h env := by
    have hnone : findCommandConfig (handlerOf profile).analog_cmds index .holdingRegister = none := by
      rw [handlerOf_analog]
      exact findCommandConfig_none analogCommandFor_key h
    rw [execution, ModbusCommandHandler.operate_analog hq]
    exact (ModbusCommandHandler.operateAnalog_none hnone _).run env []
  refused := by
    rintro p hp rfl lo hi hrange hout env
    have hfind := find_holding hkeys hp (holding_of_integerRange hrange)
    have hcommand : integerRange (analogCommandFor p).value_type = some (lo, hi) := hrange
    obtain ⟨text, herror⟩ := (payload_integer llround hcommand q).1 hout
    rw [execution, ModbusCommandHandler.operate_analog hq]
    refine (ModbusCommandHandler.operateAnalog_some hfind ?_ (writeHoldingRegister_error herror)).run env []
    rintro trace status ⟨hstatus, hsilent⟩ r
    exact ⟨hstatus, silent_logLine _ _ r hsilent⟩
  written := by
    rintro p hp rfl lo hi hrange hlo hhi
    have hfind := find_holding hkeys hp (holding_of_integerRange hrange)
    have hcommand : integerRange (analogCommandFor p).value_type = some (lo, hi) := hrange
    obtain ⟨regs, hok, hcount, hdecode⟩ := (payload_integer llround hcommand q).2 hlo hhi
    refine ⟨regs, hcount, ?_, measuredAs_of_decode hdecode⟩
    intro env
    rw [execution, ModbusCommandHandler.operate_analog hq]
    refine (ModbusCommandHandler.operateAnalog_some hfind ?_ (writeHoldingRegister_ok hok)).run env []
    intro trace status hwrites r
    exact hwrites.logLine r

theorem crobCoherent (hkeys : (profile.read_points.map dnpKey).Nodup) (opType : OperationType) :
    CrobCoherent llround profile index opType where
  unmapped h env := by
    have hnone : findCommandConfig (handlerOf profile).binary_cmds index .coil = none := by
      rw [handlerOf_binary]
      exact findCommandConfig_none binaryCommandFor_key h
    exact (ModbusCommandHandler.operateCrob_none hnone opType).run env []
  written := by
    rintro p hp rfl hcoil
    refine ⟨fun env => (ModbusCommandHandler.operateCrob_some (find_coil hkeys hp hcoil) opType).run env [], ?_⟩
    have htype : p.type = .coilStatusBool := by simpa [isCoilStatusType] using hcoil
    refine measuredAs_of_decode ?_
    cases ModbusCommandHandler.coilValue opType <;> simp [htype, decodePoint]

/-- **Command-to-measurement coherence.** -/
theorem commands_coherent (hkeys : (profile.read_points.map dnpKey).Nodup) :
    (∀ command q, command.analogValue = some (.finite q) → AnalogCoherent llround profile index command q) ∧
    ∀ opType, CrobCoherent llround profile index opType :=
  ⟨fun _ _ hq => analogCoherent hkeys hq, crobCoherent hkeys⟩

theorem commands_coherent_shared : AnalogCoherent llroundSaturating profileShared 2 (.analogInt16 7) 7 ∧
    CrobCoherent llroundSaturating profileShared 2 .latchOn := by
  have hkeys : (profileShared.read_points.map dnpKey).Nodup := by decide
  have hvalue : (Command.analogInt16 7).analogValue = some (.finite 7) := by decide +kernel
  obtain ⟨hanalog, hcrob⟩ := @commands_coherent llroundSaturating profileShared 2 hkeys
  exact ⟨hanalog _ _ hvalue, hcrob _⟩

end

end Gateway
