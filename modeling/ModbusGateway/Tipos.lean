import ModbusGateway.Lib.Binary
import ModbusGateway.Lib.Numeral

/-!
# Data of the gateway (`include/Tipos.h`)

Strings are byte lists: a request or a CSV line may hold any byte. The C++ integer types are Lean's
fixed-width ones (`int` is `Int32`, `uint16_t` is `UInt16`), a `double` is the value it denotes.

| here | there |
| --- | --- |
| `ReadPointConfig`    | one line of the points file: a Modbus point and its DNP3 index (Tipos.h:107) |
| `CommandPointConfig` | where a DNP3 command at an index is written (Tipos.h:120) |
| `ReadPointState`     | what the poller of a point keeps (Tipos.h:132) |
| `ProfileConfig`      | points and command tables built at start-up (Tipos.h:142) |
-/

namespace Gateway

abbrev Bytes := List UInt8

/-- The bytes of a string literal (UTF-8). -/
def str (s : String) : Bytes := s.toUTF8.data.toList

/-- `string(p)` on a C string: up to the first NUL. -/
def cString (s : Bytes) : Bytes := s.takeWhile (· != 0)

/-- `"..." + std::to_string(n)` of an `int`. -/
def toText (n : Int32) : Bytes := Numeral.decimalInt n.toInt

inductive AppLogLevel where
  | info
  | warn
  | error
deriving DecidableEq, Repr

/-- What `LogLine` is called with; the time it adds is not kept. -/
structure LogEntry where
  level : AppLogLevel
  scope : Bytes
  text : Bytes
deriving DecidableEq

inductive ReadValueType where
  | coilStatusBool
  | inputStatusBool
  | holdingInt16
  | inputInt16
  | holdingUInt16
  | inputUInt16
  | holdingInt32
  | inputInt32
  | holdingUInt32
  | inputUInt32
  | holdingFloat32
  | inputFloat32
deriving DecidableEq, Repr

inductive WriteTargetType where
  | holdingRegister
  | coil
deriving DecidableEq, Repr

structure ReadPointConfig where
  ip : Bytes
  port : Int32
  slave_id : Int32
  type : ReadValueType
  address : Int32
  count : Int32
  dnp3_analog_index : UInt16
  dnp3_status_index : UInt16
  description : Bytes
deriving DecidableEq

structure CommandPointConfig where
  dnp3_index : UInt16
  ip : Bytes
  port : Int32
  slave_id : Int32
  target : WriteTargetType
  modbus_address : Int32
  value_type : ReadValueType
  description : Bytes
deriving DecidableEq

/-- `last_change_time` is the reading of the system clock, `0` the epoch. -/
structure ReadPointState where
  analog_value : BinaryFloat.Value := .finite 0
  connection_status : Bool := false
  connection_changed : Bool := true
  failure_count : Int32 := 0
  last_change_time : Nat := 0
deriving DecidableEq

/-- `ReadPointState::max_failures_before_zero` -/
def max_failures_before_zero : Int32 := 5

/-- `mode` has one value only and is left out. -/
structure ProfileConfig where
  name : Bytes
  read_points : List ReadPointConfig := []
  analog_commands : List CommandPointConfig := []
  binary_commands : List CommandPointConfig := []

end Gateway
