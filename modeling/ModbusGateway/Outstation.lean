import ModbusGateway.Lib.Binary
import Mathlib.Data.List.Induction
import Mathlib.Logic.Function.Basic

/-!
# The outstation's database (opendnp3)

What the gateway uses of the library: the configuration maps, the static database with its event
detection, and the analog conversions. The index maps (`std::map<uint16_t, …>`) are functions
`UInt16 → Option …`. Of the analog variations, those of the three value types the gateway selects are
here.

| here | there |
| --- | --- |
| `downSampling`, `downSamplingFloat` | `DownSampling<double, T>::Apply` (app/DownSampling.h:38) |
| `convertQVRangeCheck`  | `ConvertQVRangeCheck` with `0x20` (app/WriteConversionTemplates.h:83) |
| `Analog.isEvent`       | `measurements::IsEvent` (app/EventTriggers.cpp:28) |
| `StaticDataMap.update` | `StaticDataMap::update` (outstation/StaticDataMap.h:237) |
| `Database.update`      | `Database::Update` (outstation/Database.cpp:452, 462) |
-/

namespace Opendnp3

open BinaryFloat (Value binary32)

/-! ## Configuration (`MeasurementConfig.h`, `DatabaseConfig.h`) -/

inductive PointClass where
  | class0
  | class1
  | class2
  | class3
deriving DecidableEq, Repr

inductive EventClass where
  | ec1
  | ec2
  | ec3
deriving DecidableEq, Repr

/-- `convert_to_event_class` (outstation/StaticDataMap.cpp:25) -/
def convertToEventClass : PointClass → Option EventClass
  | .class1 => some .ec1
  | .class2 => some .ec2
  | .class3 => some .ec3
  | .class0 => none

inductive StaticAnalogVariation where
  | group30Var1
  | group30Var2
  | group30Var5
deriving DecidableEq, Repr

inductive EventAnalogVariation where
  | group32Var1
  | group32Var2
  | group32Var5
deriving DecidableEq, Repr

inductive StaticBinaryVariation where
  | group1Var1
  | group1Var2
deriving DecidableEq, Repr

inductive EventBinaryVariation where
  | group2Var1
  | group2Var2
deriving DecidableEq, Repr

/-- The defaults are `AnalogInfo`'s. -/
structure AnalogConfig where
  svariation : StaticAnalogVariation := .group30Var1
  clazz : PointClass := .class1
  evariation : EventAnalogVariation := .group32Var1
  deadband : ℚ := 0

/-- The defaults are `BinaryInfo`'s. -/
structure BinaryConfig where
  svariation : StaticBinaryVariation := .group1Var2
  clazz : PointClass := .class1
  evariation : EventBinaryVariation := .group2Var1

inductive StaticAnalogOutputStatusVariation where
  | group40Var1
deriving DecidableEq, Repr

inductive EventAnalogOutputStatusVariation where
  | group42Var1
deriving DecidableEq, Repr

structure AOStatusConfig where
  svariation : StaticAnalogOutputStatusVariation := .group40Var1
  clazz : PointClass := .class1
  evariation : EventAnalogOutputStatusVariation := .group42Var1

inductive StaticBinaryOutputStatusVariation where
  | group10Var2
deriving DecidableEq, Repr

inductive EventBinaryOutputStatusVariation where
  | group11Var1
  | group11Var2
deriving DecidableEq, Repr

structure BOStatusConfig where
  svariation : StaticBinaryOutputStatusVariation := .group10Var2
  clazz : PointClass := .class1
  evariation : EventBinaryOutputStatusVariation := .group11Var1

abbrev IndexMap (α : Type) := UInt16 → Option α

structure DatabaseConfig where
  binary_input : IndexMap BinaryConfig := fun _ => none
  analog_input : IndexMap AnalogConfig := fun _ => none
  binary_output_status : IndexMap BOStatusConfig := fun _ => none
  analog_output_status : IndexMap AOStatusConfig := fun _ => none

/-! ## Measurements (`MeasurementTypes.cpp`, `QualityFlags.cpp`) -/

def online : UInt8 := 0x01
def restart : UInt8 := 0x02
def overRange : UInt8 := 0x20
def binaryState : UInt8 := 0x80

/-- `TypedMeasurement<double>`; a time stamp is not used. -/
structure Analog where
  value : Value
  flags : UInt8
deriving DecidableEq

def Analog.empty : Analog := ⟨.finite 0, restart⟩

/-- `Analog(double value)` -/
def Analog.ofValue (value : Value) : Analog := ⟨value, online⟩

structure Binary where
  value : Bool
  flags : UInt8
deriving DecidableEq

def Binary.empty : Binary := ⟨false, restart⟩

/-- `GetBinaryFlags` -/
def getBinaryFlags (flags : UInt8) (value : Bool) : UInt8 :=
  if value then flags ||| binaryState else flags &&& ~~~binaryState

/-- `Binary(bool value, Flags flags)` -/
def Binary.ofValue (value : Bool) (flags : UInt8) : Binary := ⟨value, getBinaryFlags flags value⟩

/-- `fabs(newMeas.value - oldMeas.value) > deadband` with flags first. The difference is taken exactly;
rounding it changes nothing at the deadband `0` the gateway leaves. -/
def Analog.isEvent (old_value new_value : Analog) (config : AnalogConfig) : Bool :=
  if new_value.flags ≠ old_value.flags then true
  else match new_value.value, old_value.value with
    | .finite x, .finite y => decide (config.deadband < |x - y|)
    | .inf s, .inf t => s != t
    | .inf _, .finite _ | .finite _, .inf _ => true
    | .nan, _ | _, .nan => false

def Binary.isEvent (old_value new_value : Binary) (_ : BinaryConfig) : Bool := old_value.flags != new_value.flags

/-! ## The static database (`StaticDataCell.h`, `StaticDataMap.h`) -/

inductive EventMode where
  | detect
  | force
  | suppress
  | eventOnly
deriving DecidableEq, Repr

/-- What a measurement type brings to `StaticDataMap` (`MeasurementTypeSpecs.h`). -/
structure Spec (M C E : Type) where
  empty : M
  isEvent : M → M → C → Bool
  clazz : C → PointClass
  evariation : C → E

def analogSpec : Spec Analog AnalogConfig EventAnalogVariation :=
  ⟨.empty, Analog.isEvent, AnalogConfig.clazz, AnalogConfig.evariation⟩

def binarySpec : Spec Binary BinaryConfig EventBinaryVariation :=
  ⟨.empty, Binary.isEvent, BinaryConfig.clazz, BinaryConfig.evariation⟩

structure StaticDataCell (M C : Type) where
  value : M
  config : C
  lastEvent : M

structure Event (M E : Type) where
  value : M
  index : UInt16
  clazz : EventClass
  variation : E

abbrev StaticDataMap (M C : Type) := IndexMap (StaticDataCell M C)

section
variable {M C E : Type} (S : Spec M C E)

/-- The constructor from the configuration. -/
def StaticDataMap.ofConfig (config : IndexMap C) : StaticDataMap M C :=
  fun index => (config index).map fun c => ⟨S.empty, c, S.empty⟩

/-- **`StaticDataMap::update`**: whether the index exists, the new map, the event that is recorded. -/
def StaticDataMap.update (map : StaticDataMap M C) (new_value : M) (index : UInt16) (mode : EventMode) :
    Bool × StaticDataMap M C × Option (Event M E) :=
  match map index with
  | none => (false, map, none)
  | some cell =>
    let cell := if mode ≠ .eventOnly then { cell with value := new_value } else cell
    if mode = .force ∨ mode = .eventOnly ∨ S.isEvent cell.lastEvent new_value cell.config then
      let event := (convertToEventClass (S.clazz cell.config)).map fun ec =>
        { value := new_value, index, clazz := ec, variation := S.evariation cell.config }
      (true, Function.update map index (some { cell with lastEvent := new_value }),
        if mode ≠ .suppress then event else none)
    else (true, Function.update map index (some cell), none)

end

structure Database where
  binary_input : StaticDataMap Binary BinaryConfig
  analog_input : StaticDataMap Analog AnalogConfig

def Database.ofConfig (config : DatabaseConfig) : Database :=
  ⟨.ofConfig binarySpec config.binary_input, .ofConfig analogSpec config.analog_input⟩

/-- One entry of an `UpdateBuilder`. -/
inductive Update where
  | binary (meas : Binary) (index : UInt16)
  | analog (meas : Analog) (index : UInt16)

/-- The entry an update is for: binary or not, and its index. -/
def Update.key : Update → Bool × UInt16
  | .binary _ index => (true, index)
  | .analog _ index => (false, index)

inductive RecordedEvent where
  | binary (event : Event Binary EventBinaryVariation)
  | analog (event : Event Analog EventAnalogVariation)

/-- **`Database::Update`**, in the mode `UpdateBuilder::Update` defaults to. -/
def Database.update (db : Database) : Update → Database × List RecordedEvent
  | .binary meas index =>
    let (_, binary_input, event) := StaticDataMap.update binarySpec db.binary_input meas index .detect
    ({ db with binary_input }, event.toList.map .binary)
  | .analog meas index =>
    let (_, analog_input, event) := StaticDataMap.update analogSpec db.analog_input meas index .detect
    ({ db with analog_input }, event.toList.map .analog)

/-- `Updates::Apply`: the updates of a builder in order. -/
def Database.execute (db : Database) (updates : List Update) : Database :=
  updates.foldl (fun db u => (db.update u).1) db

/-- The events a list of updates records, each with the database right after its update. -/
def Database.events (db : Database) : List Update → List (RecordedEvent × Database)
  | [] => []
  | u :: us => (db.update u).2.map (fun e => (e, (db.update u).1)) ++ (db.update u).1.events us

/-- What an entry holds, as the update that would set it. -/
def Database.entry (db : Database) : Bool × UInt16 → Option Update
  | (true, index) => (db.binary_input index).map fun cell => .binary cell.value index
  | (false, index) => (db.analog_input index).map fun cell => .analog cell.value index

/-! ## What is written to a master -/

/-- `DownSampling<double, Target>::Apply` for an integer `Target` with bounds `lo` and `hi`. The cast of
NaN, which C++ leaves open, is taken as `0`. -/
def downSampling (lo hi : Int) : Value → Value × Bool
  | .finite src =>
    if (hi : ℚ) < src then (.finite hi, true)
    else if src < (lo : ℚ) then (.finite lo, true)
    else (.finite (Rounding.truncate src), false)
  | .inf negative => (.finite (if negative then lo else hi), true)
  | .nan => (.finite 0, false)

/-- `DownSampling<double, float>::Apply` -/
def downSamplingFloat : Value → Value × Bool
  | .finite src =>
    if binary32.maxValue < src then (.finite binary32.maxValue, true)
    else if src < -binary32.maxValue then (.finite (-binary32.maxValue), true)
    else (binary32.decode (binary32.encode src), false)
  | .inf negative => (.finite (if negative then -binary32.maxValue else binary32.maxValue), true)
  | .nan => (.nan, false)

/-- An object of a response: the value it carries and its flag octet. -/
structure WrittenObject where
  value : Value
  flags : UInt8
deriving DecidableEq

def convertQVRangeCheck (apply : Value → Value × Bool) (src : Analog) : WrittenObject :=
  ⟨(apply src.value).1, (if (apply src.value).2 then overRange else 0) ||| src.flags⟩

def int32Target : Value → Value × Bool := downSampling (-2147483648) 2147483647

def int16Target : Value → Value × Bool := downSampling (-32768) 32767

/-- The serializer of a static variation (`StaticWriters::get`). -/
def StaticAnalogVariation.write : StaticAnalogVariation → Analog → WrittenObject
  | .group30Var1 => convertQVRangeCheck int32Target
  | .group30Var2 => convertQVRangeCheck int16Target
  | .group30Var5 => convertQVRangeCheck downSamplingFloat

/-- The serializer of an event variation (`ASDUEventWriteHandler::Write`). -/
def EventAnalogVariation.write : EventAnalogVariation → Analog → WrittenObject
  | .group32Var1 => convertQVRangeCheck int32Target
  | .group32Var2 => convertQVRangeCheck int16Target
  | .group32Var5 => convertQVRangeCheck downSamplingFloat

/-- The state bit as the master reads it from a flag octet. -/
def stateValue (flags : UInt8) : Value := .finite (if flags &&& binaryState ≠ 0 then 1 else 0)

/-- A binary object with flags (`Group1Var2`; a `Group1Var1` with more to say than ONLINE is promoted to it). -/
def Binary.write (src : Binary) : WrittenObject := ⟨stateValue src.flags, src.flags⟩

/-- The static analog object at an index, in the variation configured for it. -/
def Database.readAnalog (db : Database) (index : UInt16) : Option WrittenObject :=
  (db.analog_input index).map fun cell => cell.config.svariation.write cell.value

/-- The static binary object at an index. -/
def Database.readBinary (db : Database) (index : UInt16) : Option WrittenObject :=
  (db.binary_input index).map fun cell => cell.value.write

/-! ## What an update does to the cells -/

section
variable {M C E : Type} {S : Spec M C E} {map : StaticDataMap M C} {m : M} {index : UInt16}

/-- The cell a detecting update leaves. -/
def StaticDataCell.detect (S : Spec M C E) (cell : StaticDataCell M C) (m : M) : StaticDataCell M C :=
  { cell with value := m, lastEvent := if S.isEvent cell.lastEvent m cell.config then m else cell.lastEvent }

/-- The event it records. -/
def StaticDataCell.event (S : Spec M C E) (cell : StaticDataCell M C) (m : M) (index : UInt16) : Option (Event M E) :=
  if S.isEvent cell.lastEvent m cell.config then
    (convertToEventClass (S.clazz cell.config)).map fun ec => ⟨m, index, ec, S.evariation cell.config⟩
  else none

theorem StaticDataMap.update_some {cell : StaticDataCell M C} (h : map index = some cell) :
    StaticDataMap.update S map m index .detect =
      (true, Function.update map index (some (cell.detect S m)), cell.event S m index) := by
  unfold StaticDataMap.update StaticDataCell.detect StaticDataCell.event
  rw [h]
  by_cases he : S.isEvent cell.lastEvent m cell.config = true <;> simp [he]

theorem StaticDataMap.update_none (h : map index = none) :
    StaticDataMap.update S map m index .detect = (false, map, none) := by
  unfold StaticDataMap.update
  rw [h]

theorem StaticDataMap.update_apply (i : UInt16) : (StaticDataMap.update S map m index .detect).2.1 i =
    if i = index then (map index).map (·.detect S m) else map i := by
  cases h : map index with
  | none =>
    rw [StaticDataMap.update_none h]
    split <;> simp_all
  | some cell =>
    rw [StaticDataMap.update_some h]
    simp [Function.update_apply]

theorem StaticDataMap.update_event : (StaticDataMap.update S map m index .detect).2.2 =
    (map index).bind (·.event S m index) := by
  cases h : map index with
  | none => rw [StaticDataMap.update_none h]; rfl
  | some cell => rw [StaticDataMap.update_some h]; rfl

end

namespace Database

variable {db : Database}

/-- An analog entry changes when an update is for it. -/
theorem analog_update (u : Update) (i : UInt16) : (db.update u).1.analog_input i = match u with
    | .analog m index => if i = index then (db.analog_input i).map (·.detect analogSpec m) else db.analog_input i
    | .binary _ _ => db.analog_input i := by
  cases u with
  | binary m index => rfl
  | analog m index =>
    refine (StaticDataMap.update_apply i).trans ?_
    split <;> simp_all

theorem binary_update (u : Update) (i : UInt16) : (db.update u).1.binary_input i = match u with
    | .binary m index => if i = index then (db.binary_input i).map (·.detect binarySpec m) else db.binary_input i
    | .analog _ _ => db.binary_input i := by
  cases u with
  | analog m index => rfl
  | binary m index =>
    refine (StaticDataMap.update_apply i).trans ?_
    split <;> simp_all

/-- **An update sets its own entry, where there is one, and no other.** -/
theorem entry_update (u : Update) (key : Bool × UInt16) :
    (db.update u).1.entry key = if u.key = key then (db.entry key).map fun _ => u else db.entry key := by
  obtain ⟨isBinary, i⟩ := key
  cases isBinary with
  | true =>
    cases u with
    | analog m index => simp [entry, binary_update, Update.key]
    | binary m index =>
      by_cases hi : i = index
      · subst hi
        simp [entry, binary_update, Update.key, StaticDataCell.detect, Function.comp_def]
      · simp [entry, binary_update, Update.key, hi, Ne.symm hi]
  | false =>
    cases u with
    | binary m index => simp [entry, analog_update, Update.key]
    | analog m index =>
      by_cases hi : i = index
      · subst hi
        simp [entry, analog_update, Update.key, StaticDataCell.detect, Function.comp_def]
      · simp [entry, analog_update, Update.key, hi, Ne.symm hi]

theorem execute_append (us vs : List Update) : db.execute (us ++ vs) = (db.execute us).execute vs :=
  List.foldl_append

/-- **After some updates an entry holds the last one for it.** -/
theorem entry_execute (updates : List Update) (key : Bool × UInt16) : (db.execute updates).entry key =
    (db.entry key).map fun u => (updates.filter fun v => v.key = key).getLast?.getD u := by
  induction updates using List.reverseRecOn with
  | nil => simp [execute]
  | append_singleton us u ih =>
    rw [execute_append, execute, List.foldl_cons, List.foldl_nil, entry_update, ih, List.filter_append]
    by_cases hk : u.key = key
    · simp [hk, Function.comp_def]
    · simp [hk]

/-- Updates for other entries leave an analog entry alone. -/
theorem analog_execute_of_ne {updates : List Update} {i : UInt16} (h : ∀ u ∈ updates, u.key ≠ (false, i)) :
    (db.execute updates).analog_input i = db.analog_input i := by
  induction updates generalizing db with
  | nil => rfl
  | cons u us ih =>
    rw [execute, List.foldl_cons, ← execute, ih fun v hv => h v (List.mem_cons_of_mem u hv), analog_update]
    cases u with
    | binary m index => rfl
    | analog m index =>
      have hi : i ≠ index := by rintro rfl; exact h _ List.mem_cons_self rfl
      simp [hi]

theorem binary_execute_of_ne {updates : List Update} {i : UInt16} (h : ∀ u ∈ updates, u.key ≠ (true, i)) :
    (db.execute updates).binary_input i = db.binary_input i := by
  induction updates generalizing db with
  | nil => rfl
  | cons u us ih =>
    rw [execute, List.foldl_cons, ← execute, ih fun v hv => h v (List.mem_cons_of_mem u hv), binary_update]
    cases u with
    | analog m index => rfl
    | binary m index =>
      have hi : i ≠ index := by rintro rfl; exact h _ List.mem_cons_self rfl
      simp [hi]

/-- The configuration of a cell never changes. -/
theorem analog_execute_config (updates : List Update) (i : UInt16) :
    ((db.execute updates).analog_input i).map (·.config) = (db.analog_input i).map (·.config) := by
  induction updates generalizing db with
  | nil => rfl
  | cons u us ih =>
    rw [execute, List.foldl_cons, ← execute, ih, analog_update]
    cases u with
    | binary m index => rfl
    | analog m index =>
      simp only
      split <;> simp [StaticDataCell.detect, Function.comp_def]

theorem binary_execute_isSome (updates : List Update) (i : UInt16) :
    ((db.execute updates).binary_input i).isSome = (db.binary_input i).isSome := by
  induction updates generalizing db with
  | nil => rfl
  | cons u us ih =>
    rw [execute, List.foldl_cons, ← execute, ih, binary_update]
    cases u with
    | analog m index => rfl
    | binary m index =>
      simp only
      split <;> simp

end Database

end Opendnp3
