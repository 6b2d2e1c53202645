import ModbusGateway.Lib.LinkedList
import ModbusGateway.Outstation

/-!
# The event buffer (opendnp3)

A master list keeps the events of all types in the order of their arrival, a list for each type their values; the
nodes of both point at each other. Lists are of fixed capacity; a type whose list is full gives up its oldest event.

| here | there (outstation/event/) |
| --- | --- |
| `ClazzCount`, `EventClassCounters` | ClazzCount.h |
| `EventRecord`, `TypedEventRecord`, `EventLists` | EventRecord.h, TypedEventRecord.h, EventLists.cpp |
| `EventLists.update` | `EventUpdate::Update` (EventUpdate.h:39) |
| `EventLists.selectByTypeGeneric`, `selectByClass` | EventSelection.h:54, EventSelection.cpp:25 |
| `WriteState.writeOne`, `collect`, `writeSome`, `write` | EventCollection.h:52, EventTypeImpl.h:50, EventWriting.cpp |
| `EventLists.clearWritten`, `unselect` | EventStorage.cpp:175, 191 |
| `EventBuffer` | EventBuffer.cpp |

A function returns `none` where the code would follow a null pointer. A variation is its number in the group of the
type; values are of any one type. Numbers of events are below the sum of eight `uint16_t`, so only the counters,
which are decremented, are machine integers.
-/

namespace Opendnp3

open LinkedList (Arena)

inductive EventType where
  | binary
  | doubleBitBinary
  | analog
  | counter
  | frozenCounter
  | binaryOutputStatus
  | analogOutputStatus
  | octetString
deriving DecidableEq, Repr

inductive EventState where
  | unselected
  | selected
  | written
deriving DecidableEq, Repr

/-! ## Counters -/

structure ClazzCount where
  num_class_1 : UInt32 := 0
  num_class_2 : UInt32 := 0
  num_class_3 : UInt32 := 0
deriving DecidableEq

namespace ClazzCount

def get (c : ClazzCount) : EventClass → UInt32
  | .ec1 => c.num_class_1
  | .ec2 => c.num_class_2
  | .ec3 => c.num_class_3

def increment (c : ClazzCount) : EventClass → ClazzCount
  | .ec1 => { c with num_class_1 := c.num_class_1 + 1 }
  | .ec2 => { c with num_class_2 := c.num_class_2 + 1 }
  | .ec3 => { c with num_class_3 := c.num_class_3 + 1 }

def decrement (c : ClazzCount) : EventClass → ClazzCount
  | .ec1 => { c with num_class_1 := c.num_class_1 - 1 }
  | .ec2 => { c with num_class_2 := c.num_class_2 - 1 }
  | .ec3 => { c with num_class_3 := c.num_class_3 - 1 }

@[simp] theorem get_increment (c : ClazzCount) (k l : EventClass) :
    (c.increment k).get l = c.get l + if k = l then 1 else 0 := by
  cases k <;> cases l <;> simp [increment, get]

@[simp] theorem get_decrement (c : ClazzCount) (k l : EventClass) :
    (c.decrement k).get l = c.get l - if k = l then 1 else 0 := by
  cases k <;> cases l <;> simp [decrement, get]

end ClazzCount

structure EventClassCounters where
  total : ClazzCount := {}
  written : ClazzCount := {}
  selected : UInt32 := 0
deriving DecidableEq

namespace EventClassCounters

def onAdd (c : EventClassCounters) (clazz : EventClass) : EventClassCounters :=
  { c with total := c.total.increment clazz }

def onSelect (c : EventClassCounters) : EventClassCounters := { c with selected := c.selected + 1 }

def onWrite (c : EventClassCounters) (clazz : EventClass) : EventClassCounters :=
  { c with selected := c.selected - 1, written := c.written.increment clazz }

def resetOnFail (c : EventClassCounters) : EventClassCounters := { c with selected := 0, written := {} }

def onRemove (c : EventClassCounters) (clazz : EventClass) (state : EventState) : EventClassCounters :=
  let c := match state with
    | .selected => { c with selected := c.selected - 1 }
    | .written => { c with written := c.written.decrement clazz }
    | .unselected => c
  { c with total := c.total.decrement clazz }

end EventClassCounters

/-! ## Lists -/

/-- `storage`: the fields `type` and `storage_node`, set as a unit. -/
structure EventRecord where
  index : UInt16
  clazz : EventClass
  state : EventState := .unselected
  storage : Option (EventType × Nat) := none

structure TypedEventRecord (V : Type) where
  value : V
  defaultVariation : Nat
  selectedVariation : Nat
  record : Option Nat

structure EventBufferConfig where
  maxBinaryEvents : UInt16 := 0
  maxDoubleBinaryEvents : UInt16 := 0
  maxAnalogEvents : UInt16 := 0
  maxCounterEvents : UInt16 := 0
  maxFrozenCounterEvents : UInt16 := 0
  maxBinaryOutputStatusEvents : UInt16 := 0
  maxAnalogOutputStatusEvents : UInt16 := 0
  maxOctetStringEvents : UInt16 := 0
deriving DecidableEq, Repr

namespace EventBufferConfig

def allTypes (sizes : UInt16) : EventBufferConfig := ⟨sizes, sizes, sizes, sizes, sizes, sizes, sizes, sizes⟩

def totalEvents (c : EventBufferConfig) : Nat :=
  c.maxBinaryEvents.toNat + c.maxDoubleBinaryEvents.toNat + c.maxAnalogEvents.toNat + c.maxCounterEvents.toNat +
    c.maxFrozenCounterEvents.toNat + c.maxBinaryOutputStatusEvents.toNat + c.maxAnalogOutputStatusEvents.toNat +
    c.maxOctetStringEvents.toNat

/-- The bound of the list of a type. -/
def max (c : EventBufferConfig) : EventType → UInt16
  | .binary => c.maxBinaryEvents
  | .doubleBitBinary => c.maxDoubleBinaryEvents
  | .analog => c.maxAnalogEvents
  | .counter => c.maxCounterEvents
  | .frozenCounter => c.maxFrozenCounterEvents
  | .binaryOutputStatus => c.maxBinaryOutputStatusEvents
  | .analogOutputStatus => c.maxAnalogOutputStatusEvents
  | .octetString => c.maxOctetStringEvents

end EventBufferConfig

/-- `List::IsFullAndCapacityNotZero` -/
def isFullAndCapacityNotZero {α : Type} (d : Arena α) : Bool := d.free.isNone && decide (0 < d.capacity)

structure EventLists (V : Type) where
  events : Arena EventRecord
  list : EventType → Arena (TypedEventRecord V)
  counters : EventClassCounters := {}

namespace EventLists

variable {V : Type}

def ofConfig [Inhabited V] (config : EventBufferConfig) : EventLists V where
  events := .allFree { index := 0, clazz := .ec1 } config.totalEvents
  list t := .allFree ⟨default, 0, 0, none⟩ (config.max t).toNat

def isAnyTypeFull (lists : EventLists V) : Bool :=
  isFullAndCapacityNotZero (lists.list .binary) || isFullAndCapacityNotZero (lists.list .doubleBitBinary) ||
    isFullAndCapacityNotZero (lists.list .counter) || isFullAndCapacityNotZero (lists.list .frozenCounter) ||
    isFullAndCapacityNotZero (lists.list .analog) || isFullAndCapacityNotZero (lists.list .binaryOutputStatus) ||
    isFullAndCapacityNotZero (lists.list .analogOutputStatus) || isFullAndCapacityNotZero (lists.list .octetString)

def setState (lists : EventLists V) (i : Nat) (state : EventState) : EventLists V :=
  { lists with events := lists.events.modify i fun record => { record with state } }

def modifyTyped (lists : EventLists V) (t : EventType) (f : Arena (TypedEventRecord V) → Arena (TypedEventRecord V)) :
    EventLists V :=
  { lists with list := Function.update lists.list t (f (lists.list t)) }

/-! ## Update -/

/-- The oldest event of a type goes. -/
def makeSpace (lists : EventLists V) (t : EventType) : Option (EventLists V) := do
  let first ← (lists.list t).head
  let record_node ← ((lists.list t).node first).value.record
  let record := (lists.events.node record_node).value
  let lists := { lists with counters := lists.counters.onRemove record.clazz record.state }
  let lists := { lists with events := lists.events.remove record_node }
  return lists.modifyTyped t (·.remove first)

/-- The new event goes to the end of both lists. -/
def append (lists : EventLists V) (t : EventType) (event : Event V Nat) : Option (EventLists V) := do
  let (record_node, events) ← lists.events.add { index := event.index, clazz := event.clazz }
  let (typed_node, list) ← (lists.list t).add ⟨event.value, event.variation, event.variation, some record_node⟩
  let events := events.modify record_node fun record => { record with storage := some (t, typed_node) }
  return { events, list := Function.update lists.list t list, counters := lists.counters.onAdd event.clazz }

/-- **`EventUpdate::Update`**: the lists and whether an event was lost. A list without capacity takes none. -/
def update (lists : EventLists V) (t : EventType) (event : Event V Nat) : Option (EventLists V × Bool) :=
  if (lists.list t).capacity = 0 then some (lists, false)
  else if isFullAndCapacityNotZero (lists.list t) then do
    let lists ← lists.makeSpace t
    return (← lists.append t event, true)
  else do
    return (← lists.append t event, false)

/-! ## Selection -/

/-- Where a selection stands; `more` is what its loop goes on for. -/
structure Selecting (V : Type) where
  lists : EventLists V
  num_selected : Nat := 0
  more : Bool := true

/-- The loop body of `SelectByTypeGeneric`; `none` stands for the default variation. -/
def Selecting.typed (t : EventType) (variation : Option Nat) (max j : Nat) (s : Selecting V) : Option (Selecting V) :=
  if s.num_selected = max then some { s with more := false }
  else do
    let node := ((s.lists.list t).node j).value
    let i ← node.record
    if (s.lists.events.node i).value.state = .unselected then
      let lists := s.lists.setState i .selected
      let lists := lists.modifyTyped t
        (·.modify j fun node => { node with selectedVariation := variation.getD node.defaultVariation })
      return { s with
        lists := { lists with counters := lists.counters.onSelect }
        num_selected := s.num_selected + 1 }
    else
      return s

def selectByTypeGeneric (lists : EventLists V) (t : EventType) (variation : Option Nat) (max : Nat) :
    Option (EventLists V × Nat) := do
  let s ← Arena.visitWhile (fun s : Selecting V => s.lists.list t) (·.more) (Selecting.typed t variation max)
    (lists.list t).capacity (lists.list t).head { lists }
  return (s.lists, s.num_selected)

/-- The loop body of `SelectByClass`, and the check before the next turn. -/
def Selecting.classed (clazz : EventClass → Bool) (max i : Nat) (s : Selecting V) : Option (Selecting V) :=
  let record := (s.lists.events.node i).value
  let s :=
    if record.state = .unselected ∧ clazz record.clazz then
      let lists := s.lists.setState i .selected
      { s with lists := { lists with counters := lists.counters.onSelect }, num_selected := s.num_selected + 1 }
    else s
  some { s with more := decide (s.num_selected < max) }

def selectByClass (lists : EventLists V) (clazz : EventClass → Bool) (max : Nat) : Option (EventLists V × Nat) := do
  let s ← Arena.visitWhile (fun s : Selecting V => s.lists.events) (·.more) (Selecting.classed clazz max)
    lists.events.capacity lists.events.head { lists, more := decide (0 < max) }
  return (s.lists, s.num_selected)

/-! ## Clearing -/

/-- The loop body of `ClearWritten`: a written event leaves both lists. -/
def clear (i : Nat) (s : EventLists V × Nat) : Option (EventLists V × Nat) :=
  let record := (s.1.events.node i).value
  if record.state = .written then do
    let (t, typed_node) ← record.storage
    let lists := s.1.modifyTyped t (·.remove typed_node)
    let lists := { lists with counters := lists.counters.onRemove record.clazz record.state }
    return ({ lists with events := lists.events.remove i }, s.2 + 1)
  else some s

/-- **`EventStorage::ClearWritten`**: the written events go, the number of them. -/
def clearWritten (lists : EventLists V) : Option (EventLists V × Nat) :=
  Arena.visitWhile (fun s => s.1.events) (fun _ => true) clear lists.events.capacity lists.events.head (lists, 0)

/-- **`EventStorage::Unselect`** -/
def unselect (lists : EventLists V) : Option (EventLists V) := do
  let lists ← Arena.visitWhile EventLists.events (fun _ => true) (fun i lists => some (lists.setState i .unselected))
    lists.events.capacity lists.events.head lists
  return { lists with counters := lists.counters.resetOnFail }

end EventLists

/-! ## Writing -/

/-- An `IEventWriteHandler` together with the `IEventWriter`s it makes: `start` begins a header for the events of a
type and a variation, of which the first one is at hand; `write` says whether it took a value. -/
structure WriteHandler (σ V : Type) where
  start : σ → EventType → Nat → V → σ
  write : σ → V → UInt16 → Bool × σ

/-- `cur`: the iterator over the master list. -/
structure WriteState (V σ : Type) where
  lists : EventLists V
  handler : σ
  cur : Option Nat

namespace WriteState

variable {V σ : Type} (H : WriteHandler σ V)

def findSelected (w : WriteState V σ) : WriteState V σ :=
  { w with cur := w.lists.events.find (fun record => record.state = .selected) w.lists.events.capacity w.cur }

/-- **`EventCollection::WriteOne`** -/
def writeOne (t : EventType) (variation : Nat) (w : WriteState V σ) : Option (Bool × WriteState V σ) :=
  if w.lists.counters.selected = 0 then some (false, w)
  else
    let w := w.findSelected
    match w.cur with
    | none => some (false, w)
    | some i => do
      let record := (w.lists.events.node i).value
      let (type, typed_node) ← record.storage
      let data := ((w.lists.list t).node typed_node).value
      -- the next selected event is of another type, or of another variation
      if type ≠ t ∨ data.selectedVariation ≠ variation then return (false, w)
      let (taken, handler) := H.write w.handler data.value record.index
      let w := { w with handler }
      if taken then
        let lists := { w.lists with counters := w.lists.counters.onWrite record.clazz }
        let lists := lists.setState i .written
        return (true, { w with lists, cur := (lists.events.node i).next })
      else return (false, w)

/-- `EventCollection::WriteSome` -/
def collect (t : EventType) (variation : Nat) : Nat → WriteState V σ → Option (Nat × WriteState V σ)
  | 0, _ => none
  | fuel + 1, w => do
    let (more, w) ← writeOne H t variation w
    if more then
      let (n, w) ← collect t variation fuel w
      return (n + 1, w)
    else return (0, w)

/-- `EventWriting::WriteSome` and `EventTypeImpl::WriteSome` -/
def writeSome (w : WriteState V σ) : Option (Nat × WriteState V σ) :=
  if w.lists.counters.selected = 0 then some (0, w)
  else
    let w := w.findSelected
    match w.cur with
    | none => some (0, w)
    | some i => do
      let (t, typed_node) ← (w.lists.events.node i).value.storage
      let data := ((w.lists.list t).node typed_node).value
      let w := { w with handler := H.start w.handler t data.selectedVariation data.value }
      collect H t data.selectedVariation (w.lists.events.capacity + 1) w

/-- The loop of `EventWriting::Write`: `WriteSome` until it makes no progress. -/
def writeAll : Nat → WriteState V σ → Option (Nat × WriteState V σ)
  | 0, _ => none
  | fuel + 1, w => do
    let (num_written, w) ← writeSome H w
    if num_written = 0 then return (0, w)
    let (total_num_written, w) ← writeAll fuel w
    return (num_written + total_num_written, w)

end WriteState

/-- **`EventWriting::Write`** -/
def EventLists.write {V σ : Type} (H : WriteHandler σ V) (lists : EventLists V) (handler : σ) :
    Option (EventLists V × σ × Nat) := do
  let (n, w) ← WriteState.writeAll H (lists.events.capacity + 1) ⟨lists, handler, lists.events.head⟩
  return (w.lists, w.handler, n)

/-! ## The buffer -/

/-- A group of objects and a variation of it. -/
structure GroupVariation where
  group : Nat
  variation : Nat
deriving DecidableEq, Repr

structure ClassField where
  class0 : Bool := false
  class1 : Bool := false
  class2 : Bool := false
  class3 : Bool := false
deriving DecidableEq, Repr

def ClassField.hasEventType (c : ClassField) : EventClass → Bool
  | .ec1 => c.class1
  | .ec2 => c.class2
  | .ec3 => c.class3

/-- What a `GroupVariation` selects: events of a type in their default variation or in a given one, or of a class. -/
inductive EventSelector where
  | all (t : EventType)
  | variation (t : EventType) (v : Nat)
  | clazz (ec : EventClass)
deriving DecidableEq, Repr

/-- The cases of `EventBuffer::SelectMaxCount`. -/
def GroupVariation.selector : GroupVariation → Option EventSelector
  | ⟨2, 0⟩ => some (.all .binary)
  | ⟨2, v⟩ => if v ∈ [1, 2, 3] then some (.variation .binary v) else none
  | ⟨4, 0⟩ => some (.all .doubleBitBinary)
  | ⟨4, v⟩ => if v ∈ [1, 2, 3] then some (.variation .doubleBitBinary v) else none
  | ⟨11, 0⟩ => some (.all .binaryOutputStatus)
  | ⟨11, v⟩ => if v ∈ [1, 2] then some (.variation .binaryOutputStatus v) else none
  | ⟨22, 0⟩ => some (.all .counter)
  | ⟨22, v⟩ => if v ∈ [1, 2, 5, 6] then some (.variation .counter v) else none
  | ⟨23, 0⟩ => some (.all .frozenCounter)
  | ⟨23, v⟩ => if v ∈ [1, 2, 5, 6] then some (.variation .frozenCounter v) else none
  | ⟨32, 0⟩ => some (.all .analog)
  | ⟨32, v⟩ => if v ∈ [1, 2, 3, 4, 5, 6, 7, 8] then some (.variation .analog v) else none
  | ⟨42, 0⟩ => some (.all .analogOutputStatus)
  | ⟨42, v⟩ => if v ∈ [1, 2, 3, 4, 5, 6, 7, 8] then some (.variation .analogOutputStatus v) else none
  | ⟨60, 2⟩ => some (.clazz .ec1)
  | ⟨60, 3⟩ => some (.clazz .ec2)
  | ⟨60, 4⟩ => some (.clazz .ec3)
  | ⟨111, 0⟩ => some (.variation .octetString 0)
  | _ => none

structure EventBuffer (V : Type) where
  overflow : Bool := false
  storage : EventLists V

namespace EventBuffer

variable {V σ : Type}

def ofConfig [Inhabited V] (config : EventBufferConfig) : EventBuffer V := { storage := .ofConfig config }

/-- `EventBuffer::UpdateAny` -/
def update (b : EventBuffer V) (t : EventType) (event : Event V Nat) : Option (EventBuffer V) := do
  let (storage, overflow) ← b.storage.update t event
  return { storage, overflow := b.overflow || overflow }

/-- The buffer and whether the group and variation is supported. -/
def selectMaxCount (b : EventBuffer V) (gv : GroupVariation) (maximum : Nat) : Option (EventBuffer V × Bool) :=
  match gv.selector with
  | none => some (b, false)
  | some (.all t) => do
    let (storage, _) ← b.storage.selectByTypeGeneric t none maximum
    return ({ b with storage }, true)
  | some (.variation t v) => do
    let (storage, _) ← b.storage.selectByTypeGeneric t (some v) maximum
    return ({ b with storage }, true)
  | some (.clazz ec) => do
    let (storage, _) ← b.storage.selectByClass (fun k => k = ec) maximum
    return ({ b with storage }, true)

/-- `std::numeric_limits<uint32_t>::max()` -/
def uint32Max : Nat := 2 ^ 32 - 1

def selectAll (b : EventBuffer V) (gv : GroupVariation) : Option (EventBuffer V × Bool) :=
  b.selectMaxCount gv uint32Max

def selectCount (b : EventBuffer V) (gv : GroupVariation) (count : UInt16) : Option (EventBuffer V × Bool) :=
  b.selectMaxCount gv count.toNat

def selectAllByClass (b : EventBuffer V) (clazz : ClassField) : Option (EventBuffer V) := do
  let (storage, _) ← b.storage.selectByClass clazz.hasEventType uint32Max
  return { b with storage }

def unselect (b : EventBuffer V) : Option (EventBuffer V) := do
  return { b with storage := ← b.storage.unselect }

def clearWritten (b : EventBuffer V) : Option (EventBuffer V) := do
  let (storage, _) ← b.storage.clearWritten
  return { b with storage }

def hasAnySelection (b : EventBuffer V) : Bool := 0 < b.storage.counters.selected

/-- **`EventBuffer::Load`**: the buffer, the handler, whether all selected events were written. -/
def load (H : WriteHandler σ V) (b : EventBuffer V) (handler : σ) : Option (EventBuffer V × σ × Bool) := do
  let (storage, handler, _) ← b.storage.write H handler
  return ({ b with storage }, handler, storage.counters.selected = 0)

def numUnwritten (b : EventBuffer V) (ec : EventClass) : UInt32 :=
  b.storage.counters.total.get ec - b.storage.counters.written.get ec

def unwrittenClassField (b : EventBuffer V) : ClassField where
  class1 := 0 < b.numUnwritten .ec1
  class2 := 0 < b.numUnwritten .ec2
  class3 := 0 < b.numUnwritten .ec3

/-- **`EventBuffer::IsOverflown`** forgets an overflow when no list is full any more. -/
def isOverflown (b : EventBuffer V) : EventBuffer V × Bool :=
  let b := if b.overflow && !b.storage.isAnyTypeFull then { b with overflow := false } else b
  (b, b.overflow)

end EventBuffer

end Opendnp3
