import ModbusGateway.EventBuffer

/-!
# The event buffer as one queue (opendnp3)

What the lists of the event buffer are for: one queue of events, the oldest first. `Rep lists cells`: the lists hold
the events of `cells`, in the nodes that `cells` gives, each type's list in the order of the master list.

* `Rep.update` — an update of the lists is the update of the queue, and follows no null pointer.
* `Rep.change`, `Rep.push`, `Rep.remove` — an event changes, comes or goes.
-/

namespace Opendnp3

open LinkedList (Arena)

variable {V σ : Type}

/-- An event in the buffer. -/
@[ext] structure Entry (V : Type) where
  type : EventType
  value : V
  index : UInt16
  clazz : EventClass
  state : EventState
  defaultVariation : Nat
  selectedVariation : Nat

def Entry.ofEvent (t : EventType) (event : Event V Nat) : Entry V :=
  ⟨t, event.value, event.index, event.clazz, .unselected, event.variation, event.variation⟩

/-! ## The queue -/

namespace EventQueue

/-- The first `max` entries that satisfy `p` change by `f`. -/
def mark (p : Entry V → Bool) (f : Entry V → Entry V) : Nat → List (Entry V) → List (Entry V)
  | 0, q => q
  | _, [] => []
  | max + 1, e :: q => if p e then f e :: mark p f max q else e :: mark p f (max + 1) q

/-- The new queue and whether an event was lost. -/
def update (capacity : EventType → Nat) (q : List (Entry V)) (t : EventType) (event : Event V Nat) :
    List (Entry V) × Bool :=
  if capacity t = 0 then (q, false)
  else if q.countP (·.type = t) = capacity t then (q.eraseP (·.type = t) ++ [.ofEvent t event], true)
  else (q ++ [.ofEvent t event], false)

def select (e : Entry V) : Entry V := { e with state := .selected }

def selectVariation (variation : Option Nat) (e : Entry V) : Entry V :=
  { e with state := .selected, selectedVariation := variation.getD e.defaultVariation }

def written (e : Entry V) : Entry V := { e with state := .written }

def selected (q : List (Entry V)) : List (Entry V) := q.filter (·.state = .selected)

def unselect (q : List (Entry V)) : List (Entry V) := q.map fun e => { e with state := .unselected }

end EventQueue

/-! ## Counters -/

structure Counted (counters : EventClassCounters) (q : List (Entry V)) : Prop where
  total : ∀ k, counters.total.get k = .ofNat (q.countP (·.clazz = k))
  written : ∀ k, counters.written.get k = .ofNat (q.countP fun e => e.state = .written && e.clazz = k)
  selected : counters.selected = .ofNat (q.countP (·.state = .selected))

section Counted
variable {counters : EventClassCounters} {q q' : List (Entry V)} {xs ys : List (Entry V)} {e e' : Entry V}

theorem Counted.perm (h : Counted counters q) (hq : q.Perm q') : Counted counters q' where
  total k := by rw [h.total, hq.countP_eq]
  written k := by rw [h.written, hq.countP_eq]
  selected := by rw [h.selected, hq.countP_eq]

theorem counted_cons : Counted counters (e :: q) ↔
    (∀ k, counters.total.get k = .ofNat (q.countP (·.clazz = k)) + if e.clazz = k then 1 else 0) ∧
    (∀ k, counters.written.get k = .ofNat (q.countP fun e => e.state = .written && e.clazz = k) +
      if e.state = .written ∧ e.clazz = k then 1 else 0) ∧
    counters.selected = .ofNat (q.countP (·.state = .selected)) + if e.state = .selected then 1 else 0 := by
  have hite : ∀ (P : Prop) [Decidable P], UInt32.ofNat (if P then 1 else 0) = if P then 1 else 0 := by
    intro P _
    split <;> rfl
  constructor
  · intro h
    refine ⟨fun k => ?_, fun k => ?_, ?_⟩
    · rw [h.total, List.countP_cons, UInt32.ofNat_add, ← hite]
      simp
    · rw [h.written, List.countP_cons, UInt32.ofNat_add, ← hite]
      simp
    · rw [h.selected, List.countP_cons, UInt32.ofNat_add, ← hite]
      simp
  · rintro ⟨htotal, hwritten, hselected⟩
    refine ⟨fun k => ?_, fun k => ?_, ?_⟩
    · rw [htotal, List.countP_cons, UInt32.ofNat_add, ← hite]
      simp
    · rw [hwritten, List.countP_cons, UInt32.ofNat_add, ← hite]
      simp
    · rw [hselected, List.countP_cons, UInt32.ofNat_add, ← hite]
      simp

theorem counted_middle : Counted counters (xs ++ e :: ys) ↔ Counted counters (e :: (xs ++ ys)) :=
  ⟨fun h => h.perm List.perm_middle, fun h => h.perm List.perm_middle.symm⟩

theorem Counted.onAdd (h : Counted counters q) (he : e.state = .unselected) :
    Counted (counters.onAdd e.clazz) (e :: q) := by
  obtain ⟨htotal, hwritten, hselected⟩ := h
  refine counted_cons.2 ⟨fun k => ?_, fun k => ?_, ?_⟩
  · rw [← htotal, EventClassCounters.onAdd, ClazzCount.get_increment]
  · simp [hwritten, he, EventClassCounters.onAdd]
  · simp [hselected, he, EventClassCounters.onAdd]

theorem Counted.onRemove (h : Counted counters (e :: q)) : Counted (counters.onRemove e.clazz e.state) q := by
  obtain ⟨htotal, hwritten, hselected⟩ := counted_cons.1 h
  cases hs : e.state <;> refine ⟨fun k => ?_, fun k => ?_, ?_⟩ <;>
    simp [EventClassCounters.onRemove, htotal, hwritten, hselected, hs]

theorem Counted.onSelect (h : Counted counters (e :: q)) (he : e.state = .unselected) (he' : e'.state = .selected)
    (hk : e'.clazz = e.clazz) : Counted counters.onSelect (e' :: q) := by
  obtain ⟨htotal, hwritten, hselected⟩ := counted_cons.1 h
  refine counted_cons.2 ⟨fun k => ?_, fun k => ?_, ?_⟩ <;>
    simp [EventClassCounters.onSelect, htotal, hwritten, hselected, he, he', hk]

theorem Counted.onWrite (h : Counted counters (e :: q)) (he : e.state = .selected) :
    Counted (counters.onWrite e.clazz) (EventQueue.written e :: q) := by
  obtain ⟨htotal, hwritten, hselected⟩ := counted_cons.1 h
  refine counted_cons.2 ⟨htotal, fun k => ?_, ?_⟩ <;>
    simp [EventClassCounters.onWrite, EventQueue.written, hwritten, hselected, he]

/-- A counter counts none only when there is none. -/
theorem Counted.selected_eq_zero_iff (h : Counted counters q) (hq : q.length < 2 ^ 32) :
    counters.selected = 0 ↔ EventQueue.selected q = [] := by
  have hle : q.countP (·.state = .selected) < 2 ^ 32 := lt_of_le_of_lt List.countP_le_length hq
  rw [h.selected, ← UInt32.toNat_inj, UInt32.toNat_ofNat_of_lt' hle, EventQueue.selected, List.countP_eq_length_filter]
  exact List.length_eq_zero_iff

end Counted

/-! ## The lists hold a queue -/

/-- An event with its nodes in the master list and in the list of its type. -/
structure Cell (V : Type) where
  node : Nat
  storage : Nat
  entry : Entry V

def Cell.record (c : Cell V) : EventRecord :=
  ⟨c.entry.index, c.entry.clazz, c.entry.state, some (c.entry.type, c.storage)⟩

def Cell.typed (c : Cell V) : TypedEventRecord V :=
  ⟨c.entry.value, c.entry.defaultVariation, c.entry.selectedVariation, some c.node⟩

def queue (cells : List (Cell V)) : List (Entry V) := cells.map (·.entry)

def nodes (cells : List (Cell V)) : List Nat := cells.map (·.node)

/-- The nodes of one type. -/
def storages (t : EventType) (cells : List (Cell V)) : List Nat :=
  (cells.filter (·.entry.type = t)).map (·.storage)

def EventType.all : List EventType :=
  [.binary, .doubleBitBinary, .analog, .counter, .frozenCounter, .binaryOutputStatus, .analogOutputStatus, .octetString]

structure Rep (lists : EventLists V) (cells : List (Cell V)) : Prop where
  events : ∃ frees, lists.events.Holds (nodes cells) frees
  list : ∀ t, ∃ frees, (lists.list t).Holds (storages t cells) frees
  record : ∀ c ∈ cells, (lists.events.node c.node).value = c.record
  typed : ∀ c ∈ cells, ((lists.list c.entry.type).node c.storage).value = c.typed
  room : lists.events.capacity = (EventType.all.map fun t => (lists.list t).capacity).sum
  small : lists.events.capacity < 2 ^ 32
  counted : Counted lists.counters (queue cells)

section Rep
variable {lists lists' : EventLists V} {cells xs ys : List (Cell V)} {c : Cell V} {e : Entry V} {t : EventType}

theorem sum_capacity (config : EventBufferConfig) :
    config.totalEvents = (EventType.all.map fun t => (config.max t).toNat).sum := by
  simp [EventType.all, EventBufferConfig.totalEvents, EventBufferConfig.max, Nat.add_assoc]

theorem Rep.ofConfig [Inhabited V] (config : EventBufferConfig) : Rep (V := V) (.ofConfig config) [] where
  events := ⟨_, LinkedList.Arena.holds_allFree⟩
  list t := ⟨_, LinkedList.Arena.holds_allFree⟩
  record c hc := by cases hc
  typed c hc := by cases hc
  room := sum_capacity config
  small := by
    have hle : ∀ x : UInt16, x.toNat < 2 ^ 16 := fun x => x.toNat_lt
    show config.totalEvents < 2 ^ 32
    have h1 := hle config.maxBinaryEvents
    have h2 := hle config.maxDoubleBinaryEvents
    have h3 := hle config.maxAnalogEvents
    have h4 := hle config.maxCounterEvents
    have h5 := hle config.maxFrozenCounterEvents
    have h6 := hle config.maxBinaryOutputStatusEvents
    have h7 := hle config.maxAnalogOutputStatusEvents
    have h8 := hle config.maxOctetStringEvents
    unfold EventBufferConfig.totalEvents
    omega
  counted := ⟨fun k => by cases k <;> rfl, fun k => by cases k <;> rfl, rfl⟩

@[simp] theorem storages_append (t : EventType) (xs ys : List (Cell V)) :
    storages t (xs ++ ys) = storages t xs ++ storages t ys := by
  rw [storages, List.filter_append, List.map_append]
  rfl

@[simp] theorem nodes_append (xs ys : List (Cell V)) : nodes (xs ++ ys) = nodes xs ++ nodes ys := List.map_append

@[simp] theorem queue_append (xs ys : List (Cell V)) : queue (xs ++ ys) = queue xs ++ queue ys := List.map_append

theorem storages_cons (t : EventType) (c : Cell V) (cells : List (Cell V)) :
    storages t (c :: cells) = if c.entry.type = t then c.storage :: storages t cells else storages t cells := by
  rw [storages, List.filter_cons]
  by_cases h : c.entry.type = t <;> simp [h, storages]

theorem length_storages (t : EventType) (cells : List (Cell V)) :
    (storages t cells).length = (queue cells).countP (·.type = t) := by
  rw [storages, queue, List.length_map, List.countP_map, List.countP_eq_length_filter]
  rfl

/-- The lists of the types share out the queue. -/
theorem length_eq_sum (cells : List (Cell V)) :
    cells.length = (EventType.all.map fun t => (storages t cells).length).sum := by
  induction cells with
  | nil => rfl
  | cons c cells ih =>
    rw [List.length_cons, ih]
    cases h : c.entry.type <;> simp [EventType.all, storages_cons, h] <;> omega

/-- The lists hold one queue only. -/
theorem Rep.unique {cells cells' : List (Cell V)} (h : Rep lists cells) (h' : Rep lists cells') :
    queue cells = queue cells' := by
  have hnodes : nodes cells = nodes cells' := by
    obtain ⟨frees, hev⟩ := h.events
    obtain ⟨frees', hev'⟩ := h'.events
    exact hev.unique hev'
  have hlength : cells.length = cells'.length := by simpa [nodes] using congrArg List.length hnodes
  refine List.ext_getElem (by simpa [queue] using hlength) fun i hi hi' => ?_
  rw [queue, List.length_map] at hi hi'
  have hnode : cells[i].node = cells'[i].node := by simpa [nodes, hi, hi'] using congrArg (·[i]?) hnodes
  have hrecord : cells[i].record = cells'[i].record := by
    rw [← h.record _ (List.getElem_mem hi), ← h'.record _ (List.getElem_mem hi'), hnode]
  simp only [Cell.record, EventRecord.mk.injEq, Option.some.injEq, Prod.mk.injEq] at hrecord
  obtain ⟨hindex, hclazz, hstate, htype, hstorage⟩ := hrecord
  have htyped : cells[i].typed = cells'[i].typed := by
    rw [← h.typed _ (List.getElem_mem hi), ← h'.typed _ (List.getElem_mem hi'), htype, hstorage]
  simp only [Cell.typed, TypedEventRecord.mk.injEq] at htyped
  obtain ⟨hvalue, hdefault, hselected, -⟩ := htyped
  simp only [queue, List.getElem_map]
  exact Entry.ext htype hvalue hindex hclazz hstate hdefault hselected

theorem not_mem_of_nodup {l₁ l₂ : List Nat} {i : Nat} (h : (l₁ ++ i :: l₂).Nodup) : i ∉ l₁ ++ l₂ := by
  rw [List.perm_middle.nodup_iff, List.nodup_cons] at h
  exact h.1

/-- No two events are in one node. -/
theorem Rep.node_ne (h : Rep lists (xs ++ c :: ys)) {c' : Cell V} (hc' : c' ∈ xs ++ ys) : c'.node ≠ c.node := by
  obtain ⟨frees, hev⟩ := h.events
  have hn := (List.nodup_append.1 hev.nodup).1
  rw [nodes_append] at hn
  have hmem : c'.node ∈ nodes (xs ++ ys) := List.mem_map_of_mem hc'
  intro heq
  rw [heq, nodes_append] at hmem
  exact not_mem_of_nodup (i := c.node) hn hmem

theorem Rep.storage_ne (h : Rep lists (xs ++ c :: ys)) {c' : Cell V} (hc' : c' ∈ xs ++ ys)
    (ht : c'.entry.type = c.entry.type) : c'.storage ≠ c.storage := by
  obtain ⟨frees, hl⟩ := h.list c.entry.type
  have hn := (List.nodup_append.1 hl.nodup).1
  rw [storages_append, storages_cons, if_pos rfl] at hn
  have hmem : c'.storage ∈ storages c.entry.type (xs ++ ys) :=
    List.mem_map_of_mem (List.mem_filter.2 ⟨hc', by simpa using ht⟩)
  intro heq
  rw [heq, storages_append] at hmem
  exact not_mem_of_nodup (i := c.storage) hn hmem

/-- The event at a node changes. -/
theorem Rep.change (h : Rep lists (xs ++ c :: ys)) (ht : e.type = c.entry.type)
    (hevents : ∀ {ids frees}, lists.events.Holds ids frees → lists'.events.Holds ids frees)
    (hlist : ∀ {t ids frees}, (lists.list t).Holds ids frees → (lists'.list t).Holds ids frees)
    (hrecord : ∀ i, (lists'.events.node i).value =
      if i = c.node then Cell.record ⟨c.node, c.storage, e⟩ else (lists.events.node i).value)
    (htyped : ∀ t j, ((lists'.list t).node j).value =
      if t = e.type ∧ j = c.storage then Cell.typed ⟨c.node, c.storage, e⟩ else ((lists.list t).node j).value)
    (hcap : lists'.events.capacity = lists.events.capacity)
    (hcaps : ∀ t, (lists'.list t).capacity = (lists.list t).capacity)
    (hcount : Counted lists'.counters (queue xs ++ e :: queue ys)) :
    Rep lists' (xs ++ ⟨c.node, c.storage, e⟩ :: ys) where
  events := by
    obtain ⟨frees, hev⟩ := h.events
    refine ⟨frees, hevents ?_⟩
    simpa [nodes] using hev
  list t := by
    obtain ⟨frees, hl⟩ := h.list t
    refine ⟨frees, hlist ?_⟩
    simpa [storages_cons, ht] using hl
  record c' hc' := by
    rw [hrecord]
    rcases List.mem_cons.1 (List.perm_middle.mem_iff.1 hc') with rfl | hmem
    · exact if_pos rfl
    · rw [if_neg (h.node_ne hmem), h.record c' (List.perm_middle.mem_iff.2 (List.mem_cons_of_mem c hmem))]
  typed c' hc' := by
    rw [htyped]
    rcases List.mem_cons.1 (List.perm_middle.mem_iff.1 hc') with rfl | hmem
    · exact if_pos ⟨rfl, rfl⟩
    · have hne : ¬(c'.entry.type = e.type ∧ c'.storage = c.storage) :=
        fun heq => h.storage_ne hmem (heq.1.trans ht) heq.2
      rw [if_neg hne, h.typed c' (List.perm_middle.mem_iff.2 (List.mem_cons_of_mem c hmem))]
  room := by
    rw [hcap, h.room]
    simp only [hcaps]
  small := hcap ▸ h.small
  counted := by simpa [queue] using hcount

@[simp] theorem modifyTyped_list {f : Arena (TypedEventRecord V) → Arena (TypedEventRecord V)} {t' : EventType} :
    (lists.modifyTyped t f).list t' = if t' = t then f (lists.list t) else lists.list t' := Function.update_apply ..

theorem modifyTyped_remove {t' : EventType} {j : Nat} :
    (lists.modifyTyped t (·.remove j)).list t' = if t' = t then (lists.list t').remove j else lists.list t' := by
  rw [modifyTyped_list]
  split
  next ht => rw [ht]
  next => rfl

theorem modifyTyped_value {t' : EventType} {j k : Nat} {f : TypedEventRecord V → TypedEventRecord V} :
    (((lists.modifyTyped t (·.modify j f)).list t').node k).value =
      if t' = t ∧ k = j then f ((lists.list t).node j).value else ((lists.list t').node k).value := by
  rw [modifyTyped_list]
  by_cases ht : t' = t
  · subst ht
    rw [if_pos rfl, Arena.node_modify]
    by_cases hk : k = j <;> simp [hk]
  · rw [if_neg ht, if_neg fun h => ht h.1]

theorem modifyTyped_capacity {t' : EventType} {j : Nat} {f : TypedEventRecord V → TypedEventRecord V} :
    ((lists.modifyTyped t (·.modify j f)).list t').capacity = (lists.list t').capacity := by
  rw [modifyTyped_list]
  split
  next ht => rw [ht]; rfl
  next => rfl

theorem Rep.counted_here (h : Rep lists (xs ++ c :: ys)) :
    Counted lists.counters (c.entry :: (queue xs ++ queue ys)) := by
  have hcount := h.counted
  rw [queue_append] at hcount
  exact counted_middle.1 hcount

/-- An event leaves both of its lists. -/
theorem Rep.remove (h : Rep lists (xs ++ c :: ys))
    (hevents : lists'.events = lists.events.remove c.node)
    (hlist : ∀ t, lists'.list t = if t = c.entry.type then (lists.list t).remove c.storage else lists.list t)
    (hcount : lists'.counters = lists.counters.onRemove c.entry.clazz c.entry.state) :
    Rep lists' (xs ++ ys) ∧ ∀ t, (lists'.list t).capacity = (lists.list t).capacity := by
  have hcap : lists'.events.capacity = lists.events.capacity := by
    rw [hevents]
    exact Arena.remove_fields.2.2.2.2.2.2.1
  have hcaps : ∀ t, (lists'.list t).capacity = (lists.list t).capacity := by
    intro t
    rw [hlist]
    split
    · exact Arena.remove_fields.2.2.2.2.2.2.1
    · rfl
  have hsub : ∀ c' ∈ xs ++ ys, c' ∈ xs ++ c :: ys :=
    fun c' hc' => List.perm_middle.mem_iff.2 (List.mem_cons_of_mem c hc')
  refine ⟨{ events := ?_, list := fun t => ?_, record := ?_, typed := ?_, room := ?_, small := ?_, counted := ?_ }, hcaps⟩
  · obtain ⟨frees, hev⟩ := h.events
    rw [nodes_append] at hev
    rw [hevents, nodes_append]
    exact ⟨_, hev.remove⟩
  · obtain ⟨frees, hl⟩ := h.list t
    rw [storages_append, storages_cons] at hl
    rw [hlist, storages_append]
    split
    next ht =>
      subst ht
      rw [if_pos rfl] at hl
      exact ⟨_, hl.remove⟩
    next ht => exact ⟨_, by rwa [if_neg (Ne.symm ht)] at hl⟩
  · intro c' hc'
    rw [hevents, Arena.remove_fields.1, h.record c' (hsub c' hc')]
  · intro c' hc'
    rw [hlist]
    split
    · rw [Arena.remove_fields.1, h.typed c' (hsub c' hc')]
    · exact h.typed c' (hsub c' hc')
  · rw [hcap, h.room]
    simp only [hcaps]
  · exact hcap ▸ h.small
  · rw [hcount, queue_append]
    exact h.counted_here.onRemove

/-- Where a type has room the master list has. -/
theorem Rep.length_lt (h : Rep lists cells) (hroom : (queue cells).countP (·.type = t) < (lists.list t).capacity) :
    cells.length < lists.events.capacity := by
  have hle : ∀ t, (storages t cells).length ≤ (lists.list t).capacity := by
    intro t
    obtain ⟨frees, hl⟩ := h.list t
    exact hl.length_le
  rw [← length_storages] at hroom
  rw [h.room, length_eq_sum]
  have h1 := hle .binary
  have h2 := hle .doubleBitBinary
  have h3 := hle .analog
  have h4 := hle .counter
  have h5 := hle .frozenCounter
  have h6 := hle .binaryOutputStatus
  have h7 := hle .analogOutputStatus
  have h8 := hle .octetString
  simp only [EventType.all, List.map_cons, List.map_nil, List.sum_cons, List.sum_nil]
  cases t <;> omega

/-- An event comes to the end of both of its lists. -/
theorem Rep.push (h : Rep lists cells) {frees frees' : List Nat}
    (hevents : lists'.events.Holds (nodes cells ++ [c.node]) frees)
    (hlist : (lists'.list c.entry.type).Holds (storages c.entry.type cells ++ [c.storage]) frees')
    (hothers : ∀ t, t ≠ c.entry.type → lists'.list t = lists.list t)
    (hrecord : ∀ i, (lists'.events.node i).value = if i = c.node then c.record else (lists.events.node i).value)
    (htyped : ∀ j, ((lists'.list c.entry.type).node j).value =
      if j = c.storage then c.typed else ((lists.list c.entry.type).node j).value)
    (hcap : lists'.events.capacity = lists.events.capacity)
    (hcaps : ∀ t, (lists'.list t).capacity = (lists.list t).capacity)
    (hcount : Counted lists'.counters (c.entry :: queue cells)) : Rep lists' (cells ++ [c]) where
  events := ⟨frees, by simpa [nodes] using hevents⟩
  list t := by
    rw [storages_append, storages_cons]
    by_cases ht : t = c.entry.type
    · subst ht
      exact ⟨frees', by simpa [storages] using hlist⟩
    · rw [hothers t ht]
      simpa [storages, Ne.symm ht] using h.list t
  record c' hc' := by
    rw [hrecord]
    rcases List.mem_append.1 hc' with hmem | hmem
    · have hne : c'.node ≠ c.node := by
        intro heq
        have hn := (List.nodup_append.1 hevents.nodup).1
        exact (List.nodup_append.1 hn).2.2 _ (List.mem_map_of_mem hmem) _ (List.mem_singleton_self _) heq
      rw [if_neg hne, h.record c' hmem]
    · obtain rfl := List.mem_singleton.1 hmem
      exact if_pos rfl
  typed c' hc' := by
    rcases List.mem_append.1 hc' with hmem | hmem
    · by_cases ht : c'.entry.type = c.entry.type
      · have hne : c'.storage ≠ c.storage := by
          intro heq
          have hn := (List.nodup_append.1 hlist.nodup).1
          refine (List.nodup_append.1 hn).2.2 _ (List.mem_map_of_mem (List.mem_filter.2 ⟨hmem, ?_⟩)) _
            (List.mem_singleton_self _) heq
          simpa using ht
        rw [ht, htyped, if_neg hne, ← ht, h.typed c' hmem]
      · rw [hothers _ ht, h.typed c' hmem]
    · obtain rfl := List.mem_singleton.1 hmem
      rw [htyped, if_pos rfl]
  room := by
    rw [hcap, h.room]
    simp only [hcaps]
  small := hcap ▸ h.small
  counted := by
    rw [queue_append]
    exact hcount.perm (List.perm_append_singleton _ _).symm

/-- A new event takes a free node of both lists. -/
theorem Rep.append (h : Rep lists cells) (event : Event V Nat)
    (hroom : (queue cells).countP (·.type = t) < (lists.list t).capacity) :
    ∃ lists' c, lists.append t event = some lists' ∧ c.entry = .ofEvent t event ∧ Rep lists' (cells ++ [c]) ∧
      ∀ t, (lists'.list t).capacity = (lists.list t).capacity := by
  obtain ⟨frees, hev⟩ := h.events
  obtain ⟨i, rest, rfl⟩ := hev.exists_free (by rw [nodes, List.length_map]; exact h.length_lt hroom)
  obtain ⟨frees, hl⟩ := h.list t
  obtain ⟨j, restt, rfl⟩ := hl.exists_free (by rwa [length_storages])
  obtain ⟨events, hadd, hev', hcap, hval, hvals⟩ :=
    hev.add (a := ({ index := event.index, clazz := event.clazz } : EventRecord))
  obtain ⟨list, hadd', hl', hcap', hval', hvals'⟩ :=
    hl.add (a := (⟨event.value, event.variation, event.variation, some i⟩ : TypedEventRecord V))
  obtain ⟨lists', hlists'⟩ : ∃ lists' : EventLists V, lists' =
    { events := events.modify i fun record => { record with storage := some (t, j) }
      list := Function.update lists.list t list
      counters := lists.counters.onAdd event.clazz } := ⟨_, rfl⟩
  have hevents : lists'.events = events.modify i fun record => { record with storage := some (t, j) } := by
    rw [hlists']
  have hlist : lists'.list = Function.update lists.list t list := by rw [hlists']
  have hself : lists'.list t = list := by rw [hlist, Function.update_self]
  have hothers : ∀ t', t' ≠ t → lists'.list t' = lists.list t' :=
    fun t' ht' => by rw [hlist, Function.update_of_ne ht']
  have hcaps : ∀ t', (lists'.list t').capacity = (lists.list t').capacity := by
    intro t'
    by_cases ht : t' = t
    · rw [ht, hself, hcap']
    · rw [hothers t' ht]
  have hrep : Rep lists' (cells ++ [⟨i, j, .ofEvent t event⟩]) := by
    refine h.push (hevents ▸ hev'.modify) (hself.symm ▸ hl') hothers ?_ ?_ (hevents ▸ hcap) hcaps ?_
    · intro k
      rw [hevents, Arena.node_modify]
      split
      · rw [hval]
        rfl
      next hk => exact hvals k hk
    · intro k
      rw [show (Entry.ofEvent t event).type = t from rfl, hself]
      split
      next hk =>
        rw [hk, hval']
        rfl
      next hk => exact hvals' k hk
    · rw [hlists']
      exact h.counted.onAdd (e := .ofEvent t event) rfl
  refine ⟨lists', ⟨i, j, .ofEvent t event⟩, ?_, rfl, hrep, hcaps⟩
  rw [EventLists.append, hadd, hlists']
  simp only [Option.bind_eq_bind, Option.bind_some, hadd']
  rfl

theorem countP_eraseP (p : Entry V → Bool) (q : List (Entry V)) : (q.eraseP p).countP p = q.countP p - 1 := by
  induction q with
  | nil => rfl
  | cons e q ih =>
    cases hp : p e with
    | false => rw [List.eraseP_cons_of_neg (by simp [hp]), List.countP_cons, List.countP_cons, ih]; simp [hp]
    | true => rw [List.eraseP_cons_of_pos (by simp [hp]), List.countP_cons]; simp [hp]

/-- A full list gives up its oldest event. -/
theorem Rep.makeSpace (h : Rep lists cells) (hc : ∃ c ∈ cells, c.entry.type = t) :
    ∃ lists' cells', lists.makeSpace t = some lists' ∧ Rep lists' cells' ∧
      queue cells' = (queue cells).eraseP (·.type = t) ∧
      ∀ t, (lists'.list t).capacity = (lists.list t).capacity := by
  obtain ⟨c, hmem, hc⟩ := hc
  obtain ⟨c, xs, ys, hxs, hc, rfl, -⟩ :=
    List.exists_of_eraseP (p := fun c : Cell V => decide (c.entry.type = t)) hmem (by simpa using hc)
  obtain rfl : c.entry.type = t := by simpa using hc
  have hxs : ∀ c' ∈ xs, c'.entry.type ≠ c.entry.type := by simpa using hxs
  have hhead : (lists.list c.entry.type).head = some c.storage := by
    obtain ⟨frees, hl⟩ := h.list c.entry.type
    have hnil : storages c.entry.type xs = [] := by
      rw [storages, List.filter_eq_nil_iff.2 (by simpa using hxs), List.map_nil]
    rw [hl.head, storages_append, hnil, storages_cons, if_pos rfl]
    rfl
  have hmem : c ∈ xs ++ c :: ys := by simp
  obtain ⟨lists', hmake, hevents, hlist, hcount⟩ : ∃ lists', lists.makeSpace c.entry.type = some lists' ∧
      lists'.events = lists.events.remove c.node ∧
      (∀ t, lists'.list t = if t = c.entry.type then (lists.list t).remove c.storage else lists.list t) ∧
      lists'.counters = lists.counters.onRemove c.entry.clazz c.entry.state := by
    refine ⟨EventLists.modifyTyped { lists with
        events := lists.events.remove c.node
        counters := lists.counters.onRemove c.entry.clazz c.entry.state } c.entry.type (·.remove c.storage),
      ?_, rfl, fun t => ?_, rfl⟩
    · rw [EventLists.makeSpace, hhead]
      simp only [Option.bind_eq_bind, Option.bind_some, h.typed c hmem, Cell.typed, h.record c hmem]
      rfl
    · exact modifyTyped_remove
  obtain ⟨hrep, hcaps⟩ := h.remove hevents hlist hcount
  refine ⟨lists', xs ++ ys, hmake, hrep, ?_, hcaps⟩
  rw [queue_append, queue_append, List.eraseP_append_right _ (by simpa [queue] using hxs)]
  simp [queue]

theorem Rep.isFull_iff (h : Rep lists cells) (hcap : (lists.list t).capacity ≠ 0) :
    isFullAndCapacityNotZero (lists.list t) = true ↔ (queue cells).countP (·.type = t) = (lists.list t).capacity := by
  obtain ⟨frees, hl⟩ := h.list t
  rw [isFullAndCapacityNotZero, Bool.and_eq_true, Option.isNone_iff_eq_none, hl.free_eq_none_iff, length_storages,
    decide_eq_true_iff, and_iff_left (Nat.pos_of_ne_zero hcap)]

/-- **An update of the lists is an update of the queue.** -/
theorem Rep.update (h : Rep lists cells) (t : EventType) (event : Event V Nat) :
    ∃ lists' cells' overflow, lists.update t event = some (lists', overflow) ∧ Rep lists' cells' ∧
      (queue cells', overflow) = EventQueue.update (fun t => (lists.list t).capacity) (queue cells) t event ∧
      ∀ t, (lists'.list t).capacity = (lists.list t).capacity := by
  unfold EventLists.update EventQueue.update
  by_cases hcap : (lists.list t).capacity = 0
  · exact ⟨lists, cells, false, by rw [if_pos hcap], h, by rw [if_pos hcap], fun _ => rfl⟩
  · rw [if_neg hcap, if_neg hcap]
    by_cases hfull : isFullAndCapacityNotZero (lists.list t) = true
    · have hcount := (h.isFull_iff hcap).1 hfull
      rw [if_pos hfull, if_pos hcount]
      have hex : ∃ c ∈ cells, c.entry.type = t := by
        have hpos : 0 < (queue cells).countP (·.type = t) := by omega
        obtain ⟨e, he, hte⟩ := List.countP_pos_iff.1 hpos
        obtain ⟨c, hc, rfl⟩ := List.mem_map.1 he
        exact ⟨c, hc, by simpa using hte⟩
      obtain ⟨lists₁, cells₁, hmake, hrep₁, hq₁, hcaps₁⟩ := h.makeSpace hex
      have hroom : (queue cells₁).countP (·.type = t) < (lists₁.list t).capacity := by
        rw [hq₁, hcaps₁, ← hcount, countP_eraseP]
        omega
      obtain ⟨lists', c, happ, hc, hrep, hcaps⟩ := hrep₁.append event hroom
      refine ⟨lists', _, true, ?_, hrep, ?_, fun t => (hcaps t).trans (hcaps₁ t)⟩
      · rw [hmake]
        simp only [Option.bind_eq_bind, Option.bind_some, happ]
        rfl
      · rw [queue_append, hq₁, ← hc]
        rfl
    · have hcount := fun hcount => hfull ((h.isFull_iff hcap).2 hcount)
      rw [if_neg hfull, if_neg hcount]
      have hroom : (queue cells).countP (·.type = t) < (lists.list t).capacity := by
        obtain ⟨frees, hl⟩ := h.list t
        have hle := hl.length_le
        rw [length_storages] at hle
        exact lt_of_le_of_ne hle hcount
      obtain ⟨lists', c, happ, hc, hrep, hcaps⟩ := h.append event hroom
      refine ⟨lists', _, false, ?_, hrep, ?_, hcaps⟩
      · rw [happ]
        rfl
      · rw [queue_append, ← hc]
        rfl

end Rep

end Opendnp3
