import ModbusGateway.EventReport

/-!
# The event buffer over runs (opendnp3)

Any calls of the event buffer in any order, from its construction on.

* `Keeps.unique` — the buffer tells what its queue is.
* `run_refines` — no call follows a null pointer, and the answers are those of a ledger: one queue of events, with
  what has come, has been reported, has been cleared and was lost.
* `events_conserved` — every event that has come is in the queue, was cleared or was lost, once; the queue is in the
  order of arrival; what is written in it or was cleared has been reported.
-/

namespace Opendnp3

variable {V σ : Type}

/-! ## Calls -/

inductive BufferInput (V σ : Type) where
  | update (t : EventType) (event : Event V Nat)
  | selectAll (gv : GroupVariation)
  | selectCount (gv : GroupVariation) (count : UInt16)
  | selectAllByClass (clazz : ClassField)
  | load (handler : σ)
  | clearWritten
  | unselect
  | isOverflown
  | hasAnySelection
  | unwrittenClassField

inductive BufferOutput (σ : Type) where
  | none
  | supported (b : Bool)
  | loaded (handler : σ) (all : Bool)
  | flag (b : Bool)
  | classes (clazz : ClassField)

namespace EventBuffer

def step (H : WriteHandler σ V) (b : EventBuffer V) : BufferInput V σ → Option (EventBuffer V × BufferOutput σ)
  | .update t event => (b.update t event).map (·, .none)
  | .selectAll gv => (b.selectAll gv).map fun (b, supported) => (b, .supported supported)
  | .selectCount gv count => (b.selectCount gv count).map fun (b, supported) => (b, .supported supported)
  | .selectAllByClass clazz => (b.selectAllByClass clazz).map (·, .none)
  | .load handler => (b.load H handler).map fun (b, handler, all) => (b, .loaded handler all)
  | .clearWritten => b.clearWritten.map (·, .none)
  | .unselect => b.unselect.map (·, .none)
  | .isOverflown => some (b.isOverflown.1, .flag b.isOverflown.2)
  | .hasAnySelection => some (b, .flag b.hasAnySelection)
  | .unwrittenClassField => some (b, .classes b.unwrittenClassField)

/-- The calls one after the other, with their answers. -/
def run (H : WriteHandler σ V) : EventBuffer V → List (BufferInput V σ) → Option (EventBuffer V × List (BufferOutput σ))
  | b, [] => some (b, [])
  | b, input :: inputs => do
    let (b, out) ← b.step H input
    let (b, outs) ← run H b inputs
    return (b, out :: outs)

end EventBuffer

/-! ## The ledger -/

/-- An event without what the buffer notes about it. -/
def Entry.origin (e : Entry V) : EventType × Event V Nat := (e.type, ⟨e.value, e.index, e.clazz, e.defaultVariation⟩)

/-- The queue, and what became of the events: `accepted` have come to a type with room for events, `reported` were
taken by a handler, `cleared` and `lost` have left the queue. -/
structure Ledger (V : Type) where
  queue : List (Entry V) := []
  overflow : Bool := false
  accepted : List (EventType × Event V Nat) := []
  reported : List (EventType × Event V Nat) := []
  cleared : List (EventType × Event V Nat) := []
  lost : List (EventType × Event V Nat) := []

namespace Ledger

def origins (q : List (Entry V)) : List (EventType × Event V Nat) := q.map Entry.origin

def writtenOf (q : List (Entry V)) : List (Entry V) := q.filter (·.state = .written)

/-- Some type is at its bound. -/
def anyFull (capacity : EventType → Nat) (q : List (Entry V)) : Bool :=
  EventType.all.any fun t => q.countP (·.type = t) = capacity t && 0 < capacity t

def update (capacity : EventType → Nat) (l : Ledger V) (t : EventType) (event : Event V Nat) : Ledger V :=
  let (queue, overflow) := EventQueue.update capacity l.queue t event
  { l with
    queue
    overflow := l.overflow || overflow
    accepted := if capacity t = 0 then l.accepted else l.accepted ++ [(t, event)]
    lost := if overflow then l.lost ++ origins (l.queue.find? (·.type = t)).toList else l.lost }

def select (l : Ledger V) (maximum : Nat) : EventSelector → Ledger V
  | .all t => { l with
    queue := EventQueue.mark (EventQueue.isOfType t) (EventQueue.selectVariation none) maximum l.queue }
  | .variation t v => { l with
    queue := EventQueue.mark (EventQueue.isOfType t) (EventQueue.selectVariation (some v)) maximum l.queue }
  | .clazz ec => { l with
    queue := EventQueue.mark (EventQueue.isOfClass (fun k => k = ec)) EventQueue.select maximum l.queue }

def report (l : Ledger V) (out : List (Entry V)) : Ledger V :=
  { l with queue := EventQueue.report out.length l.queue, reported := l.reported ++ origins out }

def clear (l : Ledger V) : Ledger V :=
  { l with
    queue := l.queue.filterMap EventQueue.keep
    cleared := l.cleared ++ origins (writtenOf l.queue) }

def unwritten (l : Ledger V) (ec : EventClass) : Bool := l.queue.any fun e => e.state ≠ .written && e.clazz = ec

/-- **What a call does to the ledger**, and its answer. -/
inductive Step (H : WriteHandler σ V) (capacity : EventType → Nat) :
    Ledger V → BufferInput V σ → Ledger V → BufferOutput σ → Prop
  | update {l t event} : Step H capacity l (.update t event) (l.update capacity t event) .none
  | selectAll {l : Ledger V} {gv selector} (h : gv.selector = some selector) :
      Step H capacity l (.selectAll gv) (l.select EventBuffer.uint32Max selector) (.supported true)
  | selectCount {l : Ledger V} {gv selector count} (h : gv.selector = some selector) :
      Step H capacity l (.selectCount gv count) (l.select count.toNat selector) (.supported true)
  | unsupportedAll {l gv} (h : gv.selector = none) : Step H capacity l (.selectAll gv) l (.supported false)
  | unsupportedCount {l gv count} (h : gv.selector = none) :
      Step H capacity l (.selectCount gv count) l (.supported false)
  | selectAllByClass {l : Ledger V} {clazz : ClassField} : Step H capacity l (.selectAllByClass clazz)
      { l with
        queue := EventQueue.mark (EventQueue.isOfClass clazz.hasEventType) EventQueue.select EventBuffer.uint32Max
          l.queue } .none
  | load {l : Ledger V} {s s' : σ} {out : List (Entry V)}
      (h : Reported H s (EventQueue.selected l.queue) out s') : Step H capacity l (.load s) (l.report out)
        (.loaded s' (out.length = (EventQueue.selected l.queue).length))
  | clearWritten {l} : Step H capacity l .clearWritten l.clear .none
  | unselect {l : Ledger V} : Step H capacity l .unselect { l with queue := EventQueue.unselect l.queue } .none
  | isOverflown {l : Ledger V} : Step H capacity l .isOverflown
      { l with overflow := l.overflow && anyFull capacity l.queue } (.flag (l.overflow && anyFull capacity l.queue))
  | hasAnySelection {l : Ledger V} :
      Step H capacity l .hasAnySelection l (.flag !(EventQueue.selected l.queue).isEmpty)
  | unwrittenClassField {l : Ledger V} : Step H capacity l .unwrittenClassField l
      (.classes { class1 := l.unwritten .ec1, class2 := l.unwritten .ec2, class3 := l.unwritten .ec3 })

inductive Run (H : WriteHandler σ V) (capacity : EventType → Nat) :
    Ledger V → List (BufferInput V σ) → Ledger V → List (BufferOutput σ) → Prop
  | nil {l : Ledger V} : Run H capacity l [] l []
  | cons {l l₁ l' : Ledger V} {input inputs out outs} (h : Step H capacity l input l₁ out)
      (hrest : Run H capacity l₁ inputs l' outs) : Run H capacity l (input :: inputs) l' (out :: outs)

end Ledger

/-! ## The buffer keeps the ledger's queue -/

/-- The buffer `b`, built for `config`, holds the queue of the ledger. -/
structure Keeps (config : EventBufferConfig) (b : EventBuffer V) (l : Ledger V) : Prop where
  rep : ∃ cells, Rep b.storage cells ∧ queue cells = l.queue
  overflow : b.overflow = l.overflow
  caps : ∀ t, (b.storage.list t).capacity = (config.max t).toNat

section Keeps
variable {config : EventBufferConfig} {b : EventBuffer V} {l : Ledger V} {H : WriteHandler σ V}

theorem Rep.isAnyTypeFull {lists : EventLists V} {cells : List (Cell V)} (h : Rep lists cells) :
    lists.isAnyTypeFull = Ledger.anyFull (fun t => (lists.list t).capacity) (queue cells) := by
  have hfull : ∀ t, isFullAndCapacityNotZero (lists.list t) =
      ((queue cells).countP (·.type = t) = (lists.list t).capacity && 0 < (lists.list t).capacity) := by
    intro t
    obtain ⟨frees, hl⟩ := h.list t
    rw [isFullAndCapacityNotZero, Bool.eq_iff_iff, Bool.and_eq_true, Bool.and_eq_true, Option.isNone_iff_eq_none,
      hl.free_eq_none_iff, length_storages, decide_eq_true_iff, decide_eq_true_iff]
  rw [EventLists.isAnyTypeFull, Ledger.anyFull]
  simp only [hfull, EventType.all, List.any_cons, List.any_nil, Bool.or_false]
  ac_rfl

/-- The difference of two counters is the number of events that are not written. -/
theorem Counted.unwritten {counters : EventClassCounters} {q : List (Entry V)} (h : Counted counters q)
    (hq : q.length < 2 ^ 32) (k : EventClass) :
    (0 < counters.total.get k - counters.written.get k) ↔ ∃ e ∈ q, e.state ≠ .written ∧ e.clazz = k := by
  have hsplit : q.countP (·.clazz = k) = (q.countP fun e => e.state ≠ .written && e.clazz = k) +
      q.countP fun e => e.state = .written && e.clazz = k := by
    rw [List.countP_eq_countP_filter_add q (·.clazz = k) (·.state ≠ .written), List.countP_filter, List.countP_filter]
    congr 1 <;> refine List.countP_congr fun e _ => ?_ <;> simp [and_comm]
  have hle : q.countP (·.clazz = k) ≤ q.length := List.countP_le_length
  have hlt : (q.countP fun e => e.state ≠ .written && e.clazz = k) < 2 ^ 32 := by omega
  rw [h.total, h.written, hsplit, UInt32.ofNat_add, UInt32.add_sub_cancel, UInt32.lt_iff_toNat_lt,
    UInt32.toNat_ofNat_of_lt' hlt, UInt32.toNat_zero, List.countP_pos_iff]
  simp

theorem Keeps.ofConfig [Inhabited V] (config : EventBufferConfig) : Keeps config (EventBuffer.ofConfig (V := V) config) {} :=
  ⟨⟨[], Rep.ofConfig config, rfl⟩, rfl, fun _ => rfl⟩

/-- The buffer keeps one queue only. -/
theorem Keeps.unique {l' : Ledger V} (h : Keeps config b l) (h' : Keeps config b l') :
    l.queue = l'.queue ∧ l.overflow = l'.overflow := by
  obtain ⟨⟨cells, hrep, hq⟩, hoverflow, -⟩ := h
  obtain ⟨⟨cells', hrep', hq'⟩, hoverflow', -⟩ := h'
  exact ⟨by rw [← hq, ← hq', hrep.unique hrep'], hoverflow.symm.trans hoverflow'⟩

theorem Keeps.length_lt (h : Keeps config b l) : l.queue.length < 2 ^ 32 := by
  obtain ⟨⟨cells, hrep, hq⟩, -, -⟩ := h
  obtain ⟨frees, hev⟩ := hrep.events
  have hle := hev.length_le
  rw [nodes, List.length_map] at hle
  rw [← hq, queue, List.length_map]
  exact lt_of_le_of_lt hle hrep.small

theorem Keeps.counted (h : Keeps config b l) : Counted b.storage.counters l.queue := by
  obtain ⟨⟨cells, hrep, hq⟩, -, -⟩ := h
  exact hq ▸ hrep.counted

theorem Keeps.update (h : Keeps config b l) (t : EventType) (event : Event V Nat) :
    ∃ b', b.update t event = some b' ∧ Keeps config b' (l.update (fun t => (config.max t).toNat) t event) := by
  obtain ⟨⟨cells, hrep, hq⟩, hoverflow, hcaps⟩ := h
  obtain ⟨lists', cells', overflow, hupdate, hrep', hq', hcaps'⟩ := hrep.update t event
  rw [hq, funext hcaps] at hq'
  refine ⟨⟨b.overflow || overflow, lists'⟩, ?_, ⟨cells', hrep', ?_⟩, ?_, fun t => (hcaps' t).trans (hcaps t)⟩
  · rw [EventBuffer.update, hupdate]
    rfl
  · rw [Ledger.update, ← hq']
  · rw [Ledger.update, ← hq', hoverflow]

theorem Keeps.select (h : Keeps config b l) (maximum : Nat) {gv : GroupVariation} {selector : EventSelector}
    (hs : gv.selector = some selector) :
    ∃ b', b.selectMaxCount gv maximum = some (b', true) ∧ Keeps config b' (l.select maximum selector) := by
  obtain ⟨⟨cells, hrep, hq⟩, hoverflow, hcaps⟩ := h
  rw [EventBuffer.selectMaxCount, hs]
  cases selector with
  | all t =>
    obtain ⟨lists', cells', n, hsel, hrep', hq', hcaps'⟩ := hrep.selectByTypeGeneric t none maximum
    refine ⟨{ b with storage := lists' }, by simp only [hsel]; rfl, ⟨cells', hrep', ?_⟩, hoverflow,
      fun t => (hcaps' t).trans (hcaps t)⟩
    rw [hq', hq, Ledger.select]
  | variation t v =>
    obtain ⟨lists', cells', n, hsel, hrep', hq', hcaps'⟩ := hrep.selectByTypeGeneric t (some v) maximum
    refine ⟨{ b with storage := lists' }, by simp only [hsel]; rfl, ⟨cells', hrep', ?_⟩, hoverflow,
      fun t => (hcaps' t).trans (hcaps t)⟩
    rw [hq', hq, Ledger.select]
  | clazz ec =>
    obtain ⟨lists', cells', n, hsel, hrep', hq', hcaps'⟩ := hrep.selectByClass (fun k => k = ec) maximum
    refine ⟨{ b with storage := lists' }, by simp only [hsel]; rfl, ⟨cells', hrep', ?_⟩, hoverflow,
      fun t => (hcaps' t).trans (hcaps t)⟩
    rw [hq', hq, Ledger.select]

theorem Keeps.selectAllByClass (h : Keeps config b l) (clazz : ClassField) :
    ∃ b', b.selectAllByClass clazz = some b' ∧ Keeps config b' { l with
      queue := EventQueue.mark (EventQueue.isOfClass clazz.hasEventType) EventQueue.select EventBuffer.uint32Max
        l.queue } := by
  obtain ⟨⟨cells, hrep, hq⟩, hoverflow, hcaps⟩ := h
  obtain ⟨lists', cells', n, hsel, hrep', hq', hcaps'⟩ := hrep.selectByClass clazz.hasEventType EventBuffer.uint32Max
  refine ⟨{ b with storage := lists' }, ?_, ⟨cells', hrep', by rw [hq', hq]⟩, hoverflow,
    fun t => (hcaps' t).trans (hcaps t)⟩
  rw [EventBuffer.selectAllByClass, hsel]
  rfl

theorem selected_report (n : Nat) (q : List (Entry V)) :
    EventQueue.selected (EventQueue.report n q) = (EventQueue.selected q).drop n := by
  induction q generalizing n with
  | nil => cases n <;> simp [EventQueue.report, EventQueue.mark, EventQueue.selected]
  | cons e q ih =>
    cases he : EventQueue.isSelected e with
    | false =>
      rw [EventQueue.report, mark_cons_of_neg he, EventQueue.selected, EventQueue.selected,
        List.filter_cons_of_neg (by simpa [EventQueue.isSelected] using he),
        List.filter_cons_of_neg (by simpa [EventQueue.isSelected] using he)]
      exact ih n
    | true =>
      cases n with
      | zero => rw [EventQueue.report, mark_zero, List.drop_zero]
      | succ n =>
        rw [EventQueue.report, mark_cons_of_pos he, EventQueue.selected, EventQueue.selected,
          List.filter_cons_of_neg (by simp [EventQueue.written]),
          List.filter_cons_of_pos (by simpa [EventQueue.isSelected] using he), List.drop_succ_cons]
        exact ih n

theorem Keeps.load (h : Keeps config b l) (H : WriteHandler σ V) (s : σ) :
    ∃ b' s' out, b.load H s = some (b', s', decide (out.length = (EventQueue.selected l.queue).length)) ∧
      Reported H s (EventQueue.selected l.queue) out s' ∧ Keeps config b' (l.report out) := by
  obtain ⟨⟨cells, hrep, hq⟩, hoverflow, hcaps⟩ := h
  obtain ⟨lists', cells', s', out, hwrite, hrep', hreported, hq', hlist⟩ := hrep.write H s
  rw [hq] at hreported hq'
  have hkeeps : Keeps config { b with storage := lists' } (l.report out) :=
    ⟨⟨cells', hrep', hq'⟩, hoverflow, fun t => by rw [← hcaps t, ← hlist]⟩
  refine ⟨{ b with storage := lists' }, s', out, ?_, hreported, hkeeps⟩
  have hle := hreported.isPrefix.length_le
  have hall : lists'.counters.selected = 0 ↔ out.length = (EventQueue.selected l.queue).length := by
    rw [hkeeps.counted.selected_eq_zero_iff hkeeps.length_lt, Ledger.report, selected_report, List.drop_eq_nil_iff]
    omega
  rw [EventBuffer.load, hwrite]
  simp only [Option.bind_eq_bind, Option.bind_some, hall]
  rfl

theorem Keeps.clearWritten (h : Keeps config b l) : ∃ b', b.clearWritten = some b' ∧ Keeps config b' l.clear := by
  obtain ⟨⟨cells, hrep, hq⟩, hoverflow, hcaps⟩ := h
  obtain ⟨lists', cells', n, hclear, hrep', hq', hcaps'⟩ := hrep.clearWritten
  refine ⟨{ b with storage := lists' }, ?_, ⟨cells', hrep', by rw [hq', hq, Ledger.clear]⟩, hoverflow,
    fun t => (hcaps' t).trans (hcaps t)⟩
  rw [EventBuffer.clearWritten, hclear]
  rfl

theorem Keeps.unselect (h : Keeps config b l) :
    ∃ b', b.unselect = some b' ∧ Keeps config b' { l with queue := EventQueue.unselect l.queue } := by
  obtain ⟨⟨cells, hrep, hq⟩, hoverflow, hcaps⟩ := h
  obtain ⟨lists', cells', hunselect, hrep', hq', hlist⟩ := hrep.unselect
  refine ⟨{ b with storage := lists' }, ?_, ⟨cells', hrep', by rw [hq', hq]⟩, hoverflow,
    fun t => by rw [← hcaps t, ← hlist]⟩
  rw [EventBuffer.unselect, hunselect]
  rfl

theorem Keeps.isOverflown (h : Keeps config b l) :
    b.isOverflown.2 = (l.overflow && Ledger.anyFull (fun t => (config.max t).toNat) l.queue) ∧
      Keeps config b.isOverflown.1
        { l with overflow := l.overflow && Ledger.anyFull (fun t => (config.max t).toNat) l.queue } := by
  have hfull : b.storage.isAnyTypeFull = Ledger.anyFull (fun t => (config.max t).toNat) l.queue := by
    obtain ⟨⟨cells, hrep, hq⟩, -, hcaps⟩ := h
    rw [hrep.isAnyTypeFull, hq, funext hcaps]
  have hstep : b.isOverflown.1.overflow = (l.overflow && Ledger.anyFull (fun t => (config.max t).toNat) l.queue) ∧
      b.isOverflown.1.storage = b.storage := by
    rw [EventBuffer.isOverflown, ← hfull, ← h.overflow]
    cases hov : b.overflow <;> cases b.storage.isAnyTypeFull <;> simp [hov]
  refine ⟨hstep.1, ⟨?_, hstep.1, ?_⟩⟩
  · rw [hstep.2]
    exact h.rep
  · rw [hstep.2]
    exact h.caps

/-- **A call of the buffer is a step of the ledger.** -/
theorem Keeps.step (h : Keeps config b l) (input : BufferInput V σ) :
    ∃ b' l' out, b.step H input = some (b', out) ∧ Ledger.Step H (fun t => (config.max t).toNat) l input l' out ∧
      Keeps config b' l' := by
  cases input with
  | update t event =>
    obtain ⟨b', hb', hkeeps⟩ := h.update t event
    exact ⟨b', _, _, by rw [EventBuffer.step, hb']; rfl, .update, hkeeps⟩
  | selectAll gv =>
    cases hs : gv.selector with
    | none =>
      refine ⟨b, l, _, ?_, .unsupportedAll hs, h⟩
      rw [EventBuffer.step, EventBuffer.selectAll, EventBuffer.selectMaxCount, hs]
      rfl
    | some selector =>
      obtain ⟨b', hb', hkeeps⟩ := h.select EventBuffer.uint32Max hs
      exact ⟨b', _, _, by rw [EventBuffer.step, EventBuffer.selectAll, hb']; rfl, .selectAll hs, hkeeps⟩
  | selectCount gv count =>
    cases hs : gv.selector with
    | none =>
      refine ⟨b, l, _, ?_, .unsupportedCount hs, h⟩
      rw [EventBuffer.step, EventBuffer.selectCount, EventBuffer.selectMaxCount, hs]
      rfl
    | some selector =>
      obtain ⟨b', hb', hkeeps⟩ := h.select count.toNat hs
      exact ⟨b', _, _, by rw [EventBuffer.step, EventBuffer.selectCount, hb']; rfl, .selectCount hs, hkeeps⟩
  | selectAllByClass clazz =>
    obtain ⟨b', hb', hkeeps⟩ := h.selectAllByClass clazz
    exact ⟨b', _, _, by rw [EventBuffer.step, hb']; rfl, .selectAllByClass, hkeeps⟩
  | load s =>
    obtain ⟨b', s', out, hb', hreported, hkeeps⟩ := h.load H s
    exact ⟨b', _, _, by rw [EventBuffer.step, hb']; rfl, .load hreported, hkeeps⟩
  | clearWritten =>
    obtain ⟨b', hb', hkeeps⟩ := h.clearWritten
    exact ⟨b', _, _, by rw [EventBuffer.step, hb']; rfl, .clearWritten, hkeeps⟩
  | unselect =>
    obtain ⟨b', hb', hkeeps⟩ := h.unselect
    exact ⟨b', _, _, by rw [EventBuffer.step, hb']; rfl, .unselect, hkeeps⟩
  | isOverflown =>
    obtain ⟨hflag, hkeeps⟩ := h.isOverflown
    exact ⟨b.isOverflown.1, _, _, by rw [EventBuffer.step, hflag], .isOverflown, hkeeps⟩
  | hasAnySelection =>
    refine ⟨b, l, _, ?_, .hasAnySelection, h⟩
    have hzero := h.counted.selected_eq_zero_iff h.length_lt
    rw [EventBuffer.step, EventBuffer.hasAnySelection]
    congr 3
    rw [Bool.eq_iff_iff]
    simp [UInt32.pos_iff_ne_zero, hzero]
  | unwrittenClassField =>
    refine ⟨b, l, _, ?_, .unwrittenClassField, h⟩
    have hclass : ∀ ec, decide (0 < b.numUnwritten ec) = l.unwritten ec := by
      intro ec
      rw [Bool.eq_iff_iff, decide_eq_true_iff, EventBuffer.numUnwritten, h.counted.unwritten h.length_lt, Ledger.unwritten]
      simp
    rw [EventBuffer.step, EventBuffer.unwrittenClassField, hclass, hclass, hclass]

theorem Keeps.run (h : Keeps config b l) (inputs : List (BufferInput V σ)) :
    ∃ b' l' outs, b.run H inputs = some (b', outs) ∧
      Ledger.Run H (fun t => (config.max t).toNat) l inputs l' outs ∧ Keeps config b' l' := by
  induction inputs generalizing b l with
  | nil => exact ⟨b, l, [], rfl, .nil, h⟩
  | cons input inputs ih =>
    obtain ⟨b₁, l₁, out, hstep, hledger, hkeeps⟩ := h.step (H := H) input
    obtain ⟨b', l', outs, hrun, hrest, hkeeps'⟩ := ih hkeeps
    refine ⟨b', l', out :: outs, ?_, .cons hledger hrest, hkeeps'⟩
    rw [EventBuffer.run, hstep]
    simp only [Option.bind_eq_bind, Option.bind_some, hrun]
    rfl

end Keeps

/-- **The event buffer is a ledger's queue**: whatever is called, no call follows a null pointer, and the answers are
the ledger's. -/
theorem run_refines [Inhabited V] (H : WriteHandler σ V) (config : EventBufferConfig) (inputs : List (BufferInput V σ)) :
    ∃ b l outs, (EventBuffer.ofConfig config).run H inputs = some (b, outs) ∧
      Ledger.Run H (fun t => (config.max t).toNat) {} inputs l outs ∧ Keeps config b l :=
  (Keeps.ofConfig config).run inputs

/-! ## What becomes of an event -/

namespace Ledger

/-- `perm`: each event that has come is in the queue, cleared or lost. `reported`: each one written in the queue and
each one cleared is a report of its own. -/
structure Balanced (capacity : EventType → Nat) (l : Ledger V) : Prop where
  perm : (origins l.queue ++ l.cleared ++ l.lost).Perm l.accepted
  order : (origins l.queue).Sublist l.accepted
  reported : (origins (writtenOf l.queue) ++ l.cleared).Subperm l.reported
  bound : ∀ t, l.queue.countP (·.type = t) ≤ capacity t

section
variable {p : Entry V → Bool} {f : Entry V → Entry V} {n : Nat} {q : List (Entry V)} {l : Ledger V}
variable {capacity : EventType → Nat}

theorem countP_origins (t : EventType) (q : List (Entry V)) :
    q.countP (·.type = t) = (origins q).countP (·.1 = t) := by
  rw [origins, List.countP_map]
  rfl

theorem origins_mark (hf : ∀ e, (f e).origin = e.origin) : origins (EventQueue.mark p f n q) = origins q := by
  induction q generalizing n with
  | nil => cases n <;> rfl
  | cons e q ih =>
    cases hp : p e with
    | false => rw [mark_cons_of_neg hp, origins, List.map_cons, ← origins, ih]; rfl
    | true =>
      cases n with
      | zero => rw [mark_zero]
      | succ n => rw [mark_cons_of_pos hp, origins, List.map_cons, ← origins, ih, hf]; rfl

/-- A selection leaves what is written. -/
theorem writtenOf_mark (hp : ∀ e, p e = true → e.state = .unselected) (hf : ∀ e, (f e).state = .selected) :
    writtenOf (EventQueue.mark p f n q) = writtenOf q := by
  induction q generalizing n with
  | nil => cases n <;> rfl
  | cons e q ih =>
    cases he : p e with
    | false =>
      rw [mark_cons_of_neg he, writtenOf, writtenOf, List.filter_cons, List.filter_cons, ← writtenOf, ← writtenOf, ih]
    | true =>
      cases n with
      | zero => rw [mark_zero]
      | succ n =>
        rw [mark_cons_of_pos he, writtenOf, writtenOf, List.filter_cons_of_neg (by simp [hf]),
          List.filter_cons_of_neg (by simp [hp e he])]
        exact ih

/-- What is written after a report: what was, and what is out. -/
theorem writtenOf_report (n : Nat) (q : List (Entry V)) :
    (origins (writtenOf (EventQueue.report n q))).Perm
      (origins (writtenOf q) ++ origins ((EventQueue.selected q).take n)) := by
  induction q generalizing n with
  | nil => cases n <;> simp [EventQueue.report, EventQueue.mark, EventQueue.selected, writtenOf, origins]
  | cons e q ih =>
    cases n with
    | zero => simp [EventQueue.report, origins]
    | succ n =>
      cases hs : e.state with
      | unselected =>
        rw [EventQueue.report, mark_cons_of_neg (by simp [EventQueue.isSelected, hs])]
        simpa [EventQueue.report, writtenOf, EventQueue.selected, hs] using ih (n + 1)
      | written =>
        rw [EventQueue.report, mark_cons_of_neg (by simp [EventQueue.isSelected, hs])]
        simpa [EventQueue.report, writtenOf, EventQueue.selected, hs, origins] using ih (n + 1)
      | selected =>
        rw [EventQueue.report, mark_cons_of_pos (by simp [EventQueue.isSelected, hs])]
        have hperm := (ih n).cons e.origin
        simp only [writtenOf, EventQueue.selected, EventQueue.written, origins, List.filter_cons, hs] at hperm ⊢
        exact hperm.trans List.perm_middle.symm

/-- The marks on the events change. -/
theorem Balanced.marks (h : Balanced capacity l) {queue : List (Entry V)} (hq : origins queue = origins l.queue)
    (hw : (origins (writtenOf queue)).Sublist (origins (writtenOf l.queue))) :
    Balanced capacity { l with queue } where
  perm := by
    rw [hq]
    exact h.perm
  order := by
    rw [hq]
    exact h.order
  reported := (hw.append_right l.cleared).subperm.trans h.reported
  bound t := by
    rw [countP_origins, hq, ← countP_origins]
    exact h.bound t

theorem Balanced.select (h : Balanced capacity l) (hp : ∀ e, p e = true → e.state = .unselected)
    (hf : ∀ e, (f e).state = .selected) (ho : ∀ e, (f e).origin = e.origin) (n : Nat) :
    Balanced capacity { l with queue := EventQueue.mark p f n l.queue } :=
  h.marks (origins_mark ho) (by rw [writtenOf_mark hp hf])

theorem origin_ofEvent (t : EventType) (event : Event V Nat) : (Entry.ofEvent t event).origin = (t, event) := rfl

/-- A new event, with room for it. -/
theorem Balanced.append (h : Balanced capacity l) (t : EventType) (event : Event V Nat)
    (hroom : l.queue.countP (·.type = t) < capacity t) :
    Balanced capacity { l with
      queue := l.queue ++ [.ofEvent t event], accepted := l.accepted ++ [(t, event)] } where
  perm := by
    classical
    refine List.perm_iff_count.2 fun a => ?_
    have hcount := h.perm.count_eq a
    simp only [origins, List.map_append, List.count_append, List.map_cons, List.map_nil, origin_ofEvent] at hcount ⊢
    omega
  order := by
    rw [origins, List.map_append]
    exact h.order.append (List.Sublist.refl _)
  reported := by
    have hnew : writtenOf (l.queue ++ [Entry.ofEvent t event]) = writtenOf l.queue := by
      simp [writtenOf, List.filter_append, Entry.ofEvent]
    rw [hnew]
    exact h.reported
  bound t' := by
    rw [List.countP_append]
    by_cases ht : t = t'
    · subst ht
      simpa [Entry.ofEvent, Nat.succ_le_iff] using hroom
    · simpa [Entry.ofEvent, ht] using h.bound t'

theorem find_append_erase (p : Entry V → Bool) (q : List (Entry V)) : ((q.find? p).toList ++ q.eraseP p).Perm q := by
  induction q with
  | nil => exact List.Perm.refl _
  | cons e q ih =>
    cases he : p e with
    | false =>
      rw [List.find?_cons_of_neg (by simp [he]), List.eraseP_cons_of_neg (by simp [he])]
      exact List.perm_middle.trans (ih.cons e)
    | true =>
      rw [List.find?_cons_of_pos (by simp [he]), List.eraseP_cons_of_pos (by simp [he])]
      exact List.Perm.refl _

/-- The oldest event of a type is lost. -/
theorem Balanced.lose (h : Balanced capacity l) (t : EventType) :
    Balanced capacity { l with
      queue := l.queue.eraseP (·.type = t)
      lost := l.lost ++ origins (l.queue.find? (·.type = t)).toList } where
  perm := by
    classical
    refine List.perm_iff_count.2 fun a => ?_
    have hcount := h.perm.count_eq a
    have hfind := ((find_append_erase (·.type = t) l.queue).map Entry.origin).count_eq a
    simp only [origins, List.map_append, List.count_append] at hcount hfind ⊢
    omega
  order := (List.eraseP_sublist.map _).trans h.order
  reported := by
    have hsub : (writtenOf (l.queue.eraseP (·.type = t))).Sublist (writtenOf l.queue) := List.eraseP_sublist.filter _
    exact ((hsub.map Entry.origin).append_right l.cleared).subperm.trans h.reported
  bound t' := List.eraseP_sublist.countP_le.trans (h.bound t')

theorem Balanced.update (h : Balanced capacity l) (t : EventType) (event : Event V Nat) :
    Balanced capacity (l.update capacity t event) := by
  unfold Ledger.update EventQueue.update
  by_cases hcap : capacity t = 0
  · simp only [if_pos hcap]
    exact { h with }
  · simp only [if_neg hcap]
    by_cases hfull : l.queue.countP (·.type = t) = capacity t
    · simp only [if_pos hfull]
      have hroom : (l.queue.eraseP (·.type = t)).countP (·.type = t) < capacity t := by
        rw [countP_eraseP, hfull]
        omega
      exact { (h.lose t).append t event hroom with }
    · simp only [if_neg hfull]
      exact { h.append t event (lt_of_le_of_ne (h.bound t) hfull) with }

theorem origins_report (n : Nat) (q : List (Entry V)) : origins (EventQueue.report n q) = origins q :=
  origins_mark fun _ => rfl

theorem Balanced.report (h : Balanced capacity l) {out : List (Entry V)} (hout : out <+: EventQueue.selected l.queue) :
    Balanced capacity (l.report out) where
  perm := ((origins_report out.length l.queue).symm ▸ h.perm :)
  order := (origins_report out.length l.queue).symm ▸ h.order
  reported := by
    have hperm := writtenOf_report out.length l.queue
    rw [← List.prefix_iff_eq_take.1 hout] at hperm
    refine (List.Perm.subperm ?_).trans ((List.subperm_append_right (origins out)).2 h.reported)
    refine (hperm.append_right l.cleared).trans ?_
    rw [List.append_assoc, List.append_assoc]
    exact List.Perm.append_left _ List.perm_append_comm
  bound t := by
    have hbound := h.bound t
    rw [countP_origins] at hbound ⊢
    exact (origins_report out.length l.queue).symm ▸ hbound

/-- What is cleared and what is kept. -/
theorem keep_append_written (q : List (Entry V)) : (q.filterMap EventQueue.keep ++ writtenOf q).Perm q := by
  induction q with
  | nil => exact List.Perm.refl _
  | cons e q ih =>
    by_cases he : e.state = .written
    · have hkeep : EventQueue.keep e = none := if_pos he
      rw [List.filterMap_cons_none hkeep, writtenOf, List.filter_cons_of_pos (by simpa using he)]
      exact List.perm_middle.trans (ih.cons e)
    · have hkeep : EventQueue.keep e = some e := if_neg he
      rw [List.filterMap_cons_some hkeep, writtenOf, List.filter_cons_of_neg (by simpa using he)]
      exact ih.cons e

theorem keep_sublist (q : List (Entry V)) : (q.filterMap EventQueue.keep).Sublist q := by
  induction q with
  | nil => exact List.Sublist.refl _
  | cons e q ih =>
    by_cases he : e.state = .written
    · have hkeep : EventQueue.keep e = none := if_pos he
      rw [List.filterMap_cons_none hkeep]
      exact ih.cons e
    · have hkeep : EventQueue.keep e = some e := if_neg he
      rw [List.filterMap_cons_some hkeep]
      exact ih.cons_cons e

theorem writtenOf_keep (q : List (Entry V)) : writtenOf (q.filterMap EventQueue.keep) = [] := by
  rw [writtenOf, List.filter_eq_nil_iff]
  intro e he
  obtain ⟨e', -, hkeep⟩ := List.mem_filterMap.1 he
  unfold EventQueue.keep at hkeep
  split at hkeep
  · cases hkeep
  next hne =>
    obtain rfl := Option.some.inj hkeep
    simpa using hne

theorem Balanced.clear (h : Balanced capacity l) : Balanced capacity l.clear where
  perm := by
    classical
    refine List.perm_iff_count.2 fun a => ?_
    have hcount := h.perm.count_eq a
    have hkeep := ((keep_append_written l.queue).map Entry.origin).count_eq a
    simp only [Ledger.clear, origins, List.map_append, List.count_append] at hcount hkeep ⊢
    omega
  order := ((keep_sublist l.queue).map Entry.origin).trans h.order
  reported := by
    rw [Ledger.clear, writtenOf_keep]
    refine (List.Perm.subperm ?_).trans h.reported
    simpa [origins] using List.perm_append_comm
  bound t := (keep_sublist l.queue).countP_le.trans (h.bound t)

theorem Balanced.selectType (h : Balanced capacity l) (t : EventType) (variation : Option Nat) (n : Nat) :
    Balanced capacity { l with
      queue := EventQueue.mark (EventQueue.isOfType t) (EventQueue.selectVariation variation) n l.queue } :=
  h.select (p := EventQueue.isOfType t) (f := EventQueue.selectVariation variation)
    (fun e he => by simp [EventQueue.isOfType] at he; exact he.2) (fun _ => rfl) (fun _ => rfl) n

theorem Balanced.selectClass (h : Balanced capacity l) (clazz : EventClass → Bool) (n : Nat) :
    Balanced capacity { l with
      queue := EventQueue.mark (EventQueue.isOfClass clazz) EventQueue.select n l.queue } :=
  h.select (p := EventQueue.isOfClass clazz) (f := EventQueue.select)
    (fun e he => by simp [EventQueue.isOfClass] at he; exact he.1) (fun _ => rfl) (fun _ => rfl) n

/-- **Each step of the ledger keeps the balance.** -/
theorem Balanced.step {H : WriteHandler σ V} {l' : Ledger V} {input : BufferInput V σ} {out : BufferOutput σ}
    (h : Balanced capacity l) (hs : Step H capacity l input l' out) : Balanced capacity l' := by
  have hsel : ∀ n selector, Balanced capacity (l.select n selector) := by
    intro n selector
    cases selector with
    | all t => exact h.selectType t none n
    | variation t v => exact h.selectType t (some v) n
    | clazz ec => exact h.selectClass (fun k => k = ec) n
  cases hs with
  | update => exact h.update _ _
  | selectAll => exact hsel _ _
  | selectCount => exact hsel _ _
  | unsupportedAll => exact h
  | unsupportedCount => exact h
  | selectAllByClass => exact h.selectClass _ _
  | load hreported => exact h.report hreported.isPrefix
  | clearWritten => exact h.clear
  | unselect =>
    refine h.marks ?_ ?_
    · rw [EventQueue.unselect, origins, List.map_map]
      rfl
    · have hnil : writtenOf (EventQueue.unselect l.queue) = [] := by
        rw [writtenOf, List.filter_eq_nil_iff]
        simp [EventQueue.unselect]
      rw [hnil]
      exact List.nil_sublist _
  | isOverflown => exact { h with }
  | hasAnySelection => exact h
  | unwrittenClassField => exact h

end

theorem Run.balanced {H : WriteHandler σ V} {capacity : EventType → Nat} {l l' : Ledger V}
    {inputs : List (BufferInput V σ)} {outs : List (BufferOutput σ)} (hrun : Run H capacity l inputs l' outs)
    (h : Balanced capacity l) : Balanced capacity l' := by
  induction hrun with
  | nil => exact h
  | cons hstep _ ih => exact ih (h.step hstep)

end Ledger

/-- What a call brings to a type with room for events. -/
def BufferInput.accepted (config : EventBufferConfig) : BufferInput V σ → Option (EventType × Event V Nat)
  | .update t event => if (config.max t).toNat = 0 then none else some (t, event)
  | _ => none

theorem Ledger.select_accepted (l : Ledger V) (n : Nat) (selector : EventSelector) :
    (l.select n selector).accepted = l.accepted := by cases selector <;> rfl

theorem Ledger.Run.accepted {H : WriteHandler σ V} {config : EventBufferConfig} {l l' : Ledger V}
    {inputs : List (BufferInput V σ)} {outs : List (BufferOutput σ)}
    (h : Ledger.Run H (fun t => (config.max t).toNat) l inputs l' outs) :
    l'.accepted = l.accepted ++ inputs.filterMap (·.accepted config) := by
  induction h with
  | nil => simp
  | @cons l l₁ l' input inputs out outs hstep _ ih =>
    have hone : l₁.accepted = l.accepted ++ (input.accepted config).toList := by
      cases hstep with
      | @update t event =>
        rw [Ledger.update, BufferInput.accepted]
        by_cases ht : (config.max t).toNat = 0 <;> simp [ht]
      | selectAll => simp [Ledger.select_accepted, BufferInput.accepted]
      | selectCount => simp [Ledger.select_accepted, BufferInput.accepted]
      | _ => simp [BufferInput.accepted, Ledger.report, Ledger.clear]
    rw [ih, hone, List.append_assoc, List.filterMap_cons]
    cases input.accepted config <;> rfl

/-- **No event is lost but by overflow.** In the ledger that the calls and their answers have written, which the buffer
keeps: of the events that have come to a type with room, each is in the queue, was cleared or was lost, once; those in
the queue are in the order of arrival, at most as many of a type as its bound; and those that are written in the queue
or were cleared have been reported at least as often. -/
theorem events_conserved [Inhabited V] (H : WriteHandler σ V) (config : EventBufferConfig)
    (inputs : List (BufferInput V σ)) :
    ∃ b outs l, (EventBuffer.ofConfig config).run H inputs = some (b, outs) ∧
      Ledger.Run H (fun t => (config.max t).toNat) {} inputs l outs ∧ Keeps config b l ∧
      l.accepted = inputs.filterMap (·.accepted config) ∧ l.Balanced fun t => (config.max t).toNat := by
  obtain ⟨b, l, outs, hrun, hledger, hkeeps⟩ := (Keeps.ofConfig (V := V) config).run (H := H) inputs
  exact ⟨b, outs, l, hrun, hledger, hkeeps, hledger.accepted,
    hledger.balanced ⟨.nil, .refl _, .refl _, fun _ => Nat.zero_le _⟩⟩

end Opendnp3
