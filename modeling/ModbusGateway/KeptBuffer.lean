import ModbusGateway.EventRuns

/-!
# An event buffer that holds a queue (opendnp3)

The event buffers the code can build: those that hold the queue of some ledger. Their calls follow no null pointer,
so here they return what they return, and each keeps the ledger as `Ledger.Step` says.

* `load_spec`, `clearWritten_spec`, … — a call on the buffer, and the ledger after it.
-/

namespace Opendnp3

variable {V σ α : Type} {config : EventBufferConfig}

def KeptBuffer (V : Type) (config : EventBufferConfig) : Type := { b : EventBuffer V // ∃ l, Keeps config b l }

namespace KeptBuffer

/-- The result of a call that returns one. -/
def result (x : Option (EventBuffer V × α)) (h : ∃ r l, x = some r ∧ Keeps config r.1 l) : KeptBuffer V config × α :=
  have hsome : x.isSome := by
    obtain ⟨r, -, hr, -⟩ := h
    rw [hr, Option.isSome_some]
  (⟨(x.get hsome).1, by
    obtain ⟨r, l, rfl, hl⟩ := h
    exact ⟨l, hl⟩⟩, (x.get hsome).2)

theorem result_of_eq {x : Option (EventBuffer V × α)} (h : ∃ r l, x = some r ∧ Keeps config r.1 l)
    {r : EventBuffer V × α} (hr : x = some r) : ((result x h).1.1, (result x h).2) = r := by
  subst hr
  rfl

/-- `x` with nothing beside it. -/
def buffer (x : Option (EventBuffer V)) (h : ∃ b l, x = some b ∧ Keeps config b l) : KeptBuffer V config :=
  (result (x.map (·, ())) (by
    obtain ⟨b, l, rfl, hl⟩ := h
    exact ⟨_, l, rfl, hl⟩)).1

theorem buffer_of_eq {x : Option (EventBuffer V)} (h : ∃ b l, x = some b ∧ Keeps config b l) {b : EventBuffer V}
    (hb : x = some b) : (buffer x h).1 = b := by
  subst hb
  rfl

def ofConfig [Inhabited V] (config : EventBufferConfig) : KeptBuffer V config := ⟨.ofConfig config, _, .ofConfig config⟩

/-! ## Calls -/

def update (b : KeptBuffer V config) (t : EventType) (event : Event V Nat) : KeptBuffer V config :=
  buffer (b.1.update t event) (by
    obtain ⟨l, hl⟩ := b.2
    obtain ⟨b', hb', hl'⟩ := hl.update t event
    exact ⟨b', _, hb', hl'⟩)

def updateAll (b : KeptBuffer V config) (updates : List (EventType × Event V Nat)) : KeptBuffer V config :=
  updates.foldl (fun b e => b.update e.1 e.2) b

/-- Whether the group and variation is of events, beside the buffer. -/
def selectMaxCount (b : KeptBuffer V config) (gv : GroupVariation) (maximum : Nat) : KeptBuffer V config × Bool :=
  result (b.1.selectMaxCount gv maximum) (by
    obtain ⟨l, hl⟩ := b.2
    cases hs : gv.selector with
    | none => exact ⟨(b.1, false), l, by rw [EventBuffer.selectMaxCount, hs], hl⟩
    | some selector =>
      obtain ⟨b', hb', hl'⟩ := hl.select maximum hs
      exact ⟨(b', true), _, hb', hl'⟩)

def selectAll (b : KeptBuffer V config) (gv : GroupVariation) : KeptBuffer V config × Bool :=
  b.selectMaxCount gv EventBuffer.uint32Max

def selectCount (b : KeptBuffer V config) (gv : GroupVariation) (count : UInt16) : KeptBuffer V config × Bool :=
  b.selectMaxCount gv count.toNat

def selectAllByClass (b : KeptBuffer V config) (clazz : ClassField) : KeptBuffer V config :=
  buffer (b.1.selectAllByClass clazz) (by
    obtain ⟨l, hl⟩ := b.2
    obtain ⟨b', hb', hl'⟩ := hl.selectAllByClass clazz
    exact ⟨b', _, hb', hl'⟩)

def unselect (b : KeptBuffer V config) : KeptBuffer V config :=
  buffer b.1.unselect (by
    obtain ⟨l, hl⟩ := b.2
    obtain ⟨b', hb', hl'⟩ := hl.unselect
    exact ⟨b', _, hb', hl'⟩)

def clearWritten (b : KeptBuffer V config) : KeptBuffer V config :=
  buffer b.1.clearWritten (by
    obtain ⟨l, hl⟩ := b.2
    obtain ⟨b', hb', hl'⟩ := hl.clearWritten
    exact ⟨b', _, hb', hl'⟩)

/-- The handler after it, and whether all selected events were written. -/
def load (b : KeptBuffer V config) (H : WriteHandler σ V) (handler : σ) : KeptBuffer V config × σ × Bool :=
  result (b.1.load H handler) (by
    obtain ⟨l, hl⟩ := b.2
    obtain ⟨b', s', out, hb', -, hl'⟩ := hl.load H handler
    exact ⟨_, _, hb', hl'⟩)

def isOverflown (b : KeptBuffer V config) : KeptBuffer V config × Bool :=
  (⟨b.1.isOverflown.1, by
    obtain ⟨l, hl⟩ := b.2
    exact ⟨_, hl.isOverflown.2⟩⟩, b.1.isOverflown.2)

def hasAnySelection (b : KeptBuffer V config) : Bool := b.1.hasAnySelection

def unwrittenClassField (b : KeptBuffer V config) : ClassField := b.1.unwrittenClassField

/-! ## What they do to the ledger -/

variable {b : KeptBuffer V config} {l : Ledger V}

/-- A selection marks entries that are not selected yet. -/
theorem selectMaxCount_spec (h : Keeps config b.1 l) (gv : GroupVariation) (maximum : Nat) :
    ∃ l', Keeps config (b.selectMaxCount gv maximum).1.1 l' ∧
      (l' = l ∨ ∃ selector, l' = l.select maximum selector) := by
  cases hs : gv.selector with
  | none =>
    refine ⟨l, ?_, Or.inl rfl⟩
    have hb' : b.1.selectMaxCount gv maximum = some (b.1, false) := by rw [EventBuffer.selectMaxCount, hs]
    have hkept : ∃ r l, b.1.selectMaxCount gv maximum = some r ∧ Keeps config r.1 l := ⟨_, l, hb', h⟩
    have hres := result_of_eq hkept hb'
    rwa [selectMaxCount, (Prod.mk.inj hres).1]
  | some selector =>
    obtain ⟨b', hb', hl'⟩ := h.select maximum hs
    refine ⟨_, ?_, Or.inr ⟨selector, rfl⟩⟩
    have hkept : ∃ r l, b.1.selectMaxCount gv maximum = some r ∧ Keeps config r.1 l := ⟨_, _, hb', hl'⟩
    have hres := result_of_eq hkept hb'
    rwa [selectMaxCount, (Prod.mk.inj hres).1]

theorem selectAllByClass_spec (h : Keeps config b.1 l) (clazz : ClassField) :
    Keeps config (b.selectAllByClass clazz).1 { l with
      queue := EventQueue.mark (EventQueue.isOfClass clazz.hasEventType) EventQueue.select EventBuffer.uint32Max
        l.queue } := by
  obtain ⟨b', hb', hl'⟩ := h.selectAllByClass clazz
  rwa [selectAllByClass, buffer_of_eq _ hb']

theorem load_spec (h : Keeps config b.1 l) (H : WriteHandler σ V) (handler : σ) :
    ∃ out, Reported H handler (EventQueue.selected l.queue) out (b.load H handler).2.1 ∧
      (b.load H handler).2.2 = decide (out.length = (EventQueue.selected l.queue).length) ∧
      Keeps config (b.load H handler).1.1 (l.report out) := by
  obtain ⟨b', s', out, hb', hreported, hl'⟩ := h.load H handler
  have hkept : ∃ r l, b.1.load H handler = some r ∧ Keeps config r.1 l := ⟨_, _, hb', hl'⟩
  have hres := Prod.mk.inj (result_of_eq hkept hb')
  have hrest := Prod.mk.inj hres.2
  exact ⟨out, hrest.1 ▸ hreported, hrest.2, hres.1 ▸ hl'⟩

theorem isOverflown_spec (h : Keeps config b.1 l) :
    Keeps config b.isOverflown.1.1
      { l with overflow := l.overflow && Ledger.anyFull (fun t => (config.max t).toNat) l.queue } :=
  h.isOverflown.2

end KeptBuffer

end Opendnp3
