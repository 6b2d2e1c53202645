import ModbusGateway.EventQueue

/-!
# Selecting and clearing events (opendnp3)

What the loops over the lists of the event buffer are on its queue.

* `Rep.selectByTypeGeneric`, `Rep.selectByClass` — a selection marks the first events that it is for.
* `Rep.clearWritten` — the written events go, the others stay in their order.
* `Rep.unselect` — every event is as it came.
-/

namespace Opendnp3

open LinkedList (Arena)

variable {V σ : Type}

/-! ## Selection -/

section mark
variable {p : Entry V → Bool} {f : Entry V → Entry V} {q q' : List (Entry V)} {e : Entry V} {n : Nat}

@[simp] theorem mark_zero : EventQueue.mark p f 0 q = q := by rw [EventQueue.mark]

theorem mark_cons_of_neg (he : p e = false) : EventQueue.mark p f n (e :: q) = e :: EventQueue.mark p f n q := by
  cases n with
  | zero => simp
  | succ n => rw [EventQueue.mark, he]; rfl

theorem mark_cons_of_pos (he : p e = true) :
    EventQueue.mark p f (n + 1) (e :: q) = f e :: EventQueue.mark p f n q := by
  rw [EventQueue.mark, if_pos he]

theorem mark_append (hq : ∀ e ∈ q, p e = false) : EventQueue.mark p f n (q ++ q') = q ++ EventQueue.mark p f n q' := by
  induction q with
  | nil => rfl
  | cons e q ih =>
    rw [List.cons_append, mark_cons_of_neg (hq e List.mem_cons_self), ih fun e' he' => hq e' (List.mem_cons_of_mem e he')]
    rfl

theorem mark_eq_self (hq : ∀ e ∈ q, p e = false) : EventQueue.mark p f n q = q := by
  have h : EventQueue.mark p f n (q ++ []) = q ++ EventQueue.mark p f n [] := mark_append hq
  rw [List.append_nil] at h
  rw [h]
  cases n <;> simp [EventQueue.mark]

end mark

section Select
variable {lists lists' : EventLists V} {cells xs ys : List (Cell V)} {c : Cell V} {t : EventType}

/-- The first node of a type, and what comes before it. -/
theorem storages_eq_cons {j : Nat} {rest : List Nat} (h : storages t ys = j :: rest) :
    ∃ mid c ys', ys = mid ++ c :: ys' ∧ (∀ e ∈ queue mid, e.type ≠ t) ∧ c.entry.type = t ∧ c.storage = j ∧
      storages t ys' = rest := by
  induction ys with
  | nil => cases h
  | cons c ys ih =>
    rw [storages_cons] at h
    by_cases hc : c.entry.type = t
    · rw [if_pos hc] at h
      obtain ⟨rfl, rfl⟩ := List.cons.inj h
      exact ⟨[], c, ys, rfl, (fun e he => by cases he), hc, rfl, rfl⟩
    · rw [if_neg hc] at h
      obtain ⟨mid, c', ys', rfl, hmid, hc', hj, hrest⟩ := ih h
      refine ⟨c :: mid, c', ys', rfl, fun e he => ?_, hc', hj, hrest⟩
      rcases List.mem_cons.1 he with rfl | he
      · exact hc
      · exact hmid e he

theorem storages_eq_nil (h : storages t ys = []) : ∀ e ∈ queue ys, e.type ≠ t := by
  intro e he ht
  obtain ⟨c, hc, rfl⟩ := List.mem_map.1 he
  rw [storages, List.map_eq_nil_iff, List.filter_eq_nil_iff] at h
  exact h c hc (by simpa using ht)

/-- An event that is not selected is, with a variation for it. -/
theorem Rep.selectOne (h : Rep lists (xs ++ c :: ys)) (hc : c.entry.state = .unselected) {e : Entry V}
    (ht : e.type = c.entry.type) (he : e.state = .selected) (hk : e.clazz = c.entry.clazz)
    (hevents : lists'.events = lists.events.modify c.node fun record => { record with state := .selected })
    (hrecord : Cell.record ⟨c.node, c.storage, e⟩ = { c.record with state := .selected })
    (hlist : ∀ {t ids frees}, (lists.list t).Holds ids frees → (lists'.list t).Holds ids frees)
    (htyped : ∀ t j, ((lists'.list t).node j).value =
      if t = e.type ∧ j = c.storage then Cell.typed ⟨c.node, c.storage, e⟩ else ((lists.list t).node j).value)
    (hcaps : ∀ t, (lists'.list t).capacity = (lists.list t).capacity)
    (hcount : lists'.counters = lists.counters.onSelect) : Rep lists' (xs ++ ⟨c.node, c.storage, e⟩ :: ys) := by
  refine h.change ht (fun hev => hevents ▸ hev.modify) hlist (fun i => ?_) htyped (by rw [hevents]; rfl) hcaps ?_
  · rw [hevents, Arena.node_modify]
    split
    next hi =>
      rw [hrecord, ← h.record c (by simp)]
    next => rfl
  · rw [hcount]
    exact counted_middle.2 (h.counted_here.onSelect hc he hk)

/-- A selection after some of the cells: the events of `xs` are dealt with, those of `ys` are to come. -/
structure Selects (p : Entry V → Bool) (f : Entry V → Entry V) (max : Nat) (start : EventLists V) (q : List (Entry V))
    (s : EventLists.Selecting V) (xs ys : List (Cell V)) : Prop where
  rep : Rep s.lists (xs ++ ys)
  marked : queue xs ++ EventQueue.mark p f (max - s.num_selected) (queue ys) = EventQueue.mark p f max q
  le : s.num_selected ≤ max
  caps : ∀ t, (s.lists.list t).capacity = (start.list t).capacity

section
variable {p : Entry V → Bool} {f : Entry V → Entry V} {max : Nat} {start : EventLists V} {q : List (Entry V)}
variable {s s' : EventLists.Selecting V}

theorem Selects.skip (mid : List (Cell V)) (h : Selects p f max start q s xs (mid ++ ys))
    (hmid : ∀ e ∈ queue mid, p e = false) : Selects p f max start q s (xs ++ mid) ys where
  rep := by rw [List.append_assoc]; exact h.rep
  marked := by
    rw [← h.marked, queue_append, queue_append, mark_append hmid, List.append_assoc]
  le := h.le
  caps := h.caps

theorem Selects.take (h : Selects p f max start q s xs (c :: ys)) (hp : p c.entry = true) (hlt : s.num_selected < max)
    (hrep : Rep s'.lists (xs ++ ⟨c.node, c.storage, f c.entry⟩ :: ys)) (hnum : s'.num_selected = s.num_selected + 1)
    (hcaps : ∀ t, (s'.lists.list t).capacity = (s.lists.list t).capacity) :
    Selects p f max start q s' (xs ++ [⟨c.node, c.storage, f c.entry⟩]) ys where
  rep := by rw [List.append_assoc]; exact hrep
  marked := by
    have hsub : max - s.num_selected = (max - s'.num_selected) + 1 := by omega
    rw [← h.marked, hsub]
    simp [queue, mark_cons_of_pos hp]
  le := by omega
  caps t := (hcaps t).trans (h.caps t)

/-- With as many as wanted, the rest is left alone. -/
theorem Selects.enough (mid : List (Cell V)) (h : Selects p f max start q s xs (mid ++ ys)) (hnum : s.num_selected = max) :
    Selects p f max start q s (xs ++ mid) ys where
  rep := by rw [List.append_assoc]; exact h.rep
  marked := by
    have hmarked := h.marked
    rw [hnum, Nat.sub_self, mark_zero] at hmarked ⊢
    rw [← hmarked, queue_append, queue_append, List.append_assoc]
  le := h.le
  caps := h.caps

/-- When the loop is over, the events that it was to mark are marked. -/
theorem Selects.finish (h : Selects p f max start q s xs ys) (hend : s.num_selected = max ∨ ∀ e ∈ queue ys, p e = false) :
    queue (xs ++ ys) = EventQueue.mark p f max q := by
  rw [← h.marked, queue_append]
  rcases hend with hend | hend
  · rw [hend, Nat.sub_self, mark_zero]
  · rw [mark_eq_self hend]

/-- What a selection by type selects. -/
def EventQueue.isOfType (t : EventType) (e : Entry V) : Bool := e.type = t && e.state = .unselected

theorem Selects.typed {variation : Option Nat}
    (h : Selects (EventQueue.isOfType t) (EventQueue.selectVariation variation) max start q s xs (c :: ys))
    (hc : c.entry.type = t) (hmore : s.more = true) :
    ∃ s' xs', EventLists.Selecting.typed t variation max c.storage s = some s' ∧
      Selects (EventQueue.isOfType t) (EventQueue.selectVariation variation) max start q s' xs' ys ∧
      (s'.more = false → s'.num_selected = max) := by
  subst hc
  have hmem : c ∈ xs ++ c :: ys := by simp
  unfold EventLists.Selecting.typed
  by_cases hnum : s.num_selected = max
  · rw [if_pos hnum]
    have henough := Selects.enough [c] h hnum
    exact ⟨_, xs ++ [c], rfl, { henough with }, fun _ => hnum⟩
  · rw [if_neg hnum]
    simp only [Option.bind_eq_bind, h.rep.typed c hmem, h.rep.record c hmem, Cell.typed, Cell.record, Option.bind_some]
    by_cases hstate : c.entry.state = .unselected
    · rw [if_pos hstate]
      have hp : EventQueue.isOfType c.entry.type c.entry = true := by simp [EventQueue.isOfType, hstate]
      refine ⟨_, _, rfl, h.take hp (lt_of_le_of_ne h.le hnum)
        (h.rep.selectOne hstate rfl rfl rfl rfl rfl ?_ ?_ ?_ rfl) rfl ?_, by simp [hmore]⟩
      · intro t ids frees hl
        rw [modifyTyped_list]
        split
        next ht =>
          subst ht
          exact hl.modify
        next => exact hl
      · intro t j
        refine modifyTyped_value.trans ?_
        rw [show ((s.lists.setState c.node .selected).list c.entry.type) = s.lists.list c.entry.type from rfl,
          h.rep.typed c hmem]
        rfl
      · exact fun t => modifyTyped_capacity
      · exact fun t => modifyTyped_capacity
    · rw [if_neg hstate]
      have hp : EventQueue.isOfType c.entry.type c.entry = false := by simp [EventQueue.isOfType, hstate]
      exact ⟨s, xs ++ [c], rfl, Selects.skip [c] h (by simpa [queue] using hp), by simp [hmore]⟩

end

/-- **A selection by type marks the first events of the type that are not selected.** -/
theorem Rep.selectByTypeGeneric (h : Rep lists cells) (t : EventType) (variation : Option Nat) (max : Nat) :
    ∃ lists' cells' n, lists.selectByTypeGeneric t variation max = some (lists', n) ∧ Rep lists' cells' ∧
      queue cells' = EventQueue.mark (EventQueue.isOfType t) (EventQueue.selectVariation variation) max (queue cells) ∧
      ∀ t, (lists'.list t).capacity = (lists.list t).capacity := by
  obtain ⟨frees, hl⟩ := h.list t
  have hloop : ∃ s, Arena.visitWhile (fun s : EventLists.Selecting V => s.lists.list t) (·.more)
      (EventLists.Selecting.typed t variation max) (lists.list t).capacity (storages t cells).head? { lists } = some s ∧
      ∃ cells', Rep s.lists cells' ∧ queue cells' =
        EventQueue.mark (EventQueue.isOfType t) (EventQueue.selectVariation variation) max (queue cells) ∧
        ∀ t, (s.lists.list t).capacity = (lists.list t).capacity := by
    refine Arena.visitWhile_rule (I := fun rest s => ∃ xs ys, rest = storages t ys ∧ Selects (EventQueue.isOfType t)
      (EventQueue.selectVariation variation) max lists (queue cells) s xs ys ∧ (s.more = false → s.num_selected = max))
      ?_ ?_ ?_ ?_ ⟨[], cells, rfl, ⟨h, by simp [queue], Nat.zero_le _, fun _ => rfl⟩, by simp⟩ hl.length_le
    · rintro j rest s ⟨xs, ys, hrest, hsel, -⟩
      obtain ⟨frees, hl⟩ := hsel.rep.list t
      rw [storages_append, ← hrest] at hl
      exact hl.next
    · rintro j rest s ⟨xs, ys, hrest, hsel, -⟩ hmore
      obtain ⟨mid, c, ys', rfl, hmid, hc, rfl, rfl⟩ := storages_eq_cons hrest.symm
      have hp : ∀ e ∈ queue mid, EventQueue.isOfType t e = false :=
        fun e he => by simp [EventQueue.isOfType, hmid e he]
      obtain ⟨s', xs', hs', hsel', hmore'⟩ := (hsel.skip mid hp).typed hc hmore
      exact ⟨s', hs', xs', ys', rfl, hsel', hmore'⟩
    · rintro j rest s ⟨xs, ys, -, hsel, hnum⟩ hmore
      exact ⟨xs ++ ys, hsel.rep, hsel.finish (Or.inl (hnum hmore)), hsel.caps⟩
    · rintro s ⟨xs, ys, hrest, hsel, -⟩
      refine ⟨xs ++ ys, hsel.rep, hsel.finish (Or.inr fun e he => ?_), hsel.caps⟩
      simp [EventQueue.isOfType, storages_eq_nil hrest.symm e he]
  obtain ⟨s, hs, cells', hrep, hq, hcaps⟩ := hloop
  refine ⟨s.lists, cells', s.num_selected, ?_, hrep, hq, hcaps⟩
  rw [EventLists.selectByTypeGeneric, hl.head, hs]
  rfl

/-- What a selection by class selects. -/
def EventQueue.isOfClass (clazz : EventClass → Bool) (e : Entry V) : Bool := e.state = .unselected && clazz e.clazz

theorem setState_holds {ids frees : List Nat} {i : Nat} {state : EventState} (h : lists.events.Holds ids frees) :
    (lists.setState i state).events.Holds ids frees := by
  have hmodify : (lists.events.modify i fun record => { record with state }).Holds ids frees := h.modify
  exact hmodify

/-- Only the state of an event changes. -/
theorem Rep.setState (h : Rep lists (xs ++ c :: ys)) {state : EventState}
    (hevents : lists'.events = (lists.setState c.node state).events) (hlist : lists'.list = lists.list)
    (hcount : Counted lists'.counters (queue xs ++ { c.entry with state } :: queue ys)) :
    Rep lists' (xs ++ ⟨c.node, c.storage, { c.entry with state }⟩ :: ys) := by
  have hmem : c ∈ xs ++ c :: ys := by simp
  refine h.change rfl (fun hev => by rw [hevents]; exact setState_holds hev)
    (fun hl => hlist ▸ hl) (fun i => ?_) (fun t j => ?_)
    (by rw [hevents]; rfl) (fun t => by rw [hlist]) hcount
  · rw [hevents, EventLists.setState, Arena.node_modify]
    split
    · rw [h.record c hmem]
      rfl
    · rfl
  · rw [hlist]
    split
    next hj =>
      rw [hj.1, hj.2, h.typed c hmem]
      rfl
    · rfl

theorem Selects.classed {max : Nat} {start : EventLists V} {q : List (Entry V)}
    {s : EventLists.Selecting V} {clazz : EventClass → Bool}
    (h : Selects (EventQueue.isOfClass clazz) EventQueue.select max start q s xs (c :: ys))
    (hmore : s.num_selected < max) :
    ∃ s' xs', EventLists.Selecting.classed clazz max c.node s = some s' ∧
      Selects (EventQueue.isOfClass clazz) EventQueue.select max start q s' xs' ys ∧
      s'.more = decide (s'.num_selected < max) := by
  have hmem : c ∈ xs ++ c :: ys := by simp
  unfold EventLists.Selecting.classed
  simp only [h.rep.record c hmem, Cell.record]
  by_cases hp : EventQueue.isOfClass clazz c.entry = true
  · have hp' : c.entry.state = .unselected ∧ clazz c.entry.clazz = true := by
      simpa [EventQueue.isOfClass] using hp
    rw [if_pos hp']
    exact ⟨_, _, rfl, h.take hp hmore (h.rep.setState rfl rfl
      (counted_middle.2 (h.rep.counted_here.onSelect hp'.1 rfl rfl))) rfl (fun _ => rfl), rfl⟩
  · have hp' : ¬(c.entry.state = .unselected ∧ clazz c.entry.clazz = true) := by
      simpa [EventQueue.isOfClass] using hp
    rw [if_neg hp']
    have hskip := Selects.skip [c] h (by simpa [queue] using hp)
    exact ⟨_, xs ++ [c], rfl, { hskip with }, rfl⟩

/-- **A selection by class marks the first events of the classes that are not selected.** -/
theorem Rep.selectByClass (h : Rep lists cells) (clazz : EventClass → Bool) (max : Nat) :
    ∃ lists' cells' n, lists.selectByClass clazz max = some (lists', n) ∧ Rep lists' cells' ∧
      queue cells' = EventQueue.mark (EventQueue.isOfClass clazz) EventQueue.select max (queue cells) ∧
      ∀ t, (lists'.list t).capacity = (lists.list t).capacity := by
  obtain ⟨frees, hev⟩ := h.events
  have hloop : ∃ s, Arena.visitWhile (fun s : EventLists.Selecting V => s.lists.events) (·.more)
      (EventLists.Selecting.classed clazz max) lists.events.capacity (nodes cells).head?
      { lists, more := decide (0 < max) } = some s ∧
      ∃ cells', Rep s.lists cells' ∧
        queue cells' = EventQueue.mark (EventQueue.isOfClass clazz) EventQueue.select max (queue cells) ∧
        ∀ t, (s.lists.list t).capacity = (lists.list t).capacity := by
    refine Arena.visitWhile_rule (I := fun rest s => ∃ xs ys, rest = nodes ys ∧
      Selects (EventQueue.isOfClass clazz) EventQueue.select max lists (queue cells) s xs ys ∧
      s.more = decide (s.num_selected < max))
      ?_ ?_ ?_ ?_ ⟨[], cells, rfl, ⟨h, by simp [queue], Nat.zero_le _, fun _ => rfl⟩, rfl⟩ hev.length_le
    · rintro i rest s ⟨xs, ys, hrest, hsel, -⟩
      obtain ⟨frees, hev⟩ := hsel.rep.events
      rw [nodes_append, ← hrest] at hev
      exact hev.next
    · rintro i rest s ⟨xs, ys, hrest, hsel, hnum⟩ hmore
      rw [hmore] at hnum
      cases ys with
      | nil => cases hrest
      | cons c ys =>
        obtain ⟨rfl, rfl⟩ := List.cons.inj hrest
        obtain ⟨s', xs', hs', hsel', hmore'⟩ := hsel.classed (of_decide_eq_true hnum.symm)
        exact ⟨s', hs', xs', ys, rfl, hsel', hmore'⟩
    · rintro i rest s ⟨xs, ys, -, hsel, hnum⟩ hmore
      rw [hmore] at hnum
      have hle := hsel.le
      exact ⟨xs ++ ys, hsel.rep, hsel.finish (Or.inl (by simp at hnum; omega)), hsel.caps⟩
    · rintro s ⟨xs, ys, hrest, hsel, -⟩
      obtain rfl := List.map_eq_nil_iff.1 hrest.symm
      exact ⟨xs ++ [], hsel.rep, hsel.finish (Or.inr fun e he => by cases he), hsel.caps⟩
  obtain ⟨s, hs, cells', hrep, hq, hcaps⟩ := hloop
  refine ⟨s.lists, cells', s.num_selected, ?_, hrep, hq, hcaps⟩
  rw [EventLists.selectByClass, hev.head, hs]
  rfl

/-! ## Clearing -/

/-- What a loop over the master list has done to the events it passed. -/
structure Passed (f : Entry V → Option (Entry V)) (q : List (Entry V)) (lists : EventLists V) (xs ys : List (Cell V)) :
    Prop where
  rep : Rep lists (xs ++ ys)
  passed : queue xs ++ (queue ys).filterMap f = q.filterMap f

theorem Passed.next {f : Entry V → Option (Entry V)} {q : List (Entry V)} (h : Passed f q lists xs (c :: ys)) :
    (lists.events.node c.node).next = (nodes ys).head? := by
  obtain ⟨frees, hev⟩ := h.rep.events
  rw [nodes_append] at hev
  exact hev.next

def EventQueue.keep (e : Entry V) : Option (Entry V) := if e.state = .written then none else some e

theorem Passed.clear {q : List (Entry V)} {s : EventLists V × Nat} (h : Passed EventQueue.keep q s.1 xs (c :: ys)) :
    ∃ s' xs', EventLists.clear c.node s = some s' ∧ Passed EventQueue.keep q s'.1 xs' ys ∧
      ∀ t, (s'.1.list t).capacity = (s.1.list t).capacity := by
  have hrecord := h.rep.record c (by simp)
  by_cases hstate : c.entry.state = .written
  · have hkeep : EventQueue.keep c.entry = none := if_pos hstate
    obtain ⟨s', hs', hevents, hlist, hcount⟩ : ∃ s', EventLists.clear c.node s = some s' ∧
        s'.1.events = s.1.events.remove c.node ∧
        (∀ t, s'.1.list t = if t = c.entry.type then (s.1.list t).remove c.storage else s.1.list t) ∧
        s'.1.counters = s.1.counters.onRemove c.entry.clazz c.entry.state := by
      refine ⟨({ s.1.modifyTyped c.entry.type (·.remove c.storage) with
          events := s.1.events.remove c.node
          counters := s.1.counters.onRemove c.entry.clazz c.entry.state }, s.2 + 1), ?_, rfl, fun t => ?_, rfl⟩
      · rw [EventLists.clear, hrecord, Cell.record, if_pos hstate]
        rfl
      · exact modifyTyped_remove
    obtain ⟨hrep, hcaps⟩ := h.rep.remove hevents hlist hcount
    refine ⟨s', xs, hs', ⟨hrep, ?_⟩, hcaps⟩
    rw [← h.passed]
    simp [queue, hkeep]
  · have hkeep : EventQueue.keep c.entry = some c.entry := if_neg hstate
    refine ⟨s, xs ++ [c], ?_, ⟨by simpa using h.rep, ?_⟩, fun _ => rfl⟩
    · rw [EventLists.clear, hrecord, Cell.record, if_neg hstate]
    · rw [← h.passed]
      simp [queue, hkeep]

/-- **Clearing takes the written events out of the queue.** -/
theorem Rep.clearWritten (h : Rep lists cells) :
    ∃ lists' cells' n, lists.clearWritten = some (lists', n) ∧ Rep lists' cells' ∧
      queue cells' = (queue cells).filterMap EventQueue.keep ∧
      ∀ t, (lists'.list t).capacity = (lists.list t).capacity := by
  obtain ⟨frees, hev⟩ := h.events
  have hloop : ∃ s, Arena.visitWhile (fun s : EventLists V × Nat => s.1.events) (fun _ => true) EventLists.clear
      lists.events.capacity (nodes cells).head? (lists, 0) = some s ∧
      ∃ cells', Rep s.1 cells' ∧ queue cells' = (queue cells).filterMap EventQueue.keep ∧
        ∀ t, (s.1.list t).capacity = (lists.list t).capacity := by
    refine Arena.visitWhile_rule (I := fun rest s => ∃ xs ys, rest = nodes ys ∧
      Passed EventQueue.keep (queue cells) s.1 xs ys ∧ ∀ t, (s.1.list t).capacity = (lists.list t).capacity)
      ?_ ?_ ?_ ?_ ⟨[], cells, rfl, ⟨h, rfl⟩, fun _ => rfl⟩ hev.length_le
    · rintro i rest s ⟨xs, ys, hrest, hpass, -⟩
      cases ys with
      | nil => cases hrest
      | cons c ys =>
        obtain ⟨rfl, rfl⟩ := List.cons.inj hrest
        exact hpass.next
    · rintro i rest s ⟨xs, ys, hrest, hpass, hcaps⟩ -
      cases ys with
      | nil => cases hrest
      | cons c ys =>
        obtain ⟨rfl, rfl⟩ := List.cons.inj hrest
        obtain ⟨s', xs', hs', hpass', hcaps'⟩ := hpass.clear
        exact ⟨s', hs', xs', ys, rfl, hpass', fun t => (hcaps' t).trans (hcaps t)⟩
    · intro i rest s _ hmore
      cases hmore
    · rintro s ⟨xs, ys, hrest, hpass, hcaps⟩
      obtain rfl := List.map_eq_nil_iff.1 hrest.symm
      have hq := hpass.passed
      refine ⟨xs, by simpa using hpass.rep, ?_, hcaps⟩
      rw [← hq]
      simp [queue]
  obtain ⟨s, hs, cells', hrep, hq, hcaps⟩ := hloop
  refine ⟨s.1, cells', s.2, ?_, hrep, hq, hcaps⟩
  rw [EventLists.clearWritten, hev.head, hs]

/-! ## Giving up a selection -/

theorem exists_counted (q : List (Entry V)) : ∃ counters, Counted counters q := by
  refine ⟨⟨⟨.ofNat (q.countP (·.clazz = .ec1)), .ofNat (q.countP (·.clazz = .ec2)), .ofNat (q.countP (·.clazz = .ec3))⟩,
    ⟨.ofNat (q.countP fun e => e.state = .written && e.clazz = .ec1),
      .ofNat (q.countP fun e => e.state = .written && e.clazz = .ec2),
      .ofNat (q.countP fun e => e.state = .written && e.clazz = .ec3)⟩, .ofNat (q.countP (·.state = .selected))⟩,
    fun k => ?_, fun k => ?_, rfl⟩ <;> cases k <;> rfl

theorem Counted.resetOnFail {counters : EventClassCounters} {q : List (Entry V)} (h : Counted counters q) :
    Counted counters.resetOnFail (EventQueue.unselect q) where
  total k := by
    rw [EventQueue.unselect, List.countP_map]
    exact h.total k
  written k := by
    have hzero : (EventQueue.unselect q).countP (fun e => e.state = .written && e.clazz = k) = 0 :=
      List.countP_eq_zero.2 (by simp [EventQueue.unselect])
    rw [hzero]
    cases k <;> rfl
  selected := by
    have hzero : (EventQueue.unselect q).countP (·.state = .selected) = 0 :=
      List.countP_eq_zero.2 (by simp [EventQueue.unselect])
    rw [hzero]
    rfl

def EventQueue.reset (e : Entry V) : Option (Entry V) := some { e with state := .unselected }

theorem filterMap_reset (q : List (Entry V)) : q.filterMap EventQueue.reset = EventQueue.unselect q := by
  rw [EventQueue.unselect, ← List.filterMap_eq_map]
  rfl

/-- **Giving up a selection** gives up every event's. -/
theorem Rep.unselect (h : Rep lists cells) :
    ∃ lists' cells', lists.unselect = some lists' ∧ Rep lists' cells' ∧
      queue cells' = EventQueue.unselect (queue cells) ∧ lists'.list = lists.list := by
  obtain ⟨frees, hev⟩ := h.events
  have hloop : ∃ s, Arena.visitWhile EventLists.events (fun _ => true)
      (fun i lists => some (lists.setState i .unselected)) lists.events.capacity (nodes cells).head? lists = some s ∧
      ∃ cells' counters, Rep { s with counters } cells' ∧ queue cells' = EventQueue.unselect (queue cells) ∧
        s.counters = lists.counters ∧ s.list = lists.list := by
    refine Arena.visitWhile_rule (I := fun rest s => ∃ xs ys counters, rest = nodes ys ∧
      Passed EventQueue.reset (queue cells) { s with counters } xs ys ∧ s.counters = lists.counters ∧
      s.list = lists.list) ?_ ?_ ?_ ?_ ⟨[], cells, lists.counters, rfl, ⟨h, rfl⟩, rfl, rfl⟩ hev.length_le
    · rintro i rest s ⟨xs, ys, counters, hrest, hpass, -⟩
      cases ys with
      | nil => cases hrest
      | cons c ys =>
        obtain ⟨rfl, rfl⟩ := List.cons.inj hrest
        exact hpass.next
    · rintro i rest s ⟨xs, ys, counters, hrest, hpass, hcount, hlist⟩ -
      cases ys with
      | nil => cases hrest
      | cons c ys =>
        obtain ⟨rfl, rfl⟩ := List.cons.inj hrest
        obtain ⟨counters', hc⟩ := exists_counted (queue xs ++ { c.entry with state := .unselected } :: queue ys)
        refine ⟨_, rfl, xs ++ [⟨c.node, c.storage, { c.entry with state := .unselected }⟩], ys, counters', rfl,
          ⟨?_, ?_⟩, hcount, hlist⟩
        · rw [List.append_assoc]
          exact hpass.rep.setState rfl rfl hc
        · rw [← hpass.passed]
          simp [queue, EventQueue.reset]
    · intro i rest s _ hmore
      cases hmore
    · rintro s ⟨xs, ys, counters, hrest, hpass, hcount, hlist⟩
      obtain rfl := List.map_eq_nil_iff.1 hrest.symm
      refine ⟨xs, counters, by simpa using hpass.rep, ?_, hcount, hlist⟩
      rw [← filterMap_reset, ← hpass.passed]
      simp [queue]
  obtain ⟨s, hs, cells', counters, hrep, hq, hcount, hlist⟩ := hloop
  refine ⟨{ s with counters := s.counters.resetOnFail }, cells', ?_, ?_, hq, hlist⟩
  · rw [EventLists.unselect, hev.head, hs]
    rfl
  · have hc := h.counted.resetOnFail
    rw [← hq, ← hcount] at hc
    exact { hrep with counted := hc }

end Select

end Opendnp3
