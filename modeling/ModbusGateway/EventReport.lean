import ModbusGateway.EventSelection

/-!
# Reporting events (opendnp3)

`EventWriting::Write` over the lists of the event buffer. `Reported H s waiting out s'`: of the events that wait, the
handler took `out`, in headers of one type and one variation each; it stops when all are out or when a header has no
room for its first event.

* `Reported.isPrefix` — what is out is the first of what waits, without a gap.
* `Rep.write` — so the code reports, and marks as written what is out.
-/

namespace Opendnp3

open LinkedList (Arena)

variable {V σ : Type}

/-! ## What a handler takes -/

/-- Under a header for a type and a variation: `out` of the events that wait, until the next one is of another kind
or the handler refuses it. -/
inductive Section (H : WriteHandler σ V) (t : EventType) (variation : Nat) :
    σ → List (Entry V) → List (Entry V) → σ → Prop
  | done {s : σ} {waiting : List (Entry V)}
      (h : ∀ e ∈ waiting.head?, ¬(e.type = t ∧ e.selectedVariation = variation)) : Section H t variation s waiting [] s
  | refused {s s' : σ} {e : Entry V} {waiting : List (Entry V)} (ht : e.type = t) (hv : e.selectedVariation = variation)
      (h : H.write s e.value e.index = (false, s')) : Section H t variation s (e :: waiting) [] s'
  | taken {s s₁ s' : σ} {e : Entry V} {waiting out : List (Entry V)} (ht : e.type = t)
      (hv : e.selectedVariation = variation) (h : H.write s e.value e.index = (true, s₁))
      (hrest : Section H t variation s₁ waiting out s') : Section H t variation s (e :: waiting) (e :: out) s'

/-- The handler at the header for an event. -/
def WriteHandler.header (H : WriteHandler σ V) (s : σ) (e : Entry V) : σ := H.start s e.type e.selectedVariation e.value

inductive Reported (H : WriteHandler σ V) : σ → List (Entry V) → List (Entry V) → σ → Prop
  | all {s : σ} : Reported H s [] [] s
  | full {s s' : σ} {e : Entry V} {waiting : List (Entry V)}
      (h : H.write (H.header s e) e.value e.index = (false, s')) : Reported H s (e :: waiting) [] s'
  | header {s s₁ s' : σ} {e : Entry V} {out waiting more : List (Entry V)}
      (h : Section H e.type e.selectedVariation (H.header s e) (e :: out ++ waiting) (e :: out) s₁)
      (hrest : Reported H s₁ waiting more s') : Reported H s (e :: out ++ waiting) (e :: out ++ more) s'

/-- **What is out is the first of what waits**, in order. -/
theorem Reported.isPrefix {H : WriteHandler σ V} {s s' : σ} {waiting out : List (Entry V)}
    (h : Reported H s waiting out s') : out <+: waiting := by
  induction h with
  | all => exact List.prefix_rfl
  | full => exact List.nil_prefix
  | header _ _ ih => exact List.prefix_append_right_inj _ |>.2 ih

/-- Events wait after a report only when the handler refused the next one under a header of its own. -/
theorem Reported.refused {H : WriteHandler σ V} {s s' : σ} {out rest : List (Entry V)} {e : Entry V}
    (h : Reported H s (out ++ e :: rest) out s') : ∃ s₁, H.write (H.header s₁ e) e.value e.index = (false, s') := by
  generalize hw : out ++ e :: rest = waiting at h
  induction h with
  | all => simp at hw
  | @full s _ _ _ h =>
    obtain ⟨rfl, -⟩ := List.cons.inj hw
    exact ⟨s, h⟩
  | header _ _ ih =>
    rw [List.append_assoc] at hw
    exact ih (List.append_cancel_left hw)

/-! ## What is written -/

def EventQueue.isSelected (e : Entry V) : Bool := e.state = .selected

theorem mark_add {p : Entry V → Bool} {f : Entry V → Entry V} (hf : ∀ e, p (f e) = false) (m n : Nat)
    (q : List (Entry V)) : EventQueue.mark p f (m + n) q = EventQueue.mark p f n (EventQueue.mark p f m q) := by
  induction q generalizing m with
  | nil => cases m <;> cases n <;> simp [EventQueue.mark]
  | cons e q ih =>
    cases he : p e with
    | false => rw [mark_cons_of_neg he, mark_cons_of_neg he, mark_cons_of_neg he, ih]
    | true =>
      cases m with
      | zero => simp
      | succ m => rw [Nat.succ_add, mark_cons_of_pos he, mark_cons_of_pos he, mark_cons_of_neg (hf e), ih]

/-- The queue after the first `n` selected events are written. -/
def EventQueue.report (n : Nat) (q : List (Entry V)) : List (Entry V) :=
  EventQueue.mark EventQueue.isSelected EventQueue.written n q

theorem report_add (m n : Nat) (q : List (Entry V)) :
    EventQueue.report (m + n) q = EventQueue.report n (EventQueue.report m q) :=
  mark_add (fun _ => rfl) m n q

/-! ## The iterator -/

/-- The iterator stands before the events of `ys`; none of those it has passed is selected. -/
structure WriteState.At (w : WriteState V σ) (xs ys : List (Cell V)) : Prop where
  rep : Rep w.lists (xs ++ ys)
  cur : w.cur = (nodes ys).head?
  passed : EventQueue.selected (queue xs) = []

namespace WriteState

variable {H : WriteHandler σ V} {w : WriteState V σ} {xs ys : List (Cell V)} {t : EventType} {variation : Nat}

theorem At.selected_eq_zero_iff (h : w.At xs ys) :
    w.lists.counters.selected = 0 ↔ EventQueue.selected (queue ys) = [] := by
  obtain ⟨frees, hev⟩ := h.rep.events
  have hle := hev.length_le
  rw [h.rep.counted.selected_eq_zero_iff, queue_append, EventQueue.selected, List.filter_append]
  · rw [← EventQueue.selected, h.passed]
    rfl
  · simp only [nodes, List.length_map, queue] at hle ⊢
    exact lt_of_le_of_lt hle h.rep.small

/-- The next selected event is `c`. -/
structure Next (w : WriteState V σ) (xs mid : List (Cell V)) (c : Cell V) (ys : List (Cell V)) : Prop where
  at_ : { w with cur := some c.node }.At (xs ++ mid) (c :: ys)
  state : c.entry.state = .selected
  found : w.findSelected = { w with cur := some c.node }

/-- Finding the next selected event. -/
theorem At.findSelected (h : w.At xs ys) :
    (EventQueue.selected (queue ys) = [] ∧ w.findSelected = { w with cur := none }) ∨
    ∃ mid c ys', ys = mid ++ c :: ys' ∧ EventQueue.selected (queue mid) = [] ∧ w.Next xs mid c ys' := by
  obtain ⟨frees, hev⟩ := h.rep.events
  have hle := hev.length_le
  have hnexts := hev.nexts
  rw [nodes_append, LinkedList.Arena.leads_append] at hnexts
  rw [nodes_append, List.length_append] at hle
  have hstate : ∀ c ∈ ys, (w.lists.events.node c.node).value.state = c.entry.state := by
    intro c hc
    rw [h.rep.record c (List.mem_append_right xs hc)]
    rfl
  have hfind : w.findSelected.cur =
      (nodes ys).find? fun i => (w.lists.events.node i).value.state = .selected := by
    rw [WriteState.findSelected, h.cur]
    exact Arena.find_eq hnexts.2 (by omega)
  have hw : ∀ cur, w.findSelected.cur = cur → w.findSelected = { w with cur } := by
    rintro cur rfl
    rfl
  cases hys : ys.find? fun c => c.entry.state = .selected with
  | none =>
    rw [List.find?_eq_none] at hys
    refine Or.inl ⟨?_, hw _ (hfind.trans ?_)⟩
    · rw [EventQueue.selected, List.filter_eq_nil_iff]
      intro e he
      obtain ⟨c, hc, rfl⟩ := List.mem_map.1 he
      exact hys c hc
    · rw [List.find?_eq_none]
      intro i hi
      obtain ⟨c, hc, rfl⟩ := List.mem_map.1 hi
      rw [hstate c hc]
      exact hys c hc
  | some c =>
    obtain ⟨hc, mid, ys', rfl, hmid⟩ := List.find?_eq_some_iff_append.1 hys
    have hnone : EventQueue.selected (queue mid) = [] := by
      rw [EventQueue.selected, List.filter_eq_nil_iff]
      intro e he
      obtain ⟨c', hc', rfl⟩ := List.mem_map.1 he
      simpa using hmid c' hc'
    refine Or.inr ⟨mid, c, ys', rfl, hnone, ⟨?_, by simpa using hc, hw _ (hfind.trans ?_)⟩⟩
    · refine ⟨by simpa using h.rep, rfl, ?_⟩
      rw [queue_append, EventQueue.selected, List.filter_append, ← EventQueue.selected, ← EventQueue.selected, h.passed,
        hnone]
      rfl
    · rw [List.find?_eq_some_iff_append]
      refine ⟨by rw [hstate c (by simp)]; exact hc, nodes mid, nodes ys', by simp [nodes], ?_⟩
      intro i hi
      obtain ⟨c', hc', rfl⟩ := List.mem_map.1 hi
      rw [hstate c' (List.mem_append_left _ hc')]
      exact hmid c' hc'

/-- After the handler took an event. -/
def wrote (w : WriteState V σ) (c : Cell V) (handler : σ) : WriteState V σ :=
  let lists := { w.lists with counters := w.lists.counters.onWrite c.entry.clazz }.setState c.node .written
  { lists, handler, cur := (lists.events.node c.node).next }

section Next
variable {mid : List (Cell V)} {c : Cell V} {s : σ}

theorem Next.ne_zero (h : w.Next xs mid c ys) : w.lists.counters.selected ≠ 0 := by
  intro hzero
  have hnil := h.at_.selected_eq_zero_iff.1 hzero
  rw [EventQueue.selected, List.filter_eq_nil_iff] at hnil
  exact hnil c.entry (by simp [queue]) (by simpa using h.state)

theorem Next.writeOne_eq (h : w.Next xs mid c ys) : writeOne H t variation w =
    if c.entry.type ≠ t ∨ c.entry.selectedVariation ≠ variation then some (false, { w with cur := some c.node })
    else
      let (taken, handler) := H.write w.handler c.entry.value c.entry.index
      if taken then some (true, w.wrote c handler)
      else some (false, { w with cur := some c.node, handler }) := by
  have hmem : c ∈ xs ++ mid ++ c :: ys := by simp
  have hrecord : (w.lists.events.node c.node).value = c.record := h.at_.rep.record c hmem
  have htyped : ((w.lists.list c.entry.type).node c.storage).value = c.typed := h.at_.rep.typed c hmem
  rw [writeOne, if_neg h.ne_zero, h.found]
  simp only [hrecord, Cell.record, Option.bind_eq_bind, Option.bind_some]
  by_cases ht : c.entry.type = t
  · subst ht
    simp only [htyped, Cell.typed]
    rfl
  · simp only [ne_eq, ht, not_false_eq_true, true_or, if_true]
    rfl

theorem Next.wrote (h : w.Next xs mid c ys) (handler : σ) :
    (w.wrote c handler).At (xs ++ mid ++ [⟨c.node, c.storage, EventQueue.written c.entry⟩]) ys := by
  have hrep : Rep (w.wrote c handler).lists (xs ++ mid ++ ⟨c.node, c.storage, EventQueue.written c.entry⟩ :: ys) :=
    h.at_.rep.setState rfl rfl (counted_middle.2 (h.at_.rep.counted_here.onWrite h.state))
  refine ⟨by rw [List.append_assoc]; exact hrep, ?_, ?_⟩
  · obtain ⟨frees, hev⟩ := hrep.events
    rw [nodes_append] at hev
    exact hev.next
  · have hpassed := h.at_.passed
    rw [EventQueue.selected] at hpassed ⊢
    rw [queue_append, List.filter_append, hpassed]
    rfl

/-- The queue after that. -/
theorem Next.report_eq (h : w.Next xs mid c ys) (n : Nat) :
    EventQueue.report (n + 1) (queue (xs ++ (mid ++ c :: ys))) =
      EventQueue.report n (queue (xs ++ mid ++ [⟨c.node, c.storage, EventQueue.written c.entry⟩] ++ ys)) := by
  have hnone : ∀ e ∈ queue (xs ++ mid), EventQueue.isSelected e = false := by
    intro e he
    have hpassed := h.at_.passed
    rw [EventQueue.selected, List.filter_eq_nil_iff] at hpassed
    simpa [EventQueue.isSelected] using hpassed e he
  have hsel : EventQueue.isSelected c.entry = true := decide_eq_true h.state
  have hleft : queue (xs ++ (mid ++ c :: ys)) = queue (xs ++ mid) ++ c.entry :: queue ys := by simp [queue]
  have hright : queue (xs ++ mid ++ [⟨c.node, c.storage, EventQueue.written c.entry⟩] ++ ys) =
      queue (xs ++ mid) ++ EventQueue.written c.entry :: queue ys := by simp [queue]
  rw [hleft, hright, EventQueue.report, EventQueue.report, mark_append hnone, mark_append hnone,
    mark_cons_of_pos hsel, mark_cons_of_neg]
  rfl

end Next

/-- Where a write leaves the iterator, after `n` events, with `rest` still selected. -/
def Leaves (w : WriteState V σ) (xs ys : List (Cell V)) (n : Nat) (rest : List (Entry V)) (w' : WriteState V σ) : Prop :=
  ∃ xs' ys', w'.At xs' ys' ∧ EventQueue.selected (queue ys') = rest ∧
    queue (xs' ++ ys') = EventQueue.report n (queue (xs ++ ys)) ∧ ys'.length + n ≤ ys.length ∧
    w'.lists.list = w.lists.list

theorem report_zero (q : List (Entry V)) : EventQueue.report 0 q = q := mark_zero

/-- **The events under one header.** -/
theorem At.collect (H : WriteHandler σ V) (h : w.At xs ys) (t : EventType) (variation : Nat) {fuel : Nat}
    (hfuel : ys.length < fuel) :
    ∃ out rest w', collect H t variation fuel w = some (out.length, w') ∧
      EventQueue.selected (queue ys) = out ++ rest ∧ Section H t variation w.handler (out ++ rest) out w'.handler ∧
      w.Leaves xs ys out.length rest w' := by
  induction fuel generalizing w xs ys with
  | zero => omega
  | succ fuel ih =>
    rw [WriteState.collect]
    rcases h.findSelected with ⟨hnone, -⟩ | ⟨mid, c, ys', rfl, hmid, hnext⟩
    · refine ⟨[], [], w, ?_, hnone, .done (by simp), xs, ys, h, hnone, (report_zero _).symm, le_rfl, rfl⟩
      rw [writeOne, if_pos (h.selected_eq_zero_iff.2 hnone)]
      rfl
    · have hwait : EventQueue.selected (queue (mid ++ c :: ys')) = c.entry :: EventQueue.selected (queue ys') := by
        rw [queue_append, EventQueue.selected, List.filter_append, ← EventQueue.selected, hmid]
        simp [queue, EventQueue.selected, hnext.state]
      have hstop : ∀ handler, w.Leaves xs (mid ++ c :: ys') 0 (c.entry :: EventQueue.selected (queue ys'))
          { w with cur := some c.node, handler } := by
        intro handler
        refine ⟨xs ++ mid, c :: ys', ⟨hnext.at_.rep, hnext.at_.cur, hnext.at_.passed⟩, ?_, ?_, by simp, rfl⟩
        · simp [queue, EventQueue.selected, hnext.state]
        · rw [report_zero, List.append_assoc]
      rw [hnext.writeOne_eq]
      by_cases hother : c.entry.type ≠ t ∨ c.entry.selectedVariation ≠ variation
      · rw [if_pos hother]
        refine ⟨[], _, _, rfl, hwait, .done ?_, hstop w.handler⟩
        rintro e he ⟨ht, hv⟩
        obtain rfl : c.entry = e := by simpa using he
        exact hother.elim (· ht) (· hv)
      · rw [if_neg hother]
        obtain ⟨ht, hv⟩ : c.entry.type = t ∧ c.entry.selectedVariation = variation := by
          simpa [not_or] using hother
        rcases hwrite : H.write w.handler c.entry.value c.entry.index with ⟨taken, handler⟩
        cases taken with
        | false => exact ⟨[], _, _, rfl, hwait, .refused ht hv hwrite, hstop handler⟩
        | true =>
          obtain ⟨out, rest, w', hcollect, hout, hsection, xs', ys'', hat', hrest, hq, hlen, hlist⟩ :=
            ih (hnext.wrote handler) (by simp at hfuel; omega)
          refine ⟨c.entry :: out, rest, w', ?_, ?_, .taken ht hv hwrite hsection, xs', ys'', hat', hrest, ?_, ?_, hlist⟩
          · simp only [if_true, Option.bind_eq_bind, Option.bind_some, hcollect]
            rfl
          · rw [hwait, hout, List.cons_append]
          · rw [hq, List.length_cons, hnext.report_eq]
          · simp only [List.length_append, List.length_cons] at hlen ⊢
            omega

theorem Leaves.trans {w' w'' : WriteState V σ} {xs' ys' : List (Cell V)} {m n : Nat} {rest : List (Entry V)}
    (hq : queue (xs' ++ ys') = EventQueue.report m (queue (xs ++ ys))) (hlen : ys'.length + m ≤ ys.length)
    (hlist : w'.lists.list = w.lists.list) (h : w'.Leaves xs' ys' n rest w'') : w.Leaves xs ys (m + n) rest w'' := by
  obtain ⟨xs'', ys'', hat, hrest, hq', hlen', hlist'⟩ := h
  exact ⟨xs'', ys'', hat, hrest, by rw [hq', hq, report_add], by omega, hlist'.trans hlist⟩

/-- **One header**, begun for the first event that waits. -/
theorem At.writeSome (h : w.At xs ys) :
    (EventQueue.selected (queue ys) = [] ∧ writeSome H w = some (0, w)) ∨
    ∃ e waiting out rest w', EventQueue.selected (queue ys) = e :: waiting ∧ e :: waiting = out ++ rest ∧
      writeSome H w = some (out.length, w') ∧
      Section H e.type e.selectedVariation (H.header w.handler e) (out ++ rest) out w'.handler ∧
      w.Leaves xs ys out.length rest w' := by
  rcases h.findSelected with ⟨hnone, -⟩ | ⟨mid, c, ys', rfl, hmid, hnext⟩
  · exact Or.inl ⟨hnone, by rw [WriteState.writeSome, if_pos (h.selected_eq_zero_iff.2 hnone)]⟩
  · right
    have hmem : c ∈ xs ++ mid ++ c :: ys' := by simp
    have hrecord : (w.lists.events.node c.node).value = c.record := hnext.at_.rep.record c hmem
    have htyped : ((w.lists.list c.entry.type).node c.storage).value = c.typed := hnext.at_.rep.typed c hmem
    have hat : ({ w with cur := some c.node, handler := H.header w.handler c.entry } : WriteState V σ).At (xs ++ mid)
        (c :: ys') := ⟨hnext.at_.rep, hnext.at_.cur, hnext.at_.passed⟩
    have hlt : (c :: ys').length < w.lists.events.capacity + 1 := by
      obtain ⟨frees, hev⟩ := hat.rep.events
      have hle := hev.length_le
      simp [nodes] at hle ⊢
      omega
    obtain ⟨out, rest, w', hcollect, hout, hsection, xs', ys'', hat', hrest, hq, hlen, hlist⟩ :=
      hat.collect H c.entry.type c.entry.selectedVariation hlt
    have hmid' : EventQueue.selected (queue (mid ++ c :: ys')) = EventQueue.selected (queue (c :: ys')) := by
      rw [queue_append, EventQueue.selected, List.filter_append, ← EventQueue.selected, hmid]
      rfl
    have hfirst : EventQueue.selected (queue (c :: ys')) = c.entry :: EventQueue.selected (queue ys') := by
      simp [queue, EventQueue.selected, hnext.state]
    refine ⟨c.entry, EventQueue.selected (queue ys'), out, rest, w', hmid'.trans hfirst, hfirst.symm.trans hout, ?_,
      hsection, xs', ys'', hat', hrest, ?_, ?_, hlist⟩
    · rw [WriteState.writeSome, if_neg hnext.ne_zero, hnext.found]
      simp only [hrecord, htyped, Cell.record, Cell.typed, Option.bind_eq_bind, Option.bind_some]
      exact hcollect
    · rw [hq, List.append_assoc]
    · simp only [List.length_append] at hlen ⊢
      omega

/-- **All the headers.** -/
theorem At.writeAll (h : w.At xs ys) {fuel : Nat} (hfuel : ys.length < fuel) :
    ∃ out rest w', writeAll H fuel w = some (out.length, w') ∧
      Reported H w.handler (EventQueue.selected (queue ys)) out w'.handler ∧ w.Leaves xs ys out.length rest w' := by
  induction fuel generalizing w xs ys with
  | zero => omega
  | succ fuel ih =>
    rw [WriteState.writeAll]
    rcases h.writeSome (H := H) with ⟨hnone, hsome⟩ | ⟨e, waiting, out, rest, w', hwait, hout, hsome, hsection, hleaves⟩
    · refine ⟨[], [], w, ?_, ?_, xs, ys, h, hnone, (report_zero _).symm, le_rfl, rfl⟩
      · rw [hsome]
        rfl
      · rw [hnone]
        exact .all
    · rw [hsome, hwait]
      cases out with
      | nil =>
        obtain rfl : e :: waiting = rest := hout
        refine ⟨[], _, w', rfl, ?_, hleaves⟩
        generalize w'.handler = s' at hsection
        cases hsection with
        | done h => exact absurd ⟨rfl, rfl⟩ (h e rfl)
        | refused _ _ h => exact .full h
      | cons e' out =>
        obtain ⟨rfl, rfl⟩ := List.cons.inj hout
        obtain ⟨xs', ys', hat, hrest, hq, hlen, hlist⟩ := hleaves
        obtain ⟨more, rest', w'', hmore, hrep, hleaves'⟩ := ih hat (by simp at hlen; omega)
        rw [hrest] at hrep
        refine ⟨e :: out ++ more, rest', w'', ?_, .header hsection hrep, ?_⟩
        · simp only [Option.bind_eq_bind, Option.bind_some, hmore]
          simp [Nat.add_right_comm]
        · rw [List.length_append]
          exact Leaves.trans hq hlen hlist hleaves'

end WriteState

/-- **Writing reports the selected events** and marks as written those that are out. -/
theorem Rep.write {lists : EventLists V} {cells : List (Cell V)} (h : Rep lists cells) (H : WriteHandler σ V) (s : σ) :
    ∃ lists' cells' s' out, lists.write H s = some (lists', s', out.length) ∧ Rep lists' cells' ∧
      Reported H s (EventQueue.selected (queue cells)) out s' ∧
      queue cells' = EventQueue.report out.length (queue cells) ∧ lists'.list = lists.list := by
  obtain ⟨frees, hev⟩ := h.events
  have hat : (⟨lists, s, lists.events.head⟩ : WriteState V σ).At [] cells := ⟨h, hev.head, rfl⟩
  have hlt : cells.length < lists.events.capacity + 1 := by
    have hle := hev.length_le
    rw [nodes, List.length_map] at hle
    omega
  obtain ⟨out, rest, w', hwrite, hrep, xs', ys', hat', -, hq, -, hlist⟩ := hat.writeAll (H := H) hlt
  refine ⟨w'.lists, xs' ++ ys', w'.handler, out, ?_, hat'.rep, hrep, hq, hlist⟩
  rw [EventLists.write, hwrite]
  rfl

end Opendnp3
