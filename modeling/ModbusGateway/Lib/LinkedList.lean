import Mathlib.Data.List.Nodup
import Mathlib.Logic.Function.Basic

/-!
# Doubly linked lists in a fixed store

A store of `capacity` nodes, each in the list or free; pointers are numbers of nodes. `Holds d ids frees`: the list
runs through the nodes `ids`, the pointers from free node to free node through `frees`.

* `holds_allFree`, `Holds.add`, `Holds.remove`, `Holds.modify` — the operations on the pointers start from `[]`, append
  a node, take one out and leave all as they are on the nodes of the list.
* `find_eq`, `visitWhile_rule` — loops that follow the pointers are loops over the nodes of the list.
-/

namespace LinkedList

universe u v

structure Node (α : Type u) where
  value : α
  prev : Option Nat
  next : Option Nat

structure Arena (α : Type u) where
  node : Nat → Node α
  capacity : Nat
  head : Option Nat
  tail : Option Nat
  free : Option Nat
  length : Nat

namespace Arena

variable {α : Type u}

/-! ## Operations -/

def setPrev (d : Arena α) (i : Nat) (p : Option Nat) : Arena α :=
  { d with node := Function.update d.node i { d.node i with prev := p } }

def setNext (d : Arena α) (i : Nat) (n : Option Nat) : Arena α :=
  { d with node := Function.update d.node i { d.node i with next := n } }

def setValue (d : Arena α) (i : Nat) (a : α) : Arena α :=
  { d with node := Function.update d.node i { d.node i with value := a } }

def modify (d : Arena α) (i : Nat) (f : α → α) : Arena α := d.setValue i (f (d.node i).value)

/-- The nodes that exist become neighbours. -/
def link (d : Arena α) (first second : Option Nat) : Arena α :=
  let d := first.elim d fun i => d.setNext i second
  second.elim d fun j => d.setPrev j first

/-- All nodes free, in order. -/
def allFree (a : α) (capacity : Nat) : Arena α where
  node i := ⟨a, if i = 0 then none else some (i - 1), if i + 1 < capacity then some (i + 1) else none⟩
  capacity
  head := none
  tail := none
  free := if capacity = 0 then none else some 0
  length := 0

/-- A free node goes between two others, `none` when there is no free one. -/
def insert (d : Arena α) (a : α) (left right : Option Nat) : Option (Nat × Arena α) :=
  d.free.map fun i =>
    let d := { d with free := (d.node i).next }
    let d := { d.setValue i a with length := d.length + 1 }
    let d := (d.link left (some i)).link (some i) right
    let d := if left.isNone then { d with head := some i } else d
    (i, if right.isNone then { d with tail := some i } else d)

def add (d : Arena α) (a : α) : Option (Nat × Arena α) := d.insert a d.tail none

/-- The neighbours of a node close up. -/
def detach (d : Arena α) (i : Nat) : Arena α :=
  let d := if d.head = some i then { d with head := (d.node i).next } else d
  let d := if d.tail = some i then { d with tail := d.tail.bind fun t => (d.node t).prev } else d
  d.link (d.node i).prev (d.node i).next

/-- A node becomes the first free one. -/
def release (d : Arena α) (i : Nat) : Arena α :=
  { (d.setPrev i none).link (some i) d.free with free := some i, length := d.length - 1 }

def remove (d : Arena α) (i : Nat) : Arena α := (d.detach i).release i

/-- The first node from one on whose value satisfies `p`. -/
def find (d : Arena α) (p : α → Bool) : Nat → Option Nat → Option Nat
  | 0, _ => none
  | _, none => none
  | fuel + 1, some i => if p (d.node i).value then some i else d.find p fuel (d.node i).next

/-- `f` at the nodes from one on, as long as there is a next one and `more` holds. The pointer to the next node is
read first, for `f` may unlink its own. -/
def visitWhile {σ : Type v} (get : σ → Arena α) (more : σ → Bool) (f : Nat → σ → Option σ) :
    Nat → Option Nat → σ → Option σ
  | 0, cur, s => if cur.isSome && more s then none else some s
  | _, none, s => some s
  | fuel + 1, some i, s => if more s then (f i s).bind (visitWhile get more f fuel ((get s).node i).next) else some s

/-! ## Fields -/

section
variable {d : Arena α} {p q : Option Nat} {i j : Nat}

theorem link_prev : ((d.link p q).node j).prev = if q = some j then p else (d.node j).prev := by
  cases p <;> cases q <;> simp only [link, Option.elim, setNext, setPrev, Function.update_apply, reduceCtorEq,
    Option.some.injEq, if_false] <;> grind

theorem link_next : ((d.link p q).node j).next = if p = some j then q else (d.node j).next := by
  cases p <;> cases q <;> simp only [link, Option.elim, setNext, setPrev, Function.update_apply, reduceCtorEq,
    Option.some.injEq, if_false] <;> grind

@[simp] theorem link_value : ((d.link p q).node j).value = (d.node j).value := by
  cases p <;> cases q <;> simp only [link, Option.elim, setNext, setPrev, Function.update_apply] <;> grind

theorem link_node {e : Arena α} (h : d.node = e.node) : (d.link p q).node = (e.link p q).node := by
  cases p <;> cases q <;> simp only [link, Option.elim, setNext, setPrev, h]

@[simp] theorem link_head : (d.link p q).head = d.head := by cases p <;> cases q <;> rfl

@[simp] theorem link_tail : (d.link p q).tail = d.tail := by cases p <;> cases q <;> rfl

@[simp] theorem link_free : (d.link p q).free = d.free := by cases p <;> cases q <;> rfl

@[simp] theorem link_length : (d.link p q).length = d.length := by cases p <;> cases q <;> rfl

@[simp] theorem link_capacity : (d.link p q).capacity = d.capacity := by cases p <;> cases q <;> rfl

end

/-! ## Lists that pointers lead through -/

section Leads
variable {f g : Nat → Option Nat} {xs ys : List Nat} {p q : Option Nat} {i : Nat}

/-- The pointers `f` lead from each of `xs` to the next one, from the last one to `p`. -/
def Leads (f : Nat → Option Nat) : List Nat → Option Nat → Prop
  | [], _ => True
  | i :: rest, p => f i = rest.head?.or p ∧ Leads f rest p

theorem leads_append : Leads f (xs ++ ys) p ↔ Leads f xs (ys.head?.or p) ∧ Leads f ys p := by
  induction xs with
  | nil => simp [Leads]
  | cons x xs ih =>
    have hhead : (xs ++ ys).head?.or p = xs.head?.or (ys.head?.or p) := by
      rw [List.head?_append, Option.or_assoc]
    rw [List.cons_append, Leads, Leads, ih, hhead, and_assoc]

/-- Pointers lead through one list only. -/
theorem Leads.unique (h : Leads f xs none) (h' : Leads f ys none) (hhead : xs.head? = ys.head?) : xs = ys := by
  induction xs generalizing ys with
  | nil => exact (List.head?_eq_none_iff.1 hhead.symm).symm
  | cons x xs ih =>
    cases ys with
    | nil => cases hhead
    | cons y ys =>
      obtain rfl : x = y := Option.some.inj hhead
      rw [Leads, Option.or_none] at h h'
      rw [ih h.2 h'.2 (h.1.symm.trans h'.1)]

theorem Leads.congr (h : Leads f xs p) (hfg : ∀ i ∈ xs, g i = f i) : Leads g xs p := by
  induction xs with
  | nil => trivial
  | cons x xs ih =>
    refine ⟨(hfg x List.mem_cons_self).trans h.1, ih h.2 ?_⟩
    intro i hi
    exact hfg i (List.mem_cons_of_mem x hi)

/-- The last pointer changes. -/
theorem Leads.retarget (h : Leads f xs p) (hn : xs.Nodup) (hfg : ∀ i ∈ xs, xs.getLast? ≠ some i → g i = f i)
    (hlast : ∀ i, xs.getLast? = some i → g i = q) : Leads g xs q := by
  rcases List.eq_nil_or_concat xs with rfl | ⟨ys, y, rfl⟩
  · trivial
  · rw [List.concat_eq_append] at *
    rw [leads_append] at h ⊢
    refine ⟨h.1.congr ?_, ?_, trivial⟩
    · intro i hi
      have hne : y ≠ i := by
        rintro rfl
        exact (List.nodup_append.1 hn).2.2 y hi y (List.mem_singleton_self y) rfl
      exact hfg i (List.mem_append_left _ hi) (by simpa using hne)
    · exact hlast y (by simp)

/-- The pointer to an element that goes is replaced by the element's own. -/
theorem Leads.splice (h : Leads f (xs ++ i :: ys) p) (hn : (xs ++ i :: ys).Nodup)
    (hfg : ∀ j ∈ xs ++ ys, g j = if xs.getLast? = some j then f i else f j) : Leads g (xs ++ ys) p := by
  obtain ⟨hxs, hi, hys⟩ := leads_append.1 h
  obtain ⟨hnx, -, hxy⟩ := List.nodup_append.1 hn
  refine leads_append.2 ⟨hxs.retarget hnx ?_ ?_, hys.congr ?_⟩
  · intro j hj hlast
    rw [hfg j (List.mem_append_left ys hj), if_neg hlast]
  · intro j hlast
    rw [hfg j (List.mem_append_left ys (List.mem_of_getLast? hlast)), if_pos hlast, hi]
  · intro j hj
    have hlast : xs.getLast? ≠ some j :=
      fun hlast => hxy j (List.mem_of_getLast? hlast) j (List.mem_cons_of_mem i hj) rfl
    rw [hfg j (List.mem_append_right xs hj), if_neg hlast]

end Leads

/-! ## The lists of a store -/

/-- The list of `d` runs through the nodes `ids`, both ways, and its free nodes are `frees`. -/
structure Holds (d : Arena α) (ids frees : List Nat) : Prop where
  nexts : Leads (fun i => (d.node i).next) ids none
  prevs : Leads (fun i => (d.node i).prev) ids.reverse none
  nexts_free : Leads (fun i => (d.node i).next) frees none
  head : d.head = ids.head?
  tail : d.tail = ids.getLast?
  free : d.free = frees.head?
  nodup : (ids ++ frees).Nodup
  bound : ∀ i ∈ ids ++ frees, i < d.capacity
  count : ids.length + frees.length = d.capacity
  length : d.length = ids.length

section
variable {d : Arena α} {a : α} {f : α → α} {ids frees rest : List Nat} {i j : Nat}

theorem Holds.unique {ids' frees' : List Nat} (h : d.Holds ids frees) (h' : d.Holds ids' frees') : ids = ids' :=
  h.nexts.unique h'.nexts (h.head.symm.trans h'.head)

theorem Holds.free_eq_none_iff (h : d.Holds ids frees) : d.free = none ↔ ids.length = d.capacity := by
  rw [h.free, List.head?_eq_none_iff, ← List.length_eq_zero_iff]
  have := h.count
  omega

/-- There is a free node while not all are in the list. -/
theorem Holds.exists_free (h : d.Holds ids frees) (hlt : ids.length < d.capacity) : ∃ i rest, frees = i :: rest := by
  have := h.count
  cases frees with
  | nil =>
    simp only [List.length_nil] at this
    omega
  | cons i rest => exact ⟨i, rest, rfl⟩

theorem Holds.length_le (h : d.Holds ids frees) : ids.length ≤ d.capacity := by
  have := h.count
  omega

@[simp] theorem node_setPrev {p : Option Nat} :
    (d.setPrev i p).node j = if j = i then { d.node i with prev := p } else d.node j := Function.update_apply ..

@[simp] theorem node_modify :
    (d.modify i f).node j = if j = i then { d.node i with value := f (d.node i).value } else d.node j :=
  Function.update_apply ..

theorem Holds.modify (h : d.Holds ids frees) : (d.modify i f).Holds ids frees where
  nexts := h.nexts.congr fun j _ => by rw [node_modify]; split <;> simp_all
  prevs := h.prevs.congr fun j _ => by rw [node_modify]; split <;> simp_all
  nexts_free := h.nexts_free.congr fun j _ => by rw [node_modify]; split <;> simp_all
  head := h.head
  tail := h.tail
  free := h.free
  nodup := h.nodup
  bound := h.bound
  count := h.count
  length := h.length

theorem add_eq_some (h : d.free = some i) : ∃ d', d.add a = some (i, d') ∧
    (∀ j, (d'.node j).value = if j = i then a else (d.node j).value) ∧
    (∀ j, (d'.node j).prev = if j = i then d.tail else (d.node j).prev) ∧
    (∀ j, (d'.node j).next = if j = i then none else if d.tail = some j then some i else (d.node j).next) ∧
    d'.head = (if d.tail = none then some i else d.head) ∧ d'.tail = some i ∧ d'.free = (d.node i).next ∧
    d'.capacity = d.capacity ∧ d'.length = d.length + 1 := by
  refine ⟨_, by rw [Arena.add, insert, h]; rfl, ?_, ?_, ?_, ?_, ?_, ?_, ?_, ?_⟩
  · intro j
    simp only [Option.isNone_none, if_true]
    split <;> simp [setValue, Function.update_apply, apply_ite Node.value]
  · intro j
    simp only [Option.isNone_none, if_true]
    split <;> simp [link_prev, setValue, Function.update_apply, apply_ite Node.prev, eq_comm] <;> grind
  · intro j
    simp only [Option.isNone_none, if_true]
    split <;> simp [link_next, setValue, Function.update_apply, apply_ite Node.next, eq_comm] <;> grind
  all_goals simp [apply_ite Arena.head, apply_ite Arena.free, apply_ite Arena.capacity, apply_ite Arena.length, setValue]

/-- **A free node goes to the end of the list**, with the value; the other values stay. -/
theorem Holds.add (h : d.Holds ids (i :: frees)) :
    ∃ d', d.add a = some (i, d') ∧ d'.Holds (ids ++ [i]) frees ∧ d'.capacity = d.capacity ∧
      (d'.node i).value = a ∧ ∀ j, j ≠ i → (d'.node j).value = (d.node j).value := by
  have hfree : d.free = some i := h.free
  obtain ⟨hn, hnf, hdisj⟩ := List.nodup_append.1 h.nodup
  obtain ⟨hif, hnf⟩ := List.nodup_cons.1 hnf
  have hi : i ∉ ids := fun hmem => hdisj i hmem i List.mem_cons_self rfl
  have htail : ∀ j, d.tail = some j → j ∈ ids := by
    intro j hj
    exact List.mem_of_getLast? (h.tail ▸ hj)
  obtain ⟨d', hadd, hvalue, hprev, hnext, hhead, htail', hfree', hcap, hlen⟩ := add_eq_some (a := a) hfree
  have hnexts : Leads (fun j => (d'.node j).next) ids (some i) := by
    refine h.nexts.retarget hn ?_ ?_
    · intro j hj hlast
      have hji : j ≠ i := fun heq => hi (heq ▸ hj)
      rw [hnext, if_neg hji, h.tail, if_neg hlast]
    · intro j hlast
      have hji : j ≠ i := fun heq => hi (heq ▸ List.mem_of_getLast? hlast)
      rw [hnext, if_neg hji, h.tail, if_pos hlast]
  have hprevs : Leads (fun j => (d'.node j).prev) ids.reverse none := by
    refine h.prevs.congr ?_
    intro j hj
    have hji : j ≠ i := fun heq => hi (heq ▸ List.mem_reverse.1 hj)
    rw [hprev, if_neg hji]
  have hfrees : Leads (fun j => (d'.node j).next) frees none := by
    refine h.nexts_free.2.congr ?_
    intro j hj
    have hji : j ≠ i := fun heq => hif (heq ▸ hj)
    have hjt : d.tail ≠ some j := fun heq => hdisj j (htail j heq) j (List.mem_cons_of_mem _ hj) rfl
    rw [hnext, if_neg hji, if_neg hjt]
  have hperm : (ids ++ [i] ++ frees) = ids ++ i :: frees := by simp
  exact ⟨d', hadd,
    { nexts := leads_append.2 ⟨hnexts, (hnext i).trans (if_pos rfl), trivial⟩
      prevs := by
        have hrev : (ids ++ [i]).reverse = i :: ids.reverse := by simp
        rw [hrev]
        refine ⟨(hprev i).trans ?_, hprevs⟩
        rw [if_pos rfl, h.tail, List.head?_reverse, Option.or_none]
      nexts_free := hfrees
      head := by
        rw [hhead, h.tail, h.head, List.head?_append]
        cases ids <;> simp
      tail := by rw [htail', List.getLast?_append]; rfl
      free := hfree'.trans (h.nexts_free.1.trans (Option.or_none ..))
      nodup := hperm ▸ h.nodup
      bound := by rw [hperm, hcap]; exact h.bound
      count := by
        have := h.count
        simp only [List.length_append, List.length_cons, List.length_nil] at this ⊢
        omega
      length := by rw [hlen, h.length, List.length_append]; rfl },
    hcap, by rw [hvalue, if_pos rfl], fun j hj => by rw [hvalue, if_neg hj]⟩

theorem detach_fields : (d.detach i).node = (d.link (d.node i).prev (d.node i).next).node ∧
    (d.detach i).head = (if d.head = some i then (d.node i).next else d.head) ∧
    (d.detach i).tail = (if d.tail = some i then (d.node i).prev else d.tail) ∧ (d.detach i).free = d.free ∧
    (d.detach i).capacity = d.capacity ∧ (d.detach i).length = d.length := by
  unfold detach
  by_cases hh : d.head = some i <;> by_cases ht : d.tail = some i <;>
    simp only [hh, ht, if_true, if_false, Option.bind_some] <;>
    refine ⟨?_, by simp, by simp, by simp, by simp, by simp⟩
  · exact link_node rfl
  · exact link_node rfl
  · exact link_node rfl
  · trivial

theorem remove_fields : (∀ j, ((d.remove i).node j).value = (d.node j).value) ∧
    (∀ j, ((d.remove i).node j).prev = if d.free = some j then some i else if j = i then none else
      if (d.node i).next = some j then (d.node i).prev else (d.node j).prev) ∧
    (∀ j, ((d.remove i).node j).next = if j = i then d.free else
      if (d.node i).prev = some j then (d.node i).next else (d.node j).next) ∧
    (d.remove i).head = (if d.head = some i then (d.node i).next else d.head) ∧
    (d.remove i).tail = (if d.tail = some i then (d.node i).prev else d.tail) ∧ (d.remove i).free = some i ∧
    (d.remove i).capacity = d.capacity ∧ (d.remove i).length = d.length - 1 := by
  obtain ⟨hnode, hhead, htail, hfree, hcap, hlen⟩ := detach_fields (d := d) (i := i)
  rw [Arena.remove, release, hfree, hlen]
  refine ⟨?_, ?_, ?_, ?_, ?_, rfl, ?_, rfl⟩
  · intro j
    simp only [link_value, node_setPrev, hnode, apply_ite Node.value]
    split <;> simp_all
  · intro j
    simp only [link_prev, node_setPrev, hnode, apply_ite Node.prev]
  · intro j
    simp only [link_next, node_setPrev, hnode, apply_ite Node.next, Option.some.injEq]
    grind
  · exact (link_head ..).trans hhead
  · exact (link_tail ..).trans htail
  · exact (link_capacity ..).trans hcap

/-- **A node leaves the list**, its value stays. -/
theorem Holds.remove {xs ys : List Nat} (h : d.Holds (xs ++ i :: ys) frees) :
    (d.remove i).Holds (xs ++ ys) (i :: frees) := by
  obtain ⟨-, hprev, hnext, hhead, htail, hfree, hcap, hlen⟩ := remove_fields (d := d) (i := i)
  obtain ⟨hn, -, hdisj⟩ := List.nodup_append.1 h.nodup
  have hix : i ∉ xs := fun hmem => (List.nodup_append.1 hn).2.2 i hmem i List.mem_cons_self rfl
  have hiy : i ∉ ys := (List.nodup_cons.1 (List.nodup_append.1 hn).2.1).1
  have hrev : (xs ++ i :: ys).reverse = ys.reverse ++ i :: xs.reverse := by simp
  have hprevs := h.prevs
  rw [hrev] at hprevs
  have hni : (d.node i).next = ys.head? := (leads_append.1 h.nexts).2.1.trans (Option.or_none ..)
  have hpi : (d.node i).prev = xs.getLast? := by simpa using (leads_append.1 hprevs).2.1
  have hmem : ∀ j ∈ xs ++ ys, j ≠ i ∧ j ∈ xs ++ i :: ys := by
    intro j hj
    rw [List.mem_append] at hj
    refine ⟨?_, by rw [List.mem_append, List.mem_cons]; exact hj.imp_right Or.inr⟩
    rintro rfl
    exact hj.elim hix hiy
  have hf : ∀ j ∈ xs ++ i :: ys, d.free ≠ some j :=
    fun j hj heq => hdisj j hj j (List.mem_of_head? (h.free ▸ heq)) rfl
  have hperm : (xs ++ ys ++ i :: frees).Perm (xs ++ i :: ys ++ frees) := by
    simp only [List.append_assoc]
    exact List.Perm.append_left xs List.perm_middle
  exact
    { nexts := by
        refine h.nexts.splice hn fun j hj => ?_
        rw [hnext, if_neg (hmem j hj).1, hpi]
      prevs := by
        rw [List.reverse_append]
        refine hprevs.splice (hrev ▸ List.nodup_reverse.2 hn) fun j hj => ?_
        have hj := hmem j (by simpa [or_comm] using hj)
        rw [hprev, if_neg (hf j hj.2), if_neg hj.1, hni, List.getLast?_reverse]
      nexts_free := by
        refine ⟨(hnext i).trans ?_, h.nexts_free.congr fun j hj => ?_⟩
        · rw [if_pos rfl, h.free, Option.or_none]
        · have hji : j ≠ i := fun heq => hdisj i (by simp) j hj heq.symm
          have hjx : xs.getLast? ≠ some j :=
            fun hlast => hdisj j (List.mem_append_left _ (List.mem_of_getLast? hlast)) j hj rfl
          rw [hnext, if_neg hji, hpi, if_neg hjx]
      head := by
        rw [hhead, h.head]
        cases xs with
        | nil => simp [hni]
        | cons x xs => simp [Ne.symm (fun heq => hix (heq ▸ List.mem_cons_self) : i ≠ x)]
      tail := by
        rw [htail, h.tail]
        rcases List.eq_nil_or_concat ys with rfl | ⟨zs, z, rfl⟩
        · simp [hpi]
        · have hz : z ≠ i := (hmem z (by simp)).1
          have hlast : (xs ++ i :: zs.concat z).getLast? = some z := by
            rw [List.concat_eq_append, ← List.cons_append, ← List.append_assoc, List.getLast?_append]
            rfl
          rw [hlast, if_neg (by simpa using hz), List.concat_eq_append, ← List.append_assoc, List.getLast?_append]
          rfl
      free := hfree
      nodup := hperm.nodup_iff.2 h.nodup
      bound := fun j hj => hcap ▸ h.bound j (hperm.mem_iff.1 hj)
      count := by
        have := h.count
        rw [hcap]
        simp only [List.length_append, List.length_cons] at this ⊢
        omega
      length := by
        rw [hlen, h.length]
        simp }

theorem leads_range' {f : Nat → Option Nat} {p : Option Nat} {n k : Nat}
    (h : ∀ i, k ≤ i → i < k + n → f i = if i + 1 < k + n then some (i + 1) else p) :
    Leads f (List.range' k n) p := by
  induction n generalizing k with
  | zero => trivial
  | succ n ih =>
    rw [List.range'_succ]
    refine ⟨?_, ih fun i hk hn => by rw [h i (by omega) (by omega)]; congr 1; simp; omega⟩
    rw [h k (by omega) (by omega)]
    cases n <;> simp [List.range'_succ]

/-- All nodes are free at first. -/
theorem holds_allFree {n : Nat} : (allFree a n).Holds [] (List.range n) where
  nexts := trivial
  prevs := trivial
  nexts_free := by
    rw [List.range_eq_range']
    refine leads_range' fun i _ hi => ?_
    simp [allFree]
  head := rfl
  tail := rfl
  free := by cases n <;> simp [allFree, List.range_succ_eq_map]
  nodup := List.nodup_range
  bound := fun i hi => List.mem_range.1 hi
  count := by simp [allFree]
  length := rfl

theorem Holds.next {xs ys : List Nat} (h : d.Holds (xs ++ i :: ys) frees) : (d.node i).next = ys.head? :=
  (leads_append.1 h.nexts).2.1.trans (Option.or_none ..)

theorem find_eq {p : α → Bool} {n : Nat} (h : Leads (fun i => (d.node i).next) rest none) (hn : rest.length ≤ n) :
    d.find p n rest.head? = rest.find? fun i => p (d.node i).value := by
  induction rest generalizing n with
  | nil => cases n <;> rfl
  | cons i rest ih =>
    cases n with
    | zero => simp at hn
    | succ n =>
      have hi : (d.node i).next = rest.head? := h.1.trans (Option.or_none ..)
      rw [List.head?_cons, find, List.find?_cons, hi, ih h.2 (Nat.le_of_succ_le_succ hn)]
      cases p (d.node i).value <;> rfl

/-- **The rule of a loop over the nodes.** `I rest s`: the nodes still to visit are `rest`. -/
theorem visitWhile_rule {σ : Type v} {get : σ → Arena α} {more : σ → Bool} {f : Nat → σ → Option σ}
    {I : List Nat → σ → Prop} {Q : σ → Prop}
    (hnext : ∀ {i rest s}, I (i :: rest) s → ((get s).node i).next = rest.head?)
    (hstep : ∀ {i rest s}, I (i :: rest) s → more s → ∃ t, f i s = some t ∧ I rest t)
    (hstop : ∀ {i rest s}, I (i :: rest) s → more s = false → Q s) (hend : ∀ {s}, I [] s → Q s)
    {s : σ} (h : I rest s) {n : Nat} (hn : rest.length ≤ n) :
    ∃ t, visitWhile get more f n rest.head? s = some t ∧ Q t := by
  induction rest generalizing s n with
  | nil => exact ⟨s, by cases n <;> rfl, hend h⟩
  | cons i rest ih =>
    cases n with
    | zero => simp at hn
    | succ n =>
      rw [List.head?_cons, visitWhile, hnext h]
      cases hmore : more s with
      | false => exact ⟨s, rfl, hstop h hmore⟩
      | true =>
        obtain ⟨t, ht, hI⟩ := hstep h hmore
        rw [if_pos rfl, ht, Option.bind_some]
        exact ih hI (Nat.le_of_succ_le_succ hn)

end

end Arena

end LinkedList
