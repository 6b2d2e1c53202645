import Mathlib.Logic.Function.Basic
import Mathlib.Order.WellFounded
import ModbusGateway.Lib.Program

/-!
# Threads with mutexes

Threads `T` run programs; some calls acquire or release a mutex `M`, which is not recursive. A thread runs its
`start`, then its `turn` again and again, each as long as the last program returned `true`. A step is one call
of one thread, whatever it is answered, or the beginning of a turn; a call that acquires waits until the mutex
is free, a release frees it whoever makes it.

* `Run.obeys` — threads whose programs obey a discipline obey it in every run, each in the state its own calls
  led to.
* `Run.owner_iff` — under a discipline that keeps the held mutexes as a stack of rising ranks, a mutex is owned
  by the thread that has it on its stack.
* `Run.not_self`, `Run.not_deadlocked` — then no thread requests what it holds, and there is no deadlock.
-/

variable {T M C : Type*} {R : C → Type}

/-- What a call does to the mutexes. -/
inductive LockUse (M : Type*) where
  | acquire (m : M)
  | release (m : M)
  | none

structure Script {C : Type*} (R : C → Type) where
  start : Program R Bool
  turn : Program R Bool

structure Threads (T M : Type*) {C : Type*} (R : C → Type) where
  /-- What a thread has still to run. -/
  rest : T → Program R Bool
  owner : M → Option T

/-- A thread and its call; without a call the thread begins a turn. -/
abbrev ThreadEvent (T : Type*) {C : Type*} (R : C → Type) := T × Option (Program.Event R)

/-- A protocol for each turn of a thread: where a turn begins and in which states it may end. -/
structure Discipline {C : Type*} (R : C → Type) (σ : Type*) extends Protocol R σ where
  init : σ
  idle : σ → Prop

namespace Threads

/-- The owners after a call of `t`. -/
def owners [DecidableEq M] (t : T) (owner : M → Option T) : LockUse M → M → Option T
  | .acquire m => Function.update owner m (some t)
  | .release m => Function.update owner m none
  | .none => owner

section
variable [DecidableEq M] {owner : M → Option T} {stack stack' : T → List M} {t : T}

theorem owners_none (h : ∀ m u, owner m = some u ↔ m ∈ stack u) (hother : ∀ u ≠ t, stack' u = stack u)
    (hself : stack' t = stack t) (m : M) (u : T) : owners t owner .none m = some u ↔ m ∈ stack' u := by
  by_cases hu : u = t
  · subst hu
    rw [hself]
    exact h m u
  · rw [hother u hu]
    exact h m u

/-- A free mutex is on no stack, so after it is acquired it is on one. -/
theorem owners_acquire {k : M} (h : ∀ m u, owner m = some u ↔ m ∈ stack u) (hother : ∀ u ≠ t, stack' u = stack u)
    (hfree : owner k = none) (hself : stack' t = k :: stack t) (m : M) (u : T) :
    owners t owner (.acquire k) m = some u ↔ m ∈ stack' u := by
  by_cases hm : m = k
  · subst hm
    have hnone : m ∉ stack u := fun hmem => by simp [(h m u).2 hmem] at hfree
    by_cases hu : u = t
    · subst hu
      simp [owners, hself]
    · simp [owners, hother u hu, hnone, Ne.symm hu]
  · have howner : owners t owner (.acquire k) m = owner m := Function.update_of_ne hm _ _
    rw [howner, h m u]
    by_cases hu : u = t
    · subst hu
      simp [hself, hm]
    · rw [hother u hu]

theorem owners_release {k : M} {below : List M} (h : ∀ m u, owner m = some u ↔ m ∈ stack u)
    (hother : ∀ u ≠ t, stack' u = stack u) (htop : stack t = k :: below) (hgone : k ∉ below)
    (hself : stack' t = below) (m : M) (u : T) : owners t owner (.release k) m = some u ↔ m ∈ stack' u := by
  by_cases hm : m = k
  · subst hm
    have howned : owner m = some t := (h m t).2 (by simp [htop])
    by_cases hu : u = t
    · subst hu
      simp [owners, hself, hgone]
    · have hnone : m ∉ stack u := fun hmem => hu (by simpa [howned, eq_comm] using (h m u).2 hmem)
      simp [owners, hother u hu, hnone]
  · have howner : owners t owner (.release k) m = owner m := Function.update_of_ne hm _ _
    rw [howner, h m u]
    by_cases hu : u = t
    · subst hu
      simp [hself, htop, hm]
    · rw [hother u hu]

end

variable [DecidableEq T] [DecidableEq M] {use : C → LockUse M} {script : T → Script R}

inductive Step (use : C → LockUse M) (script : T → Script R) :
    Threads T M R → ThreadEvent T R → Threads T M R → Prop where
  | call {s : Threads T M R} {t : T} {c : C} {next : R c → Program R Bool} (r : R c) (hrest : s.rest t = .call c next)
      (hfree : ∀ m, use c = .acquire m → s.owner m = none) :
      Step use script s (t, some ⟨c, r⟩) ⟨Function.update s.rest t (next r), owners t s.owner (use c)⟩
  | again {s : Threads T M R} {t : T} (hrest : s.rest t = .pure true) :
      Step use script s (t, none) ⟨Function.update s.rest t (script t).turn, s.owner⟩

inductive Run (use : C → LockUse M) (script : T → Script R) : List (ThreadEvent T R) → Threads T M R → Prop where
  | start : Run use script [] ⟨fun t => (script t).start, fun _ => none⟩
  | step {trace : List (ThreadEvent T R)} {s s' : Threads T M R} {e : ThreadEvent T R} (hrun : Run use script trace s)
      (hstep : Step use script s e s') : Run use script (trace ++ [e]) s'

/-- A run cut short is a run. -/
theorem Run.of_prefix {trace past : List (ThreadEvent T R)} {s : Threads T M R} (h : Run use script trace s)
    (hpast : past <+: trace) : ∃ s, Run use script past s := by
  induction h with
  | start =>
    obtain rfl := List.prefix_nil.1 hpast
    exact ⟨_, .start⟩
  | step hrun hstep ih =>
    obtain rfl | hpast := List.prefix_concat_iff.1 hpast
    · exact ⟨_, hrun.step hstep⟩
    · exact ih hpast

theorem run_snoc {trace : List (ThreadEvent T R)} {e : ThreadEvent T R} {s' : Threads T M R}
    (h : Run use script (trace ++ [e]) s') : ∃ s, Run use script trace s ∧ Step use script s e s' := by
  generalize htrace : trace ++ [e] = trace' at h
  cases h with
  | start => simp at htrace
  | step hrun hstep =>
    obtain ⟨rfl, he⟩ := List.append_inj' htrace rfl
    obtain rfl : e = _ := by simpa using he
    exact ⟨_, hrun, hstep⟩

/-! ## Disciplines -/

variable {σ : Type*} {D : Discipline R σ}

def after (D : Discipline R σ) (s : σ) : Option (Program.Event R) → σ
  | some e => D.next s e.1 e.2
  | none => D.init

/-- What a thread did. -/
def own (t : T) (trace : List (ThreadEvent T R)) : List (Option (Program.Event R)) :=
  trace.filterMap fun e => if e.1 = t then some e.2 else none

/-- Where its own calls have led a thread. -/
def stateOf (D : Discipline R σ) (t : T) (trace : List (ThreadEvent T R)) : σ := (own t trace).foldl (after D) D.init

def Follows (D : Discipline R σ) (script : Script R) : Prop :=
  (script.start.Obeys D.toProtocol D.init fun s _ => D.idle s) ∧
    script.turn.Obeys D.toProtocol D.init fun s _ => D.idle s

theorem own_snoc (t : T) (trace : List (ThreadEvent T R)) (e : ThreadEvent T R) :
    own t (trace ++ [e]) = own t trace ++ if e.1 = t then [e.2] else [] := by
  rw [own, List.filterMap_append]
  by_cases he : e.1 = t <;> simp [own, he]

@[simp] theorem stateOf_nil (t : T) : stateOf D t ([] : List (ThreadEvent T R)) = D.init := rfl

theorem stateOf_snoc (t : T) (trace : List (ThreadEvent T R)) (e : ThreadEvent T R) :
    stateOf D t (trace ++ [e]) = if e.1 = t then after D (stateOf D t trace) e.2 else stateOf D t trace := by
  rw [stateOf, own_snoc, List.foldl_append]
  split <;> rfl

@[simp] theorem stateOf_snoc_self (t : T) (trace : List (ThreadEvent T R)) (e : Option (Program.Event R)) :
    stateOf D t (trace ++ [(t, e)]) = after D (stateOf D t trace) e := by
  rw [stateOf_snoc, if_pos rfl]

theorem stateOf_snoc_ne {t u : T} (h : u ≠ t) (trace : List (ThreadEvent T R)) (e : Option (Program.Event R)) :
    stateOf D t (trace ++ [(u, e)]) = stateOf D t trace := by
  rw [stateOf_snoc, if_neg h]

variable {trace : List (ThreadEvent T R)} {s : Threads T M R}

/-- **What a thread has still to run obeys the discipline.** -/
theorem Run.obeys (h : Run use script trace s) (hfollows : ∀ t, Follows D (script t)) (t : T) :
    (s.rest t).Obeys D.toProtocol (stateOf D t trace) fun s _ => D.idle s := by
  induction h with
  | start => exact (hfollows t).1
  | @step trace s s' e hrun hstep ih =>
    cases hstep with
    | @call u c next r hrest hfree =>
      by_cases hu : u = t
      · subst hu
        rw [hrest] at ih
        rw [stateOf_snoc_self]
        simpa [after] using ih.2 r
      · rw [stateOf_snoc_ne hu]
        simpa [Function.update_of_ne (Ne.symm hu)] using ih
    | @again u hrest =>
      by_cases hu : u = t
      · subst hu
        rw [stateOf_snoc_self]
        simpa [after] using (hfollows u).2
      · rw [stateOf_snoc_ne hu]
        simpa [Function.update_of_ne (Ne.symm hu)] using ih

/-- What a thread is about to call is allowed. -/
theorem Run.allows (h : Run use script trace s) (hfollows : ∀ t, Follows D (script t)) {t : T} {c : C}
    {next : R c → Program R Bool} (hrest : s.rest t = .call c next) : D.allows (stateOf D t trace) c := by
  have hobeys := h.obeys hfollows t
  rw [hrest] at hobeys
  exact hobeys.1

/-- A turn begins where the last program has ended. -/
theorem Run.idle (h : Run use script trace s) (hfollows : ∀ t, Follows D (script t)) {t : T} {again : Bool}
    (hrest : s.rest t = .pure again) : D.idle (stateOf D t trace) := by
  have hobeys := h.obeys hfollows t
  rw [hrest] at hobeys
  exact hobeys

/-- **What a thread has done against the state it is in**: what holds at the start, is kept by a call the
discipline allows and by the beginning of a turn holds in every run. -/
theorem Run.history {I : List (Option (Program.Event R)) → σ → Prop} (hinit : I [] D.init)
    (hcall : ∀ past s c r, I past s → D.allows s c → I (past ++ [some ⟨c, r⟩]) (D.next s c r))
    (hagain : ∀ past s, I past s → I (past ++ [none]) D.init) (h : Run use script trace s)
    (hfollows : ∀ t, Follows D (script t)) (t : T) : I (own t trace) (stateOf D t trace) := by
  induction h with
  | start => exact hinit
  | @step trace s s' e hrun hstep ih =>
    rw [stateOf_snoc, own_snoc]
    by_cases he : e.1 = t
    · subst he
      rw [if_pos rfl, if_pos rfl]
      cases hstep with
      | call r hrest hfree => exact hcall _ _ _ r ih (hrun.allows hfollows hrest)
      | again hrest => exact hagain _ _ ih
    · rw [if_neg he, if_neg he, List.append_nil]
      exact ih

theorem Run.invariant {I : σ → Prop} (hinit : I D.init) (hnext : ∀ s c r, I s → D.allows s c → I (D.next s c r))
    (h : Run use script trace s) (hfollows : ∀ t, Follows D (script t)) (t : T) : I (stateOf D t trace) :=
  h.history (I := fun _ s => I s) hinit (fun _ => hnext) (fun _ _ _ => hinit) hfollows t

/-! ## Ranks -/

/-- A thread's next call acquires `m`. -/
def Requests (use : C → LockUse M) (s : Threads T M R) (t : T) (m : M) : Prop :=
  ∃ c next, s.rest t = .call c next ∧ use c = .acquire m

/-- Each thread of `S` waits for a mutex that a thread of `S` holds. -/
def Deadlocked (use : C → LockUse M) (s : Threads T M R) (S : Set T) : Prop :=
  S.Nonempty ∧ ∀ t ∈ S, ∃ m, Requests use s t m ∧ ∃ u ∈ S, s.owner m = some u

/-- The discipline keeps the held mutexes as a stack: what is acquired ranks above it, what is released is
its top. -/
structure Ranked {ρ : Type*} [LT ρ] (D : Discipline R σ) (use : C → LockUse M) (held : σ → List M) (rank : M → ρ) :
    Prop where
  init : held D.init = []
  idle : ∀ s, D.idle s → held s = []
  acquire : ∀ s c m, use c = .acquire m → D.allows s c →
    (∀ k ∈ held s, rank k < rank m) ∧ ∀ r, held (D.next s c r) = m :: held s
  release : ∀ s c m, use c = .release m → D.allows s c → ∃ below, held s = m :: below ∧ ∀ r, held (D.next s c r) = below
  other : ∀ s c, use c = .none → D.allows s c → ∀ r, held (D.next s c r) = held s

section
variable {ρ : Type*} [Preorder ρ] {held : σ → List M} {rank : M → ρ}

/-- The stack of a thread rises in rank. -/
theorem Run.rising (h : Run use script trace s) (hfollows : ∀ t, Follows D (script t)) (hD : Ranked D use held rank)
    (t : T) : (held (stateOf D t trace)).Pairwise fun a b => rank b < rank a := by
  have hinit : (held D.init).Pairwise fun a b => rank b < rank a := by
    rw [hD.init]
    exact List.Pairwise.nil
  refine h.invariant (I := fun s => (held s).Pairwise fun a b => rank b < rank a) hinit (fun s c r hs hc => ?_) hfollows t
  cases huse : use c with
  | acquire m =>
    obtain ⟨hlow, hheld⟩ := hD.acquire s c m huse hc
    rw [hheld r]
    exact List.pairwise_cons.2 ⟨hlow, hs⟩
  | release m =>
    obtain ⟨below, htop, hheld⟩ := hD.release s c m huse hc
    rw [htop] at hs
    rw [hheld r]
    exact hs.of_cons
  | none => rwa [hD.other s c huse hc r]

/-- **A mutex is owned by the thread that has it on its stack.** -/
theorem Run.owner_iff (h : Run use script trace s) (hfollows : ∀ t, Follows D (script t))
    (hD : Ranked D use held rank) (m : M) (t : T) : s.owner m = some t ↔ m ∈ held (stateOf D t trace) := by
  induction h generalizing m t with
  | start => simp [hD.init]
  | @step trace s s' e hrun hstep ih =>
    cases hstep with
    | @again u hrest =>
      have hother : ∀ v ≠ u, held (stateOf D v (trace ++ [(u, none)])) = held (stateOf D v trace) := by
        intro v hv
        rw [stateOf_snoc_ne hv.symm]
      -- between two turns nothing is held
      have hself : held (stateOf D u (trace ++ [(u, none)])) = held (stateOf D u trace) := by
        rw [stateOf_snoc_self, after, hD.init, hD.idle _ (hrun.idle hfollows hrest)]
      exact owners_none ih hother hself m t
    | @call u c next r hrest hfree =>
      have hc := hrun.allows hfollows hrest
      have hother : ∀ v ≠ u, held (stateOf D v (trace ++ [(u, some ⟨c, r⟩)])) = held (stateOf D v trace) := by
        intro v hv
        rw [stateOf_snoc_ne hv.symm]
      have hself : stateOf D u (trace ++ [(u, some ⟨c, r⟩)]) = D.next (stateOf D u trace) c r := stateOf_snoc_self ..
      cases huse : use c with
      | acquire k =>
        refine owners_acquire ih hother (hfree k huse) ?_ m t
        rw [hself, (hD.acquire _ c k huse hc).2 r]
      | release k =>
        obtain ⟨below, htop, hheld⟩ := hD.release _ c k huse hc
        have hrising := hrun.rising hfollows hD u
        rw [htop, List.pairwise_cons] at hrising
        have hgone : k ∉ below := fun hk => lt_irrefl _ (hrising.1 k hk)
        refine owners_release ih hother htop hgone ?_ m t
        rw [hself, hheld r]
      | none =>
        refine owners_none ih hother ?_ m t
        rw [hself, hD.other _ c huse hc r]

/-- What a thread requests ranks above all it holds. -/
theorem Run.rank_lt (h : Run use script trace s) (hfollows : ∀ t, Follows D (script t)) (hD : Ranked D use held rank)
    {t : T} {m k : M} (hrequest : Requests use s t m) (hk : s.owner k = some t) : rank k < rank m := by
  obtain ⟨c, next, hrest, huse⟩ := hrequest
  exact (hD.acquire _ c m huse (h.allows hfollows hrest)).1 k ((h.owner_iff hfollows hD k t).1 hk)

theorem Run.not_self (h : Run use script trace s) (hfollows : ∀ t, Follows D (script t)) (hD : Ranked D use held rank)
    {t : T} {m : M} (hrequest : Requests use s t m) : s.owner m ≠ some t := by
  intro hm
  exact lt_irrefl _ (h.rank_lt hfollows hD hrequest hm)

/-- **No deadlock.** Along the threads that wait for each other the rank of what they wait for rises. -/
theorem Run.not_deadlocked [WellFoundedGT ρ] (h : Run use script trace s) (hfollows : ∀ t, Follows D (script t))
    (hD : Ranked D use held rank) (S : Set T) : ¬ Deadlocked use s S := by
  rintro ⟨⟨t, ht⟩, hS⟩
  have hnone : ∀ x : ρ, ∀ t ∈ S, ∀ m, Requests use s t m → rank m ≠ x := by
    intro x
    induction x using WellFoundedGT.induction with
    | ind x ih =>
      rintro t ht m hrequest rfl
      obtain ⟨m', hrequest', u, hu, howner⟩ := hS t ht
      obtain rfl : m = m' := by
        obtain ⟨c, next, hrest, huse⟩ := hrequest
        obtain ⟨c', next', hrest', huse'⟩ := hrequest'
        rw [hrest] at hrest'
        cases hrest'
        simpa [huse] using huse'
      obtain ⟨k, hk, -⟩ := hS u hu
      exact ih (rank k) (h.rank_lt hfollows hD hk howner) u hu k hk rfl
  obtain ⟨m, hrequest, -⟩ := hS t ht
  exact hnone _ t ht m hrequest rfl

end

end Threads
