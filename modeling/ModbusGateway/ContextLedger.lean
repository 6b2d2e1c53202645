import ModbusGateway.LockOrder

/-!
# The ledger of libmodbus contexts

Over the trace of a run, whatever libmodbus answers: how often a context was created, freed, connected and
closed. An address may be given out again after it was freed, so a context exists while its address was
created more often than freed.

* `balanced_snoc` — one call moves the ledger as it moves the phase of the thread that makes it.
* `GatewayRun.ledger` — in a run, the ledger is that of the thread that owns `modbus_access_mutex`, and even
  while no thread does.
* `gateway_sessions` — so contexts exist one at a time, are called only while they exist, and are given back
  before the mutex is.
-/

namespace Gateway

/-! ## The ledger -/

namespace SessionEvent

def creates (ctx : Ctx) : SessionEvent → Bool
  | ⟨.newTcp _ _, (created, _)⟩ => created == some ctx
  | _ => false

def frees (ctx : Ctx) : SessionEvent → Bool
  | ⟨.free ctx', _⟩ => ctx' == ctx
  | _ => false

/-- Its connect succeeds. -/
def opens (ctx : Ctx) : SessionEvent → Bool
  | ⟨.connect ctx', (rc, _)⟩ => ctx' == ctx && rc != -1
  | _ => false

def closes (ctx : Ctx) : SessionEvent → Bool
  | ⟨.close ctx', _⟩ => ctx' == ctx
  | _ => false

end SessionEvent

section
variable (ctx : Ctx) (trace : List SessionEvent)

def timesCreated : Nat := trace.countP (SessionEvent.creates ctx)
def timesFreed : Nat := trace.countP (SessionEvent.frees ctx)
def timesConnected : Nat := trace.countP (SessionEvent.opens ctx)
def timesClosed : Nat := trace.countP (SessionEvent.closes ctx)

/-- The context exists. -/
def Live : Prop := timesFreed ctx trace < timesCreated ctx trace

/-- It is connected. -/
def Open : Prop := timesClosed ctx trace < timesConnected ctx trace

end

/-- What a call asks of the contexts before it: a request and `modbus_close` want a connected one,
`modbus_free` one that is not connected or closed again, the others one that exists. -/
def Permitted (past : List SessionEvent) : Call → Prop
  | .setSlave ctx _ | .setResponseTimeout ctx _ _ | .setByteTimeout ctx _ _ | .connect ctx => Live ctx past
  | .readBits ctx _ _ | .readInputBits ctx _ _ | .readRegisters ctx _ _ | .readInputRegisters ctx _ _
  | .writeRegister ctx _ _ | .writeRegisters ctx _ _ | .writeBit ctx _ _ | .close ctx => Live ctx past ∧ Open ctx past
  | .free ctx => Live ctx past ∧ ¬ Open ctx past
  | .newTcp _ _ | .lock | .unlock | .logLine _ _ => True

/-! ## The ledger of one session -/

namespace ContextPhase

/-- The context that exists. -/
def live : ContextPhase → Option Ctx
  | .none => Option.none
  | .created ctx | .connected ctx | .closed ctx => some ctx

/-- The context that is connected. -/
def connection : ContextPhase → Option Ctx
  | .connected ctx => some ctx
  | _ => Option.none

end ContextPhase

/-- Everything is given back, but for the context of the phase. -/
def Balanced (phase : ContextPhase) (trace : List SessionEvent) : Prop :=
  ∀ ctx, timesCreated ctx trace = timesFreed ctx trace + (if phase.live = some ctx then 1 else 0) ∧
    timesConnected ctx trace = timesClosed ctx trace + if phase.connection = some ctx then 1 else 0

section
variable {phase : ContextPhase} {p : ThreadPhase} {trace : List SessionEvent} {ctx : Ctx}

theorem Balanced.live_iff (h : Balanced phase trace) : Live ctx trace ↔ phase.live = some ctx := by
  have hctx := (h ctx).1
  unfold Live
  split at hctx
  · rename_i hlive
    simp only [hlive, iff_true]
    omega
  · rename_i hlive
    simp only [hlive, iff_false]
    omega

theorem Balanced.open_iff (h : Balanced phase trace) : Open ctx trace ↔ phase.connection = some ctx := by
  have hctx := (h ctx).2
  unfold Open
  split at hctx
  · rename_i hopen
    simp only [hopen, iff_true]
    omega
  · rename_i hopen
    simp only [hopen, iff_false]
    omega

theorem permitted_of_mayCall {c : Call} (h : Balanced p.context trace) (hmay : p.mayCall c) : Permitted trace c := by
  cases c with
  | newTcp _ _ | lock | unlock | logLine _ _ => trivial
  | free ctx =>
    obtain hcontext | hcontext := hmay <;>
    · simp only [Permitted, h.live_iff, h.open_iff, hcontext]
      exact ⟨rfl, nofun⟩
  | close ctx =>
    simp only [Permitted, h.live_iff, h.open_iff, show p.context = _ from hmay]
    exact ⟨rfl, rfl⟩
  | setSlave _ _ | setResponseTimeout _ _ _ | setByteTimeout _ _ _ | connect _ =>
    exact h.live_iff.2 (congrArg ContextPhase.live hmay)
  | _ ctx _ _ =>
    exact ⟨h.live_iff.2 (congrArg ContextPhase.live hmay.1), h.open_iff.2 (congrArg ContextPhase.connection hmay.1)⟩

/-- The ledger after one more event. -/
theorem Balanced.snoc {phase' : ContextPhase} {e : SessionEvent} (h : Balanced phase trace)
    (hlive : ∀ ctx, (if e.creates ctx then 1 else 0) + (if phase.live = some ctx then 1 else 0) =
      (if e.frees ctx then 1 else 0) + if phase'.live = some ctx then 1 else 0)
    (hopen : ∀ ctx, (if e.opens ctx then 1 else 0) + (if phase.connection = some ctx then 1 else 0) =
      (if e.closes ctx then 1 else 0) + if phase'.connection = some ctx then 1 else 0) :
    Balanced phase' (trace ++ [e]) := by
  intro ctx
  obtain ⟨hcreated, hopened⟩ := h ctx
  have hlive := hlive ctx
  have hopen := hopen ctx
  simp only [timesCreated, timesFreed, timesConnected, timesClosed] at hcreated hopened ⊢
  simp only [List.countP_append, List.countP_singleton]
  omega

/-- **One call.** -/
theorem balanced_snoc {c : Call} (h : Balanced p.context trace) (hmay : p.mayCall c) (r : Reply c) :
    Balanced (p.called c r).context (trace ++ [⟨c, r⟩]) := by
  cases c with
  | newTcp ip port =>
    obtain ⟨ctx, e⟩ := r
    cases ctx with
    | none => exact h.snoc (fun ctx => rfl) fun ctx => rfl
    | some ctx' =>
      refine h.snoc (fun ctx => ?_) fun ctx => ?_
      · simp [SessionEvent.creates, SessionEvent.frees, hmay.2, ThreadPhase.called, ContextPhase.live]
      · simp [SessionEvent.opens, SessionEvent.closes, hmay.2, ThreadPhase.called, ContextPhase.connection]
  | connect ctx' =>
    obtain ⟨rc, e⟩ := r
    have hcontext : p.context = .created ctx' := hmay
    by_cases hrc : rc = -1
    · refine h.snoc (fun ctx => ?_) fun ctx => ?_
      · simp [SessionEvent.creates, SessionEvent.frees, ThreadPhase.called, hrc]
      · simp [SessionEvent.opens, SessionEvent.closes, ThreadPhase.called, hrc]
    · refine h.snoc (fun ctx => ?_) fun ctx => ?_
      · simp [SessionEvent.creates, SessionEvent.frees, ThreadPhase.called, hrc, hcontext, ContextPhase.live]
      · simp [SessionEvent.opens, SessionEvent.closes, ThreadPhase.called, hrc, hcontext, ContextPhase.connection]
  | close ctx' =>
    have hcontext : p.context = .connected ctx' := hmay
    refine h.snoc (fun ctx => ?_) fun ctx => ?_
    · simp [SessionEvent.creates, SessionEvent.frees, ThreadPhase.called, hcontext, ContextPhase.live]
    · simp [SessionEvent.opens, SessionEvent.closes, ThreadPhase.called, hcontext, ContextPhase.connection]
  | free ctx' =>
    obtain hcontext | hcontext := hmay <;>
    · refine h.snoc (fun ctx => ?_) fun ctx => ?_
      · simp [SessionEvent.creates, SessionEvent.frees, ThreadPhase.called, hcontext, ContextPhase.live]
      · simp [SessionEvent.opens, SessionEvent.closes, ThreadPhase.called, hcontext, ContextPhase.connection]
  | _ => exact h.snoc (fun ctx => rfl) fun ctx => rfl

end

/-! ## The ledger of a run -/

def modbusEvent {T : Type} : ThreadEvent T ThreadReply → Option SessionEvent
  | (_, some ⟨.modbus c, r⟩) => some ⟨c, r⟩
  | _ => none

/-- The calls of libmodbus of all threads, in order. -/
def modbusEvents {T : Type} (trace : List (ThreadEvent T ThreadReply)) : List SessionEvent :=
  trace.filterMap modbusEvent

/-- A read or write request. -/
def Call.isRequest : Call → Bool
  | .readBits _ _ _ | .readInputBits _ _ _ | .readRegisters _ _ _ | .readInputRegisters _ _ _
  | .writeRegister _ _ _ | .writeRegisters _ _ _ | .writeBit _ _ _ => true
  | _ => false

/-- Counts the requests since the last beginning of a turn. -/
def countRequest (n : Nat) : Option (Program.Event ThreadReply) → Nat
  | none => 0
  | some ⟨.modbus c, _⟩ => if c.isRequest then n + 1 else n
  | some _ => n

/-- The requests of a thread in its current turn: of one poll, of one command. -/
def requestsOfTurn {T : Type} [DecidableEq T] (t : T) (trace : List (ThreadEvent T ThreadReply)) : Nat :=
  (Threads.own t trace).foldl countRequest 0

section
variable {llround : Llround} {startUp : StartUp} {trace : List (GatewayEvent startUp)} {s s' : GatewayState startUp}

/-- The phase of the context of the thread that owns `modbus_access_mutex`. -/
def ownedContext (trace : List (GatewayEvent startUp)) (s : GatewayState startUp) : ContextPhase :=
  match s.owner .modbusAccess with
  | some t => (Threads.stateOf lockDiscipline t trace).context
  | none => .none

theorem ownedContext_some {t : GatewayThread startUp.profile.read_points.length} (h : s.owner .modbusAccess = some t) :
    ownedContext trace s = (Threads.stateOf lockDiscipline t trace).context := by
  rw [ownedContext, h]

theorem ownedContext_none (h : s.owner .modbusAccess = none) : ownedContext trace s = .none := by
  rw [ownedContext, h]

/-- A call is made with a context, or to have one under the mutex. -/
theorem held_or_context {p : ThreadPhase} {c : Call} (hmay : p.mayCall c) :
    .modbusAccess ∈ p.held ∨ p.context ≠ .none := by
  cases c with
  | newTcp ip port => exact .inl hmay.1
  | lock | unlock | logLine _ _ => cases hmay
  | free ctx =>
    obtain hcontext | hcontext := hmay <;>
    · rw [hcontext]
      exact .inr nofun
  | setSlave _ _ | setResponseTimeout _ _ _ | setByteTimeout _ _ _ | connect _ | close _ =>
    exact .inr fun hnone => nomatch hmay.symm.trans hnone
  | _ => exact .inr fun hnone => nomatch hmay.1.symm.trans hnone

/-- A thread has a context only while it holds the mutex. -/
theorem GatewayRun.guarded (h : GatewayRun llround startUp trace s)
    (t : GatewayThread startUp.profile.read_points.length) :
    (Threads.stateOf lockDiscipline t trace).context ≠ .none →
      .modbusAccess ∈ (Threads.stateOf lockDiscipline t trace).held := by
  refine Threads.Run.invariant (I := fun p => p.context ≠ .none → .modbusAccess ∈ p.held)
    (fun hnone => absurd rfl hnone) ?_ h gateway_follows t
  intro p c r hp hmay
  cases c with
  | acquire m => exact fun hcontext => List.mem_cons_of_mem _ (hp hcontext)
  | release m =>
    intro hcontext
    obtain ⟨below, htop⟩ := List.head?_eq_some_iff.1 hmay.1
    have hmem := hp hcontext
    have hm : m ≠ .modbusAccess := fun hm => hcontext (hmay.2 hm)
    rw [htop] at hmem
    show .modbusAccess ∈ p.held.tail
    rw [htop]
    exact (List.mem_cons.1 hmem).resolve_left fun h => hm h.symm
  | modbus c =>
    intro _
    show .modbusAccess ∈ (p.called c r).held
    rw [called_held]
    exact (held_or_context hmay).elim id hp
  | _ => exact hp

/-- An event that leaves the owner and every context leaves the owned one. -/
theorem ownedContext_congr {e : GatewayEvent startUp} (howner : s'.owner .modbusAccess = s.owner .modbusAccess)
    (hcontext : ∀ t, s.owner .modbusAccess = some t →
      (Threads.stateOf lockDiscipline t (trace ++ [e])).context = (Threads.stateOf lockDiscipline t trace).context) :
    ownedContext (trace ++ [e]) s' = ownedContext trace s := by
  unfold ownedContext
  rw [howner]
  split
  · rename_i t ht
    exact hcontext t ht
  · rfl

theorem context_snoc {u : GatewayThread startUp.profile.read_points.length} {c : ThreadCall} {r : ThreadReply c}
    (h : (lockDiscipline.next (Threads.stateOf lockDiscipline u trace) c r).context =
      (Threads.stateOf lockDiscipline u trace).context) (t : GatewayThread startUp.profile.read_points.length) :
    (Threads.stateOf lockDiscipline t (trace ++ [(u, some ⟨c, r⟩)])).context =
      (Threads.stateOf lockDiscipline t trace).context := by
  by_cases hu : u = t
  · subst hu
    rw [Threads.stateOf_snoc_self]
    exact h
  · rw [Threads.stateOf_snoc_ne hu]

section
variable {u : GatewayThread startUp.profile.read_points.length} {m : Mutex}
  (rest : GatewayThread startUp.profile.read_points.length → ThreadProgram Bool)

/-- A thread that begins a turn holds nothing. -/
theorem ownedContext_again (h : GatewayRun llround startUp trace s) (hrest : s.rest u = .pure true) :
    ownedContext (trace ++ [(u, none)]) ⟨rest, s.owner⟩ = ownedContext trace s := by
  refine ownedContext_congr rfl fun t ht => ?_
  have hne : u ≠ t := by
    rintro rfl
    have hidle : (Threads.stateOf lockDiscipline u trace).Idle := h.idle gateway_follows hrest
    have hmem := (h.owner_iff gateway_follows lock_ranked .modbusAccess u).1 ht
    rw [hidle.1] at hmem
    cases hmem
  rw [Threads.stateOf_snoc_ne hne]

/-- A thread that acquires the mutex has no context yet. -/
theorem ownedContext_acquire (h : GatewayRun llround startUp trace s) (r : ThreadReply (.acquire m))
    (hfree : s.owner m = none) : ownedContext (trace ++ [(u, some ⟨.acquire m, r⟩)])
      ⟨rest, Threads.owners u s.owner (.acquire m)⟩ = ownedContext trace s := by
  by_cases hm : m = .modbusAccess
  · subst hm
    have hcontext : (Threads.stateOf lockDiscipline u trace).context = .none := by
      by_contra hcontext
      have howned := (h.owner_iff gateway_follows lock_ranked .modbusAccess u).2 (h.guarded u hcontext)
      rw [hfree] at howned
      cases howned
    have howned : Threads.owners u s.owner (.acquire .modbusAccess) .modbusAccess = some u := by
      simp [Threads.owners]
    refine (ownedContext_some howned).trans ?_
    rw [context_snoc rfl, hcontext, ownedContext_none hfree]
  · exact ownedContext_congr (Function.update_of_ne (Ne.symm hm) ..) fun t _ => context_snoc rfl t

/-- A thread that releases it has none any more. -/
theorem ownedContext_release (h : GatewayRun llround startUp trace s) (r : ThreadReply (.release m))
    (hmay : (Threads.stateOf lockDiscipline u trace).mayRelease m) :
    ownedContext (trace ++ [(u, some ⟨.release m, r⟩)]) ⟨rest, Threads.owners u s.owner (.release m)⟩ =
      ownedContext trace s := by
  by_cases hm : m = .modbusAccess
  · subst hm
    have howned : s.owner .modbusAccess = some u :=
      (h.owner_iff gateway_follows lock_ranked .modbusAccess u).2 (List.mem_of_mem_head? hmay.1)
    have hnone : Threads.owners u s.owner (.release .modbusAccess) .modbusAccess = none := by
      simp [Threads.owners]
    refine (ownedContext_none hnone).trans ?_
    rw [ownedContext_some howned]
    exact (hmay.2 rfl).symm
  · exact ownedContext_congr (Function.update_of_ne (Ne.symm hm) ..) fun t _ => context_snoc rfl t

end

/-- **What an event does to the owned context**: a call of libmodbus is made by the thread that owns the mutex
and moves its phase, everything else leaves it. -/
theorem ownedContext_step {e : GatewayEvent startUp} (h : GatewayRun llround startUp trace s)
    (hstep : Threads.Step ThreadCall.lockUse (gatewayScript llround startUp) s e s') :
    (∃ t c r, e = (t, some ⟨.modbus c, r⟩) ∧ s.owner .modbusAccess = some t ∧
      (Threads.stateOf lockDiscipline t trace).mayCall c ∧
      ownedContext (trace ++ [e]) s' = ((Threads.stateOf lockDiscipline t trace).called c r).context) ∨
    (modbusEvent e = none ∧ ownedContext (trace ++ [e]) s' = ownedContext trace s) := by
  cases hstep with
  | again hrest => exact .inr ⟨rfl, ownedContext_again _ h hrest⟩
  | @call u c next r hrest hfree =>
    have hmay := h.allows gateway_follows hrest
    cases c with
    | modbus c =>
      have howned : s.owner .modbusAccess = some u :=
        (h.owner_iff gateway_follows lock_ranked .modbusAccess u).2 ((held_or_context hmay).elim id (h.guarded u))
      refine .inl ⟨u, c, r, rfl, howned, hmay, ?_⟩
      refine (ownedContext_some howned).trans ?_
      rw [Threads.stateOf_snoc_self]
      rfl
    | acquire m => exact .inr ⟨rfl, ownedContext_acquire _ h r (hfree m rfl)⟩
    | release m => exact .inr ⟨rfl, ownedContext_release _ h r hmay⟩
    | _ => exact .inr ⟨rfl, ownedContext_congr rfl fun t _ => context_snoc rfl t⟩

/-- **The ledger of a run** is that of the owned context. -/
theorem GatewayRun.ledger (h : GatewayRun llround startUp trace s) :
    Balanced (ownedContext trace s) (modbusEvents trace) := by
  induction h with
  | start => exact fun ctx => ⟨rfl, rfl⟩
  | @step trace s s' e hrun hstep ih =>
    obtain ⟨t, c, r, rfl, howned, hmay, hafter⟩ | ⟨hnone, hafter⟩ := ownedContext_step hrun hstep
    · rw [ownedContext_some howned] at ih
      rw [hafter, modbusEvents, List.filterMap_append]
      exact balanced_snoc ih hmay r
    · rw [hafter, modbusEvents, List.filterMap_append, List.filterMap_cons_none hnone, List.filterMap_nil,
        List.append_nil]
      exact ih

/-- A request is the first of its turn. -/
theorem asked_of_mayCall {p : ThreadPhase} {c : Call} (hmay : p.mayCall c) (hc : c.isRequest = true) :
    p.asked = false := by
  cases c <;> first | exact hmay.2 | cases hc

theorem called_asked (p : ThreadPhase) (c : Call) (r : Reply c) : (p.called c r).asked = (p.asked || c.isRequest) := by
  cases c with
  | newTcp ip port =>
    obtain ⟨ctx, e⟩ := r
    cases ctx <;> simp [ThreadPhase.called, Call.isRequest]
  | connect ctx =>
    obtain ⟨rc, e⟩ := r
    simp only [ThreadPhase.called, Call.isRequest, Bool.or_false]
    split <;> rfl
  | _ => simp [ThreadPhase.called, Call.isRequest]

theorem GatewayRun.requestsOfTurn_eq (h : GatewayRun llround startUp trace s)
    (t : GatewayThread startUp.profile.read_points.length) :
    requestsOfTurn t trace = if (Threads.stateOf lockDiscipline t trace).asked then 1 else 0 := by
  refine Threads.Run.history (I := fun past p => past.foldl countRequest 0 = if p.asked then 1 else 0) rfl ?_ ?_ h
    gateway_follows t
  · intro past p c r hp hmay
    rw [List.foldl_append, hp]
    cases c with
    | modbus c =>
      have hasked : (lockDiscipline.next p (.modbus c) r).asked = (p.asked || c.isRequest) := called_asked p c r
      rw [hasked]
      by_cases hc : c.isRequest = true
      · simp [countRequest, hc, asked_of_mayCall hmay hc]
      · simp [countRequest, hc]
    | _ => rfl
  · intro past p hp
    rw [List.foldl_append]
    rfl

/-! ## The discipline -/

/-- What the gateway does with libmodbus up to the end of a run. -/
structure SessionsDisciplined (llround : Llround) (startUp : StartUp) (trace : List (GatewayEvent startUp)) : Prop where
  /-- At most one context exists. -/
  single : ∀ ctx ctx', Live ctx (modbusEvents trace) → Live ctx' (modbusEvents trace) → ctx = ctx'
  once : ∀ ctx, timesCreated ctx (modbusEvents trace) ≤ timesFreed ctx (modbusEvents trace) + 1
  /-- Every call was permitted by the calls before it. -/
  permitted : ∀ past t c r, past ++ [(t, some ⟨.modbus c, r⟩)] <+: trace → Permitted (modbusEvents past) c
  /-- Every call was made by the thread that owned `modbus_access_mutex`, -/
  guarded : ∀ past t c r s, past ++ [(t, some ⟨.modbus c, r⟩)] <+: trace → GatewayRun llround startUp past s →
    s.owner .modbusAccess = some t
  /-- and whenever that was released, every context that had been created had been freed. -/
  returned : ∀ past t r, past ++ [(t, some ⟨.release .modbusAccess, r⟩)] <+: trace → ∀ ctx,
    timesCreated ctx (modbusEvents past) = timesFreed ctx (modbusEvents past) ∧
      timesConnected ctx (modbusEvents past) = timesClosed ctx (modbusEvents past)
  /-- The current poll or command of each thread has sent at most one request. -/
  requests : ∀ t, requestsOfTurn t trace ≤ 1

/-- A call of libmodbus in a run, where it was made. -/
theorem GatewayRun.modbus_call (h : GatewayRun llround startUp trace s) {past : List (GatewayEvent startUp)}
    {t : GatewayThread startUp.profile.read_points.length} {c : Call} {r : ThreadReply (.modbus c)}
    (hpast : past ++ [(t, some ⟨.modbus c, r⟩)] <+: trace) : ∃ s, GatewayRun llround startUp past s ∧
      s.owner .modbusAccess = some t ∧ (Threads.stateOf lockDiscipline t past).mayCall c := by
  obtain ⟨s', hrun'⟩ := h.of_prefix hpast
  obtain ⟨s, hrun, hstep⟩ := Threads.run_snoc hrun'
  obtain ⟨t', c', r', he, howned, hmay, -⟩ | ⟨hnone, -⟩ := ownedContext_step hrun hstep
  · cases he
    exact ⟨s, hrun, howned, hmay⟩
  · cases hnone

/-- **Session discipline.** In every run, whatever the calls of libmodbus are answered and however the threads
interleave. -/
theorem gateway_sessions (h : GatewayRun llround startUp trace s) : SessionsDisciplined llround startUp trace where
  single ctx ctx' hctx hctx' := by
    have hlive := h.ledger.live_iff.1 hctx
    have hlive' := h.ledger.live_iff.1 hctx'
    exact Option.some.inj (hlive.symm.trans hlive')
  once ctx := by
    have hctx := (h.ledger ctx).1
    split at hctx <;> omega
  permitted past t c r hpast := by
    obtain ⟨s, hrun, howned, hmay⟩ := h.modbus_call hpast
    have hledger := GatewayRun.ledger hrun
    rw [ownedContext_some howned] at hledger
    exact permitted_of_mayCall hledger hmay
  guarded past t c r s hpast hrun := by
    obtain ⟨s', hrun', howned, -⟩ := h.modbus_call hpast
    have hheld := (hrun'.owner_iff gateway_follows lock_ranked .modbusAccess t).1 howned
    exact (hrun.owner_iff gateway_follows lock_ranked .modbusAccess t).2 hheld
  returned past t r hpast ctx := by
    obtain ⟨s', hrun'⟩ := h.of_prefix hpast
    obtain ⟨s, hrun, hstep⟩ := Threads.run_snoc hrun'
    cases hstep with
    | @call _ _ next _ hrest hfree =>
      have hmay : (Threads.stateOf lockDiscipline t past).mayRelease .modbusAccess := hrun.allows gateway_follows hrest
      have howned : s.owner .modbusAccess = some t :=
        (hrun.owner_iff gateway_follows lock_ranked .modbusAccess t).2 (List.mem_of_mem_head? hmay.1)
      have hledger := GatewayRun.ledger hrun
      rw [ownedContext_some howned, hmay.2 rfl] at hledger
      exact hledger ctx
  requests t := by
    rw [h.requestsOfTurn_eq t]
    split <;> decide

end

def levelPoint : ReadPointConfig :=
  { ip := str "10.0.0.9", port := 502, slave_id := 1, type := .holdingInt16, address := 0, count := 1
    dnp3_analog_index := 0, dnp3_status_index := 0, description := str "Nivel" }

def levelStartUp : StartUp := { profile := { name := [], read_points := [levelPoint] }, file := some [], logs := [] }

def levelPoller : GatewayThread levelStartUp.profile.read_points.length := .poll ⟨0, Nat.one_pos⟩

/-- A poll up to its request, to a device that connects. -/
theorem gateway_sessions_poll : ∃ trace s, GatewayRun llroundSaturating levelStartUp trace s ∧
    Live 7 (modbusEvents trace) ∧ requestsOfTurn levelPoller trace = 1 ∧
      SessionsDisciplined llroundSaturating levelStartUp trace := by
  have hstart : GatewayRun llroundSaturating levelStartUp [] _ := .start
  have hturn := hstart.again levelPoller rfl
  have hrunning := hturn.call levelPoller .running (true, 0) rfl nofun
  have hlock := hrunning.call levelPoller (.acquire .modbusAccess) ((), 0) rfl fun m _ => rfl
  have hcreated := hlock.call levelPoller (.modbus (.newTcp _ _)) (some 7, 0) rfl nofun
  have hslave := hcreated.call levelPoller (.modbus (.setSlave _ _)) (0, 0) rfl nofun
  have hresponse := hslave.call levelPoller (.modbus (.setResponseTimeout _ _ _)) ((), 0) rfl nofun
  have hbyte := hresponse.call levelPoller (.modbus (.setByteTimeout _ _ _)) ((), 0) rfl nofun
  have hconnect := hbyte.call levelPoller (.modbus (.connect _)) (0, 0) rfl nofun
  have hread := hconnect.call levelPoller (.modbus (.readRegisters _ _ _)) ((1, {}), 0) rfl nofun
  exact ⟨_, _, hread, Nat.one_pos, rfl, gateway_sessions hread⟩

end Gateway
