import ModbusGateway.LinkSession

/-!
# The secondary station over runs (opendnp3)

What holds of the side that answers, over any inputs of a session in any order.

* `secondary_waits` — it waits exactly while its answer is in flight or pending, and no answer is written over;
  as long as no confirmed user data comes for everyone.
* `broadcast_stuck` — when such a frame comes, it waits for good.
* `confirmed_alternates` — the frames of confirmed user data that are handed up take turns in their frame count bit,
  as long as nothing resets or tests the link.
-/

namespace Opendnp3.Session

variable {s t u : Session} {f : LinkFrame}

/-! ## The secondary's buffer -/

/-- A pending frame of the secondary is an answer that waits for a frame of the primary, and none was overwritten. -/
structure Secondary (s : Session) : Prop where
  pending : s.pendingSecTx.isSome → s.txMode = .primary
  answer : ∀ f ∈ s.pendingSecTx, (SessionOutput.transmit f).ofSecondary = true
  quiet : .overwritten false ∉ s.out

/-- While the secondary takes requests its buffer is free. -/
def Answered (s : Session) : Prop := s.secState = .notReset ∨ s.secState = .reset → s.busy false = false

theorem PrimaryMove.busy (h : PrimaryMove s t) : t.busy false = s.busy false := by
  rw [Session.busy, Session.busy, h.pendingSecTx]
  rcases h.txMode with hmode | ⟨hidle, hmode⟩
  · rw [hmode]
  · rw [hmode, hidle]
    rfl

theorem Secondary.primaryMove (hs : Secondary s) (h : PrimaryMove s t) : Secondary t := by
  refine ⟨?_, by rw [h.pendingSecTx]; exact hs.answer, ?_⟩
  · intro hpending
    rw [h.pendingSecTx] at hpending
    have hmode := hs.pending hpending
    rcases h.txMode with hmode' | ⟨hidle, -⟩
    · rw [hmode', hmode]
    · rw [hidle] at hmode
      cases hmode
  · obtain ⟨outs, hout, hall⟩ := h.out
    rw [hout, List.mem_append, not_or]
    exact ⟨hs.quiet, fun hmem => by cases hall _ hmem⟩

theorem Answered.primaryMove (hs : Answered s) (h : PrimaryMove s t) : Answered t := by
  intro hstate
  rw [h.secState] at hstate
  rw [h.busy, hs hstate]

/-- An answer goes into the free buffer. -/
theorem Secondary.queueAnswer (hs : Secondary s) (hfree : s.busy false = false)
    (hf : (SessionOutput.transmit f).ofSecondary = true) : Secondary (s.queueTransmit f false) := by
  obtain ⟨hpending, hanswer, hquiet⟩ := hs
  have hmode : s.txMode ≠ .secondary := by
    intro hmode
    rw [busy, hmode] at hfree
    cases hfree
  rw [queueTransmit_eq, hfree]
  constructor <;> cases hmode : s.txMode <;> simp_all

theorem Secondary.pushDataUp (hs : Secondary s) : Secondary (s.pushDataUp f) := by
  rw [pushDataUp_eq]
  refine ⟨hs.pending, hs.answer, ?_⟩
  have hquiet := hs.quiet
  simp_all

theorem secondary_onConfirmedUserData (hs : Secondary s) (ha : Answered s) :
    Secondary (s.onConfirmedUserData f) ∧ Answered (s.onConfirmedUserData f) := by
  unfold onConfirmedUserData
  split
  next => exact ⟨{ hs with }, ha⟩
  next hstate =>
    have hack : Secondary
        (if f.fields.addresses.isBroadcast then s else s.queueAck f.fields.addresses.source) := by
      split
      · exact hs
      · exact hs.queueAnswer (ha (Or.inr hstate)) rfl
    simp only
    generalize (if f.fields.addresses.isBroadcast then s else s.queueAck f.fields.addresses.source) = t at hack ⊢
    refine ⟨?_, fun h => by rcases h with h | h <;> cases h⟩
    split
    · have hnext : Secondary { t with nextReadFCB := !t.nextReadFCB } := { hack with }
      exact { hnext.pushDataUp (f := f) with }
    · exact { hack with }
  next => exact ⟨hs, ha⟩
  next => exact ⟨hs, ha⟩

theorem secondary_dispatch (hs : Secondary s) (ha : Answered s) :
    Secondary (s.dispatch f) ∧ Answered (s.dispatch f) := by
  have hprimary : ∀ {t}, PrimaryMove s t → Secondary t ∧ Answered t :=
    fun h => ⟨hs.primaryMove h, ha.primaryMove h⟩
  have hwait : ∀ {t : Session}, t.secState = .transmitWaitReset ∨ t.secState = .transmitWaitNotReset → Answered t := by
    intro t hstate h
    rcases hstate with hstate | hstate <;> rw [hstate] at h <;> rcases h with h | h <;> cases h
  unfold dispatch
  simp only
  split
  · exact hprimary (primaryMove_onAck s)
  · exact hprimary (primaryMove_onAck s)
  · exact hprimary (primaryMove_onAck s)
  · exact hprimary (primaryMove_onLinkStatus s)
  · unfold onTestLinkStatus
    split
    next => exact ⟨{ hs with }, ha⟩
    next hstate =>
      split
      · exact ⟨{ hs.queueAnswer (ha (Or.inr hstate)) rfl with }, hwait (Or.inl rfl)⟩
      · exact ⟨hs, ha⟩
    all_goals exact ⟨hs, ha⟩
  · unfold onResetLinkStates
    split
    next hstate => exact ⟨{ hs.queueAnswer (ha (Or.inl hstate)) rfl with }, hwait (Or.inl rfl)⟩
    next hstate => exact ⟨{ hs.queueAnswer (ha (Or.inr hstate)) rfl with }, hwait (Or.inl rfl)⟩
    all_goals exact ⟨hs, ha⟩
  · unfold onRequestLinkStatus
    split
    next hstate => exact ⟨{ hs.queueAnswer (ha (Or.inl hstate)) rfl with }, hwait (Or.inr rfl)⟩
    next hstate => exact ⟨{ hs.queueAnswer (ha (Or.inr hstate)) rfl with }, hwait (Or.inl rfl)⟩
    all_goals exact ⟨hs, ha⟩
  · exact secondary_onConfirmedUserData hs ha
  · exact ⟨hs.pushDataUp, fun h => by rw [pushDataUp_eq] at h ⊢; exact ha h⟩
  · exact ⟨hs, ha⟩

theorem secondary_release (hs : Secondary s) :
    Secondary s.release ∧ (s.txMode = .primary → Answered s → Answered s.release) ∧
      (s.txMode = .secondary → s.release.busy false = false) := by
  have hprimary := primaryMove_tryPendingTx ({ s with txMode := .idle }.tryPendingTx false)
  have hfirst : Secondary ({ s with txMode := .idle }.tryPendingTx false) := by
    rw [tryPendingTx_false, if_pos rfl]
    refine ⟨(fun h => by cases h), (fun f h => by cases h), ?_⟩
    have hquiet := hs.quiet
    simp_all
  refine ⟨hfirst.primaryMove hprimary, ?_, ?_⟩
  · intro hmode ha
    refine Answered.primaryMove ?_ hprimary
    rw [tryPendingTx_false, if_pos rfl]
    intro hstate
    have hfree := ha hstate
    rw [busy, hmode] at hfree
    have hnone : s.pendingSecTx.isSome = false := hfree
    rw [busy, hnone]
    rfl
  · intro hsec
    have hnone : s.pendingSecTx.isSome = false := by
      rw [Bool.eq_false_iff]
      intro hsome
      rw [hs.pending hsome] at hsec
      cases hsec
    show (({ s with txMode := .idle }.tryPendingTx false).tryPendingTx true).busy false = false
    rw [hprimary.busy, tryPendingTx_false, if_pos rfl, busy, hnone]
    rfl

theorem secondary_onTxReady (hs : Secondary s) (ha : Answered s) : Secondary s.onTxReady ∧ Answered s.onTxReady := by
  rw [onTxReady_eq]
  split
  · exact ⟨hs, ha⟩
  next hmode =>
    obtain ⟨hsecondary, hprimary, hfree⟩ := secondary_release hs
    have hstart : ∀ {t : Session}, Secondary t ∧ Answered t →
        Secondary t.tryStartTransmission ∧ Answered t.tryStartTransmission := fun h =>
      ⟨h.1.primaryMove (primaryMove_tryStartTransmission _), h.2.primaryMove (primaryMove_tryStartTransmission _)⟩
    apply hstart
    split
    next hmode => exact ⟨hsecondary.primaryMove (primaryMove_priTxReady _),
        (hprimary hmode ha).primaryMove (primaryMove_priTxReady _)⟩
    next hmode' =>
      have hmode : s.txMode = .secondary := by
        cases h : s.txMode
        · exact absurd h hmode
        · exact absurd h hmode'
        · rfl
      have hbusy := hfree hmode
      unfold secTxReady
      split
      · exact ⟨{ hsecondary with }, fun _ => hbusy⟩
      · exact ⟨{ hsecondary with }, fun _ => hbusy⟩
      · exact ⟨hsecondary, fun _ => hbusy⟩
      · exact ⟨hsecondary, fun _ => hbusy⟩

theorem secondary_onFrame (hs : Secondary s) (ha : Answered s) :
    Secondary (s.onFrame f) ∧ Answered (s.onFrame f) := by
  unfold onFrame
  simp only
  split_ifs
  · exact ⟨hs, ha⟩
  · exact ⟨{ hs with }, ha⟩
  · exact ⟨{ hs with }, ha⟩
  · exact ⟨{ hs with }, ha⟩
  · exact ⟨{ hs with }, ha⟩
  · obtain ⟨hs, ha⟩ := secondary_dispatch (f := f) hs ha
    exact ⟨hs.primaryMove (primaryMove_tryStartTransmission _), ha.primaryMove (primaryMove_tryStartTransmission _)⟩

theorem secondary_step (hs : Secondary s) (ha : Answered s) (i : SessionInput) :
    Secondary (s.step i) ∧ Answered (s.step i) := by
  have hprimary : ∀ {t}, PrimaryMove s t → Secondary t ∧ Answered t :=
    fun h => ⟨hs.primaryMove h, ha.primaryMove h⟩
  cases i with
  | up =>
    show Secondary s.onLowerLayerUp ∧ Answered s.onLowerLayerUp
    unfold onLowerLayerUp
    split
    · exact ⟨hs, ha⟩
    · exact ⟨{ hs with }, ha⟩
  | down =>
    show Secondary s.onLowerLayerDown ∧ Answered s.onLowerLayerDown
    unfold onLowerLayerDown
    split
    · exact ⟨⟨(fun h => by cases h), (fun f h => by cases h), hs.quiet⟩, fun _ => rfl⟩
    · exact ⟨hs, ha⟩
  | send m => exact hprimary (primaryMove_beginTransmit s m)
  | callback => exact hprimary (primaryMove_upperTxReady s)
  | frame f => exact secondary_onFrame hs ha
  | txReady => exact secondary_onTxReady hs ha
  | keepAlive elapsed => exact hprimary (primaryMove_onKeepAliveTimeout s elapsed)
  | responseTimeout => exact hprimary (primaryMove_onResponseTimeout s)

/-- What holds of the secondary in every state reached. -/
theorem secondary_run {inputs : List SessionInput} (hs : Secondary s) (ha : Answered s) :
    Secondary (inputs.foldl step s) ∧ Answered (inputs.foldl step s) := by
  induction inputs generalizing s with
  | nil => exact ⟨hs, ha⟩
  | cons i inputs ih =>
    obtain ⟨hs, ha⟩ := secondary_step hs ha i
    exact ih hs ha

theorem secondary_start (config : LinkLayerConfig) (receiver : TransportRx) :
    Secondary { config, receiver } ∧ Answered { config, receiver } :=
  ⟨⟨(fun h => by cases h), (fun f h => by cases h), List.not_mem_nil⟩, fun _ => rfl⟩

/-! ## The secondary that waits -/

def waiting : SecState → Bool
  | .transmitWaitReset | .transmitWaitNotReset => true
  | .notReset | .reset => false

theorem queueTransmit_busy (s : Session) (f : LinkFrame) (p : Bool) : (s.queueTransmit f p).busy p = true := by
  rw [queueTransmit_eq]
  cases p <;> cases hmode : s.txMode <;> simp [busy]

/-- While the secondary waits, its answer is in flight or pending. -/
def Waits (s : Session) : Prop := waiting s.secState = true → s.busy false = true

theorem Waits.primaryMove (hs : Waits s) (h : PrimaryMove s t) : Waits t := by
  intro hstate
  rw [h.secState] at hstate
  rw [h.busy, hs hstate]

theorem waits_dispatch (hs : Waits s) (hf : SessionInput.broadcast (.frame f) = false) : Waits (s.dispatch f) := by
  have hqueued : ∀ {g : LinkFrame} {b : Bool} {st : SecState},
      Waits { s.queueTransmit g false with nextReadFCB := b, secState := st } :=
    fun _ => queueTransmit_busy s _ false
  have hqueued' : ∀ {g : LinkFrame} {st : SecState}, Waits { s.queueTransmit g false with secState := st } :=
    fun _ => queueTransmit_busy s _ false
  unfold dispatch
  simp only
  split
  · exact hs.primaryMove (primaryMove_onAck s)
  · exact hs.primaryMove (primaryMove_onAck s)
  · exact hs.primaryMove (primaryMove_onAck s)
  · exact hs.primaryMove (primaryMove_onLinkStatus s)
  · unfold onTestLinkStatus
    split
    · exact hs
    · split
      · exact hqueued
      · exact hs
    all_goals exact hs
  · unfold onResetLinkStates
    split
    · exact hqueued
    · exact hqueued
    all_goals exact hs
  · unfold onRequestLinkStatus
    split
    · exact hqueued'
    · exact hqueued'
    all_goals exact hs
  next hfunc =>
    have hone : f.fields.addresses.isBroadcast = false := by
      rw [SessionInput.broadcast, hfunc] at hf
      exact hf
    unfold onConfirmedUserData
    split
    · exact hs
    · rw [hone]
      simp only [Bool.false_eq_true, if_false]
      split
      · rw [pushDataUp_eq]
        exact fun _ => queueTransmit_busy s _ false
      · exact fun _ => queueTransmit_busy s _ false
    all_goals exact hs
  · rw [pushDataUp_eq]
    exact hs
  · exact hs

theorem waits_step (hs : Waits s) {i : SessionInput} (hi : i.broadcast = false) :
    Waits (s.step i) := by
  cases i with
  | up =>
    show Waits s.onLowerLayerUp
    unfold onLowerLayerUp
    split <;> exact hs
  | down =>
    show Waits s.onLowerLayerDown
    unfold onLowerLayerDown
    split
    · exact fun h => by cases h
    · exact hs
  | send m => exact hs.primaryMove (primaryMove_beginTransmit s m)
  | callback => exact hs.primaryMove (primaryMove_upperTxReady s)
  | frame f =>
    show Waits (s.onFrame f)
    unfold onFrame
    simp only
    split_ifs
    · exact hs
    · exact hs
    · exact hs
    · exact hs
    · exact hs
    · exact (waits_dispatch hs hi).primaryMove (primaryMove_tryStartTransmission _)
  | txReady =>
    show Waits s.onTxReady
    rw [onTxReady_eq]
    split
    · exact hs
    next hidle =>
      refine Waits.primaryMove ?_ (primaryMove_tryStartTransmission _)
      split
      next hmode =>
        refine Waits.primaryMove ?_ (primaryMove_priTxReady _)
        refine Waits.primaryMove ?_ (primaryMove_tryPendingTx _)
        rw [tryPendingTx_false, if_pos rfl]
        intro hwait
        have hbusy := hs hwait
        rw [busy, hmode] at hbusy
        have hsome : s.pendingSecTx.isSome = true := hbusy
        rw [busy, hsome]
        rfl
      next =>
        unfold secTxReady
        intro hwait
        split at hwait <;> simp_all [waiting]
  | keepAlive elapsed => exact hs.primaryMove (primaryMove_onKeepAliveTimeout s elapsed)
  | responseTimeout => exact hs.primaryMove (primaryMove_onResponseTimeout s)

/-- **The secondary waits for a frame of its own, and no answer is written over**: in every state reached without
confirmed user data to everyone, it waits exactly while an answer is in flight or pending. -/
theorem secondary_waits (config : LinkLayerConfig) (receiver : TransportRx) {inputs : List SessionInput}
    (hinputs : ∀ i ∈ inputs, i.broadcast = false) :
    let s := inputs.foldl step { config, receiver }
    (waiting s.secState = true ↔ s.busy false = true) ∧ .overwritten false ∉ s.out := by
  have hrun : ∀ s, Secondary s → Answered s → Waits s →
      Secondary (inputs.foldl step s) ∧ Answered (inputs.foldl step s) ∧ Waits (inputs.foldl step s) := by
    induction inputs with
    | nil => exact fun s hs ha hw => ⟨hs, ha, hw⟩
    | cons i inputs ih =>
      intro s hs ha hw
      rw [List.forall_mem_cons] at hinputs
      obtain ⟨hs', ha'⟩ := secondary_step hs ha i
      exact ih hinputs.2 _ hs' ha' (waits_step hw hinputs.1)
  obtain ⟨hs, ha⟩ := secondary_start config receiver
  obtain ⟨hs, ha, hw⟩ := hrun _ hs ha (fun h => by cases h)
  refine ⟨⟨hw, ?_⟩, hs.quiet⟩
  intro hbusy
  cases hstate : (inputs.foldl step { config, receiver }).secState with
  | notReset => rw [ha (Or.inl hstate)] at hbusy; cases hbusy
  | reset => rw [ha (Or.inr hstate)] at hbusy; cases hbusy
  | transmitWaitReset => rfl
  | transmitWaitNotReset => rfl

/-- A reset has come while a request for the link status goes out: its answer is pending, and the secondary waits. -/
theorem secondary_waits_reset :
    let s := [.up, .keepAlive true, .frame ⟨⟨.priResetLinkStates, true, false, false, ⟨1, 10⟩⟩, []⟩].foldl step
      { config := ⟨false, 10, 1, false⟩, receiver := ⟨2048, {}, [], ⟨0, 0⟩, 0⟩ }
    s.pendingSecTx.isSome = true ∧ waiting s.secState = true ∧ .overwritten false ∉ s.out := by
  have hpending : ([.up, .keepAlive true, .frame ⟨⟨.priResetLinkStates, true, false, false, ⟨1, 10⟩⟩, []⟩].foldl step
      { config := ⟨false, 10, 1, false⟩, receiver := ⟨2048, {}, [], ⟨0, 0⟩, 0⟩ }).pendingSecTx.isSome = true := by decide
  obtain ⟨hwaits, hquiet⟩ := @secondary_waits ⟨false, 10, 1, false⟩ ⟨2048, {}, [], ⟨0, 0⟩, 0⟩
    [.up, .keepAlive true, .frame ⟨⟨.priResetLinkStates, true, false, false, ⟨1, 10⟩⟩, []⟩] (by decide)
  exact ⟨hpending, hwaits.2 (by rw [busy, hpending]; rfl), hquiet⟩

/-! ## Confirmed user data to everyone -/

/-- The confirmed user data handed up. -/
def confirmedUp (s : Session) : List LinkFrame :=
  s.out.filterMap fun
    | .pushed f => if f.fields.func = .priConfirmedUserData then some f else none
    | _ => none

theorem PrimaryMove.confirmedUp (h : PrimaryMove s t) : t.confirmedUp = s.confirmedUp := by
  obtain ⟨outs, hout, hall⟩ := h.out
  have hnone : outs.filterMap (fun
      | .pushed f => if f.fields.func = .priConfirmedUserData then some f else none
      | _ => none) = [] := by
    rw [List.filterMap_eq_nil_iff]
    intro o ho
    have ho := hall o ho
    cases o <;> first | rfl | cases ho
  rw [Session.confirmedUp, hout, List.filterMap_append, hnone, List.append_nil]
  rfl

/-- The secondary waits for an answer that nobody sends. -/
structure Stuck (s : Session) : Prop where
  waiting : waiting s.secState = true
  free : s.busy false = false

theorem Stuck.primaryMove (hs : Stuck s) (h : PrimaryMove s t) :
    Stuck t ∧ t.secState = s.secState ∧ t.confirmedUp = s.confirmedUp :=
  ⟨⟨by rw [h.secState]; exact hs.waiting, by rw [h.busy]; exact hs.free⟩, h.secState, h.confirmedUp⟩

theorem confirmedUp_pushDataUp (hf : f.fields.func ≠ .priConfirmedUserData) :
    (s.pushDataUp f).confirmedUp = s.confirmedUp := by
  have hnone : ((s.receiver.receiveAll [⟨f.fields.addresses, f.userData⟩]).2.map SessionOutput.received).filterMap (fun
      | .pushed f => if f.fields.func = .priConfirmedUserData then some f else none
      | _ => none) = [] := by
    rw [List.filterMap_map, List.filterMap_eq_nil_iff]
    exact fun _ _ => rfl
  rw [confirmedUp, pushDataUp_eq, List.filterMap_append, List.filterMap_cons, hnone]
  simp [hf, confirmedUp]

theorem stuck_dispatch (hs : Stuck s) :
    Stuck (s.dispatch f) ∧ (s.dispatch f).secState = s.secState ∧ (s.dispatch f).confirmedUp = s.confirmedUp := by
  have hwaiting := hs.waiting
  unfold dispatch
  simp only
  split
  · exact hs.primaryMove (primaryMove_onAck s)
  · exact hs.primaryMove (primaryMove_onAck s)
  · exact hs.primaryMove (primaryMove_onAck s)
  · exact hs.primaryMove (primaryMove_onLinkStatus s)
  · unfold onTestLinkStatus
    split
    next hstate => rw [hstate] at hwaiting; cases hwaiting
    next hstate => rw [hstate] at hwaiting; cases hwaiting
    all_goals exact ⟨hs, rfl, rfl⟩
  · unfold onResetLinkStates
    split
    next hstate => rw [hstate] at hwaiting; cases hwaiting
    next hstate => rw [hstate] at hwaiting; cases hwaiting
    all_goals exact ⟨hs, rfl, rfl⟩
  · unfold onRequestLinkStatus
    split
    next hstate => rw [hstate] at hwaiting; cases hwaiting
    next hstate => rw [hstate] at hwaiting; cases hwaiting
    all_goals exact ⟨hs, rfl, rfl⟩
  · unfold onConfirmedUserData
    split
    next hstate => rw [hstate] at hwaiting; cases hwaiting
    next hstate => rw [hstate] at hwaiting; cases hwaiting
    all_goals exact ⟨hs, rfl, rfl⟩
  next hfunc =>
    have hup := confirmedUp_pushDataUp (s := s) (f := f) (by rw [hfunc]; decide)
    refine ⟨?_, ?_, hup⟩ <;> rw [pushDataUp_eq]
    exact ⟨hs.waiting, hs.free⟩
  · exact ⟨hs, rfl, rfl⟩

theorem stuck_step (hs : Stuck s) {i : SessionInput} (hi : i ≠ .down) :
    Stuck (s.step i) ∧ (s.step i).secState = s.secState ∧ (s.step i).confirmedUp = s.confirmedUp := by
  cases i with
  | up =>
    show Stuck s.onLowerLayerUp ∧ s.onLowerLayerUp.secState = _ ∧ s.onLowerLayerUp.confirmedUp = _
    unfold onLowerLayerUp
    split
    · exact ⟨hs, rfl, rfl⟩
    · exact ⟨{ hs with }, rfl, rfl⟩
  | down => exact absurd rfl hi
  | send m => exact hs.primaryMove (primaryMove_beginTransmit s m)
  | callback => exact hs.primaryMove (primaryMove_upperTxReady s)
  | frame f =>
    show Stuck (s.onFrame f) ∧ (s.onFrame f).secState = _ ∧ (s.onFrame f).confirmedUp = _
    unfold onFrame
    simp only
    split_ifs
    · exact ⟨hs, rfl, rfl⟩
    · exact ⟨{ hs with }, rfl, rfl⟩
    · exact ⟨{ hs with }, rfl, rfl⟩
    · exact ⟨{ hs with }, rfl, rfl⟩
    · exact ⟨{ hs with }, rfl, rfl⟩
    · obtain ⟨hs', hstate, hup⟩ := stuck_dispatch (f := f) hs
      obtain ⟨hs'', hstate', hup'⟩ := hs'.primaryMove (primaryMove_tryStartTransmission _)
      exact ⟨hs'', hstate'.trans hstate, hup'.trans hup⟩
  | txReady =>
    show Stuck s.onTxReady ∧ s.onTxReady.secState = _ ∧ s.onTxReady.confirmedUp = _
    have hfree := hs.free
    rw [onTxReady_eq]
    split
    · exact ⟨hs, rfl, rfl⟩
    next hidle =>
      have hmode : s.txMode = .primary := by
        cases h : s.txMode with
        | idle => exact absurd h hidle
        | primary => rfl
        | secondary => rw [busy, h] at hfree; cases hfree
      have hnone : s.pendingSecTx = none := by
        rw [busy, Bool.or_eq_false_iff] at hfree
        exact Option.isSome_eq_false_iff.1 hfree.2 |> Option.isNone_iff_eq_none.1
      have hfirst : { s with txMode := .idle }.tryPendingTx false = { s with txMode := .idle, pendingSecTx := none } := by
        rw [tryPendingTx_false, if_pos rfl, hnone]
        simp
      rw [if_pos hmode, release, hfirst]
      have hstuck : Stuck { s with txMode := .idle, pendingSecTx := none } := ⟨hs.waiting, rfl⟩
      obtain ⟨h, hstate, hup⟩ := hstuck.primaryMove ((primaryMove_tryPendingTx _).trans
        ((primaryMove_priTxReady _).trans (primaryMove_tryStartTransmission _)))
      exact ⟨h, hstate, hup⟩
  | keepAlive elapsed => exact hs.primaryMove (primaryMove_onKeepAliveTimeout s elapsed)
  | responseTimeout => exact hs.primaryMove (primaryMove_onResponseTimeout s)

theorem stuck_run (hs : Stuck s) {inputs : List SessionInput} (hinputs : .down ∉ inputs) :
    Stuck (inputs.foldl step s) ∧ (inputs.foldl step s).secState = s.secState ∧
      (inputs.foldl step s).confirmedUp = s.confirmedUp := by
  induction inputs generalizing s with
  | nil => exact ⟨hs, rfl, rfl⟩
  | cons i inputs ih =>
    rw [List.mem_cons, not_or] at hinputs
    obtain ⟨hs', hstate, hup⟩ := stuck_step hs (Ne.symm hinputs.1)
    obtain ⟨hs'', hstate', hup'⟩ := ih hs' hinputs.2
    exact ⟨hs'', hstate'.trans hstate, hup'.trans hup⟩

/-- The frame passes the checks of `OnFrame`. -/
def takes (s : Session) (f : LinkFrame) : Prop :=
  s.isOnline = true ∧ f.fields.isFromMaster ≠ s.config.isMaster ∧
    (f.fields.addresses.destination = s.config.localAddr ∨ f.fields.addresses.isBroadcast = true) ∧
    (f.fields.addresses.source = s.config.remoteAddr ∨ s.config.respondToAnySource = true) ∧
    (f.fields.addresses.isBroadcast = true → userDataFunction f.fields.func = true)

instance (s : Session) (f : LinkFrame) : Decidable (s.takes f) := by
  unfold takes
  infer_instance

theorem onFrame_takes (h : s.takes f) : s.onFrame f = (s.dispatch f).tryStartTransmission := by
  obtain ⟨honline, hmaster, hdest, hsource, hbroadcast⟩ := h
  unfold onFrame
  simp only
  rw [if_neg (by rw [honline]; decide), if_neg hmaster, if_neg, if_neg, if_neg]
  · rintro ⟨hall, hfunc⟩
    rw [hbroadcast hall] at hfunc
    cases hfunc
  · rintro ⟨hne, hany⟩
    exact hsource.elim hne (fun h => by rw [h] at hany; cases hany)
  · rintro ⟨hne, hone⟩
    exact hdest.elim hne (fun h => by rw [h] at hone; cases hone)

/-- **Confirmed user data to everyone silences the secondary**: no answer is ever formatted for it, so from then on
the secondary waits with none in flight, and hands up no confirmed data, until the link goes down. -/
theorem broadcast_stuck (config : LinkLayerConfig) (receiver : TransportRx) {before after : List SessionInput}
    {f : LinkFrame} (hreset : (before.foldl step { config, receiver }).secState = .reset)
    (htakes : (before.foldl step { config, receiver }).takes f)
    (hf : SessionInput.broadcast (.frame f) = true) (hafter : .down ∉ after) :
    let s := (before.foldl step { config, receiver }).step (.frame f)
    (after.foldl step s).secState = .transmitWaitReset ∧ (after.foldl step s).busy false = false ∧
      (after.foldl step s).confirmedUp = s.confirmedUp := by
  obtain ⟨hs, ha⟩ := secondary_start config receiver
  have ha : Answered (before.foldl step { config, receiver }) := (secondary_run hs ha).2
  generalize before.foldl step { config, receiver } = s at hreset htakes ha
  obtain ⟨hfunc, hall⟩ : f.fields.func = .priConfirmedUserData ∧ f.fields.addresses.isBroadcast = true := by
    rw [SessionInput.broadcast, Bool.and_eq_true, beq_iff_eq] at hf
    exact hf
  have hfree := ha (Or.inr hreset)
  have hdata : Stuck (s.onConfirmedUserData f) ∧ (s.onConfirmedUserData f).secState = .transmitWaitReset := by
    unfold onConfirmedUserData
    rw [hreset, hall]
    simp only [if_true]
    split
    · rw [pushDataUp_eq]
      exact ⟨⟨rfl, hfree⟩, trivial⟩
    · exact ⟨⟨rfl, hfree⟩, trivial⟩
  have hdispatch : s.dispatch f = s.onConfirmedUserData f := by
    rw [dispatch, hfunc]
  obtain ⟨hstuck, hstate, -⟩ := hdata.1.primaryMove (primaryMove_tryStartTransmission _)
  have hstep : s.step (.frame f) = (s.onConfirmedUserData f).tryStartTransmission := by
    rw [← hdispatch]
    exact onFrame_takes htakes
  rw [← hstep] at hstuck hstate
  obtain ⟨hstuck', hstate', hup⟩ := stuck_run hstuck hafter
  exact ⟨hstate'.trans (hstate.trans hdata.2), hstuck'.free, hup⟩

/-- The reset link, then a confirmed fragment for everyone: another reset is not answered. -/
theorem broadcast_stuck_reset :
    let s := ([.up, .frame ⟨⟨.priResetLinkStates, true, false, false, ⟨1, 10⟩⟩, []⟩, .txReady].foldl step
      { config := ⟨false, 10, 1, false⟩, receiver := ⟨2048, {}, [], ⟨0, 0⟩, 0⟩ }).step
        (.frame ⟨⟨.priConfirmedUserData, true, true, true, ⟨1, 0xFFFF⟩⟩, [0xC0, 0xC0, 0x01]⟩)
    ([.frame ⟨⟨.priResetLinkStates, true, false, false, ⟨1, 10⟩⟩, []⟩].foldl step s).secState = .transmitWaitReset ∧
      ([.frame ⟨⟨.priResetLinkStates, true, false, false, ⟨1, 10⟩⟩, []⟩].foldl step s).busy false = false ∧
      ([.frame ⟨⟨.priResetLinkStates, true, false, false, ⟨1, 10⟩⟩, []⟩].foldl step s).confirmedUp = s.confirmedUp :=
  broadcast_stuck ⟨false, 10, 1, false⟩ ⟨2048, {}, [], ⟨0, 0⟩, 0⟩ (by decide +kernel) (by decide +kernel)
    (by decide) (by decide)

/-! ## The frame count bit -/

/-- Frames whose count bits take turns, `b` first. -/
def Alternates : Bool → List LinkFrame → Prop
  | _, [] => True
  | b, f :: fs => f.fields.fcb = b ∧ Alternates (!b) fs

/-- The expected bit after some of them. -/
def nextFCB : Bool → List LinkFrame → Bool
  | b, [] => b
  | b, _ :: fs => nextFCB (!b) fs

/-- What a step does to the confirmed data: nothing, or one more frame, with the expected bit. -/
def FCBStep (s t : Session) : Prop :=
  ∃ fs, t.confirmedUp = s.confirmedUp ++ fs ∧ Alternates s.nextReadFCB fs ∧ t.nextReadFCB = nextFCB s.nextReadFCB fs

theorem FCBStep.none (hup : t.confirmedUp = s.confirmedUp) (hfcb : t.nextReadFCB = s.nextReadFCB) : FCBStep s t :=
  ⟨[], by rw [hup, List.append_nil], trivial, hfcb⟩

theorem alternates_append {b : Bool} {fs gs : List LinkFrame} (hfs : Alternates b fs)
    (hgs : Alternates (nextFCB b fs) gs) : Alternates b (fs ++ gs) ∧ nextFCB b (fs ++ gs) = nextFCB (nextFCB b fs) gs := by
  induction fs generalizing b with
  | nil => exact ⟨hgs, rfl⟩
  | cons f fs ih =>
    obtain ⟨hall, hnext⟩ := ih hfs.2 hgs
    exact ⟨⟨hfs.1, hall⟩, hnext⟩

theorem FCBStep.trans (h : FCBStep s t) (h' : FCBStep t u) : FCBStep s u := by
  obtain ⟨fs, hup, hall, hnext⟩ := h
  obtain ⟨gs, hup', hall', hnext'⟩ := h'
  rw [hnext] at hall' hnext'
  obtain ⟨happ, hnext''⟩ := alternates_append hall hall'
  exact ⟨fs ++ gs, by rw [hup', hup, List.append_assoc], happ, hnext'.trans hnext''.symm⟩

theorem PrimaryMove.fcbStep (h : PrimaryMove s t) : FCBStep s t := .none h.confirmedUp h.nextReadFCB

theorem confirmedUp_pushDataUp_confirmed (hf : f.fields.func = .priConfirmedUserData) :
    (s.pushDataUp f).confirmedUp = s.confirmedUp ++ [f] := by
  have hnone : ((s.receiver.receiveAll [⟨f.fields.addresses, f.userData⟩]).2.map SessionOutput.received).filterMap (fun
      | .pushed f => if f.fields.func = .priConfirmedUserData then some f else none
      | _ => none) = [] := by
    rw [List.filterMap_map, List.filterMap_eq_nil_iff]
    exact fun _ _ => rfl
  rw [confirmedUp, pushDataUp_eq, List.filterMap_append, List.filterMap_cons, hnone]
  simp [hf, confirmedUp]

theorem confirmedUp_queueTransmit (s : Session) (g : LinkFrame) (p : Bool) :
    (s.queueTransmit g p).confirmedUp = s.confirmedUp := by
  rw [confirmedUp, queueTransmit_eq]
  cases hbusy : s.busy p <;> by_cases hmode : s.txMode = .idle <;> simp [hmode, confirmedUp]

theorem fcbStep_dispatch (hi : SessionInput.turnsFCB (.frame f) = false) : FCBStep s (s.dispatch f) := by
  obtain ⟨hreset, htest⟩ : f.fields.func ≠ .priResetLinkStates ∧ f.fields.func ≠ .priTestLinkStates := by
    rw [SessionInput.turnsFCB, Bool.or_eq_false_iff, beq_eq_false_iff_ne, beq_eq_false_iff_ne] at hi
    exact hi
  unfold dispatch
  simp only
  split
  · exact (primaryMove_onAck s).fcbStep
  · exact (primaryMove_onAck s).fcbStep
  · exact (primaryMove_onAck s).fcbStep
  · exact (primaryMove_onLinkStatus s).fcbStep
  next h => exact absurd h htest
  next h => exact absurd h hreset
  · unfold onRequestLinkStatus
    split
    · exact .none (confirmedUp_queueTransmit s _ false) (by rw [queueLinkStatus, queueTransmit_eq])
    · exact .none (confirmedUp_queueTransmit s _ false) (by rw [queueLinkStatus, queueTransmit_eq])
    all_goals exact .none rfl rfl
  next hfunc =>
    unfold onConfirmedUserData
    split
    · exact .none rfl rfl
    · have hack : (if f.fields.addresses.isBroadcast then s else s.queueAck f.fields.addresses.source).confirmedUp =
          s.confirmedUp ∧
          (if f.fields.addresses.isBroadcast then s else s.queueAck f.fields.addresses.source).nextReadFCB =
          s.nextReadFCB := by
        split
        · exact ⟨rfl, rfl⟩
        · exact ⟨confirmedUp_queueTransmit s _ false, by rw [queueAck, queueTransmit_eq]⟩
      simp only
      generalize (if f.fields.addresses.isBroadcast then s else s.queueAck f.fields.addresses.source) = t at hack ⊢
      obtain ⟨hup, hnext⟩ := hack
      split
      next hfcb =>
        have hpush := confirmedUp_pushDataUp_confirmed (s := { t with nextReadFCB := !t.nextReadFCB }) hfunc
        refine ⟨[f], hpush.trans ?_, ⟨hfcb.symm.trans hnext, trivial⟩, ?_⟩
        · rw [← hup]
          rfl
        · rw [pushDataUp_eq, ← hnext]
          rfl
      next => exact .none hup hnext
    all_goals exact .none rfl rfl
  next hfunc =>
    exact .none (confirmedUp_pushDataUp (by rw [hfunc]; decide)) (by rw [pushDataUp_eq])
  · exact .none rfl rfl

theorem fcbStep_step {i : SessionInput} (hi : i.turnsFCB = false) : FCBStep s (s.step i) := by
  cases i with
  | up =>
    show FCBStep s s.onLowerLayerUp
    unfold onLowerLayerUp
    split <;> exact .none rfl rfl
  | down =>
    show FCBStep s s.onLowerLayerDown
    unfold onLowerLayerDown
    split <;> exact .none rfl rfl
  | send m => exact (primaryMove_beginTransmit s m).fcbStep
  | callback => exact (primaryMove_upperTxReady s).fcbStep
  | frame f =>
    show FCBStep s (s.onFrame f)
    unfold onFrame
    simp only
    split_ifs
    · exact .none rfl rfl
    · exact .none rfl rfl
    · exact .none rfl rfl
    · exact .none rfl rfl
    · exact .none rfl rfl
    · exact (fcbStep_dispatch hi).trans (primaryMove_tryStartTransmission _).fcbStep
  | txReady =>
    show FCBStep s s.onTxReady
    rw [onTxReady_eq]
    split
    · exact .none rfl rfl
    · have hfirst : FCBStep s ({ s with txMode := .idle }.tryPendingTx false) := by
        rw [tryPendingTx_false, if_pos rfl]
        refine .none ?_ rfl
        rw [confirmedUp, List.filterMap_append, List.filterMap_map]
        cases s.pendingSecTx <;> simp [confirmedUp]
      have hrelease : FCBStep s s.release := hfirst.trans (primaryMove_tryPendingTx _).fcbStep
      refine FCBStep.trans ?_ (primaryMove_tryStartTransmission _).fcbStep
      split
      · exact hrelease.trans (primaryMove_priTxReady _).fcbStep
      · refine hrelease.trans ?_
        unfold secTxReady
        split <;> exact .none rfl rfl
  | keepAlive elapsed => exact (primaryMove_onKeepAliveTimeout s elapsed).fcbStep
  | responseTimeout => exact (primaryMove_onResponseTimeout s).fcbStep

/-- **Confirmed data is handed up once**: the frames handed up take turns in their count bit, so a frame that is
repeated because its acknowledgement was lost is not handed up again. -/
theorem confirmed_alternates {inputs : List SessionInput} (hinputs : ∀ i ∈ inputs, i.turnsFCB = false) (s : Session) :
    ∃ fs, (inputs.foldl step s).confirmedUp = s.confirmedUp ++ fs ∧ Alternates s.nextReadFCB fs := by
  have hrun : FCBStep s (inputs.foldl step s) := by
    induction inputs generalizing s with
    | nil => exact .none rfl rfl
    | cons i inputs ih =>
      rw [List.forall_mem_cons] at hinputs
      exact (fcbStep_step hinputs.1).trans (ih hinputs.2 _)
  obtain ⟨fs, hup, hall, -⟩ := hrun
  exact ⟨fs, hup, hall⟩

/-- Confirmed data as a station hears it that has been reset. -/
def confirmedFrame : LinkFrame := ⟨⟨.priConfirmedUserData, true, true, true, ⟨1, 10⟩⟩, [0xC0, 0xC0, 0x01]⟩

/-- The same confirmed frame twice, after a reset: it is handed up once. -/
theorem confirmed_alternates_repeat :
    ([.frame confirmedFrame, .txReady, .frame confirmedFrame].foldl step
      { config := ⟨false, 10, 1, false⟩, receiver := ⟨2048, {}, [], ⟨0, 0⟩, 0⟩, isOnline := true, nextReadFCB := true
        secState := .reset }).confirmedUp = [confirmedFrame] ∧ Alternates true [confirmedFrame] := by
  obtain ⟨fs, hup, hall⟩ := @confirmed_alternates [.frame confirmedFrame, .txReady, .frame confirmedFrame] (by decide)
    { config := ⟨false, 10, 1, false⟩, receiver := ⟨2048, {}, [], ⟨0, 0⟩, 0⟩, isOnline := true, nextReadFCB := true
      secState := .reset }
  have hone : ([.frame confirmedFrame, .txReady, .frame confirmedFrame].foldl step
      { config := ⟨false, 10, 1, false⟩, receiver := ⟨2048, {}, [], ⟨0, 0⟩, 0⟩, isOnline := true, nextReadFCB := true
        secState := .reset }).confirmedUp = [confirmedFrame] := by decide +kernel
  obtain rfl : [confirmedFrame] = fs := hone.symm.trans hup
  exact ⟨hone, hall⟩

end Opendnp3.Session
