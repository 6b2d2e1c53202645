import ModbusGateway.Dnp3

/-!
# The pollers and the executor (`Dnp3.cpp:92-194`, `OutstationStack.cpp:91`)

`PollSystem` is the state the threads share after `ApplyInitialStateToDNP3`; `PollSystem.step` is one atomic
step of one of them, `none` where that thread cannot take it. The poller of a point goes round three
critical sections, and any number of other steps may stand between them:

| step | code |
| --- | --- |
| `poll i`     | `ReadModbusPoint`, then the state update under `data_mutex` |
| `snapshot i` | `dnp3_update_mutex` is taken; `UpdateDNP3Values` and `connection_changed = false` under `data_mutex` |
| `post i`     | `outstation->Apply(builder.Build())`; the mutex is released |
| `http`       | a section of the panel's thread, which only reads the states |
| `execute`    | the executor runs the oldest posted task |

That the executor runs posted tasks one at a time in the order of posting is the library's.
-/

namespace Gateway

open BinaryFloat (Value)
open Opendnp3

/-- Where a poller stands between two of its sections. -/
inductive Phase where
  | polling
  | polled
  /-- Inside `PublishPointToDNP3`, with what the builder holds. -/
  | publishing (update : Update)

structure PollSystem where
  point_states : List ReadPointState
  phases : Nat → Phase
  /-- The poller that holds `dnp3_update_mutex`. -/
  dnp3_update_mutex : Option Nat
  /-- The tasks in the executor's queue, oldest first. -/
  posted : List (List Update)
  /-- The updates executed so far, oldest first. -/
  applied : List Update
  db : Database

inductive PollAction where
  | poll (i : Nat) (outcome : Option Value) (now : Nat)
  | snapshot (i : Nat)
  | post (i : Nat)
  | http
  | execute

/-- The poller whose iteration a step belongs to. -/
def PollAction.poller : PollAction → Option Nat
  | .poll i _ _ | .snapshot i | .post i => some i
  | .http | .execute => none

/-- `OutstationStack::Apply`: an empty builder posts nothing. -/
def applyUpdates (posted : List (List Update)) (updates : List Update) : List (List Update) :=
  if updates.isEmpty then posted else posted ++ [updates]

/-- What `main` has made when the pollers start. -/
def PollSystem.start (config : DatabaseConfig) (points : List ReadPointConfig) (now : Nat → Nat) : PollSystem :=
  { point_states := points.mapIdx fun i _ => initialState (now i)
    phases := fun _ => .polling
    dnp3_update_mutex := none
    posted := applyUpdates [] (initialUpdates points now)
    applied := []
    db := .ofConfig config }

/-- **One atomic step.** -/
def PollSystem.step (points : List ReadPointConfig) (s : PollSystem) : PollAction → Option PollSystem
  | .poll i outcome now =>
    match points[i]?, s.phases i with
    | some _, .polling => some
      { s with
        point_states := s.point_states.modify i (pollState outcome now)
        phases := Function.update s.phases i .polled }
    | _, _ => none
  | .snapshot i =>
    match points[i]?, s.point_states[i]?, s.phases i, s.dnp3_update_mutex with
    | some point, some state, .polled, none => some
      { s with
        point_states := s.point_states.modify i fun state => { state with connection_changed := false }
        phases := Function.update s.phases i (.publishing (updateDNP3Values point state))
        dnp3_update_mutex := some i }
    | _, _, _, _ => none
  | .post i =>
    match s.phases i with
    | .publishing update => some
      { s with
        phases := Function.update s.phases i .polling
        dnp3_update_mutex := none
        posted := applyUpdates s.posted [update] }
    | _ => none
  | .http => some s
  | .execute =>
    match s.posted with
    | [] => none
    | task :: posted => some { s with posted, applied := s.applied ++ task, db := s.db.execute task }

/-! ## What a step can do -/

namespace PollSystem

variable {points : List ReadPointConfig} {s s' : PollSystem}

theorem step_poll {i : Nat} {outcome : Option Value} {now : Nat}
    (h : step points s (.poll i outcome now) = some s') : s.phases i = .polling ∧ s' =
      { s with
        point_states := s.point_states.modify i (pollState outcome now)
        phases := Function.update s.phases i .polled } := by
  simp only [step] at h
  split at h
  · rename_i hphase
    exact ⟨hphase, by simpa using h.symm⟩
  · cases h

theorem step_snapshot {i : Nat}
    (h : step points s (.snapshot i) = some s') : ∃ point state, points[i]? = some point ∧
      s.point_states[i]? = some state ∧ s.phases i = .polled ∧ s' =
      { s with
        point_states := s.point_states.modify i fun state => { state with connection_changed := false }
        phases := Function.update s.phases i (.publishing (updateDNP3Values point state))
        dnp3_update_mutex := some i } := by
  simp only [step] at h
  split at h
  · rename_i point state hpoint hstate hphase hmutex
    exact ⟨point, state, hpoint, hstate, hphase, by simpa using h.symm⟩
  · cases h

theorem step_post {i : Nat} (h : step points s (.post i) = some s') :
    ∃ update, s.phases i = .publishing update ∧ s' =
      { s with
        phases := Function.update s.phases i .polling
        dnp3_update_mutex := none
        posted := s.posted ++ [[update]] } := by
  simp only [step] at h
  split at h
  · rename_i update hphase
    exact ⟨update, hphase, by simpa [applyUpdates] using h.symm⟩
  · cases h

theorem step_execute (h : step points s .execute = some s') :
    ∃ task posted, s.posted = task :: posted ∧
      s' = { s with posted, applied := s.applied ++ task, db := s.db.execute task } := by
  simp only [step] at h
  split at h
  · cases h
  · rename_i task posted hposted
    exact ⟨task, posted, hposted, by simpa using h.symm⟩

/-- A step of another thread leaves a point's state and its poller's phase. -/
theorem step_other {a : PollAction} {i : Nat} (ha : a.poller ≠ some i)
    (h : step points s a = some s') : s'.point_states[i]? = s.point_states[i]? ∧ s'.phases i = s.phases i := by
  cases a with
  | poll j outcome now =>
    have hj : j ≠ i := fun hj => ha (congrArg some hj)
    obtain ⟨-, rfl⟩ := step_poll h
    exact ⟨List.getElem?_modify_ne _ _ hj, Function.update_of_ne hj.symm _ _⟩
  | snapshot j =>
    have hj : j ≠ i := fun hj => ha (congrArg some hj)
    obtain ⟨point, state, -, -, -, rfl⟩ := step_snapshot h
    exact ⟨List.getElem?_modify_ne _ _ hj, Function.update_of_ne hj.symm _ _⟩
  | post j =>
    have hj : j ≠ i := fun hj => ha (congrArg some hj)
    obtain ⟨update, -, rfl⟩ := step_post h
    exact ⟨rfl, Function.update_of_ne hj.symm _ _⟩
  | http =>
    obtain rfl : s = s' := by simpa [step] using h
    exact ⟨rfl, rfl⟩
  | execute =>
    obtain ⟨task, posted, -, rfl⟩ := step_execute h
    exact ⟨rfl, rfl⟩

end PollSystem

end Gateway
