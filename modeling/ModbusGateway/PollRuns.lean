import ModbusGateway.Poll
import ModbusGateway.PollHistory

/-!
# No update is lost, repeated, reordered or crossed

`PollInv` is the invariant of one point over any interleaving: its state and phase are those of its own
iterations, and the updates for its entry, executed or still posted, show the initial `0` and, for each
iteration it has completed, the value its polls so far have left (`historyValue`), in order. The ownership
half holds because no two points share an entry (`points.map dnpKey` has no repetition), the order half
because the executor's queue is one list.
-/

namespace Gateway

open BinaryFloat (Value)
open Opendnp3

/-! ## What a poller does on its own -/

/-- The outcomes of a point's polls among some steps, with the clock. -/
def pollsOf (i : Nat) (actions : List PollAction) : List (Option Value × Nat) :=
  actions.filterMap fun
    | .poll j outcome now => if j = i then some (outcome, now) else none
    | _ => none

def PollAction.completes (i : Nat) : PollAction → Bool
  | .post j => j = i
  | _ => false

/-- The iterations a poller has completed: it has posted. -/
def completed (i : Nat) (actions : List PollAction) : Nat := actions.countP (PollAction.completes i)

/-- The values a point's first `c` iterations publish, after the initial `0`. -/
def publishedValues (polls : List (Option Value × Nat)) (c : Nat) : List Value :=
  .finite 0 :: (List.range c).map fun k => historyValue (polls.take (k + 1))

/-- A further poll changes nothing of what is published before it. -/
theorem publishedValues_concat {polls : List (Option Value × Nat)} {c : Nat} (hc : c ≤ polls.length)
    (poll : Option Value × Nat) : publishedValues (polls ++ [poll]) c = publishedValues polls c := by
  rw [publishedValues, publishedValues]
  congr 1
  refine List.map_congr_left fun k hk => ?_
  have hk := List.mem_range.1 hk
  rw [List.take_append_of_le_length (by omega)]

/-- Completing the iteration adds the value after the last poll. -/
theorem publishedValues_succ {polls : List (Option Value × Nat)} {c : Nat} (hc : c + 1 = polls.length) :
    publishedValues polls (c + 1) = publishedValues polls c ++ [historyValue polls] := by
  simp only [publishedValues, List.range_succ, List.map_append, List.map_cons, List.map_nil, List.cons_append,
    List.take_of_length_le hc.ge]

/-- A poll does not look at `connection_changed`, which the snapshot after it clears. -/
theorem pollState_changed (outcome : Option Value) (now : Nat) (state : ReadPointState) (changed : Bool) :
    pollState outcome now { state with connection_changed := changed } = pollState outcome now state := by
  cases outcome <;> rfl

/-- What the snapshot of a point's state puts into the builder. -/
theorem updateDNP3Values_iterated (point : ReadPointConfig) (now : Nat) (polls : List (Option Value × Nat))
    (changed : Bool) :
    updateDNP3Values point { iterated now polls with connection_changed := changed } =
      shown point (historyValue polls) := by
  rw [← valueUpdate_eq, ← analog_value_iterated now, ← valueToPublish_iterated]
  rfl

/-! ## The updates for one entry -/

def updatesOf (point : ReadPointConfig) (updates : List Update) : List Update :=
  updates.filter fun u => u.key = dnpKey point

@[simp] theorem updatesOf_append (point : ReadPointConfig) (us vs : List Update) :
    updatesOf point (us ++ vs) = updatesOf point us ++ updatesOf point vs := List.filter_append ..

theorem updatesOf_own {point : ReadPointConfig} {u : Update} (h : u.key = dnpKey point) :
    updatesOf point [u] = [u] := by simp [updatesOf, h]

theorem updatesOf_other {point : ReadPointConfig} {u : Update} (h : u.key ≠ dnpKey point) :
    updatesOf point [u] = [] := by simp [updatesOf, h]

theorem initialUpdates_cons (p : ReadPointConfig) (points : List ReadPointConfig) (now : Nat → Nat) :
    initialUpdates (p :: points) now =
      [updateDNP3Values p (initialState (now 0))] ++ initialUpdates points fun i => now (i + 1) :=
  List.mapIdx_cons

theorem updatesOf_initial_of_not_mem {points : List ReadPointConfig} {point : ReadPointConfig}
    (h : dnpKey point ∉ points.map dnpKey) (now : Nat → Nat) : updatesOf point (initialUpdates points now) = [] := by
  induction points generalizing now with
  | nil => rfl
  | cons p points ih =>
    rw [List.map_cons, List.mem_cons, not_or] at h
    rw [initialUpdates_cons, updatesOf_append, ih h.2, updatesOf_other, List.append_nil]
    simpa using Ne.symm h.1

/-- `ApplyInitialStateToDNP3` holds one update for a point, to the value `0`. -/
theorem updatesOf_initial {points : List ReadPointConfig} (hkeys : (points.map dnpKey).Nodup) {i : Nat}
    {point : ReadPointConfig} (hi : points[i]? = some point) (now : Nat → Nat) :
    updatesOf point (initialUpdates points now) = [shown point (.finite 0)] := by
  induction points generalizing i now with
  | nil => cases hi
  | cons p points ih =>
    obtain ⟨hp, hkeys⟩ := List.nodup_cons.1 hkeys
    rw [initialUpdates_cons, updatesOf_append]
    cases i with
    | zero =>
      obtain rfl : p = point := by simpa using hi
      rw [updatesOf_initial_of_not_mem hp, updatesOf_own (key_updateDNP3Values ..), ← valueUpdate_eq]
      rfl
    | succ i =>
      have hmem : dnpKey point ∈ points.map dnpKey := List.mem_map_of_mem (List.mem_of_getElem? hi)
      have hne : dnpKey p ≠ dnpKey point := by
        rintro h
        exact hp (h ▸ hmem)
      rw [ih hkeys hi, updatesOf_other (by simpa using hne), List.nil_append]

/-! ## Histories grow by one step -/

section
variable {i : Nat} {actions : List PollAction}

theorem pollsOf_concat_poll (outcome : Option Value) (now : Nat) :
    pollsOf i (actions ++ [.poll i outcome now]) = pollsOf i actions ++ [(outcome, now)] := by
  simp [pollsOf]

theorem pollsOf_concat_of_ne {a : PollAction} (ha : ∀ outcome now, a ≠ .poll i outcome now) :
    pollsOf i (actions ++ [a]) = pollsOf i actions := by
  cases a with
  | poll j outcome now =>
    have hj : j ≠ i := by rintro rfl; exact ha outcome now rfl
    simp [pollsOf, hj]
  | _ => simp [pollsOf]

theorem completed_concat_post : completed i (actions ++ [.post i]) = completed i actions + 1 := by
  simp [completed, PollAction.completes]

theorem completed_concat_of_ne {a : PollAction} (ha : a ≠ .post i) :
    completed i (actions ++ [a]) = completed i actions := by
  cases a with
  | post j =>
    have hj : j ≠ i := by rintro rfl; exact ha rfl
    simp [completed, PollAction.completes, hj]
  | _ => simp [completed, PollAction.completes]

end

/-! ## The invariants -/

namespace PollSystem

variable {points : List ReadPointConfig} {config : DatabaseConfig} {now : Nat → Nat}

/-- What a builder holds is for the entry of its poller's point. -/
def BuildersOwn (points : List ReadPointConfig) (s : PollSystem) : Prop :=
  ∀ j u, s.phases j = .publishing u → ∃ point, points[j]? = some point ∧ u.key = dnpKey point

theorem step_buildersOwn {s s' : PollSystem} {a : PollAction} (hs : BuildersOwn points s)
    (h : step points s a = some s') : BuildersOwn points s' := by
  intro j u hj
  by_cases ha : a.poller = some j
  · cases a with
    | poll k outcome t =>
      obtain rfl : k = j := by simpa [PollAction.poller] using ha
      obtain ⟨-, rfl⟩ := step_poll h
      simp at hj
    | snapshot k =>
      obtain rfl : k = j := by simpa [PollAction.poller] using ha
      obtain ⟨point, state, hpoint, -, -, rfl⟩ := step_snapshot h
      obtain rfl : updateDNP3Values point state = u := by simpa using hj
      exact ⟨point, hpoint, key_updateDNP3Values ..⟩
    | post k =>
      obtain rfl : k = j := by simpa [PollAction.poller] using ha
      obtain ⟨update, -, rfl⟩ := step_post h
      simp at hj
    | http => cases ha
    | execute => cases ha
  · exact hs j u ((step_other ha h).2 ▸ hj)

/-- The table is the initial one after the executed updates. -/
theorem step_db {s s' : PollSystem} {a : PollAction} (hs : s.db = (Database.ofConfig config).execute s.applied)
    (h : step points s a = some s') : s'.db = (Database.ofConfig config).execute s'.applied := by
  cases a with
  | poll j outcome t =>
    obtain ⟨-, rfl⟩ := step_poll h
    exact hs
  | snapshot j =>
    obtain ⟨point, state, -, -, -, rfl⟩ := step_snapshot h
    exact hs
  | post j =>
    obtain ⟨update, -, rfl⟩ := step_post h
    exact hs
  | http =>
    obtain rfl : s = s' := by simpa [step] using h
    exact hs
  | execute =>
    obtain ⟨task, posted, -, rfl⟩ := step_execute h
    simp only [Database.execute_append, hs]

/-- The updates for a point's entry, the executed ones first. -/
def queuedFor (point : ReadPointConfig) (s : PollSystem) : List Update :=
  updatesOf point s.applied ++ updatesOf point s.posted.flatten

/-- Points at different positions have different keys. -/
theorem key_ne_of_index (hkeys : (points.map dnpKey).Nodup) {i j : Nat} {point other : ReadPointConfig}
    (hj : points[j]? = some other) (hi : points[i]? = some point) (hne : j ≠ i) : dnpKey other ≠ dnpKey point := by
  intro heq
  have hget : (points.map dnpKey)[j]? = (points.map dnpKey)[i]? := by simp [hj, hi, heq]
  have hlt : j < (points.map dnpKey).length := by simpa using (List.getElem?_eq_some_iff.1 hj).1
  exact hne ((List.getElem?_inj hlt hkeys).1 hget)

/-- A step outside a point's own iteration moves updates from the queue to the table and adds none for it. -/
theorem step_queuedFor {s s' : PollSystem} {a : PollAction} (hkeys : (points.map dnpKey).Nodup)
    (hs : BuildersOwn points s) {i : Nat} {point : ReadPointConfig} (hi : points[i]? = some point)
    (ha : a.poller ≠ some i) (h : step points s a = some s') : queuedFor point s' = queuedFor point s := by
  cases a with
  | poll j outcome t =>
    obtain ⟨-, rfl⟩ := step_poll h
    rfl
  | snapshot j =>
    obtain ⟨other, state, -, -, -, rfl⟩ := step_snapshot h
    rfl
  | post j =>
    obtain ⟨update, hphase, rfl⟩ := step_post h
    obtain ⟨other, hother, hkey⟩ := hs j update hphase
    have hne := key_ne_of_index hkeys hother hi fun hj => ha (congrArg some hj)
    simp [queuedFor, updatesOf_other (hkey ▸ hne)]
  | http =>
    obtain rfl : s = s' := by simpa [step] using h
    rfl
  | execute =>
    obtain ⟨task, posted, hposted, rfl⟩ := step_execute h
    simp [queuedFor, hposted]

/-- The phase of a poller that has polled `polls` and completed `c` iterations. -/
def PhaseIs (point : ReadPointConfig) (polls : List (Option Value × Nat)) (c : Nat) : Phase → Prop
  | .polling => c = polls.length
  | .polled => c + 1 = polls.length
  | .publishing u => c + 1 = polls.length ∧ u = shown point (historyValue polls)

/-- **The invariant of one point.** -/
structure PollInv (now : Nat → Nat) (i : Nat) (point : ReadPointConfig) (actions : List PollAction) (s : PollSystem) :
    Prop where
  state : ∃ changed, s.point_states[i]? =
    some { iterated (now i) (pollsOf i actions) with connection_changed := changed }
  phase : PhaseIs point (pollsOf i actions) (completed i actions) (s.phases i)
  queued : queuedFor point s = (publishedValues (pollsOf i actions) (completed i actions)).map (shown point)

theorem pollInv_start (hkeys : (points.map dnpKey).Nodup) {i : Nat} {point : ReadPointConfig}
    (hi : points[i]? = some point) : PollInv now i point [] (start config points now) where
  state := ⟨true, by simp [start, hi, iterated, pollsOf, initialState]⟩
  phase := rfl
  queued := by
    have happly : (applyUpdates [] (initialUpdates points now)).flatten = initialUpdates points now := by
      unfold applyUpdates
      split
      · rename_i he
        rw [List.isEmpty_iff.1 he]
        rfl
      · simp
    simp [queuedFor, start, happly, updatesOf_initial hkeys hi, publishedValues, completed]
    rfl

theorem PollInv.other {actions : List PollAction} {s s' : PollSystem} {a : PollAction} {i : Nat}
    {point : ReadPointConfig} (hs : PollInv now i point actions s) (hkeys : (points.map dnpKey).Nodup)
    (hown : BuildersOwn points s) (hi : points[i]? = some point) (ha : a.poller ≠ some i)
    (h : step points s a = some s') : PollInv now i point (actions ++ [a]) s' := by
  obtain ⟨hstate, hphase⟩ := step_other ha h
  have hpolls : pollsOf i (actions ++ [a]) = pollsOf i actions :=
    pollsOf_concat_of_ne (by rintro outcome t rfl; exact ha rfl)
  have hcompleted : completed i (actions ++ [a]) = completed i actions :=
    completed_concat_of_ne (by rintro rfl; exact ha rfl)
  refine ⟨?_, ?_, ?_⟩ <;> rw [hpolls]
  · exact hstate ▸ hs.state
  · rw [hcompleted, hphase]
    exact hs.phase
  · rw [hcompleted, step_queuedFor hkeys hown hi ha h]
    exact hs.queued

theorem PollInv.poll {actions : List PollAction} {s s' : PollSystem} {i : Nat} {point : ReadPointConfig}
    (hs : PollInv now i point actions s) {outcome : Option Value} {t : Nat}
    (h : step points s (.poll i outcome t) = some s') : PollInv now i point (actions ++ [.poll i outcome t]) s' := by
  obtain ⟨hphase, rfl⟩ := step_poll h
  have hcompleted : completed i (actions ++ [.poll i outcome t]) = completed i actions :=
    completed_concat_of_ne nofun
  have hn : completed i actions = (pollsOf i actions).length := by
    have hp := hs.phase
    rwa [hphase] at hp
  obtain ⟨changed, hstate⟩ := hs.state
  refine ⟨?_, ?_, ?_⟩ <;> rw [pollsOf_concat_poll]
  · refine ⟨(pollState outcome t (iterated (now i) (pollsOf i actions))).connection_changed, ?_⟩
    rw [iterated_concat]
    simp [hstate, pollIteration, pollState_changed]
  · simp [PhaseIs, hcompleted, hn]
  · rw [hcompleted, publishedValues_concat hn.le]
    exact hs.queued

theorem PollInv.snapshot {actions : List PollAction} {s s' : PollSystem} {i : Nat} {point : ReadPointConfig}
    (hs : PollInv now i point actions s) (hi : points[i]? = some point)
    (h : step points s (.snapshot i) = some s') : PollInv now i point (actions ++ [.snapshot i]) s' := by
  obtain ⟨point', state, hpoint, hstate, hphase, rfl⟩ := step_snapshot h
  obtain rfl : point = point' := by simpa [hi] using hpoint
  have hpolls : pollsOf i (actions ++ [.snapshot i]) = pollsOf i actions := pollsOf_concat_of_ne nofun
  have hcompleted : completed i (actions ++ [.snapshot i]) = completed i actions := completed_concat_of_ne nofun
  have hn : completed i actions + 1 = (pollsOf i actions).length := by
    have hp := hs.phase
    rwa [hphase] at hp
  obtain ⟨changed, hown⟩ := hs.state
  obtain rfl : _ = state := by simpa [hown] using hstate
  refine ⟨?_, ?_, ?_⟩ <;> rw [hpolls]
  · exact ⟨false, by simp [hown]⟩
  · simp only [Function.update_self, PhaseIs, hcompleted]
    exact ⟨hn, updateDNP3Values_iterated point (now i) _ changed⟩
  · rw [hcompleted]
    exact hs.queued

theorem PollInv.post {actions : List PollAction} {s s' : PollSystem} {i : Nat} {point : ReadPointConfig}
    (hs : PollInv now i point actions s) (h : step points s (.post i) = some s') :
    PollInv now i point (actions ++ [.post i]) s' := by
  obtain ⟨update, hphase, rfl⟩ := step_post h
  have hpolls : pollsOf i (actions ++ [.post i]) = pollsOf i actions := pollsOf_concat_of_ne nofun
  obtain ⟨hn, rfl⟩ : completed i actions + 1 = (pollsOf i actions).length ∧
      update = shown point (historyValue (pollsOf i actions)) := by
    have hp := hs.phase
    rwa [hphase] at hp
  refine ⟨?_, ?_, ?_⟩ <;> rw [hpolls]
  · exact hs.state
  · simp only [Function.update_self, PhaseIs, completed_concat_post]
    exact hn
  · -- the new task stands last, and holds the value of the last poll
    have hq := hs.queued
    unfold queuedFor at hq
    have hown : updatesOf point [shown point (historyValue (pollsOf i actions))] =
        [shown point (historyValue (pollsOf i actions))] :=
      updatesOf_own (by rw [← valueUpdate_eq, key_valueUpdate])
    rw [completed_concat_post, publishedValues_succ hn, List.map_append, ← hq]
    simp [queuedFor, hown]

/-- **The run lemma.** -/
theorem pollInv_run (hkeys : (points.map dnpKey).Nodup) {i : Nat} {point : ReadPointConfig}
    (hi : points[i]? = some point) {actions : List PollAction} {s : PollSystem}
    (hrun : actions.foldlM (step points) (start config points now) = some s) :
    PollInv now i point actions s ∧ BuildersOwn points s ∧ s.db = (Database.ofConfig config).execute s.applied := by
  refine Run.foldlM_history (I := fun actions s => PollInv now i point actions s ∧ BuildersOwn points s ∧
    s.db = (Database.ofConfig config).execute s.applied) ⟨pollInv_start hkeys hi, nofun, rfl⟩ ?_ hrun
  rintro actions s a s' ⟨hinv, hown, hdb⟩ h
  refine ⟨?_, step_buildersOwn hown h, step_db hdb h⟩
  by_cases ha : a.poller = some i
  · cases a with
    | poll j outcome t =>
      obtain rfl : j = i := by simpa [PollAction.poller] using ha
      exact hinv.poll h
    | snapshot j =>
      obtain rfl : j = i := by simpa [PollAction.poller] using ha
      exact hinv.snapshot hi h
    | post j =>
      obtain rfl : j = i := by simpa [PollAction.poller] using ha
      exact hinv.post h
    | http => cases ha
    | execute => cases ha
  · exact hinv.other hkeys hown hi ha h

/-- What holds of a point after a run: the values applied to its entry, its own state, and that nothing
an iteration of another point does reaches either. -/
structure InOrder (points : List ReadPointConfig) (now : Nat → Nat) (i : Nat) (point : ReadPointConfig)
    (actions : List PollAction) (s : PollSystem) : Prop where
  /-- The applied values are the first of the published ones; -/
  applied : updatesOf point s.applied <+:
    (publishedValues (pollsOf i actions) (completed i actions)).map (shown point)
  /-- all of them once the queue is drained. -/
  drained : s.posted = [] → updatesOf point s.applied =
    (publishedValues (pollsOf i actions) (completed i actions)).map (shown point)
  /-- Of the polls at most the last belongs to an unfinished iteration. -/
  iterations : completed i actions ≤ (pollsOf i actions).length ∧ (pollsOf i actions).length ≤ completed i actions + 1
  state : ∃ changed, s.point_states[i]? =
    some { iterated (now i) (pollsOf i actions) with connection_changed := changed }
  /-- A published value is the one in the state right after its poll. -/
  values : ∀ k, historyValue ((pollsOf i actions).take k) =
    (iterated (now i) ((pollsOf i actions).take k)).analog_value
  /-- The table holds the last applied value. -/
  entry : ∃ before, s.db.entry (dnpKey point) = some ((updatesOf point s.applied).getLast?.getD before)
  /-- A step outside the point's iterations leaves its state, -/
  others_state : ∀ a s', step points s a = some s' → a.poller ≠ some i → s'.point_states[i]? = s.point_states[i]?
  /-- and an update another point's iteration posts leaves its entry. -/
  others_entry : ∀ j other, points[j]? = some other → j ≠ i → ∀ state db,
    (Database.update db (updateDNP3Values other state)).1.entry (dnpKey point) = db.entry (dnpKey point)

/-- **The read path.** For any interleaving of the pollers, the panel's thread and the executor. -/
theorem updates_in_order {fuel : Nat} {profile : ProfileConfig}
    (hconfig : configureDatabase fuel profile = some config) (hkeys : (profile.read_points.map dnpKey).Nodup)
    {i : Nat} {point : ReadPointConfig}
    (hi : profile.read_points[i]? = some point) {actions : List PollAction} {s : PollSystem}
    (hrun : actions.foldlM (step profile.read_points) (start config profile.read_points now) = some s) :
    InOrder profile.read_points now i point actions s := by
  obtain ⟨hinv, -, hdb⟩ := pollInv_run hkeys hi hrun
  have hqueued := hinv.queued
  unfold queuedFor at hqueued
  obtain ⟨before, hbefore⟩ := configured_entry hconfig (List.mem_of_getElem? hi)
  refine ⟨⟨_, hqueued⟩, ?_, ?_, hinv.state, fun k => (analog_value_iterated _ _).symm, ⟨before, ?_⟩,
    fun a s' h ha => (step_other ha h).1, ?_⟩
  · intro hempty
    simpa [hempty, updatesOf] using hqueued
  · have hphase := hinv.phase
    cases hp : s.phases i with
    | polling =>
      rw [hp] at hphase
      exact ⟨hphase.le, by rw [hphase]; omega⟩
    | polled =>
      rw [hp] at hphase
      exact ⟨by rw [← hphase]; omega, hphase.ge⟩
    | publishing u =>
      rw [hp] at hphase
      exact ⟨by rw [← hphase.1]; omega, hphase.1.ge⟩
  · rw [hdb, Database.entry_execute, hbefore]
    rfl
  · intro j other hj hne state db
    rw [Database.entry_update, key_updateDNP3Values, if_neg (key_ne_of_index hkeys hj hi hne)]

/-- The coil's poller finishes an iteration inside one of the register that has its index. -/
def interleaved : List PollAction :=
  [.poll 1 (some (.finite 7)) 1, .poll 2 none 1, .snapshot 2, .http, .post 2, .execute, .snapshot 1, .post 1,
    .execute, .execute, .poll 1 none 2]

theorem updates_in_order_shared : ∃ config s point, configureDatabase 4 profileShared = some config ∧
    interleaved.foldlM (step profileShared.read_points) (start config profileShared.read_points fun _ => 0) = some s ∧
    InOrder profileShared.read_points (fun _ => 0) 1 point interleaved s := by
  obtain ⟨config, hconfig⟩ : ∃ config, configureDatabase 4 profileShared = some config := ⟨_, rfl⟩
  obtain ⟨s, hrun⟩ : ∃ s, interleaved.foldlM (step profileShared.read_points)
    (start config profileShared.read_points fun _ => 0) = some s := ⟨_, rfl⟩
  exact ⟨config, s, _, hconfig, hrun, updates_in_order hconfig (by decide) rfl hrun⟩

end PollSystem

end Gateway
