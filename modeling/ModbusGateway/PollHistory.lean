import ModbusGateway.Dnp3

/-!
# A point's state as a function of its polls

`iterated now polls` is the state after the loop body of `PollPoint` has handled the outcomes `polls`, from
what `ApplyInitialStateToDNP3` left at `now`. `poll_history` gives every field from the outcomes alone: the
failures since the last success, its value, the times the connection went up or down.

`failure_count` is an `int` that wraps. `HandleCommunicationFailure` and `UpdateDNP3Values` both compare it
with `max_failures_before_zero`; after the wrap both tests fail, but the value is `0` from the fifth failure on.
-/

namespace Gateway

open BinaryFloat (Value)
open Opendnp3

/-- One turn of the loop of `PollPoint`; `PublishPointToDNP3` clears `connection_changed`. -/
def pollIteration (state : ReadPointState) (poll : Option Value × Nat) : ReadPointState :=
  { pollState poll.1 poll.2 state with connection_changed := false }

def iterated (now : Nat) (polls : List (Option Value × Nat)) : ReadPointState :=
  polls.foldl pollIteration (initialState now)

/-! ## The history -/

/-- The failures since the last success, or since the start. -/
def failures (polls : List (Option Value × Nat)) : Nat := (polls.reverse.takeWhile (·.1.isNone)).length

def lastSuccess (polls : List (Option Value × Nat)) : Option Value := (polls.filterMap Prod.fst).getLast?

/-- The value of the last success while fewer than five polls have failed since, else `0`. -/
def historyValue (polls : List (Option Value × Nat)) : Value :=
  if failures polls < 5 then (lastSuccess polls).getD (.finite 0) else .finite 0

/-- The times of the polls whose outcome is another than the one before. -/
def flipTimes : Bool → List (Option Value × Nat) → List Nat
  | _, [] => []
  | connected, (outcome, now) :: polls =>
    if outcome.isSome = connected then flipTimes outcome.isSome polls else now :: flipTimes outcome.isSome polls

theorem failures_concat_none (polls : List (Option Value × Nat)) (now : Nat) :
    failures (polls ++ [(none, now)]) = failures polls + 1 := by simp [failures]

theorem failures_concat_some (polls : List (Option Value × Nat)) (v : Value) (now : Nat) :
    failures (polls ++ [(some v, now)]) = 0 := by simp [failures]

theorem lastSuccess_concat_none (polls : List (Option Value × Nat)) (now : Nat) :
    lastSuccess (polls ++ [(none, now)]) = lastSuccess polls := by simp [lastSuccess]

theorem lastSuccess_concat_some (polls : List (Option Value × Nat)) (v : Value) (now : Nat) :
    lastSuccess (polls ++ [(some v, now)]) = some v := by simp [lastSuccess]

theorem iterated_concat (now : Nat) (polls : List (Option Value × Nat)) (poll : Option Value × Nat) :
    iterated now (polls ++ [poll]) = pollIteration (iterated now polls) poll := by simp [iterated]

/-! ## The counter -/

theorem ofNat_succ (k : Nat) : Int32.ofNat (k + 1) = Int32.ofNat k + 1 := by rw [Int32.ofNat_add]; rfl

/-- Below the wrap the counter's test is the one on the number of failures. -/
theorem max_failures_le_iff {k : Nat} (h : k < 2147483648) : max_failures_before_zero ≤ Int32.ofNat k ↔ 5 ≤ k := by
  rw [Int32.le_iff_toInt_le, Int32.toInt_ofNat_of_lt h]
  show (5 : Int) ≤ k ↔ 5 ≤ k
  omega

/-! ## The fields -/

theorem failure_count_iterated (now : Nat) (polls : List (Option Value × Nat)) :
    (iterated now polls).failure_count = Int32.ofNat (failures polls) := by
  induction polls using List.reverseRecOn with
  | nil => rfl
  | append_singleton polls poll ih =>
    obtain ⟨outcome, t⟩ := poll
    rw [iterated_concat]
    cases outcome with
    | some v => rw [failures_concat_some]; rfl
    | none =>
      rw [failures_concat_none, ofNat_succ, ← ih]
      rfl

theorem connection_status_iterated (now : Nat) (polls : List (Option Value × Nat)) :
    (iterated now polls).connection_status = true ↔ polls ≠ [] ∧ failures polls = 0 := by
  induction polls using List.reverseRecOn with
  | nil => simp [iterated, initialState]
  | append_singleton polls poll ih =>
    obtain ⟨outcome, t⟩ := poll
    rw [iterated_concat]
    cases outcome with
    | some v => exact iff_of_true rfl ⟨by simp, failures_concat_some polls v t⟩
    | none =>
      rw [failures_concat_none]
      exact iff_of_false Bool.false_ne_true (by simp)

/-- **The value.** After the fifth failure it stays `0`, whatever the wrapped counter says. -/
theorem analog_value_iterated (now : Nat) (polls : List (Option Value × Nat)) :
    (iterated now polls).analog_value = historyValue polls := by
  induction polls using List.reverseRecOn with
  | nil => rfl
  | append_singleton polls poll ih =>
    obtain ⟨outcome, t⟩ := poll
    rw [iterated_concat]
    cases outcome with
    | some v =>
      rw [historyValue, failures_concat_some, lastSuccess_concat_some]
      rfl
    | none =>
      have hvalue : (pollIteration (iterated now polls) (none, t)).analog_value =
          if max_failures_before_zero ≤ Int32.ofNat (failures polls + 1) then .finite 0
          else (iterated now polls).analog_value := by
        rw [ofNat_succ, ← failure_count_iterated now polls]
        rfl
      rw [hvalue, ih, historyValue, historyValue, failures_concat_none, lastSuccess_concat_none]
      by_cases h5 : failures polls < 5
      · -- the counter has not wrapped yet
        simp only [max_failures_le_iff (k := failures polls + 1) (by omega), h5, if_true]
        by_cases h4 : failures polls + 1 < 5
        · rw [if_neg (by omega), if_pos h4]
        · rw [if_pos (by omega), if_neg h4]
      · rw [if_neg h5, ite_self, if_neg (by omega)]

/-- **Both zeroing rules agree**: what is published is the stored value. -/
theorem valueToPublish_iterated (now : Nat) (polls : List (Option Value × Nat)) :
    valueToPublish (iterated now polls) = (iterated now polls).analog_value := by
  rw [valueToPublish, failure_count_iterated, analog_value_iterated, historyValue]
  by_cases h5 : failures polls < 5
  · rw [if_neg fun h => by have := (max_failures_le_iff (k := failures polls) (by omega)).1 h; omega]
  · rw [if_neg h5, ite_self]

theorem last_change_time_foldl (polls : List (Option Value × Nat)) (state : ReadPointState) :
    (polls.foldl pollIteration state).last_change_time =
      (flipTimes state.connection_status polls).getLast?.getD state.last_change_time := by
  induction polls generalizing state with
  | nil => rfl
  | cons poll polls ih =>
    obtain ⟨outcome, t⟩ := poll
    rw [List.foldl_cons, ih, flipTimes]
    cases outcome <;> cases hs : state.connection_status <;>
      simp [pollIteration, pollState, handleCommunicationFailure, handleCommunicationSuccess, hs, List.getLast?_cons]

/-- What one poll does to `connection_changed` and `last_change_time`, from any state. -/
theorem pollState_flip (outcome : Option Value) (now : Nat) (state : ReadPointState) :
    ((pollState outcome now state).connection_changed = true ↔
      (pollState outcome now state).connection_status ≠ state.connection_status) ∧
    (pollState outcome now state).last_change_time =
      if (pollState outcome now state).connection_changed then now else state.last_change_time := by
  cases outcome <;> exact ⟨by simp [pollState, handleCommunicationFailure, handleCommunicationSuccess], rfl⟩

/-- The state after a history of polls. -/
structure PollHistory (now : Nat) (polls : List (Option Value × Nat)) : Prop where
  status : (iterated now polls).connection_status = true ↔ polls ≠ [] ∧ failures polls = 0
  /-- The counter is the number of failures, modulo `2 ^ 32` in two's complement. -/
  count : (iterated now polls).failure_count.toInt = (failures polls : Int).bmod 4294967296
  count_of_lt : failures polls < 2147483648 → (iterated now polls).failure_count.toInt = failures polls
  value : (iterated now polls).analog_value =
    if failures polls < 5 then (lastSuccess polls).getD (.finite 0) else .finite 0
  /-- The outstation is told the number the panel shows. -/
  published : ∀ changed point,
    updateDNP3Values point { iterated now polls with connection_changed := changed } =
      shown point (iterated now polls).analog_value
  /-- The next poll sets `connection_changed` iff it flips the status, -/
  changed : ∀ outcome time,
    (pollState outcome time (iterated now polls)).connection_changed = true ↔
      (pollState outcome time (iterated now polls)).connection_status ≠ (iterated now polls).connection_status
  /-- and only then is the time taken: -/
  refreshed : ∀ outcome time,
    (pollState outcome time (iterated now polls)).last_change_time =
      if (pollState outcome time (iterated now polls)).connection_changed then time
      else (iterated now polls).last_change_time
  /-- it is the one of the last flip, or of the start. -/
  last_change_time : (iterated now polls).last_change_time = (flipTimes false polls).getLast?.getD now

/-- **The poll history.** -/
theorem poll_history (now : Nat) (polls : List (Option Value × Nat)) : PollHistory now polls where
  status := connection_status_iterated now polls
  count := by
    rw [failure_count_iterated, Int32.toInt_ofNat']
  count_of_lt h := by rw [failure_count_iterated, Int32.toInt_ofNat_of_lt h]
  value := analog_value_iterated now polls
  published changed point := by
    rw [← valueUpdate_eq, ← valueToPublish_iterated]
    rfl
  changed outcome time := (pollState_flip outcome time _).1
  refreshed outcome time := (pollState_flip outcome time _).2
  last_change_time := last_change_time_foldl polls (initialState now)

/-- A holding register of 16 bits. -/
def registerAt (index : UInt16) : ReadPointConfig :=
  { ip := str "10.0.0.1", port := 502, slave_id := 1, type := .holdingInt16, address := 0, count := 1
    dnp3_analog_index := index, dnp3_status_index := index, description := [] }

/-- A register that has answered 7 and then not at all: 7 after four failures, 0 after the fifth. -/
theorem poll_history_fifth :
    updateDNP3Values (registerAt 3) (iterated 0 ((some (.finite 7), 1) :: List.replicate 4 (none, 2))) =
      .analog ⟨.finite 7, online⟩ 3 ∧
    updateDNP3Values (registerAt 3) (iterated 0 ((some (.finite 7), 1) :: List.replicate 5 (none, 2))) =
      .analog ⟨.finite 0, online⟩ 3 := by
  have hfour := poll_history 0 ((some (.finite 7), 1) :: List.replicate 4 (none, 2))
  have hfive := poll_history 0 ((some (.finite 7), 1) :: List.replicate 5 (none, 2))
  constructor
  · refine (hfour.published _ (registerAt 3)).trans ?_
    rw [hfour.value]
    rfl
  · refine (hfive.published _ (registerAt 3)).trans ?_
    rw [hfive.value]
    rfl

end Gateway
