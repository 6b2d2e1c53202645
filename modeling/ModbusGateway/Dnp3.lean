import ModbusGateway.Config
import ModbusGateway.Outstation
import ModbusGateway.Lib.Run

/-!
# From the points to the outstation (`Dnp3.cpp:4-194`)

| here | there |
| --- | --- |
| `staticVariationForType` | `StaticVariationForType` (`Config.cpp:133`) |
| `handleCommunicationFailure`, `handleCommunicationSuccess` | the same (`Config.cpp:234`, `:251`) |
| `configureDatabase`      | `ConfigureDatabase` (`Dnp3.cpp:4`); `none` when a loop needs more than `fuel` tests |
| `updateDNP3Values`       | what `UpdateDNP3Values` (`Dnp3.cpp:72`) adds to the builder |
| `pollState`              | the block of `PollPoint` under `data_mutex` (`Dnp3.cpp:139`) |
| `initialState`, `initialUpdates` | `ApplyInitialStateToDNP3` (`Dnp3.cpp:172`) |
-/

namespace Gateway

open BinaryFloat (Value)
open Opendnp3

/-! ## The database configuration -/

def staticVariationForType : ReadValueType → StaticAnalogVariation
  | .holdingFloat32 | .inputFloat32 => .group30Var5
  | .holdingInt16 | .inputInt16 | .holdingUInt16 | .inputUInt16 => .group30Var2
  | _ => .group30Var1

structure IndexRange where
  max_analog : UInt16 := 0
  max_binary : UInt16 := 0
  has_analog : Bool := false
  has_binary : Bool := false

/-- One turn of the first loop of `ConfigureDatabase`. -/
def IndexRange.extend (range : IndexRange) (point : ReadPointConfig) : IndexRange :=
  if publishesAsDnp3Binary point.type then
    { range with max_binary := max range.max_binary point.dnp3_analog_index, has_binary := true }
  else { range with max_analog := max range.max_analog point.dnp3_analog_index, has_analog := true }

def indexRange (points : List ReadPointConfig) : IndexRange := points.foldl .extend {}

/-- `for (uint16_t index = 0; index <= last; ++index)`: the increment wraps. -/
def forIndexes (fuel : Nat) (last : UInt16) (body : DatabaseConfig → UInt16 → DatabaseConfig)
    (config : DatabaseConfig) : Option DatabaseConfig :=
  (Loop.run (fun s => decide (s.2 ≤ last)) (fun s => (body s.1 s.2, s.2 + 1)) fuel (config, 0)).map Prod.fst

def configureAnalogIndex (config : DatabaseConfig) (index : UInt16) : DatabaseConfig :=
  { config with
    -- `evariation` is left as `AnalogConfig()` has it
    analog_input := Function.update config.analog_input index (some { clazz := .class1, svariation := .group30Var1 })
    analog_output_status := Function.update config.analog_output_status index
      (some { clazz := .class1, svariation := .group40Var1, evariation := .group42Var1 }) }

def configureBinaryIndex (config : DatabaseConfig) (index : UInt16) : DatabaseConfig :=
  { config with
    binary_input := Function.update config.binary_input index
      (some { clazz := .class1, svariation := .group1Var2, evariation := .group2Var2 })
    binary_output_status := Function.update config.binary_output_status index
      (some { clazz := .class1, svariation := .group10Var2, evariation := .group11Var2 }) }

/-- One turn of the last loop; `map[index]` makes an absent entry with the defaults. -/
def configurePoint (config : DatabaseConfig) (point : ReadPointConfig) : DatabaseConfig :=
  let index := point.dnp3_analog_index
  if publishesAsDnp3Binary point.type then
    let entry := (config.binary_input index).getD {}
    { config with
      binary_input := Function.update config.binary_input index
        (some { entry with clazz := .class1, svariation := .group1Var2, evariation := .group2Var2 }) }
  else
    let entry := (config.analog_input index).getD {}
    { config with
      analog_input := Function.update config.analog_input index
        (some { entry with clazz := .class1, svariation := staticVariationForType point.type }) }

/-- **`ConfigureDatabase`** -/
def configureDatabase (fuel : Nat) (profile : ProfileConfig) : Option DatabaseConfig :=
  if profile.read_points.isEmpty then some {} else do
    let range := indexRange profile.read_points
    let config ← (if range.has_analog then forIndexes fuel range.max_analog configureAnalogIndex {} else some {})
    let config ← (if range.has_binary then forIndexes fuel range.max_binary configureBinaryIndex config
      else some config)
    return profile.read_points.foldl configurePoint config

/-! ## The state of a point and what is published of it -/

/-- **`HandleCommunicationFailure`**; `now` is what `system_clock::now` would return. -/
def handleCommunicationFailure (now : Nat) (state : ReadPointState) : ReadPointState :=
  let changed := false != state.connection_status
  let failure_count := state.failure_count + 1
  { analog_value := if failure_count ≥ max_failures_before_zero then .finite 0 else state.analog_value
    connection_status := false
    connection_changed := changed
    failure_count
    last_change_time := if changed then now else state.last_change_time }

/-- **`HandleCommunicationSuccess`** -/
def handleCommunicationSuccess (now : Nat) (state : ReadPointState) : ReadPointState :=
  let changed := true != state.connection_status
  { state with
    connection_status := true
    connection_changed := changed
    failure_count := 0
    last_change_time := if changed then now else state.last_change_time }

/-- What an iteration of `PollPoint` does to the state: `outcome` is the value read, if any. -/
def pollState (outcome : Option Value) (now : Nat) (state : ReadPointState) : ReadPointState :=
  match outcome with
  | some new_value => handleCommunicationSuccess now { state with analog_value := new_value }
  | none => handleCommunicationFailure now state

def valueToPublish (state : ReadPointState) : Value :=
  if state.failure_count ≥ max_failures_before_zero then .finite 0 else state.analog_value

/-- The update of a point's entry to a value: a binary one with the flags `0x01`, or an analog one. -/
def valueUpdate (point : ReadPointConfig) (value_to_publish : Value) : Update :=
  if publishesAsDnp3Binary point.type then
    .binary (Binary.ofValue (decide (value_to_publish ≠ .finite 0)) online) point.dnp3_analog_index
  else .analog (Analog.ofValue value_to_publish) point.dnp3_analog_index

/-- **`UpdateDNP3Values`** -/
def updateDNP3Values (point : ReadPointConfig) (state : ReadPointState) : Update :=
  valueUpdate point (valueToPublish state)

/-- The state `ApplyInitialStateToDNP3` leaves for each point. -/
def initialState (now : Nat) : ReadPointState :=
  { analog_value := .finite 0
    connection_status := false
    connection_changed := true
    failure_count := 0
    last_change_time := now }

/-- The one builder of `ApplyInitialStateToDNP3`. -/
def initialUpdates (points : List ReadPointConfig) (now : Nat → Nat) : List Update :=
  points.mapIdx fun i point => updateDNP3Values point (initialState (now i))

/-! ## What an update shows, and for which entry -/

/-- What the outstation is told of a value: at the point's index, online, the number itself or whether it is not `0`. -/
def shown (point : ReadPointConfig) (v : Value) : Update :=
  if publishesAsDnp3Binary point.type then
    .binary ⟨decide (v ≠ .finite 0), if v = .finite 0 then online else online ||| binaryState⟩ point.dnp3_analog_index
  else .analog ⟨v, online⟩ point.dnp3_analog_index

theorem valueUpdate_eq (point : ReadPointConfig) (v : Value) : valueUpdate point v = shown point v := by
  unfold valueUpdate shown
  split
  · by_cases hv : v = .finite 0
    · rw [if_pos hv, hv]
      rfl
    · rw [if_neg hv, decide_eq_true hv]
      rfl
  · rfl

@[simp] theorem key_valueUpdate (point : ReadPointConfig) (v : Value) : (valueUpdate point v).key = dnpKey point := by
  unfold valueUpdate dnpKey
  split <;> simp_all [Update.key]

@[simp] theorem key_updateDNP3Values (point : ReadPointConfig) (state : ReadPointState) :
    (updateDNP3Values point state).key = dnpKey point := key_valueUpdate point _

/-! ## What is configured at a point's index -/

/-- The register points of a list at an index, those whose entry the last loop sets. -/
def analogAt (points : List ReadPointConfig) (index : UInt16) : List ReadPointConfig :=
  points.filter fun q => dnpKey q = (false, index)

theorem analogAt_append_of_eq {points : List ReadPointConfig} {q : ReadPointConfig} {index : UInt16}
    (h : dnpKey q = (false, index)) : analogAt (points ++ [q]) index = analogAt points index ++ [q] := by
  simp [analogAt, h]

theorem analogAt_append_of_ne {points : List ReadPointConfig} {q : ReadPointConfig} {index : UInt16}
    (h : dnpKey q ≠ (false, index)) : analogAt (points ++ [q]) index = analogAt points index := by
  simp [analogAt, h]

theorem configurePoint_of_analog {config : DatabaseConfig} {q : ReadPointConfig} {index : UInt16}
    (h : dnpKey q = (false, index)) : (configurePoint config q).analog_input index =
      some { (config.analog_input index).getD {} with
        clazz := .class1, svariation := staticVariationForType q.type } := by
  obtain ⟨hb, rfl⟩ : publishesAsDnp3Binary q.type = false ∧ q.dnp3_analog_index = index := by simpa [dnpKey] using h
  simp [configurePoint, hb]

theorem configurePoint_of_ne {config : DatabaseConfig} {q : ReadPointConfig} {index : UInt16}
    (h : dnpKey q ≠ (false, index)) : (configurePoint config q).analog_input index = config.analog_input index := by
  unfold configurePoint
  split
  · rfl
  · rename_i hb
    have hi : index ≠ q.dnp3_analog_index := by rintro rfl; simp [dnpKey, hb] at h
    exact Function.update_of_ne hi _ _

/-- The last loop on the analog entries: the last register point with an index decides. -/
theorem foldl_configurePoint_analog (points : List ReadPointConfig) (config : DatabaseConfig) (index : UInt16) :
    (points.foldl configurePoint config).analog_input index =
      match (analogAt points index).getLast? with
      | none => config.analog_input index
      | some q => some { (config.analog_input index).getD {} with
          clazz := .class1, svariation := staticVariationForType q.type } := by
  induction points using List.reverseRecOn with
  | nil => rfl
  | append_singleton points q ih =>
    rw [List.foldl_append, List.foldl_cons, List.foldl_nil]
    generalize points.foldl configurePoint config = config' at ih ⊢
    by_cases hk : dnpKey q = (false, index)
    · rw [analogAt_append_of_eq hk, configurePoint_of_analog hk, ih]
      cases (analogAt points index).getLast? <;> simp
    · rw [analogAt_append_of_ne hk, configurePoint_of_ne hk, ih]

/-- The last loop on the binary entries, which are all set alike. -/
theorem foldl_configurePoint_binary (points : List ReadPointConfig) (config : DatabaseConfig) (index : UInt16) :
    (points.foldl configurePoint config).binary_input index =
      if ∃ q ∈ points, dnpKey q = (true, index) then some { evariation := .group2Var2 }
      else config.binary_input index := by
  induction points using List.reverseRecOn with
  | nil => simp
  | append_singleton points q ih =>
    rw [List.foldl_append, List.foldl_cons, List.foldl_nil]
    generalize points.foldl configurePoint config = config' at ih ⊢
    unfold configurePoint
    by_cases hb : publishesAsDnp3Binary q.type = true
    · by_cases hi : q.dnp3_analog_index = index
      · have hk : dnpKey q = (true, index) := by simp [dnpKey, hb, hi]
        subst hi
        simp [hb, hk]
      · have hk : dnpKey q ≠ (true, index) := by simp [dnpKey, hi]
        simp only [hb, if_true, List.mem_append, List.mem_singleton, or_and_right, exists_or, exists_eq_left, hk,
          or_false, ← ih]
        exact Function.update_of_ne (Ne.symm hi) _ _
    · have hk : dnpKey q ≠ (true, index) := by simp [dnpKey, hb]
      simp only [hb, List.mem_append, List.mem_singleton, or_and_right, exists_or, exists_eq_left, hk,
        or_false, ← ih]
      rfl

/-- What the filling loops leave: every analog entry as `AnalogConfig()` has it. -/
def AnalogDefaults (config : DatabaseConfig) : Prop := ∀ index c, config.analog_input index = some c → c = {}

theorem forIndexes_invariant {I : DatabaseConfig → Prop} {fuel : Nat} {last : UInt16}
    {body : DatabaseConfig → UInt16 → DatabaseConfig} (hstep : ∀ config index, I config → I (body config index))
    {config config' : DatabaseConfig} (hI : I config) (h : forIndexes fuel last body config = some config') :
    I config' := by
  obtain ⟨s, hs, rfl⟩ := Option.map_eq_some_iff.1 h
  exact (Loop.run_invariant (I := fun s => I s.1) (fun s hI _ => hstep s.1 s.2 hI) hI hs).1

theorem configureAnalogIndex_defaults (config : DatabaseConfig) (index : UInt16) (h : AnalogDefaults config) :
    AnalogDefaults (configureAnalogIndex config index) := by
  intro i c hc
  simp only [configureAnalogIndex, Function.update_apply] at hc
  split at hc
  · simpa using hc.symm
  · exact h i c hc

theorem configureBinaryIndex_defaults (config : DatabaseConfig) (index : UInt16) (h : AnalogDefaults config) :
    AnalogDefaults (configureBinaryIndex config index) := h

/-- `configureDatabase` is its last loop on a configuration whose analog entries are defaults. -/
theorem configureDatabase_cases {fuel : Nat} {profile : ProfileConfig} {config : DatabaseConfig}
    (h : configureDatabase fuel profile = some config) :
    ∃ filled, AnalogDefaults filled ∧ config = profile.read_points.foldl configurePoint filled := by
  have h0 : AnalogDefaults {} := by intro i c hc; cases hc
  unfold configureDatabase at h
  split at h
  · rename_i he
    rw [List.isEmpty_iff.1 he]
    exact ⟨{}, h0, by simpa using h.symm⟩
  · simp only [Option.bind_eq_bind, Option.bind_eq_some_iff, Option.pure_def, Option.some.injEq] at h
    obtain ⟨analog, ha, binary, hb, rfl⟩ := h
    refine ⟨binary, ?_, rfl⟩
    have ha' : AnalogDefaults analog := by
      split at ha
      · exact forIndexes_invariant configureAnalogIndex_defaults h0 ha
      · obtain rfl : {} = analog := by simpa using ha
        exact h0
    split at hb
    · exact forIndexes_invariant configureBinaryIndex_defaults ha' hb
    · obtain rfl : analog = binary := by simpa using hb
      exact ha'

/-- **The analog entry at an index**: the static variation is that of the last register point there, the
event variation the library's default. -/
theorem configured_analog {fuel : Nat} {profile : ProfileConfig} {config : DatabaseConfig}
    (h : configureDatabase fuel profile = some config) {index : UInt16} {q : ReadPointConfig}
    (hq : (analogAt profile.read_points index).getLast? = some q) :
    config.analog_input index = some { svariation := staticVariationForType q.type } := by
  obtain ⟨filled, hfilled, rfl⟩ := configureDatabase_cases h
  rw [foldl_configurePoint_analog, hq]
  have hdefault : (filled.analog_input index).getD {} = {} := by
    cases hc : filled.analog_input index with
    | none => rfl
    | some c => exact hfilled index c hc
  simp [hdefault]

theorem configured_binary {fuel : Nat} {profile : ProfileConfig} {config : DatabaseConfig}
    (h : configureDatabase fuel profile = some config) {index : UInt16}
    (hq : ∃ q ∈ profile.read_points, dnpKey q = (true, index)) :
    config.binary_input index = some { evariation := .group2Var2 } := by
  obtain ⟨filled, -, rfl⟩ := configureDatabase_cases h
  rw [foldl_configurePoint_binary, if_pos hq]

/-- Every point of the profile has an entry in the table. -/
theorem configured_entry {fuel : Nat} {profile : ProfileConfig} {config : DatabaseConfig}
    (h : configureDatabase fuel profile = some config) {point : ReadPointConfig} (hp : point ∈ profile.read_points) :
    ∃ u, (Database.ofConfig config).entry (dnpKey point) = some u := by
  cases hb : publishesAsDnp3Binary point.type with
  | true =>
    have hk : dnpKey point = (true, point.dnp3_analog_index) := by simp [dnpKey, hb]
    have hc := configured_binary h ⟨point, hp, hk⟩
    rw [hk]
    exact ⟨_, by simp [Database.entry, Database.ofConfig, StaticDataMap.ofConfig, hc]; rfl⟩
  | false =>
    have hk : dnpKey point = (false, point.dnp3_analog_index) := by simp [dnpKey, hb]
    have hmem : point ∈ analogAt profile.read_points point.dnp3_analog_index := by simp [analogAt, hp, hk]
    obtain ⟨q, hq⟩ := Option.ne_none_iff_exists'.1 (mt List.getLast?_eq_none_iff.1 (List.ne_nil_of_mem hmem))
    have hc := configured_analog h hq
    rw [hk]
    exact ⟨_, by simp [Database.entry, Database.ofConfig, StaticDataMap.ofConfig, hc]; rfl⟩

/-- The register point that alone uses an index is the last one there. -/
theorem getLast?_analogAt {points : List ReadPointConfig} {point : ReadPointConfig} (hp : point ∈ points)
    (ha : publishesAsDnp3Binary point.type = false) (hunique : ∀ q ∈ points, dnpKey q = dnpKey point → q = point) :
    (analogAt points point.dnp3_analog_index).getLast? = some point := by
  have hk : dnpKey point = (false, point.dnp3_analog_index) := by simp [dnpKey, ha]
  have hmem : point ∈ analogAt points point.dnp3_analog_index := by simp [analogAt, hp, hk]
  obtain ⟨q, hq⟩ := Option.ne_none_iff_exists'.1 (mt List.getLast?_eq_none_iff.1 (List.ne_nil_of_mem hmem))
  have hq' := List.mem_filter.1 (List.mem_of_getLast? hq)
  rw [hq, hunique q hq'.1 (by simpa [hk] using hq'.2)]

/-! ## When the configuration is returned -/

theorem forIndexes_returns {fuel : Nat} {last : UInt16} (body : DatabaseConfig → UInt16 → DatabaseConfig)
    (config : DatabaseConfig) (hlast : last ≠ 65535) (hfuel : 65536 ≤ fuel) :
    ∃ config', forIndexes fuel last body config = some config' := by
  have hlt : last.toNat < 65535 := by
    have h1 := last.toNat_lt
    have h2 : last.toNat ≠ 65535 := fun h => hlast (UInt16.toNat_inj.1 h)
    omega
  -- the distance to the first index beyond `last` goes down, as the increment does not wrap before it
  obtain ⟨s, hs⟩ := Loop.run_of_measure (c := fun s : DatabaseConfig × UInt16 => decide (s.2 ≤ last))
    (b := fun s => (body s.1 s.2, s.2 + 1)) (I := fun _ => True) (fun s => last.toNat + 1 - s.2.toNat)
    (by
      intro s _ hc
      have hle : s.2.toNat ≤ last.toNat := UInt16.le_iff_toNat_le.1 (by simpa using hc)
      have hsucc : (s.2 + 1).toNat = s.2.toNat + 1 := by
        rw [UInt16.toNat_add]; simp; omega
      refine ⟨trivial, ?_⟩
      simp only [hsucc]
      omega)
    (n := fuel) (s := (config, 0)) trivial (by simp; omega)
  exact ⟨s.1, by simp [forIndexes, hs]⟩

theorem max_ne {a b c : UInt16} (ha : a ≠ c) (hb : b ≠ c) : max a b ≠ c := by
  show (if a ≤ b then b else a) ≠ c
  split <;> assumption

theorem indexRange_extend_ne {range : IndexRange} {point : ReadPointConfig} (ha : range.max_analog ≠ 65535)
    (hb : range.max_binary ≠ 65535) (hp : point.dnp3_analog_index ≠ 65535) :
    (range.extend point).max_analog ≠ 65535 ∧ (range.extend point).max_binary ≠ 65535 := by
  unfold IndexRange.extend
  split
  · exact ⟨ha, max_ne hb hp⟩
  · exact ⟨max_ne ha hp, hb⟩

theorem indexRange_ne {points : List ReadPointConfig} (h : ∀ p ∈ points, p.dnp3_analog_index ≠ 65535) :
    (indexRange points).max_analog ≠ 65535 ∧ (indexRange points).max_binary ≠ 65535 := by
  have hfold : ∀ (points : List ReadPointConfig) (range : IndexRange),
      (∀ p ∈ points, p.dnp3_analog_index ≠ 65535) → range.max_analog ≠ 65535 ∧ range.max_binary ≠ 65535 →
      (points.foldl IndexRange.extend range).max_analog ≠ 65535 ∧
        (points.foldl IndexRange.extend range).max_binary ≠ 65535 := by
    intro points
    induction points with
    | nil => exact fun _ _ h => h
    | cons p ps ih =>
      intro range hp hr
      exact ih _ (fun q hq => hp q (List.mem_cons_of_mem p hq))
        (indexRange_extend_ne hr.1 hr.2 (hp p List.mem_cons_self))
  exact hfold points {} h ⟨by decide, by decide⟩

/-- **`ConfigureDatabase` returns when no point has the index 65535.** -/
theorem configureDatabase_returns {fuel : Nat} {profile : ProfileConfig} (hfuel : 65536 ≤ fuel)
    (h : ∀ p ∈ profile.read_points, p.dnp3_analog_index ≠ 65535) :
    ∃ config, configureDatabase fuel profile = some config := by
  obtain ⟨ha, hb⟩ := indexRange_ne h
  have hloop : ∀ (has : Bool) (last : UInt16) body config, last ≠ 65535 →
      ∃ config', (if has then forIndexes fuel last body config else some config) = some config' := by
    intro has last body config hlast
    cases has with
    | false => exact ⟨config, rfl⟩
    | true => exact forIndexes_returns body config hlast hfuel
  unfold configureDatabase
  split
  · exact ⟨{}, rfl⟩
  · obtain ⟨analog, hanalog⟩ := hloop (indexRange profile.read_points).has_analog _ configureAnalogIndex {} ha
    obtain ⟨binary, hbinary⟩ := hloop (indexRange profile.read_points).has_binary _ configureBinaryIndex analog hb
    simp only [hanalog, hbinary, Option.bind_eq_bind, Option.bind_some, Option.pure_def]
    exact ⟨_, rfl⟩

/-- A register, and beyond a gap a register and a coil with the same index. -/
def profileShared : ProfileConfig :=
  { name := []
    read_points :=
      [{ ip := str "10.0.0.1", port := 502, slave_id := 1, type := .inputFloat32, address := 8, count := 2
         dnp3_analog_index := 0, dnp3_status_index := 0, description := str "A" },
       { ip := str "10.0.0.1", port := 502, slave_id := 1, type := .holdingInt16, address := 0, count := 1
         dnp3_analog_index := 2, dnp3_status_index := 2, description := str "B" },
       { ip := str "10.0.0.2", port := 502, slave_id := 1, type := .coilStatusBool, address := 0, count := 1
         dnp3_analog_index := 2, dnp3_status_index := 2, description := str "C" }] }

end Gateway
