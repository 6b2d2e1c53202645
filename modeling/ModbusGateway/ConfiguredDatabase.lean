import ModbusGateway.Dnp3

/-!
# What `ConfigureDatabase` configures, and when it returns

The counters of its two filling loops are `uint16_t`, as are their bounds. `index <= last` never fails for
`last = 65535`: such a profile is never configured (`configureDatabase_terminates_iff`). Where it returns,
the tables hold exactly the indexes up to the largest one of each kind, with the variations the panel
prints (`database_coverage`).
-/

namespace Gateway

open Opendnp3

/-! ## The largest index of each kind -/

/-- `has` and `last` for the points of one kind. -/
structure IsRange (points : List ReadPointConfig) (kind has : Bool) (last : UInt16) : Prop where
  has_iff : has = true ↔ ∃ p ∈ points, publishesAsDnp3Binary p.type = kind
  le : ∀ p ∈ points, publishesAsDnp3Binary p.type = kind → p.dnp3_analog_index ≤ last
  attained : has = true → ∃ p ∈ points, publishesAsDnp3Binary p.type = kind ∧ p.dnp3_analog_index = last

theorem max_cases (a b : UInt16) : max a b = b ∧ a ≤ b ∨ max a b = a ∧ b ≤ a := by
  by_cases h : a ≤ b
  · exact .inl ⟨if_pos h, h⟩
  · exact .inr ⟨if_neg h, by rw [UInt16.le_iff_toNat_le] at h ⊢; omega⟩

theorem IsRange.concat_of_ne {points : List ReadPointConfig} {kind has : Bool} {last : UInt16}
    (h : IsRange points kind has last) {q : ReadPointConfig} (hq : publishesAsDnp3Binary q.type ≠ kind) :
    IsRange (points ++ [q]) kind has last := by
  refine ⟨?_, ?_, ?_⟩
  · simp [h.has_iff, or_and_right, exists_or, hq]
  · rintro p hp hk
    rcases List.mem_append.1 hp with hp | hp
    · exact h.le p hp hk
    · obtain rfl := List.mem_singleton.1 hp
      exact absurd hk hq
  · intro hhas
    obtain ⟨p, hp, hk⟩ := h.attained hhas
    exact ⟨p, List.mem_append_left _ hp, hk⟩

theorem IsRange.concat_of_eq {points : List ReadPointConfig} {kind has : Bool} {last : UInt16}
    (h : IsRange points kind has last) (h0 : has = false → last = 0) {q : ReadPointConfig}
    (hq : publishesAsDnp3Binary q.type = kind) :
    IsRange (points ++ [q]) kind true (max last q.dnp3_analog_index) := by
  refine ⟨?_, ?_, fun _ => ?_⟩
  · simp only [true_iff]
    exact ⟨q, by simp, hq⟩
  · intro p hp hk
    have hle : p.dnp3_analog_index ≤ last ∨ p.dnp3_analog_index ≤ q.dnp3_analog_index := by
      rcases List.mem_append.1 hp with hp | hp
      · exact .inl (h.le p hp hk)
      · obtain rfl := List.mem_singleton.1 hp
        exact .inr (UInt16.le_refl _)
    simp only [UInt16.le_iff_toNat_le] at hle ⊢
    rcases max_cases last q.dnp3_analog_index with ⟨hm, hl⟩ | ⟨hm, hl⟩ <;> rw [hm] <;>
      rw [UInt16.le_iff_toNat_le] at hl <;> omega
  · rcases max_cases last q.dnp3_analog_index with ⟨hm, hl⟩ | ⟨hm, hl⟩
    · exact ⟨q, by simp, hq, hm.symm⟩
    · cases has with
      | true =>
        obtain ⟨p, hp, hk, hlast⟩ := h.attained rfl
        exact ⟨p, List.mem_append_left _ hp, hk, by rw [hm, hlast]⟩
      | false =>
        have hz : q.dnp3_analog_index = 0 := by
          rw [h0 rfl, UInt16.le_iff_toNat_le] at hl
          exact UInt16.toNat_inj.1 (by simpa using hl)
        exact ⟨q, by simp, hq, by rw [hm, h0 rfl, hz]⟩

/-- **The first loop.** -/
theorem indexRange_isRange (points : List ReadPointConfig) :
    IsRange points false (indexRange points).has_analog (indexRange points).max_analog ∧
    IsRange points true (indexRange points).has_binary (indexRange points).max_binary ∧
    ((indexRange points).has_analog = false → (indexRange points).max_analog = 0) ∧
    ((indexRange points).has_binary = false → (indexRange points).max_binary = 0) := by
  unfold indexRange
  induction points using List.reverseRecOn with
  | nil => exact ⟨⟨by simp, nofun, nofun⟩, ⟨by simp, nofun, nofun⟩, fun _ => rfl, fun _ => rfl⟩
  | append_singleton points q ih =>
    rw [List.foldl_append, List.foldl_cons, List.foldl_nil]
    obtain ⟨ha, hb, ha0, hb0⟩ := ih
    generalize points.foldl IndexRange.extend {} = range at ha hb ha0 hb0 ⊢
    unfold IndexRange.extend
    cases hq : publishesAsDnp3Binary q.type with
    | true => exact ⟨ha.concat_of_ne (by simp [hq]), hb.concat_of_eq hb0 hq, ha0, nofun⟩
    | false => exact ⟨ha.concat_of_eq ha0 hq, hb.concat_of_ne (by simp [hq]), nofun, hb0⟩

/-! ## Termination -/

/-- Up to `65535` every index is at most the bound, the wrapped one too. -/
theorem forIndexes_diverges (fuel : Nat) (body : DatabaseConfig → UInt16 → DatabaseConfig) (config : DatabaseConfig) :
    forIndexes fuel 65535 body config = none := by
  have hle : ∀ index : UInt16, index ≤ 65535 := by
    intro index
    have h := index.toNat_lt
    rw [UInt16.le_iff_toNat_le]
    simp only [UInt16.reduceToNat]
    omega
  rw [forIndexes, Loop.run_diverges (I := fun _ => True) (fun s _ => ⟨decide_eq_true (hle s.2), trivial⟩) fuel trivial]
  rfl

theorem eq_of_65535_le {index : UInt16} (h : 65535 ≤ index) : index = 65535 := by
  have hlt := index.toNat_lt
  rw [UInt16.le_iff_toNat_le] at h
  simp only [UInt16.reduceToNat] at h
  exact UInt16.toNat_inj.1 (by simp only [UInt16.reduceToNat]; omega)

/-- A point with the index 65535 makes the loop of its kind endless. -/
theorem configureDatabase_diverges {profile : ProfileConfig} {p : ReadPointConfig} (hp : p ∈ profile.read_points)
    (hi : p.dnp3_analog_index = 65535) (fuel : Nat) : configureDatabase fuel profile = none := by
  obtain ⟨ha, hb, -, -⟩ := indexRange_isRange profile.read_points
  have hne : profile.read_points.isEmpty = false := by
    cases h : profile.read_points with
    | nil => simp [h] at hp
    | cons q points => rfl
  unfold configureDatabase
  rw [if_neg (by simp [hne])]
  cases hk : publishesAsDnp3Binary p.type with
  | false =>
    have hhas := ha.has_iff.2 ⟨p, hp, hk⟩
    have hlast := eq_of_65535_le (hi ▸ ha.le p hp hk)
    simp only [hhas, hlast, if_true, forIndexes_diverges]
    rfl
  | true =>
    have hhas := hb.has_iff.2 ⟨p, hp, hk⟩
    have hlast := eq_of_65535_le (hi ▸ hb.le p hp hk)
    simp only [hhas, hlast, if_true, forIndexes_diverges]
    -- whatever the analog loop does, the binary one does not end
    cases (if (indexRange profile.read_points).has_analog then
      forIndexes fuel (indexRange profile.read_points).max_analog configureAnalogIndex {} else some {}) <;> rfl

/-- **`ConfigureDatabase` terminates exactly when no point has the index 65535.** -/
theorem configureDatabase_terminates_iff (profile : ProfileConfig) :
    (∃ fuel config, configureDatabase fuel profile = some config) ↔
      ∀ p ∈ profile.read_points, p.dnp3_analog_index ≠ 65535 := by
  constructor
  · rintro ⟨fuel, config, h⟩ p hp hi
    rw [configureDatabase_diverges hp hi] at h
    cases h
  · intro h
    obtain ⟨config, hconfig⟩ := @configureDatabase_returns 65536 profile (le_refl _) h
    exact ⟨65536, config, hconfig⟩

/-- A register and a coil, as lines of the points file. -/
def lineRegister : Bytes := str "A;10.0.0.1;502;1;holding;0;int16;65535"

def lineCoil : Bytes := str "A;10.0.0.1;502;1;coil_status;0;bool;65535"

/-- Either line alone is stored as a point, and no start-up with it gets past `ConfigureDatabase`. -/
theorem index_65535_hangs : ∃ register coil, tryBuildReadPointFromCsvLine lineRegister = .ok register ∧
    tryBuildReadPointFromCsvLine lineCoil = .ok coil ∧
    publishesAsDnp3Binary register.type = false ∧ publishesAsDnp3Binary coil.type = true ∧
    ¬(∃ fuel config, configureDatabase fuel { name := [], read_points := [register] } = some config) ∧
    ¬(∃ fuel config, configureDatabase fuel { name := [], read_points := [coil] } = some config) := by
  refine ⟨_, _, rfl, rfl, by decide +kernel, by decide +kernel, ?_, ?_⟩
  · rintro ⟨fuel, config, h⟩
    rw [configureDatabase_diverges List.mem_cons_self (by decide +kernel)] at h
    cases h
  · rintro ⟨fuel, config, h⟩
    rw [configureDatabase_diverges List.mem_cons_self (by decide +kernel)] at h
    cases h

/-! ## Coverage -/

theorem ne_65535_of_forIndexes {fuel : Nat} {last : UInt16} {body : DatabaseConfig → UInt16 → DatabaseConfig}
    {config config' : DatabaseConfig} (h : forIndexes fuel last body config = some config') : last ≠ 65535 := by
  rintro rfl
  rw [forIndexes_diverges] at h
  cases h

section
variable {α : Type} {table : DatabaseConfig → IndexMap α} {entry : α} {last : UInt16}
  {body : DatabaseConfig → UInt16 → DatabaseConfig}
  (hbody : ∀ config index, table (body config index) = Function.update (table config) index (some entry))

/-- The loop's invariant: the counter has not wrapped, and the entries below it are filled. -/
def FilledBelow (table : DatabaseConfig → IndexMap α) (entry : α) (last : UInt16) (config : DatabaseConfig)
    (s : DatabaseConfig × UInt16) : Prop :=
  s.2.toNat ≤ last.toNat + 1 ∧ ∀ j, table s.1 j = if j.toNat < s.2.toNat then some entry else table config j

include hbody

theorem FilledBelow.step (hlast : last.toNat < 65535) {config c : DatabaseConfig} {k : UInt16}
    (h : FilledBelow table entry last config (c, k)) (hk : k ≤ last) :
    FilledBelow table entry last config (body c k, k + 1) := by
  obtain ⟨-, hfilled⟩ := h
  have hk : k.toNat ≤ last.toNat := UInt16.le_iff_toNat_le.1 hk
  have hsucc : (k + 1).toNat = k.toNat + 1 := by rw [UInt16.toNat_add]; simp; omega
  refine ⟨by simp only [hsucc]; omega, ?_⟩
  intro j
  simp only [hbody, Function.update_apply, hfilled, hsucc]
  by_cases hj : j = k
  · simp [hj]
  · have hne : j.toNat ≠ k.toNat := fun hjk => hj (UInt16.toNat_inj.1 hjk)
    rw [if_neg hj]
    congr 1
    simp only [eq_iff_iff]
    omega

/-- A table the loop fills holds the new entry up to `last` and is the old one beyond. -/
theorem forIndexes_fills {fuel : Nat} {config config' : DatabaseConfig}
    (h : forIndexes fuel last body config = some config') (i : UInt16) :
    table config' i = if i ≤ last then some entry else table config i := by
  have hlast : last.toNat < 65535 := by
    have h1 := last.toNat_lt
    have h2 : last.toNat ≠ 65535 := fun hl => ne_65535_of_forIndexes h (UInt16.toNat_inj.1 hl)
    omega
  obtain ⟨s, hs, rfl⟩ := Option.map_eq_some_iff.1 h
  have hstart : FilledBelow table entry last config (config, 0) := ⟨by simp, by simp⟩
  obtain ⟨⟨hle, hfilled⟩, hstop⟩ := Loop.run_invariant (I := FilledBelow table entry last config)
    (fun s hI hc => hI.step hbody hlast (by simpa using hc)) hstart hs
  have hbeyond : last.toNat < s.2.toNat := by
    have hnot : ¬s.2 ≤ last := by simpa using hstop
    rw [UInt16.le_iff_toNat_le] at hnot
    omega
  rw [hfilled i]
  congr 1
  rw [eq_iff_iff, UInt16.le_iff_toNat_le]
  omega

end

/-- A table the loop does not touch stays. -/
theorem forIndexes_keeps {α : Type} {table : DatabaseConfig → IndexMap α} {fuel : Nat} {last : UInt16}
    {body : DatabaseConfig → UInt16 → DatabaseConfig} (hbody : ∀ config index, table (body config index) = table config)
    {config config' : DatabaseConfig} (h : forIndexes fuel last body config = some config') :
    table config' = table config :=
  forIndexes_invariant (I := fun c => table c = table config) (fun c index hc => (hbody c index).trans hc) rfl h

/-- The indexes from `0` up to the largest one of a kind. -/
def UpTo (points : List ReadPointConfig) (kind : Bool) (index : UInt16) : Prop :=
  ∃ p ∈ points, publishesAsDnp3Binary p.type = kind ∧ index ≤ p.dnp3_analog_index

theorem IsRange.upTo_iff {points : List ReadPointConfig} {kind has : Bool} {last : UInt16}
    (h : IsRange points kind has last) (index : UInt16) : UpTo points kind index ↔ has = true ∧ index ≤ last := by
  constructor
  · rintro ⟨p, hp, hk, hi⟩
    have hle := h.le p hp hk
    rw [UInt16.le_iff_toNat_le] at hle hi ⊢
    exact ⟨h.has_iff.2 ⟨p, hp, hk⟩, by omega⟩
  · rintro ⟨hhas, hi⟩
    obtain ⟨p, hp, hk, rfl⟩ := h.attained hhas
    exact ⟨p, hp, hk, hi⟩

/-- What the two filling loops leave. -/
structure Filled (points : List ReadPointConfig) (config : DatabaseConfig) : Prop where
  analog_input : ∀ i, (UpTo points false i → config.analog_input i = some {}) ∧
    (¬UpTo points false i → config.analog_input i = none)
  analog_output_status : ∀ i, (config.analog_output_status i).isSome ↔ UpTo points false i
  binary_input : ∀ i, (config.binary_input i).isSome ↔ UpTo points true i
  binary_output_status : ∀ i, (config.binary_output_status i).isSome ↔ UpTo points true i

theorem configureAnalogIndex_input (config : DatabaseConfig) (index : UInt16) :
    (configureAnalogIndex config index).analog_input = Function.update config.analog_input index (some {}) := rfl

theorem configureAnalogIndex_status (config : DatabaseConfig) (index : UInt16) :
    (configureAnalogIndex config index).analog_output_status =
      Function.update config.analog_output_status index (some { evariation := .group42Var1 }) := rfl

theorem configureBinaryIndex_input (config : DatabaseConfig) (index : UInt16) :
    (configureBinaryIndex config index).binary_input =
      Function.update config.binary_input index (some { evariation := .group2Var2 }) := rfl

theorem configureBinaryIndex_status (config : DatabaseConfig) (index : UInt16) :
    (configureBinaryIndex config index).binary_output_status =
      Function.update config.binary_output_status index (some { evariation := .group11Var2 }) := rfl

section
variable {α : Type} {table : DatabaseConfig → IndexMap α} {entry : α} {has : Bool} {fuel : Nat} {last : UInt16}
  {body : DatabaseConfig → UInt16 → DatabaseConfig} {config config' : DatabaseConfig}

/-- A loop that is run only when there is a point of its kind. -/
theorem fill_entries (hbody : ∀ config index, table (body config index) = Function.update (table config) index (some entry))
    (h : (if has then forIndexes fuel last body config else some config) = some config') (i : UInt16) :
    table config' i = if has = true ∧ i ≤ last then some entry else table config i := by
  cases has with
  | true =>
    rw [if_pos rfl] at h
    simpa using forIndexes_fills hbody h i
  | false =>
    obtain rfl : config = config' := by simpa using h
    simp

theorem fill_keeps (table : DatabaseConfig → IndexMap α)
    (h : (if has then forIndexes fuel last body config else some config) = some config')
    (hbody : ∀ config index, table (body config index) = table config) : table config' = table config := by
  cases has with
  | true =>
    rw [if_pos rfl] at h
    exact forIndexes_keeps hbody h
  | false =>
    obtain rfl : config = config' := by simpa using h
    rfl

end

/-- **The filling loops.** -/
theorem filled_of_loops {points : List ReadPointConfig} {fuel : Nat} {analog config : DatabaseConfig}
    (ha : (if (indexRange points).has_analog then
      forIndexes fuel (indexRange points).max_analog configureAnalogIndex {} else some {}) = some analog)
    (hb : (if (indexRange points).has_binary then
      forIndexes fuel (indexRange points).max_binary configureBinaryIndex analog else some analog) = some config) :
    Filled points config := by
  obtain ⟨hra, hrb, -, -⟩ := indexRange_isRange points
  -- the binary loop touches neither analog table, the analog loop neither binary one
  have hinput : config.analog_input = analog.analog_input :=
    fill_keeps DatabaseConfig.analog_input hb fun _ _ => rfl
  have hstatus : config.analog_output_status = analog.analog_output_status :=
    fill_keeps DatabaseConfig.analog_output_status hb fun _ _ => rfl
  have hinput0 : analog.binary_input = fun _ => none :=
    fill_keeps DatabaseConfig.binary_input ha fun _ _ => rfl
  have hstatus0 : analog.binary_output_status = fun _ => none :=
    fill_keeps DatabaseConfig.binary_output_status ha fun _ _ => rfl
  refine ⟨fun i => ?_, fun i => ?_, fun i => ?_, fun i => ?_⟩
  · rw [hinput, fill_entries configureAnalogIndex_input ha, hra.upTo_iff]
    exact ⟨fun hi => if_pos hi, fun hi => if_neg hi⟩
  · rw [hstatus, fill_entries configureAnalogIndex_status ha, hra.upTo_iff]
    split <;> simp_all
  · rw [fill_entries configureBinaryIndex_input hb, hinput0, hrb.upTo_iff]
    split <;> simp_all
  · rw [fill_entries configureBinaryIndex_status hb, hstatus0, hrb.upTo_iff]
    split <;> simp_all

/-- `configureDatabase` is its last loop on the filled tables. -/
theorem configureDatabase_filled {fuel : Nat} {profile : ProfileConfig} {config : DatabaseConfig}
    (h : configureDatabase fuel profile = some config) :
    ∃ filled, Filled profile.read_points filled ∧ config = profile.read_points.foldl configurePoint filled := by
  unfold configureDatabase at h
  split at h
  · rename_i he
    have hnone : ∀ kind i, ¬UpTo [] kind i := by rintro kind i ⟨p, hp, -⟩; cases hp
    rw [List.isEmpty_iff.1 he]
    refine ⟨{}, ⟨fun i => ⟨fun hi => absurd hi (hnone _ i), fun _ => rfl⟩, fun i => ?_, fun i => ?_, fun i => ?_⟩,
      by simpa using h.symm⟩ <;> simp [hnone]
  · simp only [Option.bind_eq_bind, Option.bind_eq_some_iff, Option.pure_def, Option.some.injEq] at h
    obtain ⟨analog, ha, filled, hb, rfl⟩ := h
    exact ⟨filled, filled_of_loops ha hb, rfl⟩

/-- The last loop leaves the output statuses alone. -/
theorem foldl_configurePoint_status (points : List ReadPointConfig) (config : DatabaseConfig) :
    (points.foldl configurePoint config).analog_output_status = config.analog_output_status ∧
    (points.foldl configurePoint config).binary_output_status = config.binary_output_status := by
  induction points generalizing config with
  | nil => exact ⟨rfl, rfl⟩
  | cons p points ih =>
    rw [List.foldl_cons]
    obtain ⟨h1, h2⟩ := ih (configurePoint config p)
    rw [h1, h2]
    unfold configurePoint
    split <;> exact ⟨rfl, rfl⟩

theorem upTo_of_analogAt {points : List ReadPointConfig} {index : UInt16} {q : ReadPointConfig}
    (h : (analogAt points index).getLast? = some q) : UpTo points false index := by
  obtain ⟨hq, hk⟩ := List.mem_filter.1 (List.mem_of_getLast? h)
  obtain ⟨hb, rfl⟩ : publishesAsDnp3Binary q.type = false ∧ q.dnp3_analog_index = index := by simpa [dnpKey] using hk
  exact ⟨q, hq, hb, UInt16.le_refl _⟩

/-- The static variation of the last register point at an index. -/
def lastVariation (points : List ReadPointConfig) (index : UInt16) : StaticAnalogVariation :=
  match (analogAt points index).getLast? with
  | some q => staticVariationForType q.type
  | none => .group30Var1

/-- An analog entry, where there is one. -/
theorem configured_analog_cases {fuel : Nat} {profile : ProfileConfig} {config : DatabaseConfig}
    (h : configureDatabase fuel profile = some config) (i : UInt16) :
    (UpTo profile.read_points false i ∧
      config.analog_input i = some { svariation := lastVariation profile.read_points i }) ∨
    ¬UpTo profile.read_points false i ∧ config.analog_input i = none := by
  obtain ⟨filled, hfilled, rfl⟩ := configureDatabase_filled h
  rw [foldl_configurePoint_analog, lastVariation]
  by_cases hi : UpTo profile.read_points false i
  · rw [(hfilled.analog_input i).1 hi]
    refine .inl ⟨hi, ?_⟩
    cases (analogAt profile.read_points i).getLast? <;> rfl
  · rw [(hfilled.analog_input i).2 hi]
    refine .inr ⟨hi, ?_⟩
    cases hl : (analogAt profile.read_points i).getLast? with
    | some q => exact absurd (upTo_of_analogAt hl) hi
    | none => rfl

theorem configured_binary_isSome {fuel : Nat} {profile : ProfileConfig} {config : DatabaseConfig}
    (h : configureDatabase fuel profile = some config) (i : UInt16) :
    (config.binary_input i).isSome ↔ UpTo profile.read_points true i := by
  obtain ⟨filled, hfilled, rfl⟩ := configureDatabase_filled h
  rw [foldl_configurePoint_binary]
  split
  · rename_i hq
    obtain ⟨q, hq, hk⟩ := hq
    obtain ⟨hb, rfl⟩ : publishesAsDnp3Binary q.type = true ∧ q.dnp3_analog_index = i := by simpa [dnpKey] using hk
    exact iff_of_true rfl ⟨q, hq, hb, UInt16.le_refl _⟩
  · exact hfilled.binary_input i

/-! ## The panel -/

/-- The object group and the number of a static variation. -/
def groupVariation : StaticAnalogVariation → Nat × Nat
  | .group30Var1 => (30, 1)
  | .group30Var2 => (30, 2)
  | .group30Var5 => (30, 5)

def binaryGroupVariation : StaticBinaryVariation → Nat × Nat
  | .group1Var1 => (1, 1)
  | .group1Var2 => (1, 2)

/-- What is configured at a point's index, in the table of its kind. -/
def configuredObject (config : DatabaseConfig) (point : ReadPointConfig) : Option (Nat × Nat) :=
  if publishesAsDnp3Binary point.type then
    (config.binary_input point.dnp3_analog_index).map fun c => binaryGroupVariation c.svariation
  else (config.analog_input point.dnp3_analog_index).map fun c => groupVariation c.svariation

/-- The panel's switch agrees with the one of `StaticVariationForType`. -/
theorem groupVariation_staticVariationForType {type : ReadValueType} (h : publishesAsDnp3Binary type = false) :
    groupVariation (staticVariationForType type) = (dnp3ObjectGroup type, dnp3StaticVariationNumber type) := by
  cases type <;> first | rfl | cases h

structure DatabaseCoverage (profile : ProfileConfig) (config : DatabaseConfig) : Prop where
  /-- The tables hold the indexes from `0` up to the largest one of their kind; -/
  analog_input : ∀ i, (config.analog_input i).isSome ↔ UpTo profile.read_points false i
  analog_output_status : ∀ i, (config.analog_output_status i).isSome ↔ UpTo profile.read_points false i
  binary_input : ∀ i, (config.binary_input i).isSome ↔ UpTo profile.read_points true i
  binary_output_status : ∀ i, (config.binary_output_status i).isSome ↔ UpTo profile.read_points true i
  /-- an analog entry has the variation of the last register point there; -/
  variation : ∀ i c, config.analog_input i = some c → c.svariation = lastVariation profile.read_points i
  /-- a point's update finds its entry, and sets it; -/
  updated : ∀ p ∈ profile.read_points, ∀ state earlier,
    (((Database.ofConfig config).execute earlier).entry (updateDNP3Values p state).key).isSome ∧
    (((Database.ofConfig config).execute earlier).update (updateDNP3Values p state)).1.entry
      (updateDNP3Values p state).key = some (updateDNP3Values p state)
  /-- and the panel prints what is configured. -/
  panel : (profile.read_points.map dnpKey).Nodup → ∀ p ∈ profile.read_points,
    configuredObject config p = some (dnp3ObjectGroup p.type, dnp3StaticVariationNumber p.type)

/-- The printed group and variation are the configured ones. -/
theorem configuredObject_eq {fuel : Nat} {profile : ProfileConfig} {config : DatabaseConfig}
    (h : configureDatabase fuel profile = some config) (hkeys : (profile.read_points.map dnpKey).Nodup)
    {p : ReadPointConfig} (hp : p ∈ profile.read_points) :
    configuredObject config p = some (dnp3ObjectGroup p.type, dnp3StaticVariationNumber p.type) := by
  unfold configuredObject
  cases hb : publishesAsDnp3Binary p.type with
  | true =>
    rw [if_pos rfl, configured_binary h ⟨p, hp, by simp [dnpKey, hb]⟩]
    simp [binaryGroupVariation, dnp3ObjectGroup, dnp3StaticVariationNumber, hb]
  | false =>
    have hunique : ∀ q ∈ profile.read_points, dnpKey q = dnpKey p → q = p :=
      fun q hq hk => List.inj_on_of_nodup_map hkeys hq hp hk
    rw [if_neg Bool.false_ne_true, configured_analog h (getLast?_analogAt hp hb hunique), Option.map_some,
      groupVariation_staticVariationForType hb]

/-- **Coverage.** -/
theorem database_coverage {fuel : Nat} {profile : ProfileConfig} {config : DatabaseConfig}
    (h : configureDatabase fuel profile = some config) : DatabaseCoverage profile config := by
  obtain ⟨filled, hfilled, hconfig⟩ := configureDatabase_filled h
  obtain ⟨hanalog, hbinary⟩ := foldl_configurePoint_status profile.read_points filled
  rw [← hconfig] at hanalog hbinary
  refine ⟨fun i => ?_, fun i => ?_, configured_binary_isSome h, fun i => ?_, fun i c hc => ?_,
    fun p hp state earlier => ?_, fun hkeys p hp => configuredObject_eq h hkeys hp⟩
  · rcases configured_analog_cases h i with ⟨hi, hc⟩ | ⟨hi, hc⟩ <;> rw [hc] <;> simp [hi]
  · rw [hanalog, hfilled.analog_output_status]
  · rw [hbinary, hfilled.binary_output_status]
  · rcases configured_analog_cases h i with ⟨hi, hc'⟩ | ⟨hi, hc'⟩
    · obtain rfl : _ = c := Option.some.inj (hc'.symm.trans hc)
      rfl
    · rw [hc'] at hc
      cases hc
  · obtain ⟨u, hu⟩ := configured_entry h hp
    rw [key_updateDNP3Values, Database.entry_update, if_pos (key_updateDNP3Values p state), Database.entry_execute, hu]
    exact ⟨rfl, rfl⟩

theorem database_coverage_shared : ∃ config, configureDatabase 4 profileShared = some config ∧
    DatabaseCoverage profileShared config := by
  obtain ⟨config, hconfig⟩ : ∃ config, configureDatabase 4 profileShared = some config := ⟨_, rfl⟩
  exact ⟨config, hconfig, database_coverage hconfig⟩

end Gateway
