import ModbusGateway.StaticReads

/-!
# Events against static reads

`ConfigureDatabase` sets the static variation of an analog point and leaves its event variation at
`AnalogConfig()`'s `Group32Var1`, a 32-bit integer. `events_agree_iff`: the events of a point carry what a
static read at the same moment would iff no published value tells the two variations apart; for the
`float32` types only integers in the `int32` range do not.

* `event_static` — an event carries a published measurement, which the table holds at that moment.
* `published_recorded` — with no deadband, every published value is carried by some event.
-/

namespace Gateway

open BinaryFloat (Value binary32)
open Opendnp3

/-! ## Which events a run records -/

/-- An event is of the cell its update addressed. -/
theorem event_update {db : Database} {u : Update} {e : Event Analog EventAnalogVariation}
    (h : RecordedEvent.analog e ∈ (db.update u).2) : ∃ m index cell, u = .analog m index ∧
      db.analog_input index = some cell ∧ cell.event analogSpec m index = some e := by
  cases u with
  | binary m index => simp [Database.update] at h
  | analog m index =>
    simp only [Database.update, StaticDataMap.update_event, List.mem_map, Option.mem_toList,
      RecordedEvent.analog.injEq, exists_eq_right] at h
    obtain ⟨cell, hcell, he⟩ := Option.bind_eq_some_iff.1 h
    exact ⟨m, index, cell, rfl, hcell, he⟩

theorem event_eq_some {cell : StaticDataCell Analog AnalogConfig} {m : Analog} {index : UInt16}
    {e : Event Analog EventAnalogVariation} (h : cell.event analogSpec m index = some e) :
    e.value = m ∧ e.index = index ∧ e.variation = cell.config.evariation := by
  unfold StaticDataCell.event at h
  split at h
  · obtain ⟨ec, -, rfl⟩ := Option.map_eq_some_iff.1 h
    exact ⟨rfl, rfl, rfl⟩
  · cases h

theorem config_update {db : Database} {i : UInt16} (u : Update) :
    ((db.update u).1.analog_input i).map (·.config) = (db.analog_input i).map (·.config) :=
  Database.analog_execute_config [u] i

/-- **An event carries a published measurement**, the one a static read at that moment writes. -/
theorem event_static {db db' : Database} {updates : List Update} {e : Event Analog EventAnalogVariation}
    (h : (.analog e, db') ∈ db.events updates) {c : AnalogConfig}
    (hc : (db.analog_input e.index).map (·.config) = some c) :
    .analog e.value e.index ∈ updates ∧ e.variation = c.evariation ∧
      db'.readAnalog e.index = some (c.svariation.write e.value) := by
  induction updates generalizing db with
  | nil => cases h
  | cons u us ih =>
    rcases List.mem_append.1 h with h | h
    · obtain ⟨e', he', heq⟩ := List.mem_map.1 h
      obtain ⟨rfl, rfl⟩ := Prod.mk.inj heq
      obtain ⟨m, index, cell, rfl, hcell, he⟩ := event_update he'
      obtain ⟨rfl, rfl, hvar⟩ := event_eq_some he
      obtain rfl : cell.config = c := by simpa [hcell] using hc
      refine ⟨List.mem_cons_self, hvar, ?_⟩
      simp [Database.readAnalog, Database.analog_update, hcell, StaticDataCell.detect]
    · obtain ⟨hmem, hvar, hread⟩ := ih h ((config_update u).trans hc)
      exact ⟨List.mem_cons_of_mem u hmem, hvar, hread⟩

/-- With no deadband, what is not an event is the last event over again. -/
theorem eq_of_isEvent_false {q : ℚ} {last : Analog} {c : AnalogConfig} (hd : c.deadband = 0)
    (hlast : last.value.IsFinite) (h : Analog.isEvent last (.ofValue (.finite q)) c = false) :
    last = .ofValue (.finite q) := by
  obtain ⟨v, flags⟩ := last
  unfold Analog.isEvent at h
  split at h
  · cases h
  · rename_i hflags
    obtain rfl : online = flags := by simpa [Analog.ofValue] using hflags
    cases v with
    | finite y =>
      have hxy : q = y := by simpa [Analog.ofValue, hd, sub_eq_zero] using h
      rw [hxy]
      rfl
    | inf negative => cases hlast
    | nan => cases hlast

/-- What the last event of an entry may be before a run: not a value that is published in it later. -/
structure Tracked (db : Database) (i : UInt16) (c : AnalogConfig) (last : Analog) : Prop where
  cell : ∃ value, db.analog_input i = some ⟨value, c, last⟩
  finite : last.value.IsFinite

/-- An update of another entry leaves a tracked one alone. -/
theorem Tracked.frame {db : Database} {i : UInt16} {c : AnalogConfig} {last : Analog} (h : Tracked db i c last)
    {u : Update} (hother : ∀ m, u ≠ .analog m i) : Tracked (db.update u).1 i c last := by
  obtain ⟨⟨value, hcell⟩, hfin⟩ := h
  refine ⟨⟨value, ?_⟩, hfin⟩
  rw [← hcell]
  refine @Database.analog_execute_of_ne db [u] i ?_
  rintro v hv hk
  obtain rfl := List.mem_singleton.1 hv
  cases v with
  | binary m index => simp [Update.key] at hk
  | analog m index =>
    obtain rfl : index = i := by simpa [Update.key] using hk
    exact hother m rfl

/-- A published value becomes the last one: an event carries it, or the last event carried it already. -/
theorem Tracked.publish {db : Database} {i : UInt16} {c : AnalogConfig} {last : Analog} (h : Tracked db i c last)
    (hclass : c.clazz = .class1) (hd : c.deadband = 0) (q : ℚ) :
    Tracked (db.update (.analog (.ofValue (.finite q)) i)).1 i c (.ofValue (.finite q)) ∧
      (.ofValue (.finite q) = last ∨ ∃ e, .analog e ∈ (db.update (.analog (.ofValue (.finite q)) i)).2 ∧
        e.index = i ∧ e.value = .ofValue (.finite q)) := by
  obtain ⟨⟨value, hcell⟩, hfin⟩ := h
  have hstep := @Database.analog_update db (.analog (.ofValue (.finite q)) i) i
  simp only [if_true, hcell, Option.map_some, StaticDataCell.detect] at hstep
  by_cases he : Analog.isEvent last (.ofValue (.finite q)) c = true
  · refine ⟨⟨⟨.ofValue (.finite q), ?_⟩, trivial⟩, .inr ?_⟩
    · rw [hstep]
      simp [analogSpec, he]
    · refine ⟨⟨.ofValue (.finite q), i, .ec1, c.evariation⟩, ?_, rfl, rfl⟩
      simp [Database.update, StaticDataMap.update_event, hcell, StaticDataCell.event, analogSpec, he, hclass,
        convertToEventClass]
  · have hlast := eq_of_isEvent_false hd hfin (by simpa using he)
    refine ⟨⟨⟨.ofValue (.finite q), ?_⟩, trivial⟩, .inl hlast.symm⟩
    rw [hstep]
    simp [analogSpec, hlast]

/-- One update of a tracked entry: it records the measurement, or the last event carried it already. -/
theorem Tracked.update {db : Database} {i : UInt16} {c : AnalogConfig} {last : Analog} (h : Tracked db i c last)
    (hclass : c.clazz = .class1) (hd : c.deadband = 0) {u : Update}
    (hu : ∀ m, u = .analog m i → ∃ q, m = .ofValue (.finite q)) :
    ∃ last', Tracked (db.update u).1 i c last' ∧
      (last' = last ∨ ∃ e, .analog e ∈ (db.update u).2 ∧ e.index = i ∧ e.value = last') ∧
      ∀ m, u = .analog m i → last' = m := by
  by_cases hfor : ∃ m, u = .analog m i
  · obtain ⟨m, rfl⟩ := hfor
    obtain ⟨q, rfl⟩ := hu m rfl
    obtain ⟨htracked, hcarried⟩ := h.publish hclass hd q
    refine ⟨.ofValue (.finite q), htracked, hcarried, ?_⟩
    intro m hm
    simpa using hm
  · have hother : ∀ m, u ≠ .analog m i := fun m hm => hfor ⟨m, hm⟩
    exact ⟨last, h.frame hother, .inl rfl, fun m hm => absurd hm (hother m)⟩

/-- **Every published value is carried by an event**, or was by the last one before. -/
theorem published_recorded {db : Database} {i : UInt16} {c : AnalogConfig} {last : Analog} (h : Tracked db i c last)
    (hclass : c.clazz = .class1) (hd : c.deadband = 0) {updates : List Update}
    (hu : ∀ m, .analog m i ∈ updates → ∃ q, m = .ofValue (.finite q)) {m : Analog} (hm : .analog m i ∈ updates) :
    m = last ∨ ∃ e db', (.analog e, db') ∈ db.events updates ∧ e.index = i ∧ e.value = m := by
  induction updates generalizing db last with
  | nil => cases hm
  | cons u us ih =>
    obtain ⟨last', htrack, hlast', hmeas⟩ := h.update hclass hd fun m hm => hu m (hm ▸ List.mem_cons_self)
    -- an event of this update is in the list, with the database it leaves
    have hhead : last' = last ∨ ∃ e db', (.analog e, db') ∈ db.events (u :: us) ∧ e.index = i ∧ e.value = last' := by
      refine hlast'.imp_right ?_
      rintro ⟨e, he, hi, hv⟩
      exact ⟨e, (db.update u).1, List.mem_append_left _ (List.mem_map_of_mem he), hi, hv⟩
    rcases List.mem_cons.1 hm with hm | hm
    · exact hmeas m hm.symm ▸ hhead
    · rcases ih htrack (fun m hm => hu m (List.mem_cons_of_mem u hm)) hm with rfl | ⟨e, db', he, hi, hv⟩
      · exact hhead
      · exact .inr ⟨e, db', List.mem_append_right _ he, hi, hv⟩

/-! ## The two variations of a point -/

/-- The published values on which the event variation and the static one of a type agree. -/
def EventCovers (type : ReadValueType) (q : ℚ) : Prop :=
  match staticVariationForType type with
  | .group30Var1 => True
  | .group30Var2 => -32769 < q ∧ q < 32768
  | .group30Var5 => ∃ z : Int, q = z ∧ -2147483648 ≤ z ∧ z ≤ 2147483647

/-- An integer encoder truncates and clamps. -/
theorem downSampling_value {lo hi : Int} (hlo : lo ≤ 0) (hhi : 0 ≤ hi) (q : ℚ) :
    (downSampling lo hi (.finite q)).1 = .finite (max lo (min hi (Rounding.truncate q)) : Int) := by
  simp only [downSampling]
  split
  · rename_i h
    have ht : hi ≤ Rounding.truncate q := Rounding.le_truncate h.le
    rw [show max lo (min hi (Rounding.truncate q)) = hi by omega]
  · rename_i hq
    have ht : Rounding.truncate q ≤ hi := Rounding.truncate_le (not_lt.1 hq)
    split
    · rename_i h
      have ht' : Rounding.truncate q ≤ lo := Rounding.truncate_le h.le
      rw [show max lo (min hi (Rounding.truncate q)) = lo by omega]
    · rename_i h
      have ht' : lo ≤ Rounding.truncate q := Rounding.le_truncate (not_lt.1 h)
      rw [show max lo (min hi (Rounding.truncate q)) = Rounding.truncate q by omega]

theorem int16_eq_int32_iff (q : ℚ) :
    (int16Target (.finite q)).1 = (int32Target (.finite q)).1 ↔ -32769 < q ∧ q < 32768 := by
  have hlo := Rounding.le_truncate_iff (K := ℚ) (z := -32768) (by decide) (x := q)
  have hhi := Rounding.truncate_le_iff (K := ℚ) (z := 32767) (by decide) (x := q)
  norm_num at hlo hhi
  rw [int16Target, int32Target, downSampling_value (by decide) (by decide), downSampling_value (by decide) (by decide),
    ← hlo, ← hhi, Value.finite.injEq, Int.cast_inj]
  omega

theorem float_eq_int32_iff {bits : Nat} {q : ℚ} (hbits : binary32.decode bits = .finite q) :
    (downSamplingFloat (.finite q)).1 = (int32Target (.finite q)).1 ↔
      ∃ z : Int, q = z ∧ -2147483648 ≤ z ∧ z ≤ 2147483647 := by
  rw [downSamplingFloat_decode hbits, int32Target, downSampling_value (by decide) (by decide), Value.finite.injEq]
  constructor
  · intro h
    exact ⟨_, h, by omega, by omega⟩
  · rintro ⟨z, rfl, h1, h2⟩
    rw [Rounding.truncate_intCast, show max (-2147483648) (min 2147483647 z) = z by omega]

theorem variations_agree_iff {type : ReadValueType} {q : ℚ}
    (hfloat : staticVariationForType type = .group30Var5 → ∃ bits, binary32.decode bits = .finite q) :
    ((staticVariationForType type).write (.ofValue (.finite q))).value =
      (EventAnalogVariation.group32Var1.write (.ofValue (.finite q))).value ↔ EventCovers type q := by
  unfold EventCovers
  cases hv : staticVariationForType type with
  | group30Var1 => exact iff_of_true rfl trivial
  | group30Var2 => exact int16_eq_int32_iff q
  | group30Var5 =>
    obtain ⟨bits, hbits⟩ := hfloat hv
    exact float_eq_int32_iff hbits

/-! ## Runs of publications -/

/-- The event carries what a static read right after it does. -/
def Agrees (e : Event Analog EventAnalogVariation) (db : Database) : Prop :=
  (db.readAnalog e.index).map (·.value) = some (e.variation.write e.value).value

/-- The updates of a run of publications, each by the poller of some point. -/
def publications (run : List (ReadPointConfig × ReadPointState)) : List Update :=
  run.map fun x => updateDNP3Values x.1 x.2

/-- An update of a register point's entry is by that point. -/
theorem mem_publications {points : List ReadPointConfig} (hkeys : (points.map dnpKey).Nodup) {point : ReadPointConfig}
    (hp : point ∈ points) (ha : publishesAsDnp3Binary point.type = false)
    {run : List (ReadPointConfig × ReadPointState)} (hrun : ∀ x ∈ run, x.1 ∈ points) {m : Analog} :
    .analog m point.dnp3_analog_index ∈ publications run ↔
      ∃ x ∈ run, x.1 = point ∧ m = .ofValue (valueToPublish x.2) := by
  unfold publications
  rw [List.mem_map]
  constructor
  · rintro ⟨x, hx, hu⟩
    have hk : dnpKey x.1 = dnpKey point := by
      rw [← key_updateDNP3Values x.1 x.2, hu]
      simp [Update.key, dnpKey, ha]
    have hxp : x.1 = point := List.inj_on_of_nodup_map hkeys (hrun x hx) hp hk
    refine ⟨x, hx, hxp, ?_⟩
    rw [updateDNP3Values, valueUpdate, hxp, ha] at hu
    simpa using hu.symm
  · rintro ⟨x, hx, hxp, rfl⟩
    exact ⟨x, hx, by simp [updateDNP3Values, valueUpdate, hxp, ha]⟩

/-- **Events agree with static reads** of a register point, over a whole run of publications, iff every
value published for it is one `EventCovers`. -/
theorem events_agree_iff {fuel : Nat} {profile : ProfileConfig} {config : DatabaseConfig}
    (hconfig : configureDatabase fuel profile = some config) (hkeys : (profile.read_points.map dnpKey).Nodup)
    {point : ReadPointConfig} (hp : point ∈ profile.read_points) (ha : publishesAsDnp3Binary point.type = false)
    {run : List (ReadPointConfig × ReadPointState)} (hrun : ∀ x ∈ run, x.1 ∈ profile.read_points)
    (hfinite : ∀ x ∈ run, x.1 = point → ∃ q, valueToPublish x.2 = .finite q ∧
      (staticVariationForType point.type = .group30Var5 → ∃ bits, binary32.decode bits = .finite q)) :
    (∀ e db, (.analog e, db) ∈ (Database.ofConfig config).events (publications run) →
      e.index = point.dnp3_analog_index → Agrees e db) ↔
    ∀ x ∈ run, x.1 = point → ∀ q, valueToPublish x.2 = .finite q → EventCovers point.type q := by
  have hunique : ∀ other ∈ profile.read_points, dnpKey other = dnpKey point → other = point :=
    fun other h hk => List.inj_on_of_nodup_map hkeys h hp hk
  have hc := configured_analog hconfig (getLast?_analogAt hp ha hunique)
  have hcell : (Database.ofConfig config).analog_input point.dnp3_analog_index =
      some ⟨.empty, { svariation := staticVariationForType point.type }, .empty⟩ := by
    simp [Database.ofConfig, StaticDataMap.ofConfig, hc, analogSpec]
  have hmem := @mem_publications _ hkeys _ hp ha _ hrun
  constructor
  · intro h x hx hxp q hq
    obtain ⟨q', hq', hfloat⟩ := hfinite x hx hxp
    obtain rfl : q = q' := by simpa [hq] using hq'
    -- the value is carried by some event, as the entry starts with other flags
    rcases published_recorded (m := .ofValue (.finite q)) ⟨⟨_, hcell⟩, trivial⟩ rfl rfl
      (fun m hm => by
        obtain ⟨y, hy, hyp, rfl⟩ := hmem.1 hm
        obtain ⟨q', hq', -⟩ := hfinite y hy hyp
        exact ⟨q', by rw [hq']⟩)
      (hmem.2 ⟨x, hx, hxp, by rw [hq]⟩) with habsurd | ⟨e, db, he, hi, hv⟩
    · cases habsurd
    · obtain ⟨-, hvar, hread⟩ := event_static he (c := { svariation := staticVariationForType point.type })
        (by rw [hi, hcell]; rfl)
      have hagree := h e db he hi
      rw [Agrees, hread, hvar, hv] at hagree
      exact (variations_agree_iff hfloat).1 (by simpa using hagree)
  · intro h e db he hi
    obtain ⟨hpub, hvar, hread⟩ := event_static he (c := { svariation := staticVariationForType point.type })
      (by rw [hi, hcell]; rfl)
    rw [hi] at hpub
    obtain ⟨x, hx, hxp, hv⟩ := hmem.1 hpub
    obtain ⟨q, hq, hfloat⟩ := hfinite x hx hxp
    rw [Agrees, hread, hvar, hv, hq, Option.map_some]
    exact congrArg some ((variations_agree_iff hfloat).2 (h x hx hxp q hq))

/-- A meter with one `float32` holding register. -/
def pointFloat : ReadPointConfig :=
  { ip := str "10.0.0.1", port := 502, slave_id := 1, type := .holdingFloat32, address := 0, count := 2
    dnp3_analog_index := 0, dnp3_status_index := 0, description := str "A" }

def profileFloat : ProfileConfig := { name := [], read_points := [pointFloat] }

/-- The state after a poll that read `q`. -/
def polled (q : ℚ) : ReadPointState := pollState (some (.finite q)) 0 (initialState 0)

theorem events_agree_seven : ∃ config, configureDatabase 2 profileFloat = some config ∧
    ∀ e db, (.analog e, db) ∈ (Database.ofConfig config).events (publications [(pointFloat, polled 7)]) →
      e.index = pointFloat.dnp3_analog_index → Agrees e db := by
  obtain ⟨config, hconfig⟩ : ∃ config, configureDatabase 2 profileFloat = some config := ⟨_, rfl⟩
  refine ⟨config, hconfig, (events_agree_iff hconfig (List.nodup_singleton _) (List.mem_singleton_self pointFloat) rfl
    ?_ ?_).2 ?_⟩
  · rintro x hx
    obtain rfl := List.mem_singleton.1 hx
    exact List.mem_singleton_self pointFloat
  · rintro x hx -
    obtain rfl := List.mem_singleton.1 hx
    exact ⟨7, rfl, fun _ => ⟨0x40E00000, by decide +kernel⟩⟩
  · rintro x hx - q hq
    obtain rfl := List.mem_singleton.1 hx
    obtain rfl : 7 = q := by simpa [polled] using hq
    exact ⟨7, by norm_num, by decide, by decide⟩

/-- The float 1.5 reaches a static read as 1.5 and an event as 1. -/
theorem event_truncated : ∃ config, configureDatabase 2 profileFloat = some config ∧
    ∃ e db, (.analog e, db) ∈ (Database.ofConfig config).events (publications [(pointFloat, polled (3 / 2))]) ∧
      e.index = pointFloat.dnp3_analog_index ∧
      (db.readAnalog e.index).map (·.value) = some (.finite (3 / 2)) ∧
      (e.variation.write e.value).value = .finite 1 ∧ ¬Agrees e db := by
  obtain ⟨config, hconfig⟩ : ∃ config, configureDatabase 2 profileFloat = some config := ⟨_, rfl⟩
  have hc : config.analog_input 0 = some { svariation := .group30Var5 } :=
    @configured_analog _ _ _ hconfig 0 pointFloat rfl
  have hcell : (Database.ofConfig config).analog_input 0 = some ⟨.empty, { svariation := .group30Var5 }, .empty⟩ := by
    simp [Database.ofConfig, StaticDataMap.ofConfig, hc, analogSpec]
  have hevent : Analog.isEvent .empty (.ofValue (.finite (3 / 2))) { svariation := .group30Var5 } = true := by decide
  have hbits : binary32.decode 0x3FC00000 = .finite (3 / 2) := by decide +kernel
  have hread : StaticAnalogVariation.group30Var5.write (.ofValue (.finite (3 / 2))) = ⟨.finite (3 / 2), online⟩ := by
    rw [StaticAnalogVariation.write, convertQVRangeCheck, Analog.ofValue, downSamplingFloat_decode hbits]
    rfl
  have hwritten : (EventAnalogVariation.group32Var1.write (.ofValue (.finite (3 / 2)))).value = .finite 1 := by
    decide +kernel
  have hstep : (((Database.ofConfig config).update (updateDNP3Values pointFloat (polled (3 / 2)))).1.readAnalog 0).map
      (·.value) = some (.finite (3 / 2)) := by
    have hu : updateDNP3Values pointFloat (polled (3 / 2)) = .analog (.ofValue (.finite (3 / 2))) 0 := rfl
    simp [hu, Database.readAnalog, Database.analog_update, hcell, StaticDataCell.detect, hread]
  refine ⟨config, hconfig, ⟨.ofValue (.finite (3 / 2)), 0, .ec1, .group32Var1⟩, _,
    List.mem_append_left _ (List.mem_map_of_mem ?_), rfl, hstep, hwritten, ?_⟩
  · show _ ∈ ((Database.ofConfig config).update (.analog (.ofValue (.finite (3 / 2))) 0)).2
    simp [Database.update, StaticDataMap.update_event, hcell, StaticDataCell.event, analogSpec, hevent,
      convertToEventClass]
  · rw [Agrees, hstep, hwritten]
    decide +kernel

end Gateway
