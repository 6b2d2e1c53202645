import ModbusGateway.Dnp3
import ModbusGateway.Registers

/-!
# Static reads carry the decoded registers

`ReadModbusPoint` decodes a register, `StaticVariationForType` chooses the variation its index is read in,
and the library clamps to that variation. `static_read_iff`: the three agree on every register content
but those of the unsigned types with the top bit set. `Group30Var2` and `Group30Var1` are signed, so
these are read as the largest signed value with `OVER_RANGE`.
-/

namespace Gateway

open BinaryFloat (Value binary32)
open Opendnp3

/-- The object a master reads for a point. -/
def readPoint (db : Database) (point : ReadPointConfig) : Option WrittenObject :=
  if publishesAsDnp3Binary point.type then db.readBinary point.dnp3_analog_index
  else db.readAnalog point.dnp3_analog_index

/-- The value unchanged, without saturation. -/
def Carries (object : WrittenObject) (v : Value) : Prop := object.value = v ∧ object.flags &&& overRange = 0

instance (object : WrittenObject) (v : Value) : Decidable (Carries object v) := by unfold Carries; infer_instance

/-- The register contents for which the signed static variation of the type has room. -/
def FitsStatic (type : ReadValueType) (tab : ReadBuffer) : Prop :=
  match type with
  | .holdingUInt16 | .inputUInt16 => tab.reg0.toNat ≤ 32767
  | .holdingUInt32 | .inputUInt32 => (raw32 tab.reg0 tab.reg1).toNat ≤ 2147483647
  | _ => True

/-! ## The three encoders -/

theorem downSampling_intCast {lo hi : Int} (z : Int) : downSampling lo hi (.finite z) =
    if hi < z then (.finite hi, true) else if z < lo then (.finite lo, true) else (.finite z, false) := by
  simp [downSampling]

theorem carries_downSampling (lo hi z : Int) :
    Carries (convertQVRangeCheck (downSampling lo hi) (.ofValue (.finite z))) (.finite z) ↔ lo ≤ z ∧ z ≤ hi := by
  have hclear : online &&& overRange = 0 := by decide
  have hset : (overRange ||| online) &&& overRange ≠ 0 := by decide
  unfold Carries convertQVRangeCheck Analog.ofValue
  rw [downSampling_intCast]
  split
  · rename_i h
    simp only [if_true, hset, and_false, false_iff]
    omega
  · split
    · rename_i h
      simp only [if_true, hset, and_false, false_iff]
      omega
    · simp only [Bool.false_eq_true, if_false, UInt8.zero_or, hclear, and_self, true_iff]
      omega

/-- A value a `float` holds passes the `float` encoder. -/
theorem downSamplingFloat_decode {bits : Nat} {q : ℚ} (h : binary32.decode bits = .finite q) :
    downSamplingFloat (.finite q) = (.finite q, false) := by
  obtain ⟨hlo, hhi⟩ := binary32.abs_le_max_of_decode h (by decide)
  rw [downSamplingFloat, if_neg (not_lt.2 hhi), if_neg (not_lt.2 hlo), binary32.decode_encode_decode h]

theorem carries_downSamplingFloat {bits : Nat} {q : ℚ} (h : binary32.decode bits = .finite q) :
    Carries (convertQVRangeCheck downSamplingFloat (.ofValue (.finite q))) (.finite q) := by
  unfold Carries convertQVRangeCheck Analog.ofValue
  rw [downSamplingFloat_decode h]
  refine ⟨rfl, ?_⟩
  show (0 ||| online) &&& overRange = 0
  decide

/-! ## The variation against the decoder -/

theorem carries_int16 {r : UInt16} : Carries (StaticAnalogVariation.group30Var2.write
    (.ofValue (.finite (r.toInt16.toInt : ℚ)))) (.finite (r.toInt16.toInt : ℚ)) := by
  have hr := r.toNat_lt
  refine (carries_downSampling _ _ _).2 ?_
  rw [toInt_toInt16]
  omega

theorem carries_int32 {r : UInt32} : Carries (StaticAnalogVariation.group30Var1.write
    (.ofValue (.finite (r.toInt32.toInt : ℚ)))) (.finite (r.toInt32.toInt : ℚ)) := by
  have hr := r.toNat_lt
  refine (carries_downSampling _ _ _).2 ?_
  rw [toInt_toInt32]
  omega

theorem carries_uint16 {n : Nat} : Carries (StaticAnalogVariation.group30Var2.write
    (.ofValue (.finite (n : ℚ)))) (.finite (n : ℚ)) ↔ n ≤ 32767 := by
  have h := carries_downSampling (-32768) 32767 n
  simp only [Int.cast_natCast] at h
  refine h.trans ?_
  omega

theorem carries_uint32 {n : Nat} : Carries (StaticAnalogVariation.group30Var1.write
    (.ofValue (.finite (n : ℚ)))) (.finite (n : ℚ)) ↔ n ≤ 2147483647 := by
  have h := carries_downSampling (-2147483648) 2147483647 n
  simp only [Int.cast_natCast] at h
  refine h.trans ?_
  omega

/-- **The variation of a register type has room for exactly the contents `FitsStatic` names.** -/
theorem carries_analog {type : ReadValueType} {tab : ReadBuffer} {q : ℚ} (hq : decodePoint type tab = .finite q)
    (ha : publishesAsDnp3Binary type = false) :
    Carries ((staticVariationForType type).write (.ofValue (.finite q))) (.finite q) ↔ FitsStatic type tab := by
  cases type <;> simp only [decodePoint, Value.finite.injEq] at hq <;>
    simp only [staticVariationForType, FitsStatic, iff_true]
  case coilStatusBool => cases ha
  case inputStatusBool => cases ha
  case holdingInt16 => exact hq ▸ carries_int16
  case inputInt16 => exact hq ▸ carries_int16
  case holdingUInt16 => exact hq ▸ carries_uint16
  case inputUInt16 => exact hq ▸ carries_uint16
  case holdingInt32 => exact hq ▸ carries_int32
  case inputInt32 => exact hq ▸ carries_int32
  case holdingUInt32 => exact hq ▸ carries_uint32
  case inputUInt32 => exact hq ▸ carries_uint32
  case holdingFloat32 => exact carries_downSamplingFloat hq
  case inputFloat32 => exact carries_downSamplingFloat hq

theorem decodePoint_bit {type : ReadValueType} (hb : publishesAsDnp3Binary type = true) (tab : ReadBuffer) :
    decodePoint type tab = .finite (if tab.bit ≠ 0 then 1 else 0) := by
  cases type <;> first | rfl | cases hb

theorem carries_binary {type : ReadValueType} {tab : ReadBuffer} {q : ℚ} (hq : decodePoint type tab = .finite q)
    (hb : publishesAsDnp3Binary type = true) :
    Carries (Binary.ofValue (decide (Value.finite q ≠ .finite 0)) online).write (.finite q) := by
  rw [decodePoint_bit hb, Value.finite.injEq] at hq
  split at hq <;> subst hq <;> decide

/-! ## After a publication -/

@[simp] theorem valueToPublish_success (v : Value) (now : Nat) (state : ReadPointState) :
    valueToPublish (pollState (some v) now state) = v := rfl

/-- The analog entry of a point after a publication and updates for other entries. -/
theorem readPoint_analog {db : Database} {point : ReadPointConfig} {c : AnalogConfig}
    (ha : publishesAsDnp3Binary point.type = false)
    (hc : (db.analog_input point.dnp3_analog_index).map (·.config) = some c) (state : ReadPointState)
    {later : List Update} (hlater : ∀ u ∈ later, u.key ≠ dnpKey point) :
    readPoint ((db.update (updateDNP3Values point state)).1.execute later) point =
      some (c.svariation.write (.ofValue (valueToPublish state))) := by
  obtain ⟨cell, hcell, rfl⟩ := Option.map_eq_some_iff.1 hc
  have hk : dnpKey point = (false, point.dnp3_analog_index) := by simp [dnpKey, ha]
  rw [readPoint, ha, if_neg Bool.false_ne_true, Database.readAnalog, Database.analog_execute_of_ne (hk ▸ hlater),
    Database.analog_update, updateDNP3Values, valueUpdate, ha, if_neg Bool.false_ne_true]
  simp [hcell, StaticDataCell.detect]

theorem readPoint_binary {db : Database} {point : ReadPointConfig} (hb : publishesAsDnp3Binary point.type = true)
    (hc : (db.binary_input point.dnp3_analog_index).isSome) (state : ReadPointState)
    {later : List Update} (hlater : ∀ u ∈ later, u.key ≠ dnpKey point) :
    readPoint ((db.update (updateDNP3Values point state)).1.execute later) point =
      some (Binary.ofValue (decide (valueToPublish state ≠ .finite 0)) online).write := by
  obtain ⟨cell, hcell⟩ := Option.isSome_iff_exists.1 hc
  have hk : dnpKey point = (true, point.dnp3_analog_index) := by simp [dnpKey, hb]
  rw [readPoint, if_pos hb, Database.readBinary, Database.binary_execute_of_ne (hk ▸ hlater),
    Database.binary_update, updateDNP3Values, valueUpdate, if_pos hb]
  simp [hcell, StaticDataCell.detect]

/-- **Measurement fidelity.** The poller of a point reads `tab`, which decodes to the finite value `q`, and
publishes; a master that reads the point before its next publication gets exactly `q` iff the
variation has room for the registers. -/
theorem static_read_iff {fuel : Nat} {profile : ProfileConfig} {config : DatabaseConfig}
    (hconfig : configureDatabase fuel profile = some config) {point : ReadPointConfig}
    (hp : point ∈ profile.read_points)
    (hunique : ∀ other ∈ profile.read_points, dnpKey other = dnpKey point → other = point)
    {tab : ReadBuffer} {q : ℚ} (hq : decodePoint point.type tab = .finite q) (state : ReadPointState) (now : Nat)
    (earlier : List Update) {later : List Update} (hlater : ∀ u ∈ later, u.key ≠ dnpKey point) :
    (∃ object,
      readPoint ((((Database.ofConfig config).execute earlier).update
        (updateDNP3Values point (pollState (some (.finite q)) now state))).1.execute later) point = some object ∧
      Carries object (.finite q)) ↔ FitsStatic point.type tab := by
  cases hb : publishesAsDnp3Binary point.type with
  | false =>
    have hc := configured_analog hconfig (getLast?_analogAt hp hb hunique)
    have hcell : (((Database.ofConfig config).execute earlier).analog_input point.dnp3_analog_index).map (·.config) =
        some { svariation := staticVariationForType point.type } := by
      rw [Database.analog_execute_config]
      simp [Database.ofConfig, StaticDataMap.ofConfig, hc]
    simp only [readPoint_analog hb hcell _ hlater, Option.some.injEq, exists_eq_left', valueToPublish_success]
    exact carries_analog hq hb
  | true =>
    have hk : dnpKey point = (true, point.dnp3_analog_index) := by simp [dnpKey, hb]
    have hc := configured_binary hconfig ⟨point, hp, hk⟩
    have hcell : (((Database.ofConfig config).execute earlier).binary_input point.dnp3_analog_index).isSome := by
      rw [Database.binary_execute_isSome]
      simp [Database.ofConfig, StaticDataMap.ofConfig, hc]
    simp only [readPoint_binary hb hcell _ hlater, Option.some.injEq, exists_eq_left', valueToPublish_success]
    have hfits : FitsStatic point.type tab := by
      cases ht : point.type <;> first | trivial | (rw [ht] at hb; cases hb)
    exact iff_of_true (carries_binary hq hb) hfits

/-- A meter with one `uint16` holding register. -/
def pointWord : ReadPointConfig :=
  { ip := str "10.0.0.1", port := 502, slave_id := 1, type := .holdingUInt16, address := 0, count := 1
    dnp3_analog_index := 0, dnp3_status_index := 0, description := str "A" }

def profileWord : ProfileConfig := { name := [], read_points := [pointWord] }

theorem static_read_iff_word : ∃ config, configureDatabase 2 profileWord = some config ∧
    ∃ object, readPoint ((((Database.ofConfig config).execute []).update
      (updateDNP3Values pointWord (pollState (some (.finite 30000)) 0 (initialState 0)))).1.execute []) pointWord =
        some object ∧ Carries object (.finite 30000) := by
  have hq : decodePoint pointWord.type { reg0 := 30000 } = .finite 30000 := by decide +kernel
  obtain ⟨config, hconfig⟩ : ∃ config, configureDatabase 2 profileWord = some config := ⟨_, rfl⟩
  have hfits : FitsStatic pointWord.type { reg0 := 30000 } := by
    show (30000 : UInt16).toNat ≤ 32767
    decide
  exact ⟨config, hconfig, (static_read_iff hconfig List.mem_cons_self (fun other h _ => List.mem_singleton.1 h) hq
    (initialState 0) 0 [] (fun u h => absurd h List.not_mem_nil)).2 hfits⟩

/-- The register word 40000 is decoded as 40000 and read by a master as 32767 with `OVER_RANGE`. -/
theorem word_saturates : decodePoint pointWord.type { reg0 := 40000 } = .finite 40000 ∧
    ∃ config, configureDatabase 2 profileWord = some config ∧
      readPoint ((Database.ofConfig config).update
        (updateDNP3Values pointWord (pollState (some (.finite 40000)) 0 (initialState 0)))).1 pointWord =
          some ⟨.finite 32767, overRange ||| online⟩ ∧
      ¬Carries ⟨.finite 32767, overRange ||| online⟩ (.finite 40000) := by
  exact ⟨by decide +kernel, _, rfl, by decide +kernel, by decide +kernel⟩

end Gateway
