import ModbusGateway.Commands

/-!
# What a command writes of its value (`Modbus.cpp:138-309`)

A written value should be read back as the commanded one rounded to the type of the registers, and a value
beyond the range of the type should not be written.

* `RangeChecked` — that, for one command point and one value.
* `range_checked_iff` — the four integer types keep it for every value. The float type, whose branch has no
  range check, keeps it up to the largest `float` (`infinity_written`).
-/

namespace Gateway

open BinaryFloat (Value binary32)

/-- Some words or bit of the type denote the value. -/
def ReadValueType.Holds (type : ReadValueType) (v : ℚ) : Prop := ∃ tab, decodePoint type tab = .finite v

/-- `q` rounded to a holding type is `v`. -/
structure RoundedTo (type : ReadValueType) (q v : ℚ) : Prop where
  /-- An integer type rounds halves away from zero, the float type as the conversion to `float` does; -/
  converted : Value.finite v = if (integerRange type).isSome then .finite (Rounding.roundHalfAway q)
    else binary32.decode (binary32.encode q)
  /-- the type holds nothing nearer. -/
  nearest : ∀ w, type.Holds w → |v - q| ≤ |w - q|

/-- The values with a rounding in the finite range of a holding type. -/
def InFiniteRange (type : ReadValueType) (q : ℚ) : Prop :=
  match integerRange type with
  | some (lo, hi) => lo ≤ Rounding.roundHalfAway q ∧ Rounding.roundHalfAway q ≤ hi
  | none => |q| ≤ binary32.maxValue

/-- A write of `q` to a command point. -/
structure RangeChecked (llround : Llround) (cfg : CommandPointConfig) (q : ℚ) : Prop where
  /-- All it sends is registers that a read of their type finds `q` in, rounded; -/
  sent_rounded : ∀ (env : Env) past, ∀ request ∈ sent ((writeHoldingRegister llround cfg (.finite q)).run env past).1,
    ∃ regs v, request = cfg.request (registersBody regs) ∧
      (regs.length : Int) = (registerCountForType cfg.value_type).toInt ∧
      decodePoint cfg.value_type (bufferOf regs) = .finite v ∧ RoundedTo cfg.value_type q v
  /-- beyond the range it is refused, and nothing is sent. -/
  refused : ¬InFiniteRange cfg.value_type q → ∀ (env : Env) past,
    ((writeHoldingRegister llround cfg (.finite q)).run env past).2 = .outOfRange ∧
      Silent ((writeHoldingRegister llround cfg (.finite q)).run env past).1

/-- A device that accepts every call. -/
def deviceAccepts : Env := fun _ c =>
  match c with
  | .newTcp _ _ => (some 0, 0)
  | .setSlave _ _ | .connect _ => (0, 0)
  | .writeRegister _ _ _ | .writeBit _ _ _ => (1, 0)
  | .writeRegisters _ _ values => (Int32.ofNat values.length, 0)
  | .readBits _ _ nb | .readInputBits _ _ nb | .readRegisters _ _ nb | .readInputRegisters _ _ nb => ((nb, {}), 0)
  | .setResponseTimeout _ _ _ | .setByteTimeout _ _ _ | .close _ | .free _ | .lock | .unlock | .logLine _ _ => ((), 0)

/-! ## Roundings -/

theorem holds_integer {type : ReadValueType} {range : Int × Int} (hr : integerRange type = some range) {w : ℚ}
    (h : type.Holds w) : ∃ n : Int, w = n := by
  obtain ⟨tab, htab⟩ := h
  cases type <;> cases hr <;> rw [decodePoint, Value.finite.injEq] at htab
  · exact ⟨_, htab.symm⟩
  · exact ⟨tab.reg0.toNat, by rw [← htab]; push_cast; rfl⟩
  · exact ⟨_, htab.symm⟩
  · exact ⟨(raw32 tab.reg0 tab.reg1).toNat, by rw [← htab]; push_cast; rfl⟩

theorem roundedTo_integer {type : ReadValueType} {range : Int × Int} (hr : integerRange type = some range) (q : ℚ) :
    RoundedTo type q (Rounding.roundHalfAway q : ℚ) where
  converted := by simp [hr]
  nearest := by
    intro w hw
    obtain ⟨n, rfl⟩ := holds_integer hr hw
    exact Rounding.abs_roundHalfAway_sub_le q n

theorem roundedTo_float {q : ℚ} (hq : |q| ≤ binary32.maxValue) : ∃ v,
    binary32.decode (binary32.encode q) = .finite v ∧ RoundedTo .holdingFloat32 q v := by
  obtain ⟨v, hv, hnearest⟩ := binary32.decode_encode_nearest hq (by decide)
  refine ⟨v, hv, hv.symm, ?_⟩
  intro w hw
  obtain ⟨tab, htab⟩ := hw
  exact hnearest _ w htab

/-! ## The condition -/

section
variable {llround : Llround} {cfg : CommandPointConfig} {q : ℚ} {regs : List UInt16}

theorem mem_of_sendsOne {request r : Request} {trace : List SessionEvent} (h : SendsOne request trace)
    (hr : r ∈ sent trace) : r = request := by
  rw [h.sent_eq] at hr
  split at hr
  · cases hr
  · exact List.mem_singleton.1 hr

theorem requestsFrom_silent {trace : List SessionEvent} (h : Silent trace) (peers : Peers) :
    requestsFrom peers trace = [] := by
  induction trace generalizing peers with
  | nil => rfl
  | cons e trace ih =>
    obtain ⟨c, r⟩ := e
    obtain ⟨level, scope, rfl⟩ : ∃ level scope, c = .logLine level scope := h _ List.mem_cons_self
    exact ih (fun e he => h e (List.mem_cons_of_mem _ he)) _

theorem sent_silent {trace : List SessionEvent} (h : Silent trace) : sent trace = [] := requestsFrom_silent h _

/-- A payload that is built goes to the device. -/
theorem not_silent_of_ok (h : buildHoldingRegisterWritePayload llround cfg (.finite q) = .ok regs) (env : Env)
    (past : List SessionEvent) : ¬Silent ((writeHoldingRegister llround cfg (.finite q)).run env past).1 := by
  have hlock : ∃ r, ⟨.lock, r⟩ ∈ ((writeHoldingRegister llround cfg (.finite q)).run env past).1 := by
    unfold writeHoldingRegister
    rw [h]
    exact ⟨_, List.mem_cons_of_mem _ List.mem_cons_self⟩
  intro hsilent
  obtain ⟨r, hr⟩ := hlock
  obtain ⟨level, scope, hcall⟩ := hsilent _ hr
  cases hcall

/-- A payload whose words are read back as the rounded value. -/
theorem rangeChecked_of_ok {v : ℚ} (hok : buildHoldingRegisterWritePayload llround cfg (.finite q) = .ok regs)
    (hcount : (regs.length : Int) = (registerCountForType cfg.value_type).toInt)
    (hdecode : decodePoint cfg.value_type (bufferOf regs) = .finite v) (hround : RoundedTo cfg.value_type q v)
    (hin : InFiniteRange cfg.value_type q) : RangeChecked llround cfg q where
  sent_rounded := by
    intro env past request hrequest
    have hsends := ((writeHoldingRegister_ok hok).run env past).sends
    exact ⟨regs, v, mem_of_sendsOne hsends hrequest, hcount, hdecode, hround⟩
  refused hout := absurd hin hout

theorem rangeChecked_integer {lo hi : Int} (hr : integerRange cfg.value_type = some (lo, hi)) (q : ℚ) :
    RangeChecked llround cfg q := by
  obtain ⟨hrefused, hwritten⟩ := payload_integer llround hr q
  have hrange : InFiniteRange cfg.value_type q ↔ lo ≤ Rounding.roundHalfAway q ∧ Rounding.roundHalfAway q ≤ hi := by
    rw [InFiniteRange, hr]
  by_cases hin : lo ≤ Rounding.roundHalfAway q ∧ Rounding.roundHalfAway q ≤ hi
  · obtain ⟨regs, hok, hcount, hdecode⟩ := hwritten hin.1 hin.2
    exact rangeChecked_of_ok hok hcount hdecode (roundedTo_integer hr q) (hrange.2 hin)
  · obtain ⟨text, herror⟩ := hrefused (by omega)
    have hsilent := fun (env : Env) past => (writeHoldingRegister_error herror).run env past
    refine ⟨fun env past r hr => ?_, fun _ => hsilent⟩
    rw [sent_silent (hsilent env past).2] at hr
    cases hr

theorem integerRange_or_float {type : ReadValueType} (h : isHoldingRegisterType type = true) :
    (∃ range, integerRange type = some range) ∨ type = .holdingFloat32 := by
  cases type <;> first | exact .inl ⟨_, rfl⟩ | exact .inr rfl | cases h

/-- **Out-of-range commands never reach the device**, exactly where the type is an integer type or the value
is no larger than the largest `float`. -/
theorem range_checked_iff (h : isHoldingRegisterType cfg.value_type = true) (q : ℚ) :
    RangeChecked llround cfg q ↔ cfg.value_type ≠ .holdingFloat32 ∨ |q| ≤ binary32.maxValue := by
  rcases integerRange_or_float h with ⟨⟨lo, hi⟩, hr⟩ | hfloat
  · refine iff_of_true (rangeChecked_integer hr q) (.inl ?_)
    intro hfloat
    rw [hfloat] at hr
    cases hr
  · obtain ⟨regs, hok, hcount, hdecode⟩ := payload_float llround hfloat q
    have hrange : InFiniteRange cfg.value_type q ↔ |q| ≤ binary32.maxValue := by rw [InFiniteRange, hfloat]; rfl
    have hcond : (cfg.value_type ≠ .holdingFloat32 ∨ |q| ≤ binary32.maxValue) ↔ |q| ≤ binary32.maxValue := by
      simp [hfloat]
    rw [hcond]
    constructor
    · intro hchecked
      by_contra hout
      obtain ⟨-, hsilent⟩ := hchecked.refused (fun hin => hout (hrange.1 hin)) deviceAccepts []
      exact not_silent_of_ok hok deviceAccepts [] hsilent
    · intro hq
      obtain ⟨v, hv, hround⟩ := roundedTo_float hq
      rw [← hfloat] at hround
      exact rangeChecked_of_ok hok hcount (hdecode.trans hv) hround (hrange.2 hq)

/-- A float point, -/
def setPointFloat : CommandPointConfig :=
  { dnp3_index := 3, ip := str "10.0.0.1", port := 502, slave_id := 1, target := .holdingRegister
    modbus_address := 40, value_type := .holdingFloat32, description := str "set-point" }

/-- and an integer point at the same registers. -/
def setPointInt : CommandPointConfig := { setPointFloat with value_type := .holdingInt16 }

theorem range_checked_int16 : RangeChecked llroundSaturating setPointInt 100000 :=
  (range_checked_iff (by decide) 100000).2 (.inl (by decide))

/-- **The infinite set-point.** A commanded `2 ^ 128` is answered with success, and the two words sent to the
device denote an infinity. -/
theorem infinity_written :
    sent ((writeHoldingRegister llroundSaturating setPointFloat (.finite (2 ^ 128))).run deviceAccepts []).1 =
      [setPointFloat.request (.writeRegisters [0x7F80, 0])] ∧
    ((writeHoldingRegister llroundSaturating setPointFloat (.finite (2 ^ 128))).run deviceAccepts []).2 = .success ∧
    decodePoint .holdingFloat32 (bufferOf [0x7F80, 0]) = .inf false ∧
    ¬RangeChecked llroundSaturating setPointFloat (2 ^ 128) := by
  have hsent : sent ((writeHoldingRegister llroundSaturating setPointFloat (.finite (2 ^ 128))).run deviceAccepts []).1 =
      [setPointFloat.request (.writeRegisters [0x7F80, 0])] := by decide +kernel
  refine ⟨hsent, by decide +kernel, by decide +kernel, ?_⟩
  intro hchecked
  have hout : ¬InFiniteRange setPointFloat.value_type (2 ^ 128) := by
    have hlarge : ¬(2 ^ 128 : ℚ) ≤ binary32.maxValue := by decide +kernel
    exact fun hin => hlarge ((le_abs_self _).trans hin)
  have hnone := sent_silent (hchecked.refused hout deviceAccepts []).2
  rw [hsent] at hnone
  cases hnone

end

end Gateway
