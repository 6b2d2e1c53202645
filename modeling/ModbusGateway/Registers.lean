import ModbusGateway.Config

/-!
# Register words and values (`Modbus.cpp:58-222`)

`decodePoint` is the `switch` of `ReadModbusPoint` on the words or the bit a device returned;
`buildHoldingRegisterWritePayload` makes the words of a write. For the four integer types the decoder
undoes the encoder: what a write of `value` leaves in the registers is read as `value` rounded to an
integer, half away from zero (`payload_integer`); for the float type, rounded to a `float` (`payload_float`).

`std::llround` of a double too large for a `long long` is left open by the language; `Llround` is any
implementation that answers with one of the two extremes there, as the ARM and x86 ones do.
-/

namespace Gateway

open BinaryFloat (Value binary32)

/-! ## Reading -/

/-- `tab_reg` and `tab_bit` after a successful read. -/
structure ReadBuffer where
  reg0 : UInt16 := 0
  reg1 : UInt16 := 0
  bit : UInt8 := 0

/-- `(tab_reg[0] << 16) | tab_reg[1]` -/
def raw32 (hi lo : UInt16) : UInt32 := (hi.toUInt32 <<< 16) ||| lo.toUInt32

/-- The value `ReadModbusPoint` stores in `value_out`. -/
def decodePoint (type : ReadValueType) (tab : ReadBuffer) : Value :=
  match type with
  | .coilStatusBool | .inputStatusBool => .finite (if tab.bit ≠ 0 then 1 else 0)
  | .holdingInt16 | .inputInt16 => .finite (tab.reg0.toInt16.toInt : ℚ)
  | .holdingUInt16 | .inputUInt16 => .finite (tab.reg0.toNat : ℚ)
  | .holdingInt32 | .inputInt32 => .finite ((raw32 tab.reg0 tab.reg1).toInt32.toInt : ℚ)
  | .holdingUInt32 | .inputUInt32 => .finite ((raw32 tab.reg0 tab.reg1).toNat : ℚ)
  | .holdingFloat32 | .inputFloat32 => binary32.decode (raw32 tab.reg0 tab.reg1).toNat

/-! ## Writing -/

inductive CommandStatus where
  | success
  | timeout
  | formatError
  | notSupported
  | outOfRange
  | downstreamFail
deriving DecidableEq, Repr

def llongMin : Int := -9223372036854775808
def llongMax : Int := 9223372036854775807

/-- **`std::llround`** -/
structure Llround where
  run : Value → Int
  exact : ∀ q : ℚ, llongMin ≤ Rounding.roundHalfAway q → Rounding.roundHalfAway q ≤ llongMax →
    run (.finite q) = Rounding.roundHalfAway q
  overflow : ∀ q : ℚ, ¬(llongMin ≤ Rounding.roundHalfAway q ∧ Rounding.roundHalfAway q ≤ llongMax) →
    run (.finite q) = llongMin ∨ run (.finite q) = llongMax

def saturateLlong (v : Int) : Int := if v < llongMin then llongMin else if llongMax < v then llongMax else v

theorem saturateLlong_of_fits {v : Int} (h1 : llongMin ≤ v) (h2 : v ≤ llongMax) : saturateLlong v = v := by
  rw [saturateLlong, if_neg (by omega), if_neg (by omega)]

theorem saturateLlong_of_not_fits {v : Int} (h : ¬(llongMin ≤ v ∧ v ≤ llongMax)) :
    saturateLlong v = llongMin ∨ saturateLlong v = llongMax := by
  unfold saturateLlong
  split
  · exact .inl rfl
  · rw [if_pos (by omega)]
    exact .inr rfl

/-- The saturating implementation (AArch64 `fcvtas`). -/
def llroundSaturating : Llround where
  run
    | .finite q => saturateLlong (Rounding.roundHalfAway q)
    | .inf negative => if negative then llongMin else llongMax
    | .nan => 0
  exact _ h1 h2 := saturateLlong_of_fits h1 h2
  overflow _ h := saturateLlong_of_not_fits h

/-- `static_cast<uint16_t>((raw >> 16) & 0xFFFF)` -/
def highWord (raw : UInt32) : UInt16 := ((raw >>> 16) &&& 0xFFFF).toUInt16

/-- `static_cast<uint16_t>(raw & 0xFFFF)` -/
def lowWord (raw : UInt32) : UInt16 := (raw &&& 0xFFFF).toUInt16

/-- The bits of `static_cast<float>(value)`. A finite value is a rational, so `-0.0` is written as `+0.0`. -/
def floatBits : Value → UInt32
  | .finite q => UInt32.ofNat (binary32.encode q)
  | .inf negative => UInt32.ofNat (binary32.infBits + if negative then 2147483648 else 0)
  | .nan => 0x7FC00000

/-- The shape of the four integer branches: out of `[lo, hi]` is refused with a text, else `words` sends. -/
def integerPayload (lo hi : Int) (error_text : Bytes) (words : Int → List UInt16) (v : Int) :
    Except (CommandStatus × Bytes) (List UInt16) :=
  if v < lo ∨ hi < v then .error (.outOfRange, error_text) else .ok (words v)

def oneWord (v : Int) : List UInt16 := [UInt16.ofInt v]

def twoWords (v : Int) : List UInt16 := [highWord (UInt32.ofInt v), lowWord (UInt32.ofInt v)]

/-- **`BuildHoldingRegisterWritePayload`** (`Modbus.cpp:138`): the registers to write, `register_count`
of them, or `error_status` and `error_text`. -/
def buildHoldingRegisterWritePayload (llround : Llround) (cfg : CommandPointConfig) (value : Value) :
    Except (CommandStatus × Bytes) (List UInt16) :=
  if ¬isHoldingRegisterType cfg.value_type then
    .error (.notSupported, str "O ponto de comando nao e Holding Register.")
  else match cfg.value_type with
    | .holdingInt16 => integerPayload (-32768) 32767 (str "Valor fora da faixa int16.") oneWord (llround.run value)
    | .holdingUInt16 => integerPayload 0 65535 (str "Valor fora da faixa uint16.") oneWord (llround.run value)
    | .holdingInt32 =>
      integerPayload (-2147483648) 2147483647 (str "Valor fora da faixa int32.") twoWords (llround.run value)
    | .holdingUInt32 => integerPayload 0 4294967295 (str "Valor fora da faixa uint32.") twoWords (llround.run value)
    | .holdingFloat32 => .ok [highWord (floatBits value), lowWord (floatBits value)]
    | _ => .error (.notSupported, str "Tipo de dado nao suportado para escrita Holding Register.")

/-! ## Words -/

theorem toNat_raw32 (hi lo : UInt16) : (raw32 hi lo).toNat = hi.toNat * 65536 + lo.toNat := by
  have h1 := hi.toNat_lt
  have h2 := lo.toNat_lt
  unfold raw32
  simp only [UInt32.toNat_or, UInt32.toNat_shiftLeft, UInt16.toNat_toUInt32, UInt32.reduceToNat, Nat.reduceMod]
  rw [Nat.mod_eq_of_lt (by rw [Nat.shiftLeft_eq]; omega), ← Nat.shiftLeft_add_eq_or_of_lt (by omega), Nat.shiftLeft_eq]

theorem toNat_highWord (raw : UInt32) : (highWord raw).toNat = raw.toNat / 65536 := by
  have h := raw.toNat_lt
  simp [highWord, Nat.shiftRight_eq_div_pow]
  rw [Nat.and_two_pow_sub_one_eq_mod _ 16]
  omega

theorem toNat_lowWord (raw : UInt32) : (lowWord raw).toNat = raw.toNat % 65536 := by
  have h := raw.toNat_lt
  simp [lowWord]
  rw [Nat.and_two_pow_sub_one_eq_mod _ 16]
  omega

/-- The two words of a write are read back as the number they were cut from. -/
theorem raw32_words (raw : UInt32) : raw32 (highWord raw) (lowWord raw) = raw := by
  apply UInt32.toNat_inj.1
  rw [toNat_raw32, toNat_highWord, toNat_lowWord]
  omega

theorem toInt_toInt16 (r : UInt16) :
    r.toInt16.toInt = if r.toNat < 32768 then (r.toNat : Int) else r.toNat - 65536 := by
  have h := r.toNat_lt
  have hb : r.toInt16.toInt = r.toBitVec.toInt := rfl
  rw [hb, BitVec.toInt_eq_toNat_cond]
  simp only [UInt16.toNat_toBitVec]
  omega

theorem toInt_toInt32 (r : UInt32) :
    r.toInt32.toInt = if r.toNat < 2147483648 then (r.toNat : Int) else r.toNat - 4294967296 := by
  have h := r.toNat_lt
  have hb : r.toInt32.toInt = r.toBitVec.toInt := rfl
  rw [hb, BitVec.toInt_eq_toNat_cond]
  simp only [UInt32.toNat_toBitVec]
  omega

theorem toNat_ofInt16 (v : Int) : ((UInt16.ofInt v).toNat : Int) = v % 65536 := by
  simp [UInt16.ofInt]
  omega

theorem toNat_ofInt32 (v : Int) : ((UInt32.ofInt v).toNat : Int) = v % 4294967296 := by
  simp [UInt32.ofInt]
  omega

/-! ## What a write leaves is what a read gives -/

/-- The integer range of a type that is written through `llround`. -/
def integerRange : ReadValueType → Option (Int × Int)
  | .holdingInt16 => some (-32768, 32767)
  | .holdingUInt16 => some (0, 65535)
  | .holdingInt32 => some (-2147483648, 2147483647)
  | .holdingUInt32 => some (0, 4294967295)
  | _ => none

/-- The registers of a device after the words were written to them, as a read of the point gets them. -/
def bufferOf (words : List UInt16) : ReadBuffer := { reg0 := words.getD 0 0, reg1 := words.getD 1 0 }

theorem decode_oneWord_int16 {v : Int} (h1 : -32768 ≤ v) (h2 : v ≤ 32767) :
    decodePoint .holdingInt16 (bufferOf (oneWord v)) = .finite (v : ℚ) := by
  have hv := toNat_ofInt16 v
  have h : (UInt16.ofInt v).toInt16.toInt = v := by rw [toInt_toInt16]; omega
  simp [decodePoint, bufferOf, oneWord, h]

theorem decode_oneWord_uint16 {v : Int} (h1 : 0 ≤ v) (h2 : v ≤ 65535) :
    decodePoint .holdingUInt16 (bufferOf (oneWord v)) = .finite (v : ℚ) := by
  have hv := toNat_ofInt16 v
  have h : ((UInt16.ofInt v).toNat : Int) = v := by omega
  have hq : ((UInt16.ofInt v).toNat : ℚ) = (v : ℚ) := by exact_mod_cast h
  simp [decodePoint, bufferOf, oneWord, hq]

theorem decode_twoWords_int32 {v : Int} (h1 : -2147483648 ≤ v) (h2 : v ≤ 2147483647) :
    decodePoint .holdingInt32 (bufferOf (twoWords v)) = .finite (v : ℚ) := by
  have hv := toNat_ofInt32 v
  have h : (UInt32.ofInt v).toInt32.toInt = v := by rw [toInt_toInt32]; omega
  simp [decodePoint, bufferOf, twoWords, raw32_words, h]

theorem decode_twoWords_uint32 {v : Int} (h1 : 0 ≤ v) (h2 : v ≤ 4294967295) :
    decodePoint .holdingUInt32 (bufferOf (twoWords v)) = .finite (v : ℚ) := by
  have hv := toNat_ofInt32 v
  have h : ((UInt32.ofInt v).toNat : Int) = v := by omega
  have hq : ((UInt32.ofInt v).toNat : ℚ) = (v : ℚ) := by exact_mod_cast h
  simp [decodePoint, bufferOf, twoWords, raw32_words, hq]

/-- `llround` against a range that fits in a `long long`: the answer is outside iff the exact rounding is. -/
theorem llround_range (llround : Llround) {q : ℚ} {lo hi : Int} (hlo : llongMin < lo) (hhi : hi < llongMax) :
    (llround.run (.finite q) < lo ∨ hi < llround.run (.finite q) ↔
      Rounding.roundHalfAway q < lo ∨ hi < Rounding.roundHalfAway q) ∧
    (lo ≤ Rounding.roundHalfAway q → Rounding.roundHalfAway q ≤ hi →
      llround.run (.finite q) = Rounding.roundHalfAway q) := by
  by_cases hfit : llongMin ≤ Rounding.roundHalfAway q ∧ Rounding.roundHalfAway q ≤ llongMax
  · rw [llround.exact q hfit.1 hfit.2]
    exact ⟨Iff.rfl, fun _ _ => rfl⟩
  · rcases llround.overflow q hfit with h | h <;> rw [h] <;> constructor <;> omega

theorem integerRange_fits {type : ReadValueType} {lo hi : Int} (hr : integerRange type = some (lo, hi)) :
    llongMin < lo ∧ hi < llongMax := by
  cases type <;> simp [integerRange, llongMin, llongMax] at hr ⊢ <;> omega

/-- Each of the four branches is `integerPayload` on its range, with words that its decoder reads back. -/
theorem payload_of_range (llround : Llround) {cfg : CommandPointConfig} {lo hi : Int}
    (hr : integerRange cfg.value_type = some (lo, hi)) (value : Value) : ∃ text words,
      buildHoldingRegisterWritePayload llround cfg value = integerPayload lo hi text words (llround.run value) ∧
      (∀ v, ((words v).length : Int) = (registerCountForType cfg.value_type).toInt) ∧
      ∀ v, lo ≤ v → v ≤ hi → decodePoint cfg.value_type (bufferOf (words v)) = .finite (v : ℚ) := by
  unfold buildHoldingRegisterWritePayload
  cases ht : cfg.value_type <;> rw [ht] at hr <;> simp only [integerRange, reduceCtorEq, Option.some.injEq,
    Prod.mk.injEq] at hr <;> obtain ⟨rfl, rfl⟩ := hr
  · exact ⟨_, oneWord, rfl, fun _ => rfl, fun _ => decode_oneWord_int16⟩
  · exact ⟨_, oneWord, rfl, fun _ => rfl, fun _ => decode_oneWord_uint16⟩
  · exact ⟨_, twoWords, rfl, fun _ => rfl, fun _ => decode_twoWords_int32⟩
  · exact ⟨_, twoWords, rfl, fun _ => rfl, fun _ => decode_twoWords_uint32⟩

/-- **The integer types.** A finite value out of range is refused with `OUT_OF_RANGE`; any other becomes
words that are read back as the value rounded half away from zero. -/
theorem payload_integer (llround : Llround) {cfg : CommandPointConfig} {lo hi : Int}
    (hr : integerRange cfg.value_type = some (lo, hi)) (q : ℚ) :
    (Rounding.roundHalfAway q < lo ∨ hi < Rounding.roundHalfAway q → ∃ text,
      buildHoldingRegisterWritePayload llround cfg (.finite q) = .error (.outOfRange, text)) ∧
    (lo ≤ Rounding.roundHalfAway q → Rounding.roundHalfAway q ≤ hi → ∃ words,
      buildHoldingRegisterWritePayload llround cfg (.finite q) = .ok words ∧
      (words.length : Int) = (registerCountForType cfg.value_type).toInt ∧
      decodePoint cfg.value_type (bufferOf words) = .finite (Rounding.roundHalfAway q : ℚ)) := by
  obtain ⟨text, words, hbuild, hcount, hdecode⟩ := payload_of_range llround hr (.finite q)
  have hfits := integerRange_fits hr
  obtain ⟨hout, hin⟩ := llround_range (q := q) llround hfits.1 hfits.2
  constructor
  · intro h
    exact ⟨text, by rw [hbuild, integerPayload, if_pos (hout.2 h)]⟩
  · intro h1 h2
    have hround := hin h1 h2
    refine ⟨words (Rounding.roundHalfAway q), ?_, hcount _, hdecode _ h1 h2⟩
    rw [hbuild, integerPayload, hround, if_neg (by omega)]

/-- **The float type.** What is read back is the value rounded to a `float`. -/
theorem payload_float (llround : Llround) {cfg : CommandPointConfig} (ht : cfg.value_type = .holdingFloat32) (q : ℚ) :
    ∃ words, buildHoldingRegisterWritePayload llround cfg (.finite q) = .ok words ∧
      (words.length : Int) = (registerCountForType cfg.value_type).toInt ∧
      decodePoint cfg.value_type (bufferOf words) = binary32.decode (binary32.encode q) := by
  refine ⟨[highWord (floatBits (.finite q)), lowWord (floatBits (.finite q))], ?_, ?_, ?_⟩
  · unfold buildHoldingRegisterWritePayload
    rw [ht]
    rfl
  · rw [ht]
    rfl
  · have hlt : binary32.encode q % 4294967296 = binary32.encode q := Nat.mod_eq_of_lt (binary32.encode_lt q)
    rw [ht]
    simp [decodePoint, bufferOf, raw32_words, floatBits, hlt]

end Gateway
