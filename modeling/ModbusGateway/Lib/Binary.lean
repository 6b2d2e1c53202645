import ModbusGateway.Lib.Rounding
import Mathlib.Data.Int.Log
import Mathlib.Data.Rat.Floor
import Mathlib.Algebra.Order.Field.Power

/-!
# Binary floating-point formats

A `Format` has `m` trailing significand bits and `e` exponent bits. A datum without its sign bit is
a natural number `b < 2 ^ (m + e)`; consecutive numbers denote consecutive magnitudes.

* `magnitude f b` — what a finite `b` denotes; `infBits f` is the first one that is not finite.
* `roundMagnitude f q` — the datum nearest to `q ≥ 0`, halves to even, infinity above the range.
* `decode f` / `encode f` — the same with the sign bit on top, as a bit pattern.

`encode` undoes `decode` on every finite datum, so a value the format holds is converted to it
unchanged (`decode_encode_decode`); any other value up to the largest becomes a nearest one
(`decode_encode_nearest`). Zeros of both signs denote the one rational `0`.
-/

namespace BinaryFloat

/-- What a datum denotes. -/
inductive Value where
  | finite (q : ℚ)
  | inf (negative : Bool)
  | nan
deriving DecidableEq, Repr

def Value.IsFinite : Value → Prop
  | .finite _ => True
  | _ => False

instance : DecidablePred Value.IsFinite := fun v => by cases v <;> unfold Value.IsFinite <;> infer_instance

structure Format where
  m : Nat
  e : Nat

namespace Format

variable (f : Format)

def bias : Nat := 2 ^ (f.e - 1) - 1

/-- Exponent of the last significand bit when the (biased, nonzero) exponent field is `E`. -/
def quantum (E : Nat) : ℤ := (E : ℤ) - f.bias - f.m

/-- The first magnitude that is not finite: all exponent bits set. -/
def infBits : Nat := (2 ^ f.e - 1) * 2 ^ f.m

/-- Value of a finite magnitude. -/
def magnitude (b : Nat) : ℚ :=
  if b / 2 ^ f.m = 0 then (b : ℚ) * 2 ^ f.quantum 1
  else ((2 ^ f.m + b % 2 ^ f.m : Nat) : ℚ) * 2 ^ f.quantum (b / 2 ^ f.m)

/-- Exponent field a positive rational is rounded with. -/
def exponentField (q : ℚ) : Nat := max 1 (Int.log 2 q + f.bias).toNat

/-- The magnitude nearest to a nonnegative rational, halves to even. A carry out of the significand
lands in the exponent field, a carry out of the range on infinity. -/
def roundMagnitude (q : ℚ) : Nat :=
  if q = 0 then 0
  else min f.infBits
    ((f.exponentField q - 1) * 2 ^ f.m + (Rounding.roundHalfEven (q / 2 ^ f.quantum (f.exponentField q))).toNat)

/-- Value of a bit pattern. -/
def decode (bits : Nat) : Value :=
  let negative := decide (bits / 2 ^ (f.m + f.e) % 2 = 1)
  let b := bits % 2 ^ (f.m + f.e)
  if b < f.infBits then .finite (if negative then -f.magnitude b else f.magnitude b)
  else if b = f.infBits then .inf negative
  else .nan

/-- Bit pattern of the datum nearest to a rational. -/
def encode (q : ℚ) : Nat :=
  if q < 0 then 2 ^ (f.m + f.e) + f.roundMagnitude (-q) else f.roundMagnitude q

/-! ## Magnitudes are read back -/

theorem magnitude_pos {b : Nat} (h : b ≠ 0) : 0 < f.magnitude b := by
  unfold magnitude
  split
  · have : (0 : ℚ) < b := by exact_mod_cast Nat.pos_of_ne_zero h
    positivity
  · have : (0 : ℚ) < ((2 ^ f.m + b % 2 ^ f.m : Nat) : ℚ) := by
      exact_mod_cast Nat.add_pos_left (Nat.two_pow_pos _) _
    positivity

@[simp] theorem magnitude_zero : f.magnitude 0 = 0 := by simp [magnitude]

theorem magnitude_nonneg (b : Nat) : 0 ≤ f.magnitude b := by
  by_cases h : b = 0
  · simp [h]
  · exact (f.magnitude_pos h).le

/-- An integer times a power of two with bounded integer has the exponent one expects. -/
theorem log_mul_zpow {n k : Nat} (h1 : 2 ^ k ≤ n) (h2 : n < 2 ^ (k + 1)) (z : ℤ) :
    Int.log 2 ((n : ℚ) * 2 ^ z) = k + z := by
  have hn : (0 : ℚ) < n := by exact_mod_cast Nat.lt_of_lt_of_le (Nat.two_pow_pos k) h1
  have hpos : (0 : ℚ) < (n : ℚ) * 2 ^ z := by positivity
  have e1 : (2 : ℚ) ^ ((k : ℤ) + z) = ((2 ^ k : Nat) : ℚ) * 2 ^ z := by
    rw [zpow_add₀ (by norm_num)]; push_cast; rfl
  have e2 : (2 : ℚ) ^ ((k : ℤ) + z + 1) = ((2 ^ (k + 1) : Nat) : ℚ) * 2 ^ z := by
    rw [zpow_add₀ (by norm_num), e1, pow_succ]; push_cast; ring
  have lo : ((2 : Nat) : ℚ) ^ ((k : ℤ) + z) ≤ (n : ℚ) * 2 ^ z := by
    push_cast; rw [e1]; gcongr
  have hi : (n : ℚ) * 2 ^ z < ((2 : Nat) : ℚ) ^ ((k : ℤ) + z + 1) := by
    push_cast; rw [e2]; gcongr
  have l1 := (Int.zpow_le_iff_le_log (by decide) hpos).1 lo
  have l2 := (Int.lt_zpow_iff_log_lt (by decide) hpos).1 hi
  omega

theorem div_zpow_self (n : Nat) (z : ℤ) : (n : ℚ) * 2 ^ z / 2 ^ z = n := by
  have : (2 : ℚ) ^ z ≠ 0 := zpow_ne_zero _ (by norm_num)
  field_simp

/-- Below the range of infinity a magnitude keeps its exponent field. -/
theorem exponentField_magnitude {b : Nat} (h0 : b ≠ 0) :
    f.exponentField (f.magnitude b) = max 1 (b / 2 ^ f.m) := by
  have hp := Nat.two_pow_pos f.m
  unfold exponentField magnitude
  split
  · rename_i hE
    have hb : b < 2 ^ f.m := by
      rcases Nat.div_eq_zero_iff.1 hE with h | h
      · omega
      · exact h
    -- subnormal: the leading bit is below the least normal exponent
    have hlog := log_mul_zpow (Nat.log2_self_le h0) Nat.lt_log2_self (f.quantum 1)
    have hk : b.log2 < f.m := (Nat.log2_lt h0).2 hb
    rw [hlog, hE]
    unfold quantum
    omega
  · rename_i hE
    have hM : b % 2 ^ f.m < 2 ^ f.m := Nat.mod_lt _ hp
    have hlog := log_mul_zpow (n := 2 ^ f.m + b % 2 ^ f.m) (k := f.m) (by omega) (by rw [Nat.pow_succ]; omega)
      (f.quantum (b / 2 ^ f.m))
    rw [hlog]
    unfold quantum
    omega

/-- **Rounding a magnitude of the format gives it back.** -/
theorem roundMagnitude_magnitude {b : Nat} (hb : b < f.infBits) : f.roundMagnitude (f.magnitude b) = b := by
  by_cases h0 : b = 0
  · simp [h0, roundMagnitude]
  have hne : f.magnitude b ≠ 0 := (f.magnitude_pos h0).ne'
  have hsplit := Nat.div_add_mod b (2 ^ f.m)
  rw [roundMagnitude, if_neg hne, f.exponentField_magnitude h0]
  unfold magnitude
  split
  · rename_i hE
    rw [hE, Nat.max_eq_left (by omega), div_zpow_self, ← Int.cast_natCast, Rounding.roundHalfEven_intCast]
    simp only [Nat.sub_self, Nat.zero_mul, Nat.zero_add, Int.toNat_natCast]
    omega
  · rename_i hE
    have hE1 : max 1 (b / 2 ^ f.m) = b / 2 ^ f.m :=
      Nat.max_eq_right (Nat.pos_of_ne_zero hE)
    rw [hE1, div_zpow_self, ← Int.cast_natCast, Rounding.roundHalfEven_intCast, Int.toNat_natCast]
    obtain ⟨k, hk⟩ : ∃ k, b / 2 ^ f.m = k + 1 := ⟨b / 2 ^ f.m - 1, by omega⟩
    rw [hk] at hsplit ⊢
    have : k * 2 ^ f.m + (2 ^ f.m + b % 2 ^ f.m) = b := by
      rw [Nat.mul_add, Nat.mul_one] at hsplit
      rw [Nat.mul_comm]; omega
    rw [Nat.add_sub_cancel, this]
    omega

theorem infBits_lt : f.infBits < 2 ^ (f.m + f.e) := by
  have h1 := Nat.two_pow_pos f.m
  have h2 := Nat.two_pow_pos f.e
  rw [infBits, Nat.pow_add, Nat.mul_comm]
  exact Nat.mul_lt_mul_of_pos_left (by omega) h1

theorem roundMagnitude_le (q : ℚ) : f.roundMagnitude q ≤ f.infBits := by
  unfold roundMagnitude
  split
  · exact Nat.zero_le _
  · exact Nat.min_le_left _ _

theorem encode_lt (q : ℚ) : f.encode q < 2 ^ (1 + f.m + f.e) := by
  have h1 := f.infBits_lt
  have h2 := f.roundMagnitude_le
  have e : 2 ^ (1 + f.m + f.e) = 2 ^ (f.m + f.e) + 2 ^ (f.m + f.e) := by
    rw [Nat.add_assoc, Nat.pow_add]; omega
  unfold encode
  split
  · have := h2 (-q); omega
  · have := h2 q; omega

/-- A magnitude under either sign bit. -/
theorem decode_of_lt {b : Nat} (hb : b < f.infBits) :
    f.decode b = .finite (f.magnitude b) ∧ f.decode (2 ^ (f.m + f.e) + b) = .finite (-f.magnitude b) := by
  have h1 := f.infBits_lt
  have hlt : b < 2 ^ (f.m + f.e) := by omega
  constructor
  · simp [decode, Nat.mod_eq_of_lt hlt, Nat.div_eq_of_lt hlt, hb]
  · have hd : (2 ^ (f.m + f.e) + b) / 2 ^ (f.m + f.e) = 1 := by
      rw [Nat.add_div_left _ (Nat.two_pow_pos _), Nat.div_eq_of_lt hlt]
    simp [decode, Nat.mod_eq_of_lt hlt, hd, hb]

/-- **A value the format holds is converted to it unchanged.** -/
theorem decode_encode_decode {bits : Nat} {q : ℚ} (h : f.decode bits = .finite q) :
    f.decode (f.encode q) = .finite q := by
  unfold decode at h
  simp only at h
  split at h
  · rename_i hb
    obtain ⟨hpos, hneg⟩ := f.decode_of_lt hb
    have h0 := f.magnitude_nonneg (bits % 2 ^ (f.m + f.e))
    have hr := f.roundMagnitude_magnitude hb
    generalize bits % 2 ^ (f.m + f.e) = b at *
    simp only [Value.finite.injEq] at h
    unfold encode
    split at h
    · subst h
      by_cases hz : f.magnitude b = 0
      · rw [hz] at hr hpos ⊢
        simp only [neg_zero, lt_self_iff_false, ↓reduceIte, hr, hpos]
      · have hlt : -f.magnitude b < 0 := by
          have := lt_of_le_of_ne h0 (Ne.symm hz); linarith
        rw [if_pos hlt, neg_neg, hr, hneg]
    · subst h
      rw [if_neg (not_lt.2 h0), hr, hpos]
  · split at h <;> cases h

/-! ## The range -/

/-- The largest finite value. -/
def maxValue : ℚ := ((2 ^ (f.m + 1) - 1 : Nat) : ℚ) * 2 ^ f.quantum (2 ^ f.e - 2)

theorem magnitude_le_max {b : Nat} (hb : b < f.infBits) (he : 3 ≤ 2 ^ f.e) : f.magnitude b ≤ f.maxValue := by
  have hp := Nat.two_pow_pos f.m
  have hE : b / 2 ^ f.m ≤ 2 ^ f.e - 2 := by
    have : b / 2 ^ f.m < 2 ^ f.e - 1 := by
      rw [Nat.div_lt_iff_lt_mul hp]; exact hb
    omega
  have hq : ∀ E : Nat, E ≤ 2 ^ f.e - 2 → (2 : ℚ) ^ f.quantum E ≤ 2 ^ f.quantum (2 ^ f.e - 2) := by
    intro E hE
    apply zpow_le_zpow_right₀ (by norm_num)
    unfold quantum; omega
  unfold magnitude maxValue
  split
  · rename_i h0
    have hb' : b < 2 ^ f.m := by
      rcases Nat.div_eq_zero_iff.1 h0 with h | h
      · omega
      · exact h
    have hle : b ≤ 2 ^ (f.m + 1) - 1 := by rw [Nat.pow_succ]; omega
    have hle' : (b : ℚ) ≤ ((2 ^ (f.m + 1) - 1 : Nat) : ℚ) := by exact_mod_cast hle
    exact mul_le_mul hle' (hq 1 (by omega)) (by positivity) (by positivity)
  · have hM : b % 2 ^ f.m < 2 ^ f.m := Nat.mod_lt _ hp
    have hle : 2 ^ f.m + b % 2 ^ f.m ≤ 2 ^ (f.m + 1) - 1 := by rw [Nat.pow_succ]; omega
    have hle' : ((2 ^ f.m + b % 2 ^ f.m : Nat) : ℚ) ≤ ((2 ^ (f.m + 1) - 1 : Nat) : ℚ) := by exact_mod_cast hle
    exact mul_le_mul hle' (hq _ hE) (by positivity) (by positivity)

/-- A finite value lies between the extremes of its format. -/
theorem abs_le_max_of_decode {bits : Nat} {q : ℚ} (h : f.decode bits = .finite q) (he : 3 ≤ 2 ^ f.e) :
    -f.maxValue ≤ q ∧ q ≤ f.maxValue := by
  unfold decode at h
  simp only at h
  split at h
  · rename_i hb
    have h1 := f.magnitude_le_max hb he
    have h0 := f.magnitude_nonneg (bits % 2 ^ (f.m + f.e))
    simp only [Value.finite.injEq] at h
    split at h <;> subst h <;> constructor <;> linarith
  · split at h <;> cases h

/-! ## Nearest -/

theorem quantum_add (E k : Nat) : (2 : ℚ) ^ f.quantum (E + k) = 2 ^ k * 2 ^ f.quantum E := by
  have h : f.quantum (E + k) = k + f.quantum E := by unfold quantum; push_cast; ring
  rw [h, zpow_add₀ (by norm_num), zpow_natCast]

theorem exponentField_pos (q : ℚ) : 1 ≤ f.exponentField q := Nat.le_max_left _ _

/-- The scaled value fits in `m + 1` bits. -/
theorem scaled_lt {q : ℚ} (hq : 0 < q) : q / 2 ^ f.quantum (f.exponentField q) < 2 ^ (f.m + 1) := by
  have hu : (0 : ℚ) < 2 ^ f.quantum (f.exponentField q) := by positivity
  have hlog := (Int.lt_zpow_iff_log_lt (R := ℚ) (b := 2) (by decide) (x := Int.log 2 q + 1) hq).2 (by omega)
  have hle : Int.log 2 q + 1 ≤ ((f.m + 1 : Nat) : ℤ) + f.quantum (f.exponentField q) := by
    unfold quantum exponentField
    omega
  rw [div_lt_iff₀ hu, ← zpow_natCast, ← zpow_add₀ (by norm_num)]
  exact lt_of_lt_of_le hlog (by push_cast; exact zpow_le_zpow_right₀ (by norm_num) (by push_cast at hle; exact hle))

/-- Above the least exponent its leading bit is set. -/
theorem le_scaled {q : ℚ} (hq : 0 < q) (hE : 1 < f.exponentField q) :
    2 ^ f.m ≤ q / 2 ^ f.quantum (f.exponentField q) := by
  have hu : (0 : ℚ) < 2 ^ f.quantum (f.exponentField q) := by positivity
  have hlog := (Int.zpow_le_iff_le_log (R := ℚ) (b := 2) (by decide) (x := Int.log 2 q) hq).2 le_rfl
  have hle : (f.m : ℤ) + f.quantum (f.exponentField q) ≤ Int.log 2 q := by
    unfold exponentField at hE
    unfold quantum exponentField
    omega
  rw [le_div_iff₀ hu, ← zpow_natCast, ← zpow_add₀ (by norm_num)]
  exact le_trans (by push_cast; exact zpow_le_zpow_right₀ (by norm_num) hle) hlog

/-- A significand on an exponent field, with its carry. -/
theorem magnitude_of_parts {E s : Nat} (hE : 1 ≤ E) (hs : s ≤ 2 ^ (f.m + 1)) (hnormal : E = 1 ∨ 2 ^ f.m ≤ s) :
    f.magnitude ((E - 1) * 2 ^ f.m + s) = (s : ℚ) * 2 ^ f.quantum E := by
  have hp := Nat.two_pow_pos f.m
  obtain ⟨k, rfl⟩ : ∃ k, E = k + 1 := ⟨E - 1, by omega⟩
  rw [Nat.add_sub_cancel]
  unfold magnitude
  rcases Nat.lt_or_ge s (2 ^ f.m) with hsub | hsub
  · -- subnormal
    obtain rfl : k = 0 := by omega
    rw [Nat.zero_mul, Nat.zero_add, if_pos (Nat.div_eq_of_lt hsub)]
  rcases Nat.lt_or_ge s (2 ^ (f.m + 1)) with hlt | hge
  · rw [Nat.pow_succ] at hlt
    obtain ⟨r, rfl⟩ : ∃ r, s = 2 ^ f.m + r := ⟨s - 2 ^ f.m, by omega⟩
    have hr : r < 2 ^ f.m := by omega
    have hsplit : k * 2 ^ f.m + (2 ^ f.m + r) = r + 2 ^ f.m * (k + 1) := by ring
    have hdiv : (k * 2 ^ f.m + (2 ^ f.m + r)) / 2 ^ f.m = k + 1 := by
      rw [hsplit, Nat.add_mul_div_left _ _ hp, Nat.div_eq_of_lt hr, Nat.zero_add]
    have hmod : (k * 2 ^ f.m + (2 ^ f.m + r)) % 2 ^ f.m = r := by
      rw [hsplit, Nat.add_mul_mod_self_left, Nat.mod_eq_of_lt hr]
    rw [hdiv, hmod, if_neg (by omega)]
  · -- the carry
    obtain rfl : s = 2 ^ (f.m + 1) := by omega
    have hsplit : k * 2 ^ f.m + 2 ^ (f.m + 1) = 2 ^ f.m * (k + 2) := by ring
    rw [hsplit, Nat.mul_div_cancel_left _ hp, Nat.mul_mod_right, if_neg (by omega), f.quantum_add (k + 1) 1]
    push_cast
    ring

/-- A datum from an exponent field on is a multiple of the field's quantum. -/
theorem magnitude_multiple {b E : Nat} (hpos : 1 ≤ E) (hE : E ≤ max 1 (b / 2 ^ f.m)) :
    ∃ n : ℤ, f.magnitude b = n * 2 ^ f.quantum E := by
  unfold magnitude
  split
  · obtain rfl : E = 1 := by omega
    exact ⟨b, by push_cast; rfl⟩
  · rename_i h0
    have hle : E ≤ b / 2 ^ f.m := by rwa [Nat.max_eq_right (Nat.pos_of_ne_zero h0)] at hE
    obtain ⟨k, hk⟩ := Nat.exists_eq_add_of_le hle
    refine ⟨((2 ^ f.m + b % 2 ^ f.m) * 2 ^ k : Nat), ?_⟩
    rw [hk, f.quantum_add, Int.cast_natCast, Nat.cast_mul, Nat.cast_pow, Nat.cast_ofNat]
    ring

/-- Below an exponent field the magnitudes are below the first of the field. -/
theorem magnitude_below {b E : Nat} (hE : max 1 (b / 2 ^ f.m) < E) :
    f.magnitude b ≤ 2 ^ f.m * 2 ^ f.quantum E := by
  have hp := Nat.two_pow_pos f.m
  have hr : b % 2 ^ f.m < 2 ^ f.m := Nat.mod_lt _ hp
  have hquantum : ∀ F : Nat, F + 1 ≤ E → (2 : ℚ) * 2 ^ f.quantum F ≤ 2 ^ f.quantum E := by
    intro F hF
    have hnext := f.quantum_add F 1
    rw [pow_one] at hnext
    rw [← hnext]
    exact zpow_le_zpow_right₀ (by norm_num) (by unfold quantum; omega)
  unfold magnitude
  split
  · rename_i h0
    have hb : b ≤ 2 ^ f.m := by have := Nat.div_add_mod b (2 ^ f.m); rw [h0] at this; omega
    have hb' : (b : ℚ) ≤ 2 ^ f.m := by exact_mod_cast hb
    have hpos : (0 : ℚ) ≤ 2 ^ f.quantum 1 := by positivity
    have hq : (2 : ℚ) ^ f.quantum 1 ≤ 2 ^ f.quantum E := by linarith [hquantum 1 (by omega)]
    exact mul_le_mul hb' hq hpos (by positivity)
  · have hs : ((2 ^ f.m + b % 2 ^ f.m : Nat) : ℚ) ≤ 2 ^ f.m * 2 := by exact_mod_cast (by omega)
    have hq := hquantum (b / 2 ^ f.m) (by omega)
    calc ((2 ^ f.m + b % 2 ^ f.m : Nat) : ℚ) * 2 ^ f.quantum (b / 2 ^ f.m)
        ≤ 2 ^ f.m * 2 * 2 ^ f.quantum (b / 2 ^ f.m) := mul_le_mul_of_nonneg_right hs (by positivity)
      _ = 2 ^ f.m * (2 * 2 ^ f.quantum (b / 2 ^ f.m)) := by ring
      _ ≤ 2 ^ f.m * 2 ^ f.quantum E := mul_le_mul_of_nonneg_left hq (by positivity)

/-- What a positive rational is rounded to: a significand on its exponent field. -/
theorem significand_bounds {q : ℚ} (hq : 0 < q) :
    0 ≤ Rounding.roundHalfEven (q / 2 ^ f.quantum (f.exponentField q)) ∧
    Rounding.roundHalfEven (q / 2 ^ f.quantum (f.exponentField q)) ≤ 2 ^ (f.m + 1) ∧
    (1 < f.exponentField q → 2 ^ f.m ≤ Rounding.roundHalfEven (q / 2 ^ f.quantum (f.exponentField q))) := by
  have hlt := f.scaled_lt hq
  have hle := f.le_scaled hq
  have hpos : (0 : ℚ) ≤ q / 2 ^ f.quantum (f.exponentField q) := by positivity
  generalize q / 2 ^ f.quantum (f.exponentField q) = x at *
  refine ⟨?_, ?_, fun hE => ?_⟩
  · exact Rounding.le_roundHalfEven (by simpa using hpos)
  · exact Rounding.roundHalfEven_le (by push_cast; exact hlt.le)
  · exact Rounding.le_roundHalfEven (by push_cast; exact hle hE)

/-- Of the multiples of the quantum none is nearer than the rounded one. -/
theorem rounded_multiple_nearest (q : ℚ) (n : ℤ) :
    |(Rounding.roundHalfEven (q / 2 ^ f.quantum (f.exponentField q)) : ℚ) * 2 ^ f.quantum (f.exponentField q) - q| ≤
      |(n : ℚ) * 2 ^ f.quantum (f.exponentField q) - q| := by
  have hu : (0 : ℚ) < 2 ^ f.quantum (f.exponentField q) := by positivity
  -- in units of the quantum every multiple of it is an integer
  have hunits : ∀ k : ℤ, |(k : ℚ) * 2 ^ f.quantum (f.exponentField q) - q| =
      |(k : ℚ) - q / 2 ^ f.quantum (f.exponentField q)| * 2 ^ f.quantum (f.exponentField q) := by
    intro k
    rw [← abs_of_pos hu, ← abs_mul, abs_of_pos hu]
    congr 1
    field_simp
  rw [hunits, hunits]
  exact mul_le_mul_of_nonneg_right (Rounding.abs_roundHalfEven_sub_le _ n) hu.le

/-- **Nearest.** A positive rational that stays below infinity is rounded to a magnitude none is nearer than. -/
theorem roundMagnitude_nearest {q : ℚ} (hq : 0 < q) (hfin : f.roundMagnitude q < f.infBits) (b : Nat) :
    |f.magnitude (f.roundMagnitude q) - q| ≤ |f.magnitude b - q| := by
  obtain ⟨h0, hcarry, hnormal⟩ := f.significand_bounds hq
  have hE := f.exponentField_pos q
  have hu : (0 : ℚ) < 2 ^ f.quantum (f.exponentField q) := by positivity
  have hle := f.le_scaled hq
  have hbest := f.rounded_multiple_nearest q
  rw [roundMagnitude, if_neg hq.ne'] at hfin ⊢
  generalize Rounding.roundHalfEven (q / 2 ^ f.quantum (f.exponentField q)) = s at *
  obtain ⟨s, rfl⟩ := Int.eq_ofNat_of_zero_le h0
  rw [Int.cast_natCast] at hbest
  rw [Int.toNat_natCast] at hfin ⊢
  rw [Nat.min_eq_right (by omega), f.magnitude_of_parts hE (by exact_mod_cast hcarry) ?_]
  · rcases Nat.lt_or_ge (max 1 (b / 2 ^ f.m)) (f.exponentField q) with hbelow | hfrom
    · -- below the exponent field of `q` nothing beats the first magnitude of the field
      have hb := f.magnitude_below hbelow
      have hq' : 2 ^ f.m * 2 ^ f.quantum (f.exponentField q) ≤ q := (le_div_iff₀ hu).1 (hle (by omega))
      refine (hbest (2 ^ f.m : Nat)).trans ?_
      push_cast
      rw [abs_of_nonpos (by linarith), abs_of_nonpos (by linarith)]
      linarith
    · obtain ⟨n, hn⟩ := f.magnitude_multiple hE hfrom
      rw [hn]
      exact hbest n
  · rcases hE.eq_or_lt with h1 | h1
    · exact .inl h1.symm
    · exact .inr (by exact_mod_cast hnormal h1)

theorem exponentField_le_max {q : ℚ} (hq : 0 < q) (hmax : q ≤ f.maxValue) (he : 3 ≤ 2 ^ f.e) :
    f.exponentField q ≤ 2 ^ f.e - 2 := by
  have hp := Nat.two_pow_pos f.m
  have hlog : Int.log 2 q ≤ Int.log 2 f.maxValue := Int.log_mono_right hq hmax
  have htop := log_mul_zpow (n := 2 ^ (f.m + 1) - 1) (k := f.m) (by rw [Nat.pow_succ]; omega)
    (by have := Nat.two_pow_pos (f.m + 1); omega) (f.quantum (2 ^ f.e - 2))
  rw [← maxValue] at htop
  rw [htop, quantum] at hlog
  unfold exponentField
  omega

/-- Up to the largest finite value nothing is rounded to infinity. -/
theorem roundMagnitude_lt {q : ℚ} (hq : 0 < q) (hmax : q ≤ f.maxValue) (he : 3 ≤ 2 ^ f.e) :
    f.roundMagnitude q < f.infBits := by
  obtain ⟨-, hcarry, -⟩ := f.significand_bounds hq
  have hp := Nat.two_pow_pos f.m
  have hE := f.exponentField_pos q
  obtain ⟨k, hk⟩ := Nat.exists_eq_add_of_le (f.exponentField_le_max hq hmax he)
  have htop : f.infBits = (f.exponentField q - 1 + k) * 2 ^ f.m + 2 ^ (f.m + 1) := by
    rw [infBits, show 2 ^ f.e - 1 = f.exponentField q - 1 + k + 2 by omega]
    ring
  rw [roundMagnitude, if_neg hq.ne', htop]
  refine (Nat.min_le_right _ _).trans_lt ?_
  rcases Nat.eq_zero_or_pos k with rfl | hpos
  · -- on the greatest exponent field the significand stays below the carry
    have hu : (0 : ℚ) < 2 ^ f.quantum (f.exponentField q) := by positivity
    have hle : q / 2 ^ f.quantum (f.exponentField q) ≤ ((2 ^ (f.m + 1) - 1 : ℤ) : ℚ) := by
      rw [div_le_iff₀ hu]
      refine hmax.trans (le_of_eq ?_)
      rw [maxValue, hk, Nat.add_zero, Nat.cast_sub Nat.one_le_two_pow]
      push_cast
      rfl
    have hs := Rounding.roundHalfEven_le hle
    have hcast : ((2 ^ (f.m + 1) : Nat) : ℤ) = 2 ^ (f.m + 1) := by push_cast; rfl
    have := Nat.two_pow_pos (f.m + 1)
    rw [Nat.add_zero]
    omega
  · have hcast : ((2 ^ (f.m + 1) : Nat) : ℤ) = 2 ^ (f.m + 1) := by push_cast; rfl
    have hfields : (f.exponentField q - 1) * 2 ^ f.m + 2 ^ f.m ≤ (f.exponentField q - 1 + k) * 2 ^ f.m := by
      rw [← Nat.succ_mul]
      exact Nat.mul_le_mul_right _ (by omega)
    omega

theorem magnitude_of_decode {bits : Nat} {w : ℚ} (h : f.decode bits = .finite w) :
    ∃ b, w = f.magnitude b ∨ w = -f.magnitude b := by
  unfold decode at h
  simp only at h
  split at h
  · simp only [Value.finite.injEq] at h
    split at h
    · exact ⟨_, .inr h.symm⟩
    · exact ⟨_, .inl h.symm⟩
  · split at h <;> cases h

/-- A sign only takes a magnitude away from a positive rational. -/
theorem nearest_of_decode {q : ℚ} (hq : 0 < q) (hfin : f.roundMagnitude q < f.infBits) {bits : Nat} {w : ℚ}
    (h : f.decode bits = .finite w) : |f.magnitude (f.roundMagnitude q) - q| ≤ |w - q| := by
  obtain ⟨b, rfl | rfl⟩ := f.magnitude_of_decode h
  · exact f.roundMagnitude_nearest hq hfin b
  · have hb := f.magnitude_nonneg b
    refine (f.roundMagnitude_nearest hq hfin b).trans ?_
    rw [abs_of_nonpos (a := -f.magnitude b - q) (by linarith)]
    exact abs_le.2 ⟨by linarith, by linarith⟩

theorem decode_neg {bits : Nat} {w : ℚ} (h : f.decode bits = .finite w) : ∃ bits', f.decode bits' = .finite (-w) := by
  unfold decode at h
  simp only at h
  split at h
  · rename_i hb
    obtain ⟨hpos, hneg⟩ := f.decode_of_lt hb
    simp only [Value.finite.injEq] at h
    split at h <;> subst h
    · exact ⟨_, by rw [neg_neg]; exact hpos⟩
    · exact ⟨_, hneg⟩
  · split at h <;> cases h

/-- **Conversion to the format.** A rational up to the largest finite value is converted to a finite value,
and the format has none nearer to it. -/
theorem decode_encode_nearest {q : ℚ} (hq : |q| ≤ f.maxValue) (he : 3 ≤ 2 ^ f.e) :
    ∃ v, f.decode (f.encode q) = .finite v ∧ ∀ bits w, f.decode bits = .finite w → |v - q| ≤ |w - q| := by
  obtain ⟨hlo, hhi⟩ := abs_le.1 hq
  rcases lt_trichotomy q 0 with hneg | rfl | hpos
  · have hfin := f.roundMagnitude_lt (neg_pos.2 hneg) (by linarith) he
    refine ⟨_, by rw [encode, if_pos hneg]; exact (f.decode_of_lt hfin).2, ?_⟩
    intro bits w hw
    obtain ⟨bits', hbits'⟩ := f.decode_neg hw
    have h := f.nearest_of_decode (neg_pos.2 hneg) hfin hbits'
    have hflip : ∀ a : ℚ, |-a - q| = |a - -q| := fun a => by rw [← abs_neg]; congr 1; ring
    rw [hflip, ← neg_neg w, hflip]
    exact h
  · have hinf : 0 < f.infBits := Nat.mul_pos (by omega) (Nat.two_pow_pos _)
    have hzero := (f.decode_of_lt hinf).1
    rw [magnitude_zero] at hzero
    exact ⟨0, by simpa [encode, roundMagnitude] using hzero, by simp⟩
  · have hfin := f.roundMagnitude_lt hpos hhi he
    refine ⟨_, by rw [encode, if_neg (not_lt.2 hpos.le)]; exact (f.decode_of_lt hfin).1, ?_⟩
    exact fun bits w hw => f.nearest_of_decode hpos hfin hw

end Format

/-- IEEE 754 `binary32`, the C `float`. -/
def binary32 : Format := ⟨23, 8⟩

end BinaryFloat
