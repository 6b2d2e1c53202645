import Mathlib.Algebra.Order.Floor.Ring
import Mathlib.Tactic.Linarith
import Mathlib.Tactic.Positivity
import Mathlib.Tactic.FieldSimp
import Mathlib.Tactic.Ring

/-!
# Rounding to integers

The three roundings a C program meets: `truncate` (a cast to an integer type), `roundHalfAway`
(`llround`: nearest, halves away from zero) and `roundHalfEven` (the IEEE default: nearest, halves
to even). No integer is nearer than the last two (`abs_roundHalfAway_sub_le`, `abs_roundHalfEven_sub_le`).
`truncate` keeps integer bounds (`le_truncate`, `truncate_le`), and the bounds on the far side of
zero are those of the next integer (`truncate_le_iff`, `le_truncate_iff`).
-/

namespace Rounding

variable {K : Type*} [Field K] [LinearOrder K] [FloorRing K]

/-- Towards zero. -/
def truncate (x : K) : ℤ := if x < 0 then ⌈x⌉ else ⌊x⌋

/-- To the nearest, halves away from zero. -/
def roundHalfAway (x : K) : ℤ := if x < 0 then -⌊-x + 1 / 2⌋ else ⌊x + 1 / 2⌋

/-- To the nearest, halves to the even neighbour. -/
def roundHalfEven (x : K) : ℤ :=
  if x - ⌊x⌋ < 1 / 2 then ⌊x⌋
  else if 1 / 2 < x - ⌊x⌋ then ⌊x⌋ + 1
  else if ⌊x⌋ % 2 = 0 then ⌊x⌋ else ⌊x⌋ + 1

variable [IsStrictOrderedRing K]

@[simp] theorem truncate_intCast (z : ℤ) : truncate (z : K) = z := by
  unfold truncate; split <;> simp

theorem le_truncate {z : ℤ} {x : K} (h : (z : K) ≤ x) : z ≤ truncate x := by
  unfold truncate
  split
  · exact Int.cast_le.1 (h.trans (Int.le_ceil x))
  · exact Int.le_floor.2 h

theorem truncate_le {z : ℤ} {x : K} (h : x ≤ (z : K)) : truncate x ≤ z := by
  unfold truncate
  split
  · exact Int.ceil_le.2 h
  · exact Int.cast_le.1 ((Int.floor_le x).trans h)

theorem truncate_le_iff {z : ℤ} (hz : 0 ≤ z) {x : K} : truncate x ≤ z ↔ x < z + 1 := by
  have hz' : (0 : K) ≤ z := Int.cast_nonneg hz
  unfold truncate
  split
  · rename_i hx
    have hc : ⌈x⌉ ≤ 0 := Int.ceil_le.2 (by simpa using hx.le)
    exact iff_of_true (hc.trans hz) (by linarith)
  · rw [← Int.lt_add_one_iff, Int.floor_lt, Int.cast_add, Int.cast_one]

theorem le_truncate_iff {z : ℤ} (hz : z ≤ 0) {x : K} : z ≤ truncate x ↔ z - 1 < x := by
  have hz' : (z : K) ≤ 0 := Int.cast_nonpos.2 hz
  unfold truncate
  split
  · exact Int.le_ceil_iff
  · rename_i hx
    have hf : 0 ≤ ⌊x⌋ := Int.floor_nonneg.2 (not_lt.1 hx)
    exact iff_of_true (hz.trans hf) (by linarith [not_lt.1 hx])

@[simp] theorem roundHalfEven_intCast (z : ℤ) : roundHalfEven (z : K) = z := by
  simp [roundHalfEven]

/-- An integer is no nearer than the floor or the one above it. -/
theorem floor_nearest (x : K) (n : ℤ) :
    min (x - ⌊x⌋) (⌊x⌋ + 1 - x) ≤ |(n : K) - x| := by
  have hlo := Int.floor_le x
  have hhi := Int.lt_floor_add_one x
  rcases lt_or_ge ⌊x⌋ n with h | h
  · have hn : (⌊x⌋ : K) + 1 ≤ n := by exact_mod_cast h
    rw [abs_of_nonneg (by linarith)]
    exact (min_le_right _ _).trans (by linarith)
  · have hn : (n : K) ≤ ⌊x⌋ := by exact_mod_cast h
    rw [abs_of_nonpos (by linarith)]
    exact (min_le_left _ _).trans (by linarith)

/-- No integer is nearer. -/
theorem abs_roundHalfEven_sub_le (x : K) (n : ℤ) : |(roundHalfEven x : K) - x| ≤ |(n : K) - x| := by
  have hlo := Int.floor_le x
  have hhi := Int.lt_floor_add_one x
  refine le_trans ?_ (floor_nearest x n)
  have hfloor : |(⌊x⌋ : K) - x| = x - ⌊x⌋ := by rw [abs_of_nonpos (by linarith)]; ring
  have hnext : |((⌊x⌋ + 1 : ℤ) : K) - x| = ⌊x⌋ + 1 - x := by
    push_cast
    rw [abs_of_nonneg (by linarith)]
  unfold roundHalfEven
  split_ifs with h1 h2 h3
  · rw [hfloor]; exact le_min le_rfl (by linarith)
  · rw [hnext]; exact le_min (by linarith) le_rfl
  · rw [hfloor]; exact le_min le_rfl (by linarith)
  · rw [hnext]; exact le_min (by linarith) le_rfl

omit [IsStrictOrderedRing K] in
theorem le_roundHalfEven {z : ℤ} {x : K} (h : (z : K) ≤ x) : z ≤ roundHalfEven x := by
  have hfloor : z ≤ ⌊x⌋ := Int.le_floor.2 h
  unfold roundHalfEven
  split_ifs <;> omega

theorem roundHalfEven_le {z : ℤ} {x : K} (h : x ≤ (z : K)) : roundHalfEven x ≤ z := by
  have hfloor : ⌊x⌋ ≤ z := Int.floor_le_iff.2 (h.trans_lt (by linarith))
  rcases hfloor.lt_or_eq with hlt | heq
  · unfold roundHalfEven
    split_ifs <;> omega
  · have hx : x = (⌊x⌋ : K) := le_antisymm (by rw [heq]; exact h) (Int.floor_le x)
    rw [hx, roundHalfEven_intCast]
    exact heq.le

theorem abs_roundHalfAway_sub_le_half (x : K) : |(roundHalfAway x : K) - x| ≤ 1 / 2 := by
  unfold roundHalfAway
  split
  · have hlo := Int.floor_le (-x + 1 / 2)
    have hhi := Int.lt_floor_add_one (-x + 1 / 2)
    push_cast
    rw [abs_le]
    constructor <;> linarith
  · have hlo := Int.floor_le (x + 1 / 2)
    have hhi := Int.lt_floor_add_one (x + 1 / 2)
    rw [abs_le]
    constructor <;> linarith

/-- No integer is nearer. -/
theorem abs_roundHalfAway_sub_le (x : K) (n : ℤ) : |(roundHalfAway x : K) - x| ≤ |(n : K) - x| := by
  have h := abs_roundHalfAway_sub_le_half x
  by_cases hn : n = roundHalfAway x
  · rw [hn]
  · have hint : (1 : ℤ) ≤ |n - roundHalfAway x| := Int.one_le_abs (sub_ne_zero.2 hn)
    have hone : (1 : K) ≤ |(n : K) - roundHalfAway x| := by exact_mod_cast hint
    have htri : |(n : K) - roundHalfAway x| ≤ |(n : K) - x| + |(roundHalfAway x : K) - x| := by
      rw [abs_sub_comm (roundHalfAway x : K) x]
      exact abs_sub_le _ _ _
    linarith

end Rounding
