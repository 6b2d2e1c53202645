import ModbusGateway.Lib.Numeral
import ModbusGateway.Lib.Rounding
import Mathlib.Data.Int.Log
import Mathlib.Data.List.DropRight
import Mathlib.Data.Rat.Floor

/-!
# Numbers printed with a given precision

`printGeneral p q` is what `printf("%.pg")`, and a stream in its default format, print for a number: `p`
significant digits, halves to even, without trailing zeros; from `10 ^ p` on and below `10 ^ -4` with an
exponent of at least two digits. Zero has no sign here.
-/

namespace Numeral

/-- The power of ten of the first digit and the `p` digits nearest to `q > 0`. A carry out of the digits goes
into the power. -/
def significant (p : Nat) (q : ℚ) : ℤ × Nat :=
  let power := Int.log 10 q
  let digits := (Rounding.roundHalfEven (q / (10 : ℚ) ^ (power - (p - 1)))).toNat
  if digits = 10 ^ p then (power + 1, 10 ^ (p - 1)) else (power, digits)

/-- A fraction with its point; trailing zeros are dropped, and the point when nothing is left. -/
def fraction (t : List UInt8) : List UInt8 :=
  match t.rdropWhile (· == 48) with
  | [] => []
  | t => 46 :: t

def exponentPart (power : ℤ) : List UInt8 :=
  101 :: (if power < 0 then 45 else 43) ::
    (if power.natAbs < 10 then 48 :: decimal power.natAbs else decimal power.natAbs)

def printPositive (p : Nat) (q : ℚ) : List UInt8 :=
  let (power, number) := significant p q
  let digits := decimal number
  if power < -4 ∨ (p : ℤ) ≤ power then digits.take 1 ++ fraction (digits.drop 1) ++ exponentPart power
  else if power < 0 then 48 :: fraction (List.replicate (power.natAbs - 1) 48 ++ digits)
  else digits.take (power.natAbs + 1) ++ fraction (digits.drop (power.natAbs + 1))

def printGeneral (p : Nat) (q : ℚ) : List UInt8 :=
  if q = 0 then [48] else if q < 0 then 45 :: printPositive p (-q) else printPositive p q

/-! ## What is printed -/

/-- A digit, a sign, the point or the mark of the exponent. -/
def isNumeric (c : UInt8) : Bool := isDigit c || c == 45 || c == 43 || c == 46 || c == 101

theorem isNumeric_of_isDigit {c : UInt8} (h : isDigit c = true) : isNumeric c = true := by simp [isNumeric, h]

theorem isNumeric_of_mem_decimal {n : Nat} {c : UInt8} (h : c ∈ decimal n) : isNumeric c = true :=
  isNumeric_of_isDigit (isDigit_of_mem_decimal h)

theorem isNumeric_of_mem_fraction {t : List UInt8} (ht : ∀ c ∈ t, isNumeric c = true) {c : UInt8}
    (h : c ∈ fraction t) : isNumeric c = true := by
  unfold fraction at h
  split at h
  · cases h
  · rcases List.mem_cons.1 h with rfl | h
    · rfl
    · exact ht c ((List.rdropWhile_prefix _ _).mem h)

theorem isNumeric_of_mem_exponentPart {power : ℤ} {c : UInt8} (h : c ∈ exponentPart power) :
    isNumeric c = true := by
  unfold exponentPart at h
  rcases List.mem_cons.1 h with rfl | h
  · rfl
  rcases List.mem_cons.1 h with rfl | h
  · split <;> rfl
  split at h
  · rcases List.mem_cons.1 h with rfl | h
    · rfl
    · exact isNumeric_of_mem_decimal h
  · exact isNumeric_of_mem_decimal h

theorem isNumeric_of_mem_printPositive {p : Nat} {q : ℚ} {c : UInt8} (h : c ∈ printPositive p q) :
    isNumeric c = true := by
  unfold printPositive at h
  generalize significant p q = s at h
  obtain ⟨power, number⟩ := s
  have hdigits : ∀ c ∈ decimal number, isNumeric c = true := fun c hc => isNumeric_of_mem_decimal hc
  simp only at h
  split at h
  · rcases List.mem_append.1 h with h | h
    · rcases List.mem_append.1 h with h | h
      · exact hdigits c (List.mem_of_mem_take h)
      · exact isNumeric_of_mem_fraction (fun c hc => hdigits c (List.mem_of_mem_drop hc)) h
    · exact isNumeric_of_mem_exponentPart h
  · split at h
    · rcases List.mem_cons.1 h with rfl | h
      · rfl
      · refine isNumeric_of_mem_fraction ?_ h
        intro c hc
        rcases List.mem_append.1 hc with hc | hc
        · rw [List.eq_of_mem_replicate hc]
          rfl
        · exact hdigits c hc
    · rcases List.mem_append.1 h with h | h
      · exact hdigits c (List.mem_of_mem_take h)
      · exact isNumeric_of_mem_fraction (fun c hc => hdigits c (List.mem_of_mem_drop hc)) h

/-- **The letters of a printed number.** -/
theorem isNumeric_of_mem_printGeneral {p : Nat} {q : ℚ} {c : UInt8} (h : c ∈ printGeneral p q) :
    isNumeric c = true := by
  unfold printGeneral at h
  split at h
  · rw [List.mem_singleton.1 h]
    rfl
  · split at h
    · rcases List.mem_cons.1 h with rfl | h
      · rfl
      · exact isNumeric_of_mem_printPositive h
    · exact isNumeric_of_mem_printPositive h

example : printGeneral 6 (-5 / 2) = [45, 50, 46, 53] := by decide +kernel

example : printGeneral 6 1234567 = [49, 46, 50, 51, 52, 53, 55, 101, 43, 48, 54] := by decide +kernel

end Numeral
