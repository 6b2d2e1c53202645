import Mathlib.Data.List.TakeWhile
import Mathlib.Tactic.IntervalCases

/-!
# Decimal numerals in byte texts

`decimal` and `decimalInt` print a number the way a stream's `<<` does; `strtol` and `strtoul` read
one the way the C library does: blanks skipped, an optional sign, then the longest run of digits,
whatever follows. Reading back what was printed gives the number
(`strtol_decimalInt_append`, `strtoul_decimal_append`), and cutting a printed numeral short never
gives the same number (`natValue_take_decimal`). `hexByte` prints a byte, which `strtolHex` reads back
(`strtolHex_hexByte`). `wholeInt` is the stricter reading: the whole
text must be a numeral; `strtol` agrees with it there (`strtol_of_wholeInt`).
-/

namespace Numeral

/-! ## Printing -/

/-- Decimal digits of `n`, most significant first. -/
def decimal (n : Nat) : List UInt8 := (Nat.toDigits 10 n).map fun c => UInt8.ofNat c.toNat

/-- Decimal numeral of an integer, with `-` in front of a negative one. -/
def decimalInt (z : Int) : List UInt8 := if z < 0 then 45 :: decimal z.natAbs else decimal z.natAbs

def digit (n : Nat) : UInt8 := UInt8.ofNat (48 + n)

theorem digitChar_eq {n : Nat} (h : n < 10) : UInt8.ofNat n.digitChar.toNat = digit n := by
  interval_cases n <;> rfl

theorem decimal_of_lt {n : Nat} (h : n < 10) : decimal n = [digit n] := by
  rw [decimal, Nat.toDigits_of_lt_base h, List.map_singleton, digitChar_eq h]

theorem decimal_of_le {n : Nat} (h : 10 ≤ n) : decimal n = decimal (n / 10) ++ [digit (n % 10)] := by
  rw [decimal, Nat.toDigits_of_base_le (by decide) h, List.map_append, List.map_singleton,
    digitChar_eq (Nat.mod_lt _ (by decide))]
  rfl

/-! ## Reading -/

/-- `isspace` in the "C" locale. -/
def isSpace (c : UInt8) : Bool := c == 32 || (9 ≤ c && c ≤ 13)

def isDigit (c : UInt8) : Bool := 48 ≤ c && c ≤ 57

/-- Value of a run of digits. -/
def natValue (t : List UInt8) : Nat := t.foldl (fun a c => 10 * a + (c.toNat - 48)) 0

/-- The digits a text starts with; none is no numeral. -/
def scanDigits (t : List UInt8) : Option Nat :=
  match t.takeWhile isDigit with
  | [] => none
  | ds => some (natValue ds)

/-- `strtol(s, &end, 10)` before its range check; `none` when no digit was read. -/
def strtol (t : List UInt8) : Option Int :=
  match t.dropWhile isSpace with
  | 45 :: t => (scanDigits t).map fun (n : Nat) => -(n : Int)
  | 43 :: t => (scanDigits t).map fun (n : Nat) => (n : Int)
  | t => (scanDigits t).map fun (n : Nat) => (n : Int)

/-- `strtoul(s, &end, 10)` for a `max`-bounded unsigned type: out of range is `none` too, and a minus
sign negates modulo `max + 1`. -/
def strtoul (max : Nat) (t : List UInt8) : Option Nat :=
  let bounded (r : Option Nat) : Option Nat := r.bind fun n => if n ≤ max then some n else none
  match t.dropWhile isSpace with
  | 45 :: t => (bounded (scanDigits t)).map fun n => (max + 1 - n) % (max + 1)
  | 43 :: t => bounded (scanDigits t)
  | t => bounded (scanDigits t)

def hexDigit (c : UInt8) : Option Nat :=
  if 48 ≤ c ∧ c ≤ 57 then some (c.toNat - 48)
  else if 65 ≤ c ∧ c ≤ 70 then some (c.toNat - 55)
  else if 97 ≤ c ∧ c ≤ 102 then some (c.toNat - 87)
  else none

/-- Value of the hexadecimal digits a text starts with, `0` for none. -/
def scanHex (t : List UInt8) : Nat :=
  ((t.takeWhile fun c => (hexDigit c).isSome).filterMap hexDigit).foldl (fun a n => 16 * a + n) 0

/-- An optional `0x`, which counts only before a digit. -/
def skipHexMark : List UInt8 → List UInt8
  | 48 :: x :: c :: t => if (x = 120 ∨ x = 88) ∧ (hexDigit c).isSome then c :: t else 48 :: x :: c :: t
  | t => t

/-- `strtol(s, nullptr, 16)` of a text too short to overflow. -/
def strtolHex (t : List UInt8) : Int :=
  match t.dropWhile isSpace with
  | 45 :: t => -(scanHex (skipHexMark t) : Int)
  | 43 :: t => scanHex (skipHexMark t)
  | t => scanHex (skipHexMark t)

/-- `0` to `9`, then `A` to `F`. -/
def hexUpper (n : Nat) : UInt8 := if n < 10 then UInt8.ofNat (48 + n) else UInt8.ofNat (55 + n)

/-- A byte printed with `std::uppercase`, `std::hex`, `std::setw(2)` and `std::setfill('0')`. -/
def hexByte (c : UInt8) : List UInt8 := [hexUpper (c.toNat / 16), hexUpper (c.toNat % 16)]

/-! ## Printed bytes are read back -/

theorem hexDigit_hexUpper {n : Nat} (h : n < 16) : hexDigit (hexUpper n) = some n := by interval_cases n <;> rfl

/-- No blank, and no sign. -/
theorem hexUpper_plain {n : Nat} (h : n < 16) :
    isSpace (hexUpper n) = false ∧ hexUpper n ≠ 45 ∧ hexUpper n ≠ 43 := by
  interval_cases n <;> decide

theorem scanHex_hexUpper {x y : Nat} (hx : x < 16) (hy : y < 16) : scanHex [hexUpper x, hexUpper y] = 16 * x + y := by
  simp [scanHex, hexDigit_hexUpper hx, hexDigit_hexUpper hy]

/-- Two digits are too short for a mark and a digit. -/
theorem skipHexMark_pair (a b : UInt8) : skipHexMark [a, b] = [a, b] := by
  unfold skipHexMark
  split
  · rename_i h
    cases h
  · rfl

/-- **A printed byte is read back.** -/
theorem strtolHex_hexByte (c : UInt8) : strtolHex (hexByte c) = c.toNat := by
  have hc : c.toNat < 256 := c.toNat_lt
  have hx : c.toNat / 16 < 16 := by omega
  have hy : c.toNat % 16 < 16 := Nat.mod_lt _ (by decide)
  obtain ⟨hspace, hminus, hplus⟩ := hexUpper_plain hx
  have hscan : (scanHex (skipHexMark (hexByte c)) : Int) = c.toNat := by
    rw [hexByte, skipHexMark_pair, scanHex_hexUpper hx hy]
    omega
  rw [strtolHex, hexByte, List.dropWhile_cons_of_neg (by simp [hspace])]
  split
  · rename_i t h
    exact absurd (List.cons.inj h).1 hminus
  · rename_i t h
    exact absurd (List.cons.inj h).1 hplus
  · exact hscan

/-! ## Printed numerals are read back -/

theorem isDigit_digit {n : Nat} (h : n < 10) : isDigit (digit n) = true := by interval_cases n <;> rfl

theorem toNat_digit {n : Nat} (h : n < 10) : (digit n).toNat - 48 = n := by interval_cases n <;> rfl

theorem natValue_snoc (t : List UInt8) (c : UInt8) : natValue (t ++ [c]) = 10 * natValue t + (c.toNat - 48) := by
  simp [natValue]

/-- Digits only, at least one, and of the right value. -/
theorem decimal_spec (n : Nat) : decimal n ≠ [] ∧ (∀ c ∈ decimal n, isDigit c = true) ∧ natValue (decimal n) = n := by
  induction n using Nat.strongRecOn with
  | _ n ih =>
    by_cases h : n < 10
    · rw [decimal_of_lt h]
      refine ⟨by simp, by simpa using isDigit_digit h, ?_⟩
      simpa [natValue] using toNat_digit h
    · obtain ⟨_, h2, h3⟩ := ih (n / 10) (by omega)
      have hr : n % 10 < 10 := Nat.mod_lt _ (by decide)
      rw [decimal_of_le (by omega)]
      refine ⟨by simp, ?_, ?_⟩
      · intro c hc
        rcases List.mem_append.1 hc with hc | hc
        · exact h2 c hc
        · rw [List.mem_singleton.1 hc]; exact isDigit_digit hr
      · rw [natValue_snoc, h3, toNat_digit hr]; omega

theorem decimal_ne_nil (n : Nat) : decimal n ≠ [] := (decimal_spec n).1

theorem isDigit_of_mem_decimal {n : Nat} {c : UInt8} (h : c ∈ decimal n) : isDigit c = true := (decimal_spec n).2.1 c h

@[simp] theorem natValue_decimal (n : Nat) : natValue (decimal n) = n := (decimal_spec n).2.2

/-- What follows a numeral does not continue it. -/
def NoDigit (t : List UInt8) : Prop := ∀ c ∈ t.head?, isDigit c = false

theorem scanDigits_append {ds rest : List UInt8} (hd : ∀ c ∈ ds, isDigit c = true) (hr : NoDigit rest) :
    scanDigits (ds ++ rest) = scanDigits ds := by
  have hrest : rest.takeWhile isDigit = [] := by
    cases rest with
    | nil => rfl
    | cons c t => simp [hr c (by simp)]
  have hds : ds.takeWhile isDigit = ds := List.takeWhile_eq_self_iff.2 hd
  rw [scanDigits, scanDigits, List.takeWhile_append_of_pos hd, hrest, List.append_nil, hds]

theorem scanDigits_decimal_append (n : Nat) {rest : List UInt8} (hr : NoDigit rest) :
    scanDigits (decimal n ++ rest) = some n := by
  rw [scanDigits_append (fun c hc => isDigit_of_mem_decimal hc) hr, scanDigits,
    List.takeWhile_eq_self_iff.2 (fun c hc => isDigit_of_mem_decimal hc)]
  split
  · rename_i h; exact absurd h (decimal_ne_nil n)
  · rw [natValue_decimal]

theorem isDigit_iff (c : UInt8) : isDigit c = true ↔ 48 ≤ c.toNat ∧ c.toNat ≤ 57 := by
  simp [isDigit, UInt8.le_iff_toNat_le]

/-- Blanks are no larger than the space. -/
theorem isSpace_eq_false_of_lt {c : UInt8} (h : 32 < c.toNat) : isSpace c = false := by
  have h1 : c ≠ 32 := by rintro rfl; simp at h
  have h2 : ¬ c ≤ 13 := by rw [UInt8.le_iff_toNat_le]; simp; omega
  simp [isSpace, h1, h2]

theorem isSpace_eq_false_of_isDigit {c : UInt8} (h : isDigit c = true) : isSpace c = false := by
  rw [isDigit_iff] at h
  exact isSpace_eq_false_of_lt (by omega)

/-- A printed natural starts with a digit: no blank is skipped and no sign is read. -/
theorem decimal_head (n : Nat) (rest : List UInt8) :
    ∃ c t, decimal n ++ rest = c :: t ∧ isDigit c = true ∧ (c :: t).dropWhile isSpace = c :: t := by
  cases h : decimal n with
  | nil => exact absurd h (decimal_ne_nil n)
  | cons c t =>
    have hc : isDigit c = true := isDigit_of_mem_decimal (n := n) (by simp [h])
    exact ⟨c, t ++ rest, rfl, hc, List.dropWhile_cons_of_neg (by simp [isSpace_eq_false_of_isDigit hc])⟩

theorem ne_sign_of_isDigit {c : UInt8} (h : isDigit c = true) : c ≠ 45 ∧ c ≠ 43 := by
  constructor <;> (rintro rfl; exact absurd h (by decide))

/-- A text of digits is read whole. -/
theorem strtol_digits {t : List UInt8} (ht : ∀ c ∈ t, isDigit c = true) (hne : t ≠ []) :
    strtol t = some (natValue t : Int) := by
  cases t with
  | nil => exact absurd rfl hne
  | cons c t =>
    have hc : isDigit c = true := ht c List.mem_cons_self
    have hs : scanDigits (c :: t) = some (natValue (c :: t)) := by
      rw [scanDigits, List.takeWhile_eq_self_iff.2 ht]
    rw [strtol, List.dropWhile_cons_of_neg (by simp [isSpace_eq_false_of_isDigit hc])]
    split
    · rename_i t' h; exact absurd (List.cons.inj h).1 (ne_sign_of_isDigit hc).1
    · rename_i t' h; exact absurd (List.cons.inj h).1 (ne_sign_of_isDigit hc).2
    · rw [hs, Option.map_some]

theorem strtol_decimal_append (n : Nat) {rest : List UInt8} (hr : NoDigit rest) :
    strtol (decimal n ++ rest) = some (n : Int) := by
  obtain ⟨c, t, he, hc, hd⟩ := decimal_head n rest
  have hs := scanDigits_decimal_append n hr
  rw [he] at hs ⊢
  rw [strtol, hd]
  split
  · rename_i t' h; exact absurd (List.cons.inj h).1 (ne_sign_of_isDigit hc).1
  · rename_i t' h; exact absurd (List.cons.inj h).1 (ne_sign_of_isDigit hc).2
  · simp [hs]

/-- **Printed integers are read back**, whatever text follows them. -/
theorem strtol_decimalInt_append (z : Int) {rest : List UInt8} (hr : NoDigit rest) :
    strtol (decimalInt z ++ rest) = some z := by
  rw [decimalInt]
  split
  · rw [List.cons_append, strtol, List.dropWhile_cons_of_neg (by decide)]
    have : -(z.natAbs : Int) = z := by omega
    show (scanDigits (decimal z.natAbs ++ rest)).map (fun (n : Nat) => -(n : Int)) = some z
    rw [scanDigits_decimal_append _ hr, Option.map_some, this]
  · rw [strtol_decimal_append _ hr]
    have : (z.natAbs : Int) = z := by omega
    rw [this]

theorem strtol_decimalInt (z : Int) : strtol (decimalInt z) = some z := by
  have hr : NoDigit [] := by simp [NoDigit]
  simpa using strtol_decimalInt_append z hr

/-- **Printed naturals are read back** by `strtoul` exactly when they fit. -/
theorem strtoul_decimal_append (max n : Nat) {rest : List UInt8} (hr : NoDigit rest) :
    strtoul max (decimal n ++ rest) = if n ≤ max then some n else none := by
  obtain ⟨c, t, he, hc, hd⟩ := decimal_head n rest
  have hs := scanDigits_decimal_append n hr
  rw [he] at hs ⊢
  rw [strtoul, hd]
  simp only
  split
  · rename_i t' h; exact absurd (List.cons.inj h).1 (ne_sign_of_isDigit hc).1
  · rename_i t' h; exact absurd (List.cons.inj h).1 (ne_sign_of_isDigit hc).2
  · simp [hs]

/-- Every byte of a printed integer is a digit or the sign. -/
theorem mem_decimalInt {z : Int} {c : UInt8} (h : c ∈ decimalInt z) : c = 45 ∨ isDigit c = true := by
  rw [decimalInt] at h
  split at h
  · rcases List.mem_cons.1 h with h | h
    · exact .inl h
    · exact .inr (isDigit_of_mem_decimal h)
  · exact .inr (isDigit_of_mem_decimal h)

/-! ## Texts around a numeral -/

theorem scanDigits_append_of_noDigit (t : List UInt8) {rest : List UInt8} (hr : NoDigit rest) :
    scanDigits (t ++ rest) = scanDigits t := by
  have hrest : rest.takeWhile isDigit = [] := by
    cases rest with
    | nil => rfl
    | cons c t => simp [hr c (by simp)]
  have htake : (t ++ rest).takeWhile isDigit = t.takeWhile isDigit := by
    rw [List.takeWhile_append, hrest, List.append_nil]
    split
    · rename_i h
      exact ((List.takeWhile_prefix _).eq_of_length h).symm
    · rfl
  unfold scanDigits
  rw [htake]

/-- The sign, or the first digit, that `strtol` meets after the blanks. -/
theorem strtol_of_head {t u : List UInt8} {c : UInt8} (h : t.dropWhile isSpace = c :: u) : strtol t =
    if c = 45 then (scanDigits u).map fun (n : Nat) => -(n : Int)
    else if c = 43 then (scanDigits u).map fun (n : Nat) => (n : Int)
    else (scanDigits (c :: u)).map fun (n : Nat) => (n : Int) := by
  rw [strtol, h]
  by_cases h45 : c = 45
  · subst h45
    rfl
  by_cases h43 : c = 43
  · subst h43
    rfl
  simp [h45, h43]

/-- Blanks in front of a text are skipped. -/
theorem strtol_blank_append {blank : List UInt8} (hb : ∀ c ∈ blank, isSpace c = true) (t : List UInt8) :
    strtol (blank ++ t) = strtol t := by
  unfold strtol
  rw [List.dropWhile_append_of_pos hb]

/-- What follows a text does not matter where it neither continues a numeral nor is one. -/
theorem strtol_append_of_noDigit (t : List UInt8) {rest : List UInt8} (hr : NoDigit rest) (hn : strtol rest = none) :
    strtol (t ++ rest) = strtol t := by
  cases ht : t.dropWhile isSpace with
  | nil =>
    have hb : ∀ c ∈ t, isSpace c = true := List.dropWhile_eq_nil_iff.1 ht
    have hnil : strtol t = none := by rw [strtol, ht]; rfl
    rw [strtol_blank_append hb, hn, hnil]
  | cons c u =>
    have happ : (t ++ rest).dropWhile isSpace = c :: (u ++ rest) := by
      rw [List.dropWhile_append, ht]
      rfl
    rw [strtol_of_head happ, strtol_of_head ht, scanDigits_append_of_noDigit u hr, ← List.cons_append,
      scanDigits_append_of_noDigit (c :: u) hr]

theorem strtol_append_blank (t : List UInt8) {blank : List UInt8} (hb : ∀ c ∈ blank, isSpace c = true) :
    strtol (t ++ blank) = strtol t := by
  refine strtol_append_of_noDigit t ?_ ?_
  · intro c hc
    have hs := hb c (List.mem_of_mem_head? hc)
    by_contra hd
    rw [isSpace_eq_false_of_isDigit (by simpa using hd)] at hs
    cases hs
  · have hnil := strtol_blank_append hb []
    rw [List.append_nil] at hnil
    rw [hnil]
    rfl

/-! ## Whole numerals -/

/-- The number a text of digits denotes. -/
def wholeNat (t : List UInt8) : Option Nat := if t ≠ [] ∧ t.all isDigit then some (natValue t) else none

/-- The integer a text denotes as a whole: an optional sign and digits, nothing else. -/
def wholeInt : List UInt8 → Option Int
  | 45 :: t => (wholeNat t).map fun (n : Nat) => -(n : Int)
  | 43 :: t => (wholeNat t).map fun (n : Nat) => (n : Int)
  | t => (wholeNat t).map fun (n : Nat) => (n : Int)

theorem scanDigits_of_wholeNat {t : List UInt8} {n : Nat} (h : wholeNat t = some n) : scanDigits t = some n := by
  unfold wholeNat at h
  split at h
  · rename_i ht
    rw [scanDigits, List.takeWhile_eq_self_iff.2 (List.all_eq_true.1 ht.2), ← h]
    cases t with
    | nil => exact absurd rfl ht.1
    | cons c u => rfl
  · cases h

/-- **A whole numeral is read as what it denotes.** -/
theorem strtol_of_wholeInt {t : List UInt8} {z : Int} (h : wholeInt t = some z) : strtol t = some z := by
  cases t with
  | nil => cases h
  | cons c u =>
    by_cases h45 : c = 45
    · subst h45
      obtain ⟨n, hn, rfl⟩ := Option.map_eq_some_iff.1 h
      rw [strtol, List.dropWhile_cons_of_neg (by decide)]
      simp [scanDigits_of_wholeNat hn]
    by_cases h43 : c = 43
    · subst h43
      obtain ⟨n, hn, rfl⟩ := Option.map_eq_some_iff.1 h
      rw [strtol, List.dropWhile_cons_of_neg (by decide)]
      simp [scanDigits_of_wholeNat hn]
    obtain ⟨n, hn, rfl⟩ : ∃ n, wholeNat (c :: u) = some n ∧ (n : Int) = z := by
      simpa [wholeInt, h45, h43] using h
    have hdigits : (c :: u) ≠ [] ∧ (c :: u).all isDigit := by
      by_contra hno
      rw [wholeNat, if_neg hno] at hn
      cases hn
    rw [wholeNat, if_pos hdigits] at hn
    rw [strtol_digits (List.all_eq_true.1 hdigits.2) hdigits.1, Option.some.inj hn]

/-! ## Cut numerals -/

/-- A numeral cut short denotes a smaller number. -/
theorem natValue_take_decimal (n k : Nat) (h0 : 0 < k) (hk : k < (decimal n).length) :
    natValue ((decimal n).take k) < n := by
  induction n using Nat.strongRecOn with
  | _ n ih =>
    by_cases h : n < 10
    · rw [decimal_of_lt h] at hk; simp at hk; omega
    · rw [decimal_of_le (by omega)] at hk ⊢
      simp only [List.length_append, List.length_singleton] at hk
      rw [List.take_append_of_le_length (by omega)]
      by_cases hlen : k = (decimal (n / 10)).length
      · rw [hlen, List.take_length, natValue_decimal]; omega
      · have := ih (n / 10) (by omega) (by omega)
        omega

end Numeral
