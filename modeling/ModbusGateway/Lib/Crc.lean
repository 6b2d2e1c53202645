import Mathlib.Data.List.Induction
import Mathlib.Data.List.OfFn
import Mathlib.Logic.Function.Iterate
import Mathlib.Tactic.TypeStar

/-!
# Cyclic redundancy checks

The register of a reflected CRC with a polynomial `p` of degree `w`: bits enter at the low end, and one
that leaves it set subtracts `p`.

* `iterate_shift` — a register moved down by some places is linear, so a table of the low part and a shift
  of the rest replace the single bits (`byteStep_eq`).
* `feed_xor` — the register of a difference is the difference of the registers.
* `feed_burst` — a burst of at most `w` bits leaves a register that is not zero.
-/

namespace Crc

variable {w : Nat} {p : BitVec w}

/-- One bit leaves the register. -/
def shift (p r : BitVec w) : BitVec w := if r.getLsbD 0 then (r >>> 1) ^^^ p else r >>> 1

/-- A bit that comes in, as a register. -/
def bit (b : Bool) : BitVec w := if b then 1#w else 0#w

/-- Bits enter one after the other. -/
def feed (p : BitVec w) (r : BitVec w) (bits : List Bool) : BitVec w := bits.foldl (fun r b => shift p (r ^^^ bit b)) r

@[simp] theorem feed_nil (r : BitVec w) : feed p r [] = r := rfl

@[simp] theorem feed_cons (r : BitVec w) (b : Bool) (bits : List Bool) :
    feed p r (b :: bits) = feed p (shift p (r ^^^ bit b)) bits := rfl

theorem feed_append (r : BitVec w) (bs cs : List Bool) : feed p r (bs ++ cs) = feed p (feed p r bs) cs :=
  List.foldl_append

/-! ## Linearity -/

@[simp] theorem shift_zero : shift p 0#w = 0#w := by simp [shift]

theorem xor_middle (r s t u : BitVec w) : r ^^^ s ^^^ (t ^^^ u) = r ^^^ t ^^^ (s ^^^ u) := by
  rw [BitVec.xor_assoc, ← BitVec.xor_assoc s, BitVec.xor_comm s, BitVec.xor_assoc t, ← BitVec.xor_assoc r]

theorem shift_xor (r s : BitVec w) : shift p (r ^^^ s) = shift p r ^^^ shift p s := by
  unfold shift
  rw [BitVec.getLsbD_xor, BitVec.ushiftRight_xor_distrib]
  cases r.getLsbD 0 <;> cases s.getLsbD 0
  · rfl
  · exact BitVec.xor_assoc _ _ _
  · simp [BitVec.xor_assoc, BitVec.xor_comm p]
  · have hself := xor_middle (r >>> 1) p (s >>> 1) p
    simpa using hself.symm

theorem bit_xor (b c : Bool) : (bit (b ^^ c) : BitVec w) = bit b ^^^ bit c := by
  cases b <;> cases c <;> simp [bit]

/-- **The register of a difference** of two texts of one length. -/
theorem feed_xor (r s : BitVec w) (bs cs : List Bool) (h : bs.length = cs.length) :
    feed p (r ^^^ s) (bs.zipWith xor cs) = feed p r bs ^^^ feed p s cs := by
  induction bs generalizing r s cs with
  | nil =>
    obtain rfl := List.length_eq_zero_iff.1 h.symm
    rfl
  | cons b bs ih =>
    cases cs with
    | nil => cases h
    | cons c cs =>
      simp only [List.zipWith_cons_cons, feed_cons]
      rw [bit_xor, xor_middle, shift_xor]
      exact ih _ _ cs (Nat.succ.inj h)

theorem iterate_shift_xor (n : Nat) (r s : BitVec w) :
    (shift p)^[n] (r ^^^ s) = (shift p)^[n] r ^^^ (shift p)^[n] s := by
  induction n generalizing r s with
  | zero => rfl
  | succ n ih => rw [Function.iterate_succ_apply, shift_xor, ih]; rfl

/-- Where the low bits are clear, they are only moved out. -/
theorem iterate_shift_high (n : Nat) (r : BitVec w) (h : ∀ i < n, r.getLsbD i = false) :
    (shift p)^[n] r = r >>> n := by
  induction n generalizing r with
  | zero => simp
  | succ n ih =>
    have h0 : shift p r = r >>> 1 := by rw [shift, h 0 (Nat.succ_pos n)]; rfl
    rw [Function.iterate_succ_apply, h0, ih, Nat.add_comm n 1, BitVec.shiftRight_add]
    intro i hi
    rw [BitVec.getLsbD_ushiftRight]
    exact h (1 + i) (by omega)

/-- **The low part and the rest**: `n` bits leave the register as they leave `low` alone, and the others move
down, when `low` holds the low bits of `r`. -/
theorem iterate_shift (n : Nat) (r low : BitVec w) (h : ∀ i < n, low.getLsbD i = r.getLsbD i)
    (hlow : ∀ i, n ≤ i → low.getLsbD i = false) :
    (shift p)^[n] r = (shift p)^[n] low ^^^ (r >>> n) := by
  have hsplit : r = low ^^^ (low ^^^ r) := by rw [← BitVec.xor_assoc, BitVec.xor_self, BitVec.zero_xor]
  have hclear : ∀ i < n, (low ^^^ r).getLsbD i = false := by
    intro i hi
    rw [BitVec.getLsbD_xor, h i hi, Bool.xor_self]
  have hrest : (low ^^^ r) >>> n = r >>> n := by
    apply BitVec.eq_of_getLsbD_eq
    intro i _
    rw [BitVec.getLsbD_ushiftRight, BitVec.getLsbD_ushiftRight, BitVec.getLsbD_xor, hlow _ (Nat.le_add_right n i),
      Bool.false_xor]
  conv_lhs => rw [hsplit]
  rw [iterate_shift_xor, iterate_shift_high n _ hclear, hrest]

/-! ## Bits of a byte -/

/-- The low bit first. -/
def byteBits (b : UInt8) : List Bool := List.ofFn fun i : Fin 8 => b.toBitVec.getLsbD i

def bytesBits (bytes : List UInt8) : List Bool := bytes.flatMap byteBits

@[simp] theorem length_byteBits (b : UInt8) : (byteBits b).length = 8 := List.length_ofFn

@[simp] theorem bytesBits_nil : bytesBits [] = [] := rfl

@[simp] theorem bytesBits_cons (b : UInt8) (bytes : List UInt8) : bytesBits (b :: bytes) = byteBits b ++ bytesBits bytes :=
  rfl

theorem bytesBits_append (bs cs : List UInt8) : bytesBits (bs ++ cs) = bytesBits bs ++ bytesBits cs :=
  List.flatMap_append

@[simp] theorem length_bytesBits (bytes : List UInt8) : (bytesBits bytes).length = 8 * bytes.length := by
  induction bytes with
  | nil => rfl
  | cons b bytes ih =>
    rw [bytesBits_cons, List.length_append, ih, length_byteBits, List.length_cons]
    omega

theorem byteBits_injective : Function.Injective byteBits := by
  intro b c h
  apply UInt8.toBitVec_inj.1
  apply BitVec.eq_of_getLsbD_eq
  intro i hi
  exact congrFun (List.ofFn_injective h) ⟨i, hi⟩

theorem bytesBits_injective {bs cs : List UInt8} (h : bytesBits bs = bytesBits cs) : bs = cs := by
  induction bs generalizing cs with
  | nil =>
    have hlen := congrArg List.length h
    rw [length_bytesBits, length_bytesBits, List.length_nil] at hlen
    exact (List.length_eq_zero_iff.1 (by omega)).symm
  | cons b bs ih =>
    cases cs with
    | nil =>
      have hlen := congrArg List.length h
      simp at hlen
    | cons c cs =>
      obtain ⟨hb, hbs⟩ := List.append_inj (by simpa using h) (by simp)
      rw [byteBits_injective hb, ih hbs]

/-- Two texts whose difference is zero. -/
theorem eq_of_zipWith_xor {bs cs : List Bool} (hlen : bs.length = cs.length)
    (h : bs.zipWith xor cs = List.replicate (bs.zipWith xor cs).length false) : bs = cs := by
  induction bs generalizing cs with
  | nil => exact (List.length_eq_zero_iff.1 hlen.symm).symm
  | cons b bs ih =>
    cases cs with
    | nil => cases hlen
    | cons c cs =>
      rw [List.zipWith_cons_cons, List.length_cons, List.replicate_succ, List.cons.injEq] at h
      obtain ⟨hbc, hrest⟩ := h
      rw [ih (Nat.succ.inj hlen) hrest, show b = c by simpa using hbc]

/-- Bits at the low end of a register. -/
def ofBits : List Bool → BitVec w
  | [] => 0#w
  | b :: bits => bit b ^^^ (ofBits bits <<< 1)

theorem getLsbD_ofBits (bits : List Bool) (i : Nat) :
    (ofBits bits : BitVec w).getLsbD i = (decide (i < w) && bits.getD i false) := by
  induction bits generalizing i with
  | nil => simp [ofBits]
  | cons b bits ih =>
    have hbit : (bit b : BitVec w).getLsbD i = (decide (i < w) && (decide (i = 0) && b)) := by
      cases b with
      | false => simp [bit]
      | true => cases i <;> simp [bit, BitVec.getLsbD_one]
    rw [ofBits, BitVec.getLsbD_xor, BitVec.getLsbD_shiftLeft, ih, hbit]
    cases i with
    | zero => simp
    | succ i =>
      by_cases hi : i + 1 < w
      · simp [hi, show i < w by omega]
      · simp [hi]

theorem shift_shiftLeft (r : BitVec w) (h : ∀ i, w ≤ i + 1 → r.getLsbD i = false) : shift p (r <<< 1) = r := by
  have h0 : (r <<< 1).getLsbD 0 = false := by simp
  rw [shift, h0]
  apply BitVec.eq_of_getLsbD_eq
  intro i hi
  rw [if_neg Bool.false_ne_true, BitVec.getLsbD_ushiftRight, BitVec.getLsbD_shiftLeft]
  by_cases hw : 1 + i < w
  · simp [hw]
  · rw [h i (by omega)]
    simp [hw]

/-- Bits that enter, as one register. -/
theorem feed_eq_iterate (r : BitVec w) (bits : List Bool) (h : bits.length ≤ w) :
    feed p r bits = (shift p)^[bits.length] (r ^^^ ofBits bits) := by
  induction bits generalizing r with
  | nil => simp [ofBits]
  | cons b bits ih =>
    have htop : ∀ i, w ≤ i + 1 → (ofBits bits : BitVec w).getLsbD i = false := by
      intro i hi
      rw [getLsbD_ofBits, List.getD_eq_getElem?_getD, List.getElem?_eq_none (by simp at h; omega), Option.getD_none,
        Bool.and_false]
    rw [feed_cons, ih _ (by simp at h; omega), List.length_cons, Function.iterate_succ_apply, ofBits,
      ← BitVec.xor_assoc, shift_xor (r ^^^ bit b), shift_shiftLeft _ htop]

/-- A byte enters: its bits as a register. -/
theorem ofBits_byteBits (b : UInt8) : (ofBits (byteBits b) : BitVec w) = b.toBitVec.setWidth w := by
  apply BitVec.eq_of_getLsbD_eq
  intro i hi
  rw [getLsbD_ofBits, BitVec.getLsbD_setWidth, List.getD_eq_getElem?_getD, byteBits, List.getElem?_ofFn]
  by_cases h8 : i < 8
  · rw [dif_pos h8, Option.getD_some]
  · rw [dif_neg h8, Option.getD_none, BitVec.getLsbD_of_ge _ i (by omega)]

/-- **A byte at a time from a table** of what the low eight bits leave. -/
theorem byteStep_eq (hw : 8 ≤ w) (r : BitVec w) (b : UInt8) (low : BitVec 8)
    (hlow : low = (r ^^^ b.toBitVec.setWidth w).setWidth 8) :
    feed p r (byteBits b) = (shift p)^[8] (low.setWidth w) ^^^ (r >>> 8) := by
  have hb : (b.toBitVec.setWidth w) >>> 8 = 0#w := by
    apply BitVec.eq_of_getLsbD_eq
    intro i hi
    rw [BitVec.getLsbD_ushiftRight, BitVec.getLsbD_setWidth, BitVec.getLsbD_of_ge _ (8 + i) (by omega)]
    simp
  have hrest : (r ^^^ b.toBitVec.setWidth w) >>> 8 = r >>> 8 := by
    rw [BitVec.ushiftRight_xor_distrib, hb, BitVec.xor_zero]
  rw [feed_eq_iterate r _ (by simpa using hw), length_byteBits, ofBits_byteBits, ← hrest]
  refine iterate_shift 8 _ _ ?_ ?_
  · intro i hi
    simp [hlow, hi, show i < w by omega]
  · intro i hi
    rw [BitVec.getLsbD_setWidth, BitVec.getLsbD_of_ge _ i hi, Bool.and_false]

/-! ## Bursts -/

/-- The register holds nothing from place `n` on. -/
def Below (n : Nat) (r : BitVec w) : Prop := ∀ i, n ≤ i → r.getLsbD i = false

theorem below_zero_iff {r : BitVec w} : Below 0 r ↔ r = 0#w := by
  constructor
  · intro h
    apply BitVec.eq_of_getLsbD_eq
    intro i _
    simp [h i (Nat.zero_le i)]
  · rintro rfl i _
    simp

/-- One step back: the polynomial has its highest bit, so a low register was not reached by subtracting it. -/
theorem below_of_shift (hp : p.getLsbD (w - 1) = true) {n : Nat} (hn : n < w) {r : BitVec w}
    (h : Below n (shift p r)) : Below (n + 1) r ∧ r.getLsbD 0 = false := by
  have hlow : r.getLsbD 0 = false := by
    by_contra hset
    have htop := h (w - 1) (by omega)
    rw [shift, if_pos (by simpa using hset), BitVec.getLsbD_xor, hp, BitVec.getLsbD_ushiftRight,
      BitVec.getLsbD_of_ge r _ (by omega)] at htop
    cases htop
  refine ⟨?_, hlow⟩
  intro i hi
  have hshift := h (i - 1) (by omega)
  rwa [shift, if_neg (by simpa using hlow), BitVec.getLsbD_ushiftRight, show 1 + (i - 1) = i by omega] at hshift

/-- The register before the last `n` bits, when they leave zero. -/
theorem below_of_feed (hp : p.getLsbD (w - 1) = true) {bits : List Bool} (hlen : bits.length ≤ w) {r : BitVec w}
    (h : feed p r bits = 0#w) : Below bits.length r := by
  induction bits generalizing r with
  | nil => exact below_zero_iff.2 h
  | cons b bits ih =>
    rw [List.length_cons] at hlen
    obtain ⟨hstep, -⟩ := below_of_shift hp hlen (ih (by omega) h)
    intro i hi
    have hxor := hstep i hi
    have hbit : (bit b : BitVec w).getLsbD i = false := by
      have h0 : i ≠ 0 := by simp at hi; omega
      cases b <;> simp [bit, BitVec.getLsbD_one, h0]
    rwa [BitVec.getLsbD_xor, hbit, Bool.xor_false] at hxor

/-- Zeros never clear a register. -/
theorem feed_zeros (hp : p.getLsbD (w - 1) = true) (hw : 0 < w) {n : Nat} {r : BitVec w}
    (h : feed p r (List.replicate n false) = 0#w) : r = 0#w := by
  induction n generalizing r with
  | zero => exact h
  | succ n ih =>
    rw [List.replicate_succ, feed_cons] at h
    obtain ⟨hbelow, hlow⟩ := below_of_shift hp hw (below_zero_iff.2 (ih h))
    have hzero : r ^^^ bit false = 0#w := below_zero_iff.1 fun i _ => by
      cases i with
      | zero => exact hlow
      | succ i => exact hbelow (i + 1) (by omega)
    simpa [bit] using hzero

/-- All the bits that are set lie within `n` places. -/
def IsBurst (n : Nat) (bits : List Bool) : Prop := ∃ start, ∀ i, bits[i]? = some true → start ≤ i ∧ i < start + n

theorem IsBurst.of_cons {n : Nat} {b : Bool} {bits : List Bool} (h : IsBurst n (b :: bits)) : IsBurst n bits := by
  obtain ⟨start, h⟩ := h
  refine ⟨start - 1, fun i hi => ?_⟩
  have := h (i + 1) (by simpa using hi)
  omega

theorem IsBurst.of_append {n : Nat} {bs cs : List Bool} (h : IsBurst n (bs ++ cs)) : IsBurst n bs ∧ IsBurst n cs := by
  constructor
  · obtain ⟨start, h⟩ := h
    refine ⟨start, fun i hi => h i ?_⟩
    rw [List.getElem?_append_left (List.getElem?_eq_some_iff.1 hi).1, hi]
  · induction bs with
    | nil => exact h
    | cons b bs ih => exact ih h.of_cons

/-- A burst that starts with the first bit is over after `n` bits. -/
theorem IsBurst.tail_eq {n : Nat} {bits : List Bool} (h : IsBurst (n + 1) (true :: bits)) :
    bits = bits.take n ++ List.replicate (bits.length - n) false := by
  obtain ⟨start, h⟩ := h
  have h0 := h 0 rfl
  conv_lhs => rw [← List.take_append_drop n bits]
  rw [List.append_cancel_left_eq, List.eq_replicate_iff]
  refine ⟨List.length_drop, fun b hb => ?_⟩
  obtain ⟨i, hi⟩ := List.getElem?_of_mem hb
  rw [List.getElem?_drop] at hi
  cases b with
  | false => rfl
  | true =>
    have hlate := h (n + i + 1) (by simpa using hi)
    omega

/-- **No burst of at most `w` bits leaves zero.** -/
theorem feed_burst (hp : p.getLsbD (w - 1) = true) {bits : List Bool} (hburst : IsBurst w bits)
    (h : feed p 0#w bits = 0#w) : bits = List.replicate bits.length false := by
  have hw : 0 < w := by
    rcases Nat.eq_zero_or_pos w with rfl | hw
    · rw [BitVec.getLsbD_of_ge p _ (Nat.le_refl 0)] at hp
      cases hp
    · exact hw
  induction bits with
  | nil => rfl
  | cons b bits ih =>
    cases b with
    | false =>
      rw [List.length_cons, List.replicate_succ, ← ih hburst.of_cons (by simpa [bit] using h)]
    | true =>
      -- the first bit puts `p` in the register, which is too high for the bits of the burst that are left
      exfalso
      obtain ⟨n, rfl⟩ : ∃ n, w = n + 1 := ⟨w - 1, by omega⟩
      have hfirst : shift p (0#(n + 1) ^^^ bit true) = p := by
        have hout : (1#(n + 1)) >>> 1 = 0#(n + 1) := by
          apply BitVec.eq_of_getLsbD_eq
          intro i _
          simp [BitVec.getLsbD_one]
        simp [shift, bit, hout]
      rw [feed_cons, hfirst, hburst.tail_eq, feed_append] at h
      have hlast := below_of_feed hp (by rw [List.length_take]; omega) (feed_zeros hp hw h)
      rw [hlast _ (by rw [List.length_take]; omega)] at hp
      cases hp

end Crc
