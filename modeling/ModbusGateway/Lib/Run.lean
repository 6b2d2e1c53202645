import Mathlib.Data.List.Induction

/-!
# Runs of a machine

`step : σ → α → σ` handles one input; a run over `as` is `as.foldl step s`. Where a step may be refused,
`step : σ → α → Option σ` and a run is `as.foldlM step s`.

* `Meets step P s as` — every step of the run from `s` satisfies `P` at the state it starts in.
* `Meets.invariant` — what is kept by the steps that satisfy `P` holds at the end of such a run, so
  in every state reached (`Meets.take`).
* `foldlM_history` — a relation between the inputs so far and the state holds at the end of a run when
  one more step keeps it.

A machine that steps by itself is a loop, `Loop.run`: `run_invariant` is its invariant rule, `run_of_measure` bounds
the fuel by a measure that every turn lowers, `run_diverges` tells that none is enough.
-/

namespace Run

variable {σ α : Type*} {step : σ → α → σ} {P : σ → α → Prop}

def Meets (step : σ → α → σ) (P : σ → α → Prop) : σ → List α → Prop
  | _, [] => True
  | s, a :: as => P s a ∧ Meets step P (step s a) as

@[simp] theorem meets_nil (s : σ) : Meets step P s [] := trivial

@[simp] theorem meets_cons (s : σ) (a : α) (as : List α) :
    Meets step P s (a :: as) ↔ P s a ∧ Meets step P (step s a) as := Iff.rfl

theorem meets_append (s : σ) (as bs : List α) :
    Meets step P s (as ++ bs) ↔ Meets step P s as ∧ Meets step P (as.foldl step s) bs := by
  induction as generalizing s with
  | nil => simp
  | cons a as ih => simp only [List.cons_append, meets_cons, ih, List.foldl_cons, and_assoc]

theorem Meets.of_forall {s : σ} {as : List α} (h : ∀ s, ∀ a ∈ as, P s a) : Meets step P s as := by
  induction as generalizing s with
  | nil => trivial
  | cons a as ih => exact ⟨h s a List.mem_cons_self, ih fun t b hb => h t b (List.mem_cons_of_mem a hb)⟩

/-- A run cut short meets what the run meets. -/
theorem Meets.take {s : σ} {as : List α} (h : Meets step P s as) (n : Nat) : Meets step P s (as.take n) := by
  rw [← List.take_append_drop n as, meets_append] at h
  exact h.1

/-- **The invariant rule.** -/
theorem Meets.invariant {I : σ → Prop} (hstep : ∀ s a, I s → P s a → I (step s a)) {s : σ} {as : List α} (hs : I s)
    (h : Meets step P s as) : I (as.foldl step s) := by
  induction as generalizing s with
  | nil => exact hs
  | cons a as ih => exact ih (hstep s a hs h.1) h.2

/-- **The history rule.** -/
theorem foldlM_history {step : σ → α → Option σ} {I : List α → σ → Prop} {start : σ} (h0 : I [] start)
    (hstep : ∀ as s a s', I as s → step s a = some s' → I (as ++ [a]) s') {as : List α} {s : σ}
    (h : as.foldlM step start = some s) : I as s := by
  induction as using List.reverseRecOn generalizing s with
  | nil =>
    obtain rfl : start = s := by simpa using h
    exact h0
  | append_singleton as a ih =>
    rw [List.foldlM_append, Option.bind_eq_bind, Option.bind_eq_some_iff] at h
    obtain ⟨t, ht, ha⟩ := h
    exact hstep as t a s (ih ht) (by simpa using ha)

end Run

/-! ## Loops -/

namespace Loop

variable {σ : Type*} {c : σ → Bool} {b : σ → σ}

/-- `while (c(s)) s = b(s)` for at most `n` tests of the condition, `none` when they do not suffice. -/
def run (c : σ → Bool) (b : σ → σ) : Nat → σ → Option σ
  | 0, _ => none
  | n + 1, s => if c s then run c b n (b s) else some s

/-- **The invariant rule.** -/
theorem run_invariant {I : σ → Prop} (hstep : ∀ s, I s → c s = true → I (b s)) {n : Nat} {s t : σ} (hs : I s)
    (h : run c b n s = some t) : I t ∧ c t = false := by
  induction n generalizing s with
  | zero => cases h
  | succ n ih =>
    rw [run] at h
    split at h
    · rename_i hc
      exact ih (hstep s hs hc) h
    · rename_i hc
      obtain rfl : s = t := by simpa using h
      exact ⟨hs, by simpa using hc⟩

/-- **Enough fuel.** -/
theorem run_of_measure {I : σ → Prop} (μ : σ → Nat)
    (hstep : ∀ s, I s → c s = true → I (b s) ∧ μ (b s) < μ s) {n : Nat} {s : σ} (hs : I s) (hn : μ s < n) :
    ∃ t, run c b n s = some t := by
  induction n generalizing s with
  | zero => omega
  | succ n ih =>
    rw [run]
    split
    · rename_i hc
      obtain ⟨hI, hlt⟩ := hstep s hs hc
      exact ih hI (by omega)
    · exact ⟨s, rfl⟩

/-- **No fuel is enough.** -/
theorem run_diverges {I : σ → Prop} (hstep : ∀ s, I s → c s = true ∧ I (b s)) (n : Nat) {s : σ} (hs : I s) :
    run c b n s = none := by
  induction n generalizing s with
  | zero => rfl
  | succ n ih =>
    obtain ⟨hc, hI⟩ := hstep s hs
    rw [run, if_pos hc]
    exact ih hI

end Loop
