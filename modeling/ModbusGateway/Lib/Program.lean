import Mathlib.Tactic.TypeStar

/-!
# Programs that call an environment

A `Program R α` computes an `α` and on the way makes calls `c : C`, each answered with some `R c`. What an
environment answers may depend on everything before; `run` executes a program against one and gives the
calls made with their answers.

`Ensures p Q` is the weakest precondition: every execution of `p`, whatever the answers, ends with a trace
and a result that satisfy `Q`. It is computed along the program (`ensures_pure`, `ensures_perform`,
`ensures_bind`), and it is sound for `run` (`Ensures.run`).

A `Protocol` says which calls may be made in which state and where an answered call leads. `Obeys P p s Q`: run
from `s`, whatever is answered, `p` makes only calls the protocol allows and ends in a state and with a result
that satisfy `Q`. It is computed along the program, like `Ensures`.

`translate f` carries out every call of a program by a program `f c` over other calls; a program that obeys a
protocol is carried over to any protocol that follows it (`Obeys.translate`).
-/

universe u v w

inductive Program {C : Type u} (R : C → Type v) (α : Type w) where
  | pure (a : α)
  | call (c : C) (next : R c → Program R α)

namespace Program

variable {C : Type u} {R : C → Type v} {α β : Type w}

def bind : Program R α → (α → Program R β) → Program R β
  | .pure a, f => f a
  | .call c next, f => .call c fun r => (next r).bind f

instance : Monad (Program R) where
  pure := Program.pure
  bind := Program.bind

/-- One call. -/
def perform {R : C → Type w} (c : C) : Program R (R c) := .call c .pure

/-- A call with its answer. -/
abbrev Event (R : C → Type v) := Σ c, R c

/-- The trace and the result of an execution; `past` is the trace before it. -/
def run (env : List (Event R) → (c : C) → R c) (past : List (Event R)) : Program R α → List (Event R) × α
  | .pure a => ([], a)
  | .call c next =>
    let r := env past c
    let rest := run env (past ++ [⟨c, r⟩]) (next r)
    (⟨c, r⟩ :: rest.1, rest.2)

/-! ## Every execution -/

def Ensures : Program R α → (List (Event R) → α → Prop) → Prop
  | .pure a, Q => Q [] a
  | .call c next, Q => ∀ r, (next r).Ensures fun trace a => Q (⟨c, r⟩ :: trace) a

@[simp] theorem ensures_pure {a : α} {Q : List (Event R) → α → Prop} :
    (Pure.pure a : Program R α).Ensures Q ↔ Q [] a := Iff.rfl

@[simp] theorem ensures_perform {R : C → Type w} {c : C} {Q : List (Event R) → R c → Prop} :
    (perform c).Ensures Q ↔ ∀ r, Q [⟨c, r⟩] r := Iff.rfl

theorem Ensures.mono {p : Program R α} {Q Q' : List (Event R) → α → Prop} (h : p.Ensures Q)
    (hQ : ∀ trace a, Q trace a → Q' trace a) : p.Ensures Q' := by
  induction p generalizing Q Q' with
  | pure a => exact hQ _ _ h
  | call c next ih =>
    intro r
    exact ih r (h r) fun trace a => hQ _ a

/-- What holds of everything holds after a program. -/
theorem ensures_of_forall (p : Program R α) {Q : List (Event R) → α → Prop} (h : ∀ trace a, Q trace a) :
    p.Ensures Q := by
  induction p generalizing Q with
  | pure a => exact h [] a
  | call c next ih =>
    intro r
    exact ih r fun trace a => h _ a

/-- **Sequencing.** -/
@[simp] theorem ensures_bind {p : Program R α} {f : α → Program R β} {Q : List (Event R) → β → Prop} :
    (p >>= f).Ensures Q ↔ p.Ensures fun trace a => (f a).Ensures fun trace' b => Q (trace ++ trace') b := by
  induction p generalizing Q with
  | pure a => exact Iff.rfl
  | call c next ih => exact forall_congr' fun r => ih r

/-- **Soundness.** -/
theorem Ensures.run {p : Program R α} {Q : List (Event R) → α → Prop} (h : p.Ensures Q)
    (env : List (Event R) → (c : C) → R c) (past : List (Event R)) : Q (p.run env past).1 (p.run env past).2 := by
  induction p generalizing Q past with
  | pure a => exact h
  | call c next ih => exact ih (env past c) (h (env past c)) _

end Program

/-! ## Protocols -/

structure Protocol {C : Type u} (R : C → Type v) (σ : Type*) where
  allows : σ → C → Prop
  next : σ → (c : C) → R c → σ

namespace Program

variable {C : Type u} {R : C → Type v} {α β : Type w} {σ : Type*} {P : Protocol R σ}

def Obeys (P : Protocol R σ) : Program R α → σ → (σ → α → Prop) → Prop
  | .pure a, s, Q => Q s a
  | .call c next, s, Q => P.allows s c ∧ ∀ r, (next r).Obeys P (P.next s c r) Q

@[simp] theorem obeys_pure {a : α} {s : σ} {Q : σ → α → Prop} :
    (Pure.pure a : Program R α).Obeys P s Q ↔ Q s a := Iff.rfl

@[simp] theorem obeys_perform {R : C → Type w} {P : Protocol R σ} {c : C} {s : σ} {Q : σ → R c → Prop} :
    (perform c).Obeys P s Q ↔ P.allows s c ∧ ∀ r, Q (P.next s c r) r := Iff.rfl

theorem Obeys.mono {p : Program R α} {s : σ} {Q Q' : σ → α → Prop} (h : p.Obeys P s Q)
    (hQ : ∀ s a, Q s a → Q' s a) : p.Obeys P s Q' := by
  induction p generalizing s with
  | pure a => exact hQ s a h
  | call c next ih => exact ⟨h.1, fun r => ih r (h.2 r)⟩

/-- **Sequencing.** -/
@[simp] theorem obeys_bind {p : Program R α} {f : α → Program R β} {s : σ} {Q : σ → β → Prop} :
    (p >>= f).Obeys P s Q ↔ p.Obeys P s fun s a => (f a).Obeys P s Q := by
  induction p generalizing s with
  | pure a => exact Iff.rfl
  | call c next ih => exact and_congr_right fun _ => forall_congr' fun r => ih r

/-! ## Carrying calls out -/

variable {C' : Type*} {R' : C' → Type v} {R : C → Type w}

def translate (f : (c : C) → Program R' (R c)) : Program R α → Program R' α
  | .pure a => .pure a
  | .call c next => f c >>= fun r => (next r).translate f

/-- `P'` follows `P` along `g`: where `P` allows a call, the program that carries it out obeys `P'` and
arrives where `P` does. -/
theorem Obeys.translate {τ : Type*} {P : Protocol R σ} {P' : Protocol R' τ} {f : (c : C) → Program R' (R c)}
    {g : σ → τ} (hf : ∀ s c, P.allows s c → (f c).Obeys P' (g s) fun t r => t = g (P.next s c r))
    {p : Program R α} {s : σ} {Q : σ → α → Prop} (h : p.Obeys P s Q) :
    (p.translate f).Obeys P' (g s) fun t a => ∃ s, t = g s ∧ Q s a := by
  induction p generalizing s with
  | pure a => exact ⟨s, rfl, h⟩
  | call c next ih =>
    refine obeys_bind.2 ((hf s c h.1).mono ?_)
    rintro t r rfl
    exact ih r (h.2 r)

end Program
