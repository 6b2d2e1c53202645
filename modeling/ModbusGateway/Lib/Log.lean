import Mathlib.Data.List.Induction

/-!
# Logs

A log is a list of entries, the oldest first. What holds of a log is often that each entry is justified by those
before it.

* `Justified Q log` — `Q` holds of what is before an entry and the entry.
* `Since p stop log` — `p` holds of an entry, with what is before it, after which there is no entry to stop at.
-/

namespace Log

variable {α : Type*} {Q Q' : List α → α → Prop} {p : List α → α → Prop} {stop : α → Prop} {log outs : List α} {a : α}

/-- The entry in the middle is the last one, or stands before it. -/
theorem concat_eq_middle {pre post : List α} {b : α} (h : log ++ [a] = pre ++ b :: post) :
    (post = [] ∧ log = pre ∧ a = b) ∨ ∃ post', post = post' ++ [a] ∧ log = pre ++ b :: post' := by
  rcases List.eq_nil_or_concat post with rfl | ⟨post', c, rfl⟩
  · obtain ⟨hpre, hcons⟩ := List.append_inj' h rfl
    exact Or.inl ⟨rfl, hpre, List.singleton_inj.1 hcons⟩
  · rw [List.concat_eq_append, ← List.cons_append, ← List.append_assoc] at h
    obtain ⟨hpre, hcons⟩ := List.append_inj' h rfl
    obtain rfl := List.singleton_inj.1 hcons
    exact Or.inr ⟨post', List.concat_eq_append, hpre⟩

def Justified (Q : List α → α → Prop) (log : List α) : Prop := ∀ pre a post, log = pre ++ a :: post → Q pre a

theorem justified_nil : Justified Q [] := fun _ _ _ h => absurd h (by simp)

theorem justified_concat : Justified Q (log ++ [a]) ↔ Justified Q log ∧ Q log a := by
  constructor
  · intro h
    refine ⟨fun pre b post hlog => h pre b (post ++ [a]) (by rw [hlog]; simp), h log a [] rfl⟩
  · rintro ⟨h, ha⟩ pre b post hlog
    rcases concat_eq_middle hlog with ⟨-, rfl, rfl⟩ | ⟨post', -, hpre⟩
    · exact ha
    · exact h pre b post' hpre

theorem justified_singleton : Justified Q [a] ↔ Q [] a := by
  have h : Justified Q ([] ++ [a]) ↔ Justified Q [] ∧ Q [] a := justified_concat
  simpa [justified_nil] using h

/-- The entries that come later are justified by those of before and their own. -/
theorem justified_append : Justified Q (log ++ outs) ↔ Justified Q log ∧ Justified (fun pre => Q (log ++ pre)) outs := by
  induction outs using List.reverseRecOn with
  | nil => simp [justified_nil]
  | append_singleton outs a ih => rw [← List.append_assoc, justified_concat, ih, justified_concat, and_assoc]

/-- Entries that are justified by whatever is before them. -/
theorem Justified.append (h : Justified Q log) (houts : ∀ pre, ∀ a ∈ outs, Q pre a) : Justified Q (log ++ outs) :=
  justified_append.2 ⟨h, fun pre a post hlog => houts _ a (by simp [hlog])⟩

theorem Justified.mono (h : Justified Q log) (hQ : ∀ pre a, Q pre a → Q' pre a) : Justified Q' log :=
  fun pre a post hlog => hQ pre a (h pre a post hlog)

def Since (p : List α → α → Prop) (stop : α → Prop) (log : List α) : Prop :=
  ∃ pre a post, log = pre ++ a :: post ∧ p pre a ∧ ∀ b ∈ post, ¬stop b

theorem not_since_nil : ¬Since p stop [] := by
  rintro ⟨pre, a, post, h, -⟩
  simp at h

theorem Since.here (h : p log a) : Since p stop (log ++ [a]) := ⟨log, a, [], rfl, h, by simp⟩

theorem Since.append (h : Since p stop log) (houts : ∀ b ∈ outs, ¬stop b) : Since p stop (log ++ outs) := by
  obtain ⟨pre, a, post, rfl, ha, hpost⟩ := h
  refine ⟨pre, a, post ++ outs, by simp, ha, fun b hb => ?_⟩
  exact (List.mem_append.1 hb).elim (hpost b) (houts b)

/-- The last entry, or one before it. -/
theorem since_concat : Since p stop (log ++ [a]) ↔ p log a ∨ ¬stop a ∧ Since p stop log := by
  constructor
  · rintro ⟨pre, b, post, hlog, hb, hpost⟩
    rcases concat_eq_middle hlog with ⟨-, rfl, rfl⟩ | ⟨post', rfl, rfl⟩
    · exact Or.inl hb
    · exact Or.inr ⟨hpost a (by simp), pre, b, post', rfl, hb, fun x hx => hpost x (by simp [hx])⟩
  · rintro (ha | ⟨ha, h⟩)
    · exact .here ha
    · exact h.append (by simpa using ha)

/-- Entries that neither stop nor are what is looked for. -/
theorem since_append (houts : ∀ pre, ∀ a ∈ outs, ¬stop a ∧ ¬p pre a) : Since p stop (log ++ outs) ↔ Since p stop log := by
  induction outs using List.reverseRecOn with
  | nil => rw [List.append_nil]
  | append_singleton outs a ih =>
    have ha := houts (log ++ outs) a (by simp)
    rw [← List.append_assoc, since_concat, ih fun pre b hb => houts pre b (List.mem_append_left _ hb)]
    simp [ha]

end Log
