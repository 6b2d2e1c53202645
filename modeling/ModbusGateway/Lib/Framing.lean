import Mathlib.Data.List.Basic
import Mathlib.Tactic.TypeStar

/-!
# Framing of a stream

A reader of frames looks at what it has not consumed yet: it needs more, gives up the first symbol, or takes
a frame off the front. A verdict that is reached does not change with what comes after it (`Framer`), so the
frames of a stream do not depend on how it arrives (`parse_append`).

* `parse_encoded` — frames that are taken whatever follows them, between noise that is given up, are all found.
* `parse_pieces` — the frames found are pieces of the stream, in order and apart.
-/

namespace Framing

variable {β φ : Type*}

inductive Verdict (φ : Type*) where
  | more
  | skip
  | frame (length : Nat) (f : φ)

structure Framer (β φ : Type*) where
  look : List β → Verdict φ
  look_nil : look [] = .more
  look_skip : ∀ s t, look s = .skip → look (s ++ t) = .skip
  look_frame : ∀ s t n f, look s = .frame n f → look (s ++ t) = .frame n f
  frame_length : ∀ s n f, look s = .frame n f → 0 < n ∧ n ≤ s.length

namespace Framer

variable (F : Framer β φ)

theorem length_pos_of_skip {s : List β} (h : F.look s = .skip) : 0 < s.length := by
  cases s with
  | nil => rw [F.look_nil] at h; cases h
  | cons b s => exact Nat.succ_pos _

/-- The frames of a stream and what is left of it. -/
def parse (s : List β) : List φ × List β :=
  match _h : F.look s with
  | .more => ([], s)
  | .skip => parse s.tail
  | .frame n f => (f :: (parse (s.drop n)).1, (parse (s.drop n)).2)
termination_by s.length
decreasing_by
  · have := F.length_pos_of_skip _h
    rw [List.length_tail]
    omega
  all_goals
    have := F.frame_length s n f _h
    rw [List.length_drop]
    omega

variable {F}

theorem parse_more {s : List β} (h : F.look s = .more) : F.parse s = ([], s) := by
  rw [parse]
  split <;> simp_all

theorem parse_skip {s : List β} (h : F.look s = .skip) : F.parse s = F.parse s.tail := by
  rw [parse]
  split <;> simp_all

theorem parse_frame {s : List β} {n : Nat} {f : φ} (h : F.look s = .frame n f) :
    F.parse s = (f :: (F.parse (s.drop n)).1, (F.parse (s.drop n)).2) := by
  rw [parse]
  split <;> simp_all

/-- **Where the stream is cut does not matter.** -/
theorem parse_append (s t : List β) : F.parse (s ++ t) =
    ((F.parse s).1 ++ (F.parse ((F.parse s).2 ++ t)).1, (F.parse ((F.parse s).2 ++ t)).2) := by
  induction s using parse.induct F with
  | case1 s h => rw [parse_more h]; rfl
  | case2 s h ih =>
    have hpos := F.length_pos_of_skip h
    rw [parse_skip h, parse_skip (F.look_skip s t h), ← ih, List.tail_append_of_ne_nil (List.length_pos_iff.1 hpos)]
  | case3 s n f h ih =>
    obtain ⟨-, hle⟩ := F.frame_length s n f h
    rw [parse_frame h, parse_frame (F.look_frame s t n f h), List.drop_append_of_le_length hle, ih]
    rfl

/-- A piece in front of something that is given up symbol by symbol. -/
theorem parse_noise {noise s : List β} (hs : s ≠ []) (h : ∀ b ∈ noise, ∀ t, t ≠ [] → F.look (b :: t) = .skip) :
    F.parse (noise ++ s) = F.parse s := by
  induction noise with
  | nil => rfl
  | cons b noise ih =>
    have hskip := h b List.mem_cons_self (noise ++ s) (List.append_ne_nil_of_right_ne_nil noise hs)
    rw [List.cons_append, parse_skip hskip, List.tail_cons, ih fun c hc => h c (List.mem_cons_of_mem b hc)]

/-- **Frames between noise are found**, all of them and in order. -/
theorem parse_encoded {encode : φ → List β} {pieces : List (List β × φ)}
    (hframe : ∀ p ∈ pieces, ∀ t, F.look (encode p.2 ++ t) = .frame (encode p.2).length p.2)
    (hnoise : ∀ p ∈ pieces, ∀ b ∈ p.1, ∀ t, t ≠ [] → F.look (b :: t) = .skip) (t : List β) :
    F.parse (pieces.flatMap (fun p => p.1 ++ encode p.2) ++ t) =
      (pieces.map (·.2) ++ (F.parse t).1, (F.parse t).2) := by
  induction pieces with
  | nil => rfl
  | cons p pieces ih =>
    have ih := ih (fun q hq => hframe q (List.mem_cons_of_mem p hq)) fun q hq => hnoise q (List.mem_cons_of_mem p hq)
    have hlook := hframe p List.mem_cons_self
    have hne : encode p.2 ≠ [] := by
      intro hnil
      obtain ⟨hpos, -⟩ := F.frame_length _ _ _ (hlook [])
      rw [hnil] at hpos
      exact Nat.lt_irrefl 0 hpos
    rw [List.flatMap_cons, List.append_assoc, List.append_assoc,
      parse_noise (List.append_ne_nil_of_left_ne_nil hne _) (hnoise p List.mem_cons_self), parse_frame (hlook _),
      List.drop_left, ih]
    rfl

/-- **What is found are pieces of the stream.** -/
theorem parse_pieces {encode : φ → List β} {P : φ → Prop}
    (hframe : ∀ s n f, F.look s = .frame n f → P f ∧ s.take n = encode f) (s : List β) :
    ∃ (pieces : List (List β × φ)) (tail : List β), pieces.map (·.2) = (F.parse s).1 ∧ (∀ p ∈ pieces, P p.2) ∧
      s = pieces.flatMap (fun p => p.1 ++ encode p.2) ++ tail := by
  induction s using parse.induct F with
  | case1 s h =>
    rw [parse_more h]
    exact ⟨[], s, rfl, List.forall_mem_nil _, rfl⟩
  | case2 s h ih =>
    obtain ⟨pieces, tail, hframes, hP, hs⟩ := ih
    rw [parse_skip h]
    obtain ⟨b, s, rfl⟩ := List.exists_cons_of_length_pos (F.length_pos_of_skip h)
    rw [List.tail_cons] at hframes hs ⊢
    -- the symbol that is given up belongs to the noise in front of the next frame
    cases pieces with
    | nil => exact ⟨[], b :: tail, hframes, hP, by rw [hs]; rfl⟩
    | cons p pieces =>
      rw [List.forall_mem_cons] at hP
      exact ⟨(b :: p.1, p.2) :: pieces, tail, hframes, List.forall_mem_cons.2 hP, by rw [hs]; rfl⟩
  | case3 s n f h ih =>
    obtain ⟨pieces, tail, hframes, hP, hs⟩ := ih
    obtain ⟨hf, htake⟩ := hframe s n f h
    rw [parse_frame h]
    refine ⟨([], f) :: pieces, tail, by rw [List.map_cons, hframes], List.forall_mem_cons.2 ⟨hf, hP⟩, ?_⟩
    rw [List.flatMap_cons, List.nil_append, List.append_assoc, ← hs, ← htake, List.take_append_drop]

end Framer

end Framing
