import Mathlib.Data.List.DropRight

/-!
# Delimited text

Texts are lists over any alphabet; `d` is a delimiter and `ws` a class of blanks.

* `getlines d t` — the pieces a `while (getline(in, line, d))` loop yields: the text cut at every
  `d`, where a last piece that no `d` ends is yielded only if it is not empty.
* `Terminated d t` — `t` is empty or ends with `d`; `unfinished d t` is what follows the last `d`.
  Appending to a terminated text appends lines (`getlines_append`).
* `trim ws t` — blanks removed at both ends.
* `joinEnd d fs` — every field followed by `d`.
* `takeWhile_cut`, `dropWhile_cut` — a first token of a text cut short is a first token cut short.
* `PrefixFree.flatMap_injective` — a text whose letters are written as words none of which starts another can be told
  from what is written.
-/

namespace Text

variable {α : Type} {d : α}

/-! ## Lines -/

section
variable [DecidableEq α]

def getlines (d : α) : List α → List (List α)
  | [] => []
  | c :: t =>
    if c = d then [] :: getlines d t
    else match getlines d t with
      | [] => [[c]]
      | l :: ls => (c :: l) :: ls

@[simp] theorem getlines_nil : getlines d [] = [] := rfl

theorem getlines_cons (c : α) (t : List α) : getlines d (c :: t) =
    if c = d then [] :: getlines d t
    else match getlines d t with
      | [] => [[c]]
      | l :: ls => (c :: l) :: ls := rfl

@[simp] theorem getlines_delim (t : List α) : getlines d (d :: t) = [] :: getlines d t := by
  simp [getlines]

/-- One line read up to its delimiter. -/
theorem getlines_line {l : List α} (h : d ∉ l) (t : List α) :
    getlines d (l ++ d :: t) = l :: getlines d t := by
  induction l with
  | nil => simp
  | cons c l ih =>
    simp only [List.mem_cons, not_or] at h
    simp only [List.cons_append, getlines, Ne.symm h.1, ↓reduceIte, ih h.2]

/-- The last line, which no delimiter ends. -/
theorem getlines_last {l : List α} (h : d ∉ l) (hne : l ≠ []) : getlines d l = [l] := by
  induction l with
  | nil => exact absurd rfl hne
  | cons c l ih =>
    simp only [List.mem_cons, not_or] at h
    cases l with
    | nil => simp [getlines, Ne.symm h.1]
    | cons c' l => rw [getlines, ih h.2 (by simp)]; simp [Ne.symm h.1]

theorem bne_of_not_mem {t : List α} (h : d ∉ t) : ∀ c ∈ t, (c != d) = true := by
  intro c hc
  rw [bne_iff_ne]
  rintro rfl
  exact h hc

theorem not_mem_of_mem_getlines {l : List α} : ∀ {t : List α}, l ∈ getlines d t → d ∉ l
  | [], h => by simp at h
  | c :: t, h => by
    have ih := @not_mem_of_mem_getlines l t
    rw [getlines] at h
    split at h
    · rcases List.mem_cons.1 h with rfl | h
      · simp
      · exact ih h
    · rename_i hc
      split at h
      · rw [List.mem_singleton.1 h]; simpa using Ne.symm hc
      · rename_i l' ls he
        rcases List.mem_cons.1 h with rfl | h
        · have := @not_mem_of_mem_getlines l' t (by simp [he])
          simp [Ne.symm hc, this]
        · exact ih (by simp [he, h])

/-- Lines are made of the text's own letters. -/
theorem mem_of_mem_getlines {l : List α} {a : α} (ha : a ∈ l) : ∀ {t : List α}, l ∈ getlines d t → a ∈ t
  | [], h => by simp at h
  | c :: t, h => by
    have ih := @mem_of_mem_getlines l a ha t
    rw [getlines] at h
    split at h
    · rcases List.mem_cons.1 h with rfl | h
      · simp at ha
      · exact List.mem_cons_of_mem c (ih h)
    · split at h
      · rw [List.mem_singleton.1 h] at ha; simp [List.mem_singleton.1 ha]
      · rename_i l' ls he
        rcases List.mem_cons.1 h with rfl | h
        · rcases List.mem_cons.1 ha with rfl | ha
          · simp
          · exact List.mem_cons_of_mem c (mem_of_mem_getlines ha (he ▸ List.mem_cons_self))
        · exact List.mem_cons_of_mem c (ih (he ▸ List.mem_cons_of_mem l' h))

/-- At most one line more than there are delimiters. -/
theorem length_getlines_le (t : List α) : (getlines d t).length ≤ t.count d + 1 := by
  induction t with
  | nil => simp
  | cons c t ih =>
    rw [getlines_cons]
    split
    · rename_i h; subst h; simp [ih]
    · rename_i h
      rw [List.count_cons_of_ne h]
      split
      · simp
      · rename_i he; rw [he] at ih; exact ih

/-- The first line starts where the text does. -/
theorem head?_getlines {t l : List α} {ls : List (List α)} (h : getlines d t = l :: ls) :
    l = [] ∨ l.head? = t.head? := by
  cases t with
  | nil => simp at h
  | cons c t =>
    rw [getlines_cons] at h
    split at h
    · exact .inl (List.cons.inj h).1.symm
    · split at h
      · rw [← (List.cons.inj h).1]; exact .inr rfl
      · rw [← (List.cons.inj h).1]; exact .inr rfl

theorem getlines_ne_nil : ∀ {t : List α}, t ≠ [] → getlines d t ≠ []
  | [], h => absurd rfl h
  | c :: t, _ => by
    rw [getlines]
    split
    · simp
    · split <;> simp

end

/-! ## Terminated texts -/

/-- Empty, or ended by the delimiter. -/
def Terminated (d : α) (t : List α) : Prop := t = [] ∨ ∃ u, t = u ++ [d]

theorem terminated_nil : Terminated d [] := .inl rfl

theorem terminated_snoc (u : List α) : Terminated d (u ++ [d]) := .inr ⟨u, rfl⟩

theorem Terminated.cons {t : List α} (h : Terminated d t) (hd : d ∈ t) (c : α) : Terminated d (c :: t) := by
  rcases h with rfl | ⟨u, rfl⟩
  · simp at hd
  · exact .inr ⟨c :: u, rfl⟩

theorem Terminated.append {s t : List α} (hs : Terminated d s) (ht : Terminated d t) : Terminated d (s ++ t) := by
  rcases ht with rfl | ⟨u, rfl⟩
  · simpa using hs
  · exact .inr ⟨s ++ u, by simp⟩

section
variable [DecidableEq α]

/-- Lines appended to a terminated text are the lines of the appended text. -/
theorem getlines_append : ∀ {s : List α}, Terminated d s → ∀ t, getlines d (s ++ t) = getlines d s ++ getlines d t
  | [], _, t => by simp
  | [c], h, t => by
    rcases h with h | ⟨u, hu⟩
    · simp at h
    · cases u with
      | nil => simp at hu; subst hu; simp
      | cons _ _ => simp at hu
  | c :: c' :: s, h, t => by
    have h' : Terminated d (c' :: s) := by
      rcases h with h | ⟨u, hu⟩
      · simp at h
      · cases u with
        | nil => simp at hu
        | cons _ u => exact .inr ⟨u, (List.cons.inj hu).2⟩
    have ih := getlines_append h' t
    rw [List.cons_append, getlines_cons c, getlines_cons c, ih]
    split
    · rfl
    · cases hg : getlines d (c' :: s) with
      | nil => exact absurd hg (getlines_ne_nil (by simp))
      | cons l ls => rfl

/-- What follows the last delimiter. -/
def unfinished (d : α) : List α → List α
  | [] => []
  | c :: t => if d ∈ c :: t then unfinished d t else c :: t

theorem not_mem_unfinished (t : List α) : d ∉ unfinished d t := by
  induction t with
  | nil => simp [unfinished]
  | cons c t ih =>
    rw [unfinished]
    split
    · exact ih
    · assumption

theorem unfinished_eq_self {t : List α} (h : d ∉ t) : unfinished d t = t := by
  cases t with
  | nil => rfl
  | cons c t => rw [unfinished, if_neg h]

/-- A text is a terminated part followed by its unfinished line. -/
theorem exists_terminated (t : List α) : ∃ s, Terminated d s ∧ t = s ++ unfinished d t := by
  induction t with
  | nil => exact ⟨[], terminated_nil, rfl⟩
  | cons c t ih =>
    rw [unfinished]
    split
    · rename_i hd
      obtain ⟨s, hs, ht⟩ := ih
      by_cases hm : d ∈ s
      · exact ⟨c :: s, hs.cons hm c, by rw [List.cons_append, ← ht]⟩
      · have hs0 : s = [] := by
          rcases hs with rfl | ⟨u, rfl⟩
          · rfl
          · simp at hm
        subst hs0
        have hdt : d ∉ t := by rw [List.nil_append] at ht; rw [ht]; exact not_mem_unfinished t
        obtain rfl | hd := List.mem_cons.1 hd
        · exact ⟨[d], terminated_snoc [], by rw [unfinished_eq_self hdt]; rfl⟩
        · exact absurd hd hdt
    · exact ⟨[], terminated_nil, rfl⟩

theorem unfinished_eq_nil_iff {t : List α} : unfinished d t = [] ↔ Terminated d t := by
  obtain ⟨s, hs, ht⟩ := exists_terminated (d := d) t
  constructor
  · intro h; rw [h, List.append_nil] at ht; exact ht ▸ hs
  · rintro (rfl | ⟨u, hu⟩)
    · rfl
    · by_contra hne
      have hlast : (s ++ unfinished d t).getLast? = some d := by rw [← ht, hu]; simp
      rw [List.getLast?_append_of_ne_nil _ hne] at hlast
      exact not_mem_unfinished t (List.mem_of_getLast? hlast)

instance (t : List α) : Decidable (Terminated d t) := decidable_of_iff _ unfinished_eq_nil_iff

end

/-! ## Fields -/

/-- Every field followed by the delimiter. -/
def joinEnd (d : α) (fs : List (List α)) : List α := fs.flatMap (· ++ [d])

@[simp] theorem joinEnd_nil : joinEnd d ([] : List (List α)) = [] := rfl

@[simp] theorem joinEnd_cons (f : List α) (fs : List (List α)) : joinEnd d (f :: fs) = f ++ d :: joinEnd d fs := by
  simp [joinEnd]

theorem terminated_joinEnd (fs : List (List α)) : Terminated d (joinEnd d fs) := by
  induction fs with
  | nil => exact terminated_nil
  | cons f fs ih =>
    have : joinEnd d (f :: fs) = (f ++ [d]) ++ joinEnd d fs := by simp
    rw [this]
    exact (terminated_snoc f).append ih

/-- A join cut short is cut inside one field, or just before its delimiter. -/
theorem take_joinEnd {fs : List (List α)} {n : Nat} (h : n < (joinEnd d fs).length) :
    ∃ done f rest k, fs = done ++ f :: rest ∧ k ≤ f.length ∧
      (joinEnd d fs).take n = joinEnd d done ++ f.take k ∧
      (joinEnd d fs).length + k = n + f.length + 1 + (joinEnd d rest).length := by
  induction fs generalizing n with
  | nil => simp at h
  | cons f fs ih =>
    rw [joinEnd_cons, List.length_append, List.length_cons] at h
    by_cases hn : n ≤ f.length
    · refine ⟨[], f, fs, n, rfl, hn, ?_, ?_⟩
      · rw [joinEnd_cons, List.take_append_of_le_length hn]; rfl
      · rw [joinEnd_cons, List.length_append, List.length_cons]; omega
    · obtain ⟨m, rfl⟩ : ∃ m, n = f.length + (m + 1) := ⟨n - f.length - 1, by omega⟩
      obtain ⟨done, g, rest, k, rfl, hk, htake, hlen⟩ := ih (n := m) (by omega)
      refine ⟨f :: done, g, rest, k, rfl, hk, ?_, ?_⟩
      · rw [joinEnd_cons, List.take_length_add_append, List.take_succ_cons, htake, joinEnd_cons]
        simp
      · rw [joinEnd_cons, List.length_append, List.length_cons]; omega

section
variable [DecidableEq α]

/-- Fields free of the delimiter are read back from their join. -/
theorem getlines_joinEnd {fs : List (List α)} (h : ∀ f ∈ fs, d ∉ f) : getlines d (joinEnd d fs) = fs := by
  induction fs with
  | nil => rfl
  | cons f fs ih =>
    rw [joinEnd_cons, getlines_line (h f (by simp)), ih (fun g hg => h g (by simp [hg]))]

theorem count_joinEnd {fs : List (List α)} (h : ∀ f ∈ fs, d ∉ f) : (joinEnd d fs).count d = fs.length := by
  induction fs with
  | nil => rfl
  | cons f fs ih =>
    rw [joinEnd_cons, List.count_append, List.count_cons_self, ih (fun g hg => h g (by simp [hg])),
      List.count_eq_zero_of_not_mem (h f (by simp)), Nat.zero_add, List.length_cons]

/-- The same with a last field that no delimiter ends. -/
theorem getlines_joinEnd_append {fs : List (List α)} (h : ∀ f ∈ fs, d ∉ f) {l : List α} (hl : d ∉ l) (hne : l ≠ []) :
    getlines d (joinEnd d fs ++ l) = fs ++ [l] := by
  rw [getlines_append (terminated_joinEnd fs), getlines_joinEnd h, getlines_last hl hne]

/-- Fields with the delimiter only between them, none of them empty. -/
theorem getlines_intercalate {fs : List (List α)} (h : ∀ f ∈ fs, d ∉ f ∧ f ≠ []) :
    getlines d ([d].intercalate fs) = fs := by
  induction fs with
  | nil => rfl
  | cons f fs ih =>
    obtain ⟨hf, hne⟩ := h f List.mem_cons_self
    have ih := ih fun g hg => h g (List.mem_cons_of_mem f hg)
    cases fs with
    | nil => rw [List.intercalate_singleton, getlines_last hf hne]
    | cons g gs =>
      rw [List.intercalate_cons_cons, List.append_assoc, List.singleton_append, getlines_line hf, ih]

end

/-! ## Trimming -/

section
variable {ws : α → Bool}

/-- Blanks removed at both ends. -/
def trim (ws : α → Bool) (t : List α) : List α := (t.dropWhile ws).rdropWhile ws

@[simp] theorem trim_nil : trim ws ([] : List α) = [] := rfl

/-- No blank at either end. -/
def Trimmed (ws : α → Bool) (t : List α) : Prop :=
  (∀ a ∈ t.head?, ws a = false) ∧ ∀ a ∈ t.getLast?, ws a = false

theorem trim_of_trimmed {t : List α} (h : Trimmed ws t) : trim ws t = t := by
  cases t with
  | nil => rfl
  | cons a t =>
    have ha : ws a = false := h.1 a (by simp)
    rw [trim, List.dropWhile_cons_of_neg (by simp [ha]), List.rdropWhile_eq_self_iff]
    intro hl
    simpa using h.2 _ (List.getLast?_eq_getLast_of_ne_nil hl)

theorem trimmed_of_forall {t : List α} (h : ∀ a ∈ t, ws a = false) : Trimmed ws t :=
  ⟨fun a ha => h a (List.mem_of_head? ha), fun a ha => h a (List.mem_of_getLast? ha)⟩

theorem trimmed_trim (t : List α) : Trimmed ws (trim ws t) := by
  constructor
  · intro a ha
    have hp : trim ws t <+: t.dropWhile ws := List.rdropWhile_prefix ..
    obtain ⟨r, hr⟩ := hp
    cases hx : trim ws t with
    | nil => rw [hx] at ha; simp at ha
    | cons b s =>
      rw [hx] at ha hr
      have hb := List.head?_dropWhile_not ws t
      rw [← hr] at hb
      simp at ha hb
      exact ha ▸ hb
  · intro a ha
    have hne : trim ws t ≠ [] := by intro h; rw [h] at ha; simp at ha
    have := List.rdropWhile_last_not ws (t.dropWhile ws) hne
    rw [List.getLast?_eq_getLast_of_ne_nil hne] at ha
    simp only [Option.mem_def, Option.some.injEq] at ha
    rw [← ha]
    simpa [trim] using this

@[simp] theorem trim_trim (t : List α) : trim ws (trim ws t) = trim ws t := trim_of_trimmed (trimmed_trim t)

/-- A text is its trimmed part between blanks. -/
theorem exists_trim (t : List α) :
    ∃ p q, (∀ a ∈ p, ws a = true) ∧ (∀ a ∈ q, ws a = true) ∧ t = p ++ trim ws t ++ q := by
  refine ⟨t.takeWhile ws, (t.dropWhile ws).rtakeWhile ws, fun a ha => List.mem_takeWhile_imp ha,
    fun a ha => List.mem_rtakeWhile_imp ha, ?_⟩
  rw [trim, List.append_assoc, List.rdropWhile_append_rtakeWhile, List.takeWhile_append_dropWhile]

theorem trim_eq_nil_iff {t : List α} : trim ws t = [] ↔ ∀ a ∈ t, ws a = true := by
  rw [trim, List.rdropWhile_eq_nil_iff]
  constructor
  · intro h a ha
    rw [← List.takeWhile_append_dropWhile (p := ws) (l := t)] at ha
    rcases List.mem_append.1 ha with ha | ha
    · exact List.mem_takeWhile_imp ha
    · exact h a ha
  · intro h a ha
    exact h a ((List.dropWhile_suffix ws).mem ha)

theorem trim_blank_append {p : List α} (hp : ∀ a ∈ p, ws a = true) (t : List α) : trim ws (p ++ t) = trim ws t := by
  rw [trim, List.dropWhile_append_of_pos hp, trim]

theorem trim_append_blank {q : List α} (hq : ∀ a ∈ q, ws a = true) (t : List α) : trim ws (t ++ q) = trim ws t := by
  obtain ⟨p, r, hp, hr, he⟩ := @exists_trim _ ws t
  have hlast : ∀ u : List α, (∀ a ∈ u, ws a = true) → (trim ws t ++ u).rdropWhile ws = trim ws t := by
    intro u hu
    induction u using List.reverseRecOn with
    | nil =>
      rw [List.append_nil, List.rdropWhile_eq_self_iff]
      intro hl
      simpa using (trimmed_trim t).2 _ (List.getLast?_eq_getLast_of_ne_nil hl)
    | append_singleton u a ih =>
      rw [← List.append_assoc, List.rdropWhile_concat_pos _ _ _ (hu a (by simp))]
      exact ih fun b hb => hu b (by simp [hb])
  have hrq : ∀ a ∈ r ++ q, ws a = true := by
    intro a ha
    rcases List.mem_append.1 ha with ha | ha
    · exact hr a ha
    · exact hq a ha
  by_cases hnil : trim ws t = []
  · have hall : ∀ a ∈ t ++ q, ws a = true := by
      intro a ha
      rcases List.mem_append.1 ha with ha | ha
      · exact trim_eq_nil_iff.1 hnil a ha
      · exact hq a ha
    rw [hnil, trim_eq_nil_iff.2 hall]
  · have hd : (trim ws t ++ (r ++ q)).dropWhile ws = trim ws t ++ (r ++ q) := by
      cases hx : trim ws t with
      | nil => exact absurd hx hnil
      | cons b s =>
        have hb : ws b = false := (@trimmed_trim _ ws t).1 b (by simp [hx])
        rw [List.cons_append, List.dropWhile_cons_of_neg (by simp [hb])]
    conv_lhs => rw [he, List.append_assoc, List.append_assoc, trim_blank_append hp, trim, hd]
    exact hlast _ hrq

theorem mem_of_mem_trim {a : α} {t : List α} (h : a ∈ trim ws t) : a ∈ t :=
  (List.dropWhile_suffix ws).mem ((List.rdropWhile_prefix ..).mem h)

end

/-! ## Cut texts -/

section
variable {p : α → Bool} {s t : List α}

/-- A text cut short starts with a cut run of letters, -/
theorem takeWhile_cut (h : s <+: t) : s.takeWhile p <+: t.takeWhile p := by
  obtain ⟨r, rfl⟩ := h
  rw [List.takeWhile_append]
  split
  · exact (List.takeWhile_prefix p).trans (List.prefix_append s _)
  · exact List.prefix_rfl

/-- and what follows the run is cut too. -/
theorem dropWhile_cut (h : s <+: t) : s.dropWhile p <+: t.dropWhile p := by
  obtain ⟨r, rfl⟩ := h
  rw [List.dropWhile_append]
  split
  · rename_i hnil
    rw [List.isEmpty_iff.1 hnil]
    exact List.nil_prefix
  · exact List.prefix_append _ _

end

/-! ## Texts written letter by letter -/

section
variable {β : Type} {e : α → List β}

/-- No word starts another, and none is empty. -/
structure PrefixFree (e : α → List β) : Prop where
  nonempty : ∀ a, e a ≠ []
  eq_of_start : ∀ a b, e a <+: e b → a = b

/-- The first letter is told by the first word. -/
theorem PrefixFree.head_eq (h : PrefixFree e) {a b : α} {s t : List β} (heq : e a ++ s = e b ++ t) : a = b := by
  have ha : e a <+: e b ++ t := heq ▸ List.prefix_append (e a) s
  rcases List.prefix_or_prefix_of_prefix ha (List.prefix_append (e b) t) with hab | hba
  · exact h.eq_of_start a b hab
  · exact (h.eq_of_start b a hba).symm

/-- **Different texts are written differently.** -/
theorem PrefixFree.flatMap_injective (h : PrefixFree e) : Function.Injective fun s : List α => s.flatMap e := by
  intro s
  induction s with
  | nil =>
    intro t heq
    cases t with
    | nil => rfl
    | cons b t =>
      have hnil : e b ++ t.flatMap e = [] := heq.symm
      exact absurd (List.append_eq_nil_iff.1 hnil).1 (h.nonempty b)
  | cons a s ih =>
    intro t heq
    cases t with
    | nil =>
      have hnil : e a ++ s.flatMap e = [] := heq
      exact absurd (List.append_eq_nil_iff.1 hnil).1 (h.nonempty a)
    | cons b t =>
      have hwords : e a ++ s.flatMap e = e b ++ t.flatMap e := heq
      obtain rfl := h.head_eq hwords
      rw [ih (List.append_cancel_left hwords)]

end

end Text
