import Mathlib.Data.List.Nodup

/-!
# Tables edited by row

A table is a list of rows. An `Edit` appends rows, erases the row at an index or erases them all.

* `Edit.Fresh key` — the appended rows bring no key twice and none that is in use; such edits keep
  the keys of a table pairwise distinct (`nodup_apply`).
* `Edit.KeepsRow r` — the edits under which row `r` stays where it is (`getElem?_apply`).
-/

namespace Table

variable {β κ : Type*}

inductive Edit (β : Type*) where
  | keep
  | append (bs : List β)
  | erase (i : Nat)
  | clear

def Edit.apply : Edit β → List β → List β
  | .keep, rows => rows
  | .append bs, rows => rows ++ bs
  | .erase i, rows => rows.eraseIdx i
  | .clear, _ => []

@[simp] theorem apply_keep (rows : List β) : Edit.keep.apply rows = rows := rfl
@[simp] theorem apply_append (bs rows : List β) : (Edit.append bs).apply rows = rows ++ bs := rfl
@[simp] theorem apply_erase (i : Nat) (rows : List β) : (Edit.erase i).apply rows = rows.eraseIdx i := rfl
@[simp] theorem apply_clear (rows : List β) : Edit.clear.apply rows = [] := rfl

/-! ## Distinct keys -/

def Edit.Fresh (key : β → κ) (rows : List β) : Edit β → Prop
  | .append bs => (bs.map key).Nodup ∧ ∀ b ∈ bs, key b ∉ rows.map key
  | _ => True

theorem nodup_apply {key : β → κ} {rows : List β} (h : (rows.map key).Nodup) {e : Edit β} (he : e.Fresh key rows) :
    ((e.apply rows).map key).Nodup := by
  cases e with
  | keep => exact h
  | append bs =>
    rw [apply_append, List.map_append, List.nodup_append]
    refine ⟨h, he.1, ?_⟩
    intro a ha c hc heq
    obtain ⟨b, hb, rfl⟩ := List.mem_map.1 hc
    exact he.2 b hb (heq ▸ ha)
  | erase i => exact h.sublist ((List.eraseIdx_sublist rows i).map key)
  | clear => exact List.nodup_nil

/-! ## Rows that stay -/

/-- Row `r` is neither erased nor moved. -/
def Edit.KeepsRow (r : Nat) : Edit β → Prop
  | .erase i => r < i
  | .clear => False
  | _ => True

theorem getElem?_apply {r : Nat} {e : Edit β} (he : e.KeepsRow r) {rows : List β} {b : β} (h : rows[r]? = some b) :
    (e.apply rows)[r]? = some b := by
  cases e with
  | keep => exact h
  | append bs =>
    obtain ⟨hr, -⟩ := List.getElem?_eq_some_iff.1 h
    rw [apply_append, List.getElem?_append_left hr, h]
  | erase i => rw [apply_erase, List.getElem?_eraseIdx_of_lt he, h]
  | clear => exact he.elim

end Table
