import Mathlib.Data.List.Basic
import Mathlib.Logic.Function.Basic

/-!
# Contents that are overwritten

A family of cells, each with its contents, and writes that replace the contents of a cell.

* `store` performs writes in order; `lastWrite` is what a cell is left with.
* `store_congr`: what is written does not depend on what was there.
-/

namespace Overwrite

variable {K V : Type} [DecidableEq K]

/-- The contents of the cells after the writes. -/
def store (writes : List (K × V)) (m : K → V) : K → V :=
  writes.foldl (fun m w => Function.update m w.1 w.2) m

/-- The last value written to the cell. -/
def lastWrite (k : K) : List (K × V) → Option V
  | [] => none
  | w :: writes => (lastWrite k writes).or (if w.1 = k then some w.2 else none)

variable {k : K} {m m' : K → V}

@[simp] theorem store_cons (w : K × V) (writes : List (K × V)) :
    store (w :: writes) m = store writes (Function.update m w.1 w.2) := rfl

theorem lastWrite_cons (w : K × V) (writes : List (K × V)) :
    lastWrite k (w :: writes) = (lastWrite k writes).or (if w.1 = k then some w.2 else none) := rfl

/-- **A cell holds what was last written to it**, or else what it held before. -/
theorem store_apply (writes : List (K × V)) :
    store writes m k = (lastWrite k writes).getD (m k) := by
  induction writes generalizing m with
  | nil => rfl
  | cons w writes ih =>
    rw [store_cons, ih, lastWrite_cons]
    cases lastWrite k writes with
    | some v => rfl
    | none =>
      rw [Option.none_or, Option.getD_none]
      by_cases hk : w.1 = k
      · rw [if_pos hk, ← hk, Function.update_self, Option.getD_some]
      · rw [if_neg hk, Function.update_of_ne (Ne.symm hk), Option.getD_none]

theorem lastWrite_isSome {writes : List (K × V)} :
    (lastWrite k writes).isSome ↔ k ∈ writes.map Prod.fst := by
  induction writes with
  | nil => simp [lastWrite]
  | cons w writes ih =>
    rw [List.map_cons, List.mem_cons, ← ih, lastWrite_cons, Option.isSome_or, Bool.or_eq_true]
    by_cases hk : w.1 = k
    · simp [hk]
    · simp [hk, Ne.symm hk]

/-- Writes to other cells may be left out. -/
theorem lastWrite_filter (p : K → Bool) (writes : List (K × V)) :
    lastWrite k (writes.filter fun w => p w.1) = if p k then lastWrite k writes else none := by
  -- induction on the writes; one to another cell never counts
  induction writes with
  | nil => exact (ite_self none).symm
  | cons w writes ih =>
    rw [List.filter_cons, lastWrite_cons]
    by_cases hk : w.1 = k
    · rw [if_pos hk, hk]
      split
      · next hp => rw [lastWrite_cons, ih, if_pos hp, if_pos hk]
      · next hp => rw [ih, if_neg hp]
    · rw [if_neg hk, Option.or_none]
      split
      · rw [lastWrite_cons, if_neg hk, Option.or_none, ih]
      · exact ih

/-- A cell that is written does not depend on what was there. -/
theorem store_congr {writes : List (K × V)} (hk : k ∈ writes.map Prod.fst) :
    store writes m k = store writes m' k := by
  obtain ⟨v, hv⟩ := Option.isSome_iff_exists.mp (lastWrite_isSome.mpr hk)
  rw [store_apply, store_apply, hv]
  rfl

/-- A cell that is not written keeps its contents. -/
theorem store_of_notMem {writes : List (K × V)} (hk : k ∉ writes.map Prod.fst) :
    store writes m k = m k := by
  have hnone : lastWrite k writes = none := by
    rw [← Option.not_isSome_iff_eq_none, lastWrite_isSome]
    exact hk
  rw [store_apply, hnone]
  rfl

end Overwrite
