import Mathlib.Data.List.Basic
import Mathlib.Data.Nat.Notation

/-!
# Memory read and written in runs of cells

A memory without bounds, a cell for each address. C code that is handed a pointer and a size reads
and writes runs of cells in it; whether it keeps to the size is a question about the addresses that
it reads and changes.

* `load`, `store`: a run of cells from an address on.
* `load_store_self`: what is read after a write. `store_load_self`: what is written after a read.
* `Agree`: two memories agree on a range. `load_congr`: what is read depends on the range that is
  read. `agree_store`: what is written changes the range that is written.
-/

namespace Cells

variable {α : Type}

/-- The `n` cells from `p` on. -/
def load (m : ℕ → α) (p n : ℕ) : List α := (List.range n).map fun i => m (p + i)

/-- The memory after the cells from `p` on were written. -/
def store (m : ℕ → α) (p : ℕ) (xs : List α) : ℕ → α :=
  fun a => if p ≤ a then xs[a - p]?.getD (m a) else m a

/-- The memories have the same cells from `p` up to `q`. -/
def Agree (m m' : ℕ → α) (p q : ℕ) : Prop := ∀ a, p ≤ a → a < q → m a = m' a

variable {m m' : ℕ → α} {p q n k a : ℕ} {xs : List α}

@[simp] theorem length_load : (load m p n).length = n := by
  rw [load, List.length_map, List.length_range]

theorem getElem?_load (h : a < n) : (load m p n)[a]? = some (m (p + a)) := by
  rw [load, List.getElem?_map, List.getElem?_range h]
  rfl

/-- A run of cells is two shorter ones. -/
theorem load_add : load m p (n + k) = load m p n ++ load m (p + n) k := by
  rw [load, List.range_add, List.map_append, List.map_map]
  congr 1
  refine List.map_congr_left fun i _ => ?_
  show m (p + (n + i)) = m (p + n + i)
  rw [Nat.add_assoc]

theorem store_of_lt (h : a < p) : store m p xs a = m a := if_neg (Nat.not_le_of_lt h)

theorem store_of_ge (h : p + xs.length ≤ a) : store m p xs a = m a := by
  have hle : p ≤ a := by omega
  have hlen : xs.length ≤ a - p := by omega
  rw [store, if_pos hle, List.getElem?_eq_none hlen]
  rfl

theorem store_add (h : a < xs.length) : store m p xs (p + a) = xs[a] := by
  rw [store, if_pos (Nat.le_add_right p a), Nat.add_sub_cancel_left, List.getElem?_eq_getElem h]
  rfl

/-- **What was written is read.** -/
theorem load_store_self (xs : List α) : load (store m p xs) p xs.length = xs := by
  refine List.ext_getElem length_load fun i hi hi' => ?_
  have hread := getElem?_load (m := store m p xs) (p := p) hi'
  rw [List.getElem?_eq_getElem hi, Option.some_inj] at hread
  exact hread.trans (store_add hi')

/-- What was read is written back. -/
theorem store_load_self : store m p (load m p n) = m := by
  funext a
  rcases Nat.lt_or_ge a p with hbelow | habove
  · exact store_of_lt hbelow
  · rcases Nat.lt_or_ge a (p + n) with hlt | hge
    · rw [store, if_pos habove, getElem?_load (by omega), Nat.add_sub_cancel' habove]
      rfl
    · exact store_of_ge (by rw [length_load]; exact hge)

/-- What is read depends on the cells that are read. -/
theorem load_congr (h : Agree m m' p (p + n)) : load m p n = load m' p n :=
  List.map_congr_left fun i hi =>
    h _ (Nat.le_add_right p i) (Nat.add_lt_add_left (List.mem_range.mp hi) p)

theorem Agree.symm (h : Agree m m' p q) : Agree m' m p q := fun a hp hq => (h a hp hq).symm

theorem Agree.trans {m'' : ℕ → α} (h : Agree m m' p q) (h' : Agree m' m'' p q) :
    Agree m m'' p q :=
  fun a hp hq => (h a hp hq).trans (h' a hp hq)

theorem Agree.mono (h : Agree m m' p q) {p' q' : ℕ} (hp : p ≤ p') (hq : q' ≤ q) :
    Agree m m' p' q' :=
  fun a ha ha' => h a (Nat.le_trans hp ha) (Nat.lt_of_lt_of_le ha' hq)

/-- A write changes no cell outside the range that it writes. -/
theorem agree_store {q' : ℕ} (h : q' ≤ p ∨ p + xs.length ≤ q) : Agree (store m p xs) m q q' := by
  intro a hq hq'
  cases h with
  | inl hbelow => exact store_of_lt (Nat.lt_of_lt_of_le hq' hbelow)
  | inr habove => exact store_of_ge (Nat.le_trans habove hq)

/-- The cell was changed, so it was written. -/
theorem lt_of_store_ne (h : store m p xs a ≠ m a) : p ≤ a ∧ a < p + xs.length := by
  constructor
  · exact Nat.le_of_not_lt fun hlt => h (store_of_lt hlt)
  · exact Nat.lt_of_not_ge fun hge => h (store_of_ge hge)

end Cells
