import Mathlib.Algebra.Order.Ring.Int
import Mathlib.Data.Int.Notation
import Mathlib.Data.List.Basic
import Mathlib.Data.Nat.Notation
import Mathlib.Order.Basic
import Mathlib.Tactic.Basic

/-!
# Sets as lists in the order of a comparison

A comparison tells by the sign of a number which of two items comes first. Items that compare equal
stand for the same element of a set, and a set is a list of items in strictly increasing order.

* `Ordered cmp l`: the list is strictly increasing. `put`, `discard` and `putAll` add an item,
  remove it, and add the items of a list one by one.
* `Below xs a`, `Above xs a`: all items come before `a`, or after it. Where a list is cut at `a`,
  the operations are what they do at the cut: `put_between`, `put_replace`, `discard_between`,
  `discard_at`, `putAll_between`.
-/

namespace OrderedLists

variable {α : Type}

/-- A total preorder that is told by the sign of a number. -/
structure Comparison (cmp : α → α → ℤ) : Prop where
  swap : ∀ a b, cmp a b < 0 ↔ 0 < cmp b a
  trans : ∀ a b c, cmp a b ≤ 0 → cmp b c ≤ 0 → cmp a c ≤ 0

/-- The list is strictly increasing. -/
def Ordered (cmp : α → α → ℤ) (l : List α) : Prop := l.Pairwise fun x y => cmp x y < 0

/-- All items of the list come before the item. -/
def Below (cmp : α → α → ℤ) (l : List α) (a : α) : Prop := ∀ x ∈ l, cmp x a < 0

/-- All items of the list come after the item. -/
def Above (cmp : α → α → ℤ) (l : List α) (a : α) : Prop := ∀ x ∈ l, 0 < cmp x a

/-- The item is added. It takes the place of the one that compares equal. -/
def put (cmp : α → α → ℤ) (l : List α) (a : α) : List α :=
  l.filter (fun x => cmp x a < 0) ++ a :: l.filter (fun x => 0 < cmp x a)

/-- The item that compares equal is removed. -/
def discard (cmp : α → α → ℤ) (l : List α) (a : α) : List α :=
  l.filter fun x => cmp x a ≠ 0

/-- The items are added one by one. -/
def putAll (cmp : α → α → ℤ) (l ys : List α) : List α := ys.foldl (put cmp) l

variable {cmp : α → α → ℤ} {l pre post ys : List α} {a x : α}

namespace Comparison

theorem refl (hc : Comparison cmp) (a : α) : cmp a a = 0 := by
  have := hc.swap a a
  omega

theorem eq_comm (hc : Comparison cmp) (a b : α) : cmp a b = 0 ↔ cmp b a = 0 := by
  have := hc.swap a b
  have := hc.swap b a
  omega

theorem lt_of_lt_of_le (hc : Comparison cmp) {a b c : α} (hab : cmp a b < 0) (hbc : cmp b c ≤ 0) :
    cmp a c < 0 := by
  by_contra hge
  -- otherwise `b ≤ c ≤ a`, against `a < b`
  have hca : cmp c a ≤ 0 := by
    have := hc.swap a c
    have := hc.swap c a
    omega
  have hba := hc.trans b c a hbc hca
  have := hc.swap a b
  omega

theorem lt_of_le_of_lt (hc : Comparison cmp) {a b c : α} (hab : cmp a b ≤ 0) (hbc : cmp b c < 0) :
    cmp a c < 0 := by
  by_contra hge
  -- otherwise `c ≤ a ≤ b`, against `b < c`
  have hca : cmp c a ≤ 0 := by
    have := hc.swap a c
    have := hc.swap c a
    omega
  have hcb := hc.trans c a b hca hab
  have := hc.swap b c
  omega

theorem lt_trans (hc : Comparison cmp) {a b c : α} (hab : cmp a b < 0)
    (hbc : cmp b c < 0) : cmp a c < 0 :=
  hc.lt_of_lt_of_le hab hbc.le

end Comparison

/-! ## Cutting a list at an item -/

theorem filter_lt_below (h : Below cmp l a) : l.filter (fun x => cmp x a < 0) = l :=
  List.filter_eq_self.mpr fun x hx => by simpa using h x hx

theorem filter_gt_below (h : Below cmp l a) : l.filter (fun x => 0 < cmp x a) = [] :=
  List.filter_eq_nil_iff.mpr fun x hx => by
    have := h x hx
    simp only [decide_eq_true_eq]
    omega

theorem filter_lt_above (h : Above cmp l a) : l.filter (fun x => cmp x a < 0) = [] :=
  List.filter_eq_nil_iff.mpr fun x hx => by
    have := h x hx
    simp only [decide_eq_true_eq]
    omega

theorem filter_gt_above (h : Above cmp l a) : l.filter (fun x => 0 < cmp x a) = l :=
  List.filter_eq_self.mpr fun x hx => by simpa using h x hx

theorem discard_below (h : Below cmp l a) : discard cmp l a = l :=
  List.filter_eq_self.mpr fun x hx => by simpa using (h x hx).ne

theorem discard_above (h : Above cmp l a) : discard cmp l a = l :=
  List.filter_eq_self.mpr fun x hx => by simpa using (h x hx).ne'

/-- An item that is not there goes between. -/
theorem put_between (hpre : Below cmp pre a) (hpost : Above cmp post a) :
    put cmp (pre ++ post) a = pre ++ a :: post := by
  simp only [put, List.filter_append, filter_lt_below hpre, filter_gt_below hpre,
    filter_lt_above hpost, filter_gt_above hpost, List.append_nil, List.nil_append]

/-- The item takes the place of the one that compares equal. -/
theorem put_replace (hpre : Below cmp pre a) (hx : cmp x a = 0) (hpost : Above cmp post a) :
    put cmp (pre ++ x :: post) a = pre ++ a :: post := by
  simp only [put, List.filter_append, List.filter_cons, hx, lt_irrefl, decide_false,
    Bool.false_eq_true, if_false,
    filter_lt_below hpre, filter_gt_below hpre, filter_lt_above hpost, filter_gt_above hpost,
    List.append_nil, List.nil_append]

theorem discard_between (hpre : Below cmp pre a) (hpost : Above cmp post a) :
    discard cmp (pre ++ post) a = pre ++ post := by
  have happend : discard cmp (pre ++ post) a = discard cmp pre a ++ discard cmp post a :=
    List.filter_append ..
  rw [happend, discard_below hpre, discard_above hpost]

theorem discard_at (hpre : Below cmp pre a) (hx : cmp x a = 0) (hpost : Above cmp post a) :
    discard cmp (pre ++ x :: post) a = pre ++ post := by
  have happend : discard cmp (pre ++ x :: post) a = discard cmp pre a ++ discard cmp post a := by
    simp [discard, List.filter_append, hx]
  rw [happend, discard_below hpre, discard_above hpost]

/-- An ordered list is cut at each of its items, and at those that compare equal to it. -/
theorem Ordered.cut (hc : Comparison cmp) (hl : Ordered cmp (pre ++ x :: post)) (hx : cmp x a = 0) :
    Below cmp pre a ∧ Above cmp post a := by
  obtain ⟨_, hpost, hcross⟩ := List.pairwise_append.mp hl
  refine ⟨fun y hy => ?_, fun y hy => ?_⟩
  · exact hc.lt_of_lt_of_le (hcross y hy x (List.mem_cons_self ..)) hx.le
  · have hxy : cmp x y < 0 := (List.pairwise_cons.mp hpost).1 y hy
    rw [← hc.swap a y]
    exact hc.lt_of_le_of_lt ((hc.eq_comm x a).mp hx).le hxy

/-- The items are in the order of their numbers. -/
theorem Ordered.getElem_le (hc : Comparison cmp) (hl : Ordered cmp l) {i j : ℕ} (hi : i < l.length)
    (hj : j < l.length) (hij : i ≤ j) : cmp l[i] l[j] ≤ 0 := by
  rcases hij.lt_or_eq with hlt | rfl
  · exact (List.pairwise_iff_getElem.mp hl i j hi hj hlt).le
  · exact (hc.refl _).le

/-- When the last item of a list comes before the first one of another, all of its items do. -/
theorem Ordered.lt_of_last_lt_first (hc : Comparison cmp) (hl : Ordered cmp l)
    (hys : Ordered cmp ys) (hlast : l.length - 1 < l.length) (hfirst : 0 < ys.length)
    (hlt : cmp l[l.length - 1] ys[0] < 0) : ∀ x ∈ l, ∀ y ∈ ys, cmp x y < 0 := by
  intro x hx y hy
  obtain ⟨i, hi, rfl⟩ := List.getElem_of_mem hx
  obtain ⟨j, hj, rfl⟩ := List.getElem_of_mem hy
  have hle : cmp l[i] l[l.length - 1] ≤ 0 := hl.getElem_le hc hi hlast (by omega)
  have hge : cmp ys[0] ys[j] ≤ 0 := hys.getElem_le hc hfirst hj (Nat.zero_le j)
  exact hc.lt_of_lt_of_le (hc.lt_of_le_of_lt hle hlt) hge

/-! ## Ordered lists stay ordered -/

theorem Ordered.filter (hl : Ordered cmp l) (p : α → Bool) : Ordered cmp (l.filter p) :=
  List.Pairwise.filter p hl

theorem Ordered.discard (hl : Ordered cmp l) (a : α) : Ordered cmp (discard cmp l a) := hl.filter _

theorem Ordered.put (hc : Comparison cmp) (hl : Ordered cmp l)
    (a : α) : Ordered cmp (put cmp l a) := by
  have hlt : ∀ x ∈ l.filter (fun x => cmp x a < 0), cmp x a < 0 := fun x hx => by
    simpa using (List.mem_filter.mp hx).2
  have hgt : ∀ y ∈ l.filter (fun x => 0 < cmp x a), cmp a y < 0 := fun y hy => by
    rw [hc.swap]
    simpa using (List.mem_filter.mp hy).2
  refine List.pairwise_append.mpr ⟨hl.filter _, List.pairwise_cons.mpr ⟨hgt, hl.filter _⟩,
    fun x hx y hy => ?_⟩
  cases hy with
  | head => exact hlt x hx
  | tail _ hy => exact hc.lt_trans (hlt x hx) (hgt y hy)

theorem Ordered.putAll (hc : Comparison cmp) (hl : Ordered cmp l)
    (ys : List α) : Ordered cmp (putAll cmp l ys) := by
  induction ys generalizing l with
  | nil => exact hl
  | cons y ys ih => exact ih (hl.put hc y)

/-! ## Adding many items -/

/-- The items of an ordered list that fits between are added there. -/
theorem putAll_between (hys : Ordered cmp ys) (hpre : ∀ y ∈ ys, Below cmp pre y)
    (hpost : ∀ y ∈ ys, Above cmp post y) : putAll cmp (pre ++ post) ys = pre ++ ys ++ post := by
  -- induction on the items, each of which goes in between those before and those after
  induction ys generalizing pre with
  | nil => simp [putAll]
  | cons y ys ih =>
    obtain ⟨hy, hys⟩ := List.pairwise_cons.mp hys
    have hput : put cmp (pre ++ post) y = (pre ++ [y]) ++ post := by
      rw [put_between (hpre y (List.mem_cons_self ..)) (hpost y (List.mem_cons_self ..))]
      simp
    have hnext : ∀ z ∈ ys, Below cmp (pre ++ [y]) z := fun z hz x hx => by
      rcases List.mem_append.mp hx with hx | hx
      · exact hpre z (List.mem_cons_of_mem _ hz) x hx
      · obtain rfl := List.mem_singleton.mp hx
        exact hy z hz
    calc putAll cmp (pre ++ post) (y :: ys)
        = putAll cmp ((pre ++ [y]) ++ post) ys := by rw [putAll, List.foldl_cons, hput, putAll]
      _ = (pre ++ [y]) ++ ys ++ post := ih hys hnext fun z hz => hpost z (List.mem_cons_of_mem _ hz)
      _ = pre ++ (y :: ys) ++ post := by simp

/-- An item that is there already is added without effect. -/
theorem put_mem (hc : Comparison cmp) (hl : Ordered cmp l) (hx : x ∈ l) : put cmp l x = l := by
  obtain ⟨pre, post, rfl⟩ := List.append_of_mem hx
  obtain ⟨hpre, hpost⟩ := hl.cut hc (hc.refl x)
  exact put_replace hpre (hc.refl x) hpost

theorem putAll_mem (hc : Comparison cmp) (hl : Ordered cmp l)
    (hys : ∀ y ∈ ys, y ∈ l) : putAll cmp l ys = l := by
  induction ys with
  | nil => rfl
  | cons y ys ih =>
    rw [putAll, List.foldl_cons, put_mem hc hl (hys y (List.mem_cons_self ..))]
    exact ih fun z hz => hys z (List.mem_cons_of_mem _ hz)

end OrderedLists
