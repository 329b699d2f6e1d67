import Mathlib.Data.List.Basic
import Mathlib.Logic.Function.Basic

/-!
# Singly linked lists in memory

A memory of link fields is a function `next : α → Option α` from nodes to pointers; the null pointer
is `none`.

* `Path next p xs q`: following the links from the pointer `p` visits the nodes `xs` in order and
  ends at the pointer `q`. `Path next head xs none` is the null-terminated list `xs` at `head`.
* `find next head a fuel`: the walk with a pointer to a link (`pp = &head; *pp != NULL;
  pp = &(*pp)->next`) that looks for the node `a`; on a list the walk stops, with enough fuel, at
  the link that points to `a`, or finds nothing (`find_path`).
* `unlink`: `*pp = (*pp)->next` at the link the walk stopped at removes exactly `a`
  (`Path.unlink`).
-/

namespace LinkedList

variable {α : Type}

/-- Following the links from `p` visits `xs` and ends at the pointer `q`. -/
def Path (next : α → Option α) : Option α → List α → Option α → Prop
  | p, [], q => p = q
  | p, x :: xs, q => p = some x ∧ Path next (next x) xs q

variable {next : α → Option α} {p q r : Option α} {x a : α} {xs ys : List α}

@[simp] theorem path_nil : Path next p [] q ↔ p = q := Iff.rfl

@[simp] theorem path_cons :
    Path next p (x :: xs) q ↔ p = some x ∧ Path next (next x) xs q := Iff.rfl

/-- A path starts at its first node, or at its end if it has none. -/
theorem Path.head_eq (h : Path next p xs (some a)) : p = some (xs.headD a) := by
  cases xs with
  | nil => exact h
  | cons x xs => exact h.1

/-- A path reads only the links of its own nodes. -/
theorem Path.congr {next' : α → Option α} (h : Path next p xs q)
    (hagree : ∀ x ∈ xs, next' x = next x) : Path next' p xs q := by
  induction xs generalizing p with
  | nil => exact h
  | cons x xs ih =>
    refine ⟨h.1, ?_⟩
    rw [hagree x List.mem_cons_self]
    exact ih h.2 fun y hy => hagree y (List.mem_cons_of_mem x hy)

/-- Following the links from one pointer to null visits one list only. -/
theorem Path.unique (hx : Path next p xs none) (hy : Path next p ys none) : xs = ys := by
  induction xs generalizing p ys with
  | nil =>
    cases ys with
    | nil => rfl
    | cons y ys => exact absurd (hx.symm.trans hy.1) (by simp)
  | cons x xs ih =>
    cases ys with
    | nil => exact absurd (hy.symm.trans hx.1) (by simp)
    | cons y ys =>
      obtain rfl : x = y := Option.some.inj (hx.1.symm.trans hy.1)
      rw [ih hx.2 hy.2]

/-! ### Links -/

/-- A place that holds a pointer: the head of the list or the link field of a node. -/
inductive Link (α : Type)
  | head
  | next (a : α)
  deriving DecidableEq, Repr

/-- `*pp`: what the head or the link field of a node points to. -/
def Link.deref (next : α → Option α) (head : Option α) : Link α → Option α
  | .head => head
  | .next a => next a

/-- The link a walk from `pp` over the nodes `xs` ends at. -/
def lastLink (pp : Link α) (xs : List α) : Link α :=
  xs.foldl (fun _ x => .next x) pp

/-- After at least one node the walk is at the link field of a node it visited. -/
theorem lastLink_cons (pp : Link α) (x : α) (xs : List α) :
    ∃ c ∈ x :: xs, lastLink pp (x :: xs) = .next c := by
  induction xs generalizing x pp with
  | nil => exact ⟨x, List.mem_cons_self, rfl⟩
  | cons y ys ih =>
    obtain ⟨c, hc, hlast⟩ := ih (.next x) y
    exact ⟨c, List.mem_cons_of_mem x hc, hlast⟩

variable [DecidableEq α]

/-- Changing the link of a node off the path keeps the path. -/
theorem Path.update_of_notMem (h : Path next p xs q) (ha : a ∉ xs) (v : Option α) :
    Path (Function.update next a v) p xs q :=
  h.congr fun x hx => by
    have hxa : x ≠ a := fun e => ha (e ▸ hx)
    simp [hxa]

/-- Pushing a node that is not on the list in front of it. -/
theorem Path.push (h : Path next p xs q) (ha : a ∉ xs) :
    Path (Function.update next a p) (some a) (a :: xs) q :=
  ⟨rfl, by simpa using h.update_of_notMem ha p⟩

/-! ### The walk with a pointer to a link -/

/-- `for (pp = …; *pp != NULL; pp = &(*pp)->next) if (a == *pp) break;` from the link `pp`. The
result is `none` when the fuel does not suffice, `some none` when the walk reaches the null pointer
and `some (some pp)` when it breaks at `pp`. -/
def find (next : α → Option α) (head : Option α) (a : α) : ℕ → Link α → Option (Option (Link α))
  | 0, _ => none
  | fuel + 1, pp =>
    match pp.deref next head with
    | none => some none
    | some c => if a = c then some (some pp) else find next head a fuel (.next c)

/-- `*pp = v`: the head or the link field of a node is written. Both are returned, as either may be
the one. -/
def store (next : α → Option α) (head : Option α) (v : Option α) :
    Link α → (α → Option α) × Option α
  | .head => (next, v)
  | .next b => (Function.update next b v, head)

variable {head : Option α}

/-- More fuel does not change where the walk stops. -/
theorem find_mono {fuel fuel' : ℕ} {pp : Link α} {res : Option (Link α)}
    (h : find next head a fuel pp = some res) (hle : fuel ≤ fuel') :
    find next head a fuel' pp = some res := by
  -- more fuel makes a difference only where the walk goes on
  induction fuel generalizing fuel' pp with
  | zero => cases h
  | succ fuel ih =>
    obtain ⟨fuel', rfl⟩ : ∃ n, fuel' = n + 1 := ⟨fuel' - 1, by omega⟩
    unfold find at h ⊢
    split
    · next hd => simpa [hd] using h
    · next c hd =>
      simp only [hd] at h
      -- the walk stops at the node, or goes on
      split
      · next hc => simpa [hc] using h
      · next hc =>
        rw [if_neg hc] at h
        exact ih h (by omega)

/-- **The walk misses what is not on the list.** -/
theorem find_of_notMem {pp : Link α} (h : Path next (pp.deref next head) xs none) (ha : a ∉ xs)
    {fuel : ℕ} (hfuel : xs.length < fuel) : find next head a fuel pp = some none := by
  -- induction on the list: the walk goes past nodes that are not `a`
  induction xs generalizing pp fuel with
  | nil =>
    obtain ⟨fuel, rfl⟩ : ∃ n, fuel = n + 1 := ⟨fuel - 1, by omega⟩
    have hd : pp.deref next head = none := h
    simp [find, hd]
  | cons x xs ih =>
    simp only [List.length_cons] at hfuel
    obtain ⟨fuel, rfl⟩ : ∃ n, fuel = n + 1 := ⟨fuel - 1, by omega⟩
    have hax : a ≠ x := fun e => ha (e ▸ List.mem_cons_self)
    simp only [find, h.1, if_neg hax]
    have htail : Path next ((Link.next x).deref next head) xs none := h.2
    exact ih htail (fun hm => ha (List.mem_cons_of_mem x hm)) (by omega)

/-- **The walk stops at the link that points to the node.** -/
theorem find_of_path {pp : Link α} (h : Path next (pp.deref next head) (xs ++ a :: ys) none)
    (ha : a ∉ xs) {fuel : ℕ} (hfuel : xs.length < fuel) :
    find next head a fuel pp = some (some (lastLink pp xs)) := by
  -- induction on what lies before the node
  induction xs generalizing pp fuel with
  | nil =>
    obtain ⟨fuel, rfl⟩ : ∃ n, fuel = n + 1 := ⟨fuel - 1, by omega⟩
    simp [find, h.1, lastLink]
  | cons x xs ih =>
    simp only [List.length_cons] at hfuel
    obtain ⟨fuel, rfl⟩ : ∃ n, fuel = n + 1 := ⟨fuel - 1, by omega⟩
    have hax : a ≠ x := fun e => ha (e ▸ List.mem_cons_self)
    simp only [find, h.1, if_neg hax]
    have htail : Path next ((Link.next x).deref next head) (xs ++ a :: ys) none := h.2
    exact ih htail (fun hm => ha (List.mem_cons_of_mem x hm)) (by omega)

/-- Bypassing the node after the prefix `xs` of a path that starts at `pp`. The induction is on the
prefix, with the link it starts from left open; the link that is changed is the last one of the
prefix. -/
theorem Path.bypass {pp : Link α} (h : Path next (pp.deref next head) (xs ++ a :: ys) q)
    (hnodup : (xs ++ a :: ys).Nodup) (hpp : ∀ b, pp = .next b → b ∉ xs ++ a :: ys) :
    Path (store next head (next a) (lastLink pp xs)).1
      (pp.deref (store next head (next a) (lastLink pp xs)).1
        (store next head (next a) (lastLink pp xs)).2) (xs ++ ys) q := by
  induction xs generalizing pp with
  | nil =>
    -- induction on what lies before the node, with the link it starts from
    cases pp with
    | head => exact h.2
    | next b =>
      have hb : b ∉ ys := fun hm => hpp b rfl (List.mem_cons_of_mem a hm)
      simpa [lastLink, store, Link.deref] using h.2.update_of_notMem hb (next a)
  | cons x xs ih =>
    have hnd := List.nodup_cons.mp hnodup
    have htail : Path next ((Link.next x).deref next head) (xs ++ a :: ys) q := h.2
    have hrest := ih htail hnd.2 (by
      rintro b ⟨⟩
      exact hnd.1)
    refine ⟨?_, hrest⟩
    -- the link that is changed is not `pp`, which lies before it
    obtain ⟨c, hc, hlast⟩ := lastLink_cons pp x xs
    rw [hlast, ← h.1]
    cases pp with
    | head => rfl
    | next b =>
      have hbc : b ≠ c := by
        rintro rfl
        exact hpp b rfl (List.mem_append_left _ hc)
      simp [store, Link.deref, hbc]

/-- **Unlinking.** Storing the successor of `a` at the link that points to `a` takes exactly `a` out
of the list and keeps the order of the others. -/
theorem Path.unlink (h : Path next head (xs ++ a :: ys) q) (hnodup : (xs ++ a :: ys).Nodup) :
    Path (store next head (next a) (lastLink .head xs)).1
      (store next head (next a) (lastLink .head xs)).2 (xs ++ ys) q :=
  Path.bypass (by exact h : Path next (Link.head.deref next head) _ q) hnodup (by simp)

/-- Unlinking from one list changes no link outside that list. -/
theorem store_lastLink_of_notMem {b : α} (hb : b ∉ xs) (v : Option α) :
    (store next head v (lastLink .head xs)).1 b = next b := by
  cases xs with
  | nil => rfl
  | cons x xs =>
    obtain ⟨c, hc, hlast⟩ := lastLink_cons (.head : Link α) x xs
    have hbc : b ≠ c := fun e => hb (e ▸ hc)
    simp [hlast, store, hbc]

end LinkedList
