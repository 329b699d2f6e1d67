import BlueCommon.Lib.LinkedList
import Mathlib.Data.List.Nodup

/-!
# Doubly linked circular lists in memory

A ring is a circular list around a sentinel node: following `next` from the sentinel visits the
members in order and returns to the sentinel, following `prev` visits them in the opposite order,
and no node occurs twice.

* `Links.insertBefore` and `Links.remove`: linking a node in before another one and unlinking a
  node, as the usual four assignments; a null pointer that is followed gives `none`.
* `Ring.insertBefore`, `Ring.remove`: on a ring they succeed, change the list of members at the one
  place, and touch no node outside the ring.
* `walkRing`: `while (p b && b != s) b = b->next`, and where it stops (`walkRing_eq`).
-/

namespace LinkedList

variable {α : Type}

/-! ### First and last nodes -/

theorem headD_reverse (xs : List α) (s : α) : xs.reverse.headD s = xs.getLastD s := by
  simp [List.headD_eq_head?_getD, List.getLastD_eq_getLast?]

theorem getLastD_reverse (xs : List α) (s : α) : xs.reverse.getLastD s = xs.headD s := by
  simp [List.headD_eq_head?_getD, List.getLastD_eq_getLast?]

theorem nodup_cons_reverse {s : α} {xs : List α} :
    (s :: xs.reverse).Nodup ↔ (s :: xs).Nodup := by
  simp [List.nodup_cons, List.nodup_reverse]

/-- The last node before a place of the ring is a node of the ring. -/
theorem getLastD_mem (s : α) (xs : List α) : xs.getLastD s ∈ s :: xs := by
  rw [List.getLastD_eq_getLast?, List.mem_cons]
  cases hl : xs.getLast? with
  | none => simp
  | some y => exact Or.inr (List.mem_of_getLast? hl)

/-- The first node after a place of the ring is a node of the ring. -/
theorem headD_mem (s : α) (xs : List α) : xs.headD s ∈ s :: xs := by
  rw [← getLastD_reverse]
  simpa using getLastD_mem s xs.reverse

/-- The nodes on either side of a place of the ring. -/
theorem getLastD_mem_append (s : α) (xs ys : List α) : xs.getLastD s ∈ s :: (xs ++ ys) :=
  List.mem_append_left ys (getLastD_mem s xs)

theorem headD_mem_append (s : α) (xs ys : List α) : ys.headD s ∈ s :: (xs ++ ys) :=
  List.mem_cons.mpr ((List.mem_cons.mp (headD_mem s ys)).imp_right (List.mem_append_right xs))

/-- What is outside the ring with the node `a` is neither `a` nor in the ring without it. -/
theorem notMem_insert {s a b : α} {xs ys : List α} (h : b ∉ s :: (xs ++ a :: ys)) :
    b ≠ a ∧ b ∉ s :: (xs ++ ys) := by
  simp only [List.mem_cons, List.mem_append, not_or] at h ⊢
  exact ⟨h.2.2.1, h.1, h.2.1, h.2.2.2⟩

/-! ### Edits of a path -/

variable {f f' : α → Option α} {q : Option α} {c a : α} {xs ys : List α}

/-- Linking `a` in after the prefix `xs` of a path that starts behind the node `c`. -/
theorem Path.insert (h : Path f (f c) (xs ++ ys) q) (hnd : (c :: (xs ++ ys)).Nodup)
    (hlast : f' (xs.getLastD c) = some a) (ha : f' a = f (xs.getLastD c))
    (hagree : ∀ b ∈ c :: (xs ++ ys), b ≠ xs.getLastD c → f' b = f b) :
    Path f' (f' c) (xs ++ a :: ys) q := by
  -- induction on the nodes before the new one, with the node the path starts from
  induction xs generalizing c with
  -- the new node comes right behind the start
  | nil =>
    refine ⟨hlast, ?_⟩
    rw [ha]
    refine Path.congr h fun b hb => hagree b (List.mem_cons_of_mem c hb) ?_
    rintro rfl
    exact (List.nodup_cons.mp hnd).1 hb
  | cons x xs ih =>
    -- the changed link is that of the last node, which is not the start
    rw [List.getLastD_cons] at hlast ha
    simp only [List.getLastD_cons] at hagree
    have hc : c ≠ xs.getLastD x := by
      intro e
      refine (List.nodup_cons.mp hnd).1 (List.mem_append_left ys ?_)
      rw [e]
      exact getLastD_mem x xs
    -- so the first step of the path is the old one
    refine ⟨(hagree c List.mem_cons_self hc).trans h.1, ?_⟩
    exact ih h.2 (List.nodup_cons.mp hnd).2 hlast ha fun b hb =>
      hagree b (List.mem_cons_of_mem c hb)

/-- Bypassing `a` after the prefix `xs` of a path that starts behind the node `c`. -/
theorem Path.erase (h : Path f (f c) (xs ++ a :: ys) q) (hnd : (c :: (xs ++ a :: ys)).Nodup)
    (hlast : f' (xs.getLastD c) = f a)
    (hagree : ∀ b ∈ c :: (xs ++ ys), b ≠ xs.getLastD c → f' b = f b) :
    Path f' (f' c) (xs ++ ys) q := by
  -- induction on the nodes before the one that goes
  induction xs generalizing c with
  -- the node that goes comes right behind the start
  | nil =>
    have hnd' := (List.nodup_cons.mp hnd).1
    change Path f' (f' c) ys q
    rw [show f' c = f a from hlast]
    refine Path.congr h.2 fun b hb => hagree b (List.mem_cons_of_mem c hb) ?_
    rintro rfl
    exact hnd' (List.mem_cons_of_mem a hb)
  | cons x xs ih =>
    -- the changed link is that of the last node, which is not the start
    rw [List.getLastD_cons] at hlast
    simp only [List.getLastD_cons] at hagree
    have hc : c ≠ xs.getLastD x := by
      intro e
      refine (List.nodup_cons.mp hnd).1 (List.mem_append_left (a :: ys) ?_)
      rw [e]
      exact getLastD_mem x xs
    refine ⟨(hagree c List.mem_cons_self hc).trans h.1, ?_⟩
    exact ih h.2 (List.nodup_cons.mp hnd).2 hlast fun b hb =>
      hagree b (List.mem_cons_of_mem c hb)

/-! ### Rings -/

/-- The link fields of the nodes of doubly linked lists. -/
structure Links (α : Type) where
  next : α → Option α
  prev : α → Option α

/-- Following `f` from the node `s` visits `xs` and returns to `s`. -/
def Cycle (f : α → Option α) (s : α) (xs : List α) : Prop := Path f (f s) xs (some s)

/-- The link between two neighbours of a cycle. -/
theorem Cycle.at_split {s : α} (h : Cycle f s (xs ++ ys)) :
    f (xs.getLastD s) = some (ys.headD s) := by
  suffices hmain : ∀ c, Path f (f c) (xs ++ ys) (some s) →
      f (xs.getLastD c) = some (ys.headD s) from hmain s h
  clear h
  induction xs with
  | nil => exact fun c h => h.head_eq
  | cons x xs ih =>
    intro c h
    rw [List.getLastD_cons]
    exact ih x h.2

/-- The links determine the members of a cycle. Both lists are followed from the same node, link by
link, and end where the links come back to `s`, which is in neither of them. -/
theorem Cycle.unique {s : α} (hx : Cycle f s xs) (hy : Cycle f s ys) (hsx : s ∉ xs)
    (hsy : s ∉ ys) : xs = ys := by
  -- the paths from any node to `s` are equal
  suffices hmain : ∀ p, Path f p xs (some s) → Path f p ys (some s) → xs = ys from
    hmain (f s) hx hy
  clear hx hy
  -- both paths are followed to their ends, which `s` marks
  induction xs generalizing ys with
  | nil =>
    intro p hx hy
    cases ys with
    | nil => rfl
    | cons y ys =>
      obtain rfl : s = y := Option.some.inj (hx.symm.trans hy.1)
      exact absurd List.mem_cons_self hsy
  | cons x xs ih =>
    intro p hx hy
    -- the two paths take the same step
    cases ys with
    | nil =>
      obtain rfl : s = x := Option.some.inj (hy.symm.trans hx.1)
      exact absurd List.mem_cons_self hsx
    | cons y ys =>
      obtain rfl : x = y := Option.some.inj (hx.1.symm.trans hy.1)
      rw [ih (fun hm => hsx (List.mem_cons_of_mem x hm)) (fun hm => hsy (List.mem_cons_of_mem x hm))
        -- the rest of both is the same
        (f x) hx.2 hy.2]

/-- **A ring.** A circular list around the sentinel `s` with the members `xs`. The links forward
give the members in this order and the links back in the other one, and no node is met twice. -/
structure Ring (m : Links α) (s : α) (xs : List α) : Prop where
  /-- The `next` fields visit the members in order. -/
  next : Cycle m.next s xs
  /-- The `prev` fields visit them in the opposite order. -/
  prev : Cycle m.prev s xs.reverse
  /-- No node occurs twice. -/
  nodup : (s :: xs).Nodup

namespace Ring

variable {m m' : Links α} {s : α}

/-- A ring depends on the links of its own nodes only. -/
theorem congr (h : Ring m s xs)
    (hagree : ∀ b ∈ s :: xs, m'.next b = m.next b ∧ m'.prev b = m.prev b) : Ring m' s xs where
  next := by
    have hs := (hagree s List.mem_cons_self).1
    rw [Cycle, hs]
    exact Path.congr h.next fun b hb => (hagree b (List.mem_cons_of_mem s hb)).1
  prev := by
    have hs := (hagree s List.mem_cons_self).2
    rw [Cycle, hs]
    exact Path.congr h.prev fun b hb =>
      (hagree b (List.mem_cons_of_mem s (List.mem_reverse.mp hb))).2
  nodup := h.nodup

/-- The links determine the members of a ring. -/
theorem unique (hx : Ring m s xs) (hy : Ring m s ys) : xs = ys :=
  hx.next.unique hy.next (List.nodup_cons.mp hx.nodup).1 (List.nodup_cons.mp hy.nodup).1

/-- The node behind a place of the ring. -/
theorem next_getLastD (h : Ring m s (xs ++ ys)) : m.next (xs.getLastD s) = some (ys.headD s) :=
  h.next.at_split

/-- The node in front of a place of the ring. -/
theorem prev_headD (h : Ring m s (xs ++ ys)) : m.prev (ys.headD s) = some (xs.getLastD s) := by
  have hprev := h.prev
  rw [List.reverse_append] at hprev
  have := hprev.at_split
  rwa [getLastD_reverse, headD_reverse] at this

/-- The successor of a member. -/
theorem next_mem (h : Ring m s (xs ++ a :: ys)) : m.next a = some (ys.headD s) := by
  have h' : Ring m s ((xs ++ [a]) ++ ys) := by simpa using h
  simpa using h'.next_getLastD

/-- The predecessor of a member. -/
theorem prev_mem (h : Ring m s (xs ++ a :: ys)) : m.prev a = some (xs.getLastD s) := by
  simpa using h.prev_headD

end Ring

variable [DecidableEq α]

/-! ### Linking in and unlinking -/

namespace Links

/-- `a->next = v`. The links back are not touched. -/
def setNext (m : Links α) (a : α) (v : Option α) : Links α :=
  { m with next := Function.update m.next a v }

/-- `a->prev = v`. The links forward are not touched. -/
def setPrev (m : Links α) (a : α) (v : Option α) : Links α :=
  { m with prev := Function.update m.prev a v }

/-- `a->next = b; a->prev = b->prev; a->prev->next = a; b->prev = a;` in this order, so that a
missing link back of `b` is found before it is written through. -/
def insertBefore (m : Links α) (a b : α) : Option (Links α) :=
  let m := m.setNext a (some b)
  let m := m.setPrev a (m.prev b)
  match m.prev a with
  | none => none
  | some p => some ((m.setNext p (some a)).setPrev b (some a))

/-- `a->next->prev = a->prev; a->prev->next = a->next; a->next = NULL; a->prev = NULL;`. A node that
is in no list has null pointers, and the first of them is written through. -/
def remove (m : Links α) (a : α) : Option (Links α) :=
  match m.next a with
  | none => none
  | some n =>
    let m := m.setPrev n (m.prev a)
    match m.prev a with
    | none => none
    | some p =>
      let m := m.setNext p (m.next a)
      some ((m.setNext a none).setPrev a none)

end Links

namespace Ring

variable {m : Links α} {s : α}

/-- **Linking in.** Inserting a new node before the first node of `ys` (before the sentinel if there
is none) puts it at that place of the ring and touches no node outside the ring. -/
theorem insertBefore (h : Ring m s (xs ++ ys)) (ha : a ∉ s :: (xs ++ ys)) :
    ∃ m', m.insertBefore a (ys.headD s) = some m' ∧ Ring m' s (xs ++ a :: ys) ∧
      ∀ b ∉ s :: (xs ++ a :: ys), m'.next b = m.next b ∧ m'.prev b = m.prev b := by
  -- the neighbours of the new node, of which one or both may be the sentinel
  set n := ys.headD s with hn
  set p := xs.getLastD s with hp
  have hnext : m.next p = some n := h.next_getLastD
  have hprev : m.prev n = some p := h.prev_headD
  have hpmem : p ∈ s :: (xs ++ ys) := getLastD_mem_append s xs ys
  have hnmem : n ∈ s :: (xs ++ ys) := headD_mem_append s xs ys
  have hap : a ≠ p := fun e => ha (e ▸ hpmem)
  have han : a ≠ n := fun e => ha (e ▸ hnmem)
  -- four links are written, two of them in the new node
  refine ⟨⟨Function.update (Function.update m.next a (some n)) p (some a),
    Function.update (Function.update m.prev a (some p)) n (some a)⟩, ?_, ⟨?_, ?_, ?_⟩, ?_⟩
  · -- the two neighbours know each other, so the code finds them
    simp [Links.insertBefore, Links.setNext, Links.setPrev, hprev]
  · refine Path.insert h.next h.nodup (by rw [← hp]; simp) ?_ ?_
    · rw [← hp, hnext]
      simp [hap]
    · -- any other node keeps its successor
      intro b hb hbp
      have hba : b ≠ a := fun e => ha (e ▸ hb)
      simp [hba, hp ▸ hbp]
  · -- backwards, the new node comes after those of `ys`
    have hrev := h.prev
    rw [List.reverse_append] at hrev
    have hndr : (s :: (ys.reverse ++ xs.reverse)).Nodup := by
      rw [← List.reverse_append, nodup_cons_reverse]
      exact h.nodup
    rw [List.reverse_append, List.reverse_cons, List.append_assoc, List.singleton_append]
    refine Path.insert hrev hndr (by rw [getLastD_reverse, ← hn]; simp) ?_ ?_
    · rw [getLastD_reverse, ← hn, hprev]
      simp [han]
    · intro b hb hbn
      rw [getLastD_reverse, ← hn] at hbn
      have hba : b ≠ a := by
        rintro rfl
        refine ha ?_
        simp only [List.mem_cons, List.mem_append, List.mem_reverse] at hb ⊢
        tauto
      simp [hba, hbn]
  · -- the new node is in the ring once
    have hnd := h.nodup
    rw [List.nodup_cons, List.nodup_append] at hnd
    rw [List.nodup_cons, List.nodup_append, List.nodup_cons]
    simp only [List.mem_cons, List.mem_append, not_or] at ha hnd ⊢
    refine ⟨⟨hnd.1.1, fun e => ha.1 e.symm, hnd.1.2⟩, hnd.2.1, ⟨ha.2.2, hnd.2.2.1⟩, ?_⟩
    rintro x hx y (rfl | hy)
    · rintro rfl
      exact ha.2.1 hx
    · exact hnd.2.2.2 x hx y hy
  · -- a node outside the ring is none of the three that are written
    intro b hb
    obtain ⟨hba, hout⟩ := notMem_insert hb
    have hbp : b ≠ p := fun e => hout (e ▸ hpmem)
    have hbn : b ≠ n := fun e => hout (e ▸ hnmem)
    simp [hba, hbp, hbn]

/-- **Unlinking.** Removing a member takes it out of the ring, clears its links and touches no node
outside the ring. -/
theorem remove (h : Ring m s (xs ++ a :: ys)) :
    ∃ m', m.remove a = some m' ∧ Ring m' s (xs ++ ys) ∧
      ∀ b ∉ s :: (xs ++ a :: ys), m'.next b = m.next b ∧ m'.prev b = m.prev b := by
  -- the neighbours of the node, of which one or both may be the sentinel
  set n := ys.headD s with hn
  set p := xs.getLastD s with hp
  have hnext : m.next a = some n := h.next_mem
  have hprev : m.prev a = some p := h.prev_mem
  have hnd := h.nodup
  have hpmem : p ∈ s :: (xs ++ ys) := getLastD_mem_append s xs ys
  have hnmem : n ∈ s :: (xs ++ ys) := headD_mem_append s xs ys
  -- no node that is left is the one that goes
  have hfresh : ∀ b ∈ s :: (xs ++ ys), b ≠ a := by
    rw [List.nodup_cons, List.nodup_append, List.nodup_cons] at hnd
    rintro b hb rfl
    simp only [List.mem_cons, List.mem_append, not_or] at hb hnd
    rcases hb with rfl | hb | hb
    · exact hnd.1.2.1 rfl
    · exact hnd.2.2.2 b hb b (Or.inl rfl) rfl
    · exact hnd.2.2.1.1 hb
  have hap : a ≠ p := (hfresh p hpmem).symm
  have han : a ≠ n := (hfresh n hnmem).symm
  -- the neighbours are linked with each other, and the node with nothing
  refine ⟨⟨Function.update (Function.update m.next p (some n)) a none,
    Function.update (Function.update m.prev n (some p)) a none⟩, ?_, ⟨?_, ?_, ?_⟩, ?_⟩
  · simp [Links.remove, Links.setNext, Links.setPrev, hnext, hprev, han]
  · refine Path.erase h.next hnd ?_ ?_
    · rw [← hp, hnext]
      simp [hap.symm]
    · -- any other node keeps its successor
      intro b hb hbp
      have hba : b ≠ a := hfresh b hb
      simp [hba, hp ▸ hbp]
  · -- backwards, the node comes after those of `ys`
    have hrev := h.prev
    have hsplit : (xs ++ a :: ys).reverse = ys.reverse ++ a :: xs.reverse := by simp
    rw [hsplit] at hrev
    have hndr : (s :: (ys.reverse ++ a :: xs.reverse)).Nodup := by
      rw [← hsplit, nodup_cons_reverse]
      exact hnd
    rw [List.reverse_append]
    refine Path.erase hrev hndr ?_ ?_
    · rw [getLastD_reverse, ← hn, hprev]
      simp [han.symm]
    · intro b hb hbn
      rw [getLastD_reverse, ← hn] at hbn
      have hba : b ≠ a := by
        refine hfresh b ?_
        simp only [List.mem_cons, List.mem_append, List.mem_reverse] at hb ⊢
        tauto
      simp [hba, hbn]
  · -- the nodes that are left are part of a list without duplicates
    have hsub : (s :: (xs ++ ys)).Sublist (s :: (xs ++ a :: ys)) :=
      .cons_cons s (List.Sublist.append (List.Sublist.refl xs) (List.sublist_cons_self a ys))
    exact hnd.sublist hsub
  · -- a node outside the ring is none of the three that are written
    intro b hb
    obtain ⟨hba, hout⟩ := notMem_insert hb
    have hbp : b ≠ p := fun e => hout (e ▸ hpmem)
    have hbn : b ≠ n := fun e => hout (e ▸ hnmem)
    simp [hba, hbp, hbn]

end Ring

/-! ### Walking the ring -/

/-- `while (p(b) && b != s) b = b->next;` with `fuel` steps at most; `none` when the fuel runs out
or a null pointer is followed. -/
def walkRing (next : α → Option α) (s : α) (p : α → Bool) : ℕ → α → Option α
  | 0, _ => none
  | fuel + 1, b =>
    if p b && decide (b ≠ s) then (next b).bind (walkRing next s p fuel) else some b

/-- More fuel does not change where the walk stops. -/
theorem walkRing_mono {next : α → Option α} {s b c : α} {p : α → Bool} {fuel fuel' : ℕ}
    (h : walkRing next s p fuel b = some c) (hle : fuel ≤ fuel') :
    walkRing next s p fuel' b = some c := by
  -- by the fuel of the shorter walk
  induction fuel generalizing fuel' b with
  | zero => cases h
  | succ fuel ih =>
    obtain ⟨fuel', rfl⟩ : ∃ k, fuel' = k + 1 := ⟨fuel' - 1, by omega⟩
    unfold walkRing at h ⊢
    -- both walks stop here or go on
    split
    · next hp =>
      rw [if_pos hp] at h
      cases hn : next b with
      | none => simp [hn] at h
      | some d =>
        rw [hn, Option.bind_some] at h
        exact ih h (by omega)
    · next hp =>
      rw [if_neg hp] at h
      exact h

/-- **Where the walk stops**: at the first of the nodes ahead that does not satisfy `p`, or at the
sentinel. -/
theorem walkRing_eq {next : α → Option α} {s : α} {p : α → Bool}
    (h : Path next (some (xs.headD s)) xs (some s)) (hs : s ∉ xs) {fuel : ℕ}
    (hfuel : xs.length < fuel) :
    walkRing next s p fuel (xs.headD s) = some ((xs.dropWhile p).headD s) := by
  -- induction along the ring
  induction xs generalizing fuel with
  -- at the sentinel every walk ends
  | nil =>
    obtain ⟨fuel, rfl⟩ : ∃ k, fuel = k + 1 := ⟨fuel - 1, by omega⟩
    simp [walkRing]
  | cons x xs ih =>
    simp only [List.length_cons] at hfuel
    obtain ⟨fuel, rfl⟩ : ∃ k, fuel = k + 1 := ⟨fuel - 1, by omega⟩
    have hxs : x ≠ s := fun e => hs (e ▸ List.mem_cons_self)
    have hnext : next x = some (xs.headD s) := h.2.head_eq
    -- the node is passed, and the rest of the walk is that of the rest of the ring
    by_cases hp : p x = true
    · have htail : Path next (some (xs.headD s)) xs (some s) := hnext ▸ h.2
      have hwalk :=
        ih htail (fun hm => hs (List.mem_cons_of_mem x hm)) (by omega : xs.length < fuel)
      rw [List.headD_cons, walkRing, if_pos (by simp [hp, hxs]), hnext, Option.bind_some, hwalk,
        List.dropWhile_cons_of_pos hp]
    · -- the walk stops here
      rw [List.headD_cons, walkRing, if_neg (by simp [hp]), List.dropWhile_cons_of_neg hp,
        List.headD_cons]

/-- Whatever the fuel, the walk stops nowhere else. -/
theorem walkRing_unique {next : α → Option α} {s c : α} {p : α → Bool}
    (h : Path next (some (xs.headD s)) xs (some s)) (hs : s ∉ xs) {fuel : ℕ}
    (hwalk : walkRing next s p fuel (xs.headD s) = some c) : c = (xs.dropWhile p).headD s := by
  have h₁ := walkRing_mono hwalk (Nat.le_add_right fuel (xs.length + 1))
  have h₂ : walkRing next s p (fuel + (xs.length + 1)) (xs.headD s) = _ :=
    walkRing_eq h hs (by omega)
  exact Option.some.inj (h₁.symm.trans h₂)

end LinkedList
