import Mathlib.Algebra.Group.Pi.Basic
import Mathlib.Algebra.Order.Ring.Nat
import Mathlib.Data.Nat.Notation
import Mathlib.Logic.Function.Basic
import Mathlib.Tactic.Basic

/-!
# Reference-counted blocks that hold lists

A memory of reference-counted blocks, read as arrays of items.

* `Slots m b s i xs`: from its item number `i` on, the block `b` holds the list `xs`. `Writes` is
  what one write may change, and `Slots.append`, `Slots.left`, `Slots.right` cut a list where a
  write starts or ends.
* `Owned limit o m`: the counts of `o` are the reference counts. `Keeps o m m'`: the blocks that `o`
  counts have the contents they had. Each of `Allocates`, `Acquires`, `Releases` and `Writes` has
  one lemma that says what becomes of `Owned`, and one for `Keeps`.
-/

namespace SharedBlocks

variable {Addr α : Type}

/-- A block: how many references there are to it, how many bytes it has, and what is read as the
item number `i` when it is taken as an array of items of `s` bytes each. -/
structure Block (α : Type) where
  refs : ℕ
  size : ℕ
  item : ℕ → ℕ → α

/-- The blocks that are allocated. -/
abbrev Blocks (Addr α : Type) := Addr → Option (Block α)

/-- The block has room for `n` items of `s` bytes. -/
def Room (m : Blocks Addr α) (b : Addr) (s n : ℕ) : Prop :=
  ∃ B, m b = some B ∧ n * s ≤ B.size

/-- The block holds the list, from its item number `i` on. -/
def Slots (m : Blocks Addr α) (b : Addr) (s i : ℕ) (xs : List α) : Prop :=
  ∃ B, m b = some B ∧ (i + xs.length) * s ≤ B.size ∧ ∀ k a, xs[k]? = some a → B.item s (i + k) = a

section Slots

variable {m : Blocks Addr α} {b : Addr} {s i : ℕ} {xs ys : List α}

theorem Slots.room (h : Slots m b s i xs) : Room m b s (i + xs.length) := by
  obtain ⟨B, hB, hfit, _⟩ := h
  exact ⟨B, hB, hfit⟩

theorem Room.mono {n k : ℕ} (h : Room m b s n) (hk : k ≤ n) : Room m b s k := by
  obtain ⟨B, hB, hfit⟩ := h
  exact ⟨B, hB, (Nat.mul_le_mul_right s hk).trans hfit⟩

theorem Slots.nil (h : Room m b s i) : Slots m b s i [] := by
  obtain ⟨B, hB, hfit⟩ := h
  exact ⟨B, hB, by simpa using hfit, by simp⟩

/-- Two lists one after the other are one list. -/
theorem Slots.append (hx : Slots m b s i xs) (hy : Slots m b s (i + xs.length) ys) :
    Slots m b s i (xs ++ ys) := by
  obtain ⟨B, hB, _, hxs⟩ := hx
  obtain ⟨C, hC, hfit, hys⟩ := hy
  obtain rfl : B = C := Option.some.inj (hB.symm.trans hC)
  refine ⟨B, hB, by simpa [Nat.add_assoc] using hfit, fun k a hk => ?_⟩
  rcases Nat.lt_or_ge k xs.length with hlt | hge
  · exact hxs k a (by rwa [List.getElem?_append_left hlt] at hk)
  · have hitem := hys (k - xs.length) a (by rwa [List.getElem?_append_right hge] at hk)
    rwa [show i + xs.length + (k - xs.length) = i + k by omega] at hitem

theorem Slots.left (h : Slots m b s i (xs ++ ys)) : Slots m b s i xs := by
  obtain ⟨B, hB, hfit, hitem⟩ := h
  refine ⟨B, hB, (Nat.mul_le_mul_right s ?_).trans hfit, fun k a hk => hitem k a ?_⟩
  · simp
  · rw [List.getElem?_append_left (List.getElem?_eq_some_iff.mp hk).1, hk]

theorem Slots.right (h : Slots m b s i (xs ++ ys)) : Slots m b s (i + xs.length) ys := by
  obtain ⟨B, hB, hfit, hitem⟩ := h
  refine ⟨B, hB, by simpa [Nat.add_assoc] using hfit, fun k a hk => ?_⟩
  rw [Nat.add_assoc]
  exact hitem (xs.length + k) a (by rw [List.getElem?_append_right (by omega)]; simpa using hk)

theorem Slots.take (h : Slots m b s i xs) (n : ℕ) : Slots m b s i (xs.take n) := by
  rw [← List.take_append_drop n xs] at h
  exact h.left

theorem Slots.drop {n : ℕ} (h : Slots m b s i xs) (hn : n ≤ xs.length) : Slots m b s (i + n)
    (xs.drop n) := by
  rw [← List.take_append_drop n xs] at h
  simpa [Nat.min_eq_left hn] using h.right

/-- A block holds one list of each length. -/
theorem Slots.unique (hx : Slots m b s i xs) (hy : Slots m b s i ys)
    (hlen : xs.length = ys.length) :
    xs = ys := by
  obtain ⟨B, hB, _, hxs⟩ := hx
  obtain ⟨C, hC, _, hys⟩ := hy
  obtain rfl : B = C := Option.some.inj (hB.symm.trans hC)
  refine List.ext_getElem hlen fun k hk hk' => ?_
  rw [← hxs k _ (List.getElem?_eq_getElem hk), hys k _ (List.getElem?_eq_getElem hk')]

/-- What is read from a block is a list that it holds. -/
theorem Slots.ofRoom {n : ℕ} (h : Room m b s (i + n)) : ∃ xs, xs.length = n ∧ Slots m b s i xs := by
  obtain ⟨B, hB, hfit⟩ := h
  refine ⟨(List.range n).map fun k => B.item s (i + k),
    by simp, B, hB, by simpa using hfit, fun k a hk => ?_⟩
  obtain ⟨hlt, rfl⟩ := List.getElem?_eq_some_iff.mp hk
  simp

end Slots

/-! ## Counting the references -/

/-- The references of `o` are all the references to the blocks that it counts, and these blocks are
smaller than `limit`. -/
def Owned (limit : ℕ) (o : Addr → ℕ) (m : Blocks Addr α) : Prop :=
  ∀ b, 0 < o b → ∃ B, m b = some B ∧ B.refs = o b ∧ B.size < limit

/-- The blocks that `o` counts have the contents they had. Their reference counts may have changed,
since others may have come or gone. -/
def Keeps (o : Addr → ℕ) (m m' : Blocks Addr α) : Prop :=
  ∀ b B, 0 < o b → m b = some B → ∃ B', m' b = some B' ∧ B'.size = B.size ∧ B'.item = B.item

section Keeps

variable {o : Addr → ℕ} {m m' m'' : Blocks Addr α}

theorem Keeps.refl : Keeps o m m := fun _ B _ hB => ⟨B, hB, rfl, rfl⟩

theorem Keeps.trans (h : Keeps o m m') (h' : Keeps o m' m'') : Keeps o m m'' := by
  intro b B hb hB
  obtain ⟨B', hB', hsize, hitem⟩ := h b B hb hB
  obtain ⟨B'', hB'', hsize', hitem'⟩ := h' b B' hb hB'
  exact ⟨B'', hB'', hsize'.trans hsize, hitem'.trans hitem⟩

theorem Keeps.mono {o' : Addr → ℕ} (h : Keeps o m m') (ho : ∀ b, o' b ≤ o b) : Keeps o' m m' :=
  fun b B hb hB => h b B (hb.trans_le (ho b)) hB

theorem Keeps.slots {b : Addr} {s i : ℕ} {xs : List α} (h : Keeps o m m') (hb : 0 < o b)
    (hs : Slots m b s i xs) : Slots m' b s i xs := by
  obtain ⟨B, hB, hfit, hitem⟩ := hs
  obtain ⟨B', hB', hsize, hitem'⟩ := h b B hb hB
  exact ⟨B', hB', by rwa [hsize], by rwa [hitem']⟩

theorem Keeps.room {b : Addr} {s n : ℕ} (h : Keeps o m m') (hb : 0 < o b) (hr : Room m b s n) :
    Room m' b s n := by
  obtain ⟨B, hB, hfit⟩ := hr
  obtain ⟨B', hB', hsize, _⟩ := h b B hb hB
  exact ⟨B', hB', by rwa [hsize]⟩

end Keeps

variable [DecidableEq Addr]

/-- The reference that a pointer is. -/
def own (p : Option Addr) (b : Addr) : ℕ := if p = some b then 1 else 0

@[simp] theorem own_none : (own none : Addr → ℕ) = 0 := by
  funext b
  simp [own]

@[simp] theorem own_self (b : Addr) : own (some b) b = 1 := by simp [own]

theorem own_ne {b c : Addr} (h : c ≠ b) : own (some b) c = 0 := by simp [own, h.symm]

/-- A new block with one reference and no contents to speak of. -/
def Allocates (m : Blocks Addr α) (b : Addr) (n : ℕ) (m' : Blocks Addr α) : Prop :=
  m b = none ∧ ∃ item, m' = Function.update m b (some ⟨1, n, item⟩)

/-- One more reference. -/
def Acquires (m : Blocks Addr α) (b : Addr) (m' : Blocks Addr α) : Prop :=
  ∃ B, m b = some B ∧ m' = Function.update m b (some { B with refs := B.refs + 1 })

/-- One reference less, and with the last one the block goes. -/
def Releases (m : Blocks Addr α) (b : Addr) (m' : Blocks Addr α) : Prop :=
  ∃ B, m b = some B ∧
    m' = Function.update m b (if B.refs = 1 then none else some { B with refs := B.refs - 1 })

/-- A write to the items from `i` to `i + n` of the block. -/
def Writes (m : Blocks Addr α) (b : Addr) (s i n : ℕ) (m' : Blocks Addr α) : Prop :=
  ∃ B item, m b = some B ∧ m' = Function.update m b (some { B with item := item }) ∧
    ∀ k, k < i ∨ i + n ≤ k → item s k = B.item s k

section Steps

variable {limit : ℕ} {o : Addr → ℕ} {m m' : Blocks Addr α} {b c : Addr} {n s i j : ℕ} {xs : List α}

/-- A new block has no references that are counted already. -/
theorem Allocates.uncounted (h : Allocates m b n m') (ho : Owned limit o m) : o b = 0 := by
  by_contra hne
  obtain ⟨B, hB, _⟩ := ho b (Nat.pos_of_ne_zero hne)
  simp [h.1] at hB

theorem Allocates.owned (h : Allocates m b n m') (hn : n < limit) (ho : Owned limit o m) :
    Owned limit (o + own (some b)) m' := by
  have hb := h.uncounted ho
  obtain ⟨_, item, rfl⟩ := h
  intro c hc
  rcases eq_or_ne c b with rfl | hne
  · exact ⟨_, Function.update_self .., by simp [hb], hn⟩
  · rw [Function.update_of_ne hne]
    simpa [own_ne hne] using ho c (by simpa [own_ne hne] using hc)

theorem Allocates.keeps (h : Allocates m b n m') (o : Addr → ℕ) : Keeps o m m' := by
  obtain ⟨hnone, item, rfl⟩ := h
  intro c B _ hB
  have hne : c ≠ b := fun heq => by simp [heq, hnone] at hB
  exact ⟨B, by rw [Function.update_of_ne hne, hB], rfl, rfl⟩

theorem Allocates.room (h : Allocates m b n m') {k : ℕ} (hk : k * s ≤ n) : Room m' b s k := by
  obtain ⟨_, item, rfl⟩ := h
  exact ⟨_, Function.update_self .., hk⟩

theorem Allocates.slots (h : Allocates m b n m') (hs : Slots m c s j xs) : Slots m' c s j xs := by
  obtain ⟨B, hB, hfit, hitem⟩ := hs
  obtain ⟨B', hB', hsize, hitem'⟩ := h.keeps (fun _ => 1) c B Nat.one_pos hB
  exact ⟨B', hB', by rwa [hsize], by rwa [hitem']⟩

theorem Acquires.owned (h : Acquires m b m') (hb : 0 < o b) (ho : Owned limit o m) :
    Owned limit (o + own (some b)) m' := by
  obtain ⟨B, hB, rfl⟩ := h
  intro c hc
  rcases eq_or_ne c b with rfl | hne
  · obtain ⟨C, hC, hrefs, hlt⟩ := ho c hb
    obtain rfl : B = C := Option.some.inj (hB.symm.trans hC)
    exact ⟨_, Function.update_self .., by simp [hrefs], hlt⟩
  · rw [Function.update_of_ne hne]
    simpa [own_ne hne] using ho c (by simpa [own_ne hne] using hc)

theorem Acquires.keeps (h : Acquires m b m') (o : Addr → ℕ) : Keeps o m m' := by
  obtain ⟨B, hB, rfl⟩ := h
  intro c C _ hC
  rcases eq_or_ne c b with rfl | hne
  · obtain rfl : B = C := Option.some.inj (hB.symm.trans hC)
    exact ⟨_, Function.update_self .., rfl, rfl⟩
  · exact ⟨C, by rw [Function.update_of_ne hne, hC], rfl, rfl⟩

theorem Releases.owned (h : Releases m b m') (ho : Owned limit (o + own (some b)) m) :
    Owned limit o m' := by
  obtain ⟨B, hB, rfl⟩ := h
  intro c hc
  obtain ⟨C, hC, hrefs, hlt⟩ := ho c (Nat.add_pos_left hc _)
  rcases eq_or_ne c b with rfl | hne
  · obtain rfl : B = C := Option.some.inj (hB.symm.trans hC)
    have hcount : B.refs = o c + 1 := by simpa using hrefs
    -- another reference is counted, so this was not the last one
    rw [Function.update_self, if_neg (by omega)]
    exact ⟨_, rfl, by simp [hcount], hlt⟩
  · rw [Function.update_of_ne hne]
    exact ⟨C, hC, by simpa [own_ne hne] using hrefs, hlt⟩

theorem Releases.keeps (h : Releases m b m') (ho : Owned limit (o + own (some b)) m) :
    Keeps o m m' := by
  have hafter := h.owned ho
  obtain ⟨B, hB, rfl⟩ := h
  intro c C hc hC
  rcases eq_or_ne c b with rfl | hne
  · -- the block itself is still there if someone else counts it
    obtain ⟨C', hC', _⟩ := hafter c hc
    obtain rfl : B = C := Option.some.inj (hB.symm.trans hC)
    refine ⟨C', hC', ?_⟩
    rw [Function.update_self] at hC'
    split at hC'
    · cases hC'
    · obtain rfl := Option.some.inj hC'
      exact ⟨rfl, rfl⟩
  · -- another block is not touched
    exact ⟨C, by rw [Function.update_of_ne hne, hC], rfl, rfl⟩

theorem Releases.slots (h : Releases m b m') (hne : c ≠ b)
    (hs : Slots m c s j xs) : Slots m' c s j xs := by
  obtain ⟨B, hB, rfl⟩ := h
  obtain ⟨C, hC, hrest⟩ := hs
  exact ⟨C, by rw [Function.update_of_ne hne, hC], hrest⟩

theorem Writes.owned (h : Writes m b s i n m') (ho : Owned limit o m) : Owned limit o m' := by
  obtain ⟨B, item, hB, rfl, _⟩ := h
  intro c hc
  obtain ⟨C, hC, hrest⟩ := ho c hc
  rcases eq_or_ne c b with rfl | hne
  · obtain rfl : B = C := Option.some.inj (hB.symm.trans hC)
    exact ⟨_, Function.update_self .., hrest⟩
  · exact ⟨C, by rw [Function.update_of_ne hne, hC], hrest⟩

theorem Writes.keeps (h : Writes m b s i n m') (hb : o b = 0) : Keeps o m m' := by
  obtain ⟨B, item, hB, rfl, _⟩ := h
  intro c C hc hC
  have hne : c ≠ b := fun heq => by simp [heq, hb] at hc
  exact ⟨C, by rw [Function.update_of_ne hne, hC], rfl, rfl⟩

theorem Writes.mono {n' : ℕ} (h : Writes m b s i n m') (hn : n ≤ n') : Writes m b s i n' m' := by
  obtain ⟨B, item, hB, hm, hframe⟩ := h
  exact ⟨B, item, hB, hm, fun k hk => hframe k (by omega)⟩

/-- Two writes one after the other. -/
theorem Writes.trans {m'' : Blocks Addr α} (h : Writes m b s i n m') (h' : Writes m' b s i n m'') :
    Writes m b s i n m'' := by
  obtain ⟨B, item, hB, rfl, hframe⟩ := h
  obtain ⟨C, item', hC, rfl, hframe'⟩ := h'
  rw [Function.update_self] at hC
  obtain rfl := Option.some.inj hC
  exact ⟨B, item', hB, Function.update_idem .., fun k hk => (hframe' k hk).trans (hframe k hk)⟩

theorem Writes.room (h : Writes m b s i n m') {t k : ℕ} (hr : Room m c t k) : Room m' c t k := by
  obtain ⟨B, item, hB, rfl, _⟩ := h
  obtain ⟨C, hC, hfit⟩ := hr
  rcases eq_or_ne c b with rfl | hne
  · obtain rfl : B = C := Option.some.inj (hB.symm.trans hC)
    exact ⟨_, Function.update_self .., hfit⟩
  · exact ⟨C, by rw [Function.update_of_ne hne, hC], hfit⟩

theorem Writes.slots_of_ne (h : Writes m b s i n m') (hne : c ≠ b) {t : ℕ} (hs : Slots m c t j xs) :
    Slots m' c t j xs := by
  obtain ⟨B, item, hB, rfl, _⟩ := h
  obtain ⟨C, hC, hrest⟩ := hs
  exact ⟨C, by rw [Function.update_of_ne hne, hC], hrest⟩

/-- What a block holds before and after the items written stays. -/
theorem Writes.slots (h : Writes m b s i n m') (hs : Slots m b s j xs)
    (hout : j + xs.length ≤ i ∨ i + n ≤ j) : Slots m' b s j xs := by
  obtain ⟨B, item, hB, rfl, hframe⟩ := h
  obtain ⟨C, hC, hfit, hitem⟩ := hs
  obtain rfl : B = C := Option.some.inj (hB.symm.trans hC)
  refine ⟨_, Function.update_self .., hfit, fun k a hk => ?_⟩
  have hlt : k < xs.length := (List.getElem?_eq_some_iff.mp hk).1
  rw [← hitem k a hk]
  exact hframe (j + k) (by omega)

end Steps

end SharedBlocks
