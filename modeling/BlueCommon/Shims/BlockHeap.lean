import BlueCommon.Shims.SortedVector

/-!
# Buffers that are a list of blocks

Platforms that the vector can be run on: a heap that is a list of blocks, with the outcomes of its
next allocations given, and items that are numbers. `platform_contract` is what the vector relies
on.
-/

namespace BlueCommon

namespace Shims

open SharedBlocks

/-- A heap: the blocks by address, and the outcomes of the next allocations, which succeed when
there are none. -/
structure BlockHeap where
  cells : List (Option (Block ℕ))
  outcomes : List Bool

namespace BlockHeap

def blocks (h : BlockHeap) : Blocks ℕ ℕ := fun b => h.cells[b]?.join

def put (h : BlockHeap) (b : ℕ) (B : Option (Block ℕ)) : BlockHeap :=
  { h with cells := h.cells.set b B }

/-- The block is changed, if there is one. -/
def change (h : BlockHeap) (b : ℕ) (f : Block ℕ → Option (Block ℕ)) : BlockHeap :=
  match h.blocks b with
  | none => h
  | some B => h.put b (f B)

/-- A block with one reference. -/
def push (h : BlockHeap) (size : ℕ) (item : ℕ → ℕ → ℕ) : BlockHeap :=
  { h with cells := h.cells ++ [some ⟨1, size, item⟩] }

/-- The items from `i` to `i + n` of a block become those of `f`. A block that is not there is not
written. -/
def write (s b i n : ℕ) (f : ℕ → ℕ) (h : BlockHeap) : BlockHeap :=
  h.change b fun B => some { B with
    item := fun t k => if t = s ∧ i ≤ k ∧ k < i + n then f (k - i) else B.item t k }

def read (h : BlockHeap) (s : ℕ) : Source ℕ ℕ → ℕ → ℕ
  | .null, _ => 0
  | .array items, k => items k
  | .place p, k =>
    match h.blocks p.block with
    | none => 0
    | some B => B.item s (p.index + k)

/-- Memory is found, or not when the heap says so and the platform heeds it. What cannot be had is
fatal. -/
def alloc (fallible : Bool) (n : ℕ) (item : ℕ → ℕ → ℕ)
    (h : BlockHeap) : Option (Option ℕ × BlockHeap) :=
  if 2 ^ 63 ≤ n then none
  else if fallible ∧ h.outcomes.head? = some false then
    some (none, { h with outcomes := h.outcomes.tail })
  else some (some h.cells.length, { h.push n item with outcomes := h.outcomes.tail })

def drop (b : ℕ) (h : BlockHeap) : BlockHeap :=
  h.change b fun B => if B.refs = 1 then none else some { B with refs := B.refs - 1 }

/-- The platforms on such heaps. -/
def platform (fallible : Bool) : Platform BlockHeap ℕ ℕ where
  wordBits := 64
  alloc n h := h.alloc fallible n fun _ _ => 0
  editResize b n h :=
    match h.blocks b with
    | none => none
    | some B => (h.alloc fallible n B.item).map fun (c, h) => (c, if c = none then h else h.drop b)
  attemptEdit b h :=
    match h.blocks b with
    | none => none
    | some B => if B.refs = 1 then some b else none
  acquire b h := h.change b fun B => some { B with refs := B.refs + 1 }
  release b h :=
    match h.blocks b with
    | none => (0, h)
    | some B => (B.refs, h.put b (some { B with refs := B.refs - 1 }))
  dealloc b h := h.put b none
  size b h := (h.blocks b).elim 0 Block.size
  do_construct s p n h := h.write s p.block p.index n fun _ => 0
  do_destroy _ _ _ h := h
  do_copy s p src n h := h.write s p.block p.index n (h.read s src)
  do_splat s p src n h := h.write s p.block p.index n fun _ => h.read s src 0
  do_move_forward s p q n h := h.write s p.block p.index n (h.read s (.place q))
  do_move_backward s p q n h := h.write s p.block p.index n (h.read s (.place q))
  memcpy s p src n h := h.write s p.block p.index (n / s) (h.read s src)

variable {h : BlockHeap} {b s i n : ℕ} {B : Block ℕ}

theorem lt_of_blocks (hB : h.blocks b = some B) : b < h.cells.length := by
  by_contra hge
  simp [blocks, List.getElem?_eq_none (Nat.le_of_not_lt hge)] at hB

theorem blocks_put (hB : b < h.cells.length) (C : Option (Block ℕ)) :
    (h.put b C).blocks = Function.update h.blocks b C := by
  funext c
  rcases eq_or_ne c b with rfl | hne
  · simp [blocks, put, hB]
  · simp [blocks, put, hne, hne.symm]

theorem blocks_change (hB : h.blocks b = some B) (f : Block ℕ → Option (Block ℕ)) :
    (h.change b f).blocks = Function.update h.blocks b (f B) := by
  simp only [change, hB]
  exact blocks_put (lt_of_blocks hB) _

theorem blocks_push (h : BlockHeap) (size : ℕ) (item : ℕ → ℕ → ℕ) (outcomes : List Bool) :
    BlockHeap.blocks { h.push size item with outcomes := outcomes } =
      Function.update h.blocks h.cells.length (some ⟨1, size, item⟩) := by
  funext c
  rcases Nat.lt_trichotomy c h.cells.length with hlt | rfl | hgt
  · simp [blocks, push, List.getElem?_append_left hlt, hlt.ne]
  · simp [blocks, push]
  · simp [blocks, push, hgt.ne', List.getElem?_eq_none
      (show (h.cells ++ [_]).length ≤ c by simp; omega), List.getElem?_eq_none hgt.le]

theorem blocks_length (h : BlockHeap) : h.blocks h.cells.length = none := by simp [blocks]

/-- What is written is there, and all else is as it was. -/
theorem write_spec (hroom : Room h.blocks b s (i + n)) (f : ℕ → ℕ) {xs : List ℕ}
    (hlen : xs.length = n) (hf : ∀ k a, xs[k]? = some a → f k = a) :
    Writes h.blocks b s i n (h.write s b i n f).blocks ∧
    Slots (h.write s b i n f).blocks b s i xs := by
  obtain ⟨B, hB, hfit⟩ := hroom
  have hblocks := blocks_change hB fun B => some { B with
    item := fun t k => if t = s ∧ i ≤ k ∧ k < i + n then f (k - i) else B.item t k }
  refine ⟨⟨B, _, hB, hblocks, fun k hk => if_neg (by omega)⟩, ?_⟩
  refine ⟨_, by rw [write, hblocks, Function.update_self], by rwa [hlen], fun k a hk => ?_⟩
  have hlt : k < n := hlen ▸ (List.getElem?_eq_some_iff.mp hk).1
  have hin : i ≤ i + k ∧ i + k < i + n := by omega
  simpa [hin] using hf k a hk

theorem read_of_reads {src : Source ℕ ℕ} {xs : List ℕ} (hr : Reads h.blocks s src xs) (k a : ℕ)
    (hk : xs[k]? = some a) : h.read s src k = a := by
  cases src with
  | null =>
    obtain rfl : xs = [] := hr
    simp at hk
  | array items => exact hr k a hk
  | place p =>
    obtain ⟨B, hB, _, hitem⟩ := hr (by rintro rfl; simp at hk)
    simp only [read, hB]
    exact hitem k a hk

theorem alloc_none {fallible : Bool} {item : ℕ → ℕ → ℕ} {h' : BlockHeap}
    (he : h.alloc fallible n item = some (none, h')) : fallible = true ∧ h'.blocks = h.blocks := by
  unfold alloc at he
  split at he
  · cases he
  · split at he
    · rename_i hrefused
      simp only [Option.some.injEq, Prod.mk.injEq, true_and] at he
      exact ⟨hrefused.1, he ▸ rfl⟩
    · simp at he

theorem alloc_some {fallible : Bool} {item : ℕ → ℕ → ℕ} {h' : BlockHeap}
    (he : h.alloc fallible n item = some (some b, h')) :
    n < 2 ^ 63 ∧ h.blocks b = none ∧ h'.blocks =
      Function.update h.blocks b (some ⟨1, n, item⟩) := by
  unfold alloc at he
  split at he
  · cases he
  · rename_i hlt
    split at he
    · simp at he
    · simp only [Option.some.injEq, Prod.mk.injEq] at he
      obtain ⟨rfl, rfl⟩ := he
      exact ⟨Nat.lt_of_not_le hlt, blocks_length h, blocks_push ..⟩

/-- **The heap of blocks meets the contract.** One part for each function of the platform: items
move to a new block and the old one is dropped, and they are read before any of them is written. -/
theorem platform_contract (fallible : Bool) : (platform fallible).Contract blocks 0 where
  wordBits_ge := by simp [platform]
  alloc_null n h h' he := (alloc_none he).2
  alloc_some n h b h' he := by
    obtain ⟨hn, hnone, hblocks⟩ := alloc_some he
    exact ⟨hn, hnone, _, hblocks⟩
  editResize_null b n h h' he := by
    simp only [platform] at he
    split at he
    · cases he
    · simp only [Option.map_eq_some_iff, Prod.mk.injEq, Prod.exists] at he
      obtain ⟨c, h₁, halloc, rfl, rfl⟩ := he
      exact (alloc_none halloc).2
  editResize_some b n h c h' B hB he := by
    simp only [platform, hB, Option.map_eq_some_iff, Prod.mk.injEq, Prod.exists] at he
    -- the items move to a new block, and the old one is dropped
    obtain ⟨d, h₁, halloc, rfl, rfl⟩ := he
    obtain ⟨hn, hnone, hblocks⟩ := alloc_some halloc
    have hne : b ≠ c := fun heq => by simp [heq, hnone] at hB
    have hB₁ : h₁.blocks b = some B := by rw [hblocks, Function.update_of_ne hne, hB]
    refine ⟨hn, _, B.item, ⟨B, hB, rfl⟩,
      by rw [Function.update_of_ne hne.symm, hnone], ?_, fun _ _ _ => rfl⟩
    rw [if_neg (by simp), drop, blocks_change hB₁, hblocks, Function.update_comm hne]
  attemptEdit b h B hB := by simp [platform, hB]
  acquire b h B hB := ⟨B, hB, blocks_change hB _⟩
  release b h B hB := by
    simp only [platform, hB, true_and]
    exact blocks_put (lt_of_blocks hB) _
  dealloc b h := by
    -- a block that was never handed out is not there either way
    rcases Nat.lt_or_ge b h.cells.length with hlt | hge
    · exact blocks_put hlt _
    · have hnone : h.blocks b = none := by simp [blocks, List.getElem?_eq_none hge]
      rw [show (platform fallible).dealloc b h = h.put b none from rfl, put,
        List.set_eq_of_length_le hge, ← hnone, Function.update_eq_self]
  size b h B hB := by simp [platform, hB]
  do_construct s p n h hroom := write_spec hroom _ List.length_replicate fun k a hk => by
    obtain ⟨_, rfl⟩ := List.getElem?_eq_some_iff.mp hk
    simp
  do_destroy s p n h hroom := VectorImpl.writes_same hroom
  do_copy s p src xs h hroom hr _ := write_spec hroom _ rfl (read_of_reads hr)
  memcpy s p src xs h hs hroom hr _ := by
    have hdiv : xs.length * s / s = xs.length := Nat.mul_div_cancel _ hs
    simp only [platform, hdiv]
    exact write_spec hroom _ rfl (read_of_reads hr)
  do_splat s p src a n h hroom hr _ := write_spec hroom _ List.length_replicate fun k x hk => by
    obtain ⟨_, rfl⟩ := List.getElem?_eq_some_iff.mp hk
    simpa using read_of_reads hr 0 a rfl
  do_move_forward s b i d xs h hslots hroom := by
    -- the items are read before any of them is written
    obtain ⟨⟨B, item, hB, hblocks, hframe⟩, hs⟩ :=
      write_spec (i := i + d) hroom (h.read s (.place ⟨b, i⟩)) rfl (read_of_reads fun _ => hslots)
    exact ⟨⟨B, item, hB, hblocks, fun k hk => hframe k (by omega)⟩, hs⟩
  do_move_backward s b i d xs h hslots := by
    obtain ⟨hw, hs⟩ :=
      write_spec (i := i) (hslots.room.mono (by omega)) (h.read s (.place ⟨b, i + d⟩)) rfl
      (read_of_reads fun _ => hslots)
    exact ⟨hw.mono (Nat.le_add_left _ _), hs⟩

/-- Where no allocation fails, none is refused. -/
theorem platform_not_refuses : ¬ (platform false).Refuses := by
  rintro (⟨n, h, h', he⟩ | ⟨b, n, h, h', he⟩)
  · simpa using (alloc_none he).1
  · simp only [platform] at he
    split at he
    · cases he
    · simp only [Option.map_eq_some_iff, Prod.mk.injEq, Prod.exists] at he
      obtain ⟨c, h₁, halloc, rfl, _⟩ := he
      simpa using (alloc_none halloc).1

/-- The number that a pointer points at. -/
def number (h : BlockHeap) (s : ℕ) : Source ℕ ℕ → Option ℕ
  | .null => none
  | .array items => some (items 0)
  | .place p => (h.blocks p.block).map fun B => B.item s p.index

/-- Numbers are compared by their difference. -/
def difference (a b : ℕ) : ℤ := a - b

def compare : DoCompare BlockHeap ℕ ℕ := fun s lhs rhs h => do
  let a ← h.number s lhs
  let b ← h.number s rhs
  some (difference a b)

theorem number_of_reads {src : Source ℕ ℕ} {a : ℕ} (hr : Reads h.blocks s src [a]) :
    h.number s src = some a := by
  cases src with
  | null => exact absurd hr (List.cons_ne_nil a [])
  | array items => exact congrArg some (hr 0 a rfl)
  | place p =>
    obtain ⟨B, hB, _, hitem⟩ := hr (List.cons_ne_nil a [])
    simpa [number, hB] using hitem 0 a rfl

theorem compare_compares : Compares blocks difference compare where
  order :=
    ⟨fun a b => by simp only [difference]; omega, fun a b c => by simp only [difference]; omega⟩
  compare s lhs rhs a b h hl hr := by
    simp [BlockHeap.compare, number_of_reads hl, number_of_reads hr]

end BlockHeap

end Shims

end BlueCommon
