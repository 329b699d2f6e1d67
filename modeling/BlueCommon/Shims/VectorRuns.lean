import BlueCommon.Lib.Lts
import BlueCommon.Shims.BlockHeap
import Mathlib.Algebra.BigOperators.Group.List.Basic

/-!
# Vectors that share storage

The runs of a process that calls the functions of `VectorImpl` on any number of vectors.

* `Process`, `VectorOp`, `vectorRuns`: the vectors and the heap, the calls, and the runs of calls.
* `Process.lists`: the lists of the vectors. `VectorOp.Lists` says what a call does to them.
* `Behaves`: a call aborts, or it returns an error and leaves all lists as they were, or it does
  what it is for.
* `vectors_refine_lists`: every call of a run behaves, unless it removes items and is not
  `VectorOp.Ok`.
-/

namespace BlueCommon

namespace Shims

open SharedBlocks

/-- The vectors that were constructed, and the heap. The vectors are numbered in the order of their
construction. -/
structure Process (Heap Addr : Type) where
  heap : Heap
  vectors : List (VectorImpl Addr)

/-- The calls. A vector is given by its number. The array of a call is memory of the caller's, given
by its items. -/
inductive VectorOp (α : Type)
  | create (itemSize : ℕ) (flags : BitVec 32)
  | copy (rhs : ℕ)
  | assign (this rhs : ℕ)
  | insertArrayAt (this : ℕ) (array : ℕ → α) (index length : ℕ)
  | insertVectorAt (this vector index : ℕ)
  | appendVector (this vector : ℕ)
  | insertAt (this : ℕ) (item : Option α) (index numItems : ℕ)
  | replaceAt (this : ℕ) (prototype : Option α) (index : ℕ)
  | removeItemsAt (this index count : ℕ)
  | pop (this : ℕ)
  | clear (this : ℕ)
  | setCapacity (this new_capacity : ℕ)
  | resize (this size : ℕ)
  | finish_vector (this : ℕ)

section Calls

variable {Heap Addr α : Type}

/-- A method is called on a vector. Only that vector and the heap are changed. -/
def Process.on (p : Process Heap Addr) (this : ℕ)
    (method : VectorImpl Addr → Heap → Option (ℤ × VectorImpl Addr × Heap)) :
      Option (ℤ × Process Heap Addr) := do
  let v ← p.vectors[this]?
  let (r, v, h) ← method v p.heap
  some (r, ⟨h, p.vectors.set this v⟩)

/-- A call: what it returns, and the process after it. Functions that return nothing to tell of
success are taken to return `NO_ERROR`. -/
def VectorOp.call [DecidableEq Addr] (P : Platform Heap Addr α) (p : Process Heap Addr) :
    VectorOp α → Option (ℤ × Process Heap Addr)
  | .create itemSize flags =>
    some (NO_ERROR, { p with vectors := p.vectors ++ [VectorImpl.new itemSize flags] })
  | .copy rhs => do
    let v ← p.vectors[rhs]?
    let (v, h) := VectorImpl.copy P v p.heap
    some (NO_ERROR, ⟨h, p.vectors ++ [v]⟩)
  | .assign this rhs =>
    if this = rhs then some (NO_ERROR, p)
    else do
      let w ← p.vectors[rhs]?
      p.on this fun v h => (v.assign P w h).map fun (v, h) => (NO_ERROR, v, h)
  | .insertArrayAt this array index length =>
    p.on this fun v h => v.insertArrayAt P (.array array) index length h
  | .insertVectorAt this vector index => do
    let w ← p.vectors[vector]?
    p.on this fun v h => v.insertVectorAt P w index h
  | .appendVector this vector => do
    let w ← p.vectors[vector]?
    p.on this fun v h => v.appendVector P w h
  | .insertAt this item index numItems =>
    p.on this fun v h => v.insertAt P (.ofItem item) index numItems h
  | .replaceAt this prototype index =>
    p.on this fun v h => v.replaceAt P (.ofItem prototype) index h
  | .removeItemsAt this index count => p.on this fun v h => v.removeItemsAt P index count h
  | .pop this => p.on this fun v h => (v.pop P h).map fun (v, h) => (NO_ERROR, v, h)
  | .clear this => p.on this fun v h => (v.clear P h).map fun (v, h) => (NO_ERROR, v, h)
  | .setCapacity this new_capacity => p.on this fun v h => v.setCapacity P new_capacity h
  | .resize this size => p.on this fun v h => v.resize P size h
  | .finish_vector this => p.on this fun v h => some (NO_ERROR, v.finish_vector P h)

/-- What may be inserted into a vector: the items of another one of the same type. There are none in
itself when it is empty. -/
def Insertable (p : Process Heap Addr) (this vector : ℕ) : Prop :=
  ∃ v w, p.vectors[this]? = some v ∧ p.vectors[vector]? = some w ∧ v.mItemSize = w.mItemSize ∧
    (this ≠ vector ∨ w.mCount = 0)

/-- The calls that are made: the vectors exist, numbers are a `size_t`, items have a size, and the
items to insert are not in the storage that is changed. -/
def VectorOp.Callable (P : Platform Heap Addr α) (p : Process Heap Addr) : VectorOp α → Prop
  | .create itemSize _ => 0 < itemSize
  | .copy rhs => rhs < p.vectors.length
  | .assign this rhs => this < p.vectors.length ∧ rhs < p.vectors.length
  | .insertArrayAt this _ index length =>
    this < p.vectors.length ∧ index < 2 ^ P.wordBits ∧ length < 2 ^ P.wordBits
  | .insertVectorAt this vector index => Insertable p this vector ∧ index < 2 ^ P.wordBits
  | .appendVector this vector => Insertable p this vector
  | .insertAt this _ index numItems =>
    this < p.vectors.length ∧ index < 2 ^ P.wordBits ∧ numItems < 2 ^ P.wordBits
  | .replaceAt this _ index => this < p.vectors.length ∧ index < 2 ^ P.wordBits
  | .removeItemsAt this index count =>
    this < p.vectors.length ∧ index < 2 ^ P.wordBits ∧ count < 2 ^ P.wordBits
  | .pop this | .clear this | .finish_vector this => this < p.vectors.length
  | .setCapacity this n | .resize this n => this < p.vectors.length ∧ n < 2 ^ P.wordBits

/-- The runs of calls. After a call that aborts there is no process. The heap is left open at the
beginning, and a call must be one that can be made. -/
def vectorRuns [DecidableEq Addr] (P : Platform Heap Addr α) : Lts (Option (Process Heap Addr))
    (VectorOp α) where
  init s := ∃ h, s = some ⟨h, []⟩
  step s op t := ∃ p, s = some p ∧ op.Callable P p ∧ t = (op.call P p).map Prod.snd

/-! ## What the calls are for -/

/-- The items of a vector, read from its storage. There are none when it has no storage. -/
def VectorImpl.items (m : Blocks Addr α) (v : VectorImpl Addr) : List α :=
  match v.mStorage.bind m with
  | none => []
  | some B => (List.range v.mCount).map (B.item v.mItemSize)

/-- The lists of the vectors. -/
def Process.lists (blocks : Heap → Blocks Addr α) (p : Process Heap Addr) : List (List α) :=
  p.vectors.map (VectorImpl.items (blocks p.heap))

/-- The list of one vector is changed, and no other. -/
def Process.Sets (blocks : Heap → Blocks Addr α) (p p' : Process Heap Addr) (this : ℕ)
    (change : List α → BitVec 32 → List α → Prop) : Prop :=
  ∃ v l l', p.vectors[this]? = some v ∧ (p.lists blocks)[this]? = some l ∧ change l v.mFlags l' ∧
    p'.lists blocks = (p.lists blocks).set this l'

/-- What a call does to the lists. It is the purpose of each method, with no regard to storage. -/
def VectorOp.Lists (blocks : Heap → Blocks Addr α) (blank : α)
    (p p' : Process Heap Addr) : VectorOp α → Prop
  | .create _ _ => p'.lists blocks = p.lists blocks ++ [[]]
  | .copy rhs => ∃ l, (p.lists blocks)[rhs]? = some l ∧ p'.lists blocks = p.lists blocks ++ [l]
  | .assign this rhs => p.Sets blocks p' this fun _ _ l' => (p.lists blocks)[rhs]? = some l'
  | .insertArrayAt this array index length => p.Sets blocks p' this fun l _ l' =>
    index ≤ l.length ∧ l' = l.take index ++ (List.range length).map array ++ l.drop index
  | .insertVectorAt this vector index => p.Sets blocks p' this fun l _ l' =>
    ∃ xs, (p.lists blocks)[vector]? = some xs ∧ index ≤ l.length ∧
      l' = l.take index ++ xs ++ l.drop index
  | .appendVector this vector => p.Sets blocks p' this fun l _ l' =>
    ∃ xs, (p.lists blocks)[vector]? = some xs ∧ l' = l ++ xs
  | .insertAt this item index numItems => p.Sets blocks p' this fun l flags l' =>
    ∃ xs, VectorImpl.Given blank flags item numItems xs ∧ index ≤ l.length ∧
      l' = l.take index ++ xs ++ l.drop index
  | .replaceAt this prototype index => p.Sets blocks p' this fun l flags l' =>
    ∃ x, VectorImpl.Given blank flags prototype 1 [x] ∧ index < l.length ∧ l' = l.set index x
  | .removeItemsAt this index count => p.Sets blocks p' this fun l _ l' =>
    index + count ≤ l.length ∧ l' = l.take index ++ l.drop (index + count)
  | .pop this => p.Sets blocks p' this fun l _ l' => l' = l.dropLast
  | .clear this => p.Sets blocks p' this fun _ _ l' => l' = []
  | .setCapacity this _ => p.Sets blocks p' this fun l _ l' => l' = l
  | .resize this size => p.Sets blocks p' this fun l flags l' =>
    ∃ xs, VectorImpl.Given blank flags none (size - l.length) xs ∧ l' = l.take size ++ xs
  | .finish_vector this => p.Sets blocks p' this fun _ _ l' => l' = []

/-- The call aborts, or returns an error and changes no list, or it does to the lists what it is
for. -/
def Behaves [DecidableEq Addr] (P : Platform Heap Addr α) (blocks : Heap → Blocks Addr α)
    (blank : α) (s : Option (Process Heap Addr)) (op : VectorOp α) : Prop :=
  ∀ p r p', s = some p → op.call P p = some (r, p') →
    (r < 0 ∧ p'.lists blocks = p.lists blocks) ∨ (0 ≤ r ∧ op.Lists blocks blank p p')

/-- The calls that remove items need their sum of index and count not to wrap around to one that
passes the check, and memory for smaller storage when they ask for it. -/
def VectorOp.Ok (P : Platform Heap Addr α) (s : Option (Process Heap Addr))
    (op : VectorOp α) : Prop :=
  ∀ p v, s = some p → match op with
    | .removeItemsAt this index count =>
      p.vectors[this]? = some v → v.RemovalOk P index count p.heap
    | .pop this =>
      p.vectors[this]? = some v → v.mCount ≠ 0 → ¬ v.ShrinkFails P (v.mCount - 1) 1 p.heap
    | .clear this => p.vectors[this]? = some v → v.mCount ≠ 0 → ¬ v.ShrinkFails P 0 v.mCount p.heap
    | .resize this size => p.vectors[this]? = some v → size < v.mCount →
        ¬ v.ShrinkFails P size (v.mCount - size) p.heap
    | _ => True

end Calls

/-! ## The references of the vectors -/

variable {Heap Addr α : Type} [DecidableEq Addr]

/-- How many vectors refer to each buffer. The counter of a buffer is to be this number, so that
storage is shared exactly when it is counted as shared. -/
def owners (vs : List (VectorImpl Addr)) : Addr → ℕ := (vs.map fun v => own v.mStorage).sum

theorem owners_cons (v : VectorImpl Addr) (vs : List (VectorImpl Addr)) :
    owners (v :: vs) = own v.mStorage + owners vs := by simp [owners]

theorem owners_append (vs ws : List (VectorImpl Addr)) :
    owners (vs ++ ws) = owners vs + owners ws := by
  simp [owners]

/-- The references of the others, and that of the one. -/
theorem owners_eraseIdx {vs : List (VectorImpl Addr)} {i : ℕ} {v : VectorImpl Addr}
    (hv : vs[i]? = some v) :
    owners vs = owners (vs.eraseIdx i) + own v.mStorage := by
  obtain ⟨hi, rfl⟩ := List.getElem?_eq_some_iff.mp hv
  have hperm := (List.getElem_cons_eraseIdx_perm hi).symm
  rw [add_comm, ← owners_cons]
  exact (hperm.map _).sum_eq

theorem owners_set {vs : List (VectorImpl Addr)} {i : ℕ} (hi : i < vs.length)
    (w : VectorImpl Addr) :
    owners (vs.set i w) = owners (vs.eraseIdx i) + own w.mStorage := by
  rw [owners_eraseIdx (i := i) (v := w) (by simp [hi]), List.eraseIdx_set_eq]

theorem owners_pos {vs : List (VectorImpl Addr)} {w : VectorImpl Addr} {b : Addr} (hw : w ∈ vs)
    (hb : w.mStorage = some b) : 0 < owners vs b := by
  induction vs with
  | nil => cases hw
  | cons v vs ih =>
    rw [owners_cons, Pi.add_apply]
    cases hw with
    | head => simp [hb]
    | tail _ hmem => exact Nat.add_pos_right _ (ih hmem)

omit [DecidableEq Addr] in
/-- A vector is one of the others when its number is another one. -/
theorem mem_others {vs : List (VectorImpl Addr)} {i j : ℕ} {w : VectorImpl Addr} (hne : j ≠ i)
    (hw : vs[j]? = some w) : w ∈ vs.eraseIdx i :=
  List.mem_eraseIdx_iff_getElem?.mpr ⟨j, hne, hw⟩

/-! ## What holds between the calls -/

/-- The storage of a vector has room for its items. A vector without storage has no items. -/
structure VectorImpl.Fits (m : Blocks Addr α) (v : VectorImpl Addr) : Prop where
  itemSize_pos : 0 < v.mItemSize
  null : v.mStorage = none → v.mCount = 0
  room : ∀ b, v.mStorage = some b → Room m b v.mItemSize v.mCount

/-- The reference counts are the numbers of vectors, and the storage of each has room for its
items. -/
structure Consistent (P : Platform Heap Addr α) (blocks : Heap → Blocks Addr α)
    (p : Process Heap Addr) :
    Prop where
  owned : Owned P.limit (owners p.vectors) (blocks p.heap)
  fits : ∀ v ∈ p.vectors, v.Fits (blocks p.heap)

variable {P : Platform Heap Addr α} {blocks : Heap → Blocks Addr α} {blank : α}
  {p p' : Process Heap Addr}
  {r : ℤ} {i : ℕ} {v : VectorImpl Addr}

omit [DecidableEq Addr] in
theorem VectorImpl.items_length {m : Blocks Addr α}
    (hv : v.Fits m) : (v.items m).length = v.mCount := by
  cases hst : v.mStorage with
  | none => simp [items, hst, hv.null hst]
  | some b =>
    obtain ⟨B, hB, _⟩ := hv.room b hst
    simp [items, hst, hB]

omit [DecidableEq Addr] in
theorem VectorImpl.slots_items {m : Blocks Addr α} {b : Addr} (hv : v.Fits m)
    (hb : v.mStorage = some b) :
    Slots m b v.mItemSize 0 (v.items m) := by
  obtain ⟨B, hB, hfit⟩ := hv.room b hb
  have hitems : v.items m = (List.range v.mCount).map (B.item v.mItemSize) := by
    simp [items, hb, hB]
  refine ⟨B, hB, by simpa [hitems] using hfit, fun k a hk => ?_⟩
  rw [hitems, List.getElem?_map] at hk
  obtain ⟨j, hj, rfl⟩ := Option.map_eq_some_iff.mp hk
  obtain ⟨_, rfl⟩ := List.getElem?_eq_some_iff.mp hj
  simp

/-- A vector that stores a list has the items of the list. -/
theorem VectorImpl.Stores.fits {o : Addr → ℕ} {h : Heap} {l : List α}
    (hs : Stores P blocks o v h l) :
    v.Fits (blocks h) :=
  ⟨hs.itemSize_pos, fun hnull => by rw [hs.count, hs.null hnull, List.length_nil], fun b hb => by
    simpa [hs.count] using (hs.slots b hb).room⟩

theorem VectorImpl.Stores.items_eq {o : Addr → ℕ} {h : Heap} {l : List α}
    (hs : Stores P blocks o v h l) :
    v.items (blocks h) = l := by
  have hlen := items_length hs.fits
  cases hst : v.mStorage with
  | none =>
    rw [hs.null hst]
    exact List.eq_nil_of_length_eq_zero (by rw [hlen, hs.fits.null hst])
  | some b => exact (slots_items hs.fits hst).unique (hs.slots b hst) (by rw [hlen, hs.count])

/-- Each vector stores its items, beside the references of the others. This is how the
specifications of the methods are applied in a process. -/
theorem Consistent.stores (hc : Consistent P blocks p) (hv : p.vectors[i]? = some v) :
    VectorImpl.Stores P blocks (owners (p.vectors.eraseIdx i)) v p.heap
      (v.items (blocks p.heap)) := by
  have hfits := hc.fits v (List.mem_of_getElem? hv)
  refine ⟨owners_eraseIdx hv ▸ hc.owned, (VectorImpl.items_length hfits).symm, hfits.itemSize_pos,
    fun hnull => ?_, fun b hb => VectorImpl.slots_items hfits hb⟩
  exact List.eq_nil_of_length_eq_zero (by rw [VectorImpl.items_length hfits, hfits.null hnull])

omit [DecidableEq Addr] in
/-- A vector whose storage is kept keeps its items. -/
theorem VectorImpl.Fits.kept {m m' : Blocks Addr α} {o : Addr → ℕ} (hv : v.Fits m)
    (hk : Keeps o m m')
    (ho : ∀ b, v.mStorage = some b → 0 < o b) : v.Fits m' ∧ v.items m' = v.items m := by
  refine ⟨⟨hv.itemSize_pos, hv.null, fun b hb => hk.room (ho b hb) (hv.room b hb)⟩, ?_⟩
  cases hst : v.mStorage with
  | none => simp [items, hst]
  | some b =>
    obtain ⟨B, hB, _⟩ := hv.room b hst
    obtain ⟨B', hB', _, hitem⟩ := hk b B (ho b hst) hB
    simp [items, hst, hB, hB', hitem]

omit [DecidableEq Addr] in
theorem Process.getElem?_lists (p : Process Heap Addr) (i : ℕ) :
    (p.lists blocks)[i]? = p.vectors[i]?.map (VectorImpl.items (blocks p.heap)) :=
  List.getElem?_map

/-- A change of one vector keeps the process consistent, and changes its list alone. The storage of
the others is not written. -/
theorem Consistent.updates (hc : Consistent P blocks p) (hv : p.vectors[i]? = some v)
    {v' : VectorImpl Addr} {h' : Heap} {l' : List α}
    (hu : VectorImpl.Updates P blocks (owners (p.vectors.eraseIdx i)) v p.heap v' h' l') :
    Consistent P blocks ⟨h', p.vectors.set i v'⟩ ∧
      Process.lists blocks ⟨h', p.vectors.set i v'⟩ = (p.lists blocks).set i l' := by
  have hi : i < p.vectors.length := (List.getElem?_eq_some_iff.mp hv).1
  -- the other vectors
  have hothers : ∀ j w, j ≠ i → p.vectors[j]? = some w →
      w.Fits (blocks h') ∧ w.items (blocks h') = w.items (blocks p.heap) := fun j w hne hw =>
    (hc.fits w (List.mem_of_getElem? hw)).kept hu.keeps fun b hb =>
      owners_pos (mem_others hne hw) hb
  refine ⟨⟨?_, fun w hw => ?_⟩, ?_⟩
  · -- the storage that is counted is that of the new vector and of the others
    -- the vector takes the place of the one before
    rw [owners_set hi]
    exact hu.stores.owned
  · -- every vector of the process is the one that was changed or one of the others
    obtain ⟨j, hj⟩ := List.mem_iff_getElem?.mp hw
    rcases eq_or_ne j i with rfl | hne
    · obtain rfl : v' = w := by simpa [hi] using hj
      exact hu.stores.fits
    · rw [List.getElem?_set_ne hne.symm] at hj
      exact (hothers j w hne hj).1
  · -- the lists, place by place
    ext1 j
    rw [Process.getElem?_lists]
    rcases eq_or_ne j i with rfl | hne
    · simp [hi, hu.stores.items_eq, Process.lists]
    · rw [List.getElem?_set_ne hne.symm, List.getElem?_set_ne hne.symm, Process.getElem?_lists]
      cases hw : p.vectors[j]? with
      | none => rfl
      | some w => simp [(hothers j w hne hw).2]

/-- What a method does to its vector, the call does to the process. -/
theorem Consistent.on (hc : Consistent P blocks p) {this : ℕ}
    {method : VectorImpl Addr → Heap → Option (ℤ × VectorImpl Addr × Heap)}
    {change : List α → BitVec 32 → List α → Prop} (he : p.on this method = some (r, p'))
    (hm : ∀ v l v' h', p.vectors[this]? = some v → (p.lists blocks)[this]? = some l →
      VectorImpl.Stores P blocks (owners (p.vectors.eraseIdx this)) v p.heap l →
      method v p.heap = some (r, v', h') →
      (r < 0 ∧ VectorImpl.Updates P blocks (owners (p.vectors.eraseIdx this)) v p.heap v' h' l) ∨
        (0 ≤ r ∧ ∃ l', change l v.mFlags l' ∧
          VectorImpl.Updates P blocks (owners (p.vectors.eraseIdx this)) v p.heap v' h' l')) :
    Consistent P blocks p' ∧
      ((r < 0 ∧ p'.lists blocks = p.lists blocks) ∨ (0 ≤ r ∧ p.Sets blocks p' this change)) := by
  -- the call on a process is the method on one of its vectors
  simp only [Process.on, Option.bind_eq_bind, Option.bind_eq_some_iff, Prod.exists,
    Option.some.injEq, Prod.mk.injEq] at he
  obtain ⟨v, hv, r', v', h', hcall, rfl, rfl⟩ := he
  have hlist : (p.lists blocks)[this]? = some (v.items (blocks p.heap)) := by
    rw [Process.getElem?_lists, hv, Option.map_some]
  rcases hm v _ v' h' hv hlist (hc.stores hv) hcall with ⟨hneg, hu⟩ | ⟨hpos, l', hchange, hu⟩
  · -- an error: the list of the vector is the one it had
    obtain ⟨hc', hlists⟩ := hc.updates hv hu
    refine ⟨hc', .inl ⟨hneg, ?_⟩⟩
    obtain ⟨hi, hitems⟩ := List.getElem?_eq_some_iff.mp hlist
    rw [hlists, ← hitems, List.set_getElem_self]
  · -- success: the list at that place is the one the method leaves
    obtain ⟨hc', hlists⟩ := hc.updates hv hu
    exact ⟨hc', .inr ⟨hpos, v, _, l', hv, hlist, hchange, hlists⟩⟩

/-! ## The calls -/

/-- A new vector at the end leaves the lists of the others. -/
theorem Consistent.append (hc : Consistent P blocks p) {h' : Heap} {w : VectorImpl Addr}
    {l : List α} (hw : VectorImpl.Stores P blocks (owners p.vectors) w h' l)
    (hk : Keeps (owners p.vectors) (blocks p.heap) (blocks h')) :
    Consistent P blocks ⟨h', p.vectors ++ [w]⟩ ∧
      Process.lists blocks ⟨h', p.vectors ++ [w]⟩ = p.lists blocks ++ [l] := by
  -- the vectors that were there refer to their storage, so it is kept
  have hothers : ∀ v ∈ p.vectors, v.Fits (blocks h') ∧
    v.items (blocks h') = v.items (blocks p.heap) :=
    fun v hv => (hc.fits v hv).kept hk fun b hb => owners_pos hv hb
  refine ⟨⟨?_, fun v hv => ?_⟩, ?_⟩
  · -- the references of the new vector come on top of the others
    have hsum : owners (p.vectors ++ [w]) = owners p.vectors + own w.mStorage := by
      rw [owners_append, owners_cons]
      simp [owners]
    exact hsum ▸ hw.owned
  · -- an old vector or the new one
    rcases List.mem_append.mp hv with hold | hnew
    · exact (hothers v hold).1
    · obtain rfl := List.mem_singleton.mp hnew
      exact hw.fits
  · simp only [Process.lists, List.map_append, List.map_cons, List.map_nil, hw.items_eq]
    congr 1
    exact List.map_congr_left fun v hv => (hothers v hv).2

theorem create_spec (hc : Consistent P blocks p) {itemSize : ℕ} {flags : BitVec 32}
    (hpos : 0 < itemSize) (he : VectorOp.call P p (.create itemSize flags) = some (r, p')) :
    Consistent P blocks p' ∧ 0 ≤ r ∧ p'.lists blocks = p.lists blocks ++ [[]] := by
  simp only [VectorOp.call, Option.some.injEq, Prod.mk.injEq] at he
  obtain ⟨rfl, rfl⟩ := he
  have hnew : VectorImpl.Stores P blocks (owners p.vectors) (.new itemSize flags) p.heap [] :=
    ⟨by simpa [VectorImpl.new] using hc.owned, rfl, hpos, fun _ => rfl, by simp [VectorImpl.new]⟩
  obtain ⟨hc', hlists⟩ := hc.append hnew Keeps.refl
  exact ⟨hc', le_rfl, hlists⟩

theorem copyCall_spec (hP : P.Contract blocks blank) (hc : Consistent P blocks p) {rhs : ℕ}
    (he : VectorOp.call P p (.copy rhs) = some (r, p')) :
    Consistent P blocks p' ∧ 0 ≤ r ∧
      ∃ l, (p.lists blocks)[rhs]? = some l ∧ p'.lists blocks = p.lists blocks ++ [l] := by
  simp only [VectorOp.call, Option.bind_eq_bind, Option.bind_eq_some_iff, Option.some.injEq,
    Prod.mk.injEq] at he
  obtain ⟨v, hv, rfl, rfl⟩ := he
  obtain ⟨_, hk, hstores⟩ := VectorImpl.copy_spec hP (hc.stores hv)
  rw [← owners_eraseIdx hv] at hk hstores
  obtain ⟨hc', hlists⟩ := hc.append hstores hk
  exact ⟨hc', le_rfl, _, by rw [Process.getElem?_lists, hv, Option.map_some], hlists⟩

/-- The storage of another vector is one of those that are kept, and its items can be read there.
This is needed where a method has another vector as its argument. -/
theorem Consistent.other (hc : Consistent P blocks p) {this : ℕ} (hv : p.vectors[i]? = some v)
    (hne : i ≠ this) {b : Addr} (hb : v.mStorage = some b) :
    0 < owners (p.vectors.eraseIdx this) b ∧
      Slots (blocks p.heap) b v.mItemSize 0 (v.items (blocks p.heap)) :=
  ⟨owners_pos (mem_others hne hv) hb, (hc.stores hv).slots b hb⟩

/-- The call of `operator =`. Another vector refers to the storage that is shared, so it is kept; a
vector that is assigned to itself is left as it is. -/
theorem assignCall_spec (hP : P.Contract blocks blank) (hc : Consistent P blocks p) {this rhs : ℕ}
    (hthis : this < p.vectors.length) (he : VectorOp.call P p (.assign this rhs) = some (r, p')) :
    Consistent P blocks p' ∧ ((r < 0 ∧ p'.lists blocks = p.lists blocks) ∨
      (0 ≤ r ∧ p.Sets blocks p' this fun _ _ l' => (p.lists blocks)[rhs]? = some l')) := by
  simp only [VectorOp.call] at he
  split at he
  · -- to itself
    rename_i heq
    subst heq
    simp only [Option.some.injEq, Prod.mk.injEq] at he
    obtain ⟨rfl, rfl⟩ := he
    have hlist : (p.lists blocks)[this]? = some (p.vectors[this].items (blocks p.heap)) := by
      rw [Process.getElem?_lists, List.getElem?_eq_getElem hthis, Option.map_some]
    refine ⟨hc, .inr ⟨le_rfl, p.vectors[this], _, _, List.getElem?_eq_getElem hthis, hlist,
      hlist, ?_⟩⟩
    obtain ⟨hi, hitems⟩ := List.getElem?_eq_some_iff.mp hlist
    rw [← hitems, List.set_getElem_self]
  · -- another vector: its storage is shared, and the old one is given up
    rename_i hne
    simp only [Option.bind_eq_bind, Option.bind_eq_some_iff] at he
    obtain ⟨w, hw, he⟩ := he
    refine hc.on he fun v l v' h' hv hl hs hcall => .inr ?_
    simp only [Option.map_eq_some_iff, Prod.mk.injEq, Prod.exists] at hcall
    obtain ⟨v₁, h₁, hassign, rfl, rfl, rfl⟩ := hcall
    -- the storage of the other vector is kept, and its items are taken over
    have hws := hc.stores hw
    exact ⟨le_rfl, w.items (blocks p.heap), by rw [Process.getElem?_lists, hw, Option.map_some],
      VectorImpl.assign_spec hP hs hws.count hws.null (fun b hb =>
        hc.other hw (Ne.symm hne) hb) hassign⟩

/-- The call of `insertVectorAt`. The items are read from the storage of the other vector, which is
counted for it and so survives the growth of this one. -/
theorem insertVectorAt_spec (hP : P.Contract blocks blank) (hc : Consistent P blocks p)
    {this vector index : ℕ}
    {w v' : VectorImpl Addr} {h' : Heap} {l : List α} (hins : Insertable p this vector)
    (hv : p.vectors[this]? = some v) (hw : p.vectors[vector]? = some w)
    (hs : VectorImpl.Stores P blocks (owners (p.vectors.eraseIdx this)) v p.heap l)
    (he : v.insertVectorAt P w index p.heap = some (r, v', h')) :
    (r < 0 ∧ (l.length < index ∨ w.items (blocks p.heap) = [] ∨ P.Refuses) ∧
        VectorImpl.Updates P blocks (owners (p.vectors.eraseIdx this)) v p.heap v' h' l) ∨
      (r = index ∧ index ≤ l.length ∧ VectorImpl.Updates P blocks
        (owners (p.vectors.eraseIdx this)) v p.heap v' h'
        (l.take index ++ w.items (blocks p.heap) ++ l.drop index)) := by
  obtain ⟨v₀, w₀, hv₀, hw₀, hsize, hother⟩ := hins
  obtain rfl : v = v₀ := Option.some.inj (hv.symm.trans hv₀)
  obtain rfl : w = w₀ := Option.some.inj (hw.symm.trans hw₀)
  have hws := hc.stores hw
  -- the items to insert are read from the storage of the other vector
  have hsrc : Reads (blocks p.heap) v.mItemSize (w.source 0) (w.items (blocks p.heap)) := by
    rw [hsize]
    exact VectorImpl.reads_source hws.null hws.slots
  rw [VectorImpl.insertVectorAt, hws.count] at he
  refine VectorImpl.insertArrayAt_spec hP hs hsrc (fun hne c hcb => ?_) he
  -- the storage that is read is counted for its owner, so it survives the growth
  rw [VectorImpl.source_block?] at hcb
  -- there are items to insert, so it is another vector
  have hdiff : vector ≠ this := by
    rcases hother with hdiff | hempty
    · exact hdiff.symm
    · exact absurd (List.eq_nil_of_length_eq_zero (hws.count.symm.trans hempty)) hne
  exact (hc.other hw hdiff hcb).1

/-- `pop` takes the last item, if there is one. The index lies in the list, so the check of
`removeItemsAt` would pass anyway. -/
theorem pop_spec (hP : P.Contract blocks blank) {o : Addr → ℕ} {v' : VectorImpl Addr} {h h' : Heap}
    {l : List α} (hs : VectorImpl.Stores P blocks o v h l)
    (hok : v.mCount ≠ 0 → ¬ v.ShrinkFails P (v.mCount - 1) 1 h) (he : v.pop P h = some (v', h')) :
    VectorImpl.Updates P blocks o v h v' h' l.dropLast := by
  have hcount := hs.count
  unfold VectorImpl.pop at he
  split at he
  · -- the last item is removed, without the check of `removeItemsAt`
    rename_i hne
    -- the check would pass anyway, as the index lies in the list
    have hpass : ¬ v.mCount < P.add (v.mCount - 1) 1 := by
      rw [VectorImpl.add_of_lt hP (by have := hs.length_lt; omega)]
      omega
    simp only [VectorImpl.removeItemsAt, if_neg hpass, Option.bind_eq_bind, Option.bind_eq_some_iff,
      Prod.exists, Option.some.injEq, Prod.mk.injEq] at he
    obtain ⟨_, v₁, h₁, ⟨v₂, h₂, hshrink, -, rfl, rfl⟩, rfl, rfl⟩ := he
    have hup := VectorImpl._shrink_spec_of_ok hP hs (by omega) (fun hbad => hok hne hbad.2) hshrink
    -- the list without its last item
    have hlist : l.take (v.mCount - 1) ++ l.drop (v.mCount - 1 + 1) = l.dropLast := by
      rw [List.drop_eq_nil_of_le (by omega), List.append_nil, hcount, List.dropLast_eq_take]
    exact hlist ▸ hup
  · -- nothing to remove
    rename_i hzero
    simp only [Option.some.injEq, Prod.mk.injEq] at he
    obtain ⟨rfl, rfl⟩ := he
    have hnil : l = [] := List.eq_nil_of_length_eq_zero (by omega)
    subst hnil
    exact hs.unchanged rfl

theorem clear_spec (hP : P.Contract blocks blank) {o : Addr → ℕ} {v' : VectorImpl Addr}
    {h h' : Heap} {l : List α}
    (hs : VectorImpl.Stores P blocks o v h l) (hok : v.mCount ≠ 0 → ¬ v.ShrinkFails P 0 v.mCount h)
    (he : v.clear P h = some (v', h')) : VectorImpl.Updates P blocks o v h v' h' [] := by
  have hcount := hs.count
  have hup := VectorImpl._shrink_spec_of_ok hP hs (by omega)
    (fun hbad => hok (Nat.pos_iff_ne_zero.mp hbad.1) hbad.2) he
  simpa [hcount] using hup

/-- `resize` asks for the removal of items that are there. -/
theorem removalOk_of_memory (hP : P.Contract blocks blank) {o : Addr → ℕ} {h : Heap} {l : List α}
    (hs : VectorImpl.Stores P blocks o v h l) {size : ℕ} (hlt : size < v.mCount)
    (hok : ¬ v.ShrinkFails P size (v.mCount - size) h) :
    v.RemovalOk P size (v.mCount - size) h := by
  refine ⟨fun hwrap => ?_, fun hbad => hok hbad.2.2⟩
  have hbound := hs.length_lt
  have hlim := VectorImpl.limit_lt hP
  have hcount := hs.count
  omega

omit [DecidableEq Addr] in
/-- The items of an array of the caller can be read. -/
theorem reads_array {m : Blocks Addr α} {itemSize : ℕ} (array : ℕ → α) (length : ℕ) :
    Reads m itemSize (.array array) ((List.range length).map array) := by
  intro k a hk
  rw [List.getElem?_map] at hk
  obtain ⟨j, hj, rfl⟩ := Option.map_eq_some_iff.mp hk
  obtain ⟨_, rfl⟩ := List.getElem?_eq_some_iff.mp hj
  simp

/-- **One call**, by the functions. Each case is the specification of one method, with what is known
of its arguments. -/
theorem call_spec (hP : P.Contract blocks blank) (hc : Consistent P blocks p) {op : VectorOp α}
    (hcall : op.Callable P p) (hok : op.Ok P (some p)) (he : op.call P p = some (r, p')) :
    Consistent P blocks p' ∧
      ((r < 0 ∧ p'.lists blocks = p.lists blocks) ∨ (0 ≤ r ∧ op.Lists blocks blank p p')) := by
  -- one case for each method: what it does to the list of its vector, and that no other changes
  cases op with
  -- a constructor adds a vector and returns no status
  | create itemSize flags =>
    obtain ⟨hc', hdone⟩ := create_spec hc hcall he
    exact ⟨hc', .inr hdone⟩
  -- a copy shares the storage of the other vector
  | copy rhs =>
    obtain ⟨hc', hdone⟩ := copyCall_spec hP hc he
    exact ⟨hc', .inr hdone⟩
  -- `operator=`, which looks at itself first
  | assign this rhs => exact assignCall_spec hP hc hcall.1 he
  -- the items come from an array of the caller
  | insertArrayAt this array index length =>
    rw [VectorOp.call] at he
    rw [VectorOp.Lists]
    refine hc.on he fun v l v' h' hv hl hs hins => ?_
    -- the items of an array of the caller are in no storage
    have hlen : ((List.range length).map array).length = length := by simp
    rw [← hlen] at hins
    rcases VectorImpl.insertArrayAt_spec hP hs (reads_array array length)
      (by simp [Source.block?, Source.place?]) hins with
      ⟨hneg, _, hup⟩ | ⟨rfl, hle, hup⟩
    · exact .inl ⟨hneg, hup⟩
    · exact .inr ⟨Int.natCast_nonneg _, _, ⟨hle, rfl⟩, hup⟩
  -- from another vector, or from an empty one
  | insertVectorAt this vector index =>
    rw [VectorOp.Lists]
    obtain ⟨v₀, w, hv₀, hw, hrest⟩ := hcall.1
    simp only [VectorOp.call, hw, Option.bind_eq_bind, Option.bind_some] at he
    refine hc.on he fun v l v' h' hv hl hs hins => ?_
    rcases insertVectorAt_spec hP hc hcall.1 hv hw hs hins with ⟨hneg, _, hup⟩ | ⟨rfl, hle, hup⟩
    · exact .inl ⟨hneg, hup⟩
    · exact .inr ⟨Int.natCast_nonneg _, _,
        ⟨_, by rw [Process.getElem?_lists, hw, Option.map_some], hle, rfl⟩, hup⟩
  -- `appendVector` is `insertVectorAt` at the end
  | appendVector this vector =>
    rw [VectorOp.Lists]
    obtain ⟨v₀, w, hv₀, hw, hrest⟩ := hcall
    simp only [VectorOp.call, hw, Option.bind_eq_bind, Option.bind_some] at he
    refine hc.on he fun v l v' h' hv hl hs hins => ?_
    rcases insertVectorAt_spec hP hc ⟨v₀, w, hv₀, hw, hrest⟩ hv hw hs hins with
      ⟨hneg, _, hup⟩ | ⟨rfl, _, hup⟩
    · exact .inl ⟨hneg, hup⟩
    · -- they are inserted at the end
      have hlist : l.take v.mCount ++ w.items (blocks p.heap) ++ l.drop v.mCount =
          l ++ w.items (blocks p.heap) := by
        rw [hs.count, List.take_length, List.drop_length, List.append_nil]
      exact .inr ⟨Int.natCast_nonneg _, _,
        ⟨_, by rw [Process.getElem?_lists, hw, Option.map_some], rfl⟩, hlist ▸ hup⟩
  -- `numItems` copies of one item, or as many new ones
  | insertAt this item index numItems =>
    rw [VectorOp.call] at he
    rw [VectorOp.Lists]
    refine hc.on he fun v l v' h' hv hl hs hins => ?_
    rcases VectorImpl.insertAt_spec hP hs (VectorImpl.points_ofItem item) hins with
      ⟨hneg, _, hup⟩ | ⟨rfl, hle, xs, hgiven, hup⟩
    · exact .inl ⟨hneg, hup⟩
    · exact .inr ⟨Int.natCast_nonneg _, _, ⟨xs, hgiven, hle, rfl⟩, hup⟩
  -- the item of the call replaces the one at the index
  | replaceAt this prototype index =>
    rw [VectorOp.call] at he
    rw [VectorOp.Lists]
    refine hc.on he fun v l v' h' hv hl hs hrep => ?_
    rcases VectorImpl.replaceAt_spec hP hs (VectorImpl.points_ofItem prototype) hrep with
      ⟨hneg, _, hup⟩ | ⟨rfl, hlt, x, hgiven, hup⟩
    · exact .inl ⟨hneg, hup⟩
    · exact .inr ⟨Int.natCast_nonneg _, _, ⟨x, hgiven, hlt, rfl⟩, hup⟩
  -- the condition of the call is that the end of the range does not wrap around
  | removeItemsAt this index count =>
    rw [VectorOp.call] at he
    rw [VectorOp.Lists]
    refine hc.on he fun v l v' h' hv hl hs hrem => ?_
    rcases VectorImpl.removeItemsAt_spec hP hs (hok p v rfl hv) hrem with
      ⟨hneg, _, hup⟩ | ⟨rfl, hle, hup⟩
    · exact .inl ⟨hneg, hup⟩
    · exact .inr ⟨Int.natCast_nonneg _, _, ⟨hle, rfl⟩, hup⟩
  -- no status is returned: when the storage cannot be shrunk the item stays
  | pop this =>
    rw [VectorOp.call] at he
    rw [VectorOp.Lists]
    refine hc.on he fun v l v' h' hv hl hs hpop => .inr ?_
    simp only [Option.map_eq_some_iff, Prod.mk.injEq, Prod.exists] at hpop
    obtain ⟨v₁, h₁, hpop, rfl, rfl, rfl⟩ := hpop
    exact ⟨le_rfl, _, rfl, pop_spec hP hs (hok p v rfl hv) hpop⟩
  -- likewise: `clear` forgets to say that nothing was removed
  | clear this =>
    rw [VectorOp.call] at he
    rw [VectorOp.Lists]
    refine hc.on he fun v l v' h' hv hl hs hclear => .inr ?_
    simp only [Option.map_eq_some_iff, Prod.mk.injEq, Prod.exists] at hclear
    obtain ⟨v₁, h₁, hclear, rfl, rfl, rfl⟩ := hclear
    exact ⟨le_rfl, _, rfl, clear_spec hP hs (hok p v rfl hv) hclear⟩
  -- only the capacity can change, or memory is refused
  | setCapacity this new_capacity =>
    rw [VectorOp.call] at he
    rw [VectorOp.Lists]
    refine hc.on he fun v l v' h' hv hl hs hset => ?_
    -- the items stay, whatever is returned
    have hup := VectorImpl.setCapacity_spec hP hs hset
    rcases Int.lt_or_le r 0 with hneg | hpos
    · exact .inl ⟨hneg, hup⟩
    · exact .inr ⟨hpos, l, rfl, hup⟩
  -- longer or shorter, by the methods above
  | resize this size =>
    rw [VectorOp.call] at he
    rw [VectorOp.Lists]
    refine hc.on he fun v l v' h' hv hl hs hres => ?_
    -- when it gets shorter, `removeItemsAt` is called with the items that are there
    rcases VectorImpl.resize_spec hP hs (fun hlt =>
      removalOk_of_memory hP hs hlt (hok p v rfl hv hlt)) hres with
      herr | ⟨hpos, xs, hgiven, hup⟩
    · exact .inl herr
    · exact .inr ⟨hpos, _, ⟨xs, hgiven, rfl⟩, hup⟩
  -- the destructor gives the storage up
  | finish_vector this =>
    rw [VectorOp.call] at he
    rw [VectorOp.Lists]
    refine hc.on he fun v l v' h' hv hl hs hfin => .inr ?_
    simp only [Option.some.injEq, Prod.mk.injEq] at hfin
    obtain ⟨rfl, rfl, rfl⟩ := hfin
    exact ⟨le_rfl, _, rfl, VectorImpl.finish_vector_spec hP hs⟩

/-- **The vectors refine lists.** Where the removals of a run are `Ok`, every call of the run
aborts, or returns an error and changes no list, or does to the lists what it is for. -/
theorem vectors_refine_lists (hP : P.Contract blocks blank) {s t : Option (Process Heap Addr)}
    {tr : List (Option (Process Heap Addr) × VectorOp α)} (h0 : (vectorRuns P).init s)
    (hrun : Lts.Run (vectorRuns P) s tr t) (hok : ∀ q ∈ tr, q.2.Ok P q.1) :
    ∀ q ∈ tr, Behaves P blocks blank q.1 q.2 := by
  -- induction on the run: as long as the calls were `Ok`, the process is consistent
  suffices hmain : (∀ q ∈ tr, Behaves P blocks blank q.1 q.2) ∧ ∀ p, t = some p →
      Consistent P blocks p from
    hmain.1
  induction hrun with
  | nil =>
    obtain ⟨h, rfl⟩ := h0
    -- no call was made, and there is no vector
    refine ⟨fun q hq => absurd hq List.not_mem_nil, ?_⟩
    rintro p ⟨⟩
    exact ⟨fun b hb => absurd hb (lt_irrefl _), fun v hv => absurd hv List.not_mem_nil⟩
  | @snoc tr t u op _ hstep ih =>
    obtain ⟨hbehaves, hcons⟩ := ih fun q hq => hok q (List.mem_append_left _ hq)
    -- the last call was `Ok` in the state before it
    have hlast : op.Ok P t := hok (t, op) (List.mem_append_right _ (List.mem_singleton_self _))
    obtain ⟨p, rfl, hcall, rfl⟩ := hstep
    have hp := hcons p rfl
    refine ⟨fun q hq => ?_, fun p' hp' => ?_⟩
    · -- what it did, and what the process is after it
      rcases List.mem_append.mp hq with hold | hnew
      · exact hbehaves q hold
      · obtain rfl := List.mem_singleton.mp hnew
        rintro p₁ r p' ⟨⟩ he
        exact (call_spec hP hp hcall hlast he).2
    · obtain ⟨⟨r, p'⟩, he, rfl⟩ := Option.map_eq_some_iff.mp hp'
      exact (call_spec hP hp hcall hlast he).1

/-- A run goes on with a call that does not abort. -/
theorem vectorRuns_snoc {s : Option (Process Heap Addr)}
    {tr : List (Option (Process Heap Addr) × VectorOp α)}
    (hrun : Lts.Run (vectorRuns P) s tr (some p)) (op : VectorOp α) (hcall : op.Callable P p)
    (he : op.call P p = some (r, p')) : Lts.Run (vectorRuns P) s (tr ++ [(some p, op)]) (some p') :=
  hrun.snoc ⟨p, rfl, hcall, by rw [he]; rfl⟩

/-- A process with one vector of four items. -/
def oneVector (outcomes : List Bool) : Process BlockHeap ℕ where
  heap := ⟨[some ⟨1, 28, fun s k => if s = 4 ∧ 0 ≤ k ∧ k < 4 then 7 else 0⟩], outcomes⟩
  vectors := [⟨some 0, 4, 0, 4⟩]

/-- The run that leads there. -/
theorem oneVector_run (outcomes : List Bool) :
    Lts.Run (vectorRuns (BlockHeap.platform true)) (some ⟨⟨[], true :: outcomes⟩, []⟩)
      [(some ⟨⟨[], true :: outcomes⟩, []⟩, .create 4 0),
        (some ⟨⟨[], true :: outcomes⟩, [.new 4 0]⟩, .insertAt 0 (some 7) 0 4)]
          (some (oneVector outcomes)) := by
  have hcreate := vectorRuns_snoc (P := BlockHeap.platform true) .nil (p :=
    ⟨⟨[], true :: outcomes⟩, []⟩)
    (.create 4 0) (by decide : 0 < 4) rfl
  exact vectorRuns_snoc (r := 0) hcreate (.insertAt 0 (some 7) 0 4)
    ⟨Nat.one_pos, by decide, by decide⟩
    (by with_unfolding_all rfl)

/-- An item is removed from a vector that shares its storage. -/
theorem vectors_refine_lists_shared :
    ∃ tr t, Lts.Run (vectorRuns (BlockHeap.platform true)) (some ⟨⟨[], [true]⟩, []⟩) tr t ∧
      tr.map Prod.snd = [.create 4 0, .insertAt 0 (some 7) 0 4, .copy 0, .removeItemsAt 1 1 1] ∧
      ∀ q ∈ tr, Behaves (BlockHeap.platform true) BlockHeap.blocks 0 q.1 q.2 := by
  have hrun := vectorRuns_snoc (oneVector_run []) (.copy 0) (by decide : 0 < 1) rfl
  have hrun' := vectorRuns_snoc hrun (.removeItemsAt 1 1 1) ⟨by decide, by decide, by decide⟩ rfl
  refine ⟨_, _, hrun', rfl, vectors_refine_lists (BlockHeap.platform_contract true)
    ⟨_, rfl⟩ hrun' ?_⟩
  simp only [List.mem_append, List.mem_cons, List.not_mem_nil, or_false]
  rintro q (((rfl | rfl) | rfl) | rfl)
  · exact fun _ _ _ => trivial
  · exact fun _ _ _ => trivial
  · exact fun _ _ _ => trivial
  · rintro p v ⟨⟩ hv
    obtain rfl := Option.some.inj hv
    refine ⟨by decide, ?_⟩
    -- the storage is not too large for the three items that are left
    rintro ⟨-, -, b, h', -, hlt, -⟩
    exact absurd hlt (by decide)

/-- Two calls that do not behave: the sum of index and count wraps around to 0 on a vector that has
no storage, and there is no memory for smaller storage. -/
theorem removal_not_done :
    (BlockHeap.platform true).Contract BlockHeap.blocks 0 ∧
      (∃ tr t, Lts.Run (vectorRuns (BlockHeap.platform true)) (some ⟨⟨[], []⟩, []⟩) tr t ∧
        tr.map Prod.snd = [.create 4 0, .removeItemsAt 0 1 (2 ^ 64 - 1)] ∧
        ¬ ∀ q ∈ tr, Behaves (BlockHeap.platform true) BlockHeap.blocks 0 q.1 q.2) ∧
      ∃ tr t, Lts.Run (vectorRuns (BlockHeap.platform true)) (some ⟨⟨[], [true, false]⟩, []⟩) tr t ∧
        tr.map Prod.snd = [.create 4 0, .insertAt 0 (some 7) 0 4, .clear 0] ∧
        ¬ ∀ q ∈ tr, Behaves (BlockHeap.platform true) BlockHeap.blocks 0 q.1 q.2 := by
  refine ⟨BlockHeap.platform_contract true, ?_, ?_⟩
  · -- the end of the range wraps around to 0, so the range check lets the call through
    have hrun : Lts.Run (vectorRuns (BlockHeap.platform true)) (some ⟨⟨[], []⟩, []⟩)
        [(some ⟨⟨[], []⟩, []⟩, .create 4 0), (some ⟨⟨[], []⟩, [.new 4 0]⟩,
          .removeItemsAt 0 1 (2 ^ 64 - 1))]
        (some ⟨⟨[], []⟩, [.new 4 0]⟩) := by
      have hcreate := vectorRuns_snoc (P := BlockHeap.platform true) .nil (p := ⟨⟨[], []⟩, []⟩)
        (.create 4 0) (by decide : 0 < 4) rfl
      exact vectorRuns_snoc hcreate (.removeItemsAt 0 1 (2 ^ 64 - 1))
        ⟨by decide, by decide, by decide⟩ rfl
    refine ⟨_, _, hrun, rfl, fun hall => ?_⟩
    rcases hall _ (List.mem_cons_of_mem _ (List.mem_singleton_self _)) _ _ _ rfl rfl with
      ⟨hneg, _⟩ | ⟨_, v, l, l', _, hl, ⟨hle, _⟩, _⟩
    · exact absurd hneg (by decide)
    · -- it claims to have removed items of an empty list
      obtain rfl := Option.some.inj hl
      exact absurd hle (by decide)
  · -- the second allocation fails, and `clear` leaves the item where it was
    have hrun := vectorRuns_snoc (oneVector_run [false]) (.clear 0) (by decide : 0 < 1) rfl
    refine ⟨_, _, hrun, rfl, fun hall => ?_⟩
    rcases hall _ (List.mem_append_right _ (List.mem_singleton_self _)) _ _ _ rfl rfl with
      ⟨hneg, _⟩ | ⟨_, v, l, l', _, _, rfl, hlists⟩
    · exact absurd hneg (by decide)
    · exact absurd hlists (by decide)

end Shims

end BlueCommon
