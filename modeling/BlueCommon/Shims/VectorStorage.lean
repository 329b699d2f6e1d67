import BlueCommon.Lib.SharedBlocks
import Mathlib.Data.Int.Notation

/-!
# The untyped vector

`VectorImpl` keeps its items in a `SharedBuffer` that several vectors may share, and makes a buffer
its own before it changes it.

* `Platform`: what the vector is built on and what is not part of it: the buffers, and the callbacks
  for the items of `Vector<TYPE>`. An operation that returns no value aborts the process.
* `Platform.Contract`: what the vector relies on of these.
* `VectorImpl`: the functions. Each takes the vector and the heap, and returns the ones after it;
  `none` stands for `LOG_ALWAYS_FATAL_IF`. `ALOG_ASSERT` is not compiled in.

A place in a buffer is counted in items; `sort` is left out.
-/

namespace BlueCommon

namespace Shims

open SharedBlocks

/-- A place in a buffer: its item number `index`. The source has a pointer, and computes it from the
item size. -/
structure Place (Addr : Type) where
  block : Addr
  index : ℕ
deriving DecidableEq

/-- Where items are copied from: a null pointer, a place in a buffer, or memory of the caller's. A
place may lie in the storage of the vector that is being changed. -/
inductive Source (Addr α : Type)
  | null
  | place (at_ : Place Addr)
  | array (items : ℕ → α)

def Source.isNull {Addr α : Type} : Source Addr α → Bool
  | .null => true
  | _ => false

/-- The place of a source. -/
def Source.place? {Addr α : Type} : Source Addr α → Option (Place Addr)
  | .place p => some p
  | _ => none

/-- The block that a source lies in. -/
def Source.block? {Addr α : Type} (src : Source Addr α) : Option Addr := src.place?.map Place.block

/-- The pointer to an item of the caller's, which may be none. -/
def Source.ofItem {Addr α : Type} : Option α → Source Addr α
  | none => .null
  | some a => .array fun _ => a

/-- The operations of `SharedBuffer`, and the callbacks. The callbacks take the size of an item
first, in which their places are counted. `release` is called with `eKeepStorage`. -/
structure Platform (Heap Addr α : Type) where
  /-- The bits of a `size_t`. -/
  wordBits : ℕ
  alloc : (size : ℕ) → Heap → Option (Option Addr × Heap)
  editResize : Addr → (newSize : ℕ) → Heap → Option (Option Addr × Heap)
  attemptEdit : Addr → Heap → Option Addr
  acquire : Addr → Heap → Heap
  release : Addr → Heap → ℕ × Heap
  dealloc : Addr → Heap → Heap
  size : Addr → Heap → ℕ
  do_construct : ℕ → (storage : Place Addr) → (num : ℕ) → Heap → Heap
  do_destroy : ℕ → (storage : Place Addr) → (num : ℕ) → Heap → Heap
  do_copy : ℕ → (dest : Place Addr) → (src : Source Addr α) → (num : ℕ) → Heap → Heap
  do_splat : ℕ → (dest : Place Addr) → (item : Source Addr α) → (num : ℕ) → Heap → Heap
  do_move_forward : ℕ → (dest src : Place Addr) → (num : ℕ) → Heap → Heap
  do_move_backward : ℕ → (dest src : Place Addr) → (num : ℕ) → Heap → Heap
  memcpy : ℕ → (dest : Place Addr) → (src : Source Addr α) → (bytes : ℕ) → Heap → Heap

/-- The list can be read at the source. From memory of the caller's it is read as it is, and from a
buffer if the block is live and has these items. -/
def Reads {Addr α : Type} (m : Blocks Addr α) (s : ℕ) (src : Source Addr α) (xs : List α) : Prop :=
  match src with
  | .null => xs = []
  | .place p => xs ≠ [] → Slots m p.block s p.index xs
  | .array items => ∀ k a, xs[k]? = some a → items k = a

/-- What the vector relies on. `blocks` is what the buffers are in a heap, and `blank` the item that
is constructed when none is given. -/
structure Platform.Contract {Heap Addr α : Type} [DecidableEq Addr] (P : Platform Heap Addr α)
    (blocks : Heap → Blocks Addr α) (blank : α) : Prop where
  wordBits_ge : 16 ≤ P.wordBits
  alloc_null : ∀ n h h', P.alloc n h = some (none, h') → blocks h' = blocks h
  /-- No object has more than `PTRDIFF_MAX` bytes. -/
  alloc_some : ∀ n h b h', P.alloc n h = some (some b, h') →
    n < 2 ^ (P.wordBits - 1) ∧ Allocates (blocks h) b n (blocks h')
  editResize_null : ∀ b n h h', P.editResize b n h = some (none, h') → blocks h' = blocks h
  /-- The buffer is given up for one of the new size, which begins as the buffer does. It may be the
  same one when it had no other owner. -/
  editResize_some : ∀ b n h b' h' B, blocks h b = some B → P.editResize b n h = some (some b', h') →
    n < 2 ^ (P.wordBits - 1) ∧ ∃ m item,
      Releases (blocks h) b m ∧ m b' = none ∧
      blocks h' = Function.update m b' (some ⟨1, n, item⟩) ∧
      ∀ s i, (i + 1) * s ≤ min n B.size → item s i = B.item s i
  attemptEdit : ∀ b h B, blocks h b = some B → P.attemptEdit b h = if B.refs = 1 then
      some b else none
  acquire : ∀ b h B, blocks h b = some B → Acquires (blocks h) b (blocks (P.acquire b h))
  /-- `release` returns how many references there were. -/
  release : ∀ b h B, blocks h b = some B → (P.release b h).1 = B.refs ∧
    blocks (P.release b h).2 = Function.update (blocks h) b (some { B with refs := B.refs - 1 })
  dealloc : ∀ b h, blocks (P.dealloc b h) = Function.update (blocks h) b none
  size : ∀ b h B, blocks h b = some B → P.size b h = B.size
  do_construct : ∀ s p n h, Room (blocks h) p.block s (p.index + n) →
    Writes (blocks h) p.block s p.index n (blocks (P.do_construct s p n h)) ∧
    Slots (blocks (P.do_construct s p n h)) p.block s p.index (List.replicate n blank)
  do_destroy : ∀ s p n h, Room (blocks h) p.block s (p.index + n) →
    Writes (blocks h) p.block s p.index n (blocks (P.do_destroy s p n h))
  do_copy : ∀ s p src xs h, Room (blocks h) p.block s (p.index + xs.length) →
      Reads (blocks h) s src xs →
    (xs ≠ [] → src.block? ≠ some p.block) →
    Writes (blocks h) p.block s p.index xs.length (blocks (P.do_copy s p src xs.length h)) ∧
    Slots (blocks (P.do_copy s p src xs.length h)) p.block s p.index xs
  memcpy : ∀ s p src xs h, 0 < s → Room (blocks h) p.block s (p.index + xs.length) →
      Reads (blocks h) s src xs →
    (xs ≠ [] → src.block? ≠ some p.block) →
    Writes (blocks h) p.block s p.index xs.length (blocks (P.memcpy s p src (xs.length * s) h)) ∧
    Slots (blocks (P.memcpy s p src (xs.length * s) h)) p.block s p.index xs
  do_splat : ∀ s p src a n h, Room (blocks h) p.block s (p.index + n) → Reads (blocks h) s src [a] →
    src.block? ≠ some p.block →
    Writes (blocks h) p.block s p.index n (blocks (P.do_splat s p src n h)) ∧
    Slots (blocks (P.do_splat s p src n h)) p.block s p.index (List.replicate n a)
  /-- The items are moved up by `d` places in their buffer. -/
  do_move_forward : ∀ s b i d xs h, Slots (blocks h) b s i xs →
      Room (blocks h) b s (i + d + xs.length) →
    Writes (blocks h) b s i (d + xs.length)
      (blocks (P.do_move_forward s ⟨b, i + d⟩ ⟨b, i⟩ xs.length h)) ∧
    Slots (blocks (P.do_move_forward s ⟨b, i + d⟩ ⟨b, i⟩ xs.length h)) b s (i + d) xs
  /-- The items are moved down by `d` places. -/
  do_move_backward : ∀ s b i d xs h, Slots (blocks h) b s (i + d) xs →
    Writes (blocks h) b s i (d + xs.length)
      (blocks (P.do_move_backward s ⟨b, i⟩ ⟨b, i + d⟩ xs.length h)) ∧
    Slots (blocks (P.do_move_backward s ⟨b, i⟩ ⟨b, i + d⟩ xs.length h)) b s i xs

/-! ## The arithmetic of `size_t` -/

namespace Platform

variable {Heap Addr α : Type} (P : Platform Heap Addr α)

/-- `a + b`, which wraps around. -/
def add (a b : ℕ) : ℕ := (a + b) % 2 ^ P.wordBits

/-- `a - b`, which wraps around. -/
def sub (a b : ℕ) : ℕ := (a + 2 ^ P.wordBits - b) % 2 ^ P.wordBits

/-- `a * b`, which wraps around. -/
def mul (a b : ℕ) : ℕ := a * b % 2 ^ P.wordBits

/-- `LOG_ALWAYS_FATAL_IF(__builtin_add_overflow(a, b, &r))`: there is no result when the sum is too
large for a `size_t`. -/
def checkedAdd (a b : ℕ) : Option ℕ := if a + b < 2 ^ P.wordBits then some (a + b) else none

/-- `LOG_ALWAYS_FATAL_IF(__builtin_mul_overflow(a, b, &r))`: there is no result when the product is
too large for a `size_t`. -/
def checkedMul (a b : ℕ) : Option ℕ := if a * b < 2 ^ P.wordBits then some (a * b) else none

/-- `(ssize_t)n`. The upper half of the numbers becomes negative. -/
def ssize (n : ℕ) : ℤ := if n < 2 ^ (P.wordBits - 1) then n else n - 2 ^ P.wordBits

end Platform

/-- `LOG_ALWAYS_FATAL_IF(__builtin_sub_overflow(a, b, &r))`: there is no result when it would be
negative. -/
def checkedSub (a b : ℕ) : Option ℕ := if b ≤ a then some (a - b) else none

def NO_ERROR : ℤ := 0
def NO_MEMORY : ℤ := -12
def BAD_VALUE : ℤ := -22
def BAD_INDEX : ℤ := -75

def HAS_TRIVIAL_CTOR : BitVec 32 := 0x00000001
def HAS_TRIVIAL_DTOR : BitVec 32 := 0x00000002
def HAS_TRIVIAL_COPY : BitVec 32 := 0x00000004

def kMinVectorCapacity : ℕ := 4

/-- `VectorImpl`. `mStorage` points to the items behind the header of a `SharedBuffer`, which
several vectors may refer to. -/
structure VectorImpl (Addr : Type) where
  mStorage : Option Addr
  mCount : ℕ
  mFlags : BitVec 32
  mItemSize : ℕ

namespace VectorImpl

variable {Heap Addr α : Type} (P : Platform Heap Addr α)

/-- The constructor. There is no storage yet. -/
def new (itemSize : ℕ) (flags : BitVec 32) : VectorImpl Addr where
  mStorage := none
  mCount := 0
  mFlags := flags
  mItemSize := itemSize

/-- The place of an item in the storage, to read from. -/
def source (v : VectorImpl Addr) (index : ℕ) : Source Addr α :=
  match v.mStorage with
  | none => .null
  | some b => .place ⟨b, index⟩

/-! ### The callbacks -/

def _do_construct (v : VectorImpl Addr) (storage : Place Addr) (num : ℕ) (h : Heap) : Heap :=
  if v.mFlags &&& HAS_TRIVIAL_CTOR = 0 then P.do_construct v.mItemSize storage num h else h

def _do_destroy (v : VectorImpl Addr) (storage : Place Addr) (num : ℕ) (h : Heap) : Heap :=
  if v.mFlags &&& HAS_TRIVIAL_DTOR = 0 then P.do_destroy v.mItemSize storage num h else h

def _do_copy (v : VectorImpl Addr) (dest : Place Addr) (src : Source Addr α) (num : ℕ)
    (h : Heap) : Heap :=
  if v.mFlags &&& HAS_TRIVIAL_COPY = 0 then P.do_copy v.mItemSize dest src num h
  else P.memcpy v.mItemSize dest src (P.mul num v.mItemSize) h

/-- The items are trivially copied and destroyed. -/
def trivial (v : VectorImpl Addr) : Prop :=
  v.mFlags &&& HAS_TRIVIAL_COPY ≠ 0 ∧ v.mFlags &&& HAS_TRIVIAL_DTOR ≠ 0

instance (v : VectorImpl Addr) : Decidable v.trivial :=
  inferInstanceAs (Decidable (_ ∧ _))

/-! ### The storage -/

def capacity (v : VectorImpl Addr) (h : Heap) : ℕ :=
  match v.mStorage with
  | none => 0
  | some b => P.size b h / v.mItemSize

/-- `mStorage` is left as it is, and the callers set it. The last one that refers to the storage
destroys the items. -/
def release_storage (v : VectorImpl Addr) (h : Heap) : Heap :=
  match v.mStorage with
  | none => h
  | some b =>
    let (refs, h) := P.release b h
    if refs = 1 then P.dealloc b (v._do_destroy P ⟨b, 0⟩ v.mCount h) else h

def editArrayImpl (v : VectorImpl Addr) (h : Heap) : Option (VectorImpl Addr × Heap) :=
  match v.mStorage with
  | none => some (v, h)
  | some b =>
    match P.attemptEdit b h with
    | some _ => some (v, h)
    | none => do
      -- not the only owner: a copy of it is made, and none is fatal
      let (editable, h) ← P.alloc (P.size b h) h
      let data ← editable
      let h := v._do_copy P ⟨data, 0⟩ (v.source 0) v.mCount h
      let h := v.release_storage P h
      some ({ v with mStorage := some data }, h)

/-- `itemLocation`, and the place that `editItemLocation` returns. -/
def itemLocation (v : VectorImpl Addr) (index : ℕ) (h : Heap) : Option (Place Addr) :=
  if index < v.capacity P h then v.mStorage.map fun b => ⟨b, index⟩ else none

def editItemLocation (v : VectorImpl Addr) (index : ℕ) (h : Heap) :
    Option (Option (Place Addr) × VectorImpl Addr × Heap) :=
  if index < v.capacity P h then do
    let (v, h) ← v.editArrayImpl P h
    some (v.mStorage.map fun b => ⟨b, index⟩, v, h)
  else some (none, v, h)

/-- The storage is resized, as `_grow` and `_shrink` do it at the end of trivial items. No vector is
returned when there is no memory. -/
def resizeStorage (v : VectorImpl Addr) (b : Addr) (newSize : ℕ) (h : Heap) :
    Option (Option (VectorImpl Addr) × Heap) := do
  let (sb, h) ← P.editResize b newSize h
  some (sb.map fun data => { v with mStorage := some data }, h)

/-- The storage is replaced, as `_grow` and `_shrink` do it: the items before `pos` are copied, and
of the rest, which starts at `src` and leaves `total` items in all but those between, to `dest`. -/
def replaceStorage (v : VectorImpl Addr) (newSize pos total src dest : ℕ) (h : Heap) :
    Option (Option (VectorImpl Addr) × Heap) := do
  let (sb, h) ← P.alloc newSize h
  match sb with
  | none => some (none, h)
  | some array =>
    let h := if pos ≠ 0 then v._do_copy P ⟨array, 0⟩ (v.source 0) pos h else h
    let h := if pos ≠ total then v._do_copy P ⟨array, dest⟩ (v.source src) (P.sub total pos) h
      else h
    let h := v.release_storage P h
    some (some { v with mStorage := some array }, h)

/-- The capacity that `_grow` chooses: half as much again and one more than is needed, but at least
`kMinVectorCapacity`. An overflow on the way is fatal. -/
def grownCapacity (new_size : ℕ) : Option ℕ := do
  let new_capacity ← P.checkedAdd new_size (new_size / 2)
  let new_capacity ← P.checkedAdd new_capacity 1
  some (max kMinVectorCapacity new_capacity)

/-- `_grow` where the storage is too small. New storage is taken, with room left for the new items,
or the old one is made larger when the items are trivial and come at the end. -/
def growStorage (v : VectorImpl Addr) (pos amount new_size : ℕ) (h : Heap) :
    Option (Option (VectorImpl Addr) × Heap) := do
  let new_capacity ← grownCapacity P new_size
  let new_alloc_size ← P.checkedMul new_capacity v.mItemSize
  match v.mStorage with
  | some b =>
    if v.mCount = pos ∧ v.trivial then v.resizeStorage P b new_alloc_size h
    else v.replaceStorage P new_alloc_size pos v.mCount pos (P.add pos amount) h
  | none => v.replaceStorage P new_alloc_size pos v.mCount pos (P.add pos amount) h

/-- `_grow` where there is room: the items from `pos` on make place. The storage must be the
vector's own for this. -/
def growInPlace (v : VectorImpl Addr) (pos amount : ℕ)
    (h : Heap) : Option (VectorImpl Addr × Heap) := do
  let (v, h) ← v.editArrayImpl P h
  match v.mStorage with
  | none => some (v, h)
  | some b =>
    if pos ≠ v.mCount then
      some (v, P.do_move_forward v.mItemSize ⟨b, P.add pos amount⟩ ⟨b, pos⟩ (P.sub v.mCount pos) h)
    else some (v, h)

/-- `_grow`: the free space, or null when there is no memory for it. A number of items that
overflows is fatal. -/
def _grow (v : VectorImpl Addr) (pos amount : ℕ) (h : Heap) :
    Option (Option (Place Addr) × VectorImpl Addr × Heap) := do
  let new_size ← P.checkedAdd v.mCount amount
  if v.capacity P h < new_size then
    let (grown, h) ← v.growStorage P pos amount new_size h
    match grown with
    | none => some (none, v, h)
    | some v =>
      let v := { v with mCount := new_size }
      some (v.itemLocation P pos h, v, h)
  else
    let (v, h) ← v.growInPlace P pos amount h
    let v := { v with mCount := new_size }
    some (v.itemLocation P pos h, v, h)

/-- The size of the storage that `_shrink` changes to. It is not made smaller than
`kMinVectorCapacity`. -/
def shrunkSize (v : VectorImpl Addr) (new_size : ℕ) : ℕ :=
  P.mul (max kMinVectorCapacity (P.mul new_size 2)) v.mItemSize

/-- `_shrink` where the storage has become too large. When there is no memory for the smaller one,
the vector is left as it was. -/
def shrinkStorage (v : VectorImpl Addr) (b : Addr) (pos amount new_size : ℕ) (h : Heap) :
    Option (Option (VectorImpl Addr) × Heap) :=
  if pos = new_size ∧ v.trivial then v.resizeStorage P b (v.shrunkSize P new_size) h
  else v.replaceStorage P (v.shrunkSize P new_size) pos new_size (P.add pos amount) pos h

/-- `_shrink` in the storage: the items are destroyed, and those after them are moved. -/
def shrinkInPlace (v : VectorImpl Addr) (pos amount new_size : ℕ) (h : Heap) :
    Option (VectorImpl Addr × Heap) := do
  let (v, h) ← v.editArrayImpl P h
  match v.mStorage with
  | none => some (v, h)
  | some b =>
    let h := v._do_destroy P ⟨b, pos⟩ amount h
    if pos ≠ new_size then
      some (v, P.do_move_backward v.mItemSize ⟨b, pos⟩ ⟨b, P.add pos amount⟩ (P.sub new_size pos) h)
    else some (v, h)

/-- `_shrink`. It does nothing, and says nothing, when there is no memory for the smaller
storage. -/
def _shrink (v : VectorImpl Addr) (pos amount : ℕ) (h : Heap) : Option (VectorImpl Addr × Heap) :=
  match v.mStorage with
  | none => some (v, h)
  | some b => do
    let new_size ← checkedSub v.mCount amount
    if new_size < v.capacity P h / 2 then
      let (shrunk, h) ← v.shrinkStorage P b pos amount new_size h
      match shrunk with
      | none => some (v, h)
      | some v => some ({ v with mCount := new_size }, h)
    else
      let (v, h) ← v.shrinkInPlace P pos amount new_size h
      some ({ v with mCount := new_size }, h)

/-! ### The operations -/

/-- The copy constructor: the copy shares the storage. It is copied when one of the two is
changed. -/
def copy (rhs : VectorImpl Addr) (h : Heap) : VectorImpl Addr × Heap :=
  match rhs.mStorage with
  | none => (rhs, h)
  | some b => (rhs, P.acquire b h)

/-- `operator =`, for another vector. The old storage is given back, and that of the other vector is
shared. -/
def assign (v rhs : VectorImpl Addr) (h : Heap) : Option (VectorImpl Addr × Heap) :=
  if v.mItemSize ≠ rhs.mItemSize then none
  else
    let h := v.release_storage P h
    if rhs.mCount ≠ 0 then
      let v := { v with mStorage := rhs.mStorage, mCount := rhs.mCount }
      match rhs.mStorage with
      | none => some (v, h)
      | some b => some (v, P.acquire b h)
    else some ({ v with mStorage := none, mCount := 0 }, h)

def insertArrayAt (v : VectorImpl Addr) (array : Source Addr α) (index length : ℕ) (h : Heap) :
    Option (ℤ × VectorImpl Addr × Heap) :=
  if v.mCount < index then some (BAD_INDEX, v, h)
  else do
    let (free, v, h) ← v._grow P index length h
    match free with
    | some place => some (P.ssize index, v, v._do_copy P place array length h)
    | none => some (NO_MEMORY, v, h)

def insertVectorAt (v vector : VectorImpl Addr) (index : ℕ)
    (h : Heap) : Option (ℤ × VectorImpl Addr × Heap) :=
  v.insertArrayAt P (vector.source 0) index vector.mCount h

def appendVector (v vector : VectorImpl Addr) (h : Heap) : Option (ℤ × VectorImpl Addr × Heap) :=
  v.insertVectorAt P vector v.mCount h

/-- `insertAt(item, index, numItems)`. The items are copies of one item, or are constructed when
there is none. -/
def insertAt (v : VectorImpl Addr) (item : Source Addr α) (index numItems : ℕ) (h : Heap) :
    Option (ℤ × VectorImpl Addr × Heap) :=
  if v.mCount < index then some (BAD_INDEX, v, h)
  else do
    let (free, v, h) ← v._grow P index numItems h
    match free with
    | some place =>
      let h := if item.isNull then v._do_construct P place numItems h
        else P.do_splat v.mItemSize place item numItems h
      some (P.ssize index, v, h)
    | none => some (NO_MEMORY, v, h)

/-- `replaceAt(prototype, index)`. The old item is destroyed before the prototype is copied, except
when they are the same. -/
def replaceAt [DecidableEq Addr] (v : VectorImpl Addr) (prototype : Source Addr α) (index : ℕ)
    (h : Heap) :
    Option (ℤ × VectorImpl Addr × Heap) :=
  if v.mCount ≤ index then some (BAD_INDEX, v, h)
  else do
    let (item, v, h) ← v.editItemLocation P index h
    match item with
    | some place =>
      -- the prototype may be the item itself
      if prototype.place? = some place then some (P.ssize index, v, h)
      else
        let h := v._do_destroy P place 1 h
        let h := if prototype.isNull then v._do_construct P place 1 h
          else v._do_copy P place prototype 1 h
        some (P.ssize index, v, h)
    | none =>
      -- both may be null
      if prototype.isNull then some (P.ssize index, v, h) else some (NO_MEMORY, v, h)

def removeItemsAt (v : VectorImpl Addr) (index count : ℕ)
    (h : Heap) : Option (ℤ × VectorImpl Addr × Heap) :=
  if v.mCount < P.add index count then some (BAD_VALUE, v, h)
  else do
    let (v, h) ← v._shrink P index count h
    some (P.ssize index, v, h)

def pop (v : VectorImpl Addr) (h : Heap) : Option (VectorImpl Addr × Heap) :=
  if v.mCount ≠ 0 then do
    let (_, v, h) ← v.removeItemsAt P (v.mCount - 1) 1 h
    some (v, h)
  else some (v, h)

def clear (v : VectorImpl Addr) (h : Heap) : Option (VectorImpl Addr × Heap) :=
  v._shrink P 0 v.mCount h

def finish_vector (v : VectorImpl Addr) (h : Heap) : VectorImpl Addr × Heap :=
  ({ v with mStorage := none, mCount := 0 }, v.release_storage P h)

def setCapacity (v : VectorImpl Addr) (new_capacity : ℕ)
    (h : Heap) : Option (ℤ × VectorImpl Addr × Heap) :=
  if new_capacity ≤ v.mCount then some (P.ssize (v.capacity P h), v, h)
  else do
    let new_allocation_size ← P.checkedMul new_capacity v.mItemSize
    let (sb, h) ← P.alloc new_allocation_size h
    match sb with
    | none => some (NO_MEMORY, v, h)
    | some array =>
      let h := v._do_copy P ⟨array, 0⟩ (v.source 0) v.mCount h
      let h := v.release_storage P h
      some (P.ssize new_capacity, { v with mStorage := some array }, h)

def resize (v : VectorImpl Addr) (size : ℕ) (h : Heap) : Option (ℤ × VectorImpl Addr × Heap) := do
  let call :=
    if v.mCount < size then v.insertAt P .null v.mCount (size - v.mCount) h
    else if size < v.mCount then v.removeItemsAt P size (v.mCount - size) h
    else some (NO_ERROR, v, h)
  let (result, v, h) ← call
  some (if result < 0 then result else P.ssize size, v, h)

end VectorImpl

end Shims

end BlueCommon
