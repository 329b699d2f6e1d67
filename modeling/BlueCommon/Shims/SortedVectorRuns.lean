import BlueCommon.Shims.VectorRuns

/-!
# Sorted vectors are ordered sets

The runs of a process that calls the functions of `SortedVectorImpl` on some of its vectors, and
those of `VectorImpl` on the others.

* `SortedProcess`, `SortedOp`, `sortedRuns`: the vectors, the calls, and the runs. Every allocation
  succeeds.
* `OrderedSets`: the sorted vectors are in order, and their items are found where they are.
* `KeepsSet`: a call does not crash, and changes its vector as a set.
* `sorted_vectors_are_sets`: both hold throughout a run, when the vectors that are merged are
  `Apart`.
-/

namespace BlueCommon

namespace Shims

open SharedBlocks OrderedLists

/-- The vectors, of which some are a `SortedVectorImpl`, and the heap. `sorted` has the numbers of
those. -/
structure SortedProcess (Heap Addr : Type) extends Process Heap Addr where
  /-- The numbers of the sorted vectors. -/
  sorted : List ℕ

/-- The calls. A vector is given by its number. A plain vector has the calls of `VectorImpl`, and a
sorted one those of `SortedVectorImpl`. -/
inductive SortedOp (α : Type)
  | plain (op : VectorOp α)
  | create (itemSize : ℕ) (flags : BitVec 32)
  | add (this : ℕ) (item : α)
  | remove (this : ℕ) (item : α)
  | merge (this vector : ℕ)
  | mergeSorted (this vector : ℕ)

section Calls

variable {Heap Addr α : Type}

/-- The vector that a call changes. -/
def VectorOp.target : VectorOp α → Option ℕ
  | .create _ _ | .copy _ => none
  | .assign this _ | .insertArrayAt this _ _ _ | .insertVectorAt this _ _ | .appendVector this _
  | .insertAt this _ _ _ | .replaceAt this _ _ | .removeItemsAt this _ _ | .pop this | .clear this
  | .setCapacity this _ | .resize this _ | .finish_vector this => some this

/-- A method is called on a vector. -/
def SortedProcess.on (p : SortedProcess Heap Addr) (this : ℕ)
    (method : VectorImpl Addr → Heap → Except Stop (ℤ × VectorImpl Addr × Heap)) :
    Except Stop (ℤ × SortedProcess Heap Addr) := do
  let v ← orFatal p.vectors[this]?
  let (r, v, h) ← method v p.heap
  .ok (r, { p with heap := h, vectors := p.vectors.set this v })

variable [DecidableEq Addr]

/-- A call: what it returns, and the process after it. It may be aborted, or crash. -/
def SortedOp.call (P : Platform Heap Addr α) (do_compare : DoCompare Heap Addr α)
    (p : SortedProcess Heap Addr) :
    SortedOp α → Except Stop (ℤ × SortedProcess Heap Addr)
  | .plain op => do
    let (r, q) ← orFatal (op.call P p.toProcess)
    .ok (r, { p with toProcess := q })
  | .create itemSize flags =>
    .ok (NO_ERROR, { p with
      vectors := p.vectors ++ [VectorImpl.new itemSize flags]
      sorted := p.vectors.length :: p.sorted })
  | .add this item =>
    p.on this fun v h => SortedVectorImpl.add P do_compare v (.ofItem (some item)) h
  | .remove this item =>
    p.on this fun v h => SortedVectorImpl.remove P do_compare v (.ofItem (some item)) h
  | .merge this vector => do
    let w ← orFatal p.vectors[vector]?
    p.on this fun v h => SortedVectorImpl.merge P do_compare v w h
  | .mergeSorted this vector => do
    let w ← orFatal p.vectors[vector]?
    p.on this fun v h => SortedVectorImpl.mergeSorted P do_compare v w h

/-- The vectors are of one type. -/
def SortedProcess.SameType (p : SortedProcess Heap Addr) (this vector : ℕ) : Prop :=
  ∃ v w, p.vectors[this]? = some v ∧ p.vectors[vector]? = some w ∧ v.mItemSize = w.mItemSize

/-- The calls that are made. Functions of `VectorImpl` are not called on a sorted vector, and remove
only what is there. -/
def SortedOp.Callable (P : Platform Heap Addr α) (p : SortedProcess Heap Addr) : SortedOp α → Prop
  | .plain op =>
    op.Callable P p.toProcess ∧ op.Ok P (some p.toProcess) ∧ ∀ i ∈ p.sorted, op.target ≠ some i
  | .create itemSize _ => 0 < itemSize
  | .add this _ | .remove this _ => this ∈ p.sorted
  | .merge this vector => this ∈ p.sorted ∧ p.SameType this vector
  | .mergeSorted this vector => this ∈ p.sorted ∧ vector ∈ p.sorted ∧ p.SameType this vector

/-- The runs of calls. After a call that stops there is no process. The heap is left open at the
beginning. -/
def sortedRuns (P : Platform Heap Addr α) (do_compare : DoCompare Heap Addr α) :
    Lts (Option (SortedProcess Heap Addr)) (SortedOp α) where
  init s := ∃ h, s = some ⟨⟨h, []⟩, []⟩
  step s op t := ∃ p, s = some p ∧ op.Callable P p ∧
    t = match op.call P do_compare p with
      | .error _ => none
      | .ok (_, q) => some q

/-! ## What the calls are for -/

/-- The search finds the item that compares equal, if there is one, and how many items come before
it. -/
def Searches (P : Platform Heap Addr α) (do_compare : DoCompare Heap Addr α) (cmp : α → α → ℤ)
    (v : VectorImpl Addr) (h : Heap) (l : List α) (a : α) : Prop :=
  (∃ r, SortedVectorImpl.indexOf P do_compare v (.ofItem (some a)) h = .ok r ∧
    ((∃ x ∈ l, cmp x a = 0) → ∃ i x, r = Int.ofNat i ∧ l[i]? = some x ∧ cmp x a = 0) ∧
    ((¬ ∃ x ∈ l, cmp x a = 0) → r = NAME_NOT_FOUND)) ∧
  SortedVectorImpl.orderOf P do_compare v (.ofItem (some a)) h =
    .ok (l.filter fun x => cmp x a < 0).length

/-- The items of each sorted vector are strictly increasing, and found where they are. So a vector
has no two items that compare equal. -/
def OrderedSets (P : Platform Heap Addr α) (do_compare : DoCompare Heap Addr α)
    (blocks : Heap → Blocks Addr α)
    (cmp : α → α → ℤ) (s : Option (SortedProcess Heap Addr)) : Prop :=
  ∀ p, s = some p → ∀ i ∈ p.sorted, ∃ v l, p.vectors[i]? = some v ∧ (p.lists blocks)[i]? = some l ∧
    Ordered cmp l ∧ ∀ a, Searches P do_compare cmp v p.heap l a

/-- What a call does to the set of its vector. -/
def SortedOp.Puts (blocks : Heap → Blocks Addr α) (cmp : α → α → ℤ) (p p' : SortedProcess Heap Addr)
    (r : ℤ) :
    SortedOp α → Prop
  | .plain _ | .create _ _ => True
  | .add this a => p.Sets blocks p'.toProcess this fun l _ l' => 0 ≤ r ∧ l' = put cmp l a
  | .remove this a => p.Sets blocks p'.toProcess this fun l _ l' =>
    (0 ≤ r ↔ ∃ x ∈ l, cmp x a = 0) ∧ l' = discard cmp l a
  | .merge this vector | .mergeSorted this vector => p.Sets blocks p'.toProcess this fun l _ l' =>
    0 ≤ r ∧ ∃ ys, (p.lists blocks)[vector]? = some ys ∧ l' = putAll cmp l ys

/-- A call does not crash, and if it is not aborted it does to the set what it is for: it adds an
item, removes one, or puts two sets together. -/
def KeepsSet (P : Platform Heap Addr α) (do_compare : DoCompare Heap Addr α)
    (blocks : Heap → Blocks Addr α)
    (cmp : α → α → ℤ) (s : Option (SortedProcess Heap Addr)) (op : SortedOp α) : Prop :=
  ∀ p, s = some p → op.call P do_compare p = .error .fatal ∨
    ∃ r p', op.call P do_compare p = .ok (r, p') ∧ op.Puts blocks cmp p p' r

/-- A sorted vector that is merged and has items is apart from the other: that one has items too,
and where the two would meet the items do not compare equal. -/
def SortedOp.Ok (blocks : Heap → Blocks Addr α) (cmp : α → α → ℤ)
    (s : Option (SortedProcess Heap Addr)) (op : SortedOp α) : Prop :=
  ∀ p, s = some p → match op with
    | .mergeSorted this vector =>
      ∀ l ys, (p.lists blocks)[this]? = some l → (p.lists blocks)[vector]? = some ys →
        ys ≠ [] → SortedVectorImpl.Apart cmp l ys
    | _ => True

end Calls

variable {Heap Addr α : Type} [DecidableEq Addr] {P : Platform Heap Addr α}
  {do_compare : DoCompare Heap Addr α} {blocks : Heap → Blocks Addr α} {blank : α} {cmp : α → α → ℤ}
  {p : SortedProcess Heap Addr} {l : List α}

/-! ## The searches -/

/-- In a vector that is in order, both searches find what they should. They run the same bisection
and differ in what they return: the place of the item, or the number of those before it. -/
theorem searches_of_ordered (hP : P.Contract blocks blank) (hc : Compares blocks cmp do_compare)
    (hl : Ordered cmp l) {o : Addr → ℕ} {v : VectorImpl Addr} {h : Heap}
    (hs : VectorImpl.Stores P blocks o v h l) (a : α) : Searches P do_compare cmp v h l a := by
  have hread : Reads (blocks h) v.mItemSize (.ofItem (some a)) [a] :=
    (VectorImpl.points_ofItem (o := o) (some a)).1
  -- both calls run the same search and differ in what they return
  obtain ⟨index, order, hfind, hfinds⟩ := SortedVectorImpl._indexOrderOf_spec hP hc hl hs hread
  have hindex : SortedVectorImpl.indexOf P do_compare v (.ofItem (some a)) h = .ok index := by
    rw [SortedVectorImpl.indexOf, hfind]
    rfl
  have horder : SortedVectorImpl.orderOf P do_compare v (.ofItem (some a)) h = .ok order.toNat := by
    rw [SortedVectorImpl.orderOf, hfind]
    rfl
  rw [Searches, horder]
  cases hfinds with
  | found pre post x hcut hx =>
    -- the order is the number of the items before it
    subst hcut
    obtain ⟨hpre, hpost⟩ := hl.cut hc.order hx
    refine ⟨⟨_, hindex, fun _ => ⟨pre.length, x, rfl, by simp, hx⟩, fun hnone => ?_⟩, ?_⟩
    · exact absurd ⟨x, by simp, hx⟩ hnone
    · simp [List.filter_append, filter_lt_below hpre, filter_lt_above hpost, hx]
  -- the order is where the search ended, and that many items are smaller
  | absent pre post hcut hpre hpost =>
    subst hcut
    refine ⟨⟨_, hindex, ?_, fun _ => rfl⟩, ?_⟩
    · rintro ⟨x, hx, h0⟩
      rcases List.mem_append.mp hx with hx | hx
      · exact absurd h0 (hpre x hx).ne
      · exact absurd h0 (hpost x hx).ne'
    · simp [List.filter_append, filter_lt_below hpre, filter_lt_above hpost]

/-! ## What holds between the calls -/

/-- The process is consistent, and the sorted vectors are in order. It is the invariant of the
runs. -/
structure SortedInv (P : Platform Heap Addr α) (blocks : Heap → Blocks Addr α) (cmp : α → α → ℤ)
    (p : SortedProcess Heap Addr) : Prop where
  consistent : Consistent P blocks p.toProcess
  ordered : ∀ i ∈ p.sorted, ∃ l, (p.lists blocks)[i]? = some l ∧ Ordered cmp l

theorem SortedInv.orderedSets (hi : SortedInv P blocks cmp p) (hP : P.Contract blocks blank)
    (hc : Compares blocks cmp do_compare) : OrderedSets P do_compare blocks cmp (some p) := by
  rintro q ⟨⟩ i hmem
  obtain ⟨l, hlist, hord⟩ := hi.ordered i hmem
  have hlist' := hlist
  rw [Process.getElem?_lists] at hlist'
  obtain ⟨v, hv, rfl⟩ := Option.map_eq_some_iff.mp hlist'
  exact ⟨v, _, hv, hlist, hord, searches_of_ordered hP hc hord (hi.consistent.stores hv)⟩

omit [DecidableEq Addr] in
/-- The lists of other vectors than the one that is changed are there as they were. -/
theorem VectorOp.Lists.other {p p' : Process Heap Addr} {op : VectorOp α}
    (h : op.Lists blocks blank p p') {i : ℕ}
    (hi : op.target ≠ some i) (hl : (p.lists blocks)[i]? = some l) :
    (p'.lists blocks)[i]? = some l := by
  have hlt : i < (p.lists blocks).length := (List.getElem?_eq_some_iff.mp hl).1
  -- a method changes the list it is called on
  have hset : ∀ this change, some this ≠ some i → p.Sets blocks p' this change →
      (p'.lists blocks)[i]? = some l := by
    rintro this change hne ⟨v, l₀, l', _, _, _, hlists⟩
    rw [hlists, List.getElem?_set_ne (fun heq => hne (congrArg some heq)), hl]
  cases op with
  -- a new vector goes to the end of the list
  | create itemSize flags =>
    rw [VectorOp.Lists] at h
    rw [h, List.getElem?_append_left hlt, hl]
  | copy rhs =>
    obtain ⟨l₀, _, hlists⟩ := h
    rw [hlists, List.getElem?_append_left hlt, hl]
  -- all the other methods have one vector to work on
  | _ =>
    rw [VectorOp.Lists] at h
    exact hset _ _ hi h

/-- What a method does to a sorted vector, the call does to the process. The list that was changed
is in order again, and the others are as before. -/
theorem SortedInv.on (hi : SortedInv P blocks cmp p) {this : ℕ} (hmem : this ∈ p.sorted)
    {method : VectorImpl Addr → Heap → Except Stop (ℤ × VectorImpl Addr × Heap)}
    (change : ℤ → List α → List α → Prop)
    (hm : ∀ v l, p.vectors[this]? = some v → (p.lists blocks)[this]? = some l → Ordered cmp l →
      VectorImpl.Stores P blocks (owners (p.vectors.eraseIdx this)) v p.heap l →
      method v p.heap = .error .fatal ∨ ∃ r v' h' l', method v p.heap = .ok (r, v', h') ∧
        change r l l' ∧
        Ordered cmp l' ∧ VectorImpl.Updates P blocks (owners (p.vectors.eraseIdx this)) v p.heap
          v' h' l') :
    p.on this method = .error .fatal ∨ ∃ r p', p.on this method = .ok (r, p') ∧
      SortedInv P blocks cmp p' ∧
      p.Sets blocks p'.toProcess this fun l _ l' => change r l l' := by
  -- the vector that the method is called on holds its list in order
  obtain ⟨l, hlist, hord⟩ := hi.ordered this hmem
  have hlist' := hlist
  rw [Process.getElem?_lists] at hlist'
  obtain ⟨v, hv, rfl⟩ := Option.map_eq_some_iff.mp hlist'
  have hlt : this < p.vectors.length := (List.getElem?_eq_some_iff.mp hv).1
  simp only [SortedProcess.on, hv, orFatal, bind, Except.bind]
  -- the method succeeds or ends the process
  rcases hm v _ hv hlist hord (hi.consistent.stores hv) with
    hfatal | ⟨r, v', h', l', hok, hchange, hord', hup⟩
  · exact .inl (by rw [hfatal])
  · obtain ⟨hcons, hlists⟩ := hi.consistent.updates hv hup
    refine .inr
      ⟨r, _, by rw [hok], ⟨hcons, fun i hmem' => ?_⟩, v, _, l', hv, hlist, hchange, hlists⟩
    rw [hlists]
    -- the list that was changed is ordered, the others are as before
    rcases eq_or_ne i this with rfl | hne
    · exact ⟨l', by simp [Process.lists, hlt], hord'⟩
    · rw [List.getElem?_set_ne hne.symm]
      exact hi.ordered i hmem'

/-- The calls of `VectorImpl` leave the sorted vectors as they are. -/
theorem SortedInv.plain (hi : SortedInv P blocks cmp p) (hP : P.Contract blocks blank)
    {op : VectorOp α} {r : ℤ} {q : Process Heap Addr} (hcall : SortedOp.Callable P p (.plain op))
    (he : op.call P p.toProcess = some (r, q)) :
    SortedInv P blocks cmp { p with toProcess := q } := by
  obtain ⟨hcallable, hok, htarget⟩ := hcall
  obtain ⟨hcons, hlists⟩ := call_spec hP hi.consistent hcallable hok he
  refine ⟨hcons, fun i hmem => ?_⟩
  obtain ⟨l, hlist, hord⟩ := hi.ordered i hmem
  refine ⟨l, ?_, hord⟩
  rcases hlists with ⟨_, hsame⟩ | ⟨_, hlists⟩
  · exact hsame ▸ hlist
  · exact hlists.other (htarget i hmem) hlist

theorem SortedInv.create (hi : SortedInv P blocks cmp p) {itemSize : ℕ} {flags : BitVec 32}
    (hpos : 0 < itemSize) :
    SortedInv P blocks cmp { p with
      vectors := p.vectors ++ [VectorImpl.new itemSize flags]
      sorted := p.vectors.length :: p.sorted } := by
  have hcall : VectorOp.call P p.toProcess (.create itemSize flags)
      = some (0, { p.toProcess with vectors := p.vectors ++ [VectorImpl.new itemSize flags] }) :=
      rfl
  obtain ⟨hcons, _, hlists⟩ := create_spec hi.consistent hpos hcall
  refine ⟨hcons, fun i hmem => ?_⟩
  rw [hlists]
  have hlen : (p.lists blocks).length = p.vectors.length := List.length_map ..
  cases hmem with
  | head => exact ⟨[], by rw [← hlen]; simp, List.Pairwise.nil⟩
  | tail _ hmem =>
    obtain ⟨l, hlist, hord⟩ := hi.ordered i hmem
    exact ⟨l, by rw [List.getElem?_append_left (List.getElem?_eq_some_iff.mp hlist).1, hlist], hord⟩

/-- What is merged into a sorted vector: the items of the vector itself, or of one whose storage is
kept. -/
theorem SortedInv.merged (hi : SortedInv P blocks cmp p) {this vector : ℕ} {v w : VectorImpl Addr}
    (hv : p.vectors[this]? = some v) (hw : p.vectors[vector]? = some w) :
    w = v ∨ ∀ b, w.mStorage = some b → 0 < owners (p.vectors.eraseIdx this) b := by
  rcases eq_or_ne vector this with rfl | hne
  · exact .inl (Option.some.inj (hw.symm.trans hv))
  · exact .inr fun b hb => (hi.consistent.other hw hne hb).1

/-- **One call**, by the functions. Each case is the specification of one method, brought to the
process. -/
theorem SortedInv.call (hi : SortedInv P blocks cmp p) (hP : P.Contract blocks blank)
    (hmem : ¬ P.Refuses)
    (hc : Compares blocks cmp do_compare) {op : SortedOp α} (hcall : op.Callable P p)
    (hok : op.Ok blocks cmp (some p)) :
    op.call P do_compare p = .error .fatal ∨ ∃ r p', op.call P do_compare p = .ok (r, p') ∧
      SortedInv P blocks cmp p' ∧ op.Puts blocks cmp p p' r := by
  -- one method at a time, each by its specification
  cases op with
  -- a read, a copy or the end of a vector does not depend on the order
  | plain op =>
    simp only [SortedOp.call]
    cases he : op.call P p.toProcess with
    | none => exact .inl rfl
    | some res =>
      obtain ⟨r, q⟩ := res
      exact .inr ⟨r, _, rfl, hi.plain hP hcall he, trivial⟩
  -- a new vector is empty, and the empty list is in order
  | create itemSize flags => exact .inr ⟨_, _, rfl, hi.create hcall, trivial⟩
  | add this a =>
    refine hi.on hcall (fun r l l' => 0 ≤ r ∧ l' = put cmp l a) fun v l hv hl hord hs => ?_
    rcases SortedVectorImpl.add_spec hP hmem hc hord hs (VectorImpl.points_ofItem (some a)) with
      hfatal | ⟨r, v', h', hdone, hr, hup⟩
    · exact .inl hfatal
    · exact .inr ⟨r, v', h', _, hdone, ⟨hr, rfl⟩, hord.put hc.order a, hup⟩
  | remove this a =>
    refine hi.on hcall (fun r l l' => (0 ≤ r ↔ ∃ x ∈ l, cmp x a = 0) ∧ l' = discard cmp l a)
      fun v l hv hl hord hs => ?_
    have hread : VectorImpl.Points (blocks p.heap) (owners (p.vectors.eraseIdx this)) v.mItemSize
        (.ofItem (some a)) (some a) := VectorImpl.points_ofItem (some a)
    rcases SortedVectorImpl.remove_spec hP hmem hc hord hs hread.1 with
      hfatal | ⟨r, v', h', hdone, hr, hup⟩
    · exact .inl hfatal
    · exact .inr ⟨r, v', h', _, hdone, ⟨hr, rfl⟩, hord.discard a, hup⟩
  -- the vector merged from may be the same one
  | merge this vector =>
    obtain ⟨hthis, v₀, w, hv₀, hw, hsize⟩ := hcall
    simp only [SortedOp.call, hw, orFatal, bind, Except.bind]
    refine hi.on hthis (fun r l l' => 0 ≤ r ∧ ∃ ys, (p.lists blocks)[vector]? = some ys ∧
      l' = putAll cmp l ys)
      fun v l hv hl hord hs => ?_
    obtain rfl : v = v₀ := Option.some.inj (hv.symm.trans hv₀)
    have hys : (p.lists blocks)[vector]? = some (w.items (blocks p.heap)) := by
      rw [Process.getElem?_lists, hw, Option.map_some]
    rcases SortedVectorImpl.merge_spec hP hmem hc hord hs (hi.consistent.stores hw) hsize
      (hi.merged hv hw) with
      hfatal | ⟨v', h', hdone, hup⟩
    · exact .inl hfatal
    · exact .inr ⟨_, v', h', _, hdone, ⟨le_rfl, _, hys, rfl⟩, hord.putAll hc.order _, hup⟩
  -- only the merge of sorted vectors needs the other one in order
  | mergeSorted this vector =>
    obtain ⟨hthis, hvector, v₀, w, hv₀, hw, hsize⟩ := hcall
    simp only [SortedOp.call, hw, orFatal, bind, Except.bind]
    refine hi.on hthis (fun r l l' => 0 ≤ r ∧ ∃ ys, (p.lists blocks)[vector]? = some ys ∧
      l' = putAll cmp l ys)
      fun v l hv hl hord hs => ?_
    obtain rfl : v = v₀ := Option.some.inj (hv.symm.trans hv₀)
    have hys : (p.lists blocks)[vector]? = some (w.items (blocks p.heap)) := by
      rw [Process.getElem?_lists, hw, Option.map_some]
    -- the vector that is merged is ordered too
    obtain ⟨ys, hlist, hyord⟩ := hi.ordered vector hvector
    obtain rfl : ys = w.items (blocks p.heap) := Option.some.inj (hlist.symm.trans hys)
    rcases SortedVectorImpl.mergeSorted_spec hP hmem hc hord hs hyord
      (hi.consistent.stores hw) hsize
        (hi.merged hv hw) (hok p rfl l _ hl hys) with hfatal | ⟨r, v', h', hdone, hr, hup⟩
    · exact .inl hfatal
    · exact .inr ⟨r, v', h', _, hdone, ⟨hr, _, hys, rfl⟩, hord.putAll hc.order _, hup⟩

/-- **Sorted vectors are ordered sets.** Where no allocation is refused, and a sorted vector with
items is merged only into one that has items too and is apart from it, the sorted vectors are
ordered sets after every call of a run, and every call does to its set what it is for. -/
theorem sorted_vectors_are_sets (hP : P.Contract blocks blank) (hmem : ¬ P.Refuses)
    (hc : Compares blocks cmp do_compare) {s t : Option (SortedProcess Heap Addr)}
    {tr : List (Option (SortedProcess Heap Addr) × SortedOp α)}
    (h0 : (sortedRuns P do_compare).init s)
    (hrun : Lts.Run (sortedRuns P do_compare) s tr t) (hok : ∀ q ∈ tr, q.2.Ok blocks cmp q.1) :
    (∀ u ∈ Lts.visited tr t, OrderedSets P do_compare blocks cmp u) ∧
      ∀ q ∈ tr, KeepsSet P do_compare blocks cmp q.1 q.2 := by
  -- induction on the run: as long as the calls were `Ok`, the invariant holds
  suffices hmain : ((∀ u ∈ Lts.visited tr t, OrderedSets P do_compare blocks cmp u) ∧
      ∀ q ∈ tr, KeepsSet P do_compare blocks cmp q.1 q.2) ∧ ∀ p, t = some p →
      SortedInv P blocks cmp p from hmain.1
  induction hrun with
  | nil =>
    obtain ⟨h, rfl⟩ := h0
    -- a process without vectors has nothing to keep in order
    have hinit : SortedInv P blocks cmp ⟨⟨h, []⟩, []⟩ :=
      ⟨⟨fun b hb => absurd hb (lt_irrefl _), fun v hv => absurd hv List.not_mem_nil⟩,
        fun i hi => absurd hi List.not_mem_nil⟩
    refine ⟨⟨fun u hu => ?_, fun q hq => absurd hq List.not_mem_nil⟩, ?_⟩
    · obtain rfl : u = some ⟨⟨h, []⟩, []⟩ := by simpa [Lts.visited] using hu
      exact hinit.orderedSets hP hc
    · rintro p ⟨⟩
      exact hinit
  | @snoc tr t u op _ hstep ih =>
    obtain ⟨⟨hsets, hkeeps⟩, hinv⟩ := ih fun q hq => hok q (List.mem_append_left _ hq)
    have hlast : op.Ok blocks cmp t :=
      hok (t, op) (List.mem_append_right _ (List.mem_singleton_self _))
    -- the last call was `Ok` in the state before it, where the invariant holds by induction
    obtain ⟨p, rfl, hcall, hu⟩ := hstep
    have hdone := (hinv p rfl).call hP hmem hc hcall hlast
    -- the state after the call
    have hafter : ∀ p', u = some p' → SortedInv P blocks cmp p' := by
      intro p' hp'
      -- a process that was ended has no state to speak of
      rcases hdone with hfatal | ⟨r, q, hcalled, hq, _⟩
      · rw [hu, hfatal] at hp'
        cases hp'
      · rw [hu, hcalled] at hp'
        obtain rfl := Option.some.inj hp'
        exact hq
    refine ⟨⟨fun w hw => ?_, fun q hq => ?_⟩, hafter⟩
    · -- the states visited before, and the one after the last call
      rw [Lts.visited_snoc] at hw
      rcases List.mem_append.mp hw with hold | hnew
      · exact hsets w hold
      · obtain rfl := List.mem_singleton.mp hnew
        intro p' hp'
        exact (hafter p' hp').orderedSets hP hc p' rfl
    · -- the calls before, and the last one
      rcases List.mem_append.mp hq with hold | hnew
      · exact hkeeps q hold
      · obtain rfl := List.mem_singleton.mp hnew
        rintro p₁ ⟨⟩
        refine hdone.imp_right ?_
        rintro ⟨r, p', hcalled, -, hputs⟩
        exact ⟨r, p', hcalled, hputs⟩

/-- A run goes on with a call that does not stop. -/
theorem sortedRuns_snoc {s : Option (SortedProcess Heap Addr)}
    {tr : List (Option (SortedProcess Heap Addr) × SortedOp α)} {p' : SortedProcess Heap Addr}
    {r : ℤ}
    (hrun : Lts.Run (sortedRuns P do_compare) s tr (some p)) (op : SortedOp α)
    (hcall : op.Callable P p)
    (he : op.call P do_compare p = .ok (r, p')) :
    Lts.Run (sortedRuns P do_compare) s (tr ++ [(some p, op)]) (some p') :=
  hrun.snoc ⟨p, rfl, hcall, by rw [he]⟩

/-- A process with two sorted vectors, of which the second has the item 1. -/
def oneItem : SortedProcess BlockHeap ℕ where
  heap := ⟨[some ⟨1, 16, fun s k => if s = 4 ∧ 0 ≤ k ∧ k < 1 then 1 else 0⟩], []⟩
  vectors := [.new 4 0, ⟨some 0, 1, 0, 4⟩]
  sorted := [1, 0]

/-- A process with two sorted vectors, of which the first has the item `a` and the second the item
1. -/
def twoItems (a : ℕ) : SortedProcess BlockHeap ℕ where
  heap := ⟨[some ⟨1, 16, fun s k => if s = 4 ∧ 0 ≤ k ∧ k < 1 then 1 else 0⟩,
    some ⟨1, 16, fun s k => if s = 4 ∧ 0 ≤ k ∧ k < 1 then a else 0⟩], []⟩
  vectors := [⟨some 1, 1, 0, 4⟩, ⟨some 0, 1, 0, 4⟩]
  sorted := [1, 0]

theorem oneItem_run : ∃ tr, Lts.Run (sortedRuns (BlockHeap.platform false) BlockHeap.compare)
    (some ⟨⟨⟨[], []⟩, []⟩, []⟩) tr (some oneItem) ∧
    tr.map Prod.snd = [.create 4 0, .create 4 0, .add 1 1] := by
  have hnil : Lts.Run (sortedRuns (BlockHeap.platform false) BlockHeap.compare)
      (some ⟨⟨⟨[], []⟩, []⟩, []⟩) []
      (some ⟨⟨⟨[], []⟩, []⟩, []⟩) := .nil
  have hrun := sortedRuns_snoc hnil (.create 4 0) (by decide : 0 < 4) rfl
  have hrun₂ := sortedRuns_snoc hrun (.create 4 0) (by decide : 0 < 4) rfl
  have hadd : Lts.Run _ _ _ (some oneItem) :=
    sortedRuns_snoc (r := 0) hrun₂ (.add 1 1) (List.mem_cons_self ..)
    (by with_unfolding_all rfl)
  exact ⟨_, hadd, rfl⟩

theorem twoItems_run (a : ℕ) :
    ∃ tr, Lts.Run (sortedRuns (BlockHeap.platform false) BlockHeap.compare)
    (some ⟨⟨⟨[], []⟩, []⟩, []⟩) tr (some (twoItems a)) ∧
      tr.map Prod.snd = [.create 4 0, .create 4 0, .add 1 1, .add 0 a] := by
  obtain ⟨tr, hrun, hops⟩ := oneItem_run
  have hadd : Lts.Run _ _ _ (some (twoItems a)) := sortedRuns_snoc (r := 0) hrun (.add 0 a)
    (List.mem_cons_of_mem _ (List.mem_singleton_self _)) (by with_unfolding_all rfl)
  exact ⟨_, hadd, by rw [List.map_append, hops]; rfl⟩

theorem twoItems_callable (a : ℕ) :
    SortedOp.Callable (BlockHeap.platform false) (twoItems a) (.mergeSorted 0 1) :=
  ⟨List.mem_cons_of_mem _ (List.mem_singleton_self _), List.mem_cons_self .., _, _, rfl, rfl, rfl⟩

/-- The vector with the item 1 is merged into one with the item 2. The two do not compare equal, so
nothing has to be replaced. -/
theorem sorted_vectors_are_sets_apart :
    ∃ tr t, Lts.Run (sortedRuns (BlockHeap.platform false) BlockHeap.compare)
      (some ⟨⟨⟨[], []⟩, []⟩, []⟩) tr t ∧
      tr.map Prod.snd = [.create 4 0, .create 4 0, .add 1 1, .add 0 2, .mergeSorted 0 1] ∧
      (∀ u ∈ Lts.visited tr t,
        OrderedSets (BlockHeap.platform false) BlockHeap.compare BlockHeap.blocks
          BlockHeap.difference u) ∧
      ∀ q ∈ tr, KeepsSet (BlockHeap.platform false) BlockHeap.compare BlockHeap.blocks
        BlockHeap.difference
        q.1 q.2 := by
  obtain ⟨tr, hrun, hops⟩ := twoItems_run 2
  -- the merge itself, after the four calls that made the two vectors
  have hmerge := hrun.snoc (l := .mergeSorted 0 1) ⟨_, rfl, twoItems_callable 2, rfl⟩
  refine ⟨_, _, hmerge, by rw [List.map_append, hops]; rfl, sorted_vectors_are_sets
    (BlockHeap.platform_contract false) BlockHeap.platform_not_refuses BlockHeap.compare_compares
      ⟨_, rfl⟩ hmerge
    fun q hq => ?_⟩
  rcases List.mem_append.mp hq with hold | hnew
  · -- the calls before are not merges
    have hcall : q.2 ∈ ([.create 4 0, .create 4 0, .add 1 1, .add 0 2] : List (SortedOp ℕ)) := by
      rw [← hops]
      exact List.mem_map_of_mem hold
    intro p _
    simp only [List.mem_cons, List.not_mem_nil, or_false] at hcall
    rcases hcall with h | h | h | h <;> rw [h] <;> trivial
  · obtain rfl := List.mem_singleton.mp hnew
    -- 1 and 2 do not compare equal
    rintro p ⟨⟩ l ys hl hys hne
    obtain rfl : [2] = l := Option.some.inj hl
    obtain rfl : [1] = ys := Option.some.inj hys
    exact ⟨by decide, by simp [BlockHeap.difference], by simp [BlockHeap.difference]⟩

/-- Two merges of a sorted vector that do not go as they should: when the items at the ends compare
equal, the vector has the item twice, and when the vector that it is merged into is empty, the
process crashes. -/
theorem merge_not_a_set :
    (BlockHeap.platform false).Contract BlockHeap.blocks 0 ∧ ¬ (BlockHeap.platform false).Refuses ∧
      Compares BlockHeap.blocks BlockHeap.difference BlockHeap.compare ∧
      (∃ tr p, Lts.Run (sortedRuns (BlockHeap.platform false) BlockHeap.compare)
          (some ⟨⟨⟨[], []⟩, []⟩, []⟩) tr (some p) ∧
        tr.map Prod.snd = [.create 4 0, .create 4 0, .add 1 1, .add 0 1, .mergeSorted 0 1] ∧
        p.lists BlockHeap.blocks = [[1, 1], [1]] ∧
        ¬ OrderedSets (BlockHeap.platform false) BlockHeap.compare BlockHeap.blocks
          BlockHeap.difference (some p)) ∧
      ∃ tr p, Lts.Run (sortedRuns (BlockHeap.platform false) BlockHeap.compare)
          (some ⟨⟨⟨[], []⟩, []⟩, []⟩) tr (some p) ∧
        tr.map Prod.snd = [.create 4 0, .create 4 0, .add 1 1] ∧
        p.lists BlockHeap.blocks = [[], [1]] ∧
        SortedOp.call (BlockHeap.platform false) BlockHeap.compare p (.mergeSorted 0 1) =
          .error .crash := by
  refine ⟨BlockHeap.platform_contract false, BlockHeap.platform_not_refuses,
    BlockHeap.compare_compares, ?_, ?_⟩
  · obtain ⟨tr, hrun, hops⟩ := twoItems_run 1
    -- after the merge the list holds 1 twice
    have hlists : (match SortedOp.call (BlockHeap.platform false) BlockHeap.compare (twoItems 1)
        (.mergeSorted 0 1) with
        | .ok (_, p) => (p.lists BlockHeap.blocks, p.sorted)
        | .error _ => ([], [])) = ([[1, 1], [1]], [1, 0]) := by decide +kernel
    cases hcall : SortedOp.call (BlockHeap.platform false) BlockHeap.compare (twoItems 1)
      (.mergeSorted 0 1) with
    | error e =>
      rw [hcall] at hlists
      cases hlists
    | ok res =>
      obtain ⟨r, p⟩ := res
      rw [hcall] at hlists
      obtain ⟨hitems, hsorted⟩ := Prod.mk.inj hlists
      -- the process goes on, and its vector is no set any more
      have hmerge := sortedRuns_snoc hrun _ (twoItems_callable 1) hcall
      refine ⟨_, p, hmerge, by rw [List.map_append, hops]; rfl, hitems, fun hsets => ?_⟩
      have hin : 0 ∈ p.sorted := by
        rw [hsorted]
        decide
      obtain ⟨v, l, _, hl, hord, _⟩ := hsets p rfl 0 hin
      rw [hitems] at hl
      obtain rfl : [1, 1] = l := Option.some.inj hl
      have hlt : BlockHeap.difference 1 1 < 0 :=
        List.rel_of_pairwise_cons hord (List.mem_singleton_self 1)
      exact absurd hlt (by decide)
  · -- an empty vector has no last item to compare
    obtain ⟨tr, hrun, hops⟩ := oneItem_run
    exact ⟨tr, _, hrun, hops, rfl, by with_unfolding_all rfl⟩

end Shims

end BlueCommon
