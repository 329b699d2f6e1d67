import BlueCommon.Lib.OrderedLists
import BlueCommon.Shims.VectorItems

/-!
# The untyped sorted vector

`SortedVectorImpl` keeps the items of a `VectorImpl` in the order of `do_compare`.

* `SortedVectorImpl._indexOrderOf`, `add`, `merge`, `mergeSorted`, `remove`: the functions. They
  stop the process as `VectorImpl` does, or with a crash, when `do_compare` is given what is not an
  item.
* `Platform.Compares`: `do_compare` compares items.
* `add_spec`, `remove_spec`, `merge_spec`, `mergeSorted_spec`: what they do to an ordered list.
-/

namespace BlueCommon

namespace Shims

open SharedBlocks OrderedLists

/-- Why a process stops: `LOG_ALWAYS_FATAL_IF`, or a read through a bad pointer. The first is an end
that the source means to have. -/
inductive Stop
  | fatal
  | crash
deriving DecidableEq

def NAME_NOT_FOUND : ℤ := -2

/-- `do_compare`, for items of a size. No value is returned when the pointers cannot be read. -/
abbrev DoCompare (Heap Addr α : Type) := ℕ → (lhs rhs : Source Addr α) → Heap → Option ℤ

/-- What `VectorImpl` aborts is aborted. -/
def orFatal {β : Type} : Option β → Except Stop β
  | none => .error .fatal
  | some b => .ok b

/-- What cannot be compared crashes. -/
def orCrash {β : Type} : Option β → Except Stop β
  | none => .error .crash
  | some b => .ok b

namespace SortedVectorImpl

variable {Heap Addr α : Type} [DecidableEq Addr] (P : Platform Heap Addr α)
  (do_compare : DoCompare Heap Addr α)

/-- The loop of the binary search, which has at most as many turns as there are items, and one more
to end: the result, and the place in the order. -/
def searchLoop (v : VectorImpl Addr) (item : Source Addr α)
    (heap : Heap) : ℕ → ℤ → ℤ → Except Stop (ℤ × ℤ)
  | 0, l, _ => .ok (NAME_NOT_FOUND, l)
  | n + 1, l, h =>
    if l ≤ h then do
      let mid := l + (h - l) / 2
      let c ← orCrash (do_compare v.mItemSize (v.source mid.toNat) item heap)
      if c = 0 then .ok (mid, mid)
      else if c < 0 then searchLoop v item heap n (mid + 1) h
      else searchLoop v item heap n l (mid - 1)
    else .ok (NAME_NOT_FOUND, l)

def _indexOrderOf (v : VectorImpl Addr) (item : Source Addr α) (h : Heap) : Except Stop (ℤ × ℤ) :=
  searchLoop do_compare v item h (v.mCount + 1) 0 (P.ssize (P.sub v.mCount 1))

def indexOf (v : VectorImpl Addr) (item : Source Addr α) (h : Heap) : Except Stop ℤ := do
  let (index, _) ← _indexOrderOf P do_compare v item h
  .ok index

def orderOf (v : VectorImpl Addr) (item : Source Addr α) (h : Heap) : Except Stop ℕ := do
  let (_, order) ← _indexOrderOf P do_compare v item h
  .ok order.toNat

def add (v : VectorImpl Addr) (item : Source Addr α)
    (h : Heap) : Except Stop (ℤ × VectorImpl Addr × Heap) := do
  let (index, order) ← _indexOrderOf P do_compare v item h
  if index < 0 then orFatal (v.insertAt P item order.toNat 1 h)
  else orFatal (v.replaceAt P item index.toNat h)

/-- The loop of the naive merge: `n` items are left, from the number `i` on. It stops with the first
error, and the items that were added stay. -/
def mergeLoop (buffer : ℕ → Source Addr α) :
    ℕ → ℕ → VectorImpl Addr → Heap → Except Stop (ℤ × VectorImpl Addr × Heap)
  | 0, _, v, h => .ok (NO_ERROR, v, h)
  | n + 1, i, v, h => do
    let (err, v, h) ← add P do_compare v (buffer i) h
    if err < 0 then .ok (err, v, h) else mergeLoop buffer n (i + 1) v h

/-- `merge(const VectorImpl&)`, the naive merge. The array of the other vector is fetched once,
before the loop. -/
def merge (v vector : VectorImpl Addr) (h : Heap) : Except Stop (ℤ × VectorImpl Addr × Heap) :=
  if vector.mCount ≠ 0 then mergeLoop P do_compare vector.source vector.mCount 0 v h
  else .ok (NO_ERROR, v, h)

/-- The pointer that `itemLocation` returns. -/
def itemPointer (v : VectorImpl Addr) (index : ℕ) (h : Heap) : Source Addr α :=
  match v.itemLocation P index h with
  | none => .null
  | some p => .place p

/-- `merge(const SortedVectorImpl&)`. Vectors that do not overlap are put together at once, which is
decided by a comparison of their ends; otherwise it is the naive merge. -/
def mergeSorted (v vector : VectorImpl Addr) (h : Heap) :
    Except Stop (ℤ × VectorImpl Addr × Heap) :=
  if vector.mCount ≠ 0 then do
    -- first take care of the case where the vectors are sorted together
    let c ← orCrash
      (do_compare v.mItemSize (itemPointer P vector (P.sub vector.mCount 1) h) (v.source 0) h)
    if c ≤ 0 then orFatal (v.insertVectorAt P vector 0 h)
    else do
      let c ← orCrash (do_compare v.mItemSize (vector.source 0)
        (itemPointer P v (P.sub v.mCount 1) h) h)
      if 0 ≤ c then orFatal (v.appendVector P vector h)
      else merge P do_compare v vector h
  else .ok (NO_ERROR, v, h)

def remove (v : VectorImpl Addr) (item : Source Addr α)
    (h : Heap) : Except Stop (ℤ × VectorImpl Addr × Heap) := do
  let i ← indexOf P do_compare v item h
  if 0 ≤ i then
    let (_, v, h) ← orFatal (v.removeItemsAt P i.toNat 1 h)
    .ok (i, v, h)
  else .ok (i, v, h)

end SortedVectorImpl

variable {Heap Addr α : Type} [DecidableEq Addr]

omit [DecidableEq Addr] in
/-- `do_compare` compares items by the order. Of other pointers nothing is said, and there may be no
result for them. -/
structure Compares (blocks : Heap → Blocks Addr α) (cmp : α → α → ℤ)
    (do_compare : DoCompare Heap Addr α) :
    Prop where
  order : Comparison cmp
  compare : ∀ s lhs rhs a b h, Reads (blocks h) s lhs [a] → Reads (blocks h) s rhs [b] →
    do_compare s lhs rhs h = some (cmp a b)

namespace SortedVectorImpl

variable {P : Platform Heap Addr α} {do_compare : DoCompare Heap Addr α}
  {blocks : Heap → Blocks Addr α}
  {blank : α} {cmp : α → α → ℤ} {o : Addr → ℕ} {v v' : VectorImpl Addr} {h h' : Heap}
  {l ys : List α} {a : α}
  {item : Source Addr α} {r : ℤ}

/-! ## The search -/

/-- What the search finds: the item that compares equal, or the place where there is none. -/
inductive Finds (cmp : α → α → ℤ) (l : List α) (a : α) : ℤ → ℤ → Prop
  | found (pre post : List α) (x : α) : l = pre ++ x :: post → cmp x a = 0 →
      Finds cmp l a pre.length pre.length
  | absent (pre post : List α) : l = pre ++ post → Below cmp pre a → Above cmp post a →
      Finds cmp l a NAME_NOT_FOUND pre.length

omit [DecidableEq Addr] in
/-- An item of a vector can be read. -/
theorem reads_at {m : Blocks Addr α} {s i : ℕ} (hnull : v.mStorage = none → l = [])
    (hslots : ∀ b, v.mStorage = some b → Slots m b s 0 l) (hi : i < l.length) :
    Reads m s (v.source i) [l[i]] := by
  cases hst : v.mStorage with
  | none => simp [hnull hst] at hi
  | some b =>
    simp only [VectorImpl.source, hst, Reads]
    intro _
    have hdrop := ((hslots b hst).drop hi.le).take 1
    rwa [List.drop_eq_getElem_cons hi, List.take_succ_cons, List.take_zero, Nat.zero_add] at hdrop

/-- The loop, between the items before `lo`, which are smaller, and those after `hi`, which are
greater. -/
theorem searchLoop_spec (hc : Compares blocks cmp do_compare) (hl : Ordered cmp l)
    (hs : VectorImpl.Stores P blocks o v h l) (hitem : Reads (blocks h) v.mItemSize item [a])
    {n : ℕ} {lo hi : ℤ}
    (h0 : 0 ≤ lo) (hle : lo ≤ hi + 1) (hhi : hi < l.length) (hn : hi + 1 - lo < n)
    (hbelow : Below cmp (l.take lo.toNat) a) (habove : Above cmp (l.drop (hi + 1).toNat) a) :
    ∃ index order, searchLoop do_compare v item h n lo hi = .ok (index, order) ∧
      Finds cmp l a index order := by
  -- on the number of rounds that are left: the interval gets smaller in each
  induction n generalizing lo hi with
  | zero => omega
  | succ n ih =>
    rw [searchLoop]
    split
    · -- the comparison of the source, one element read from the storage
      rename_i hlt
      -- the middle is one of the items in question
      have hmid : lo ≤ lo + (hi - lo) / 2 ∧ lo + (hi - lo) / 2 ≤ hi := by omega
      generalize lo + (hi - lo) / 2 = mid at hmid ⊢
      obtain ⟨i, rfl⟩ : ∃ i : ℕ, mid = i := ⟨mid.toNat, by omega⟩
      have hi' : i < l.length := by omega
      have hread := reads_at hs.null hs.slots hi'
      have hcut : l = l.take i ++ l[i] :: l.drop (i + 1) := by simp
      have hpre : (l.take i).length = i := by simp; omega
      simp only [Int.toNat_natCast, hc.compare _ _ _ _ _ _ hread hitem, orCrash]
      have hord : Ordered cmp (l.take i ++ l[i] :: l.drop (i + 1)) := hcut ▸ hl
      -- equal: the search ends at the middle
      by_cases heq : cmp l[i] a = 0
      · have hfound := Finds.found (l.take i) (l.drop (i + 1)) l[i] hcut heq
        rw [hpre] at hfound
        exact ⟨i, i, by simp only [bind, Except.bind, if_pos heq], hfound⟩
      · by_cases hneg : cmp l[i] a < 0
        · -- all items up to the middle are smaller
          simp only [bind, Except.bind, if_neg heq, if_pos hneg]
          refine ih (by omega) (by omega) hhi (by omega) ?_ habove
          rw [show ((i : ℤ) + 1).toNat = i + 1 by omega, List.take_succ_eq_append_getElem hi']
          intro x hx
          -- the last of them is the middle itself
          rcases List.mem_append.mp hx with hx | hx
          · exact hc.order.lt_trans ((hord.cut hc.order (hc.order.refl _)).1 x hx) hneg
          · obtain rfl := List.mem_singleton.mp hx
            exact hneg
        · -- all items from the middle on are greater
          simp only [bind, Except.bind, if_neg heq, if_neg hneg]
          refine ih h0 (by omega) (by omega) (by omega) hbelow ?_
          rw [show ((i : ℤ) - 1 + 1).toNat = i by omega, List.drop_eq_getElem_cons hi']
          have hpos : cmp a l[i] < 0 := by
            rw [hc.order.swap]
            omega
          intro x hx
          rw [← hc.order.swap]
          -- so is the middle, and by transitivity all that follow
          cases hx with
          | head => exact hpos
          | tail _ hx =>
            have hgt := (hord.cut hc.order (hc.order.refl _)).2 x hx
            rw [← hc.order.swap] at hgt
            exact hc.order.lt_trans hpos hgt
    · -- nothing is left between
      rename_i hgt
      have hend : (hi + 1).toNat = lo.toNat := by omega
      have hpre : ((l.take lo.toNat).length : ℤ) = lo := by simp; omega
      have habsent :=
        Finds.absent (l.take lo.toNat) (l.drop lo.toNat) (List.take_append_drop ..).symm hbelow
        (hend ▸ habove)
      rw [hpre] at habsent
      exact ⟨_, _, rfl, habsent⟩

/-- **The specification of `_indexOrderOf`.** The bisection returns the place of an item that
compares equal, or else the place where it belongs. -/
theorem _indexOrderOf_spec (hP : P.Contract blocks blank) (hc : Compares blocks cmp do_compare)
    (hl : Ordered cmp l) (hs : VectorImpl.Stores P blocks o v h l)
    (hitem : Reads (blocks h) v.mItemSize item [a]) :
    ∃ index order, _indexOrderOf P do_compare v item h = .ok (index, order) ∧
      Finds cmp l a index order := by
  have hcount := hs.count
  have hlt := hs.length_lt
  have hlim := VectorImpl.limit_lt hP
  -- `size() - 1` is -1 when there are no items
  have hlast : P.ssize (P.sub v.mCount 1) = (l.length : ℤ) - 1 := by
    -- an empty vector: the subtraction wraps around, and the cast gives -1 back
    rcases Nat.eq_zero_or_pos l.length with h0 | hpos
    · have hsub : P.sub v.mCount 1 = 2 ^ P.wordBits - 1 := by
        rw [hcount, h0, Platform.sub, Nat.zero_add]
        exact Nat.mod_eq_of_lt (by omega)
      have hge : ¬ 2 ^ P.wordBits - 1 < 2 ^ (P.wordBits - 1) := by
        rw [← hlim]
        simp only [Platform.limit] at hlt ⊢
        omega
      rw [hsub, Platform.ssize, if_neg hge, h0, Nat.cast_sub (by omega)]
      push_cast
      omega
    · -- otherwise neither the subtraction nor the cast changes anything
      rw [VectorImpl.sub_of_le hP (by omega) (by omega), VectorImpl.ssize_of_lt (by omega)]
      omega
  rw [_indexOrderOf, hlast]
  refine searchLoop_spec hc hl hs hitem le_rfl (by omega) (by omega) (by omega) ?_ ?_
  · -- nothing is known of the items before the search
    simp [Below]
  · rw [show ((l.length : ℤ) - 1 + 1).toNat = l.length by omega, List.drop_length]
    simp [Above]

/-! ## The operations -/

/-- **The specification of `add`.** An item that compares equal is replaced, and otherwise the new
one goes where the search ended. The process may be ended by an assertion of `VectorImpl`. -/
theorem add_spec (hP : P.Contract blocks blank) (hmem : ¬ P.Refuses)
    (hc : Compares blocks cmp do_compare)
    (hl : Ordered cmp l) (hs : VectorImpl.Stores P blocks o v h l)
    (hptr : VectorImpl.Points (blocks h) o v.mItemSize item (some a)) :
    add P do_compare v item h = .error .fatal ∨ ∃ r v' h', add P do_compare v item h =
      .ok (r, v', h') ∧
      0 ≤ r ∧ VectorImpl.Updates P blocks o v h v' h' (put cmp l a) := by
  obtain ⟨index, order, hfind, hfinds⟩ := _indexOrderOf_spec hP hc hl hs hptr.1
  simp only [add, hfind, bind, Except.bind]
  cases hfinds with
  -- an equal item is there and is replaced
  | found pre post x hcut hx =>
    subst hcut
    rw [if_neg (by omega), Int.toNat_natCast]
    cases hcall : v.replaceAt P item pre.length h with
    -- the assertion of `replaceAt` has ended the process
    | none => exact .inl rfl
    | some res =>
      obtain ⟨r, v', h'⟩ := res
      obtain ⟨hpre, hpost⟩ := hl.cut hc.order hx
      rcases VectorImpl.replaceAt_spec hP hs hptr hcall with ⟨_, hge, _⟩ | ⟨rfl, _, y, hgiven, hup⟩
      · -- the index is that of an item
        simp at hge
      · obtain rfl : y = a := by simpa using hgiven.2
        have hput : (pre ++ x :: post).set pre.length y = put cmp (pre ++ x :: post) y := by
          rw [put_replace hpre hx hpost]
          simp
        exact .inr ⟨_, _, _, rfl, Int.natCast_nonneg _, hput ▸ hup⟩
  -- no equal item: the new one goes where the search ended
  | absent pre post hcut hpre hpost =>
    subst hcut
    rw [if_pos (by decide), Int.toNat_natCast]
    cases hcall : v.insertAt P item pre.length 1 h with
    | none => exact .inl rfl
    | some res =>
      obtain ⟨r, v', h'⟩ := res
      rcases VectorImpl.insertAt_spec hP hs hptr hcall with ⟨_, hwhy, _⟩ | ⟨rfl, _, xs, hgiven, hup⟩
      · -- the order is a place in the list, and there is memory
        rcases hwhy with hgt | hzero | hrefuses
        · simp at hgt
        · cases hzero
        · exact absurd hrefuses hmem
      · obtain rfl : xs = [a] := hgiven.2
        have hput : (pre ++ post).take pre.length ++ [a] ++ (pre ++ post).drop pre.length =
            put cmp (pre ++ post) a := by
          rw [put_between hpre hpost]
          simp
        exact .inr ⟨_, _, _, rfl, Int.natCast_nonneg _, hput ▸ hup⟩

/-- **The specification of `remove`.** An item that compares equal is removed, and without one the
index that is returned is negative. Nothing before and nothing behind it compares equal. -/
theorem remove_spec (hP : P.Contract blocks blank) (hmem : ¬ P.Refuses)
    (hc : Compares blocks cmp do_compare)
    (hl : Ordered cmp l) (hs : VectorImpl.Stores P blocks o v h l)
    (hitem : Reads (blocks h) v.mItemSize item [a]) :
    remove P do_compare v item h = .error .fatal ∨ ∃ r v' h', remove P do_compare v item h =
      .ok (r, v', h') ∧
      (0 ≤ r ↔ ∃ x ∈ l, cmp x a = 0) ∧ VectorImpl.Updates P blocks o v h v' h'
        (discard cmp l a) := by
  obtain ⟨index, order, hfind, hfinds⟩ := _indexOrderOf_spec hP hc hl hs hitem
  simp only [remove, indexOf, hfind, bind, Except.bind]
  cases hfinds with
  -- an equal item is there and is removed
  | found pre post x hcut hx =>
    subst hcut
    obtain ⟨hpre, hpost⟩ := hl.cut hc.order hx
    have hbound : pre.length + 1 ≤ (pre ++ x :: post).length := by simp
    rw [if_pos (Int.natCast_nonneg _), Int.toNat_natCast]
    cases hcall : v.removeItemsAt P pre.length 1 h with
    | none => exact .inl rfl
    | some res =>
      obtain ⟨r, v', h'⟩ := res
      -- the sum of index and count does not wrap around
      have hok : v.RemovalOk P pre.length 1 h := by
        refine ⟨fun hwrap => ?_, fun hbad => hmem hbad.2.2.refuses⟩
        have hlt := hs.length_lt
        have hlim := VectorImpl.limit_lt hP
        omega
      -- the index lies in the list, so no error comes back
      rcases VectorImpl.removeItemsAt_spec hP hs hok hcall with ⟨_, hgt, _⟩ | ⟨_, _, hup⟩
      · omega
      · have hlist : (pre ++ x :: post).take pre.length ++
            (pre ++ x :: post).drop (pre.length + 1) =
            discard cmp (pre ++ x :: post) a := by
          rw [discard_at hpre hx hpost]
          simp
        exact .inr ⟨_, _, _, rfl, iff_of_true (Int.natCast_nonneg _) ⟨x, by simp, hx⟩, hlist ▸ hup⟩
  -- none is there, and the index is negative
  | absent pre post hcut hpre hpost =>
    subst hcut
    rw [if_neg (by decide)]
    -- nothing before and nothing after compares equal
    have hnone : ¬ ∃ x ∈ pre ++ post, cmp x a = 0 := by
      rintro ⟨x, hx, h0⟩
      rcases List.mem_append.mp hx with hx | hx
      · exact absurd h0 (hpre x hx).ne
      · exact absurd h0 (hpost x hx).ne'
    refine .inr ⟨_, _, _, rfl, iff_of_false (by decide) hnone, ?_⟩
    rw [discard_between hpre hpost]
    exact hs.unchanged rfl

/-- Items that are not in the vector's own storage are added one by one. The induction is on the
items that are left; what was added does not change those that are still to be read. -/
theorem mergeLoop_spec (hP : P.Contract blocks blank) (hmem : ¬ P.Refuses)
    (hc : Compares blocks cmp do_compare)
    {buffer : ℕ → Source Addr α} {rest : List α} {i : ℕ} (hl : Ordered cmp l)
    (hs : VectorImpl.Stores P blocks o v h l)
    (hptr : ∀ k a, rest[k]? = some a → VectorImpl.Points (blocks h) o v.mItemSize (buffer (i + k))
      (some a)) :
    mergeLoop P do_compare buffer rest.length i v h = .error .fatal ∨
      ∃ v' h', mergeLoop P do_compare buffer rest.length i v h = .ok (NO_ERROR, v', h') ∧
        VectorImpl.Updates P blocks o v h v' h' (putAll cmp l rest) := by
  induction rest generalizing l v h i with
  | nil => exact .inr ⟨v, h, rfl, hs.unchanged rfl⟩
  | cons a rest ih =>
    rw [List.length_cons, mergeLoop]
    -- the first item of the buffer
    rcases add_spec hP hmem hc hl hs (hptr 0 a rfl) with hfatal | ⟨r, v₁, h₁, hadd, hr, hup⟩
    · rw [Nat.add_zero] at hfatal
      exact .inl (by rw [hfatal]; rfl)
    · -- the items that are left can be read as before
      have hnext : ∀ k b, rest[k]? = some b →
          VectorImpl.Points (blocks h₁) o v₁.mItemSize (buffer (i + 1 + k)) (some b) :=
          fun k b hk => by
        have hold := (hptr (k + 1) b (by simpa using hk)).kept hup.keeps
        rwa [show i + (k + 1) = i + 1 + k by omega, ← hup.itemSize] at hold
      rw [Nat.add_zero] at hadd
      simp only [hadd, bind, Except.bind, if_neg (show ¬ r < 0 by omega)]
      -- and the rest of them, into the list with the first
      rcases ih (hl.put hc.order a) hup.stores hnext with hfatal | ⟨v', h', hloop, hup'⟩
      · exact .inl hfatal
      · exact .inr ⟨v', h', hloop, hup.trans hup'⟩

/-! ### A vector that is merged into itself -/

theorem editArrayImpl_own (hP : P.Contract blocks blank) (hs : VectorImpl.Stores P blocks o v h l)
    {b : Addr}
    (hb : v.mStorage = some b) (hsole : o b = 0) : v.editArrayImpl P h = some (v, h) := by
  obtain ⟨B, hB, hrefs, _⟩ := hs.owned b (by simp [hb])
  have hone : B.refs = 1 := by simpa [hb, hsole] using hrefs
  simp [VectorImpl.editArrayImpl, hb, hP.attemptEdit b h B hB, hone]

/-- To add an item of the vector itself, in storage of its own, changes nothing. The search finds
the item, and `replaceAt` finds the storage unshared and copies the item onto itself. -/
theorem add_own (hP : P.Contract blocks blank) (hc : Compares blocks cmp do_compare)
    (hl : Ordered cmp l)
    (hs : VectorImpl.Stores P blocks o v h l) {b : Addr} (hb : v.mStorage = some b)
    (hsole : o b = 0) {i : ℕ}
    (hi : i < l.length) : add P do_compare v (v.source i) h = .ok ((i : ℤ), v, h) := by
  obtain ⟨index, order, hfind, hfinds⟩ :=
    _indexOrderOf_spec hP hc hl hs (reads_at hs.null hs.slots hi)
  have hself := hc.order.refl l[i]
  -- the search finds the item itself
  obtain rfl : index = i := by
    have hmem : ∀ pre post : List α, Below cmp pre l[i] → Above cmp post l[i] →
      l[i] ∉ pre ∧ l[i] ∉ post :=
      fun pre post hpre hpost => ⟨fun hin => by have := hpre _ hin; omega, fun hin => by
        have := hpost _ hin
        omega⟩
    cases hfinds with
    | found pre post x hcut hx =>
      -- it can be neither before nor after the place that was found
      obtain ⟨hpre, hpost⟩ := (hcut ▸ hl : Ordered cmp (pre ++ x :: post)).cut hc.order hx
      obtain ⟨hnot, hnot'⟩ := hmem pre post hpre hpost
      rcases Nat.lt_trichotomy i pre.length with hlt | heq | hgt
      · refine absurd ?_ hnot
        have hget : l[i]? = pre[i]? := by rw [hcut, List.getElem?_append_left hlt]
        exact List.mem_of_getElem? (hget.symm.trans (List.getElem?_eq_getElem hi))
      · rw [heq]
      · refine absurd ?_ hnot'
        have hget : l[i]? = post[i - pre.length - 1]? := by
          rw [hcut, List.getElem?_append_right hgt.le, List.getElem?_cons, if_neg (by omega)]
        exact List.mem_of_getElem? (hget.symm.trans (List.getElem?_eq_getElem hi))
    | absent pre post hcut hpre hpost =>
      obtain ⟨hnot, hnot'⟩ := hmem pre post hpre hpost
      -- and it is in the list, so the search cannot fail
      have hin : l[i] ∈ pre ++ post := hcut ▸ List.getElem_mem hi
      rcases List.mem_append.mp hin with hin | hin
      · exact absurd hin hnot
      · exact absurd hin hnot'
  -- `replaceAt` finds the storage unshared and copies an item onto itself
  have hcap : i < v.capacity P h :=
    (hs.le_capacity_iff hP hb).mpr (hs.room_at (i := i) (n := 1) hb hi)
  have hcount : ¬ v.mCount ≤ i := by
    have := hs.count
    omega
  have hloc : v.editItemLocation P i h = some (some ⟨b, i⟩, v, h) := by
    simp [VectorImpl.editItemLocation, hcap, editArrayImpl_own hP hs hb hsole, hb]
  have hplace : (v.source i : Source Addr α).place? = some ⟨b, i⟩ := by
    simp [VectorImpl.source, hb, Source.place?]
  have hssize : P.ssize i = i := VectorImpl.ssize_of_lt (by have := hs.length_lt; omega)
  simp only [add, hfind, bind, Except.bind, if_neg (show ¬ (i : ℤ) < 0 by omega), Int.toNat_natCast,
    VectorImpl.replaceAt, if_neg hcount, hloc, Option.bind, hplace, if_true, hssize, orFatal]

theorem mergeLoop_own (hP : P.Contract blocks blank) (hc : Compares blocks cmp do_compare)
    (hl : Ordered cmp l)
    (hs : VectorImpl.Stores P blocks o v h l) {b : Addr} (hb : v.mStorage = some b)
    (hsole : o b = 0) {n i : ℕ}
    (hn : i + n = l.length) : mergeLoop P do_compare v.source n i v h = .ok (NO_ERROR, v, h) := by
  induction n generalizing i with
  | zero => rfl
  | succ n ih =>
    simp only [mergeLoop, add_own hP hc hl hs hb hsole (show i < l.length by omega), bind,
      Except.bind, if_neg (show ¬ (i : ℤ) < 0 by omega)]
    exact ih (by omega)

/-- A vector holds one list. -/
theorem stores_unique {o' : Addr → ℕ} (hs : VectorImpl.Stores P blocks o v h ys)
    (hs' : VectorImpl.Stores P blocks o' v h l) : ys = l := by
  cases hst : v.mStorage with
  | none => rw [hs.null hst, hs'.null hst]
  | some b => exact (hs.slots b hst).unique (hs'.slots b hst) (hs.count.symm.trans hs'.count)

/-- **The naive merge** adds the items one by one, also those of the vector itself. An item that
compares equal to one that is there replaces it. -/
theorem merge_spec (hP : P.Contract blocks blank) (hmem : ¬ P.Refuses)
    (hc : Compares blocks cmp do_compare)
    (hl : Ordered cmp l) (hs : VectorImpl.Stores P blocks o v h l) {vector : VectorImpl Addr}
    {o' : Addr → ℕ}
    (hvec : VectorImpl.Stores P blocks o' vector h ys) (hsize : v.mItemSize = vector.mItemSize)
    (hother : vector = v ∨ ∀ b, vector.mStorage = some b → 0 < o b) :
    merge P do_compare v vector h = .error .fatal ∨ ∃ v' h', merge P do_compare v vector h =
      .ok (NO_ERROR, v', h') ∧
      VectorImpl.Updates P blocks o v h v' h' (putAll cmp l ys) := by
  unfold merge
  split
  · rename_i hne
    by_cases hcounted : ∀ b, vector.mStorage = some b → 0 < o b
    · -- the storage of the other vector is kept while the items are added
      rw [hvec.count]
      refine mergeLoop_spec hP hmem hc hl hs fun k a hk => ⟨?_, fun c hc => ?_⟩
      · -- what is read is the storage of the other vector, which does not change
        obtain ⟨hk', rfl⟩ := List.getElem?_eq_some_iff.mp hk
        rw [hsize, Nat.zero_add]
        exact reads_at hvec.null hvec.slots hk'
      · rw [VectorImpl.source_block?] at hc
        exact hcounted c hc
    · -- it is the vector itself, in storage that no other has
      obtain rfl : vector = v := hother.resolve_right hcounted
      push Not at hcounted
      obtain ⟨b, hb, hsole⟩ := hcounted
      have hlist : ys = l := stores_unique hvec hs
      -- every `add` replaces an item by itself
      have hloop := mergeLoop_own hP hc hl hs hb (by omega) (show 0 + vector.mCount = l.length by
        rw [hs.count]; omega)
      refine .inr ⟨vector, h, hloop, ?_⟩
      rw [hlist, putAll_mem hc.order hl fun y hy => hy]
      exact hs.unchanged rfl
  · -- the other vector is empty
    rename_i hzero
    have hnil : ys = [] := List.eq_nil_of_length_eq_zero (by have := hvec.count; omega)
    exact .inr ⟨v, h, rfl, hnil ▸ hs.unchanged rfl⟩

/-! ### The merge of a sorted vector -/

/-- The vector has items, and those at its ends do not compare equal to the items at the ends of the
other. -/
def Apart (cmp : α → α → ℤ) (l ys : List α) : Prop :=
  l ≠ [] ∧ (∀ x ∈ l.head?, ∀ y ∈ ys.getLast?, cmp y x ≠ 0) ∧
    ∀ x ∈ l.getLast?, ∀ y ∈ ys.head?, cmp y x ≠ 0

/-- `itemLocation(size() - 1)` is the last item, if there is one. -/
theorem itemPointer_last (hP : P.Contract blocks blank) (hs : VectorImpl.Stores P blocks o v h l)
    (hne : l ≠ []) :
    itemPointer P v (P.sub v.mCount 1) h = (v.source (l.length - 1) : Source Addr α) := by
  have hpos : 0 < l.length := List.length_pos_of_ne_nil hne
  obtain ⟨b, hb⟩ : ∃ b, v.mStorage = some b := by
    cases hst : v.mStorage with
    | none => exact absurd (hs.null hst) hne
    | some b => exact ⟨b, rfl⟩
  have hlt := hs.length_lt
  rw [hs.count, VectorImpl.sub_of_le hP (by omega) hlt, itemPointer,
    hs.itemLocation_eq hP hb (by omega : l.length - 1 < l.length), VectorImpl.source, hb]

/-- A vector whose items all come before or all after those of another is not the other one, and
where it is not, its storage is kept. -/
theorem counted_of_ne (hc : Compares blocks cmp do_compare)
    (hs : VectorImpl.Stores P blocks o v h l) {vector : VectorImpl Addr} {o' : Addr → ℕ}
    (hvec : VectorImpl.Stores P blocks o' vector h ys) (hlne : l ≠ [])
    (hother : vector = v ∨ ∀ b, vector.mStorage = some b → 0 < o b)
    (hne : ∀ x ∈ l, ∀ y ∈ ys, cmp x y ≠ 0) : ∀ b, vector.mStorage = some b → 0 < o b := by
  refine hother.resolve_left fun heq => ?_
  -- an item of the vector itself compares equal to itself
  subst heq
  obtain ⟨x, hx⟩ := List.exists_mem_of_ne_nil l hlne
  have hin : x ∈ ys := by
    rw [stores_unique hvec hs]
    exact hx
  exact hne x hx x hin (hc.order.refl x)

/-- A vector is inserted whole into another one. -/
theorem insertWhole_spec (hP : P.Contract blocks blank) (hmem : ¬ P.Refuses)
    (hs : VectorImpl.Stores P blocks o v h l) {vector : VectorImpl Addr} {o' : Addr → ℕ}
    (hvec : VectorImpl.Stores P blocks o' vector h ys) (hsize : v.mItemSize = vector.mItemSize)
    (hyne : ys ≠ []) (hcounted : ∀ b, vector.mStorage = some b → 0 < o b)
    {index : ℕ} (hindex : index ≤ l.length) :
    orFatal (v.insertVectorAt P vector index h) = .error .fatal ∨
      ∃ r v' h', orFatal (v.insertVectorAt P vector index h) = .ok (r, v', h') ∧ 0 ≤ r ∧
        VectorImpl.Updates P blocks o v h v' h' (l.take index ++ ys ++ l.drop index) := by
  cases hcall : v.insertVectorAt P vector index h with
  | none => exact .inl rfl
  | some res =>
    obtain ⟨r, v', h'⟩ := res
    rw [VectorImpl.insertVectorAt, hvec.count] at hcall
    -- the source of `insertArrayAt` is the array of the other vector
    have hsrc : Reads (blocks h) v.mItemSize (vector.source 0) ys :=
      hsize ▸ VectorImpl.reads_source hvec.null hvec.slots
    rcases VectorImpl.insertArrayAt_spec hP hs hsrc
        (fun _ c hcb => hcounted c (by rwa [VectorImpl.source_block?] at hcb)) hcall with
      ⟨_, hwhy, _⟩ | ⟨rfl, _, hup⟩
    · -- none of the reasons for an error is there
      rcases hwhy with hgt | hnil | hrefuses
      · exact absurd hindex (Nat.not_le.mpr hgt)
      · exact absurd hnil hyne
      · exact absurd hrefuses hmem
    · exact .inr ⟨_, _, _, rfl, Int.natCast_nonneg _, hup⟩

/-- The items at the ends of the two vectors are compared. -/
theorem compare_ends (hP : P.Contract blocks blank) (hc : Compares blocks cmp do_compare)
    (hs : VectorImpl.Stores P blocks o v h l) {vector : VectorImpl Addr} {o' : Addr → ℕ}
    (hvec : VectorImpl.Stores P blocks o' vector h ys) (hsize : v.mItemSize = vector.mItemSize)
    (hlpos : 0 < l.length) (hypos : 0 < ys.length) (hllast : l.length - 1 < l.length)
    (hylast : ys.length - 1 < ys.length) :
    do_compare v.mItemSize (itemPointer P vector (P.sub vector.mCount 1) h) (v.source 0) h =
        some (cmp ys[ys.length - 1] l[0]) ∧
      do_compare v.mItemSize (vector.source 0) (itemPointer P v (P.sub v.mCount 1) h) h =
        some (cmp ys[0] l[l.length - 1]) := by
  rw [itemPointer_last hP hvec (List.ne_nil_of_length_pos hypos),
    itemPointer_last hP hs (List.ne_nil_of_length_pos hlpos)]
  constructor
  · exact hc.compare _ _ _ _ _ _ (hsize ▸ reads_at hvec.null hvec.slots hylast)
      (reads_at hs.null hs.slots hlpos)
  · exact hc.compare _ _ _ _ _ _ (hsize ▸ reads_at hvec.null hvec.slots hypos)
      (reads_at hs.null hs.slots hllast)

/-- **The merge of a sorted vector.** When the two are apart at their ends, the two fast paths do
what the naive merge does. -/
theorem mergeSorted_spec (hP : P.Contract blocks blank) (hmem : ¬ P.Refuses)
    (hc : Compares blocks cmp do_compare)
    (hl : Ordered cmp l) (hs : VectorImpl.Stores P blocks o v h l) {vector : VectorImpl Addr}
    {o' : Addr → ℕ}
    (hys : Ordered cmp ys) (hvec : VectorImpl.Stores P blocks o' vector h ys)
    (hsize : v.mItemSize = vector.mItemSize)
    (hother : vector = v ∨ ∀ b, vector.mStorage = some b → 0 < o b)
    (hapart : ys ≠ [] → Apart cmp l ys) :
    mergeSorted P do_compare v vector h = .error .fatal ∨
      ∃ r v' h', mergeSorted P do_compare v vector h = .ok (r, v', h') ∧ 0 ≤ r ∧
        VectorImpl.Updates P blocks o v h v' h' (putAll cmp l ys) := by
  unfold mergeSorted
  split
  · rename_i hne
    -- both have items, and those at the ends do not compare equal
    have hyne : ys ≠ [] := by
      rintro rfl
      exact hne hvec.count
    obtain ⟨hlne, hfirst, hlast⟩ := hapart hyne
    have hypos : 0 < ys.length := List.length_pos_of_ne_nil hyne
    have hlpos : 0 < l.length := List.length_pos_of_ne_nil hlne
    have hylast : ys.length - 1 < ys.length := by omega
    have hllast : l.length - 1 < l.length := by omega
    -- the ends of the two lists differ, so one comparison decides which comes first
    have hne₁ : cmp ys[ys.length - 1] l[0] ≠ 0 :=
      hfirst _ (by simp [List.head?_eq_getElem?, hlpos]) _ (by simp [List.getLast?_eq_getElem?])
    have hne₂ : cmp ys[0] l[l.length - 1] ≠ 0 :=
      hlast _ (by simp [List.getLast?_eq_getElem?]) _ (by simp [List.head?_eq_getElem?, hypos])
    obtain ⟨hcompare₁, hcompare₂⟩ :=
      compare_ends hP hc hs hvec hsize hlpos hypos hllast hylast
    simp only [hcompare₁, hcompare₂, orCrash, bind, Except.bind]
    split
    · -- all items of the vector come first
      rename_i hle
      have hbefore : ∀ y ∈ ys, ∀ x ∈ l, cmp y x < 0 :=
        hys.lt_of_last_lt_first hc.order hl hylast hlpos (by omega)
      have habove : ∀ y ∈ ys, Above cmp l y := fun y hy x hx => by
        rw [← hc.order.swap]
        exact hbefore y hy x hx
      -- a vector with other items does not share its storage
      have hcounted := counted_of_ne hc hs hvec hlne hother fun x hx y hy =>
        (habove y hy x hx).ne'
      have hput : putAll cmp ([] ++ l) ys = l.take 0 ++ ys ++ l.drop 0 :=
        putAll_between hys (fun _ _ _ hx => absurd hx List.not_mem_nil) habove
      rw [List.nil_append] at hput
      rw [hput]
      exact insertWhole_spec hP hmem hs hvec hsize hyne hcounted (Nat.zero_le _)
    · -- the second comparison: the first item of the vector against the last of this one
      rename_i hgt
      split
      · -- all items of the vector come last
        rename_i hge
        have hlt : cmp l[l.length - 1] ys[0] < 0 := by
          rw [hc.order.swap]
          omega
        have hafter : ∀ x ∈ l, ∀ y ∈ ys, cmp x y < 0 :=
          hl.lt_of_last_lt_first hc.order hys hllast hypos hlt
        have hcounted := counted_of_ne hc hs hvec hlne hother fun x hx y hy =>
          (hafter x hx y hy).ne
        have hput : putAll cmp (l ++ []) ys = l ++ ys ++ [] :=
          putAll_between hys (fun y hy x hx => hafter x hx y hy)
            (fun _ _ _ hx => absurd hx List.not_mem_nil)
        have hins := insertWhole_spec hP hmem hs hvec hsize hyne hcounted (le_refl l.length)
        simp only [List.take_length, List.drop_length, List.append_nil] at hput hins
        rw [VectorImpl.appendVector, hs.count, hput]
        exact hins
      · -- otherwise the naive merge does it
        rcases merge_spec hP hmem hc hl hs hvec hsize hother with hfatal | ⟨v', h', hmerge, hup⟩
        · exact .inl hfatal
        · exact .inr ⟨_, v', h', hmerge, le_rfl, hup⟩
  · -- an empty vector changes nothing
    rename_i hzero
    have hnil : ys = [] := List.eq_nil_of_length_eq_zero (by have := hvec.count; omega)
    exact .inr ⟨_, v, h, rfl, le_rfl, hnil ▸ hs.unchanged rfl⟩

end SortedVectorImpl

end Shims

end BlueCommon
