import BlueCommon.Shims.VectorStorage
import Mathlib.Algebra.Order.Group.Nat
import Mathlib.Algebra.Order.Ring.Nat

/-!
# What the functions of the vector do to its list

One lemma for each function of `VectorImpl`. `Stores` says that a vector holds a list, in storage
that the counted references own; `Updates` says what a function leaves: the vector holds another
list, and what the other references point at is as it was.

* `editArrayImpl_spec`, `replaceStorage_spec`, `resizeStorage_spec`: the three ways to a storage of
  one's own.
* `_grow_spec`: free space at a place of the list, or nothing.
* `_shrink_spec`: the items are gone, or there was no memory (`ShrinkFails`) and nothing is.
-/

namespace BlueCommon

namespace Shims

open SharedBlocks

variable {Heap Addr α : Type} [DecidableEq Addr]

/-- No buffer has so many bytes: sizes that are negative as an `ssize_t` are not allocated. -/
def Platform.limit (P : Platform Heap Addr α) : ℕ := 2 ^ (P.wordBits - 1)

/-- There are requests for memory that are refused, for new storage or for storage of another
size. -/
def Platform.Refuses (P : Platform Heap Addr α) : Prop :=
  (∃ n h h', P.alloc n h = some (none, h')) ∨ ∃ b n h h', P.editResize b n h = some (none, h')

namespace VectorImpl

/-- The vector holds the list, `o` are the references that others have to the buffers, and its own
reference is counted with them. -/
structure Stores (P : Platform Heap Addr α) (blocks : Heap → Blocks Addr α) (o : Addr → ℕ)
    (v : VectorImpl Addr) (h : Heap) (l : List α) : Prop where
  owned : Owned P.limit (o + own v.mStorage) (blocks h)
  count : v.mCount = l.length
  itemSize_pos : 0 < v.mItemSize
  null : v.mStorage = none → l = []
  slots : ∀ b, v.mStorage = some b → Slots (blocks h) b v.mItemSize 0 l

/-- From `v` and `h` to `v'` and `h'` the vector came to hold the list, and nothing of the others
changed. -/
structure Updates (P : Platform Heap Addr α) (blocks : Heap → Blocks Addr α) (o : Addr → ℕ)
    (v : VectorImpl Addr) (h : Heap) (v' : VectorImpl Addr) (h' : Heap) (l : List α) : Prop where
  stores : Stores P blocks o v' h' l
  keeps : Keeps o (blocks h) (blocks h')
  itemSize : v'.mItemSize = v.mItemSize
  flags : v'.mFlags = v.mFlags

variable {P : Platform Heap Addr α} {blocks : Heap → Blocks Addr α} {blank : α} {o : Addr → ℕ}
  {v v' v'' : VectorImpl Addr} {h h' h'' : Heap} {l l' : List α} {b : Addr} {r : ℤ}

theorem Updates.trans (hu : Updates P blocks o v h v' h' l)
    (hu' : Updates P blocks o v' h' v'' h'' l') :
    Updates P blocks o v h v'' h'' l' :=
  ⟨hu'.stores, hu.keeps.trans hu'.keeps, hu'.itemSize.trans hu.itemSize, hu'.flags.trans hu.flags⟩

/-- Nothing happened but that the heap changed elsewhere. The vector stores what it stored. -/
theorem Stores.unchanged (hs : Stores P blocks o v h l) (hh : blocks h' = blocks h) :
    Updates P blocks o v h v h' l :=
  ⟨⟨hh ▸ hs.owned, hs.count, hs.itemSize_pos, hs.null, hh ▸ hs.slots⟩, hh ▸ Keeps.refl, rfl, rfl⟩

/-! ### Sizes -/

theorem Stores.lt_limit (hs : Stores P blocks o v h l) (hb : v.mStorage = some b) {n : ℕ}
    (hroom : Room (blocks h) b v.mItemSize n) : n * v.mItemSize < P.limit := by
  obtain ⟨B, hB, hfit⟩ := hroom
  obtain ⟨C, hC, _, hlt⟩ := hs.owned b (by simp [hb])
  obtain rfl : B = C := Option.some.inj (hB.symm.trans hC)
  exact hfit.trans_lt hlt

theorem Stores.length_lt (hs : Stores P blocks o v h l) : l.length < P.limit := by
  rcases hst : v.mStorage with _ | b
  · rw [hs.null hst]
    exact Nat.two_pow_pos _
  · have hroom := (hs.slots b hst).room
    rw [Nat.zero_add] at hroom
    exact (Nat.le_mul_of_pos_right _ hs.itemSize_pos).trans_lt (hs.lt_limit hst hroom)

theorem Stores.le_capacity_iff (hP : P.Contract blocks blank) (hs : Stores P blocks o v h l)
    (hb : v.mStorage = some b) {n : ℕ} : n ≤ v.capacity P h ↔ Room (blocks h) b v.mItemSize n := by
  obtain ⟨B, hB, _⟩ := hs.slots b hb
  have hcap : v.capacity P h = B.size / v.mItemSize := by simp [capacity, hb, hP.size b h B hB]
  rw [hcap, Nat.le_div_iff_mul_le hs.itemSize_pos]
  refine ⟨fun hn => ⟨B, hB, hn⟩, fun ⟨C, hC, hn⟩ => ?_⟩
  obtain rfl : B = C := Option.some.inj (hB.symm.trans hC)
  exact hn

theorem limit_lt (hP : P.Contract blocks blank) : 2 * P.limit = 2 ^ P.wordBits := by
  have hbits := hP.wordBits_ge
  rw [Platform.limit, ← Nat.pow_succ']
  congr 1
  omega

omit [DecidableEq Addr] in
theorem ssize_of_lt {n : ℕ} (hn : n < P.limit) : P.ssize n = n := if_pos hn

theorem add_of_lt (hP : P.Contract blocks blank) {a c : ℕ}
    (h : a + c < P.limit) : P.add a c = a + c :=
  Nat.mod_eq_of_lt (by have := limit_lt hP; omega)

theorem mul_of_lt (hP : P.Contract blocks blank) {a c : ℕ}
    (h : a * c < P.limit) : P.mul a c = a * c :=
  Nat.mod_eq_of_lt (by have := limit_lt hP; omega)

theorem sub_of_le (hP : P.Contract blocks blank) {a c : ℕ} (hle : c ≤ a) (h : a < P.limit) :
    P.sub a c = a - c := by
  have hlim := limit_lt hP
  rw [Platform.sub, show a + 2 ^ P.wordBits - c =
    a - c + 2 ^ P.wordBits by omega, Nat.add_mod_right]
  exact Nat.mod_eq_of_lt (by omega)

/-! ### The callbacks -/

theorem _do_copy_spec (hP : P.Contract blocks blank) {p : Place Addr} {src : Source Addr α}
    {xs : List α} (hroom : Room (blocks h) p.block v.mItemSize (p.index + xs.length))
    (hsrc : Reads (blocks h) v.mItemSize src xs) (hne : xs ≠ [] → src.block? ≠ some p.block)
    (hpos : 0 < v.mItemSize) (hlt : xs.length * v.mItemSize < P.limit) :
    Writes (blocks h) p.block v.mItemSize p.index xs.length
      (blocks (v._do_copy P p src xs.length h)) ∧
      Slots (blocks (v._do_copy P p src xs.length h)) p.block v.mItemSize p.index xs := by
  unfold _do_copy
  split
  · exact hP.do_copy _ p src xs h hroom hsrc hne
  · rw [mul_of_lt hP hlt]
    exact hP.memcpy _ p src xs h hpos hroom hsrc hne

theorem writes_same {s i n : ℕ} (hroom : Room (blocks h) b s (i + n)) :
    Writes (blocks h) b s i n (blocks h) := by
  obtain ⟨B, hB, _⟩ := hroom
  refine ⟨B, B.item, hB, ?_, fun _ _ => rfl⟩
  rw [show ({ B with item := B.item } : Block α) = B from rfl, ← hB, Function.update_eq_self]

theorem _do_destroy_spec (hP : P.Contract blocks blank) {p : Place Addr} {n : ℕ}
    (hroom : Room (blocks h) p.block v.mItemSize (p.index + n)) :
    Writes (blocks h) p.block v.mItemSize p.index n (blocks (v._do_destroy P p n h)) := by
  unfold _do_destroy
  split
  · exact hP.do_destroy _ p n h hroom
  · exact writes_same hroom

/-- Blank items are constructed, unless the items are trivially constructed: these are whatever was
there. -/
theorem _do_construct_spec (hP : P.Contract blocks blank) {p : Place Addr} {n : ℕ}
    (hroom : Room (blocks h) p.block v.mItemSize (p.index + n)) :
    Writes (blocks h) p.block v.mItemSize p.index n (blocks (v._do_construct P p n h)) ∧
      ∃ xs, xs.length = n ∧ (v.mFlags &&& HAS_TRIVIAL_CTOR = 0 → xs = List.replicate n blank) ∧
        Slots (blocks (v._do_construct P p n h)) p.block v.mItemSize p.index xs := by
  unfold _do_construct
  split
  · obtain ⟨hw, hslots⟩ := hP.do_construct _ p n h hroom
    exact ⟨hw, _, List.length_replicate, fun _ => rfl, hslots⟩
  · rename_i htriv
    obtain ⟨xs, hlen, hslots⟩ := Slots.ofRoom hroom
    exact ⟨writes_same hroom, xs, hlen, fun h0 => absurd h0 htriv, hslots⟩

/-- The storage is given back, with its items when no one else has it. -/
theorem release_storage_releases (hP : P.Contract blocks blank) (hb : v.mStorage = some b)
    (hroom : Room (blocks h) b v.mItemSize v.mCount) :
    Releases (blocks h) b (blocks (v.release_storage P h)) := by
  obtain ⟨B, hB, hfit⟩ := hroom
  obtain ⟨hrefs, hrel⟩ := hP.release b h B hB
  refine ⟨B, hB, ?_⟩
  simp only [release_storage, hb, hrefs]
  split
  · have hroom' : Room (blocks (P.release b h).2) b v.mItemSize (0 + v.mCount) :=
      ⟨_, by rw [hrel, Function.update_self], by simpa using hfit⟩
    obtain ⟨C, item, _, hw, _⟩ := _do_destroy_spec (p := ⟨b, 0⟩) hP hroom'
    rw [hP.dealloc, hw, Function.update_idem, hrel, Function.update_idem]
  · rw [hrel]

/-! ### Sources -/

omit [DecidableEq Addr] in
theorem source_block? (i : ℕ) : (v.source i : Source Addr α).block? = v.mStorage := by
  cases hst : v.mStorage <;> simp [source, hst, Source.block?, Source.place?]

omit [DecidableEq Addr] in
theorem reads_source {m : Blocks Addr α} {i : ℕ} {xs : List α} (hnull : v.mStorage = none → xs = [])
    (hslots : ∀ b, v.mStorage = some b → Slots m b v.mItemSize i xs) :
      Reads m v.mItemSize (v.source i) xs := by
  cases hst : v.mStorage with
  | none => simpa [Reads, source, hst] using hnull hst
  | some b =>
    simp only [Reads, source, hst]
    exact fun _ => hslots b hst

omit [DecidableEq Addr] in
/-- A source can be read as long as its block holds what it held. -/
theorem reads_of_slots {m m' : Blocks Addr α} {s : ℕ} {src : Source Addr α} {xs : List α}
    (hsrc : Reads m s src xs)
    (hkeep : xs ≠ [] → ∀ c i, src.block? = some c → Slots m c s i xs → Slots m' c s i xs) :
    Reads m' s src xs := by
  cases src with
  | null => exact hsrc
  | place p => exact fun hne => hkeep hne p.block p.index rfl (hsrc hne)
  | array items => exact hsrc

/-! ### A storage of one's own -/

/-- The end of every move to new storage: once the list is in a new buffer, the old one is given
back. -/
theorem Stores.moved (hP : P.Contract blocks blank) (hs : Stores P blocks o v h l)
    {h₁ h₂ : Heap} {n : ℕ} (halloc : Allocates (blocks h) b n (blocks h₁))
    (howned : Owned P.limit (o + own v.mStorage + own (some b)) (blocks h₂))
    (hkeeps : Keeps (o + own v.mStorage) (blocks h₁) (blocks h₂))
    (hslots : Slots (blocks h₂) b v.mItemSize 0 l') :
    o b = 0 ∧ Keeps (own (some b)) (blocks h₂) (blocks (v.release_storage P h₂)) ∧
      Updates P blocks o v h { v with mStorage := some b, mCount := l'.length }
        (v.release_storage P h₂) l' := by
  -- the new storage belongs to nobody yet
  have hnew : o b = 0 ∧ own v.mStorage b = 0 := by simpa using halloc.uncounted hs.owned
  have hall : Keeps (o + own v.mStorage) (blocks h) (blocks h₂) := (halloc.keeps _).trans hkeeps
  have hall' : Keeps o (blocks h) (blocks h₂) := hall.mono fun c => Nat.le_add_right _ _
  refine ⟨hnew.1, ?_⟩
  cases hst : v.mStorage with
  | none =>
    have hrel : v.release_storage P h₂ = h₂ := by simp [release_storage, hst]
    rw [hrel]
    refine ⟨Keeps.refl, ⟨?_, rfl, hs.itemSize_pos, by simp, ?_⟩, hall', rfl, rfl⟩
    · simpa [hst] using howned
    · rintro c ⟨⟩
      exact hslots
  | some c =>
    have hne : b ≠ c := fun heq => by simp [hst, heq] at hnew
    -- the old storage still has the items when it is released
    have hold : Slots (blocks h₂) c v.mItemSize 0 l := hall.slots (by simp [hst]) (hs.slots c hst)
    have hrel := release_storage_releases hP hst (h := h₂) (by simpa [hs.count] using hold.room)
    have hcount : Owned P.limit (o + own (some b) + own (some c)) (blocks h₂) := by
      rwa [hst, add_right_comm] at howned
    have hkeep := hrel.keeps hcount
    refine ⟨hkeep.mono fun d => Nat.le_add_left _ _,
      ⟨hrel.owned hcount, rfl, hs.itemSize_pos, by simp, ?_⟩,
      hall'.trans (hkeep.mono fun d => Nat.le_add_right _ _), rfl, rfl⟩
    rintro d ⟨⟩
    exact hrel.slots hne hslots

/-- The vector gets a buffer that no one else has, which is as large. If it had one to itself it
keeps that; otherwise the items are copied. -/
theorem editArrayImpl_spec (hP : P.Contract blocks blank) (hs : Stores P blocks o v h l)
    (he : v.editArrayImpl P h = some (v', h')) :
    Updates P blocks o v h v' h' l ∧ (v'.mStorage = none ↔ v.mStorage = none) ∧
      ∀ c, v'.mStorage = some c → o c = 0 ∧ ∀ n ≤ v.capacity P h,
        Room (blocks h') c v.mItemSize n := by
  cases hst : v.mStorage with
  -- no storage: there is nothing to make one's own
  | none =>
    simp only [editArrayImpl, hst, Option.some.injEq, Prod.mk.injEq] at he
    obtain ⟨rfl, rfl⟩ := he
    exact ⟨hs.unchanged rfl, by simp [hst], by simp [hst]⟩
  | some c =>
    -- the storage is counted once for each vector that shares it
    obtain ⟨B, hB, hfit, hitem⟩ := hs.slots c hst
    obtain ⟨C, hC, hrefs, hlt⟩ := hs.owned c (by simp [hst])
    obtain rfl : B = C := Option.some.inj (hB.symm.trans hC)
    simp only [editArrayImpl, hst, hP.attemptEdit c h B hB, hP.size c h B hB] at he
    split at he
    · -- the only owner
      rename_i hsome
      simp only [Option.some.injEq, Prod.mk.injEq] at he
      obtain ⟨rfl, rfl⟩ := he
      refine ⟨hs.unchanged rfl, by simp [hst], fun d hd => ?_⟩
      obtain rfl : c = d := Option.some.inj (hst.symm.trans hd)
      -- `attemptEdit` gives the buffer back only to its single owner
      have hone : B.refs = 1 := by
        by_contra hne
        simp [hne] at hsome
      exact ⟨by simpa [hst, hone] using hrefs, fun n hn => (hs.le_capacity_iff hP hst).mp hn⟩
    · -- a copy of the buffer, which is as large
      simp only [Option.bind_eq_bind, Option.bind_eq_some_iff, Prod.exists] at he
      obtain ⟨sb, h₁, halloc, d, rfl, he⟩ := he
      simp only [Option.some.injEq, Prod.mk.injEq] at he
      obtain ⟨rfl, rfl⟩ := he
      obtain ⟨_, hnew⟩ := hP.alloc_some _ _ _ _ halloc
      have hun : o d = 0 ∧ own v.mStorage d = 0 := by simpa using hnew.uncounted hs.owned
      -- the new buffer is another one, so the items can be copied
      have hne : d ≠ c := fun heq => by simp [hst, heq] at hun
      have hsrc : Reads (blocks h₁) v.mItemSize (v.source 0) l :=
        reads_source hs.null fun e he => hnew.slots (hs.slots e he)
      obtain ⟨hw, hcopied⟩ := _do_copy_spec (p := ⟨d, 0⟩) hP (hnew.room hfit) hsrc
        (fun _ => by simpa [source_block?, hst] using hne.symm) hs.itemSize_pos
        (hs.lt_limit hst (by simpa using (hs.slots c hst).room))
      -- the allocation and the copy leave the buffers of the others alone
      have howned := hw.owned (hnew.owned hlt hs.owned)
      obtain ⟨hsole, hkeep, hup⟩ := hs.moved hP hnew howned (hw.keeps (by simp [hun])) hcopied
      rw [hs.count]
      refine ⟨hup, by simp, ?_⟩
      rintro e ⟨⟩
      -- the new buffer has the size of the old, so the same number of items fits
      refine ⟨hsole, fun n hn => hkeep.room (by simp) (hw.room (hnew.room ?_))⟩
      obtain ⟨C, hC, hn⟩ := (hs.le_capacity_iff hP hst).mp hn
      obtain rfl : B = C := Option.some.inj (hB.symm.trans hC)
      exact hn

/-- A copy that is left out when there is nothing to copy. -/
theorem copy_if_spec (hP : P.Contract blocks blank) {c : Prop} [Decidable c]
    {p : Place Addr} {num : ℕ}
    {src : Source Addr α} {xs : List α} (hnum : num = xs.length) (hc : ¬ c → xs = [])
    (hroom : Room (blocks h) p.block v.mItemSize (p.index + xs.length))
    (hsrc : Reads (blocks h) v.mItemSize src xs) (hne : xs ≠ [] → src.block? ≠ some p.block)
    (hpos : 0 < v.mItemSize) (hlt : xs.length * v.mItemSize < P.limit) :
    Writes (blocks h) p.block v.mItemSize p.index xs.length
        (blocks (if c then v._do_copy P p src num h else h)) ∧
      Slots (blocks (if c then v._do_copy P p src num h else h)) p.block v.mItemSize
        p.index xs := by
  subst hnum
  split
  · exact _do_copy_spec hP hroom hsrc hne hpos hlt
  · rename_i hfalse
    have hnil := hc hfalse
    subst hnil
    exact ⟨writes_same hroom, Slots.nil hroom⟩

/-- New storage begins with the items before `pos`, and has at `dest` those that were at `src`. The
old storage is given back. -/
theorem replaceStorage_spec (hP : P.Contract blocks blank) (hs : Stores P blocks o v h l)
    {newSize pos total src dest : ℕ} {suf : List α} {res : Option (VectorImpl Addr)}
    (hpos : pos ≤ dest)
    (htotal : total = pos + suf.length) (hle : total ≤ l.length)
    (hsuf : Reads (blocks h) v.mItemSize (v.source src) suf)
    (hsize : (dest + suf.length) * v.mItemSize ≤ newSize)
    (he : v.replaceStorage P newSize pos total src dest h = some (res, h')) :
    (res = none ∧ P.alloc newSize h = some (none, h')) ∨
      ∃ b gap l', res = some { v with mStorage := some b } ∧ l' = l.take pos ++ gap ++ suf ∧
        gap.length = dest - pos ∧ o b = 0 ∧
        Updates P blocks o v h { v with mStorage := some b, mCount := l'.length } h' l' := by
  simp only [replaceStorage, Option.bind_eq_bind, Option.bind_eq_some_iff, Prod.exists] at he
  obtain ⟨sb, h₁, halloc, he⟩ := he
  cases sb with
  -- no memory: the vector keeps what it has
  | none =>
    simp only [Option.some.injEq, Prod.mk.injEq] at he
    obtain ⟨rfl, rfl⟩ := he
    exact .inl ⟨rfl, halloc⟩
  | some b =>
    simp only [Option.some.injEq, Prod.mk.injEq] at he
    obtain ⟨rfl, rfl⟩ := he
    obtain ⟨hlim, hnew⟩ := hP.alloc_some _ _ _ _ halloc
    -- a buffer that was just allocated is nobody's yet
    have hun : o b = 0 ∧ own v.mStorage b = 0 := by simpa using hnew.uncounted hs.owned
    have hst : v.mStorage ≠ some b := fun heq => by simp [heq] at hun
    have hroom : Room (blocks h₁) b v.mItemSize (dest + suf.length) := hnew.room hsize
    -- no product of the source reaches the limit, as all of them stay below the new size
    have hlt : ∀ n ≤ dest + suf.length, n * v.mItemSize < P.limit := fun n hn =>
      ((Nat.mul_le_mul_right _ hn).trans hsize).trans_lt hlim
    have hpre : (l.take pos).length = pos := by simp; omega
    -- the first copy
    have hsrc : Reads (blocks h₁) v.mItemSize (v.source 0) (l.take pos) :=
      reads_source (fun hnull => by simp [hs.null hnull]) fun c hc =>
        hnew.slots ((hs.slots c hc).take pos)
    obtain ⟨hw₁, hslots₁⟩ := copy_if_spec (v := v) (h := h₁) (c := pos ≠ 0) (p :=
      ⟨b, 0⟩) hP hpre.symm
      (fun h0 => by simp_all) (hroom.mono (by simp only [hpre]; omega)) hsrc
      (fun _ => by rwa [source_block?]) hs.itemSize_pos (hlt _ (by omega))
    generalize hh₂ : (if pos ≠ 0 then v._do_copy P ⟨b, 0⟩ (v.source 0) pos h₁ else h₁) =
      h₂ at hw₁ hslots₁ ⊢
    -- the second one
    have hsrc₂ : Reads (blocks h₂) v.mItemSize (v.source src) suf :=
      -- the old storage is still there: it is released only after both copies
      reads_of_slots hsuf fun _ c i hc hslots => by
        rw [source_block?] at hc
        exact hw₁.slots_of_ne (by rintro rfl; exact hst hc) (hnew.slots hslots)
    have hnum : P.sub total pos = suf.length := by
      rw [sub_of_le hP (by omega) (hle.trans_lt hs.length_lt)]
      omega
    obtain ⟨hw₂, hslots₂⟩ := copy_if_spec (v := v) (h := h₂) (c := pos ≠ total) (p :=
      ⟨b, dest⟩) hP hnum
      (fun h0 => List.eq_nil_of_length_eq_zero (by omega)) (hw₁.room hroom) hsrc₂
      (fun _ => by rwa [source_block?]) hs.itemSize_pos (hlt _ (by omega))
    generalize (if pos ≠ total then v._do_copy P ⟨b, dest⟩ (v.source src) (P.sub total pos) h₂
      else h₂) = h₃
      at hw₂ hslots₂ ⊢
    -- what is between them is whatever the buffer has there
    have hfirst : Slots (blocks h₃) b v.mItemSize 0 (l.take pos) :=
      hw₂.slots hslots₁ (by simp only; omega)
    obtain ⟨gap, hgap, hbetween⟩ := Slots.ofRoom (n := dest - pos)
      ((hw₂.room (hw₁.room hroom)).mono (show pos + (dest - pos) ≤ dest + suf.length by omega))
    have hjoin : Slots (blocks h₃) b v.mItemSize 0 (l.take pos ++ gap ++ suf) :=
      (hfirst.append (by rwa [hpre, Nat.zero_add])).append
        (by rwa [List.length_append, hpre, hgap, Nat.zero_add, Nat.add_sub_cancel' hpos])
    -- nothing that another vector owns was written
    have howned := hw₂.owned (hw₁.owned (hnew.owned hlim hs.owned))
    have hkeeps : Keeps (o + own v.mStorage) (blocks h₁) (blocks h₃) :=
      (hw₁.keeps (by simp [hun])).trans (hw₂.keeps (by simp [hun]))
    obtain ⟨hsole, _, hup⟩ := hs.moved hP hnew howned hkeeps hjoin
    exact .inr ⟨b, gap, _, rfl, rfl, hgap, hsole, hup⟩

/-- Resized storage begins with the items that fit. It is the vector's alone, so resizing it hurts
nobody, and behind the items there is room for what the new size adds. -/
theorem resizeStorage_spec (hP : P.Contract blocks blank) (hs : Stores P blocks o v h l)
    (hb : v.mStorage = some b) (keep total : ℕ) {newSize : ℕ} {res : Option (VectorImpl Addr)}
    (hkeep : keep ≤ l.length) (htotal : keep ≤ total) (hsize : total * v.mItemSize ≤ newSize)
    (he : v.resizeStorage P b newSize h = some (res, h')) :
    (res = none ∧ P.editResize b newSize h = some (none, h')) ∨
      ∃ c gap l', res = some { v with mStorage := some c } ∧ l' = l.take keep ++ gap ∧
        gap.length = total - keep ∧ o c = 0 ∧
        Updates P blocks o v h { v with mStorage := some c, mCount := l'.length } h' l' := by
  simp only [resizeStorage, Option.bind_eq_bind, Option.bind_eq_some_iff, Prod.exists] at he
  obtain ⟨sb, h₁, hresize, he⟩ := he
  simp only [Option.some.injEq, Prod.mk.injEq] at he
  obtain ⟨rfl, rfl⟩ := he
  cases sb with
  -- `editResize` refused: the vector keeps its storage
  | none => exact .inl ⟨rfl, hresize⟩
  | some c =>
    obtain ⟨B, hB, hfit, hitem⟩ := hs.slots b hb
    obtain ⟨hlim, m, item, hrel, hfree, hblocks, hsame⟩ := hP.editResize_some _ _ _ _ _ B hB hresize
    -- the buffer is this vector's alone, so resizing it hurts nobody
    have howned : Owned P.limit (o + own (some b)) (blocks h) := hb ▸ hs.owned
    have hnew : Allocates m c newSize (blocks h₁) := ⟨hfree, item, hblocks⟩
    have hpre : (l.take keep).length = keep := by simp; omega
    have hroom : Room (blocks h₁) c v.mItemSize total := hnew.room hsize
    -- what the two sizes share is kept, so the items are
    have hfirst : Slots (blocks h₁) c v.mItemSize 0 (l.take keep) := by
      refine ⟨_, by rw [hblocks, Function.update_self], ?_, fun k a hk => ?_⟩
      · simp only [hpre, Nat.zero_add]
        exact (Nat.mul_le_mul_right _ htotal).trans hsize
      · have hlt : k < keep := by
          have := (List.getElem?_eq_some_iff.mp hk).1
          omega
        have hold := hitem k a (by rw [List.getElem?_take_of_lt hlt] at hk; exact hk)
        rw [← hold]
        refine hsame _ _ (Nat.le_min.mpr ⟨?_, ?_⟩)
        · exact (Nat.mul_le_mul_right _ (by omega)).trans hsize
        · exact (Nat.mul_le_mul_right _ (by omega)).trans hfit
    -- behind them there is room for what the new size adds
    obtain ⟨gap, hgap, hrest⟩ := Slots.ofRoom (n := total - keep)
      (hroom.mono (show keep + (total - keep) ≤ total by omega))
    have hjoin : Slots (blocks h₁) c v.mItemSize 0 (l.take keep ++ gap) :=
      hfirst.append (by rwa [hpre, Nat.zero_add])
    refine .inr ⟨c, gap, _, rfl, rfl, hgap, hnew.uncounted (hrel.owned howned), ?_⟩
    refine ⟨⟨hnew.owned hlim (hrel.owned howned), rfl, hs.itemSize_pos, by simp, ?_⟩,
      (hrel.keeps howned).trans (hnew.keeps o), rfl, rfl⟩
    rintro d ⟨⟩
    exact hjoin

/-! ### Writes to a storage of one's own -/

/-- The end of every write to the vector's own storage. No one else has it, so no other vector is
changed. -/
theorem Stores.written (hs : Stores P blocks o v h l) (hb : v.mStorage = some b)
    (hsole : o b = 0) {i n : ℕ}
    (hw : Writes (blocks h) b v.mItemSize i n (blocks h'))
    (hslots : Slots (blocks h') b v.mItemSize 0 l') :
    Updates P blocks o v h { v with mCount := l'.length } h' l' := by
  refine ⟨⟨hw.owned hs.owned, rfl, hs.itemSize_pos, fun hnull => ?_, fun c hc => ?_⟩,
    hw.keeps hsole, rfl, rfl⟩
  · rw [hb] at hnull
    cases hnull
  · obtain rfl : b = c := Option.some.inj (hb.symm.trans hc)
    exact hslots

/-- A part of the list is written over. -/
theorem Stores.filled {pre gap suf ys : List α} (hs : Stores P blocks o v h (pre ++ gap ++ suf))
    (hb : v.mStorage = some b) (hsole : o b = 0) (hlen : ys.length = gap.length)
    (hw : Writes (blocks h) b v.mItemSize pre.length gap.length (blocks h'))
    (hslots : Slots (blocks h') b v.mItemSize pre.length ys) :
    Updates P blocks o v h v h' (pre ++ ys ++ suf) := by
  have hold := hs.slots b hb
  -- what is before the gap and behind it was not written
  have hpre : Slots (blocks h') b v.mItemSize 0 pre := hw.slots hold.left.left (by omega)
  have hsuf : Slots (blocks h') b v.mItemSize (pre.length + ys.length) suf := by
    have hafter := hold.right
    rw [List.length_append, Nat.zero_add, ← hlen] at hafter
    exact hw.slots hafter (by omega)
  have hjoin : Slots (blocks h') b v.mItemSize 0 (pre ++ ys ++ suf) :=
    (hpre.append (by rwa [Nat.zero_add])).append (by rwa [List.length_append, Nat.zero_add])
  have hup := hs.written hb hsole hw hjoin
  -- the gap has the length of what was put into it, so the count is right already
  have hcount : (pre ++ ys ++ suf).length = v.mCount := by
    rw [hs.count]
    simp [hlen]
  rwa [hcount] at hup

/-! ### `_grow` -/

omit [DecidableEq Addr] in
theorem checkedAdd_eq_some {a c n : ℕ} (he : P.checkedAdd a c = some n) :
    n = a + c ∧ n < 2 ^ P.wordBits := by
  unfold Platform.checkedAdd at he
  split at he
  · obtain rfl := Option.some.inj he
    exact ⟨rfl, by assumption⟩
  · cases he

omit [DecidableEq Addr] in
theorem checkedMul_eq_some {a c n : ℕ} (he : P.checkedMul a c = some n) : n = a * c := by
  unfold Platform.checkedMul at he
  split at he
  · exact (Option.some.inj he).symm
  · cases he

omit [DecidableEq Addr] in
theorem le_grownCapacity {n c : ℕ} (he : grownCapacity P n = some c) : n ≤ c := by
  simp only [grownCapacity, Option.bind_eq_bind, Option.bind_eq_some_iff, Option.some.injEq] at he
  obtain ⟨c₁, h₁, c₂, h₂, rfl⟩ := he
  obtain ⟨rfl, _⟩ := checkedAdd_eq_some h₁
  obtain ⟨rfl, _⟩ := checkedAdd_eq_some h₂
  omega

/-- `_grow` where the storage is too small. The new storage has the items with a gap at `pos`; none
of the sums wraps around, as they stay below the new size. -/
theorem growStorage_spec (hP : P.Contract blocks blank) (hs : Stores P blocks o v h l)
    {pos amount new_size : ℕ}
    {res : Option (VectorImpl Addr)} (hpos : pos ≤ l.length) (hnew : new_size = l.length + amount)
    (hlt : new_size < 2 ^ P.wordBits)
    (he : v.growStorage P pos amount new_size h = some (res, h')) :
    (res = none ∧ P.Refuses ∧ blocks h' = blocks h) ∨
      ∃ b gap l', res = some { v with mStorage := some b } ∧ l' = l.take pos ++ gap ++ l.drop pos ∧
        gap.length = amount ∧ o b = 0 ∧
        Updates P blocks o v h { v with mStorage := some b, mCount := l'.length } h' l' := by
  simp only [growStorage, Option.bind_eq_bind, Option.bind_eq_some_iff] at he
  -- the size in bytes was computed without an overflow, or the process was ended
  obtain ⟨new_capacity, hcap, size, hsize, he⟩ := he
  obtain rfl := checkedMul_eq_some hsize
  have hle : new_size * v.mItemSize ≤ new_capacity * v.mItemSize :=
    Nat.mul_le_mul_right _ (le_grownCapacity hcap)
  have hdrop : (l.drop pos).length = l.length - pos := List.length_drop
  -- the storage is replaced, whether there was any or not
  have hreplace : v.replaceStorage P (new_capacity * v.mItemSize) pos v.mCount pos
      (P.add pos amount) h =
      some (res, h') → (res = none ∧ P.Refuses ∧ blocks h' = blocks h) ∨
      ∃ b gap l', res = some { v with mStorage := some b } ∧ l' = l.take pos ++ gap ++ l.drop pos ∧
        gap.length = amount ∧ o b = 0 ∧
        Updates P blocks o v h { v with mStorage := some b, mCount := l'.length } h' l' := by
    intro he
    -- the sum stays below the new size, so it does not wrap around
    have hadd : P.add pos amount = pos + amount := Nat.mod_eq_of_lt (by omega)
    rw [hadd] at he
    -- the items from `pos` on are read from the old storage
    have hsuf : Reads (blocks h) v.mItemSize (v.source pos) (l.drop pos) :=
      reads_source (fun hnull => by simp [hs.null hnull]) fun c hc => by
        have hslots := (hs.slots c hc).drop hpos
        rwa [Nat.zero_add] at hslots
    rcases replaceStorage_spec hP hs (Nat.le_add_right pos amount)
        (by rw [hs.count, hdrop]; omega) hs.count.le hsuf
        (by rw [hdrop, show pos + amount + (l.length - pos) = new_size by omega]; exact hle) he with
      ⟨hnone, halloc⟩ | ⟨b, gap, l', hres, hl', hgap, hrest⟩
    · exact .inl ⟨hnone, .inl ⟨_, _, _, halloc⟩, hP.alloc_null _ _ _ halloc⟩
    · exact .inr ⟨b, gap, l', hres, hl', by omega, hrest⟩
  cases hst : v.mStorage with
  -- without storage a new one is made
  | none =>
    rw [hst] at he
    exact hreplace he
  | some c =>
    rw [hst] at he
    simp only at he
    split at he
    · -- trivial items, and the free space is at the end
      rename_i htriv
      have hall : pos = l.length := htriv.1.symm.trans hs.count
      rcases resizeStorage_spec hP hs hst l.length new_size le_rfl (by omega) hle he with
        ⟨hnone, hresize⟩ | ⟨b, gap, l', hres, hl', hgap, hrest⟩
      · exact .inl ⟨hnone, .inr ⟨_, _, _, _, hresize⟩, hP.editResize_null _ _ _ _ hresize⟩
      · refine .inr ⟨b, gap, l', hres, ?_, by omega, hrest⟩
        simpa [hall] using hl'
    · -- with items that need a copy constructor it is replaced as well
      exact hreplace he

/-- `_grow` where there is room. The storage is made the vector's own first, and then the items from
`pos` on move behind the gap, which holds whatever was there. -/
theorem growInPlace_spec (hP : P.Contract blocks blank) (hs : Stores P blocks o v h l)
    {pos amount : ℕ} (hpos : pos ≤ l.length) (hcap : l.length + amount ≤ v.capacity P h)
    (he : v.growInPlace P pos amount h = some (v', h')) :
    (v'.mStorage = none ∧ v.mStorage = none ∧ Updates P blocks o v h v' h' l) ∨
      ∃ b gap l', v'.mStorage = some b ∧ l' = l.take pos ++ gap ++ l.drop pos ∧
        gap.length = amount ∧ o b = 0 ∧
        Updates P blocks o v h { v' with mCount := l'.length } h' l' := by
  simp only [growInPlace, Option.bind_eq_bind, Option.bind_eq_some_iff, Prod.exists] at he
  -- first the storage is made the vector's own
  obtain ⟨v₁, h₁, hedit, he⟩ := he
  obtain ⟨hup, hnull, hown⟩ := editArrayImpl_spec hP hs hedit
  cases hst : v₁.mStorage with
  -- no storage: nothing to move
  | none =>
    simp only [hst, Option.some.injEq, Prod.mk.injEq] at he
    obtain ⟨rfl, rfl⟩ := he
    exact .inl ⟨hst, hnull.mp hst, hup⟩
  | some b =>
    obtain ⟨hsole, hlarge⟩ := hown b hst
    -- there is room in the storage, which is the vector's own now
    have hroom : Room (blocks h₁) b v₁.mItemSize (l.length + amount) := hup.itemSize ▸ hlarge _ hcap
    have hslots := hup.stores.slots b hst
    have hpre : (l.take pos).length = pos := by simp; omega
    have hlen : (l.drop pos).length = l.length - pos := List.length_drop
    -- neither the difference nor the sum of the source wraps around
    have hsub : P.sub v₁.mCount pos = (l.drop pos).length := by
      rw [hup.stores.count, hlen]
      exact sub_of_le hP hpos hs.length_lt
    have hadd : P.add pos amount = pos + amount := by
      have hbound := hup.stores.lt_limit hst hroom
      have hle := Nat.le_mul_of_pos_right (l.length + amount) hup.stores.itemSize_pos
      exact add_of_lt hP (by omega)
    rw [hst] at he
    simp only [hsub, hadd] at he
    -- whichever way, the items from `pos` on are now at `pos + amount`
    obtain ⟨hv, n, hw, hsuf⟩ : v₁ = v' ∧ ∃ n, Writes (blocks h₁) b v₁.mItemSize pos n (blocks h') ∧
        Slots (blocks h') b v₁.mItemSize (pos + amount) (l.drop pos) := by
      have hdrop : Slots (blocks h₁) b v₁.mItemSize pos (l.drop pos) := by
        simpa using hslots.drop hpos
      split at he
      · -- the items behind the gap are moved up, the last one first
        simp only [Option.some.injEq, Prod.mk.injEq] at he
        obtain ⟨rfl, rfl⟩ := he
        obtain ⟨hw, hmoved⟩ := hP.do_move_forward v₁.mItemSize b pos amount (l.drop pos) h₁ hdrop
          (hroom.mono (by omega))
        exact ⟨rfl, _, hw, hmoved⟩
      · -- nothing is after `pos`, so nothing moves
        rename_i hall
        simp only [Option.some.injEq, Prod.mk.injEq] at he
        obtain ⟨rfl, rfl⟩ := he
        have hnil : l.drop pos = [] := List.drop_eq_nil_of_le (by have := hup.stores.count; omega)
        refine ⟨rfl, 0, writes_same (hroom.mono (by omega)), ?_⟩
        rw [hnil]
        exact Slots.nil (hroom.mono (by omega))
    subst hv
    -- the items before the gap have not been touched
    have hfirst : Slots (blocks h') b v₁.mItemSize 0 (l.take pos) :=
      hw.slots (hslots.take pos) (by omega)
    obtain ⟨gap, hgap, hbetween⟩ := Slots.ofRoom (n := amount)
      ((hw.room hroom).mono (show pos + amount ≤ l.length + amount by omega))
    have hjoin : Slots (blocks h') b v₁.mItemSize 0 (l.take pos ++ gap ++ l.drop pos) :=
      (hfirst.append (by rwa [hpre, Nat.zero_add])).append
        (by rwa [List.length_append, hpre, hgap, Nat.zero_add])
    -- the gap holds whatever was there, and it is written by the caller
    exact .inr ⟨b, gap, _, hst, rfl, hgap, hsole, hup.trans (hup.stores.written hst hsole hw hjoin)⟩

/-- The place of the free space. -/
theorem Stores.itemLocation_eq (hP : P.Contract blocks blank) (hs : Stores P blocks o v h l)
    (hb : v.mStorage = some b) {pos : ℕ} (hpos : pos < l.length) :
    v.itemLocation P pos h = some ⟨b, pos⟩ := by
  have hcap : l.length ≤ v.capacity P h :=
    (hs.le_capacity_iff hP hb).mpr (by simpa using (hs.slots b hb).room)
  simp [itemLocation, hb, hpos.trans_le hcap]

/-- **The specification of `_grow`.** There is free space in the list, in storage of the vector's
own; or null is returned, because there is no memory or no space was asked for, and the list is what
it was. -/
theorem _grow_spec (hP : P.Contract blocks blank) (hs : Stores P blocks o v h l) {pos amount : ℕ}
    {res : Option (Place Addr)} (hpos : pos ≤ l.length)
    (he : v._grow P pos amount h = some (res, v', h')) :
    (res = none ∧ (amount = 0 ∨ P.Refuses) ∧ Updates P blocks o v h v' h' l) ∨
      ∃ b gap, res = some ⟨b, pos⟩ ∧ v'.mStorage = some b ∧ o b = 0 ∧ gap.length = amount ∧
        Updates P blocks o v h v' h' (l.take pos ++ gap ++ l.drop pos) := by
  simp only [_grow, Option.bind_eq_bind, Option.bind_eq_some_iff] at he
  obtain ⟨new_size, hadd, he⟩ := he
  -- `size() + amount` did not overflow, or the process was ended
  obtain ⟨rfl, hlt⟩ := checkedAdd_eq_some hadd
  -- the vector with the new count, once there is free space in it
  have hdone : ∀ (w : VectorImpl Addr) b gap l', w.mStorage = some b →
      l' = l.take pos ++ gap ++ l.drop pos →
      gap.length = amount → o b = 0 → Updates P blocks o v h { w with mCount := l'.length } h' l' →
      v' = { w with mCount := v.mCount + amount } → res = v'.itemLocation P pos h' →
      (res = none ∧ (amount = 0 ∨ P.Refuses) ∧ Updates P blocks o v h v' h' l) ∨
      ∃ b gap, res = some ⟨b, pos⟩ ∧ v'.mStorage = some b ∧ o b = 0 ∧ gap.length = amount ∧
        Updates P blocks o v h v' h' (l.take pos ++ gap ++ l.drop pos) := by
    intro w b gap l' hw hl' hgap hsole hup hv' hres
    -- the count is set only here, after the storage has grown
    have hlen : l'.length = v.mCount + amount := by
      rw [hl', hs.count]
      simp
      omega
    rw [hlen, ← hv'] at hup
    have hst' : v'.mStorage = some b := by rw [hv', hw]
    rcases Nat.eq_zero_or_pos amount with h0 | hpos'
    · -- no space was asked for, and null is returned when the storage ends there
      have hnil : gap = [] := List.eq_nil_of_length_eq_zero (hgap.trans h0)
      have hsame : l' = l := by simp [hl', hnil]
      rw [hres, itemLocation]
      split
      · exact .inr ⟨b, gap, by simp [hst'], hst', hsole, hgap, hl' ▸ hup⟩
      · exact .inl ⟨rfl, .inl h0, hsame ▸ hup⟩
    · -- with space asked for the place is inside the storage
      have hin : pos < l'.length := by rw [hlen, hs.count]; omega
      exact .inr
        ⟨b, gap, by rw [hres, hup.stores.itemLocation_eq hP hst' hin], hst', hsole, hgap, hl' ▸ hup⟩
  split at he
  · -- the storage is too small
    simp only [Option.bind_eq_some_iff, Prod.exists] at he
    obtain ⟨grown, h₁, hgrow, he⟩ := he
    rcases growStorage_spec hP hs hpos (by rw [hs.count]) hlt hgrow with
      ⟨rfl, hrefuses, hh⟩ | ⟨b, gap, l', rfl, hl', hgap, hsole, hup⟩
    · -- no memory: null is returned and the vector is as it was
      simp only [Option.some.injEq, Prod.mk.injEq] at he
      obtain ⟨rfl, rfl, rfl⟩ := he
      exact .inl ⟨rfl, .inr hrefuses, hs.unchanged hh⟩
    · -- the grown storage has the gap where it was asked for
      simp only [Option.some.injEq, Prod.mk.injEq] at he
      obtain ⟨rfl, rfl, rfl⟩ := he
      exact hdone { v with mStorage := some b } b gap l' rfl hl' hgap hsole hup rfl rfl
  · -- the storage is large enough
    rename_i hcap
    simp only [Option.bind_eq_some_iff, Prod.exists, Option.some.injEq, Prod.mk.injEq] at he
    obtain ⟨v₁, h₁, hgrow, rfl, rfl, rfl⟩ := he
    rcases growInPlace_spec hP hs hpos (by have := hs.count; omega) hgrow with
      ⟨hnull, hnull₀, hup⟩ | ⟨b, gap, l', hst, hl', hgap, hsole, hup⟩
    · -- no storage, so no space was asked for
      have h0 : amount = 0 := by
        have hzero : v.capacity P h = 0 := by simp [capacity, hnull₀]
        omega
      have hsame : ({ v₁ with mCount := v.mCount + amount } : VectorImpl Addr) = v₁ := by
        have hcount : v₁.mCount = v.mCount := hup.stores.count.trans hs.count.symm
        rw [h0, Nat.add_zero, ← hcount]
      rw [hsame]
      exact .inl ⟨by simp [itemLocation, hnull], .inl h0, hup⟩
    · exact hdone v₁ b gap l' hst hl' hgap hsole hup rfl rfl

/-! ### `_shrink` -/

/-- There is no memory for the smaller storage that `_shrink` asks for. Then the items that were to
be removed are still there. -/
def ShrinkFails (P : Platform Heap Addr α) (v : VectorImpl Addr) (pos amount : ℕ)
    (h : Heap) : Prop :=
  ∃ b h', v.mStorage = some b ∧ v.mCount - amount < v.capacity P h / 2 ∧
    if pos = v.mCount - amount ∧ v.trivial then
      P.editResize b (v.shrunkSize P (v.mCount - amount)) h = some (none, h')
    else P.alloc (v.shrunkSize P (v.mCount - amount)) h = some (none, h')

omit [DecidableEq Addr] in
theorem ShrinkFails.refuses {pos amount : ℕ} (hf : v.ShrinkFails P pos amount h) : P.Refuses := by
  obtain ⟨b, h', _, _, hcall⟩ := hf
  split at hcall
  · exact .inr ⟨_, _, _, _, hcall⟩
  · exact .inl ⟨_, _, _, hcall⟩

/-- The size of the smaller storage does not overflow. -/
theorem le_shrunkSize (hP : P.Contract blocks blank) (hs : Stores P blocks o v h l)
    (hb : v.mStorage = some b) {new_size : ℕ} (hlt : new_size < v.capacity P h / 2) :
    new_size * v.mItemSize ≤ v.shrunkSize P new_size := by
  have hroom : Room (blocks h) b v.mItemSize (v.capacity P h) :=
    (hs.le_capacity_iff hP hb).mp le_rfl
  have hbound := hs.lt_limit hb hroom
  have hcap := Nat.le_mul_of_pos_right (v.capacity P h) hs.itemSize_pos
  have hlim := limit_lt hP
  -- twice the new size is below twice the capacity, so neither product wraps around
  have hdouble : P.mul new_size 2 = new_size * 2 := mul_of_lt hP (by omega)
  have hmax : max kMinVectorCapacity (new_size * 2) ≤ 2 * v.capacity P h := by
    simp only [kMinVectorCapacity]
    omega
  have hsize : max kMinVectorCapacity (new_size * 2) * v.mItemSize < 2 ^ P.wordBits := by
    calc max kMinVectorCapacity (new_size * 2) * v.mItemSize
        ≤ 2 * v.capacity P h * v.mItemSize := Nat.mul_le_mul_right _ hmax
      _ = 2 * (v.capacity P h * v.mItemSize) := Nat.mul_assoc ..
      _ < 2 ^ P.wordBits := by omega
  rw [shrunkSize, hdouble, Platform.mul, Nat.mod_eq_of_lt hsize]
  exact Nat.mul_le_mul_right _ (by omega)

/-- `_shrink` in the storage. It is made the vector's own first; then the items are destroyed, and
those behind them move to `pos`. -/
theorem shrinkInPlace_spec (hP : P.Contract blocks blank) (hs : Stores P blocks o v h l)
    (hb : v.mStorage = some b) {pos amount new_size : ℕ} (hnew : new_size = l.length - amount)
    (hle : pos + amount ≤ l.length) (he : v.shrinkInPlace P pos amount new_size h = some (v', h')) :
    Updates P blocks o v h { v' with mCount := new_size } h'
      (l.take pos ++ l.drop (pos + amount)) := by
  simp only [shrinkInPlace, Option.bind_eq_bind, Option.bind_eq_some_iff, Prod.exists] at he
  obtain ⟨v₁, h₁, hedit, he⟩ := he
  obtain ⟨hup, hnull, hown⟩ := editArrayImpl_spec hP hs hedit
  -- a vector with storage still has some
  obtain ⟨c, hst⟩ : ∃ c, v₁.mStorage = some c := by
    cases hst : v₁.mStorage with
    | none => simp [hnull.mp hst] at hb
    | some c => exact ⟨c, rfl⟩
  obtain ⟨hsole, _⟩ := hown c hst
  have hslots := hup.stores.slots c hst
  -- what stays behind the items that are removed
  have hlen : (l.drop (pos + amount)).length = l.length - (pos + amount) := List.length_drop
  have hpre : (l.take pos).length = pos := by simp; omega
  have hroom : Room (blocks h₁) c v₁.mItemSize l.length := by simpa using hslots.room
  -- the sum and the difference of the source are within the count
  have hadd : P.add pos amount = pos + amount := add_of_lt hP (by have := hs.length_lt; omega)
  have hsub : P.sub new_size pos = (l.drop (pos + amount)).length := by
    rw [hlen, sub_of_le hP (by omega) (by have := hs.length_lt; omega)]
    omega
  rw [hst] at he
  simp only [hadd, hsub] at he
  have hdestroy := _do_destroy_spec (v := v₁) (p := ⟨c, pos⟩) (n := amount) hP (hroom.mono hle)
  have hdrop : Slots (blocks h₁) c v₁.mItemSize (pos + amount) (l.drop (pos + amount)) := by
    simpa using hslots.drop hle
  -- the items after them are not destroyed
  have hrest := hdestroy.slots hdrop (by simp only; omega)
  -- whichever way, the items after those destroyed are now at `pos`
  obtain ⟨hv, n, hw, hmoved⟩ : v₁ = v' ∧ ∃ n, Writes (blocks h₁) c v₁.mItemSize pos n (blocks h') ∧
      Slots (blocks h') c v₁.mItemSize pos (l.drop (pos + amount)) := by
    split at he
    · simp only [Option.some.injEq, Prod.mk.injEq] at he
      obtain ⟨rfl, rfl⟩ := he
      obtain ⟨hw, hmoved⟩ :=
        hP.do_move_backward v₁.mItemSize c pos amount (l.drop (pos + amount)) _ hrest
      exact ⟨rfl, _, (hdestroy.mono (Nat.le_add_right _ _)).trans hw, hmoved⟩
    · -- they were the last ones
      rename_i hall
      simp only [Option.some.injEq, Prod.mk.injEq] at he
      obtain ⟨rfl, rfl⟩ := he
      have hnil : l.drop (pos + amount) = [] := List.drop_eq_nil_of_le (by omega)
      refine ⟨rfl, _, hdestroy, ?_⟩
      rw [hnil]
      exact Slots.nil (hdestroy.room (hroom.mono (by omega)))
  subst hv
  have hfirst : Slots (blocks h') c v₁.mItemSize 0 (l.take pos) :=
    hw.slots (hslots.take pos) (by omega)
  have hjoin := hfirst.append (by rwa [hpre, Nat.zero_add])
  have hcount : (l.take pos ++ l.drop (pos + amount)).length = new_size := by
    rw [List.length_append, hpre, hlen]
    omega
  -- the items before `pos` and the moved ones are the list without those in between
  have hup' := hup.stores.written hst hsole hw hjoin
  rw [hcount] at hup'
  exact hup.trans hup'

/-- **The specification of `_shrink`.** The items are removed, unless there is no memory for smaller
storage. -/
theorem _shrink_spec (hP : P.Contract blocks blank) (hs : Stores P blocks o v h l) {pos amount : ℕ}
    (hle : pos + amount ≤ l.length) (he : v._shrink P pos amount h = some (v', h')) :
    (v.ShrinkFails P pos amount h ∧ Updates P blocks o v h v' h' l) ∨
      Updates P blocks o v h v' h' (l.take pos ++ l.drop (pos + amount)) := by
  cases hst : v.mStorage with
  -- no storage means no items, and the caller asked to remove none
  | none =>
    simp only [_shrink, hst, Option.some.injEq, Prod.mk.injEq] at he
    obtain ⟨rfl, rfl⟩ := he
    have hnil := hs.null hst
    subst hnil
    exact .inr (by simpa using hs.unchanged rfl)
  | some b =>
    -- the subtraction of the source cannot underflow, as the items are there
    have hsub : checkedSub v.mCount amount = some (v.mCount - amount) :=
      if_pos (by have := hs.count; omega)
    have hlen : (l.drop (pos + amount)).length = l.length - (pos + amount) := List.length_drop
    have hpre : (l.take pos).length = pos := by simp; omega
    have hcount : v.mCount = l.length := hs.count
    simp only [_shrink, hst, hsub, Option.bind_eq_bind, Option.bind_some] at he
    split at he
    · -- more than half of the storage would be free
      rename_i hlarge
      simp only [Option.bind_eq_some_iff, Prod.exists] at he
      obtain ⟨shrunk, h₁, hshrink, he⟩ := he
      have hsize := le_shrunkSize hP hs hst hlarge
      -- the count, once the storage is replaced
      have hdone : ∀ c l', l' = l.take pos ++ l.drop (pos + amount) →
          Updates P blocks o v h { v with mStorage := some c, mCount := l'.length } h₁ l' →
          shrunk = some { v with mStorage := some c } →
          Updates P blocks o v h v' h' (l.take pos ++ l.drop (pos + amount)) := by
        intro c l' hl' hup hres
        have hlen' : l'.length = v.mCount - amount := by
          rw [hl', List.length_append, hpre, hlen]
          omega
        rw [hlen'] at hup
        subst hres
        simp only [Option.some.injEq, Prod.mk.injEq] at he
        obtain ⟨rfl, rfl⟩ := he
        exact hl' ▸ hup
      unfold shrinkStorage at hshrink
      split at hshrink
      · -- trivial items, and they are removed at the end
        rename_i htriv
        rcases resizeStorage_spec hP hs hst pos pos (by omega) le_rfl
            (by rw [htriv.1]; exact hsize) hshrink with
          ⟨rfl, hresize⟩ | ⟨c, gap, l', hres, hl', hgap, _, hup⟩
        · -- the smaller storage was refused, and nothing is removed
          simp only [Option.some.injEq, Prod.mk.injEq] at he
          obtain ⟨rfl, rfl⟩ := he
          exact .inl ⟨⟨b, h₁, hst, hlarge, by rw [if_pos htriv]; exact hresize⟩,
            hs.unchanged (hP.editResize_null _ _ _ _ hresize)⟩
        · -- the new storage ends where the removed items were
          have hnil : gap = [] := List.eq_nil_of_length_eq_zero (by omega)
          have hend : l.drop (pos + amount) = [] := List.drop_eq_nil_of_le (by omega)
          exact .inr (hdone c l' (by rw [hl', hnil, hend]) hup hres)
      · -- the items before and after are copied
        rename_i htriv
        have hadd : P.add pos amount = pos + amount := add_of_lt hP (by have := hs.length_lt; omega)
        rw [hadd] at hshrink
        have hsuf : Reads (blocks h) v.mItemSize (v.source (pos + amount))
          (l.drop (pos + amount)) :=
          reads_source (fun hnull => by simp [hs.null hnull]) fun c hc => by
            simpa using (hs.slots c hc).drop hle
        have hroom : pos + (l.length - (pos + amount)) = v.mCount - amount := by omega
        rcases replaceStorage_spec hP hs le_rfl (by rw [hlen]; omega) (by omega) hsuf
            (by rw [hlen, hroom]; exact hsize) hshrink with
          ⟨rfl, halloc⟩ | ⟨c, gap, l', hres, hl', hgap, _, hup⟩
        · -- no memory for the smaller storage: nothing is removed here either
          simp only [Option.some.injEq, Prod.mk.injEq] at he
          obtain ⟨rfl, rfl⟩ := he
          exact .inl ⟨⟨b, h₁, hst, hlarge, by rw [if_neg htriv]; exact halloc⟩,
            hs.unchanged (hP.alloc_null _ _ _ halloc)⟩
        · -- both parts are in the new storage with nothing between them
          have hnil : gap = [] := List.eq_nil_of_length_eq_zero (by omega)
          exact .inr (hdone c l' (by rw [hl', hnil, List.append_nil]) hup hres)
    · -- the storage stays
      simp only [Option.bind_eq_some_iff, Prod.exists, Option.some.injEq, Prod.mk.injEq] at he
      obtain ⟨v₁, h₁, hshrink, rfl, rfl⟩ := he
      exact .inr (shrinkInPlace_spec hP hs hst (by rw [hcount]) hle hshrink)

/-! ### The operations -/

theorem copy_spec (hP : P.Contract blocks blank) {rhs : VectorImpl Addr}
    (hs : Stores P blocks o rhs h l) :
    (copy P rhs h).1 = rhs ∧ Keeps (o + own rhs.mStorage) (blocks h) (blocks (copy P rhs h).2) ∧
      Stores P blocks (o + own rhs.mStorage) (copy P rhs h).1 (copy P rhs h).2 l := by
  unfold copy
  cases hst : rhs.mStorage with
  | none =>
    refine ⟨rfl, Keeps.refl, ?_, hs.count, hs.itemSize_pos, hs.null, hs.slots⟩
    simpa [hst] using hs.owned
  -- the storage gets one more reference, for the copy
  | some b =>
    obtain ⟨B, hB, _⟩ := hs.slots b hst
    have hacq := hP.acquire b h B hB
    have howned : Owned P.limit (o + own (some b)) (blocks h) := hst ▸ hs.owned
    have hkeep : Keeps (o + own (some b)) (blocks h) (blocks (P.acquire b h)) := hacq.keeps _
    refine ⟨rfl, hkeep, ?_, hs.count, hs.itemSize_pos, hs.null, fun c hc => ?_⟩
    · simpa [hst] using hacq.owned (by simp) howned
    · obtain rfl : b = c := Option.some.inj (hst.symm.trans hc)
      exact hkeep.slots (by simp) (hs.slots b hst)

/-- The storage is given back. -/
theorem finish_vector_spec (hP : P.Contract blocks blank) (hs : Stores P blocks o v h l) :
    Updates P blocks o v h (v.finish_vector P h).1 (v.finish_vector P h).2 [] := by
  unfold finish_vector
  cases hst : v.mStorage with
  | none =>
    have hrel : v.release_storage P h = h := by simp [release_storage, hst]
    rw [hrel]
    exact ⟨⟨by simpa [hst] using hs.owned, rfl, hs.itemSize_pos, by simp, by simp⟩,
      Keeps.refl, rfl, rfl⟩
  | some b =>
    have hrel := release_storage_releases hP hst (by simpa [hs.count] using (hs.slots b hst).room)
    have howned : Owned P.limit (o + own (some b)) (blocks h) := hst ▸ hs.owned
    exact ⟨⟨by simpa using hrel.owned howned, rfl, hs.itemSize_pos, by simp, by simp⟩,
      hrel.keeps howned, rfl, rfl⟩

/-- Where `o` counts the reference of `rhs`, its list is assigned. The vector gives up its own
storage first, and that of the other vector is still there after it, as it has a reference of its
own. -/
theorem assign_spec (hP : P.Contract blocks blank) (hs : Stores P blocks o v h l)
    {rhs : VectorImpl Addr}
    (hcount : rhs.mCount = l'.length) (hnull : rhs.mStorage = none → l' = [])
    (hslots : ∀ b, rhs.mStorage = some b → 0 < o b ∧ Slots (blocks h) b rhs.mItemSize 0 l')
    (he : v.assign P rhs h = some (v', h')) : Updates P blocks o v h v' h' l' := by
  unfold assign at he
  split at he
  · -- the two vectors must hold items of the same size
    cases he
  · rename_i hsize
    -- first the vector gives up its own storage
    have hfin := finish_vector_spec hP hs
    simp only [finish_vector] at hfin
    generalize v.release_storage P h = h₁ at he hfin
    simp only at he
    -- an empty vector has no storage to share
    split at he
    · rename_i hne
      cases hst : rhs.mStorage with
      | none => simp [hcount, hnull hst] at hne
      | some b =>
        simp only [hst, Option.some.injEq, Prod.mk.injEq] at he
        obtain ⟨rfl, rfl⟩ := he
        obtain ⟨hpos, hold⟩ := hslots b hst
        -- the other vector refers to its storage, so it is there after the release
        have hkept := hfin.keeps.slots hpos hold
        obtain ⟨B, hB, _⟩ := hkept
        have hacq := hP.acquire b h₁ B hB
        have howned : Owned P.limit o (blocks h₁) := by simpa using hfin.stores.owned
        refine ⟨⟨hacq.owned hpos howned, hcount, hs.itemSize_pos, by simp, ?_⟩,
          hfin.keeps.trans (hacq.keeps o), rfl, rfl⟩
        rintro c ⟨⟩
        simp only [ne_eq, Decidable.not_not] at hsize
        exact hsize ▸ (hacq.keeps o).slots hpos (hfin.keeps.slots hpos hold)
    · -- the other one is empty, and so is the vector after the release
      rename_i hzero
      simp only [Option.some.injEq, Prod.mk.injEq] at he
      obtain ⟨rfl, rfl⟩ := he
      have hnil : l' = [] := List.eq_nil_of_length_eq_zero (by omega)
      exact hnil ▸ hfin

/-- Items that were given: copies of the one, or blank ones unless the items are trivially
constructed. -/
def Given (blank : α) (flags : BitVec 32) (item : Option α) (n : ℕ) (xs : List α) : Prop :=
  xs.length = n ∧ match item with
    | some a => xs = List.replicate n a
    | none => flags &&& HAS_TRIVIAL_CTOR = 0 → xs = List.replicate n blank

/-- A place of the list of a vector is an item that its storage has room for. -/
theorem Stores.room_at (hs : Stores P blocks o v h l) (hb : v.mStorage = some b) {i n : ℕ}
    (hle : i + n ≤ l.length) : Room (blocks h) b v.mItemSize (i + n) :=
  (show Room (blocks h) b v.mItemSize l.length by simpa using (hs.slots b hb).room).mono hle

/-- **The specification of `insertArrayAt`.** The array is read after the storage has grown, so it
must not be in the storage of this vector alone. Without memory, or without items, nothing is
inserted. -/
theorem insertArrayAt_spec (hP : P.Contract blocks blank) (hs : Stores P blocks o v h l) {index : ℕ}
    {array : Source Addr α} {xs : List α} (hsrc : Reads (blocks h) v.mItemSize array xs)
    (hown : xs ≠ [] → ∀ c, array.block? = some c → 0 < o c)
    (he : v.insertArrayAt P array index xs.length h = some (r, v', h')) :
    (r < 0 ∧ (l.length < index ∨ xs = [] ∨ P.Refuses) ∧ Updates P blocks o v h v' h' l) ∨
      (r = index ∧ index ≤ l.length ∧ Updates P blocks o v h v' h'
        (l.take index ++ xs ++ l.drop index)) := by
  unfold insertArrayAt at he
  split at he
  · rename_i hlt
    simp only [Option.some.injEq, Prod.mk.injEq] at he
    obtain ⟨rfl, rfl, rfl⟩ := he
    exact .inl ⟨by decide, .inl (hs.count ▸ hlt), hs.unchanged rfl⟩
  · rename_i hge
    have hindex : index ≤ l.length := by have := hs.count; omega
    have hpre : (l.take index).length = index := by simp; omega
    simp only [Option.bind_eq_bind, Option.bind_eq_some_iff, Prod.exists] at he
    obtain ⟨free, v₁, h₁, hgrow, he⟩ := he
    rcases _grow_spec hP hs hindex hgrow with
      ⟨rfl, hnull, hup⟩ | ⟨b, gap, rfl, hst, hsole, hgap, hup⟩
    · simp only [Option.some.injEq, Prod.mk.injEq] at he
      obtain ⟨rfl, rfl, rfl⟩ := he
      exact .inl ⟨by decide, .inr (hnull.imp_left List.eq_nil_of_length_eq_zero), hup⟩
    · simp only [Option.some.injEq, Prod.mk.injEq] at he
      obtain ⟨rfl, rfl, rfl⟩ := he
      have hroom : Room (blocks h₁) b v₁.mItemSize (index + xs.length) :=
        hup.stores.room_at hst (by simp; omega)
      -- the array is read after the storage grew; that of another vector is kept
      have hsrc₁ : Reads (blocks h₁) v₁.mItemSize array xs := by
        rw [hup.itemSize]
        exact reads_of_slots hsrc fun hne c i hc => hup.keeps.slots (hown hne c hc)
      obtain ⟨hw, hcopied⟩ := _do_copy_spec (v := v₁) (p := ⟨b, index⟩) hP hroom hsrc₁
        (fun hne heq => by have := hown hne b heq; omega) hup.stores.itemSize_pos
        (hup.stores.lt_limit hst (hroom.mono (Nat.le_add_left _ _)))
      -- the free space is filled
      have hdone :=
        hup.trans (hup.stores.filled hst hsole hgap.symm (by rwa [hpre, hgap]) (by rwa [hpre]))
      exact .inr ⟨ssize_of_lt (hindex.trans_lt hs.length_lt), hindex, hdone⟩

/-- The pointer to the item that is given, which is null when there is none. The item may be in the
storage of others. -/
def Points (m : Blocks Addr α) (o : Addr → ℕ) (s : ℕ) (ptr : Source Addr α) : Option α → Prop
  | none => ptr = .null
  | some a => Reads m s ptr [a] ∧ ∀ c, ptr.block? = some c → 0 < o c

omit [DecidableEq Addr] in
theorem points_ofItem {m : Blocks Addr α} {s : ℕ}
    (item : Option α) : Points m o s (.ofItem item) item := by
  cases item with
  | none => exact rfl
  | some a =>
    refine ⟨fun k x hk => ?_, by simp [Source.ofItem, Source.block?, Source.place?]⟩
    exact (List.mem_singleton.mp (List.mem_of_getElem? hk)).symm

omit [DecidableEq Addr] in
/-- What is not in the vector's own storage is still there after a change of the vector. An item of
the caller's may well be in another vector. -/
theorem Points.kept {m m' : Blocks Addr α} {s : ℕ} {ptr : Source Addr α} {a : α}
    (hptr : Points m o s ptr (some a)) (hk : Keeps o m m') : Points m' o s ptr (some a) :=
  ⟨reads_of_slots hptr.1 fun _ c _ hc => hk.slots (hptr.2 c hc), hptr.2⟩

omit [DecidableEq Addr] in
theorem Points.isNull {m : Blocks Addr α} {s : ℕ} {ptr : Source Addr α} {item : Option α}
    (hptr : Points m o s ptr item) : ptr.isNull = item.isNone := by
  cases item with
  | none =>
    obtain rfl : ptr = .null := hptr
    rfl
  | some a =>
    cases ptr with
    | null => exact absurd hptr.1 (List.cons_ne_nil a [])
    | place p => rfl
    | array items => rfl

/-- **The specification of `insertAt`.** The gap is filled with copies of the item, or with new ones
when there is no item. The item is read after the storage has grown. -/
theorem insertAt_spec (hP : P.Contract blocks blank) (hs : Stores P blocks o v h l)
    {index numItems : ℕ}
    {ptr : Source Addr α} {item : Option α} (hptr : Points (blocks h) o v.mItemSize ptr item)
    (he : v.insertAt P ptr index numItems h = some (r, v', h')) :
    (r < 0 ∧ (l.length < index ∨ numItems = 0 ∨ P.Refuses) ∧ Updates P blocks o v h v' h' l) ∨
      (r = index ∧ index ≤ l.length ∧ ∃ xs, Given blank v.mFlags item numItems xs ∧
        Updates P blocks o v h v' h' (l.take index ++ xs ++ l.drop index)) := by
  unfold insertAt at he
  split at he
  · -- beyond the end: `BAD_INDEX`, and nothing has happened
    rename_i hlt
    simp only [Option.some.injEq, Prod.mk.injEq] at he
    obtain ⟨rfl, rfl, rfl⟩ := he
    exact .inl ⟨by decide, .inl (hs.count ▸ hlt), hs.unchanged rfl⟩
  · rename_i hge
    have hindex : index ≤ l.length := by have := hs.count; omega
    have hpre : (l.take index).length = index := by simp; omega
    simp only [Option.bind_eq_bind, Option.bind_eq_some_iff, Prod.exists] at he
    obtain ⟨free, v₁, h₁, hgrow, he⟩ := he
    -- first the gap is made, or there is no memory
    rcases _grow_spec hP hs hindex hgrow with
      ⟨rfl, hnull, hup⟩ | ⟨b, gap, rfl, hst, hsole, hgap, hup⟩
    · simp only [Option.some.injEq, Prod.mk.injEq] at he
      obtain ⟨rfl, rfl, rfl⟩ := he
      exact .inl ⟨by decide, .inr hnull, hup⟩
    · simp only [Option.some.injEq, Prod.mk.injEq] at he
      obtain ⟨rfl, rfl, rfl⟩ := he
      -- there is free space for the items
      have hroom : Room (blocks h₁) b v₁.mItemSize (index + numItems) :=
        hup.stores.room_at hst (by simp; omega)
      refine .inr ⟨ssize_of_lt (hindex.trans_lt hs.length_lt), hindex, ?_⟩
      cases item with
      | some a =>
        -- the item is read after the storage grew
        have hptr₁ := hptr.kept hup.keeps
        obtain ⟨hw, hslots⟩ := hP.do_splat v₁.mItemSize ⟨b, index⟩ ptr a numItems h₁ hroom
          (hup.itemSize ▸ hptr₁.1) (fun heq => by have := hptr.2 b heq; omega)
        rw [hptr.isNull]
        -- the gap is filled with copies of the item
        exact ⟨_, ⟨List.length_replicate, rfl⟩, hup.trans (hup.stores.filled hst hsole
          (by rw [hgap, List.length_replicate]) (by rwa [hpre, hgap]) (by rwa [hpre]))⟩
      -- without an item the gap is filled with new ones
      | none =>
        rw [hptr.isNull]
        obtain ⟨hw, xs, hlen, hblank, hslots⟩ :=
          _do_construct_spec (v := v₁) (p := ⟨b, index⟩) hP hroom
        exact ⟨xs, ⟨hlen, fun h0 => hblank (by rwa [hup.flags])⟩,
          hup.trans (hup.stores.filled hst hsole
          (by rw [hgap, hlen]) (by rwa [hpre, hgap]) (by rwa [hpre]))⟩

/-- The place of an item that is to be replaced, in storage of the vector's own. -/
theorem editItemLocation_spec (hP : P.Contract blocks blank) (hs : Stores P blocks o v h l)
    {index : ℕ} {item : Option (Place Addr)} (hindex : index < l.length)
    (he : v.editItemLocation P index h = some (item, v', h')) :
    ∃ b, item = some ⟨b, index⟩ ∧ v'.mStorage = some b ∧ o b = 0 ∧
      Updates P blocks o v h v' h' l := by
  -- the place can only be inside a storage
  obtain ⟨b₀, hst₀⟩ : ∃ b, v.mStorage = some b := by
    cases hst : v.mStorage with
    | none => simp [hs.null hst] at hindex
    | some b => exact ⟨b, rfl⟩
  -- the source checks the capacity, and the index is even below the count
  have hcap : index < v.capacity P h :=
    (hs.le_capacity_iff hP hst₀).mpr (hs.room_at (i := index) (n := 1) hst₀ hindex)
  simp only [editItemLocation, if_pos hcap, Option.bind_eq_bind, Option.bind_eq_some_iff,
    Prod.exists, Option.some.injEq, Prod.mk.injEq] at he
  obtain ⟨v₁, h₁, hedit, rfl, rfl, rfl⟩ := he
  obtain ⟨hup, hnull, hown⟩ := editArrayImpl_spec hP hs hedit
  -- the vector's own storage is a copy of the first one or the same
  obtain ⟨b, hst⟩ : ∃ b, v₁.mStorage = some b := by
    cases hst : v₁.mStorage with
    | none => simp [hnull.mp hst] at hst₀
    | some b => exact ⟨b, rfl⟩
  exact ⟨b, by simp [hst], hst, (hown b hst).1, hup⟩

/-- **The specification of `replaceAt`.** The storage is made the vector's own, the old item is
destroyed, and in its place the prototype is copied or a new item constructed. The rest of the list
stays. -/
theorem replaceAt_spec (hP : P.Contract blocks blank) (hs : Stores P blocks o v h l) {index : ℕ}
    {ptr : Source Addr α} {prototype : Option α}
    (hptr : Points (blocks h) o v.mItemSize ptr prototype)
    (he : v.replaceAt P ptr index h = some (r, v', h')) :
    (r < 0 ∧ l.length ≤ index ∧ Updates P blocks o v h v' h' l) ∨
      (r = index ∧ index < l.length ∧ ∃ x, Given blank v.mFlags prototype 1 [x] ∧
        Updates P blocks o v h v' h' (l.set index x)) := by
  unfold replaceAt at he
  split at he
  · -- beyond the end: `BAD_INDEX`
    rename_i hge
    simp only [Option.some.injEq, Prod.mk.injEq] at he
    obtain ⟨rfl, rfl, rfl⟩ := he
    exact .inl ⟨by decide, hs.count ▸ hge, hs.unchanged rfl⟩
  · -- the storage is made the vector's own, and the place in it is written
    rename_i hge
    have hindex : index < l.length := by have := hs.count; omega
    simp only [Option.bind_eq_bind, Option.bind_eq_some_iff, Prod.exists] at he
    obtain ⟨item, v₂, h₂, hedit, he⟩ := he
    obtain ⟨b, rfl, hst, hsole, hup⟩ := editItemLocation_spec hP hs hindex hedit
    -- the prototype is not in the vector's own storage
    have hdiff : ptr.block? ≠ some b := by
      intro heq
      cases prototype with
      | none =>
        obtain rfl : ptr = .null := hptr
        simp [Source.block?, Source.place?] at heq
      | some a =>
        have := hptr.2 b heq
        omega
    have hplace : ptr.place? ≠ some ⟨b, index⟩ := fun heq => hdiff (by simp [Source.block?, heq])
    simp only [if_neg hplace, hptr.isNull, Option.some.injEq, Prod.mk.injEq] at he
    obtain ⟨rfl, rfl, rfl⟩ := he
    -- whatever is written there afterwards, the rest of the list stays
    refine .inr ⟨ssize_of_lt (hindex.trans hs.length_lt), hindex, ?_⟩
    -- the item is destroyed, and its place is written
    have hroom : Room (blocks h₂) b v₂.mItemSize (index + 1) := hup.stores.room_at hst hindex
    have hdestroy := _do_destroy_spec (v := v₂) (p := ⟨b, index⟩) (n := 1) hP hroom
    have hroom' := hdestroy.room hroom
    generalize v₂._do_destroy P ⟨b, index⟩ 1 h₂ = h₃ at hdestroy hroom'
    have hsplit : l.take index ++ [l[index]] ++ l.drop (index + 1) = l := by simp
    have hpre : (l.take index).length = index := by simp; omega
    have hdone : ∀ x h', Writes (blocks h₃) b v₂.mItemSize index 1 (blocks h') →
        Slots (blocks h') b v₂.mItemSize index [x] →
          Updates P blocks o v h v₂ h' (l.set index x) := by
      intro x h' hw hslots
      have hstores := hup.stores
      rw [← hsplit] at hstores
      have hfill : Updates P blocks o v₂ h₂ v₂ h' (l.take index ++ [x] ++ l.drop (index + 1)) :=
        hstores.filled hst hsole rfl (by rw [hpre]; exact hdestroy.trans hw) (by rwa [hpre])
      rw [List.set_eq_take_append_cons_drop, if_pos hindex]
      simpa using hup.trans hfill
    -- either a new item is constructed in the place, or the prototype is copied there
    cases prototype with
    | none =>
      obtain ⟨hw, xs, hlen, hblank, hslots⟩ :=
        _do_construct_spec (v := v₂) (p := ⟨b, index⟩) hP hroom'
      obtain ⟨x, rfl⟩ := List.length_eq_one_iff.mp hlen
      exact ⟨x, ⟨rfl, fun h0 => hblank (by rwa [hup.flags])⟩, hdone x _ hw hslots⟩
    | some a =>
      have hptr₃ := hptr.kept (hup.keeps.trans (hdestroy.keeps hsole))
      obtain ⟨hw, hslots⟩ := _do_copy_spec (v := v₂) (p :=
        ⟨b, index⟩) hP hroom' (hup.itemSize ▸ hptr₃.1)
        (fun _ => hdiff) hup.stores.itemSize_pos
        (hup.stores.lt_limit hst (hroom.mono (Nat.le_add_left _ _)))
      exact ⟨a, ⟨rfl, rfl⟩, hdone a _ hw hslots⟩

/-- What `removeItemsAt` needs to do what it reports: `index + count` does not wrap around to
something that passes its check, and there is memory for smaller storage. -/
def RemovalOk (P : Platform Heap Addr α) (v : VectorImpl Addr) (index count : ℕ)
    (h : Heap) : Prop :=
  ¬ (2 ^ P.wordBits ≤ index + count ∧ P.add index count ≤ v.mCount ∧
    (v.mStorage = none ∨ count ≤ v.mCount)) ∧
    ¬ (index + count ≤ v.mCount ∧ 0 < count ∧ v.ShrinkFails P index count h)

/-- `_shrink` removes what it is asked to, in range. It either takes smaller storage or moves the
items behind the gap. -/
theorem _shrink_spec_of_ok (hP : P.Contract blocks blank) (hs : Stores P blocks o v h l)
    {pos amount : ℕ}
    (hle : pos + amount ≤ l.length) (hok : ¬ (0 < amount ∧ v.ShrinkFails P pos amount h))
    (he : v._shrink P pos amount h = some (v', h')) :
    Updates P blocks o v h v' h' (l.take pos ++ l.drop (pos + amount)) := by
  rcases _shrink_spec hP hs hle he with ⟨hfails, hup⟩ | hup
  · -- it fails only where there was nothing to remove
    have h0 : amount = 0 := by
      by_contra hne
      exact hok ⟨Nat.pos_of_ne_zero hne, hfails⟩
    simpa [h0] using hup
  · exact hup

/-- **The specification of `removeItemsAt`.** The check of the source adds index and count, which
may wrap around; then it passes, and `_shrink` stops the process. -/
theorem removeItemsAt_spec (hP : P.Contract blocks blank) (hs : Stores P blocks o v h l)
    {index count : ℕ}
    (hok : v.RemovalOk P index count h) (he : v.removeItemsAt P index count h = some (r, v', h')) :
    (r < 0 ∧ l.length < index + count ∧ Updates P blocks o v h v' h' l) ∨
      (r = index ∧ index + count ≤ l.length ∧
        Updates P blocks o v h v' h' (l.take index ++ l.drop (index + count))) := by
  have hcount := hs.count
  unfold removeItemsAt at he
  split at he
  · rename_i hfails
    simp only [Option.some.injEq, Prod.mk.injEq] at he
    obtain ⟨rfl, rfl, rfl⟩ := he
    -- whether the sum wraps around or not, the check fails rightly
    have hle : P.add index count ≤ index + count := Nat.mod_le ..
    exact .inl ⟨by decide, by omega, hs.unchanged rfl⟩
  · rename_i hpass
    simp only [Option.bind_eq_bind, Option.bind_eq_some_iff, Prod.exists, Option.some.injEq,
      Prod.mk.injEq] at he
    obtain ⟨v₁, h₁, hshrink, rfl, rfl, rfl⟩ := he
    have hnowrap : index + count < 2 ^ P.wordBits := by
      by_contra hwrap
      -- the sum wraps around and passes the check: `_shrink` stops the process
      have hbad : ¬ (v.mStorage = none ∨ count ≤ v.mCount) := fun hor =>
        hok.1 ⟨Nat.le_of_not_lt hwrap, Nat.le_of_not_lt hpass, hor⟩
      push Not at hbad
      cases hst : v.mStorage with
      | none => exact hbad.1 hst
      | some b =>
        have hsub : checkedSub v.mCount count = none := if_neg (by omega)
        simp [_shrink, hst, hsub] at hshrink
    have hle : index + count ≤ l.length := by
      rw [Platform.add, Nat.mod_eq_of_lt hnowrap] at hpass
      omega
    have hup := _shrink_spec_of_ok hP hs hle (fun hbad => hok.2 ⟨by omega, hbad⟩) hshrink
    exact .inr ⟨ssize_of_lt (by have := hs.length_lt; omega), hle, hup⟩

/-- `setCapacity` keeps the list. The items are copied to the new storage if there is memory for it,
and otherwise the vector is as it was. -/
theorem setCapacity_spec (hP : P.Contract blocks blank) (hs : Stores P blocks o v h l)
    {new_capacity : ℕ}
    (he : v.setCapacity P new_capacity h = some (r, v', h')) : Updates P blocks o v h v' h' l := by
  unfold setCapacity at he
  split at he
  · -- the capacity is large enough already
    simp only [Option.some.injEq, Prod.mk.injEq] at he
    obtain ⟨-, rfl, rfl⟩ := he
    exact hs.unchanged rfl
  · rename_i hgt
    simp only [Option.bind_eq_bind, Option.bind_eq_some_iff, Prod.exists] at he
    obtain ⟨n, hn, sb, h₁, halloc, he⟩ := he
    obtain rfl := checkedMul_eq_some hn
    -- no memory: the vector is as it was
    cases sb with
    | none =>
      simp only [Option.some.injEq, Prod.mk.injEq] at he
      obtain ⟨-, rfl, rfl⟩ := he
      exact hs.unchanged (hP.alloc_null _ _ _ halloc)
    | some b =>
      simp only [Option.some.injEq, Prod.mk.injEq, hs.count] at he
      obtain ⟨-, rfl, rfl⟩ := he
      obtain ⟨hlim, hnew⟩ := hP.alloc_some _ _ _ _ halloc
      have hun : o b = 0 ∧ own v.mStorage b = 0 := by simpa using hnew.uncounted hs.owned
      have hst : v.mStorage ≠ some b := fun heq => by simp [heq] at hun
      have hsize : l.length * v.mItemSize ≤ new_capacity * v.mItemSize :=
        Nat.mul_le_mul_right _ (by have := hs.count; omega)
      -- the items are copied from the old storage to the new one
      have hsrc : Reads (blocks h₁) v.mItemSize (v.source 0) l :=
        reads_source hs.null fun c hc => hnew.slots (hs.slots c hc)
      -- nothing of the old storage is written while it is copied
      obtain ⟨hw, hcopied⟩ := _do_copy_spec (p := ⟨b, 0⟩) hP (hnew.room (by simpa using hsize)) hsrc
        (fun _ => by rwa [source_block?]) hs.itemSize_pos (hsize.trans_lt hlim)
      exact (hs.moved hP hnew (hw.owned (hnew.owned hlim hs.owned))
        (hw.keeps (by simp [hun])) hcopied).2.2

/-- **The specification of `resize`.** Items are added at the end or taken from there. On success
the new size is returned, which fits into an `ssize_t`. -/
theorem resize_spec (hP : P.Contract blocks blank) (hs : Stores P blocks o v h l) {size : ℕ}
    (hok : size < v.mCount → v.RemovalOk P size (v.mCount - size) h)
    (he : v.resize P size h = some (r, v', h')) :
    (r < 0 ∧ Updates P blocks o v h v' h' l) ∨
      (0 ≤ r ∧ ∃ xs, Given blank v.mFlags none (size - l.length) xs ∧
        Updates P blocks o v h v' h' (l.take size ++ xs)) := by
  have hcount := hs.count
  simp only [resize, Option.bind_eq_bind, Option.bind_eq_some_iff, Prod.exists, Option.some.injEq,
    Prod.mk.injEq] at he
  obtain ⟨result, v₁, h₁, hstep, rfl, rfl, rfl⟩ := he
  -- on success the new size is returned, and it fits into a `ssize_t`
  have hnonneg : ∀ l' : List α, l'.length = size → Updates P blocks o v h v₁ h₁ l' →
      0 ≤ P.ssize size := by
    intro l' hlen hup
    rw [ssize_of_lt (hlen ▸ hup.stores.length_lt)]
    exact Int.natCast_nonneg _
  split at hstep
  · -- longer: items are inserted at the end
    rename_i hlt
    rcases insertAt_spec hP hs (points_ofItem none) hstep with
      ⟨hneg, _, hup⟩ | ⟨hpos, _, xs, hgiven, hup⟩
    · -- `insertAt` failed, and `resize` hands its error on
      exact .inl ⟨by rwa [if_pos hneg], hup⟩
    · rw [if_neg (by omega)]
      -- the new items come after all others
      have hlist : l.take v.mCount ++ xs ++ l.drop v.mCount = l.take size ++ xs := by
        rw [hcount, List.take_length, List.drop_length, List.append_nil,
          List.take_of_length_le (by omega)]
      rw [hlist] at hup
      have hlen : (l.take size ++ xs).length = size := by
        have := hgiven.1
        rw [List.length_append, List.length_take]
        omega
      exact .inr ⟨hnonneg _ hlen hup, xs, hcount ▸ hgiven, hup⟩
  · split at hstep
    · -- shorter: the last items are removed
      rename_i hgt
      rcases removeItemsAt_spec hP hs (hok hgt) hstep with ⟨hneg, _, hup⟩ | ⟨hpos, _, hup⟩
      · exact .inl ⟨by rwa [if_pos hneg], hup⟩
      · rw [if_neg (by omega)]
        -- the items that go are the last ones
        have hlist : l.take size ++ l.drop (size + (v.mCount - size)) = l.take size ++ [] := by
          rw [List.drop_eq_nil_of_le (by omega)]
        rw [hlist] at hup
        have hlen : (l.take size ++ []).length = size := by
          simp
          omega
        exact .inr ⟨hnonneg _ hlen hup, [], ⟨by simp; omega, fun _ => by simp; omega⟩, hup⟩
    · -- the size is right already
      simp only [Option.some.injEq, Prod.mk.injEq] at hstep
      obtain ⟨rfl, rfl, rfl⟩ := hstep
      have hlist : l.take size ++ [] = l := by
        rw [List.append_nil, List.take_of_length_le (by omega)]
      have hup : Updates P blocks o v h v h (l.take size ++ []) := hlist.symm ▸ hs.unchanged rfl
      refine .inr ⟨?_, [], ⟨by simp; omega, fun _ => by simp; omega⟩, hup⟩
      rw [if_neg (by decide)]
      exact hnonneg _ (by rw [hlist]; omega) hup

end VectorImpl

end Shims

end BlueCommon
