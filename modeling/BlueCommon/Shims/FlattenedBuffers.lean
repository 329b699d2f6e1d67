import BlueCommon.Shims.GraphicBuffer
import Mathlib.Algebra.BigOperators.Group.List.Basic
import Mathlib.Algebra.Order.BigOperators.Group.List
import Mathlib.Data.List.Forall2

/-!
# Buffers sent in a parcel

A process flattens its buffers one after the other into the memory of a parcel, another one
unflattens them in the same order. Both add the number of bytes of a buffer to an `int *`, so that
a buffer of `n` words is followed by a gap of `3 * n` words that the size does not account for.

* `Holds`: the memory at the cursor is the flattened buffer. `flatten_holds` and `unflatten_holds`
  are what the two functions do in terms of it.
* `flattenAll`, `unflattenAll`: a sequence of buffers. `agree_flattenAll` is the frame: the buffers
  that follow are written behind.
* `unflattenAll_flattenAll`: the sequence arrives.
* `flattenAll_inside_iff`: when the sequence is written inside the memory that was given.
* `unflatten_cases`: what `unflatten` can do. `unflatten_sound`: what is read, and that what is
  accepted is a flattened buffer.
-/

namespace BlueCommon

namespace Shims

open Cells

namespace GraphicBuffer

/-! ### One buffer -/

section One

variable {b b₀ b₁ : GraphicBuffer} {g g₀ g₁ : Gralloc} {c : Cursor} {m m' : Parcel}
  {h : Option NativeHandle} {o : UnflattenOutcome}

/-- The memory at the cursor is the flattened buffer: its eight words and integers at the place for
the words, and its descriptors at the place for these. -/
structure Holds (m : Parcel) (c : Cursor) (b : GraphicBuffer) (h : Option NativeHandle) : Prop where
  words : load m.words c.buffer (8 + numInts h) = b.flatWords h
  descriptors : load m.descriptors c.fds (getFdCount h) = flatDescriptors h

/-- The cursor has room for the flattened buffer, in bytes and in file descriptors. These are the
two things that `flatten` and `unflatten` ask. -/
def Cursor.Fits (c : Cursor) (h : Option NativeHandle) : Prop :=
  getFlattenedSize h ≤ c.size ∧ getFdCount h ≤ c.count

/-- `unflatten` accepts as many integers and descriptors. `flatten` does not ask how many there
are. -/
def Accepted (h : Option NativeHandle) : Prop :=
  getFdCount h < maxNumber ∧ numInts h < maxNumber - 10

@[simp] theorem length_flatWords : (b.flatWords h).length = 8 + numInts h := by
  cases h with
  | none => rfl
  | some h =>
    show (_ :: _ :: _ :: _ :: _ :: _ :: _ :: _ :: h.ints).length = 8 + h.ints.length
    simp only [List.length_cons]
    omega

@[simp] theorem length_flatDescriptors : (flatDescriptors h).length = getFdCount h := by
  cases h with
  | none => rfl
  | some h => rfl

/-- A buffer is flattened where there is room for it. The words and the descriptors are written at
the cursor, which then moves on. -/
theorem flatten_eq (hc : b.contents g = some h) : b.flatten g c m =
    some (if getFlattenedSize h ≤ c.size ∧ getFdCount h ≤ c.count then
      (NO_ERROR, c.advance (getFlattenedSize h) (getFdCount h),
        ⟨store m.words c.buffer (b.flatWords h), store m.descriptors c.fds (flatDescriptors h)⟩)
      else (NO_MEMORY, c, m)) := by
  unfold flatten
  rw [hc, Option.bind_eq_bind, Option.bind_some]
  by_cases hsize : c.size < getFlattenedSize h
  · rw [if_pos hsize, if_neg fun hfits => absurd hfits.1 (Nat.not_le_of_lt hsize)]
    rfl
  · rw [if_neg hsize]
    by_cases hcount : c.count < getFdCount h
    · rw [if_pos hcount, if_neg fun hfits => absurd hfits.2 (Nat.not_le_of_lt hcount)]
      rfl
    · rw [if_neg hcount, if_pos ⟨Nat.le_of_not_lt hsize, Nat.le_of_not_lt hcount⟩]
      rfl

/-- The memory after `flatten` holds the buffer. -/
theorem holds_store : Holds ⟨store m.words c.buffer (b.flatWords h),
    store m.descriptors c.fds (flatDescriptors h)⟩ c b h where
  words := by
    have hread := load_store_self (m := m.words) (p := c.buffer) (b.flatWords h)
    rwa [length_flatWords] at hread
  descriptors := by
    have hread := load_store_self (m := m.descriptors) (p := c.fds) (flatDescriptors h)
    rwa [length_flatDescriptors] at hread

/-- A buffer is held in memory that agrees where it is. -/
theorem Holds.congr (hm : Holds m c b h)
    (hwords : Agree m.words m'.words c.buffer (c.buffer + (8 + numInts h)))
    (hfds : Agree m.descriptors m'.descriptors c.fds (c.fds + getFdCount h)) :
    Holds m' c b h where
  words := (load_congr hwords).symm.trans hm.words
  descriptors := (load_congr hfds).symm.trans hm.descriptors

/-- The words of the header. -/
theorem Holds.getElem (hm : Holds m c b h) {i : ℕ} (hi : i < (b.flatWords h).length) :
    m.words (c.buffer + i) = (b.flatWords h)[i] := by
  have hread := getElem?_load (m := m.words) (p := c.buffer) (length_flatWords (b := b) ▸ hi)
  rw [hm.words, List.getElem?_eq_getElem hi, Option.some_inj] at hread
  exact hread.symm

theorem Holds.magic (hm : Holds m c b h) : m.words c.buffer = magic := by
  have hread := hm.getElem (i := 0) (by rw [length_flatWords]; omega)
  rwa [Nat.add_zero] at hread

theorem Holds.numFds (hm : Holds m c b h) :
    m.words (c.buffer + 6) = BitVec.ofNat 32 (getFdCount h) :=
  hm.getElem (i := 6) (by rw [length_flatWords]; omega)

theorem Holds.numInts (hm : Holds m c b h) :
    m.words (c.buffer + 7) = BitVec.ofNat 32 (numInts h) :=
  hm.getElem (i := 7) (by rw [length_flatWords]; omega)

/-- What `unflatten` makes of a buffer with these contents: a handle without descriptors and
integers does not arrive, and neither do the dimensions then. -/
def Arrives (b : GraphicBuffer) (h : Option NativeHandle) (b' : GraphicBuffer)
    (h' : Option NativeHandle) : Prop :=
  if getFdCount h = 0 ∧ numInts h = 0 then
    h' = none ∧ b'.width = 0 ∧ b'.height = 0 ∧ b'.stride = 0 ∧ b'.format = 0 ∧ b'.usage = 0
  else
    h' = h ∧ b'.width = b.width ∧ b'.height = b.height ∧ b'.stride = b.stride ∧
      b'.format = b.format ∧ b'.usage = b.usage

theorem flatWords_drop : (b.flatWords h).drop 8 = h.elim [] NativeHandle.ints := rfl

theorem eq_nil_of_empty :
    (flatDescriptors h ≠ [] ∨ (b.flatWords h).drop 8 ≠ []) ↔
      ¬(getFdCount h = 0 ∧ numInts h = 0) := by
  rw [not_and_or, flatWords_drop, ← length_flatDescriptors, List.length_eq_zero_iff]
  cases h with
  | none => simp [numInts]
  | some h => simp [numInts, List.length_eq_zero_iff]

/-- The counts that are written are the counts that are read, while they are accepted. -/
theorem toNat_of_accepted (hacc : Accepted h) :
    (BitVec.ofNat 32 (getFdCount h)).toNat = getFdCount h ∧
      (BitVec.ofNat 32 (numInts h)).toNat = numInts h := by
  obtain ⟨hfds, hints⟩ := hacc
  unfold maxNumber at hfds hints
  constructor
  · rw [BitVec.toNat_ofNat, Nat.mod_eq_of_lt (by omega)]
  · rw [BitVec.toNat_ofNat, Nat.mod_eq_of_lt (by omega)]

/-- `unflatten` of memory that holds a buffer reads that buffer. It gets through its tests, as the
counts and the room are those of the buffer. -/
theorem unflatten_holds (hm : Holds m c b h) (hfits : c.Fits h) (hacc : Accepted h)
    (hfree : b₀.freeHandleIfAny o.freed g₀ = some (b₁, g₁)) :
    b₀.unflatten m c o g₀ =
      let r := b₁.fill (b.flatWords h) (flatDescriptors h) o g₁
      some (if r.1 ≠ NO_ERROR then (r.1, c, r.2)
        else (NO_ERROR, c.advance (getFlattenedSize h) (getFdCount h), r.2)) := by
  obtain ⟨hsize, hcount⟩ := hfits
  obtain ⟨hfds, hints⟩ := toNat_of_accepted hacc
  -- room enough for the whole buffer is room enough for the header
  have hheader : ¬c.size < 8 * 4 := by
    unfold getFlattenedSize at hsize
    omega
  have hroom : ¬c.size < (8 + numInts h) * 4 := Nat.not_lt_of_le hsize
  unfold unflatten
  -- each check of the source in its order, and what the message holds at that place
  rw [if_neg hheader, hm.magic, if_neg (fun hne => hne rfl), hm.numFds, hm.numInts, hfds, hints,
    if_neg fun hmany => hmany.elim (Nat.not_le_of_lt hacc.1) (Nat.not_le_of_lt hacc.2),
    if_neg hroom, if_neg (Nat.not_lt_of_le hcount), hm.words, hm.descriptors, hfree,
    Option.bind_eq_bind, Option.bind_some]
  -- what is left is whether the handle could be made and registered
  dsimp only
  generalize b₁.fill (b.flatWords h) (flatDescriptors h) o g₁ = r
  obtain ⟨err, b', g'⟩ := r
  show (if err ≠ NO_ERROR then _ else _) = some (if err ≠ NO_ERROR then _ else _)
  by_cases herr : err ≠ NO_ERROR
  · rw [if_pos herr, if_pos herr]
    rfl
  · rw [if_neg herr, if_neg herr]
    rfl

/-- What `unflatten` makes of a buffer, when there is memory and gralloc registers the handle.
Without descriptors and integers no handle is made, and none is expected. -/
theorem fill_flat (b₁ : GraphicBuffer) (g₁ : Gralloc) {handle : Handle}
    (hcreated : o.created = some handle)
    (hregistered : o.registered = NO_ERROR) :
    ∃ b' g', b₁.fill (b.flatWords h) (flatDescriptors h) o g₁ = (NO_ERROR, b', g') ∧
      (∃ h', b'.contents g' = some h' ∧ Arrives b h b' h') ∧
      (b'.handle = none ∨ b'.handle = some handle) ∧
      ∀ other, other ≠ handle → g'.handles other = g₁.handles other := by
  unfold fill
  -- no descriptors and no integers: no handle is made, and none is expected
  by_cases hempty : getFdCount h = 0 ∧ numInts h = 0
  · rw [if_neg fun hne => eq_nil_of_empty.mp hne hempty]
    refine ⟨_, _, rfl, ⟨none, rfl, ?_⟩, .inl rfl, fun _ _ => rfl⟩
    unfold Arrives
    rw [if_pos hempty]
    exact ⟨rfl, rfl, rfl, rfl, rfl, rfl⟩
  · -- otherwise one handle is made, and no other is touched
    rw [if_pos (eq_nil_of_empty.mpr hempty), hcreated]
    simp only
    rw [if_neg fun hne => hne hregistered]
    refine ⟨_, _, rfl, ⟨h, ?_, ?_⟩, .inr rfl, fun other hne => Function.update_of_ne hne _ _⟩
    · -- the new handle has the descriptors and the integers of the old one
      cases h with
      | none => exact absurd ⟨rfl, rfl⟩ hempty
      | some h =>
        show Option.map _ (Function.update g₁.handles handle _ handle) = _
        rw [Function.update_self]
        rfl
    · unfold Arrives
      rw [if_neg hempty]
      exact ⟨rfl, rfl, rfl, rfl, rfl, rfl⟩

/-- A buffer beyond the limits is not accepted. The counts are `size_t`, so none of them is taken
for a negative number. -/
theorem unflatten_of_not_accepted (hm : Holds m c b h) (hfits : c.Fits h) (hacc : ¬Accepted h)
    (hsize : c.size < 2 ^ 32) (hcount : c.count < 2 ^ 32) :
    b₀.unflatten m c o g₀ = some (BAD_VALUE, c, b₀.cleared, g₀) := by
  obtain ⟨hwords, hfds⟩ := hfits
  unfold getFlattenedSize at hwords
  have hfds' : (BitVec.ofNat 32 (getFdCount h)).toNat = getFdCount h := by
    rw [BitVec.toNat_ofNat, Nat.mod_eq_of_lt (by omega)]
  have hints' : (BitVec.ofNat 32 (numInts h)).toNat = numInts h := by
    rw [BitVec.toNat_ofNat, Nat.mod_eq_of_lt (by omega)]
  have hmany : getFdCount h ≥ maxNumber ∨ numInts h ≥ maxNumber - 10 := by
    rw [Accepted, not_and_or, Nat.not_lt, Nat.not_lt] at hacc
    exact hacc
  unfold unflatten
  rw [if_neg (by omega), hm.magic, if_neg (fun hne => hne rfl), hm.numFds, hm.numInts, hfds',
    hints', if_pos hmany]
  rfl

end One

/-! ### A sequence of buffers -/

/-- The buffers are flattened one after the other, up to the first error. Each one is put where the
cursor was left by the one before. -/
def flattenAll (g : Gralloc) : List GraphicBuffer → Cursor → Parcel → Option (ℤ × Cursor × Parcel)
  | [], c, m => some (NO_ERROR, c, m)
  | b :: bs, c, m =>
    match b.flatten g c m with
    | none => none
    | some (err, c, m) => if err ≠ NO_ERROR then some (err, c, m) else flattenAll g bs c m

/-- New buffers are unflattened one after the other, up to the first error. The answers to the calls
are given for each of them. -/
def unflattenAll (m : Parcel) :
    List UnflattenOutcome → Cursor → Gralloc → Option (ℤ × Cursor × List GraphicBuffer × Gralloc)
  | [], c, g => some (NO_ERROR, c, [], g)
  | o :: os, c, g =>
    match empty.unflatten m c o g with
    | none => none
    | some (err, c, b, g) =>
      if err ≠ NO_ERROR then some (err, c, [b], g)
      else (unflattenAll m os c g).map fun r => (r.1, r.2.1, b :: r.2.2.1, r.2.2.2)

/-- There is memory for the handle, and gralloc registers it. The buffer is new, so there is no old
handle to free. -/
def arriving (handle : Handle) : UnflattenOutcome := ⟨NO_ERROR, some handle, NO_ERROR⟩

section Sequence

variable {b : GraphicBuffer} {bs front back : List GraphicBuffer} {g g' : Gralloc} {c c' : Cursor}
  {m m' : Parcel} {h : Option NativeHandle}

/-- The memory with a buffer in it. -/
def Parcel.put (m : Parcel) (c : Cursor) (b : GraphicBuffer) (h : Option NativeHandle) : Parcel :=
  ⟨store m.words c.buffer (b.flatWords h), store m.descriptors c.fds (flatDescriptors h)⟩

/-- The cursor behind the buffer, with as much less room. The words are followed by a gap, as the
number of bytes is taken for one of words. -/
def Cursor.behind (c : Cursor) (h : Option NativeHandle) : Cursor :=
  c.advance (getFlattenedSize h) (getFdCount h)

/-- All buffers are flattened when the first one is and the others are behind it. The first one is
flattened if its handle is there and the cursor has room for both the bytes and the descriptors. -/
theorem flattenAll_cons : flattenAll g (b :: bs) c m = some (NO_ERROR, c', m') ↔
    ∃ h, b.contents g = some h ∧ c.Fits h ∧
      flattenAll g bs (c.behind h) (m.put c b h) = some (NO_ERROR, c', m') := by
  cases hc : b.contents g with
  -- the buffer names a handle that is gone, and reading it faults
  | none =>
    have hnone : b.flatten g c m = none := by
      unfold flatten
      rw [hc]
      rfl
    rw [flattenAll, hnone]
    exact iff_of_false nofun fun hex => by
      obtain ⟨h, hsome, -⟩ := hex
      exact Option.some_ne_none h hsome.symm
  | some h =>
    rw [flattenAll, flatten_eq hc]
    -- the two checks of `flatten`, on bytes and on descriptors
    by_cases hfits : getFlattenedSize h ≤ c.size ∧ getFdCount h ≤ c.count
    · rw [if_pos hfits]
      constructor
      · intro hrest
        exact ⟨h, rfl, hfits, hrest⟩
      · rintro ⟨h', hsome, -, hrest⟩
        obtain rfl := Option.some.inj hsome
        exact hrest
    · rw [if_neg hfits]
      refine iff_of_false (fun herr => ?_) fun ⟨h', hsome, hfits', _⟩ => ?_
      · -- without room the status is an error, and the rest is not flattened
        have hstatus : NO_MEMORY = NO_ERROR := congrArg Prod.fst (Option.some.inj herr)
        exact absurd hstatus (by decide)
      · obtain rfl := Option.some.inj hsome
        exact hfits hfits'

/-- The buffers are written behind the cursor. -/
theorem agree_flattenAll (hflat : flattenAll g bs c m = some (NO_ERROR, c', m')) :
    Agree m.words m'.words 0 c.buffer ∧ Agree m.descriptors m'.descriptors 0 c.fds := by
  -- induction on the buffers; the cursor only advances
  induction bs generalizing c m with
  | nil =>
    obtain ⟨rfl, rfl, rfl⟩ := hflat
    exact ⟨fun _ _ _ => rfl, fun _ _ _ => rfl⟩
  | cons b bs ih =>
    obtain ⟨h, -, -, hrest⟩ := flattenAll_cons.mp hflat
    obtain ⟨hwords, hfds⟩ := ih hrest
    constructor
    · exact (agree_store (.inl (Nat.le_refl _))).symm.trans
        (hwords.mono (Nat.le_refl _) (Nat.le_add_right _ _))
    · exact (agree_store (.inl (Nat.le_refl _))).symm.trans
        (hfds.mono (Nat.le_refl _) (Nat.le_add_right _ _))

/-- The first buffer is in the memory that all were flattened to. -/
theorem holds_first (hflat : flattenAll g bs (c.behind h) (m.put c b h) = some (NO_ERROR, c', m')) :
    Holds m' c b h := by
  obtain ⟨hwords, hfds⟩ := agree_flattenAll hflat
  refine holds_store.congr (hwords.mono (Nat.zero_le _) ?_) (hfds.mono (Nat.zero_le _) ?_)
  · show c.buffer + (8 + numInts h) ≤ c.buffer + (8 + numInts h) * 4
    omega
  · exact Nat.le_refl _

/-- The buffer arrives in the other process, with what its handle contains there. An empty handle
arrives as none. -/
def ArrivesIn (g g' : Gralloc) (b b' : GraphicBuffer) : Prop :=
  ∃ h h', b.contents g = some h ∧ b'.contents g' = some h' ∧ Arrives b h b' h'

/-- A handle that is made later does not change what a buffer has. -/
theorem contents_congr {b : GraphicBuffer} (hsame : ∀ handle, b.handle = some handle →
    g'.handles handle = g.handles handle) : b.contents g' = b.contents g := by
  unfold contents
  cases hhandle : b.handle with
  | none => rfl
  | some handle => simp only [hsame handle hhandle]

/-- One buffer of the sequence, and then the others. -/
theorem unflattenAll_cons {o : UnflattenOutcome} {os : List UnflattenOutcome} :
    unflattenAll m (o :: os) c g =
      match empty.unflatten m c o g with
      | none => none
      | some (err, c, b, g) =>
        if err ≠ NO_ERROR then some (err, c, [b], g)
        else (unflattenAll m os c g).map fun r => (r.1, r.2.1, b :: r.2.2.1, r.2.2.2) := rfl

/-- The first buffer of a sequence arrives, and only the handle that is made is changed. -/
theorem unflatten_first (g' : Gralloc) (handle : Handle)
    (hrest : flattenAll g bs (c.behind h) (m.put c b h) = some (NO_ERROR, c', m'))
    (hfits : c.Fits h) (hacc : Accepted h) :
    ∃ b' g₁, empty.unflatten m' c (arriving handle) g' = some (NO_ERROR, c.behind h, b', g₁) ∧
      (∃ h', b'.contents g₁ = some h' ∧ Arrives b h b' h') ∧
      (b'.handle = none ∨ b'.handle = some handle) ∧
      ∀ other, other ≠ handle → g₁.handles other = g'.handles other := by
  obtain ⟨b', g₁, hfill, hfilled⟩ :=
    fill_flat (b := b) (h := h) (o := arriving handle) empty g' rfl rfl
  refine ⟨b', g₁, ?_, hfilled⟩
  rw [unflatten_holds (holds_first hrest) hfits hacc rfl, hfill]
  exact congrArg some (if_neg fun hne => hne rfl)

/-- **The sequence arrives**, if each buffer is within the limits. By induction on the sequence: the
first buffer is still in memory when all have been flattened, and reading it leaves the cursor at
the next one. -/
theorem unflattenAll_of_accepted {handles : List Handle}
    (hflat : flattenAll g bs c m = some (NO_ERROR, c', m'))
    (hacc : ∀ b ∈ bs, ∀ h, b.contents g = some h → Accepted h)
    (hlength : handles.length = bs.length) (hnodup : handles.Nodup) :
    ∃ bs' g₂, unflattenAll m' (handles.map arriving) c g' = some (NO_ERROR, c', bs', g₂) ∧
      List.Forall₂ (ArrivesIn g g₂) bs bs' ∧
      ∀ handle, handle ∉ handles → g₂.handles handle = g'.handles handle := by
  -- induction on the buffers; the handles that are made later are other ones
  induction bs generalizing c m g' handles with
  | nil =>
    obtain rfl := List.length_eq_zero_iff.mp hlength
    obtain ⟨rfl, rfl, rfl⟩ := hflat
    exact ⟨[], g', rfl, .nil, fun _ _ => rfl⟩
  | cons b bs ih =>
    match handles, hlength with
    | handle :: handles, hlength =>
      obtain ⟨hnew, hnodup⟩ := List.nodup_cons.mp hnodup
      obtain ⟨h, hcontents, hfits, hrest⟩ := flattenAll_cons.mp hflat
      -- the first buffer
      obtain ⟨b', g₁, hfirst, ⟨h', hcontents', harrives⟩, hhandle, hothers⟩ :=
        unflatten_first g' handle hrest hfits (hacc b List.mem_cons_self h hcontents)
      -- the others
      obtain ⟨bs', g₂, hrun, hall, hframe⟩ := ih hrest
        (fun b hb => hacc b (List.mem_cons_of_mem _ hb)) (Nat.succ.inj hlength) hnodup
      refine ⟨b' :: bs', g₂, ?_, .cons ⟨h, h', hcontents, ?_, harrives⟩ hall, ?_⟩
      · rw [List.map_cons, unflattenAll_cons, hfirst]
        simp only
        rw [if_neg fun hne => hne rfl, hrun]
        rfl
      · rw [← hcontents']
        refine contents_congr fun handle' hsome => ?_
        cases hhandle with
        | inl hnone => exact absurd (hnone.symm.trans hsome) nofun
        | inr hown =>
          obtain rfl := Option.some.inj (hown.symm.trans hsome)
          exact hframe _ hnew
      · intro other hother
        rw [hframe other fun hmem => hother (List.mem_cons_of_mem _ hmem)]
        exact hothers other fun heq => hother (heq ▸ List.mem_cons_self)

/-- **The sequence arrives exactly if each buffer is within the limits.** The other process reads
from the same memory and has its own handles. A buffer beyond the limits can be flattened, and stops
the one that reads. -/
theorem unflattenAll_flattenAll {handles : List Handle}
    (hflat : flattenAll g bs c m = some (NO_ERROR, c', m'))
    (hsize : c.size < 2 ^ 32) (hcount : c.count < 2 ^ 32)
    (hlength : handles.length = bs.length) (hnodup : handles.Nodup) :
    (∃ bs' g₂, unflattenAll m' (handles.map arriving) c g' = some (NO_ERROR, c', bs', g₂) ∧
      List.Forall₂ (ArrivesIn g g₂) bs bs') ↔
    ∀ b ∈ bs, ∀ h, b.contents g = some h → Accepted h := by
  constructor
  · rintro ⟨bs', g₂, hrun, -⟩
    -- the first buffer beyond the limits would be answered with an error
    induction bs generalizing c m g' handles bs' with
    | nil => exact fun b hb => absurd hb List.not_mem_nil
    | cons b bs ih =>
      match handles, hlength with
      | handle :: handles, hlength =>
        -- what was written at the front is what the first call reads
        obtain ⟨h, hcontents, hfits, hrest⟩ := flattenAll_cons.mp hflat
        rw [List.map_cons, unflattenAll_cons] at hrun
        by_cases hacc : Accepted h
        · obtain ⟨b', g₁, hfirst, -⟩ := unflatten_first g' handle hrest hfits hacc
          rw [hfirst] at hrun
          simp only at hrun
          rw [if_neg fun hne => hne rfl, Option.map_eq_some_iff] at hrun
          obtain ⟨⟨err, c₂, bs₂, g₃⟩, hrun, heq⟩ := hrun
          -- the first call succeeded, so the run of the others did
          obtain ⟨rfl, rfl, rfl, rfl⟩ := heq
          have hrestAcc := ih hrest (Nat.lt_of_le_of_lt (Nat.sub_le _ _) hsize)
            (Nat.lt_of_le_of_lt (Nat.sub_le _ _) hcount) (Nat.succ.inj hlength)
            (List.nodup_cons.mp hnodup).2 bs₂ hrun
          intro b₂ hb₂ h₂ hcontents₂
          cases List.mem_cons.mp hb₂ with
          -- a buffer of the list is the first one or one of the rest
          | inl heq =>
            subst heq
            obtain rfl := Option.some.inj (hcontents.symm.trans hcontents₂)
            exact hacc
          | inr hmem => exact hrestAcc b₂ hmem h₂ hcontents₂
        · -- not accepted: the status of the first call is `BAD_VALUE`, and the run would have
          -- stopped
          rw [unflatten_of_not_accepted (holds_first hrest) hfits hacc hsize hcount] at hrun
          have hstatus : BAD_VALUE = NO_ERROR := congrArg Prod.fst (Option.some.inj hrun)
          exact absurd hstatus (by decide)
  · intro hacc
    obtain ⟨bs', g₂, hrun, hall, -⟩ := unflattenAll_of_accepted hflat hacc hlength hnodup
    exact ⟨bs', g₂, hrun, hall⟩

/-- Two handles that exist: one with a descriptor and two integers, one with an integer. -/
def twoHandles : Gralloc where
  handles handle := [none, some (.data, ⟨[3], [7, 8]⟩), some (.data, ⟨[], [9]⟩)].getD handle none
  sAllocList := []

/-- Buffers of these handles. -/
def twoBuffers : List GraphicBuffer :=
  [ofHandle 4 2 1 0 4 (some 1) false, ofHandle 8 8 1 0 8 (some 2) false]

/-- Memory in which nothing was written: all words and descriptors are zero. -/
def blank : Parcel := ⟨fun _ => 0, fun _ => 0⟩

theorem accepted_twoBuffers :
    ∀ b ∈ twoBuffers, ∀ h, b.contents twoHandles = some h → Accepted h := by
  intro b hb h hcontents
  simp only [twoBuffers, List.mem_cons, List.not_mem_nil, or_false] at hb
  obtain rfl | rfl := hb
  all_goals
    obtain rfl := Option.some.inj hcontents
    exact ⟨by decide, by decide⟩

theorem unflattenAll_flattenAll_twoBuffers : ∃ m' bs' g₂,
    unflattenAll m' ([5, 6].map arriving) ⟨0, 200, 0, 1⟩ ⟨fun _ => none, []⟩ =
      some (NO_ERROR, ⟨76, 124, 1, 0⟩, bs', g₂) ∧
    List.Forall₂ (ArrivesIn twoHandles g₂) twoBuffers bs' := by
  have hnodup : ([5, 6] : List Handle).Nodup := by decide
  obtain ⟨bs', g₂, hrun, hall⟩ :=
    (unflattenAll_flattenAll (g := twoHandles) (c := ⟨0, 200, 0, 1⟩) (m := blank)
      rfl (by decide) (by decide) rfl hnodup).mpr accepted_twoBuffers
  exact ⟨_, bs', g₂, hrun, hall⟩

/-! ### Where the sequence is written -/

/-- How many words a buffer is flattened to. -/
def flatLength (g : Gralloc) (b : GraphicBuffer) : ℕ := 8 + numInts ((b.contents g).getD none)

theorem flatLength_eq (hc : b.contents g = some h) : flatLength g b = 8 + numInts h := by
  rw [flatLength, hc]
  rfl

/-- Whether a sequence can be flattened does not depend on what is in the memory. -/
theorem flattenAll_any (hflat : flattenAll g bs c m = some (NO_ERROR, c', m')) (m₂ : Parcel) :
    ∃ m₂', flattenAll g bs c m₂ = some (NO_ERROR, c', m₂') := by
  induction bs generalizing c m m₂ with
  | nil =>
    obtain ⟨rfl, rfl, rfl⟩ := hflat
    exact ⟨m₂, rfl⟩
  | cons b bs ih =>
    obtain ⟨h, hcontents, hfits, hrest⟩ := flattenAll_cons.mp hflat
    obtain ⟨m₂', hrest'⟩ := ih hrest (m₂.put c b h)
    exact ⟨m₂', flattenAll_cons.mpr ⟨h, hcontents, hfits, hrest'⟩⟩

/-- A word that is changed belongs to one of the buffers. -/
theorem exists_of_changed (hflat : flattenAll g bs c m = some (NO_ERROR, c', m')) {a : ℕ}
    (hne : m'.words a ≠ m.words a) :
    ∃ front b back, bs = front ++ b :: back ∧
      c.buffer + 4 * (front.map (flatLength g)).sum ≤ a ∧
      a < c.buffer + 4 * (front.map (flatLength g)).sum + flatLength g b := by
  -- on the list of buffers: a word is written by at most one of them
  induction bs generalizing c m with
  | nil =>
    obtain ⟨rfl, rfl, rfl⟩ := hflat
    exact absurd rfl hne
  | cons b bs ih =>
    obtain ⟨h, hcontents, -, hrest⟩ := flattenAll_cons.mp hflat
    by_cases hfirst : (m.put c b h).words a = m.words a
    · -- it is changed by one of the others
      obtain ⟨front, b₂, back, rfl, hle, hlt⟩ := ih hrest fun heq => hne (heq.trans hfirst)
      refine ⟨b :: front, b₂, back, rfl, ?_, ?_⟩
      all_goals
        rw [List.map_cons, List.sum_cons, flatLength_eq hcontents]
        have hbuffer : (c.behind h).buffer = c.buffer + (8 + numInts h) * 4 := rfl
        omega
    · -- it is changed by the first one, and lies within its length
      obtain ⟨hle, hlt⟩ := lt_of_store_ne hfirst
      rw [length_flatWords] at hlt
      refine ⟨[], b, bs, rfl, hle, ?_⟩
      rw [flatLength_eq hcontents]
      exact hlt

/-- The last buffer is in the memory after the gaps of the others. -/
theorem holds_last (hflat : flattenAll g (front ++ [b]) c m = some (NO_ERROR, c', m')) :
    ∃ h, b.contents g = some h ∧
      load m'.words (c.buffer + 4 * (front.map (flatLength g)).sum) (8 + numInts h) =
        b.flatWords h := by
  induction front generalizing c m with
  | nil =>
    -- the last buffer is the first of what is left to write
    obtain ⟨h, hcontents, -, hrest⟩ := flattenAll_cons.mp hflat
    exact ⟨h, hcontents, (holds_first hrest).words⟩
  | cons b₂ front ih =>
    obtain ⟨h₂, hcontents₂, -, hrest⟩ := flattenAll_cons.mp hflat
    -- it survives the writes before it, which go to other words
    obtain ⟨h, hcontents, hload⟩ := ih hrest
    refine ⟨h, hcontents, ?_⟩
    -- the buffers before it push it back by the sum of their lengths
    have hbuffer : c.buffer + 4 * ((b₂ :: front).map (flatLength g)).sum =
        (c.behind h₂).buffer + 4 * (front.map (flatLength g)).sum := by
      show _ = c.buffer + (8 + numInts h₂) * 4 + _
      rw [List.map_cons, List.sum_cons, flatLength_eq hcontents₂]
      omega
    rw [hbuffer]
    exact hload

/-- All words that are written are within the bytes that were given, whatever was there. The memory
is left open, as a word that is written may have been there before. -/
def WritesInside (g : Gralloc) (bs : List GraphicBuffer) (c : Cursor) : Prop :=
  ∀ m c' m', flattenAll g bs c m = some (NO_ERROR, c', m') →
    ∀ a, m'.words a ≠ m.words a → c.buffer ≤ a ∧ a < c.buffer + c.size / 4

theorem writesInside_of_room
    (hroom : ∀ front last, bs = front ++ [last] →
      4 * (front.map (flatLength g)).sum + flatLength g last ≤ c.size / 4) :
    WritesInside g bs c := by
  intro m c' m' hflat a hne
  obtain ⟨front, b, back, rfl, hle, hlt⟩ := exists_of_changed hflat hne
  -- the last buffer ends behind this one
  have hlast : 4 * (front.map (flatLength g)).sum + flatLength g b ≤ c.size / 4 := by
    obtain rfl | ⟨back', last, rfl⟩ := List.eq_nil_or_concat' back
    · exact hroom front b rfl
    · have hend := hroom (front ++ b :: back') last (by simp)
      rw [List.map_append, List.sum_append, List.map_cons, List.sum_cons] at hend
      omega
  omega

theorem room_of_writesInside {last : GraphicBuffer}
    (hflat : flattenAll g (front ++ [last]) c m = some (NO_ERROR, c', m'))
    (hinside : WritesInside g (front ++ [last]) c) :
    4 * (front.map (flatLength g)).sum + flatLength g last ≤ c.size / 4 := by
  -- in memory that has the complement of it, the last word of the last buffer is changed
  let m₂ : Parcel := ⟨fun a => ~~~ m'.words a, m.descriptors⟩
  obtain ⟨m₂', hflat₂⟩ := flattenAll_any hflat m₂
  obtain ⟨h, hcontents, hload⟩ := holds_last hflat
  obtain ⟨h₂, hcontents₂, hload₂⟩ := holds_last hflat₂
  obtain rfl := Option.some.inj (hcontents.symm.trans hcontents₂)
  have hend := congrArg (fun ws => ws[7 + numInts h]?) (hload.trans hload₂.symm)
  rw [getElem?_load (by omega), getElem?_load (by omega), Option.some_inj] at hend
  have hchanged := hinside m₂ c' m₂' hflat₂
    (c.buffer + 4 * (front.map (flatLength g)).sum + (7 + numInts h)) (by
      rw [← hend]
      exact BitVec.ne_not_self (by decide))
  rw [flatLength_eq hcontents]
  omega

/-- A buffer starts behind four times the words of those before it, since `flatten` moves a pointer
to words by a number of bytes. Of all buffers the last one reaches furthest. -/
theorem writesInside_iff (hflat : flattenAll g bs c m = some (NO_ERROR, c', m')) :
    WritesInside g bs c ↔ ∀ front last, bs = front ++ [last] →
      4 * (front.map (flatLength g)).sum + flatLength g last ≤ c.size / 4 := by
  refine ⟨fun hinside front last heq => ?_, writesInside_of_room⟩
  subst heq
  exact room_of_writesInside hflat hinside

/-- **When the sequence is written inside the memory that was given.** Each buffer has the size that
`getFlattenedSize` says, and is followed by a gap three times as large. Memory of exactly the sizes
of all buffers is enough for one. -/
theorem flattenAll_inside_iff (hflat : flattenAll g bs c m = some (NO_ERROR, c', m')) :
    (WritesInside g bs c ↔ ∀ front last, bs = front ++ [last] →
      4 * (front.map (flatLength g)).sum + flatLength g last ≤ c.size / 4) ∧
    (c.size = 4 * (bs.map (flatLength g)).sum → (WritesInside g bs c ↔ bs.length ≤ 1)) := by
  refine ⟨writesInside_iff hflat, fun hsize => ?_⟩
  rw [writesInside_iff hflat, hsize, Nat.mul_div_cancel_left _ (by decide : 0 < 4)]
  -- nothing was written, or there is a last buffer
  obtain rfl | ⟨front, last, rfl⟩ := List.eq_nil_or_concat' bs
  · exact iff_of_true (fun front last heq => by simp at heq) (Nat.zero_le _)
  · rw [List.map_append, List.sum_append, List.map_singleton, List.sum_singleton,
      List.length_append, List.length_singleton]
    constructor
    · intro hroom
      have hle := hroom front last rfl
      -- without a gap there is no buffer before the last one
      cases front with
      | nil => exact Nat.le_refl _
      | cons b front =>
        rw [List.map_cons, List.sum_cons] at hle
        have hpos : 0 < flatLength g b := Nat.add_pos_left (by decide) _
        omega
    · -- a single buffer: the front is empty, and the sum is its own length
      intro hlength front' last' heq
      obtain rfl : front = [] := List.length_eq_zero_iff.mp (by omega)
      obtain ⟨rfl, heq⟩ := List.append_eq_singleton_iff.mp heq.symm |>.resolve_right (by simp)
      obtain rfl : last = last' := by simpa using heq
      simp

/-- Of two buffers in memory of their size the second is written behind it. -/
theorem flattenAll_inside_iff_twoBuffers :
    ¬WritesInside twoHandles twoBuffers ⟨0, 76, 0, 1⟩ := by
  obtain ⟨-, hsize⟩ : _ ∧ (_ → (WritesInside twoHandles twoBuffers ⟨0, 76, 0, 1⟩ ↔ _)) :=
    flattenAll_inside_iff (m := blank) rfl
  exact fun hinside => absurd ((hsize rfl).mp hinside) (by decide)

end Sequence

/-! ### What is accepted -/

section Reading

variable {b b' : GraphicBuffer} {g g' : Gralloc} {c c' : Cursor} {m m' : Parcel}
  {o : UnflattenOutcome} {err : ℤ}

/-- The parcels agree on what the cursor gives. -/
structure SameGiven (m m' : Parcel) (c : Cursor) : Prop where
  words : Agree m.words m'.words c.buffer (c.buffer + c.size / 4)
  descriptors : Agree m.descriptors m'.descriptors c.fds (c.fds + c.count)

/-- **Nothing else is read.** -/
theorem unflatten_congr (hsame : SameGiven m m' c) :
    b.unflatten m c o g = b.unflatten m' c o g := by
  unfold unflatten
  -- too short for a header: neither message is read
  by_cases hheader : c.size < 8 * 4
  · rw [if_pos hheader, if_pos hheader]
  · -- the header is inside
    have hword : ∀ i, i < 8 → m.words (c.buffer + i) = m'.words (c.buffer + i) :=
      fun i hi => hsame.words _ (Nat.le_add_right _ _) (by omega)
    have hmagic : m.words c.buffer = m'.words c.buffer := hword 0 (by decide)
    rw [hmagic, hword 6 (by decide), hword 7 (by decide)]
    generalize (m'.words (c.buffer + 6)).toNat = numFds
    generalize (m'.words (c.buffer + 7)).toNat = numInts
    by_cases hroom : c.size < (8 + numInts) * 4
    · -- too short for the words it counts: the same error for both
      simp only [if_pos hroom]
    · by_cases hcount : c.count < numFds
      · simp only [if_pos hcount]
      · -- and so is what the counts say
        have hwords : load m.words c.buffer (8 + numInts) = load m'.words c.buffer (8 + numInts) :=
          load_congr (hsame.words.mono (Nat.le_refl _) (by omega))
        have hfds : load m.descriptors c.fds numFds = load m'.descriptors c.fds numFds :=
          load_congr (hsame.descriptors.mono (Nat.le_refl _) (by omega))
        simp only [hwords, hfds]

/-- What `unflatten` has checked when it got as far as the handle. -/
structure Checked (m : Parcel) (c : Cursor) (numFds numInts : ℕ) : Prop where
  is_magic : m.words c.buffer = magic
  fds_eq : (m.words (c.buffer + 6)).toNat = numFds
  ints_eq : (m.words (c.buffer + 7)).toNat = numInts
  accepted : numFds < maxNumber ∧ numInts < maxNumber - 10
  room : (8 + numInts) * 4 ≤ c.size ∧ numFds ≤ c.count

/-- `unflatten` has refused the counts. -/
def TooLarge (m : Parcel) (c : Cursor) : Prop :=
  8 * 4 ≤ c.size ∧ m.words c.buffer = magic ∧
    ((m.words (c.buffer + 6)).toNat ≥ maxNumber ∨ (m.words (c.buffer + 7)).toNat ≥ maxNumber - 10)

/-- **What `unflatten` can do**: it stops at a check, or it goes on with the handle. Of the errors
before the handle only the one about the counts changes the buffer, and the old handle is freed
after the last check. -/
theorem unflatten_cases (h : b.unflatten m c o g = some (err, c', b', g')) :
    (err ≠ NO_ERROR ∧ c' = c ∧ g' = g ∧ (∀ numFds numInts, ¬Checked m c numFds numInts) ∧
      (TooLarge m c ∧ b' = b.cleared ∨ ¬TooLarge m c ∧ b' = b)) ∨
    ∃ numFds numInts b₁ g₁, Checked m c numFds numInts ∧
      b.freeHandleIfAny o.freed g = some (b₁, g₁) ∧
      b₁.fill (load m.words c.buffer (8 + numInts)) (load m.descriptors c.fds numFds) o g₁ =
        (err, b', g') ∧
      c' = if err ≠ NO_ERROR then c else c.advance ((8 + numInts) * 4) numFds := by
  unfold unflatten at h
  by_cases hheader : c.size < 8 * 4
  · -- `NO_MEMORY`: not even a header, so nothing could be checked
    rw [if_pos hheader] at h
    obtain ⟨rfl, rfl, rfl, rfl⟩ := h
    refine .inl ⟨by decide, rfl, rfl, fun numFds numInts hcheck => ?_, .inr ⟨?_, rfl⟩⟩
    · have hroom := hcheck.room.1
      omega
    · exact fun hlarge => Nat.not_le_of_lt hheader hlarge.1
  rw [if_neg hheader] at h
  by_cases hmagic : m.words c.buffer = magic
  case neg =>
    -- `BAD_TYPE`: the message does not begin with `GBFR`
    rw [if_pos hmagic] at h
    obtain ⟨rfl, rfl, rfl, rfl⟩ := h
    exact .inl ⟨by decide, rfl, rfl, fun numFds numInts hcheck => hmagic hcheck.is_magic,
      .inr ⟨fun hlarge => hmagic hlarge.2.1, rfl⟩⟩
  rw [if_neg fun hne => hne hmagic] at h
  by_cases hmany : (m.words (c.buffer + 6)).toNat ≥ maxNumber ∨
      (m.words (c.buffer + 7)).toNat ≥ maxNumber - 10
  · rw [if_pos hmany] at h
    -- `BAD_VALUE`: the only error that clears the buffer
    obtain ⟨rfl, rfl, rfl, rfl⟩ := h
    refine .inl ⟨by decide, rfl, rfl, fun numFds numInts hcheck => ?_,
      .inl ⟨⟨Nat.le_of_not_lt hheader, hmagic, hmany⟩, rfl⟩⟩
    obtain ⟨hfds, hints⟩ := hcheck.accepted
    rw [← hcheck.fds_eq] at hfds
    rw [← hcheck.ints_eq] at hints
    exact hmany.elim (Nat.not_le_of_lt hfds) (Nat.not_le_of_lt hints)
  rw [if_neg hmany] at h
  have hsmall : ¬TooLarge m c := fun hlarge => hmany hlarge.2.2
  by_cases hroom : c.size < (8 + (m.words (c.buffer + 7)).toNat) * 4
  · -- the words do not fit into the size that came with the message
    rw [if_pos hroom] at h
    obtain ⟨rfl, rfl, rfl, rfl⟩ := h
    refine .inl ⟨by decide, rfl, rfl, fun numFds numInts hcheck => ?_, .inr ⟨hsmall, rfl⟩⟩
    exact Nat.not_le_of_lt hroom (hcheck.ints_eq ▸ hcheck.room.1)
  rw [if_neg hroom] at h
  by_cases hcount : c.count < (m.words (c.buffer + 6)).toNat
  · -- the descriptors do not fit into their count
    rw [if_pos hcount] at h
    obtain ⟨rfl, rfl, rfl, rfl⟩ := h
    refine .inl ⟨by decide, rfl, rfl, fun numFds numInts hcheck => ?_, .inr ⟨hsmall, rfl⟩⟩
    exact Nat.not_le_of_lt hcount (hcheck.fds_eq ▸ hcheck.room.2)
  rw [if_neg hcount] at h
  -- all checks have passed
  rw [not_or, Nat.not_le, Nat.not_le] at hmany
  -- the old handle is freed only after the last check
  obtain ⟨⟨b₁, g₁⟩, hfree, h⟩ := Option.bind_eq_some_iff.mp h
  refine .inr ⟨_, _, b₁, g₁,
    ⟨hmagic, rfl, rfl, hmany, Nat.le_of_not_lt hroom, Nat.le_of_not_lt hcount⟩, hfree, ?_⟩
  dsimp only at h
  generalize b₁.fill _ _ o g₁ = r at h ⊢
  obtain ⟨err', b₂, g₂⟩ := r
  by_cases herr : err' ≠ NO_ERROR
  · -- the handle could not be filled: the cursor stays where it was
    simp only [if_pos herr] at h
    obtain ⟨rfl, rfl, rfl, rfl⟩ := h
    exact ⟨rfl, (if_pos herr).symm⟩
  · obtain rfl := not_not.mp herr
    simp only [if_neg herr] at h
    -- filled: the cursor moves behind what was read
    obtain ⟨rfl, rfl, rfl, rfl⟩ := h
    exact ⟨rfl, (if_neg fun hne => hne rfl).symm⟩

/-- `unflatten` returns if the old handle can be freed. -/
theorem unflatten_isSome {r : GraphicBuffer × Gralloc}
    (hfree : b.freeHandleIfAny o.freed g = some r) : (b.unflatten m c o g).isSome := by
  unfold unflatten
  simp only [hfree]
  split
  · rfl
  · split
    · rfl
    · split
      · rfl
      · split
        · rfl
        · split
          · rfl
          · rw [Option.bind_eq_bind, Option.bind_some]
            split <;> rfl

/-- The header and the integers. -/
theorem load_eq (n : ℕ) : load m.words c.buffer (8 + n) =
    [m.words c.buffer, m.words (c.buffer + 1), m.words (c.buffer + 2), m.words (c.buffer + 3),
      m.words (c.buffer + 4), m.words (c.buffer + 5), m.words (c.buffer + 6),
      m.words (c.buffer + 7)] ++ load m.words (c.buffer + 8) n := load_add

/-- The handle that is made of what was read is flattened to what was read. The words are the same,
with the counts, and so are the descriptors; so writing them back changes nothing. -/
theorem flatten_read {numFds numInts : ℕ} {handle : Handle} (hcheck : Checked m c numFds numInts)
    (hfields : b'.width = m.words (c.buffer + 1) ∧ b'.height = m.words (c.buffer + 2) ∧
      b'.stride = m.words (c.buffer + 3) ∧ b'.format = m.words (c.buffer + 4) ∧
      b'.usage = m.words (c.buffer + 5))
    (hhandle : b'.handle = some handle)
    (hmade : g'.handles handle = some (.native,
      ⟨load m.descriptors c.fds numFds, load m.words (c.buffer + 8) numInts⟩)) :
    b'.flatten g' c m = some (NO_ERROR, c.advance ((8 + numInts) * 4) numFds, m) := by
  -- the handle that was made holds what the message holds
  let h : NativeHandle := ⟨load m.descriptors c.fds numFds, load m.words (c.buffer + 8) numInts⟩
  have hcontents : b'.contents g' = some (some h) := by
    rw [contents, hhandle]
    show Option.map _ (g'.handles handle) = _
    rw [hmade]
    rfl
  have hfds : getFdCount (some h) = numFds := length_load
  have hints : GraphicBuffer.numInts (some h) = numInts := length_load
  -- the words are those that were read, the counts included
  have hwords : b'.flatWords (some h) = load m.words c.buffer (8 + numInts) := by
    obtain ⟨hwidth, hheight, hstride, hformat, husage⟩ := hfields
    rw [load_eq, flatWords, hfds, hints, hwidth, hheight, hstride, hformat, husage,
      ← hcheck.is_magic]
    congr 1
    rw [← hcheck.fds_eq, ← hcheck.ints_eq, BitVec.ofNat_toNat, BitVec.ofNat_toNat,
      BitVec.setWidth_eq, BitVec.setWidth_eq]
  -- writing back what was read changes no word
  rw [flatten_eq hcontents, getFlattenedSize, hfds, hints, if_pos hcheck.room, hwords,
    store_load_self]
  -- nor any descriptor
  show some (NO_ERROR, _, (⟨m.words, store m.descriptors c.fds (load m.descriptors c.fds numFds)⟩ :
    Parcel)) = _
  rw [store_load_self]

/-- A buffer that was unflattened is flattened to the words that it was made of. There was something
to put into the handle, and it was made and registered, or there would be an error. -/
theorem flatten_filled {numFds numInts : ℕ} (hcheck : Checked m c numFds numInts)
    (hany : numFds ≠ 0 ∨ numInts ≠ 0)
    (hfill : b.fill (load m.words c.buffer (8 + numInts)) (load m.descriptors c.fds numFds) o g =
      (NO_ERROR, b', g')) :
    b'.flatten g' c m = some (NO_ERROR, c.advance ((8 + numInts) * 4) numFds, m) := by
  have hnonempty : load m.descriptors c.fds numFds ≠ [] ∨
      (load m.words c.buffer (8 + numInts)).drop 8 ≠ [] := by
    rw [load_eq]
    show _ ∨ load m.words (c.buffer + 8) numInts ≠ []
    rw [← List.length_pos_iff, ← List.length_pos_iff, length_load, length_load]
    omega
  unfold fill at hfill
  rw [if_pos hnonempty] at hfill
  -- the handle was made and registered, or there would be an error
  cases hcreated : o.created with
  | none =>
    rw [hcreated] at hfill
    have hstatus : NO_MEMORY = NO_ERROR := congrArg Prod.fst hfill
    exact absurd hstatus (by decide)
  | some handle =>
    rw [hcreated] at hfill
    dsimp only at hfill
    by_cases hregistered : o.registered ≠ NO_ERROR
    · rw [if_pos hregistered] at hfill
      exact absurd (congrArg Prod.fst hfill) hregistered
    · rw [if_neg hregistered, load_eq] at hfill
      obtain ⟨-, rfl, rfl⟩ := hfill
      exact flatten_read hcheck ⟨rfl, rfl, rfl, rfl, rfl⟩ rfl (Function.update_self _ _ _)

/-- **What `unflatten` reads and what it accepts.** It depends on nothing but what the cursor gives.
With an error the cursor stays. What it accepts is a flattened buffer: `flatten` of the buffer that
was made of it writes what is there, and moves the cursor as far. -/
theorem unflatten_sound (h : b.unflatten m c o g = some (err, c', b', g')) :
    (∀ m', SameGiven m m' c → b.unflatten m' c o g = some (err, c', b', g')) ∧
    (err ≠ NO_ERROR → c' = c) ∧
    (err = NO_ERROR → m.words (c.buffer + 6) ≠ 0 ∨ m.words (c.buffer + 7) ≠ 0 →
      b'.flatten g' c m = some (NO_ERROR, c', m)) := by
  refine ⟨fun m' hsame => unflatten_congr hsame ▸ h, ?_, ?_⟩
  · -- an error leaves the cursor, whether it came from the checks or from the handle
    intro herr
    obtain ⟨-, hc, -⟩ | ⟨numFds, numInts, b₁, g₁, -, -, -, hc⟩ := unflatten_cases h
    · exact hc
    · exact hc.trans (if_pos herr)
  · intro herr hany
    subst herr
    obtain ⟨hne, -⟩ | ⟨numFds, numInts, b₁, g₁, hcheck, -, hfill, hc⟩ := unflatten_cases h
    · exact absurd rfl hne
    · rw [hc, if_neg fun hne => hne rfl]
      -- the counts of the header are those of the check, as words
      refine flatten_filled hcheck ?_ hfill
      rw [← hcheck.fds_eq, ← hcheck.ints_eq]
      exact hany.imp (fun hne heq => hne (BitVec.eq_of_toNat_eq heq))
        fun hne heq => hne (BitVec.eq_of_toNat_eq heq)

/-- Words of a buffer with a descriptor and an integer. -/
def sentWords : Parcel where
  words a := [magic, 4, 2, 4, 1, 0, 1, 1, 9].getD a 0
  descriptors _ := 3

theorem unflatten_sound_sentWords : ∃ b' g',
    empty.unflatten sentWords ⟨0, 40, 0, 1⟩ (arriving 5) ⟨fun _ => none, []⟩ =
      some (NO_ERROR, ⟨36, 4, 1, 0⟩, b', g') ∧
    b'.flatten g' ⟨0, 40, 0, 1⟩ sentWords = some (NO_ERROR, ⟨36, 4, 1, 0⟩, sentWords) := by
  refine ⟨_, _, rfl, ?_⟩
  exact (unflatten_sound (b := empty) (g := ⟨fun _ => none, []⟩) (m := sentWords)
    (c := ⟨0, 40, 0, 1⟩) (o := arriving 5) rfl).2.2 rfl (.inl (by decide))

end Reading

end GraphicBuffer

end Shims

end BlueCommon
