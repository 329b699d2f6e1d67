import BlueCommon.Lib.Lts
import BlueCommon.Lib.Owners
import BlueCommon.Shims.FlattenedBuffers
import Mathlib.Data.List.Nodup

/-!
# Which buffer frees which handle

Clients make native handles, make graphic buffers of them, of a size or around another buffer, and
reallocate, unflatten and destroy these buffers in any order. The gralloc device and
`native_handle_create` may hand out an address again as soon as it was freed.

* `World`, `Action`, `apply`: the buffers and handles, and the calls. `none` is a call that frees a
  handle that does not exist, or in the way that is meant for the other kind.
* `World.table`: who owns which handle, as a table of `Owners`. `Effect`: a call amounts to valid
  changes of this table and keeps `Inv`.
* `apply_effect`: what each call does, and `Action.Keeps`: when it forgets no handle.
* `bufferSystem_never_faults`: no handle is freed twice or in the wrong way.
* `sAllocList_exact`: the list of the allocator has the handles of the device that exist, each with
  the record of the buffer that owns it.
* `covered_iff_keeps`: every handle that exists has an owner exactly if no call forgot one, and a
  handle that has none stays without one, and is never freed, in all further runs.

Each call is described once, by `apply_effect`: it does not fault, it keeps `Inv`, and it amounts to
a list of changes of the table. What is asked about whole runs is then a general fact about such
tables: sound tables stay sound, and a handle that has lost its owner gets no other one.
-/

namespace BlueCommon

namespace Shims

open Cells Owners

namespace GraphicBuffer

/-- The handle that the destructor frees, and how. With `ownData` the buffer has it from the
allocator and gives it back there; with `ownHandle` it closes and deletes it as a native handle.
With `ownNone` it frees nothing. -/
def owned (b : GraphicBuffer) : Option (HandleKind × Handle) :=
  match b.mOwner with
  | .ownNone => none
  | .ownHandle => b.handle.map fun handle => (.native, handle)
  | .ownData => b.handle.map fun handle => (.data, handle)

/-- The record of an allocation of this buffer, with the size, format, usage and stride that the
buffer has now. It is what the list of the allocator should say of its handle. -/
def allocRec (api : PixelApi) (b : GraphicBuffer) : AllocRec :=
  Gralloc.allocRec api b.width b.height b.format b.usage b.stride

/-- The handles after the one that the buffer owns was freed. The device may refuse to free a handle
of its own, and then it stays. -/
def afterFree (err : ℤ) (b : GraphicBuffer) (g : Gralloc) : Gralloc :=
  match b.owned with
  | none => g
  | some (.native, handle) => g.remove handle
  | some (.data, handle) => if err = NO_ERROR then (g.remove handle).removeItem handle else g

/-- The device frees the handle, if it is the one to free it. A native handle is deleted in any
case. -/
def FreedBy (err : ℤ) (b : GraphicBuffer) : Prop :=
  ∀ handle, b.owned = some (.data, handle) → err = NO_ERROR

end GraphicBuffer

open GraphicBuffer

/-! ### The calls -/

/-- The handles, the buffers by number, and which native handles the clients own. The numbers stand
for the addresses of the buffers, so a number that is taken is not given out again. -/
structure World where
  gralloc : Gralloc
  buffers : ℕ → Option GraphicBuffer
  client : Handle → Bool

namespace World

/-- The buffer number `i` and the handles are other ones. -/
def put (i : ℕ) (b : Option GraphicBuffer) (g : Gralloc) (w : World) : World :=
  { w with gralloc := g, buffers := Function.update w.buffers i b }

/-- A client gives a handle away. When the new buffer is to keep the ownership, the client owns the
handle no longer; otherwise nothing changes hands. -/
def give (inHandle : Option Handle) (keepOwnership : Bool) (w : World) : World :=
  match inHandle, keepOwnership with
  | some handle, true => { w with client := Function.update w.client handle false }
  | _, _ => w

/-- Who owns which handle: the buffers by number, and the clients. A resource is a handle together
with the way it is freed, so to free it in the wrong way is to free what is not there. -/
def table (w : World) : Table (ℕ ⊕ Handle) (HandleKind × Handle) where
  slot
    | .inl i => (w.buffers i).bind owned
    | .inr handle => if w.client handle then some (.native, handle) else none
  live r := ∃ contents, w.gralloc.handles r.2 = some (r.1, contents)

/-- A buffer owns the handle and frees it in the way of its kind, or a client owns it, which is
possible for native handles only. -/
def Owned (w : World) (kind : HandleKind) (handle : Handle) : Prop :=
  (∃ i b, w.buffers i = some b ∧ b.owned = some (kind, handle)) ∨
    (kind = .native ∧ w.client handle = true)

/-- The handle exists, and nobody will free it. No buffer has it to free in the way of its kind, and
no client has kept it. -/
def Lost (w : World) (kind : HandleKind) (handle : Handle) : Prop :=
  (∃ contents, w.gralloc.handles handle = some (kind, contents)) ∧ ¬w.Owned kind handle

end World

/-- The calls, with the answers that they get: from the gralloc device, from `native_handle_create`,
and from `registerBuffer`. Clients also make and delete native handles of their own. -/
inductive Action
  | new (i : ℕ)
  | sized (i : ℕ) (inWidth inHeight inFormat inUsage : Word) (o : AllocOutcome)
  | given (i : ℕ) (inWidth inHeight inFormat inUsage inStride : Word) (inHandle : Option Handle)
      (keepOwnership : Bool)
  | wrapped (i j : ℕ) (keepOwnership : Bool)
  | reallocated (i : ℕ) (inWidth inHeight inFormat inUsage : Word) (err : ℤ) (o : AllocOutcome)
  | unflattened (i : ℕ) (m : Parcel) (c : Cursor) (o : UnflattenOutcome)
  | destroyed (i : ℕ) (err : ℤ)
  /-- A client calls `native_handle_create`. -/
  | made (handle : Handle) (contents : NativeHandle)
  /-- A client calls `native_handle_close` and `native_handle_delete`. -/
  | deleted (handle : Handle)

namespace Action

/-- What a call does. There is no world after it when it frees a handle that does not exist, or
frees one in the way of the other kind. -/
def apply (api : PixelApi) : Action → World → Option World
  | .new i, w => some (w.put i (some empty) w.gralloc)
  | .sized i inWidth inHeight inFormat inUsage o, w =>
    let (b, g) := ofSize api inWidth inHeight inFormat inUsage o w.gralloc
    some (w.put i (some b) g)
  | .given i inWidth inHeight inFormat inUsage inStride inHandle keepOwnership, w =>
    some ((w.give inHandle keepOwnership).put i (some (ofHandle inWidth inHeight inFormat inUsage
      inStride inHandle keepOwnership)) w.gralloc)
  | .wrapped i j keepOwnership, w => do
    let b ← w.buffers j
    some ((w.give b.handle keepOwnership).put i (some (wrap j b keepOwnership)) w.gralloc)
  | .reallocated i inWidth inHeight inFormat inUsage err o, w => do
    let b ← w.buffers i
    let (_, b, g) ← b.reallocate api inWidth inHeight inFormat inUsage err o w.gralloc
    some (w.put i (some b) g)
  | .unflattened i m c o, w => do
    let b ← w.buffers i
    let (_, _, b, g) ← b.unflatten m c o w.gralloc
    some (w.put i (some b) g)
  | .destroyed i err, w => do
    let b ← w.buffers i
    let g ← b.destroy err w.gralloc
    some (w.put i none g)
  | .made handle contents, w =>
    some { w with
      gralloc := w.gralloc.create handle .native contents
      client := Function.update w.client handle true }
  | .deleted handle, w => do
    let g ← w.gralloc.deleteNative handle
    some { w with gralloc := g, client := Function.update w.client handle false }

/-- The address is not in use, at the latest when the handle of the buffer was freed. The new handle
may be put where the old one was. -/
def Free (w : World) (err : ℤ) (b : GraphicBuffer) (handle : Handle) : Prop :=
  (b.afterFree err w.gralloc).handles handle = none

/-- What the callers and the device promise. A client that lets a buffer keep the ownership of a
handle has it, and gives it away. A wrapped buffer stays as long as the one around it. -/
def Allowed (w : World) : Action → Prop
  | .new i => w.buffers i = none
  | .sized i _ _ _ _ o => w.buffers i = none ∧
    ∀ handle contents stride, o = .allocated handle contents stride → Free w 0 empty handle
  | .given i _ _ _ _ _ inHandle keepOwnership => w.buffers i = none ∧
    (keepOwnership = true → ∀ handle, inHandle = some handle → w.client handle = true)
  | .wrapped i j keepOwnership => w.buffers i = none ∧ ∃ b, w.buffers j = some b ∧
    (keepOwnership = true → ∀ handle, b.handle = some handle → w.client handle = true)
  | .reallocated i _ _ _ _ err o => ∃ b, w.buffers i = some b ∧
    ∀ handle contents stride, o = .allocated handle contents stride → Free w err b handle
  | .unflattened i _ _ o => ∃ b, w.buffers i = some b ∧
    ∀ handle, o.created = some handle → Free w o.freed b handle
  | .destroyed i _ => (∃ b, w.buffers i = some b) ∧
    ∀ k b, w.buffers k = some b → b.mWrappedBuffer ≠ some i
  | .made handle _ => w.gralloc.handles handle = none
  | .deleted handle => w.client handle = true

/-- A call after which every handle that had an owner and exists still has one. What can be lost is
the old handle, when the device does not free it or the call forgets it, and a new handle that is
not registered. -/
def Keeps (w : World) : Action → Prop
  | .reallocated i inWidth inHeight inFormat inUsage err _ => ∀ b, w.buffers i = some b →
    b.mOwner = .ownData →
    ¬(inWidth = b.width ∧ inHeight = b.height ∧ inFormat = b.format ∧ inUsage = b.usage) →
    FreedBy err b
  | .unflattened i m c o => ∀ b, w.buffers i = some b →
    (TooLarge m c → b.owned = none) ∧
    ∀ numFds numInts, Checked m c numFds numInts → FreedBy o.freed b ∧
      (numFds ≠ 0 ∨ numInts ≠ 0 → o.created ≠ none → o.registered = NO_ERROR)
  | .destroyed i err => ∀ b, w.buffers i = some b → FreedBy err b
  | _ => True

end Action

/-! ### The invariant -/

/-- `sAllocList` has the handles of the device that exist, once each. A native handle is not in the
list. -/
structure Gralloc.Listed (g : Gralloc) : Prop where
  keys : ∀ handle, (∃ rec, (handle, rec) ∈ g.sAllocList) ↔
    ∃ contents, g.handles handle = some (.data, contents)
  nodup : (g.sAllocList.map Prod.fst).Nodup

/-- What holds between the calls. -/
structure Inv (api : PixelApi) (w : World) : Prop where
  /-- What is owned exists, in its kind, and has one owner. -/
  sound : w.table.Sound
  listed : w.gralloc.Listed
  /-- The record of a handle describes the buffer that owns it. -/
  described : ∀ i b handle, w.buffers i = some b → b.owned = some (.data, handle) →
    (handle, b.allocRec api) ∈ w.gralloc.sAllocList

/-- A call, or a part of one, that amounts to valid changes of ownership, and that forgets nothing
exactly if `keeps`. -/
structure Effect (api : PixelApi) (w w' : World) (keeps : Prop) : Prop where
  inv : Inv api w'
  run : ∃ cs, Table.ValidRun cs w.table ∧ Table.run cs w.table = w'.table ∧
    (Table.KeepsRun cs w.table ↔ keeps)

section Parts

variable {api : PixelApi} {w w' w'' : World} {g : Gralloc} {i j : ℕ} {b b' : GraphicBuffer}
  {handle : Handle} {kind : HandleKind} {contents : NativeHandle} {err : ℤ} {keeps keeps' : Prop}

/-- One part of a call and then another one. The changes of ownership come one after the other, and
both parts keep the table covered if each of them does. -/
theorem Effect.trans (h : Effect api w w' keeps) (h' : Effect api w' w'' keeps') :
    Effect api w w'' (keeps ∧ keeps') := by
  obtain ⟨cs, hvalid, hrun, hkeeps⟩ := h.run
  obtain ⟨cs', hvalid', hrun', hkeeps'⟩ := h'.run
  refine ⟨h'.inv, cs ++ cs', ?_, ?_, ?_⟩
  · exact Table.validRun_append.mpr ⟨hvalid, hrun ▸ hvalid'⟩
  · rw [Table.run_append, hrun, hrun']
  · rw [Table.keepsRun_append, hrun]
    exact and_congr hkeeps hkeeps'

/-- Nothing happens. -/
theorem Effect.refl (hinv : Inv api w) : Effect api w w True := ⟨hinv, [], trivial, rfl, Iff.rfl⟩

/-- A part of a call that amounts to one change. -/
theorem Effect.of_change {c : Change (ℕ ⊕ Handle) (HandleKind × Handle)} (hinv : Inv api w)
    (hvalid : c.Valid w.table) (htable : c.apply w.table = w'.table)
    (hlisted : w'.gralloc.Listed)
    (hdescribed : ∀ i b handle, w'.buffers i = some b → b.owned = some (.data, handle) →
      (handle, b.allocRec api) ∈ w'.gralloc.sAllocList) :
    Effect api w w' (c.Keeps w.table) where
  inv := ⟨htable ▸ hinv.sound.apply hvalid, hlisted, hdescribed⟩
  run := ⟨[c], ⟨hvalid, trivial⟩, htable, and_iff_left trivial⟩

/-! ### What a buffer owns -/

theorem owned_eq_data : b.owned = some (.data, handle) ↔
    b.mOwner = .ownData ∧ b.handle = some handle := by
  unfold owned
  cases b.mOwner with
  | ownNone => simp
  | ownHandle => simp
  | ownData => simp

theorem owned_eq_native : b.owned = some (.native, handle) ↔
    b.mOwner = .ownHandle ∧ b.handle = some handle := by
  unfold owned
  cases b.mOwner with
  | ownNone => simp
  | ownHandle => simp
  | ownData => simp

theorem owned_of_handle_none (h : b.handle = none) : b.owned = none := by
  unfold owned
  rw [h]
  cases b.mOwner <;> rfl

theorem owned_cleared : b.cleared.owned = none := owned_of_handle_none rfl

/-! ### The table -/

/-- Only the slot of the buffer is another one. -/
theorem slot_put {b : Option GraphicBuffer} :
    (w.put i b g).table.slot = Function.update w.table.slot (.inl i) (b.bind owned) := by
  funext s
  cases s with
  | inl j =>
    by_cases hij : j = i
    · subst hij
      rw [Function.update_self]
      show (Function.update w.buffers j b j).bind owned = _
      rw [Function.update_self]
    · rw [Function.update_of_ne fun heq => hij (Sum.inl.inj heq)]
      show (Function.update w.buffers i b j).bind owned = _
      rw [Function.update_of_ne hij]
      rfl
  | inr handle =>
    rw [Function.update_of_ne Sum.inr_ne_inl]
    rfl

/-- Only the slot of the client is another one. -/
theorem slot_client (w : World) (handle : Handle) (owns : Bool) {g : Gralloc} :
    ({ w with gralloc := g, client := Function.update w.client handle owns } : World).table.slot =
      Function.update w.table.slot (.inr handle)
        (if owns then some (.native, handle) else none) := by
  funext s
  cases s with
  | inl j =>
    rw [Function.update_of_ne Sum.inl_ne_inr]
    rfl
  | inr other =>
    show (if Function.update w.client handle owns other then _ else _) = _
    by_cases heq : other = handle
    · subst heq
      rw [Function.update_self, Function.update_self]
    · rw [Function.update_of_ne heq, Function.update_of_ne fun h => heq (Sum.inr.inj h)]
      rfl

theorem slot_inl (h : w.buffers i = some b) : w.table.slot (.inl i) = b.owned := by
  show (w.buffers i).bind owned = _
  rw [h]
  rfl

theorem slot_inl_none (h : w.buffers i = none) : w.table.slot (.inl i) = none := by
  show (w.buffers i).bind owned = _
  rw [h]
  rfl

theorem put_put {b b' : Option GraphicBuffer} {g' : Gralloc} :
    (w.put i b g).put i b' g' = w.put i b' g' := by
  unfold World.put
  rw [Function.update_idem]

/-- The buffers of the new world. -/
theorem buffers_put {b₀ : Option GraphicBuffer} (h : (w.put i b₀ g).buffers j = some b) :
    (j = i ∧ b₀ = some b) ∨ (j ≠ i ∧ w.buffers j = some b) := by
  change Function.update w.buffers i b₀ j = some b at h
  by_cases hij : j = i
  · subst hij
    rw [Function.update_self] at h
    exact .inl ⟨rfl, h⟩
  · rw [Function.update_of_ne hij] at h
    exact .inr ⟨hij, h⟩

/-! ### The handles and the list -/

/-- The handles that exist when one more was made. -/
theorem exists_create {handles : Handle → Option (HandleKind × NativeHandle)}
    (hfree : handles handle = none) {kind' : HandleKind} {handle' : Handle} :
    (∃ contents', Function.update handles handle (some (kind, contents)) handle' =
      some (kind', contents')) ↔
    (∃ contents', handles handle' = some (kind', contents')) ∨
      (kind', handle') = (kind, handle) := by
  by_cases heq : handle' = handle
  · subst heq
    rw [Function.update_self, hfree]
    simp [eq_comm]
  · rw [Function.update_of_ne heq]
    exact (or_iff_left fun h => heq (Prod.mk.inj h).2).symm

/-- The handles that exist when one was freed. A handle exists in one kind only. -/
theorem exists_remove {handles : Handle → Option (HandleKind × NativeHandle)}
    (hlive : handles handle = some (kind, contents)) {kind' : HandleKind} {handle' : Handle} :
    (∃ contents', Function.update handles handle none handle' = some (kind', contents')) ↔
    (∃ contents', handles handle' = some (kind', contents')) ∧
      some (kind, handle) ≠ some (kind', handle') := by
  by_cases heq : handle' = handle
  · subst heq
    rw [Function.update_self, hlive]
    simp
  · rw [Function.update_of_ne heq]
    exact (and_iff_left fun h => heq (Prod.mk.inj (Option.some.inj h)).2.symm).symm

theorem mem_add {handle' : Handle} {rec rec' : AllocRec} :
    (handle', rec') ∈ (g.add handle rec).sAllocList ↔
      (handle' = handle ∧ rec' = rec) ∨ (handle' ≠ handle ∧ (handle', rec') ∈ g.sAllocList) := by
  simp only [Gralloc.add, List.mem_cons, List.mem_filter, Prod.mk.injEq, ne_eq, decide_not,
    Bool.not_eq_true', decide_eq_false_iff_not]
  rw [and_comm (a := (handle', rec') ∈ g.sAllocList)]

theorem mem_removeItem {handle' : Handle} {rec' : AllocRec} :
    (handle', rec') ∈ (g.removeItem handle).sAllocList ↔
      handle' ≠ handle ∧ (handle', rec') ∈ g.sAllocList := by
  simp only [Gralloc.removeItem, List.mem_filter, ne_eq, decide_not, Bool.not_eq_true',
    decide_eq_false_iff_not]
  exact and_comm

theorem nodup_keys_filter {entries : List (Handle × AllocRec)}
    (h : (entries.map Prod.fst).Nodup) :
    ((entries.filter fun entry => entry.1 ≠ handle).map Prod.fst).Nodup :=
  List.Sublist.nodup (List.Sublist.map _ List.filter_sublist) h

theorem Gralloc.Listed.create_native (hg : g.Listed) (hfree : g.handles handle = none) :
    (g.create handle .native contents).Listed where
  keys other := by
    rw [show (g.create handle .native contents).sAllocList = g.sAllocList from rfl, hg.keys]
    show _ ↔ ∃ contents', Function.update g.handles handle _ other = _
    by_cases heq : other = handle
    · subst heq
      rw [Function.update_self, hfree]
      simp
    · rw [Function.update_of_ne heq]
  nodup := hg.nodup

theorem Gralloc.Listed.remove_native (hg : g.Listed)
    (hnative : g.handles handle = some (.native, contents)) : (g.remove handle).Listed where
  keys other := by
    rw [show (g.remove handle).sAllocList = g.sAllocList from rfl, hg.keys]
    show _ ↔ ∃ contents', Function.update g.handles handle _ other = _
    by_cases heq : other = handle
    · subst heq
      rw [Function.update_self, hnative]
      simp
    · rw [Function.update_of_ne heq]
  nodup := hg.nodup

theorem Gralloc.Listed.free (hg : g.Listed) : ((g.remove handle).removeItem handle).Listed where
  keys other := by
    simp only [mem_removeItem]
    rw [exists_and_left, show (g.remove handle).sAllocList = g.sAllocList from rfl, hg.keys]
    show _ ↔ ∃ contents', Function.update g.handles handle _ other = _
    by_cases heq : other = handle
    · subst heq
      rw [Function.update_self]
      simp
    · rw [Function.update_of_ne heq]
      exact and_iff_right heq
  nodup := nodup_keys_filter hg.nodup

theorem Gralloc.Listed.alloc {rec : AllocRec} (hg : g.Listed) :
    ((g.create handle .data contents).add handle rec).Listed where
  keys other := by
    simp only [mem_add]
    rw [exists_or, exists_and_left, exists_and_left,
      show (g.create handle .data contents).sAllocList = g.sAllocList from rfl, hg.keys]
    show _ ↔ ∃ contents', Function.update g.handles handle _ other = _
    by_cases heq : other = handle
    · subst heq
      rw [Function.update_self]
      exact iff_of_true (.inl ⟨rfl, rec, rfl⟩) ⟨contents, rfl⟩
    · rw [Function.update_of_ne heq]
      exact ⟨fun h => (h.resolve_left fun h' => heq h'.1).2, fun h => .inr ⟨heq, h⟩⟩
  nodup := by
    refine List.nodup_cons.mpr ⟨fun hmem => ?_, nodup_keys_filter hg.nodup⟩
    obtain ⟨entry, hentry, heq⟩ := List.mem_map.mp hmem
    exact (of_decide_eq_true (List.mem_filter.mp hentry).2) heq

/-! ### Parts of calls -/

theorem Effect.congr (h : Effect api w w' keeps) (hiff : keeps ↔ keeps') :
    Effect api w w' keeps' := propext hiff ▸ h

/-- A buffer owns nothing any more. -/
theorem effect_forget (hinv : Inv api w) {b₀ : Option GraphicBuffer}
    (hnone : b₀.bind owned = none) :
    Effect api w (w.put i b₀ w.gralloc) (w.table.slot (.inl i) = none) := by
  refine .of_change (c := .forget (.inl i)) hinv trivial ?_ hinv.listed ?_
  · refine Table.ext ?_ rfl
    rw [slot_put, hnone]
    rfl
  · intro j b handle hb howned
    obtain ⟨-, rfl⟩ | ⟨-, hb⟩ := buffers_put hb
    · exact absurd (hnone.symm.trans howned) (Option.some_ne_none _).symm
    · exact hinv.described j b handle hb howned

theorem effect_forget_some (hinv : Inv api w) (hnone : b.owned = none) :
    Effect api w (w.put i (some b) w.gralloc) (w.table.slot (.inl i) = none) :=
  effect_forget hinv hnone

/-- The table when what a buffer owned does not exist any more. -/
theorem table_release (hinv : Inv api w) (hb : w.buffers i = some b)
    (howned : b.owned = some (kind, handle)) {b₀ : Option GraphicBuffer}
    (hnone : b₀.bind owned = none) {g' : Gralloc}
    (hhandles : g'.handles = Function.update w.gralloc.handles handle none) :
    (Change.release (.inl i)).apply w.table = (w.put i b₀ g').table := by
  have hslot : w.table.slot (.inl i) = some (kind, handle) := (slot_inl hb).trans howned
  obtain ⟨contents, hlive⟩ := hinv.sound.live hslot
  refine Table.ext ?_ ?_
  · rw [slot_put, hnone]
    rfl
  · funext ⟨kind', handle'⟩
    refine propext ?_
    show w.table.live (kind', handle') ∧ w.table.slot (.inl i) ≠ some (kind', handle') ↔
      ∃ contents', g'.handles handle' = some (kind', contents')
    rw [hhandles, hslot]
    exact (exists_remove hlive).symm

/-- A buffer frees what it owns. What a slot owns is live, so the call does not fault; what is lost
is a handle of the device that the device does not free. -/
theorem effect_free (err : ℤ) (b₀ : Option GraphicBuffer) (hinv : Inv api w)
    (hb : w.buffers i = some b) (hnone : b₀.bind owned = none) :
    Effect api w (w.put i b₀ (b.afterFree err w.gralloc)) (FreedBy err b) := by
  unfold afterFree FreedBy
  have hslot := slot_inl hb
  cases howned : b.owned with
  | none =>
    -- the buffer owned nothing: there is nothing to release, and nothing is lost
    refine (effect_forget hinv hnone).congr (iff_of_true (hslot.trans howned) ?_)
    exact fun handle h => absurd h (Option.some_ne_none _).symm
  | some r =>
    obtain ⟨kind, handle⟩ := r
    rw [howned] at hslot
    -- what a slot owns is live, so the call to free it does not fault
    obtain ⟨contents, hlive⟩ := hinv.sound.live hslot
    -- the others own other handles
    have hother : ∀ {j b' handle'}, j ≠ i → w.buffers j = some b' →
        b'.owned = some (.data, handle') → kind = .data → handle' ≠ handle := by
      rintro j b' handle' hji hb' howned' rfl rfl
      exact hji (Sum.inl.inj (hinv.sound.one ((slot_inl hb').trans howned') hslot))
    cases kind with
    -- a native handle is deleted, whatever the memory allocator answers
    | native =>
      refine (Effect.of_change (c := .release (.inl i)) hinv trivial
        (table_release hinv hb howned hnone rfl) (hinv.listed.remove_native hlive) ?_).congr
          (iff_of_true trivial fun handle' h => ?_)
      · intro j b' handle' hb' howned'
        obtain ⟨-, rfl⟩ | ⟨-, hb'⟩ := buffers_put hb'
        · -- the buffer itself owns nothing any more, the others are where they were
          exact absurd (hnone.symm.trans howned') (Option.some_ne_none _).symm
        · exact hinv.described j b' handle' hb' howned'
      · exact HandleKind.noConfusion (Prod.mk.inj (Option.some.inj h)).1
    | data =>
      -- a data handle goes with its entry of the list, unless gralloc refuses to free it
      by_cases herr : err = NO_ERROR
      · simp only [if_pos herr]
        refine (Effect.of_change (c := .release (.inl i)) hinv trivial
          (table_release hinv hb howned hnone rfl) hinv.listed.free ?_).congr
            (iff_of_true trivial fun handle' _ => herr)
        intro j b' handle' hb' howned'
        obtain ⟨-, rfl⟩ | ⟨hji, hb'⟩ := buffers_put hb'
        · exact absurd (hnone.symm.trans howned') (Option.some_ne_none _).symm
        · -- the entry that was removed is not that of another buffer
          exact mem_removeItem.mpr
            ⟨hother hji hb' howned' rfl, hinv.described j b' handle' hb' howned'⟩
      · simp only [if_neg herr]
        -- refused: the buffer forgets a handle that is still live
        refine (effect_forget hinv hnone).congr (iff_of_false ?_ fun h => herr (h handle rfl))
        rw [hslot]
        exact Option.some_ne_none _

/-- The table when a buffer has a new handle. -/
theorem table_acquire (howned : b.owned = some (kind, handle)) {g' : Gralloc}
    (hhandles : g'.handles = Function.update w.gralloc.handles handle (some (kind, contents)))
    (hfree : w.gralloc.handles handle = none) :
    (Change.acquire (.inl i) (kind, handle)).apply w.table = (w.put i (some b) g').table := by
  refine Table.ext ?_ ?_
  · rw [slot_put]
    exact congrArg (Function.update w.table.slot (.inl i)) howned.symm
  · funext ⟨kind', handle'⟩
    refine propext ?_
    show (∃ contents', w.gralloc.handles handle' = some (kind', contents')) ∨
      (kind', handle') = (kind, handle) ↔
      ∃ contents', g'.handles handle' = some (kind', contents')
    rw [hhandles]
    exact (exists_create hfree).symm

theorem not_live (hfree : w.gralloc.handles handle = none) : ¬w.table.live (kind, handle) :=
  fun ⟨_, hlive⟩ => absurd (hfree.symm.trans hlive) (Option.some_ne_none _).symm

/-- A buffer without a handle gets one from the device. -/
theorem effect_alloc (hinv : Inv api w) (hslot : w.table.slot (.inl i) = none)
    (hfree : w.gralloc.handles handle = none) (howned : b.owned = some (.data, handle)) :
    Effect api w (w.put i (some b)
      ((w.gralloc.create handle .data contents).add handle (b.allocRec api))) True := by
  refine .of_change (c := .acquire (.inl i) (.data, handle)) hinv ⟨hslot, not_live hfree⟩
    (table_acquire howned rfl hfree) hinv.listed.alloc ?_
  intro j b' handle' hb' howned'
  refine mem_add.mpr ?_
  obtain ⟨-, heq⟩ | ⟨-, hother⟩ := buffers_put hb'
  · obtain rfl := Option.some.inj heq
    obtain ⟨-, rfl⟩ := Prod.mk.inj (Option.some.inj (howned.symm.trans howned'))
    exact .inl ⟨rfl, rfl⟩
  · -- the handles of the others exist, so they are other ones
    refine .inr ⟨?_, hinv.described j b' handle' hother howned'⟩
    rintro rfl
    exact not_live hfree (hinv.sound.live ((slot_inl hother).trans howned'))

/-- A buffer without a handle makes one. -/
theorem effect_create (contents : NativeHandle) (hinv : Inv api w)
    (hslot : w.table.slot (.inl i) = none) (hfree : w.gralloc.handles handle = none)
    (howned : b.owned = some (.native, handle)) :
    Effect api w (w.put i (some b) (w.gralloc.create handle .native contents)) True := by
  refine .of_change (c := .acquire (.inl i) (.native, handle)) hinv ⟨hslot, not_live hfree⟩
    (table_acquire howned rfl hfree) (hinv.listed.create_native hfree) ?_
  intro j b' handle' hb' howned'
  obtain ⟨-, heq⟩ | ⟨-, hb'⟩ := buffers_put hb'
  · obtain rfl := Option.some.inj heq
    exact absurd (howned.symm.trans howned') (by simp)
  · exact hinv.described j b' handle' hb' howned'

/-- A new buffer around a handle, which the client gives away if the buffer is to keep it. The
handle moves from the slot of the client to that of the buffer, or stays where it is. -/
theorem effect_give (hinv : Inv api w) (hnew : w.buffers i = none) {keepOwnership : Bool}
    (howner : b.mOwner = keeping keepOwnership)
    (hclient : keepOwnership = true → ∀ handle, b.handle = some handle → w.client handle = true) :
    Effect api w ((w.give b.handle keepOwnership).put i (some b) w.gralloc) True := by
  have hslot := slot_inl_none hnew
  cases keepOwnership with
  -- without ownership the client keeps what it had, and the buffer gets no more than a name
  | false =>
    have hnone : b.owned = none := by
      rw [owned, howner]
      rfl
    have hgive : w.give b.handle false = w := by cases h : b.handle <;> rfl
    rw [hgive]
    exact (effect_forget_some hinv hnone).congr (iff_of_true hslot trivial)
  | true =>
    cases hhandle : b.handle with
    | none =>
      refine (effect_forget_some hinv ?_).congr (iff_of_true hslot trivial)
      exact owned_of_handle_none hhandle
    | some handle =>
      have howned : b.owned = some (.native, handle) := owned_eq_native.mpr ⟨howner, hhandle⟩
      -- the client must own what it gives away
      have hgiven : w.table.slot (.inr handle) = some (.native, handle) :=
        if_pos (hclient rfl handle hhandle)
      refine .of_change (c := .move (.inr handle) (.inl i)) hinv ⟨hslot, Sum.inr_ne_inl⟩ ?_
        hinv.listed ?_
      · -- the same slot changes hands on both sides
        refine Table.ext ?_ rfl
        rw [slot_put, World.give, slot_client, Option.bind_some, howned,
          ← hgiven]
        exact Function.update_comm Sum.inl_ne_inr _ _ _
      · intro j b' handle' hb' howned'
        obtain ⟨-, heq⟩ | ⟨-, hother⟩ := buffers_put hb'
        · -- a buffer wrapped around a handle owns it as `native`, so it has no entry in the list
          obtain rfl := Option.some.inj heq
          exact absurd (howned.symm.trans howned') (by simp)
        · exact hinv.described j b' handle' hother howned'

/-- A buffer that owns nothing is allocated. -/
theorem effect_initSize (inWidth inHeight inFormat inUsage : Word) {o : AllocOutcome}
    (hinv : Inv api w) (hslot : w.table.slot (.inl i) = none) (howner : b.mOwner = .ownData)
    (hhandle : b.handle = none)
    (hfree : ∀ handle contents stride, o = .allocated handle contents stride →
      w.gralloc.handles handle = none) :
    let r := b.initSize api inWidth inHeight inFormat inUsage o w.gralloc
    ∀ mInitCheck, Effect api w (w.put i (some { r.2.1 with mInitCheck }) r.2.2) True := by
  intro r mInitCheck
  cases o with
  | failed err =>
    refine (effect_forget_some hinv ?_).congr (iff_of_true hslot trivial)
    exact owned_of_handle_none hhandle
  | allocated handle contents stride =>
    have howned : ({ r.2.1 with mInitCheck } : GraphicBuffer).owned = some (.data, handle) :=
      owned_eq_data.mpr ⟨howner, rfl⟩
    exact effect_alloc hinv hslot (hfree handle contents stride rfl) howned

/-- What a buffer owns can be freed. -/
theorem freeHandle_eq (err : ℤ) (hinv : Inv api w) (hb : w.buffers i = some b)
    (hhandle : b.handle = some handle) : b.freeHandle handle err w.gralloc =
      some ({ b with mWrappedBuffer := none }, b.afterFree err w.gralloc) := by
  have hslot := slot_inl hb
  unfold freeHandle afterFree
  cases howner : b.mOwner with
  -- a buffer that owns nothing leaves gralloc alone
  | ownNone =>
    rw [show b.owned = none by rw [owned, howner]]
  | ownHandle =>
    have howned := owned_eq_native.mpr ⟨howner, hhandle⟩
    -- the invariant says the handle is live and of the kind the buffer believes
    obtain ⟨contents, hlive⟩ := hinv.sound.live (hslot.trans howned)
    simp only [howned, Gralloc.deleteNative]
    rw [show w.gralloc.handles handle = some (.native, contents) from hlive]
    rfl
  | ownData =>
    have howned := owned_eq_data.mpr ⟨howner, hhandle⟩
    -- likewise for a handle of the allocator
    obtain ⟨contents, hlive⟩ := hinv.sound.live (hslot.trans howned)
    simp only [howned, Gralloc.free]
    rw [show w.gralloc.handles handle = some (.data, contents) from hlive]
    rfl

theorem freeHandleIfAny_eq (err : ℤ) (hinv : Inv api w) (hb : w.buffers i = some b) :
    ∃ b₁, b.freeHandleIfAny err w.gralloc = some (b₁, b.afterFree err w.gralloc) := by
  unfold freeHandleIfAny
  cases hhandle : b.handle with
  | none =>
    refine ⟨b, ?_⟩
    rw [afterFree, owned_of_handle_none hhandle]
  | some handle => exact ⟨_, freeHandle_eq err hinv hb hhandle⟩

/-- `unflatten` with the handle, once the old one is freed. A handle that is made and not registered
is forgotten: that is a handle created in the slot, and the slot overwritten. -/
theorem effect_fill {buf fds : List Word} {o : UnflattenOutcome} {g' : Gralloc} (hinv : Inv api w)
    (hslot : w.table.slot (.inl i) = none)
    (hfree : ∀ handle, o.created = some handle → w.gralloc.handles handle = none)
    (hfill : b.fill buf fds o w.gralloc = (err, b', g')) :
    Effect api w (w.put i (some b') g')
      (fds ≠ [] ∨ buf.drop 8 ≠ [] → o.created ≠ none → o.registered = NO_ERROR) := by
  unfold fill at hfill
  -- `native_handle_create` is called only when there is something to put into the handle
  by_cases hany : fds ≠ [] ∨ buf.drop 8 ≠ []
  · rw [if_pos hany] at hfill
    cases hcreated : o.created with
    | none =>
      rw [hcreated] at hfill
      obtain ⟨-, rfl, rfl⟩ := hfill
      -- no memory for the handle: the buffer is cleared and owned nothing before
      exact (effect_forget_some hinv owned_cleared).congr
        (iff_of_true hslot fun _ hne => absurd rfl hne)
    | some handle =>
      rw [hcreated] at hfill
      dsimp only at hfill
      by_cases hregistered : o.registered = NO_ERROR
      · rw [if_neg fun hne => hne hregistered] at hfill
        obtain ⟨-, rfl, rfl⟩ := hfill
        -- registered: the buffer is the owner of the new handle
        exact (effect_create _ hinv hslot (hfree handle hcreated)
          (owned_eq_native.mpr ⟨rfl, rfl⟩)).congr (iff_of_true trivial fun _ _ => hregistered)
      · rw [if_pos hregistered] at hfill
        obtain ⟨-, rfl, rfl⟩ := hfill
        -- the handle is made, and then nobody remembers it
        let made : GraphicBuffer := { b with handle := some handle, mOwner := .ownHandle }
        have hmade : made.owned = some (.native, handle) := owned_eq_native.mpr ⟨rfl, rfl⟩
        have hcreate := effect_create ⟨fds, buf.drop 8⟩ hinv hslot
          (hfree handle hcreated) hmade
        have hforget := effect_forget_some (i := i) (b := { b.cleared with mOwner := .ownHandle })
          hcreate.inv (owned_of_handle_none rfl)
        rw [put_put] at hforget
        -- two changes: the handle is created in the slot, then the slot is overwritten
        refine (hcreate.trans hforget).congr (iff_of_false (fun h => ?_) fun h => ?_)
        · have hsome := h.2
          rw [slot_put, Function.update_self, Option.bind_some, hmade] at hsome
          exact Option.some_ne_none _ hsome
        · exact hregistered (h hany (Option.some_ne_none _))
  · rw [if_neg hany] at hfill
    obtain ⟨-, rfl, rfl⟩ := hfill
    exact (effect_forget_some hinv (owned_of_handle_none rfl)).congr
      (iff_of_true hslot fun h => absurd h hany)

/-! ### Calls -/

/-- `reallocate` frees the old handle and allocates a new one, if it does anything. The two parts
lose together what the first of them loses, which is the old handle if the device does not free
it. -/
theorem effect_reallocate (inWidth inHeight inFormat inUsage : Word) {o : AllocOutcome}
    (hinv : Inv api w) (hb : w.buffers i = some b)
    (hfree : ∀ handle contents stride, o = .allocated handle contents stride →
      (b.afterFree err w.gralloc).handles handle = none) :
    ∃ r, b.reallocate api inWidth inHeight inFormat inUsage err o w.gralloc = some r ∧
      Effect api w (w.put i (some r.2.1) r.2.2) (b.mOwner = .ownData →
        ¬(inWidth = b.width ∧ inHeight = b.height ∧ inFormat = b.format ∧ inUsage = b.usage) →
        FreedBy err b) := by
  -- a call that changes nothing leaves the world as it is
  have hsame : w.put i (some b) w.gralloc = w := by
    unfold World.put
    rw [← hb, Function.update_eq_self]
  unfold reallocate
  by_cases howner : b.mOwner ≠ .ownData
  · rw [if_pos howner]
    refine ⟨_, rfl, ?_⟩
    show Effect api w (w.put i (some b) w.gralloc) _
    rw [hsame]
    -- a buffer that does not own its data is refused before anything is touched
    exact (Effect.refl hinv).congr (iff_of_true trivial fun h => absurd h howner)
  rw [if_neg howner]
  rw [not_not] at howner
  cases hhandle : b.handle with
  | none =>
    -- there is nothing to free
    have hnone := owned_of_handle_none hhandle
    have halloc := effect_initSize (i := i) inWidth inHeight inFormat inUsage hinv
      ((slot_inl hb).trans hnone) howner hhandle fun handle contents stride heq => by
        have hfresh := hfree handle contents stride heq
        rwa [afterFree, hnone] at hfresh
    refine ⟨_, rfl, (halloc _).congr (iff_of_true trivial fun _ _ handle h => ?_)⟩
    exact absurd (hnone.symm.trans h) (Option.some_ne_none _).symm
  | some handle =>
    simp only
    by_cases hdims : inWidth = b.width ∧ inHeight = b.height ∧ inFormat = b.format ∧
        inUsage = b.usage
    · rw [if_pos hdims]
      refine ⟨_, rfl, ?_⟩
      show Effect api w (w.put i (some b) w.gralloc) _
      rw [hsame]
      -- the same size and format: the old data is kept
      exact (Effect.refl hinv).congr (iff_of_true trivial fun _ h => absurd hdims h)
    · rw [if_neg hdims]
      -- the old handle is freed first, with a status that nobody reads
      have hfreed : w.gralloc.free handle err = some (b.afterFree err w.gralloc) := by
        have heq := freeHandle_eq err hinv hb hhandle
        rw [freeHandle, howner] at heq
        obtain ⟨g', hg', heq⟩ := Option.map_eq_some_iff.mp heq
        exact hg'.trans (congrArg some (Prod.mk.inj heq).2)
      have hfirst := effect_free err (some { b with handle := none }) hinv hb
        (owned_of_handle_none rfl)
      -- then the new one is allocated into the slot that was emptied
      have halloc := effect_initSize (i := i) (b := { b with handle := none })
        inWidth inHeight inFormat inUsage hfirst.inv
        (by rw [slot_put, Function.update_self]; exact owned_of_handle_none rfl) howner rfl hfree
      rw [hfreed]
      refine ⟨_, rfl, ?_⟩
      -- together they lose exactly what the first of them loses
      have hboth := hfirst.trans (halloc (initSize api inWidth inHeight inFormat inUsage o
        { b with handle := none } (b.afterFree err w.gralloc)).2.1.mInitCheck)
      rw [put_put] at hboth
      refine Effect.congr hboth ⟨fun h _ _ => h.1, fun h => ⟨h ?_ hdims, trivial⟩⟩
      exact howner

/-- `unflatten` frees the old handle and makes a new one, if it gets that far. Before that the
counts have been checked; with counts that are too large the buffer forgets its handle. -/
theorem effect_unflatten {m : Parcel} {c : Cursor} {o : UnflattenOutcome} (hinv : Inv api w)
    (hb : w.buffers i = some b)
    (hfree : ∀ handle, o.created = some handle →
      (b.afterFree o.freed w.gralloc).handles handle = none) :
    ∃ r, b.unflatten m c o w.gralloc = some r ∧
      Effect api w (w.put i (some r.2.2.1) r.2.2.2) ((TooLarge m c → b.owned = none) ∧
        ∀ numFds numInts, Checked m c numFds numInts → FreedBy o.freed b ∧
          (numFds ≠ 0 ∨ numInts ≠ 0 → o.created ≠ none → o.registered = NO_ERROR)) := by
  obtain ⟨b₁, hfreed⟩ := freeHandleIfAny_eq o.freed hinv hb
  obtain ⟨⟨err, c', b', g'⟩, hr⟩ := Option.isSome_iff_exists.mp
    (unflatten_isSome (m := m) (c := c) hfreed)
  refine ⟨_, hr, ?_⟩
  have hslot := slot_inl hb
  obtain ⟨-, -, rfl, hunchecked, hcases⟩ | ⟨numFds, numInts, b₂, g₁, hcheck, hfreed', hfill, -⟩ :=
    unflatten_cases hr
  · -- the message was refused before the fields were read
    obtain ⟨hlarge, rfl⟩ | ⟨hsmall, rfl⟩ := hcases
    · -- the counts are too large: the buffer is cleared without being freed
      refine (effect_forget_some hinv owned_cleared).congr ?_
      rw [hslot]
      exact ⟨fun h => ⟨fun _ => h, fun _ _ hcheck => absurd hcheck (hunchecked _ _)⟩,
        fun h => h.1 hlarge⟩
    · -- too short or of the wrong kind: the buffer is as it was
      have hsame : w.put i (some b') w.gralloc = w := by
        unfold World.put
        rw [← hb, Function.update_eq_self]
      show Effect api w (w.put i (some b') w.gralloc) _
      rw [hsame]
      exact (Effect.refl hinv).congr (iff_of_true trivial
        ⟨fun h => absurd h hsmall, fun _ _ hcheck => absurd hcheck (hunchecked _ _)⟩)
  · obtain ⟨rfl, rfl⟩ := Prod.mk.inj (Option.some.inj (hfreed.symm.trans hfreed'))
    -- the old handle is freed, then the new one made
    have hfirst := effect_free o.freed (some b.cleared) hinv hb owned_cleared
    have hsecond := effect_fill (i := i) hfirst.inv
      (by rw [slot_put, Function.update_self]; exact owned_cleared) hfree hfill
    have hboth := hfirst.trans hsecond
    rw [put_put] at hboth
    refine hboth.congr ?_
    -- the counts are those that were checked, and there is no room for larger ones
    have hlarge : ¬TooLarge m c := by
      rintro ⟨-, -, hmany⟩
      obtain ⟨hfds, hints⟩ := hcheck.accepted
      rw [hcheck.fds_eq, hcheck.ints_eq] at hmany
      exact hmany.elim (Nat.not_le_of_lt hfds) (Nat.not_le_of_lt hints)
    have hany : (load m.descriptors c.fds numFds ≠ [] ∨
        (load m.words c.buffer (8 + numInts)).drop 8 ≠ []) ↔ numFds ≠ 0 ∨ numInts ≠ 0 := by
      rw [load_eq]
      show _ ∨ load m.words (c.buffer + 8) numInts ≠ [] ↔ _
      rw [← List.length_pos_iff, ← List.length_pos_iff, length_load, length_load,
        Nat.pos_iff_ne_zero, Nat.pos_iff_ne_zero]
    rw [hany]
    constructor
    · -- any other reading of the message finds the same counts
      intro h
      refine ⟨fun hlarge' => absurd hlarge' hlarge, fun numFds' numInts' hcheck' => ?_⟩
      obtain rfl : numFds = numFds' := hcheck.fds_eq.symm.trans hcheck'.fds_eq
      obtain rfl : numInts = numInts' := hcheck.ints_eq.symm.trans hcheck'.ints_eq
      exact h
    · exact fun h => h.2 numFds numInts hcheck

/-- `~GraphicBuffer` frees the handle, if there is one to free. -/
theorem destroy_eq (hinv : Inv api w) (hb : w.buffers i = some b) :
    b.destroy err w.gralloc = some (b.afterFree err w.gralloc) := by
  unfold destroy
  cases hhandle : b.handle with
  | none => rw [afterFree, owned_of_handle_none hhandle]
  | some handle =>
    simp only
    rw [freeHandle_eq err hinv hb hhandle]
    rfl

/-- A client makes a handle. -/
theorem effect_made (hinv : Inv api w) (hfree : w.gralloc.handles handle = none) :
    Effect api w { w with
      gralloc := w.gralloc.create handle .native contents
      client := Function.update w.client handle true } True := by
  have hslot : w.table.slot (.inr handle) = none := by
    -- a handle that is not live has no owner, not even the client
    by_contra hsome
    obtain ⟨⟨kind, handle'⟩, hr⟩ := Option.ne_none_iff_exists'.mp hsome
    have howns : (if w.client handle then some (HandleKind.native, handle) else none) =
      some (kind, handle') := hr
    split at howns
    · obtain ⟨rfl, rfl⟩ := Prod.mk.inj (Option.some.inj howns)
      exact not_live hfree (hinv.sound.live hr)
    · cases howns
  -- the client takes the place of the owner
  refine .of_change (c := .acquire (.inr handle) (.native, handle)) hinv ⟨hslot, not_live hfree⟩ ?_
    (hinv.listed.create_native hfree) hinv.described
  refine Table.ext (slot_client w handle true).symm ?_
  funext ⟨kind', handle'⟩
  exact propext (exists_create hfree).symm

/-- A client frees a handle. -/
theorem effect_deleted (hinv : Inv api w) (hclient : w.client handle = true) :
    ∃ g, w.gralloc.deleteNative handle = some g ∧
      Effect api w { w with gralloc := g, client := Function.update w.client handle false }
        True := by
  have hslot : w.table.slot (.inr handle) = some (.native, handle) := if_pos hclient
  obtain ⟨contents, hlive⟩ := hinv.sound.live hslot
  have hlive : w.gralloc.handles handle = some (.native, contents) := hlive
  refine ⟨w.gralloc.remove handle, by rw [Gralloc.deleteNative, hlive], ?_⟩
  refine .of_change (c := .release (.inr handle)) hinv trivial ?_
    (hinv.listed.remove_native hlive) hinv.described
  refine Table.ext (slot_client w handle false).symm ?_
  funext ⟨kind', handle'⟩
  refine propext ?_
  show (∃ contents', w.gralloc.handles handle' = some (kind', contents')) ∧
    w.table.slot (.inr handle) ≠ some (kind', handle') ↔ _
  rw [hslot]
  exact (exists_remove hlive).symm

/-- **What a call does**: it frees nothing that it must not, it keeps the invariant, and it forgets
no handle exactly if `Keeps`. -/
theorem apply_effect {a : Action} (hinv : Inv api w) (hallowed : a.Allowed w) :
    ∃ w', a.apply api w = some w' ∧ Effect api w w' (a.Keeps w) := by
  cases a with
  -- one case for each call of the class, each by what the call does to the table
  | new i =>
    have hforget := effect_forget_some (i := i) (b := empty) hinv (owned_of_handle_none rfl)
    exact ⟨_, rfl, hforget.congr (iff_of_true (slot_inl_none hallowed) trivial)⟩
  | sized i inWidth inHeight inFormat inUsage o =>
    obtain ⟨hnew, hfree⟩ := hallowed
    have halloc := effect_initSize (i := i) (b := empty) inWidth inHeight inFormat inUsage hinv
      (slot_inl_none hnew) rfl rfl hfree
    exact ⟨_, rfl, halloc _⟩
  | given i inWidth inHeight inFormat inUsage inStride inHandle keepOwnership =>
    obtain ⟨hnew, hclient⟩ := hallowed
    exact ⟨_, rfl, effect_give (b := ofHandle inWidth inHeight inFormat inUsage inStride inHandle
      keepOwnership) hinv hnew rfl hclient⟩
  -- copying from another buffer: the handle is that buffer's
  | wrapped i j keepOwnership =>
    obtain ⟨hnew, b, hb, hclient⟩ := hallowed
    refine ⟨_, by rw [Action.apply, hb]; rfl, ?_⟩
    exact effect_give (b := wrap j b keepOwnership) hinv hnew rfl hclient
  | reallocated i inWidth inHeight inFormat inUsage err o =>
    obtain ⟨b, hb, hfree⟩ := hallowed
    obtain ⟨r, hr, heffect⟩ := effect_reallocate inWidth inHeight inFormat inUsage hinv hb hfree
    refine ⟨_, by rw [Action.apply, hb, Option.bind_eq_bind, Option.bind_some, hr]; rfl, ?_⟩
    refine heffect.congr ⟨fun h b' hb' => ?_, fun h => h b hb⟩
    -- the buffer that was read is the one the call was made on
    obtain rfl := Option.some.inj (hb.symm.trans hb')
    exact h
  | unflattened i m c o =>
    obtain ⟨b, hb, hfree⟩ := hallowed
    obtain ⟨r, hr, heffect⟩ := effect_unflatten (m := m) (c := c) hinv hb hfree
    refine ⟨_, by rw [Action.apply, hb, Option.bind_eq_bind, Option.bind_some, hr]; rfl, ?_⟩
    refine heffect.congr ⟨fun h b' hb' => ?_, fun h => h b hb⟩
    obtain rfl := Option.some.inj (hb.symm.trans hb')
    exact h
  -- the destructor: freed like a reallocation, and nothing is put in its place
  | destroyed i err =>
    obtain ⟨⟨b, hb⟩, -⟩ := hallowed
    refine ⟨_, by rw [Action.apply, hb, Option.bind_eq_bind, Option.bind_some,
      destroy_eq hinv hb]; rfl, ?_⟩
    refine (effect_free err none hinv hb rfl).congr ⟨fun h b' hb' => ?_, fun h => h b hb⟩
    obtain rfl := Option.some.inj (hb.symm.trans hb')
    exact h
  | made handle contents => exact ⟨_, rfl, effect_made hinv hallowed⟩
  | deleted handle =>
    obtain ⟨g, hg, heffect⟩ := effect_deleted hinv hallowed
    exact ⟨_, by rw [Action.apply, hg]; rfl, heffect⟩

end Parts

/-! ### Runs -/

/-- No handle and no buffer exists. The process starts like this. -/
def noBuffers : World := ⟨⟨fun _ => none, []⟩, fun _ => none, fun _ => false⟩

/-- The buffers of a process, from its start on. In every step one of the calls is made that the
callers may make then, with any answers. -/
def bufferSystem (api : PixelApi) : Lts World Action where
  init w := w = noBuffers
  step w a w' := a.Allowed w ∧ a.apply api w = some w'

section Runs

variable {api : PixelApi} {w w' : World} {a : Action} {kind : HandleKind} {handle : Handle}

theorem inv_noBuffers : Inv api noBuffers where
  sound := by
    have hslot : ∀ s r, noBuffers.table.slot s ≠ some r := fun s r h => by
      cases s <;> cases h
    exact ⟨fun h => absurd h (hslot _ _), fun h _ => absurd h (hslot _ _)⟩
  listed := by
    refine ⟨fun handle => iff_of_false ?_ ?_, List.nodup_nil⟩
    · exact fun ⟨_, h⟩ => List.not_mem_nil h
    · rintro ⟨_, h⟩
      cases h
  described _ _ _ h := by cases h

/-- A step is an effect. -/
theorem effect_of_step (hinv : Inv api w) (hstep : (bufferSystem api).step w a w') :
    Effect api w w' (a.Keeps w) := by
  obtain ⟨w₁, hw₁, heffect⟩ := apply_effect hinv hstep.1
  obtain rfl := Option.some.inj (hw₁.symm.trans hstep.2)
  exact heffect

theorem inv_of_reachable (h : (bufferSystem api).Reachable w) : Inv api w :=
  h.invariant (fun _ h0 => h0 ▸ inv_noBuffers) fun _ _ _ hinv hstep =>
    (effect_of_step hinv hstep).inv

/-- **No handle is freed twice, or in the wrong way.** In every run, every call that the callers may
make returns. It would not return if it freed a handle that is not there, or a handle of the device
as a native one, or the other way round. -/
theorem bufferSystem_never_faults (h : (bufferSystem api).Reachable w) (ha : a.Allowed w) :
    (a.apply api w).isSome := by
  obtain ⟨w', hw', -⟩ := apply_effect (inv_of_reachable h) ha
  exact Option.isSome_iff_exists.mpr ⟨w', hw'⟩

/-- **The list of the allocator is exact.** In every run it has the handles of the device that
exist, once each, and the record of a handle says what the buffer that owns it says. So a dump of
the list shows the memory that is really in use. -/
theorem sAllocList_exact (h : (bufferSystem api).Reachable w) :
    (∀ handle, (∃ rec, (handle, rec) ∈ w.gralloc.sAllocList) ↔
      ∃ contents, w.gralloc.handles handle = some (.data, contents)) ∧
    (w.gralloc.sAllocList.map Prod.fst).Nodup ∧
    ∀ i b handle rec, w.buffers i = some b → b.mOwner = .ownData → b.handle = some handle →
      (handle, rec) ∈ w.gralloc.sAllocList → rec = b.allocRec api := by
  obtain ⟨-, ⟨hkeys, hnodup⟩, hdescribed⟩ := inv_of_reachable h
  refine ⟨hkeys, hnodup, fun i b handle rec hb howner hhandle hmem => ?_⟩
  have hrec := hdescribed i b handle hb (owned_eq_data.mpr ⟨howner, hhandle⟩)
  exact congrArg Prod.snd (List.inj_on_of_nodup_map hnodup hmem hrec rfl)

/-- A pixel has four bytes. -/
def fourBytes : PixelApi := ⟨fun _ => 4, 0x00ffffff⟩

/-- The call that makes a buffer of four by two pixels. -/
def makeBuffer : Action := .sized 0 4 2 1 0 (.allocated 5 ⟨[3], []⟩ 4)

/-- The world with this buffer. -/
def oneBuffer : World :=
  let (b, g) := ofSize fourBytes 4 2 1 0 (.allocated 5 ⟨[3], []⟩ 4) noBuffers.gralloc
  noBuffers.put 0 (some b) g

theorem step_makeBuffer : (bufferSystem fourBytes).step noBuffers makeBuffer oneBuffer :=
  ⟨⟨rfl, fun _ _ _ _ => rfl⟩, rfl⟩

theorem allowed_destroyed : (Action.destroyed 0 (-22)).Allowed oneBuffer := by
  refine ⟨⟨_, rfl⟩, fun k b hb => ?_⟩
  obtain ⟨-, heq⟩ | ⟨-, hb⟩ := buffers_put hb
  · obtain rfl := Option.some.inj heq
    exact (Option.some_ne_none _).symm
  · cases hb

theorem bufferSystem_never_faults_oneBuffer :
    ((Action.destroyed 0 (-22)).apply fourBytes oneBuffer).isSome :=
  bufferSystem_never_faults (.step (.init rfl) step_makeBuffer) allowed_destroyed

theorem sAllocList_exact_oneBuffer :
    ∃ rec, (5, rec) ∈ oneBuffer.gralloc.sAllocList :=
  ((sAllocList_exact (.step (.init rfl) step_makeBuffer)).1 5).mpr ⟨_, rfl⟩

/-- To be owned is to be in a slot of the table. -/
theorem owned_iff : w.Owned kind handle ↔ ∃ s, w.table.slot s = some (kind, handle) := by
  constructor
  · rintro (⟨i, b, hb, howned⟩ | ⟨rfl, hclient⟩)
    · exact ⟨.inl i, (slot_inl hb).trans howned⟩
    · exact ⟨.inr handle, if_pos hclient⟩
  · rintro ⟨i | other, hslot⟩
    · obtain ⟨b, hb, howned⟩ := Option.bind_eq_some_iff.mp hslot
      exact .inl ⟨i, b, hb, howned⟩
    · have howns : (if w.client other then some (HandleKind.native, other) else none) =
        some (kind, handle) := hslot
      split at howns
      · next hclient =>
        obtain ⟨rfl, rfl⟩ := Prod.mk.inj (Option.some.inj howns)
        exact .inr ⟨rfl, hclient⟩
      · cases howns

theorem lost_iff : w.Lost kind handle ↔ w.table.Leaked (kind, handle) := by
  rw [World.Lost, owned_iff, not_exists]
  rfl

/-- Every handle has an owner exactly if the table is covered. -/
theorem covered_iff_owned : w.table.Covered ↔
    ∀ handle kind contents, w.gralloc.handles handle = some (kind, contents) →
      w.Owned kind handle := by
  constructor
  · intro hcovered handle kind contents hlive
    exact owned_iff.mpr (hcovered (kind, handle) ⟨contents, hlive⟩)
  · rintro hall ⟨kind, handle⟩ ⟨contents, hlive⟩
    exact owned_iff.mp (hall handle kind contents hlive)

/-- A run keeps what holds between the calls. -/
theorem inv_of_run {tr : List (World × Action)} (hinv : Inv api w)
    (h : (bufferSystem api).Run w tr w') : Inv api w' :=
  h.keeps (fun _ _ _ hinv hstep => (effect_of_step hinv hstep).inv) hinv

/-- A run amounts to valid changes of ownership, and these give no owner to what has none. A lost
handle stays lost for this reason. -/
theorem lost_of_run {tr : List (World × Action)} (hinv : Inv api w)
    (h : (bufferSystem api).Run w tr w') (hlost : w.Lost kind handle) : w'.Lost kind handle := by
  rw [lost_iff] at hlost ⊢
  induction h with
  | nil => exact hlost
  | snoc hrun hstep ih =>
    obtain ⟨-, cs, hvalid, htable, -⟩ := effect_of_step (inv_of_run hinv hrun) hstep
    rw [← htable]
    exact ih.run hvalid

/-- **When every handle has an owner.** After a run every handle that exists is owned by a buffer or
a client exactly if no call forgot one: no buffer was destroyed, reallocated or unflattened while
the device failed to free its handle, no buffer that had a handle was unflattened from memory with
too large counts, and no handle that `unflatten` made was refused by `registerBuffer`. Whatever the
calls are after this run, a handle that has no owner is not freed, and gets none. -/
theorem covered_iff_keeps {tr : List (World × Action)}
    (h : (bufferSystem api).Run noBuffers tr w) :
    ((∀ handle kind contents, w.gralloc.handles handle = some (kind, contents) →
      w.Owned kind handle) ↔ ∀ p ∈ tr, p.2.Keeps p.1) ∧
    ∀ tr' w' kind handle, (bufferSystem api).Run w tr' w' →
      w.Lost kind handle → w'.Lost kind handle := by
  constructor
  · rw [← covered_iff_owned]
    -- induction on the run: a call forgets nothing exactly if the changes it amounts to do not
    induction h with
    | nil =>
      refine iff_of_true (fun r hr => ?_) fun p hp => absurd hp List.not_mem_nil
      obtain ⟨contents, hr⟩ := hr
      cases hr
    | @snoc tr w w' a hrun hstep ih =>
      have hinv : Inv api w := inv_of_reachable (hrun.reachable rfl)
      obtain ⟨-, cs, hvalid, htable, hkeeps⟩ := effect_of_step hinv hstep
      rw [← htable, Table.covered_run_iff hinv.sound hvalid, ih, hkeeps]
      simp [or_imp, forall_and]
  · intro tr' w' kind handle hrun
    exact lost_of_run (inv_of_reachable (h.reachable rfl)) hrun

/-- A buffer is destroyed, and the device does not free its handle. -/
def lostBuffer : World := oneBuffer.put 0 none oneBuffer.gralloc

/-- Another buffer of the same size gets the next address. -/
def makeAnother : Action := .sized 1 4 2 1 0 (.allocated 6 ⟨[3], []⟩ 4)

def lostAndAnother : World :=
  let (b, g) := ofSize fourBytes 4 2 1 0 (.allocated 6 ⟨[3], []⟩ 4) lostBuffer.gralloc
  lostBuffer.put 1 (some b) g

theorem run_lostBuffer : (bufferSystem fourBytes).Run noBuffers
    [(noBuffers, makeBuffer), (oneBuffer, .destroyed 0 (-22))] lostBuffer :=
  .snoc (.snoc .nil step_makeBuffer) ⟨allowed_destroyed, rfl⟩

theorem step_makeAnother :
    (bufferSystem fourBytes).step lostBuffer makeAnother lostAndAnother :=
  ⟨⟨rfl, fun _ _ _ heq => by obtain ⟨rfl, -⟩ := heq; rfl⟩, rfl⟩

theorem lostBuffer_lost : lostBuffer.Lost .data 5 := by
  refine ⟨⟨_, rfl⟩, ?_⟩
  rintro (⟨i, b, hb, -⟩ | ⟨hkind, -⟩)
  · obtain ⟨-, heq⟩ | ⟨hne, hb⟩ := buffers_put hb
    · cases heq
    · obtain ⟨heq, -⟩ | ⟨-, hb⟩ := buffers_put hb
      · exact hne heq
      · cases hb
  · cases hkind

/-- The handle of the first buffer is lost for good. -/
theorem covered_iff_keeps_lost :
    (¬∀ handle kind contents, lostBuffer.gralloc.handles handle = some (kind, contents) →
      lostBuffer.Owned kind handle) ∧ lostAndAnother.Lost .data 5 := by
  obtain ⟨hiff, hlater⟩ := covered_iff_keeps run_lostBuffer
  constructor
  · intro hall
    have hkeeps := hiff.mp hall _ (List.mem_cons_of_mem _ List.mem_cons_self)
    exact absurd (hkeeps _ rfl 5 rfl) (by decide)
  · exact hlater _ _ _ _ (.snoc .nil step_makeAnother) lostBuffer_lost

end Runs

end Shims

end BlueCommon
