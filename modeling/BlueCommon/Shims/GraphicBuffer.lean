import BlueCommon.Lib.Cells
import BlueCommon.Shims.VectorStorage

/-!
# Graphic buffers

`GraphicBuffer` of the shim library for the camera, with its `GraphicBufferAllocator`. A buffer has
a handle that it got from the gralloc device, made of what another process sent, or was given, and
frees it in one of two ways or not at all.

* `Gralloc`: the native handles that exist and `sAllocList`. Freeing a handle that does not exist,
  or in the way that is meant for the other kind, is undefined: `none`.
* `AllocOutcome`, `UnflattenOutcome`: what the gralloc module and `native_handle_create` answer.
* `GraphicBuffer`: the constructors and the functions that touch the handle. `lock`, `unlock` and
  the dumps, which read the fields, are left out.
* `flatten`, `unflatten`: the buffer as words and file descriptors in the memory of a parcel.
-/

namespace BlueCommon

namespace Shims

open Cells

/-- An `int`, a `uint32_t` or a file descriptor. The buffer is sent as a sequence of these. -/
abbrev Word : Type := BitVec 32

def INVALID_OPERATION : ℤ := -38
def BAD_TYPE : ℤ := -2147483647

/-! ### Native handles and the allocator -/

/-- What a `native_handle` contains: `numFds` descriptors and `numInts` integers. The two numbers
are the lengths of the lists. -/
structure NativeHandle where
  fds : List Word
  ints : List Word
deriving DecidableEq

/-- The address of a native handle. -/
abbrev Handle : Type := ℕ

/-- Who made a handle, and so how it is freed: the gralloc device, or `native_handle_create`. To
free one in the way of the other is an error that the source does not notice. -/
inductive HandleKind
  | data
  | native
deriving DecidableEq

/-- `alloc_rec_t`: what the allocator notes of each handle that it has from the device. -/
structure AllocRec where
  width : Word
  height : Word
  stride : Word
  format : Word
  usage : Word
  size : Word
deriving DecidableEq

/-- The handles that exist, and the list of the allocator by key. `sAllocList` is static, so there
is one for the process. -/
structure Gralloc where
  handles : Handle → Option (HandleKind × NativeHandle)
  sAllocList : List (Handle × AllocRec)

/-- What `libui` and `gralloc.h` say of formats and usages. Neither is part of the sources here. -/
structure PixelApi where
  bytesPerPixel : Word → ℤ
  GRALLOC_USAGE_ALLOC_MASK : Word

/-- The answer of the `alloc` of the gralloc device: an error, or a new handle and the stride. -/
inductive AllocOutcome
  | failed (err : ℤ)
  | allocated (handle : Handle) (contents : NativeHandle) (stride : Word)

namespace Gralloc

/-- A handle comes to exist. -/
def create (handle : Handle) (kind : HandleKind) (contents : NativeHandle) (g : Gralloc) :
    Gralloc :=
  { g with handles := Function.update g.handles handle (some (kind, contents)) }

/-- A handle ceases to exist. -/
def remove (handle : Handle) (g : Gralloc) : Gralloc :=
  { g with handles := Function.update g.handles handle none }

/-- `KeyedVector::add` on `sAllocList`. A record that is there for the handle is replaced. -/
def add (handle : Handle) (rec : AllocRec) (g : Gralloc) : Gralloc :=
  { g with sAllocList := (handle, rec) :: g.sAllocList.filter fun entry => entry.1 ≠ handle }

/-- `KeyedVector::removeItem` on `sAllocList`. -/
def removeItem (handle : Handle) (g : Gralloc) : Gralloc :=
  { g with sAllocList := g.sAllocList.filter fun entry => entry.1 ≠ handle }

/-- The record of an allocation. An empty buffer is allocated as one pixel, and a format whose
pixels have no size of their own is counted with 0 bytes. -/
def allocRec (api : PixelApi) (width height format usage stride : Word) : AllocRec :=
  let empty : Bool := width = 0 || height = 0
  let width := if empty then 1 else width
  let height := if empty then 1 else height
  let bpp := api.bytesPerPixel format
  let bpp := if bpp < 0 then 0 else bpp
  { width, height, stride, format
    usage := usage &&& api.GRALLOC_USAGE_ALLOC_MASK
    size := height * stride * BitVec.ofInt 32 bpp }

/-- `GraphicBufferAllocator::alloc`, with `*handle` and `*stride` when there is no error. The record
of the handle is added to the list. -/
def alloc (api : PixelApi) (width height format usage : Word) (o : AllocOutcome) (g : Gralloc) :
    Except ℤ (Handle × Word × Gralloc) :=
  match o with
  | .failed err => .error err
  | .allocated handle contents stride =>
    .ok (handle, stride, (g.create handle .data contents).add handle
      (allocRec api width height format usage stride))

/-- `GraphicBufferAllocator::free`. A handle that the device does not free stays, and its record
too. -/
def free (handle : Handle) (err : ℤ) (g : Gralloc) : Option Gralloc :=
  match g.handles handle with
  | some (.data, _) => some (if err = NO_ERROR then (g.remove handle).removeItem handle else g)
  | _ => none

/-- `native_handle_close` and `native_handle_delete`. Their results are not looked at by the
source. -/
def deleteNative (handle : Handle) (g : Gralloc) : Option Gralloc :=
  match g.handles handle with
  | some (.native, _) => some (g.remove handle)
  | _ => none

end Gralloc

/-! ### The buffer -/

/-- The values of `mOwner`. They say whether the destructor frees the handle, and in which of the
two ways. -/
inductive Owner
  | ownNone
  | ownHandle
  | ownData
deriving DecidableEq

/-- `GraphicBuffer`. A buffer that is wrapped around another one has the number of that one in
`mWrappedBuffer`, as it keeps a reference to it. -/
structure GraphicBuffer where
  width : Word
  height : Word
  stride : Word
  format : Word
  usage : Word
  handle : Option Handle
  mOwner : Owner
  mInitCheck : ℤ
  /-- The number of the wrapped buffer. -/
  mWrappedBuffer : Option ℕ
deriving DecidableEq

namespace GraphicBuffer

/-- `GraphicBuffer()`: no sizes and no handle, and the buffer is to own what it gets from the
allocator. -/
def empty : GraphicBuffer where
  width := 0
  height := 0
  stride := 0
  format := 0
  usage := 0
  handle := none
  mOwner := .ownData
  mInitCheck := NO_ERROR
  mWrappedBuffer := none

/-- `width = height = stride = format = usage = 0; handle = NULL;`. The owner is not changed, and
nothing is freed. -/
def cleared (b : GraphicBuffer) : GraphicBuffer :=
  { b with width := 0, height := 0, stride := 0, format := 0, usage := 0, handle := none }

/-- `initSize`. With an error of the allocator the fields stay as they are. -/
def initSize (api : PixelApi) (inWidth inHeight inFormat inUsage : Word) (o : AllocOutcome)
    (b : GraphicBuffer) (g : Gralloc) : ℤ × GraphicBuffer × Gralloc :=
  match g.alloc api inWidth inHeight inFormat inUsage o with
  | .error err => (err, b, g)
  | .ok (handle, outStride, g) =>
    (NO_ERROR, { b with
      width := inWidth, height := inHeight, format := inFormat, usage := inUsage
      stride := outStride, handle := some handle }, g)

/-- `GraphicBuffer(inWidth, inHeight, inFormat, inUsage)`. What `initSize` returns is kept in
`mInitCheck`, for `initCheck` to ask. -/
def ofSize (api : PixelApi) (inWidth inHeight inFormat inUsage : Word) (o : AllocOutcome)
    (g : Gralloc) : GraphicBuffer × Gralloc :=
  let (err, b, g) := empty.initSize api inWidth inHeight inFormat inUsage o g
  ({ b with mInitCheck := err }, g)

/-- `mOwner(keepOwnership ? ownHandle : ownNone)`. -/
def keeping (keepOwnership : Bool) : Owner := if keepOwnership then .ownHandle else .ownNone

/-- `GraphicBuffer(inWidth, inHeight, inFormat, inUsage, inStride, inHandle, keepOwnership)`. The
handle is not registered, and the sizes are not checked against it. -/
def ofHandle (inWidth inHeight inFormat inUsage inStride : Word) (inHandle : Option Handle)
    (keepOwnership : Bool) : GraphicBuffer where
  width := inWidth
  height := inHeight
  stride := inStride
  format := inFormat
  usage := inUsage
  handle := inHandle
  mOwner := keeping keepOwnership
  mInitCheck := NO_ERROR
  mWrappedBuffer := none

/-- `GraphicBuffer(buffer, keepOwnership)` around the buffer number `i`. The handle is that of the
other buffer, and the reference to it keeps that one alive. -/
def wrap (i : ℕ) (buffer : GraphicBuffer) (keepOwnership : Bool) : GraphicBuffer :=
  { buffer with
    mOwner := keeping keepOwnership, mInitCheck := NO_ERROR, mWrappedBuffer := some i }

/-- `free_handle`. Whether `unregisterBuffer` fails is not looked at. The wrapped buffer is let
go. -/
def freeHandle (handle : Handle) (err : ℤ) (b : GraphicBuffer) (g : Gralloc) :
    Option (GraphicBuffer × Gralloc) :=
  let released := { b with mWrappedBuffer := none }
  match b.mOwner with
  | .ownHandle => (g.deleteNative handle).map fun g => (released, g)
  | .ownData => (g.free handle err).map fun g => (released, g)
  | .ownNone => some (released, g)

/-- `~GraphicBuffer`. The handle is freed if there is one, by `free_handle`. -/
def destroy (err : ℤ) (b : GraphicBuffer) (g : Gralloc) : Option Gralloc :=
  match b.handle with
  | none => some g
  | some handle => (b.freeHandle handle err g).map Prod.snd

/-- `reallocate`. Only a buffer with `ownData` can be reallocated, and one that is already as it
should be is left as it is. Otherwise the old handle is freed first. -/
def reallocate (api : PixelApi) (inWidth inHeight inFormat inUsage : Word) (err : ℤ)
    (o : AllocOutcome) (b : GraphicBuffer) (g : Gralloc) : Option (ℤ × GraphicBuffer × Gralloc) :=
  if b.mOwner ≠ .ownData then some (INVALID_OPERATION, b, g)
  else
    match b.handle with
    | none => some (b.initSize api inWidth inHeight inFormat inUsage o g)
    | some handle =>
      if inWidth = b.width ∧ inHeight = b.height ∧ inFormat = b.format ∧ inUsage = b.usage then
        some (NO_ERROR, b, g)
      else do
        let g ← g.free handle err
        some ({ b with handle := none }.initSize api inWidth inHeight inFormat inUsage o g)

/-! ### Flattening -/

/-- What `handle` points to; `none` if it points nowhere. -/
def contents (b : GraphicBuffer) (g : Gralloc) : Option (Option NativeHandle) :=
  match b.handle with
  | none => some none
  | some handle => (g.handles handle).map fun entry => some entry.2

/-- The memory of a parcel: its words, and its file descriptors. -/
structure Parcel where
  words : ℕ → Word
  descriptors : ℕ → Word

/-- The arguments of `flatten` and `unflatten`: two pointers, and how many bytes and how many
descriptors there are left. -/
structure Cursor where
  buffer : ℕ
  size : ℕ
  fds : ℕ
  count : ℕ
deriving DecidableEq

/-- `handle ? handle->numInts : 0`. A buffer without a handle is flattened as one with an empty
handle. -/
def numInts (h : Option NativeHandle) : ℕ := h.elim 0 fun h => h.ints.length

/-- `getFdCount`: how many descriptors go along with the words. -/
def getFdCount (h : Option NativeHandle) : ℕ := h.elim 0 fun h => h.fds.length

/-- `getFlattenedSize`: 4 bytes for each of the words. -/
def getFlattenedSize (h : Option NativeHandle) : ℕ := (8 + numInts h) * 4

/-- `'GBFR'`, the first word of a flattened buffer. -/
def magic : Word := 0x47424652

/-- The words of a flattened buffer: the magic number, the five fields, the two counts, and the
integers of the handle. -/
def flatWords (b : GraphicBuffer) (h : Option NativeHandle) : List Word :=
  [magic, b.width, b.height, b.stride, b.format, b.usage, BitVec.ofNat 32 (getFdCount h),
    BitVec.ofNat 32 (numInts h)] ++ h.elim [] NativeHandle.ints

/-- The descriptors of a flattened buffer. -/
def flatDescriptors (h : Option NativeHandle) : List Word := h.elim [] NativeHandle.fds

/-- The cursor behind a flattened buffer. The pointer to the words is an `int *`, to which the
number of bytes is added. -/
def Cursor.advance (c : Cursor) (sizeNeeded fdCountNeeded : ℕ) : Cursor where
  buffer := c.buffer + sizeNeeded
  size := c.size - sizeNeeded
  fds := c.fds + fdCountNeeded
  count := c.count - fdCountNeeded

/-- `flatten`. It asks for the room first, and writes nothing when there is too little. It does not
ask whether the counts are ones that `unflatten` accepts. -/
def flatten (b : GraphicBuffer) (g : Gralloc) (c : Cursor) (m : Parcel) :
    Option (ℤ × Cursor × Parcel) := do
  let h ← b.contents g
  let sizeNeeded := getFlattenedSize h
  if c.size < sizeNeeded then return (NO_MEMORY, c, m)
  let fdCountNeeded := getFdCount h
  if c.count < fdCountNeeded then return (NO_MEMORY, c, m)
  return (NO_ERROR, c.advance sizeNeeded fdCountNeeded,
    ⟨store m.words c.buffer (b.flatWords h), store m.descriptors c.fds (flatDescriptors h)⟩)

/-- What happens around `unflatten`: how the device frees the old handle, whether
`native_handle_create` finds memory, and what `registerBuffer` answers. -/
structure UnflattenOutcome where
  freed : ℤ
  created : Option Handle
  registered : ℤ

/-- `maxNumber` of `unflatten`: high enough not to cause issues, and low enough to prevent overflow
problems. -/
def maxNumber : ℕ := 4096

/-- `unflatten` once the old handle is freed. The fields are read from memory, and a new native
handle is made of the integers and descriptors and registered. With none of these the buffer is
cleared. -/
def fill (buf : List Word) (fds : List Word) (o : UnflattenOutcome) (b : GraphicBuffer)
    (g : Gralloc) : ℤ × GraphicBuffer × Gralloc :=
  let ints := buf.drop 8
  if fds ≠ [] ∨ ints ≠ [] then
    match o.created with
    | none => (NO_MEMORY, b.cleared, g)
    | some handle =>
      let g := g.create handle .native ⟨fds, ints⟩
      if o.registered ≠ NO_ERROR then (o.registered, { b.cleared with mOwner := .ownHandle }, g)
      else (NO_ERROR, { b with
        width := buf.getD 1 0, height := buf.getD 2 0, stride := buf.getD 3 0
        format := buf.getD 4 0, usage := buf.getD 5 0
        handle := some handle, mOwner := .ownHandle }, g)
  else (NO_ERROR, { b.cleared with mOwner := .ownHandle }, g)

/-- `if (handle) free_handle();`. A buffer without a handle is left as it is. -/
def freeHandleIfAny (err : ℤ) (b : GraphicBuffer) (g : Gralloc) :
    Option (GraphicBuffer × Gralloc) :=
  match b.handle with
  | none => some (b, g)
  | some handle => b.freeHandle handle err g

/-- `unflatten`. The memory may come from anywhere, so the room, the magic number and the two counts
are checked before anything is read by them. Counts that are too large clear the buffer. -/
def unflatten (m : Parcel) (c : Cursor) (o : UnflattenOutcome) (b : GraphicBuffer) (g : Gralloc) :
    Option (ℤ × Cursor × GraphicBuffer × Gralloc) := do
  if c.size < 8 * 4 then return (NO_MEMORY, c, b, g)
  if m.words c.buffer ≠ magic then return (BAD_TYPE, c, b, g)
  let numFds := (m.words (c.buffer + 6)).toNat
  let numInts := (m.words (c.buffer + 7)).toNat
  if numFds ≥ maxNumber ∨ numInts ≥ maxNumber - 10 then return (BAD_VALUE, c, b.cleared, g)
  let sizeNeeded := (8 + numInts) * 4
  if c.size < sizeNeeded then return (NO_MEMORY, c, b, g)
  if c.count < numFds then return (NO_MEMORY, c, b, g)
  let (b, g) ← b.freeHandleIfAny o.freed g
  let (err, b, g) := b.fill (load m.words c.buffer (8 + numInts)) (load m.descriptors c.fds numFds)
    o g
  if err ≠ NO_ERROR then return (err, c, b, g)
  return (NO_ERROR, c.advance sizeNeeded numFds, b, g)

end GraphicBuffer

end Shims

end BlueCommon
