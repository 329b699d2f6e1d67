import BlueCommon.Lib.Threads
import Mathlib.Data.Int.Notation
import Mathlib.Data.List.Basic
import Mathlib.Tactic.Simps.Basic

/-!
# The objects of the SAP service

The SAP service of one slot: its `SapImpl`, the `RilSapSocket` of its `rilSocketId` and the heap
objects that a request is made of. A slot shares none of them with another. An object is known by a
number that is never used again, so that a pointer to a released object cannot be taken for a new
one.

* `SapOp`: what one thread does in one go. The functions of `sap_service.cpp` and `RilSapSocket.cpp`
  are programs over these operations. The queue operations hold the mutex of the queue throughout.
* `SapState.touch`, `SapState.release`: reading, writing or releasing a released object makes the
  state `faulty`. Such a read gives any value.

Some fields are history: no operation of the code reads them.
-/

namespace BlueCommon

namespace Sap

open Interaction

/-- An object on the heap. -/
abbrev Ptr : Type := ℕ

/-- `MsgId` without the prefix `MsgId_RIL_SIM_SAP`. -/
inductive MsgId
  | connect
  | disconnect
  | apdu
  | transferAtr
  | power
  | resetSim
  | transferCardReaderStatus
  | setTransferProtocol
  | other (value : ℤ)
  deriving DecidableEq

/-- `MsgHeader`, without the fields that are only logged. -/
structure MsgHeader where
  token : ℤ
  id : MsgId
  payload : Option Ptr

/-- `pb_bytes_array_t`: a length and the bytes behind it. The length has two bytes, the number of
bytes was allocated from the whole one. -/
structure PbBytesArray where
  size : ℕ
  bytes : List UInt8

/-- `SapSocketRequest`, without `p_next` and the `socketId` of the slot. -/
structure SapSocketRequest where
  token : ℤ
  curr : Ptr

/-- What an object was allocated for. History: the service itself keeps no record of it. -/
inductive Kind
  | header
  | payload
  | buffer
  | command
  | request
  | response
  deriving DecidableEq

/-- History of the requests. `nullCallback`: the process has called a method of a `NULL` callback
and stopped. -/
inductive SapEvent
  | dispatched (id : MsgId) (data : List UInt8) (size : ℕ) (request : Ptr)
  | failed (id : MsgId) (token : ℤ)
  | responded (id : MsgId) (token : ℤ)
  | nullCallback

/-- The SAP service of a slot. History: what each object was allocated for and the thread that is to
release it, the requests that the vendor has and has not begun to complete, those that have been
queued and not been completed, newest first, whether a released object has been used, and the
events. -/
structure SapState where
  socket : Bool
  uimFuncs : Bool
  sapCallback : Bool
  headers : Ptr → MsgHeader
  data : Ptr → PbBytesArray
  requests : Ptr → SapSocketRequest
  pendingResponseQueue : List Ptr
  live : Ptr → Bool
  next : Ptr
  kind : Ptr → Kind
  owner : Ptr → Option ℕ
  given : Ptr → Bool
  outstanding : List Ptr
  faulty : Bool
  log : List SapEvent

/-- The service before its first request: a vendor and a client are there, and nothing is
allocated. -/
def SapState.start : SapState where
  socket := true
  uimFuncs := true
  sapCallback := true
  headers _ := ⟨0, .connect, none⟩
  data _ := ⟨0, []⟩
  requests _ := ⟨0, 0⟩
  pendingResponseQueue := []
  live _ := false
  next := 0
  kind _ := .header
  owner _ := none
  given _ := false
  outstanding := []
  faulty := false
  log := []

/-- The operations. `beginCompletion` and the last argument of `checkAndDequeue` are history: the
request that the vendor completes. The result of `onRequest` is the response if the vendor completes
the request before it returns. -/
inductive SapOp
  | allocate (kind : Kind)
  | free (p : Ptr)
  | getHeader (p : Ptr)
  | setHeader (p : Ptr) (msg : MsgHeader)
  | setPayload (p payload : Ptr)
  | getData (p : Ptr)
  | setData (p : Ptr) (data : PbBytesArray)
  | getRequest (p : Ptr)
  | setRequest (p : Ptr) (request : SapSocketRequest)
  | getSocketById
  | getUimFuncs
  | enqueue (p : Ptr)
  | checkAndDequeue (id : MsgId) (token : ℤ) (request : Ptr)
  | onRequest (id : MsgId) (data : List UInt8) (size : ℕ) (request : Ptr)
  | beginCompletion (request : Ptr)
  | getSapCallback
  | call (e : SapEvent)
  | resetSapCallback

def SapOp.Res : SapOp → Type
  | .allocate _ => Option Ptr
  | .getHeader _ => MsgHeader
  | .getData _ => PbBytesArray
  | .getRequest _ => SapSocketRequest
  | .getSocketById => Bool
  | .getUimFuncs => Bool
  | .checkAndDequeue .. => Bool
  | .onRequest .. => Option (List UInt8)
  | .getSapCallback => Bool
  | .call _ => Bool
  | _ => Unit

/-- The signature of the SAP service: the objects it allocates, the queue, the vendor and the
client. -/
abbrev sapSignature : Signature := ⟨SapOp, SapOp.Res⟩

/-- A function of the SAP service. -/
abbrev Code (α : Type) : Type := Program sapSignature α

/-! ### What the operations do -/

namespace SapState

/-- The object is read or written. -/
@[simps] def touch (s : SapState) (p : Ptr) : SapState :=
  { s with faulty := s.faulty || !s.live p }

@[simps] def writeHeader (s : SapState) (p : Ptr) (msg : MsgHeader) : SapState :=
  { s.touch p with headers := Function.update s.headers p msg }

@[simps] def writeData (s : SapState) (p : Ptr) (data : PbBytesArray) : SapState :=
  { s.touch p with data := Function.update s.data p data }

@[simps] def writeRequest (s : SapState) (p : Ptr) (request : SapSocketRequest) : SapState :=
  { s.touch p with requests := Function.update s.requests p request }

/-- `free(p)`. A pointer that is not live makes the state faulty. -/
@[simps] def release (s : SapState) (p : Ptr) : SapState :=
  { s.touch p with live := Function.update s.live p false }

/-- An object allocated by the thread `t`. Addresses are not handed out again, so that an object
that was freed is not taken for another one. -/
@[simps] def allocated (s : SapState) (t : ℕ) (kind : Kind) : SapState :=
  { s with
    live := Function.update s.live s.next true
    next := s.next + 1
    kind := Function.update s.kind s.next kind
    owner := Function.update s.owner s.next (some t) }

/-- `Ril_queue::enqueue`. The thread does not release the request and its header any more. -/
@[simps] def enqueue (s : SapState) (p : Ptr) : SapState :=
  { s.touch p with
    pendingResponseQueue := p :: s.pendingResponseQueue
    outstanding := p :: s.outstanding
    owner := Function.update (Function.update s.owner (s.requests p).curr none) p none }

/-- The loop of `Ril_queue::checkAndDequeue` over the rest of the queue. -/
def checkAndDequeueLoop (id : MsgId) (token : ℤ) : List Ptr → SapState → Option Ptr × SapState
  | [], s => (none, s)
  | cur :: rest, s =>
    let s := s.touch cur
    let request := s.requests cur
    if token = request.token then
      let s := s.touch request.curr
      if id = (s.headers request.curr).id then (some cur, s)
      else checkAndDequeueLoop id token rest s
    else checkAndDequeueLoop id token rest s

/-- `Ril_queue::checkAndDequeue`: the request that is found by its message id and token leaves the
queue and is freed. -/
def checkAndDequeue (id : MsgId) (token : ℤ) (s : SapState) : Bool × SapState :=
  match checkAndDequeueLoop id token s.pendingResponseQueue s with
  | (some temp, s) =>
    (true, { s with pendingResponseQueue := s.pendingResponseQueue.erase temp }.release temp)
  | (none, s) => (false, s)

/-- The vendor has the request. -/
@[simps] def handedOver (s : SapState) (id : MsgId) (data : List UInt8) (size : ℕ) (request : Ptr) :
    SapState :=
  { s with
    given := Function.update s.given request true
    log := .dispatched id data size request :: s.log }

/-- The vendor has begun to complete the request. -/
@[simps] def begun (s : SapState) (request : Ptr) : SapState :=
  { s with given := Function.update s.given request false }

/-- The thread `t` has dequeued what it has found for the request. It is to release the header. -/
@[simps] def completed (s : SapState) (t : ℕ) (request : Ptr) : SapState :=
  { s with
    outstanding := s.outstanding.erase request
    owner := Function.update s.owner (s.requests request).curr (some t) }

/-- Allocation releases nothing. -/
theorem live_allocated (s : SapState) (t : ℕ) (kind : Kind) {x : Ptr} (hx : s.live x = true) :
    (s.allocated t kind).live x = true := by
  show Function.update s.live s.next true x = true
  rcases eq_or_ne x s.next with rfl | hne
  · rw [Function.update_self]
  · rw [Function.update_of_ne hne, hx]

theorem live_allocated_next (s : SapState) (t : ℕ) (kind : Kind) :
    (s.allocated t kind).live s.next = true := Function.update_self _ _ _

/-- The loop changes nothing but whether the state is faulty. -/
theorem checkAndDequeueLoop_snd (id : MsgId) (token : ℤ) (rest : List Ptr) (s : SapState) :
    ∃ faulty, (checkAndDequeueLoop id token rest s).2 = { s with faulty := faulty } := by
  induction rest generalizing s with
  | nil => exact ⟨s.faulty, rfl⟩
  | cons cur rest ih =>
    unfold checkAndDequeueLoop
    dsimp only
    split
    · split
      · exact ⟨_, rfl⟩
      · obtain ⟨faulty, h⟩ := ih ((s.touch cur).touch ((s.touch cur).requests cur).curr)
        rw [h]
        exact ⟨faulty, rfl⟩
    · obtain ⟨faulty, h⟩ := ih (s.touch cur)
      rw [h]
      exact ⟨faulty, rfl⟩

end SapState

/-- How the operations behave when the thread `t` performs them; `mayAllocate` are the outcomes that
an allocation may have. -/
def SapOp.sem (mayAllocate : Kind → Bool → Prop) (t : ℕ) : Semantics sapSignature SapState
  | .allocate kind, r, s, s' =>
    (mayAllocate kind false ∧ r = none ∧ s' = s) ∨
      (mayAllocate kind true ∧ r = some s.next ∧ s' = s.allocated t kind)
  | .free p, _, s, s' => s' = s.release p
  | .getHeader p, r, s, s' => (s.live p = true → r = s.headers p) ∧ s' = s.touch p
  | .setHeader p msg, _, s, s' => s' = s.writeHeader p msg
  | .setPayload p payload, _, s, s' =>
    s' = s.writeHeader p { s.headers p with payload := some payload }
  | .getData p, r, s, s' => (s.live p = true → r = s.data p) ∧ s' = s.touch p
  | .setData p data, _, s, s' => s' = s.writeData p data
  | .getRequest p, r, s, s' => (s.live p = true → r = s.requests p) ∧ s' = s.touch p
  | .setRequest p request, _, s, s' => s' = s.writeRequest p request
  | .getSocketById, r, s, s' => r = s.socket ∧ s' = s
  | .getUimFuncs, r, s, s' => r = s.uimFuncs ∧ s' = s
  | .enqueue p, _, s, s' => s' = s.enqueue p
  | .checkAndDequeue id token request, r, s, s' =>
    r = (s.checkAndDequeue id token).1 ∧ s' = (s.checkAndDequeue id token).2.completed t request
  | .onRequest id data size request, _, s, s' => s' = s.handedOver id data size request
  | .beginCompletion request, _, s, s' =>
    s.given request = true ∧ s' = s.begun request
  | .getSapCallback, r, s, s' => r = s.sapCallback ∧ s' = s
  | .call e, _, s, s' =>
    s' = { s with log := (if s.sapCallback then e else .nullCallback) :: s.log }
  | .resetSapCallback, _, s, s' => s' = { s with sapCallback := false }

end Sap

end BlueCommon
