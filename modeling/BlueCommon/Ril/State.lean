import BlueCommon.Lib.LinkedList
import BlueCommon.Lib.Threads
import BlueCommon.Ril.Hidl
import BlueCommon.Ril.Tables
import BlueCommon.Ril.WakeLock
import Mathlib.Data.Multiset.AddSub

/-!
# The shared state of libril and its atomic operations

The state that requests, completions and indications share: the pending lists and their nodes, the
rwlocks of the radio services, the callbacks of the clients, the last NITZ message, the wake lock.
Every function of `ril.cpp` and `ril_service.cpp` is a program over `RilOp`; an operation is what
one thread does in one go. A walk over a pending list and the push onto one are single operations
because `s_pendingRequestsMutex` is held around them; what is done under a write lock in one piece
(`checkReturnStatus`, `setResponseFunctions`) is a single operation that `wrlock` and `unlock`
surround.

Some fields are history: no operation of the code reads them, they record what happened so that a
property of a run can be stated about its last state.

Reading freed memory gives any value. A `NULL` function pointer, a dereference of `NULL` and a
signed overflow (the library is built with the integer sanitizer) stop the process: the operation
has no successor.
-/

namespace BlueCommon.Ril

open Interaction

/-- The build and the vendor: `SIM_COUNT`, `ANDROID_MULTI_SIM`, `kOemHookEnabled`, `OLD_MNC_FORMAT`,
`s_callbacks.version`, and whether `RIL_register` has been called. -/
structure Config where
  simCount : ℕ
  multiSim : Bool
  oemHookEnabled : Bool
  oldMncFormat : Bool
  version : ℤ
  registerCalled : Bool

/-- Two slots, a vendor of version 15. -/
def Config.dual : Config where
  simCount := 2
  multiSim := true
  oemHookEnabled := true
  oldMncFormat := false
  version := 15
  registerCalled := true

/-! ### Pending lists -/

/-- The heads of the pending lists. -/
inductive PendingList
  | pendingRequests
  | pendingRequestsSocket2
  | pendingRequestsSocket3
  | pendingRequestsSocket4
  deriving DecidableEq, Repr

/-- `RequestInfo` without `p_next`. `pCI` is the index into `s_commands`, `none` for `NULL`. -/
structure RequestInfo where
  token : ℤ
  pCI : Option ℤ
  cancelled : ℤ
  isLocal : ℤ
  socketId : ℤ
  wasAckSent : ℤ
  deriving DecidableEq, Repr

/-- What `calloc` makes of the fields. -/
def RequestInfo.zeroed : RequestInfo := ⟨0, none, 0, 0, 0, 0⟩

/-- What `addRequestToList` stores in a new node. -/
def RequestInfo.ofRequest (serial slotId request : ℤ) : RequestInfo :=
  { RequestInfo.zeroed with token := serial, pCI := some request, socketId := slotId }

/-- History of the requests. A request is known by the number of requests accepted before it; events
that name a node carry the request that the node was last accepted for. -/
inductive RequestEvent
  | accept (rid : ℕ) (pRI : Addr) (socketId token : ℤ)
  | ack (rid : Option ℕ)
  | complete (rid : Option ℕ)
  | respond (rid : Option ℕ) (slotId : ℤ) (type : ResponseType) (serial e : ℤ)
  | acknowledge (rid : Option ℕ) (slotId serial : ℤ)
  deriving DecidableEq, Repr

/-- The pending lists and the heap of `RequestInfo` nodes. History: the request that each node was
last accepted for, the number of requests accepted, and the events, newest first. -/
structure Pending where
  head : PendingList → Option Addr
  next : Addr → Option Addr
  info : Addr → RequestInfo
  live : Addr → Bool
  owner : Addr → Option ℕ
  accepted : ℕ
  log : List RequestEvent

/-- Operations on the pending lists and their nodes. `noteRespond` and `noteAcknowledge` only write
history: the code is about to answer, or to acknowledge, the request at `pRI`. -/
inductive PendingOp
  | calloc
  | store (pRI : Addr) (info : RequestInfo)
  | push (list : PendingList) (pRI : Addr)
  | load (pRI : Addr)
  | find (list : PendingList) (pRI : Addr) (isAck : Bool)
  | free (pRI : Addr)
  | noteRespond (pRI : Addr) (slotId : ℤ) (type : ResponseType) (serial e : ℤ)
  | noteAcknowledge (pRI : Addr) (slotId serial : ℤ)

def PendingOp.Res : PendingOp → Type
  | .calloc => Option Addr
  | .load _ => RequestInfo
  | .find .. => Bool
  | _ => Unit

namespace Pending

/-- A node that `calloc` returned at `a`. It is live now, and all of its fields are zero. -/
def alloc (p : Pending) (a : Addr) : Pending :=
  { p with
    live := Function.update p.live a true
    next := Function.update p.next a none
    info := Function.update p.info a .zeroed }

/-- `pRI->p_next = *hook; *hook = pRI;`, by which the new request becomes the first of its list.
History: it gets the next number. -/
def push (p : Pending) (list : PendingList) (a : Addr) : Pending :=
  { p with
    next := Function.update p.next a (p.head list)
    head := Function.update p.head list (some a)
    owner := Function.update p.owner a (some p.accepted)
    accepted := p.accepted + 1
    log := .accept p.accepted a (p.info a).socketId (p.info a).token :: p.log }

/-- What the walk does at the node: an ack is noted in the node, anything else unlinks the node at
the link `pp` the walk stopped at. -/
def found (p : Pending) (list : PendingList) (a : Addr) (isAck : Bool)
    (pp : LinkedList.Link Addr) : Pending :=
  if isAck then
    { p with
      info := Function.update p.info a { p.info a with wasAckSent := 1 }
      log := .ack (p.owner a) :: p.log }
  else
    { p with
      next := (LinkedList.store p.next (p.head list) (p.next a) pp).1
      head := Function.update p.head list
        (LinkedList.store p.next (p.head list) (p.next a) pp).2
      log := .complete (p.owner a) :: p.log }

/-- `free(pRI)`. The links that lead to the node are not touched. -/
def free (p : Pending) (a : Addr) : Pending :=
  { p with live := Function.update p.live a false }

/-- History: one more event. -/
def note (p : Pending) (e : RequestEvent) : Pending := { p with log := e :: p.log }

/-- The walk of `checkAndDequeueRequestInfoIfAck` over a list. -/
def Walks (p : Pending) (list : PendingList) (a : Addr)
    (res : Option (LinkedList.Link Addr)) : Prop :=
  ∃ fuel, LinkedList.find p.next (p.head list) a fuel .head = some res

end Pending

/-- How the operations on the pending lists behave. `calloc` never returns the address of a node
that has not been freed. -/
def PendingOp.sem : Semantics ⟨PendingOp, PendingOp.Res⟩ Pending
  | .calloc, none, p, p' => p' = p
  | .calloc, some a, p, p' => p.live a = false ∧ p' = p.alloc a
  | .store a info, _, p, p' => p' = { p with info := Function.update p.info a info }
  | .push list a, _, p, p' => p' = p.push list a
  | .load a, info, p, p' => (p.live a = true → info = p.info a) ∧ p' = p
  | .find list a _, false, p, p' => p.Walks list a none ∧ p' = p
  | .find list a isAck, true, p, p' => ∃ pp, p.Walks list a (some pp) ∧ p' = p.found list a isAck pp
  | .free a, _, p, p' => p' = p.free a
  | .noteRespond a slotId type serial e, _, p, p' =>
    p' = p.note (.respond (p.owner a) slotId type serial e)
  | .noteAcknowledge a slotId serial, _, p, p' =>
    p' = p.note (.acknowledge (p.owner a) slotId serial)

/-! ### Locks -/

/-- The rwlocks of the radio services. -/
inductive RadioRwlock
  | radioServiceRwlock
  | radioServiceRwlock2
  | radioServiceRwlock3
  | radioServiceRwlock4
  deriving DecidableEq, Repr

/-- A `pthread_rwlock_t`: the threads that hold it for reading, and the one that holds it for
writing. -/
structure Rwlock where
  readers : Multiset ℕ
  writer : Option ℕ

/-- `pthread_rwlock_rdlock`, `pthread_rwlock_wrlock`, `pthread_rwlock_unlock`. -/
inductive LockOp
  | rdlock (lock : RadioRwlock)
  | wrlock (lock : RadioRwlock)
  | unlock (lock : RadioRwlock)

/-- `pthread_rwlock_unlock` by the thread `t`: a writer gives the lock back, and any other thread
one of its holds as a reader. -/
def Rwlock.unlock (l : Rwlock) (t : ℕ) : Rwlock :=
  if l.writer = some t then { l with writer := none }
  else { l with readers := l.readers.erase t }

/-- How the thread `t` takes and releases locks. A thread that must wait takes no step, and a lock
may be read by one thread more than once. -/
def LockOp.sem (t : ℕ) : Semantics ⟨LockOp, fun _ => Unit⟩ (RadioRwlock → Rwlock)
  | .rdlock l, _, s, s' =>
    (s l).writer = none ∧ s' = Function.update s l { s l with readers := t ::ₘ (s l).readers }
  | .wrlock l, _, s, s' =>
    (s l).readers = 0 ∧ (s l).writer = none ∧
      s' = Function.update s l { s l with writer := some t }
  | .unlock l, _, s, s' => s' = Function.update s l ((s l).unlock t)

/-! ### Clients -/

/-- A callback object of a client. History: the call of `setResponseFunctions` that installed it, by
which two registrations of one object are told apart. -/
structure Callback where
  object : ℕ
  registration : ℕ
  deriving DecidableEq, Repr

/-- The callback members of `RadioImpl` and `OemHookImpl`. -/
inductive CallbackField
  | mRadioResponse
  | mRadioIndication
  | mRadioResponseV1_1
  | mRadioIndicationV1_1
  | mOemHookResponse
  | mOemHookIndication
  deriving DecidableEq, Repr

/-- `isRadioService`: the two kinds of callbacks, each with a counter of its own. -/
inductive Service
  | radio
  | oemHook
  deriving DecidableEq, Repr

/-- The service a callback member belongs to. A reset clears all members of one service. -/
def CallbackField.service : CallbackField → Service
  | .mOemHookResponse | .mOemHookIndication => .oemHook
  | _ => .radio

/-- A call to a client. Of a response it keeps the type and the serial. -/
inductive ClientMessage
  | acknowledgeRequest (serial : ℤ)
  | response (type : ResponseType) (serial : ℤ)
  | indication (unsolResponse : ℤ) (type : ResponseType)
  | nitzTimeReceived (type : ResponseType) (nitzTime : List UInt8) (receivedTime : ℤ)
  deriving DecidableEq, Repr

/-- History: a call to a client, the thread and the slot it was made for, and whether the transport
delivered it. -/
structure ClientCall where
  thread : ℕ
  slotId : ℤ
  callback : Callback
  message : ClientMessage
  isOk : Bool
  deriving DecidableEq, Repr

/-- History: `checkReturnStatus` clears the callbacks of a service. `failed` is the callback on
which the thread's last failed call was made, `cleared` are the callbacks that were not `NULL`. -/
structure ClientReset where
  thread : ℕ
  slotId : ℤ
  service : Service
  failed : Option Callback
  cleared : List Callback
  deriving DecidableEq, Repr

/-- The callbacks of a slot and the counters `mCounterRadio`, `mCounterOemHook`. -/
structure ClientSlot where
  callback : CallbackField → Option Callback
  counter : Service → ℤ

/-- The callbacks of the clients. History: the number of registrations, the calls and the resets,
newest first. -/
structure Clients where
  slot : ℤ → ClientSlot
  registrations : ℕ
  calls : List ClientCall
  resets : List ClientReset

/-- Operations on the callbacks. `castFrom` is `V1_1::IRadioIndication::castFrom`: `none` when the
query fails, `some none` when the object does not implement the interface. `resetIfCurrent` is what
`checkReturnStatus` does under the write lock, `setResponseFunctions` and `setOemHookFunctions` what
the two `setResponseFunctions` do under it. -/
inductive ClientOp
  | get (slotId : ℤ) (field : CallbackField)
  | castFrom (callback : Callback)
  | call (slotId : ℤ) (callback : Callback) (message : ClientMessage)
  | getCounter (slotId : ℤ) (service : Service)
  | resetIfCurrent (slotId : ℤ) (service : Service) (counter : ℤ)
  | setResponseFunctions (slotId : ℤ) (response indication : Option ℕ)
  | setOemHookFunctions (slotId : ℤ) (response indication : Option ℕ)

def ClientOp.Res : ClientOp → Type
  | .get .. => Option Callback
  | .castFrom _ => Option (Option Callback)
  | .call .. => Bool
  | .getCounter .. => ℤ
  | _ => Unit

namespace Clients

/-- The callback on which the last failed call of the thread `t` was made. -/
def lastFailed (c : Clients) (t : ℕ) : Option Callback :=
  (c.calls.find? fun call => call.thread = t && !call.isOk).map (·.callback)

/-- Set the callbacks of one service of a slot and bump its counter. -/
def replace (c : Clients) (slotId : ℤ) (service : Service)
    (callback : CallbackField → Option Callback) : Clients :=
  { c with
    slot := Function.update c.slot slotId
      { callback := fun f => if f.service = service then callback f
          else (c.slot slotId).callback f
        counter := Function.update (c.slot slotId).counter service
          ((c.slot slotId).counter service + 1) } }

/-- The callbacks of a service that are not `NULL`. -/
def installed (c : Clients) (slotId : ℤ) (service : Service) : List Callback :=
  match service with
  | .radio => [CallbackField.mRadioResponse, .mRadioIndication, .mRadioResponseV1_1,
      .mRadioIndicationV1_1].filterMap (c.slot slotId).callback
  | .oemHook => [CallbackField.mOemHookResponse, .mOemHookIndication].filterMap
      (c.slot slotId).callback

/-- All callbacks of the service become `NULL`. History: which call was the reason, and which
registration was cleared. -/
def reset (c : Clients) (t : ℕ) (slotId : ℤ) (service : Service) : Clients :=
  { c.replace slotId service (fun _ => none) with
    resets := ⟨t, slotId, service, c.lastFailed t, c.installed slotId service⟩ :: c.resets }

/-- The radio callbacks of a registration. `v1_1` says which of the two objects implement the
interface of version 1.1; the members for that version stay `NULL` unless both do. -/
def registered (response indication : Option Callback) (v1_1 : Bool × Bool) :
    CallbackField → Option Callback
  | .mRadioResponse => response
  | .mRadioIndication => indication
  | .mRadioResponseV1_1 =>
    if v1_1.1 && response.isSome && (v1_1.2 && indication.isSome) then response else none
  | .mRadioIndicationV1_1 =>
    if v1_1.1 && response.isSome && (v1_1.2 && indication.isSome) then indication else none
  | _ => none

/-- The OEM hook callbacks of a registration. -/
def registeredOemHook (response indication : Option Callback) : CallbackField → Option Callback
  | .mOemHookResponse => response
  | .mOemHookIndication => indication
  | _ => none

/-- The objects of a client as the callbacks of a new registration. -/
def callbackOf (c : Clients) (object : Option ℕ) : Option Callback :=
  object.map fun o => ⟨o, c.registrations⟩

end Clients

/-- How the thread `t` uses the callbacks. Whether a call succeeds is up to the client, and a
registration may install anything, `NULL` included. -/
def ClientOp.sem (t : ℕ) : Semantics ⟨ClientOp, ClientOp.Res⟩ Clients
  | .get slotId field, r, c, c' => r = (c.slot slotId).callback field ∧ c' = c
  | .castFrom callback, r, c, c' =>
    (r = none ∨ r = some none ∨ r = some (some callback)) ∧ c' = c
  | .call slotId callback message, isOk, c, c' =>
    c' = { c with calls := ⟨t, slotId, callback, message, isOk⟩ :: c.calls }
  | .getCounter slotId service, r, c, c' => r = (c.slot slotId).counter service ∧ c' = c
  | .resetIfCurrent slotId service counter, _, c, c' =>
    if counter = (c.slot slotId).counter service then
      (c.slot slotId).counter service ≠ intMax ∧ c' = c.reset t slotId service
    else c' = c
  | .setResponseFunctions slotId response indication, _, c, c' =>
    (c.slot slotId).counter .radio ≠ intMax ∧
      ∃ v1_1, c' = { c.replace slotId .radio
        (Clients.registered (c.callbackOf response) (c.callbackOf indication) v1_1) with
        registrations := c.registrations + 1 }
  | .setOemHookFunctions slotId response indication, _, c, c' =>
    (c.slot slotId).counter .oemHook ≠ intMax ∧
      c' = { c.replace slotId .oemHook
        (Clients.registeredOemHook (c.callbackOf response) (c.callbackOf indication)) with
        registrations := c.registrations + 1 }

/-! ### NITZ, wake lock, vendor -/

/-- A buffer that is read as a string: its bytes before the first NUL, and whether it has a NUL. -/
structure CharBuffer where
  bytes : List UInt8
  terminated : Bool
  deriving DecidableEq, Repr

/-- What `memcpy` copies of the first `n` bytes of a buffer. The copy is a string only if the
terminator is among them. -/
def CharBuffer.take (b : CharBuffer) (n : ℕ) : CharBuffer :=
  ⟨b.bytes.take n, b.terminated && decide (b.bytes.length < n)⟩

/-- The string that is read at a buffer: without a NUL the read goes on behind the buffer. -/
def CharBuffer.Reads (b : CharBuffer) (string : List UInt8) : Prop :=
  b.bytes <+: string ∧ (b.terminated = true → string = b.bytes)

/-- `s_lastNITZTimeData`, `s_lastNITZTimeDataSize` and `nitzTimeReceived`. -/
structure Nitz where
  lastNITZTimeData : Option CharBuffer
  lastNITZTimeDataSize : ℕ
  nitzTimeReceived : ℤ → ℤ

/-- Operations on the NITZ message. `readString` is `convertCharPtrToHidlString`. -/
inductive NitzOp
  | elapsedRealtime
  | setNitzTimeReceived (slotId timeReceived : ℤ)
  | getNitzTimeReceived (slotId : ℤ)
  | getData
  | getSize
  | free
  | calloc (datalen : ℕ)
  | memcpy (data : CharBuffer) (datalen : ℕ)
  | readString (data : CharBuffer)

def NitzOp.Res : NitzOp → Type
  | .elapsedRealtime => ℤ
  | .getNitzTimeReceived _ => ℤ
  | .getData => Option CharBuffer
  | .getSize => ℕ
  | .calloc _ => Bool
  | .readString _ => List UInt8
  | _ => Unit

/-- How the NITZ message is kept. The clock may show anything, and the memory for a message may not
be found. -/
def NitzOp.sem : Semantics ⟨NitzOp, NitzOp.Res⟩ Nitz
  | .elapsedRealtime, _, n, n' => n' = n
  | .setNitzTimeReceived slotId time, _, n, n' =>
    n' = { n with nitzTimeReceived := Function.update n.nitzTimeReceived slotId time }
  | .getNitzTimeReceived slotId, r, n, n' => r = n.nitzTimeReceived slotId ∧ n' = n
  | .getData, r, n, n' => r = n.lastNITZTimeData ∧ n' = n
  | .getSize, r, n, n' => r = n.lastNITZTimeDataSize ∧ n' = n
  | .free, _, n, n' => n' = { n with lastNITZTimeData := none }
  | .calloc datalen, true, n, n' =>
    n' = { n with lastNITZTimeData := some ⟨[], decide (0 < datalen)⟩ }
  | .calloc _, false, n, n' => n' = { n with lastNITZTimeData := none }
  | .memcpy data datalen, _, n, n' =>
    n' = { n with lastNITZTimeData := some (data.take datalen), lastNITZTimeDataSize := datalen }
  | .readString data, r, n, n' => data.Reads r ∧ n' = n

inductive WakeOp
  | grabPartialWakeLock
  | releaseWakeLock
  | scheduleWakeTimeout

def WakeOp.Res : WakeOp → Type
  | .scheduleWakeTimeout => Bool
  | _ => Unit

/-- The functions of the wake lock, each in one go, since all of them take
`s_wakeLockCountMutex`. -/
def WakeOp.sem (version : ℤ) : Semantics ⟨WakeOp, WakeOp.Res⟩ WakeState
  | .grabPartialWakeLock, _, w, w' =>
    ∃ alloc, w.Fresh alloc ∧ w.grabPartialWakeLock version alloc = some w'
  | .releaseWakeLock, _, w, w' => w' = w.releaseWakeLock version
  | .scheduleWakeTimeout, r, w, w' =>
    ∃ alloc, w.Fresh alloc ∧ (r, w') = w.scheduleWakeTimeout alloc

/-- The vendor and the rest of the process: the vendor's `onRequest`, the check of an indication's
payload, `calloc` of a buffer, a crash. What the vendor does in `onRequest` is other steps of the
run. -/
inductive VendorOp
  | onRequest (request : ℤ) (data : RequestData) (pRI : Addr) (slotId : ℤ)
  | payloadOk
  | calloc
  | abort

def VendorOp.Res : VendorOp → Type
  | .onRequest .. => Unit
  | .abort => Empty
  | _ => Bool

/-- Marks where a function is entered or left. They do nothing. `checkReturnStatus` is entered after
a call of the client with a message. -/
inductive MarkOp
  | enterCheckReturnStatus (slotId : ℤ) (message : ClientMessage)
  | enterSendErrorResponse
  | leaveSendErrorResponse

/-! ### All operations -/

/-- The atomic operations of libril. -/
inductive RilOp
  | pending (o : PendingOp)
  | lock (o : LockOp)
  | client (o : ClientOp)
  | nitz (o : NitzOp)
  | wake (o : WakeOp)
  | vendor (o : VendorOp)
  | mark (o : MarkOp)

def RilOp.Res : RilOp → Type
  | .pending o => o.Res
  | .lock _ => Unit
  | .client o => o.Res
  | .nitz o => o.Res
  | .wake o => o.Res
  | .vendor o => o.Res
  | .mark _ => Unit

/-- The signature of the programs below: operations on the lists, the locks, the clients, the NITZ
message and the wake lock. -/
abbrev rilSignature : Signature := ⟨RilOp, RilOp.Res⟩

/-- The code of a function of libril. -/
abbrev Code (α : Type) : Type := Program rilSignature α

/-- The state of libril, in parts that no operation mixes: the pending lists, the locks, the
clients, the NITZ message and the wake lock. -/
structure RilState where
  pending : Pending
  locks : RadioRwlock → Rwlock
  clients : Clients
  nitz : Nitz
  wake : WakeState

/-- How the operations behave when the thread `t` performs them: each of them on its own part of the
state. The vendor changes nothing here. -/
def RilOp.sem (cfg : Config) (t : ℕ) : Semantics rilSignature RilState
  | .pending o, r, s, s' => ∃ p, o.sem r s.pending p ∧ s' = { s with pending := p }
  | .lock o, r, s, s' => ∃ l, o.sem t r s.locks l ∧ s' = { s with locks := l }
  | .client o, r, s, s' => ∃ c, o.sem t r s.clients c ∧ s' = { s with clients := c }
  | .nitz o, r, s, s' => ∃ n, o.sem r s.nitz n ∧ s' = { s with nitz := n }
  | .wake o, r, s, s' => ∃ w, o.sem cfg.version r s.wake w ∧ s' = { s with wake := w }
  | .vendor _, _, s, s' => s' = s
  | .mark _, _, s, s' => s' = s

/-- A `NULL` is called or dereferenced. -/
def abort {α : Type} : Code α := .op (.vendor .abort) Empty.elim

/-- The process has just started: no request pends, no lock is held, no client is registered, and no
message is kept. -/
structure RilState.Initial (s : RilState) : Prop where
  head : ∀ list, s.pending.head list = none
  live : ∀ a, s.pending.live a = false
  owner : ∀ a, s.pending.owner a = none
  accepted : s.pending.accepted = 0
  log : s.pending.log = []
  locks : ∀ lock, s.locks lock = ⟨0, none⟩
  callback : ∀ slotId field, (s.clients.slot slotId).callback field = none
  counter : ∀ slotId service, (s.clients.slot slotId).counter service = 0
  registrations : s.clients.registrations = 0
  calls : s.clients.calls = []
  resets : s.clients.resets = []
  nitz : s.nitz.lastNITZTimeData = none
  wake : s.wake.Initial

/-- A state in which the process starts. -/
def RilState.start : RilState where
  pending := ⟨fun _ => none, fun _ => none, fun _ => .zeroed, fun _ => false, fun _ => none, 0, []⟩
  locks := fun _ => ⟨0, none⟩
  clients := ⟨fun _ => ⟨fun _ => none, fun _ => 0⟩, 0, [], []⟩
  nitz := ⟨none, 0, fun _ => 0⟩
  wake := .start

theorem RilState.start_initial : RilState.start.Initial :=
  ⟨fun _ => rfl, fun _ => rfl, fun _ => rfl, rfl, rfl, fun _ => rfl, fun _ _ => rfl, fun _ _ => rfl,
    rfl, rfl, rfl, rfl, WakeState.start_initial⟩

/-- A client has registered its callbacks for the first slot. -/
def RilState.oneClient : RilState :=
  { RilState.start with
    clients :=
      { RilState.start.clients.replace 0 .radio
          (Clients.registered (some ⟨1, 0⟩) (some ⟨2, 0⟩) (false, false)) with
        registrations := 1 } }

end BlueCommon.Ril
