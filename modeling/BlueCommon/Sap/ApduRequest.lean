import BlueCommon.Sap.Requests
import Mathlib.Tactic.NormNum

/-!
# APDU requests on their way to the modem

`apduReq` encodes the command, copies the encoding into the payload of the header and dispatches the
header. The length of the encoding passes through a `uint16_t`, and two exits tell nobody.

* `Nanopb.Implements`: what is assumed of the library.
* `ApduIntact`: the vendor has received the whole encoding, or the client a failure.
* `apduReq_runs`: what a run of `apduReq` logs, for every outcome of its allocations.
* `apduIntact_iff`: when a request is intact. `long_command_truncated`: one that is not.
-/

namespace BlueCommon

namespace Sap

open Interaction Program

/-- The library encodes the messages as `encoding` says and `decode` reads the encodings. Messages
that `encoding` does not cover, as those without a required field, are refused. -/
structure Nanopb.Implements (pb : Nanopb) (encoding : SapRequest → Option (List UInt8))
    (decode : List UInt8 → Option SapRequest) : Prop where
  getEncodedSize : ∀ req, pb.getEncodedSize req = (encoding req).map List.length
  encode : ∀ req bytes, encoding req = some bytes → pb.encode req bytes.length = some bytes
  decode : ∀ req bytes, encoding req = some bytes → decode bytes = some req

def SapEvent.IsDispatch : SapEvent → Bool
  | .dispatched .. => true
  | _ => false

/-- From `s` to `s'` the vendor has received the complete encoding of the message, once, or nothing
has been dispatched and the client has been told of the failure, once. -/
def ApduIntact (encoding : SapRequest → Option (List UInt8))
    (decode : List UInt8 → Option SapRequest) (token type : ℤ) (command : List UInt8)
    (s s' : SapState) : Prop :=
  ∃ new, s'.log = new ++ s.log ∧
    ((∃ payload size request,
        new.filter SapEvent.IsDispatch = [.dispatched .apdu payload size request] ∧
        encoding (apduMessage type command) = some payload ∧ size = payload.length ∧
        decode payload = some (apduMessage type command)) ∨
      new = [.failed .apdu token])

/-- The allocations of the request turn out as `outcome` says, one answer for each purpose. -/
abbrev allocationSem (outcome : Kind → Bool) (t : ℕ) : Semantics sapSignature SapState :=
  SapOp.sem (fun kind r => r = outcome kind) t

/-- `dispatchRequest` is called for the encoding `bytes`: memory was found for everything before it,
and there is a socket. -/
structure ReachesDispatch (encoding : SapRequest → Option (List UInt8)) (outcome : Kind → Bool)
    (s : SapState) (type : ℤ) (command bytes : List UInt8) : Prop where
  header : outcome .header = true
  copy : 0 < command.length → outcome .command = true
  encoded : encoding (apduMessage type command) = some bytes
  buffer : outcome .buffer = true
  payload : outcome .payload = true
  socket : s.socket = true

/-- What `dispatchRequest` adds to the log for a payload: the vendor gets it if there is memory for
the request and a vendor, and otherwise nobody is told. -/
def DispatchLogs (outcome : Kind → Bool) (s : SapState) (payload : PbBytesArray)
    (new : List SapEvent) : Prop :=
  if outcome .request = true ∧ s.uimFuncs = true then
    ∃ q, new.filter SapEvent.IsDispatch = [.dispatched .apdu payload.bytes payload.size q]
  else new = []

/-- What `addPayloadAndDispatchRequest` makes of an encoding: `reqLen` is a `uint16_t`. -/
def payloadOf (bytes : List UInt8) : PbBytesArray :=
  ⟨bytes.length % 2 ^ 16, bytes.take (bytes.length % 2 ^ 16)⟩

/-- What `sendFailedResponse` adds to the log. -/
def failureEvent (s : SapState) (token : ℤ) : SapEvent :=
  if s.sapCallback then .failed .apdu token else .nullCallback

/-! ### What the functions log -/

section Runs

variable {outcome : Kind → Bool} {t : ℕ} {s s' : SapState} {pb : Nanopb}

/-- Operations that dispatch nothing. -/
def SapOp.IsQuiet : SapOp → Prop
  | .onRequest .. => False
  | .call e => e.IsDispatch = false
  | _ => True

theorem checkAndDequeue_log (id : MsgId) (token : ℤ) (s : SapState) :
    (s.checkAndDequeue id token).2.log = s.log := by
  obtain ⟨faulty, h⟩ := SapState.checkAndDequeueLoop_snd id token s.pendingResponseQueue s
  unfold SapState.checkAndDequeue
  split
  · next temp u heq =>
    rw [heq] at h
    obtain rfl : u = _ := h
    rfl
  · next u heq =>
    rw [heq] at h
    obtain rfl : u = _ := h
    rfl

/-- Quiet operations add no dispatch to the log. An allocation logs nothing, and a response or an
error of the callback is not a dispatch. -/
theorem SapOp.IsQuiet.sem {o : SapOp} (ho : o.IsQuiet) {r : o.Res}
    (h : SapOp.sem (fun kind r => r = outcome kind) t o r s s') :
    ∃ new, s'.log = new ++ s.log ∧ new.filter SapEvent.IsDispatch = [] := by
  cases o with
  | allocate kind =>
    -- with memory or without it, an allocation logs nothing
    rcases h with ⟨-, -, rfl⟩ | ⟨-, -, rfl⟩
    · exact ⟨[], rfl, rfl⟩
    · exact ⟨[], rfl, rfl⟩
  | free p => obtain rfl := h; exact ⟨[], rfl, rfl⟩
  | getHeader p => obtain ⟨-, rfl⟩ := h; exact ⟨[], rfl, rfl⟩
  | setHeader p msg => obtain rfl := h; exact ⟨[], rfl, rfl⟩
  | setPayload p payload => obtain rfl := h; exact ⟨[], rfl, rfl⟩
  | getData p => obtain ⟨-, rfl⟩ := h; exact ⟨[], rfl, rfl⟩
  | setData p data => obtain rfl := h; exact ⟨[], rfl, rfl⟩
  | getRequest p => obtain ⟨-, rfl⟩ := h; exact ⟨[], rfl, rfl⟩
  | setRequest p request => obtain rfl := h; exact ⟨[], rfl, rfl⟩
  | getSocketById => obtain ⟨-, rfl⟩ := h; exact ⟨[], rfl, rfl⟩
  | getUimFuncs => obtain ⟨-, rfl⟩ := h; exact ⟨[], rfl, rfl⟩
  | enqueue p => obtain rfl := h; exact ⟨[], rfl, rfl⟩
  -- the queue is searched, and nothing is sent
  | checkAndDequeue id token request =>
    obtain ⟨-, rfl⟩ := h
    exact ⟨[], checkAndDequeue_log id token s, rfl⟩
  -- the one command that is not quiet
  | onRequest id data size request => exact ho.elim
  | beginCompletion request => obtain ⟨-, rfl⟩ := h; exact ⟨[], rfl, rfl⟩
  | getSapCallback => obtain ⟨-, rfl⟩ := h; exact ⟨[], rfl, rfl⟩
  -- a response or an error of the callback is logged, and neither is a dispatch
  | call e =>
    obtain rfl := h
    refine ⟨[if s.sapCallback then e else .nullCallback], rfl, ?_⟩
    split
    · rw [List.filter_cons_of_neg
        (by rw [show e.IsDispatch = false from ho]; exact Bool.false_ne_true)]
      rfl
    · rfl
  | resetSapCallback => obtain rfl := h; exact ⟨[], rfl, rfl⟩

/-- Quiet code dispatches nothing. -/
theorem quiet_runs {α : Type} {code : Code α} {a : α} (hcode : code.Only SapOp.IsQuiet)
    (h : code.Runs (allocationSem outcome t) s a s') :
    ∃ new, s'.log = new ++ s.log ∧ new.filter SapEvent.IsDispatch = [] := by
  refine Only.invariant
    (fun u => ∃ new, u.log = new ++ s.log ∧ new.filter SapEvent.IsDispatch = [])
    (fun o r u u' ho hsem hu => ?_) hcode h ⟨[], rfl, rfl⟩
  obtain ⟨new, hlog, hnew⟩ := hu
  obtain ⟨new', hlog', hnew'⟩ := ho.sem hsem
  refine ⟨new' ++ new, ?_, ?_⟩
  · rw [hlog', hlog, List.append_assoc]
  · rw [List.filter_append, hnew', hnew]
    rfl

theorem freePointer_isQuiet (ptr : Option Ptr) : (freePointer ptr).Only SapOp.IsQuiet := by
  cases ptr with
  | none => trivial
  | some p => exact ⟨trivial, fun _ => trivial⟩

theorem freePointers_isQuiet (ptrs : List (Option Ptr)) :
    (freePointers ptrs).Only SapOp.IsQuiet := by
  induction ptrs with
  | nil => trivial
  | cons ptr ptrs ih => exact (freePointer_isQuiet ptr).bind fun _ => ih

theorem checkReturnStatus_isQuiet (isOk : Bool) :
    (checkReturnStatus isOk).Only SapOp.IsQuiet := by
  cases isOk with
  | false => exact ⟨trivial, fun _ => trivial⟩
  | true => trivial

theorem sendFailedResponse_isQuiet (msgId : MsgId) (token : ℤ) (ptrs : List (Option Ptr)) :
    (sendFailedResponse msgId token ptrs).Only SapOp.IsQuiet := by
  refine (freePointers_isQuiet ptrs).bind fun _ => ?_
  cases msgId with
  | other value => trivial
  | _ => exact ⟨rfl, fun isOk => checkReturnStatus_isQuiet isOk⟩

theorem processResponse_isQuiet (id : MsgId) (token : ℤ) (response : List UInt8) :
    (processResponse pb id token response).Only SapOp.IsQuiet := by
  refine ⟨trivial, fun (sapCallback : Bool) => ?_⟩
  show (ite (sapCallback = false) (pure ()) (ite _ _ _) : Code Unit).Only SapOp.IsQuiet
  split
  · trivial
  split
  · exact sendFailedResponse_isQuiet id token []
  · cases id with
    | other value => trivial
    | _ => exact ⟨rfl, fun isOk => checkReturnStatus_isQuiet isOk⟩

theorem sendResponse_isQuiet (header : MsgHeader) (response : List UInt8) :
    (sendResponse pb header response).Only SapOp.IsQuiet := by
  refine ⟨trivial, fun r => ?_⟩
  cases r with
  | none => trivial
  | some payload =>
    refine ⟨trivial, fun _ => (processResponse_isQuiet _ _ _).bind fun _ => ?_⟩
    exact ⟨trivial, fun _ => trivial⟩

theorem onRequestComplete_isQuiet (request : Ptr) (response : List UInt8) :
    (onRequestComplete pb request response).Only SapOp.IsQuiet := by
  refine ⟨trivial, fun _ => ⟨trivial, fun _ => (sendResponse_isQuiet _ _).bind fun _ => ?_⟩⟩
  exact ⟨trivial, fun _ => ⟨trivial, fun _ => ⟨trivial, fun _ => trivial⟩⟩⟩

theorem sOnRequestComplete_isQuiet (request : Ptr) (response : List UInt8) :
    (sOnRequestComplete pb request response).Only SapOp.IsQuiet := by
  refine ⟨trivial, fun _ => ⟨trivial, fun sapSocket => ?_⟩⟩
  cases sapSocket with
  | true => exact onRequestComplete_isQuiet request response
  | false => exact ⟨trivial, fun _ => ⟨trivial, fun _ => ⟨trivial, fun _ => trivial⟩⟩⟩

theorem freePointer_runs {ptr : Option Ptr} {a : Unit}
    (h : (freePointer ptr).Runs (allocationSem outcome t) s a s') :
    s'.log = s.log ∧ s'.sapCallback = s.sapCallback := by
  cases ptr with
  | none =>
    obtain ⟨-, rfl⟩ := h
    exact ⟨rfl, rfl⟩
  | some p =>
    obtain ⟨_, _, rfl, -, rfl⟩ := h
    exact ⟨rfl, rfl⟩

theorem freePointers_runs {ptrs : List (Option Ptr)} {a : Unit}
    (h : (freePointers ptrs).Runs (allocationSem outcome t) s a s') :
    s'.log = s.log ∧ s'.sapCallback = s.sapCallback := by
  induction ptrs generalizing s with
  | nil =>
    obtain ⟨-, rfl⟩ := h
    exact ⟨rfl, rfl⟩
  | cons ptr ptrs ih =>
    obtain ⟨_, s₁, hfirst, hrest⟩ := (runs_bind _ _).mp h
    obtain ⟨hlog₁, hcallback₁⟩ := freePointer_runs hfirst
    obtain ⟨hlog, hcallback⟩ := ih hrest
    exact ⟨hlog.trans hlog₁, hcallback.trans hcallback₁⟩

/-- The failure of an APDU request is sent if there is a client. -/
theorem sendFailedResponse_runs {token : ℤ} {ptrs : List (Option Ptr)} {a : Unit}
    (h : (sendFailedResponse .apdu token ptrs).Runs (allocationSem outcome t) s a s') :
    s'.log = [failureEvent s token] ++ s.log := by
  obtain ⟨_, s₁, hfree, h⟩ := (runs_bind _ _).mp h
  obtain ⟨hlog, hcallback⟩ := freePointers_runs hfree
  obtain ⟨isOk, _, rfl, h⟩ := h
  have hsame : s'.log =
      (if s₁.sapCallback then .failed .apdu token else .nullCallback) :: s₁.log := by
    cases isOk with
    | true =>
      obtain ⟨-, rfl⟩ := h
      rfl
    | false =>
      obtain ⟨_, _, rfl, -, rfl⟩ := h
      rfl
  rw [hsame, hlog, hcallback]
  rfl

/-- The vendor gets the payload, whatever it does then. -/
theorem onRequest_runs {id : MsgId} {payload : PbBytesArray} {q : Ptr} {a : Unit}
    (h : (onRequest pb id payload q).Runs (allocationSem outcome t) s a s') :
    ∃ new, s'.log = new ++ s.log ∧
      new.filter SapEvent.IsDispatch = [.dispatched id payload.bytes payload.size q] := by
  obtain ⟨response, _, rfl, h⟩ := h
  have hquiet : ∃ new, s'.log = new ++ .dispatched id payload.bytes payload.size q :: s.log ∧
      new.filter SapEvent.IsDispatch = [] := by
    cases response with
    -- the vendor's code answers later
    | none =>
      obtain ⟨-, rfl⟩ := h
      exact ⟨[], rfl, rfl⟩
    -- or at once, and what the answer logs is no dispatch
    | some response => exact quiet_runs (sOnRequestComplete_isQuiet q response) h
  obtain ⟨new, hlog, hnew⟩ := hquiet
  refine ⟨new ++ [.dispatched id payload.bytes payload.size q], ?_, ?_⟩
  · rw [hlog, List.append_assoc]
    rfl
  · rw [List.filter_append, hnew]
    rfl

/-- What `dispatchRequest` logs for the header of an APDU request with a payload. The calls are
followed in their order; if the functions of the vendor are not there, the request stays in the
queue unanswered. -/
theorem dispatchRequest_runs {req p : Ptr} {a : Unit} (hreq : s.live req = true)
    (hid : (s.headers req).id = .apdu) (hpayload : (s.headers req).payload = some p)
    (hp : s.live p = true)
    (h : (dispatchRequest pb req).Runs (allocationSem outcome t) s a s') :
    ∃ new, s'.log = new ++ s.log ∧ DispatchLogs outcome s (s.data p) new := by
  unfold DispatchLogs
  -- the calls of `dispatchRequest` in their order, with the state after each
  unfold dispatchRequest at h
  replace h := runs_op_bind.mp h
  obtain ⟨r, s₁, hallocate, h⟩ := h
  rcases hallocate with ⟨hfail, rfl, rfl⟩ | ⟨hout, rfl, rfl⟩
  · -- out of memory: the header is freed
    obtain ⟨_, _, rfl, -, rfl⟩ := h
    refine ⟨[], rfl, ?_⟩
    rw [if_neg fun hand => Bool.false_ne_true (hfail.trans hand.1)]
  · -- the request is filled in and put into the queue
    replace h := runs_op_bind.mp h
    obtain ⟨header, _, ⟨-, rfl⟩, h⟩ := h
    replace h := runs_op_bind.mp h
    obtain ⟨_, _, rfl, h⟩ := h
    replace h := runs_op_bind.mp h
    obtain ⟨_, _, rfl, h⟩ := h
    replace h := runs_op_bind.mp h
    obtain ⟨uimFuncs, _, ⟨rfl, rfl⟩, h⟩ := h
    generalize hs₁ : (((s.allocated t .request).touch req).writeRequest s.next
      ⟨header.token, req⟩).enqueue s.next = s₁ at h
    have hlive : ∀ x, s.live x = true → s₁.live x = true := by
      intro x hx
      simpa [← hs₁] using s.live_allocated t .request hx
    have hsame : s₁.headers req = s.headers req ∧ s₁.data p = s.data p ∧ s₁.log = s.log ∧
        s₁.uimFuncs = s.uimFuncs := by
      simp [← hs₁]
    obtain ⟨hheaders, hdata, hlog, huimFuncs⟩ := hsame
    rw [huimFuncs] at h
    -- the vendor's functions are there, or the request stays in the queue unanswered
    by_cases hfuncs : s.uimFuncs = true
    · rw [if_pos hfuncs] at h
      replace h := runs_op_bind.mp h
      -- the header that is read is the one that was given
      obtain ⟨header', _, ⟨hheader', rfl⟩, h⟩ := h
      rw [hheader' (hlive req hreq), hheaders, hpayload] at h
      replace h := runs_op_bind.mp h
      obtain ⟨payload, _, ⟨hdata', rfl⟩, h⟩ := h
      rw [hdata' (hlive p hp)] at h
      obtain ⟨new, hnew, hfilter⟩ := onRequest_runs h
      refine ⟨new, ?_, ?_⟩
      · rw [hnew, ← hlog]
        rfl
      · -- one dispatch, of the payload's bytes and for the request that was allocated
        rw [if_pos ⟨hout.symm, hfuncs⟩, hfilter, hid, ← hdata]
        exact ⟨s.next, rfl⟩
    · rw [if_neg hfuncs] at h
      obtain ⟨-, rfl⟩ := h
      refine ⟨[], hlog, ?_⟩
      rw [if_neg fun hand => hfuncs hand.2]

/-- What `addPayloadAndDispatchRequest` logs for the header of an APDU request and the encoding in
its buffer. -/
theorem addPayloadAndDispatchRequest_runs {msg reqPtr : Ptr} {bytes : List UInt8} {token : ℤ}
    {a : Unit} (hmsg : s.live msg = true) (htoken : (s.headers msg).token = token)
    (hid : (s.headers msg).id = .apdu) (hreqPtr : s.live reqPtr = true)
    (hbytes : (s.data reqPtr).bytes = bytes)
    (h : (addPayloadAndDispatchRequest pb msg bytes.length reqPtr).Runs (allocationSem outcome t)
      s a s') :
    ∃ new, s'.log = new ++ s.log ∧
      if outcome .payload = true ∧ s.socket = true then DispatchLogs outcome s (payloadOf bytes) new
      else new = [failureEvent s token] := by
  unfold addPayloadAndDispatchRequest at h
  replace h := runs_op_bind.mp h
  obtain ⟨r, s₁, hallocate, h⟩ := h
  rcases hallocate with ⟨hfail, rfl, rfl⟩ | ⟨hout, rfl, rfl⟩
  · -- no memory for the payload
    replace h := runs_op_bind.mp h
    obtain ⟨header, _, ⟨hheader, rfl⟩, h⟩ := h
    rw [hheader hmsg, hid, htoken] at h
    refine ⟨_, @sendFailedResponse_runs _ _ (s₁.touch msg) _ _ _ _ h, ?_⟩
    rw [if_neg fun hand => Bool.false_ne_true (hfail.trans hand.1)]
    rfl
  · -- the payload is given the length as 16 bits, and as many bytes
    replace h := runs_op_bind.mp h
    obtain ⟨_, _, rfl, h⟩ := h
    replace h := runs_op_bind.mp h
    obtain ⟨req, _, ⟨hreq, rfl⟩, h⟩ := h
    replace h := runs_op_bind.mp h
    obtain ⟨_, _, rfl, h⟩ := h
    replace h := runs_op_bind.mp h
    obtain ⟨sapSocket, _, ⟨rfl, rfl⟩, h⟩ := h
    have hreq' : req = s.data reqPtr := hreq (s.live_allocated t .payload hreqPtr)
    subst hreq'
    generalize hs₁ : (((s.allocated t .payload).writeHeader msg
      { (s.allocated t .payload).headers msg with payload := some s.next }).touch
        reqPtr).writeData s.next
          ⟨bytes.length % 2 ^ 16, (s.data reqPtr).bytes.take (bytes.length % 2 ^ 16)⟩ = s₁ at h
    have hsame : s₁.log = s.log ∧ s₁.socket = s.socket ∧ s₁.uimFuncs = s.uimFuncs ∧
        s₁.sapCallback = s.sapCallback := by
      simp [← hs₁]
    obtain ⟨hlog, hsocket, huimFuncs, hcallback⟩ := hsame
    have hlive : s₁.live msg = true ∧ s₁.live s.next = true := by
      rw [← hs₁]
      simpa using s.live_allocated t .payload hmsg
    have hheaders : s₁.headers msg = ⟨token, .apdu, some s.next⟩ := by
      simp [← hs₁, ← htoken, ← hid]
    have hdata : s₁.data s.next = payloadOf bytes := by
      simp [← hs₁, hbytes, payloadOf]
    rw [hsocket] at h
    -- the socket of the slot is there, or a failure is sent
    by_cases hs : s.socket = true
    · -- what the dispatch logs is all there is, since freeing logs nothing
      rw [if_pos hs] at h
      replace h := (runs_bind _ _).mp h
      obtain ⟨_, s₂, hdispatch, h⟩ := h
      replace h := runs_op_bind.mp h
      obtain ⟨header, _, ⟨-, rfl⟩, h⟩ := h
      replace h := (runs_bind _ _).mp h
      obtain ⟨_, s₃, hfree, h⟩ := h
      obtain ⟨_, _, rfl, -, rfl⟩ := h
      have hpayload : (s₁.headers msg).payload = some s.next := by rw [hheaders]
      have hid₁ : (s₁.headers msg).id = .apdu := by rw [hheaders]
      obtain ⟨new, hnew, hcases⟩ := dispatchRequest_runs hlive.1 hid₁ hpayload hlive.2 hdispatch
      refine ⟨new, ?_, ?_⟩
      · rw [← hlog, ← hnew]
        exact (freePointer_runs hfree).1
      · rw [if_pos ⟨hout.symm, hs⟩]
        unfold DispatchLogs at hcases ⊢
        rw [huimFuncs, hdata] at hcases
        exact hcases
    · -- no socket: the header is still alive, and its token goes into the response
      rw [if_neg hs] at h
      replace h := runs_op_bind.mp h
      obtain ⟨header, _, ⟨hheader, rfl⟩, h⟩ := h
      rw [hheader hlive.1, hheaders] at h
      refine ⟨_, (sendFailedResponse_runs h).trans (congrArg _ hlog), ?_⟩
      rw [if_neg fun hand => hs hand.2]
      show [failureEvent s₁ token] = _
      unfold failureEvent
      rw [hcallback]

variable {encoding : SapRequest → Option (List UInt8)} {decode : List UInt8 → Option SapRequest}

/-- What `encodeAndDispatch` logs for the header of an APDU request: the dispatch, or one failure.
The message can be made if it can be encoded and there is memory, and it is dispatched if there is a
socket. -/
theorem encodeAndDispatch_runs (hpb : pb.Implements encoding decode) {msg : Ptr} {req : SapRequest}
    {owned : List (Option Ptr)} {token : ℤ} {a : Unit} (hmsg : s.live msg = true)
    (htoken : (s.headers msg).token = token) (hid : (s.headers msg).id = .apdu)
    (h : (encodeAndDispatch pb .apdu token req owned msg).Runs (allocationSem outcome t) s a s') :
    ∃ new, s'.log = new ++ s.log ∧
      ((∃ bytes, encoding req = some bytes ∧ outcome .buffer = true ∧ outcome .payload = true ∧
        s.socket = true ∧ DispatchLogs outcome s (payloadOf bytes) new) ∨
      (∀ bytes, encoding req = some bytes → outcome .buffer = true → outcome .payload = true →
        s.socket = true → False) ∧ new = [failureEvent s token]) := by
  unfold encodeAndDispatch at h
  rw [hpb.getEncodedSize] at h
  cases henc : encoding req with
  -- `pb_get_encoded_size` fails: no message can be made of the request
  | none =>
    rw [henc] at h
    refine ⟨_, sendFailedResponse_runs h, .inr ⟨fun bytes hbytes => ?_, rfl⟩⟩
    cases hbytes
  | some bytes =>
    rw [henc] at h
    replace h := runs_op_bind.mp h
    obtain ⟨r, s₁, hallocate, h⟩ := h
    rcases hallocate with ⟨hfail, rfl, rfl⟩ | ⟨hout, rfl, rfl⟩
    · -- no memory for the buffer
      refine ⟨_, sendFailedResponse_runs h, .inr ⟨fun _ _ hbuffer => ?_, rfl⟩⟩
      exact absurd (hfail.trans hbuffer) Bool.false_ne_true
    · -- the buffer holds the encoding in full
      dsimp only at h
      rw [hpb.encode req bytes henc] at h
      replace h := runs_op_bind.mp h
      obtain ⟨_, s₁, hwrite, h⟩ := h
      obtain rfl : s₁ = (s.allocated t .buffer).writeData s.next ⟨bytes.length, bytes⟩ := hwrite
      obtain ⟨new, hnew, hcases⟩ := addPayloadAndDispatchRequest_runs
        (by simpa using s.live_allocated t .buffer hmsg) (by simpa using htoken)
        (by simpa using hid) (by simp)
        (by simp) h
      refine ⟨new, by simpa using hnew, ?_⟩
      -- what the next function does depends on the payload and on the socket
      split at hcases
      · next hand =>
        exact .inl ⟨bytes, rfl, hout.symm, hand.1, by simpa using hand.2, hcases⟩
      · next hand =>
        refine .inr ⟨fun _ _ _ hpayload hsocket => hand ⟨hpayload, by simpa using hsocket⟩, ?_⟩
        rw [hcases]
        rfl

/-- What `createMsgHeader` does. -/
theorem createMsgHeader_runs {msgId : MsgId} {token : ℤ} {r : Option Ptr}
    (h : (createMsgHeader msgId token).Runs (allocationSem outcome t) s r s') :
    (outcome .header = false ∧ r = none ∧ s' = s) ∨
      (outcome .header = true ∧ r = some s.next ∧
        s' = (s.allocated t .header).writeHeader s.next ⟨token, msgId, none⟩) := by
  obtain ⟨r', s₁, hallocate, h⟩ := h
  rcases hallocate with ⟨hfail, rfl, rfl⟩ | ⟨hout, rfl, rfl⟩
  · exact .inl ⟨hfail.symm, h⟩
  · obtain ⟨_, _, rfl, hr, rfl⟩ := h
    exact .inr ⟨hout.symm, hr, rfl⟩

/-- **What a run of `apduReq` logs.** If it gets as far as `dispatchRequest`, that is
`DispatchLogs`, and otherwise the failure. -/
theorem apduReq_runs (hpb : pb.Implements encoding decode) {token type : ℤ} {command : List UInt8}
    {a : Unit} (h : (apduReq pb token type command).Runs (allocationSem outcome t) s a s') :
    ∃ new, s'.log = new ++ s.log ∧
      ((∃ bytes, ReachesDispatch encoding outcome s type command bytes ∧
        DispatchLogs outcome s (payloadOf bytes) new) ∨
      (∀ bytes, ¬ ReachesDispatch encoding outcome s type command bytes) ∧
        new = [failureEvent s token]) := by
  unfold apduReq at h
  replace h := (runs_bind _ _).mp h
  obtain ⟨r, s₁, hheader, h⟩ := h
  rcases createMsgHeader_runs hheader with ⟨hfail, rfl, rfl⟩ | ⟨hout, rfl, rfl⟩
  · -- no memory for the header
    refine ⟨_, sendFailedResponse_runs h, .inr ⟨fun bytes hreach => ?_, rfl⟩⟩
    rw [hreach.header] at hfail
    cases hfail
  dsimp only at h
  generalize hs₁ : (s.allocated t .header).writeHeader s.next ⟨token, .apdu, none⟩ = s₁ at h
  have hlive : s₁.live s.next = true := by simp [← hs₁]
  have hmsg : s₁.headers s.next = ⟨token, .apdu, none⟩ := by simp [← hs₁]
  -- from a state in which `req.command` is set
  have hencode : ∀ (s₂ : SapState) (owned : List (Option Ptr)), s₂.live s.next = true →
      s₂.headers s.next = ⟨token, .apdu, none⟩ → s₂.log = s.log → s₂.socket = s.socket →
      s₂.uimFuncs = s.uimFuncs → s₂.sapCallback = s.sapCallback →
      (0 < command.length → outcome .command = true) →
      (encodeAndDispatch pb .apdu token (apduMessage type command) owned s.next).Runs
        (allocationSem outcome t) s₂ a s' →
      ∃ new, s'.log = new ++ s.log ∧
        ((∃ bytes, ReachesDispatch encoding outcome s type command bytes ∧
          DispatchLogs outcome s (payloadOf bytes) new) ∨
        (∀ bytes, ¬ ReachesDispatch encoding outcome s type command bytes) ∧
          new = [failureEvent s token]) := by
    -- the state after the header, and perhaps the copy of the command
    intro s₂ owned hlive₂ hmsg₂ hlog₂ hsocket₂ huim₂ hcallback₂ hcopy h
    obtain ⟨new, hnew, hcases⟩ :=
      encodeAndDispatch_runs hpb hlive₂ (by rw [hmsg₂]) (by rw [hmsg₂]) h
    unfold DispatchLogs failureEvent at hcases
    rw [huim₂, hcallback₂, hsocket₂] at hcases
    refine ⟨new, by rw [hnew, hlog₂], hcases.imp ?_ ?_⟩
    · -- dispatched: all the conditions are those of `ReachesDispatch`
      rintro ⟨bytes, henc, hbuffer, hpayload, hsocket, hlogs⟩
      exact ⟨bytes, ⟨hout, hcopy, henc, hbuffer, hpayload, hsocket⟩, hlogs⟩
    · -- failed: one of them was not met
      rintro ⟨hnot, rfl⟩
      exact ⟨fun bytes hr => hnot bytes hr.encoded hr.buffer hr.payload hr.socket, rfl⟩
  -- the command is copied only when it is not empty
  split at h
  · next hpos =>
    replace h := runs_op_bind.mp h
    obtain ⟨r, s₂, hallocate, h⟩ := h
    rcases hallocate with ⟨hfail, rfl, rfl⟩ | ⟨hcommand, rfl, rfl⟩
    · -- no memory for the copy of the command
      refine ⟨_, (sendFailedResponse_runs h).trans ?_, .inr ⟨fun bytes hreach => ?_, rfl⟩⟩
      · rw [← hs₁]
        rfl
      · exact Bool.false_ne_true (hfail.trans (hreach.copy hpos))
    · -- the copy is filled with the bytes of the command
      replace h := runs_op_bind.mp h
      obtain ⟨_, s₂, hwrite, h⟩ := h
      obtain rfl : s₂ = (s₁.allocated t .command).writeData s₁.next ⟨command.length, command⟩ :=
        hwrite
      refine hencode _ _ ?_ ?_ ?_ ?_ ?_ ?_ (fun _ => hcommand.symm) h
      · simpa using s₁.live_allocated t .command hlive
      · simpa using hmsg
      all_goals simp [← hs₁]
  · -- an empty command needs no copy
    next hpos =>
    refine hencode s₁ _ hlive hmsg ?_ ?_ ?_ ?_ (fun hlt => absurd hlt hpos) h
    all_goals simp [← hs₁]

/-! ### Every request ends -/

/-- The code can run to its end from every state. -/
def Runnable {α : Type} (outcome : Kind → Bool) (t : ℕ) (code : Code α) : Prop :=
  ∀ s, ∃ a s', code.Runs (allocationSem outcome t) s a s'

theorem Runnable.pure {α : Type} (a : α) : Runnable outcome t (.ret a) := fun s => ⟨a, s, rfl, rfl⟩

theorem Runnable.bind {α β : Type} {p : Code α} {f : α → Code β} (hp : Runnable outcome t p)
    (hf : ∀ a, Runnable outcome t (f a)) : Runnable outcome t (p >>= f) := by
  intro s
  obtain ⟨a, s₁, hrun⟩ := hp s
  obtain ⟨b, s₂, hrun₂⟩ := hf a s₁
  exact ⟨b, s₂, (runs_bind p f).mpr ⟨a, s₁, hrun, hrun₂⟩⟩

/-- Every operation has a result, but `beginCompletion` only has one if the vendor has the
request. -/
theorem Runnable.op {o : SapOp} (ho : ∀ q, o ≠ .beginCompletion q) :
    Runnable outcome t (.op o .ret : Code o.Res) := by
  intro s
  have hsem : ∃ r s', allocationSem outcome t o r s s' := by
    -- each command has an answer that its meaning allows
    cases o with
    -- memory is given or refused as `outcome` says
    | allocate kind =>
      cases hout : outcome kind with
      | false => exact ⟨none, s, .inl ⟨hout.symm, rfl, rfl⟩⟩
      | true => exact ⟨some s.next, _, .inr ⟨hout.symm, rfl, rfl⟩⟩
    | getHeader p => exact ⟨s.headers p, _, fun _ => rfl, rfl⟩
    | getData p => exact ⟨s.data p, _, fun _ => rfl, rfl⟩
    | getRequest p => exact ⟨s.requests p, _, fun _ => rfl, rfl⟩
    | getSocketById => exact ⟨s.socket, _, rfl, rfl⟩
    | getUimFuncs => exact ⟨s.uimFuncs, _, rfl, rfl⟩
    | getSapCallback => exact ⟨s.sapCallback, _, rfl, rfl⟩
    | checkAndDequeue id token request => exact ⟨_, _, rfl, rfl⟩
    | onRequest id data size request => exact ⟨none, _, rfl⟩
    -- a callback may answer with anything
    | call e => exact ⟨true, _, rfl⟩
    | beginCompletion request => exact absurd rfl (ho request)
    -- the others return nothing
    | _ => exact ⟨(), _, rfl⟩
  obtain ⟨r, s', h⟩ := hsem
  exact ⟨r, s', r, s', h, rfl, rfl⟩

theorem freePointer_runnable (ptr : Option Ptr) : Runnable outcome t (freePointer ptr) := by
  cases ptr with
  | none => exact .pure ()
  | some p => exact .op fun _ h => by cases h

theorem freePointers_runnable (ptrs : List (Option Ptr)) :
    Runnable outcome t (freePointers ptrs) := by
  induction ptrs with
  | nil => exact .pure ()
  | cons ptr ptrs ih => exact (freePointer_runnable ptr).bind fun _ => ih

theorem sendFailedResponse_runnable (msgId : MsgId) (token : ℤ) (ptrs : List (Option Ptr)) :
    Runnable outcome t (sendFailedResponse msgId token ptrs) := by
  have hcall : Runnable outcome t (call (.failed msgId token) >>= checkReturnStatus) := by
    refine Runnable.bind (.op fun _ h => by cases h) fun isOk => ?_
    unfold checkReturnStatus
    split
    · exact .op fun _ h => by cases h
    · exact .pure ()
  refine (freePointers_runnable ptrs).bind fun _ => ?_
  cases msgId with
  | other value => exact .pure ()
  | _ => exact hcall

theorem onRequest_runnable (id : MsgId) (payload : PbBytesArray) (q : Ptr) :
    Runnable outcome t (onRequest pb id payload q) :=
  -- the vendor may return at once
  fun _ => ⟨(), _, none, _, rfl, rfl, rfl⟩

theorem dispatchRequest_runnable (req : Ptr) : Runnable outcome t (dispatchRequest pb req) := by
  refine Runnable.bind (.op fun _ h => by cases h) fun r => ?_
  cases r with
  | none => exact .op fun _ h => by cases h
  | some currRequest =>
    refine Runnable.bind (.op fun _ h => by cases h) fun header => ?_
    refine Runnable.bind (.op fun _ h => by cases h) fun _ => ?_
    refine Runnable.bind (.op fun _ h => by cases h) fun _ => ?_
    refine Runnable.bind (.op fun _ h => by cases h) fun uimFuncs => ?_
    split
    · refine Runnable.bind (.op fun _ h => by cases h) fun header' => ?_
      split
      · exact .pure ()
      · exact Runnable.bind (.op fun _ h => by cases h) fun payload => onRequest_runnable _ _ _
    · exact .pure ()

theorem addPayloadAndDispatchRequest_runnable (msg : Ptr) (reqLen : ℕ) (reqPtr : Ptr) :
    Runnable outcome t (addPayloadAndDispatchRequest pb msg reqLen reqPtr) := by
  refine Runnable.bind (.op fun _ h => by cases h) fun r => ?_
  cases r with
  -- each of the branches runs to its end
  | none =>
    refine Runnable.bind (.op fun _ h => by cases h) fun header => ?_
    exact sendFailedResponse_runnable _ _ _
  | some payload =>
    refine Runnable.bind (.op fun _ h => by cases h) fun _ => ?_
    refine Runnable.bind (.op fun _ h => by cases h) fun req => ?_
    refine Runnable.bind (.op fun _ h => by cases h) fun _ => ?_
    refine Runnable.bind (.op fun _ h => by cases h) fun sapSocket => ?_
    split
    · refine (dispatchRequest_runnable msg).bind fun _ => ?_
      refine Runnable.bind (.op fun _ h => by cases h) fun header => ?_
      exact (freePointer_runnable header.payload).bind fun _ => .op fun _ h => by cases h
    · refine Runnable.bind (.op fun _ h => by cases h) fun header => ?_
      exact sendFailedResponse_runnable _ _ _

theorem encodeAndDispatch_runnable (msgId : MsgId) (token : ℤ) (req : SapRequest)
    (owned : List (Option Ptr)) (msg : Ptr) :
    Runnable outcome t (encodeAndDispatch pb msgId token req owned msg) := by
  unfold encodeAndDispatch
  split
  · exact sendFailedResponse_runnable _ _ _
  · refine Runnable.bind (.op fun _ h => by cases h) fun r => ?_
    cases r with
    | none => exact sendFailedResponse_runnable _ _ _
    | some buffer =>
      dsimp only
      split
      · exact sendFailedResponse_runnable _ _ _
      · refine Runnable.bind (.op fun _ h => by cases h) fun _ => ?_
        exact addPayloadAndDispatchRequest_runnable _ _ _

/-- A run of `apduReq` exists for every outcome of its allocations. -/
theorem apduReq_runnable (token type : ℤ) (command : List UInt8) :
    Runnable outcome t (apduReq pb token type command) := by
  have hheader : Runnable outcome t (createMsgHeader .apdu token) := by
    refine Runnable.bind (.op fun _ h => by cases h) fun r => ?_
    cases r with
    | none => exact .pure none
    | some msg => exact Runnable.bind (.op fun _ h => by cases h) fun _ => .pure (some msg)
  refine hheader.bind fun r => ?_
  -- with the header or without it
  cases r with
  | none => exact sendFailedResponse_runnable _ _ _
  | some msg =>
    dsimp only
    split
    · refine Runnable.bind (.op fun _ h => by cases h) fun r => ?_
      cases r with
      | none => exact sendFailedResponse_runnable _ _ _
      | some reqCommand =>
        refine Runnable.bind (.op fun _ h => by cases h) fun _ => ?_
        exact encodeAndDispatch_runnable _ _ _ _ _
    · exact encodeAndDispatch_runnable _ _ _ _ _

/-! ### Intact requests -/

/-- A payload is complete exactly if its length fits into the `uint16_t`. -/
theorem payloadOf_bytes_iff {bytes : List UInt8} :
    (payloadOf bytes).bytes = bytes ↔ bytes.length < 2 ^ 16 := by
  constructor
  · intro h
    have hlen : min (bytes.length % 2 ^ 16) bytes.length = bytes.length := by
      rw [← List.length_take]
      exact congrArg List.length h
    rw [← hlen]
    exact lt_of_le_of_lt (min_le_left _ _) (Nat.mod_lt _ (by norm_num))
  · intro h
    unfold payloadOf
    rw [Nat.mod_eq_of_lt h, List.take_length]

/-- The condition is necessary for a request that gets as far as `dispatchRequest`. What was logged
is the dispatch of the command with its length, and only below 2 ^ 16 do 16 bits hold it. -/
theorem ApduIntact.of_reachesDispatch (hpb : pb.Implements encoding decode) {token type : ℤ}
    {command bytes : List UInt8} {a : Unit}
    (hrun : (apduReq pb token type command).Runs (allocationSem outcome t) s a s')
    (hintact : ApduIntact encoding decode token type command s s')
    (hreach : ReachesDispatch encoding outcome s type command bytes) :
    outcome .request = true ∧ s.uimFuncs = true ∧ bytes.length < 2 ^ 16 := by
  obtain ⟨new, hnew, hcases⟩ := apduReq_runs hpb hrun
  obtain ⟨new', hnew', hor⟩ := hintact
  -- both speak of the same addition to the log
  obtain rfl : new = new' := List.append_cancel_right (hnew.symm.trans hnew')
  rcases hcases with ⟨bytes', hreach', hlogs⟩ | ⟨hnot, -⟩
  · -- it was dispatched, and the payload in the log is the one that was intact
    obtain rfl : bytes = bytes' := Option.some.inj (hreach.encoded.symm.trans hreach'.encoded)
    unfold DispatchLogs at hlogs
    split at hlogs
    · -- there is memory for the request, and the functions are there
      next hand =>
      refine ⟨hand.1, hand.2, ?_⟩
      obtain ⟨q, hq⟩ := hlogs
      rcases hor with ⟨payload, size, q', hq', henc, -⟩ | rfl
      · rw [hq] at hq'
        have hpayload : (payloadOf bytes).bytes = payload := by
          cases hq'
          rfl
        -- only below 2 ^ 16 do the 16 bits hold the whole length
        rw [← payloadOf_bytes_iff, hpayload]
        exact Option.some.inj (henc.symm.trans hreach.encoded)
      · -- a failure is no dispatch
        cases hq
    · -- nothing has been logged
      subst hlogs
      rcases hor with ⟨payload, size, q', hq', -⟩ | hfailed
      · cases hq'
      · cases hfailed
  · -- the dispatch was reached
    exact absurd hreach (hnot bytes)

/-- **When an APDU request is intact.** If it gets as far as `dispatchRequest`, there must be memory
for the `SapSocketRequest`, a vendor, and an encoding of less than 2 ^ 16 bytes, as its length has
two bytes on the way; otherwise there must be a client to tell. -/
theorem apduIntact_iff (hpb : pb.Implements encoding decode) (outcome : Kind → Bool) (t : ℕ)
    (s : SapState) (token type : ℤ) (command : List UInt8) :
    (∀ a s', (apduReq pb token type command).Runs (allocationSem outcome t) s a s' →
      ApduIntact encoding decode token type command s s') ↔
    (∀ bytes, ReachesDispatch encoding outcome s type command bytes →
      outcome .request = true ∧ s.uimFuncs = true ∧ bytes.length < 2 ^ 16) ∧
    ((∀ bytes, ¬ ReachesDispatch encoding outcome s type command bytes) →
      s.sapCallback = true) := by
  constructor
  · intro hintact
    obtain ⟨a, s', hrun⟩ := @apduReq_runnable outcome t pb token type command s
    refine ⟨fun bytes hreach => (hintact a s' hrun).of_reachesDispatch hpb hrun hreach,
      fun hnone => ?_⟩
    obtain ⟨new, hnew, hcases⟩ := apduReq_runs hpb hrun
    obtain ⟨new', hnew', hor⟩ := hintact a s' hrun
    obtain rfl : new = new' := List.append_cancel_right (hnew.symm.trans hnew')
    -- the callback is needed only when nothing is dispatched
    rcases hcases with ⟨bytes, hreach, -⟩ | ⟨-, rfl⟩
    · exact absurd hreach (hnone bytes)
    · unfold failureEvent at hor
      by_contra hcallback
      rw [if_neg hcallback] at hor
      rcases hor with ⟨payload, size, q', hq', -⟩ | hfailed
      · cases hq'
      · cases hfailed
  · -- both conditions together: whatever the run did, the log is the right one
    rintro ⟨hdispatch, hcallback⟩ a s' hrun
    obtain ⟨new, hnew, hcases⟩ := apduReq_runs hpb hrun
    refine ⟨new, hnew, ?_⟩
    rcases hcases with ⟨bytes, hreach, hlogs⟩ | ⟨hnot, rfl⟩
    · obtain ⟨hrequest, huim, hshort⟩ := hdispatch bytes hreach
      unfold DispatchLogs at hlogs
      rw [if_pos ⟨hrequest, huim⟩, payloadOf_bytes_iff.mpr hshort] at hlogs
      obtain ⟨q, hq⟩ := hlogs
      exact .inl ⟨bytes, (payloadOf bytes).size, q, hq, hreach.encoded, Nat.mod_eq_of_lt hshort,
        hpb.decode _ _ hreach.encoded⟩
    · right
      unfold failureEvent
      rw [if_pos (hcallback hnot)]

end Runs

/-! ### A long command -/

/-- The protobuf encoding of a number. -/
def encodeVarint (n : ℕ) : List UInt8 :=
  if n < 128 then [UInt8.ofNat n] else UInt8.ofNat (n % 128 + 128) :: encodeVarint (n / 128)

/-- After the bytes that announce another one comes the last. -/
theorem drop_encodeVarint (n : ℕ) (rest : List UInt8) :
    ((encodeVarint n ++ rest).dropWhile fun b => decide (128 ≤ b)).drop 1 = rest := by
  fun_induction encodeVarint n with
  | case1 n hlt =>
    have hlast : ¬ (128 : UInt8) ≤ UInt8.ofNat n := by
      rw [UInt8.le_iff_toNat_le, UInt8.toNat_ofNat']
      show ¬ 128 ≤ n % 256
      omega
    rw [List.singleton_append, List.dropWhile_cons_of_neg (by simpa using hlast)]
    rfl
  | case2 n hge ih =>
    have hmore : (128 : UInt8) ≤ UInt8.ofNat (n % 128 + 128) := by
      rw [UInt8.le_iff_toNat_le, UInt8.toNat_ofNat']
      show 128 ≤ (n % 128 + 128) % 256
      omega
    rw [List.cons_append, List.dropWhile_cons_of_pos (by simpa using hmore)]
    exact ih

/-- The encoding of an APDU request with a command: the field 1 is the type, the field 2 the
command. The other messages are left out. -/
def apduEncoding : SapRequest → Option (List UInt8)
  | .apdu 0 (some command) => some (0x08 :: 0 :: 0x12 :: (encodeVarint command.length ++ command))
  | .apdu 1 (some command) => some (0x08 :: 1 :: 0x12 :: (encodeVarint command.length ++ command))
  | _ => none

def apduDecode : List UInt8 → Option SapRequest
  | _ :: type :: _ :: rest =>
    some (.apdu type.toNat (some ((rest.dropWhile fun b => decide (128 ≤ b)).drop 1)))
  | _ => none

def apduNanopb : Nanopb where
  getEncodedSize req := (apduEncoding req).map List.length
  encode req _ := apduEncoding req
  decodesResponse _ _ := true

theorem apduNanopb_implements : apduNanopb.Implements apduEncoding apduDecode where
  getEncodedSize _ := rfl
  encode _ _ h := h
  decode req bytes h := by
    unfold apduEncoding at h
    split at h
    · cases h
      exact congrArg (fun c => some (SapRequest.apdu 0 (some c))) (drop_encodeVarint _ _)
    · cases h
      exact congrArg (fun c => some (SapRequest.apdu 1 (some c))) (drop_encodeVarint _ _)
    · cases h

/-- With memory for everything a request of type 0 with a command gets as far as
`dispatchRequest`. -/
theorem start_reachesDispatch {command : List UInt8} (hpos : 0 < command.length) :
    ReachesDispatch apduEncoding (fun _ => true) SapState.start 0 command
      (0x08 :: 0 :: 0x12 :: (encodeVarint command.length ++ command)) where
  header := rfl
  copy _ := rfl
  encoded := by
    unfold apduMessage
    rw [if_pos hpos]
    rfl
  buffer := rfl
  payload := rfl
  socket := rfl

/-- **A command of 2 ^ 16 bytes is truncated.** Memory is there for all objects, the vendor gets a
request, and it is not the encoding. -/
theorem long_command_truncated : ∃ a s',
    (apduReq apduNanopb 1 0 (List.replicate (2 ^ 16) 0)).Runs (allocationSem (fun _ => true) 0)
      SapState.start a s' ∧
    ¬ ApduIntact apduEncoding apduDecode 1 0 (List.replicate (2 ^ 16) 0) SapState.start s' := by
  obtain ⟨a, s', hrun⟩ := @apduReq_runnable (fun _ => true) 0 apduNanopb 1 0
    (List.replicate (2 ^ 16) 0) SapState.start
  refine ⟨a, s', hrun, fun hintact => ?_⟩
  have hpos : 0 < (List.replicate (2 ^ 16) (0 : UInt8)).length := by
    rw [List.length_replicate]
    norm_num
  have hshort := (hintact.of_reachesDispatch apduNanopb_implements hrun
    (start_reachesDispatch hpos)).2.2
  rw [List.length_cons, List.length_cons, List.length_cons, List.length_append,
    List.length_replicate] at hshort
  omega

/-- A command of four bytes reaches the vendor unchanged. -/
theorem apduIntact_iff_select : (∃ bytes,
    ReachesDispatch apduEncoding (fun _ => true) SapState.start 0 [0x00, 0xA4, 0x00, 0x00] bytes) ∧
    ∀ a s', (apduReq apduNanopb 1 0 [0x00, 0xA4, 0x00, 0x00]).Runs (allocationSem (fun _ => true) 0)
        SapState.start a s' →
      ApduIntact apduEncoding apduDecode 1 0 [0x00, 0xA4, 0x00, 0x00] SapState.start s' := by
  -- the command of the example, SELECT with four bytes
  have hpos : 0 < [0x00, 0xA4, 0x00, (0x00 : UInt8)].length := by norm_num
  refine ⟨⟨_, start_reachesDispatch hpos⟩,
    (apduIntact_iff apduNanopb_implements _ 0 SapState.start 1 0 _).mpr ⟨?_, fun _ => rfl⟩⟩
  intro bytes hreach
  refine ⟨rfl, rfl, ?_⟩
  -- its length takes one byte
  have hvarint : encodeVarint 4 = [4] := by
    unfold encodeVarint
    rfl
  obtain rfl : _ = bytes :=
    Option.some.inj ((start_reachesDispatch hpos).encoded.symm.trans hreach.encoded)
  show (0x08 :: 0 :: 0x12 :: (encodeVarint 4 ++ [0x00, 0xA4, 0x00, (0x00 : UInt8)])).length < _
  rw [hvarint]
  norm_num

end Sap

end BlueCommon
