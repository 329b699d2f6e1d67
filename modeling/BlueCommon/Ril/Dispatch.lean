import BlueCommon.Ril.Requests

/-!
# The dispatch helpers

What the request methods of `ril_service.cpp` are made of: `addRequestToList`, copies of the string
arguments, `sendErrorResponse` when something fails, `onRequest`. A method is a program over these
calls (`EntryOp`); `EntryOp.code` is what each call does, so that a method can be taken call by
call, with other threads and the vendor in between, or operation by operation. The vendor may
complete a request while it is still in `onRequest`: that is a step between `onRequest` and the next
call.

Local buffers are freed where the source frees them; they are values here. The `bool` results of the
helpers are used by no caller and are left out.
-/

namespace BlueCommon.Ril

open Interaction Program

/-! ### The calls of a request method -/

/-- The calls of the request methods, and those of the vendor: `vendorComplete` and `vendorAck` are
its calls of `RIL_onRequestComplete` and `RIL_onRequestAck`. The `rid` of a completion is history:
the request that the vendor means. -/
inductive EntryOp
  | addRequestToList (serial slotId request : ℤ)
  | loadRequestInfo (pRI : Addr)
  | calloc
  | sendErrorResponse (pRI : Option Addr) (err : ℤ)
  | onRequest (request : ℤ) (data : RequestData) (pRI : Addr) (slotId : ℤ)
  | onRequestComplete (t : Addr) (e : ℤ)
  | vendorComplete (rid : ℕ) (t : Addr) (e : ℤ)
  | vendorAck (t : Addr)
  | releaseWakeLock
  | abort

def EntryOp.Res : EntryOp → Type
  | .addRequestToList .. => Option Addr
  | .loadRequestInfo _ => RequestInfo
  | .calloc => Bool
  | .abort => Empty
  | _ => Unit

/-- The signature of the request methods: the functions of libril and of the vendor that they
call. -/
abbrev entrySignature : Signature := ⟨EntryOp, EntryOp.Res⟩

/-- A request method, as a program over the functions that it calls. -/
abbrev Entry (α : Type) : Type := Program entrySignature α

/-- What a call of a request method does: it runs the function of libril, or is an operation of the
vendor. -/
def EntryOp.code (cfg : Config) : (o : EntryOp) → Code o.Res
  | .addRequestToList serial slotId request => Ril.addRequestToList cfg serial slotId request
  | .loadRequestInfo pRI => Ril.loadRequestInfo pRI
  | .calloc => .op (.vendor .calloc) .ret
  | .sendErrorResponse pRI err => Ril.sendErrorResponse cfg pRI err
  | .onRequest request data pRI slotId => .op (.vendor (.onRequest request data pRI slotId)) .ret
  | .onRequestComplete t e => rilOnRequestComplete cfg (some t) e
  | .vendorComplete _ t e => rilOnRequestComplete cfg (some t) e
  | .vendorAck t => rilOnRequestAck cfg (some t)
  | .releaseWakeLock => Ril.releaseWakeLock
  | .abort => Ril.abort

namespace Entry

abbrev addRequestToList (serial slotId request : ℤ) : Entry (Option Addr) :=
  .op (.addRequestToList serial slotId request) .ret

abbrev loadRequestInfo (pRI : Addr) : Entry RequestInfo := .op (.loadRequestInfo pRI) .ret

abbrev calloc : Entry Bool := .op .calloc .ret

abbrev sendErrorResponse (pRI : Option Addr) (err : ℤ) : Entry Unit :=
  .op (.sendErrorResponse pRI err) .ret

/-- `CALL_ONREQUEST`, by which a request is handed to the vendor with its data. -/
abbrev onRequest (request : ℤ) (data : RequestData) (pRI : Addr) (slotId : ℤ) : Entry Unit :=
  .op (.onRequest request data pRI slotId) .ret

abbrev onRequestComplete (t : Addr) (e : ℤ) : Entry Unit := .op (.onRequestComplete t e) .ret

abbrev releaseWakeLock : Entry Unit := .op .releaseWakeLock .ret

/-- A `NULL` is dereferenced, or a signed addition overflows. -/
def abort {α : Type} : Entry α := .op .abort Empty.elim

/-! ### Helpers -/

/-- `RequestInfo *pRI = addRequestToList(…); if (pRI == NULL) return; …`, the start of every request
method. -/
def withRequest (serial slotId request : ℤ) (body : Addr → Entry Unit) : Entry Unit := do
  match ← addRequestToList serial slotId request with
  | none => pure ()
  | some pRI => body pRI

/-- `copyHidlStringToRil`: `none` for `false`. -/
def copyHidlStringToRil (src : HidlString) (pRI : Addr) (allowEmpty : Bool) :
    Entry (Option CharPtr) :=
  if src.length = 0 ∧ allowEmpty = false then pure (some none)
  else do
    let allocated ← calloc
    if allocated = false then do
      sendErrorResponse (some pRI) Errno.noMemory
      pure none
    else if src.cStr.length ≥ src.length + 1 then do
      -- `strlcpy` returns the length of its source
      sendErrorResponse (some pRI) Errno.internalErr
      pure none
    else pure (some (some src.cStr))

/-- `if (!copyHidlStringToRil(&dest, src, pRI, allowEmpty)) return; …`, where a copy that fails has
sent the error already. -/
def withCopy (src : HidlString) (pRI : Addr) (allowEmpty : Bool) (body : CharPtr → Entry Unit) :
    Entry Unit := do
  match ← copyHidlStringToRil src pRI allowEmpty with
  | none => pure ()
  | some dest => body dest

/-- `if (calloc(…) == NULL) { sendErrorResponse(pRI, RIL_E_NO_MEMORY); return; } …`, by which memory
for an array or a record is asked for. -/
def withCalloc (pRI : Addr) (body : Entry Unit) : Entry Unit := do
  let allocated ← calloc
  if allocated = false then sendErrorResponse (some pRI) Errno.noMemory else body

/-- The loop that copies strings into an array, `none` when a copy fails. -/
def copyStrings (pRI : Addr) (allowEmpty : Bool) : List HidlString → Entry (Option (List CharPtr))
  | [] => pure (some [])
  | str :: strs => do
    match ← copyHidlStringToRil str pRI allowEmpty with
    | none => pure none
    | some dest =>
      let rest ← copyStrings pRI allowEmpty strs
      pure (rest.map (dest :: ·))

/-- `dispatchVoid`, for a request without data. -/
def dispatchVoid (serial slotId request : ℤ) : Entry Unit :=
  withRequest serial slotId request fun pRI => onRequest request .null pRI slotId

/-- `dispatchString`, for one string, of which the vendor gets a copy. -/
def dispatchString (serial slotId request : ℤ) (str : HidlString) : Entry Unit :=
  withRequest serial slotId request fun pRI =>
    withCopy str.cStr pRI false fun pString => onRequest request (.string pString) pRI slotId

/-- The variadic `dispatchStrings`, with the fake success for a manual network selection: the
request is completed as soon as the vendor has it, though the vendor may complete it once more. -/
def dispatchStrings (serial slotId request : ℤ) (allowEmpty : Bool) (strs : List HidlString) :
    Entry Unit :=
  withRequest serial slotId request fun pRI =>
    withCalloc pRI do
      match ← copyStrings pRI allowEmpty (strs.map HidlString.cStr) with
      | none => pure ()
      | some pStrings =>
        onRequest request (.strings pStrings) pRI slotId
        if request = Request.setNetworkSelectionManual then
          onRequestComplete pRI Errno.success
        else pure ()

/-- `dispatchStrings` on a vector. Empty strings become `NULL` here. -/
def dispatchStringsVec (serial slotId request : ℤ) (data : List HidlString) : Entry Unit :=
  withRequest serial slotId request fun pRI =>
    withCalloc pRI do
      match ← copyStrings pRI false data with
      | none => pure ()
      | some pStrings => onRequest request (.strings pStrings) pRI slotId

/-- `dispatchInts`, for an array of numbers. -/
def dispatchInts (serial slotId request : ℤ) (ints : List ℤ) : Entry Unit :=
  withRequest serial slotId request fun pRI =>
    withCalloc pRI (onRequest request (.ints ints) pRI slotId)

/-- `dispatchCallForwardStatus`, for a record with one string in it. -/
def dispatchCallForwardStatus (serial slotId request : ℤ) (callInfo : CallForwardInfo) :
    Entry Unit :=
  withRequest serial slotId request fun pRI =>
    withCopy callInfo.number pRI false fun number =>
      onRequest request (.callForwardInfo callInfo.status callInfo.reason callInfo.serviceClass
        callInfo.toa number callInfo.timeSeconds) pRI slotId

/-- `dispatchRaw`, for bytes, which are not copied. -/
def dispatchRaw (serial slotId request : ℤ) (rawBytes : List UInt8) : Entry Unit :=
  withRequest serial slotId request fun pRI => onRequest request (.raw rawBytes) pRI slotId

/-- `dispatchIccApdu`, for a record with one string in it. -/
def dispatchIccApdu (serial slotId request : ℤ) (message : SimApdu) : Entry Unit :=
  withRequest serial slotId request fun pRI =>
    withCopy message.data pRI false fun data =>
      onRequest request (.simApdu message.sessionId message.cla message.instruction message.p1
        message.p2 message.p3 data) pRI slotId

/-- `CALL_ONREQUEST(pRI->pCI->requestNumber, …)`, which goes through a null pointer for a request
without an entry in the table. -/
def onOwnRequest (data : RequestData) (pRI : Addr) (slotId : ℤ) : Entry Unit := do
  let info ← loadRequestInfo pRI
  match info.pCI with
  | none => abort
  | some requestNumber => onRequest requestNumber data pRI slotId

end Entry

end BlueCommon.Ril
