import BlueCommon.Sap.Memory
import Mathlib.Algebra.Ring.Nat

/-!
# The requests of the SAP service

The methods of `SapImpl`, `RilSapSocket::dispatchRequest` and the completion of a request by the
vendor, as programs. `Nanopb` stands for the library that encodes and decodes the messages.
-/

namespace BlueCommon

namespace Sap

open Interaction Program

/-- The request messages, with the fields that the methods set. The command of an APDU request is
`none` where the pointer is `NULL`. -/
inductive SapRequest
  | connect (maxMessageSize : ℤ)
  | disconnect
  | apdu (type : ℤ) (command : Option (List UInt8))
  | transferAtr
  | power (state : Bool)
  | resetSim
  | transferCardReaderStatus
  | setTransferProtocol (protocol : ℤ)

/-- nanopb: `pb_get_encoded_size`, `pb_encode` into a buffer of the given size, and whether
`sapDecodeMessage` returns a message. -/
structure Nanopb where
  getEncodedSize : SapRequest → Option ℕ
  encode : SapRequest → ℕ → Option (List UInt8)
  decodesResponse : MsgId → List UInt8 → Bool

section Operations

abbrev allocate (kind : Kind) : Code (Option Ptr) := .op (.allocate kind) .ret

abbrev free (p : Ptr) : Code Unit := .op (.free p) .ret

abbrev getHeader (p : Ptr) : Code MsgHeader := .op (.getHeader p) .ret

abbrev getData (p : Ptr) : Code PbBytesArray := .op (.getData p) .ret

abbrev setData (p : Ptr) (data : PbBytesArray) : Code Unit := .op (.setData p data) .ret

abbrev getRequest (p : Ptr) : Code SapSocketRequest := .op (.getRequest p) .ret

abbrev getSocketById : Code Bool := .op .getSocketById .ret

abbrev getUimFuncs : Code Bool := .op .getUimFuncs .ret

abbrev getSapCallback : Code Bool := .op .getSapCallback .ret

/-- A call of a method of the client. -/
abbrev call (e : SapEvent) : Code Bool := .op (.call e) .ret

end Operations

/-! ### Failed responses -/

/-- `SapImpl::checkReturnStatus`: a client that cannot be called is forgotten. -/
def checkReturnStatus (isOk : Bool) : Code Unit :=
  if isOk = false then .op .resetSapCallback .ret else pure ()

/-- `free`, which does nothing for `NULL`. -/
def freePointer : Option Ptr → Code Unit
  | none => pure ()
  | some p => free p

/-- The loop of `sendFailedResponse` over its pointers. -/
def freePointers : List (Option Ptr) → Code Unit
  | [] => pure ()
  | ptr :: ptrs => do
    freePointer ptr
    freePointers ptrs

/-- `SapImpl::sendFailedResponse`: what was allocated is freed, and the client gets the response of
the request with a failure. -/
def sendFailedResponse (msgId : MsgId) (token : ℤ) (ptrs : List (Option Ptr)) : Code Unit := do
  freePointers ptrs
  match msgId with
  | .other _ => pure ()
  | _ => do
    let retStatus ← call (.failed msgId token)
    checkReturnStatus retStatus

/-! ### Completion -/

/-- `processResponse`, for a response to a request. -/
def processResponse (pb : Nanopb) (id : MsgId) (token : ℤ) (response : List UInt8) : Code Unit := do
  let sapCallback ← getSapCallback
  if sapCallback = false then pure ()
  else if pb.decodesResponse id response = false then sendFailedResponse id token []
  else
    match id with
    | .other _ => pure ()
    | _ => do
      let retStatus ← call (.responded id token)
      checkReturnStatus retStatus

/-- The response that `onRequestComplete` makes of what the vendor passes, if there is memory for
it. -/
def sendResponse (pb : Nanopb) (header : MsgHeader) (response : List UInt8) : Code Unit := do
  match ← allocate .response with
  | none => pure ()
  | some payload => do
    setData payload ⟨response.length, response⟩
    processResponse pb header.id header.token response
    free payload

/-- `RilSapSocket::onRequestComplete`: the response is sent, the request leaves the queue, and its
header is freed. -/
def onRequestComplete (pb : Nanopb) (t : Ptr) (response : List UInt8) : Code Unit := do
  let request ← getRequest t
  let hdr := request.curr
  let header ← getHeader hdr
  sendResponse pb header response
  let header ← getHeader hdr
  let _ ← .op (.checkAndDequeue header.id header.token t) .ret
  free hdr

/-- `RilSapSocket::sOnRequestComplete`, called by the vendor. -/
def sOnRequestComplete (pb : Nanopb) (t : Ptr) (response : List UInt8) : Code Unit := do
  .op (.beginCompletion t) .ret
  let sapSocket ← getSocketById
  if sapSocket then onRequestComplete pb t response
  else do
    let request ← getRequest t
    free request.curr
    free t

/-! ### Dispatch -/

/-- `uimFuncs->onRequest`. The vendor may complete the request before it returns. -/
def onRequest (pb : Nanopb) (id : MsgId) (payload : PbBytesArray) (currRequest : Ptr) :
    Code Unit := do
  match ← .op (.onRequest id payload.bytes payload.size currRequest) .ret with
  | none => pure ()
  | some response => sOnRequestComplete pb currRequest response

/-- `RilSapSocket::dispatchRequest`: the request is put into the queue and handed to the vendor.
Without a vendor it stays in the queue, and without memory only its header is freed. -/
def dispatchRequest (pb : Nanopb) (req : Ptr) : Code Unit := do
  match ← allocate .request with
  | none => free req
  | some currRequest => do
    let header ← getHeader req
    .op (.setRequest currRequest ⟨header.token, req⟩) .ret
    .op (.enqueue currRequest) .ret
    let uimFuncs ← getUimFuncs
    if uimFuncs then do
      let header ← getHeader req
      match header.payload with
      | none => pure ()
      | some p => do
        let payload ← getData p
        onRequest pb header.id payload currRequest
    else pure ()

/-- `SapImpl::addPayloadAndDispatchRequest`. `reqLen` is a `uint16_t`. -/
def addPayloadAndDispatchRequest (pb : Nanopb) (msg : Ptr) (reqLen : ℕ) (reqPtr : Ptr) :
    Code Unit := do
  let reqLen := reqLen % 2 ^ 16
  match ← allocate .payload with
  | none => do
    let header ← getHeader msg
    sendFailedResponse header.id header.token [some reqPtr, some msg]
  | some payload => do
    .op (.setPayload msg payload) .ret
    let req ← getData reqPtr
    setData payload ⟨reqLen, req.bytes.take reqLen⟩
    let sapSocket ← getSocketById
    if sapSocket then do
      dispatchRequest pb msg
      let header ← getHeader msg
      freePointer header.payload
      free reqPtr
    else do
      let header ← getHeader msg
      sendFailedResponse header.id header.token [some payload, some reqPtr, some msg]

/-! ### Requests -/

/-- `SapImpl::createMsgHeader`: a header without a payload, or `NULL`. -/
def createMsgHeader (msgId : MsgId) (token : ℤ) : Code (Option Ptr) := do
  match ← allocate .header with
  | none => pure none
  | some msg => do
    .op (.setHeader msg ⟨token, msgId, none⟩) .ret
    pure (some msg)

/-- A method from `pb_get_encoded_size` on. `owned` are the pointers that `sendFailedResponse` gets
before `buffer` and `msg`. -/
def encodeAndDispatch (pb : Nanopb) (msgId : MsgId) (token : ℤ) (req : SapRequest)
    (owned : List (Option Ptr)) (msg : Ptr) : Code Unit := do
  match pb.getEncodedSize req with
  | none => sendFailedResponse msgId token (owned ++ [some msg])
  | some encodedSize => do
    match ← allocate .buffer with
    | none => sendFailedResponse msgId token (owned ++ [some msg])
    | some buffer =>
      match pb.encode req encodedSize with
      | none => sendFailedResponse msgId token (owned ++ [some buffer, some msg])
      | some bytes => do
        setData buffer ⟨bytes.length, bytes⟩
        addPayloadAndDispatchRequest pb msg bytes.length buffer

/-- What the methods without `apduReq` share. -/
def sapRequest (pb : Nanopb) (msgId : MsgId) (token : ℤ) (req : SapRequest) : Code Unit := do
  match ← createMsgHeader msgId token with
  | none => sendFailedResponse msgId token []
  | some msg => encodeAndDispatch pb msgId token req [] msg

/-- `SapImpl::connectReq`, with the size of message that the client can take. -/
def connectReq (pb : Nanopb) (token maxMsgSize : ℤ) : Code Unit :=
  sapRequest pb .connect token (.connect maxMsgSize)

/-- `SapImpl::disconnectReq`, which has no arguments. -/
def disconnectReq (pb : Nanopb) (token : ℤ) : Code Unit :=
  sapRequest pb .disconnect token .disconnect

/-- The message of `apduReq`: the command is only set if there is one. -/
def apduMessage (type : ℤ) (command : List UInt8) : SapRequest :=
  .apdu type (if 0 < command.length then some command else none)

/-- `SapImpl::apduReq`. The copy of the command is only freed when the request fails, so that each
request that succeeds leaves one behind. -/
def apduReq (pb : Nanopb) (token type : ℤ) (command : List UInt8) : Code Unit := do
  match ← createMsgHeader .apdu token with
  | none => sendFailedResponse .apdu token []
  | some msg =>
    if 0 < command.length then do
      match ← allocate .command with
      | none => sendFailedResponse .apdu token [some msg]
      | some reqCommand => do
        setData reqCommand ⟨command.length, command⟩
        encodeAndDispatch pb .apdu token (apduMessage type command) [some reqCommand] msg
    else encodeAndDispatch pb .apdu token (apduMessage type command) [none] msg

/-- `SapImpl::transferAtrReq`, which has no arguments. -/
def transferAtrReq (pb : Nanopb) (token : ℤ) : Code Unit :=
  sapRequest pb .transferAtr token .transferAtr

/-- `SapImpl::powerReq`, with the state that is asked for. -/
def powerReq (pb : Nanopb) (token : ℤ) (state : Bool) : Code Unit :=
  sapRequest pb .power token (.power state)

/-- `SapImpl::resetSimReq`, which has no arguments. -/
def resetSimReq (pb : Nanopb) (token : ℤ) : Code Unit :=
  sapRequest pb .resetSim token .resetSim

/-- `SapImpl::transferCardReaderStatusReq`, which has no arguments. -/
def transferCardReaderStatusReq (pb : Nanopb) (token : ℤ) : Code Unit :=
  sapRequest pb .transferCardReaderStatus token .transferCardReaderStatus

/-- `SapImpl::setTransferProtocolReq`, with the protocol that is asked for. -/
def setTransferProtocolReq (pb : Nanopb) (token transferProtocol : ℤ) : Code Unit :=
  sapRequest pb .setTransferProtocol token (.setTransferProtocol transferProtocol)

/-- The request methods, with any arguments that a client can send. -/
inductive RequestMethod (pb : Nanopb) : Code Unit → Prop
  | connectReq (token maxMsgSize : ℤ) : RequestMethod pb (connectReq pb token maxMsgSize)
  | disconnectReq (token : ℤ) : RequestMethod pb (disconnectReq pb token)
  | apduReq (token type : ℤ) (command : List UInt8) :
      RequestMethod pb (apduReq pb token type command)
  | transferAtrReq (token : ℤ) : RequestMethod pb (transferAtrReq pb token)
  | powerReq (token : ℤ) (state : Bool) : RequestMethod pb (powerReq pb token state)
  | resetSimReq (token : ℤ) : RequestMethod pb (resetSimReq pb token)
  | transferCardReaderStatusReq (token : ℤ) :
      RequestMethod pb (transferCardReaderStatusReq pb token)
  | setTransferProtocolReq (token transferProtocol : ℤ) :
      RequestMethod pb (setTransferProtocolReq pb token transferProtocol)

end Sap

end BlueCommon
