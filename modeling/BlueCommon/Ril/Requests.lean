import BlueCommon.Ril.Response

/-!
# Requests, completions, indications

The functions of `ril.cpp` between the clients and the vendor: `addRequestToList` puts a request on
the pending list of its slot, `RIL_onRequestAck` and `RIL_onRequestComplete` look the vendor's token
up there, `RIL_onUnsolicitedResponse` passes an indication on and keeps a NITZ message that no
client could take, `onNewCommandConnect` greets a client that has registered its callbacks.
-/

namespace BlueCommon.Ril

open Interaction Program

/-! ### Operations under the names of the source -/

abbrev callocRequestInfo : Code (Option Addr) := .op (.pending .calloc) .ret

abbrev storeRequestInfo (pRI : Addr) (info : RequestInfo) : Code Unit :=
  .op (.pending (.store pRI info)) .ret

abbrev pushPending (list : PendingList) (pRI : Addr) : Code Unit :=
  .op (.pending (.push list pRI)) .ret

abbrev loadRequestInfo (pRI : Addr) : Code RequestInfo := .op (.pending (.load pRI)) .ret

abbrev findPending (list : PendingList) (pRI : Addr) (isAck : Bool) : Code Bool :=
  .op (.pending (.find list pRI isAck)) .ret

abbrev freeRequestInfo (pRI : Addr) : Code Unit := .op (.pending (.free pRI)) .ret

abbrev noteRespond (pRI : Addr) (slotId : ℤ) (type : ResponseType) (serial e : ℤ) : Code Unit :=
  .op (.pending (.noteRespond pRI slotId type serial e)) .ret

abbrev noteAcknowledge (pRI : Addr) (slotId serial : ℤ) : Code Unit :=
  .op (.pending (.noteAcknowledge pRI slotId serial)) .ret

abbrev grabPartialWakeLock : Code Unit := .op (.wake .grabPartialWakeLock) .ret

abbrev releaseWakeLock : Code Unit := .op (.wake .releaseWakeLock) .ret

abbrev scheduleWakeTimeout : Code Bool := .op (.wake .scheduleWakeTimeout) .ret

abbrev elapsedRealtime : Code ℤ := .op (.nitz .elapsedRealtime) .ret

abbrev setNitzTimeReceived (slotId timeReceived : ℤ) : Code Unit :=
  .op (.nitz (.setNitzTimeReceived slotId timeReceived)) .ret

abbrev lastNITZTimeData : Code (Option CharBuffer) := .op (.nitz .getData) .ret

abbrev lastNITZTimeDataSize : Code ℕ := .op (.nitz .getSize) .ret

abbrev freeLastNITZTimeData : Code Unit := .op (.nitz .free) .ret

abbrev callocLastNITZTimeData (datalen : ℕ) : Code Bool := .op (.nitz (.calloc datalen)) .ret

abbrev memcpyLastNITZTimeData (data : CharBuffer) (datalen : ℕ) : Code Unit :=
  .op (.nitz (.memcpy data datalen)) .ret

/-! ### The pending lists -/

/-- `pendingRequestsHook` in `addRequestToList`. -/
def addHook (cfg : Config) (socketId : ℤ) : PendingList :=
  if 2 ≤ cfg.simCount ∧ socketId = 1 then .pendingRequestsSocket2
  else if 3 ≤ cfg.simCount ∧ socketId = 2 then .pendingRequestsSocket3
  else if 4 ≤ cfg.simCount ∧ socketId = 3 then .pendingRequestsSocket4
  else .pendingRequests

/-- `pendingRequestsHook` in `checkAndDequeueRequestInfoIfAck`: here every test is made, and a later
one overrides an earlier one. -/
def dequeueHook (cfg : Config) (socketId : ℤ) : PendingList :=
  let hook := PendingList.pendingRequests
  let hook := if 2 ≤ cfg.simCount ∧ socketId = 1 then .pendingRequestsSocket2 else hook
  let hook := if 3 ≤ cfg.simCount ∧ socketId = 2 then .pendingRequestsSocket3 else hook
  if 4 ≤ cfg.simCount ∧ socketId = 3 then .pendingRequestsSocket4 else hook

/-- Both functions choose the same list. -/
theorem dequeueHook_eq_addHook (cfg : Config) (socketId : ℤ) :
    dequeueHook cfg socketId = addHook cfg socketId := by
  simp only [dequeueHook, addHook]
  grind

/-- `addRequestToList`: the request gets memory, is filled in and is put in front of the list of its
slot. A number that no request has, or no memory, gives `NULL` without an answer. -/
def addRequestToList (cfg : Config) (serial slotId request : ℤ) : Code (Option Addr) :=
  if request ≥ numCommands then pure none
  else do
    match ← callocRequestInfo with
    | none => pure none
    | some pRI =>
      storeRequestInfo pRI (.ofRequest serial slotId request)
      pushPending (addHook cfg slotId) pRI
      pure (some pRI)

/-- `checkAndDequeueRequestInfoIfAck`. It finds nothing for `NULL`, which its callers below test. -/
def checkAndDequeueRequestInfoIfAck (cfg : Config) (pRI : Addr) (isAck : Bool) : Code Bool := do
  let info ← loadRequestInfo pRI
  findPending (dequeueHook cfg info.socketId) pRI isAck

/-- `pRI->pCI->responseFunction(…)`, which goes through a null pointer for a request without an
entry in the table. History: that the request is answered is noted. -/
def callResponseFunction (cfg : Config) (pRI : Addr) (info : RequestInfo)
    (responseType : ResponseType) (e : ℤ) : Code Unit :=
  match info.pCI.bind responseFunction with
  | none => abort
  | some f => do
    noteRespond pRI info.socketId responseType info.token e
    f.run cfg info.socketId responseType info.token

/-- `sendErrorResponse`: the client gets the error, but the request stays in its list. No lock is
held while the client is called. -/
def sendErrorResponse (cfg : Config) (pRI : Option Addr) (err : ℤ) : Code Unit :=
  match pRI with
  | none => abort
  | some pRI => do
    mark .enterSendErrorResponse
    let info ← loadRequestInfo pRI
    callResponseFunction cfg pRI info .solicited err
    mark .leaveSendErrorResponse

/-- `RIL_onRequestAck` for a request that was found. -/
def passAckOn (cfg : Config) (pRI : Addr) : Code Unit := do
  let info ← loadRequestInfo pRI
  if info.cancelled = 0 then do
    pthreadRwlockRdlock (getRadioServiceRwlock cfg info.socketId)
    noteAcknowledge pRI info.socketId info.token
    acknowledgeRequest cfg info.socketId info.token
    pthreadRwlockUnlock (getRadioServiceRwlock cfg info.socketId)
  else pure ()

/-- `RIL_onRequestAck`: if the token is in one of the lists, it is marked there and the client is
told. The request stays in the list. -/
def rilOnRequestAck (cfg : Config) (t : Option Addr) : Code Unit :=
  match t with
  | none => pure ()
  | some pRI => do
    let found ← checkAndDequeueRequestInfoIfAck cfg pRI true
    if found then passAckOn cfg pRI else pure ()

/-- The type of the response to a request, in `RIL_onRequestComplete`: the client must acknowledge a
response that comes after an ack. -/
def solicitedResponseType (cfg : Config) (info : RequestInfo) : Code ResponseType :=
  if cfg.version ≥ 13 ∧ info.wasAckSent = 1 then do
    grabPartialWakeLock
    pure .solicitedAckExp
  else pure .solicited

/-- `RIL_onRequestComplete` when the request was not cancelled. -/
def answerRequest (cfg : Config) (pRI : Addr) (info : RequestInfo) (e : ℤ) : Code Unit := do
  let responseType ← solicitedResponseType cfg info
  pthreadRwlockRdlock (getRadioServiceRwlock cfg info.socketId)
  callResponseFunction cfg pRI info responseType e
  pthreadRwlockUnlock (getRadioServiceRwlock cfg info.socketId)

/-- `RIL_onRequestComplete` once the node has left its list. No other thread writes it any more, so
it is read once. -/
def finishRequest (cfg : Config) (pRI : Addr) (e : ℤ) : Code Unit := do
  let info ← loadRequestInfo pRI
  if info.isLocal > 0 then freeRequestInfo pRI
  else do
    (if info.cancelled = 0 then answerRequest cfg pRI info e else pure ())
    freeRequestInfo pRI

/-- `RIL_onRequestComplete`: if the token is in one of the lists, it leaves the list, the client
gets the response and the request is freed. -/
def rilOnRequestComplete (cfg : Config) (t : Option Addr) (e : ℤ) : Code Unit :=
  match t with
  | none => pure ()
  | some pRI => do
    let found ← checkAndDequeueRequestInfoIfAck cfg pRI false
    if found then finishRequest cfg pRI e else pure ()

/-! ### Indications -/

/-- `RIL_onUnsolicitedResponse` takes the lock of the service: for writing if it is a NITZ message,
whose reception time is noted. -/
def lockForIndication (cfg : Config) (socId unsolResponse : ℤ) : Code Unit :=
  if unsolResponse = Unsol.nitzTimeReceived then do
    pthreadRwlockWrlock (getRadioServiceRwlock cfg socId)
    let time ← elapsedRealtime
    setNitzTimeReceived socId time
  else pthreadRwlockRdlock (getRadioServiceRwlock cfg socId)

/-- `s_unsolResponses[…].responseFunction(…)`. Without a function `ret` is not set; it is read only
for a NITZ message, which has one. -/
def callIndicationFunction (cfg : Config) (socId unsolResponse : ℤ) (responseType : ResponseType)
    (data : Option CharBuffer) (datalen : ℕ) : Code ℤ :=
  match indicationFunction unsolResponse with
  | some f => f.run cfg socId unsolResponse responseType data datalen
  | none => pure 0

/-- `RIL_onUnsolicitedResponse` keeps a copy of a NITZ message; `false` when `calloc` fails. -/
def keepNITZTimeData (data : Option CharBuffer) (datalen : ℕ) : Code Bool := do
  let last ← lastNITZTimeData
  (if last.isSome then freeLastNITZTimeData else pure ())
  let allocated ← callocLastNITZTimeData datalen
  if allocated then
    match data with
    | none => if datalen = 0 then pure true else abort
    | some data => do
      memcpyLastNITZTimeData data datalen
      pure true
  else pure false

/-- The end of `RIL_onUnsolicitedResponse`: the timer of a vendor older than version 13 and the copy
of a NITZ message that reached no client; `false` stands for the jump to `error_exit`. -/
def afterIndication (cfg : Config) (unsolResponse ret : ℤ) (data : Option CharBuffer)
    (datalen : ℕ) : Code Bool := do
  let scheduled ←
    (if cfg.version < 13 ∧ wakePartial unsolResponse then scheduleWakeTimeout else pure true)
  if scheduled then
    if ret ≠ 0 ∧ unsolResponse = Unsol.nitzTimeReceived then keepNITZTimeData data datalen
    else pure true
  else pure false

/-- The response type of an indication. -/
def unsolicitedResponseType (cfg : Config) (unsolResponse : ℤ) : ResponseType :=
  if cfg.version ≥ 13 ∧ wakePartial unsolResponse then .unsolicitedAckExp else .unsolicited

/-- `RIL_onUnsolicitedResponse` for an indication of the table. -/
def passIndicationOn (cfg : Config) (unsolResponse : ℤ) (data : Option CharBuffer) (datalen : ℕ)
    (socId : ℤ) : Code Unit := do
  (if wakePartial unsolResponse then grabPartialWakeLock else pure ())
  lockForIndication cfg socId unsolResponse
  let ret ← callIndicationFunction cfg socId unsolResponse
    (unsolicitedResponseType cfg unsolResponse) data datalen
  pthreadRwlockUnlock (getRadioServiceRwlock cfg socId)
  let ok ← afterIndication cfg unsolResponse ret data datalen
  if ok = false ∧ wakePartial unsolResponse then releaseWakeLock else pure ()

/-- The slot an indication is for: without `ANDROID_MULTI_SIM` always the first. -/
def indicationSlot (cfg : Config) (socketId : ℤ) : ℤ := if cfg.multiSim then socketId else 0

/-- `RIL_onUnsolicitedResponse`: nothing happens before the vendor is registered, or for a number
that no indication has. -/
def rilOnUnsolicitedResponse (cfg : Config) (unsolResponse : ℤ) (data : Option CharBuffer)
    (datalen : ℕ) (socketId : ℤ) : Code Unit :=
  if cfg.registerCalled = false then pure ()
  else if unsolResponse - Unsol.responseBase < 0 ∨
      unsolResponse - Unsol.responseBase ≥ numUnsolResponses then pure ()
  else passIndicationOn cfg unsolResponse data datalen (indicationSlot cfg socketId)

/-! ### New clients -/

/-- `resendLastNITZTimeData`: the message that was kept is sent to the slot, whichever slot it was
received on, and forgotten if the function returns 0. -/
def resendLastNITZTimeData (cfg : Config) (socketId : ℤ) : Code Unit := do
  let last ← lastNITZTimeData
  if last.isSome then do
    pthreadRwlockRdlock (getRadioServiceRwlock cfg socketId)
    let data ← lastNITZTimeData
    let size ← lastNITZTimeDataSize
    let ret ← nitzTimeReceivedInd cfg socketId
      (if cfg.version ≥ 13 then .unsolicitedAckExp else .unsolicited) data size
    (if ret = 0 then freeLastNITZTimeData else pure ())
    pthreadRwlockUnlock (getRadioServiceRwlock cfg socketId)
  else pure ()

/-- `onNewCommandConnect` up to the version string, which goes to a system property. The payload of
`RIL_UNSOL_RIL_CONNECTED` is the version number, four bytes. -/
def onNewCommandConnect (cfg : Config) (socketId : ℤ) : Code Unit := do
  rilOnUnsolicitedResponse cfg Unsol.rilConnected (some ⟨[], true⟩) 4 socketId
  rilOnUnsolicitedResponse cfg Unsol.responseRadioStateChanged none 0 socketId
  let last ← lastNITZTimeData
  if last.isSome then resendLastNITZTimeData cfg socketId else pure ()

/-- `RadioImpl::setResponseFunctions`: the callbacks are replaced under the write lock, and after it
the new client is told what it has missed. -/
def setResponseFunctions (cfg : Config) (slotId : ℤ) (radioResponse radioIndication : Option ℕ) :
    Code Unit := do
  pthreadRwlockWrlock (getRadioServiceRwlock cfg slotId)
  (.op (.client (.setResponseFunctions slotId radioResponse radioIndication)) .ret : Code Unit)
  pthreadRwlockUnlock (getRadioServiceRwlock cfg slotId)
  onNewCommandConnect cfg slotId

/-- `OemHookImpl::setResponseFunctions`: the callbacks of the OEM hook are replaced under the write
lock. -/
def setOemHookFunctions (cfg : Config) (slotId : ℤ) (oemHookResponse oemHookIndication : Option ℕ) :
    Code Unit := do
  pthreadRwlockWrlock (getRadioServiceRwlock cfg slotId)
  (.op (.client (.setOemHookFunctions slotId oemHookResponse oemHookIndication)) .ret : Code Unit)
  pthreadRwlockUnlock (getRadioServiceRwlock cfg slotId)

end BlueCommon.Ril
