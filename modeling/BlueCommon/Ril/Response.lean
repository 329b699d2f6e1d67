import BlueCommon.Ril.State

/-!
# Messages to the clients

How libril calls a client, from `ril_service.cpp`: the response functions of the requests, the
indication functions, and `checkReturnStatus`, which forgets a client that a call could not reach.
Each response function is one of a few kinds (`ResponseFunction`), and so is each indication
function; functions of one kind differ only in the payload they decode.
-/

namespace BlueCommon.Ril

open Interaction Program

/-! ### Operations under the names of the source -/

abbrev pthreadRwlockRdlock (lock : RadioRwlock) : Code Unit := .op (.lock (.rdlock lock)) .ret

abbrev pthreadRwlockWrlock (lock : RadioRwlock) : Code Unit := .op (.lock (.wrlock lock)) .ret

abbrev pthreadRwlockUnlock (lock : RadioRwlock) : Code Unit := .op (.lock (.unlock lock)) .ret

abbrev getCallback (slotId : ℤ) (field : CallbackField) : Code (Option Callback) :=
  .op (.client (.get slotId field)) .ret

abbrev callClient (slotId : ℤ) (callback : Callback) (message : ClientMessage) : Code Bool :=
  .op (.client (.call slotId callback message)) .ret

abbrev getCounter (slotId : ℤ) (service : Service) : Code ℤ :=
  .op (.client (.getCounter slotId service)) .ret

abbrev resetIfCurrent (slotId : ℤ) (service : Service) (counter : ℤ) : Code Unit :=
  .op (.client (.resetIfCurrent slotId service counter)) .ret

abbrev castFrom (callback : Callback) : Code (Option (Option Callback)) :=
  .op (.client (.castFrom callback)) .ret

abbrev payloadOk : Code Bool := .op (.vendor .payloadOk) .ret

abbrev getNitzTimeReceived (slotId : ℤ) : Code ℤ := .op (.nitz (.getNitzTimeReceived slotId)) .ret

abbrev convertCharPtrToHidlString (data : CharBuffer) : Code (List UInt8) :=
  .op (.nitz (.readString data)) .ret

abbrev mark (m : MarkOp) : Code Unit := .op (.mark m) .ret

/-- `radio::getRadioServiceRwlock`: the lock of the slot. Only a build for more than one SIM has
more than one lock. -/
def getRadioServiceRwlock (cfg : Config) (slotId : ℤ) : RadioRwlock :=
  if 2 ≤ cfg.simCount ∧ slotId = 2 then .radioServiceRwlock2
  else if 3 ≤ cfg.simCount ∧ slotId = 3 then .radioServiceRwlock3
  else if 4 ≤ cfg.simCount ∧ slotId = 4 then .radioServiceRwlock4
  else .radioServiceRwlock

/-! ### Calls -/

/-- `checkReturnStatus`. The counter is read before the lock is dropped; what happens under the
write lock is one operation. -/
def checkReturnStatus (cfg : Config) (slotId : ℤ) (isOk : Bool) (service : Service) : Code Unit :=
  if isOk = false then do
    let counter ← getCounter slotId service
    pthreadRwlockUnlock (getRadioServiceRwlock cfg slotId)
    pthreadRwlockWrlock (getRadioServiceRwlock cfg slotId)
    resetIfCurrent slotId service counter
    pthreadRwlockUnlock (getRadioServiceRwlock cfg slotId)
    pthreadRwlockRdlock (getRadioServiceRwlock cfg slotId)
  else pure ()

/-- `if (… != NULL)`, and the second read of the member for the call. -/
def ifRegistered {α : Type} (slotId : ℤ) (field : CallbackField) (absent : Code α)
    (present : Callback → Code α) : Code α := do
  match ← getCallback slotId field with
  | none => absent
  | some _ =>
    match ← getCallback slotId field with
    | none => abort
    | some callback => present callback

/-- A call to the client and the check of its status. -/
def callAndCheck (cfg : Config) (slotId : ℤ) (service : Service) (callback : Callback)
    (message : ClientMessage) : Code Unit := do
  let isOk ← callClient slotId callback message
  mark (.enterCheckReturnStatus slotId message)
  checkReturnStatus cfg slotId isOk service

/-- `radio::acknowledgeRequest`: the client is told that the vendor has the request. -/
def acknowledgeRequest (cfg : Config) (slotId serial : ℤ) : Code Unit :=
  ifRegistered slotId .mRadioResponse (pure ()) fun callback =>
    callAndCheck cfg slotId .radio callback (.acknowledgeRequest serial)

/-- A response function of `ril_service.cpp`: which callback it looks for, and what it does when
there is none. -/
def ResponseFunction.run (cfg : Config) (slotId : ℤ) (responseType : ResponseType) (serial : ℤ) :
    ResponseFunction → Code Unit
  | .radio => ifRegistered slotId .mRadioResponse (pure ()) fun callback =>
      callAndCheck cfg slotId .radio callback (.response responseType serial)
  | .radioV1_1 => ifRegistered slotId .mRadioResponseV1_1 (pure ()) fun callback =>
      callAndCheck cfg slotId .radio callback (.response responseType serial)
  | .setSimCardPower => do
    -- the version 1.1 interface is preferred
    let response ← getCallback slotId .mRadioResponse
    let responseV1_1 ← getCallback slotId .mRadioResponseV1_1
    match responseV1_1, response with
    | some callback, _ => callAndCheck cfg slotId .radio callback (.response responseType serial)
    | none, some callback => callAndCheck cfg slotId .radio callback (.response responseType serial)
    | none, none => pure ()
  | .oemHook =>
    if cfg.oemHookEnabled then
      ifRegistered slotId .mOemHookResponse (pure ()) fun callback =>
        callAndCheck cfg slotId .oemHook callback (.response responseType serial)
    else pure ()

/-! ### Indications -/

/-- An indication that returns 0 whether or not it reaches a client. A payload that does not pass
the check of the function is dropped. -/
def sendIndication (cfg : Config) (slotId : ℤ) (field : CallbackField) (unsolResponse : ℤ)
    (indicationType : ResponseType) : Code ℤ :=
  ifRegistered slotId field (pure 0) fun callback => do
    let ok ← payloadOk
    if ok then do
      callAndCheck cfg slotId field.service callback (.indication unsolResponse indicationType)
      pure 0
    else pure 0

/-- `radio::keepaliveStatusInd`: the callback is cast to version 1.1, which may fail, and the result
of the cast is used without a test for `NULL`. -/
def keepaliveStatusInd (cfg : Config) (slotId : ℤ) (indicationType : ResponseType) : Code ℤ :=
  ifRegistered slotId .mRadioIndication (pure 0) fun callback => do
    match ← castFrom callback with
    | none => pure 0
    | some radioIndicationV1_1 =>
      let ok ← payloadOk
      if ok then
        match radioIndicationV1_1 with
        | none => abort
        | some callback => do
          callAndCheck cfg slotId .radio callback
            (.indication Unsol.keepaliveStatus indicationType)
          pure 0
      else pure 0

/-- `radio::nitzTimeReceivedInd`. The result does not depend on the status of the call. -/
def nitzTimeReceivedInd (cfg : Config) (slotId : ℤ) (indicationType : ResponseType)
    (response : Option CharBuffer) (responseLen : ℕ) : Code ℤ :=
  ifRegistered slotId .mRadioIndication (pure (-1)) fun callback =>
    match response with
    | none => pure 0
    | some response =>
      if responseLen = 0 then pure 0
      else do
        let nitzTime ← convertCharPtrToHidlString response
        let time ← getNitzTimeReceived slotId
        callAndCheck cfg slotId .radio callback (.nitzTimeReceived indicationType nitzTime time)
        pure 0

/-- An indication function of `ril_service.cpp`: which callback it looks for, and what it does when
there is none. -/
def IndicationFunction.run (cfg : Config) (slotId : ℤ) (unsolResponse : ℤ)
    (indicationType : ResponseType) (response : Option CharBuffer) (responseLen : ℕ) :
    IndicationFunction → Code ℤ
  | .radio => sendIndication cfg slotId .mRadioIndication unsolResponse indicationType
  | .radioV1_1 => sendIndication cfg slotId .mRadioIndicationV1_1 unsolResponse indicationType
  | .keepaliveStatus => keepaliveStatusInd cfg slotId indicationType
  | .oemHook =>
    if cfg.oemHookEnabled then
      sendIndication cfg slotId .mOemHookIndication unsolResponse indicationType
    else pure 0
  | .nitzTimeReceived => nitzTimeReceivedInd cfg slotId indicationType response responseLen

end BlueCommon.Ril
