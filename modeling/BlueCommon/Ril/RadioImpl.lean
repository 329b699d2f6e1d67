import BlueCommon.Ril.Dispatch

/-!
# The request methods

The methods of `RadioImpl` and `OemHookImpl`, in the order of `ril_service.cpp`. Most of them hand
their arguments to a dispatch helper; the others build their payload themselves. `mSlotId` is the
argument `slotId`.
-/

namespace BlueCommon.Ril

open Interaction Program

namespace Entry

/-! ### Constants of `ril.h` -/

def maxRadioAccessNetworks : ℕ := 8
def maxBands : ℕ := 8
def maxChannels : ℕ := 32
def maxUuidLength : ℕ := 64
def radioTech3gpp : ℤ := 1
def radioTech3gpp2 : ℤ := 2
def nattIpv4 : ℤ := 0
def nattIpv6 : ℤ := 1

/-! ### Methods -/

abbrev getIccCardStatus (slotId serial : ℤ) : Entry Unit :=
  dispatchVoid serial slotId Request.getSimStatus

abbrev supplyIccPinForApp (slotId serial : ℤ) (pin aid : HidlString) : Entry Unit :=
  dispatchStrings serial slotId Request.enterSimPin true [pin, aid]

abbrev supplyIccPukForApp (slotId serial : ℤ) (puk pin aid : HidlString) : Entry Unit :=
  dispatchStrings serial slotId Request.enterSimPuk true [puk, pin, aid]

abbrev supplyIccPin2ForApp (slotId serial : ℤ) (pin2 aid : HidlString) : Entry Unit :=
  dispatchStrings serial slotId Request.enterSimPin2 true [pin2, aid]

abbrev supplyIccPuk2ForApp (slotId serial : ℤ) (puk2 pin2 aid : HidlString) : Entry Unit :=
  dispatchStrings serial slotId Request.enterSimPuk2 true [puk2, pin2, aid]

abbrev changeIccPinForApp (slotId serial : ℤ) (oldPin newPin aid : HidlString) : Entry Unit :=
  dispatchStrings serial slotId Request.changeSimPin true [oldPin, newPin, aid]

abbrev changeIccPin2ForApp (slotId serial : ℤ) (oldPin2 newPin2 aid : HidlString) : Entry Unit :=
  dispatchStrings serial slotId Request.changeSimPin2 true [oldPin2, newPin2, aid]

abbrev supplyNetworkDepersonalization (slotId serial : ℤ) (netPin : HidlString) : Entry Unit :=
  dispatchStrings serial slotId Request.enterNetworkDepersonalization true [netPin]

abbrev getCurrentCalls (slotId serial : ℤ) : Entry Unit :=
  dispatchVoid serial slotId Request.getCurrentCalls

/-- `? "1" : "0"`, by which a `bool` is sent as a string. -/
def flag (b : Bool) : List UInt8 := if b then stringBytes "1" else stringBytes "0"

def dial (slotId serial : ℤ) (dialInfo : Dial) : Entry Unit :=
  withRequest serial slotId Request.dial fun pRI =>
    withCopy dialInfo.address pRI false fun address =>
      match dialInfo.uusInfo with
      | [] => onRequest Request.dial (.dial address dialInfo.clir none) pRI slotId
      | uus :: _ =>
        if uus.uusData.length = 0 then
          onRequest Request.dial
            (.dial address dialInfo.clir (some (uus.uusType, uus.uusDcs, none, 0))) pRI slotId
        else
          withCopy uus.uusData pRI false fun uusData =>
            onRequest Request.dial (.dial address dialInfo.clir
              (some (uus.uusType, uus.uusDcs, uusData, uus.uusData.length))) pRI slotId

abbrev getImsiForApp (slotId serial : ℤ) (aid : HidlString) : Entry Unit :=
  dispatchStrings serial slotId Request.getImsi false [aid]

abbrev hangup (slotId serial gsmIndex : ℤ) : Entry Unit :=
  dispatchInts serial slotId Request.hangup [gsmIndex]

abbrev hangupWaitingOrBackground (slotId serial : ℤ) : Entry Unit :=
  dispatchVoid serial slotId Request.hangupWaitingOrBackground

abbrev hangupForegroundResumeBackground (slotId serial : ℤ) : Entry Unit :=
  dispatchVoid serial slotId Request.hangupForegroundResumeBackground

abbrev switchWaitingOrHoldingAndActive (slotId serial : ℤ) : Entry Unit :=
  dispatchVoid serial slotId Request.switchWaitingOrHoldingAndActive

abbrev conference (slotId serial : ℤ) : Entry Unit :=
  dispatchVoid serial slotId Request.conference

abbrev rejectCall (slotId serial : ℤ) : Entry Unit :=
  dispatchVoid serial slotId Request.udub

abbrev getLastCallFailCause (slotId serial : ℤ) : Entry Unit :=
  dispatchVoid serial slotId Request.lastCallFailCause

abbrev getSignalStrength (slotId serial : ℤ) : Entry Unit :=
  dispatchVoid serial slotId Request.signalStrength

abbrev getVoiceRegistrationState (slotId serial : ℤ) : Entry Unit :=
  dispatchVoid serial slotId Request.voiceRegistrationState

abbrev getDataRegistrationState (slotId serial : ℤ) : Entry Unit :=
  dispatchVoid serial slotId Request.dataRegistrationState

abbrev getOperator (slotId serial : ℤ) : Entry Unit :=
  dispatchVoid serial slotId Request.operator

abbrev setRadioPower (slotId serial : ℤ) (on : Bool) : Entry Unit :=
  dispatchInts serial slotId Request.radioPower [boolToInt on]

abbrev sendDtmf (slotId serial : ℤ) (s : HidlString) : Entry Unit :=
  dispatchString serial slotId Request.dtmf s

abbrev sendSms (slotId serial : ℤ) (message : GsmSmsMessage) : Entry Unit :=
  dispatchStrings serial slotId Request.sendSms false [message.smscPdu, message.pdu]

abbrev sendSMSExpectMore (slotId serial : ℤ) (message : GsmSmsMessage) : Entry Unit :=
  dispatchStrings serial slotId Request.sendSmsExpectMore false [message.smscPdu, message.pdu]

/-- `convertMvnoTypeToString`: `none` for `false`. -/
def convertMvnoTypeToString : MvnoType → Option (List UInt8)
  | .imsi => some (stringBytes "imsi")
  | .gid => some (stringBytes "gid")
  | .spn => some (stringBytes "spn")
  | .none => some []
  | .other _ => none

/-- `std::to_string((int) radioTechnology + 2)`, whose sum overflows for the two greatest
numbers. -/
def withRilRadioTechnology (radioTechnology : ℤ) (body : List UInt8 → Entry Unit) : Entry Unit :=
  if radioTechnology + 2 > intMax then abort else body (toStringBytes (radioTechnology + 2))

/-- A request that is accepted only to be refused. -/
def refuse (serial slotId request err : ℤ) : Entry Unit :=
  withRequest serial slotId request fun pRI => sendErrorResponse (some pRI) err

def setupDataCall (cfg : Config) (slotId serial radioTechnology : ℤ)
    (dataProfileInfo : DataProfileInfo) (modemCognitive roamingAllowed isRoaming : Bool) :
    Entry Unit :=
  if cfg.version ≥ 4 ∧ cfg.version ≤ 14 then
    withRilRadioTechnology radioTechnology fun technology =>
      dispatchStrings serial slotId Request.setupDataCall true
        [technology, toStringBytes dataProfileInfo.profileId, dataProfileInfo.apn,
          dataProfileInfo.user, dataProfileInfo.password, toStringBytes dataProfileInfo.authType,
          if isRoaming then dataProfileInfo.roamingProtocol else dataProfileInfo.protocol]
  else if cfg.version ≥ 15 then
    match convertMvnoTypeToString dataProfileInfo.mvnoType with
    | none => refuse serial slotId Request.setupDataCall Errno.invalidArguments
    | some mvnoTypeStr =>
      withRilRadioTechnology radioTechnology fun technology =>
        dispatchStrings serial slotId Request.setupDataCall true
          [technology, toStringBytes dataProfileInfo.profileId, dataProfileInfo.apn,
            dataProfileInfo.user, dataProfileInfo.password, toStringBytes dataProfileInfo.authType,
            dataProfileInfo.protocol, dataProfileInfo.roamingProtocol,
            toStringBytes dataProfileInfo.supportedApnTypesBitmap,
            toStringBytes dataProfileInfo.bearerBitmap, flag modemCognitive,
            toStringBytes dataProfileInfo.mtu, mvnoTypeStr, dataProfileInfo.mvnoMatchData,
            flag roamingAllowed]
  else refuse serial slotId Request.setupDataCall Errno.requestNotSupported

def iccIOForApp (slotId serial : ℤ) (iccIo : IccIo) : Entry Unit :=
  withRequest serial slotId Request.simIo fun pRI =>
    withCopy iccIo.path pRI false fun path =>
      withCopy iccIo.data pRI false fun data =>
        withCopy iccIo.pin2 pRI false fun pin2 =>
          withCopy iccIo.aid pRI false fun aidPtr =>
            onRequest Request.simIo (.simIo iccIo.command iccIo.fileId path iccIo.p1 iccIo.p2
              iccIo.p3 data pin2 aidPtr) pRI slotId

abbrev sendUssd (slotId serial : ℤ) (ussd : HidlString) : Entry Unit :=
  dispatchString serial slotId Request.sendUssd ussd

abbrev cancelPendingUssd (slotId serial : ℤ) : Entry Unit :=
  dispatchVoid serial slotId Request.cancelUssd

abbrev getClir (slotId serial : ℤ) : Entry Unit :=
  dispatchVoid serial slotId Request.getClir

abbrev setClir (slotId serial status : ℤ) : Entry Unit :=
  dispatchInts serial slotId Request.setClir [status]

abbrev getCallForwardStatus (slotId serial : ℤ) (callInfo : CallForwardInfo) : Entry Unit :=
  dispatchCallForwardStatus serial slotId Request.queryCallForwardStatus callInfo

abbrev setCallForward (slotId serial : ℤ) (callInfo : CallForwardInfo) : Entry Unit :=
  dispatchCallForwardStatus serial slotId Request.setCallForward callInfo

abbrev getCallWaiting (slotId serial serviceClass : ℤ) : Entry Unit :=
  dispatchInts serial slotId Request.queryCallWaiting [serviceClass]

abbrev setCallWaiting (slotId serial : ℤ) (enable : Bool) (serviceClass : ℤ) : Entry Unit :=
  dispatchInts serial slotId Request.setCallWaiting [boolToInt enable, serviceClass]

abbrev acknowledgeLastIncomingGsmSms (slotId serial : ℤ) (success : Bool)
    (cause : ℤ) : Entry Unit :=
  dispatchInts serial slotId Request.smsAcknowledge [boolToInt success, cause]

abbrev acceptCall (slotId serial : ℤ) : Entry Unit :=
  dispatchVoid serial slotId Request.answer

abbrev deactivateDataCall (slotId serial cid : ℤ) (reasonRadioShutDown : Bool) : Entry Unit :=
  dispatchStrings serial slotId Request.deactivateDataCall false
    [toStringBytes cid, flag reasonRadioShutDown]

abbrev getFacilityLockForApp (slotId serial : ℤ) (facility password : HidlString)
    (serviceClass : ℤ) (appId : HidlString) : Entry Unit :=
  dispatchStrings serial slotId Request.queryFacilityLock true
    [facility, password, toStringBytes serviceClass, appId]

abbrev setFacilityLockForApp (slotId serial : ℤ) (facility : HidlString) (lockState : Bool)
    (password : HidlString) (serviceClass : ℤ) (appId : HidlString) : Entry Unit :=
  dispatchStrings serial slotId Request.setFacilityLock true
    [facility, flag lockState, password, toStringBytes serviceClass, appId]

abbrev setBarringPassword (slotId serial : ℤ)
    (facility oldPassword newPassword : HidlString) : Entry Unit :=
  dispatchStrings serial slotId Request.changeBarringPassword true
    [facility, oldPassword, newPassword]

abbrev getNetworkSelectionMode (slotId serial : ℤ) : Entry Unit :=
  dispatchVoid serial slotId Request.queryNetworkSelectionMode

abbrev setNetworkSelectionModeAutomatic (slotId serial : ℤ) : Entry Unit :=
  dispatchStrings serial slotId Request.setNetworkSelectionAutomatic true []

abbrev setNetworkSelectionModeManual (cfg : Config) (slotId serial : ℤ)
    (operatorNumeric : HidlString) : Entry Unit :=
  dispatchStrings serial slotId Request.setNetworkSelectionManual true
    [if cfg.oldMncFormat then operatorNumeric ++ stringBytes "+" else operatorNumeric]

abbrev getAvailableNetworks (slotId serial : ℤ) : Entry Unit :=
  dispatchVoid serial slotId Request.queryAvailableNetworks

/-- One round of the loop of `startNetworkScan`; `none` for `RIL_E_INVALID_ARGUMENTS`. -/
def scanSpecifier (ras : RadioAccessSpecifier) : Option RilRadioAccessSpecifier :=
  if ras.geranBands.length > maxBands ∨ ras.utranBands.length > maxBands ∨
      ras.eutranBands.length > maxBands ∨ ras.channels.length > maxChannels then none
  else
    match ras.radioAccessNetwork with
    | .geran => some ⟨.geran, ras.geranBands, ras.channels⟩
    | .utran => some ⟨.utran, ras.utranBands, ras.channels⟩
    | .eutran => some ⟨.eutran, ras.eutranBands, ras.channels⟩
    | .other _ => none

def startNetworkScan (slotId serial : ℤ) (request : NetworkScanRequest) : Entry Unit :=
  withRequest serial slotId Request.startNetworkScan fun pRI =>
    if request.specifiers.length > maxRadioAccessNetworks then
      sendErrorResponse (some pRI) Errno.invalidArguments
    else
      match request.specifiers.mapM scanSpecifier with
      | none => sendErrorResponse (some pRI) Errno.invalidArguments
      | some specifiers =>
        onRequest Request.startNetworkScan (.networkScan request.type request.interval specifiers)
          pRI slotId

abbrev stopNetworkScan (slotId serial : ℤ) : Entry Unit :=
  dispatchVoid serial slotId Request.stopNetworkScan

abbrev startDtmf (slotId serial : ℤ) (s : HidlString) : Entry Unit :=
  dispatchString serial slotId Request.dtmfStart s

abbrev stopDtmf (slotId serial : ℤ) : Entry Unit :=
  dispatchVoid serial slotId Request.dtmfStop

abbrev getBasebandVersion (slotId serial : ℤ) : Entry Unit :=
  dispatchVoid serial slotId Request.basebandVersion

abbrev separateConnection (slotId serial gsmIndex : ℤ) : Entry Unit :=
  dispatchInts serial slotId Request.separateConnection [gsmIndex]

abbrev setMute (slotId serial : ℤ) (enable : Bool) : Entry Unit :=
  dispatchInts serial slotId Request.setMute [boolToInt enable]

abbrev getMute (slotId serial : ℤ) : Entry Unit :=
  dispatchVoid serial slotId Request.getMute

abbrev getClip (slotId serial : ℤ) : Entry Unit :=
  dispatchVoid serial slotId Request.queryClip

abbrev getDataCallList (slotId serial : ℤ) : Entry Unit :=
  dispatchVoid serial slotId Request.dataCallList

abbrev setSuppServiceNotifications (slotId serial : ℤ) (enable : Bool) : Entry Unit :=
  dispatchInts serial slotId Request.setSuppSvcNotification [boolToInt enable]

def writeSmsToSim (slotId serial : ℤ) (smsWriteArgs : SmsWriteArgs) : Entry Unit :=
  withRequest serial slotId Request.writeSmsToSim fun pRI =>
    withCopy smsWriteArgs.pdu pRI false fun pdu =>
      withCopy smsWriteArgs.smsc pRI false fun smsc =>
        onRequest Request.writeSmsToSim (.smsWriteArgs smsWriteArgs.status pdu smsc) pRI slotId

abbrev deleteSmsOnSim (slotId serial index : ℤ) : Entry Unit :=
  dispatchInts serial slotId Request.deleteSmsOnSim [index]

abbrev setBandMode (slotId serial mode : ℤ) : Entry Unit :=
  dispatchInts serial slotId Request.setBandMode [mode]

abbrev getAvailableBandModes (slotId serial : ℤ) : Entry Unit :=
  dispatchVoid serial slotId Request.queryAvailableBandMode

abbrev sendEnvelope (slotId serial : ℤ) (command : HidlString) : Entry Unit :=
  dispatchString serial slotId Request.stkSendEnvelopeCommand command

abbrev sendTerminalResponseToSim (slotId serial : ℤ) (commandResponse : HidlString) : Entry Unit :=
  dispatchString serial slotId Request.stkSendTerminalResponse commandResponse

abbrev handleStkCallSetupRequestFromSim (slotId serial : ℤ) (accept : Bool) : Entry Unit :=
  dispatchInts serial slotId Request.stkHandleCallSetupRequestedFromSim [boolToInt accept]

abbrev explicitCallTransfer (slotId serial : ℤ) : Entry Unit :=
  dispatchVoid serial slotId Request.explicitCallTransfer

abbrev setPreferredNetworkType (slotId serial nwType : ℤ) : Entry Unit :=
  dispatchInts serial slotId Request.setPreferredNetworkType [nwType]

abbrev getPreferredNetworkType (slotId serial : ℤ) : Entry Unit :=
  dispatchVoid serial slotId Request.getPreferredNetworkType

abbrev getNeighboringCids (slotId serial : ℤ) : Entry Unit :=
  dispatchVoid serial slotId Request.getNeighboringCellIds

abbrev setLocationUpdates (slotId serial : ℤ) (enable : Bool) : Entry Unit :=
  dispatchInts serial slotId Request.setLocationUpdates [boolToInt enable]

abbrev setCdmaSubscriptionSource (slotId serial cdmaSub : ℤ) : Entry Unit :=
  dispatchInts serial slotId Request.cdmaSetSubscriptionSource [cdmaSub]

abbrev setCdmaRoamingPreference (slotId serial type : ℤ) : Entry Unit :=
  dispatchInts serial slotId Request.cdmaSetRoamingPreference [type]

abbrev getCdmaRoamingPreference (slotId serial : ℤ) : Entry Unit :=
  dispatchVoid serial slotId Request.cdmaQueryRoamingPreference

abbrev setTTYMode (slotId serial mode : ℤ) : Entry Unit :=
  dispatchInts serial slotId Request.setTtyMode [mode]

abbrev getTTYMode (slotId serial : ℤ) : Entry Unit :=
  dispatchVoid serial slotId Request.queryTtyMode

abbrev setPreferredVoicePrivacy (slotId serial : ℤ) (enable : Bool) : Entry Unit :=
  dispatchInts serial slotId Request.cdmaSetPreferredVoicePrivacyMode [boolToInt enable]

abbrev getPreferredVoicePrivacy (slotId serial : ℤ) : Entry Unit :=
  dispatchVoid serial slotId Request.cdmaQueryPreferredVoicePrivacyMode

abbrev sendCDMAFeatureCode (slotId serial : ℤ) (featureCode : HidlString) : Entry Unit :=
  dispatchString serial slotId Request.cdmaFlash featureCode

abbrev sendBurstDtmf (slotId serial : ℤ) (dtmf : HidlString) (on off : ℤ) : Entry Unit :=
  dispatchStrings serial slotId Request.cdmaBurstDtmf false
    [dtmf, toStringBytes on, toStringBytes off]

abbrev sendCdmaSms (slotId serial : ℤ) (sms : CdmaSmsMessage) : Entry Unit :=
  withRequest serial slotId Request.cdmaSendSms fun pRI => onOwnRequest (.cdmaSms sms) pRI slotId

abbrev acknowledgeLastIncomingCdmaSms (slotId serial : ℤ) (smsAck : CdmaSmsAck) : Entry Unit :=
  withRequest serial slotId Request.cdmaSmsAcknowledge fun pRI =>
    onOwnRequest (.cdmaSmsAck smsAck.errorClass smsAck.smsCauseCode) pRI slotId

abbrev getGsmBroadcastConfig (slotId serial : ℤ) : Entry Unit :=
  dispatchVoid serial slotId Request.gsmGetBroadcastSmsConfig

abbrev setGsmBroadcastConfig (slotId serial : ℤ) (configInfo : List GsmBroadcastSmsConfigInfo) :
    Entry Unit :=
  withRequest serial slotId Request.gsmSetBroadcastSmsConfig fun pRI =>
    onOwnRequest (.gsmBroadcastConfig configInfo) pRI slotId

abbrev setGsmBroadcastActivation (slotId serial : ℤ) (activate : Bool) : Entry Unit :=
  dispatchInts serial slotId Request.gsmSmsBroadcastActivation [boolToInt (!activate)]

abbrev getCdmaBroadcastConfig (slotId serial : ℤ) : Entry Unit :=
  dispatchVoid serial slotId Request.cdmaGetBroadcastSmsConfig

abbrev setCdmaBroadcastConfig (slotId serial : ℤ) (configInfo : List CdmaBroadcastSmsConfigInfo) :
    Entry Unit :=
  withRequest serial slotId Request.cdmaSetBroadcastSmsConfig fun pRI =>
    onOwnRequest (.cdmaBroadcastConfig configInfo) pRI slotId

abbrev setCdmaBroadcastActivation (slotId serial : ℤ) (activate : Bool) : Entry Unit :=
  dispatchInts serial slotId Request.cdmaSmsBroadcastActivation [boolToInt (!activate)]

abbrev getCDMASubscription (slotId serial : ℤ) : Entry Unit :=
  dispatchVoid serial slotId Request.cdmaSubscription

abbrev writeSmsToRuim (slotId serial : ℤ) (cdmaSms : CdmaSmsWriteArgs) : Entry Unit :=
  withRequest serial slotId Request.cdmaWriteSmsToRuim fun pRI =>
    onOwnRequest (.cdmaSmsWriteArgs cdmaSms.status cdmaSms.message) pRI slotId

abbrev deleteSmsOnRuim (slotId serial index : ℤ) : Entry Unit :=
  dispatchInts serial slotId Request.cdmaDeleteSmsOnRuim [index]

abbrev getDeviceIdentity (slotId serial : ℤ) : Entry Unit :=
  dispatchVoid serial slotId Request.deviceIdentity

abbrev exitEmergencyCallbackMode (slotId serial : ℤ) : Entry Unit :=
  dispatchVoid serial slotId Request.exitEmergencyCallbackMode

abbrev getSmscAddress (slotId serial : ℤ) : Entry Unit :=
  dispatchVoid serial slotId Request.getSmscAddress

abbrev setSmscAddress (slotId serial : ℤ) (smsc : HidlString) : Entry Unit :=
  dispatchString serial slotId Request.setSmscAddress smsc

abbrev reportSmsMemoryStatus (slotId serial : ℤ) (available : Bool) : Entry Unit :=
  dispatchInts serial slotId Request.reportSmsMemoryStatus [boolToInt available]

abbrev reportStkServiceIsRunning (slotId serial : ℤ) : Entry Unit :=
  dispatchVoid serial slotId Request.reportStkServiceIsRunning

abbrev getCdmaSubscriptionSource (slotId serial : ℤ) : Entry Unit :=
  dispatchVoid serial slotId Request.cdmaGetSubscriptionSource

abbrev requestIsimAuthentication (slotId serial : ℤ) (challenge : HidlString) : Entry Unit :=
  dispatchString serial slotId Request.isimAuthentication challenge

abbrev acknowledgeIncomingGsmSmsWithPdu (slotId serial : ℤ) (success : Bool)
    (ackPdu : HidlString) : Entry Unit :=
  dispatchStrings serial slotId Request.acknowledgeIncomingGsmSmsWithPdu false
    [flag success, ackPdu]

abbrev sendEnvelopeWithStatus (slotId serial : ℤ) (contents : HidlString) : Entry Unit :=
  dispatchString serial slotId Request.stkSendEnvelopeWithStatus contents

abbrev getVoiceRadioTechnology (slotId serial : ℤ) : Entry Unit :=
  dispatchVoid serial slotId Request.voiceRadioTech

abbrev getCellInfoList (slotId serial : ℤ) : Entry Unit :=
  dispatchVoid serial slotId Request.getCellInfoList

abbrev setCellInfoListRate (slotId serial rate : ℤ) : Entry Unit :=
  dispatchInts serial slotId Request.setUnsolCellInfoListRate [rate]

def setInitialAttachApn (cfg : Config) (slotId serial : ℤ) (dataProfileInfo : DataProfileInfo)
    (modemCognitive isRoaming : Bool) : Entry Unit :=
  withRequest serial slotId Request.setInitialAttachApn fun pRI =>
    withCopy dataProfileInfo.apn pRI true fun apn =>
      if cfg.version ≤ 14 then
        withCopy (if isRoaming then dataProfileInfo.roamingProtocol else dataProfileInfo.protocol)
          pRI false fun protocol =>
        withCopy dataProfileInfo.user pRI false fun username =>
        withCopy dataProfileInfo.password pRI false fun password =>
        onRequest Request.setInitialAttachApn
          (.initialAttachApn apn protocol dataProfileInfo.authType username password) pRI slotId
      else
        withCopy dataProfileInfo.protocol pRI false fun protocol =>
        withCopy dataProfileInfo.roamingProtocol pRI false fun roamingProtocol =>
        withCopy dataProfileInfo.user pRI false fun username =>
        withCopy dataProfileInfo.password pRI false fun password =>
        match convertMvnoTypeToString dataProfileInfo.mvnoType with
        | none => sendErrorResponse (some pRI) Errno.invalidArguments
        | some mvnoType =>
          withCopy dataProfileInfo.mvnoMatchData pRI false fun mvnoMatchData =>
            onRequest Request.setInitialAttachApn
              (.initialAttachApnV15 apn protocol roamingProtocol dataProfileInfo.authType username
                password dataProfileInfo.supportedApnTypesBitmap dataProfileInfo.bearerBitmap
                (boolToInt modemCognitive) dataProfileInfo.mtu (some mvnoType) mvnoMatchData)
              pRI slotId

abbrev getImsRegistrationState (slotId serial : ℤ) : Entry Unit :=
  dispatchVoid serial slotId Request.imsRegistrationState

/-- `CALL_ONREQUEST(pRI->pCI->requestNumber, …, pRI, pRI->socket_id)`, with the number and the slot
from the request itself. -/
def onOwnSocket (data : RequestData) (pRI : Addr) : Entry Unit := do
  let info ← loadRequestInfo pRI
  match info.pCI with
  | none => abort
  | some requestNumber => onRequest requestNumber data pRI info.socketId

/-- `dispatchImsGsmSms`, for a message with exactly one GSM part: two strings are copied into an
array. -/
def dispatchImsGsmSms (message : ImsSmsMessage) (pRI : Addr) : Entry Unit :=
  match message.gsmMessage with
  | [gsmMessage] =>
    withCalloc pRI
      (withCopy gsmMessage.smscPdu pRI false fun smscPdu =>
        withCopy gsmMessage.pdu pRI false fun pdu =>
          onOwnSocket (.imsGsmSms (boolToInt message.retry) message.messageRef smscPdu pdu) pRI)
  | _ => sendErrorResponse (some pRI) Errno.invalidArguments

/-- `dispatchImsCdmaSms`, for a message with exactly one CDMA part. -/
def dispatchImsCdmaSms (message : ImsSmsMessage) (pRI : Addr) : Entry Unit :=
  match message.cdmaMessage with
  | [cdmaMessage] =>
    onOwnSocket (.imsCdmaSms (boolToInt message.retry) message.messageRef cdmaMessage) pRI
  | _ => sendErrorResponse (some pRI) Errno.invalidArguments

def sendImsSms (slotId serial : ℤ) (message : ImsSmsMessage) : Entry Unit :=
  withRequest serial slotId Request.imsSendSms fun pRI =>
    if message.tech = radioTech3gpp then dispatchImsGsmSms message pRI
    else if message.tech = radioTech3gpp2 then dispatchImsCdmaSms message pRI
    else sendErrorResponse (some pRI) Errno.invalidArguments

abbrev iccTransmitApduBasicChannel (slotId serial : ℤ) (message : SimApdu) : Entry Unit :=
  dispatchIccApdu serial slotId Request.simTransmitApduBasic message

def iccOpenLogicalChannel (cfg : Config) (slotId serial : ℤ) (aid : HidlString) (p2 : ℤ) :
    Entry Unit :=
  if cfg.version < 15 then dispatchString serial slotId Request.simOpenChannel aid
  else
    withRequest serial slotId Request.simOpenChannel fun pRI =>
      withCopy aid pRI false fun aidPtr => onOwnRequest (.openChannelParams p2 aidPtr) pRI slotId

abbrev iccCloseLogicalChannel (slotId serial channelId : ℤ) : Entry Unit :=
  dispatchInts serial slotId Request.simCloseChannel [channelId]

abbrev iccTransmitApduLogicalChannel (slotId serial : ℤ) (message : SimApdu) : Entry Unit :=
  dispatchIccApdu serial slotId Request.simTransmitApduChannel message

abbrev nvReadItem (slotId serial itemId : ℤ) : Entry Unit :=
  withRequest serial slotId Request.nvReadItem fun pRI =>
    onOwnRequest (.nvReadItem itemId) pRI slotId

def nvWriteItem (slotId serial : ℤ) (item : NvWriteItem) : Entry Unit :=
  withRequest serial slotId Request.nvWriteItem fun pRI =>
    withCopy item.value pRI false fun value =>
      onOwnRequest (.nvWriteItem item.itemId value) pRI slotId

abbrev nvWriteCdmaPrl (slotId serial : ℤ) (prl : List UInt8) : Entry Unit :=
  dispatchRaw serial slotId Request.nvWriteCdmaPrl prl

abbrev nvResetConfig (slotId serial : ℤ) (resetType : ResetNvType) : Entry Unit :=
  dispatchInts serial slotId Request.nvResetConfig
    [match resetType with
      | .reload => 1
      | .erase => 2
      | .factoryReset => 3
      | .other _ => -1]

abbrev setUiccSubscription (slotId serial : ℤ) (uiccSub : SelectUiccSub) : Entry Unit :=
  withRequest serial slotId Request.setUiccSubscription fun pRI =>
    onOwnRequest (.selectUiccSub uiccSub.slot uiccSub.appIndex uiccSub.subType uiccSub.actStatus)
      pRI slotId

abbrev setDataAllowed (slotId serial : ℤ) (allow : Bool) : Entry Unit :=
  dispatchInts serial slotId Request.allowData [boolToInt allow]

abbrev getHardwareConfig (slotId serial : ℤ) : Entry Unit :=
  dispatchVoid serial slotId Request.getHardwareConfig

def requestIccSimAuthentication (slotId serial authContext : ℤ) (authData aid : HidlString) :
    Entry Unit :=
  withRequest serial slotId Request.simAuthentication fun pRI =>
    withCopy authData pRI false fun rilAuthData =>
      withCopy aid pRI false fun rilAid =>
        onOwnRequest (.simAuthentication authContext rilAuthData rilAid) pRI slotId

/-- One round of the loops of `setDataProfile`. The two versions treat empty strings differently:
`protocol` of an older profile is copied even when it is empty. -/
def rilDataProfile (cfg : Config) (pRI : Addr) (isRoaming : Bool) (profile : DataProfileInfo)
    (body : RilDataProfileInfo → Entry Unit) : Entry Unit :=
  withCopy profile.apn pRI true fun apn =>
    if cfg.version ≤ 14 then
      withCopy (if isRoaming then profile.roamingProtocol else profile.protocol) pRI true
        fun protocol =>
      withCopy profile.user pRI true fun user =>
      withCopy profile.password pRI true fun password =>
      body ⟨profile.profileId, apn, protocol, profile.authType, user, password, profile.type,
        profile.maxConnsTime, profile.maxConns, profile.waitTime, boolToInt profile.enabled, none⟩
    else
      withCopy profile.protocol pRI false fun protocol =>
      withCopy profile.roamingProtocol pRI true fun roamingProtocol =>
      withCopy profile.user pRI true fun user =>
      withCopy profile.password pRI true fun password =>
      withCopy profile.mvnoMatchData pRI true fun mvnoMatchData =>
      match convertMvnoTypeToString profile.mvnoType with
      | none => sendErrorResponse (some pRI) Errno.invalidArguments
      | some mvnoType =>
        body ⟨profile.profileId, apn, protocol, profile.authType, user, password, profile.type,
          profile.maxConnsTime, profile.maxConns, profile.waitTime, boolToInt profile.enabled,
          some (roamingProtocol, profile.supportedApnTypesBitmap, profile.bearerBitmap,
            profile.mtu, some mvnoType, mvnoMatchData)⟩

/-- The loops of `setDataProfile`. -/
def rilDataProfiles (cfg : Config) (pRI : Addr) (isRoaming : Bool) :
    List DataProfileInfo → (List RilDataProfileInfo → Entry Unit) → Entry Unit
  | [], body => body []
  | profile :: profiles, body =>
    rilDataProfile cfg pRI isRoaming profile fun dataProfile =>
      rilDataProfiles cfg pRI isRoaming profiles fun dataProfiles =>
        body (dataProfile :: dataProfiles)

def setDataProfile (cfg : Config) (slotId serial : ℤ) (profiles : List DataProfileInfo)
    (isRoaming : Bool) : Entry Unit :=
  withRequest serial slotId Request.setDataProfile fun pRI =>
    withCalloc pRI (withCalloc pRI
      (rilDataProfiles cfg pRI isRoaming profiles fun dataProfiles =>
        onRequest Request.setDataProfile (.dataProfiles dataProfiles) pRI slotId))

abbrev requestShutdown (slotId serial : ℤ) : Entry Unit :=
  dispatchVoid serial slotId Request.shutdown

abbrev getRadioCapability (slotId serial : ℤ) : Entry Unit :=
  dispatchVoid serial slotId Request.getRadioCapability

abbrev setRadioCapability (slotId serial : ℤ) (rc : RadioCapability) : Entry Unit :=
  withRequest serial slotId Request.setRadioCapability fun pRI =>
    onOwnRequest (.radioCapability rc.session rc.phase rc.raf rc.status
      (rc.logicalModemUuid.cStr.take (maxUuidLength - 1))) pRI slotId

abbrev startLceService (slotId serial reportInterval : ℤ) (pullMode : Bool) : Entry Unit :=
  dispatchInts serial slotId Request.startLce [reportInterval, boolToInt pullMode]

abbrev stopLceService (slotId serial : ℤ) : Entry Unit :=
  dispatchVoid serial slotId Request.stopLce

abbrev pullLceData (slotId serial : ℤ) : Entry Unit :=
  dispatchVoid serial slotId Request.pullLcedata

abbrev getModemActivityInfo (slotId serial : ℤ) : Entry Unit :=
  dispatchVoid serial slotId Request.getActivityInfo

/-- A `RIL_Carrier` of the loops of `setAllowedCarriers`. -/
def rilCarrier (carrier : Carrier) : RilCarrier :=
  ⟨carrier.mcc.cStr, carrier.mnc.cStr, carrier.matchType, carrier.matchData.cStr⟩

def setAllowedCarriers (slotId serial : ℤ) (carriers : CarrierRestrictions) : Entry Unit :=
  withRequest serial slotId Request.setCarrierRestrictions fun pRI =>
    withCalloc pRI (withCalloc pRI
      (onOwnRequest (.carrierRestrictions (carriers.allowedCarriers.map rilCarrier)
        (carriers.excludedCarriers.map rilCarrier)) pRI slotId))

abbrev getAllowedCarriers (slotId serial : ℤ) : Entry Unit :=
  dispatchVoid serial slotId Request.getCarrierRestrictions

def sendDeviceState (cfg : Config) (slotId serial : ℤ) (deviceStateType : DeviceStateType)
    (state : Bool) : Entry Unit :=
  if cfg.version < 15 then
    match deviceStateType with
    | .lowDataExpected => dispatchInts serial slotId Request.screenState [boolToInt (!state)]
    | .other _ => do
      let pRI ← addRequestToList serial slotId Request.sendDeviceState
      sendErrorResponse pRI Errno.requestNotSupported
  else
    dispatchInts serial slotId Request.sendDeviceState [deviceStateType.toInt, boolToInt state]

def setIndicationFilter (cfg : Config) (slotId serial indicationFilter : ℤ) : Entry Unit :=
  if cfg.version < 15 then do
    let pRI ← addRequestToList serial slotId Request.setUnsolicitedResponseFilter
    sendErrorResponse pRI Errno.requestNotSupported
  else dispatchInts serial slotId Request.setUnsolicitedResponseFilter [indicationFilter]

abbrev setSimCardPower (slotId serial : ℤ) (powerUp : Bool) : Entry Unit :=
  dispatchInts serial slotId Request.setSimCardPower [boolToInt powerUp]

abbrev setSimCardPower_1_1 (slotId serial state : ℤ) : Entry Unit :=
  dispatchInts serial slotId Request.setSimCardPower [state]

def setCarrierInfoForImsiEncryption (slotId serial : ℤ) (data : ImsiEncryptionInfo) : Entry Unit :=
  withRequest serial slotId Request.setCarrierInfoImsiEncryption fun pRI =>
    withCopy data.mnc pRI false fun mnc =>
      withCopy data.mcc pRI false fun mcc =>
        withCopy data.keyIdentifier pRI false fun keyIdentifier =>
          onOwnRequest (.imsiEncryption mnc mcc keyIdentifier data.carrierKey data.expirationTime)
            pRI slotId

/-- The checks of `startKeepalive`. -/
def keepaliveAddressesOk (keepalive : KeepaliveRequest) : Bool :=
  if keepalive.type = nattIpv4 then
    keepalive.sourceAddress.length = 4 && keepalive.destinationAddress.length = 4
  else if keepalive.type = nattIpv6 then
    keepalive.sourceAddress.length = 16 && keepalive.destinationAddress.length = 16
  else false

def startKeepalive (slotId serial : ℤ) (keepalive : KeepaliveRequest) : Entry Unit :=
  withRequest serial slotId Request.startKeepalive fun pRI =>
    if keepaliveAddressesOk keepalive = false then
      sendErrorResponse (some pRI) Errno.invalidArguments
    else
      onOwnRequest (.keepalive keepalive.type keepalive.sourceAddress keepalive.sourcePort
        keepalive.destinationAddress keepalive.destinationPort
        keepalive.maxKeepaliveIntervalMillis keepalive.cid) pRI slotId

abbrev stopKeepalive (slotId serial sessionHandle : ℤ) : Entry Unit :=
  withRequest serial slotId Request.stopKeepalive fun pRI =>
    onOwnRequest (.ints [sessionHandle]) pRI slotId

def responseAcknowledgement : Entry Unit := releaseWakeLock

abbrev sendRequestRaw (slotId serial : ℤ) (data : List UInt8) : Entry Unit :=
  dispatchRaw serial slotId Request.oemHookRaw data

abbrev sendRequestStrings (slotId serial : ℤ) (data : List HidlString) : Entry Unit :=
  dispatchStringsVec serial slotId Request.oemHookStrings data

end Entry

end BlueCommon.Ril
