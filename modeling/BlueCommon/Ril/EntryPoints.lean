import BlueCommon.Ril.RadioImpl

/-!
# The entry points and their requests

`RequestMethod cfg slotId p` says that `p` is a call of a method of `RadioImpl` or `OemHookImpl`,
with any arguments. All of them treat their request alike, whatever the results of the calls they
make:

* `requestProtocol`: a method puts a request on the pending list; then it either answers it through
  `sendErrorResponse` and returns, or hands it to the vendor; only a manual network selection is
  completed by the method itself, after the vendor has it.
* `RequestMethod.obeys`: every method obeys this protocol and returns when it is done with its
  request. The helpers are checked one by one, the methods by the helpers they are made of.
-/

namespace BlueCommon.Ril

open Interaction Program

/-- The calls of the methods of `RadioImpl` and `OemHookImpl` for the slot `slotId`, one constructor
for each method, with any arguments that a client can send. -/
inductive RequestMethod (cfg : Config) (slotId : ℤ) : Entry Unit → Prop
  | getIccCardStatus (serial : ℤ) : RequestMethod cfg slotId (Entry.getIccCardStatus slotId serial)
  | supplyIccPinForApp (serial : ℤ) (pin aid : HidlString) :
      RequestMethod cfg slotId (Entry.supplyIccPinForApp slotId serial pin aid)
  | supplyIccPukForApp (serial : ℤ) (puk pin aid : HidlString) :
      RequestMethod cfg slotId (Entry.supplyIccPukForApp slotId serial puk pin aid)
  | supplyIccPin2ForApp (serial : ℤ) (pin2 aid : HidlString) :
      RequestMethod cfg slotId (Entry.supplyIccPin2ForApp slotId serial pin2 aid)
  | supplyIccPuk2ForApp (serial : ℤ) (puk2 pin2 aid : HidlString) :
      RequestMethod cfg slotId (Entry.supplyIccPuk2ForApp slotId serial puk2 pin2 aid)
  | changeIccPinForApp (serial : ℤ) (oldPin newPin aid : HidlString) :
      RequestMethod cfg slotId (Entry.changeIccPinForApp slotId serial oldPin newPin aid)
  | changeIccPin2ForApp (serial : ℤ) (oldPin2 newPin2 aid : HidlString) :
      RequestMethod cfg slotId (Entry.changeIccPin2ForApp slotId serial oldPin2 newPin2 aid)
  | supplyNetworkDepersonalization (serial : ℤ) (netPin : HidlString) :
      RequestMethod cfg slotId (Entry.supplyNetworkDepersonalization slotId serial netPin)
  | getCurrentCalls (serial : ℤ) : RequestMethod cfg slotId (Entry.getCurrentCalls slotId serial)
  | dial (serial : ℤ) (dialInfo : Dial) :
      RequestMethod cfg slotId (Entry.dial slotId serial dialInfo)
  | getImsiForApp (serial : ℤ) (aid : HidlString) :
      RequestMethod cfg slotId (Entry.getImsiForApp slotId serial aid)
  | hangup (serial gsmIndex : ℤ) : RequestMethod cfg slotId (Entry.hangup slotId serial gsmIndex)
  | hangupWaitingOrBackground (serial : ℤ) :
      RequestMethod cfg slotId (Entry.hangupWaitingOrBackground slotId serial)
  | hangupForegroundResumeBackground (serial : ℤ) :
      RequestMethod cfg slotId (Entry.hangupForegroundResumeBackground slotId serial)
  | switchWaitingOrHoldingAndActive (serial : ℤ) :
      RequestMethod cfg slotId (Entry.switchWaitingOrHoldingAndActive slotId serial)
  | conference (serial : ℤ) : RequestMethod cfg slotId (Entry.conference slotId serial)
  | rejectCall (serial : ℤ) : RequestMethod cfg slotId (Entry.rejectCall slotId serial)
  | getLastCallFailCause (serial : ℤ) :
      RequestMethod cfg slotId (Entry.getLastCallFailCause slotId serial)
  | getSignalStrength (serial : ℤ) :
      RequestMethod cfg slotId (Entry.getSignalStrength slotId serial)
  | getVoiceRegistrationState (serial : ℤ) :
      RequestMethod cfg slotId (Entry.getVoiceRegistrationState slotId serial)
  | getDataRegistrationState (serial : ℤ) :
      RequestMethod cfg slotId (Entry.getDataRegistrationState slotId serial)
  | getOperator (serial : ℤ) : RequestMethod cfg slotId (Entry.getOperator slotId serial)
  | setRadioPower (serial : ℤ) (on : Bool) :
      RequestMethod cfg slotId (Entry.setRadioPower slotId serial on)
  | sendDtmf (serial : ℤ) (s : HidlString) :
      RequestMethod cfg slotId (Entry.sendDtmf slotId serial s)
  | sendSms (serial : ℤ) (message : GsmSmsMessage) :
      RequestMethod cfg slotId (Entry.sendSms slotId serial message)
  | sendSMSExpectMore (serial : ℤ) (message : GsmSmsMessage) :
      RequestMethod cfg slotId (Entry.sendSMSExpectMore slotId serial message)
  | setupDataCall (serial radioTechnology : ℤ) (dataProfileInfo : DataProfileInfo)
      (modemCognitive roamingAllowed isRoaming : Bool) :
      RequestMethod cfg slotId (Entry.setupDataCall cfg slotId serial radioTechnology
        dataProfileInfo modemCognitive roamingAllowed isRoaming)
  | iccIOForApp (serial : ℤ) (iccIo : IccIo) :
      RequestMethod cfg slotId (Entry.iccIOForApp slotId serial iccIo)
  | sendUssd (serial : ℤ) (ussd : HidlString) :
      RequestMethod cfg slotId (Entry.sendUssd slotId serial ussd)
  | cancelPendingUssd (serial : ℤ) :
      RequestMethod cfg slotId (Entry.cancelPendingUssd slotId serial)
  | getClir (serial : ℤ) : RequestMethod cfg slotId (Entry.getClir slotId serial)
  | setClir (serial status : ℤ) : RequestMethod cfg slotId (Entry.setClir slotId serial status)
  | getCallForwardStatus (serial : ℤ) (callInfo : CallForwardInfo) :
      RequestMethod cfg slotId (Entry.getCallForwardStatus slotId serial callInfo)
  | setCallForward (serial : ℤ) (callInfo : CallForwardInfo) :
      RequestMethod cfg slotId (Entry.setCallForward slotId serial callInfo)
  | getCallWaiting (serial serviceClass : ℤ) :
      RequestMethod cfg slotId (Entry.getCallWaiting slotId serial serviceClass)
  | setCallWaiting (serial : ℤ) (enable : Bool) (serviceClass : ℤ) :
      RequestMethod cfg slotId (Entry.setCallWaiting slotId serial enable serviceClass)
  | acknowledgeLastIncomingGsmSms (serial : ℤ) (success : Bool) (cause : ℤ) :
      RequestMethod cfg slotId (Entry.acknowledgeLastIncomingGsmSms slotId serial success cause)
  | acceptCall (serial : ℤ) : RequestMethod cfg slotId (Entry.acceptCall slotId serial)
  | deactivateDataCall (serial cid : ℤ) (reasonRadioShutDown : Bool) :
      RequestMethod cfg slotId (Entry.deactivateDataCall slotId serial cid reasonRadioShutDown)
  | getFacilityLockForApp (serial : ℤ) (facility password : HidlString) (serviceClass : ℤ)
      (appId : HidlString) :
      RequestMethod cfg slotId (Entry.getFacilityLockForApp slotId serial facility password
        serviceClass appId)
  | setFacilityLockForApp (serial : ℤ) (facility : HidlString) (lockState : Bool)
      (password : HidlString) (serviceClass : ℤ) (appId : HidlString) :
      RequestMethod cfg slotId (Entry.setFacilityLockForApp slotId serial facility lockState
        password serviceClass appId)
  | setBarringPassword (serial : ℤ) (facility oldPassword newPassword : HidlString) :
      RequestMethod cfg slotId (Entry.setBarringPassword slotId serial facility oldPassword
        newPassword)
  | getNetworkSelectionMode (serial : ℤ) :
      RequestMethod cfg slotId (Entry.getNetworkSelectionMode slotId serial)
  | setNetworkSelectionModeAutomatic (serial : ℤ) :
      RequestMethod cfg slotId (Entry.setNetworkSelectionModeAutomatic slotId serial)
  | setNetworkSelectionModeManual (serial : ℤ) (operatorNumeric : HidlString) :
      RequestMethod cfg slotId (Entry.setNetworkSelectionModeManual cfg slotId serial
        operatorNumeric)
  | getAvailableNetworks (serial : ℤ) :
      RequestMethod cfg slotId (Entry.getAvailableNetworks slotId serial)
  | startNetworkScan (serial : ℤ) (request : NetworkScanRequest) :
      RequestMethod cfg slotId (Entry.startNetworkScan slotId serial request)
  | stopNetworkScan (serial : ℤ) : RequestMethod cfg slotId (Entry.stopNetworkScan slotId serial)
  | startDtmf (serial : ℤ) (s : HidlString) :
      RequestMethod cfg slotId (Entry.startDtmf slotId serial s)
  | stopDtmf (serial : ℤ) : RequestMethod cfg slotId (Entry.stopDtmf slotId serial)
  | getBasebandVersion (serial : ℤ) :
      RequestMethod cfg slotId (Entry.getBasebandVersion slotId serial)
  | separateConnection (serial gsmIndex : ℤ) :
      RequestMethod cfg slotId (Entry.separateConnection slotId serial gsmIndex)
  | setMute (serial : ℤ) (enable : Bool) :
      RequestMethod cfg slotId (Entry.setMute slotId serial enable)
  | getMute (serial : ℤ) : RequestMethod cfg slotId (Entry.getMute slotId serial)
  | getClip (serial : ℤ) : RequestMethod cfg slotId (Entry.getClip slotId serial)
  | getDataCallList (serial : ℤ) : RequestMethod cfg slotId (Entry.getDataCallList slotId serial)
  | setSuppServiceNotifications (serial : ℤ) (enable : Bool) :
      RequestMethod cfg slotId (Entry.setSuppServiceNotifications slotId serial enable)
  | writeSmsToSim (serial : ℤ) (smsWriteArgs : SmsWriteArgs) :
      RequestMethod cfg slotId (Entry.writeSmsToSim slotId serial smsWriteArgs)
  | deleteSmsOnSim (serial index : ℤ) :
      RequestMethod cfg slotId (Entry.deleteSmsOnSim slotId serial index)
  | setBandMode (serial mode : ℤ) : RequestMethod cfg slotId (Entry.setBandMode slotId serial mode)
  | getAvailableBandModes (serial : ℤ) :
      RequestMethod cfg slotId (Entry.getAvailableBandModes slotId serial)
  | sendEnvelope (serial : ℤ) (command : HidlString) :
      RequestMethod cfg slotId (Entry.sendEnvelope slotId serial command)
  | sendTerminalResponseToSim (serial : ℤ) (commandResponse : HidlString) :
      RequestMethod cfg slotId (Entry.sendTerminalResponseToSim slotId serial commandResponse)
  | handleStkCallSetupRequestFromSim (serial : ℤ) (accept : Bool) :
      RequestMethod cfg slotId (Entry.handleStkCallSetupRequestFromSim slotId serial accept)
  | explicitCallTransfer (serial : ℤ) :
      RequestMethod cfg slotId (Entry.explicitCallTransfer slotId serial)
  | setPreferredNetworkType (serial nwType : ℤ) :
      RequestMethod cfg slotId (Entry.setPreferredNetworkType slotId serial nwType)
  | getPreferredNetworkType (serial : ℤ) :
      RequestMethod cfg slotId (Entry.getPreferredNetworkType slotId serial)
  | getNeighboringCids (serial : ℤ) :
      RequestMethod cfg slotId (Entry.getNeighboringCids slotId serial)
  | setLocationUpdates (serial : ℤ) (enable : Bool) :
      RequestMethod cfg slotId (Entry.setLocationUpdates slotId serial enable)
  | setCdmaSubscriptionSource (serial cdmaSub : ℤ) :
      RequestMethod cfg slotId (Entry.setCdmaSubscriptionSource slotId serial cdmaSub)
  | setCdmaRoamingPreference (serial type : ℤ) :
      RequestMethod cfg slotId (Entry.setCdmaRoamingPreference slotId serial type)
  | getCdmaRoamingPreference (serial : ℤ) :
      RequestMethod cfg slotId (Entry.getCdmaRoamingPreference slotId serial)
  | setTTYMode (serial mode : ℤ) : RequestMethod cfg slotId (Entry.setTTYMode slotId serial mode)
  | getTTYMode (serial : ℤ) : RequestMethod cfg slotId (Entry.getTTYMode slotId serial)
  | setPreferredVoicePrivacy (serial : ℤ) (enable : Bool) :
      RequestMethod cfg slotId (Entry.setPreferredVoicePrivacy slotId serial enable)
  | getPreferredVoicePrivacy (serial : ℤ) :
      RequestMethod cfg slotId (Entry.getPreferredVoicePrivacy slotId serial)
  | sendCDMAFeatureCode (serial : ℤ) (featureCode : HidlString) :
      RequestMethod cfg slotId (Entry.sendCDMAFeatureCode slotId serial featureCode)
  | sendBurstDtmf (serial : ℤ) (dtmf : HidlString) (on off : ℤ) :
      RequestMethod cfg slotId (Entry.sendBurstDtmf slotId serial dtmf on off)
  | sendCdmaSms (serial : ℤ) (sms : CdmaSmsMessage) :
      RequestMethod cfg slotId (Entry.sendCdmaSms slotId serial sms)
  | acknowledgeLastIncomingCdmaSms (serial : ℤ) (smsAck : CdmaSmsAck) :
      RequestMethod cfg slotId (Entry.acknowledgeLastIncomingCdmaSms slotId serial smsAck)
  | getGsmBroadcastConfig (serial : ℤ) :
      RequestMethod cfg slotId (Entry.getGsmBroadcastConfig slotId serial)
  | setGsmBroadcastConfig (serial : ℤ) (configInfo : List GsmBroadcastSmsConfigInfo) :
      RequestMethod cfg slotId (Entry.setGsmBroadcastConfig slotId serial configInfo)
  | setGsmBroadcastActivation (serial : ℤ) (activate : Bool) :
      RequestMethod cfg slotId (Entry.setGsmBroadcastActivation slotId serial activate)
  | getCdmaBroadcastConfig (serial : ℤ) :
      RequestMethod cfg slotId (Entry.getCdmaBroadcastConfig slotId serial)
  | setCdmaBroadcastConfig (serial : ℤ) (configInfo : List CdmaBroadcastSmsConfigInfo) :
      RequestMethod cfg slotId (Entry.setCdmaBroadcastConfig slotId serial configInfo)
  | setCdmaBroadcastActivation (serial : ℤ) (activate : Bool) :
      RequestMethod cfg slotId (Entry.setCdmaBroadcastActivation slotId serial activate)
  | getCDMASubscription (serial : ℤ) :
      RequestMethod cfg slotId (Entry.getCDMASubscription slotId serial)
  | writeSmsToRuim (serial : ℤ) (cdmaSms : CdmaSmsWriteArgs) :
      RequestMethod cfg slotId (Entry.writeSmsToRuim slotId serial cdmaSms)
  | deleteSmsOnRuim (serial index : ℤ) :
      RequestMethod cfg slotId (Entry.deleteSmsOnRuim slotId serial index)
  | getDeviceIdentity (serial : ℤ) :
      RequestMethod cfg slotId (Entry.getDeviceIdentity slotId serial)
  | exitEmergencyCallbackMode (serial : ℤ) :
      RequestMethod cfg slotId (Entry.exitEmergencyCallbackMode slotId serial)
  | getSmscAddress (serial : ℤ) : RequestMethod cfg slotId (Entry.getSmscAddress slotId serial)
  | setSmscAddress (serial : ℤ) (smsc : HidlString) :
      RequestMethod cfg slotId (Entry.setSmscAddress slotId serial smsc)
  | reportSmsMemoryStatus (serial : ℤ) (available : Bool) :
      RequestMethod cfg slotId (Entry.reportSmsMemoryStatus slotId serial available)
  | reportStkServiceIsRunning (serial : ℤ) :
      RequestMethod cfg slotId (Entry.reportStkServiceIsRunning slotId serial)
  | getCdmaSubscriptionSource (serial : ℤ) :
      RequestMethod cfg slotId (Entry.getCdmaSubscriptionSource slotId serial)
  | requestIsimAuthentication (serial : ℤ) (challenge : HidlString) :
      RequestMethod cfg slotId (Entry.requestIsimAuthentication slotId serial challenge)
  | acknowledgeIncomingGsmSmsWithPdu (serial : ℤ) (success : Bool) (ackPdu : HidlString) :
      RequestMethod cfg slotId (Entry.acknowledgeIncomingGsmSmsWithPdu slotId serial success ackPdu)
  | sendEnvelopeWithStatus (serial : ℤ) (contents : HidlString) :
      RequestMethod cfg slotId (Entry.sendEnvelopeWithStatus slotId serial contents)
  | getVoiceRadioTechnology (serial : ℤ) :
      RequestMethod cfg slotId (Entry.getVoiceRadioTechnology slotId serial)
  | getCellInfoList (serial : ℤ) : RequestMethod cfg slotId (Entry.getCellInfoList slotId serial)
  | setCellInfoListRate (serial rate : ℤ) :
      RequestMethod cfg slotId (Entry.setCellInfoListRate slotId serial rate)
  | setInitialAttachApn (serial : ℤ) (dataProfileInfo : DataProfileInfo)
      (modemCognitive isRoaming : Bool) :
      RequestMethod cfg slotId (Entry.setInitialAttachApn cfg slotId serial dataProfileInfo
        modemCognitive isRoaming)
  | getImsRegistrationState (serial : ℤ) :
      RequestMethod cfg slotId (Entry.getImsRegistrationState slotId serial)
  | sendImsSms (serial : ℤ) (message : ImsSmsMessage) :
      RequestMethod cfg slotId (Entry.sendImsSms slotId serial message)
  | iccTransmitApduBasicChannel (serial : ℤ) (message : SimApdu) :
      RequestMethod cfg slotId (Entry.iccTransmitApduBasicChannel slotId serial message)
  | iccOpenLogicalChannel (serial : ℤ) (aid : HidlString) (p2 : ℤ) :
      RequestMethod cfg slotId (Entry.iccOpenLogicalChannel cfg slotId serial aid p2)
  | iccCloseLogicalChannel (serial channelId : ℤ) :
      RequestMethod cfg slotId (Entry.iccCloseLogicalChannel slotId serial channelId)
  | iccTransmitApduLogicalChannel (serial : ℤ) (message : SimApdu) :
      RequestMethod cfg slotId (Entry.iccTransmitApduLogicalChannel slotId serial message)
  | nvReadItem (serial itemId : ℤ) :
      RequestMethod cfg slotId (Entry.nvReadItem slotId serial itemId)
  | nvWriteItem (serial : ℤ) (item : NvWriteItem) :
      RequestMethod cfg slotId (Entry.nvWriteItem slotId serial item)
  | nvWriteCdmaPrl (serial : ℤ) (prl : List UInt8) :
      RequestMethod cfg slotId (Entry.nvWriteCdmaPrl slotId serial prl)
  | nvResetConfig (serial : ℤ) (resetType : ResetNvType) :
      RequestMethod cfg slotId (Entry.nvResetConfig slotId serial resetType)
  | setUiccSubscription (serial : ℤ) (uiccSub : SelectUiccSub) :
      RequestMethod cfg slotId (Entry.setUiccSubscription slotId serial uiccSub)
  | setDataAllowed (serial : ℤ) (allow : Bool) :
      RequestMethod cfg slotId (Entry.setDataAllowed slotId serial allow)
  | getHardwareConfig (serial : ℤ) :
      RequestMethod cfg slotId (Entry.getHardwareConfig slotId serial)
  | requestIccSimAuthentication (serial authContext : ℤ) (authData aid : HidlString) :
      RequestMethod cfg slotId (Entry.requestIccSimAuthentication slotId serial authContext
        authData aid)
  | setDataProfile (serial : ℤ) (profiles : List DataProfileInfo) (isRoaming : Bool) :
      RequestMethod cfg slotId (Entry.setDataProfile cfg slotId serial profiles isRoaming)
  | requestShutdown (serial : ℤ) : RequestMethod cfg slotId (Entry.requestShutdown slotId serial)
  | getRadioCapability (serial : ℤ) :
      RequestMethod cfg slotId (Entry.getRadioCapability slotId serial)
  | setRadioCapability (serial : ℤ) (rc : RadioCapability) :
      RequestMethod cfg slotId (Entry.setRadioCapability slotId serial rc)
  | startLceService (serial reportInterval : ℤ) (pullMode : Bool) :
      RequestMethod cfg slotId (Entry.startLceService slotId serial reportInterval pullMode)
  | stopLceService (serial : ℤ) : RequestMethod cfg slotId (Entry.stopLceService slotId serial)
  | pullLceData (serial : ℤ) : RequestMethod cfg slotId (Entry.pullLceData slotId serial)
  | getModemActivityInfo (serial : ℤ) :
      RequestMethod cfg slotId (Entry.getModemActivityInfo slotId serial)
  | setAllowedCarriers (serial : ℤ) (carriers : CarrierRestrictions) :
      RequestMethod cfg slotId (Entry.setAllowedCarriers slotId serial carriers)
  | getAllowedCarriers (serial : ℤ) :
      RequestMethod cfg slotId (Entry.getAllowedCarriers slotId serial)
  | sendDeviceState (serial : ℤ) (deviceStateType : DeviceStateType) (state : Bool) :
      RequestMethod cfg slotId (Entry.sendDeviceState cfg slotId serial deviceStateType state)
  | setIndicationFilter (serial indicationFilter : ℤ) :
      RequestMethod cfg slotId (Entry.setIndicationFilter cfg slotId serial indicationFilter)
  | setSimCardPower (serial : ℤ) (powerUp : Bool) :
      RequestMethod cfg slotId (Entry.setSimCardPower slotId serial powerUp)
  | setSimCardPower_1_1 (serial state : ℤ) :
      RequestMethod cfg slotId (Entry.setSimCardPower_1_1 slotId serial state)
  | setCarrierInfoForImsiEncryption (serial : ℤ) (data : ImsiEncryptionInfo) :
      RequestMethod cfg slotId (Entry.setCarrierInfoForImsiEncryption slotId serial data)
  | startKeepalive (serial : ℤ) (keepalive : KeepaliveRequest) :
      RequestMethod cfg slotId (Entry.startKeepalive slotId serial keepalive)
  | stopKeepalive (serial sessionHandle : ℤ) :
      RequestMethod cfg slotId (Entry.stopKeepalive slotId serial sessionHandle)
  | responseAcknowledgement : RequestMethod cfg slotId Entry.responseAcknowledgement
  | sendRequestRaw (serial : ℤ) (data : List UInt8) :
      RequestMethod cfg slotId (Entry.sendRequestRaw slotId serial data)
  | sendRequestStrings (serial : ℤ) (data : List HidlString) :
      RequestMethod cfg slotId (Entry.sendRequestStrings slotId serial data)

/-! ### The protocol -/

/-- Where a method stands: it has no request to deal with, it has put a request on the list, or the
vendor has its manual network selection and the fake success is to come. -/
inductive RequestPhase
  | idle
  | accepted (pRI : Addr) (request : ℤ)
  | handed (pRI : Addr)

/-- What a method may call in a phase. The calls of the vendor are allowed to threads that have no
request, so that one protocol serves all threads. -/
def RequestPhase.allow : RequestPhase → EntryOp → Prop
  | _, .calloc => True
  | _, .abort => True
  | .idle, .addRequestToList .. => True
  | .idle, .sendErrorResponse none _ => True
  | .idle, .releaseWakeLock => True
  | .idle, .vendorComplete .. => True
  | .idle, .vendorAck _ => True
  | .accepted pRI _, .loadRequestInfo a => a = pRI
  | .accepted pRI _, .sendErrorResponse (some a) _ => a = pRI
  | .accepted pRI _, .onRequest _ _ a _ => a = pRI
  | .handed pRI, .onRequestComplete a _ => a = pRI
  | _, _ => False

/-- The phase after a call. -/
def RequestPhase.after : RequestPhase → (o : EntryOp) → o.Res → RequestPhase
  | _, .addRequestToList _ _ request, some pRI => .accepted pRI request
  | .accepted _ _, .sendErrorResponse .., _ => .idle
  | .accepted pRI request, .onRequest .., _ =>
    if request = Request.setNetworkSelectionManual then .handed pRI else .idle
  | .handed _, .onRequestComplete .., _ => .idle
  | phase, _, _ => phase

namespace RequestPhase

variable {g : RequestPhase} {a : Addr}

/-- A method puts one request on a list. -/
theorem idle_of_addRequestToList {serial slotId request : ℤ}
    (h : g.allow (.addRequestToList serial slotId request)) : g = .idle := by
  cases g with
  | idle => rfl
  | accepted b request => exact h.elim
  | handed b => exact h.elim

/-- A method refuses the request that it has put on a list, and hands no other to the vendor. -/
theorem accepted_of_sendErrorResponse {err : ℤ} (h : g.allow (.sendErrorResponse (some a) err)) :
    ∃ request, g = .accepted a request := by
  cases g with
  | idle => exact h.elim
  | accepted b request => exact ⟨request, congrArg (accepted · request) (Eq.symm h)⟩
  | handed b => exact h.elim

theorem accepted_of_onRequest {number slotId : ℤ} {data : RequestData}
    (h : g.allow (.onRequest number data a slotId)) : ∃ request, g = .accepted a request := by
  cases g with
  | idle => exact h.elim
  | accepted b request => exact ⟨request, congrArg (accepted · request) (Eq.symm h)⟩
  | handed b => exact h.elim

/-- A method completes a request that the vendor has. -/
theorem handed_of_onRequestComplete {e : ℤ} (h : g.allow (.onRequestComplete a e)) :
    g = .handed a := by
  cases g with
  | idle => exact h.elim
  | accepted b request => exact h.elim
  | handed b => exact congrArg handed (Eq.symm h)

theorem idle_of_vendorComplete {rid : ℕ} {e : ℤ} (h : g.allow (.vendorComplete rid a e)) :
    g = .idle := by
  cases g with
  | idle => rfl
  | accepted b request => exact h.elim
  | handed b => exact h.elim

end RequestPhase

/-- The protocol of the request methods. -/
def requestProtocol : Protocol entrySignature RequestPhase where
  allow := RequestPhase.allow
  next g o r g' := g' = g.after o r

/-- The method is done with its request. -/
def RequestPhase.Done (g : RequestPhase) : Prop := g = .idle

namespace Entry

/-- From the phase `g` the program obeys the protocol and returns when it is done. -/
abbrev Follows (p : Entry Unit) (g : RequestPhase) : Prop :=
  p.Obeys requestProtocol (fun _ => RequestPhase.Done) g

variable {pRI : Addr} {serial slotId request : ℤ}

/-! ### Helpers -/

theorem follows_sendErrorResponse {err : ℤ} :
    (sendErrorResponse (some pRI) err).Follows (.accepted pRI request) := by
  refine ⟨rfl, fun _ g hg => ?_⟩
  exact hg

theorem follows_withRequest {body : Addr → Entry Unit}
    (hbody : ∀ pRI, (body pRI).Follows (.accepted pRI request)) :
    (withRequest serial slotId request body).Follows .idle := by
  refine ⟨trivial, fun r g hg => ?_⟩
  subst hg
  cases r with
  | none => exact rfl
  | some pRI => exact hbody pRI

/-- A copy either succeeds and leaves the request alone, or answers it. -/
theorem obeys_copyHidlStringToRil {src : HidlString} {allowEmpty : Bool}
    {post : Option CharPtr → RequestPhase → Prop}
    (hsome : ∀ dest, post (some dest) (.accepted pRI request)) (hnone : post none .idle) :
    (copyHidlStringToRil src pRI allowEmpty).Obeys requestProtocol post
      (.accepted pRI request) := by
  unfold copyHidlStringToRil
  -- an empty string may stand for null, and then nothing is allocated
  split
  · exact hsome none
  · refine ⟨trivial, fun allocated g hg => ?_⟩
    subst hg
    -- each error is answered, and the request is done
    have herror : ∀ err, (sendErrorResponse (some pRI) err >>= fun _ => Program.ret none).Obeys
        requestProtocol post (.accepted pRI request) := by
      intro err
      refine ⟨rfl, fun _ g hg => ?_⟩
      subst hg
      exact hnone
    -- no memory, or a text that is too long for its size
    cases allocated with
    | false => exact herror Errno.noMemory
    | true =>
      show Obeys _ _ (if src.cStr.length ≥ src.length + 1 then _ else _) _
      split
      · exact herror Errno.internalErr
      · exact hsome _

theorem follows_withCopy {src : HidlString} {allowEmpty : Bool} {body : CharPtr → Entry Unit}
    (hbody : ∀ dest, (body dest).Follows (.accepted pRI request)) :
    (withCopy src pRI allowEmpty body).Follows (.accepted pRI request) := by
  refine (obeys_bind _ _).mpr (obeys_copyHidlStringToRil hbody ?_)
  exact rfl

theorem follows_withCalloc {body : Entry Unit} (hbody : body.Follows (.accepted pRI request)) :
    (withCalloc pRI body).Follows (.accepted pRI request) := by
  refine ⟨trivial, fun allocated g hg => ?_⟩
  subst hg
  cases allocated with
  | false => exact follows_sendErrorResponse
  | true => exact hbody

/-- The strings are copied one after the other; the first failure ends the loop. -/
theorem obeys_copyStrings {allowEmpty : Bool} {strs : List HidlString}
    {post : Option (List CharPtr) → RequestPhase → Prop}
    (hsome : ∀ dests, post (some dests) (.accepted pRI request)) (hnone : post none .idle) :
    (copyStrings pRI allowEmpty strs).Obeys requestProtocol post (.accepted pRI request) := by
  induction strs generalizing post with
  | nil => exact hsome []
  | cons str strs ih =>
    refine (obeys_bind _ _).mpr (obeys_copyHidlStringToRil (fun dest => ?_) hnone)
    exact (obeys_bind _ _).mpr (ih (fun dests => hsome _) hnone)

/-- Any request but a manual network selection is done with when the vendor has it. -/
theorem follows_onRequest (hrequest : request ≠ Request.setNetworkSelectionManual) {number : ℤ}
    {data : RequestData} :
    (onRequest number data pRI slotId).Follows (.accepted pRI request) := by
  refine ⟨rfl, fun _ g hg => ?_⟩
  rw [hg]
  exact if_neg hrequest

theorem follows_onOwnRequest (hrequest : request ≠ Request.setNetworkSelectionManual)
    {data : RequestData} :
    (onOwnRequest data pRI slotId).Follows (.accepted pRI request) := by
  refine ⟨rfl, fun ⟨_, pCI, _, _, _, _⟩ g hg => ?_⟩
  subst hg
  cases pCI with
  | none => exact ⟨trivial, fun r => r.elim⟩
  | some requestNumber => exact follows_onRequest hrequest

theorem follows_onOwnSocket (hrequest : request ≠ Request.setNetworkSelectionManual)
    {data : RequestData} : (onOwnSocket data pRI).Follows (.accepted pRI request) := by
  refine ⟨rfl, fun ⟨_, pCI, _, _, _, _⟩ g hg => ?_⟩
  subst hg
  cases pCI with
  | none => exact ⟨trivial, fun r => r.elim⟩
  | some requestNumber => exact follows_onRequest hrequest

/-! ### Dispatch helpers -/

section Dispatch

theorem follows_dispatchVoid (hrequest : request ≠ Request.setNetworkSelectionManual) :
    (dispatchVoid serial slotId request).Follows .idle :=
  follows_withRequest fun _ => follows_onRequest hrequest

theorem follows_dispatchString (hrequest : request ≠ Request.setNetworkSelectionManual)
    {str : HidlString} : (dispatchString serial slotId request str).Follows .idle :=
  follows_withRequest fun _ => follows_withCopy fun _ => follows_onRequest hrequest

/-- The variadic `dispatchStrings` completes a manual network selection itself. -/
theorem follows_dispatchStrings {allowEmpty : Bool} {strs : List HidlString} :
    (dispatchStrings serial slotId request allowEmpty strs).Follows .idle := by
  refine follows_withRequest fun pRI => follows_withCalloc ?_
  refine (obeys_bind _ _).mpr (obeys_copyStrings (fun pStrings => ?_) rfl)
  refine ⟨rfl, fun _ g hg => ?_⟩
  subst hg
  show (if request = _ then _ else _ : Entry Unit).Obeys _ _
    (if request = Request.setNetworkSelectionManual then _ else _)
  split
  · exact ⟨rfl, fun _ g hg => hg⟩
  · exact rfl

theorem follows_dispatchStringsVec (hrequest : request ≠ Request.setNetworkSelectionManual)
    {data : List HidlString} : (dispatchStringsVec serial slotId request data).Follows .idle := by
  refine follows_withRequest fun pRI => follows_withCalloc ?_
  refine (obeys_bind _ _).mpr (obeys_copyStrings (fun pStrings => ?_) rfl)
  exact follows_onRequest hrequest

theorem follows_dispatchInts (hrequest : request ≠ Request.setNetworkSelectionManual)
    {ints : List ℤ} : (dispatchInts serial slotId request ints).Follows .idle :=
  follows_withRequest fun _ => follows_withCalloc (follows_onRequest hrequest)

theorem follows_dispatchCallForwardStatus
    (hrequest : request ≠ Request.setNetworkSelectionManual) {callInfo : CallForwardInfo} :
    (dispatchCallForwardStatus serial slotId request callInfo).Follows .idle :=
  follows_withRequest fun _ => follows_withCopy fun _ => follows_onRequest hrequest

theorem follows_dispatchRaw (hrequest : request ≠ Request.setNetworkSelectionManual)
    {rawBytes : List UInt8} : (dispatchRaw serial slotId request rawBytes).Follows .idle :=
  follows_withRequest fun _ => follows_onRequest hrequest

theorem follows_dispatchIccApdu (hrequest : request ≠ Request.setNetworkSelectionManual)
    {message : SimApdu} : (dispatchIccApdu serial slotId request message).Follows .idle :=
  follows_withRequest fun _ => follows_withCopy fun _ => follows_onRequest hrequest

end Dispatch

/-! ### Methods with a body of their own -/

section Methods

variable {cfg : Config}

theorem follows_dial {dialInfo : Dial} : (dial slotId serial dialInfo).Follows .idle := by
  refine follows_withRequest fun pRI => follows_withCopy fun address => ?_
  split
  · exact follows_onRequest (by decide)
  · split
    · exact follows_onRequest (by decide)
    · exact follows_withCopy fun _ => follows_onRequest (by decide)

theorem follows_refuse {err : ℤ} : (refuse serial slotId request err).Follows .idle :=
  follows_withRequest fun _ => follows_sendErrorResponse

/-- The methods that do not test whether the request was accepted: `sendErrorResponse` stops the
process if it was not. -/
theorem follows_addAndRefuse {err : ℤ} :
    (addRequestToList serial slotId request >>= fun pRI => sendErrorResponse pRI err).Follows
      .idle := by
  refine ⟨trivial, fun pRI g hg => ?_⟩
  subst hg
  cases pRI with
  | none => exact ⟨trivial, fun _ g hg => hg⟩
  | some pRI => exact follows_sendErrorResponse

theorem follows_withRilRadioTechnology {technology : ℤ} {body : List UInt8 → Entry Unit}
    (hbody : ∀ s, (body s).Follows .idle) :
    (withRilRadioTechnology technology body).Follows .idle := by
  unfold withRilRadioTechnology
  split
  · exact ⟨trivial, fun r => nomatch r⟩
  · exact hbody _

theorem follows_setupDataCall {technology : ℤ} {info : DataProfileInfo}
    {cognitive allowed roaming : Bool} :
    (setupDataCall cfg slotId serial technology info cognitive allowed roaming).Follows .idle := by
  unfold setupDataCall
  split
  · exact follows_withRilRadioTechnology fun _ => follows_dispatchStrings
  · split
    · split
      · exact follows_refuse
      · exact follows_withRilRadioTechnology fun _ => follows_dispatchStrings
    · exact follows_refuse

theorem follows_startNetworkScan {scan : NetworkScanRequest} :
    (startNetworkScan slotId serial scan).Follows .idle := by
  refine follows_withRequest fun pRI => ?_
  split
  · exact follows_sendErrorResponse
  · split
    · exact follows_sendErrorResponse
    · exact follows_onRequest (by decide)

theorem follows_setInitialAttachApn {info : DataProfileInfo} {cognitive roaming : Bool} :
    (setInitialAttachApn cfg slotId serial info cognitive roaming).Follows .idle := by
  refine follows_withRequest fun pRI => follows_withCopy fun apn => ?_
  split
  · refine follows_withCopy fun _ => follows_withCopy fun _ => follows_withCopy fun _ => ?_
    exact follows_onRequest (by decide)
  · refine follows_withCopy fun _ => follows_withCopy fun _ => follows_withCopy fun _ =>
      follows_withCopy fun _ => ?_
    split
    · exact follows_sendErrorResponse
    · exact follows_withCopy fun _ => follows_onRequest (by decide)

theorem follows_dispatchImsGsmSms (hrequest : request ≠ Request.setNetworkSelectionManual)
    {message : ImsSmsMessage} :
    (dispatchImsGsmSms message pRI).Follows (.accepted pRI request) := by
  unfold dispatchImsGsmSms
  split
  · exact follows_withCalloc
      (follows_withCopy fun _ => follows_withCopy fun _ => follows_onOwnSocket hrequest)
  · exact follows_sendErrorResponse

theorem follows_dispatchImsCdmaSms (hrequest : request ≠ Request.setNetworkSelectionManual)
    {message : ImsSmsMessage} :
    (dispatchImsCdmaSms message pRI).Follows (.accepted pRI request) := by
  unfold dispatchImsCdmaSms
  split
  · exact follows_onOwnSocket hrequest
  · exact follows_sendErrorResponse

theorem follows_sendImsSms {message : ImsSmsMessage} :
    (sendImsSms slotId serial message).Follows .idle := by
  refine follows_withRequest fun pRI => ?_
  split
  · exact follows_dispatchImsGsmSms (by decide)
  · split
    · exact follows_dispatchImsCdmaSms (by decide)
    · exact follows_sendErrorResponse

theorem follows_iccOpenLogicalChannel {aid : HidlString} {p2 : ℤ} :
    (iccOpenLogicalChannel cfg slotId serial aid p2).Follows .idle := by
  unfold iccOpenLogicalChannel
  split
  · exact follows_dispatchString (by decide)
  · exact follows_withRequest fun _ => follows_withCopy fun _ => follows_onOwnRequest (by decide)

/-- One profile: its copies and, for a new vendor, its type. -/
theorem follows_rilDataProfile {roaming : Bool} {profile : DataProfileInfo}
    {body : RilDataProfileInfo → Entry Unit}
    (hbody : ∀ d, (body d).Follows (.accepted pRI request)) :
    (rilDataProfile cfg pRI roaming profile body).Follows (.accepted pRI request) := by
  refine follows_withCopy fun apn => ?_
  split
  · exact follows_withCopy fun _ => follows_withCopy fun _ => follows_withCopy fun _ => hbody _
  · refine follows_withCopy fun _ => follows_withCopy fun _ => follows_withCopy fun _ =>
      follows_withCopy fun _ => follows_withCopy fun _ => ?_
    split
    · exact follows_sendErrorResponse
    · exact hbody _

theorem follows_rilDataProfiles {roaming : Bool} {profiles : List DataProfileInfo}
    {body : List RilDataProfileInfo → Entry Unit}
    (hbody : ∀ ds, (body ds).Follows (.accepted pRI request)) :
    (rilDataProfiles cfg pRI roaming profiles body).Follows (.accepted pRI request) := by
  induction profiles generalizing body with
  | nil => exact hbody []
  | cons profile profiles ih =>
    exact follows_rilDataProfile fun d => ih fun ds => hbody (d :: ds)

theorem follows_sendDeviceState {type : DeviceStateType} {state : Bool} :
    (sendDeviceState cfg slotId serial type state).Follows .idle := by
  unfold sendDeviceState
  split
  · split
    · exact follows_dispatchInts (by decide)
    · exact follows_addAndRefuse
  · exact follows_dispatchInts (by decide)

theorem follows_setIndicationFilter {filter : ℤ} :
    (setIndicationFilter cfg slotId serial filter).Follows .idle := by
  unfold setIndicationFilter
  split
  · exact follows_addAndRefuse
  · exact follows_dispatchInts (by decide)

theorem follows_startKeepalive {keepalive : KeepaliveRequest} :
    (startKeepalive slotId serial keepalive).Follows .idle := by
  refine follows_withRequest fun pRI => ?_
  split
  · exact follows_sendErrorResponse
  · exact follows_onOwnRequest (by decide)

end Methods

end Entry

/-- **Every entry point obeys the protocol**: it deals with at most one request, which it either
answers itself or hands to the vendor, never both, except for the fake success of a manual network
selection. -/
theorem RequestMethod.follows {cfg : Config} {slotId : ℤ} {p : Entry Unit}
    (h : RequestMethod cfg slotId p) : p.Follows .idle := by
  -- one case for each method of the service, each by the helper it calls
  cases h with
  | dial => exact Entry.follows_dial
  | setupDataCall => exact Entry.follows_setupDataCall
  | startNetworkScan => exact Entry.follows_startNetworkScan
  | setInitialAttachApn => exact Entry.follows_setInitialAttachApn
  | sendImsSms => exact Entry.follows_sendImsSms
  | iccOpenLogicalChannel => exact Entry.follows_iccOpenLogicalChannel
  -- the methods below copy their strings first, and every failure is answered
  | setDataProfile =>
    exact Entry.follows_withRequest fun _ => Entry.follows_withCalloc (Entry.follows_withCalloc
      (Entry.follows_rilDataProfiles fun _ => Entry.follows_onRequest (by decide)))
  | setAllowedCarriers =>
    exact Entry.follows_withRequest fun _ => Entry.follows_withCalloc (Entry.follows_withCalloc
      (Entry.follows_onOwnRequest (by decide)))
  | sendDeviceState => exact Entry.follows_sendDeviceState
  | setIndicationFilter => exact Entry.follows_setIndicationFilter
  | startKeepalive => exact Entry.follows_startKeepalive
  | responseAcknowledgement => exact ⟨trivial, fun _ g hg => hg⟩
  | iccIOForApp =>
    exact Entry.follows_withRequest fun _ => Entry.follows_withCopy fun _ =>
      Entry.follows_withCopy fun _ => Entry.follows_withCopy fun _ =>
        Entry.follows_withCopy fun _ => Entry.follows_onRequest (by decide)
  | writeSmsToSim =>
    exact Entry.follows_withRequest fun _ => Entry.follows_withCopy fun _ =>
      Entry.follows_withCopy fun _ => Entry.follows_onRequest (by decide)
  | requestIccSimAuthentication =>
    exact Entry.follows_withRequest fun _ => Entry.follows_withCopy fun _ =>
      Entry.follows_withCopy fun _ => Entry.follows_onOwnRequest (by decide)
  | setCarrierInfoForImsiEncryption =>
    exact Entry.follows_withRequest fun _ => Entry.follows_withCopy fun _ =>
      Entry.follows_withCopy fun _ => Entry.follows_withCopy fun _ =>
        Entry.follows_onOwnRequest (by decide)
  | nvWriteItem =>
    exact Entry.follows_withRequest fun _ => Entry.follows_withCopy fun _ =>
      Entry.follows_onOwnRequest (by decide)
  | _ =>
    -- one dispatch helper, or one payload without strings
    first
    | with_reducible apply Entry.follows_dispatchStrings
    | with_reducible apply Entry.follows_dispatchVoid
      decide
    | with_reducible apply Entry.follows_dispatchInts
      decide
    | with_reducible apply Entry.follows_dispatchString
      decide
    | with_reducible apply Entry.follows_dispatchStringsVec
      decide
    | with_reducible apply Entry.follows_dispatchCallForwardStatus
      decide
    | with_reducible apply Entry.follows_dispatchRaw
      decide
    | with_reducible apply Entry.follows_dispatchIccApdu
      decide
    | exact Entry.follows_withRequest fun _ => Entry.follows_onOwnRequest (by decide)

end BlueCommon.Ril
