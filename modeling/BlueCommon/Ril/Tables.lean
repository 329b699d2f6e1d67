import Mathlib.Data.Int.Notation

/-!
# Constants and command tables of libril

The request and indication codes of `ril.h` that the code names, and the tables `s_commands`
(`ril_commands.h`) and `s_unsolResponses` (`ril_unsol_commands.h`). Index and request number agree
in both tables, so they are functions of the code. Of a response function the tables keep which
callback object of the client it goes through; the payload it decodes is not part of this
development.
-/

namespace BlueCommon.Ril

/-! ### `RIL_REQUEST_*` -/

namespace Request

def getSimStatus : ℤ := 1
def enterSimPin : ℤ := 2
def enterSimPuk : ℤ := 3
def enterSimPin2 : ℤ := 4
def enterSimPuk2 : ℤ := 5
def changeSimPin : ℤ := 6
def changeSimPin2 : ℤ := 7
def enterNetworkDepersonalization : ℤ := 8
def getCurrentCalls : ℤ := 9
def dial : ℤ := 10
def getImsi : ℤ := 11
def hangup : ℤ := 12
def hangupWaitingOrBackground : ℤ := 13
def hangupForegroundResumeBackground : ℤ := 14
def switchWaitingOrHoldingAndActive : ℤ := 15
def conference : ℤ := 16
def udub : ℤ := 17
def lastCallFailCause : ℤ := 18
def signalStrength : ℤ := 19
def voiceRegistrationState : ℤ := 20
def dataRegistrationState : ℤ := 21
def operator : ℤ := 22
def radioPower : ℤ := 23
def dtmf : ℤ := 24
def sendSms : ℤ := 25
def sendSmsExpectMore : ℤ := 26
def setupDataCall : ℤ := 27
def simIo : ℤ := 28
def sendUssd : ℤ := 29
def cancelUssd : ℤ := 30
def getClir : ℤ := 31
def setClir : ℤ := 32
def queryCallForwardStatus : ℤ := 33
def setCallForward : ℤ := 34
def queryCallWaiting : ℤ := 35
def setCallWaiting : ℤ := 36
def smsAcknowledge : ℤ := 37
def getImei : ℤ := 38
def getImeisv : ℤ := 39
def answer : ℤ := 40
def deactivateDataCall : ℤ := 41
def queryFacilityLock : ℤ := 42
def setFacilityLock : ℤ := 43
def changeBarringPassword : ℤ := 44
def queryNetworkSelectionMode : ℤ := 45
def setNetworkSelectionAutomatic : ℤ := 46
def setNetworkSelectionManual : ℤ := 47
def queryAvailableNetworks : ℤ := 48
def dtmfStart : ℤ := 49
def dtmfStop : ℤ := 50
def basebandVersion : ℤ := 51
def separateConnection : ℤ := 52
def setMute : ℤ := 53
def getMute : ℤ := 54
def queryClip : ℤ := 55
def lastDataCallFailCause : ℤ := 56
def dataCallList : ℤ := 57
def resetRadio : ℤ := 58
def oemHookRaw : ℤ := 59
def oemHookStrings : ℤ := 60
def screenState : ℤ := 61
def setSuppSvcNotification : ℤ := 62
def writeSmsToSim : ℤ := 63
def deleteSmsOnSim : ℤ := 64
def setBandMode : ℤ := 65
def queryAvailableBandMode : ℤ := 66
def stkGetProfile : ℤ := 67
def stkSetProfile : ℤ := 68
def stkSendEnvelopeCommand : ℤ := 69
def stkSendTerminalResponse : ℤ := 70
def stkHandleCallSetupRequestedFromSim : ℤ := 71
def explicitCallTransfer : ℤ := 72
def setPreferredNetworkType : ℤ := 73
def getPreferredNetworkType : ℤ := 74
def getNeighboringCellIds : ℤ := 75
def setLocationUpdates : ℤ := 76
def cdmaSetSubscriptionSource : ℤ := 77
def cdmaSetRoamingPreference : ℤ := 78
def cdmaQueryRoamingPreference : ℤ := 79
def setTtyMode : ℤ := 80
def queryTtyMode : ℤ := 81
def cdmaSetPreferredVoicePrivacyMode : ℤ := 82
def cdmaQueryPreferredVoicePrivacyMode : ℤ := 83
def cdmaFlash : ℤ := 84
def cdmaBurstDtmf : ℤ := 85
def cdmaValidateAndWriteAkey : ℤ := 86
def cdmaSendSms : ℤ := 87
def cdmaSmsAcknowledge : ℤ := 88
def gsmGetBroadcastSmsConfig : ℤ := 89
def gsmSetBroadcastSmsConfig : ℤ := 90
def gsmSmsBroadcastActivation : ℤ := 91
def cdmaGetBroadcastSmsConfig : ℤ := 92
def cdmaSetBroadcastSmsConfig : ℤ := 93
def cdmaSmsBroadcastActivation : ℤ := 94
def cdmaSubscription : ℤ := 95
def cdmaWriteSmsToRuim : ℤ := 96
def cdmaDeleteSmsOnRuim : ℤ := 97
def deviceIdentity : ℤ := 98
def exitEmergencyCallbackMode : ℤ := 99
def getSmscAddress : ℤ := 100
def setSmscAddress : ℤ := 101
def reportSmsMemoryStatus : ℤ := 102
def reportStkServiceIsRunning : ℤ := 103
def cdmaGetSubscriptionSource : ℤ := 104
def isimAuthentication : ℤ := 105
def acknowledgeIncomingGsmSmsWithPdu : ℤ := 106
def stkSendEnvelopeWithStatus : ℤ := 107
def voiceRadioTech : ℤ := 108
def getCellInfoList : ℤ := 109
def setUnsolCellInfoListRate : ℤ := 110
def setInitialAttachApn : ℤ := 111
def imsRegistrationState : ℤ := 112
def imsSendSms : ℤ := 113
def simTransmitApduBasic : ℤ := 114
def simOpenChannel : ℤ := 115
def simCloseChannel : ℤ := 116
def simTransmitApduChannel : ℤ := 117
def nvReadItem : ℤ := 118
def nvWriteItem : ℤ := 119
def nvWriteCdmaPrl : ℤ := 120
def nvResetConfig : ℤ := 121
def setUiccSubscription : ℤ := 122
def allowData : ℤ := 123
def getHardwareConfig : ℤ := 124
def simAuthentication : ℤ := 125
def getDcRtInfo : ℤ := 126
def setDcRtInfoRate : ℤ := 127
def setDataProfile : ℤ := 128
def shutdown : ℤ := 129
def getRadioCapability : ℤ := 130
def setRadioCapability : ℤ := 131
def startLce : ℤ := 132
def stopLce : ℤ := 133
def pullLcedata : ℤ := 134
def getActivityInfo : ℤ := 135
def setCarrierRestrictions : ℤ := 136
def getCarrierRestrictions : ℤ := 137
def sendDeviceState : ℤ := 138
def setUnsolicitedResponseFilter : ℤ := 139
def setSimCardPower : ℤ := 140
def setCarrierInfoImsiEncryption : ℤ := 141
def startNetworkScan : ℤ := 142
def stopNetworkScan : ℤ := 143
def startKeepalive : ℤ := 144
def stopKeepalive : ℤ := 145

end Request

/-! ### `RIL_UNSOL_*` -/

namespace Unsol

def responseBase : ℤ := 1000
def responseRadioStateChanged : ℤ := 1000
def onUssdRequest : ℤ := 1007
def nitzTimeReceived : ℤ := 1008
def signalStrength : ℤ := 1009
def oemHookRaw : ℤ := 1028
def rilConnected : ℤ := 1034
def dcRtInfoChanged : ℤ := 1041
def carrierInfoImsiEncryption : ℤ := 1048
def networkScanResult : ℤ := 1049
def keepaliveStatus : ℤ := 1050

end Unsol

/-! ### `RIL_Errno`, response types -/

namespace Errno

def success : ℤ := 0
def requestNotSupported : ℤ := 6
def noMemory : ℤ := 37
def internalErr : ℤ := 38
def invalidArguments : ℤ := 44

end Errno

/-- The `RESPONSE_*` types of a message to the client; the first is also
`RadioResponseType::SOLICITED`. -/
inductive ResponseType
  | solicited
  | solicitedAckExp
  | unsolicited
  | unsolicitedAckExp
  deriving DecidableEq, Repr

/-! ### `s_commands` -/

/-- `NUM_ELEMS(s_commands)`: requests from this number on are unknown. -/
def numCommands : ℤ := 146

/-- How a function of `ril_service.cpp` that answers a request reaches the client: through
`mRadioResponse`, through `mRadioResponseV1_1`, through either (`setSimCardPowerResponse`), or
through the OEM hook. -/
inductive ResponseFunction
  | radio
  | radioV1_1
  | setSimCardPower
  | oemHook
  deriving DecidableEq, Repr

/-- The requests whose entry in `s_commands` has no response function. -/
def noResponseFunction : List ℤ :=
  [0, Request.getImei, Request.getImeisv, Request.lastDataCallFailCause, Request.resetRadio,
    Request.stkGetProfile, Request.stkSetProfile, Request.cdmaValidateAndWriteAkey,
    Request.getDcRtInfo, Request.setDcRtInfoRate]

/-- `s_commands[request].responseFunction`; `none` is `NULL`. -/
def responseFunction (request : ℤ) : Option ResponseFunction :=
  if request ∈ noResponseFunction then none
  else if request ∈ [Request.setCarrierInfoImsiEncryption, Request.startNetworkScan,
      Request.stopNetworkScan, Request.startKeepalive, Request.stopKeepalive] then some .radioV1_1
  else if request = Request.setSimCardPower then some .setSimCardPower
  else if request ∈ [Request.oemHookRaw, Request.oemHookStrings] then some .oemHook
  else if 0 ≤ request ∧ request < numCommands then some .radio
  else none

/-! ### `s_unsolResponses` -/

/-- `NUM_ELEMS(s_unsolResponses)`: indications from this number on are unknown. -/
def numUnsolResponses : ℤ := 51

/-- How an indication function reaches the client: through `mRadioIndication`, through
`mRadioIndicationV1_1`, through a cast of `mRadioIndication` (`keepaliveStatusInd`), through the OEM
hook, or as `nitzTimeReceivedInd` does. -/
inductive IndicationFunction
  | radio
  | radioV1_1
  | keepaliveStatus
  | oemHook
  | nitzTimeReceived
  deriving DecidableEq, Repr

/-- `s_unsolResponses[…].responseFunction`; `none` is `NULL`. -/
def indicationFunction (unsolResponse : ℤ) : Option IndicationFunction :=
  if unsolResponse = Unsol.dcRtInfoChanged then none
  else if unsolResponse = Unsol.nitzTimeReceived then some .nitzTimeReceived
  else if unsolResponse = Unsol.oemHookRaw then some .oemHook
  else if unsolResponse = Unsol.keepaliveStatus then some .keepaliveStatus
  else if unsolResponse ∈ [Unsol.carrierInfoImsiEncryption, Unsol.networkScanResult] then
    some .radioV1_1
  else some .radio

/-- `s_unsolResponses[…].wakeType == WAKE_PARTIAL`: for all but two of the indications the device is
kept awake. -/
def wakePartial (unsolResponse : ℤ) : Bool :=
  unsolResponse ∉ [Unsol.onUssdRequest, Unsol.signalStrength]

end BlueCommon.Ril
