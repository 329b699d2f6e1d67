import Mathlib.Data.Int.Notation
import Mathlib.Data.Nat.Notation

/-!
# Arguments of the radio requests

The HIDL types that the methods of `IRadio` and `IOemHook` take, and the payloads that libril hands
to `onRequest` of the vendor. A `hidl_string` is a byte buffer whose `size()` is its length; bytes
after a NUL are not part of the string that `c_str()` shows. An enumeration that the code only casts
is an integer; one that it compares is an inductive type with a case for the values it does not
know.

Buffers that only live during one request (copies of strings, arrays of pointers) are values here:
the vendor reads them during `onRequest`, and they are freed afterwards.
-/

namespace BlueCommon.Ril

/-- `hidl_string`: the bytes of the buffer, NULs included. Its length is that of the buffer, not of
the string that C sees in it. -/
abbrev HidlString : Type := List UInt8

/-- The string that `c_str()` shows: the bytes before the first NUL, which is behind the buffer at
the latest. -/
def HidlString.cStr (s : HidlString) : List UInt8 := s.takeWhile (· ≠ 0)

/-- A `char *` that the vendor receives: `NULL` or the bytes before the terminating NUL. -/
abbrev CharPtr : Type := Option (List UInt8)

/-- `BOOL_TO_INT`. -/
def boolToInt (b : Bool) : ℤ := if b then 1 else 0

/-- The bytes of a string literal or of `std::to_string`. -/
def stringBytes (s : String) : List UInt8 := s.toUTF8.toList

/-- `std::to_string`. -/
def toStringBytes (n : ℤ) : List UInt8 := stringBytes (toString n)

/-! ### HIDL types -/

inductive MvnoType
  | none
  | imsi
  | gid
  | spn
  | other (value : ℤ)

inductive ResetNvType
  | reload
  | erase
  | factoryReset
  | other (value : ℤ)

inductive DeviceStateType
  | lowDataExpected
  | other (value : ℤ)

def DeviceStateType.toInt : DeviceStateType → ℤ
  | .lowDataExpected => 2
  | .other value => value

inductive RadioAccessNetworks
  | geran
  | utran
  | eutran
  | other (value : ℤ)

structure UusInfo where
  uusType : ℤ
  uusDcs : ℤ
  uusData : HidlString

structure Dial where
  address : HidlString
  clir : ℤ
  uusInfo : List UusInfo

structure GsmSmsMessage where
  smscPdu : HidlString
  pdu : HidlString

structure DataProfileInfo where
  profileId : ℤ
  apn : HidlString
  protocol : HidlString
  roamingProtocol : HidlString
  authType : ℤ
  user : HidlString
  password : HidlString
  type : ℤ
  maxConnsTime : ℤ
  maxConns : ℤ
  waitTime : ℤ
  enabled : Bool
  supportedApnTypesBitmap : ℤ
  bearerBitmap : ℤ
  mtu : ℤ
  mvnoType : MvnoType
  mvnoMatchData : HidlString

structure IccIo where
  command : ℤ
  fileId : ℤ
  path : HidlString
  p1 : ℤ
  p2 : ℤ
  p3 : ℤ
  data : HidlString
  pin2 : HidlString
  aid : HidlString

structure CallForwardInfo where
  status : ℤ
  reason : ℤ
  serviceClass : ℤ
  toa : ℤ
  number : HidlString
  timeSeconds : ℤ

structure RadioAccessSpecifier where
  radioAccessNetwork : RadioAccessNetworks
  geranBands : List ℤ
  utranBands : List ℤ
  eutranBands : List ℤ
  channels : List ℤ

structure NetworkScanRequest where
  type : ℤ
  interval : ℤ
  specifiers : List RadioAccessSpecifier

structure SmsWriteArgs where
  status : ℤ
  pdu : HidlString
  smsc : HidlString

structure CdmaSmsAddress where
  digitMode : ℤ
  numberMode : ℤ
  numberType : ℤ
  numberPlan : ℤ
  digits : List UInt8

structure CdmaSmsSubaddress where
  subaddressType : ℤ
  odd : Bool
  digits : List UInt8

structure CdmaSmsMessage where
  teleserviceId : ℤ
  isServicePresent : Bool
  serviceCategory : ℤ
  address : CdmaSmsAddress
  subAddress : CdmaSmsSubaddress
  bearerData : List UInt8

structure CdmaSmsAck where
  errorClass : ℤ
  smsCauseCode : ℤ

structure GsmBroadcastSmsConfigInfo where
  fromServiceId : ℤ
  toServiceId : ℤ
  fromCodeScheme : ℤ
  toCodeScheme : ℤ
  selected : Bool

structure CdmaBroadcastSmsConfigInfo where
  serviceCategory : ℤ
  language : ℤ
  selected : Bool

structure CdmaSmsWriteArgs where
  status : ℤ
  message : CdmaSmsMessage

structure ImsSmsMessage where
  tech : ℤ
  retry : Bool
  messageRef : ℤ
  cdmaMessage : List CdmaSmsMessage
  gsmMessage : List GsmSmsMessage

structure SimApdu where
  sessionId : ℤ
  cla : ℤ
  instruction : ℤ
  p1 : ℤ
  p2 : ℤ
  p3 : ℤ
  data : HidlString

structure NvWriteItem where
  itemId : ℤ
  value : HidlString

structure SelectUiccSub where
  slot : ℤ
  appIndex : ℤ
  subType : ℤ
  actStatus : ℤ

structure RadioCapability where
  session : ℤ
  phase : ℤ
  raf : ℤ
  logicalModemUuid : HidlString
  status : ℤ

structure Carrier where
  mcc : HidlString
  mnc : HidlString
  matchType : ℤ
  matchData : HidlString

structure CarrierRestrictions where
  allowedCarriers : List Carrier
  excludedCarriers : List Carrier

structure ImsiEncryptionInfo where
  mcc : HidlString
  mnc : HidlString
  carrierKey : List UInt8
  keyIdentifier : HidlString
  expirationTime : ℤ

structure KeepaliveRequest where
  type : ℤ
  sourceAddress : List UInt8
  sourcePort : ℤ
  destinationAddress : List UInt8
  destinationPort : ℤ
  maxKeepaliveIntervalMillis : ℤ
  cid : ℤ

/-! ### Payloads of `onRequest` -/

/-- `RIL_RadioAccessSpecifier`: the network, the bands of its own kind and the channels. -/
structure RilRadioAccessSpecifier where
  radioAccessNetwork : RadioAccessNetworks
  bands : List ℤ
  channels : List ℤ

/-- `RIL_DataProfileInfo` (`v15 = none`), or `RIL_DataProfileInfo_v15` with its further fields. -/
structure RilDataProfileInfo where
  profileId : ℤ
  apn : CharPtr
  protocol : CharPtr
  authType : ℤ
  user : CharPtr
  password : CharPtr
  type : ℤ
  maxConnsTime : ℤ
  maxConns : ℤ
  waitTime : ℤ
  enabled : ℤ
  v15 : Option (CharPtr × ℤ × ℤ × ℤ × CharPtr × CharPtr)

/-- `RIL_Carrier`: it points into the strings of the request. -/
structure RilCarrier where
  mcc : List UInt8
  mnc : List UInt8
  matchType : ℤ
  matchData : List UInt8

/-- What `onRequest` is given as data. A CDMA message stands for the record that `constructCdmaSms`
builds from it. -/
inductive RequestData
  | null
  | string (s : CharPtr)
  | strings (ss : List CharPtr)
  | ints (ns : List ℤ)
  | raw (bytes : List UInt8)
  | callForwardInfo (status reason serviceClass toa : ℤ) (number : CharPtr) (timeSeconds : ℤ)
  | simApdu (sessionid cla instruction p1 p2 p3 : ℤ) (data : CharPtr)
  | dial (address : CharPtr) (clir : ℤ) (uusInfo : Option (ℤ × ℤ × CharPtr × ℕ))
  | simIo (command fileid : ℤ) (path : CharPtr) (p1 p2 p3 : ℤ) (data pin2 aidPtr : CharPtr)
  | networkScan (type interval : ℤ) (specifiers : List RilRadioAccessSpecifier)
  | smsWriteArgs (status : ℤ) (pdu smsc : CharPtr)
  | cdmaSms (message : CdmaSmsMessage)
  | cdmaSmsAck (errorClass smsCauseCode : ℤ)
  | gsmBroadcastConfig (config : List GsmBroadcastSmsConfigInfo)
  | cdmaBroadcastConfig (config : List CdmaBroadcastSmsConfigInfo)
  | cdmaSmsWriteArgs (status : ℤ) (message : CdmaSmsMessage)
  | initialAttachApn (apn protocol : CharPtr) (authtype : ℤ) (username password : CharPtr)
  | initialAttachApnV15 (apn protocol roamingProtocol : CharPtr) (authtype : ℤ)
      (username password : CharPtr) (supportedTypesBitmask bearerBitmask modemCognitive mtu : ℤ)
      (mvnoType mvnoMatchData : CharPtr)
  | imsGsmSms (retry messageRef : ℤ) (smscPdu pdu : CharPtr)
  | imsCdmaSms (retry messageRef : ℤ) (message : CdmaSmsMessage)
  | openChannelParams (p2 : ℤ) (aidPtr : CharPtr)
  | nvReadItem (itemId : ℤ)
  | nvWriteItem (itemId : ℤ) (value : CharPtr)
  | selectUiccSub (slot appIndex subType actStatus : ℤ)
  | simAuthentication (authContext : ℤ) (authData aid : CharPtr)
  | dataProfiles (profiles : List RilDataProfileInfo)
  | radioCapability (session phase rat status : ℤ) (logicalModemUuid : List UInt8)
  | carrierRestrictions (allowedCarriers excludedCarriers : List RilCarrier)
  | imsiEncryption (mnc mcc keyIdentifier : CharPtr) (carrierKey : List UInt8) (expirationTime : ℤ)
  | keepalive (type : ℤ) (sourceAddress : List UInt8) (sourcePort : ℤ)
      (destinationAddress : List UInt8) (destinationPort maxKeepaliveIntervalMillis cid : ℤ)

end BlueCommon.Ril
