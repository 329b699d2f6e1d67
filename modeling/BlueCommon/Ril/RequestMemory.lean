import BlueCommon.Lib.HeapPrograms
import BlueCommon.Ril.EntryPoints
import Mathlib.Data.List.GetD
import Mathlib.Data.Multiset.Bind

/-!
# The memory of the request methods

The request methods copy their strings into memory that the vendor reads, and free it when the
vendor returns. `RadioImpl` has the methods without that memory; here they are with it, call by
call, with the clean-up of each exit as the source has it. An array of pointers is a block, and its
entries are values.

* `copyHidlStringToRil`, `memsetAndFreeStrings`, the helpers and the methods that allocate something
  themselves. `MemoryMethod` has all of them, and those that allocate nothing.
* `hasMemory_of_requestMethod`: every method of `EntryPoints` is one of them without its memory.
* `MemoryMethod.balanced`: each of them frees exactly what it allocated, on every exit, and hands
  the vendor only what is live. `setCarrierInfoForImsiEncryption` is the exception.
* `request_memory_runs`: every run of a request method is such a run.
* `setCarrierInfoForImsiEncryption_leaks`: which blocks the exception loses, and when.
-/

namespace BlueCommon.Ril

open Interaction Program HeapProgram

/-- A request method with its memory. -/
abbrev HeapEntry (α : Type) : Type := HeapProgram entrySignature α

/-- A `char *` of a method: what it points to, and the block that it owns. -/
structure OwnedStr where
  chars : CharPtr
  block : Option ℕ

/-- A `char *` that is `NULL`. -/
def OwnedStr.null : OwnedStr := ⟨none, none⟩

namespace Memory

/-! ### Helpers -/

/-- The blocks that the pointers own. A null pointer owns none. -/
def blocks (ptrs : List OwnedStr) : List ℕ := ptrs.filterMap OwnedStr.block

/-- `memsetAndFreeStrings`, which overwrites the strings before it frees them, as there are PINs
among them. -/
def memsetAndFreeStrings (ptrs : List OwnedStr) : HeapEntry Unit := freeAll (blocks ptrs)

abbrev sendErrorResponse (pRI : Addr) (err : ℤ) : HeapEntry Unit :=
  call (S := entrySignature) (.sendErrorResponse (some pRI) err) []

/-- `CALL_ONREQUEST`, with the blocks that the vendor reads. -/
abbrev onRequest (request : ℤ) (data : RequestData) (pRI : Addr) (slotId : ℤ) (uses : List ℕ) :
    HeapEntry Unit :=
  call (S := entrySignature) (.onRequest request data pRI slotId) uses

/-- `CALL_ONREQUEST(pRI->pCI->requestNumber, …)`; `socket` says whether the slot is that of the
request. -/
def onOwnRequest (data : RequestData) (pRI : Addr) (slotId : RequestInfo → ℤ) (uses : List ℕ) :
    HeapEntry Unit := do
  let info ← call (S := entrySignature) (.loadRequestInfo pRI) []
  match info.pCI with
  | none => lift Entry.abort
  | some requestNumber => onRequest requestNumber data pRI (slotId info) uses

/-- `RequestInfo *pRI = addRequestToList(…); if (pRI == NULL) return; …`. The request is freed by
libril when it is answered, so it is not among the blocks here. -/
def withRequest (serial slotId request : ℤ) (body : Addr → HeapEntry Unit) : HeapEntry Unit := do
  match ← call (S := entrySignature) (.addRequestToList serial slotId request) [] with
  | none => pure ()
  | some pRI => body pRI

/-- `copyHidlStringToRil`: `none` for `false`. -/
def copyHidlStringToRil (src : HidlString) (pRI : Addr) (allowEmpty : Bool) :
    HeapEntry (Option OwnedStr) :=
  if src.length = 0 ∧ allowEmpty = false then pure (some .null)
  else do
    match ← alloc with
    | none => do
      sendErrorResponse pRI Errno.noMemory
      pure none
    | some dest =>
      if src.cStr.length ≥ src.length + 1 then do
        free dest
        sendErrorResponse pRI Errno.internalErr
        pure none
      else pure (some ⟨some src.cStr, some dest⟩)

/-- `if (!copyHidlStringToRil(&dest, src, pRI, allowEmpty)) { cleanup; return; } …`, where the
cleanup frees what was allocated before. -/
def withCopy (src : HidlString) (pRI : Addr) (allowEmpty : Bool) (cleanup : HeapEntry Unit)
    (body : OwnedStr → HeapEntry Unit) : HeapEntry Unit := do
  match ← copyHidlStringToRil src pRI allowEmpty with
  | none => cleanup
  | some dest => body dest

/-- `if (calloc(…) == NULL) { cleanup; sendErrorResponse(pRI, RIL_E_NO_MEMORY); return; } …`, where
the cleanup frees what was allocated before. -/
def withCalloc (pRI : Addr) (cleanup : HeapEntry Unit) (body : ℕ → HeapEntry Unit) :
    HeapEntry Unit := do
  match ← alloc with
  | none => do
    cleanup
    sendErrorResponse pRI Errno.noMemory
  | some block => body block

/-- The loop that copies strings into the array `pStrings`; when a copy fails, the strings so far
and the array are freed. -/
def copyStrings (pRI : Addr) (allowEmpty : Bool) (pStrings : ℕ) :
    List OwnedStr → List HidlString → HeapEntry (Option (List OwnedStr))
  | copies, [] => pure (some copies)
  | copies, str :: strs => do
    match ← copyHidlStringToRil str pRI allowEmpty with
    | none => do
      memsetAndFreeStrings copies
      free pStrings
      pure none
    | some dest => copyStrings pRI allowEmpty pStrings (copies ++ [dest]) strs

/-- `dispatchString`: the copy is freed when the vendor has returned. -/
def dispatchString (serial slotId request : ℤ) (str : HidlString) : HeapEntry Unit :=
  withRequest serial slotId request fun pRI =>
    withCopy str.cStr pRI false (pure ()) fun pString => do
      onRequest request (.string pString.chars) pRI slotId (blocks [pString])
      memsetAndFreeStrings [pString]

/-- The variadic `dispatchStrings`. The copies and the array are freed before the fake success, so
that nothing is used after it. -/
def dispatchStrings (serial slotId request : ℤ) (allowEmpty : Bool) (strs : List HidlString) :
    HeapEntry Unit :=
  withRequest serial slotId request fun pRI =>
    withCalloc pRI (pure ()) fun pStrings => do
      match ← copyStrings pRI allowEmpty pStrings [] (strs.map HidlString.cStr) with
      | none => pure ()
      | some copies => do
        onRequest request (.strings (copies.map OwnedStr.chars)) pRI slotId
          (pStrings :: blocks copies)
        memsetAndFreeStrings copies
        free pStrings
        if request = Request.setNetworkSelectionManual then
          call (S := entrySignature) (.onRequestComplete pRI Errno.success) []
        else pure ()

/-- `dispatchStrings` on a vector: the copies are freed, and then the array of pointers. -/
def dispatchStringsVec (serial slotId request : ℤ) (data : List HidlString) : HeapEntry Unit :=
  withRequest serial slotId request fun pRI =>
    withCalloc pRI (pure ()) fun pStrings => do
      match ← copyStrings pRI false pStrings [] data with
      | none => pure ()
      | some copies => do
        onRequest request (.strings (copies.map OwnedStr.chars)) pRI slotId
          (pStrings :: blocks copies)
        memsetAndFreeStrings copies
        free pStrings

/-- `dispatchInts`: the array is freed when the vendor has returned. -/
def dispatchInts (serial slotId request : ℤ) (ints : List ℤ) : HeapEntry Unit :=
  withRequest serial slotId request fun pRI =>
    withCalloc pRI (pure ()) fun pInts => do
      onRequest request (.ints ints) pRI slotId [pInts]
      free pInts

/-- `dispatchCallForwardStatus`: the record is on the stack, and only its string is freed. -/
def dispatchCallForwardStatus (serial slotId request : ℤ) (callInfo : CallForwardInfo) :
    HeapEntry Unit :=
  withRequest serial slotId request fun pRI =>
    withCopy callInfo.number pRI false (pure ()) fun number => do
      onRequest request (.callForwardInfo callInfo.status callInfo.reason callInfo.serviceClass
        callInfo.toa number.chars callInfo.timeSeconds) pRI slotId (blocks [number])
      memsetAndFreeStrings [number]

/-- `dispatchIccApdu`: the record is on the stack, and only its string is freed. -/
def dispatchIccApdu (serial slotId request : ℤ) (message : SimApdu) : HeapEntry Unit :=
  withRequest serial slotId request fun pRI =>
    withCopy message.data pRI false (pure ()) fun data => do
      onRequest request (.simApdu message.sessionId message.cla message.instruction message.p1
        message.p2 message.p3 data.chars) pRI slotId (blocks [data])
      memsetAndFreeStrings [data]

/-! ### Methods -/

def dial (slotId serial : ℤ) (dialInfo : Dial) : HeapEntry Unit :=
  withRequest serial slotId Request.dial fun pRI =>
    withCopy dialInfo.address pRI false (pure ()) fun address =>
      match dialInfo.uusInfo with
      | [] => do
        onRequest Request.dial (.dial address.chars dialInfo.clir none) pRI slotId
          (blocks [address, .null])
        memsetAndFreeStrings [address, .null]
      | uus :: _ =>
        if uus.uusData.length = 0 then do
          onRequest Request.dial
            (.dial address.chars dialInfo.clir (some (uus.uusType, uus.uusDcs, none, 0))) pRI slotId
            (blocks [address, .null])
          memsetAndFreeStrings [address, .null]
        else
          withCopy uus.uusData pRI false (memsetAndFreeStrings [address]) fun uusData => do
            onRequest Request.dial (.dial address.chars dialInfo.clir
              (some (uus.uusType, uus.uusDcs, uusData.chars, uus.uusData.length))) pRI slotId
              (blocks [address, uusData])
            memsetAndFreeStrings [address, uusData]

def iccIOForApp (slotId serial : ℤ) (iccIo : IccIo) : HeapEntry Unit :=
  withRequest serial slotId Request.simIo fun pRI =>
    withCopy iccIo.path pRI false (pure ()) fun path =>
    withCopy iccIo.data pRI false (memsetAndFreeStrings [path]) fun data =>
    withCopy iccIo.pin2 pRI false (memsetAndFreeStrings [path, data]) fun pin2 =>
    withCopy iccIo.aid pRI false (memsetAndFreeStrings [path, data, pin2]) fun aidPtr => do
      onRequest Request.simIo (.simIo iccIo.command iccIo.fileId path.chars iccIo.p1 iccIo.p2
        iccIo.p3 data.chars pin2.chars aidPtr.chars) pRI slotId (blocks [path, data, pin2, aidPtr])
      memsetAndFreeStrings [path, data, pin2, aidPtr]

/-- The strings are freed in the other order. -/
def writeSmsToSim (slotId serial : ℤ) (smsWriteArgs : SmsWriteArgs) : HeapEntry Unit :=
  withRequest serial slotId Request.writeSmsToSim fun pRI =>
    withCopy smsWriteArgs.pdu pRI false (pure ()) fun pdu =>
    withCopy smsWriteArgs.smsc pRI false (memsetAndFreeStrings [pdu]) fun smsc => do
      onRequest Request.writeSmsToSim (.smsWriteArgs smsWriteArgs.status pdu.chars smsc.chars) pRI
        slotId (blocks [pdu, smsc])
      memsetAndFreeStrings [smsc, pdu]

def setInitialAttachApn (cfg : Config) (slotId serial : ℤ) (dataProfileInfo : DataProfileInfo)
    (modemCognitive isRoaming : Bool) : HeapEntry Unit :=
  withRequest serial slotId Request.setInitialAttachApn fun pRI =>
    withCopy dataProfileInfo.apn pRI true (pure ()) fun apn =>
      if cfg.version ≤ 14 then
        withCopy (if isRoaming then dataProfileInfo.roamingProtocol else dataProfileInfo.protocol)
          pRI false (memsetAndFreeStrings [apn]) fun protocol =>
        withCopy dataProfileInfo.user pRI false (memsetAndFreeStrings [apn, protocol])
          fun username =>
        withCopy dataProfileInfo.password pRI false
          (memsetAndFreeStrings [apn, protocol, username]) fun password => do
        onRequest Request.setInitialAttachApn
          (.initialAttachApn apn.chars protocol.chars dataProfileInfo.authType username.chars
            password.chars) pRI slotId (blocks [apn, protocol, username, password])
        memsetAndFreeStrings [apn, protocol, username, password]
      else
        withCopy dataProfileInfo.protocol pRI false (memsetAndFreeStrings [apn]) fun protocol =>
        withCopy dataProfileInfo.roamingProtocol pRI false (memsetAndFreeStrings [apn, protocol])
          fun roamingProtocol =>
        withCopy dataProfileInfo.user pRI false
          (memsetAndFreeStrings [apn, protocol, roamingProtocol]) fun username =>
        withCopy dataProfileInfo.password pRI false
          (memsetAndFreeStrings [apn, protocol, roamingProtocol, username]) fun password =>
        match Entry.convertMvnoTypeToString dataProfileInfo.mvnoType with
        | none => do
          sendErrorResponse pRI Errno.invalidArguments
          memsetAndFreeStrings [apn, protocol, roamingProtocol, username, password]
        | some mvnoType =>
          withCopy dataProfileInfo.mvnoMatchData pRI false
            (memsetAndFreeStrings [apn, protocol, roamingProtocol, username, password])
            fun mvnoMatchData => do
          onRequest Request.setInitialAttachApn
            (.initialAttachApnV15 apn.chars protocol.chars roamingProtocol.chars
              dataProfileInfo.authType username.chars password.chars
              dataProfileInfo.supportedApnTypesBitmap dataProfileInfo.bearerBitmap
              (boolToInt modemCognitive) dataProfileInfo.mtu (some mvnoType) mvnoMatchData.chars)
            pRI slotId
            (blocks [apn, protocol, roamingProtocol, username, password, mvnoMatchData])
          memsetAndFreeStrings [apn, protocol, roamingProtocol, username, password, mvnoMatchData]

/-- `dispatchImsGsmSms`: an array and the two strings in it, freed in each of the exits that come
after their allocation. -/
def dispatchImsGsmSms (message : ImsSmsMessage) (pRI : Addr) : HeapEntry Unit :=
  match message.gsmMessage with
  | [gsmMessage] =>
    withCalloc pRI (pure ()) fun pStrings =>
      withCopy gsmMessage.smscPdu pRI false (free pStrings) fun smscPdu =>
      withCopy gsmMessage.pdu pRI false (do
        memsetAndFreeStrings [smscPdu]
        free pStrings) fun pdu => do
        onOwnRequest (.imsGsmSms (boolToInt message.retry) message.messageRef smscPdu.chars
          pdu.chars) pRI RequestInfo.socketId (pStrings :: blocks [smscPdu, pdu])
        memsetAndFreeStrings [smscPdu, pdu]
        free pStrings
  | _ => sendErrorResponse pRI Errno.invalidArguments

def sendImsSms (slotId serial : ℤ) (message : ImsSmsMessage) : HeapEntry Unit :=
  withRequest serial slotId Request.imsSendSms fun pRI =>
    if message.tech = Entry.radioTech3gpp then dispatchImsGsmSms message pRI
    else if message.tech = Entry.radioTech3gpp2 then lift (Entry.dispatchImsCdmaSms message pRI)
    else sendErrorResponse pRI Errno.invalidArguments

/-- `iccOpenLogicalChannel` from version 15 on. -/
def iccOpenLogicalChannel (slotId serial : ℤ) (aid : HidlString) (p2 : ℤ) : HeapEntry Unit :=
  withRequest serial slotId Request.simOpenChannel fun pRI =>
    withCopy aid pRI false (pure ()) fun aidPtr => do
      onOwnRequest (.openChannelParams p2 aidPtr.chars) pRI (fun _ => slotId) (blocks [aidPtr])
      memsetAndFreeStrings [aidPtr]

def nvWriteItem (slotId serial : ℤ) (item : NvWriteItem) : HeapEntry Unit :=
  withRequest serial slotId Request.nvWriteItem fun pRI =>
    withCopy item.value pRI false (pure ()) fun value => do
      onOwnRequest (.nvWriteItem item.itemId value.chars) pRI (fun _ => slotId) (blocks [value])
      memsetAndFreeStrings [value]

def requestIccSimAuthentication (slotId serial authContext : ℤ) (authData aid : HidlString) :
    HeapEntry Unit :=
  withRequest serial slotId Request.simAuthentication fun pRI =>
    withCopy authData pRI false (pure ()) fun rilAuthData =>
    withCopy aid pRI false (memsetAndFreeStrings [rilAuthData]) fun rilAid => do
      onOwnRequest (.simAuthentication authContext rilAuthData.chars rilAid.chars) pRI
        (fun _ => slotId) (blocks [rilAuthData, rilAid])
      memsetAndFreeStrings [rilAuthData, rilAid]

/-- The arrays of `setDataProfile`: how many profiles there are, and the two blocks. -/
structure ProfileArrays where
  num : ℕ
  dataProfiles : ℕ
  dataProfilePtrs : ℕ

/-- `freeSetDataProfileData`: field by field, the strings of all profiles. Those that were not
copied yet are `NULL`. -/
def freeSetDataProfileData (arrays : ProfileArrays) (numfields : ℕ) (rows : List (List OwnedStr)) :
    HeapEntry Unit := do
  memsetAndFreeStrings ((List.range numfields).flatMap fun i =>
    (List.range arrays.num).map fun j => (rows.getD j []).getD i .null)
  free arrays.dataProfiles
  free arrays.dataProfilePtrs

/-- `numfields` of the two versions. -/
def numfields (cfg : Config) : ℕ := if cfg.version ≤ 14 then 4 else 6

/-- One round of the loops of `setDataProfile`, with the strings of the rounds before. -/
def rilDataProfile (cfg : Config) (pRI : Addr) (isRoaming : Bool) (arrays : ProfileArrays)
    (rows : List (List OwnedStr)) (profile : DataProfileInfo)
    (body : List OwnedStr → RilDataProfileInfo → HeapEntry Unit) : HeapEntry Unit :=
  let cleanup (row : List OwnedStr) : HeapEntry Unit :=
    freeSetDataProfileData arrays (numfields cfg) (rows ++ [row])
  withCopy profile.apn pRI true (cleanup []) fun apn =>
    if cfg.version ≤ 14 then
      withCopy (if isRoaming then profile.roamingProtocol else profile.protocol) pRI true
        (cleanup [apn]) fun protocol =>
      withCopy profile.user pRI true (cleanup [apn, protocol]) fun user =>
      withCopy profile.password pRI true (cleanup [apn, protocol, user]) fun password =>
      body [apn, protocol, user, password] ⟨profile.profileId, apn.chars, protocol.chars,
        profile.authType, user.chars, password.chars, profile.type, profile.maxConnsTime,
        profile.maxConns, profile.waitTime, boolToInt profile.enabled, none⟩
    else
      withCopy profile.protocol pRI false (cleanup [apn]) fun protocol =>
      withCopy profile.roamingProtocol pRI true (cleanup [apn, protocol]) fun roamingProtocol =>
      withCopy profile.user pRI true (cleanup [apn, protocol, roamingProtocol]) fun user =>
      withCopy profile.password pRI true (cleanup [apn, protocol, roamingProtocol, user])
        fun password =>
      withCopy profile.mvnoMatchData pRI true
        (cleanup [apn, protocol, roamingProtocol, user, password]) fun mvnoMatchData =>
      match Entry.convertMvnoTypeToString profile.mvnoType with
      | none => do
        sendErrorResponse pRI Errno.invalidArguments
        cleanup [apn, protocol, roamingProtocol, user, password, mvnoMatchData]
      | some mvnoType =>
        body [apn, protocol, roamingProtocol, user, password, mvnoMatchData]
          ⟨profile.profileId, apn.chars, protocol.chars, profile.authType, user.chars,
            password.chars, profile.type, profile.maxConnsTime, profile.maxConns, profile.waitTime,
            boolToInt profile.enabled, some (roamingProtocol.chars,
              profile.supportedApnTypesBitmap, profile.bearerBitmap, profile.mtu, some mvnoType,
              mvnoMatchData.chars)⟩

/-- The loops of `setDataProfile`. -/
def rilDataProfiles (cfg : Config) (pRI : Addr) (isRoaming : Bool) (arrays : ProfileArrays) :
    List (List OwnedStr) → List DataProfileInfo →
      (List (List OwnedStr) → List RilDataProfileInfo → HeapEntry Unit) → HeapEntry Unit
  | rows, [], body => body rows []
  | rows, profile :: profiles, body =>
    rilDataProfile cfg pRI isRoaming arrays rows profile fun row dataProfile =>
      rilDataProfiles cfg pRI isRoaming arrays (rows ++ [row]) profiles fun rows dataProfiles =>
        body rows (dataProfile :: dataProfiles)

def setDataProfile (cfg : Config) (slotId serial : ℤ) (profiles : List DataProfileInfo)
    (isRoaming : Bool) : HeapEntry Unit :=
  withRequest serial slotId Request.setDataProfile fun pRI =>
    withCalloc pRI (pure ()) fun dataProfiles =>
    withCalloc pRI (free dataProfiles) fun dataProfilePtrs =>
      let arrays : ProfileArrays := ⟨profiles.length, dataProfiles, dataProfilePtrs⟩
      rilDataProfiles cfg pRI isRoaming arrays [] profiles fun rows data => do
        onRequest Request.setDataProfile (.dataProfiles data) pRI slotId
          (dataProfiles :: dataProfilePtrs :: blocks rows.flatten)
        freeSetDataProfileData arrays (numfields cfg) rows

/-- The error is sent before the first array is freed. -/
def setAllowedCarriers (slotId serial : ℤ) (carriers : CarrierRestrictions) : HeapEntry Unit :=
  withRequest serial slotId Request.setCarrierRestrictions fun pRI =>
    withCalloc pRI (pure ()) fun allowedCarriers => do
      match ← alloc with
      | none => do
        sendErrorResponse pRI Errno.noMemory
        free allowedCarriers
      | some excludedCarriers => do
        onOwnRequest (.carrierRestrictions (carriers.allowedCarriers.map Entry.rilCarrier)
          (carriers.excludedCarriers.map Entry.rilCarrier)) pRI (fun _ => slotId)
          [allowedCarriers, excludedCarriers]
        free allowedCarriers
        free excludedCarriers

/-- The strings are not freed when the vendor has them. The `delete` of an array of bytes is taken
as the `delete[]` that it should be. -/
def setCarrierInfoForImsiEncryption (slotId serial : ℤ) (data : ImsiEncryptionInfo) :
    HeapEntry Unit :=
  withRequest serial slotId Request.setCarrierInfoImsiEncryption fun pRI =>
    withCopy data.mnc pRI false (pure ()) fun mnc =>
    withCopy data.mcc pRI false (memsetAndFreeStrings [mnc]) fun mcc =>
    withCopy data.keyIdentifier pRI false (memsetAndFreeStrings [mnc, mcc]) fun keyIdentifier => do
      let carrierKey ← new
      onOwnRequest (.imsiEncryption mnc.chars mcc.chars keyIdentifier.chars data.carrierKey
        data.expirationTime) pRI (fun _ => slotId) (carrierKey :: blocks [mnc, mcc, keyIdentifier])
      free carrierKey

/-! ### Without the memory -/

/-- `q` is the program `p` without its memory: the same calls in the same order, and the results of
`calloc` are those of the allocations. -/
abbrev Without {α β : Type} (R : α → β → Prop) (p : HeapEntry α) (q : Entry β) : Prop :=
  Erases (S := entrySignature) .calloc id R p q

section Without

variable {α : Type} {cfg : Config} {pRI : Addr} {src : HidlString} {allowEmpty : Bool}
  {serial slotId request : ℤ} {cleanup : HeapEntry Unit} {bs : List ℕ}

theorem without_pure {a : α} : Without Eq (.ret a) (.ret a) := .ret rfl

theorem without_freeAll : Without Eq (freeAll bs) (.ret ()) := by
  induction bs with
  | nil => exact without_pure
  | cons b bs ih => exact .free ih

theorem without_ite {c : Prop} [Decidable c] {p p' : HeapEntry α} {q q' : Entry α}
    (h : Without Eq p q) (h' : Without Eq p' q') :
    Without Eq (if c then p else p') (if c then q else q') := by
  by_cases hc : c
  · rw [if_pos hc, if_pos hc]
    exact h
  · rw [if_neg hc, if_neg hc]
    exact h'

theorem without_copyHidlStringToRil :
    Without (fun dest chars => chars = dest.map OwnedStr.chars)
      (copyHidlStringToRil src pRI allowEmpty) (Entry.copyHidlStringToRil src pRI allowEmpty) := by
  unfold copyHidlStringToRil Entry.copyHidlStringToRil
  by_cases hempty : src.length = 0 ∧ allowEmpty = false
  · rw [if_pos hempty, if_pos hempty]
    exact .ret rfl
  · rw [if_neg hempty, if_neg hempty]
    refine .alloc (fun dest => ?_) (.call fun _ => .ret rfl)
    show Without _ (ite _ _ _) (ite _ _ _)
    by_cases htruncated : src.cStr.length ≥ src.length + 1
    · rw [if_pos htruncated, if_pos htruncated]
      exact .free (.call fun _ => .ret rfl)
    · rw [if_neg htruncated, if_neg htruncated]
      exact .ret rfl

theorem without_withRequest {body : Addr → HeapEntry Unit} {body' : Addr → Entry Unit}
    (hbody : ∀ pRI, Without Eq (body pRI) (body' pRI)) :
    Without Eq (withRequest serial slotId request body)
      (Entry.withRequest serial slotId request body') := by
  refine .call fun pRI => ?_
  cases pRI with
  | none => exact without_pure
  | some pRI => exact hbody pRI

theorem without_withCopy (hcleanup : Without Eq cleanup (.ret ()))
    {body : OwnedStr → HeapEntry Unit} {body' : CharPtr → Entry Unit}
    (hbody : ∀ dest, Without Eq (body dest) (body' dest.chars)) :
    Without Eq (withCopy src pRI allowEmpty cleanup body)
      (Entry.withCopy src pRI allowEmpty body') := by
  refine without_copyHidlStringToRil.bind fun dest chars heq => ?_
  subst heq
  cases dest with
  | none => exact hcleanup
  | some dest => exact hbody dest

theorem without_withCalloc (hcleanup : Without Eq cleanup (.ret ()))
    {body : ℕ → HeapEntry Unit} {body' : Entry Unit} (hbody : ∀ b, Without Eq (body b) body') :
    Without Eq (withCalloc pRI cleanup body) (Entry.withCalloc pRI body') := by
  refine .alloc hbody ?_
  show Without Eq (cleanup >>= fun _ => sendErrorResponse pRI Errno.noMemory)
    (.ret () >>= fun _ => Entry.sendErrorResponse (some pRI) Errno.noMemory)
  exact hcleanup.bind fun _ _ _ => .call fun _ => without_pure

/-- A call, and then only what leaves nothing. -/
theorem without_onRequest {data : RequestData} {uses : List ℕ} {rest : Unit → HeapEntry Unit}
    (hrest : Without Eq (rest ()) (.ret ())) :
    Without Eq (onRequest request data pRI slotId uses >>= rest)
      (Entry.onRequest request data pRI slotId) := .call fun _ => hrest

theorem without_onOwnRequest {data : RequestData} {uses : List ℕ} {rest : Unit → HeapEntry Unit}
    (hrest : Without Eq (rest ()) (.ret ())) :
    Without Eq (onOwnRequest data pRI (fun _ => slotId) uses >>= rest)
      (Entry.onOwnRequest data pRI slotId) := by
  refine .call fun info => ?_
  show Without Eq
    (Program.bind (match RequestInfo.pCI info with
      | none => lift Entry.abort
      | some requestNumber => onRequest requestNumber data pRI slotId uses) rest)
    (match RequestInfo.pCI info with
      | none => Entry.abort
      | some requestNumber => Entry.onRequest requestNumber data pRI slotId)
  cases RequestInfo.pCI info with
  | none => exact .call fun r => Empty.elim r
  | some requestNumber => exact .call fun _ => hrest

theorem without_onOwnSocket {data : RequestData} {uses : List ℕ} {rest : Unit → HeapEntry Unit}
    (hrest : Without Eq (rest ()) (.ret ())) :
    Without Eq (onOwnRequest data pRI RequestInfo.socketId uses >>= rest)
      (Entry.onOwnSocket data pRI) := by
  refine .call fun info => ?_
  show Without Eq
    (Program.bind (match RequestInfo.pCI info with
      | none => lift Entry.abort
      | some requestNumber =>
        onRequest requestNumber data pRI (RequestInfo.socketId info) uses) rest)
    (match RequestInfo.pCI info with
      | none => Entry.abort
      | some requestNumber => Entry.onRequest requestNumber data pRI (RequestInfo.socketId info))
  cases RequestInfo.pCI info with
  | none => exact .call fun r => Empty.elim r
  | some requestNumber => exact .call fun _ => hrest

/-- The loop with the copies so far, and the loop that returns those that follow. -/
theorem without_copyStrings (copies : List OwnedStr) {pStrings : ℕ} {strs : List HidlString} :
    Without (fun all rest => all.map (List.map OwnedStr.chars) =
        rest.map (copies.map OwnedStr.chars ++ ·))
      (copyStrings pRI allowEmpty pStrings copies strs)
      (Entry.copyStrings pRI allowEmpty strs) := by
  induction strs generalizing copies with
  -- no string left: the copies are all there
  | nil => exact .ret (congrArg some (List.append_nil _).symm)
  | cons str strs ih =>
    refine without_copyHidlStringToRil.bind fun dest chars heq => ?_
    subst heq
    cases dest with
    -- no memory for a copy: those made so far are freed, and the other program returns too
    | none => exact .freeAll_bind (.free (.ret rfl))
    | some dest =>
      refine (ih (copies ++ [dest])).map_right fun all rest h => ?_
      rw [h, Option.map_map]
      refine congrArg (fun f => rest.map f) (funext fun cs => ?_)
      rw [List.map_append, List.append_assoc]
      rfl

theorem without_copyStrings_bind {pStrings : ℕ} {strs : List HidlString}
    {body : List OwnedStr → HeapEntry Unit} {body' : List CharPtr → Entry Unit}
    (hbody : ∀ copies, Without Eq (body copies) (body' (copies.map OwnedStr.chars))) :
    Without Eq
      (copyStrings pRI allowEmpty pStrings [] strs >>= fun
        | none => pure ()
        | some copies => body copies)
      (Entry.copyStrings pRI allowEmpty strs >>= fun
        | none => pure ()
        | some copies => body' copies) := by
  -- the two programs make the same copies, and then run bodies that agree
  refine (without_copyStrings []).bind fun all rest h => ?_
  cases rest with
  | none =>
    -- the copying failed in both
    obtain rfl := Option.map_eq_none_iff.mp h
    exact without_pure
  | some rest =>
    -- both go on with the same strings
    obtain ⟨copies, rfl, heq⟩ := Option.map_eq_some_iff.mp h
    obtain rfl : copies.map OwnedStr.chars = rest := heq
    exact hbody copies

/-! ### The helpers and methods without their memory -/

theorem without_dispatchString {str : HidlString} :
    Without Eq (dispatchString serial slotId request str)
      (Entry.dispatchString serial slotId request str) :=
  without_withRequest fun _ => without_withCopy without_pure fun _ =>
    without_onRequest without_freeAll

theorem without_dispatchStrings {strs : List HidlString} :
    Without Eq (dispatchStrings serial slotId request allowEmpty strs)
      (Entry.dispatchStrings serial slotId request allowEmpty strs) := by
  refine without_withRequest fun pRI => without_withCalloc without_pure fun pStrings => ?_
  refine without_copyStrings_bind fun copies => .call fun _ => .freeAll_bind (.free ?_)
  exact without_ite (.call fun _ => without_pure) without_pure

theorem without_dispatchStringsVec {data : List HidlString} :
    Without Eq (dispatchStringsVec serial slotId request data)
      (Entry.dispatchStringsVec serial slotId request data) :=
  without_withRequest fun _ => without_withCalloc without_pure fun _ =>
    without_copyStrings_bind fun _ => .call fun _ => .freeAll_bind (.free without_pure)

theorem without_dispatchInts {ints : List ℤ} :
    Without Eq (dispatchInts serial slotId request ints)
      (Entry.dispatchInts serial slotId request ints) :=
  without_withRequest fun _ => without_withCalloc without_pure fun _ =>
    without_onRequest (.free without_pure)

theorem without_dispatchCallForwardStatus {callInfo : CallForwardInfo} :
    Without Eq (dispatchCallForwardStatus serial slotId request callInfo)
      (Entry.dispatchCallForwardStatus serial slotId request callInfo) :=
  without_withRequest fun _ => without_withCopy without_pure fun _ =>
    without_onRequest without_freeAll

theorem without_dispatchIccApdu {message : SimApdu} :
    Without Eq (dispatchIccApdu serial slotId request message)
      (Entry.dispatchIccApdu serial slotId request message) :=
  without_withRequest fun _ => without_withCopy without_pure fun _ =>
    without_onRequest without_freeAll

theorem without_dial {dialInfo : Dial} :
    Without Eq (dial slotId serial dialInfo) (Entry.dial slotId serial dialInfo) := by
  refine without_withRequest fun pRI => without_withCopy without_pure fun address => ?_
  cases dialInfo.uusInfo with
  | nil => exact without_onRequest without_freeAll
  | cons uus _ =>
    exact without_ite (without_onRequest without_freeAll)
      (without_withCopy without_freeAll fun _ => without_onRequest without_freeAll)

theorem without_iccIOForApp {iccIo : IccIo} :
    Without Eq (iccIOForApp slotId serial iccIo) (Entry.iccIOForApp slotId serial iccIo) :=
  without_withRequest fun _ => without_withCopy without_pure fun _ =>
    without_withCopy without_freeAll fun _ => without_withCopy without_freeAll fun _ =>
      without_withCopy without_freeAll fun _ => without_onRequest without_freeAll

theorem without_writeSmsToSim {smsWriteArgs : SmsWriteArgs} :
    Without Eq (writeSmsToSim slotId serial smsWriteArgs)
      (Entry.writeSmsToSim slotId serial smsWriteArgs) :=
  without_withRequest fun _ => without_withCopy without_pure fun _ =>
    without_withCopy without_freeAll fun _ => without_onRequest without_freeAll

theorem without_setInitialAttachApn {info : DataProfileInfo} {cognitive roaming : Bool} :
    Without Eq (setInitialAttachApn cfg slotId serial info cognitive roaming)
      (Entry.setInitialAttachApn cfg slotId serial info cognitive roaming) := by
  refine without_withRequest fun pRI => without_withCopy without_pure fun apn => ?_
  refine without_ite ?_ ?_
  · exact without_withCopy without_freeAll fun _ => without_withCopy without_freeAll fun _ =>
      without_withCopy without_freeAll fun _ => without_onRequest without_freeAll
  · refine without_withCopy without_freeAll fun _ => without_withCopy without_freeAll fun _ =>
      without_withCopy without_freeAll fun _ => without_withCopy without_freeAll fun _ => ?_
    cases Entry.convertMvnoTypeToString info.mvnoType with
    | none => exact .call fun _ => without_freeAll
    | some _ =>
      exact without_withCopy without_freeAll fun _ => without_onRequest without_freeAll

theorem without_dispatchImsGsmSms {message : ImsSmsMessage} :
    Without Eq (dispatchImsGsmSms message pRI) (Entry.dispatchImsGsmSms message pRI) := by
  unfold dispatchImsGsmSms Entry.dispatchImsGsmSms
  obtain _ | ⟨gsmMessage, _ | _⟩ := message.gsmMessage
  · exact .call fun _ => without_pure
  · exact without_withCalloc without_pure fun _ => without_withCopy (.free without_pure) fun _ =>
      without_withCopy (.freeAll_bind (.free without_pure)) fun _ =>
        without_onOwnSocket (.freeAll_bind (.free without_pure))
  · exact .call fun _ => without_pure

theorem without_sendImsSms {message : ImsSmsMessage} :
    Without Eq (sendImsSms slotId serial message) (Entry.sendImsSms slotId serial message) := by
  refine without_withRequest fun pRI => without_ite without_dispatchImsGsmSms ?_
  exact without_ite (erases_lift _) (.call fun _ => without_pure)

theorem without_iccOpenLogicalChannel (hversion : ¬cfg.version < 15) {aid : HidlString} {p2 : ℤ} :
    Without Eq (iccOpenLogicalChannel slotId serial aid p2)
      (Entry.iccOpenLogicalChannel cfg slotId serial aid p2) := by
  unfold Entry.iccOpenLogicalChannel
  rw [if_neg hversion]
  exact without_withRequest fun _ => without_withCopy without_pure fun _ =>
    without_onOwnRequest without_freeAll

theorem without_nvWriteItem {item : NvWriteItem} :
    Without Eq (nvWriteItem slotId serial item) (Entry.nvWriteItem slotId serial item) :=
  without_withRequest fun _ => without_withCopy without_pure fun _ =>
    without_onOwnRequest without_freeAll

theorem without_requestIccSimAuthentication {authContext : ℤ} {authData aid : HidlString} :
    Without Eq (requestIccSimAuthentication slotId serial authContext authData aid)
      (Entry.requestIccSimAuthentication slotId serial authContext authData aid) :=
  without_withRequest fun _ => without_withCopy without_pure fun _ =>
    without_withCopy without_freeAll fun _ => without_onOwnRequest without_freeAll

theorem without_freeSetDataProfileData {arrays : ProfileArrays} {n : ℕ}
    {rows : List (List OwnedStr)} :
    Without Eq (freeSetDataProfileData arrays n rows) (.ret ()) :=
  .freeAll_bind (.free (.free without_pure))

theorem without_rilDataProfile {roaming : Bool} {arrays : ProfileArrays}
    {rows : List (List OwnedStr)} {profile : DataProfileInfo}
    {body : List OwnedStr → RilDataProfileInfo → HeapEntry Unit}
    {body' : RilDataProfileInfo → Entry Unit}
    (hbody : ∀ row d, Without Eq (body row d) (body' d)) :
    Without Eq (rilDataProfile cfg pRI roaming arrays rows profile body)
      (Entry.rilDataProfile cfg pRI roaming profile body') := by
  refine without_withCopy without_freeSetDataProfileData fun apn => ?_
  -- the strings that an old radio takes, or those of a newer one
  refine without_ite ?_ ?_
  · exact without_withCopy without_freeSetDataProfileData fun _ =>
      without_withCopy without_freeSetDataProfileData fun _ =>
        without_withCopy without_freeSetDataProfileData fun _ => hbody _ _
  · refine without_withCopy without_freeSetDataProfileData fun _ =>
      without_withCopy without_freeSetDataProfileData fun _ =>
        without_withCopy without_freeSetDataProfileData fun _ =>
          without_withCopy without_freeSetDataProfileData fun _ =>
            without_withCopy without_freeSetDataProfileData fun _ => ?_
    -- the type that is looked up last may be unknown, and then all copies are freed
    cases Entry.convertMvnoTypeToString profile.mvnoType with
    | none => exact .call fun _ => without_freeSetDataProfileData
    | some _ => exact hbody _ _

theorem without_rilDataProfiles {roaming : Bool} {arrays : ProfileArrays}
    {rows : List (List OwnedStr)} {profiles : List DataProfileInfo}
    {body : List (List OwnedStr) → List RilDataProfileInfo → HeapEntry Unit}
    {body' : List RilDataProfileInfo → Entry Unit}
    (hbody : ∀ rows ds, Without Eq (body rows ds) (body' ds)) :
    Without Eq (rilDataProfiles cfg pRI roaming arrays rows profiles body)
      (Entry.rilDataProfiles cfg pRI roaming profiles body') := by
  induction profiles generalizing rows body body' with
  | nil => exact hbody _ _
  | cons profile profiles ih =>
    exact without_rilDataProfile fun _ d => ih fun rows ds => hbody rows (d :: ds)

theorem without_setDataProfile {profiles : List DataProfileInfo} {roaming : Bool} :
    Without Eq (setDataProfile cfg slotId serial profiles roaming)
      (Entry.setDataProfile cfg slotId serial profiles roaming) :=
  without_withRequest fun _ => without_withCalloc without_pure fun _ =>
    without_withCalloc (.free without_pure) fun _ => without_rilDataProfiles fun _ _ =>
      without_onRequest without_freeSetDataProfileData

theorem without_setAllowedCarriers {carriers : CarrierRestrictions} :
    Without Eq (setAllowedCarriers slotId serial carriers)
      (Entry.setAllowedCarriers slotId serial carriers) := by
  refine without_withRequest fun pRI => without_withCalloc without_pure fun allowed => ?_
  refine .alloc (fun excluded => ?_) (.call fun _ => .free without_pure)
  exact without_onOwnRequest (.free (.free without_pure))

theorem without_setCarrierInfoForImsiEncryption {data : ImsiEncryptionInfo} :
    Without Eq (setCarrierInfoForImsiEncryption slotId serial data)
      (Entry.setCarrierInfoForImsiEncryption slotId serial data) :=
  without_withRequest fun _ => without_withCopy without_pure fun _ =>
    without_withCopy without_freeAll fun _ => without_withCopy without_freeAll fun _ =>
      .new fun _ => without_onOwnRequest (.free without_pure)

end Without

/-! ### What is held -/

section Held

variable {cfg : Config} {base : Finset ℕ} {pRI : Addr} {src : HidlString} {allowEmpty : Bool}
  {serial slotId request : ℤ} {cleanup : HeapEntry Unit} {bs cs : List ℕ} {ptrs : List OwnedStr}

/-- From where the blocks `bs` are held the program keeps to the discipline, and where it returns
nothing is held. -/
abbrev Releases (base : Finset ℕ) (bs : List ℕ) (p : HeapEntry Unit) : Prop :=
  Leads heap (Held base bs) p fun _ => Held base []

theorem releases_pure : Releases base [] (.ret ()) := leads_ret

theorem releases_ite {c : Prop} [Decidable c] {p q : HeapEntry Unit} (hp : Releases base bs p)
    (hq : Releases base bs q) : Releases base bs (if c then p else q) := by
  by_cases hc : c
  · rw [if_pos hc]
    exact hp
  · rw [if_neg hc]
    exact hq

theorem releases_freeAll (h : cs.Perm bs) : Releases base cs (freeAll bs) :=
  leads_freeAll_perm (h.trans (by rw [List.append_nil]))

theorem releases_memsetAndFreeStrings : Releases base (blocks ptrs) (memsetAndFreeStrings ptrs) :=
  releases_freeAll (List.Perm.refl _)

/-- The strings are freed, and then the other blocks. -/
theorem releases_strings_bind {rest : Unit → HeapEntry Unit} (hrest : Releases base bs (rest ())) :
    Releases base (bs ++ blocks ptrs) (memsetAndFreeStrings ptrs >>= rest) :=
  (leads_freeAll_perm (List.perm_append_comm)).bind fun _ => hrest

theorem releases_free {b : ℕ} : Releases base [b] (free b) := leads_free

/-- A call with what is held, and then the rest. -/
theorem releases_call_bind {o : EntryOp} {uses : List ℕ} {rest : o.Res → HeapEntry Unit}
    (huses : uses ⊆ bs) (hrest : ∀ r, Releases base bs (rest r)) :
    Releases base bs (call (S := entrySignature) o uses >>= rest) :=
  (leads_call fun _ hb => huses hb).bind hrest

theorem releases_sendErrorResponse {err : ℤ} : Releases base [] (sendErrorResponse pRI err) :=
  leads_call fun _ hb => absurd hb List.not_mem_nil

theorem releases_onOwnRequest_bind {data : RequestData} {slot : RequestInfo → ℤ} {uses : List ℕ}
    {rest : Unit → HeapEntry Unit} (huses : uses ⊆ bs) (hrest : Releases base bs (rest ())) :
    Releases base bs (onOwnRequest data pRI slot uses >>= rest) := by
  refine Leads.bind (J := fun _ => Held base bs) ?_ fun _ => hrest
  refine Leads.bind (J := fun _ => Held base bs) (leads_call fun _ h => absurd h List.not_mem_nil)
    fun info => ?_
  show Leads heap _ (match RequestInfo.pCI info with
    | none => lift Entry.abort
    | some requestNumber => onRequest requestNumber data pRI (slot info) uses) _
  cases RequestInfo.pCI info with
  | none => exact fun g _ => ⟨fun _ h => absurd h List.not_mem_nil, fun r => Empty.elim r⟩
  | some requestNumber => exact leads_call fun _ hb => huses hb

theorem releases_withRequest {body : Addr → HeapEntry Unit}
    (hbody : ∀ pRI, Releases base [] (body pRI)) :
    Releases base [] (withRequest serial slotId request body) := by
  refine releases_call_bind (List.Subset.refl _) fun pRI => ?_
  cases pRI with
  | none => exact releases_pure
  | some pRI => exact hbody pRI

/-- A copy is held when it succeeds, and nothing more when it fails. -/
theorem leads_copyHidlStringToRil (bs : List ℕ) (ptrs : List OwnedStr) :
    Leads heap (Held base (bs ++ blocks ptrs)) (copyHidlStringToRil src pRI allowEmpty)
      fun dest => Held base (bs ++ blocks (dest.elim ptrs fun s => ptrs ++ [s])) := by
  unfold copyHidlStringToRil
  -- an empty string makes no block, only a null pointer
  split
  · intro g h
    show Held base (bs ++ blocks (ptrs ++ [OwnedStr.null])) g
    rw [blocks, List.filterMap_append]
    exact (List.append_nil (blocks ptrs)).symm ▸ h
  · refine leads_alloc.bind fun dest => ?_
    cases dest with
    -- no block, and the error is answered
    | none =>
      exact (leads_call fun _ hb => absurd hb List.not_mem_nil).bind fun _ _ h => h
    | some dest =>
      show Leads heap (Held base (dest :: (bs ++ blocks ptrs))) (ite _ _ _) _
      -- a text too long for its size is freed again, though this never happens
      split
      · exact leads_free.bind fun _ =>
          (leads_call fun _ hb => absurd hb List.not_mem_nil).bind fun _ _ h => h
      · -- the block is the last one that is held
        intro g h
        show Held base (bs ++ blocks (ptrs ++ [_])) g
        rw [blocks, List.filterMap_append, ← List.append_assoc]
        exact h.perm (List.perm_append_singleton dest _).symm

/-- A copy: the clean-up frees what was held before, the rest what is held with the copy. -/
theorem releases_withCopy (bs : List ℕ) (ptrs : List OwnedStr) {body : OwnedStr → HeapEntry Unit}
    (hcleanup : Releases base (bs ++ blocks ptrs) cleanup)
    (hbody : ∀ dest, Releases base (bs ++ blocks (ptrs ++ [dest])) (body dest)) :
    Releases base (bs ++ blocks ptrs) (withCopy src pRI allowEmpty cleanup body) := by
  refine (leads_copyHidlStringToRil _ _).bind fun dest => ?_
  cases dest with
  | none => exact hcleanup
  | some dest => exact hbody dest

theorem releases_withCalloc {body : ℕ → HeapEntry Unit} (hcleanup : Releases base bs cleanup)
    (hbody : ∀ b, Releases base (b :: bs) (body b)) :
    Releases base bs (withCalloc pRI cleanup body) := by
  refine leads_alloc.bind fun b => ?_
  cases b with
  | none =>
    exact Leads.bind (J := fun _ => Held base []) hcleanup fun _ => releases_sendErrorResponse
  | some b => exact hbody b

/-- The loop holds the array and the copies so far; it returns with all copies, or after the
clean-up. -/
theorem leads_copyStrings (ptrs : List OwnedStr) {pStrings : ℕ} {strs : List HidlString} :
    Leads heap (Held base ([pStrings] ++ blocks ptrs))
      (copyStrings pRI allowEmpty pStrings ptrs strs)
      fun all => Held base (all.elim [] fun copies => [pStrings] ++ blocks copies) := by
  induction strs generalizing ptrs with
  | nil => exact fun _ h => h
  | cons str strs ih =>
    refine (leads_copyHidlStringToRil _ _).bind fun dest => ?_
    cases dest with
    | none =>
      refine (leads_freeAll_perm List.perm_append_comm).bind fun _ => ?_
      exact leads_free.bind fun _ _ h => h
    | some dest => exact ih _

/-- What is handed over after the copies are made. -/
theorem releases_copyStrings_bind {pStrings : ℕ} {strs : List HidlString}
    {body : List OwnedStr → HeapEntry Unit}
    (hbody : ∀ copies, Releases base ([pStrings] ++ blocks copies) (body copies)) :
    Releases base [pStrings]
      (copyStrings pRI allowEmpty pStrings [] strs >>= fun
        | none => pure ()
        | some copies => body copies) := by
  refine Leads.bind (J := fun all => Held base (all.elim [] fun copies =>
    [pStrings] ++ blocks copies)) (leads_copyStrings []) fun all => ?_
  cases all with
  | none => exact releases_pure
  | some copies => exact hbody copies

/-! ### Each method releases what it allocated -/

theorem releases_dispatchString {str : HidlString} :
    Releases base [] (dispatchString serial slotId request str) :=
  releases_withRequest fun _ => releases_withCopy [] [] releases_pure fun _ =>
    releases_call_bind (List.Subset.refl _) fun _ => releases_memsetAndFreeStrings

theorem releases_dispatchStrings {strs : List HidlString} :
    Releases base [] (dispatchStrings serial slotId request allowEmpty strs) := by
  refine releases_withRequest fun pRI => releases_withCalloc releases_pure fun pStrings =>
    releases_copyStrings_bind fun copies => ?_
  refine releases_call_bind (List.Subset.refl _) fun _ => releases_strings_bind ?_
  refine leads_free.bind fun _ => releases_ite ?_ releases_pure
  exact leads_call fun _ hb => absurd hb List.not_mem_nil

theorem releases_dispatchStringsVec {data : List HidlString} :
    Releases base [] (dispatchStringsVec serial slotId request data) :=
  releases_withRequest fun _ => releases_withCalloc releases_pure fun _ =>
    releases_copyStrings_bind fun _ =>
      releases_call_bind (List.Subset.refl _) fun _ => releases_strings_bind releases_free

theorem releases_dispatchInts {ints : List ℤ} :
    Releases base [] (dispatchInts serial slotId request ints) :=
  releases_withRequest fun _ => releases_withCalloc releases_pure fun _ =>
    releases_call_bind (List.Subset.refl _) fun _ => releases_free

theorem releases_dispatchCallForwardStatus {callInfo : CallForwardInfo} :
    Releases base [] (dispatchCallForwardStatus serial slotId request callInfo) :=
  releases_withRequest fun _ => releases_withCopy [] [] releases_pure fun _ =>
    releases_call_bind (List.Subset.refl _) fun _ => releases_memsetAndFreeStrings

theorem releases_dispatchIccApdu {message : SimApdu} :
    Releases base [] (dispatchIccApdu serial slotId request message) :=
  releases_withRequest fun _ => releases_withCopy [] [] releases_pure fun _ =>
    releases_call_bind (List.Subset.refl _) fun _ => releases_memsetAndFreeStrings

theorem releases_dial {dialInfo : Dial} : Releases base [] (dial slotId serial dialInfo) := by
  refine releases_withRequest fun pRI => releases_withCopy [] [] releases_pure fun address => ?_
  have hnone : [] ++ blocks ([] ++ [address]) = blocks [address, .null] := by
    rw [List.nil_append, List.nil_append, blocks, blocks, List.filterMap_cons, List.filterMap_cons]
    rfl
  cases dialInfo.uusInfo with
  | nil =>
    rw [hnone]
    exact releases_call_bind (List.Subset.refl _) fun _ => releases_memsetAndFreeStrings
  | cons uus _ =>
    show Releases base _ (ite _ _ _)
    split
    · rw [hnone]
      exact releases_call_bind (List.Subset.refl _) fun _ => releases_memsetAndFreeStrings
    · exact releases_withCopy [] [address] releases_memsetAndFreeStrings fun _ =>
        releases_call_bind (List.Subset.refl _) fun _ => releases_memsetAndFreeStrings

theorem releases_iccIOForApp {iccIo : IccIo} :
    Releases base [] (iccIOForApp slotId serial iccIo) :=
  releases_withRequest fun _ => releases_withCopy [] [] releases_pure fun path =>
    releases_withCopy [] [path] releases_memsetAndFreeStrings fun data =>
      releases_withCopy [] [path, data] releases_memsetAndFreeStrings fun pin2 =>
        releases_withCopy [] [path, data, pin2] releases_memsetAndFreeStrings fun _ =>
          releases_call_bind (List.Subset.refl _) fun _ => releases_memsetAndFreeStrings

theorem releases_writeSmsToSim {smsWriteArgs : SmsWriteArgs} :
    Releases base [] (writeSmsToSim slotId serial smsWriteArgs) := by
  refine releases_withRequest fun _ => releases_withCopy [] [] releases_pure fun pdu =>
    releases_withCopy [] [pdu] releases_memsetAndFreeStrings fun smsc => ?_
  refine releases_call_bind (List.Subset.refl _) fun _ => releases_freeAll ?_
  exact (List.Perm.swap smsc pdu []).filterMap OwnedStr.block

theorem releases_setInitialAttachApn {info : DataProfileInfo} {cognitive roaming : Bool} :
    Releases base [] (setInitialAttachApn cfg slotId serial info cognitive roaming) := by
  refine releases_withRequest fun pRI => releases_withCopy [] [] releases_pure fun apn => ?_
  -- each copy that fails frees the copies before it, in both layouts
  split
  · exact releases_withCopy [] [apn] releases_memsetAndFreeStrings fun protocol =>
      releases_withCopy [] [apn, protocol] releases_memsetAndFreeStrings fun username =>
        releases_withCopy [] [apn, protocol, username] releases_memsetAndFreeStrings fun _ =>
          releases_call_bind (List.Subset.refl _) fun _ => releases_memsetAndFreeStrings
  · refine releases_withCopy [] [apn] releases_memsetAndFreeStrings fun protocol =>
      releases_withCopy [] [apn, protocol] releases_memsetAndFreeStrings fun roamingProtocol =>
        releases_withCopy [] [apn, protocol, roamingProtocol] releases_memsetAndFreeStrings
          fun username => releases_withCopy [] [apn, protocol, roamingProtocol, username]
            releases_memsetAndFreeStrings fun password => ?_
    -- an unknown type is refused after the copies, and they are freed too
    cases Entry.convertMvnoTypeToString info.mvnoType with
    | none =>
      exact releases_call_bind (List.nil_subset _) fun _ => releases_memsetAndFreeStrings
    | some _ =>
      exact releases_withCopy [] [apn, protocol, roamingProtocol, username, password]
        releases_memsetAndFreeStrings fun _ =>
          releases_call_bind (List.Subset.refl _) fun _ => releases_memsetAndFreeStrings

theorem releases_dispatchImsGsmSms {message : ImsSmsMessage} :
    Releases base [] (dispatchImsGsmSms message pRI) := by
  unfold dispatchImsGsmSms
  split
  · exact releases_withCalloc releases_pure fun pStrings =>
      releases_withCopy [pStrings] [] releases_free fun smscPdu =>
        releases_withCopy [pStrings] [smscPdu] (releases_strings_bind releases_free) fun _ =>
          releases_onOwnRequest_bind (List.Subset.refl _) (releases_strings_bind releases_free)
  · exact releases_sendErrorResponse

theorem releases_sendImsSms {message : ImsSmsMessage} :
    Releases base [] (sendImsSms slotId serial message) := by
  refine releases_withRequest fun pRI => ?_
  split
  · exact releases_dispatchImsGsmSms
  · split
    · exact leads_lift
    · exact releases_sendErrorResponse

theorem releases_iccOpenLogicalChannel {aid : HidlString} {p2 : ℤ} :
    Releases base [] (iccOpenLogicalChannel slotId serial aid p2) :=
  releases_withRequest fun _ => releases_withCopy [] [] releases_pure fun _ =>
    releases_onOwnRequest_bind (List.Subset.refl _) releases_memsetAndFreeStrings

theorem releases_nvWriteItem {item : NvWriteItem} :
    Releases base [] (nvWriteItem slotId serial item) :=
  releases_withRequest fun _ => releases_withCopy [] [] releases_pure fun _ =>
    releases_onOwnRequest_bind (List.Subset.refl _) releases_memsetAndFreeStrings

theorem releases_requestIccSimAuthentication {authContext : ℤ} {authData aid : HidlString} :
    Releases base [] (requestIccSimAuthentication slotId serial authContext authData aid) :=
  releases_withRequest fun _ => releases_withCopy [] [] releases_pure fun rilAuthData =>
    releases_withCopy [] [rilAuthData] releases_memsetAndFreeStrings fun _ =>
      releases_onOwnRequest_bind (List.Subset.refl _) releases_memsetAndFreeStrings

theorem releases_setAllowedCarriers {carriers : CarrierRestrictions} :
    Releases base [] (setAllowedCarriers slotId serial carriers) := by
  refine releases_withRequest fun pRI => releases_withCalloc releases_pure fun allowed => ?_
  refine leads_alloc.bind fun excluded => ?_
  cases excluded with
  | none => exact releases_call_bind (List.nil_subset _) fun _ => releases_free
  | some excluded =>
    refine releases_onOwnRequest_bind (List.Perm.subset (List.Perm.swap excluded allowed [])) ?_
    have hfree : Releases base [excluded, allowed] (freeAll [allowed, excluded]) :=
      releases_freeAll (List.Perm.swap allowed excluded [])
    exact hfree

/-! ### The strings of the profiles -/

/-- A list that is read up to a length, with a default behind its end. -/
theorem map_getD_range {β : Type} {d : β} {l : List β} {n : ℕ} (h : l.length ≤ n) :
    (List.range n).map (fun i => l.getD i d) = l ++ List.replicate (n - l.length) d := by
  refine List.ext_getElem ?_ fun i hi hi' => ?_
  · rw [List.length_map, List.length_range, List.length_append, List.length_replicate,
      Nat.add_sub_cancel' h]
  · rw [List.getElem_map, List.getElem_range, List.getElem_append]
    split
    · next hlt => exact List.getD_eq_getElem _ _ hlt
    · next hge =>
      rw [List.getElem_replicate]
      exact List.getD_eq_default _ _ (Nat.le_of_not_lt hge)

theorem blocks_replicate_null {n : ℕ} : blocks (List.replicate n .null) = [] := by
  induction n with
  | zero => rfl
  | succ n ih => exact ih

/-- The strings of a profile, with those that were not copied yet. -/
theorem blocks_row {n : ℕ} {row : List OwnedStr} (h : row.length ≤ n) :
    blocks ((List.range n).map fun i => row.getD i .null) = blocks row := by
  rw [map_getD_range h, blocks, List.filterMap_append]
  exact (congrArg (blocks row ++ ·) blocks_replicate_null).trans (List.append_nil _)

/-- The strings of the profiles, with the profiles that were not copied yet. -/
theorem blocks_rows {n : ℕ} {rows : List (List OwnedStr)} (hrows : ∀ row ∈ rows, row.length ≤ n)
    (k : ℕ) :
    blocks ((rows ++ List.replicate k []).flatMap fun (row : List OwnedStr) =>
      (List.range n).map fun i => row.getD i .null) = blocks rows.flatten := by
  induction rows with
  -- rows that were never filled hold no block
  | nil =>
    have hempty : blocks ((List.range n).map fun i => ([] : List OwnedStr).getD i .null) = [] :=
      blocks_row (Nat.zero_le n)
    rw [List.nil_append]
    induction k with
    | zero => rfl
    | succ k ih =>
      rw [List.replicate_succ, List.flatMap_cons, blocks, List.filterMap_append]
      exact congrArg₂ (· ++ ·) hempty ih
  -- the filled rows hold their blocks
  | cons row rows ih =>
    rw [List.cons_append, List.flatMap_cons, List.flatten_cons, blocks, blocks,
      List.filterMap_append, List.filterMap_append]
    exact congrArg₂ (· ++ ·) (blocks_row (hrows row List.mem_cons_self))
      (ih fun row hrow => hrows row (List.mem_cons_of_mem _ hrow))

/-- **Field by field, or profile by profile**: the same blocks are freed. -/
theorem blocks_byFields {num n : ℕ} {rows : List (List OwnedStr)} (hnum : rows.length ≤ num)
    (hrows : ∀ row ∈ rows, row.length ≤ n) :
    (blocks rows.flatten).Perm (blocks ((List.range n).flatMap fun i =>
      (List.range num).map fun j => (rows.getD j []).getD i .null)) := by
  -- by rows or by fields, the same cells are visited
  have hswap : ((List.range num).flatMap fun j => (List.range n).map fun i =>
        (rows.getD j []).getD i OwnedStr.null).Perm
      ((List.range n).flatMap fun i => (List.range num).map fun j =>
        (rows.getD j []).getD i .null) := by
    rw [← Multiset.coe_eq_coe, ← Multiset.coe_bind, ← Multiset.coe_bind]
    exact Multiset.bind_map_comm (List.range num : Multiset ℕ) (List.range n : Multiset ℕ)
  refine List.Perm.trans (List.Perm.of_eq ?_) (hswap.filterMap OwnedStr.block)
  have hmap : ((List.range num).flatMap fun j => (List.range n).map fun i =>
        (rows.getD j []).getD i OwnedStr.null) =
      ((List.range num).map fun j => rows.getD j []).flatMap fun row =>
        (List.range n).map fun i => row.getD i .null := by
    rw [List.flatMap_map]
  -- and the cells outside of the rows are null
  rw [hmap, map_getD_range hnum]
  exact (blocks_rows hrows _).symm

/-- The arrays and the strings of the profiles so far are held. -/
def ProfileArrays.held (arrays : ProfileArrays) (rows : List (List OwnedStr)) : List ℕ :=
  [arrays.dataProfiles, arrays.dataProfilePtrs] ++ blocks rows.flatten

theorem releases_freeSetDataProfileData {arrays : ProfileArrays} {n : ℕ}
    {rows : List (List OwnedStr)} (hnum : rows.length ≤ arrays.num)
    (hrows : ∀ row ∈ rows, row.length ≤ n) :
    Releases base (arrays.held rows) (freeSetDataProfileData arrays n rows) := by
  have hperm := List.perm_append_comm.trans ((blocks_byFields hnum hrows).append_right
    [arrays.dataProfiles, arrays.dataProfilePtrs])
  exact (leads_freeAll_perm hperm).bind fun _ => leads_free.bind fun _ => leads_free

theorem held_append {arrays : ProfileArrays} {rows : List (List OwnedStr)} {row : List OwnedStr} :
    arrays.held (rows ++ [row]) =
      [arrays.dataProfiles, arrays.dataProfilePtrs] ++ blocks (rows.flatten ++ row) := by
  rw [ProfileArrays.held, List.flatten_append, List.flatten_singleton]

/-- A copy for the profile of this round. -/
theorem releases_withCopy_row {arrays : ProfileArrays} {rows : List (List OwnedStr)}
    (row : List OwnedStr) {body : OwnedStr → HeapEntry Unit}
    (hcleanup : Releases base (arrays.held (rows ++ [row])) cleanup)
    (hbody : ∀ dest, Releases base (arrays.held (rows ++ [row ++ [dest]])) (body dest)) :
    Releases base (arrays.held (rows ++ [row])) (withCopy src pRI allowEmpty cleanup body) := by
  rw [held_append] at hcleanup ⊢
  refine releases_withCopy _ _ hcleanup fun dest => ?_
  have hnext := hbody dest
  rwa [held_append, ← List.append_assoc] at hnext

/-- The loop over the rows releases what it holds in every way it can end. A row without memory
frees the rows before it; an unknown type is answered with an error, and the arrays are freed after
that. -/
theorem releases_rilDataProfile {roaming : Bool} {arrays : ProfileArrays}
    {rows : List (List OwnedStr)} {profile : DataProfileInfo}
    {body : List OwnedStr → RilDataProfileInfo → HeapEntry Unit}
    (hnum : rows.length < arrays.num) (hrows : ∀ row ∈ rows, row.length ≤ numfields cfg)
    (hbody : ∀ row d, row.length ≤ numfields cfg →
      Releases base (arrays.held (rows ++ [row])) (body row d)) :
    Releases base (arrays.held rows)
      (rilDataProfile cfg pRI roaming arrays rows profile body) := by
  -- what frees the arrays frees the row that is being filled as well
  have hcleanup : ∀ row : List OwnedStr, row.length ≤ numfields cfg →
      Releases base (arrays.held (rows ++ [row]))
        (freeSetDataProfileData arrays (numfields cfg) (rows ++ [row])) := by
    intro row hrow
    refine releases_freeSetDataProfileData ?_ fun r hr => ?_
    · rw [List.length_append]
      exact hnum
    · obtain hr | hr := List.mem_append.mp hr
      · exact hrows r hr
      · exact List.mem_singleton.mp hr ▸ hrow
  -- a new row starts empty
  have hstart : arrays.held rows = arrays.held (rows ++ [[]]) := by
    rw [held_append, List.append_nil]
    rfl
  unfold numfields at hcleanup hbody
  rw [hstart]
  unfold rilDataProfile numfields
  -- by the version of the radio: four strings or six
  by_cases hversion : cfg.version ≤ 14
  · simp only [if_pos hversion] at hcleanup hbody ⊢
    refine releases_withCopy_row [] (hcleanup _ (by decide)) fun apn => ?_
    refine releases_withCopy_row [apn] (hcleanup _ (by simp)) fun protocol => ?_
    refine releases_withCopy_row [apn, protocol] (hcleanup _ (by simp)) fun user => ?_
    refine releases_withCopy_row [apn, protocol, user] (hcleanup _ (by simp)) fun password => ?_
    exact hbody _ _ (Nat.le_refl 4)
  · simp only [if_neg hversion] at hcleanup hbody ⊢
    refine releases_withCopy_row [] (hcleanup _ (by decide)) fun apn => ?_
    refine releases_withCopy_row [apn] (hcleanup _ (by simp)) fun protocol => ?_
    refine releases_withCopy_row [apn, protocol] (hcleanup _ (by simp)) fun roamingProtocol => ?_
    refine releases_withCopy_row [apn, protocol, roamingProtocol] (hcleanup _ (by simp))
      fun user => ?_
    refine releases_withCopy_row [apn, protocol, roamingProtocol, user] (hcleanup _ (by simp))
      fun password => ?_
    refine releases_withCopy_row [apn, protocol, roamingProtocol, user, password]
      (hcleanup _ (by simp)) fun mvnoMatchData => ?_
    -- the type is unknown: the error is answered before the arrays are freed
    cases Entry.convertMvnoTypeToString profile.mvnoType with
    | none => exact releases_call_bind (List.nil_subset _) fun _ => hcleanup _ (Nat.le_refl 6)
    | some _ => exact hbody _ _ (Nat.le_refl 6)

/-- The rounds that are left fit into the arrays. -/
theorem releases_rilDataProfiles {roaming : Bool} {arrays : ProfileArrays}
    {rows : List (List OwnedStr)} {profiles : List DataProfileInfo}
    {body : List (List OwnedStr) → List RilDataProfileInfo → HeapEntry Unit}
    (hnum : rows.length + profiles.length ≤ arrays.num)
    (hrows : ∀ row ∈ rows, row.length ≤ numfields cfg)
    (hbody : ∀ rows ds, rows.length ≤ arrays.num → (∀ row ∈ rows, row.length ≤ numfields cfg) →
      Releases base (arrays.held rows) (body rows ds)) :
    Releases base (arrays.held rows)
      (rilDataProfiles cfg pRI roaming arrays rows profiles body) := by
  induction profiles generalizing rows body with
  -- no profile left, and the body runs with all rows
  | nil => exact hbody rows [] hnum hrows
  | cons profile profiles ih =>
    rw [List.length_cons] at hnum
    -- one profile more: a row is added, and there is still room
    refine releases_rilDataProfile (by omega) hrows fun row d hrow => ?_
    refine ih ?_ ?_ fun rows ds => hbody rows (d :: ds)
    · rw [List.length_append, List.length_singleton]
      omega
    · intro r hr
      obtain hr | hr := List.mem_append.mp hr
      · exact hrows r hr
      · exact List.mem_singleton.mp hr ▸ hrow

theorem releases_setDataProfile {profiles : List DataProfileInfo} {roaming : Bool} :
    Releases base [] (setDataProfile cfg slotId serial profiles roaming) := by
  refine releases_withRequest fun pRI => releases_withCalloc releases_pure fun dataProfiles =>
    releases_withCalloc releases_free fun dataProfilePtrs => ?_
  let arrays : ProfileArrays := ⟨profiles.length, dataProfiles, dataProfilePtrs⟩
  have hloop : Releases base (arrays.held []) (rilDataProfiles cfg pRI roaming arrays [] profiles
      fun rows data => do
        onRequest Request.setDataProfile (.dataProfiles data) pRI slotId
          (dataProfiles :: dataProfilePtrs :: blocks rows.flatten)
        freeSetDataProfileData arrays (numfields cfg) rows) :=
    releases_rilDataProfiles (Nat.le_of_eq (Nat.zero_add _))
      (fun _ h => absurd h List.not_mem_nil) fun rows data hnum hrows =>
        releases_call_bind (List.Subset.refl _) fun _ => releases_freeSetDataProfileData hnum hrows
  exact hloop.mono (fun _ h => h.perm (List.Perm.swap _ _ [])) fun _ _ h => h

end Held

/-! ### All methods -/

/-- The request methods with their memory: the helpers, with any arguments, the methods that
allocate something themselves, and those that allocate nothing. -/
inductive MemoryMethod (cfg : Config) (slotId : ℤ) : HeapEntry Unit → Prop
  | plain {p : Entry Unit} : p.Only (· ≠ EntryOp.calloc) → MemoryMethod cfg slotId (lift p)
  | dispatchString (serial request : ℤ) (str : HidlString) :
      MemoryMethod cfg slotId (dispatchString serial slotId request str)
  | dispatchStrings (serial request : ℤ) (allowEmpty : Bool) (strs : List HidlString) :
      MemoryMethod cfg slotId (dispatchStrings serial slotId request allowEmpty strs)
  | dispatchStringsVec (serial request : ℤ) (data : List HidlString) :
      MemoryMethod cfg slotId (dispatchStringsVec serial slotId request data)
  | dispatchInts (serial request : ℤ) (ints : List ℤ) :
      MemoryMethod cfg slotId (dispatchInts serial slotId request ints)
  | dispatchCallForwardStatus (serial request : ℤ) (callInfo : CallForwardInfo) :
      MemoryMethod cfg slotId (dispatchCallForwardStatus serial slotId request callInfo)
  | dispatchIccApdu (serial request : ℤ) (message : SimApdu) :
      MemoryMethod cfg slotId (dispatchIccApdu serial slotId request message)
  | dial (serial : ℤ) (dialInfo : Dial) : MemoryMethod cfg slotId (dial slotId serial dialInfo)
  | iccIOForApp (serial : ℤ) (iccIo : IccIo) :
      MemoryMethod cfg slotId (iccIOForApp slotId serial iccIo)
  | writeSmsToSim (serial : ℤ) (smsWriteArgs : SmsWriteArgs) :
      MemoryMethod cfg slotId (writeSmsToSim slotId serial smsWriteArgs)
  | setInitialAttachApn (serial : ℤ) (dataProfileInfo : DataProfileInfo)
      (modemCognitive isRoaming : Bool) :
      MemoryMethod cfg slotId
        (setInitialAttachApn cfg slotId serial dataProfileInfo modemCognitive isRoaming)
  | sendImsSms (serial : ℤ) (message : ImsSmsMessage) :
      MemoryMethod cfg slotId (sendImsSms slotId serial message)
  | iccOpenLogicalChannel (serial : ℤ) (aid : HidlString) (p2 : ℤ) : ¬cfg.version < 15 →
      MemoryMethod cfg slotId (iccOpenLogicalChannel slotId serial aid p2)
  | nvWriteItem (serial : ℤ) (item : NvWriteItem) :
      MemoryMethod cfg slotId (nvWriteItem slotId serial item)
  | requestIccSimAuthentication (serial authContext : ℤ) (authData aid : HidlString) :
      MemoryMethod cfg slotId
        (requestIccSimAuthentication slotId serial authContext authData aid)
  | setDataProfile (serial : ℤ) (profiles : List DataProfileInfo) (isRoaming : Bool) :
      MemoryMethod cfg slotId (setDataProfile cfg slotId serial profiles isRoaming)
  | setAllowedCarriers (serial : ℤ) (carriers : CarrierRestrictions) :
      MemoryMethod cfg slotId (setAllowedCarriers slotId serial carriers)
  | setCarrierInfoForImsiEncryption (serial : ℤ) (data : ImsiEncryptionInfo) :
      MemoryMethod cfg slotId (setCarrierInfoForImsiEncryption slotId serial data)

/-- **Each method frees exactly what it allocated**, whatever the results of its calls, and hands
the vendor only what is live, but for `setCarrierInfoForImsiEncryption`. -/
theorem MemoryMethod.balanced {cfg : Config} {slotId : ℤ} {q : HeapEntry Unit}
    (hq : MemoryMethod cfg slotId q) :
    Balanced q ∨ ∃ serial data, q = Memory.setCarrierInfoForImsiEncryption slotId serial data := by
  -- one case for each method that allocates; only the last one may keep a block
  cases hq with
  -- a method that allocates nothing has nothing to free
  | plain => exact .inl (balanced_of_leads fun _ => leads_lift)
  | dispatchString => exact .inl (balanced_of_leads fun _ => releases_dispatchString)
  | dispatchStrings => exact .inl (balanced_of_leads fun _ => releases_dispatchStrings)
  | dispatchStringsVec => exact .inl (balanced_of_leads fun _ => releases_dispatchStringsVec)
  | dispatchInts => exact .inl (balanced_of_leads fun _ => releases_dispatchInts)
  | dispatchCallForwardStatus =>
    exact .inl (balanced_of_leads fun _ => releases_dispatchCallForwardStatus)
  | dispatchIccApdu => exact .inl (balanced_of_leads fun _ => releases_dispatchIccApdu)
  | dial => exact .inl (balanced_of_leads fun _ => releases_dial)
  | iccIOForApp => exact .inl (balanced_of_leads fun _ => releases_iccIOForApp)
  | writeSmsToSim => exact .inl (balanced_of_leads fun _ => releases_writeSmsToSim)
  | setInitialAttachApn => exact .inl (balanced_of_leads fun _ => releases_setInitialAttachApn)
  | sendImsSms => exact .inl (balanced_of_leads fun _ => releases_sendImsSms)
  | iccOpenLogicalChannel => exact .inl (balanced_of_leads fun _ => releases_iccOpenLogicalChannel)
  | nvWriteItem => exact .inl (balanced_of_leads fun _ => releases_nvWriteItem)
  | requestIccSimAuthentication =>
    exact .inl (balanced_of_leads fun _ => releases_requestIccSimAuthentication)
  | setDataProfile => exact .inl (balanced_of_leads fun _ => releases_setDataProfile)
  | setAllowedCarriers => exact .inl (balanced_of_leads fun _ => releases_setAllowedCarriers)
  -- the method that returns without freeing the key
  | setCarrierInfoForImsiEncryption serial data => exact .inr ⟨serial, data, rfl⟩

/-! ### The methods that allocate nothing -/

section Plain

variable {slotId serial request : ℤ} {pRI : Addr}

/-- A method that calls no `calloc`, so that it has no memory of its own. -/
abbrev Plain (p : Entry Unit) : Prop := p.Only (· ≠ EntryOp.calloc)

theorem plain_withRequest {body : Addr → Entry Unit} (hbody : ∀ pRI, Plain (body pRI)) :
    Plain (Entry.withRequest serial slotId request body) := by
  refine Only.op_bind (fun h => EntryOp.noConfusion h) fun pRI => ?_
  cases pRI with
  | none => trivial
  | some pRI => exact hbody pRI

theorem plain_sendErrorResponse {pRI : Option Addr} {err : ℤ} :
    Plain (Entry.sendErrorResponse pRI err) := ⟨fun h => EntryOp.noConfusion h, fun _ => trivial⟩

theorem plain_onRequest {data : RequestData} : Plain (Entry.onRequest request data pRI slotId) :=
  ⟨fun h => EntryOp.noConfusion h, fun _ => trivial⟩

theorem plain_onOwnRequest {data : RequestData} : Plain (Entry.onOwnRequest data pRI slotId) := by
  refine Only.op_bind (fun h => EntryOp.noConfusion h) fun info => ?_
  show Plain (match RequestInfo.pCI info with
    | none => Entry.abort
    | some requestNumber => Entry.onRequest requestNumber data pRI slotId)
  cases RequestInfo.pCI info with
  | none => exact ⟨fun h => EntryOp.noConfusion h, fun r => Empty.elim r⟩
  | some requestNumber => exact plain_onRequest

theorem plain_dispatchVoid : Plain (Entry.dispatchVoid serial slotId request) :=
  plain_withRequest fun _ => plain_onRequest

/-- The method is one of those with memory, without the memory. -/
def HasMemory (cfg : Config) (slotId : ℤ) (p : Entry Unit) : Prop :=
  ∃ q, MemoryMethod cfg slotId q ∧ Without Eq q p

variable {cfg : Config}

theorem hasMemory_plain {p : Entry Unit} (hp : Plain p) : HasMemory cfg slotId p :=
  ⟨_, .plain hp, erases_lift p⟩

theorem hasMemory_dispatchStrings {allowEmpty : Bool} {strs : List HidlString} :
    HasMemory cfg slotId (Entry.dispatchStrings serial slotId request allowEmpty strs) :=
  ⟨_, .dispatchStrings .., without_dispatchStrings⟩

theorem hasMemory_dispatchString {str : HidlString} :
    HasMemory cfg slotId (Entry.dispatchString serial slotId request str) :=
  ⟨_, .dispatchString .., without_dispatchString⟩

theorem hasMemory_dispatchInts {ints : List ℤ} :
    HasMemory cfg slotId (Entry.dispatchInts serial slotId request ints) :=
  ⟨_, .dispatchInts .., without_dispatchInts⟩

theorem hasMemory_dispatchStringsVec {data : List HidlString} :
    HasMemory cfg slotId (Entry.dispatchStringsVec serial slotId request data) :=
  ⟨_, .dispatchStringsVec .., without_dispatchStringsVec⟩

theorem hasMemory_dispatchCallForwardStatus {callInfo : CallForwardInfo} :
    HasMemory cfg slotId (Entry.dispatchCallForwardStatus serial slotId request callInfo) :=
  ⟨_, .dispatchCallForwardStatus .., without_dispatchCallForwardStatus⟩

theorem hasMemory_dispatchIccApdu {message : SimApdu} :
    HasMemory cfg slotId (Entry.dispatchIccApdu serial slotId request message) :=
  ⟨_, .dispatchIccApdu .., without_dispatchIccApdu⟩

theorem hasMemory_dispatchVoid :
    HasMemory cfg slotId (Entry.dispatchVoid serial slotId request) :=
  hasMemory_plain plain_dispatchVoid

theorem hasMemory_refuse {err : ℤ} :
    HasMemory cfg slotId (Entry.refuse serial slotId request err) :=
  hasMemory_plain (plain_withRequest fun _ => plain_sendErrorResponse)

theorem hasMemory_withRilRadioTechnology {technology : ℤ} {body : List UInt8 → Entry Unit}
    (hbody : ∀ s, HasMemory cfg slotId (body s)) :
    HasMemory cfg slotId (Entry.withRilRadioTechnology technology body) := by
  unfold Entry.withRilRadioTechnology
  split
  · exact hasMemory_plain ⟨fun h => EntryOp.noConfusion h, fun r => Empty.elim r⟩
  · exact hbody _

theorem hasMemory_setupDataCall {technology : ℤ} {info : DataProfileInfo}
    {cognitive allowed roaming : Bool} :
    HasMemory cfg slotId
      (Entry.setupDataCall cfg slotId serial technology info cognitive allowed roaming) := by
  unfold Entry.setupDataCall
  split
  · exact hasMemory_withRilRadioTechnology fun _ => hasMemory_dispatchStrings
  · split
    · split
      · exact hasMemory_refuse
      · exact hasMemory_withRilRadioTechnology fun _ => hasMemory_dispatchStrings
    · exact hasMemory_refuse

theorem hasMemory_addAndRefuse {err : ℤ} :
    HasMemory cfg slotId (Entry.addRequestToList serial slotId request >>= fun pRI =>
      Entry.sendErrorResponse pRI err) :=
  hasMemory_plain (Only.op_bind (fun h => EntryOp.noConfusion h) fun _ => plain_sendErrorResponse)

end Plain

/-- **Every request method has its memory**: without it, it is the method of `RadioImpl`. One case
for each method, by the helper it goes through, and by the payloads that are allocated for it. -/
theorem hasMemory_of_requestMethod {cfg : Config} {slotId : ℤ} {p : Entry Unit}
    (hp : RequestMethod cfg slotId p) : HasMemory cfg slotId p := by
  -- one case for each method: the version of it that minds its memory
  cases hp with
  | dial => exact ⟨_, .dial .., without_dial⟩
  | setupDataCall => exact hasMemory_setupDataCall
  | iccIOForApp => exact ⟨_, .iccIOForApp .., without_iccIOForApp⟩
  | writeSmsToSim => exact ⟨_, .writeSmsToSim .., without_writeSmsToSim⟩
  | setInitialAttachApn => exact ⟨_, .setInitialAttachApn .., without_setInitialAttachApn⟩
  | sendImsSms => exact ⟨_, .sendImsSms .., without_sendImsSms⟩
  | nvWriteItem => exact ⟨_, .nvWriteItem .., without_nvWriteItem⟩
  | requestIccSimAuthentication =>
    exact ⟨_, .requestIccSimAuthentication .., without_requestIccSimAuthentication⟩
  | setDataProfile => exact ⟨_, .setDataProfile .., without_setDataProfile⟩
  | setAllowedCarriers => exact ⟨_, .setAllowedCarriers .., without_setAllowedCarriers⟩
  | setCarrierInfoForImsiEncryption =>
    exact ⟨_, .setCarrierInfoForImsiEncryption .., without_setCarrierInfoForImsiEncryption⟩
  -- an old radio is given the application's id as the only string
  | iccOpenLogicalChannel =>
    by_cases hversion : cfg.version < 15
    · rw [Entry.iccOpenLogicalChannel, if_pos hversion]
      exact hasMemory_dispatchString
    · exact ⟨_, .iccOpenLogicalChannel _ _ _ hversion, without_iccOpenLogicalChannel hversion⟩
  -- these may refuse a request for which they allocate nothing
  | sendDeviceState =>
    unfold Entry.sendDeviceState
    split
    · split
      · exact hasMemory_dispatchInts
      · exact hasMemory_addAndRefuse
    · exact hasMemory_dispatchInts
  | setIndicationFilter =>
    unfold Entry.setIndicationFilter
    split
    · exact hasMemory_addAndRefuse
    · exact hasMemory_dispatchInts
  -- and these allocate nothing at all
  | startNetworkScan =>
    refine hasMemory_plain (plain_withRequest fun pRI => ?_)
    split
    · exact plain_sendErrorResponse
    · split
      · exact plain_sendErrorResponse
      · exact plain_onRequest
  | startKeepalive =>
    refine hasMemory_plain (plain_withRequest fun pRI => ?_)
    split
    · exact plain_sendErrorResponse
    · exact plain_onOwnRequest
  | responseAcknowledgement =>
    exact hasMemory_plain ⟨fun h => EntryOp.noConfusion h, fun _ => trivial⟩
  | _ =>
    -- one dispatch helper, or one payload without strings
    first
    | with_reducible exact hasMemory_dispatchStrings
    | with_reducible exact hasMemory_dispatchVoid
    | with_reducible exact hasMemory_dispatchInts
    | with_reducible exact hasMemory_dispatchString
    | with_reducible exact hasMemory_dispatchStringsVec
    | with_reducible exact hasMemory_dispatchCallForwardStatus
    | with_reducible exact hasMemory_dispatchIccApdu
    | exact hasMemory_plain (plain_withRequest fun _ => plain_onRequest)
    | exact hasMemory_plain (plain_withRequest fun _ => plain_onOwnRequest)

/-- **Every run of a request method is one that keeps to the discipline**: with the same calls and
results, it frees only what it allocated, once, hands the vendor only what is live, and returns with
the blocks that were live before, but for `setCarrierInfoForImsiEncryption`. -/
theorem request_memory_runs {σ : Type} {sem : Semantics entrySignature σ} {cfg : Config}
    {slotId : ℤ} {p : Entry Unit} (hp : RequestMethod cfg slotId p) :
    ∃ q, MemoryMethod cfg slotId q ∧ Without Eq q p ∧
      ((∀ s s' live, p.Runs sem s () s' →
        q.Runs (withHeap EntryOp.calloc id sem) (s, live) () (s', live)) ∨
      ∃ serial data, q = setCarrierInfoForImsiEncryption slotId serial data) := by
  obtain ⟨q, hq, hwithout⟩ := hasMemory_of_requestMethod hp
  refine ⟨q, hq, hwithout, hq.balanced.imp_left fun hbalanced s s' live hrun => ?_⟩
  obtain ⟨_, live', -, rfl, hruns⟩ :=
    runs_of_erases (fun r => ⟨r, rfl⟩) hwithout (hbalanced live) hrun
  exact hruns

/-- Calls that may have every result. -/
def anyResult : Semantics entrySignature Unit := fun _ _ _ _ => True

theorem request_memory_runs_dial :
    ∃ q, MemoryMethod Config.dual 0 q ∧ Without Eq q (Entry.dial 0 1 ⟨[49], 0, []⟩) ∧
      ((∀ s s' live, (Entry.dial 0 1 ⟨[49], 0, []⟩).Runs anyResult s () s' →
        q.Runs (withHeap EntryOp.calloc id anyResult) (s, live) () (s', live)) ∨
      ∃ serial data, q = setCarrierInfoForImsiEncryption 0 serial data) :=
  request_memory_runs (RequestMethod.dial 1 ⟨[49], 0, []⟩)

/-! ### The exception -/

/-- The vendor is called with the request, and with the blocks that belong to its data. -/
def isOnRequest : HeapOp entrySignature → Bool
  | .call (.onRequest ..) _ => true
  | _ => false

/-- How many of the strings are copied: an empty one is `NULL` and needs no block. -/
def copied (data : ImsiEncryptionInfo) : ℕ :=
  [data.mnc, data.mcc, data.keyIdentifier].countP fun s => s.length ≠ 0

section Exception

variable {base live : Finset ℕ} {pRI : Addr} {src : HidlString} {ptrs : List OwnedStr}

theorem only_copyHidlStringToRil :
    (copyHidlStringToRil src pRI false).Only fun o => isOnRequest o = false := by
  unfold copyHidlStringToRil
  refine Only.ite trivial (Only.op_bind rfl fun dest => ?_)
  cases dest with
  | none => exact ⟨rfl, fun _ => trivial⟩
  | some dest => exact Only.ite ⟨rfl, fun _ => ⟨rfl, fun _ => trivial⟩⟩ trivial

theorem only_freeAll {bs : List ℕ} :
    (freeAll (S := entrySignature) bs).Only fun o => isOnRequest o = false := by
  induction bs with
  | nil => trivial
  | cons b bs ih => exact ⟨rfl, fun _ => ih⟩

/-- A copy has a block if there was something to copy. -/
theorem obeys_copyHidlStringToRil_block :
    (copyHidlStringToRil src pRI false).Obeys heap
      (fun dest _ => ∀ s, dest = some s → (s.block.isSome ↔ src.length ≠ 0)) live := by
  unfold copyHidlStringToRil
  -- empty: null is returned, which owns no block
  by_cases hempty : src.length = 0
  · rw [if_pos ⟨hempty, rfl⟩]
    intro s hs
    obtain rfl := Option.some.inj hs
    exact iff_of_false (by decide) (not_not.mpr hempty)
  · -- not empty: a block is made, unless memory runs out
    rw [if_neg fun h => hempty h.1]
    refine ⟨trivial, fun dest g hnext => ?_⟩
    -- no memory: the call fails, and there is nothing to say of a result
    cases dest with
    | none => exact ⟨fun _ h => absurd h List.not_mem_nil, fun _ _ _ s hs => by cases hs⟩
    | some dest =>
      obtain ⟨-, rfl⟩ : dest ∉ live ∧ g = insert dest live := hnext
      show Program.Obeys heap _ (ite _ _ _) _
      split
      · refine ⟨Finset.mem_insert_self _ _, fun _ _ _ => ?_⟩
        exact ⟨fun _ h => absurd h List.not_mem_nil, fun _ _ _ s hs => by cases hs⟩
      · intro s hs
        obtain rfl := Option.some.inj hs
        exact iff_of_true rfl hempty

/-- A copy, before the vendor was called. -/
theorem watch_withCopy (ptrs : List OwnedStr) {cleanup : HeapEntry Unit}
    {body : OwnedStr → HeapEntry Unit} {post : Unit → Finset ℕ × Bool → Prop}
    (hheld : Held base (blocks ptrs) live)
    (hcleanup : ∀ live, Held base (blocks ptrs) live →
      cleanup.Obeys (heap.watch isOnRequest) post (live, false))
    (hbody : ∀ dest live, (dest.block.isSome ↔ src.length ≠ 0) →
      Held base (blocks (ptrs ++ [dest])) live →
      (body dest).Obeys (heap.watch isOnRequest) post (live, false)) :
    (withCopy src pRI false cleanup body).Obeys (heap.watch isOnRequest) post (live, false) := by
  unfold withCopy
  rw [obeys_bind]
  have hcopy : (copyHidlStringToRil src pRI false).Obeys heap
      (fun dest g => Held base (blocks (dest.elim ptrs fun s => ptrs ++ [s])) g ∧
        ∀ s, dest = some s → (s.block.isSome ↔ src.length ≠ 0)) live :=
    -- both facts about the copy: what is held, and whether it is a block
    obeys_and (leads_copyHidlStringToRil [] ptrs live hheld) obeys_copyHidlStringToRil_block
  -- copying makes no call to the vendor
  refine (obeys_watch only_copyHidlStringToRil hcopy).mono fun dest g h => ?_
  obtain ⟨⟨hheld', hblock⟩, hmade⟩ := h
  obtain ⟨live', made⟩ := g
  obtain rfl : made = false := hmade
  cases dest with
  | none => exact hcleanup live' hheld'
  | some dest => exact hbody dest live' (hblock dest rfl) hheld'

/-- A clean-up, before the vendor was called. -/
theorem watch_memsetAndFreeStrings (hheld : Held base (blocks ptrs) live) :
    (memsetAndFreeStrings ptrs).Obeys (heap.watch isOnRequest)
      (fun _ g => g.1 = base ∧ g.2 = false) (live, false) :=
  (obeys_watch only_freeAll (releases_memsetAndFreeStrings live hheld)).mono
    fun _ _ h => ⟨h.1.eq_base, h.2⟩

/-- The vendor is called with what is live, unless the request is gone. -/
theorem watch_onOwnRequest_bind {data : RequestData} {slot : RequestInfo → ℤ} {uses : List ℕ}
    {rest : Unit → HeapEntry Unit} {post : Unit → Finset ℕ × Bool → Prop} {made : Bool}
    (huses : ∀ b ∈ uses, b ∈ live)
    (hrest : (rest ()).Obeys (heap.watch isOnRequest) post (live, true)) :
    (onOwnRequest data pRI slot uses >>= rest).Obeys (heap.watch isOnRequest) post
      (live, made) := by
  -- the request is looked up, and then the vendor gets it
  refine ⟨fun _ h => absurd h List.not_mem_nil, fun info g hnext => ?_⟩
  obtain ⟨g, made'⟩ := g
  obtain ⟨rfl, -⟩ := hnext
  show Program.Obeys (heap.watch isOnRequest) post (Program.bind (match RequestInfo.pCI info with
    | none => lift Entry.abort
    | some requestNumber => onRequest requestNumber data pRI (slot info) uses) rest) (_, made')
  cases RequestInfo.pCI info with
  | none => exact ⟨fun _ h => absurd h List.not_mem_nil, fun r => Empty.elim r⟩
  | some requestNumber =>
    -- the call is the vendor's, so it has been made
    refine ⟨huses, fun _ g hnext => ?_⟩
    obtain ⟨g, made''⟩ := g
    obtain ⟨rfl, hmade⟩ := hnext
    obtain rfl : made'' = true := hmade.trans (Bool.or_true _)
    exact hrest

/-- How many blocks strings have. -/
theorem length_blocks_cons {s : OwnedStr} {n : ℕ} (h : s.block.isSome ↔ n ≠ 0) :
    (blocks (s :: ptrs)).length = (blocks ptrs).length + if n ≠ 0 then 1 else 0 := by
  unfold blocks
  rw [List.filterMap_cons]
  cases hblock : s.block with
  | none =>
    rw [hblock] at h
    rw [if_neg fun hn => absurd (h.mpr hn) (by decide)]
    rfl
  | some b =>
    rw [hblock] at h
    rw [if_pos (h.mp rfl)]
    rfl

/-- **What `setCarrierInfoForImsiEncryption` loses.** When it returns without having called the
vendor, the blocks that were live before are live. When it has called the vendor, one more is live
for each of the three strings that is not empty. -/
theorem setCarrierInfoForImsiEncryption_leaks (slotId serial : ℤ) (data : ImsiEncryptionInfo)
    (live : Finset ℕ) :
    (setCarrierInfoForImsiEncryption slotId serial data).Obeys (heap.watch isOnRequest)
      (fun _ g => if g.2 = true then live ⊆ g.1 ∧ g.1.card = live.card + copied data
        else g.1 = live) (live, false) := by
  have hclean : ∀ {g : Finset ℕ × Bool}, g.1 = live ∧ g.2 = false →
      if g.2 = true then live ⊆ g.1 ∧ g.1.card = live.card + copied data else g.1 = live := by
    rintro ⟨g, made⟩ ⟨rfl, rfl⟩
    exact rfl
  refine ⟨fun _ h => absurd h List.not_mem_nil, fun pRI g hnext => ?_⟩
  obtain ⟨g, made⟩ := g
  obtain ⟨rfl, rfl⟩ : g = live ∧ made = false := hnext
  cases pRI with
  | none => exact rfl
  | some pRI =>
    -- the copies, one after the other
    refine watch_withCopy [] held_nil (fun live' h => hclean (g := (live', false)) ⟨h.eq_base, rfl⟩)
      fun mnc _ hmnc hheld => ?_
    refine watch_withCopy [mnc] hheld
      (fun _ h => (watch_memsetAndFreeStrings h).mono fun _ _ => hclean) fun mcc _ hmcc hheld => ?_
    refine watch_withCopy [mnc, mcc] hheld
      (fun _ h => (watch_memsetAndFreeStrings h).mono fun _ _ => hclean) fun key _ hkey hheld => ?_
    -- the key, the vendor, and what is freed then
    refine ⟨trivial, fun carrierKey g hnext => ?_⟩
    obtain ⟨g, made⟩ := g
    obtain ⟨⟨hnew, rfl⟩, rfl⟩ := hnext
    have hall := hheld.insert hnew
    refine watch_onOwnRequest_bind (fun b hb => hall.mem hb) ?_
    refine ⟨hall.mem List.mem_cons_self, fun _ g hnext => ?_⟩
    obtain ⟨g, made⟩ := g
    obtain ⟨rfl, rfl⟩ := hnext
    obtain ⟨hsubset, hcard⟩ := hall.erase.card_eq
    have hcount : (blocks [mnc, mcc, key]).length = copied data := by
      rw [length_blocks_cons hmnc, length_blocks_cons hmcc, length_blocks_cons hkey, copied,
        List.countP_cons, List.countP_cons, List.countP_cons]
      simp [blocks, Nat.add_comm, Nat.add_left_comm]
    exact And.intro hsubset (hcard.trans (congrArg (Finset.card _ + ·) hcount))

end Exception

end Memory

end BlueCommon.Ril
