import BlueCommon.Lib.CharBuffers
import BlueCommon.Lib.Image
import BlueCommon.Lib.Records
import BlueCommon.Ril.CardStatus
import BlueCommon.Ril.RadioImpl
import Mathlib.Data.List.TakeWhile

/-!
# The identifiers of the modems

The hardware configuration and the radio capability name a modem by a text in an array of 64
characters. libril reads such an array with `strlen`, which knows nothing of its size.

* `RilHardwareConfig`, `RilRadioCapability`: the records, as bytes in memory.
* `convertRilHardwareConfigListToHal`, `convertRilRadioCapabilityToHal`: the decoders. They read the
  memory behind a record, too.
* `hardwareConfigs_exact_iff`: when each configuration arrives with the texts in its arrays.
* `radioCapability_exact_iff`: the same for a capability.
* `radioCapability_echoed`: what comes back of a capability that the client has set.
-/

namespace BlueCommon.Ril.Modems

open CharBuffers Image

open Entry (maxUuidLength)

/-! ### Records -/

/-- A `char [MAX_UUID_LENGTH]`. -/
abbrev UuidArray : Type := { chars : List UInt8 // chars.length = maxUuidLength }

/-- An `int` in memory. -/
def intBytes (n : Int32) : List UInt8 := littleEndian 4 n.toBitVec.toNat

/-- The `int` in some memory. -/
def intOf (bytes : List UInt8) : Int32 := Int32.ofBitVec (BitVec.ofNat 32 (ofLittleEndian bytes))

theorem length_intBytes (n : Int32) : (intBytes n).length = 4 := length_littleEndian 4 _

theorem intOf_intBytes (n : Int32) : intOf (intBytes n) = n := by
  have hlt : n.toBitVec.toNat < 256 ^ 4 := n.toBitVec.isLt
  rw [intOf, intBytes, ofLittleEndian_littleEndian hlt]
  exact congrArg Int32.ofBitVec (BitVec.ofNat_toNat 32 n.toBitVec)

/-- `RIL_HardwareConfig`. The union `cfg` has the size of its greater part, which is the name of a
modem in 64 bytes. -/
structure RilHardwareConfig where
  type : Int32
  uuid : UuidArray
  state : Int32
  cfg : UuidArray

/-- `RIL_RadioCapability`. Its text is not the last field, so that a number follows it in memory. -/
structure RilRadioCapability where
  version : Int32
  session : Int32
  phase : Int32
  rat : Int32
  logicalModemUuid : UuidArray
  status : Int32

def intField : RecordFormat UInt8 Int32 :=
  .field 4 (Nat.succ_pos 3) intBytes intOf length_intBytes intOf_intBytes

/-- A `char [MAX_UUID_LENGTH]` in memory. -/
def uuidOf (bytes : List UInt8) : UuidArray :=
  if h : bytes.length = maxUuidLength then ⟨bytes, h⟩
  else ⟨List.replicate maxUuidLength 0, List.length_replicate⟩

def uuidField : RecordFormat UInt8 UuidArray :=
  .field maxUuidLength (Nat.succ_pos 63) (fun uuid => uuid.1) uuidOf (fun uuid => uuid.2)
    fun uuid => dif_pos uuid.2

def hardwareConfigFormat : RecordFormat UInt8 RilHardwareConfig :=
  (intField.prod (uuidField.prod (intField.prod uuidField))).via
    (fun (type, uuid, state, cfg) => ⟨type, uuid, state, cfg⟩)
    (fun r => (r.type, r.uuid, r.state, r.cfg)) fun _ => rfl

def radioCapabilityFormat : RecordFormat UInt8 RilRadioCapability :=
  (intField.prod (intField.prod (intField.prod (intField.prod (uuidField.prod intField))))).via
    (fun (version, session, phase, rat, logicalModemUuid, status) =>
      ⟨version, session, phase, rat, logicalModemUuid, status⟩)
    (fun r => (r.version, r.session, r.phase, r.rat, r.logicalModemUuid, r.status)) fun _ => rfl

theorem write_hardwareConfigFormat (r : RilHardwareConfig) : hardwareConfigFormat.write r =
    intBytes r.type ++ (r.uuid.1 ++ (intBytes r.state ++ r.cfg.1)) := rfl

theorem write_radioCapabilityFormat (r : RilRadioCapability) : radioCapabilityFormat.write r =
    intBytes r.version ++ (intBytes r.session ++ (intBytes r.phase ++ (intBytes r.rat ++
      (r.logicalModemUuid.1 ++ intBytes r.status)))) := rfl

/-! ### HIDL -/

structure HardwareConfigModem where
  rat : UInt32
  maxVoice : Int32
  maxData : Int32
  maxStandby : Int32

structure HardwareConfigSim where
  modemUuid : HidlString

/-- The enumerations are numbers here, since they are cast. -/
structure HardwareConfig where
  type : Int32
  uuid : HidlString
  state : Int32
  modem : List HardwareConfigModem
  sim : List HardwareConfigSim

/-- `RIL_HardwareConfig_Modem`, from the union. The model of the modem is not passed on. -/
def modemOf (cfg : UuidArray) : HardwareConfigModem where
  rat := (intOf (slice cfg.1 4 4)).toUInt32
  maxVoice := intOf (slice cfg.1 8 4)
  maxData := intOf (slice cfg.1 12 4)
  maxStandby := intOf (slice cfg.1 16 4)

/-! ### Decoders -/

/-- `convertCharPtrToHidlString` of a pointer into some memory. -/
def convertCharPtrToHidlString (memory : List UInt8) (pos : ℕ) : Option HidlString :=
  cString 0 (memory.drop pos)

/-- A round of `convertRilHardwareConfigListToHal`. The vectors of a new record are empty. -/
def convertRilHardwareConfigToHal (memory : List UInt8) (i : ℕ) : Option HardwareConfig := do
  let rilHardwareConfig ← hardwareConfigFormat.readAt memory i
  let uuid ← convertCharPtrToHidlString memory (i * hardwareConfigFormat.size + 4)
  let record : HardwareConfig :=
    { type := rilHardwareConfig.type
      uuid
      state := rilHardwareConfig.state
      modem := []
      sim := [] }
  -- RIL_HARDWARE_CONFIG_MODEM
  if rilHardwareConfig.type = 0 then
    some { record with modem := [modemOf rilHardwareConfig.cfg] }
  -- RIL_HARDWARE_CONFIG_SIM
  else if rilHardwareConfig.type = 1 then
    let modemUuid ← convertCharPtrToHidlString memory (i * hardwareConfigFormat.size + 72)
    some { record with sim := [⟨modemUuid⟩] }
  else some record

/-- `convertRilHardwareConfigListToHal`. The memory starts with the response; `none` if it is read
to its end. -/
def convertRilHardwareConfigListToHal (memory : List UInt8) (responseLen : ℕ) :
    Option (List HardwareConfig) :=
  (List.range (responseLen / hardwareConfigFormat.size)).mapM
    (convertRilHardwareConfigToHal memory)

/-- The test of the hardware configurations. -/
def invalid (response : Option (List UInt8)) (responseLen : ℕ) : Bool :=
  (response = none ∧ responseLen ≠ 0) ∨ responseLen % hardwareConfigFormat.size ≠ 0

/-- What `getHardwareConfigResponse` passes to the client: the configurations, or an empty list with
an error if the length is no multiple of the size of a record. -/
def getHardwareConfigResponse (serial : Int32) (responseType : ResponseType) (e : ℤ)
    (response : Option (List UInt8)) (responseLen : ℕ) :
    Option (Cards.RadioResponseInfo × List HardwareConfig) :=
  let responseInfo := Cards.populateResponseInfo serial responseType e
  if invalid response responseLen then
    some ({ responseInfo with
      error := if e = Errno.success then .invalidResponse else responseInfo.error }, [])
  else do
    let result ← convertRilHardwareConfigListToHal (response.getD []) responseLen
    some (responseInfo, result)

/-- The list that `hardwareConfigChangedInd` passes to the client: `some none` for an invalid
response, which it drops. -/
def hardwareConfigChangedInd (response : Option (List UInt8)) (responseLen : ℕ) :
    Option (Option (List HardwareConfig)) :=
  if invalid response responseLen then some none
  else do
    let configs ← convertRilHardwareConfigListToHal (response.getD []) responseLen
    some (some configs)

/-- `convertRilRadioCapabilityToHal`. The text is read from its place on up to the next NUL,
wherever that is. -/
def convertRilRadioCapabilityToHal (memory : List UInt8) : Option RadioCapability := do
  let rilRadioCapability ← radioCapabilityFormat.read memory
  let logicalModemUuid ← convertCharPtrToHidlString memory 16
  some
    { session := rilRadioCapability.session.toInt
      phase := rilRadioCapability.phase.toInt
      raf := rilRadioCapability.rat.toInt
      logicalModemUuid
      status := rilRadioCapability.status.toInt }

/-- What `getRadioCapabilityResponse` and `setRadioCapabilityResponse` pass to the client. A
response of another length is invalid, and then the capability is empty. -/
def responseRadioCapability (serial : Int32) (responseType : ResponseType) (e : ℤ)
    (response : Option (List UInt8)) (responseLen : ℕ) :
    Option (Cards.RadioResponseInfo × RadioCapability) :=
  let responseInfo := Cards.populateResponseInfo serial responseType e
  match response with
  | some memory =>
    if responseLen = radioCapabilityFormat.size then do
      let rc ← convertRilRadioCapabilityToHal memory
      some (responseInfo, rc)
    else
      some ({ responseInfo with
        error := if e = Errno.success then .invalidResponse else responseInfo.error },
        ⟨0, 0, 0, [], 0⟩)
  | none =>
    some ({ responseInfo with
      error := if e = Errno.success then .invalidResponse else responseInfo.error },
      ⟨0, 0, 0, [], 0⟩)

/-- What `radioCapabilityIndicationInd` passes to the client: `some none` for an invalid response,
which it drops. -/
def radioCapabilityIndicationInd (response : Option (List UInt8)) (responseLen : ℕ) :
    Option (Option RadioCapability) :=
  match response with
  | some memory =>
    if responseLen = radioCapabilityFormat.size then do
      let rc ← convertRilRadioCapabilityToHal memory
      some (some rc)
    else some none
  | none => some none

/-! ### Hardware configurations -/

/-- What a record says, with the texts that are in its arrays. This is what the client should
get. -/
def RilHardwareConfig.hal (r : RilHardwareConfig) : HardwareConfig where
  type := r.type
  uuid := contents 0 r.uuid.1
  state := r.state
  modem := if r.type = 0 then [modemOf r.cfg] else []
  sim := if r.type = 1 then [⟨contents 0 r.cfg.1⟩] else []

/-- The byte behind element `i` of an array of records, which is followed by other memory: the first
one of the next type. -/
def byteBehind (records : List RilHardwareConfig) (beyond : List UInt8) (i : ℕ) : Option UInt8 :=
  (hardwareConfigFormat.writeArray (records.drop (i + 1)) ++ beyond).head?

/-- The texts of a record end in their arrays or right behind them, so that reading them up to the
next zero gives what is in the array. -/
structure TextsEnd (r : RilHardwareConfig) (behind : Option UInt8) : Prop where
  uuid : 0 ∈ r.uuid.1 ∨ (intBytes r.state).head? = some 0
  modemUuid : r.type = 1 → 0 ∈ r.cfg.1 ∨ behind = some 0

section HardwareConfigs

variable {records : List RilHardwareConfig} {beyond : List UInt8} {i : ℕ}

/-- The name of a configuration is read up to the first NUL from its array on. -/
theorem uuid_read_iff (hi : i < records.length) :
    convertCharPtrToHidlString (hardwareConfigFormat.writeArray records ++ beyond)
        (i * hardwareConfigFormat.size + 4) = some (contents 0 records[i].uuid.1) ↔
      0 ∈ records[i].uuid.1 ∨ (intBytes records[i].state).head? = some 0 := by
  have hdrop : (hardwareConfigFormat.writeArray records ++ beyond).drop
        (i * hardwareConfigFormat.size + 4) =
      records[i].uuid.1 ++ (intBytes records[i].state ++ (records[i].cfg.1 ++
        (hardwareConfigFormat.writeArray (records.drop (i + 1)) ++ beyond))) := by
    rw [← List.drop_drop, hardwareConfigFormat.drop_writeArray_append hi beyond]
    calc _ = (intBytes records[i].type ++ (records[i].uuid.1 ++ (intBytes records[i].state ++
            (records[i].cfg.1 ++ (hardwareConfigFormat.writeArray (records.drop (i + 1)) ++
              beyond))))).drop 4 := by
          simp only [write_hardwareConfigFormat, List.append_assoc]
      _ = _ := List.drop_left' (length_intBytes _)
  rw [convertCharPtrToHidlString, hdrop, cString_append_iff]
  -- the state has a first byte
  rfl

/-- The name of the modem of a SIM is read up to the first NUL from its array on. -/
theorem modemUuid_read_iff (hi : i < records.length) :
    convertCharPtrToHidlString (hardwareConfigFormat.writeArray records ++ beyond)
        (i * hardwareConfigFormat.size + 72) = some (contents 0 records[i].cfg.1) ↔
      0 ∈ records[i].cfg.1 ∨ byteBehind records beyond i = some 0 := by
  have hdrop : (hardwareConfigFormat.writeArray records ++ beyond).drop
        (i * hardwareConfigFormat.size + 72) =
      records[i].cfg.1 ++ (hardwareConfigFormat.writeArray (records.drop (i + 1)) ++ beyond) := by
    rw [← List.drop_drop, hardwareConfigFormat.drop_writeArray_append hi beyond]
    calc _ = ((intBytes records[i].type ++ (records[i].uuid.1 ++ intBytes records[i].state)) ++
            (records[i].cfg.1 ++ (hardwareConfigFormat.writeArray (records.drop (i + 1)) ++
              beyond))).drop 72 := by
          simp only [write_hardwareConfigFormat, List.append_assoc]
      _ = _ := by
          refine List.drop_left' ?_
          simp only [List.length_append, length_intBytes, records[i].uuid.2, maxUuidLength]
  rw [convertCharPtrToHidlString, hdrop, cString_append_iff]
  rfl

/-- A record is decoded exactly if its texts end in their arrays or right behind them. A modem has
one text and a SIM has two, and each is read up to the next zero, wherever that is. -/
theorem convertRilHardwareConfigToHal_iff (hi : i < records.length) :
    convertRilHardwareConfigToHal (hardwareConfigFormat.writeArray records ++ beyond) i =
        some records[i].hal ↔
      TextsEnd records[i] (byteBehind records beyond i) := by
  have huuid := @uuid_read_iff records beyond i hi
  have hmodemUuid := @modemUuid_read_iff records beyond i hi
  unfold convertRilHardwareConfigToHal
  -- the record at `i` is the one that was written there
  rw [hardwareConfigFormat.readAt_writeArray_append hi beyond]
  generalize convertCharPtrToHidlString _ (i * hardwareConfigFormat.size + 4) = uuid? at huuid ⊢
  generalize convertCharPtrToHidlString _ (i * hardwareConfigFormat.size + 72) = sim?
    at hmodemUuid ⊢
  generalize byteBehind records beyond i = behind at hmodemUuid ⊢
  generalize records[i] = r at huuid hmodemUuid ⊢
  -- the first text of the record, and the second when it belongs to a SIM
  have hends : TextsEnd r behind ↔ uuid? = some (contents 0 r.uuid.1) ∧
      (r.type = 1 → sim? = some (contents 0 r.cfg.1)) := by
    rw [huuid, hmodemUuid]
    exact ⟨fun h => ⟨h.uuid, h.modemUuid⟩, fun h => ⟨h.1, h.2⟩⟩
  rw [hends]
  -- the read of the first text never ends
  cases uuid? with
  | none => exact iff_of_false nofun fun h => nomatch h.1
  | some uuid =>
    -- by the type: a modem, a SIM with a second text, or neither
    by_cases hmodem : r.type = 0
    · simp [hmodem, RilHardwareConfig.hal]
    · by_cases hsim : r.type = 1
      · cases sim? with
        | none => simp [hsim]
        | some modemUuid => simp [hsim, RilHardwareConfig.hal]
      · simp [hmodem, hsim, RilHardwareConfig.hal]

theorem convertRilHardwareConfigListToHal_iff :
    convertRilHardwareConfigListToHal (hardwareConfigFormat.writeArray records ++ beyond)
        (records.length * hardwareConfigFormat.size) = some (records.map RilHardwareConfig.hal) ↔
      ∀ i (h : i < records.length), TextsEnd records[i] (byteBehind records beyond i) := by
  rw [convertRilHardwareConfigListToHal, Nat.mul_div_cancel _ hardwareConfigFormat.size_pos,
    RecordFormat.mapM_eq_some_iff, List.forall₂_iff_get]
  constructor
  · rintro ⟨-, h⟩ i hi
    have hround := h i (by rwa [List.length_range]) (by rwa [List.length_map])
    rw [List.get_eq_getElem, List.get_eq_getElem, List.getElem_range, List.getElem_map] at hround
    exact (convertRilHardwareConfigToHal_iff hi).mp hround
  · intro h
    refine ⟨by rw [List.length_range, List.length_map], fun i hi hi' => ?_⟩
    rw [List.length_range] at hi
    rw [List.get_eq_getElem, List.get_eq_getElem, List.getElem_range, List.getElem_map]
    exact (convertRilHardwareConfigToHal_iff hi).mpr (h i hi)

theorem invalid_records :
    invalid (some (hardwareConfigFormat.writeArray records ++ beyond))
      (records.length * hardwareConfigFormat.size) = false := by
  refine decide_eq_false ?_
  rintro (⟨hnone, -⟩ | hmod)
  · exact absurd hnone (Option.some_ne_none _)
  · exact hmod (Nat.mul_mod_left _ _)

end HardwareConfigs

/-- **The configurations arrive with the texts in their arrays if and only if each of these has a
terminator or is followed by a zero**: the name of a configuration by that of its state, the name of
the modem of a SIM by that of the next type, or of the memory behind the response. -/
theorem hardwareConfigs_exact_iff (records : List RilHardwareConfig) (beyond : List UInt8) :
    (hardwareConfigChangedInd (some (hardwareConfigFormat.writeArray records ++ beyond))
        (records.length * hardwareConfigFormat.size) =
          some (some (records.map RilHardwareConfig.hal)) ↔
      ∀ i (h : i < records.length), TextsEnd records[i] (byteBehind records beyond i)) ∧
    ∀ serial responseType e,
      getHardwareConfigResponse serial responseType e
          (some (hardwareConfigFormat.writeArray records ++ beyond))
          (records.length * hardwareConfigFormat.size) =
        some (Cards.populateResponseInfo serial responseType e,
          records.map RilHardwareConfig.hal) ↔
      ∀ i (h : i < records.length), TextsEnd records[i] (byteBehind records beyond i) := by
  constructor
  · -- the indication delivers the list, or the conversion did not end
    rw [hardwareConfigChangedInd, invalid_records, if_neg Bool.false_ne_true, Option.getD_some,
      ← convertRilHardwareConfigListToHal_iff]
    cases convertRilHardwareConfigListToHal _ _ with
    | none => exact iff_of_false nofun nofun
    | some configs => exact Option.some_inj
  · -- the response has the same list behind its header
    intro serial responseType e
    rw [getHardwareConfigResponse, invalid_records, if_neg Bool.false_ne_true, Option.getD_some,
      ← convertRilHardwareConfigListToHal_iff]
    cases convertRilHardwareConfigListToHal _ _ with
    | none => exact iff_of_false nofun nofun
    | some configs => simp

/-! ### The radio capability -/

/-- What a record says, with the text that is in its array. This is what the client should get. -/
def RilRadioCapability.hal (r : RilRadioCapability) : RadioCapability where
  session := r.session.toInt
  phase := r.phase.toInt
  raf := r.rat.toInt
  logicalModemUuid := contents 0 r.logicalModemUuid.1
  status := r.status.toInt

/-- A capability arrives with the text in its array if and only if this has a terminator or the
status begins with a zero. -/
theorem radioCapability_exact_iff (r : RilRadioCapability) (beyond : List UInt8) :
    convertRilRadioCapabilityToHal (radioCapabilityFormat.write r ++ beyond) = some r.hal ↔
      0 ∈ r.logicalModemUuid.1 ∨ (intBytes r.status).head? = some 0 := by
  -- behind the four numbers the array begins
  have hdrop : (radioCapabilityFormat.write r ++ beyond).drop 16 =
      r.logicalModemUuid.1 ++ (intBytes r.status ++ beyond) := by
    calc _ = ((intBytes r.version ++ (intBytes r.session ++ (intBytes r.phase ++
            intBytes r.rat))) ++ (r.logicalModemUuid.1 ++ (intBytes r.status ++ beyond))).drop
              16 := by
          simp only [write_radioCapabilityFormat, List.append_assoc]
      _ = _ := List.drop_left' rfl
  have huuid : convertCharPtrToHidlString (radioCapabilityFormat.write r ++ beyond) 16 =
        some (contents 0 r.logicalModemUuid.1) ↔
      0 ∈ r.logicalModemUuid.1 ∨ (intBytes r.status).head? = some 0 := by
    rw [convertCharPtrToHidlString, hdrop, cString_append_iff]
    rfl
  rw [convertRilRadioCapabilityToHal, radioCapabilityFormat.read_write, ← huuid]
  -- the read does not end, and no capability is delivered
  cases convertCharPtrToHidlString _ 16 with
  | none => exact iff_of_false nofun nofun
  | some uuid => simp [RilRadioCapability.hal]

/-- What `setRadioCapability` hands to the vendor: the numbers, and the text cut to fit in its array
with a NUL. -/
def setRadioCapabilityData (rc : RadioCapability) : RequestData :=
  .radioCapability rc.session rc.phase rc.raf rc.status
    (rc.logicalModemUuid.cStr.take (maxUuidLength - 1))

example (slotId serial : ℤ) (rc : RadioCapability) :
    Entry.setRadioCapability slotId serial rc =
      Entry.withRequest serial slotId Request.setRadioCapability fun pRI =>
        Entry.onOwnRequest (setRadioCapabilityData rc) pRI slotId := rfl

/-- `rilRc`, which is cleared before it is filled in. -/
def rilRc (session phase rat status : ℤ) (logicalModemUuid : List UInt8) : RilRadioCapability where
  version := 0
  session := Int32.ofInt session
  phase := Int32.ofInt phase
  rat := Int32.ofInt rat
  logicalModemUuid := uuidOf (filled 0 maxUuidLength logicalModemUuid)
  status := Int32.ofInt status

/-- The record of a request, as the vendor finds it in memory. -/
def recordOf : RequestData → Option RilRadioCapability
  | .radioCapability session phase rat status logicalModemUuid =>
    some (rilRc session phase rat status logicalModemUuid)
  | _ => none

/-- A 32-bit number. -/
def IsInt32 (n : ℤ) : Prop := -2 ^ 31 ≤ n ∧ n < 2 ^ 31

/-- The numbers are those of the interface, of 32 bits each. -/
structure Fits (rc : RadioCapability) : Prop where
  session : IsInt32 rc.session
  phase : IsInt32 rc.phase
  raf : IsInt32 rc.raf
  status : IsInt32 rc.status

/-- The name that `strlcpy` copies. -/
theorem cStr_take (s : HidlString) :
    0 ∉ s.cStr.take 63 ∧ (s.cStr.take 63).length < maxUuidLength ∧
      (s.cStr.take 63 = s ↔ 0 ∉ s ∧ s.length < 64) := by
  have hcStr : 0 ∉ s.cStr := by
    intro h
    have hne := List.mem_takeWhile_imp h
    exact of_decide_eq_true hne rfl
  -- at most 63 characters are copied, for a terminator to fit behind them
  have hlength : (s.cStr.take 63).length ≤ 63 := List.length_take_le 63 _
  refine ⟨fun h => hcStr (List.mem_of_mem_take h), Nat.lt_succ_of_le hlength, ?_⟩
  constructor
  · intro h
    rw [← h]
    exact ⟨fun h => hcStr (List.mem_of_mem_take h), Nat.lt_succ_of_le hlength⟩
  · -- a short name without a NUL is its own C string, so nothing is cut
    rintro ⟨hzero, hshort⟩
    have hwhole : s.cStr = s := by
      refine List.takeWhile_eq_self_iff.mpr fun c hc => decide_eq_true ?_
      rintro rfl
      exact hzero hc
    rw [hwhole, List.take_of_length_le (Nat.le_of_lt_succ hshort)]

/-- **What comes back of a capability that the client has set**, when the vendor answers with it or
indicates it: at most 63 characters of the name, up to the first NUL, and all numbers. -/
theorem radioCapability_echoed {rc : RadioCapability} (h : Fits rc) (beyond : List UInt8) :
    ∃ r, recordOf (setRadioCapabilityData rc) = some r ∧
      (∀ serial responseType e,
        responseRadioCapability serial responseType e
            (some (radioCapabilityFormat.write r ++ beyond)) radioCapabilityFormat.size =
          some (Cards.populateResponseInfo serial responseType e,
            { rc with logicalModemUuid := rc.logicalModemUuid.cStr.take 63 })) ∧
      radioCapabilityIndicationInd (some (radioCapabilityFormat.write r ++ beyond))
          radioCapabilityFormat.size =
        some (some { rc with logicalModemUuid := rc.logicalModemUuid.cStr.take 63 }) ∧
      (({ rc with logicalModemUuid := rc.logicalModemUuid.cStr.take 63 } : RadioCapability) = rc ↔
        0 ∉ rc.logicalModemUuid ∧ rc.logicalModemUuid.length < 64) := by
  obtain ⟨session, phase, raf, name, status⟩ := rc
  obtain ⟨hzero, hlength, hsame⟩ := cStr_take name
  -- the array holds the name and a terminator
  have harray : (uuidOf (filled 0 maxUuidLength (name.cStr.take 63))).1 =
      filled 0 maxUuidLength (name.cStr.take 63) := by
    rw [uuidOf, dif_pos (length_filled (Nat.le_of_lt hlength))]
  have hterminated : 0 ∈ filled 0 maxUuidLength (name.cStr.take 63) := by
    rw [filled_of_lt hlength]
    exact List.mem_append_right _ List.mem_cons_self
  have hread : convertRilRadioCapabilityToHal
      (radioCapabilityFormat.write (rilRc session phase raf status (name.cStr.take 63)) ++
        beyond) = some (rilRc session phase raf status (name.cStr.take 63)).hal := by
    refine (radioCapability_exact_iff _ beyond).mpr (.inl ?_)
    rw [rilRc, harray]
    exact hterminated
  -- the numbers are cut to 32 bits and fit
  have hhal : (rilRc session phase raf status (name.cStr.take 63)).hal =
      ⟨session, phase, raf, name.cStr.take 63, status⟩ := by
    rw [RilRadioCapability.hal, rilRc, harray, contents_filled hzero hlength,
      Int32.toInt_ofInt_of_le h.session.1 h.session.2,
      Int32.toInt_ofInt_of_le h.phase.1 h.phase.2, Int32.toInt_ofInt_of_le h.raf.1 h.raf.2,
      Int32.toInt_ofInt_of_le h.status.1 h.status.2]
  refine ⟨rilRc session phase raf status (name.cStr.take 63), rfl,
    fun serial responseType e => ?_, ?_, ?_⟩
  · -- the response has the capability behind its header
    unfold responseRadioCapability
    dsimp only
    rw [if_pos rfl, hread, hhal]
    rfl
  · -- the indication has nothing but the capability
    unfold radioCapabilityIndicationInd
    dsimp only
    rw [if_pos rfl, hread, hhal]
    rfl
  · -- the name is the only field that can differ
    rw [← hsame, RadioCapability.mk.injEq]
    exact ⟨fun h => h.2.2.2.1, fun h => ⟨rfl, rfl, rfl, h, rfl⟩⟩

theorem radioCapability_echoed_modem :
    ∃ r, recordOf (setRadioCapabilityData ⟨1, 2, 3, stringBytes "com.xxxx.lm0", 0⟩) = some r ∧
      (∀ serial responseType e,
        responseRadioCapability serial responseType e
            (some (radioCapabilityFormat.write r ++ [])) radioCapabilityFormat.size =
          some (Cards.populateResponseInfo serial responseType e,
            ⟨1, 2, 3, (HidlString.cStr (stringBytes "com.xxxx.lm0")).take 63, 0⟩)) ∧
      radioCapabilityIndicationInd (some (radioCapabilityFormat.write r ++ []))
          radioCapabilityFormat.size =
        some (some ⟨1, 2, 3, (HidlString.cStr (stringBytes "com.xxxx.lm0")).take 63, 0⟩) ∧
      ((⟨1, 2, 3, (HidlString.cStr (stringBytes "com.xxxx.lm0")).take 63, 0⟩ : RadioCapability) =
          ⟨1, 2, 3, stringBytes "com.xxxx.lm0", 0⟩ ↔
        0 ∉ stringBytes "com.xxxx.lm0" ∧ (stringBytes "com.xxxx.lm0").length < 64) :=
  @radioCapability_echoed ⟨1, 2, 3, stringBytes "com.xxxx.lm0", 0⟩
    ⟨⟨by decide, by decide⟩, ⟨by decide, by decide⟩, ⟨by decide, by decide⟩,
      ⟨by decide, by decide⟩⟩ []

end BlueCommon.Ril.Modems
