import BlueCommon.Lib.Records
import BlueCommon.Ril.CardStatus
import BlueCommon.Ril.CellIdentity
import BlueCommon.Ril.DataCalls
import BlueCommon.Ril.SignalStrength
import Mathlib

/-!
# Lists of cells

The vendor describes the cells around it by an array of records, each a header and a union with a
part for its technology. Two responses and an indication carry such arrays. libril makes of each
record a `CellInfo`, whose five vectors have one element or none.

* `RilCellInfo`: the record, as words of the 32-bit platform. `SentCell.store`: how the vendor fills
  one in, over what was in its memory.
* `convertRilCellInfoListToHal` and the three functions that call it.
* `cells_delivered`: the client receives what was sent, whatever the unused memory contains.
* `cells_told_apart`: it can tell apart any two lists of cells.
* `convertRilCellInfoListToHal_any`: of any memory, each record becomes a `CellInfo` with at most
  one part.
* `identities_agree_iff`: when what the client receives of a cell is what a registration response
  says of it.
-/

namespace BlueCommon.Ril.Cells

open DataCalls

/-! ### Records -/

/-- The union of `RIL_CellInfo_v12`. Its largest part has twelve words. -/
abbrev CellUnion : Type := Fin 12 → Word

/-- `RIL_CellInfo_v12` in words of 32 bits. A `uint64_t` is aligned to eight bytes, which leaves one
word unused before the time stamp. -/
structure RilCellInfo where
  cellInfoType : Word
  registered : Word
  timeStampType : Word
  padding : Word
  timeStamp : UInt64
  cellInfo : CellUnion

/-- The words of a `uint64_t`, the lower one first. -/
def timeStampWords (timeStamp : UInt64) : List Word :=
  [timeStamp.toBitVec.extractLsb' 0 32, timeStamp.toBitVec.extractLsb' 32 32]

def format : RecordFormat Word RilCellInfo where
  size := 18
  size_pos := Nat.succ_pos 17
  write r := [r.cellInfoType, r.registered, r.timeStampType, r.padding] ++
    timeStampWords r.timeStamp ++ List.ofFn r.cellInfo
  read words :=
    if 18 ≤ words.length then
      some
        { cellInfoType := words.getD 0 0
          registered := words.getD 1 0
          timeStampType := words.getD 2 0
          padding := words.getD 3 0
          timeStamp := ⟨words.getD 5 0 ++ words.getD 4 0⟩
          cellInfo := fun i => words.getD (6 + i) 0 }
    else none
  length_write r := by
    rw [List.length_append, List.length_ofFn]
    rfl
  read_write r rest := by
    have hlength : 18 ≤ ([r.cellInfoType, r.registered, r.timeStampType, r.padding] ++
        timeStampWords r.timeStamp ++ List.ofFn r.cellInfo ++ rest).length := by
      rw [List.length_append, List.length_append, List.length_ofFn]
      exact Nat.le_add_right 18 _
    have htime : r.timeStamp.toBitVec.extractLsb' 32 32 ++ r.timeStamp.toBitVec.extractLsb' 0 32 =
        r.timeStamp.toBitVec := BitVec.extractLsb'_append_extractLsb'
    have hcell : ∀ i : Fin 12, (List.ofFn r.cellInfo ++ rest).getD i 0 = r.cellInfo i := by
      intro i
      have hi : i.val < (List.ofFn r.cellInfo).length := by
        rw [List.length_ofFn]
        exact i.isLt
      rw [List.getD_append _ _ _ _ hi, List.getD_eq_getElem _ _ hi, List.getElem_ofFn]
    rw [if_pos hlength]
    refine congrArg some ?_
    obtain ⟨cellInfoType, registered, timeStampType, padding, timeStamp, cellInfo⟩ := r
    rw [RilCellInfo.mk.injEq]
    refine ⟨rfl, rfl, rfl, rfl, congrArg UInt64.ofBitVec htime, ?_⟩
    funext i
    calc _ = (List.ofFn cellInfo ++ rest).getD i 0 := by
            rw [Nat.add_comm]
            rfl
      _ = cellInfo i := hcell i
  read_of_le words h := ⟨_, if_pos h⟩

/-! ### The parts of the union -/

/-- `RIL_CellInfoGsm_v12`: who the cell is, and how strong it is. -/
structure RilCellInfoGsm where
  cellIdentityGsm : RilCellIdentityGsm
  signalStrengthGsm : GsmSignalStrength

/-- `RIL_CellInfoWcdma_v12`, in the same way. -/
structure RilCellInfoWcdma where
  cellIdentityWcdma : RilCellIdentityWcdma
  signalStrengthWcdma : GwSignalStrength

/-- `RIL_CellInfoCdma`, and the `CellInfoCdma` of HIDL. -/
structure CellInfoCdma where
  cellIdentityCdma : CellIdentityCdma
  signalStrengthCdma : CdmaSignalStrength
  signalStrengthEvdo : EvdoSignalStrength

/-- `RIL_CellInfoLte_v12`, in the same way. -/
structure RilCellInfoLte where
  cellIdentityLte : RilCellIdentityLte
  signalStrengthLte : LteSignalStrength

/-- `RIL_CellInfoTdscdma`, in the same way. -/
structure RilCellInfoTdscdma where
  cellIdentityTdscdma : RilCellIdentityTdscdma
  signalStrengthTdscdma : TdScdmaSignalStrength

/-- A word as an `int`. -/
def int (w : Word) : Int32 := Int32.ofBitVec w

/-- The byte at the address of a word. -/
def byte (w : Word) : UInt8 := UInt8.ofBitVec (w.setWidth 8)

def CellUnion.gsm (u : CellUnion) : RilCellInfoGsm where
  cellIdentityGsm := ⟨int (u 0), int (u 1), int (u 2), int (u 3), int (u 4), byte (u 5)⟩
  signalStrengthGsm := ⟨int (u 6), int (u 7), int (u 8)⟩

def CellUnion.wcdma (u : CellUnion) : RilCellInfoWcdma where
  cellIdentityWcdma := ⟨int (u 0), int (u 1), int (u 2), int (u 3), int (u 4), int (u 5)⟩
  signalStrengthWcdma := ⟨int (u 6), int (u 7)⟩

def CellUnion.cdma (u : CellUnion) : CellInfoCdma where
  cellIdentityCdma := ⟨int (u 0), int (u 1), int (u 2), int (u 3), int (u 4)⟩
  signalStrengthCdma := ⟨int (u 5), int (u 6)⟩
  signalStrengthEvdo := ⟨int (u 7), int (u 8), int (u 9)⟩

def CellUnion.lte (u : CellUnion) : RilCellInfoLte where
  cellIdentityLte := ⟨int (u 0), int (u 1), int (u 2), int (u 3), int (u 4), int (u 5)⟩
  signalStrengthLte := ⟨int (u 6), int (u 7), int (u 8), int (u 9), int (u 10), int (u 11)⟩

def CellUnion.tdscdma (u : CellUnion) : RilCellInfoTdscdma where
  cellIdentityTdscdma := ⟨int (u 0), int (u 1), int (u 2), int (u 3), int (u 4)⟩
  signalStrengthTdscdma := ⟨int (u 5)⟩

/-! ### HIDL -/

structure CellInfoGsm where
  cellIdentityGsm : CellIdentityGsm
  signalStrengthGsm : GsmSignalStrength

structure CellInfoWcdma where
  cellIdentityWcdma : CellIdentityWcdma
  signalStrengthWcdma : GwSignalStrength

structure CellInfoLte where
  cellIdentityLte : CellIdentityLte
  signalStrengthLte : LteSignalStrength

structure CellInfoTdscdma where
  cellIdentityTdscdma : CellIdentityTdscdma
  signalStrengthTdscdma : TdScdmaSignalStrength

/-- `CellInfo`. The enumerations are numbers here, since they are cast. -/
structure CellInfo where
  cellInfoType : Int32
  registered : Bool
  timeStampType : Int32
  timeStamp : UInt64
  gsm : List CellInfoGsm
  cdma : List CellInfoCdma
  lte : List CellInfoLte
  wcdma : List CellInfoWcdma
  tdscdma : List CellInfoTdscdma

/-! ### Functions -/

def convertGsm (gsm : RilCellInfoGsm) : CellInfoGsm where
  cellIdentityGsm :=
    { mcc := toStringBytes gsm.cellIdentityGsm.mcc.toInt
      mnc := Mnc.decode gsm.cellIdentityGsm.mnc
      lac := gsm.cellIdentityGsm.lac
      cid := gsm.cellIdentityGsm.cid
      arfcn := gsm.cellIdentityGsm.arfcn
      bsic := gsm.cellIdentityGsm.bsic }
  signalStrengthGsm := gsm.signalStrengthGsm

def convertWcdma (wcdma : RilCellInfoWcdma) : CellInfoWcdma where
  cellIdentityWcdma :=
    { mcc := toStringBytes wcdma.cellIdentityWcdma.mcc.toInt
      mnc := Mnc.decode wcdma.cellIdentityWcdma.mnc
      lac := wcdma.cellIdentityWcdma.lac
      cid := wcdma.cellIdentityWcdma.cid
      psc := wcdma.cellIdentityWcdma.psc
      uarfcn := wcdma.cellIdentityWcdma.uarfcn }
  signalStrengthWcdma := wcdma.signalStrengthWcdma

def convertLte (lte : RilCellInfoLte) : CellInfoLte where
  cellIdentityLte :=
    { mcc := toStringBytes lte.cellIdentityLte.mcc.toInt
      mnc := Mnc.decode lte.cellIdentityLte.mnc
      ci := lte.cellIdentityLte.ci
      pci := lte.cellIdentityLte.pci
      tac := lte.cellIdentityLte.tac
      earfcn := lte.cellIdentityLte.earfcn }
  signalStrengthLte := lte.signalStrengthLte

def convertTdscdma (tdscdma : RilCellInfoTdscdma) : CellInfoTdscdma where
  cellIdentityTdscdma :=
    { mcc := toStringBytes tdscdma.cellIdentityTdscdma.mcc.toInt
      mnc := Mnc.decode tdscdma.cellIdentityTdscdma.mnc
      lac := tdscdma.cellIdentityTdscdma.lac
      cid := tdscdma.cellIdentityTdscdma.cid
      cpid := tdscdma.cellIdentityTdscdma.cpid }
  signalStrengthTdscdma := tdscdma.signalStrengthTdscdma

/-- A round of `convertRilCellInfoListToHal`. All vectors are resized to 0 first. -/
def convertRilCellInfoToHal (rillCellInfo : RilCellInfo) : CellInfo :=
  let record : CellInfo :=
    { cellInfoType := int rillCellInfo.cellInfoType
      registered := rillCellInfo.registered ≠ 0
      timeStampType := int rillCellInfo.timeStampType
      timeStamp := rillCellInfo.timeStamp
      gsm := []
      cdma := []
      lte := []
      wcdma := []
      tdscdma := [] }
  match rillCellInfo.cellInfoType.toNat with
  -- RIL_CELL_INFO_TYPE_GSM
  | 1 => { record with gsm := [convertGsm rillCellInfo.cellInfo.gsm] }
  -- RIL_CELL_INFO_TYPE_WCDMA
  | 4 => { record with wcdma := [convertWcdma rillCellInfo.cellInfo.wcdma] }
  -- RIL_CELL_INFO_TYPE_CDMA
  | 2 => { record with cdma := [rillCellInfo.cellInfo.cdma] }
  -- RIL_CELL_INFO_TYPE_LTE
  | 3 => { record with lte := [convertLte rillCellInfo.cellInfo.lte] }
  -- RIL_CELL_INFO_TYPE_TD_SCDMA
  | 5 => { record with tdscdma := [convertTdscdma rillCellInfo.cellInfo.tdscdma] }
  | _ => record

/-- `convertRilCellInfoListToHal`: one `CellInfo` for each whole record in `responseLen` bytes. It
is `none` if it reads outside `response`. -/
def convertRilCellInfoListToHal (response : List Word) (responseLen : ℕ) :
    Option (List CellInfo) :=
  format.decodeArray (fun r => some (convertRilCellInfoToHal r)) response
    (responseLen / sizeof format)

/-- The test of the responses. -/
def invalid (response : Option (List Word)) (responseLen : ℕ) : Bool :=
  (response = none ∧ responseLen ≠ 0) ∨ responseLen % sizeof format ≠ 0

/-- What `getCellInfoListResponse` passes to the client. A response whose length is no multiple of
the size of a record is invalid, and then the list is empty. -/
def getCellInfoListResponse (serial : Int32) (responseType : ResponseType) (e : ℤ)
    (response : Option (List Word)) (responseLen : ℕ) :
    Option (Cards.RadioResponseInfo × List CellInfo) :=
  let responseInfo := Cards.populateResponseInfo serial responseType e
  if invalid response responseLen then
    some ({ responseInfo with
      error := if e = Errno.success then .invalidResponse else responseInfo.error }, [])
  else do
    let ret ← convertRilCellInfoListToHal (response.getD []) responseLen
    some (responseInfo, ret)

/-- The list that `cellInfoListInd` passes to the client: `some none` for an invalid response, which
it drops. -/
def cellInfoListInd (response : Option (List Word)) (responseLen : ℕ) :
    Option (Option (List CellInfo)) :=
  if invalid response responseLen then some none
  else do
    let records ← convertRilCellInfoListToHal (response.getD []) responseLen
    some (some records)

/-- `RIL_NetworkScanResult`. The array is `none` for `NULL`. -/
structure RilNetworkScanResult where
  status : Int32
  networkInfosLength : UInt32
  networkInfos : Option (List Word)
  error : Int32

structure NetworkScanResult where
  status : Int32
  error : Int32
  networkInfos : List CellInfo

/-- What `networkScanResultInd` passes to the client: the length of the array in bytes is a `size_t`
of 32 bits. -/
def networkScanResultInd (networkScanResult : RilNetworkScanResult) : Option NetworkScanResult := do
  let networkInfos ← convertRilCellInfoListToHal (networkScanResult.networkInfos.getD [])
    (networkScanResult.networkInfosLength.toNat * sizeof format % 2 ^ 32)
  some ⟨networkScanResult.status, networkScanResult.error, networkInfos⟩

/-! ### What the vendor sends -/

/-- What the vendor knows of a cell. -/
inductive Cell
  | gsm (info : RilCellInfoGsm)
  | wcdma (info : RilCellInfoWcdma)
  | cdma (info : CellInfoCdma)
  | lte (info : RilCellInfoLte)
  | tdscdma (info : RilCellInfoTdscdma)
  | other (cellInfoType : Word) (h : ¬ (1 ≤ cellInfoType.toNat ∧ cellInfoType.toNat ≤ 5))

structure SentCell where
  registered : Word
  timeStampType : Int32
  timeStamp : UInt64
  cell : Cell

/-- An `int` as a word. -/
def word (n : Int32) : Word := n.toBitVec

/-- A byte written to the address of a word. -/
def writeByte (b : UInt8) (w : Word) : Word := w.extractLsb' 8 24 ++ b.toBitVec

/-- Words written to the start of the union. What is behind them stays, as the parts have different
sizes. -/
def CellUnion.write (u : CellUnion) (words : List Word) : CellUnion :=
  fun i => words.getD i (u i)

/-- `RIL_CellInfoType` of a cell, by which the part of the union is chosen. -/
def Cell.type : Cell → Word
  | .gsm _ => 1
  | .cdma _ => 2
  | .lte _ => 3
  | .wcdma _ => 4
  | .tdscdma _ => 5
  | .other cellInfoType _ => cellInfoType

/-- The union after the vendor has filled in its part. -/
def Cell.store (u : CellUnion) : Cell → CellUnion
  | .gsm ⟨id, signal⟩ => u.write [word id.mcc, word id.mnc, word id.lac, word id.cid, word id.arfcn,
      writeByte id.bsic (u 5), word signal.signalStrength, word signal.bitErrorRate,
      word signal.timingAdvance]
  | .wcdma ⟨id, signal⟩ => u.write [word id.mcc, word id.mnc, word id.lac, word id.cid, word id.psc,
      word id.uarfcn, word signal.signalStrength, word signal.bitErrorRate]
  | .cdma ⟨id, signal, evdo⟩ => u.write [word id.networkId, word id.systemId,
      word id.basestationId, word id.longitude, word id.latitude, word signal.dbm,
      word signal.ecio, word evdo.dbm, word evdo.ecio, word evdo.signalNoiseRatio]
  | .lte ⟨id, signal⟩ => u.write [word id.mcc, word id.mnc, word id.ci, word id.pci, word id.tac,
      word id.earfcn, word signal.signalStrength, word signal.rsrp, word signal.rsrq,
      word signal.rssnr, word signal.cqi, word signal.timingAdvance]
  | .tdscdma ⟨id, signal⟩ => u.write [word id.mcc, word id.mnc, word id.lac, word id.cid,
      word id.cpid, word signal.rscp]
  | .other _ _ => u

/-- The record after the vendor has filled it in. -/
def SentCell.store (c : SentCell) (old : RilCellInfo) : RilCellInfo :=
  { old with
    cellInfoType := c.cell.type
    registered := c.registered
    timeStampType := word c.timeStampType
    timeStamp := c.timeStamp
    cellInfo := c.cell.store old.cellInfo }

/-- What the client should receive of a cell. The parts are converted as the decoder does it;
`identities_agree_iff` compares them with what the registration responses say. -/
def SentCell.hal (c : SentCell) : CellInfo :=
  let record : CellInfo :=
    { cellInfoType := int c.cell.type
      registered := c.registered ≠ 0
      timeStampType := c.timeStampType
      timeStamp := c.timeStamp
      gsm := []
      cdma := []
      lte := []
      wcdma := []
      tdscdma := [] }
  match c.cell with
  | .gsm info => { record with gsm := [convertGsm info] }
  | .wcdma info => { record with wcdma := [convertWcdma info] }
  | .cdma info => { record with cdma := [info] }
  | .lte info => { record with lte := [convertLte info] }
  | .tdscdma info => { record with tdscdma := [convertTdscdma info] }
  | .other _ _ => record

/-! ### Delivery -/

section Delivery

variable {u : CellUnion}

theorem byte_writeByte (b : UInt8) (w : Word) : byte (writeByte b w) = b :=
  congrArg UInt8.ofBitVec BitVec.setWidth_append_eq_right

/-- The part that the vendor has filled in is read back. -/
theorem gsm_store (info : RilCellInfoGsm) : (Cell.store u (.gsm info)).gsm = info := by
  obtain ⟨id, signal⟩ := info
  have hbsic : byte (Cell.store u (.gsm ⟨id, signal⟩) 5) = id.bsic := byte_writeByte _ _
  rw [CellUnion.gsm, hbsic]
  rfl

/-- **A record says what the vendor has filled in**, whatever was there before. -/
theorem convertRilCellInfoToHal_store (c : SentCell) (old : RilCellInfo) :
    convertRilCellInfoToHal (c.store old) = c.hal := by
  obtain ⟨registered, timeStampType, timeStamp, cell⟩ := c
  cases cell with
  | gsm info =>
    let sent : SentCell := ⟨registered, timeStampType, timeStamp, .gsm info⟩
    have hgsm := congrArg convertGsm (@gsm_store old.cellInfo info)
    exact congrArg (fun gsm => { sent.hal with gsm := [gsm] }) hgsm
  -- the other parts have whole words only
  | wcdma info | cdma info | lte info | tdscdma info => rfl
  | other cellInfoType h =>
    -- a type that the `switch` does not know
    have hother : ∀ n, 1 ≤ n → n ≤ 5 → cellInfoType.toNat ≠ n := by
      rintro n hpos hle rfl
      exact h ⟨hpos, hle⟩
    unfold convertRilCellInfoToHal SentCell.store Cell.type
    dsimp only
    split
    · next heq => exact absurd heq (hother 1 (by decide) (by decide))
    · next heq => exact absurd heq (hother 4 (by decide) (by decide))
    · next heq => exact absurd heq (hother 2 (by decide) (by decide))
    · next heq => exact absurd heq (hother 3 (by decide) (by decide))
    · next heq => exact absurd heq (hother 5 (by decide) (by decide))
    · rfl

/-- The memory of an array of cells, over the records that were there. The words that no field
writes keep what they had. -/
def sentMemory (cells : List (SentCell × RilCellInfo)) : List Word :=
  format.writeArray (cells.map fun c => c.1.store c.2)

theorem sizeof_format_pos : 0 < sizeof format := Nat.succ_pos 71

theorem mapM_some {α β : Type} (f : α → β) (xs : List α) :
    xs.mapM (fun x => some (f x)) = some (xs.map f) := by
  induction xs with
  | nil => rfl
  | cons x xs ih =>
    rw [List.mapM_cons, ih]
    rfl

theorem convertRilCellInfoListToHal_sentMemory (cells : List (SentCell × RilCellInfo)) :
    convertRilCellInfoListToHal (sentMemory cells) (cells.length * sizeof format) =
      some (cells.map fun c => c.1.hal) := by
  have hlength : cells.length * sizeof format / sizeof format =
      (cells.map fun c => c.1.store c.2).length := by
    rw [List.length_map, Nat.mul_div_cancel _ sizeof_format_pos]
  calc convertRilCellInfoListToHal (sentMemory cells) (cells.length * sizeof format)
      = format.decodeArray (fun r => some (convertRilCellInfoToHal r))
          (format.writeArray (cells.map fun c => c.1.store c.2))
          (cells.map fun c => c.1.store c.2).length := by
        rw [convertRilCellInfoListToHal, hlength]
        rfl
    _ = some ((cells.map fun c => c.1.store c.2).map convertRilCellInfoToHal) := by
        rw [format.decodeArray_writeArray, mapM_some]
    _ = some (cells.map fun c => c.1.hal) := by
        rw [List.map_map]
        exact congrArg some (List.map_congr_left fun c _ => convertRilCellInfoToHal_store c.1 c.2)

/-- Whole records are no invalid response. -/
theorem invalid_sentMemory (cells : List (SentCell × RilCellInfo)) :
    invalid (some (sentMemory cells)) (cells.length * sizeof format) = false := by
  refine decide_eq_false ?_
  rintro (⟨hnone, -⟩ | hmod)
  · exact absurd hnone (Option.some_ne_none _)
  · exact hmod (Nat.mul_mod_left _ _)

/-- **The client receives the cells that were sent**, in their order, from the response and from
both indications, whatever the unused memory contains. An array of cells is shorter than the address
space. -/
theorem cells_delivered (cells : List (SentCell × RilCellInfo))
    (hsize : cells.length * sizeof format < 2 ^ 32) :
    (∀ serial responseType e,
      getCellInfoListResponse serial responseType e (some (sentMemory cells))
          (cells.length * sizeof format) =
        some (Cards.populateResponseInfo serial responseType e, cells.map fun c => c.1.hal)) ∧
    cellInfoListInd (some (sentMemory cells)) (cells.length * sizeof format) =
      some (some (cells.map fun c => c.1.hal)) ∧
    ∀ status error,
      networkScanResultInd ⟨status, UInt32.ofNat cells.length, some (sentMemory cells), error⟩ =
        some ⟨status, error, cells.map fun c => c.1.hal⟩ := by
  have hlist := convertRilCellInfoListToHal_sentMemory cells
  refine ⟨fun serial responseType e => ?_, ?_, fun status error => ?_⟩
  · -- the two responses take the list as it is
    rw [getCellInfoListResponse, invalid_sentMemory, if_neg Bool.false_ne_true, Option.getD_some,
      hlist]
    rfl
  · rw [cellInfoListInd, invalid_sentMemory, if_neg Bool.false_ne_true, Option.getD_some, hlist]
    rfl
  · -- the product does not wrap
    have hcount : (UInt32.ofNat cells.length).toNat = cells.length := by
      refine UInt32.toNat_ofNat_of_lt' ?_
      exact Nat.lt_of_le_of_lt (Nat.le_mul_of_pos_right _ sizeof_format_pos) hsize
    -- the scan result takes the number of records instead of the size
    rw [networkScanResultInd, Option.getD_some, hcount, Nat.mod_eq_of_lt hsize, hlist]
    rfl

/-- An LTE cell of the network 262-02. -/
def lteCell : SentCell where
  registered := 1
  timeStampType := 3
  timeStamp := 0x100000000
  cell := .lte ⟨⟨262, 0x20000002, 1, 2, 3, 4⟩, ⟨20, 90, 10, 100, 7, 1⟩⟩

/-- A record in memory that has been used before. -/
def usedRecord : RilCellInfo := ⟨7, 7, 7, 7, 7, fun _ => 7⟩

theorem cells_delivered_lte :
    (∀ serial responseType e,
      getCellInfoListResponse serial responseType e (some (sentMemory [(lteCell, usedRecord)]))
          (1 * sizeof format) =
        some (Cards.populateResponseInfo serial responseType e, [lteCell.hal])) ∧
    cellInfoListInd (some (sentMemory [(lteCell, usedRecord)])) (1 * sizeof format) =
      some (some [lteCell.hal]) ∧
    ∀ status error,
      networkScanResultInd ⟨status, 1, some (sentMemory [(lteCell, usedRecord)]), error⟩ =
        some ⟨status, error, [lteCell.hal]⟩ :=
  cells_delivered [(lteCell, usedRecord)] (by decide)

end Delivery

/-! ### Cells that can be told apart -/

/-- An MNC as it is passed on: the code of two or three digits, or unknown. -/
def MncCode (n : Int32) : Prop :=
  n = Mnc.intMax ∨ ∃ mnc : Mnc.StdString, Mnc.IsMnc mnc.1 ∧ Mnc.encodeString mnc = some n

/-- The MNC of a cell, if it has one. -/
def Cell.mncs : Cell → List Int32
  | .gsm info => [info.cellIdentityGsm.mnc]
  | .wcdma info => [info.cellIdentityWcdma.mnc]
  | .lte info => [info.cellIdentityLte.mnc]
  | .tdscdma info => [info.cellIdentityTdscdma.mnc]
  | .cdma _ | .other _ _ => []

/-- The MNC of the cell is one that `encode` gives, so that it can be decoded. -/
def SentCell.WellCoded (c : SentCell) : Prop := ∀ n ∈ c.cell.mncs, MncCode n

/-- Two cells differ at most in the number for "registered", which is only asked whether it is
zero. -/
structure SentCell.Same (c c' : SentCell) : Prop where
  registered : c.registered ≠ 0 ↔ c'.registered ≠ 0
  timeStampType : c.timeStampType = c'.timeStampType
  timeStamp : c.timeStamp = c'.timeStamp
  cell : c.cell = c'.cell

section ToldApart

theorem toList_loop (bytes : ByteArray) (i : ℕ) (r : List UInt8) :
    ByteArray.toList.loop bytes i r = r.reverse ++ bytes.data.toList.drop i := by
  fun_induction ByteArray.toList.loop bytes i r with
  | case1 i r hi ih =>
    have hlt : i < bytes.data.toList.length := hi
    have hget : bytes.get! i = bytes.data.toList[i] := by
      rw [Array.getElem_toList]
      exact getElem!_pos bytes.data i hi
    rw [ih, List.reverse_cons, List.append_assoc, List.drop_eq_getElem_cons hlt, hget]
    rfl
  | case2 i r hi =>
    have hle : bytes.data.toList.length ≤ i := Nat.not_lt.mp hi
    rw [List.drop_of_length_le hle, List.append_nil]

theorem stringBytes_eq (s : String) : stringBytes s = s.toUTF8.data.toList :=
  toList_loop s.toUTF8 0 []

theorem stringBytes_injective {s t : String} (h : stringBytes s = stringBytes t) : s = t := by
  rw [stringBytes_eq, stringBytes_eq] at h
  exact String.toByteArray_inj.mp (ByteArray.ext (Array.toList_inj.mp h))

theorem toStringBytes_injective {m n : ℤ} (h : toStringBytes m = toStringBytes n) : m = n :=
  Int.repr_injective (stringBytes_injective h)

/-- Different MNCs have different texts. -/
theorem decode_injective {n n' : Int32} (hn : MncCode n) (hn' : MncCode n')
    (h : Mnc.decode n = Mnc.decode n') : n = n' := by
  -- the code for an unknown MNC decodes to no digits, and every MNC has some
  have hunknown : Mnc.decode Mnc.intMax = [] := if_pos (.inl rfl)
  have hlength : ∀ mnc : Mnc.StdString, Mnc.IsMnc mnc.1 → mnc.1 ≠ [] := by
    intro mnc hmnc hnil
    obtain ⟨hdigits, -⟩ := hmnc
    rw [hnil] at hdigits
    exact hdigits.elim nofun nofun
  -- what was encoded from an MNC decodes to that MNC
  have hcoded : ∀ mnc m, Mnc.IsMnc mnc.1 → Mnc.encodeString mnc = some m → Mnc.decode m = mnc.1 :=
    fun mnc m hmnc hm => (Mnc.mnc_codec.2.1 mnc m hm).mpr hmnc
  obtain rfl | ⟨mnc, hmnc, henc⟩ := hn
  · obtain rfl | ⟨mnc', hmnc', henc'⟩ := hn'
    · rfl
    · rw [hunknown, hcoded mnc' n' hmnc' henc'] at h
      exact absurd h.symm (hlength mnc' hmnc')
  · obtain rfl | ⟨mnc', hmnc', henc'⟩ := hn'
    · rw [hunknown, hcoded mnc n hmnc henc] at h
      exact absurd h (hlength mnc hmnc)
    · -- both were encoded from an MNC, and it is the same one
      rw [hcoded mnc n hmnc henc, hcoded mnc' n' hmnc' henc'] at h
      obtain rfl := Subtype.ext h
      exact Option.some.inj (henc.symm.trans henc')

/-- The codes of country and network can be read back from their texts. -/
theorem plmn_injective {mcc mcc' mnc mnc' : Int32} (hn : MncCode mnc) (hn' : MncCode mnc')
    (hmcc : toStringBytes mcc.toInt = toStringBytes mcc'.toInt)
    (hmnc : Mnc.decode mnc = Mnc.decode mnc') : mcc = mcc' ∧ mnc = mnc' :=
  ⟨Int32.toInt_inj.mp (toStringBytes_injective hmcc), decode_injective hn hn' hmnc⟩

theorem convertGsm_injective {g g' : RilCellInfoGsm} (hg : MncCode g.cellIdentityGsm.mnc)
    (hg' : MncCode g'.cellIdentityGsm.mnc) (h : convertGsm g = convertGsm g') : g = g' := by
  obtain ⟨⟨mcc, mnc, lac, cid, arfcn, bsic⟩, signal⟩ := g
  obtain ⟨⟨mcc', mnc', lac', cid', arfcn', bsic'⟩, signal'⟩ := g'
  simp only [convertGsm, CellInfoGsm.mk.injEq, CellIdentityGsm.mk.injEq] at h
  obtain ⟨⟨hmcc, hmnc, rfl, rfl, rfl, rfl⟩, rfl⟩ := h
  obtain ⟨rfl, rfl⟩ := plmn_injective hg hg' hmcc hmnc
  rfl

theorem convertWcdma_injective {g g' : RilCellInfoWcdma} (hg : MncCode g.cellIdentityWcdma.mnc)
    (hg' : MncCode g'.cellIdentityWcdma.mnc) (h : convertWcdma g = convertWcdma g') : g = g' := by
  obtain ⟨⟨mcc, mnc, lac, cid, psc, uarfcn⟩, signal⟩ := g
  obtain ⟨⟨mcc', mnc', lac', cid', psc', uarfcn'⟩, signal'⟩ := g'
  simp only [convertWcdma, CellInfoWcdma.mk.injEq, CellIdentityWcdma.mk.injEq] at h
  obtain ⟨⟨hmcc, hmnc, rfl, rfl, rfl, rfl⟩, rfl⟩ := h
  obtain ⟨rfl, rfl⟩ := plmn_injective hg hg' hmcc hmnc
  rfl

theorem convertLte_injective {g g' : RilCellInfoLte} (hg : MncCode g.cellIdentityLte.mnc)
    (hg' : MncCode g'.cellIdentityLte.mnc) (h : convertLte g = convertLte g') : g = g' := by
  obtain ⟨⟨mcc, mnc, ci, pci, tac, earfcn⟩, signal⟩ := g
  obtain ⟨⟨mcc', mnc', ci', pci', tac', earfcn'⟩, signal'⟩ := g'
  simp only [convertLte, CellInfoLte.mk.injEq, CellIdentityLte.mk.injEq] at h
  obtain ⟨⟨hmcc, hmnc, rfl, rfl, rfl, rfl⟩, rfl⟩ := h
  obtain ⟨rfl, rfl⟩ := plmn_injective hg hg' hmcc hmnc
  rfl

theorem convertTdscdma_injective {g g' : RilCellInfoTdscdma}
    (hg : MncCode g.cellIdentityTdscdma.mnc) (hg' : MncCode g'.cellIdentityTdscdma.mnc)
    (h : convertTdscdma g = convertTdscdma g') : g = g' := by
  obtain ⟨⟨mcc, mnc, lac, cid, cpid⟩, signal⟩ := g
  obtain ⟨⟨mcc', mnc', lac', cid', cpid'⟩, signal'⟩ := g'
  simp only [convertTdscdma, CellInfoTdscdma.mk.injEq, CellIdentityTdscdma.mk.injEq] at h
  obtain ⟨⟨hmcc, hmnc, rfl, rfl, rfl⟩, rfl⟩ := h
  obtain ⟨rfl, rfl⟩ := plmn_injective hg hg' hmcc hmnc
  rfl

section Parts

variable {c c' : SentCell}

/-- A part of a `CellInfo` tells which cell it is of. -/
theorem SentCell.gsm_eq {part : CellInfoGsm} (h : c.hal.gsm = [part]) :
    ∃ info, c.cell = .gsm info ∧ convertGsm info = part := by
  obtain ⟨_, _, _, cell⟩ := c
  cases cell with
  | gsm info => exact ⟨info, rfl, List.singleton_inj.mp h⟩
  | _ => exact absurd h (List.cons_ne_nil _ _).symm

theorem SentCell.wcdma_eq {part : CellInfoWcdma} (h : c.hal.wcdma = [part]) :
    ∃ info, c.cell = .wcdma info ∧ convertWcdma info = part := by
  obtain ⟨_, _, _, cell⟩ := c
  cases cell with
  | wcdma info => exact ⟨info, rfl, List.singleton_inj.mp h⟩
  | _ => exact absurd h (List.cons_ne_nil _ _).symm

theorem SentCell.cdma_eq {part : CellInfoCdma} (h : c.hal.cdma = [part]) :
    c.cell = .cdma part := by
  obtain ⟨_, _, _, cell⟩ := c
  cases cell with
  | cdma info => exact congrArg Cell.cdma (List.singleton_inj.mp h)
  | _ => exact absurd h (List.cons_ne_nil _ _).symm

theorem SentCell.lte_eq {part : CellInfoLte} (h : c.hal.lte = [part]) :
    ∃ info, c.cell = .lte info ∧ convertLte info = part := by
  obtain ⟨_, _, _, cell⟩ := c
  cases cell with
  | lte info => exact ⟨info, rfl, List.singleton_inj.mp h⟩
  | _ => exact absurd h (List.cons_ne_nil _ _).symm

theorem SentCell.tdscdma_eq {part : CellInfoTdscdma} (h : c.hal.tdscdma = [part]) :
    ∃ info, c.cell = .tdscdma info ∧ convertTdscdma info = part := by
  obtain ⟨_, _, _, cell⟩ := c
  cases cell with
  | tdscdma info => exact ⟨info, rfl, List.singleton_inj.mp h⟩
  | _ => exact absurd h (List.cons_ne_nil _ _).symm

/-- A known type is not that of another cell. -/
theorem Cell.other_eq {cell : Cell} {t : Word} {h : ¬ (1 ≤ t.toNat ∧ t.toNat ≤ 5)}
    (htype : cell.type = t) : cell = .other t h := by
  subst htype
  cases cell with
  | other => rfl
  | _ => exact absurd ⟨Nat.le_of_ble_eq_true rfl, Nat.le_of_ble_eq_true rfl⟩ h

theorem SentCell.type_eq (h : c.hal = c'.hal) : c.cell.type = c'.cell.type := by
  have htype : ∀ c : SentCell, c.hal.cellInfoType = int c.cell.type := by
    rintro ⟨_, _, _, cell⟩
    cases cell <;> rfl
  have hint : int c.cell.type = int c'.cell.type := by rw [← htype, ← htype, h]
  exact congrArg Int32.toBitVec hint

/-- The `CellInfo` tells which cell it is of. The type tells which of the parts was filled, and that
part determines the record, given that the MNC in it is coded. Nothing else of the record is
delivered. -/
theorem SentCell.cell_eq (hc : c.WellCoded) (hc' : c'.WellCoded) (h : c.hal = c'.hal) :
    c.cell = c'.cell := by
  -- the type that is delivered tells which of the parts was filled
  have htype := SentCell.type_eq h
  obtain ⟨registered, timeStampType, timeStamp, cell⟩ := c
  cases cell with
  -- the delivered part determines the record, given that its MNC is coded
  | gsm info =>
    obtain ⟨info', hcell, hpart⟩ := SentCell.gsm_eq (congrArg CellInfo.gsm h).symm
    rw [SentCell.WellCoded, hcell] at hc'
    have hcode := hc info.cellIdentityGsm.mnc List.mem_cons_self
    have hcode' := hc' info'.cellIdentityGsm.mnc List.mem_cons_self
    rw [hcell, convertGsm_injective hcode' hcode hpart]
  | wcdma info =>
    obtain ⟨info', hcell, hpart⟩ := SentCell.wcdma_eq (congrArg CellInfo.wcdma h).symm
    rw [SentCell.WellCoded, hcell] at hc'
    have hcode := hc info.cellIdentityWcdma.mnc List.mem_cons_self
    have hcode' := hc' info'.cellIdentityWcdma.mnc List.mem_cons_self
    rw [hcell, convertWcdma_injective hcode' hcode hpart]
  -- a CDMA cell has no codes, so its part determines it at once
  | cdma info => exact (SentCell.cdma_eq (congrArg CellInfo.cdma h).symm).symm
  | lte info =>
    obtain ⟨info', hcell, hpart⟩ := SentCell.lte_eq (congrArg CellInfo.lte h).symm
    rw [SentCell.WellCoded, hcell] at hc'
    have hcode := hc info.cellIdentityLte.mnc List.mem_cons_self
    have hcode' := hc' info'.cellIdentityLte.mnc List.mem_cons_self
    rw [hcell, convertLte_injective hcode' hcode hpart]
  | tdscdma info =>
    obtain ⟨info', hcell, hpart⟩ := SentCell.tdscdma_eq (congrArg CellInfo.tdscdma h).symm
    rw [SentCell.WellCoded, hcell] at hc'
    have hcode := hc info.cellIdentityTdscdma.mnc List.mem_cons_self
    have hcode' := hc' info'.cellIdentityTdscdma.mnc List.mem_cons_self
    rw [hcell, convertTdscdma_injective hcode' hcode hpart]
  -- nothing was delivered but the type
  | other t ht => exact (Cell.other_eq htype.symm).symm

/-- The other fields do not depend on the cell. -/
theorem SentCell.hal_header (c : SentCell) : c.hal.registered = decide (c.registered ≠ 0) ∧
    c.hal.timeStampType = c.timeStampType ∧ c.hal.timeStamp = c.timeStamp := by
  obtain ⟨_, _, _, cell⟩ := c
  cases cell <;> exact ⟨rfl, rfl, rfl⟩

theorem SentCell.hal_eq_iff (hc : c.WellCoded) (hc' : c'.WellCoded) :
    c.hal = c'.hal ↔ c.Same c' := by
  -- the header of a delivered cell: registered or not, and the time
  obtain ⟨hregistered, htype, htime⟩ := c.hal_header
  obtain ⟨hregistered', htype', htime'⟩ := c'.hal_header
  constructor
  · intro h
    rw [h] at hregistered htype htime
    exact
      { registered := decide_eq_decide.mp (hregistered.symm.trans hregistered')
        timeStampType := htype.symm.trans htype'
        timeStamp := htime.symm.trans htime'
        cell := SentCell.cell_eq hc hc' h }
  · -- registered is read as a truth value, so only that must agree
    intro h
    obtain ⟨registered, timeStampType, timeStamp, cell⟩ := c
    obtain ⟨registered', timeStampType', timeStamp', cell'⟩ := c'
    obtain ⟨hsame, rfl, rfl, rfl⟩ := h
    have hdecide : decide (registered ≠ 0) = decide (registered' ≠ 0) :=
      decide_eq_decide.mpr hsame
    unfold SentCell.hal
    rw [hdecide]

end Parts

/-- **The client can tell apart any two lists of cells** that do not agree in everything but the
number for "registered". -/
theorem cells_told_apart {cells cells' : List SentCell} (h : ∀ c ∈ cells, c.WellCoded)
    (h' : ∀ c ∈ cells', c.WellCoded) :
    cells.map SentCell.hal = cells'.map SentCell.hal ↔ List.Forall₂ SentCell.Same cells cells' := by
  induction cells generalizing cells' with
  | nil =>
    rw [List.map_nil, List.forall₂_nil_left_iff]
    exact eq_comm.trans List.map_eq_nil_iff
  | cons c cells ih =>
    cases cells' with
    | nil => exact iff_of_false (List.cons_ne_nil _ _) nofun
    | cons c' cells' =>
      rw [List.forall_mem_cons] at h h'
      rw [List.map_cons, List.map_cons, List.cons.injEq, List.forall₂_cons,
        SentCell.hal_eq_iff h.1 h'.1, ih h.2 h'.2]

theorem lteCell_wellCoded : lteCell.WellCoded := by
  intro n hn
  obtain rfl := List.mem_singleton.mp hn
  exact .inr ⟨⟨[48, 50], by decide⟩, ⟨.inl rfl, by simp⟩, rfl⟩

theorem cells_told_apart_registered :
    [lteCell].map SentCell.hal = [{ lteCell with registered := 5 }].map SentCell.hal ↔
      List.Forall₂ SentCell.Same [lteCell] [{ lteCell with registered := 5 }] := by
  refine cells_told_apart (fun c hc => ?_) fun c hc => ?_
  · rw [List.mem_singleton.mp hc]
    exact lteCell_wellCoded
  · rw [List.mem_singleton.mp hc]
    exact lteCell_wellCoded

end ToldApart

/-! ### Any memory -/

/-- The vectors of a `CellInfo` are those of its type: one element in the vector of the type, and
none in the others. -/
structure OnePart (r : CellInfo) : Prop where
  gsm : r.gsm.length = if r.cellInfoType = 1 then 1 else 0
  cdma : r.cdma.length = if r.cellInfoType = 2 then 1 else 0
  lte : r.lte.length = if r.cellInfoType = 3 then 1 else 0
  wcdma : r.wcdma.length = if r.cellInfoType = 4 then 1 else 0
  tdscdma : r.tdscdma.length = if r.cellInfoType = 5 then 1 else 0

theorem int_eq_iff {w : Word} {n : Int32} : int w = n ↔ w.toNat = n.toBitVec.toNat := by
  constructor
  · rintro rfl
    rfl
  · intro h
    exact congrArg Int32.ofBitVec (BitVec.eq_of_toNat_eq h)

theorem onePart_convertRilCellInfoToHal (r : RilCellInfo) :
    OnePart (convertRilCellInfoToHal r) := by
  unfold convertRilCellInfoToHal
  dsimp only
  -- one case for each type that the `switch` knows, and one for the others
  split
  all_goals constructor <;> simp [int_eq_iff, *] <;> assumption

/-- **Of any memory each record becomes a `CellInfo` with the part of its type**, or without a part,
and nothing outside the memory is read. This is so whatever numbers the vendor has left in the
unused words. -/
theorem convertRilCellInfoListToHal_any (response : List Word) (h : response.length % 18 = 0) :
    ∃ records, convertRilCellInfoListToHal response (4 * response.length) = some records ∧
      records.length = response.length / 18 ∧ ∀ r ∈ records, OnePart r := by
  have hnum : 4 * response.length / sizeof format = response.length / 18 :=
    Nat.mul_div_mul_left _ 18 (show 0 < 4 by decide)
  have hfull : response.length = response.length / 18 * format.size :=
    (Nat.div_mul_cancel (Nat.dvd_of_mod_eq_zero h)).symm
  unfold convertRilCellInfoListToHal
  rw [hnum]
  obtain ⟨records, hrecords⟩ :=
    format.decodeArray_isSome hfull fun r => ⟨convertRilCellInfoToHal r, rfl⟩
  refine ⟨records, hrecords, format.length_of_decodeArray hrecords, fun r hr => ?_⟩
  obtain ⟨record, heq⟩ := format.exists_of_mem_decodeArray hrecords hr
  rw [← Option.some.inj heq]
  exact onePart_convertRilCellInfoToHal record

theorem convertRilCellInfoListToHal_any_used :
    ∃ records, convertRilCellInfoListToHal (List.replicate 18 7)
        (4 * (List.replicate 18 (7 : Word)).length) = some records ∧
      records.length = (List.replicate 18 (7 : Word)).length / 18 ∧ ∀ r ∈ records, OnePart r :=
  convertRilCellInfoListToHal_any (List.replicate 18 7) rfl

/-! ### The registration responses -/

/-- The registration of a cell: its identity, in a record that was used before. A cell of no known
type is registered as one without a type. -/
def Cell.registration (old : RilCellIdentity) : Cell → RilCellIdentity
  | .gsm info => { old with cellInfoType := .gsm, cellIdentityGsm := info.cellIdentityGsm }
  | .wcdma info => { old with cellInfoType := .wcdma, cellIdentityWcdma := info.cellIdentityWcdma }
  | .cdma info => { old with cellInfoType := .cdma, cellIdentityCdma := info.cellIdentityCdma }
  | .lte info => { old with cellInfoType := .lte, cellIdentityLte := info.cellIdentityLte }
  | .tdscdma info =>
      { old with cellInfoType := .tdScdma, cellIdentityTdscdma := info.cellIdentityTdscdma }
  | .other _ _ => { old with cellInfoType := .none }

/-- The country code of a cell, if it has one. A CDMA cell has none. -/
def Cell.mccs : Cell → List Int32
  | .gsm info => [info.cellIdentityGsm.mcc]
  | .wcdma info => [info.cellIdentityWcdma.mcc]
  | .lte info => [info.cellIdentityLte.mcc]
  | .tdscdma info => [info.cellIdentityTdscdma.mcc]
  | .cdma _ | .other _ _ => []

/-- The identities in a `CellInfo` are those of a registration, vector by vector, so that a client
that compares the two finds them equal. -/
structure CellInfo.Identifies (record : CellInfo) (id : CellIdentity) : Prop where
  gsm : record.gsm.map (·.cellIdentityGsm) = id.cellIdentityGsm
  wcdma : record.wcdma.map (·.cellIdentityWcdma) = id.cellIdentityWcdma
  cdma : record.cdma.map (·.cellIdentityCdma) = id.cellIdentityCdma
  lte : record.lte.map (·.cellIdentityLte) = id.cellIdentityLte
  tdscdma : record.tdscdma.map (·.cellIdentityTdscdma) = id.cellIdentityTdscdma

/-- The signal strengths in a `CellInfo` are those of a cell, in the vector of its type. -/
def Cell.SignalsIn (record : CellInfo) : Cell → Prop
  | .gsm info => record.gsm.map (·.signalStrengthGsm) = [info.signalStrengthGsm]
  | .wcdma info => record.wcdma.map (·.signalStrengthWcdma) = [info.signalStrengthWcdma]
  | .cdma info => record.cdma.map (·.signalStrengthCdma) = [info.signalStrengthCdma] ∧
      record.cdma.map (·.signalStrengthEvdo) = [info.signalStrengthEvdo]
  | .lte info => record.lte.map (·.signalStrengthLte) = [info.signalStrengthLte]
  | .tdscdma info => record.tdscdma.map (·.signalStrengthTdscdma) = [info.signalStrengthTdscdma]
  | .other _ _ => True

/-- The registration responses have an empty text for the country code -1, and no other one. -/
theorem toStringBytes_eq_mccString_iff (mcc : Int32) :
    toStringBytes mcc.toInt = mccString mcc ↔ mcc ≠ -1 := by
  have hminus : toStringBytes mcc.toInt = stringBytes "-1" ↔ mcc = -1 := by
    constructor
    · intro h
      exact Int32.toInt_inj.mp (toStringBytes_injective h)
    · rintro rfl
      rfl
  unfold mccString
  dsimp only
  by_cases h : mcc = -1
  · rw [if_pos (hminus.mpr h), hminus.mpr h, stringBytes_eq]
    exact iff_of_false (by decide) (not_not_intro h)
  · rw [if_neg (mt hminus.mp h)]
    exact iff_of_true rfl h

/-- Two vectors that differ at most in the country code are equal unless that is -1. -/
theorem vector_eq_iff {Id : Type} (withMcc : HidlString → Id) (mccOf : Id → HidlString)
    (h : ∀ mcc, mccOf (withMcc mcc) = mcc) (mcc : Int32) :
    [withMcc (toStringBytes mcc.toInt)] = [withMcc (mccString mcc)] ↔ mcc ≠ -1 := by
  rw [List.singleton_inj, ← toStringBytes_eq_mccString_iff]
  constructor
  · intro heq
    rw [← h (toStringBytes mcc.toInt), heq, h]
  · intro heq
    rw [heq]

/-- What the cell list says of a cell is what its registration says, unless the country code is -1.
-/
theorem SentCell.identifies_iff (c : SentCell) (old : RilCellIdentity) :
    c.hal.Identifies (fillCellIdentityResponse (c.cell.registration old)) ↔
      ∀ mcc ∈ c.cell.mccs, mcc ≠ -1 := by
  obtain ⟨registered, timeStampType, timeStamp, cell⟩ := c
  -- by the technology: one part has the country code, the others are empty in both
  cases cell with
  | gsm info =>
    have hvector := vector_eq_iff
      (fun mcc => { (convertGsm info).cellIdentityGsm with mcc }) (·.mcc) (fun _ => rfl)
      info.cellIdentityGsm.mcc
    rw [Cell.mccs, List.forall_mem_singleton]
    exact ⟨fun h => hvector.mp h.gsm, fun h => ⟨hvector.mpr h, rfl, rfl, rfl, rfl⟩⟩
  | wcdma info =>
    have hvector := vector_eq_iff
      (fun mcc => { (convertWcdma info).cellIdentityWcdma with mcc }) (·.mcc) (fun _ => rfl)
      info.cellIdentityWcdma.mcc
    rw [Cell.mccs, List.forall_mem_singleton]
    exact ⟨fun h => hvector.mp h.wcdma, fun h => ⟨rfl, hvector.mpr h, rfl, rfl, rfl⟩⟩
  | lte info =>
    have hvector := vector_eq_iff
      (fun mcc => { (convertLte info).cellIdentityLte with mcc }) (·.mcc) (fun _ => rfl)
      info.cellIdentityLte.mcc
    rw [Cell.mccs, List.forall_mem_singleton]
    exact ⟨fun h => hvector.mp h.lte, fun h => ⟨rfl, rfl, rfl, hvector.mpr h, rfl⟩⟩
  | tdscdma info =>
    have hvector := vector_eq_iff
      (fun mcc => { (convertTdscdma info).cellIdentityTdscdma with mcc }) (·.mcc) (fun _ => rfl)
      info.cellIdentityTdscdma.mcc
    rw [Cell.mccs, List.forall_mem_singleton]
    exact ⟨fun h => hvector.mp h.tdscdma, fun h => ⟨rfl, rfl, rfl, rfl, hvector.mpr h⟩⟩
  -- no country code
  | cdma info | other t h => exact iff_of_true ⟨rfl, rfl, rfl, rfl, rfl⟩ (List.forall_mem_nil _)

theorem SentCell.signalsIn (c : SentCell) : c.cell.SignalsIn c.hal := by
  obtain ⟨registered, timeStampType, timeStamp, cell⟩ := c
  cases cell with
  | gsm info | wcdma info | lte info | tdscdma info => rfl
  | cdma info => exact ⟨rfl, rfl⟩
  | other t h => trivial

/-- **What the cell list says of a cell is what a registration response says of it**, with the
signal strengths that were sent, unless the country code is -1, for which the registration responses
have an empty text. -/
theorem identities_agree_iff (cells : List (SentCell × RilCellInfo)) (old : RilCellIdentity) :
    ∃ records, convertRilCellInfoListToHal (sentMemory cells) (cells.length * sizeof format) =
        some records ∧
      List.Forall₂ (fun c record => c.1.cell.SignalsIn record ∧
        (record.Identifies (fillCellIdentityResponse (c.1.cell.registration old)) ↔
          ∀ mcc ∈ c.1.cell.mccs, mcc ≠ -1)) cells records := by
  refine ⟨_, convertRilCellInfoListToHal_sentMemory cells, ?_⟩
  rw [List.forall₂_map_right_iff, List.forall₂_same]
  exact fun c _ => ⟨c.1.signalsIn, c.1.identifies_iff old⟩

end BlueCommon.Ril.Cells
