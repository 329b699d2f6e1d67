import BlueCommon.Ril.Hidl
import BlueCommon.Ril.Mnc

/-!
# Cell identities

A vendor of the old interface answers the registration requests with an array of strings: the radio
technology is a decimal number, the area code and the cell id are hexadecimal ones. libril fills a
`CellIdentity` from these, with a part for the technology at hand only.

The strings are read by `strtol`, whose result is a `long`. Here it has 32 bits, so that greater
numbers become the greatest one.

* `convertResponseHexStringEntryToInt_eq`: what becomes of a hexadecimal number.
* `fillCellIdentityFromVoiceRegStateResponseString_cids`,
  `fillCellIdentityFromDataRegStateResponseString_cids`: which cell id arrives.
* `cell_id_exact_iff`: the cell ids that arrive as they are, and those that can be told apart.
-/

namespace BlueCommon.Ril

open Numerals

/-! ### Records -/

/-- `RIL_CellInfoType`, and the `CellInfoType` of HIDL. -/
inductive CellInfoType
  | none
  | gsm
  | cdma
  | lte
  | wcdma
  | tdScdma
  deriving DecidableEq

/-- `RIL_CellIdentityGsm_v12`. The country and the network code are numbers here, and the cell id is
an `int`. -/
structure RilCellIdentityGsm where
  mcc : Int32
  mnc : Int32
  lac : Int32
  cid : Int32
  arfcn : Int32
  bsic : UInt8

/-- `RIL_CellIdentityWcdma_v12`, with the same codes and the same cell id. -/
structure RilCellIdentityWcdma where
  mcc : Int32
  mnc : Int32
  lac : Int32
  cid : Int32
  psc : Int32
  uarfcn : Int32

/-- `RIL_CellIdentityLte_v12`, whose cell id is called `ci`. -/
structure RilCellIdentityLte where
  mcc : Int32
  mnc : Int32
  ci : Int32
  pci : Int32
  tac : Int32
  earfcn : Int32

/-- `RIL_CellIdentityTdscdma`, with the same codes and the same cell id. -/
structure RilCellIdentityTdscdma where
  mcc : Int32
  mnc : Int32
  lac : Int32
  cid : Int32
  cpid : Int32

/-- `RIL_CellIdentityCdma`, and the `CellIdentityCdma` of HIDL. -/
structure CellIdentityCdma where
  networkId : Int32
  systemId : Int32
  basestationId : Int32
  longitude : Int32
  latitude : Int32

/-- `RIL_CellIdentity_v16`. The parts share their memory, and only that of the type is written and
read. -/
structure RilCellIdentity where
  cellInfoType : CellInfoType
  cellIdentityGsm : RilCellIdentityGsm
  cellIdentityWcdma : RilCellIdentityWcdma
  cellIdentityLte : RilCellIdentityLte
  cellIdentityTdscdma : RilCellIdentityTdscdma
  cellIdentityCdma : CellIdentityCdma

/-- `memset(&rilCellIdentity, -1, …)`, and then the type is set. -/
def RilCellIdentity.unset (cellInfoType : CellInfoType) : RilCellIdentity where
  cellInfoType
  cellIdentityGsm := ⟨-1, -1, -1, -1, -1, 255⟩
  cellIdentityWcdma := ⟨-1, -1, -1, -1, -1, -1⟩
  cellIdentityLte := ⟨-1, -1, -1, -1, -1, -1⟩
  cellIdentityTdscdma := ⟨-1, -1, -1, -1, -1⟩
  cellIdentityCdma := ⟨-1, -1, -1, -1, -1⟩

structure CellIdentityGsm where
  mcc : HidlString
  mnc : HidlString
  lac : Int32
  cid : Int32
  arfcn : Int32
  bsic : UInt8

structure CellIdentityWcdma where
  mcc : HidlString
  mnc : HidlString
  lac : Int32
  cid : Int32
  psc : Int32
  uarfcn : Int32

structure CellIdentityLte where
  mcc : HidlString
  mnc : HidlString
  ci : Int32
  pci : Int32
  tac : Int32
  earfcn : Int32

structure CellIdentityTdscdma where
  mcc : HidlString
  mnc : HidlString
  lac : Int32
  cid : Int32
  cpid : Int32

/-- The HIDL `CellIdentity`: vectors of length one or zero. -/
structure CellIdentity where
  cellInfoType : CellInfoType
  cellIdentityGsm : List CellIdentityGsm
  cellIdentityWcdma : List CellIdentityWcdma
  cellIdentityCdma : List CellIdentityCdma
  cellIdentityLte : List CellIdentityLte
  cellIdentityTdscdma : List CellIdentityTdscdma

/-! ### Functions -/

/-- A `long` of 32 bits as an `int`. -/
def longToInt (n : ℤ) : Int32 := Int32.ofInt n

/-- `strtol(s, NULL, base)`, assigned to an `int`. -/
def strtolInt (base : ℕ) (s : List UInt8) : Int32 :=
  longToInt (strtol (-2 ^ 31) (2 ^ 31 - 1) base s)

/-- `atoi`. -/
def atoi (s : List UInt8) : Int32 := strtolInt 10 s

/-- `getCellInfoTypeRadioTechnology`: the type that belongs to a radio technology, which the vendor
gives as a number in a string. A technology that it does not know has none. -/
def getCellInfoTypeRadioTechnology : CharPtr → CellInfoType
  | none => .none
  | some rat =>
    match (atoi rat).toInt with
    -- RADIO_TECH_GPRS, RADIO_TECH_EDGE, RADIO_TECH_GSM
    | 1 | 2 | 16 => .gsm
    -- RADIO_TECH_UMTS, RADIO_TECH_HSDPA, RADIO_TECH_HSUPA, RADIO_TECH_HSPA, RADIO_TECH_HSPAP
    | 3 | 9 | 10 | 11 | 15 => .wcdma
    -- RADIO_TECH_IS95A, RADIO_TECH_IS95B, RADIO_TECH_1xRTT, RADIO_TECH_EVDO_0, RADIO_TECH_EVDO_A,
    -- RADIO_TECH_EVDO_B, RADIO_TECH_EHRPD
    | 4 | 5 | 6 | 7 | 8 | 12 | 13 => .cdma
    -- RADIO_TECH_LTE, RADIO_TECH_LTE_CA
    | 14 | 19 => .lte
    -- RADIO_TECH_TD_SCDMA
    | 17 => .tdScdma
    | _ => .none

/-- A country code: `"-1"` is replaced by the empty string. -/
def mccString (mcc : Int32) : HidlString :=
  let mcc := toStringBytes mcc.toInt
  if mcc = stringBytes "-1" then [] else mcc

/-- `fillCellIdentityResponse`: the vector of the type gets the part of the record, and the others
are empty. Nothing is kept of what was there before. -/
def fillCellIdentityResponse (rilCellIdentity : RilCellIdentity) : CellIdentity :=
  let empty : CellIdentity := ⟨rilCellIdentity.cellInfoType, [], [], [], [], []⟩
  match rilCellIdentity.cellInfoType with
  | .gsm =>
    let gsm := rilCellIdentity.cellIdentityGsm
    { empty with
      cellIdentityGsm :=
        [⟨mccString gsm.mcc, Mnc.decode gsm.mnc, gsm.lac, gsm.cid, gsm.arfcn, gsm.bsic⟩] }
  | .wcdma =>
    let wcdma := rilCellIdentity.cellIdentityWcdma
    { empty with
      cellIdentityWcdma :=
        [⟨mccString wcdma.mcc, Mnc.decode wcdma.mnc, wcdma.lac, wcdma.cid, wcdma.psc,
          wcdma.uarfcn⟩] }
  | .cdma => { empty with cellIdentityCdma := [rilCellIdentity.cellIdentityCdma] }
  | .lte =>
    let lte := rilCellIdentity.cellIdentityLte
    { empty with
      cellIdentityLte :=
        [⟨mccString lte.mcc, Mnc.decode lte.mnc, lte.ci, lte.pci, lte.tac, lte.earfcn⟩] }
  | .tdScdma =>
    let tdscdma := rilCellIdentity.cellIdentityTdscdma
    { empty with
      cellIdentityTdscdma :=
        [⟨mccString tdscdma.mcc, Mnc.decode tdscdma.mnc, tdscdma.lac, tdscdma.cid, tdscdma.cpid⟩] }
  | .none => empty

/-- An entry of the response as a number: -1 if it is not there. -/
def convertEntry (toInt : List UInt8 → Int32) (response : Option (List CharPtr)) (index : ℕ)
    (numStrings : ℤ) :
    Int32 :=
  match response with
  | none => -1
  | some response =>
    if numStrings > index then
      match response.getD index none with
      | none => -1
      | some s => toInt s
    else -1

/-- `convertResponseStringEntryToInt`: an entry of the response as a decimal number, and -1 if it is
not there. -/
def convertResponseStringEntryToInt : Option (List CharPtr) → ℕ → ℤ → Int32 := convertEntry atoi

/-- `convertResponseHexStringEntryToInt`: an entry as a hexadecimal number. `strtol` stops at the
greatest number of 32 bits with a sign. -/
def convertResponseHexStringEntryToInt : Option (List CharPtr) → ℕ → ℤ → Int32 :=
  convertEntry (strtolInt 16)

/-- `fillCellIdentityFromVoiceRegStateResponseString`. The callers have checked that there are at
least six strings. -/
def fillCellIdentityFromVoiceRegStateResponseString (numStrings : ℤ)
    (response : List CharPtr) : CellIdentity :=
  let hex (index : ℕ) := convertResponseHexStringEntryToInt (some response) index numStrings
  let int (index : ℕ) := convertResponseStringEntryToInt (some response) index numStrings
  let unset := RilCellIdentity.unset (getCellInfoTypeRadioTechnology (response.getD 3 none))
  fillCellIdentityResponse <|
    match unset.cellInfoType with
    | .gsm =>
      { unset with cellIdentityGsm := { unset.cellIdentityGsm with lac := hex 1, cid := hex 2 } }
    | .wcdma =>
      { unset with
        cellIdentityWcdma :=
          { unset.cellIdentityWcdma with lac := hex 1, cid := hex 2, psc := int 14 } }
    | .tdScdma =>
      { unset with cellIdentityTdscdma := { unset.cellIdentityTdscdma with
        lac := hex 1, cid := hex 2 } }
    | .cdma =>
      { unset with
        cellIdentityCdma :=
          { basestationId := int 4
            latitude := int 5
            longitude := int 6
            systemId := int 8
            networkId := int 9 } }
    | .lte =>
      { unset with cellIdentityLte := { unset.cellIdentityLte with tac := hex 1, ci := hex 2 } }
    | .none => unset

/-- `fillCellIdentityFromDataRegStateResponseString`. The codes of country and network come with the
longest responses only. -/
def fillCellIdentityFromDataRegStateResponseString (numStrings : ℤ)
    (response : List CharPtr) : CellIdentity :=
  let hex (index : ℕ) := convertResponseHexStringEntryToInt (some response) index numStrings
  let int (index : ℕ) := convertResponseStringEntryToInt (some response) index numStrings
  let unset := RilCellIdentity.unset (getCellInfoTypeRadioTechnology (response.getD 3 none))
  fillCellIdentityResponse <|
    match unset.cellInfoType with
    | .gsm =>
      let gsm := { unset.cellIdentityGsm with lac := hex 1, cid := hex 2 }
      { unset with
        cellIdentityGsm :=
          if numStrings ≥ 13 then { gsm with mcc := int 11, mnc := int 12 } else gsm }
    | .wcdma =>
      let wcdma := { unset.cellIdentityWcdma with lac := hex 1, cid := hex 2 }
      { unset with
        cellIdentityWcdma :=
          if numStrings ≥ 13 then { wcdma with mcc := int 11, mnc := int 12 } else wcdma }
    | .tdScdma =>
      let tdscdma := { unset.cellIdentityTdscdma with lac := hex 1, cid := hex 2 }
      { unset with
        cellIdentityTdscdma :=
          if numStrings ≥ 13 then { tdscdma with mcc := int 11, mnc := int 12 } else tdscdma }
    | .lte =>
      let lte := { unset.cellIdentityLte with tac := int 6, pci := int 7, ci := int 8 }
      { unset with
        cellIdentityLte :=
          if numStrings ≥ 13 then { lte with mcc := int 11, mnc := int 12 } else lte }
    | .cdma | .none => unset

/-! ### What they should do -/

/-- A hexadecimal number, in digits of either case, possibly after `0x`. This is what the vendor is
told to send as a cell id. -/
def DenotesHex (s : List UInt8) (v : ℕ) : Prop :=
  ∃ ds ≠ [], v = value 16 ds ∧
    (Spells 16 s ds ∨ ∃ zero x rest, s = zero :: x :: rest ∧ zero.toNat = 48 ∧
      (x.toNat = 120 ∨ x.toNat = 88) ∧
      Spells 16 rest ds)

/-- The technologies with a cell id. -/
def CellInfoType.HasCid : CellInfoType → Prop
  | .gsm | .wcdma | .tdScdma => True
  | _ => False

/-- The cell ids of a cell identity: those of the three technologies that have one in their
strings. -/
def CellIdentity.cids (cellIdentity : CellIdentity) : List Int32 :=
  cellIdentity.cellIdentityGsm.map (·.cid) ++ cellIdentity.cellIdentityWcdma.map (·.cid) ++
    cellIdentity.cellIdentityTdscdma.map (·.cid)

/-- A response for a technology with cell ids, whose third string is the cell id `v`. The fourth
string names the technology. -/
structure GivesCid (numStrings : ℤ) (response : List CharPtr) (v : ℕ) : Prop where
  hasCid : (getCellInfoTypeRadioTechnology (response.getD 3 none)).HasCid
  length : 2 < numStrings
  entry : ∃ s, response.getD 2 none = some s ∧ DenotesHex s v

/-! ### Numbers -/

section Numbers

variable {s : List UInt8} {v w : ℕ} {response : List CharPtr} {index : ℕ} {numStrings : ℤ}

/-- What becomes of a number that is not negative: `LONG_MAX` stands for all greater ones. -/
def saturated (v : ℕ) : Int32 := longToInt (min v (2 ^ 31 - 1))

theorem toInt_saturated (v : ℕ) : (saturated v).toInt = min (v : ℤ) (2 ^ 31 - 1) :=
  Int32.toInt_ofInt_of_le (by omega) (by omega)

/-- **The bits are those of the number just when it is no greater than `LONG_MAX`.** -/
theorem saturated_exact_iff : (saturated v).toUInt32.toNat = v ↔ v < 2 ^ 31 := by
  have hint := toInt_saturated v
  have hnonneg : 0 ≤ saturated v := by
    rw [Int32.le_iff_toInt_le, hint, show (0 : Int32).toInt = 0 from rfl]
    omega
  rw [Int32.toNat_toUInt32_of_le hnonneg, ← Int32.toNat_toInt, hint]
  omega

/-- Two numbers can be told apart unless both have become `LONG_MAX`. -/
theorem saturated_inj_iff : saturated v = saturated w ↔ v = w ∨ 2 ^ 31 - 1 ≤ v ∧
    2 ^ 31 - 1 ≤ w := by
  rw [← Int32.toInt_inj, toInt_saturated, toInt_saturated]
  omega

theorem scanInt_of_denotesHex (h : DenotesHex s v) : scanInt 16 s = some (v : ℤ) := by
  obtain ⟨ds, hne, rfl, hspells | ⟨zero, x, rest, rfl, hzero, hx, hspells⟩⟩ := h
  · exact scanInt_of_spells hne hspells
  · exact scanInt_of_spells_prefix hzero hx hne hspells

theorem strtolInt_of_denotesHex (h : DenotesHex s v) : strtolInt 16 s = saturated v := by
  rw [strtolInt, strtol, scanInt_of_denotesHex h, Option.getD_some, saturated]
  congr 1
  omega

theorem convertResponseHexStringEntryToInt_eq (hlength : index < numStrings)
    (hentry : response.getD index none = some s) (h : DenotesHex s v) :
    convertResponseHexStringEntryToInt (some response) index numStrings = saturated v := by
  show (if numStrings > index then _ else _) = _
  rw [if_pos hlength, hentry]
  exact strtolInt_of_denotesHex h

end Numbers

/-! ### Registration -/

section Registration

variable {v w : ℕ} {response other : List CharPtr} {numStrings count : ℤ}

theorem CellInfoType.HasCid.eq {cellInfoType : CellInfoType} (h : cellInfoType.HasCid) :
    cellInfoType = .gsm ∨ cellInfoType = .wcdma ∨ cellInfoType = .tdScdma := by
  cases cellInfoType with
  | gsm => exact .inl rfl
  | wcdma => exact .inr (.inl rfl)
  | tdScdma => exact .inr (.inr rfl)
  | cdma | lte | none => cases h

theorem GivesCid.convert_eq (h : GivesCid numStrings response v) :
    convertResponseHexStringEntryToInt (some response) 2 numStrings = saturated v := by
  obtain ⟨s, hentry, hs⟩ := h.entry
  exact convertResponseHexStringEntryToInt_eq h.length hentry hs

theorem fillCellIdentityFromVoiceRegStateResponseString_cids (h : GivesCid numStrings response v) :
    (fillCellIdentityFromVoiceRegStateResponseString numStrings response).cids = [saturated v] := by
  rw [← h.convert_eq]
  unfold fillCellIdentityFromVoiceRegStateResponseString RilCellIdentity.unset
  obtain htype | htype | htype := h.hasCid.eq
  all_goals
    rw [htype]
    rfl

theorem fillCellIdentityFromDataRegStateResponseString_cids (h : GivesCid numStrings response v) :
    (fillCellIdentityFromDataRegStateResponseString numStrings response).cids = [saturated v] := by
  rw [← h.convert_eq]
  unfold fillCellIdentityFromDataRegStateResponseString RilCellIdentity.unset
  -- the codes of country and network leave the cell id as it is
  by_cases hlong : numStrings ≥ 13
  · simp only [if_pos hlong]
    obtain htype | htype | htype := h.hasCid.eq
    all_goals
      rw [htype]
      rfl
  · simp only [if_neg hlong]
    obtain htype | htype | htype := h.hasCid.eq
    all_goals
      rw [htype]
      rfl

/-- The cell ids that arrive are the one of the response, bit by bit: the number has a sign there,
and its 32 bits are those of `v`. -/
def ArriveExactly (cids : List Int32) (v : ℕ) : Prop := ∃ n, cids = [n] ∧ n.toUInt32.toNat = v

theorem arriveExactly_saturated_iff : ArriveExactly [saturated v] v ↔ v < 2 ^ 31 := by
  rw [← saturated_exact_iff]
  constructor
  · rintro ⟨n, hn, hv⟩
    rwa [List.singleton_inj.mp hn]
  · exact fun hv => ⟨_, rfl, hv⟩

/-- **A cell id arrives as it is just when its highest bit is clear**, of the range that is
documented as valid, on both paths; and two cell ids can be told apart unless both have become the
greatest number. `strtol` returns that for any number past it. -/
theorem cell_id_exact_iff {v w : ℕ} (_ : v < 2 ^ 32) (_ : w < 2 ^ 32) :
    (∀ s response (index : ℕ) (numStrings : ℤ), DenotesHex s v → response.getD index none = some s →
      index < numStrings →
      ((convertResponseHexStringEntryToInt (some response) index numStrings).toUInt32.toNat = v ↔
        v < 2 ^ 31)) ∧
    (∀ numStrings response, GivesCid numStrings response v →
      (ArriveExactly (fillCellIdentityFromVoiceRegStateResponseString numStrings response).cids v ↔
        v < 2 ^ 31) ∧
      (ArriveExactly (fillCellIdentityFromDataRegStateResponseString numStrings response).cids v ↔
        v < 2 ^ 31)) ∧
    ∀ numStrings response count other, GivesCid numStrings response v → GivesCid count other w →
      ((fillCellIdentityFromVoiceRegStateResponseString numStrings response).cids =
          (fillCellIdentityFromVoiceRegStateResponseString count other).cids ↔
        v = w ∨ 2 ^ 31 - 1 ≤ v ∧ 2 ^ 31 - 1 ≤ w) ∧
      ((fillCellIdentityFromDataRegStateResponseString numStrings response).cids =
          (fillCellIdentityFromDataRegStateResponseString count other).cids ↔
        v = w ∨ 2 ^ 31 - 1 ≤ v ∧ 2 ^ 31 - 1 ≤ w) := by
  refine ⟨fun s response index numStrings hs hentry hlength => ?_, fun numStrings response h => ?_,
    fun numStrings response count other h h' => ?_⟩
  · -- what is converted is the saturated number
    rw [convertResponseHexStringEntryToInt_eq hlength hentry hs]
    exact saturated_exact_iff
  · rw [fillCellIdentityFromVoiceRegStateResponseString_cids h,
      fillCellIdentityFromDataRegStateResponseString_cids h]
    exact ⟨arriveExactly_saturated_iff, arriveExactly_saturated_iff⟩
  · rw [fillCellIdentityFromVoiceRegStateResponseString_cids h,
      fillCellIdentityFromDataRegStateResponseString_cids h,
      fillCellIdentityFromVoiceRegStateResponseString_cids h',
      fillCellIdentityFromDataRegStateResponseString_cids h', List.singleton_inj]
    exact ⟨saturated_inj_iff, saturated_inj_iff⟩

end Registration

/-! ### A cell -/

/-- A response for UMTS with a cell id. -/
def umtsResponse (cid : List UInt8) : List CharPtr :=
  [some [49], some [97, 98], some cid, some [51], none, none]

theorem givesCid_umtsResponse {cid : List UInt8} {v : ℕ}
    (h : DenotesHex cid v) : GivesCid 6 (umtsResponse cid) v where
  hasCid := by
    have htype : getCellInfoTypeRadioTechnology (some [51]) = .wcdma := by decide
    show (getCellInfoTypeRadioTechnology (some [51])).HasCid
    rw [htype]
    trivial
  length := by decide
  entry := ⟨cid, rfl, h⟩

/-- `"7fffffff"` and `"FFFFFFFF"`. -/
theorem denotesHex_max : DenotesHex [55, 102, 102, 102, 102, 102, 102, 102] 0x7fffffff ∧
    DenotesHex [70, 70, 70, 70, 70, 70, 70, 70] 0xffffffff :=
  ⟨⟨[7, 15, 15, 15, 15, 15, 15, 15], by decide, by decide, .inl (by decide)⟩,
    ⟨List.replicate 8 15, by decide, by decide, .inl (by decide)⟩⟩

theorem cell_id_exact_iff_max :
    (convertResponseHexStringEntryToInt
      (some (umtsResponse [55, 102, 102, 102, 102, 102, 102, 102])) 2 6).toUInt32.toNat =
      0x7fffffff ∧
    ArriveExactly (fillCellIdentityFromVoiceRegStateResponseString 6
      (umtsResponse [55, 102, 102, 102, 102, 102, 102, 102])).cids 0x7fffffff ∧
    (fillCellIdentityFromDataRegStateResponseString 6
      (umtsResponse [55, 102, 102, 102, 102, 102, 102, 102])).cids =
      (fillCellIdentityFromDataRegStateResponseString 6
        (umtsResponse [70, 70, 70, 70, 70, 70, 70, 70])).cids := by
  obtain ⟨hmax, hall⟩ := denotesHex_max
  obtain ⟨hconvert, hexact, htold⟩ :=
    @cell_id_exact_iff 0x7fffffff 0xffffffff (by decide) (by decide)
  exact ⟨(hconvert _ _ 2 6 hmax rfl (by decide)).mpr (by decide),
    (hexact _ _ (givesCid_umtsResponse hmax)).1.mpr (by decide),
    (htold _ _ _ _ (givesCid_umtsResponse hmax) (givesCid_umtsResponse hall)).2.mpr
      (.inr (by decide))⟩

/-- **A valid cell id is saturated**: `ffffffff` arrives as `7fffffff`, as that one does, on both
paths. -/
theorem cell_id_saturated :
    (convertResponseHexStringEntryToInt (some (umtsResponse [70, 70, 70, 70, 70, 70, 70, 70])) 2
      6).toUInt32.toNat =
      0x7fffffff ∧
    (fillCellIdentityFromVoiceRegStateResponseString 6
      (umtsResponse [70, 70, 70, 70, 70, 70, 70, 70])).cids =
      [0x7fffffff] ∧
    (fillCellIdentityFromDataRegStateResponseString 6
      (umtsResponse [70, 70, 70, 70, 70, 70, 70, 70])).cids =
      [0x7fffffff] ∧
    (fillCellIdentityFromDataRegStateResponseString 6
      (umtsResponse [55, 102, 102, 102, 102, 102, 102, 102])).cids =
      [0x7fffffff] := by
  -- both texts denote numbers, and those saturate at the same value
  obtain ⟨hmax, hall⟩ := denotesHex_max
  have hall' : saturated 0xffffffff = 0x7fffffff := by decide
  have hmax' : saturated 0x7fffffff = 0x7fffffff := by decide
  rw [(givesCid_umtsResponse hall).convert_eq,
    fillCellIdentityFromVoiceRegStateResponseString_cids (givesCid_umtsResponse hall),
    fillCellIdentityFromDataRegStateResponseString_cids (givesCid_umtsResponse hall),
    fillCellIdentityFromDataRegStateResponseString_cids (givesCid_umtsResponse hmax), hall', hmax']
  exact ⟨rfl, rfl, rfl, rfl⟩

end BlueCommon.Ril
