import BlueCommon.Lib.Records
import Mathlib.Data.UInt
import Mathlib.Order.Interval.Set.Defs
import Mathlib.Order.ConditionallyCompleteLattice.Basic
import Mathlib.Data.Int.ConditionallyCompleteOrder

/-!
# The satellites of the old HAL

`Gnss::gpsSvStatusCb` converts a `GpsSvStatus`, a list of satellites by PRN with three masks, to a
`GnssSvStatus`, where each satellite has a constellation and a number of its own. Behind the status
stands a fourth mask, the usage of the GLONASS satellites.

* `classify`: the constellation and the number of a PRN; `classify_inj`: no two PRNs share them.
* `svFlags`: the flags of a satellite; `svFlags_gps_congr`, `svFlags_of_other`: what they depend on.
* `gpsSvStatusCb`: the report, or `none` when the list of the status is read past its end.
* `constellations_apart_iff`: when the list is not read past its end and no flag depends on a mask
  of the other constellation. The ephemeris and almanac masks of GPS are used for GLONASS.
-/

namespace BlueCommon

namespace Gnss

/-! ### Constellations -/

/-- `GnssConstellationType` of the interface. The legacy status has no such field: the constellation
is found from the number of the satellite. -/
inductive ConstellationType
  | unknown
  | gps
  | sbas
  | glonass
  | qzss
  | beidou
  | galileo
  deriving DecidableEq

/-- The ranges of the PRNs. -/
def glonassSvidOffset : Int16 := 64
def glonassSvidCount : Int16 := 24
def beidouSvidOffset : Int16 := 200
def beidouSvidCount : Int16 := 35
def sbasSvidMin : Int16 := 33
def sbasSvidMax : Int16 := 64
def sbasSvidAdd : Int16 := 87
def qzssSvidMin : Int16 := 193
def qzssSvidMax : Int16 := 200

/-- The constellation of a PRN, and the number of the satellite in it. -/
def classify (svid : Int16) : ConstellationType × Int16 :=
  if 1 ≤ svid ∧ svid ≤ 32 then (.gps, svid)
  else if glonassSvidOffset < svid ∧ svid ≤ glonassSvidOffset + glonassSvidCount then
    (.glonass, svid - glonassSvidOffset)
  else if beidouSvidOffset < svid ∧ svid ≤ beidouSvidOffset + beidouSvidCount then
    (.beidou, svid - beidouSvidOffset)
  else if sbasSvidMin ≤ svid ∧ svid ≤ sbasSvidMax then (.sbas, svid + sbasSvidAdd)
  else if qzssSvidMin ≤ svid ∧ svid ≤ qzssSvidMax then (.qzss, svid)
  else (.unknown, svid)

/-- The PRN of a satellite of a constellation. -/
def prnOf : ConstellationType × Int16 → Int16
  | (.glonass, svid) => svid + glonassSvidOffset
  | (.beidou, svid) => svid + beidouSvidOffset
  | (.sbas, svid) => svid - sbasSvidAdd
  | (_, svid) => svid

theorem prnOf_classify (svid : Int16) : prnOf (classify svid) = svid := by
  -- the offsets are taken off and put on again, in sixteen bits
  unfold classify
  split
  · rfl
  split
  · exact Int16.sub_add_cancel svid glonassSvidOffset
  split
  · exact Int16.sub_add_cancel svid beidouSvidOffset
  split
  · exact Int16.add_sub_cancel svid sbasSvidAdd
  split
  · rfl
  · rfl

/-- No two PRNs share a constellation and a number. -/
theorem classify_inj {svid svid' : Int16} (h : classify svid = classify svid') : svid = svid' :=
  calc svid = prnOf (classify svid) := (prnOf_classify svid).symm
    _ = prnOf (classify svid') := congrArg prnOf h
    _ = svid' := prnOf_classify svid'

/-- The PRNs of GLONASS, 24 numbers from 65 on. -/
def IsGlonass (svid : Int16) : Prop :=
  glonassSvidOffset < svid ∧ svid ≤ glonassSvidOffset + glonassSvidCount

theorem classify_glonass {svid : Int16} (h : IsGlonass svid) :
    classify svid = (.glonass, svid - glonassSvidOffset) := by
  have hgps : ¬ (1 ≤ svid ∧ svid ≤ 32) := fun hg =>
    have hlt : svid < glonassSvidOffset := Int16.lt_of_le_of_lt hg.2 (by decide)
    Int16.lt_irrefl (Int16.lt_trans hlt h.1)
  unfold classify
  rw [if_neg hgps]
  exact if_pos h

theorem isGlonass_of_classify {svid : Int16} (h : (classify svid).1 = .glonass) :
    IsGlonass svid := by
  -- the other branches name another constellation
  unfold classify at h
  split at h
  · exact nomatch h
  split at h
  · assumption
  split at h
  · exact nomatch h
  split at h
  · exact nomatch h
  split at h
  · exact nomatch h
  · exact nomatch h

/-! ### Flags -/

/-- The masks of a status, and the GLONASS usage mask behind it. -/
structure SvMasks where
  ephemeris_mask : UInt32
  almanac_mask : UInt32
  used_in_fix_mask : UInt32
  gloUsedInFixMask : UInt32

/-- `GnssSvFlags`, the bits of the flags that are reported for a satellite. -/
def hasEphemerisData : UInt8 := 1
def hasAlmanacData : UInt8 := 2
def usedInFix : UInt8 := 4

/-- `1 << (svid - 1)`, the bit of a satellite in one of the masks. It is asked for only for
satellites of GPS and of GLONASS, whose numbers are from 1 to 32. -/
def svidMask (svid : Int16) : UInt32 := 1 <<< (svid - 1).toInt.toNat.toUInt32

/-- The flags of a satellite. -/
def svFlags (masks : SvMasks) (constellation : ConstellationType) (svid : Int16) : UInt8 :=
  if constellation = .gps ∨ constellation = .glonass then
    (if masks.ephemeris_mask &&& svidMask svid ≠ 0 then hasEphemerisData else 0) |||
      (if masks.almanac_mask &&& svidMask svid ≠ 0 then hasAlmanacData else 0) |||
      if constellation = .gps ∧ masks.used_in_fix_mask &&& svidMask svid ≠ 0 ∨
          constellation = .glonass ∧ masks.gloUsedInFixMask &&& svidMask svid ≠ 0 then usedInFix
        else 0
  else 0

section Flags

variable {m m' : SvMasks} {svid : Int16}

/-- Without the GLONASS usage mask. -/
theorem svFlags_gps_congr (hephemeris : m.ephemeris_mask = m'.ephemeris_mask)
    (halmanac : m.almanac_mask = m'.almanac_mask)
    (hused : m.used_in_fix_mask = m'.used_in_fix_mask) :
    svFlags m .gps svid = svFlags m' .gps svid := by
  unfold svFlags
  rw [hephemeris, halmanac, hused]
  simp only [reduceCtorEq, false_and, or_false]

theorem svFlags_of_other {constellation : ConstellationType} (hgps : constellation ≠ .gps)
    (hglonass : constellation ≠ .glonass) : svFlags m constellation svid = 0 :=
  if_neg (not_or.mpr ⟨hgps, hglonass⟩)

/-- The mask of a GLONASS satellite is a bit of the masks. -/
theorem svidMask_ne_zero {prn : Int16} (h : IsGlonass prn) :
    svidMask (prn - glonassSvidOffset) ≠ 0 := by
  obtain ⟨hlow, hhigh⟩ := h
  -- the offset leaves a number between 1 and 24
  have hlow' : (64 : ℤ) < prn.toInt := Int16.lt_iff_toInt_lt.mp hlow
  have hhigh' : prn.toInt ≤ 88 := Int16.le_iff_toInt_le.mp hhigh
  have hsub : (prn - glonassSvidOffset).toInt = prn.toInt - 64 :=
    Int16.toInt_sub_of_le _ _ (by decide) (Int16.le_of_lt hlow)
  have hone : 1 ≤ prn - glonassSvidOffset := by
    rw [Int16.le_iff_toInt_le, hsub]
    exact Int.le_sub_left_of_add_le (Int.add_one_le_of_lt hlow')
  have hbit : (prn - glonassSvidOffset - 1).toInt = prn.toInt - 65 := by
    rw [Int16.toInt_sub_of_le _ _ (by decide) hone, hsub]
    exact Int.sub_sub prn.toInt 64 1
  -- so the shift stays inside the word
  have hbits : ∀ n < 24, (1 : UInt32) <<< n.toUInt32 ≠ 0 := by decide
  unfold svidMask
  rw [hbit]
  exact hbits _ (by omega)

/-- The ephemeris mask of GPS is read for GLONASS. -/
theorem svFlags_glonass_ephemeris {prn : Int16} (h : IsGlonass prn) :
    svFlags ⟨0, 0, 0, 0⟩ .glonass (prn - glonassSvidOffset) ≠
      svFlags ⟨0xffffffff, 0, 0, 0⟩ .glonass (prn - glonassSvidOffset) := by
  -- with an ephemeris of all satellites the bit is found, with that of none it is not
  have hall : (0xffffffff : UInt32) &&& svidMask (prn - glonassSvidOffset) ≠ 0 := by
    rw [show (0xffffffff : UInt32) = -1 from rfl, UInt32.neg_one_and]
    exact svidMask_ne_zero h
  have hnone : ¬ ((0 : UInt32) &&& svidMask (prn - glonassSvidOffset) ≠ 0) :=
    not_not.mpr UInt32.zero_and
  unfold svFlags
  simp only [hnone, and_false, or_self, or_true, if_true, if_false]
  rw [if_pos hall]
  decide

end Flags

/-! ### The report -/

/-- `GpsSvInfo`. The numbers of type `float` are only copied. -/
structure GpsSvInfo (Float : Type) where
  prn : Int32
  snr : Float
  elevation : Float
  azimuth : Float

/-- `GPS_MAX_SVS`, the length of the list in the status. -/
def gpsMaxSvs : ℕ := 32

/-- `GpsSvStatus`: the number of satellites, the list of them, and the masks, with the mask of
GLONASS that some HALs put behind it. -/
structure GpsSvStatus (Float : Type) where
  num_svs : Int32
  sv_list : Vector (GpsSvInfo Float) gpsMaxSvs
  masks : SvMasks

/-- `IGnssCallback::GnssSvInfo`, without the carrier frequency. -/
structure GnssSvInfo (Float : Type) where
  svid : Int16
  constellation : ConstellationType
  cN0Dbhz : Float
  elevationDegrees : Float
  azimuthDegrees : Float
  svFlag : UInt8

/-- `GnssMax::SVS_COUNT`, the length of the list in the report. -/
def svsCount : UInt32 := 64

section Report

variable {Float : Type}

def convertSvInfo (masks : SvMasks) (info : GpsSvInfo Float) : GnssSvInfo Float :=
  let (constellation, svid) := classify info.prn.toInt16
  { svid := svid
    constellation := constellation
    cN0Dbhz := info.snr
    elevationDegrees := info.elevation
    azimuthDegrees := info.azimuth
    svFlag := svFlags masks constellation svid }

/-- The number of satellites, at most as many as a `GnssSvStatus` has room for. -/
def numSvs (s : GpsSvStatus Float) : UInt32 :=
  if s.num_svs.toUInt32 > svsCount then svsCount else s.num_svs.toUInt32

/-- The entries of `gnssSvList` up to `numSvs`. `none` is a read past the end of `sv_list`. -/
def convertSvStatus (s : GpsSvStatus Float) : Option (List (GnssSvInfo Float)) :=
  (List.range (numSvs s).toNat).mapM fun i => (s.sv_list[i]?).map (convertSvInfo s.masks)

/-- `Gnss::gpsSvStatusCb`: the report that the client gets, if there is one. -/
def gpsSvStatusCb (sGnssCbIface : Bool) (svInfo : Option (GpsSvStatus Float)) :
    Option (Option (List (GnssSvInfo Float))) :=
  if !sGnssCbIface then some none
  else match svInfo with
    | none => some none
    | some s => (convertSvStatus s).map some

variable {s : GpsSvStatus Float} {report : List (GnssSvInfo Float)}

/-! ### The entries that are read -/

/-- The number of satellites is taken without its sign. -/
theorem toNat_numSvs_le_iff :
    (numSvs s).toNat ≤ gpsMaxSvs ↔ 0 ≤ s.num_svs.toInt ∧ s.num_svs.toInt ≤ 32 := by
  -- the comparison is unsigned: a negative number of satellites is a large one
  have hcond := BitVec.toInt_eq_toNat_cond s.num_svs.toBitVec
  rw [Int32.toInt_toBitVec, Int32.toNat_toBitVec] at hcond
  have hlt : s.num_svs.toUInt32.toNat < 2 ^ 32 := s.num_svs.toUInt32.toNat_lt
  unfold numSvs
  split
  case isTrue h =>
    have hnat : 64 < s.num_svs.toUInt32.toNat := UInt32.lt_iff_toNat_lt.mp h
    have hclamp : ¬ svsCount.toNat ≤ gpsMaxSvs := by decide
    split at hcond <;> omega
  case isFalse h =>
    have hnat : s.num_svs.toUInt32.toNat ≤ 64 :=
      Nat.not_lt.mp fun hlt => h (UInt32.lt_iff_toNat_lt.mpr hlt)
    rw [if_pos (by omega)] at hcond
    unfold gpsMaxSvs
    omega

theorem toNat_numSvs (h : 0 ≤ s.num_svs.toInt ∧ s.num_svs.toInt ≤ 32) :
    ((numSvs s).toNat : ℤ) = s.num_svs.toInt := by
  have hle := toNat_numSvs_le_iff.mpr h
  have hnat : s.num_svs.toUInt32.toNat = s.num_svs.toNatClampNeg :=
    Int32.toNat_toUInt32_of_le (Int32.le_iff_toInt_le.mpr h.1)
  unfold numSvs at hle ⊢
  split at hle
  case isTrue => exact absurd hle (by decide)
  case isFalse hfew =>
    rw [if_neg hfew, hnat, ← Int32.toNat_toInt]
    exact Int.toNat_of_nonneg h.1

theorem exists_convertSvStatus_iff :
    (∃ report, convertSvStatus s = some report) ↔ (numSvs s).toNat ≤ gpsMaxSvs := by
  constructor
  · rintro ⟨report, hreport⟩
    by_contra hmany
    have hrounds := RecordFormat.mapM_eq_some_iff.mp hreport
    -- the round of the first entry behind the list
    have hround : gpsMaxSvs < (List.range (numSvs s).toNat).length := by
      rw [List.length_range]
      exact Nat.not_le.mp hmany
    have hread := hrounds.get hround (hrounds.length_eq ▸ hround)
    rw [List.get_eq_getElem, List.getElem_range, Vector.getElem?_eq_none (Nat.le_refl _)] at hread
    exact nomatch hread
  · intro hle
    refine RecordFormat.mapM_isSome fun i hi => ?_
    have hi32 : i < gpsMaxSvs := Nat.lt_of_lt_of_le (List.mem_range.mp hi) hle
    exact ⟨_, by rw [Vector.getElem?_eq_getElem hi32]; rfl⟩

theorem length_of_convertSvStatus (h : convertSvStatus s = some report) :
    report.length = (numSvs s).toNat := by
  rw [← (RecordFormat.mapM_eq_some_iff.mp h).length_eq, List.length_range]

/-- Each entry of a report is made from the entry of the list. -/
theorem getElem?_of_convertSvStatus (h : convertSvStatus s = some report) {i : ℕ}
    {info : GnssSvInfo Float} (hinfo : report[i]? = some info) :
    ∃ entry, s.sv_list[i]? = some entry ∧ info = convertSvInfo s.masks entry := by
  obtain ⟨hi, rfl⟩ := List.getElem?_eq_some_iff.mp hinfo
  have hrounds := RecordFormat.mapM_eq_some_iff.mp h
  have hround := hrounds.get (hrounds.length_eq ▸ hi) hi
  rw [List.get_eq_getElem, List.getElem_range] at hround
  obtain ⟨entry, hentry, hconvert⟩ := Option.map_eq_some_iff.mp hround
  exact ⟨entry, hentry, hconvert.symm⟩

/-! ### Independence -/

/-- The client gets the report for the status. -/
def Reports (s : GpsSvStatus Float) (report : List (GnssSvInfo Float)) : Prop :=
  gpsSvStatusCb true (some s) = some (some report)

theorem reports_iff : Reports s report ↔ convertSvStatus s = some report := by
  unfold Reports gpsSvStatusCb
  rw [if_neg (by decide)]
  dsimp only
  rw [Option.map_eq_some_iff]
  constructor
  · rintro ⟨_, h, hreport⟩
    rwa [← Option.some.inj hreport]
  · exact fun h => ⟨report, h, rfl⟩

/-- With either of the masks the satellites of a constellation have the same flags. -/
def SameFlags (s : GpsSvStatus Float) (constellation : ConstellationType) (m m' : SvMasks) : Prop :=
  ∀ report report', Reports { s with masks := m } report → Reports { s with masks := m' } report' →
    ∀ (i : ℕ) (info info' : GnssSvInfo Float), report[i]? = some info → report'[i]? = some info' →
      info.constellation = constellation → info.svFlag = info'.svFlag

/-- The constellations are kept apart: the list is read inside its bounds; the flags of a GLONASS
satellite do not depend on the masks of GPS, nor those of a GPS satellite on the mask of GLONASS;
the others have none; and no two satellites of different numbers are reported as one. -/
structure ConstellationsApart (s : GpsSvStatus Float) : Prop where
  inside : ∀ sGnssCbIface, ∃ reported, gpsSvStatusCb sGnssCbIface (some s) = some reported
  glonass : ∀ m m', m.gloUsedInFixMask = m'.gloUsedInFixMask → SameFlags s .glonass m m'
  gps : ∀ m m', m.ephemeris_mask = m'.ephemeris_mask → m.almanac_mask = m'.almanac_mask →
    m.used_in_fix_mask = m'.used_in_fix_mask → SameFlags s .gps m m'
  other : ∀ report, Reports s report → ∀ info ∈ report, info.constellation ≠ .gps →
    info.constellation ≠ .glonass → info.svFlag = 0
  distinct : ∀ report, Reports s report → ∀ (i j : ℕ) (entry entry' : GpsSvInfo Float)
    (info info' : GnssSvInfo Float), s.sv_list[i]? = some entry → s.sv_list[j]? = some entry' →
    report[i]? = some info → report[j]? = some info' →
    entry.prn.toInt ∈ Set.Icc 1 235 → entry'.prn.toInt ∈ Set.Icc 1 235 → entry.prn ≠ entry'.prn →
      (info.constellation, info.svid) ≠ (info'.constellation, info'.svid)

theorem inside_iff :
    (∀ sGnssCbIface, ∃ reported, gpsSvStatusCb sGnssCbIface (some s) = some reported) ↔
      0 ≤ s.num_svs.toInt ∧ s.num_svs.toInt ≤ 32 := by
  rw [← toNat_numSvs_le_iff, ← exists_convertSvStatus_iff]
  constructor
  · -- the interface may be there, and then the conversion has to succeed
    intro h
    obtain ⟨_, hreported⟩ := h true
    obtain ⟨report, hreport, -⟩ := Option.map_eq_some_iff.mp hreported
    exact ⟨report, hreport⟩
  · rintro ⟨report, hreport⟩ sGnssCbIface
    cases sGnssCbIface with
    | false => exact ⟨none, rfl⟩
    | true => exact ⟨some report, reports_iff.mpr hreport⟩

/-- Two reports of one list are made from the same entries. -/
theorem sameFlags_of_entries {constellation : ConstellationType} {m m' : SvMasks}
    (h : ∀ (i : ℕ) entry, s.sv_list[i]? = some entry → i < (numSvs s).toNat →
      (classify entry.prn.toInt16).1 = constellation →
        (convertSvInfo m entry).svFlag = (convertSvInfo m' entry).svFlag) :
    SameFlags s constellation m m' := by
  -- the entry at the same place is the one in both reports
  intro report report' hreport hreport' i info info' hinfo hinfo' hconstellation
  rw [reports_iff] at hreport hreport'
  obtain ⟨entry, hentry, rfl⟩ := getElem?_of_convertSvStatus hreport hinfo
  obtain ⟨entry', hentry', rfl⟩ := getElem?_of_convertSvStatus hreport' hinfo'
  obtain rfl : entry = entry' := Option.some.inj (hentry.symm.trans hentry')
  have hi : i < (numSvs s).toNat := by
    have hlen := length_of_convertSvStatus hreport
    obtain ⟨hi, -⟩ := List.getElem?_eq_some_iff.mp hinfo
    exact hlen ▸ hi
  exact h i entry hentry hi hconstellation

theorem sameFlags_gps {m m' : SvMasks} (hephemeris : m.ephemeris_mask = m'.ephemeris_mask)
    (halmanac : m.almanac_mask = m'.almanac_mask)
    (hused : m.used_in_fix_mask = m'.used_in_fix_mask) : SameFlags s .gps m m' := by
  refine sameFlags_of_entries fun i entry _ _ hgps => ?_
  show svFlags m (classify entry.prn.toInt16).1 _ = svFlags m' (classify entry.prn.toInt16).1 _
  rw [hgps]
  exact svFlags_gps_congr hephemeris halmanac hused

theorem toInt16_inj_of_mem {prn prn' : Int32} (h : prn.toInt ∈ Set.Icc 1 235)
    (h' : prn'.toInt ∈ Set.Icc 1 235) (heq : prn.toInt16 = prn'.toInt16) : prn = prn' := by
  have hsmall {n : Int32} (hn : n.toInt ∈ Set.Icc 1 235) : n.toInt16.toInt = n.toInt := by
    obtain ⟨hlow, hhigh⟩ := hn
    rw [Int32.toInt_toInt16]
    exact Int.bmod_eq_of_le (by omega) (by omega)
  rw [← Int32.toInt_inj, ← hsmall h, ← hsmall h', heq]

/-- A GLONASS satellite has other flags with another ephemeris mask. -/
theorem not_sameFlags_glonass (hreport : ∃ report, convertSvStatus s = some report) {i : ℕ}
    {entry : GpsSvInfo Float} (hentry : s.sv_list[i]? = some entry) (hi : i < (numSvs s).toNat)
    (hglonass : IsGlonass entry.prn.toInt16) :
    ¬ SameFlags s .glonass ⟨0, 0, 0, 0⟩ ⟨0xffffffff, 0, 0, 0⟩ := by
  intro hsame
  -- both masks give a report, with the flags of the entry in it
  have hentries (m : SvMasks) : ∃ report, Reports { s with masks := m } report ∧
      report[i]? = some (convertSvInfo m entry) := by
    obtain ⟨report, hr⟩ : ∃ report, convertSvStatus { s with masks := m } = some report :=
      exists_convertSvStatus_iff.mpr ((exists_convertSvStatus_iff (s := s)).mp hreport)
    have hlen : i < report.length := (length_of_convertSvStatus hr).symm ▸ hi
    obtain ⟨entry', hentry', hinfo⟩ :=
      getElem?_of_convertSvStatus hr (List.getElem?_eq_getElem hlen)
    obtain rfl : entry = entry' := Option.some.inj (hentry.symm.trans hentry')
    exact ⟨report, reports_iff.mpr hr, by rw [List.getElem?_eq_getElem hlen, hinfo]⟩
  obtain ⟨report, hr, hinfo⟩ := hentries ⟨0, 0, 0, 0⟩
  obtain ⟨report', hr', hinfo'⟩ := hentries ⟨0xffffffff, 0, 0, 0⟩
  have hclass := classify_glonass hglonass
  -- the same flags, but the two ephemeris masks differ in the bit of the satellite
  have hflags := hsame report report' hr hr' i _ _ hinfo hinfo' (congrArg Prod.fst hclass)
  unfold convertSvInfo at hflags
  rw [hclass] at hflags
  exact svFlags_glonass_ephemeris hglonass hflags

/-- **When the constellations are kept apart**: there are no more satellites than the list has
entries and none of them is of GLONASS. The number is compared with 64, which is twice the length of
the list, and the flags of a GLONASS satellite for ephemeris and almanac come from the masks of
GPS. -/
theorem constellations_apart_iff (s : GpsSvStatus Float) :
    ConstellationsApart s ↔ (0 ≤ s.num_svs.toInt ∧ s.num_svs.toInt ≤ 32) ∧
      ∀ (i : ℕ) entry, s.sv_list[i]? = some entry → (i : ℤ) < s.num_svs.toInt →
        ¬ IsGlonass entry.prn.toInt16 := by
  constructor
  · intro h
    -- the list has been read inside its bounds, so the loop has come to each of its entries
    have hnum := inside_iff.mp h.inside
    refine ⟨hnum, fun i entry hentry hi hglonass => ?_⟩
    rw [← toNat_numSvs hnum] at hi
    -- the loop has ended, and the flags of the satellite come from the masks of GPS
    have hreport := exists_convertSvStatus_iff.mpr (toNat_numSvs_le_iff.mpr hnum)
    exact not_sameFlags_glonass hreport hentry (Int.ofNat_lt.mp hi) hglonass (h.glonass _ _ rfl)
  · -- the other way the flags are those of GPS satellites, or none
    rintro ⟨hnum, hnone⟩
    refine ⟨inside_iff.mpr hnum, fun m m' _ => ?_, fun m m' => sameFlags_gps, ?_, ?_⟩
    · -- there is no such satellite
      refine sameFlags_of_entries fun i entry hentry hi hglonass => ?_
      have hlt : (i : ℤ) < s.num_svs.toInt := toNat_numSvs hnum ▸ Int.ofNat_lt.mpr hi
      exact absurd (isGlonass_of_classify hglonass) (hnone i entry hentry hlt)
    · -- SBAS, BeiDou and the rest have no flags at all
      intro report hreport info hinfo hgps hglonass
      obtain ⟨i, hi⟩ := List.mem_iff_getElem?.mp hinfo
      obtain ⟨entry, -, rfl⟩ := getElem?_of_convertSvStatus (reports_iff.mp hreport) hi
      exact svFlags_of_other hgps hglonass
    · -- the constellation and the number name the PRN
      intro report hreport i j entry entry' info info' hentry hentry' hinfo hinfo' h h' hne heq
      -- both satellites were converted, so their names come from their PRNs
      obtain ⟨_, he, rfl⟩ := getElem?_of_convertSvStatus (reports_iff.mp hreport) hinfo
      obtain ⟨_, he', rfl⟩ := getElem?_of_convertSvStatus (reports_iff.mp hreport) hinfo'
      obtain rfl := Option.some.inj (hentry.symm.trans he)
      obtain rfl := Option.some.inj (hentry'.symm.trans he')
      exact hne (toInt16_inj_of_mem h h' (classify_inj heq))

end Report

/-- With one satellite, of GLONASS, the ephemeris mask of GPS decides its flags. -/
theorem constellations_mixed : ¬ ∀ s : GpsSvStatus Unit, ConstellationsApart s := by
  intro h
  let s : GpsSvStatus Unit := ⟨1, Vector.replicate 32 ⟨65, (), (), ()⟩, ⟨0, 0, 0, 0⟩⟩
  have hreport : ∃ report, convertSvStatus s = some report :=
    exists_convertSvStatus_iff.mpr (by decide)
  have hglonass : IsGlonass (65 : Int32).toInt16 := ⟨by decide, by decide⟩
  exact not_sameFlags_glonass (i := 0) hreport rfl (by decide) hglonass
    ((h s).glonass _ _ rfl)

end Gnss

end BlueCommon
