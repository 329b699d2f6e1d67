import Mathlib.Data.Nat.Notation
import Mathlib.Logic.Basic

/-!
# Signal strengths

The vendor gives the signal strength in a record of version 8 or 10, of which the first is a prefix
of the second. Each version has its own decoder, which first rewrites old values for "unknown" in
the record itself and then copies the fields.

* `fixupLte_fixupLte`: what has been rewritten stays as it is.
* `fixupLte_rsrp_nonneg_iff`: the power is made positive, unless it is `INT_MIN`.
* `decoders_agree_iff`: when the two decoders agree.
-/

namespace BlueCommon.Ril

/-! ### Records -/

structure GwSignalStrength where
  signalStrength : Int32
  bitErrorRate : Int32
  deriving DecidableEq

structure CdmaSignalStrength where
  dbm : Int32
  ecio : Int32
  deriving DecidableEq

structure EvdoSignalStrength where
  dbm : Int32
  ecio : Int32
  signalNoiseRatio : Int32
  deriving DecidableEq

structure LteSignalStrength where
  signalStrength : Int32
  rsrp : Int32
  rsrq : Int32
  rssnr : Int32
  cqi : Int32
  timingAdvance : Int32
  deriving DecidableEq

structure TdScdmaSignalStrength where
  rscp : Int32
  deriving DecidableEq

/-- `RIL_SignalStrength_v8`: what the vendor measures, of the four technologies that it knows. -/
structure RilSignalStrengthV8 where
  gwSignalStrength : GwSignalStrength
  cdmaSignalStrength : CdmaSignalStrength
  evdoSignalStrength : EvdoSignalStrength
  lteSignalStrength : LteSignalStrength
  deriving DecidableEq

/-- `RIL_SignalStrength_v10`: the fields of version 8 come first, and those of TD-SCDMA behind
them. -/
structure RilSignalStrengthV10 extends RilSignalStrengthV8 where
  tdScdmaSignalStrength : TdScdmaSignalStrength
  deriving DecidableEq

/-- The GSM part of the HIDL `SignalStrength`. -/
structure GsmSignalStrength where
  signalStrength : Int32
  bitErrorRate : Int32
  timingAdvance : Int32
  deriving DecidableEq

/-- The HIDL `SignalStrength`, each field with the 32 bits that are assigned to it. The GSM part has
a timing advance, which no record of the vendor has. -/
structure SignalStrength where
  gw : GsmSignalStrength
  cdma : CdmaSignalStrength
  evdo : EvdoSignalStrength
  lte : LteSignalStrength
  tdScdma : TdScdmaSignalStrength
  deriving DecidableEq

/-- `SignalStrength signalStrength = {}`, in which every field is 0. -/
def SignalStrength.empty : SignalStrength := ⟨⟨0, 0, 0⟩, ⟨0, 0⟩, ⟨0, 0, 0⟩, ⟨0, 0, 0, 0, 0, 0⟩, ⟨0⟩⟩

/-! ### Decoders -/

/-- `INT_MAX`, for what is not known. A client treats every other value as a measurement. -/
abbrev unknownInt : Int32 := Int32.maxValue

/-- "Fixup LTE for backwards compatibility". The negation is that of two's complement. -/
def fixupLte (lte : LteSignalStrength) : LteSignalStrength where
  signalStrength := if lte.signalStrength = -1 then 99 else lte.signalStrength
  rsrp := if lte.rsrp = -1 then unknownInt else if lte.rsrp < -1 then -lte.rsrp else lte.rsrp
  rsrq := if lte.rsrq = -1 then unknownInt else lte.rsrq
  rssnr := lte.rssnr
  cqi := if lte.cqi = -1 then unknownInt else lte.cqi
  timingAdvance := lte.timingAdvance

/-- `convertRilSignalStrengthToHalV8`: the record afterwards, and what has been filled in. -/
def convertRilSignalStrengthToHalV8 (response : RilSignalStrengthV8)
    (signalStrength : SignalStrength) :
    RilSignalStrengthV8 × SignalStrength :=
  let response := { response with lteSignalStrength := fixupLte response.lteSignalStrength }
  (response, { signalStrength with
    gw := { signalStrength.gw with
      signalStrength := response.gwSignalStrength.signalStrength
      bitErrorRate := response.gwSignalStrength.bitErrorRate }
    cdma := response.cdmaSignalStrength
    evdo := response.evdoSignalStrength
    lte := response.lteSignalStrength
    tdScdma := ⟨unknownInt⟩ })

/-- `convertRilSignalStrengthToHalV10`: the record afterwards, whose LTE part is negated in place,
and what has been filled in. -/
def convertRilSignalStrengthToHalV10 (response : RilSignalStrengthV10)
    (signalStrength : SignalStrength) :
    RilSignalStrengthV10 × SignalStrength :=
  let response := { response with lteSignalStrength := fixupLte response.lteSignalStrength }
  (response, { signalStrength with
    gw :=
      { signalStrength := response.gwSignalStrength.signalStrength
        bitErrorRate := response.gwSignalStrength.bitErrorRate
        timingAdvance := unknownInt }
    cdma := response.cdmaSignalStrength
    evdo := response.evdoSignalStrength
    lte := response.lteSignalStrength
    tdScdma := response.tdScdmaSignalStrength })

/-- `sizeof(RIL_SignalStrength_v8)`: 13 integers. -/
def sizeofSignalStrengthV8 : ℕ := 52

/-- `convertRilSignalStrengthToHal`: the length tells the version. -/
def convertRilSignalStrengthToHal (response : RilSignalStrengthV10) (responseLen : ℕ)
    (signalStrength : SignalStrength) : RilSignalStrengthV10 × SignalStrength :=
  if responseLen = sizeofSignalStrengthV8 then
    let (prefix8, signalStrength) :=
      convertRilSignalStrengthToHalV8 response.toRilSignalStrengthV8 signalStrength
    ({ response with toRilSignalStrengthV8 := prefix8 }, signalStrength)
  else convertRilSignalStrengthToHalV10 response signalStrength

/-! ### The rewriting -/

section Fixup

variable {r : Int32} {lte : LteSignalStrength}

/-- A number below -1 has a positive opposite, unless it is `INT_MIN`. -/
theorem neg_nonneg_iff (h : r < -1) : 0 ≤ -r ↔ r ≠ Int32.minValue := by
  have hone : (-1 : Int32).toInt = -1 := rfl
  have hzero : (0 : Int32).toInt = 0 := rfl
  have hmin : Int32.minValue.toInt = -2147483648 := rfl
  have hle := Int32.le_toInt r
  rw [Int32.lt_iff_toInt_lt, hone] at h
  rw [Int32.le_iff_toInt_le, Int32.toInt_neg, Int.bmod_def, hzero, ne_eq, ← Int32.toInt_inj, hmin]
  omega

theorem nonneg_of_not_lt (hne : r ≠ -1) (h : ¬r < -1) : 0 ≤ r := by
  have hone : (-1 : Int32).toInt = -1 := rfl
  have hzero : (0 : Int32).toInt = 0 := rfl
  rw [ne_eq, ← Int32.toInt_inj, hone] at hne
  rw [Int32.lt_iff_toInt_lt, hone] at h
  rw [Int32.le_iff_toInt_le, hzero]
  omega

theorem not_lt_of_nonneg (h : 0 ≤ r) : r ≠ -1 ∧ ¬r < -1 := by
  have hone : (-1 : Int32).toInt = -1 := rfl
  have hzero : (0 : Int32).toInt = 0 := rfl
  rw [Int32.le_iff_toInt_le, hzero] at h
  rw [Int32.lt_iff_toInt_lt, ne_eq, ← Int32.toInt_inj, hone]
  omega

/-- **The power is never negative**, unless it was `INT_MIN`. -/
theorem fixupLte_rsrp_nonneg_iff : 0 ≤ (fixupLte lte).rsrp ↔ lte.rsrp ≠ Int32.minValue := by
  show 0 ≤ (if lte.rsrp = -1 then unknownInt else if lte.rsrp < -1 then -lte.rsrp else lte.rsrp) ↔ _
  by_cases hunknown : lte.rsrp = -1
  · rw [if_pos hunknown, hunknown]
    decide
  rw [if_neg hunknown]
  by_cases hneg : lte.rsrp < -1
  · rw [if_pos hneg]
    exact neg_nonneg_iff hneg
  · rw [if_neg hneg]
    have hnonneg := nonneg_of_not_lt hunknown hneg
    refine iff_of_true hnonneg ?_
    rintro hmin
    rw [hmin] at hnonneg
    exact absurd hnonneg (by decide)

/-- What the rewriting makes of the power stays as it is. `INT_MIN` is its own opposite. -/
theorem fixupLte_rsrp : (fixupLte (fixupLte lte)).rsrp = (fixupLte lte).rsrp := by
  by_cases hmin : lte.rsrp = Int32.minValue
  · have hkeep : (fixupLte lte).rsrp = Int32.minValue := by
      show (if lte.rsrp = -1 then unknownInt else if lte.rsrp < -1 then -lte.rsrp else lte.rsrp) = _
      rw [hmin]
      rfl
    show (if (fixupLte lte).rsrp = -1 then unknownInt
      else if (fixupLte lte).rsrp < -1 then -(fixupLte lte).rsrp else (fixupLte lte).rsrp) = _
    rw [hkeep]
    rfl
  · obtain ⟨hunknown, hneg⟩ := not_lt_of_nonneg (fixupLte_rsrp_nonneg_iff.mpr hmin)
    show (if (fixupLte lte).rsrp = -1 then unknownInt
      else if (fixupLte lte).rsrp < -1 then -(fixupLte lte).rsrp else (fixupLte lte).rsrp) = _
    rw [if_neg hunknown, if_neg hneg]

/-- A value that stands for -1 is not rewritten again. -/
theorem replace_replace {new : Int32} (hnew : new ≠ -1) :
    (if (if r = -1 then new else r) = -1 then new else if r = -1 then new else r) =
      if r = -1 then new else r := by
  refine if_neg ?_
  split
  · exact hnew
  · assumption

theorem fixupLte_fixupLte : fixupLte (fixupLte lte) = fixupLte lte := by
  have hrsrp := @fixupLte_rsrp lte
  rw [LteSignalStrength.mk.injEq]
  exact ⟨replace_replace (by decide), hrsrp, replace_replace (by decide), rfl,
    replace_replace (by decide), rfl⟩

end Fixup

/-! ### Agreement -/

section Agreement

variable {x : RilSignalStrengthV10} {y : RilSignalStrengthV8} {s : SignalStrength}

theorem convertRilSignalStrengthToHalV8_idempotent :
    convertRilSignalStrengthToHalV8 (convertRilSignalStrengthToHalV8 y s).1 s =
      convertRilSignalStrengthToHalV8 y s := by
  unfold convertRilSignalStrengthToHalV8
  simp only [fixupLte_fixupLte]

theorem convertRilSignalStrengthToHalV10_idempotent :
    convertRilSignalStrengthToHalV10 (convertRilSignalStrengthToHalV10 x s).1 s =
      convertRilSignalStrengthToHalV10 x s := by
  unfold convertRilSignalStrengthToHalV10
  simp only [fixupLte_fixupLte]

/-- Whatever the version, a record that is decoded again gives the same. -/
theorem convertRilSignalStrengthToHal_idempotent (len : ℕ) :
    convertRilSignalStrengthToHal (convertRilSignalStrengthToHal x len s).1 len s =
      convertRilSignalStrengthToHal x len s := by
  unfold convertRilSignalStrengthToHal
  by_cases hlen : len = sizeofSignalStrengthV8
  · simp only [if_pos hlen, convertRilSignalStrengthToHalV8_idempotent]
  · simp only [if_neg hlen, convertRilSignalStrengthToHalV10_idempotent]

/-- The decoder of version 8 leaves the timing advance as it finds it. -/
theorem convertRilSignalStrengthToHalV8_eq (hrscp : x.tdScdmaSignalStrength.rscp = unknownInt) :
    (convertRilSignalStrengthToHalV8 x.toRilSignalStrengthV8 s).2 =
      { (convertRilSignalStrengthToHalV10 x s).2 with
        gw :=
          { (convertRilSignalStrengthToHalV10 x s).2.gw with
            timingAdvance := s.gw.timingAdvance } } := by
  unfold convertRilSignalStrengthToHalV8 convertRilSignalStrengthToHalV10
  rw [← hrscp]

/-- The decoders agree on a record and its prefix, rewriting twice is rewriting once, also when the
length tells the version, and the power is not negative. -/
structure SoundDecoders (x : RilSignalStrengthV10) (s : SignalStrength) : Prop where
  agree : (convertRilSignalStrengthToHalV10 x s).2 =
      (convertRilSignalStrengthToHalV8 x.toRilSignalStrengthV8 s).2
  idempotentV8 :
    convertRilSignalStrengthToHalV8
        (convertRilSignalStrengthToHalV8 x.toRilSignalStrengthV8 s).1 s =
      convertRilSignalStrengthToHalV8 x.toRilSignalStrengthV8 s
  idempotentV10 : convertRilSignalStrengthToHalV10 (convertRilSignalStrengthToHalV10 x s).1 s =
    convertRilSignalStrengthToHalV10 x s
  idempotent : ∀ len,
    convertRilSignalStrengthToHal (convertRilSignalStrengthToHal x len s).1 len s =
      convertRilSignalStrengthToHal x len s
  rsrpV8 : 0 ≤ (convertRilSignalStrengthToHalV8 x.toRilSignalStrengthV8 s).2.lte.rsrp
  rsrpV10 : 0 ≤ (convertRilSignalStrengthToHalV10 x s).2.lte.rsrp

/-- **The decoders agree if the timing advance was unknown before**: only that of version 10 says
so, while that of version 8 leaves the field as it was. And the power is not negative unless it was
`INT_MIN`, which has no negation in 32 bits. -/
theorem decoders_agree_iff (x : RilSignalStrengthV10) (s : SignalStrength)
    (hrscp : x.tdScdmaSignalStrength.rscp = unknownInt) :
    SoundDecoders x s ↔ s.gw.timingAdvance = unknownInt ∧
      x.lteSignalStrength.rsrp ≠ Int32.minValue := by
  constructor
  · intro h
    have hagree := congrArg (fun signal => signal.gw.timingAdvance) h.agree
    exact ⟨hagree.symm, fixupLte_rsrp_nonneg_iff.mp h.rsrpV10⟩
  · rintro ⟨hadvance, hrsrp⟩
    have hnonneg := fixupLte_rsrp_nonneg_iff.mpr hrsrp
    refine ⟨?_, convertRilSignalStrengthToHalV8_idempotent,
      convertRilSignalStrengthToHalV10_idempotent, convertRilSignalStrengthToHal_idempotent,
      hnonneg, hnonneg⟩
    rw [convertRilSignalStrengthToHalV8_eq hrscp, hadvance]
    rfl

end Agreement

/-! ### Two records -/

/-- A record in which everything is unknown but the power. -/
def RilSignalStrengthV10.ofRsrp (rsrp : Int32) : RilSignalStrengthV10 where
  gwSignalStrength := ⟨99, 99⟩
  cdmaSignalStrength := ⟨-1, -1⟩
  evdoSignalStrength := ⟨-1, -1, -1⟩
  lteSignalStrength := ⟨-1, rsrp, -1, unknownInt, -1, unknownInt⟩
  tdScdmaSignalStrength := ⟨unknownInt⟩

theorem decoders_agree_iff_unknown :
    SoundDecoders (.ofRsrp 100) { SignalStrength.empty with gw := ⟨0, 0, unknownInt⟩ } :=
  (decoders_agree_iff _ _ rfl).mpr ⟨rfl, by decide⟩

/-- **As the callers use them the decoders never agree**, and a power of `INT_MIN` stays
negative. -/
theorem decoders_disagree :
    (convertRilSignalStrengthToHalV10 (.ofRsrp 100) .empty).2 ≠
      (convertRilSignalStrengthToHalV8
        (RilSignalStrengthV10.ofRsrp 100).toRilSignalStrengthV8 .empty).2 ∧
    (convertRilSignalStrengthToHalV10 (.ofRsrp Int32.minValue) .empty).2.lte.rsrp < 0 := by
  decide

end BlueCommon.Ril
