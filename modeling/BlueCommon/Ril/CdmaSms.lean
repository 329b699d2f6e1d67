import BlueCommon.Ril.Hidl
import Mathlib.Algebra.Order.Ring.Int
import Mathlib.Data.Nat.Cast.Order.Ring

/-!
# CDMA short messages

`constructCdmaSms` turns a message of the client into a record of the vendor, whose three vectors
have a length field and an array of fixed size each; `cdmaNewSmsInd` turns such a record into a
message.

* `copyBytes_toList`: the loop that copies a vector into an array.
* `shown_iff`: what of a vector is shown afterwards, for each kind of length field.
* `cdma_sms_survives_iff`: when a message comes back with its vectors cut to the sizes of the
  arrays, and when a record shows no memory but its arrays.
-/

namespace BlueCommon.Ril

/-! ### Records -/

/-- `RIL_CDMA_SMS_ADDRESS_MAX`. -/
abbrev cdmaSmsAddressMax : ℕ := 36

/-- `RIL_CDMA_SMS_SUBADDRESS_MAX`. -/
abbrev cdmaSmsSubaddressMax : ℕ := 36

/-- `RIL_CDMA_SMS_BEARER_DATA_MAX`. -/
abbrev cdmaSmsBearerDataMax : ℕ := 255

/-- `RIL_CDMA_SMS_Address`. The number of digits has one byte, and the array 36. -/
structure RilCdmaSmsAddress where
  digitMode : ℤ
  numberMode : ℤ
  numberType : ℤ
  numberPlan : ℤ
  numberOfDigits : UInt8
  digits : Vector UInt8 cdmaSmsAddressMax

/-- `RIL_CDMA_SMS_Subaddress`, with the same array and the same byte for its length. -/
structure RilCdmaSmsSubaddress where
  subaddressType : ℤ
  odd : UInt8
  numberOfDigits : UInt8
  digits : Vector UInt8 cdmaSmsSubaddressMax

/-- `RIL_CDMA_SMS_Message`. The length of the bearer data is an `int` here, and its array has 255
bytes. -/
structure RilCdmaSmsMessage where
  uTeleserviceID : ℤ
  bIsServicePresent : UInt8
  uServicecategory : ℤ
  sAddress : RilCdmaSmsAddress
  sSubAddress : RilCdmaSmsSubaddress
  uBearerDataLen : Int32
  aBearerData : Vector UInt8 cdmaSmsBearerDataMax

/-! ### From the client to the vendor -/

/-- `for (int i = 0; i < limit; i++) array[i] = src[i];`, which writes nothing past the end of the
array. -/
def copyBytes {size : ℕ} (array : Vector UInt8 size) (src : List UInt8)
    (limit : ℤ) : Vector UInt8 size :=
  (List.range limit.toNat).foldl (fun array i => array.setIfInBounds i (src.getD i 0)) array

/-- `BOOL_TO_INT`, stored in an `unsigned char`. -/
def boolToUInt8 (b : Bool) : UInt8 := if b then 1 else 0

/-- `constructCdmaSms`. The length fields are an `unsigned char` or an `int`, whatever the vector
has. -/
def constructCdmaSms (rcsm : RilCdmaSmsMessage) (sms : CdmaSmsMessage) : RilCdmaSmsMessage :=
  let addressDigits := UInt8.ofNat sms.address.digits.length
  let subaddressDigits := UInt8.ofNat sms.subAddress.digits.length
  let bearerDataLen := Int32.ofNat sms.bearerData.length
  { uTeleserviceID := sms.teleserviceId
    bIsServicePresent := boolToUInt8 sms.isServicePresent
    uServicecategory := sms.serviceCategory
    sAddress :=
      { digitMode := sms.address.digitMode
        numberMode := sms.address.numberMode
        numberType := sms.address.numberType
        numberPlan := sms.address.numberPlan
        numberOfDigits := addressDigits
        digits :=
          copyBytes rcsm.sAddress.digits sms.address.digits
            (min addressDigits.toNat cdmaSmsAddressMax) }
    sSubAddress :=
      { subaddressType := sms.subAddress.subaddressType
        odd := boolToUInt8 sms.subAddress.odd
        numberOfDigits := subaddressDigits
        digits := copyBytes rcsm.sSubAddress.digits sms.subAddress.digits
          (min subaddressDigits.toNat cdmaSmsSubaddressMax) }
    uBearerDataLen := bearerDataLen
    aBearerData :=
      copyBytes rcsm.aBearerData sms.bearerData (min bearerDataLen.toInt cdmaSmsBearerDataMax) }

/-! ### From the vendor to the client -/

/-- A `hidl_vec` that shows so many bytes of memory, from the start of an array on. -/
structure ExternalBytes where
  array : List UInt8
  size : ℕ

/-- `setToExternal(array, limit)`. The second argument is a `size_t` of 32 bits. -/
def setToExternal {size : ℕ} (array : Vector UInt8 size) (limit : ℤ) : ExternalBytes :=
  ⟨array.toList, (limit % 2 ^ 32).toNat⟩

/-- The bytes that are shown, `none` when there is other memory among them. -/
def ExternalBytes.read (v : ExternalBytes) : Option (List UInt8) :=
  if v.size ≤ v.array.length then some (v.array.take v.size) else none

/-- What `cdmaNewSmsInd` makes of a record: a message whose vectors are `digits`, `subDigits` and
`bearerData`. -/
structure CdmaSmsView where
  message : CdmaSmsMessage
  digits : ExternalBytes
  subDigits : ExternalBytes
  bearerData : ExternalBytes

/-- The conversion in `cdmaNewSmsInd`. The three vectors are not copied: they show the arrays of the
record, as many bytes as the lengths say, but no more than the arrays have. -/
def cdmaNewSmsView (rilMsg : RilCdmaSmsMessage) : CdmaSmsView where
  message :=
    { teleserviceId := rilMsg.uTeleserviceID
      isServicePresent := rilMsg.bIsServicePresent != 0
      serviceCategory := rilMsg.uServicecategory
      address :=
        { digitMode := rilMsg.sAddress.digitMode
          numberMode := rilMsg.sAddress.numberMode
          numberType := rilMsg.sAddress.numberType
          numberPlan := rilMsg.sAddress.numberPlan
          digits := [] }
      subAddress :=
        { subaddressType := rilMsg.sSubAddress.subaddressType
          odd := rilMsg.sSubAddress.odd != 0
          digits := [] }
      bearerData := [] }
  digits :=
    setToExternal rilMsg.sAddress.digits
      (min rilMsg.sAddress.numberOfDigits.toNat cdmaSmsAddressMax)
  subDigits := setToExternal rilMsg.sSubAddress.digits
    (min rilMsg.sSubAddress.numberOfDigits.toNat cdmaSmsSubaddressMax)
  bearerData :=
    setToExternal rilMsg.aBearerData (min rilMsg.uBearerDataLen.toInt cdmaSmsBearerDataMax)

/-- The message that the client reads, if each of its vectors shows an array of the record only. -/
def CdmaSmsView.read (v : CdmaSmsView) : Option CdmaSmsMessage := do
  let digits ← v.digits.read
  let subDigits ← v.subDigits.read
  let bearerData ← v.bearerData.read
  pure { v.message with
    address := { v.message.address with digits := digits }
    subAddress := { v.message.subAddress with digits := subDigits }
    bearerData := bearerData }

/-! ### One vector -/

section Vectors

variable {size k : ℕ} {array : Vector UInt8 size} {src : List UInt8}

theorem copyBytes_toList (harray : k ≤ size) (hsrc : k ≤ src.length) :
    (copyBytes array src k).toList = src.take k ++ array.toList.drop k := by
  unfold copyBytes
  rw [Int.toNat_natCast]
  -- induction on the number of bytes: the next one is stored behind those before it
  induction k with
  | zero => rfl
  | succ k ih =>
    have hlength : (src.take k).length = k := List.length_take_of_le (Nat.le_of_succ_le hsrc)
    have hk : k < array.toList.length := by
      rw [Vector.length_toList]
      exact harray
    have hget : src[k]? = some (src.getD k 0) := by
      rw [List.getD_eq_getElem?_getD, List.getElem?_eq_getElem hsrc, Option.getD_some]
    rw [List.range_succ, List.foldl_append, List.foldl_cons, List.foldl_nil,
      Vector.toList_setIfInBounds, ih (Nat.le_of_succ_le harray) (Nat.le_of_succ_le hsrc),
      List.set_append_right _ _ (le_of_eq hlength), hlength,
      Nat.sub_self, List.drop_eq_getElem_cons hk, List.set_cons_zero, List.take_add_one, hget,
      Option.toList_some, List.append_assoc, List.singleton_append]

/-- What is shown of a vector whose length was stored as `length`: nothing but its bytes if that is
not negative. -/
theorem setToExternal_copyBytes {length : ℤ} (hmin : -2 ^ 31 ≤ length) (hle : length ≤ src.length)
    (hsize : size < 2 ^ 31) :
    (setToExternal (copyBytes array src (min length size)) (min length size)).read =
      if 0 ≤ length then some (src.take (min length.toNat size)) else none := by
  by_cases hnonneg : 0 ≤ length
  · obtain ⟨k, rfl⟩ := Int.eq_ofNat_of_zero_le hnonneg
    have hk : k ≤ src.length := Int.ofNat_le.mp hle
    -- the limit is a natural number, as the length is not negative
    have hlimit : min (k : ℤ) size = (min k size : ℕ) := (Nat.cast_min k size).symm
    -- the bytes shown are those that were copied
    have hshown :
        (setToExternal (copyBytes array src ((min k size : ℕ) : ℤ)) (min k size : ℕ)).size =
          min k size := by
      show (((min k size : ℕ) : ℤ) % 2 ^ 32).toNat = min k size
      omega
    rw [if_pos hnonneg, hlimit, ExternalBytes.read, hshown, Int.toNat_natCast, setToExternal,
      copyBytes_toList (min_le_right _ _) ((min_le_left _ _).trans hk)]
    -- the copy has at least as many bytes as are shown
    have htake : (src.take (min k size)).length = min k size :=
      List.length_take_of_le ((min_le_left _ _).trans hk)
    -- those are the bytes of the source up to the limit
    rw [if_pos, List.take_append_of_le_length (le_of_eq htake.symm), List.take_take, min_self]
    rw [List.length_append, htake]
    exact Nat.le_add_right _ _
  · -- a negative length is a large `size_t`
    rw [if_neg hnonneg, ExternalBytes.read, if_neg]
    -- more bytes would be read than the array has
    show ¬((min length (size : ℤ)) % 2 ^ 32).toNat ≤
      (copyBytes array src (min length size)).toList.length
    rw [Vector.length_toList]
    omega

/-- **What is shown of a vector** is the vector, cut to the size of the array, if its length was
stored as it is or the stored length fills the array too. -/
theorem shown_iff {length : ℤ} (hmin : -2 ^ 31 ≤ length) (hle : length ≤ src.length)
    (hsize : size < 2 ^ 31) :
    (setToExternal (copyBytes array src (min length size)) (min length size)).read =
      some (src.take size) ↔
      length = src.length ∨ size ≤ length := by
  rw [setToExternal_copyBytes hmin hle hsize]
  by_cases hnonneg : 0 ≤ length
  · rw [if_pos hnonneg, Option.some.injEq]
    rw [List.take_eq_take_iff]
    omega
  · rw [if_neg hnonneg]
    refine iff_of_false nofun ?_
    omega

/-- The size of what is shown, whatever the length field says. -/
theorem setToExternal_size_le_iff {length : ℤ} (hmin : -2 ^ 31 ≤ length) (hsize : size < 2 ^ 31) :
    (setToExternal array (min length size)).size ≤ size ↔ 0 ≤ length := by
  show ((min length (size : ℤ)) % 2 ^ 32).toNat ≤ size ↔ 0 ≤ length
  omega

end Vectors

/-! ### Messages -/

/-- The message with its vectors cut to the sizes of the arrays, which is all that a record has room
for. -/
def CdmaSmsMessage.truncated (m : CdmaSmsMessage) : CdmaSmsMessage := { m with
  address := { m.address with digits := m.address.digits.take cdmaSmsAddressMax }
  subAddress := { m.subAddress with digits := m.subAddress.digits.take cdmaSmsSubaddressMax }
  bearerData := m.bearerData.take cdmaSmsBearerDataMax }

/-- A length whose last 8 bits say the same, or at least `size` too, so that the array is filled in
any case. -/
def FitsUInt8 (length size : ℕ) : Prop := length < 2 ^ 8 ∨ size ≤ length % 2 ^ 8

/-- The same for an `int`, whose highest bit must be clear as well. -/
def FitsInt32 (length size : ℕ) : Prop :=
  length < 2 ^ 31 ∨ size ≤ length % 2 ^ 32 ∧ length % 2 ^ 32 < 2 ^ 31

section Messages

variable {n size : ℕ}

theorem boolToUInt8_ne_zero (b : Bool) : (boolToUInt8 b != 0) = b := by
  cases b <;> rfl

theorem toNat_ofNat_iff : (((UInt8.ofNat n).toNat : ℤ) = n ∨ (size : ℤ) ≤ (UInt8.ofNat n).toNat) ↔
    FitsUInt8 n size := by
  rw [UInt8.toNat_ofNat', FitsUInt8]
  omega

theorem toInt_ofNat (n : ℕ) : (Int32.ofNat n).toInt = (n : ℤ).bmod (2 ^ 32) := Int32.toInt_ofNat'

theorem toInt_ofNat_iff (hsize : 0 < size) :
    ((Int32.ofNat n).toInt = n ∨ (size : ℤ) ≤ (Int32.ofNat n).toInt) ↔
    FitsInt32 n size := by
  rw [toInt_ofNat, FitsInt32, Int.bmod_def]
  omega

theorem toInt_ofNat_le : (Int32.ofNat n).toInt ≤ n := by
  rw [toInt_ofNat, Int.bmod_def]
  omega

end Messages

/-- The client reads the message `m`, cut to the sizes of the arrays, if it does so for each
vector. -/
theorem cdmaNewSmsView_read_iff {rcsm : RilCdmaSmsMessage} {m : CdmaSmsMessage} :
    (cdmaNewSmsView (constructCdmaSms rcsm m)).read = some m.truncated ↔
      (cdmaNewSmsView (constructCdmaSms rcsm m)).digits.read =
        some (m.address.digits.take cdmaSmsAddressMax) ∧
      (cdmaNewSmsView (constructCdmaSms rcsm m)).subDigits.read =
        some (m.subAddress.digits.take cdmaSmsSubaddressMax) ∧
      (cdmaNewSmsView (constructCdmaSms rcsm m)).bearerData.read =
        some (m.bearerData.take cdmaSmsBearerDataMax) := by
  -- the scalars of the record are those of the message, whatever the arrays hold
  have hscalars : (cdmaNewSmsView (constructCdmaSms rcsm m)).message = { m with
      address := { m.address with digits := [] }
      subAddress := { m.subAddress with digits := [] }
      bearerData := [] } := by
    show CdmaSmsMessage.mk .. = _
    rw [show ((constructCdmaSms rcsm m).bIsServicePresent != 0) =
      m.isServicePresent from boolToUInt8_ne_zero _,
      show ((constructCdmaSms rcsm m).sSubAddress.odd != 0) =
        m.subAddress.odd from boolToUInt8_ne_zero _]
    rfl
  unfold CdmaSmsView.read
  rw [hscalars]
  constructor
  · intro h
    obtain ⟨digits, hdigits, h⟩ := Option.bind_eq_some_iff.mp h
    obtain ⟨subDigits, hsub, h⟩ := Option.bind_eq_some_iff.mp h
    obtain ⟨bearerData, hbearer, h⟩ := Option.bind_eq_some_iff.mp h
    have hm := Option.some.inj h
    -- the fields of the records are the same
    rw [CdmaSmsMessage.mk.injEq] at hm
    obtain ⟨-, -, -, haddress, hsubAddress, hdata⟩ := hm
    obtain ⟨-, -, -, -, rfl⟩ := CdmaSmsAddress.mk.inj haddress
    obtain ⟨-, -, rfl⟩ := CdmaSmsSubaddress.mk.inj hsubAddress
    subst hdata
    exact ⟨hdigits, hsub, hbearer⟩
  · rintro ⟨hdigits, hsub, hbearer⟩
    rw [hdigits, hsub, hbearer]
    rfl

/-- What is shown of the digits of an address or subaddress. -/
theorem digits_shown_iff {size : ℕ} {array : Vector UInt8 size} {digits : List UInt8}
    (hsize : size < 2 ^ 31) :
    (setToExternal (copyBytes array digits (min (UInt8.ofNat digits.length).toNat size))
        (min (UInt8.ofNat digits.length).toNat size)).read = some (digits.take size) ↔
      FitsUInt8 digits.length size := by
  refine (shown_iff (by omega) ?_ hsize).trans toNat_ofNat_iff
  rw [UInt8.toNat_ofNat']
  omega

/-- The client reads the message, cut to the sizes of the arrays, if its lengths survive the length
fields. -/
theorem read_eq_truncated_iff (rcsm : RilCdmaSmsMessage) (m : CdmaSmsMessage) :
    (cdmaNewSmsView (constructCdmaSms rcsm m)).read = some m.truncated ↔
      FitsUInt8 m.address.digits.length cdmaSmsAddressMax ∧
      FitsUInt8 m.subAddress.digits.length cdmaSmsSubaddressMax ∧
      FitsInt32 m.bearerData.length cdmaSmsBearerDataMax := by
  rw [cdmaNewSmsView_read_iff]
  refine and_congr (digits_shown_iff (by decide)) (and_congr (digits_shown_iff (by decide)) ?_)
  exact (shown_iff (Int32.le_toInt _) toInt_ofNat_le (by decide)).trans
    (toInt_ofNat_iff (by decide))

/-- **A CDMA message survives the conversions if its lengths survive the length fields.** The arrays
are filled up to their own lengths at most, but the lengths are stored as they are, in one byte or
in an `int`. And a record shows its arrays only if its bearer data length is not negative. -/
theorem cdma_sms_survives_iff (rcsm rilMsg : RilCdmaSmsMessage) (m : CdmaSmsMessage) :
    ((cdmaNewSmsView (constructCdmaSms rcsm m)).read = some m.truncated ↔
      FitsUInt8 m.address.digits.length cdmaSmsAddressMax ∧
      FitsUInt8 m.subAddress.digits.length cdmaSmsSubaddressMax ∧
      FitsInt32 m.bearerData.length cdmaSmsBearerDataMax) ∧
    ((cdmaNewSmsView rilMsg).digits.size ≤ cdmaSmsAddressMax ∧
        (cdmaNewSmsView rilMsg).subDigits.size ≤ cdmaSmsSubaddressMax ∧
        (cdmaNewSmsView rilMsg).bearerData.size ≤ cdmaSmsBearerDataMax ↔
          0 ≤ rilMsg.uBearerDataLen.toInt) := by
  constructor
  · -- field by field, each with the limit of its array
    exact read_eq_truncated_iff rcsm m
  · -- the bearer data has a signed length, the other two have not
    have hbearer :=
      @setToExternal_size_le_iff cdmaSmsBearerDataMax rilMsg.aBearerData rilMsg.uBearerDataLen.toInt
      (Int32.le_toInt _) (by decide)
    constructor
    · -- the digits fit in either case, so it is the bearer data that decides
      rintro ⟨-, -, hsize⟩
      exact hbearer.mp hsize
    · intro hnonneg
      exact ⟨(setToExternal_size_le_iff (by omega) (by decide)).mpr (Int.natCast_nonneg _),
        (setToExternal_size_le_iff (by omega) (by decide)).mpr (Int.natCast_nonneg _),
        hbearer.mpr hnonneg⟩

/-! ### A long address -/

/-- A record of zeros. -/
def RilCdmaSmsMessage.zero : RilCdmaSmsMessage where
  uTeleserviceID := 0
  bIsServicePresent := 0
  uServicecategory := 0
  sAddress := ⟨0, 0, 0, 0, 0, Vector.replicate _ 0⟩
  sSubAddress := ⟨0, 0, 0, Vector.replicate _ 0⟩
  uBearerDataLen := 0
  aBearerData := Vector.replicate _ 0

/-- A message to an address of so many digits. -/
def CdmaSmsMessage.toDigits (n : ℕ) : CdmaSmsMessage :=
  ⟨4098, false, 0, ⟨0, 0, 0, 0, List.replicate n 1⟩, ⟨0, false, []⟩, []⟩

/-- **256 digits come back as none**, and a negative bearer data length shows 2 ^ 32 - 1 bytes. -/
theorem long_address_lost :
    (cdmaNewSmsView (constructCdmaSms .zero (.toDigits 256))).read ≠
      some (CdmaSmsMessage.toDigits 256).truncated ∧
    (cdmaNewSmsView { RilCdmaSmsMessage.zero with uBearerDataLen := -1 }).bearerData.size =
      2 ^ 32 - 1 := by
  constructor
  · rw [ne_eq, read_eq_truncated_iff,
      show (CdmaSmsMessage.toDigits 256).address.digits.length = 256 from List.length_replicate]
    -- 256 is 0 in an `unsigned char`
    rintro ⟨hshort | hlong, -⟩
    · exact absurd hshort (by decide)
    · exact absurd hlong (by decide)
  · decide

end BlueCommon.Ril
