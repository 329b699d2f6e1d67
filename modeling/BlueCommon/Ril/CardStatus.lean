import BlueCommon.Ril.Operators
import BlueCommon.Ril.Tables

/-!
# The status of a SIM card

The vendor describes a card by a record with the number of its applications, an array with room for
eight of them and three indices into it. `getIccCardStatusResponse` rejects the record when an index
is not below the number. The number itself it compares with nothing.

* `copyApplications_of_le`: the loop that copies the applications, when the array has as many.
* `le_of_copyApplications`: the loop does not come to its end otherwise.
* `card_status_decoded_iff`: when the loop stays inside the array.
-/

namespace BlueCommon.Ril.Cards

open Interaction Operators

/-! ### Records -/

/-- `RIL_CARD_MAX_APPS`, the length of the array of applications in the record. -/
abbrev cardMaxApps : ℕ := 8

/-- `RIL_AppStatus`. The enumerations are numbers here, since none of them is looked at. -/
structure RilAppStatus where
  app_type : Int32
  app_state : Int32
  perso_substate : Int32
  aid_ptr : StringPtr
  app_label_ptr : StringPtr
  pin1_replaced : Int32
  pin1 : Int32
  pin2 : Int32

/-- `RIL_CardStatus_v6`. The number of applications and the three indices are whatever the vendor
has written. -/
structure RilCardStatus where
  card_state : Int32
  universal_pin_state : Int32
  gsm_umts_subscription_app_index : Int32
  cdma_subscription_app_index : Int32
  ims_subscription_app_index : Int32
  num_applications : Int32
  applications : Vector RilAppStatus cardMaxApps

/-- `sizeof(RIL_CardStatus_v6)`: six numbers, and eight for each application. -/
def sizeofCardStatus : ℕ := 6 * 4 + cardMaxApps * (8 * 4)

/-- The HIDL `AppStatus`. The enumerations are numbers here, since they are cast from the numbers of
the record. -/
structure AppStatus where
  appType : Int32
  appState : Int32
  persoSubstate : Int32
  aidPtr : HidlString
  appLabelPtr : HidlString
  pin1Replaced : Int32
  pin1 : Int32
  pin2 : Int32

/-- The HIDL `CardStatus`. -/
structure CardStatus where
  cardState : Int32
  universalPinState : Int32
  gsmUmtsSubscriptionAppIndex : Int32
  cdmaSubscriptionAppIndex : Int32
  imsSubscriptionAppIndex : Int32
  applications : List AppStatus

/-- `{CardState::ABSENT, PinState::UNKNOWN, -1, -1, -1, {}}`, the status in a response without a
record. -/
def CardStatus.absent : CardStatus := ⟨0, 0, -1, -1, -1, []⟩

inductive RadioResponseType
  | solicited
  | solicitedAckExp

structure RadioResponseInfo where
  type : RadioResponseType
  serial : Int32
  error : ResponseError

/-- What is passed to the client, and the entries of `applications` that are read for it. -/
structure CardStatusAnswer where
  responseInfo : RadioResponseInfo
  cardStatus : CardStatus
  read : List ℕ

/-- What goes wrong in memory. A negative size is one that `resize` takes for a size of more
applications than there is memory for. -/
inductive CardStatusFault
  | negativeSize
  | applicationsIndex
  | appStatusIndex

/-! ### Functions -/

/-- `populateResponseInfo`. A type that it does not know is left at that of a new record. -/
def populateResponseInfo (serial : Int32) (responseType : ResponseType) (e : ℤ) :
    RadioResponseInfo where
  type :=
    match responseType with
    | .solicitedAckExp => .solicitedAckExp
    | _ => .solicited
  serial
  error := .errno e

/-- A round of the loop, without the check of its index. -/
def convertAppStatus (app : RilAppStatus) : AppStatus where
  appType := app.app_type
  appState := app.app_state
  persoSubstate := app.perso_substate
  aidPtr := convertCharPtrToHidlString app.aid_ptr
  appLabelPtr := convertCharPtrToHidlString app.app_label_ptr
  pin1Replaced := app.pin1_replaced
  pin1 := app.pin1
  pin2 := app.pin2

/-- The loop variables: the new applications, and the entries that have been read. -/
structure Copied where
  appStatus : List AppStatus
  read : List ℕ

/-- A round of the loop. -/
def copyApplication (rilAppStatus : Vector RilAppStatus cardMaxApps) (copied : Copied) (i : ℕ) :
    Except CardStatusFault Copied :=
  match rilAppStatus[i]? with
  | none => .error .applicationsIndex
  | some app =>
    if i < copied.appStatus.length then
      .ok ⟨copied.appStatus.set i (convertAppStatus app), copied.read ++ [i]⟩
    else .error .appStatusIndex

/-- The loop, after `resize`, which makes `initial` of a new element. -/
def copyApplications (initial : AppStatus) (rilAppStatus : Vector RilAppStatus cardMaxApps)
    (num : ℕ) : Except CardStatusFault Copied :=
  (List.range num).foldlM (copyApplication rilAppStatus) ⟨List.replicate num initial, []⟩

/-- An index that is not below the number of applications. -/
def badIndex (p_cur : RilCardStatus) : Bool :=
  p_cur.num_applications ≤ p_cur.gsm_umts_subscription_app_index ||
    p_cur.num_applications ≤ p_cur.cdma_subscription_app_index ||
    p_cur.num_applications ≤ p_cur.ims_subscription_app_index

/-- What is passed on instead of an invalid response. -/
def rejected (serial : Int32) (responseType : ResponseType) (e : ℤ) : CardStatusAnswer :=
  let responseInfo := populateResponseInfo serial responseType e
  { responseInfo :=
      { responseInfo with
        error := if e = Errno.success then .invalidResponse else responseInfo.error }
    cardStatus := .absent
    read := [] }

/-- What is passed on of a response that is not rejected. -/
def accepted (serial : Int32) (responseType : ResponseType) (e : ℤ) (p_cur : RilCardStatus)
    (copied : Copied) : CardStatusAnswer where
  responseInfo := populateResponseInfo serial responseType e
  cardStatus :=
    { cardState := p_cur.card_state
      universalPinState := p_cur.universal_pin_state
      gsmUmtsSubscriptionAppIndex := p_cur.gsm_umts_subscription_app_index
      cdmaSubscriptionAppIndex := p_cur.cdma_subscription_app_index
      imsSubscriptionAppIndex := p_cur.ims_subscription_app_index
      applications := copied.appStatus }
  read := copied.read

/-- `radio::getIccCardStatusResponse`: what the client gets, if there is one. -/
def getIccCardStatusResponse (initial : AppStatus) (mRadioResponse : Bool)
    (responseType : ResponseType) (serial : Int32) (e : ℤ) (response : Option RilCardStatus)
    (responseLen : ℕ) : Except CardStatusFault (Option CardStatusAnswer) :=
  if !mRadioResponse then .ok none
  else
    match response with
    | none => .ok (some (rejected serial responseType e))
    | some p_cur =>
      if responseLen ≠ sizeofCardStatus || badIndex p_cur then
        .ok (some (rejected serial responseType e))
      else if p_cur.num_applications < 0 then .error .negativeSize
      else do
        let copied ← copyApplications initial p_cur.applications
          p_cur.num_applications.toNatClampNeg
        .ok (some (accepted serial responseType e p_cur copied))

/-! ### The loop -/

section Loop

variable {initial : AppStatus} {apps : Vector RilAppStatus cardMaxApps} {num : ℕ}

/-- The first rounds of the loop. The elements from `k` on are still those that `resize` has made,
and the loop has written the others in their order; the induction is on the number of rounds. -/
theorem copied_rounds (hnum : num ≤ cardMaxApps) {k : ℕ} (hk : k ≤ num) :
    (List.range k).foldlM (copyApplication apps) ⟨List.replicate num initial, []⟩ =
      .ok ⟨(apps.toList.take k).map convertAppStatus ++ List.replicate (num - k) initial,
        List.range k⟩ := by
  -- the elements from `k` on are still those that `resize` has made
  induction k with
  -- no round has been made, and nothing was copied
  | zero => rfl
  | succ k ih =>
    have hlt : k < cardMaxApps := Nat.lt_of_lt_of_le hk hnum
    have hlen : k < apps.toList.length := apps.length_toList.symm ▸ hlt
    have htake : apps.toList.take (k + 1) = apps.toList.take k ++ [apps[k]] := by
      rw [List.take_succ_eq_append_getElem hlen, Vector.getElem_toList]
    have hrest : List.replicate (num - k) initial =
        initial :: List.replicate (num - (k + 1)) initial := by
      rw [← List.replicate_succ, show num - (k + 1) + 1 = num - k by omega]
    have hdone : ((apps.toList.take k).map convertAppStatus).length = k := by
      rw [List.length_map, List.length_take, Nat.min_eq_left (Nat.le_of_lt hlen)]
    rw [List.range_succ, List.foldlM_append, ih (Nat.le_of_succ_le hk), hrest, htake]
    -- one more round: the element at `k`
    show copyApplication apps _ k >>= pure = _
    rw [bind_pure]
    unfold copyApplication
    rw [Vector.getElem?_eq_getElem hlt]
    dsimp only
    -- the list has the length of `resize` throughout
    rw [if_pos (by rw [List.length_append, hdone, List.length_cons]; omega)]
    rw [List.set_append_right _ _ (Nat.le_of_eq hdone), hdone, Nat.sub_self, List.set_cons_zero]
    -- what was copied, and what is still to be
    rw [List.map_append, List.append_assoc]
    rfl

/-- **The loop, with as many applications as fit.** -/
theorem copyApplications_of_le (hnum : num ≤ cardMaxApps) :
    copyApplications initial apps num =
      .ok ⟨(apps.toList.take num).map convertAppStatus, List.range num⟩ := by
  unfold copyApplications
  rw [copied_rounds hnum (Nat.le_refl num), Nat.sub_self, List.replicate_zero, List.append_nil]

/-- Every round that ends reads inside the array. -/
theorem index_lt_of_foldlM {is : List ℕ} {copied copied' : Copied}
    (h : is.foldlM (copyApplication apps) copied = .ok copied') : ∀ i ∈ is, i < cardMaxApps := by
  -- each round reads the element of its own index
  induction is generalizing copied with
  | nil => exact fun i hi => absurd hi List.not_mem_nil
  | cons i is ih =>
    rw [List.foldlM_cons] at h
    obtain ⟨copied₁, hround, hrest⟩ := bind_eq_ok.mp h
    intro j hj
    rcases List.mem_cons.mp hj with rfl | hj
    · by_contra hge
      unfold copyApplication at hround
      rw [Vector.getElem?_eq_none (Nat.not_lt.mp hge)] at hround
      exact nomatch hround
    · exact ih hrest j hj

/-- The loop comes to its end only if the array has as many applications. -/
theorem le_of_copyApplications {copied : Copied}
    (h : copyApplications initial apps num = .ok copied) : num ≤ cardMaxApps := by
  by_contra hgt
  have hlast := index_lt_of_foldlM h cardMaxApps (List.mem_range.mpr (Nat.not_le.mp hgt))
  exact Nat.lt_irrefl cardMaxApps hlast

end Loop

/-! ### What arrives -/

section Card

variable {initial : AppStatus} {responseType : ResponseType} {serial : Int32} {e : ℤ}
  {p_cur : RilCardStatus}

/-- The response is rejected. -/
structure IsRejected (e : ℤ) (answer : CardStatusAnswer) : Prop where
  error : answer.responseInfo.error = if e = Errno.success then .invalidResponse else .errno e
  cardStatus : answer.cardStatus = .absent
  read : answer.read = []

/-- An index that is forwarded. -/
def IsIndex (num index : Int32) : Prop := index < 0 ∨ index < num

/-- The card status is that of the record: it has as many applications as the number says, each from
its element of the array, which is read inside its bounds; and each index is of one of them or
none. -/
structure Decodes (p_cur : RilCardStatus) (answer : CardStatusAnswer) : Prop where
  nonneg : 0 ≤ p_cur.num_applications.toInt
  le_max : p_cur.num_applications.toInt ≤ cardMaxApps
  read : answer.read = List.range p_cur.num_applications.toInt.toNat
  length : (answer.cardStatus.applications.length : ℤ) = p_cur.num_applications.toInt
  applications : ∀ i : ℕ, (i : ℤ) < p_cur.num_applications.toInt →
    answer.cardStatus.applications[i]? = (p_cur.applications[i]?).map convertAppStatus
  gsmUmts : IsIndex p_cur.num_applications answer.cardStatus.gsmUmtsSubscriptionAppIndex
  cdma : IsIndex p_cur.num_applications answer.cardStatus.cdmaSubscriptionAppIndex
  ims : IsIndex p_cur.num_applications answer.cardStatus.imsSubscriptionAppIndex

/-- The client gets an answer, which is that of a rejected response or the status in the record. -/
def AnswersCardStatus (initial : AppStatus) (responseType : ResponseType) (serial : Int32) (e : ℤ)
    (p_cur : RilCardStatus) : Prop :=
  ∃ answer, getIccCardStatusResponse initial true responseType serial e (some p_cur)
      sizeofCardStatus = .ok (some answer) ∧ (IsRejected e answer ∨ Decodes p_cur answer)

/-- Some index is not below the number of applications. This is what the code rejects. -/
def HasBadIndex (p_cur : RilCardStatus) : Prop :=
  p_cur.num_applications ≤ p_cur.gsm_umts_subscription_app_index ∨
    p_cur.num_applications ≤ p_cur.cdma_subscription_app_index ∨
    p_cur.num_applications ≤ p_cur.ims_subscription_app_index

theorem badIndex_iff : badIndex p_cur = true ↔ HasBadIndex p_cur := by
  unfold badIndex HasBadIndex
  rw [Bool.or_eq_true, Bool.or_eq_true, decide_eq_true_iff, decide_eq_true_iff, decide_eq_true_iff,
    or_assoc]

theorem isRejected : IsRejected e (rejected serial responseType e) := ⟨rfl, rfl, rfl⟩

theorem getIccCardStatusResponse_of_bad (h : HasBadIndex p_cur) :
    getIccCardStatusResponse initial true responseType serial e (some p_cur) sizeofCardStatus =
      .ok (some (rejected serial responseType e)) := by
  unfold getIccCardStatusResponse
  rw [if_neg (by decide)]
  exact if_pos (Bool.or_eq_true_iff.mpr (.inr (badIndex_iff.mpr h)))

/-- With good indices the loop decides. -/
theorem getIccCardStatusResponse_of_good (h : ¬ HasBadIndex p_cur) :
    getIccCardStatusResponse initial true responseType serial e (some p_cur) sizeofCardStatus =
      if p_cur.num_applications < 0 then .error .negativeSize
      else
        copyApplications initial p_cur.applications p_cur.num_applications.toNatClampNeg >>=
          fun copied => .ok (some (accepted serial responseType e p_cur copied)) := by
  -- the length is right and no index is too large: the loop is reached
  have hcheck : ¬ (decide (sizeofCardStatus ≠ sizeofCardStatus) || badIndex p_cur) = true := by
    rw [Bool.or_eq_true, badIndex_iff]
    exact not_or.mpr ⟨by decide, h⟩
  unfold getIccCardStatusResponse
  rw [if_neg (by decide)]
  exact if_neg hcheck

/-- With good indices and as many applications as fit, the answer is that of the record. -/
theorem decodes_accepted (h : ¬ HasBadIndex p_cur) (hnonneg : 0 ≤ p_cur.num_applications.toInt)
    (hle : p_cur.num_applications.toInt ≤ cardMaxApps) :
    Decodes p_cur (accepted serial responseType e p_cur
      ⟨(p_cur.applications.toList.take p_cur.num_applications.toNatClampNeg).map convertAppStatus,
        List.range p_cur.num_applications.toNatClampNeg⟩) := by
  -- none of the three indices is beyond the applications
  obtain ⟨hgsm, hrest⟩ := not_or.mp h
  obtain ⟨hcdma, hims⟩ := not_or.mp hrest
  -- the loop counts a natural number, the header an integer that is not negative here
  have hnat : p_cur.num_applications.toNatClampNeg = p_cur.num_applications.toInt.toNat :=
    (Int32.toNat_toInt _).symm
  have hfew : p_cur.num_applications.toInt.toNat ≤ p_cur.applications.toList.length := by
    rw [Vector.length_toList]
    exact Int.toNat_le.mpr hle
  rw [hnat]
  refine ⟨hnonneg, hle, rfl, ?_, fun i hi => ?_, .inr (Int32.not_le.mp hgsm),
    .inr (Int32.not_le.mp hcdma), .inr (Int32.not_le.mp hims)⟩
  · -- as many applications as the header says
    show ((List.map _ _).length : ℤ) = _
    rw [List.length_map, List.length_take, Nat.min_eq_left hfew]
    exact Int.toNat_of_nonneg hnonneg
  · -- each of them is the converted one of the same place
    have hlt : i < p_cur.num_applications.toInt.toNat := Int.lt_toNat.mpr hi
    show (List.map _ _)[i]? = _
    rw [List.getElem?_map, List.getElem?_take_of_lt hlt, Vector.getElem?_toList]

/-- **When the status of a card is decoded**: it is rejected for an index, or the array has as many
applications as the number says. The number itself is never compared with the length of the
array. -/
theorem card_status_decoded_iff (initial : AppStatus) (responseType : ResponseType) (serial : Int32)
    (e : ℤ) (p_cur : RilCardStatus) :
    AnswersCardStatus initial responseType serial e p_cur ↔
      HasBadIndex p_cur ∨
        0 ≤ p_cur.num_applications.toInt ∧ p_cur.num_applications.toInt ≤ cardMaxApps := by
  by_cases hbad : HasBadIndex p_cur
  · -- a bad index is answered with an error
    exact iff_of_true ⟨_, getIccCardStatusResponse_of_bad hbad, .inl isRejected⟩ (.inl hbad)
  rw [or_iff_right hbad]
  unfold AnswersCardStatus
  rw [getIccCardStatusResponse_of_good hbad]
  constructor
  · rintro ⟨answer, hanswer, -⟩
    split at hanswer
    case isTrue => exact nomatch hanswer
    case isFalse hneg =>
      have hnonneg : 0 ≤ p_cur.num_applications.toInt :=
        Int32.le_iff_toInt_le.mp (Int32.not_lt.mp hneg)
      -- the loop has come to its end
      obtain ⟨copied, hcopied, -⟩ := bind_eq_ok.mp hanswer
      have hle := le_of_copyApplications hcopied
      rw [← Int32.toNat_toInt] at hle
      exact ⟨hnonneg, Int.toNat_le.mp hle⟩
  · rintro ⟨hnonneg, hle⟩
    -- the loop has as many rounds as there are applications, and the array has room for these
    have hneg : ¬ p_cur.num_applications < 0 :=
      Int32.not_lt.mpr (Int32.le_iff_toInt_le.mpr hnonneg)
    have hnum : p_cur.num_applications.toNatClampNeg ≤ cardMaxApps := by
      rw [← Int32.toNat_toInt]
      exact Int.toNat_le.mpr hle
    rw [if_neg hneg, copyApplications_of_le hnum]
    exact ⟨_, rfl, .inr (decodes_accepted hbad hnonneg hle)⟩

/-- With the indices -1, nine applications are read from the array of eight. -/
theorem card_status_overread : ¬ ∀ initial responseType serial e p_cur,
    AnswersCardStatus initial responseType serial e p_cur := by
  intro h
  let app : RilAppStatus := ⟨0, 0, 0, none, none, 0, 0, 0⟩
  let p_cur : RilCardStatus := ⟨1, 0, -1, -1, -1, 9, Vector.replicate cardMaxApps app⟩
  have hgood : ¬ HasBadIndex p_cur :=
    not_or.mpr ⟨by decide, not_or.mpr ⟨by decide, by decide⟩⟩
  obtain ⟨answer, hanswer, -⟩ := h ⟨0, 0, 0, [], [], 0, 0, 0⟩ .solicited 0 0 p_cur
  rw [getIccCardStatusResponse_of_good hgood, if_neg (by decide)] at hanswer
  obtain ⟨copied, hcopied, -⟩ := bind_eq_ok.mp hanswer
  exact absurd (le_of_copyApplications hcopied) (by decide)

end Card

end BlueCommon.Ril.Cards
