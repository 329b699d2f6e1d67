import BlueCommon.Lib.Records
import BlueCommon.Ril.Hidl
import Mathlib.Tactic.NormNum

/-!
# Data calls

The modem describes data calls by records of one of three versions, each of which adds a field to
the one before. A response carries the records and their length in bytes, but not their version:
libril takes the first version whose size divides the length.

* `RilDataCallResponseV6`, `…V9`, `…V11`: the records, as words of the 32-bit platform.
* `convertRilDataCallToHalV6`, `…V9`, `…V11`, `convertRilDataCallListToHal`: the decoders.
* `dataCallList_decoded_iff`: which lists are decoded as the records that were sent.
-/

namespace BlueCommon

namespace Ril.DataCalls

/-! ### Records -/

/-- An `int` or a `char *`: four bytes of memory, from which records are put together. -/
abbrev Word : Type := BitVec 32

/-- The string at an address: the bytes before the terminating NUL, or `none` where `strlen` cannot
read. -/
abbrev CStrings : Type := Word → Option (List UInt8)

/-- `RIL_Data_Call_Response_v6`: nine words, of which five point to strings. -/
structure RilDataCallResponseV6 where
  status : Word
  suggestedRetryTime : Word
  cid : Word
  active : Word
  type : Word
  ifname : Word
  addresses : Word
  dnses : Word
  gateways : Word

/-- `RIL_Data_Call_Response_v9`, with one more string behind the fields of version 6. -/
structure RilDataCallResponseV9 extends RilDataCallResponseV6 where
  pcscf : Word

/-- `RIL_Data_Call_Response_v11`, with one more number behind the fields of version 9. -/
structure RilDataCallResponseV11 extends RilDataCallResponseV9 where
  mtu : Word

def formatV6 : RecordFormat Word RilDataCallResponseV6 where
  size := 9
  size_pos := by norm_num
  write r := [r.status, r.suggestedRetryTime, r.cid, r.active, r.type, r.ifname, r.addresses,
    r.dnses, r.gateways]
  read words := do
    let status ← words[0]?
    let suggestedRetryTime ← words[1]?
    let cid ← words[2]?
    let active ← words[3]?
    let type ← words[4]?
    let ifname ← words[5]?
    let addresses ← words[6]?
    let dnses ← words[7]?
    let gateways ← words[8]?
    some ⟨status, suggestedRetryTime, cid, active, type, ifname, addresses, dnses, gateways⟩
  length_write _ := rfl
  read_write _ _ := rfl
  read_of_le words h := by
    have hword : ∀ i < 9, ∃ w, words[i]? = some w := fun i hi =>
      ⟨_, List.getElem?_eq_getElem (lt_of_lt_of_le hi h)⟩
    obtain ⟨w0, h0⟩ := hword 0 (by norm_num)
    obtain ⟨w1, h1⟩ := hword 1 (by norm_num)
    obtain ⟨w2, h2⟩ := hword 2 (by norm_num)
    obtain ⟨w3, h3⟩ := hword 3 (by norm_num)
    obtain ⟨w4, h4⟩ := hword 4 (by norm_num)
    obtain ⟨w5, h5⟩ := hword 5 (by norm_num)
    obtain ⟨w6, h6⟩ := hword 6 (by norm_num)
    obtain ⟨w7, h7⟩ := hword 7 (by norm_num)
    obtain ⟨w8, h8⟩ := hword 8 (by norm_num)
    rw [h0, h1, h2, h3, h4, h5, h6, h7, h8]
    exact ⟨_, rfl⟩

def formatV9 : RecordFormat Word RilDataCallResponseV9 where
  size := 10
  size_pos := by norm_num
  write r := formatV6.write r.toRilDataCallResponseV6 ++ [r.pcscf]
  read words := do
    let r ← formatV6.read words
    let pcscf ← words[9]?
    some ⟨r, pcscf⟩
  length_write _ := rfl
  read_write _ _ := rfl
  read_of_le words h := by
    obtain ⟨r, hr⟩ := formatV6.read_of_le words (le_trans (show 9 ≤ 10 by norm_num) h)
    rw [hr, List.getElem?_eq_getElem h]
    exact ⟨_, rfl⟩

def formatV11 : RecordFormat Word RilDataCallResponseV11 where
  size := 11
  size_pos := by norm_num
  write r := formatV9.write r.toRilDataCallResponseV9 ++ [r.mtu]
  read words := do
    let r ← formatV9.read words
    let mtu ← words[10]?
    some ⟨r, mtu⟩
  length_write _ := rfl
  read_write _ _ := rfl
  read_of_le words h := by
    obtain ⟨r, hr⟩ := formatV9.read_of_le words (le_trans (show 10 ≤ 11 by norm_num) h)
    rw [hr, List.getElem?_eq_getElem h]
    exact ⟨_, rfl⟩

/-- `sizeof` of a record, in bytes. There is no padding between words. -/
def sizeof {α : Type} (f : RecordFormat Word α) : ℕ := 4 * f.size

/-! ### Decoders -/

/-- `SetupDataCallResult` of the interface, which has the fields of version 11. -/
structure SetupDataCallResult where
  status : ℤ
  suggestedRetryTime : ℤ
  cid : ℤ
  active : ℤ
  type : HidlString
  ifname : HidlString
  addresses : HidlString
  dnses : HidlString
  gateways : HidlString
  pcscf : HidlString
  mtu : ℤ
  deriving DecidableEq

/-- `convertCharPtrToHidlString`: the string at an address, or the empty one for `NULL`. -/
def convertCharPtrToHidlString (mem : CStrings) (ptr : Word) : Option HidlString :=
  if ptr ≠ 0 then mem ptr else some []

/-- What the three versions of `convertRilDataCallToHal` share. -/
def convertFields (mem : CStrings) (dcResponse : RilDataCallResponseV6) (pcscf : HidlString)
    (mtu : ℤ) : Option SetupDataCallResult := do
  let type ← convertCharPtrToHidlString mem dcResponse.type
  let ifname ← convertCharPtrToHidlString mem dcResponse.ifname
  let addresses ← convertCharPtrToHidlString mem dcResponse.addresses
  let dnses ← convertCharPtrToHidlString mem dcResponse.dnses
  let gateways ← convertCharPtrToHidlString mem dcResponse.gateways
  some
    { status := dcResponse.status.toInt
      suggestedRetryTime := dcResponse.suggestedRetryTime.toInt
      cid := dcResponse.cid.toInt
      active := dcResponse.active.toInt
      type, ifname, addresses, dnses, gateways, pcscf, mtu }

/-- `convertRilDataCallToHal` of a v6 record. -/
def convertRilDataCallToHalV6 (mem : CStrings) (dcResponse : RilDataCallResponseV6) :
    Option SetupDataCallResult :=
  convertFields mem dcResponse [] 0

/-- `convertRilDataCallToHal` of a v9 record. -/
def convertRilDataCallToHalV9 (mem : CStrings) (dcResponse : RilDataCallResponseV9) :
    Option SetupDataCallResult := do
  let pcscf ← convertCharPtrToHidlString mem dcResponse.pcscf
  convertFields mem dcResponse.toRilDataCallResponseV6 pcscf 0

/-- `convertRilDataCallToHal` of a v11 record. -/
def convertRilDataCallToHalV11 (mem : CStrings) (dcResponse : RilDataCallResponseV11) :
    Option SetupDataCallResult := do
  let pcscf ← convertCharPtrToHidlString mem dcResponse.pcscf
  convertFields mem dcResponse.toRilDataCallResponseV6 pcscf dcResponse.mtu.toInt

/-- `convertRilDataCallListToHal`: `none` if it reads outside `response` or through a pointer to no
string. -/
def convertRilDataCallListToHal (mem : CStrings) (response : List Word) (responseLen : ℕ)
    (dcResultList : List SetupDataCallResult) : Option (List SetupDataCallResult) :=
  if responseLen % sizeof formatV11 = 0 then
    formatV11.decodeArray (convertRilDataCallToHalV11 mem) response (responseLen / sizeof formatV11)
  else if responseLen % sizeof formatV9 = 0 then
    formatV9.decodeArray (convertRilDataCallToHalV9 mem) response (responseLen / sizeof formatV9)
  else if responseLen % sizeof formatV6 = 0 then
    formatV6.decodeArray (convertRilDataCallToHalV6 mem) response (responseLen / sizeof formatV6)
  else some dcResultList

/-! ### What the records say -/

/-- The pointer is `NULL` or points to a string. -/
def Readable (mem : CStrings) (ptr : Word) : Prop := ptr ≠ 0 → ∃ s, mem ptr = some s

/-- The strings of a v6 record can be read: each pointer is `NULL` or points to a string. -/
structure ReadableV6 (mem : CStrings) (r : RilDataCallResponseV6) : Prop where
  type : Readable mem r.type
  ifname : Readable mem r.ifname
  addresses : Readable mem r.addresses
  dnses : Readable mem r.dnses
  gateways : Readable mem r.gateways

structure ReadableV9 (mem : CStrings) (r : RilDataCallResponseV9) : Prop
    extends ReadableV6 mem r.toRilDataCallResponseV6 where
  pcscf : Readable mem r.pcscf

/-- The string of the result is the one that the pointer of the record refers to; `NULL` stands for
the empty string. -/
def SameString (mem : CStrings) (ptr : Word) (s : HidlString) : Prop :=
  (ptr = 0 → s = []) ∧ (ptr ≠ 0 → mem ptr = some s)

/-- The result says what a v6 record says; the two other fields are as given. -/
structure ConvertedFields (mem : CStrings) (r : RilDataCallResponseV6) (pcscf : HidlString → Prop)
    (mtu : ℤ) (result : SetupDataCallResult) : Prop where
  status : result.status = r.status.toInt
  suggestedRetryTime : result.suggestedRetryTime = r.suggestedRetryTime.toInt
  cid : result.cid = r.cid.toInt
  active : result.active = r.active.toInt
  type : SameString mem r.type result.type
  ifname : SameString mem r.ifname result.ifname
  addresses : SameString mem r.addresses result.addresses
  dnses : SameString mem r.dnses result.dnses
  gateways : SameString mem r.gateways result.gateways
  pcscf : pcscf result.pcscf
  mtu : result.mtu = mtu

/-- A v6 record has no `pcscf` and no `mtu`: they are empty and 0. The other fields are those of the
record. -/
def ConvertedV6 (mem : CStrings) (r : RilDataCallResponseV6) : SetupDataCallResult → Prop :=
  ConvertedFields mem r (fun s => s = []) 0

/-- A v9 record has no `mtu`: it is 0. The other fields are those of the record. -/
def ConvertedV9 (mem : CStrings) (r : RilDataCallResponseV9) : SetupDataCallResult → Prop :=
  ConvertedFields mem r.toRilDataCallResponseV6 (SameString mem r.pcscf) 0

def ConvertedV11 (mem : CStrings) (r : RilDataCallResponseV11) : SetupDataCallResult → Prop :=
  ConvertedFields mem r.toRilDataCallResponseV6 (SameString mem r.pcscf) r.mtu.toInt

section Convert

variable {mem : CStrings}

theorem convertCharPtrToHidlString_readable {ptr : Word} (h : Readable mem ptr) :
    ∃ s, convertCharPtrToHidlString mem ptr = some s ∧ SameString mem ptr s := by
  unfold convertCharPtrToHidlString
  by_cases hptr : ptr = 0
  · rw [if_neg (not_not_intro hptr)]
    exact ⟨[], rfl, fun _ => rfl, fun hne => absurd hptr hne⟩
  · obtain ⟨s, hs⟩ := h hptr
    rw [if_pos hptr]
    exact ⟨s, hs, fun h0 => absurd h0 hptr, fun _ => hs⟩

theorem convertFields_readable {r : RilDataCallResponseV6} (h : ReadableV6 mem r)
    {pcscf : HidlString} {p : HidlString → Prop} (hp : p pcscf) (mtu : ℤ) :
    ∃ result, convertFields mem r pcscf mtu = some result ∧
      ConvertedFields mem r p mtu result := by
  obtain ⟨type, htype, htype'⟩ := convertCharPtrToHidlString_readable h.type
  obtain ⟨ifname, hifname, hifname'⟩ := convertCharPtrToHidlString_readable h.ifname
  obtain ⟨addresses, haddresses, haddresses'⟩ := convertCharPtrToHidlString_readable h.addresses
  obtain ⟨dnses, hdnses, hdnses'⟩ := convertCharPtrToHidlString_readable h.dnses
  obtain ⟨gateways, hgateways, hgateways'⟩ := convertCharPtrToHidlString_readable h.gateways
  unfold convertFields
  rw [htype, hifname, haddresses, hdnses, hgateways]
  exact ⟨_, rfl, rfl, rfl, rfl, rfl, htype', hifname', haddresses', hdnses', hgateways', hp, rfl⟩

theorem convertRilDataCallToHalV6_readable {r : RilDataCallResponseV6} (h : ReadableV6 mem r) :
    ∃ result, convertRilDataCallToHalV6 mem r = some result ∧ ConvertedV6 mem r result :=
  @convertFields_readable mem r h [] (fun s => s = []) rfl 0

theorem convertRilDataCallToHalV9_readable {r : RilDataCallResponseV9} (h : ReadableV9 mem r) :
    ∃ result, convertRilDataCallToHalV9 mem r = some result ∧ ConvertedV9 mem r result := by
  obtain ⟨pcscf, hpcscf, hpcscf'⟩ := convertCharPtrToHidlString_readable h.pcscf
  unfold convertRilDataCallToHalV9
  rw [hpcscf]
  exact convertFields_readable h.toReadableV6 hpcscf' 0

theorem convertRilDataCallToHalV11_readable {r : RilDataCallResponseV11}
    (h : ReadableV9 mem r.toRilDataCallResponseV9) :
    ∃ result, convertRilDataCallToHalV11 mem r = some result ∧ ConvertedV11 mem r result := by
  obtain ⟨pcscf, hpcscf, hpcscf'⟩ := convertCharPtrToHidlString_readable h.pcscf
  unfold convertRilDataCallToHalV11
  rw [hpcscf]
  exact convertFields_readable h.toReadableV6 hpcscf' r.mtu.toInt

end Convert

/-! ### Lists of data calls -/

/-- The list of the records `rs`, sent with their length, is decoded as one result for each record,
and each says what its record says. -/
def ListDecoded {α : Type} (mem : CStrings) (f : RecordFormat Word α)
    (Converted : α → SetupDataCallResult → Prop) (rs : List α) : Prop :=
  ∃ results,
    convertRilDataCallListToHal mem (f.writeArray rs) (rs.length * sizeof f) [] = some results ∧
    List.Forall₂ Converted rs results

section Lists

variable {mem : CStrings} {α β : Type}

/-- A loop over the format of the records decodes them. -/
theorem listDecoded_of_decodeArray {f : RecordFormat Word α}
    {convert : α → Option SetupDataCallResult} {Converted : α → SetupDataCallResult → Prop}
    {rs : List α} (hconvert : ∀ r ∈ rs, ∃ result, convert r = some result ∧ Converted r result)
    (hloop : convertRilDataCallListToHal mem (f.writeArray rs) (rs.length * sizeof f) [] =
      f.decodeArray convert (f.writeArray rs) rs.length) :
    ListDecoded mem f Converted rs := by
  unfold ListDecoded
  rw [hloop, f.decodeArray_writeArray]
  -- every record of the list can be read, so the loop has a result
  obtain ⟨results, hresults⟩ :=
    RecordFormat.mapM_isSome fun r hr => (hconvert r hr).imp fun _ => And.left
  refine ⟨results, hresults, ?_⟩
  have hall := RecordFormat.mapM_eq_some_iff.mp hresults
  -- record by record, in order
  rw [List.forall₂_iff_get] at hall ⊢
  refine ⟨hall.1, fun i h₁ h₂ => ?_⟩
  obtain ⟨result, heq, hconverted⟩ := hconvert _ (List.get_mem rs ⟨i, h₁⟩)
  rw [hall.2 i h₁ h₂] at heq
  rw [Option.some.inj heq]
  exact hconverted

/-- A loop over another format, of which another number of records fits, does not. -/
theorem not_listDecoded_of_decodeArray {f : RecordFormat Word α} {g : RecordFormat Word β}
    {convert : β → Option SetupDataCallResult} {Converted : α → SetupDataCallResult → Prop}
    {rs : List α} {num : ℕ} (hnum : num ≠ rs.length)
    (hloop : convertRilDataCallListToHal mem (f.writeArray rs) (rs.length * sizeof f) [] =
      g.decodeArray convert (f.writeArray rs) num) :
    ¬ ListDecoded mem f Converted rs := by
  rintro ⟨results, hresults, hall⟩
  rw [hloop] at hresults
  apply hnum
  rw [hall.length_eq]
  exact (g.length_of_decodeArray hresults).symm

theorem sizeof_formatV6 : sizeof formatV6 = 36 := rfl
theorem sizeof_formatV9 : sizeof formatV9 = 40 := rfl
theorem sizeof_formatV11 : sizeof formatV11 = 44 := rfl

/-- The format that is tried first is recognised in every list. -/
theorem listDecoded_v11 {rs : List RilDataCallResponseV11}
    (h : ∀ r ∈ rs, ReadableV9 mem r.toRilDataCallResponseV9) :
    ListDecoded mem formatV11 (ConvertedV11 mem) rs := by
  apply listDecoded_of_decodeArray fun r hr => convertRilDataCallToHalV11_readable (h r hr)
  unfold convertRilDataCallListToHal
  rw [if_pos (Nat.mul_mod_left _ _), Nat.mul_div_cancel _ (by rw [sizeof_formatV11]; norm_num)]

/-- A list of version 9 is decoded exactly if its length is no multiple of 11, or 0. The version is
guessed from the size alone, and eleven of these records have the size of ten of version 11. -/
theorem listDecoded_v9_iff {rs : List RilDataCallResponseV9} (h : ∀ r ∈ rs, ReadableV9 mem r) :
    ListDecoded mem formatV9 (ConvertedV9 mem) rs ↔ rs = [] ∨ ¬ 11 ∣ rs.length := by
  have hv11 : rs.length * sizeof formatV9 % sizeof formatV11 = 0 ↔ 11 ∣ rs.length := by
    rw [sizeof_formatV9, sizeof_formatV11]
    omega
  by_cases hdvd : 11 ∣ rs.length
  · -- the bytes of the list are read as v11 records
    have hloop : convertRilDataCallListToHal mem (formatV9.writeArray rs)
        (rs.length * sizeof formatV9) [] =
        formatV11.decodeArray (convertRilDataCallToHalV11 mem) (formatV9.writeArray rs)
          (rs.length * sizeof formatV9 / sizeof formatV11) := by
      unfold convertRilDataCallListToHal
      rw [if_pos (hv11.mpr hdvd)]
    -- an empty list is decoded by any format
    rcases eq_or_ne rs [] with rfl | hne
    · exact iff_of_true ⟨[], hloop, .nil⟩ (.inl rfl)
    · -- fewer v11 records than v9 records fit into the same bytes
      have hpos : 0 < rs.length := List.length_pos_iff.mpr hne
      refine iff_of_false (not_listDecoded_of_decodeArray ?_ hloop) ?_
      · rw [sizeof_formatV9, sizeof_formatV11]
        omega
      · exact fun hor => hor.elim hne fun hnot => hnot hdvd
  · -- the size is no multiple of the newer record, so the right one is chosen
    refine iff_of_true (listDecoded_of_decodeArray
      (fun r hr => convertRilDataCallToHalV9_readable (h r hr)) ?_) (.inr hdvd)
    unfold convertRilDataCallListToHal
    rw [if_neg (mt hv11.mp hdvd), if_pos (Nat.mul_mod_left _ _),
      Nat.mul_div_cancel _ (by rw [sizeof_formatV9]; norm_num)]

/-- A list of version 6 is decoded exactly if its length is no multiple of 10 or 11, or 0. Nine
records of the other two versions have the sizes of ten and of eleven of this one. -/
theorem listDecoded_v6_iff {rs : List RilDataCallResponseV6} (h : ∀ r ∈ rs, ReadableV6 mem r) :
    ListDecoded mem formatV6 (ConvertedV6 mem) rs ↔
      rs = [] ∨ ¬ 11 ∣ rs.length ∧ ¬ 10 ∣ rs.length := by
  -- the sizes of the three records are as 9, 10 and 11
  have hv11 : rs.length * sizeof formatV6 % sizeof formatV11 = 0 ↔ 11 ∣ rs.length := by
    rw [sizeof_formatV6, sizeof_formatV11]
    omega
  have hv9 : rs.length * sizeof formatV6 % sizeof formatV9 = 0 ↔ 10 ∣ rs.length := by
    rw [sizeof_formatV6, sizeof_formatV9]
    omega
  -- an empty list again
  rcases eq_or_ne rs [] with rfl | hne
  · exact iff_of_true ⟨[], rfl, .nil⟩ (.inl rfl)
  have hpos : 0 < rs.length := List.length_pos_iff.mpr hne
  rw [or_iff_right hne]
  by_cases hdvd11 : 11 ∣ rs.length
  · -- the bytes of the list are read as v11 records
    have hloop : convertRilDataCallListToHal mem (formatV6.writeArray rs)
        (rs.length * sizeof formatV6) [] =
        formatV11.decodeArray (convertRilDataCallToHalV11 mem) (formatV6.writeArray rs)
          (rs.length * sizeof formatV6 / sizeof formatV11) := by
      unfold convertRilDataCallListToHal
      rw [if_pos (hv11.mpr hdvd11)]
    refine iff_of_false (not_listDecoded_of_decodeArray ?_ hloop) fun hnot => hnot.1 hdvd11
    rw [sizeof_formatV6, sizeof_formatV11]
    omega
  by_cases hdvd10 : 10 ∣ rs.length
  · -- the bytes of the list are read as v9 records
    have hloop : convertRilDataCallListToHal mem (formatV6.writeArray rs)
        (rs.length * sizeof formatV6) [] =
        formatV9.decodeArray (convertRilDataCallToHalV9 mem) (formatV6.writeArray rs)
          (rs.length * sizeof formatV6 / sizeof formatV9) := by
      unfold convertRilDataCallListToHal
      rw [if_neg (mt hv11.mp hdvd11), if_pos (hv9.mpr hdvd10)]
    refine iff_of_false (not_listDecoded_of_decodeArray ?_ hloop) fun hnot => hnot.2 hdvd10
    rw [sizeof_formatV6, sizeof_formatV9]
    omega
  · -- only a length that neither newer format divides is read as v6 records
    refine iff_of_true (listDecoded_of_decodeArray
      (fun r hr => convertRilDataCallToHalV6_readable (h r hr)) ?_) ⟨hdvd11, hdvd10⟩
    unfold convertRilDataCallListToHal
    rw [if_neg (mt hv11.mp hdvd11), if_neg (mt hv9.mp hdvd10), if_pos (Nat.mul_mod_left _ _),
      Nat.mul_div_cancel _ (by rw [sizeof_formatV6]; norm_num)]

end Lists

/-- **Which lists are decoded.** The version of the records is guessed from the length of the
response: the first size that divides it is taken, and that of version 11 is tried first. So lists
of v11 records always are. Lists of v9 records are unless 11 divides their length, lists of v6
records unless 11 or 10 does; the empty list is. -/
theorem dataCallList_decoded_iff (mem : CStrings) :
    (∀ rs : List RilDataCallResponseV11, (∀ r ∈ rs, ReadableV9 mem r.toRilDataCallResponseV9) →
      ListDecoded mem formatV11 (ConvertedV11 mem) rs) ∧
    (∀ rs : List RilDataCallResponseV9, (∀ r ∈ rs, ReadableV9 mem r) →
      (ListDecoded mem formatV9 (ConvertedV9 mem) rs ↔ rs = [] ∨ ¬ 11 ∣ rs.length)) ∧
    ∀ rs : List RilDataCallResponseV6, (∀ r ∈ rs, ReadableV6 mem r) →
      (ListDecoded mem formatV6 (ConvertedV6 mem) rs ↔
        rs = [] ∨ ¬ 11 ∣ rs.length ∧ ¬ 10 ∣ rs.length) :=
  ⟨fun _ h => listDecoded_v11 h, fun _ h => listDecoded_v9_iff h, fun _ h => listDecoded_v6_iff h⟩

/-- The strings of the call below. -/
def someStrings : CStrings := fun ptr =>
  if ptr = 0x1000 then some (stringBytes "IP")
  else if ptr = 0x1010 then some (stringBytes "rmnet0")
  else none

/-- An active call over `rmnet0`, without addresses. -/
def someCall : RilDataCallResponseV9 :=
  ⟨⟨0, -1, 1, 2, 0x1000, 0x1010, 0, 0, 0⟩, 0⟩

theorem someCall_readable : ReadableV9 someStrings someCall where
  type _ := ⟨_, rfl⟩
  ifname _ := ⟨_, rfl⟩
  addresses h := absurd rfl h
  dnses h := absurd rfl h
  gateways h := absurd rfl h
  pcscf h := absurd rfl h

/-- **Eleven v9 records are taken for ten v11 records.** -/
theorem eleven_v9_records_misread : (∀ r ∈ List.replicate 11 someCall, ReadableV9 someStrings r) ∧
    ¬ ListDecoded someStrings formatV9 (ConvertedV9 someStrings) (List.replicate 11 someCall) := by
  refine ⟨fun r hr => ?_, ?_⟩
  · rw [List.eq_of_mem_replicate hr]
    exact someCall_readable
  · have hnum : 10 ≠ (List.replicate 11 someCall).length := by
      rw [List.length_replicate]
      norm_num
    apply @not_listDecoded_of_decodeArray someStrings _ _ formatV9 formatV11
      (convertRilDataCallToHalV11 someStrings) _ _ 10 hnum
    exact if_pos rfl

/-- Two v9 records are taken for what they are. -/
theorem dataCallList_decoded_iff_twoCalls :
    ListDecoded someStrings formatV9 (ConvertedV9 someStrings) [someCall, someCall] := by
  refine ((dataCallList_decoded_iff someStrings).2.1 [someCall, someCall] ?_).mpr (.inr ?_)
  · intro r hr
    rw [List.eq_of_mem_replicate (show r ∈ List.replicate 2 someCall from hr)]
    exact someCall_readable
  · show ¬ 11 ∣ 2
    norm_num

end Ril.DataCalls

end BlueCommon
