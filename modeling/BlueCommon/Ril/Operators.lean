import BlueCommon.Lib.Exits
import BlueCommon.Ril.Hidl
import BlueCommon.Ril.State
import Mathlib.Algebra.Order.Ring.Int

/-!
# Operator lists

The vendor answers a search for networks with an array of strings, in groups of which each is an
operator. How many strings there are in a group is a property of the system; the first four of them
are read. Where the numeric code is in the old format it ends at the last `+`.

Whatever goes wrong in memory is a fault: a division by zero, an index outside an array, a `NULL`
that is read, more bytes read than there are.

* `strrchr_eq_some_iff`: the last occurrence of a character.
* `decodeNetwork_returns`, `of_decodeNetwork`: one round of the loop.
* `decodeLoop_returns`, `of_decodeLoop`: the loop.
* `networks_decoded_iff`: when every operator is decoded without a fault.
-/

namespace BlueCommon.Ril.Operators

open Interaction

/-! ### Data -/

/-- A C string: its address and the bytes before the NUL. The address behind the NUL can be formed,
too. -/
structure CString where
  addr : ℕ
  bytes : List UInt8
  addr_pos : 0 < addr
  addr_lt : addr + bytes.length + 1 < 2 ^ 32
  zero_notMem : 0 ∉ bytes

/-- An entry of the array: `NULL` or a string. -/
abbrev StringPtr : Type := Option CString

inductive OperatorStatus
  | unknown
  | available
  | current
  | forbidden
  deriving DecidableEq

structure OperatorInfo where
  alphaLong : HidlString
  alphaShort : HidlString
  operatorNumeric : HidlString
  status : OperatorStatus

/-- `responseInfo.error`: that of the vendor, or `INVALID_RESPONSE`. -/
inductive ResponseError
  | errno (e : ℤ)
  | invalidResponse

/-- What is passed to the client. -/
structure Networks where
  networks : List OperatorInfo
  error : ResponseError

/-- What goes wrong in memory. `unfinished` stands for a loop that has not come to its end. -/
inductive NetworksFault
  | divisionByZero
  | negativeSize
  | stringsIndex
  | networksIndex
  | null
  | overread
  | unfinished

/-- `response` and `responseLen`, which is the length in bytes of the array unless `response` is
`NULL`. A `size_t` has 32 bits. -/
structure NetworksResponse where
  strings : Option (List StringPtr)
  responseLen : ℕ
  responseLen_lt : responseLen < 2 ^ 32
  length_eq : ∀ resp ∈ strings, resp.length = responseLen / 4

/-! ### Functions -/

/-- The bytes of a literal. -/
def literal (s : String) : List UInt8 := s.toList.map fun c => UInt8.ofNat c.toNat

/-- `strncmp(s, t, n) == 0`, of strings without their NUL. -/
def strncmpEq (s t : List UInt8) (n : ℕ) : Bool := s.take n = t.take n

/-- `strrchr`: the position of the last occurrence. -/
def strrchr (s : List UInt8) (c : UInt8) : Option ℕ :=
  match s with
  | [] => none
  | b :: rest =>
    match strrchr rest c with
    | some k => some (k + 1)
    | none => if b = c then some 0 else none

/-- `convertCharPtrToHidlString`. -/
def convertCharPtrToHidlString : StringPtr → HidlString
  | none => []
  | some s => s.bytes

/-- `convertOperatorStatusToInt`: `none` for -1. -/
def convertOperatorStatusToInt (str : List UInt8) : Option OperatorStatus :=
  if strncmpEq (literal "unknown") str 9 then some .unknown
  else if strncmpEq (literal "available") str 9 then some .available
  else if strncmpEq (literal "current") str 9 then some .current
  else if strncmpEq (literal "forbidden") str 9 then some .forbidden
  else none

/-- `hidl_string(s, length)`: the NUL is the last byte that can be read. -/
def hidlStringOfLength (s : CString) (length : ℕ) : Except NetworksFault HidlString :=
  if length ≤ s.bytes.length + 1 then .ok ((s.bytes ++ [0]).take length) else .error .overread

/-- The numeric code, up to the last `+` with `OLD_MNC_FORMAT`. The difference of two pointers is a
number of 32 bits, and `strrchr` may return `NULL`. -/
def convertNumeric (oldMncFormat : Bool) (ptr : StringPtr) : Except NetworksFault HidlString :=
  if oldMncFormat then
    match ptr with
    | none => .error .null
    | some s =>
      let mccmncIdx : ℕ :=
        match strrchr s.bytes 43 with
        | some k => s.addr + k
        | none => 0
      hidlStringOfLength s (((mccmncIdx : ℤ) - s.addr) % 2 ^ 32).toNat
  else .ok (convertCharPtrToHidlString ptr)

/-- `resp[i]`, which is a fault outside of the array. -/
def entryAt (resp : List StringPtr) (i : ℤ) : Except NetworksFault StringPtr :=
  if i < 0 then .error .stringsIndex
  else
    match resp[i.toNat]? with
    | none => .error .stringsIndex
    | some ptr => .ok ptr

/-- A round of the loop. -/
def decodeNetwork (oldMncFormat : Bool) (e : ℤ) (resp : List StringPtr) (i : ℤ) (j : ℕ)
    (s : Networks) :
    Except NetworksFault Networks := do
  match s.networks[j]? with
  | none => .error .networksIndex
  | some network =>
    let alphaLong ← entryAt resp i
    let alphaShort ← entryAt resp (i + 1)
    let numeric ← entryAt resp (i + 2)
    let operatorNumeric ← convertNumeric oldMncFormat numeric
    let str ← entryAt resp (i + 3)
    match str with
    | none => .error .null
    | some str =>
      let network :=
        { network with
          alphaLong := convertCharPtrToHidlString alphaLong
          alphaShort := convertCharPtrToHidlString alphaShort
          operatorNumeric }
      match convertOperatorStatusToInt str.bytes with
      | none =>
        .ok
          { networks := s.networks.set j network
            error := if e = Errno.success then .invalidResponse else s.error }
      | some status => .ok { s with networks := s.networks.set j { network with status } }

/-- The loop. No index overflows: a round ends without a fault only if a group is no longer than the
array. -/
def decodeLoop (oldMncFormat : Bool) (e : ℤ) (resp : List StringPtr) (numStrings mqanelements : ℤ) :
    ℕ → ℤ → ℕ → Networks → Except NetworksFault Networks
  | 0, _, _, _ => .error .unfinished
  | fuel + 1, i, j, s =>
    if i < numStrings then do
      let s ← decodeNetwork oldMncFormat e resp i j s
      decodeLoop oldMncFormat e resp numStrings mqanelements fuel (i + mqanelements) (j + 1) s
    else .ok s

/-- `mqanelements * sizeof(char *)`, of 32 bits. -/
def groupBytes (mqanelements : Int32) : ℕ := (mqanelements.toInt * 4 % 2 ^ 32).toNat

/-- What is passed on instead of an invalid response. -/
def Networks.rejected (e : ℤ) : Networks :=
  ⟨[], if e = Errno.success then .invalidResponse else .errno e⟩

/-- `radio::getAvailableNetworksResponse`, up to the call to the client. `initial` is what `resize`
makes of a new element. -/
def getAvailableNetworksResponse (oldMncFormat : Bool) (initial : OperatorInfo)
    (mqanelements : Int32) (e : ℤ) (response : NetworksResponse) : Except NetworksFault Networks :=
  if response.strings = none ∧ response.responseLen ≠ 0 then .ok (.rejected e)
  else if groupBytes mqanelements = 0 then .error .divisionByZero
  else if response.responseLen % groupBytes mqanelements ≠ 0 then .ok (.rejected e)
  else
    let resp := response.strings.getD []
    let numStrings : ℕ := response.responseLen / 4
    let size := (numStrings : ℤ).tdiv mqanelements.toInt
    if size < 0 then .error .negativeSize
    else
      decodeLoop oldMncFormat e resp numStrings mqanelements.toInt (numStrings + 1) 0 0
        ⟨List.replicate size.toNat initial, .errno e⟩

/-! ### What they should do -/

/-- The words for the status, as the vendor sends them. -/
def OperatorStatus.text : OperatorStatus → List UInt8
  | .unknown => literal "unknown"
  | .available => literal "available"
  | .current => literal "current"
  | .forbidden => literal "forbidden"

/-- The numeric code of a string. In the old format it is what is before the last `+`, and if there
is none, at least no longer than the string. -/
def IsNumeric (oldMncFormat : Bool) (ptr : StringPtr) (numeric : HidlString) : Prop :=
  if oldMncFormat then
    ∃ s, ptr = some s ∧ ((∃ after, s.bytes = numeric ++ 43 :: after ∧ 43 ∉ after) ∨
      43 ∉ s.bytes ∧ numeric.length ≤ s.bytes.length)
  else numeric = convertCharPtrToHidlString ptr

/-- An operator is what the group from `i` on says. -/
structure DecodesGroup (oldMncFormat : Bool) (resp : List StringPtr) (i : ℕ)
    (network : OperatorInfo) : Prop where
  alphaLong : ∃ ptr, resp[i]? = some ptr ∧ network.alphaLong = convertCharPtrToHidlString ptr
  alphaShort : ∃ ptr, resp[i + 1]? = some ptr ∧ network.alphaShort = convertCharPtrToHidlString ptr
  operatorNumeric : ∃ ptr, resp[i + 2]? = some ptr ∧
      IsNumeric oldMncFormat ptr network.operatorNumeric
  status : ∃ str, resp[i + 3]? = some (some str) ∧ ∀ status, str.bytes = status.text →
      network.status = status

/-- The response passes the checks: it is not `NULL` with a length, and its length is a multiple of
the bytes of a group. -/
def Accepted (mqanelements : Int32) (response : NetworksResponse) : Prop :=
  ¬(response.strings = none ∧ response.responseLen ≠ 0) ∧
  response.responseLen % groupBytes mqanelements = 0

/-- There is no fault, and if the response is accepted, there is just one operator for each
group. -/
def KeepsOperators (oldMncFormat : Bool) (initial : OperatorInfo) (mqanelements : Int32) (e : ℤ)
    (response : NetworksResponse) : Prop :=
  ∃ s, getAvailableNetworksResponse oldMncFormat initial mqanelements e response = .ok s ∧
    (Accepted mqanelements response →
      s.networks.length * mqanelements.toInt = (response.strings.getD []).length ∧
      ∀ j network, s.networks[j]? = some network →
        DecodesGroup oldMncFormat (response.strings.getD []) (j * mqanelements.toInt.toNat) network)

/-- The strings of the group from `i` on that may not be `NULL`, or have to have a `+`. -/
structure DecodableGroup (oldMncFormat : Bool) (resp : List StringPtr) (i : ℕ) : Prop where
  numeric : oldMncFormat = true → ∃ s, resp[i + 2]? = some (some s) ∧ 43 ∈ s.bytes
  status : ∃ s, resp[i + 3]? = some (some s)

/-! ### Texts -/

section Texts

variable {s t : List UInt8} {c : UInt8} {k : ℕ} {ptr : StringPtr} {numeric : HidlString}

theorem strrchr_eq_none_iff : strrchr s c = none ↔ c ∉ s := by
  induction s with
  | nil => exact iff_of_true rfl List.not_mem_nil
  | cons b s ih =>
    rw [strrchr, List.mem_cons, not_or, ← ih]
    cases strrchr s c with
    | none =>
      show (if b = c then some 0 else none) = none ↔ _
      rw [eq_comm (a := c)]
      simp
    | some k => simp

/-- **The last occurrence of a character.** By induction on the string: it is in the rest if there
is one there, and otherwise it can only be the first character. -/
theorem strrchr_eq_some_iff :
    strrchr s c = some k ↔ ∃ before after, s = before ++ c :: after ∧ c ∉ after ∧
      before.length = k := by
  induction s generalizing k with
  | nil => simp [strrchr]
  | cons b s ih =>
    rw [strrchr]
    -- the last occurrence is in the rest, if there is one there
    cases hrest : strrchr s c with
    | some l =>
      obtain ⟨before, after, hs, hafter, hl⟩ := ih.mp hrest
      constructor
      · -- the occurrence is one character further on
        rintro ⟨⟩
        exact ⟨b :: before, after, by rw [hs]; rfl, hafter, by rw [List.length_cons, hl]⟩
      · rintro ⟨before', after', hs', hafter', hk⟩
        cases before' with
        | nil =>
          -- then the rest has no further occurrence
          obtain ⟨rfl, rfl⟩ := List.cons.inj hs'
          rw [strrchr_eq_none_iff.mpr hafter'] at hrest
          cases hrest
        | cons b' before' =>
          -- an occurrence in the rest, of which there is only one last
          obtain ⟨rfl, htail⟩ := List.cons.inj hs'
          have hl' := ih.mpr ⟨before', after', htail, hafter', rfl⟩
          rw [hrest] at hl'
          rw [← hk, List.length_cons, ← Option.some.inj hl']
    | none =>
      have hnotMem := strrchr_eq_none_iff.mp hrest
      -- without one in the rest it can only be the first character
      show (if b = c then some 0 else none) = some k ↔ _
      constructor
      · intro h
        split_ifs at h with hb
        obtain rfl := Option.some.inj h
        exact ⟨[], s, by rw [hb]; rfl, hnotMem, rfl⟩
      · rintro ⟨before, after, hs, hafter, rfl⟩
        cases before with
        | nil =>
          obtain ⟨rfl, -⟩ := List.cons.inj hs
          exact if_pos rfl
        | cons b' before =>
          obtain ⟨-, rfl⟩ := List.cons.inj hs
          exact absurd (List.mem_append_right _ List.mem_cons_self) hnotMem

theorem convertOperatorStatusToInt_text (status : OperatorStatus) :
    convertOperatorStatusToInt status.text = some status := by
  cases status <;> decide

/-- The old numeric code ends at the last `+`. Without one, its length is the distance to the end of
the memory. -/
theorem convertNumeric_old_eq_ok :
    convertNumeric true ptr = .ok numeric ↔ ∃ s, ptr = some s ∧
      ∃ after, s.bytes = numeric ++ 43 :: after ∧ 43 ∉ after := by
  cases ptr with
  | none => simp [convertNumeric]
  | some s =>
    have hpos := s.addr_pos
    have hlt := s.addr_lt
    show hidlStringOfLength s
      (((match strrchr s.bytes 43 with | some k => s.addr + k | none => 0 : ℕ) - s.addr : ℤ) %
      2 ^ 32).toNat = _ ↔ _
    cases hplus : strrchr s.bytes 43 with
    | none =>
      -- the length is that of the memory behind the string, more than can be read
      have hlength : (((0 : ℕ) - s.addr : ℤ) % 2 ^ 32).toNat = 2 ^ 32 - s.addr := by omega
      rw [hlength, hidlStringOfLength, if_neg (by omega)]
      refine iff_of_false (by simp) ?_
      rintro ⟨_, ⟨⟩, after, hs, -⟩
      rw [strrchr_eq_none_iff, hs] at hplus
      exact hplus (List.mem_append_right _ List.mem_cons_self)
    | some k =>
      -- the length is the position of the last `+`
      obtain ⟨before, after, hs, hafter, rfl⟩ := strrchr_eq_some_iff.mp hplus
      have hbound : before.length ≤ s.bytes.length := by
        rw [hs, List.length_append]
        exact Nat.le_add_right _ _
      have hlength : (((s.addr + before.length : ℕ) - s.addr : ℤ) % 2 ^ 32).toNat =
          before.length := by omega
      have htake : (s.bytes ++ [0]).take before.length = before := by
        rw [hs, List.append_assoc, List.take_left]
      rw [hlength, hidlStringOfLength, if_pos (by omega), htake]
      constructor
      · rintro ⟨⟩
        exact ⟨s, rfl, after, hs, hafter⟩
      · rintro ⟨_, ⟨⟩, after', hs', hafter'⟩
        -- two splittings at a last `+` are at the same position
        have hk := strrchr_eq_some_iff.mpr ⟨numeric, after', hs', hafter', rfl⟩
        rw [hplus] at hk
        rw [hs] at hs'
        rw [List.append_inj_left hs' (Option.some.inj hk)]

end Texts

/-! ### One group -/

section Groups

variable {oldMncFormat : Bool} {e : ℤ} {resp : List StringPtr} {i j : ℕ} {s s' : Networks}
  {ptr : StringPtr}

theorem entryAt_natCast : entryAt resp i = .ok ptr ↔ resp[i]? = some ptr := by
  unfold entryAt
  rw [if_neg (by omega), Int.toNat_natCast]
  cases resp[i]? <;> simp

/-- What a round has decoded, if it ends without a fault. The slot of the result is inside the list,
the four strings are in the array, and the old numeric code has a `+`. -/
theorem of_decodeNetwork (h : decodeNetwork oldMncFormat e resp i j s = .ok s') :
    j < s.networks.length ∧ DecodableGroup oldMncFormat resp i ∧
      ∃ network, DecodesGroup oldMncFormat resp i network ∧
        s'.networks = s.networks.set j network := by
  unfold decodeNetwork at h
  -- the slot of the result is inside the list that was allocated
  split at h
  · cases h
  rename_i initial hinitial
  have hj := (List.getElem?_eq_some_iff.mp hinitial).1
  -- the four strings are in the array
  obtain ⟨alphaLong, hlong, h⟩ := bind_eq_ok.mp h
  obtain ⟨alphaShort, hshort, h⟩ := bind_eq_ok.mp h
  obtain ⟨numeric, hnumeric, h⟩ := bind_eq_ok.mp h
  obtain ⟨operatorNumeric, hconvert, h⟩ := bind_eq_ok.mp h
  obtain ⟨str, hstr, h⟩ := bind_eq_ok.mp h
  -- the places of the four strings follow each other
  have hlong := entryAt_natCast.mp hlong
  have hshort := (entryAt_natCast (i := i + 1)).mp hshort
  have hnumeric := (entryAt_natCast (i := i + 2)).mp hnumeric
  have hstr := (entryAt_natCast (i := i + 3)).mp hstr
  cases str with
  | none => cases h
  | some str =>
    -- the old numeric code can only be read if there is a `+`
    have hdecodable : DecodableGroup oldMncFormat resp i := by
      refine ⟨?_, str, hstr⟩
      rintro rfl
      obtain ⟨t, rfl, after, ht, -⟩ := convertNumeric_old_eq_ok.mp hconvert
      exact ⟨t, hnumeric, by rw [ht]; exact List.mem_append_right _ List.mem_cons_self⟩
    -- the numeric code as it is, or what follows its `+`
    have hisNumeric : IsNumeric oldMncFormat numeric operatorNumeric := by
      cases oldMncFormat with
      | true =>
        obtain ⟨t, rfl, after, ht, hafter⟩ := convertNumeric_old_eq_ok.mp hconvert
        exact ⟨t, rfl, .inl ⟨after, ht, hafter⟩⟩
      | false => exact (Except.ok.inj hconvert).symm
    refine ⟨hj, hdecodable, ?_⟩
    simp only at h
    -- a known word for the status, or none
    split at h <;> rename_i hstatus <;> obtain rfl := Except.ok.inj h
    · -- no word for the status, so that nothing is said of it
      refine ⟨_, ⟨⟨_, hlong, rfl⟩, ⟨_, hshort, rfl⟩, ⟨_, hnumeric, hisNumeric⟩, str, hstr,
        fun status ht => ?_⟩, rfl⟩
      rw [ht, convertOperatorStatusToInt_text] at hstatus
      cases hstatus
    · refine ⟨_, ⟨⟨_, hlong, rfl⟩, ⟨_, hshort, rfl⟩, ⟨_, hnumeric, hisNumeric⟩, str, hstr,
        fun status ht => ?_⟩, rfl⟩
      rw [ht, convertOperatorStatusToInt_text] at hstatus
      exact (Option.some.inj hstatus).symm

/-- A round whose group can be decoded ends without a fault. As the fourth string is in the array
the others are there, too; and an unknown status is no fault. -/
theorem decodeNetwork_returns (hj : j < s.networks.length)
    (h : DecodableGroup oldMncFormat resp i) :
    ∃ s', decodeNetwork oldMncFormat e resp i j s = .ok s' := by
  -- as the fourth string is in the array, the others are there, too
  obtain ⟨str, hstr⟩ := h.status
  have hlength := (List.getElem?_eq_some_iff.mp hstr).1
  obtain ⟨numeric, hnumeric⟩ : ∃ ptr, resp[i + 2]? = some ptr :=
    ⟨_, List.getElem?_eq_getElem (by omega)⟩
  -- the conversion of the numeric code: of an old format only with a `+`
  obtain ⟨operatorNumeric, hconvert⟩ : ∃ n, convertNumeric oldMncFormat numeric = .ok n := by
    cases oldMncFormat with
    | false => exact ⟨_, rfl⟩
    | true =>
      obtain ⟨t, ht, hplus⟩ := h.numeric rfl
      obtain rfl := Option.some.inj (hnumeric.symm.trans ht)
      cases hk : strrchr t.bytes 43 with
      | none => exact absurd hplus (strrchr_eq_none_iff.mp hk)
      | some k =>
        obtain ⟨before, after, hsplit, hafter, -⟩ := strrchr_eq_some_iff.mp hk
        exact ⟨before, convertNumeric_old_eq_ok.mpr ⟨t, rfl, after, hsplit, hafter⟩⟩
  -- the four entries that the round reads
  have hlong : entryAt resp i = .ok resp[i] :=
    entryAt_natCast.mpr (List.getElem?_eq_getElem (by omega))
  have hshort : entryAt resp ((i : ℤ) + 1) = .ok resp[i + 1] :=
    (entryAt_natCast (i := i + 1)).mpr (List.getElem?_eq_getElem (by omega))
  have hnumeric : entryAt resp ((i : ℤ) + 2) = .ok numeric :=
    (entryAt_natCast (i := i + 2)).mpr hnumeric
  have hstr : entryAt resp ((i : ℤ) + 3) = .ok (some str) := (entryAt_natCast (i := i + 3)).mpr hstr
  unfold decodeNetwork
  rw [List.getElem?_eq_getElem hj]
  simp only [hlong, hshort, hnumeric, hconvert, hstr, bind, Except.bind]
  -- whatever the status says, the round ends with a network
  split
  · exact ⟨_, rfl⟩
  · exact ⟨_, rfl⟩

end Groups

/-! ### The loop -/

section Loop

variable {oldMncFormat : Bool} {e : ℤ} {resp : List StringPtr} {m g fuel j : ℕ} {s s' : Networks}

/-- The loop over `g` groups of `m` strings goes on while there is a group left. -/
theorem decodeLoop_succ (hm : 0 < m) :
    decodeLoop oldMncFormat e resp (g * m : ℕ) m (fuel + 1) (j * m : ℕ) j s =
      if j < g then
        decodeNetwork oldMncFormat e resp (j * m : ℕ) j s >>=
          decodeLoop oldMncFormat e resp (g * m : ℕ) m fuel ((j + 1) * m : ℕ) (j + 1)
      else .ok s := by
  have hlt : ((j * m : ℕ) : ℤ) < (g * m : ℕ) ↔ j < g := by
    rw [Int.ofNat_lt]
    exact Nat.mul_lt_mul_right hm
  have hnext : ((j * m : ℕ) : ℤ) + m = ((j + 1) * m : ℕ) := by
    rw [← Int.natCast_add, Nat.succ_mul]
  rw [decodeLoop]
  simp only [hlt, hnext]

/-- **A loop that ends without a fault has decoded every group from `j` on**, and left the operators
before as they are. -/
theorem of_decodeLoop (hm : 0 < m) (hlength : s.networks.length = g)
    (h : decodeLoop oldMncFormat e resp (g * m : ℕ) m fuel (j * m : ℕ) j s = .ok s') :
    s'.networks.length = g ∧ (∀ l < j, s'.networks[l]? = s.networks[l]?) ∧
      ∀ l, j ≤ l → l < g → DecodableGroup oldMncFormat resp (l * m) ∧
        ∃ network, s'.networks[l]? = some network ∧
          DecodesGroup oldMncFormat resp (l * m) network := by
  -- induction on the fuel: what is decoded in a round is left alone by the later ones
  induction fuel generalizing j s with
  | zero => cases h
  | succ fuel ih =>
    rw [decodeLoop_succ hm] at h
    split_ifs at h with hj
    · obtain ⟨s₁, hround, h⟩ := bind_eq_ok.mp h
      -- a round for the group `j`
      obtain ⟨hj', hdecodable, network, hnetwork, hs₁⟩ := of_decodeNetwork hround
      obtain ⟨hlength', hbefore, hfrom⟩ := ih (by rw [hs₁, List.length_set, hlength]) h
      refine ⟨hlength', fun l hl => ?_, fun l hl hlg => ?_⟩
      · rw [hbefore l (Nat.lt_succ_of_lt hl), hs₁, List.getElem?_set_ne hl.ne']
      · rcases hl.eq_or_lt with rfl | hl
        · refine ⟨hdecodable, network, ?_, hnetwork⟩
          rw [hbefore j (Nat.lt_succ_self j), hs₁, List.getElem?_set_self hj']
        · exact hfrom l hl hlg
    · obtain rfl := Except.ok.inj h
      exact ⟨hlength, fun _ _ => rfl, fun l hl hlg => absurd (hl.trans_lt hlg) hj⟩

/-- The loop ends without a fault if every group can be decoded. -/
theorem decodeLoop_returns (hm : 0 < m) (hlength : s.networks.length = g) (hjg : j ≤ g)
    (hfuel : g < fuel + j) (h : ∀ l, j ≤ l → l < g → DecodableGroup oldMncFormat resp (l * m)) :
    ∃ s', decodeLoop oldMncFormat e resp (g * m : ℕ) m fuel (j * m : ℕ) j s = .ok s' := by
  induction fuel generalizing j s with
  | zero => omega
  | succ fuel ih =>
    -- the fuel is enough for the groups that are left
    rw [decodeLoop_succ hm]
    split_ifs with hj
    · obtain ⟨s₁, hround⟩ := decodeNetwork_returns (e := e) (hlength ▸ hj) (h j le_rfl hj)
      obtain ⟨-, -, network, -, hs₁⟩ := of_decodeNetwork hround
      obtain ⟨s', hs'⟩ := ih (by rw [hs₁, List.length_set, hlength]) hj (by omega) fun l hl hlg =>
        h l (Nat.le_of_succ_le hl) hlg
      exact ⟨s', bind_eq_ok.mpr ⟨s₁, hround, hs'⟩⟩
    · exact ⟨s, rfl⟩

end Loop

/-! ### The response -/

/-- Either the response is `NULL` with a length, or: the bytes of a group are not zero; and if the
response is accepted it is empty, or a group has at least four strings and its bytes do not
overflow, and each group can be decoded. -/
def Decodable (oldMncFormat : Bool) (mqanelements : Int32) (response : NetworksResponse) : Prop :=
  response.strings = none ∧ response.responseLen ≠ 0 ∨
    groupBytes mqanelements ≠ 0 ∧
      (response.responseLen % groupBytes mqanelements = 0 → response.responseLen / 4 = 0 ∨
        4 ≤ mqanelements.toInt ∧ mqanelements.toInt < 2 ^ 30 ∧
          ∀ j, j * mqanelements.toInt.toNat < response.responseLen / 4 →
            DecodableGroup oldMncFormat (response.strings.getD []) (j * mqanelements.toInt.toNat))

section Responses

variable {oldMncFormat : Bool} {initial : OperatorInfo} {mqanelements : Int32} {e : ℤ}
  {response : NetworksResponse}
  {s : Networks}

theorem Accepted.length_eq (h : Accepted mqanelements response) :
    (response.strings.getD []).length = response.responseLen / 4 := by
  cases hstrings : response.strings with
  | none =>
    have hzero : response.responseLen = 0 := by
      by_contra hne
      exact h.1 ⟨hstrings, hne⟩
    rw [hzero]
    rfl
  | some resp => exact response.length_eq resp hstrings

/-- What becomes of an accepted response. -/
theorem Accepted.eq (oldMncFormat : Bool) (initial : OperatorInfo) (e : ℤ)
    (h : Accepted mqanelements response) (hbytes : groupBytes mqanelements ≠ 0) :
    getAvailableNetworksResponse oldMncFormat initial mqanelements e response =
      if ((response.responseLen / 4 : ℕ) : ℤ).tdiv mqanelements.toInt < 0 then .error .negativeSize
      else
        decodeLoop oldMncFormat e (response.strings.getD [])
        (response.responseLen / 4 : ℕ) mqanelements.toInt
          (response.responseLen / 4 + 1) 0 0
          ⟨List.replicate (((response.responseLen / 4 : ℕ) : ℤ).tdiv mqanelements.toInt).toNat
            initial, .errno e⟩ := by
  unfold getAvailableNetworksResponse
  rw [if_neg h.1, if_neg hbytes, if_neg (not_not.mpr h.2)]

/-- **A group that is too long, or of a negative length, has no operator**: the first round runs
into this. -/
theorem Accepted.fault (h : Accepted mqanelements response) (hbytes : groupBytes mqanelements ≠ 0)
    (hne : response.responseLen / 4 ≠ 0)
    (hm : mqanelements.toInt ≤ 0 ∨ 2 ^ 30 ≤ mqanelements.toInt) :
    getAvailableNetworksResponse oldMncFormat initial mqanelements e response ≠ .ok s := by
  have hlt := response.responseLen_lt
  have hsize : ((response.responseLen / 4 : ℕ) : ℤ).tdiv mqanelements.toInt ≤ 0 := by
    -- a quotient of numbers with different signs, or by a number that is too great
    rcases hm with hnonpos | hlong
    · exact Int.tdiv_nonpos_of_nonneg_of_nonpos (Int.natCast_nonneg _) hnonpos
    · exact (Int.tdiv_eq_zero_of_lt (Int.natCast_nonneg _) (by omega)).le
  rw [h.eq oldMncFormat initial e hbytes]
  split_ifs with hneg
  · simp
  · have hempty : (((response.responseLen / 4 : ℕ) : ℤ).tdiv mqanelements.toInt).toNat = 0 := by
      omega
    -- no operator has been made room for
    rw [hempty, decodeLoop, if_pos (by omega)]
    simp [decodeNetwork, bind, Except.bind]

/-- How many groups there are if their length is in the right range. -/
theorem Accepted.groups (h : Accepted mqanelements response) (hpos : 0 < mqanelements.toInt)
    (hlt : mqanelements.toInt < 2 ^ 30) : ∃ m g : ℕ, mqanelements.toInt = m ∧ 0 < m ∧
      response.responseLen / 4 = g * m ∧
      ((response.responseLen / 4 : ℕ) : ℤ).tdiv mqanelements.toInt = g := by
  obtain ⟨m, hm⟩ := Int.eq_ofNat_of_zero_le hpos.le
  -- in this range the bytes of a group do not overflow
  have hbytes : groupBytes mqanelements = 4 * m := by
    unfold groupBytes
    omega
  obtain ⟨g, hg⟩ := Nat.dvd_of_mod_eq_zero (hbytes ▸ h.2)
  have hnum : response.responseLen / 4 = g * m := by
    rw [hg, Nat.mul_assoc, Nat.mul_div_cancel_left _ (by decide), Nat.mul_comm]
  have hmpos : 0 < m := by omega
  refine ⟨m, g, hm, hmpos, hnum, ?_⟩
  rw [hnum, hm]
  show ((g * m / m : ℕ) : ℤ) = g
  rw [Nat.mul_div_cancel _ hmpos]

/-- An empty response has no operators, whatever the length of a group. -/
theorem Accepted.keepsOperators_of_empty (h : Accepted mqanelements response)
    (hbytes : groupBytes mqanelements ≠ 0)
    (hzero : response.responseLen / 4 = 0) :
    KeepsOperators oldMncFormat initial mqanelements e response := by
  have hlength := h.length_eq
  refine ⟨⟨[], .errno e⟩, ?_, fun _ => ⟨?_, fun j network hj => ?_⟩⟩
  · rw [h.eq oldMncFormat initial e hbytes, hzero]
    simp [decodeLoop]
  · rw [hlength, hzero]
    exact Int.zero_mul _
  · cases hj

/-- A response whose groups have a length in the right range. The loop goes over as many groups as
the array has, and is right exactly if every group has four strings or more and can be decoded. -/
theorem Accepted.keepsOperators_iff (h : Accepted mqanelements response)
    (hbytes : groupBytes mqanelements ≠ 0)
    (hne : response.responseLen / 4 ≠ 0) (hpos : 0 < mqanelements.toInt)
    (hlt : mqanelements.toInt < 2 ^ 30) :
    KeepsOperators oldMncFormat initial mqanelements e response ↔ 4 ≤ mqanelements.toInt ∧
      ∀ j, j * mqanelements.toInt.toNat < response.responseLen / 4 →
        DecodableGroup oldMncFormat (response.strings.getD []) (j * mqanelements.toInt.toNat) := by
  have hlength := h.length_eq
  have heq := h.eq oldMncFormat initial e hbytes
  obtain ⟨m, g, hm, hmpos, hnum, hsize⟩ := h.groups hpos hlt
  -- the loop runs over `g` groups of `m` strings
  -- the size is a multiple of the group, so the loop comes out even
  rw [hsize, if_neg (by omega), hnum, hm, Int.toNat_natCast] at heq
  have hgroup : ∀ j, j * m < g * m ↔ j < g := fun j => Nat.mul_lt_mul_right hmpos
  have hreplicate : (List.replicate g initial).length = g := List.length_replicate
  have hstart : (0 : ℤ) = ((0 * m : ℕ) : ℤ) := by simp
  rw [hstart] at heq
  simp only [KeepsOperators, hm, Int.toNat_natCast, hnum, hgroup, heq, hlength]
  constructor
  · -- if all operators are kept then each group could be decoded
    rintro ⟨s, hs, -⟩
    obtain ⟨-, -, hfrom⟩ := of_decodeLoop hmpos hreplicate hs
    refine ⟨?_, fun j hj => (hfrom j (Nat.zero_le j) hj).1⟩
    -- the fourth string of the last group is in the array
    have hg : g - 1 + 1 = g := Nat.sub_add_cancel (by
      by_contra hzero
      rw [Nat.lt_one_iff.mp (Nat.lt_of_not_le hzero)] at hnum
      omega)
    obtain ⟨str, hstr⟩ := (hfrom (g - 1) (Nat.zero_le _) (by omega)).1.status
    have hlast := (List.getElem?_eq_some_iff.mp hstr).1
    rw [hlength, hnum, ← hg, Nat.succ_mul, Nat.add_sub_cancel] at hlast
    omega
  · -- if each group can be decoded then the loop runs to its end
    rintro ⟨-, hdecodable⟩
    have hg : g ≤ g * m := Nat.le_mul_of_pos_right g hmpos
    obtain ⟨s, hs⟩ : ∃ s, decodeLoop oldMncFormat e (response.strings.getD [])
      (g * m : ℕ) m (g * m + 1) (0 * m : ℕ) 0
        ⟨List.replicate g initial, .errno e⟩ = .ok s :=
      decodeLoop_returns hmpos hreplicate (Nat.zero_le g) (by omega) fun l _ hl => hdecodable l hl
    obtain ⟨hcount, -, hfrom⟩ := of_decodeLoop hmpos hreplicate hs
    refine ⟨s, hs, fun _ => ⟨?_, fun j network hj => ?_⟩⟩
    · -- as many networks as groups
      rw [hcount]
      exact (Int.natCast_mul g m).symm
    · -- each decoded from its own group
      have hjg : j < g := hcount ▸ (List.getElem?_eq_some_iff.mp hj).1
      obtain ⟨-, network', hnetwork', hdecodes⟩ := hfrom j (Nat.zero_le j) hjg
      rw [Option.some.inj (hj.symm.trans hnetwork')]
      exact hdecodes

/-- **Every operator is decoded without a fault just when** the bytes of a group are not zero as a
number of 32 bits, and if there are strings, a group has at least four of them and is not so long
that its bytes overflow, no status is `NULL` and in the old format every numeric code has a `+`. -/
theorem networks_decoded_iff (oldMncFormat : Bool) (initial : OperatorInfo)
    (mqanelements : Int32) (e : ℤ) (response : NetworksResponse) :
    KeepsOperators oldMncFormat initial mqanelements e response ↔
    Decodable oldMncFormat mqanelements response := by
  -- a null array with a length is answered with an error and an empty list
  by_cases hnull : response.strings = none ∧ response.responseLen ≠ 0
  · exact iff_of_true ⟨_, if_pos hnull, fun haccepted => absurd hnull haccepted.1⟩ (.inl hnull)
  -- the division is by zero
  rw [Decodable, or_iff_right hnull]
  by_cases hbytes : groupBytes mqanelements = 0
  · refine iff_of_false ?_ fun h => h.1 hbytes
    rintro ⟨s, hs, -⟩
    unfold getAvailableNetworksResponse at hs
    rw [if_neg hnull, if_pos hbytes] at hs
    cases hs
  by_cases hmod : response.responseLen % groupBytes mqanelements = 0
  · have haccepted : Accepted mqanelements response := ⟨hnull, hmod⟩
    rw [and_iff_right hbytes, imp_iff_right hmod]
    -- an empty response: no rounds, and no networks
    by_cases hzero : response.responseLen / 4 = 0
    · exact iff_of_true (haccepted.keepsOperators_of_empty hbytes hzero) (.inl hzero)
    rw [or_iff_right hzero]
    -- a group of a sensible size, or one with which the loop leaves the array
    by_cases hrange : 0 < mqanelements.toInt ∧ mqanelements.toInt < 2 ^ 30
    · rw [haccepted.keepsOperators_iff hbytes hzero hrange.1 hrange.2, and_iff_right hrange.2]
    · refine iff_of_false ?_ fun h => hrange ⟨by omega, h.2.1⟩
      rintro ⟨s, hs, -⟩
      exact haccepted.fault hbytes hzero (by omega) hs
  · -- a length that is no multiple of the group is rejected
    refine iff_of_true ⟨.rejected e, ?_, fun haccepted => absurd haccepted.2 hmod⟩
      ⟨hbytes, fun h => absurd h hmod⟩
    unfold getAvailableNetworksResponse
    rw [if_neg hnull, if_neg hbytes, if_pos hmod]

end Responses

/-! ### An operator -/

/-- A string at address 4096. -/
def CString.at4096 (bytes : List UInt8) (hlength : bytes.length < 2 ^ 16)
    (hzero : 0 ∉ bytes) : CString where
  addr := 4096
  bytes
  addr_pos := by decide
  addr_lt := by omega
  zero_notMem := hzero

/-- `"262"`, which has no `+`. -/
def withoutPlus : StringPtr := some (.at4096 [50, 54, 50] (by decide) (by decide))

def currentStatus : StringPtr := some (.at4096 (literal "current") (by decide) (by decide))

/-- A response that consists of these strings. -/
def NetworksResponse.ofStrings (resp : List StringPtr) (h : 4 * resp.length < 2 ^ 32) :
    NetworksResponse where
  strings := some resp
  responseLen := 4 * resp.length
  responseLen_lt := h
  length_eq := by
    rintro _ ⟨⟩
    omega

/-- **Groups of no strings, of three strings, and an old numeric code without a `+`** each end in a
fault. -/
theorem networks_faults :
    getAvailableNetworksResponse false ⟨[], [], [], .unknown⟩ 0 0 (.ofStrings [] (by decide)) =
      .error .divisionByZero ∧
    getAvailableNetworksResponse false ⟨[], [], [], .unknown⟩ 3 0
      (.ofStrings [withoutPlus, withoutPlus, withoutPlus] (by decide)) = .error .stringsIndex ∧
    getAvailableNetworksResponse true ⟨[], [], [], .unknown⟩ 4 0
      (.ofStrings [withoutPlus, withoutPlus, withoutPlus, currentStatus]
        (by decide)) = .error .overread ∧
    ¬KeepsOperators true ⟨[], [], [], .unknown⟩ 4 0
      (.ofStrings [withoutPlus, withoutPlus, withoutPlus, currentStatus] (by decide)) := by
  refine ⟨rfl, rfl, rfl, ?_⟩
  rintro ⟨s, hs, -⟩
  cases hs

end BlueCommon.Ril.Operators
