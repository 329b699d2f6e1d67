import BlueCommon.Lib.Numerals

/-!
# Mobile network codes

An MNC has two or three digits, and zeros before it count. It is passed on as an `int` with the
number of digits in the highest four bits, or zero there if this is not known.

* `toNat_encode`, `decode_eq`: how the number of digits and the value are packed, and unpacked.
* `decode_encodeString`: what comes back of a string that `stoi` can read.
* `mnc_codec`: which strings come back, and what comes back of the others.
-/

namespace BlueCommon.Ril.Mnc

open Numerals

/-! ### Functions -/

/-- `INT_MAX`, an unknown MNC. Whoever has no MNC stores this number. -/
abbrev intMax : Int32 := Int32.maxValue

/-- `std::string`. A `size_t` has 32 bits on this platform, so that no string is longer. -/
abbrev StdString : Type := { s : List UInt8 // s.length < 2 ^ 32 }

/-- `decode`: the highest four bits say how many digits there are, and none at all says that the
number is as short as it can be. A number of more than three digits gives the empty string. -/
def decode (mnc : Int32) : List UInt8 :=
  if mnc = intMax ∨ mnc < 0 then []
  else
    let umnc := mnc.toUInt32
    let mncNumDigits := (umnc >>> 28) &&& 0xF
    let umnc := (umnc <<< 4) >>> 4
    if umnc > 999 then []
    else
      match mncNumDigits.toNat with
      | 0 => text 10 1 umnc.toNat
      | 2 => (text 10 3 umnc.toNat).drop 1
      | 3 => text 10 3 umnc.toNat
      | _ => []

/-- `encode` of a number. -/
def encode (mnc numDigits : Int32) : Int32 :=
  if mnc > 999 ∨ mnc < 0 then intMax
  else if numDigits = 0 ∨ numDigits = 2 ∨ numDigits = 3 then (numDigits <<< 28) ||| mnc
  else intMax

/-- `std::stoi`: `none` for an exception, as there is no number or it is no `int`. Spaces before the
number and anything behind it are allowed. -/
def stoi (s : List UInt8) : Option Int32 :=
  match scanInt 10 s with
  | none => none
  | some n => if -2 ^ 31 ≤ n ∧ n < 2 ^ 31 then some (Int32.ofInt n) else none

/-- `encode` of a string: the number in it, with the length of the string as the number of digits.
It is `none` for an exception. -/
def encodeString (mnc : StdString) : Option Int32 :=
  (stoi mnc.1).map fun value => encode value (Int32.ofNat mnc.1.length)

/-- A string of two or three decimal digits, as an MNC is. -/
def IsMnc (s : List UInt8) : Prop := (s.length = 2 ∨ s.length = 3) ∧ ∀ c ∈ s, 48 ≤ c ∧ c ≤ 57

/-! ### Packing -/

section Packing

variable {mnc numDigits : Int32}

/-- The highest four bits. -/
theorem toNat_high (umnc : UInt32) : ((umnc >>> 28) &&& 0xF).toNat = umnc.toNat / 2 ^ 28 := by
  have hlt := umnc.toNat_lt
  rw [UInt32.toNat_and, UInt32.toNat_shiftRight, show (28 : UInt32).toNat % 32 = 28 from rfl,
    show (0xF : UInt32).toNat = 2 ^ 4 - 1 from rfl, Nat.and_two_pow_sub_one_eq_mod,
      Nat.shiftRight_eq_div_pow]
  exact Nat.mod_eq_of_lt (by omega)

/-- The other bits. -/
theorem toNat_low (umnc : UInt32) : ((umnc <<< 4) >>> 4).toNat = umnc.toNat % 2 ^ 28 := by
  rw [UInt32.toNat_shiftRight, UInt32.toNat_shiftLeft, show (4 : UInt32).toNat % 32 = 4 from rfl,
    Nat.shiftLeft_eq, Nat.shiftRight_eq_div_pow]
  omega

theorem decode_eq (h : 0 ≤ mnc) (hne : mnc ≠ intMax) : decode mnc =
    if mnc.toNatClampNeg % 2 ^ 28 > 999 then []
    else
      match mnc.toNatClampNeg / 2 ^ 28 with
      | 0 => text 10 1 (mnc.toNatClampNeg % 2 ^ 28)
      | 2 => (text 10 3 (mnc.toNatClampNeg % 2 ^ 28)).drop 1
      | 3 => text 10 3 (mnc.toNatClampNeg % 2 ^ 28)
      | _ => [] := by
  have hnat := Int32.toNat_toUInt32_of_le h
  unfold decode
  rw [if_neg (not_or.mpr ⟨hne, Int32.not_lt.mpr h⟩)]
  simp only [gt_iff_lt, UInt32.lt_iff_toNat_lt, toNat_high, toNat_low, hnat]
  rfl

/-- A bit pattern below `2 ^ 31` is that of a number that is not negative. -/
theorem of_toUInt32_lt (mnc : Int32) (h : mnc.toUInt32.toNat < 2 ^ 31) :
    0 ≤ mnc ∧ mnc.toNatClampNeg = mnc.toUInt32.toNat := by
  have hint : mnc.toInt = mnc.toUInt32.toNat := by
    have hcond := BitVec.toInt_eq_toNat_cond mnc.toBitVec
    rw [Int32.toInt_toBitVec, Int32.toNat_toBitVec, if_pos (by omega)] at hcond
    exact hcond
  refine ⟨Int32.le_iff_toInt_le.mpr ?_, ?_⟩
  · rw [hint]
    exact Int.natCast_nonneg _
  · rw [← Int32.toNat_toInt, hint]
    rfl

/-- A number of two or three digits is packed with that number. -/
theorem toNat_encode (h : 0 ≤ mnc) (hle : mnc ≤ 999) (hdigits : numDigits = 2 ∨ numDigits = 3) :
    (encode mnc numDigits).toNatClampNeg = numDigits.toNatClampNeg * 2 ^ 28 + mnc.toNatClampNeg ∧
      0 ≤ encode mnc numDigits ∧ encode mnc numDigits ≠ intMax := by
  have hnat := Int32.toNat_toUInt32_of_le h
  have hlt : mnc.toNatClampNeg ≤ 999 := by
    rw [Int32.le_iff_toInt_le, show (999 : Int32).toInt = 999 from rfl] at hle
    rw [← Int32.toNat_toInt]
    omega
  -- the two fields do not overlap, so the bits are the sum
  have hpacked : (encode mnc numDigits).toUInt32.toNat =
      numDigits.toNatClampNeg * 2 ^ 28 + mnc.toNatClampNeg := by
    unfold encode
    rw [if_neg (not_or.mpr ⟨Int32.not_lt.mpr hle, Int32.not_lt.mpr h⟩), if_pos (.inr hdigits)]
    show ((numDigits <<< 28).toUInt32 ||| mnc.toUInt32).toNat = _
    have hshift : (numDigits <<< 28).toUInt32.toNat = numDigits.toNatClampNeg <<< 28 := by
      rcases hdigits with rfl | rfl <;> rfl
    rw [UInt32.toNat_or, hshift, hnat, ← Nat.shiftLeft_eq]
    exact (Nat.shiftLeft_add_eq_or_of_lt (by omega) _).symm
  have hthree : numDigits.toNatClampNeg ≤ 3 := by
    rcases hdigits with rfl | rfl <;> decide
  -- the sum stays below 2 ^ 31, so the number is not negative
  obtain ⟨hnonneg, hclamp⟩ := of_toUInt32_lt (encode mnc numDigits) (by omega)
  refine ⟨hclamp.trans hpacked, hnonneg, fun hmax => ?_⟩
  -- and it is not the largest one, which stands for unknown
  rw [hmax, show intMax.toUInt32.toNat = 2 ^ 31 - 1 from rfl] at hpacked
  omega

/-- What is packed comes back with as many digits. With two or three digits the value is below a
thousand, so it and the number of digits are read back from their own bits. -/
theorem decode_encode (h : 0 ≤ mnc) (hdigits : numDigits = 2 ∨ numDigits = 3)
    (hfits : mnc.toNatClampNeg < 10 ^ numDigits.toNatClampNeg) :
    decode (encode mnc numDigits) = text 10 numDigits.toNatClampNeg mnc.toNatClampNeg := by
  -- with two or three digits the value is below a thousand
  have hlt : mnc.toNatClampNeg < 10 ^ 3 := by
    refine hfits.trans_le (Nat.pow_le_pow_right (by decide) ?_)
    rcases hdigits with rfl | rfl <;> decide
  have hle : mnc ≤ 999 := by
    rw [Int32.le_iff_toInt_le, ← Int32.cast_toNatClampNeg _ h,
      show (999 : Int32).toInt = 999 from rfl]
    omega
  obtain ⟨hpacked, hnonneg, hne⟩ := toNat_encode h hle hdigits
  -- the value and the number of digits are read back from their bits
  have hlow : (encode mnc numDigits).toNatClampNeg % 2 ^ 28 = mnc.toNatClampNeg := by
    rw [hpacked]
    omega
  have hhigh : (encode mnc numDigits).toNatClampNeg / 2 ^ 28 = numDigits.toNatClampNeg := by
    rw [hpacked]
    omega
  rw [decode_eq hnonneg hne, hlow, hhigh, if_neg (by omega)]
  rcases hdigits with rfl | rfl
  · -- three digits are written, and the first of them is left out
    have hzero : numeral 10 (2 + 1) mnc.toNatClampNeg = 0 :: numeral 10 2 mnc.toNatClampNeg :=
      numeral_succ (by decide) hfits
    show ((numeral 10 3 mnc.toNatClampNeg).map digitChar).drop 1 = _
    rw [hzero]
    rfl
  · -- three digits are asked for and written
    rfl

/-- **Every `int` is decoded to nothing or to one to three digits.** The number is unknown, or too
large to decode, or has one to three digits. -/
theorem decode_spec (n : Int32) : decode n = [] ∨
    (1 ≤ (decode n).length ∧ (decode n).length ≤ 3) ∧ ∃ ds, Spells 10 (decode n) ds := by
  by_cases hinvalid : n = intMax ∨ n < 0
  · exact .inl (if_pos hinvalid)
  obtain ⟨hne, hnonneg⟩ := not_or.mp hinvalid
  rw [decode_eq (Int32.not_lt.mp hnonneg) hne]
  split_ifs with hbig
  · exact .inl rfl
  -- a larger value is not decoded, so three digits are enough
  have hlt : n.toNatClampNeg % 2 ^ 28 < 10 ^ 3 := by omega
  have hspells : ∀ width, Spells 10 (text 10 width (n.toNatClampNeg % 2 ^ 28)) _ := fun width =>
    spells_text (by decide) (by decide)
  have hthree : (text 10 3 (n.toNatClampNeg % 2 ^ 28)).length = 3 := by
    rw [text, List.length_map, length_numeral (by decide) hlt]
  -- by the number of digits that the number asks for
  split
  · -- one digit at least is written
    refine .inr ⟨?_, _, hspells 1⟩
    rw [text, List.length_map]
    exact ⟨le_length_numeral, length_numeral_le (by decide) hlt (by decide)⟩
  · -- two: the first of the three is dropped
    refine .inr ⟨?_, exists_spells_iff.mpr fun c hc => ?_⟩
    · rw [List.length_drop, hthree]
      decide
    · exact exists_spells_iff.mp ⟨_, hspells 3⟩ c (List.mem_of_mem_drop hc)
  · -- three digits
    refine .inr ⟨?_, _, hspells 3⟩
    rw [hthree]
    decide
  · -- any other count gives the empty string
    exact .inl rfl

end Packing

/-! ### Strings -/

section Strings

variable {s : List UInt8} {c : UInt8} {value n : Int32}

theorem digit_ten_isSome_iff : (∃ d, digit 10 c = some d) ↔ 48 ≤ c ∧ c ≤ 57 := by
  simp only [digit_eq_some, UInt8.le_iff_toNat_le]
  unfold digitVal
  constructor
  · rintro ⟨d, hd, hlt⟩
    split_ifs at hd with hdigit <;> obtain rfl := Option.some.inj hd
    · exact hdigit
    · omega
    · omega
  · intro hdigit
    have hdigit' : 48 ≤ c.toNat ∧ c.toNat ≤ 57 := hdigit
    refine ⟨c.toNat - 48, if_pos hdigit', by omega⟩

theorem isMnc_iff : IsMnc s ↔ (s.length = 2 ∨ s.length = 3) ∧ ∃ ds, Spells 10 s ds := by
  unfold IsMnc
  simp only [exists_spells_iff, digit_ten_isSome_iff]

/-- There are no upper-case letters among decimal digits. -/
theorem map_toLower_of_spells {ds : List ℕ} (h : Spells 10 s ds) : s.map toLower = s := by
  refine (List.map_congr_left fun c hc => ?_).trans (List.map_id s)
  have hdigit := digit_ten_isSome_iff.mp (exists_spells_iff.mp ⟨ds, h⟩ c hc)
  simp only [UInt8.le_iff_toNat_le, UInt8.reduceToNat] at hdigit
  exact if_neg (by omega)

/-- What `stoi` returns is the number that the text starts with, and it has no more digits than the
text characters. -/
theorem of_stoi (h : stoi s = some value) : scanInt 10 s = some value.toInt ∧
    value.toInt < 10 ^ s.length := by
  unfold stoi at h
  split at h
  · cases h
  · rename_i n hn
    split_ifs at h with hrange
    obtain rfl := Option.some.inj h
    rw [Int32.toInt_ofInt_of_le hrange.1 hrange.2]
    exact ⟨hn, scanInt_lt (by decide) hn⟩

/-- What comes back of a string: the number that it starts with, with as many digits as the string
has characters, if there are two or three of these and it is not negative. -/
theorem decode_encodeString {mnc : StdString} (hvalue : stoi mnc.1 = some value)
    (h : encodeString mnc = some n) :
    if (mnc.1.length = 2 ∨ mnc.1.length = 3) ∧ 0 ≤ value then
      decode n = text 10 mnc.1.length value.toNatClampNeg
    else n = intMax ∧ decode n = [] := by
  obtain rfl : encode value (Int32.ofNat mnc.1.length) = n := by
    rw [encodeString, hvalue] at h
    exact Option.some.inj h
  obtain ⟨hscan, hlt⟩ := of_stoi hvalue
  -- the length is an `int` of the same value
  have hlength : ∀ m : ℕ, m < 2 ^ 31 → (Int32.ofNat mnc.1.length = Int32.ofNat m ↔
      mnc.1.length = m) := by
    intro m hm
    have hbound := mnc.2
    refine ⟨fun heq => ?_, fun heq => by rw [heq]⟩
    have hnat := congrArg (fun n : Int32 => n.toUInt32.toNat) heq
    simp only [Int32.toUInt32_ofNat', UInt32.toNat_ofNat'] at hnat
    rwa [Nat.mod_eq_of_lt hbound, Nat.mod_eq_of_lt (by omega)] at hnat
  -- what cannot be encoded is decoded to nothing
  have hunknown : encode value (Int32.ofNat mnc.1.length) = intMax →
      encode value (Int32.ofNat mnc.1.length) = intMax ∧
        decode (encode value (Int32.ofNat mnc.1.length)) = [] :=
    fun hmax => ⟨hmax, if_pos (.inl hmax)⟩
  split_ifs with hcond
  · obtain ⟨hdigits, hnonneg⟩ := hcond
    have hdigits' : Int32.ofNat mnc.1.length = 2 ∨ Int32.ofNat mnc.1.length = 3 :=
      hdigits.imp (hlength 2 (by decide)).mpr (hlength 3 (by decide)).mpr
    have hclamp : (Int32.ofNat mnc.1.length).toNatClampNeg = mnc.1.length :=
      Int32.toNatClampNeg_ofNat_of_lt (by omega)
    rw [decode_encode hnonneg hdigits' ?_, hclamp]
    rw [hclamp, ← Int32.toNat_toInt]
    have hpos := Int32.le_iff_toInt_le.mp hnonneg
    rw [show (0 : Int32).toInt = 0 from rfl] at hpos
    have hcast : ((value.toInt.toNat : ℕ) : ℤ) < ((10 ^ mnc.1.length : ℕ) : ℤ) := by
      rw [Int.toNat_of_nonneg hpos]
      exact_mod_cast hlt
    exact_mod_cast hcast
  · refine hunknown ?_
    unfold encode
    -- the value is out of range, or the length is not 2 or 3
    by_cases hrange : value > 999 ∨ value < 0
    · exact if_pos hrange
    rw [if_neg hrange]
    refine (ite_eq_right_iff.mpr ?_)
    rintro (hzero | hdigits)
    · -- a string without characters has no number
      have hnil := List.length_eq_zero_iff.mp ((hlength 0 (by decide)).mp hzero)
      rw [hnil] at hscan
      cases hscan
    · refine absurd ⟨?_, Int32.not_lt.mp (not_or.mp hrange).2⟩ hcond
      exact hdigits.imp (hlength 2 (by decide)).mp (hlength 3 (by decide)).mp

/-- The digits of an MNC are a number that `stoi` can read. -/
theorem stoi_of_isMnc (h : IsMnc s) : ∃ value ds, stoi s = some value ∧ 0 ≤ value ∧ Spells 10 s ds ∧
    value.toNatClampNeg = Numerals.value 10 ds := by
  -- two or three characters, all of them digits
  obtain ⟨hlength, ds, hds⟩ := isMnc_iff.mp h
  have hne : ds ≠ [] := by
    rintro rfl
    have hzero := hds.length
    rw [List.length_nil] at hzero
    omega
  -- three digits at most: the value fits into an `int`
  have hlt : Numerals.value 10 ds < 10 ^ 3 := by
    refine (value_lt (by decide) fun _ hd => hds.lt hd).trans_le
      (Nat.pow_le_pow_right (by decide) ?_)
    rw [← hds.length]
    omega
  have hrange : -2 ^ 31 ≤ (Numerals.value 10 ds : ℤ) ∧ (Numerals.value 10 ds : ℤ) < 2 ^ 31 := by
    omega
  have hint := Int32.toInt_ofInt_of_le hrange.1 hrange.2
  refine ⟨Int32.ofInt (Numerals.value 10 ds), ds, ?_, ?_, hds, ?_⟩
  · -- `stoi` reads the digits and stops at the end
    rw [stoi, scanInt_of_spells hne hds]
    exact if_pos hrange
  · rw [Int32.le_iff_toInt_le, hint]
    exact Int.natCast_nonneg _
  · rw [← Int32.toNat_toInt, hint]
    rfl

/-- **Just the strings of two or three digits come back.** Of any other string that `stoi` can read,
nothing comes back, unless it has two or three characters and starts with a number that is not
negative. -/
theorem mnc_codec :
    (∀ mnc : StdString, IsMnc mnc.1 → ∃ n, encodeString mnc = some n) ∧
    (∀ (mnc : StdString) n, encodeString mnc = some n → (decode n = mnc.1 ↔ IsMnc mnc.1)) ∧
    (∀ (mnc : StdString) n value, encodeString mnc = some n → stoi mnc.1 = some value →
      if (mnc.1.length = 2 ∨ mnc.1.length = 3) ∧ 0 ≤ value then
        decode n = text 10 mnc.1.length value.toNatClampNeg
      else n = intMax ∧ decode n = []) ∧
    ∀ n, decode n = [] ∨
      (1 ≤ (decode n).length ∧ (decode n).length ≤ 3) ∧ ∀ c ∈ decode n, 48 ≤ c ∧ c ≤ 57 := by
  refine ⟨fun mnc h => ?_, fun mnc n h => ?_, fun mnc n value h hvalue =>
    decode_encodeString hvalue h, fun n => ?_⟩
  · -- a string of digits is read, so it is encoded
    obtain ⟨value, -, hvalue, -⟩ := stoi_of_isMnc h
    exact ⟨_, congrArg (Option.map _) hvalue⟩
  · constructor
    · intro hback
      obtain ⟨value, hvalue, -⟩ := Option.map_eq_some_iff.mp h
      -- what is decoded has the length of the string, and is all digits
      have hdecode := decode_encodeString hvalue h
      split_ifs at hdecode with hcond
      · have hspells : Spells 10 (text 10 mnc.1.length value.toNatClampNeg) _ :=
          spells_text (by decide) (by decide)
        rw [← hdecode, hback] at hspells
        exact isMnc_iff.mpr ⟨hcond.1, _, hspells⟩
      · -- nothing comes back, but `stoi` cannot read the empty string
        rw [← hback, hdecode.2] at hvalue
        cases hvalue
    · -- the digits of the value are those of the string
      intro hmnc
      obtain ⟨value, ds, hvalue, hnonneg, hds, hclamp⟩ := stoi_of_isMnc hmnc
      have hdecode := decode_encodeString hvalue h
      rw [if_pos ⟨hmnc.1, hnonneg⟩, hclamp, hds.text_value (by decide),
        map_toLower_of_spells hds] at hdecode
      exact hdecode
  · -- a decoded string has only digits, whatever the number was
    refine (decode_spec n).imp_right fun ⟨hlength, hspells⟩ => ⟨hlength, fun c hc => ?_⟩
    exact digit_ten_isSome_iff.mp (exists_spells_iff.mp hspells c hc)

end Strings

theorem mnc_codec_zero_nine :
    (∃ n, encodeString ⟨[48, 57], by decide⟩ = some n) ∧
    (decode 0x20000009 = [48, 57] ↔ IsMnc [48, 57]) ∧
    (if ([48, 57].length = 2 ∨ [48, 57].length = 3) ∧ (0 : Int32) ≤ 9 then
      decode 0x20000009 = text 10 [48, 57].length (9 : Int32).toNatClampNeg
    else (0x20000009 : Int32) = intMax ∧ decode 0x20000009 = []) ∧
    (decode 9 = [] ∨
      (1 ≤ (decode 9).length ∧ (decode 9).length ≤ 3) ∧ ∀ c ∈ decode 9, 48 ≤ c ∧ c ≤ 57) := by
  have hmnc : IsMnc [48, 57] := by
    refine ⟨.inl rfl, fun c hc => ?_⟩
    simp only [List.mem_cons, List.not_mem_nil, or_false] at hc
    rcases hc with rfl | rfl <;> decide
  have hencode : encodeString ⟨[48, 57], by decide⟩ = some 0x20000009 := by decide
  have hvalue : stoi [48, 57] = some 9 := by decide
  exact ⟨mnc_codec.1 ⟨[48, 57], by decide⟩ hmnc, mnc_codec.2.1 _ _ hencode,
    mnc_codec.2.2.1 _ _ _ hencode hvalue, mnc_codec.2.2.2 9⟩

/-- **A blank is taken for a digit**: `" 1"` comes back as `"01"`. -/
theorem mnc_comes_back_changed : ∃ (mnc : StdString)
    (n : Int32), mnc.1 = [32, 49] ∧ encodeString mnc = some n ∧
    decode n = [48, 49] ∧ decode n ≠ mnc.1 ∧ decode n ≠ [] ∧ n ≠ intMax :=
  ⟨⟨[32, 49], by decide⟩, 0x20000001, rfl, by decide, by decide, by decide, by decide, by decide⟩

end BlueCommon.Ril.Mnc
