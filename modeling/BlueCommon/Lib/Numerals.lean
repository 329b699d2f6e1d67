import Mathlib.Data.Nat.Digits.Lemmas

/-!
# Numerals

Numbers written in a positional system, the most significant digit first, and texts in ASCII that
hold them.

* `value`, `numeral`: the value of digits, and the digits of a number, with zeros before them up to
  a width.
* `Spells`: a text consists of the characters of these digits, in either case.
* `text`: a number as `printf` writes it, in lower case.
* `scanInt`, `strtol`: the number at the start of a text, as the C library reads it.
-/

namespace Numerals

/-! ### Digits -/

/-- The value of the digits, the highest of which comes first. -/
def value (b : ℕ) (ds : List ℕ) : ℕ := Nat.ofDigits b ds.reverse

/-- The digits of a number, at least `width` of them. -/
def numeral (b width n : ℕ) : List ℕ := (Nat.digitsAppend b width n).reverse

section Digits

variable {b width n d : ℕ} {ds es : List ℕ}

theorem value_append : value b (ds ++ es) = value b ds * b ^ es.length + value b es := by
  unfold value
  rw [List.reverse_append, Nat.ofDigits_append, List.length_reverse, mul_comm, add_comm]

theorem value_singleton : value b [d] = d := Nat.ofDigits_singleton

theorem value_pair : value b [d, n] = d * b + n := by
  rw [← List.singleton_append, value_append, value_singleton, value_singleton,
    List.length_singleton, pow_one]

theorem value_lt (hb : 1 < b) (hds : ∀ d ∈ ds, d < b) : value b ds < b ^ ds.length := by
  rw [← List.length_reverse]
  exact Nat.ofDigits_lt_base_pow_length hb fun d hd => hds d (List.mem_reverse.mp hd)

theorem value_numeral (b width n : ℕ) : value b (numeral b width n) = n := by
  unfold value numeral
  rw [List.reverse_reverse, Nat.digitsAppend, Nat.ofDigits_append_replicate_zero,
    Nat.ofDigits_digits]

theorem length_numeral (hb : 1 < b) (hn : n < b ^ width) : (numeral b width n).length = width := by
  rw [numeral, List.length_reverse, Nat.length_digitsAppend hb _ hn]

theorem lt_of_mem_numeral (hb : 1 < b) (hd : d ∈ numeral b width n) : d < b :=
  Nat.lt_of_mem_digitsAppend hb width d (List.mem_reverse.mp hd)

/-- Digits are those of their value. -/
theorem numeral_value (hb : 1 < b) (hds : ∀ d ∈ ds, d < b) :
    numeral b ds.length (value b ds) = ds := by
  have hinv := (Nat.setInvOn_digitsAppend_ofDigits hb ds.length).1
  have hmem : ds.reverse ∈ {L : List ℕ | L.length = ds.length ∧ ∀ x ∈ L, x < b} :=
    ⟨List.length_reverse, fun d hd => hds d (List.mem_reverse.mp hd)⟩
  rw [numeral, value, hinv hmem, List.reverse_reverse]

/-- A number that needs no more than `width` digits gets a zero before them if there is one more. -/
theorem numeral_succ (hb : 1 < b) (hn : n < b ^ width) :
    numeral b (width + 1) n = 0 :: numeral b width n := by
  -- the zero adds nothing to the value
  have hvalue : value b (0 :: numeral b width n) = n := by
    rw [← List.singleton_append, value_append, value_singleton, Nat.zero_mul, Nat.zero_add,
      value_numeral]
  have hlength : (0 :: numeral b width n).length = width + 1 := by
    rw [List.length_cons, length_numeral hb hn]
  have hdigits : ∀ d ∈ 0 :: numeral b width n, d < b := by
    intro d hd
    rcases List.mem_cons.mp hd with rfl | hd
    · exact Nat.zero_lt_of_lt hb
    · exact lt_of_mem_numeral hb hd
  have h := numeral_value hb hdigits
  rwa [hlength, hvalue] at h

theorem le_length_numeral : width ≤ (numeral b width n).length := by
  rw [numeral, List.length_reverse, Nat.digitsAppend, List.length_append, List.length_replicate]
  omega

/-- There are no more digits than are needed or asked for. -/
theorem length_numeral_le {w : ℕ} (hb : 1 < b) (hn : n < b ^ w) (hw : width ≤ w) :
    (numeral b width n).length ≤ w := by
  have hdigits : (Nat.digits b n).length ≤ w := (Nat.digits_length_le_iff hb n).mpr hn
  rw [numeral, List.length_reverse, Nat.digitsAppend, List.length_append, List.length_replicate]
  omega

end Digits

/-! ### Characters -/

/-- The value of a digit or letter as a digit: letters go on after 9. -/
def digitVal (c : UInt8) : Option ℕ :=
  if 48 ≤ c.toNat ∧ c.toNat ≤ 57 then some (c.toNat - 48)
  else if 97 ≤ c.toNat ∧ c.toNat ≤ 122 then some (c.toNat - 87)
  else if 65 ≤ c.toNat ∧ c.toNat ≤ 90 then some (c.toNat - 55)
  else none

/-- A digit of the base. -/
def digit (b : ℕ) (c : UInt8) : Option ℕ := (digitVal c).filter (· < b)

/-- The character of a digit, a letter in lower case after 9. -/
def digitChar (d : ℕ) : UInt8 := if d < 10 then UInt8.ofNat (48 + d) else UInt8.ofNat (87 + d)

/-- `tolower`. -/
def toLower (c : UInt8) : UInt8 := if 65 ≤ c.toNat ∧ c.toNat ≤ 90 then c + 32 else c

section Characters

variable {b width n d : ℕ} {c : UInt8} {s t : List UInt8} {ds es : List ℕ}

theorem digit_eq_some : digit b c = some d ↔ digitVal c = some d ∧ d < b := by
  rw [digit, Option.filter_eq_some_iff, decide_eq_true_iff]

theorem toNat_digitChar (hd : d < 36) : (digitChar d).toNat = if d < 10 then 48 + d
    else 87 + d := by
  unfold digitChar
  split <;> rw [UInt8.toNat_ofNat'] <;> omega

theorem digitVal_digitChar (hd : d < 36) : digitVal (digitChar d) = some d := by
  rw [digitVal, toNat_digitChar hd]
  by_cases hten : d < 10
  · rw [if_pos hten, if_pos (by omega)]
    exact congrArg some (by omega)
  · rw [if_neg hten, if_neg (by omega), if_pos (by omega)]
    exact congrArg some (by omega)

theorem toNat_toLower (c : UInt8) :
    (toLower c).toNat = if 65 ≤ c.toNat ∧ c.toNat ≤ 90 then c.toNat + 32 else c.toNat := by
  unfold toLower
  split
  · rw [UInt8.toNat_add, show (32 : UInt8).toNat = 32 from rfl]
    exact Nat.mod_eq_of_lt (by omega)
  · rfl

/-- The character of a digit is the one that was read, in lower case. -/
theorem digitChar_of_digitVal (h : digitVal c = some d) : digitChar d = toLower c := by
  refine UInt8.toNat_inj.mp ?_
  rw [toNat_toLower]
  unfold digitVal at h
  split_ifs at h with hdigit hlower hupper <;> obtain rfl := Option.some.inj h
  · rw [toNat_digitChar (by omega), if_pos (by omega), if_neg (by omega)]
    omega
  · rw [toNat_digitChar (by omega), if_neg (by omega), if_neg (by omega)]
    omega
  · rw [toNat_digitChar (by omega), if_neg (by omega), if_pos hupper]
    omega

theorem digitVal_toLower (c : UInt8) : digitVal (toLower c) = digitVal c := by
  unfold digitVal
  rw [toNat_toLower]
  by_cases hupper : 65 ≤ c.toNat ∧ c.toNat ≤ 90
  · rw [if_pos hupper, if_neg (by omega), if_pos (by omega), if_neg (by omega), if_neg (by omega),
      if_pos hupper]
    exact congrArg some (by omega)
  · rw [if_neg hupper]

/-! ### Texts -/

/-- The text consists of these digits. -/
def Spells (b : ℕ) (s : List UInt8) (ds : List ℕ) : Prop := s.map (digit b) = ds.map some

instance {b : ℕ} {s : List UInt8} {ds : List ℕ} : Decidable (Spells b s ds) :=
  inferInstanceAs (Decidable (s.map (digit b) = ds.map some))

/-- The number as digits in lower case, at least `width` of them: shorter numbers get zeros in
front, and longer ones are not cut. -/
def text (b width n : ℕ) : List UInt8 := (numeral b width n).map digitChar

theorem Spells.length (h : Spells b s ds) : s.length = ds.length := by
  rw [← List.length_map (digit b), h, List.length_map]

theorem Spells.lt (h : Spells b s ds) (hd : d ∈ ds) : d < b := by
  have hmem : some d ∈ s.map (digit b) := h ▸ List.mem_map_of_mem hd
  obtain ⟨c, -, hc⟩ := List.mem_map.mp hmem
  exact (digit_eq_some.mp hc).2

theorem spells_nil : Spells b [] ds ↔ ds = [] := by
  rw [Spells, List.map_nil, eq_comm, List.map_eq_nil_iff]

theorem spells_cons : Spells b (c :: s) ds ↔ ∃ d es, ds = d :: es ∧ digit b c = some d ∧
    Spells b s es := by
  unfold Spells
  cases ds with
  | nil => simp
  | cons d es =>
    rw [List.map_cons, List.map_cons, List.cons.injEq]
    constructor
    · rintro ⟨hd, hes⟩
      exact ⟨d, es, rfl, hd, hes⟩
    · rintro ⟨d', es', heq, hd, hes⟩
      obtain ⟨rfl, rfl⟩ := List.cons.inj heq
      exact ⟨hd, hes⟩

/-- A text is one of digits when each of its characters is one. -/
theorem exists_spells_iff : (∃ ds, Spells b s ds) ↔ ∀ c ∈ s, ∃ d, digit b c = some d := by
  induction s with
  | nil => exact iff_of_true ⟨[], spells_nil.mpr rfl⟩ nofun
  | cons c s ih =>
    rw [List.forall_mem_cons, ← ih]
    constructor
    · rintro ⟨ds, h⟩
      obtain ⟨d, es, -, hd, hes⟩ := spells_cons.mp h
      exact ⟨⟨d, hd⟩, es, hes⟩
    · rintro ⟨⟨d, hd⟩, es, hes⟩
      exact ⟨d :: es, spells_cons.mpr ⟨d, es, rfl, hd, hes⟩⟩

theorem spells_map_digitChar (hb : b ≤ 36) (hds : ∀ d ∈ ds, d < b) :
    Spells b (ds.map digitChar) ds := by
  rw [Spells, List.map_map]
  refine List.map_congr_left fun d hd => ?_
  exact digit_eq_some.mpr ⟨digitVal_digitChar (Nat.lt_of_lt_of_le (hds d hd) hb), hds d hd⟩

theorem spells_text (hb : 1 < b) (hb36 : b ≤ 36) : Spells b (text b width n) (numeral b width n) :=
  spells_map_digitChar hb36 fun _ hd => lt_of_mem_numeral hb hd

/-- A text in lower case is determined by its digits. -/
theorem Spells.map_toLower (h : Spells b s ds) : s.map toLower = ds.map digitChar := by
  induction s generalizing ds with
  | nil =>
    obtain rfl := spells_nil.mp h
    rfl
  | cons c s ih =>
    obtain ⟨d, es, rfl, hd, hes⟩ := spells_cons.mp h
    rw [List.map_cons, List.map_cons, ih hes, digitChar_of_digitVal (digit_eq_some.mp hd).1]

theorem spells_map_toLower : Spells b (s.map toLower) ds ↔ Spells b s ds := by
  have hdigit : digit b ∘ toLower = digit b := by
    funext c
    rw [Function.comp_apply, digit, digitVal_toLower, digit]
  rw [Spells, List.map_map, hdigit, Spells]

/-- A text of digits is the numeral of their value, up to the case of the letters. -/
theorem Spells.text_value (hb : 1 < b) (h : Spells b s ds) :
    text b s.length (value b ds) = s.map toLower := by
  rw [text, h.length, numeral_value hb fun _ hd => h.lt hd, h.map_toLower]

end Characters

/-! ### Reading -/

/-- `isspace`. -/
def isSpace (c : UInt8) : Bool := c.toNat = 32 ∨ 9 ≤ c.toNat ∧ c.toNat ≤ 13

/-- The digits at the start of the text. -/
def leadingDigits (b : ℕ) (s : List UInt8) : List ℕ :=
  (s.takeWhile fun c => (digit b c).isSome).filterMap (digit b)

/-- The text after `0x`, which may stand before a number of base 16. -/
def skipPrefix (b : ℕ) (s : List UInt8) : List UInt8 :=
  match s with
  | zero :: x :: c :: rest =>
    if b = 16 ∧ zero.toNat = 48 ∧ (x.toNat = 120 ∨ x.toNat = 88) ∧ (digit 16 c).isSome then
    c :: rest else s
  | _ => s

/-- The number of the digits at the start of the text, if there are any. -/
def scanNat (b : ℕ) (s : List UInt8) : Option ℕ :=
  match leadingDigits b (skipPrefix b s) with
  | [] => none
  | d :: ds => some (value b (d :: ds))

/-- The number at the start of the text: white space and a sign may stand before it, anything after
it. -/
def scanInt (b : ℕ) (s : List UInt8) : Option ℤ :=
  match s.dropWhile isSpace with
  | [] => none
  | c :: rest =>
    if c.toNat = 45 then (scanNat b rest).map fun n : ℕ => -(n : ℤ)
    else if c.toNat = 43 then (scanNat b rest).map fun n : ℕ => (n : ℤ)
    else (scanNat b (c :: rest)).map fun n : ℕ => (n : ℤ)

/-- `strtol` for a `long` from `lo` to `hi`. -/
def strtol (lo hi : ℤ) (b : ℕ) (s : List UInt8) : ℤ := max lo (min hi ((scanInt b s).getD 0))

section Reading

variable {b d : ℕ} {c : UInt8} {s : List UInt8} {ds : List ℕ}

/-- A digit is neither white space nor a sign. -/
theorem of_digit_eq_some (h : digit b c = some d) :
    isSpace c = false ∧ c.toNat ≠ 45 ∧ c.toNat ≠ 43 := by
  have hc : 48 ≤ c.toNat := by
    by_contra hlt
    have hnone : digitVal c = none := by
      rw [digitVal, if_neg (by omega), if_neg (by omega), if_neg (by omega)]
    rw [(digit_eq_some.mp h).1] at hnone
    cases hnone
  refine ⟨?_, by omega, by omega⟩
  rw [isSpace, decide_eq_false_iff_not]
  omega

/-- `x` is no digit of base 16. -/
theorem not_digit_of_x (hc : c.toNat = 120 ∨ c.toNat = 88) : digit 16 c = none := by
  refine Option.eq_none_iff_forall_ne_some.mpr fun d hd => ?_
  obtain ⟨hval, hlt⟩ := digit_eq_some.mp hd
  unfold digitVal at hval
  split_ifs at hval <;> obtain rfl := Option.some.inj hval <;> omega

theorem leadingDigits_of_spells (h : Spells b s ds) : leadingDigits b s = ds := by
  induction s generalizing ds with
  | nil => exact (spells_nil.mp h).symm
  | cons c s ih =>
    obtain ⟨d, es, rfl, hd, hes⟩ := spells_cons.mp h
    have hrest : (s.takeWhile fun c => (digit b c).isSome).filterMap (digit b) = es := ih hes
    rw [leadingDigits, List.takeWhile_cons_of_pos (by rw [hd]; rfl),
      List.filterMap_cons_some hd, hrest]

theorem skipPrefix_of_spells (h : Spells b s ds) : skipPrefix b s = s := by
  unfold skipPrefix
  split
  · rename_i zero x c rest
    refine if_neg ?_
    rintro ⟨rfl, -, hx, -⟩
    obtain ⟨d, es, rfl, -, hes⟩ := spells_cons.mp h
    obtain ⟨e, es', rfl, he, -⟩ := spells_cons.mp hes
    rw [not_digit_of_x hx] at he
    cases he
  · rfl

theorem scanNat_of_spells (hne : ds ≠ []) (h : Spells b s ds) :
    scanNat b s = some (value b ds) := by
  unfold scanNat
  rw [skipPrefix_of_spells h, leadingDigits_of_spells h]
  cases ds with
  | nil => exact absurd rfl hne
  | cons d ds => rfl

theorem length_skipPrefix_le (b : ℕ) (s : List UInt8) : (skipPrefix b s).length ≤ s.length := by
  unfold skipPrefix
  split
  · split
    · simp only [List.length_cons]
      omega
    · exact le_rfl
  · exact le_rfl

theorem leadingDigits_spec (b : ℕ) (s : List UInt8) :
    (leadingDigits b s).length ≤ s.length ∧ ∀ d ∈ leadingDigits b s, d < b := by
  constructor
  · exact (List.length_filterMap_le _ _).trans (List.takeWhile_sublist _).length_le
  · intro d hd
    obtain ⟨c, -, hc⟩ := List.mem_filterMap.mp hd
    exact (digit_eq_some.mp hc).2

/-- What is read has no more digits than the text has characters. -/
theorem scanNat_lt {n : ℕ} (hb : 1 < b) (h : scanNat b s = some n) : n < b ^ s.length := by
  obtain ⟨hlength, hdigits⟩ := leadingDigits_spec b (skipPrefix b s)
  unfold scanNat at h
  split at h
  · cases h
  · rename_i d ds hds
    obtain rfl := Option.some.inj h
    rw [hds] at hlength hdigits
    exact (value_lt hb hdigits).trans_le
      (Nat.pow_le_pow_right (Nat.zero_lt_of_lt hb) (hlength.trans (length_skipPrefix_le b s)))

theorem scanInt_lt {n : ℤ} (hb : 1 < b) (h : scanInt b s = some n) : n < (b : ℤ) ^ s.length := by
  -- what is scanned is below the power of the number of its digits
  have hpos : (0 : ℤ) < (b : ℤ) ^ s.length := by positivity
  unfold scanInt at h
  split at h
  · -- without a digit there is no number
    cases h
  · -- what is scanned is no longer than the text without its leading spaces
    rename_i c rest hrest
    have hlength : (c :: rest).length ≤ s.length := hrest ▸ (List.dropWhile_sublist _).length_le
    have hle : ∀ {t : List UInt8} {m : ℕ}, t.length ≤ (c :: rest).length → scanNat b t = some m →
        (m : ℤ) < (b : ℤ) ^ s.length := by
      intro t m ht hm
      exact_mod_cast (scanNat_lt hb hm).trans_le
        (Nat.pow_le_pow_right (Nat.zero_lt_of_lt hb) (ht.trans hlength))
    -- a sign or none
    split_ifs at h
    · -- a negative number is below any power
      obtain ⟨m, -, rfl⟩ := Option.map_eq_some_iff.mp h
      omega
    · -- a plus sign is no digit
      obtain ⟨m, hm, rfl⟩ := Option.map_eq_some_iff.mp h
      exact hle (Nat.le_succ _) hm
    · -- no sign at all
      obtain ⟨m, hm, rfl⟩ := Option.map_eq_some_iff.mp h
      exact hle le_rfl hm

/-- Digits are read as the number that they denote. -/
theorem scanInt_of_spells (hne : ds ≠ []) (h : Spells b s ds) :
    scanInt b s = some (value b ds : ℤ) := by
  cases s with
  | nil => exact absurd (spells_nil.mp h) hne
  | cons c s =>
    obtain ⟨d, es, -, hd, -⟩ := spells_cons.mp h
    obtain ⟨hspace, hminus, hplus⟩ := of_digit_eq_some hd
    unfold scanInt
    rw [List.dropWhile_cons_of_neg (by rw [hspace]; exact Bool.false_ne_true)]
    simp only
    rw [if_neg hminus, if_neg hplus, scanNat_of_spells hne h, Option.map_some]

/-- So are digits of base 16 after `0x`. -/
theorem scanInt_of_spells_prefix {zero x : UInt8} (hzero : zero.toNat = 48)
    (hx : x.toNat = 120 ∨ x.toNat = 88)
    (hne : ds ≠ []) (h : Spells 16 s ds) : scanInt 16 (zero :: x :: s) =
      some (value 16 ds : ℤ) := by
  -- behind the prefix the digits stand alone
  have hscan : scanNat 16 (zero :: x :: s) = some (value 16 ds) := by
    cases s with
    | nil => exact absurd (spells_nil.mp h) hne
    | cons c s =>
      obtain ⟨d, es, rfl, hd, -⟩ := spells_cons.mp h
      -- the prefix is skipped, as a digit follows it
      have hskip : skipPrefix 16 (zero :: x :: c :: s) = c :: s :=
        if_pos ⟨rfl, hzero, hx, by rw [hd]; rfl⟩
      unfold scanNat
      rw [hskip, leadingDigits_of_spells h]
  -- a zero is no space, and no sign
  have hspace : isSpace zero = false := by
    rw [isSpace, decide_eq_false_iff_not]
    omega
  unfold scanInt
  rw [List.dropWhile_cons_of_neg (by rw [hspace]; exact Bool.false_ne_true)]
  simp only
  rw [if_neg (by omega), if_neg (by omega), hscan, Option.map_some]

end Reading

end Numerals
