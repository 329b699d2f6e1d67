import BlueCommon.Lib.Numerals

/-!
# PDUs of short messages

The vendor passes on a short message as hexadecimal digits, in either case; libril decodes them into
a buffer that it allocates.

* `hexCharToInt_eq`: a digit gives its value, anything else 16.
* `convertHexStringToBytes_eq`: the loop decodes the text two characters at a time and gives up at
  the first pair that is none.
* `hex_decoding_exact`: what is decoded, and when nothing is.
-/

namespace BlueCommon.Ril

open Numerals

/-! ### Functions -/

/-- `INVALID_HEX_CHAR`. -/
def invalidHexChar : UInt8 := 16

/-- `hexCharToInt`: the value of a digit in either case, and the invalid value for any other
character. -/
def hexCharToInt (c : UInt8) : UInt8 :=
  if c ≥ 48 ∧ c ≤ 57 then c - 48
  else if c ≥ 65 ∧ c ≤ 70 then c - 65 + 10
  else if c ≥ 97 ∧ c ≤ 102 then c - 97 + 10
  else invalidHexChar

/-- The loop of `convertHexStringToBytes`, `n` rounds from `i` on: `none` when it gives up. -/
def hexLoop (hexString : List UInt8) : ℕ → ℕ → List UInt8 → Option (List UInt8)
  | 0, _, bytes => some bytes
  | n + 1, i, bytes =>
    let hexChar1 := hexCharToInt (hexString.getD i 0)
    let hexChar2 := hexCharToInt (hexString.getD (i + 1) 0)
    if hexChar1 = invalidHexChar ∨ hexChar2 = invalidHexChar then none
    else hexLoop hexString n (i + 2) (bytes.set (i / 2) (hexChar1 <<< 4 ||| hexChar2))

/-- `convertHexStringToBytes`: `none` for `NULL`, which is the result for an odd length, for a
character that is no digit and without memory. `allocated` tells whether `calloc` succeeds. -/
def convertHexStringToBytes (response : List UInt8) (allocated : Bool) : Option (List UInt8) :=
  if response.length % 2 ≠ 0 then none
  else if allocated = false then none
  else hexLoop response (response.length / 2) 0 (List.replicate (response.length / 2) 0)

/-- The calls to the client, with the PDU. -/
inductive SmsCall
  | newSms (pdu : List UInt8)
  | newSmsStatusReport (pdu : List UInt8)

/-- An indication of a short message: the call to the client, if it is made. `client` tells whether
there is one. -/
def smsIndication (call : List UInt8 → SmsCall) (client : Bool) (response : Option (List UInt8))
    (allocated : Bool) : Option SmsCall :=
  if client then
    match response with
    | none => none
    | some response =>
      if response.length = 0 then none
      else (convertHexStringToBytes response allocated).map call
  else none

/-- `radio::newSmsInd`, by which the client gets a message that has arrived. -/
def newSmsInd : Bool → Option (List UInt8) → Bool → Option SmsCall := smsIndication .newSms

/-- `radio::newSmsStatusReportInd`, by which the client hears what has become of its own message. -/
def newSmsStatusReportInd : Bool → Option (List UInt8) → Bool → Option SmsCall :=
  smsIndication .newSmsStatusReport

/-! ### What they should do -/

/-- One of `0` to `9`, `A` to `F` and `a` to `f`. The vendor sends a PDU as such characters. -/
def IsHexChar (c : UInt8) : Prop := 48 ≤ c ∧ c ≤ 57 ∨ 65 ≤ c ∧ c ≤ 70 ∨ 97 ≤ c ∧ c ≤ 102

/-- The hexadecimal encoding of bytes, in lower case, two characters for each of them. -/
def hexText (bytes : List UInt8) : List UInt8 := bytes.flatMap fun byte => text 16 2 byte.toNat

/-! ### One character -/

section Characters

variable {c : UInt8} {d : ℕ}

theorem digit_eq_some_iff : digit 16 c = some d ↔
    48 ≤ c.toNat ∧ c.toNat ≤ 57 ∧ d = c.toNat - 48 ∨ 65 ≤ c.toNat ∧ c.toNat ≤ 70 ∧
    d = c.toNat - 55 ∨
      97 ≤ c.toNat ∧ c.toNat ≤ 102 ∧ d = c.toNat - 87 := by
  rw [digit_eq_some]
  unfold digitVal
  split_ifs <;> simp only [Option.some.injEq, false_and, false_iff] <;> omega

theorem isHexChar_iff : IsHexChar c ↔ ∃ d, digit 16 c = some d := by
  simp only [digit_eq_some_iff]
  unfold IsHexChar
  simp only [UInt8.le_iff_toNat_le]
  constructor
  · rintro (hdigit | hupper | hlower)
    · exact ⟨_, .inl ⟨hdigit.1, hdigit.2, rfl⟩⟩
    · exact ⟨_, .inr (.inl ⟨hupper.1, hupper.2, rfl⟩)⟩
    · exact ⟨_, .inr (.inr ⟨hlower.1, hlower.2, rfl⟩)⟩
  · rintro ⟨d, hdigit | hupper | hlower⟩
    · exact .inl ⟨hdigit.1, hdigit.2.1⟩
    · exact .inr (.inl ⟨hupper.1, hupper.2.1⟩)
    · exact .inr (.inr ⟨hlower.1, hlower.2.1⟩)

theorem toNat_hexCharToInt : (hexCharToInt c).toNat = (digit 16 c).getD 16 := by
  unfold hexCharToInt
  simp only [ge_iff_le, UInt8.le_iff_toNat_le, UInt8.reduceToNat]
  split_ifs with hdigit hupper hlower
  · -- the three ranges of characters, and the rest
    have h : digit 16 c = some (c.toNat - 48) :=
      digit_eq_some_iff.mpr (.inl ⟨hdigit.1, hdigit.2, rfl⟩)
    simp only [h, UInt8.toNat_sub, Option.getD_some, UInt8.reduceToNat]
    omega
  · -- an upper case letter
    have h : digit 16 c = some (c.toNat - 55) :=
      digit_eq_some_iff.mpr (.inr (.inl ⟨hupper.1, hupper.2, rfl⟩))
    simp only [h, UInt8.toNat_add, UInt8.toNat_sub, Option.getD_some, UInt8.reduceToNat]
    omega
  · -- a lower case letter
    have h : digit 16 c = some (c.toNat - 87) :=
      digit_eq_some_iff.mpr (.inr (.inr ⟨hlower.1, hlower.2, rfl⟩))
    simp only [h, UInt8.toNat_add, UInt8.toNat_sub, Option.getD_some, UInt8.reduceToNat]
    omega
  · -- any other character is no digit, and the function answers 16
    have h : digit 16 c = none := by
      refine Option.eq_none_iff_forall_ne_some.mpr fun d hd => ?_
      -- a character that were a digit would be in one of the three ranges
      rcases digit_eq_some_iff.mp hd with hd | hd | hd <;> omega
    rw [h]
    rfl

/-- **The marker of an invalid character is no digit**: digits are below 16. -/
theorem hexCharToInt_eq_invalid_iff : hexCharToInt c = invalidHexChar ↔ digit 16 c = none := by
  rw [← UInt8.toNat_inj, toNat_hexCharToInt, show invalidHexChar.toNat = 16 from rfl]
  cases h : digit 16 c with
  | none => exact iff_of_true rfl rfl
  | some d => exact iff_of_false (digit_eq_some.mp h).2.ne nofun

end Characters

/-! ### Two characters -/

/-- The bytes whose digits are these characters. -/
def decodePairs : List UInt8 → Option (List UInt8)
  | [] => some []
  | [_] => none
  | c :: c' :: rest =>
    match digit 16 c, digit 16 c' with
    | some d, some d' => (decodePairs rest).map (UInt8.ofNat (value 16 [d, d']) :: ·)
    | _, _ => none

section Pairs

variable {c c' : UInt8} {d d' : ℕ} {s bytes : List UInt8}

/-- The byte that the loop stores for a pair of digits. -/
theorem shift_or_eq (h : digit 16 c = some d) (h' : digit 16 c' = some d') :
    hexCharToInt c <<< 4 ||| hexCharToInt c' = UInt8.ofNat (value 16 [d, d']) := by
  have hd : (hexCharToInt c).toNat = d := by rw [toNat_hexCharToInt, h, Option.getD_some]
  have hd' : (hexCharToInt c').toNat = d' := by rw [toNat_hexCharToInt, h', Option.getD_some]
  have hlt := (digit_eq_some.mp h).2
  have hlt' := (digit_eq_some.mp h').2
  refine UInt8.toNat_inj.mp ?_
  have hshift : d <<< 4 = d * 16 := Nat.shiftLeft_eq d 4
  have hor : d <<< 4 + d' = d <<< 4 ||| d' := Nat.shiftLeft_add_eq_or_of_lt (by omega) d
  have hfits : d <<< 4 % 2 ^ 8 = d <<< 4 := Nat.mod_eq_of_lt (by omega)
  rw [UInt8.toNat_or, UInt8.toNat_shiftLeft, hd, hd', value_pair, UInt8.toNat_ofNat',
    show (4 : UInt8).toNat % 8 = 4 from rfl, hfits, ← hor, hshift]
  exact (Nat.mod_eq_of_lt (by omega)).symm

theorem decodePairs_cons_eq_some : decodePairs (c :: c' :: s) = some bytes ↔
    ∃ d d' tail, digit 16 c = some d ∧ digit 16 c' = some d' ∧ decodePairs s = some tail ∧
      bytes = UInt8.ofNat (value 16 [d, d']) :: tail := by
  rw [decodePairs]
  cases hc : digit 16 c with
  | none => simp
  | some d =>
    cases hc' : digit 16 c' with
    | none => simp
    | some d' =>
      -- the byte of the pair is put in front of those of the rest
      simp only [Option.map_eq_some_iff, Option.some.injEq]
      constructor
      · rintro ⟨tail, htail, rfl⟩
        exact ⟨d, d', tail, rfl, rfl, htail, rfl⟩
      · rintro ⟨_, _, tail, rfl, rfl, htail, rfl⟩
        exact ⟨tail, htail, rfl⟩

theorem decodePairs_cons_eq_none : decodePairs (c :: c' :: s) = none ↔
    digit 16 c = none ∨ digit 16 c' = none ∨ decodePairs s = none := by
  rw [decodePairs]
  cases hc : digit 16 c with
  | none => simp
  | some d =>
    cases hc' : digit 16 c' with
    | none => simp
    | some d' => simp

theorem length_pair_mod : (c :: c' :: s).length % 2 = s.length % 2 := Nat.add_mod_right _ 2

theorem length_pair_div : (c :: c' :: s).length / 2 = s.length / 2 + 1 :=
  Nat.add_div_right _ Nat.two_pos

/-- One round of the loop. It reads the next two characters and writes their byte behind those of
the rounds before, or ends the loop when one of them is no digit. -/
theorem hexLoop_succ {before : List UInt8} {n : ℕ} (hbefore : before.length = 2 * bytes.length) :
    hexLoop (before ++ c :: c' :: s) (n + 1) before.length (bytes ++ List.replicate (n + 1) 0) =
      if digit 16 c = none ∨ digit 16 c' = none then none
      else hexLoop ((before ++ [c, c']) ++ s) n (before ++ [c, c']).length
        ((bytes ++ [hexCharToInt c <<< 4 ||| hexCharToInt c']) ++ List.replicate n 0) := by
  -- the round reads the next two characters and writes the byte behind those before it
  -- the first character of the pair stands right behind those that were read
  have hget : (before ++ c :: c' :: s).getD before.length 0 = c := by
    rw [List.getD_eq_getElem?_getD, List.getElem?_append_right le_rfl, Nat.sub_self]
    rfl
  have hget' : (before ++ c :: c' :: s).getD (before.length + 1) 0 = c' := by
    rw [List.getD_eq_getElem?_getD, List.getElem?_append_right (Nat.le_add_right _ 1),
      Nat.add_sub_cancel_left]
    rfl
  -- the byte at half that place is the first of the zeros
  have hset : ∀ b, (bytes ++ List.replicate (n + 1) 0).set (before.length / 2) b =
      (bytes ++ [b]) ++ List.replicate n 0 := by
    intro b
    rw [hbefore, Nat.mul_div_cancel_left _ (by decide), List.set_append_right _ _ le_rfl,
      Nat.sub_self,
      List.replicate_succ, List.set_cons_zero, List.append_assoc, List.singleton_append]
  have hnext : before ++ c :: c' :: s = (before ++ [c, c']) ++ s := by
    rw [List.append_assoc]
    rfl
  have hlength : before.length + 2 = (before ++ [c, c']).length := by
    rw [List.length_append]
    rfl
  -- one round, with the test written by the digits
  rw [hexLoop]
  simp only [hget, hget', hset, hexCharToInt_eq_invalid_iff]
  rw [hnext, hlength]

/-- **The loop decodes the rest of the text**, a pair in each round. The recursion goes along the
text that is left, with what was read before it and what was decoded so far. -/
theorem hexLoop_eq : ∀ (rest before bytes : List UInt8), rest.length % 2 = 0 →
    before.length = 2 * bytes.length →
    hexLoop (before ++ rest)
      (rest.length / 2) before.length (bytes ++ List.replicate (rest.length / 2) 0) =
      (decodePairs rest).map (bytes ++ ·)
  | [], _, _, _, _ => rfl
  | [c], _, _, heven, _ => by cases heven
  | c :: c' :: rest, before, bytes, heven, hbefore => by
    rw [length_pair_mod] at heven
    rw [length_pair_div, hexLoop_succ hbefore]
    by_cases hinvalid : digit 16 c = none ∨ digit 16 c' = none
    · -- a pair that is no byte ends the loop with nothing
      rw [if_pos hinvalid, decodePairs_cons_eq_none.mpr (hinvalid.imp_right .inl)]
      rfl
    · -- both characters are digits, and the byte of the pair is written behind the others
      obtain ⟨hc, hc'⟩ := not_or.mp hinvalid
      obtain ⟨d, hd⟩ := Option.ne_none_iff_exists'.mp hc
      obtain ⟨d', hd'⟩ := Option.ne_none_iff_exists'.mp hc'
      have hlength : (before ++ [c, c']).length =
          2 * (bytes ++ [hexCharToInt c <<< 4 ||| hexCharToInt c']).length := by
        rw [List.length_append, List.length_append, hbefore]
        exact (Nat.mul_succ 2 bytes.length).symm
      -- the rest of the text is decoded behind the bytes that are there
      rw [if_neg hinvalid, hexLoop_eq rest _ _ heven hlength, decodePairs, hd, hd',
        shift_or_eq hd hd']
      -- what is put in front by the round and by the rest is one list
      rw [Option.map_map]
      congr 1
      ext1 tail
      exact List.append_assoc _ _ _

/-- Only characters that are no digits are not decoded. -/
theorem decodePairs_eq_none_iff : ∀ s : List UInt8, s.length % 2 = 0 →
    (decodePairs s = none ↔ ∃ c ∈ s, ¬IsHexChar c)
  | [], _ => by simp [decodePairs]
  | [c], heven => by cases heven
  | c :: c' :: rest, heven => by
    rw [length_pair_mod] at heven
    have hnone : ∀ c, digit 16 c = none ↔ ¬IsHexChar c := by
      intro c
      rw [isHexChar_iff, ← Option.isSome_iff_exists, Option.not_isSome_iff_eq_none]
    rw [decodePairs_cons_eq_none, decodePairs_eq_none_iff rest heven, hnone, hnone]
    simp only [List.mem_cons, exists_eq_or_imp]

/-- Two characters are the digits of a byte. -/
theorem text_eq_iff {byte : UInt8} : text 16 2 byte.toNat = [toLower c, toLower c'] ↔
    ∃ d d', digit 16 c = some d ∧ digit 16 c' = some d' ∧
      byte = UInt8.ofNat (value 16 [d, d']) := by
  constructor
  · intro h
    -- the digits of the byte are those of the two characters
    have hspells : Spells 16 ([c, c'].map toLower) (numeral 16 2 byte.toNat) := by
      show Spells 16 [toLower c, toLower c'] _
      rw [← h]
      exact spells_text (by decide) (by decide)
    obtain ⟨d, es, hes, hd, hrest⟩ := spells_cons.mp (spells_map_toLower.mp hspells)
    obtain ⟨d', es', rfl, hd', hrest⟩ := spells_cons.mp hrest
    obtain rfl := spells_nil.mp hrest
    refine ⟨d, d', hd, hd', ?_⟩
    rw [← hes, value_numeral, UInt8.ofNat_toNat]
  · rintro ⟨d, d', hd, hd', rfl⟩
    have hspells : Spells 16 [c, c'] [d, d'] :=
      spells_cons.mpr ⟨d, [d'], rfl, hd, spells_cons.mpr ⟨d', [], rfl, hd', spells_nil.mpr rfl⟩⟩
    -- two digits make a number of eight bits
    have hlt : value 16 [d, d'] < 2 ^ 8 := value_lt (by decide) fun _ hmem => hspells.lt hmem
    rw [UInt8.toNat_ofNat', Nat.mod_eq_of_lt hlt]
    exact hspells.text_value (by decide)

theorem hexText_cons (byte : UInt8) (bytes : List UInt8) :
    hexText (byte :: bytes) = text 16 2 byte.toNat ++ hexText bytes := List.flatMap_cons

theorem length_text_byte (byte : UInt8) : (text 16 2 byte.toNat).length = 2 := by
  rw [text, List.length_map]
  exact length_numeral (by decide) byte.toNat_lt

theorem length_hexText (bytes : List UInt8) : (hexText bytes).length = 2 * bytes.length := by
  induction bytes with
  | nil => rfl
  | cons byte bytes ih =>
    rw [hexText_cons, List.length_append, length_text_byte, ih, List.length_cons]
    omega

/-- **What is decoded is what the text is the encoding of**, in either case. The first two
characters are the text of the first byte; a text with an odd number of characters is no
encoding. -/
theorem decodePairs_eq_some_iff : ∀ s bytes : List UInt8,
    decodePairs s = some bytes ↔ s.map toLower = hexText bytes
  | [], bytes => by
    cases bytes with
    | nil => exact iff_of_true rfl rfl
    | cons byte bytes =>
      -- no text has no bytes
      refine iff_of_false nofun fun h => ?_
      have hlength := congrArg List.length h
      rw [length_hexText] at hlength
      cases hlength
  | [c], bytes => by
    -- an encoding has an even number of characters
    refine iff_of_false nofun fun h => ?_
    have hlength := congrArg List.length h
    rw [length_hexText, List.length_map, List.length_singleton] at hlength
    omega
  | c :: c' :: rest, bytes => by
    have hsplit : (c :: c' :: rest).map toLower = [toLower c, toLower c'] ++ rest.map toLower := rfl
    rw [decodePairs_cons_eq_some, hsplit]
    constructor
    · rintro ⟨d, d', tail, hd, hd', htail, rfl⟩
      rw [hexText_cons, text_eq_iff.mpr ⟨d, d', hd, hd', rfl⟩,
        (decodePairs_eq_some_iff rest tail).mp htail]
    · intro h
      cases bytes with
      | nil => cases h
      | cons byte tail =>
        rw [hexText_cons] at h
        -- the first two characters are those of the first byte
        obtain ⟨hpair, htail⟩ := List.append_inj h (length_text_byte byte).symm
        obtain ⟨d, d', hd, hd', rfl⟩ := text_eq_iff.mp hpair.symm
        exact ⟨d, d', tail, hd, hd', (decodePairs_eq_some_iff rest tail).mpr htail, rfl⟩

end Pairs

/-! ### The text -/

section Texts

variable {s bytes : List UInt8} {allocated : Bool}

/-- Where the length is even and there is memory, the text is decoded pair by pair. -/
theorem convertHexStringToBytes_eq (s : List UInt8)
    (allocated : Bool) : convertHexStringToBytes s allocated =
    if s.length % 2 = 0 ∧ allocated = true then decodePairs s else none := by
  unfold convertHexStringToBytes
  by_cases heven : s.length % 2 = 0
  · rw [if_neg (not_not.mpr heven)]
    cases allocated with
    | false => rw [if_pos rfl, if_neg fun h => Bool.false_ne_true h.2]
    | true =>
      have hloop := hexLoop_eq s [] [] heven rfl
      simp only [List.nil_append, List.length_nil, Option.map_id'] at hloop
      rw [if_neg (Ne.symm Bool.false_ne_true), if_pos ⟨heven, rfl⟩, hloop]
  · rw [if_pos heven, if_neg fun h => heven h.1]

/-- An encoding has an even number of characters. -/
theorem even_of_map_toLower (h : s.map toLower = hexText bytes) : s.length % 2 = 0 := by
  rw [← List.length_map toLower, h, length_hexText]
  exact Nat.mul_mod_right 2 _

theorem convertHexStringToBytes_eq_some_iff : convertHexStringToBytes s true = some bytes ↔
    s.map toLower = hexText bytes := by
  rw [convertHexStringToBytes_eq]
  by_cases heven : s.length % 2 = 0
  · rw [if_pos ⟨heven, rfl⟩, decodePairs_eq_some_iff]
  · rw [if_neg fun h => heven h.1]
    exact iff_of_false nofun fun h => heven (even_of_map_toLower h)

/-- Different bytes have different encodings. -/
theorem hexText_injective : Function.Injective hexText := by
  intro bytes bytes' h
  have hlower : ∀ bytes : List UInt8, (hexText bytes).map toLower = hexText bytes := by
    intro bytes
    induction bytes with
    | nil => rfl
    | cons byte bytes ih =>
      have hspells : Spells 16 (text 16 2 byte.toNat) (numeral 16 2 byte.toNat) :=
        spells_text (by decide) (by decide)
      rw [hexText_cons, List.map_append, ih, hspells.map_toLower, text]
  have hdecoded := (decodePairs_eq_some_iff (hexText bytes) bytes).mpr (hlower bytes)
  have hdecoded' := (decodePairs_eq_some_iff (hexText bytes) bytes').mpr ((hlower bytes).trans h)
  exact Option.some.inj (hdecoded.symm.trans hdecoded')

theorem convertHexStringToBytes_eq_none_iff : convertHexStringToBytes s allocated = none ↔
    s.length % 2 = 1 ∨ (∃ c ∈ s, ¬IsHexChar c) ∨ allocated = false := by
  rw [convertHexStringToBytes_eq]
  by_cases heven : s.length % 2 = 0
  · cases allocated with
    | false =>
      rw [if_neg fun h => Bool.false_ne_true h.2]
      exact iff_of_true rfl (.inr (.inr rfl))
    | true =>
      rw [if_pos ⟨heven, rfl⟩, decodePairs_eq_none_iff s heven, or_iff_right (by omega)]
      exact (or_iff_left (Ne.symm Bool.false_ne_true)).symm
  · rw [if_neg fun h => heven h.1]
    exact iff_of_true rfl (.inl (by omega))

/-- An indication delivers what the text is the encoding of, if it delivers anything. Nothing is
delivered without a client, without a text or with an empty one, and without memory for the
bytes. -/
theorem smsIndication_eq_some_iff {call : List UInt8 → SmsCall} {client : Bool}
    {response : Option (List UInt8)}
    {c : SmsCall} : smsIndication call client response allocated = some c ↔
      client = true ∧ allocated = true ∧
        ∃ s bytes, response = some s ∧ s ≠ [] ∧ s.map toLower = hexText bytes ∧ c = call bytes := by
  unfold smsIndication
  -- without a client nothing is sent
  cases client with
  | false => simp
  | true =>
    -- neither is anything sent without a text
    cases response with
    | none => simp
    | some s =>
      simp only [if_true, true_and, Option.some.injEq, exists_and_left, exists_eq_left',
        List.length_eq_zero_iff]
      -- an empty text is refused before it is decoded
      by_cases hempty : s = []
      · simp [hempty]
      · -- the text is decoded if there is memory, and delivered if it can be decoded
        rw [if_neg hempty, Option.map_eq_some_iff]
        cases allocated with
        -- without memory for the bytes there is nothing to send
        | false =>
          rw [convertHexStringToBytes_eq_none_iff.mpr (.inr (.inr rfl))]
          exact iff_of_false nofun fun h => Bool.false_ne_true h.1
        | true =>
          -- with memory the bytes are those of which the text is the encoding
          simp only [convertHexStringToBytes_eq_some_iff]
          constructor
          · rintro ⟨bytes, hbytes, rfl⟩
            exact ⟨trivial, hempty, bytes, hbytes, rfl⟩
          · rintro ⟨-, -, bytes, hbytes, rfl⟩
            exact ⟨bytes, hbytes, rfl⟩

end Texts

/-- **Hexadecimal decoding is exact.** Nothing is decoded just when the length is odd, a character
is no hexadecimal digit or there is no memory. Otherwise the result is the only sequence of bytes,
half as many, that the text is the encoding of in either case; and any such text is decoded. An
indication delivers these bytes, or nothing. -/
theorem hex_decoding_exact :
    (∀ s allocated, convertHexStringToBytes s allocated = none ↔
      s.length % 2 = 1 ∨ (∃ c ∈ s, ¬IsHexChar c) ∨ allocated = false) ∧
    (∀ s allocated bytes, convertHexStringToBytes s allocated = some bytes →
      bytes.length = s.length / 2 ∧ ∀ bytes', s.map toLower = hexText bytes' ↔ bytes' = bytes) ∧
    (∀ s bytes, s.map toLower = hexText bytes → convertHexStringToBytes s true = some bytes) ∧
    ∀ client response allocated call,
      (newSmsInd client response allocated = some call ↔ client = true ∧ allocated = true ∧
        ∃ s bytes, response = some s ∧ s ≠ [] ∧ s.map toLower = hexText bytes ∧
          call = .newSms bytes) ∧
      (newSmsStatusReportInd client response allocated = some call ↔
        client = true ∧ allocated = true ∧
        ∃ s bytes, response = some s ∧ s ≠ [] ∧ s.map toLower = hexText bytes ∧
          call = .newSmsStatusReport bytes) := by
  refine ⟨fun s allocated => convertHexStringToBytes_eq_none_iff, fun s allocated bytes h => ?_,
    fun s bytes h => convertHexStringToBytes_eq_some_iff.mpr h,
    fun client response allocated call => ⟨smsIndication_eq_some_iff, smsIndication_eq_some_iff⟩⟩
  -- what was decoded shows that there was memory
  cases allocated with
  | false =>
    rw [convertHexStringToBytes_eq_none_iff.mpr (.inr (.inr rfl))] at h
    cases h
  | true =>
    have hencoded := convertHexStringToBytes_eq_some_iff.mp h
    -- the encoding has two characters for each byte
    have hlength := congrArg List.length hencoded
    rw [List.length_map, length_hexText] at hlength
    -- the encoding of different bytes is different
    refine ⟨by omega, fun bytes' => ⟨fun h' => ?_, ?_⟩⟩
    · exact hexText_injective (h'.symm.trans hencoded)
    · rintro rfl
      exact hencoded

end BlueCommon.Ril
