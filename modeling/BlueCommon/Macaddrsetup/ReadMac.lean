import BlueCommon.Lib.Numerals
import Mathlib.Logic.Function.Basic

/-!
# Importing the hardware addresses

`macaddrsetup` copies the addresses of the device from the TA, a memory in partitions of which one
is open at a time, to files. The partition that is open is remembered between two reads.

The outcomes of the calls to the system and to the TA library are given for each read: which
attempts to open the partition succeed, whether the file can be opened, what the size query leaves,
the object that is read, whether printing succeeds. A `char` is unsigned on this platform. Owners
and permissions of the files are left out.

* `openLoop_spec`: what the retry loop does.
* `readMac_cases`: the ways in which a read ends.
* `failed_import_keeps_file_iff`: when a read leaves the file alone or writes all of it.
-/

namespace BlueCommon.Macaddrsetup

open Numerals

/-! ### State -/

/-- The calls to the TA library, with the partition that was open. -/
inductive TaCall
  | taOpen (p : ℕ) (ok : Bool)
  | taClose (opened : Option ℕ)
  | taGetsize (id : ℕ) (opened : Option ℕ)
  | taRead (id : ℕ) (taId : ℕ) (opened : Option ℕ)

/-- The variable `ta_opened`, the partition that is really open, the files, and the calls so far.
The variable and the partition should agree, which is what the results of `TaHandle` are about. -/
structure World where
  taOpened : ℕ
  opened : Option ℕ
  files : String → Option (List UInt8)
  calls : List TaCall

/-- What the calls of one read come to. `size` is what is in the variable after the query, which may
have failed; `fprintf` is `none` if printing succeeds, and else what is in the file afterwards. -/
structure Outcomes where
  opens : ℕ → Bool
  fopen : Bool
  size : ℕ
  read : Option (List UInt8)
  fprintf : Option (List UInt8)
  length_read : ∀ buf ∈ read, buf.length = size

namespace World

/-- `ta_open(p, 0x1, 1)`, whose first parameter is a `uint8_t`. -/
def taOpen (p : ℕ) (ok : Bool) (w : World) : World :=
  { w with
    opened := if ok then some (p % 256) else w.opened
    calls := w.calls ++ [.taOpen (p % 256) ok] }

def taClose (w : World) : World :=
  { w with opened := none, calls := w.calls ++ [.taClose w.opened] }

def taGetsize (id : ℕ) (w : World) : World :=
  { w with calls := w.calls ++ [.taGetsize id w.opened] }

/-- `ta_read(id, …)` for a caller that means the partition `taId`. -/
def taRead (id taId : ℕ) (w : World) : World :=
  { w with calls := w.calls ++ [.taRead id taId w.opened] }

/-- The file has this content from now on, whatever it had. -/
def write (file : String) (content : List UInt8) (w : World) : World :=
  { w with files := Function.update w.files file (some content) }

end World

/-! ### Functions -/

/-- `TYPE_MAC`, the size of an address, by which `read_mac` also tells how to print it. -/
abbrev typeMac : ℕ := 6

/-- `TYPE_SERIAL`, the size of a serial number. -/
abbrev typeSerial : ℕ := 10

/-- The loop that tries to open the partition, from the attempt `i` on: whether it is open. -/
def openLoop (taId : ℕ) (opens : ℕ → Bool) (i : ℕ) (w : World) : World × Bool :=
  let w := w.taOpen taId (opens i)
  if opens i then ({ w with taOpened := taId }, true)
  else if i > 100 then (w, false)
  else openLoop taId opens (i + 1) w.taClose
termination_by 102 - i

/-- The partition is opened unless it is the one that is remembered: whether it should be open
now. -/
def openPartition (taId : ℕ) (opens : ℕ → Bool) (w : World) : World × Bool :=
  if taId ≠ w.taOpened then openLoop taId opens 0 (if w.taOpened ≠ 0 then w.taClose else w)
  else (w, true)

/-- `"%02x"`. -/
def hexByte (c : UInt8) : List UInt8 := text 16 2 c.toNat

/-- `fprintf(fp, …)` of a text, and then `fclose(fp)`: the read fails unless `expected` characters
were printed. -/
def printAndClose (file : String) (line : List UInt8) (expected : ℕ) (fprintf : Option (List UInt8))
    (w : World) :
    World × ℕ :=
  match fprintf with
  | none => (w.write file line, if line.length ≠ expected then 1 else 0)
  | some left => (w.write file left, 1)

/-- The line with the MAC. -/
def macLine (buf : List UInt8) : List UInt8 :=
  let byte (i : ℕ) := hexByte (buf.getD i 0)
  byte 5 ++ [58] ++ byte 4 ++ [58] ++ byte 3 ++ [58] ++ byte 2 ++ [58] ++ byte 1 ++ [58] ++
    byte 0 ++ [10]

/-- The line with the serial number. -/
def serialLine (buf : List UInt8) : List UInt8 :=
  let byte (i : ℕ) := hexByte (buf.getD i 0)
  byte 0 ++ byte 1 ++ byte 2 ++ byte 3 ++ [10]

/-- `read_mac`: the partition is opened, the file is opened, and then the object is asked for its
size, read and printed. Since opening the file empties it, a failure after that has changed it. -/
def readMac (taId valAddr : ℕ) (valFile : String) (valSize : ℕ) (o : Outcomes)
    (w : World) : World × ℕ :=
  let (w, opened) := openPartition taId o.opens w
  if opened = false then (w, 1)
  else if o.fopen = false then (w, 1)
  else
    -- opening for writing leaves nothing of what was in the file
    let w := (w.write valFile []).taGetsize valAddr
    if o.size ≠ valSize then (w, 1)
    else
      let w := w.taRead valAddr taId
      match o.read with
      | none => (w, 1)
      | some buf =>
        if valSize = typeMac then printAndClose valFile (macLine buf) 18 o.fprintf w
        else if valSize = typeSerial then printAndClose valFile (serialLine buf) 9 o.fprintf w
        else (w, 0)

/-! ### What they should do -/

/-- The line for an object: its six bytes in reverse, or the first four. -/
def formatted (valSize : ℕ) (object : List UInt8) : List UInt8 :=
  if valSize = typeMac then List.intercalate [58] ((object.take 6).reverse.map hexByte) ++ [10]
  else (object.take 4).flatMap hexByte ++ [10]

/-- A read fails and leaves the file alone, or succeeds and writes the whole line. -/
def KeepsOrWrites (valFile : String) (valSize : ℕ) (o : Outcomes) (w : World)
    (result : World × ℕ) : Prop :=
  (result.2 ≠ 0 → result.1.files valFile = w.files valFile) ∧
    (result.2 = 0 → ∃ object, o.read = some object ∧
      result.1.files valFile = some (formatted valSize object))

/-- No attempt to open the partition succeeds, of the 102 that the loop makes. -/
def NeverOpens (opens : ℕ → Bool) : Prop := ∀ i ≤ 101, opens i = false

instance {opens : ℕ → Bool} : Decidable (NeverOpens opens) :=
  inferInstanceAs (Decidable (∀ i ≤ 101, opens i = false))

/-- The read needs another partition than the one that is open, and that cannot be opened. -/
def GivesUp (taId : ℕ) (o : Outcomes) (w : World) : Prop := taId ≠ w.taOpened ∧ NeverOpens o.opens

/-! ### The lines -/

section Lines

variable {buf : List UInt8} {valSize : ℕ}

theorem length_hexByte (c : UInt8) : (hexByte c).length = 2 := by
  rw [hexByte, text, List.length_map]
  exact length_numeral (by decide) c.toNat_lt

theorem length_macLine : (macLine buf).length = 18 := by
  simp [macLine, length_hexByte]

theorem length_serialLine : (serialLine buf).length = 9 := by
  simp [serialLine, length_hexByte]

theorem macLine_eq (h : buf.length = typeMac) : macLine buf = formatted typeMac buf := by
  obtain ⟨a, b, c, d, e, f, rfl⟩ : ∃ a b c d e f, buf = [a, b, c, d, e, f] := by
    match buf, h with
    | [a, b, c, d, e, f], _ => exact ⟨a, b, c, d, e, f, rfl⟩
  simp [macLine, formatted, List.intercalate]

theorem serialLine_eq (h : buf.length = typeSerial) :
    serialLine buf = formatted typeSerial buf := by
  obtain ⟨a, b, c, d, rest, rfl⟩ : ∃ a b c d rest, buf = a :: b :: c :: d :: rest := by
    match buf, h with
    | a :: b :: c :: d :: rest, _ => exact ⟨a, b, c, d, rest, rfl⟩
  simp [serialLine, formatted]

end Lines

/-! ### The partition -/

section Partition

variable {taId i : ℕ} {opens : ℕ → Bool} {w : World}

theorem openLoop_files (taId : ℕ) (opens : ℕ → Bool) (i : ℕ) (w : World) :
    (openLoop taId opens i w).1.files = w.files := by
  fun_induction openLoop taId opens i w with
  | case1 i w _ h => rfl
  | case2 i w _ h hi => rfl
  | case3 i w _ h hi ih => exact ih

/-- The loop gives up after the last attempt. -/
theorem openLoop_eq_false_iff (hi : i ≤ 101) :
    (openLoop taId opens i w).2 = false ↔ ∀ k, i ≤ k → k ≤ 101 → opens k = false := by
  -- by the cases of the loop: opened, given up, and one more attempt
  fun_induction openLoop taId opens i w with
  | case1 i w _ h =>
    refine iff_of_false (by simp) fun hall => ?_
    rw [hall i le_rfl hi] at h
    cases h
  | case2 i w _ h hlast =>
    refine iff_of_true rfl fun k hk hk' => ?_
    rw [show k = i by omega]
    exact Bool.eq_false_iff.mpr h
  | case3 i w _ h hlast ih =>
    rw [ih (by omega)]
    constructor
    · intro hall k hk hk'
      rcases hk.eq_or_lt with rfl | hk
      · exact Bool.eq_false_iff.mpr h
      · exact hall k hk hk'
    · exact fun hall k hk => hall k (Nat.le_of_succ_le hk)

/-- What is remembered and what is open after the loop. -/
theorem openLoop_opened (hclosed : w.opened = none) :
    if (openLoop taId opens i w).2 then
      (openLoop taId opens i w).1.taOpened = taId ∧ (openLoop taId opens i w).1.opened =
        some (taId % 256)
    else
      (openLoop taId opens i w).1.taOpened = w.taOpened ∧
      (openLoop taId opens i w).1.opened = none := by
  -- by the cases of the loop; before each attempt nothing is open
  fun_induction openLoop taId opens i w with
  | case1 i w _ h =>
    simp only [if_true, true_and]
    exact if_pos h
  | case2 i w _ h hlast =>
    refine ⟨rfl, ?_⟩
    show (if opens i = true then _ else w.opened) = none
    rw [if_neg h, hclosed]
  | case3 i w _ h hlast ih => exact ih rfl

theorem openPartition_files : (openPartition taId opens w).1.files = w.files := by
  unfold openPartition
  split
  · rw [openLoop_files]
    split <;> rfl
  · rfl

theorem openPartition_eq_false_iff :
    (openPartition taId opens w).2 = false ↔ taId ≠ w.taOpened ∧ NeverOpens opens := by
  unfold openPartition
  split
  · rename_i hne
    rw [openLoop_eq_false_iff (Nat.zero_le 101), and_iff_right hne]
    exact forall_congr' fun k => forall_prop_of_true (Nat.zero_le k)
  · rename_i heq
    exact iff_of_false (by simp) fun h => heq h.1

end Partition

/-! ### The file -/

section File

variable {taId valAddr valSize : ℕ} {valFile : String} {o : Outcomes} {w : World} {buf : List UInt8}

theorem printAndClose_files {line : List UInt8} {expected : ℕ} (hline : line.length = expected) :
    (printAndClose valFile line expected o.fprintf w).1.files valFile = some (o.fprintf.getD line) ∧
      ((printAndClose valFile line expected o.fprintf w).2 = 0 ↔ o.fprintf = none) := by
  unfold printAndClose
  cases o.fprintf with
  | none => simp [World.write, hline]
  | some left => simp [World.write]

/-- A read that gives up, or that cannot open the file, does nothing more. -/
theorem readMac_of_closed (valAddr valSize : ℕ) (valFile : String)
    (h : GivesUp taId o w ∨ o.fopen = false) :
    readMac taId valAddr valFile valSize o w = ((openPartition taId o.opens w).1, 1) := by
  unfold readMac
  by_cases hopened : (openPartition taId o.opens w).2 = false
  · simp only [hopened, if_true]
  · have hfopen : o.fopen = false := h.resolve_left fun hgives =>
      hopened (openPartition_eq_false_iff.mpr hgives)
    simp only [hfopen, if_true, ite_self]

/-- A read that has opened the file goes on to the size query. -/
theorem readMac_of_opened (valAddr valSize : ℕ) (valFile : String) (hgives : ¬GivesUp taId o w)
    (hfopen : o.fopen = true) : readMac taId valAddr valFile valSize o w =
      let w := ((openPartition taId o.opens w).1.write valFile []).taGetsize valAddr
      if o.size ≠ valSize then (w, 1)
      else
        match o.read with
        | none => (w.taRead valAddr taId, 1)
        | some buf =>
          if valSize = typeMac then printAndClose valFile (macLine buf) 18 o.fprintf
            (w.taRead valAddr taId)
          else if valSize = typeSerial then
            printAndClose valFile (serialLine buf) 9 o.fprintf (w.taRead valAddr taId)
          else (w.taRead valAddr taId, 0) := by
  have hopened : (openPartition taId o.opens w).2 = true :=
    Bool.eq_true_of_not_eq_false fun h => hgives (openPartition_eq_false_iff.mp h)
  unfold readMac
  simp only [hopened, hfopen, Bool.true_eq_false, if_false]

/-- Nothing of what was in the file is left if then the object cannot be read. -/
theorem readMac_of_unread (valAddr : ℕ) (valFile : String) (hgives : ¬GivesUp taId o w)
    (hfopen : o.fopen = true) (hread : ¬(o.size = valSize ∧ o.read ≠ none)) :
    (readMac taId valAddr valFile valSize o w).1.files valFile = some [] ∧
      (readMac taId valAddr valFile valSize o w).2 = 1 := by
  -- the file was opened for writing
  have htruncated : ∀ v : World, ((v.write valFile []).taGetsize valAddr).files valFile = some [] :=
    fun v => Function.update_self valFile _ _
  rw [readMac_of_opened valAddr valSize valFile hgives hfopen]
  by_cases hmatch : o.size = valSize
  · have hnone : o.read = none := not_not.mp fun hne => hread ⟨hmatch, hne⟩
    rw [hnone]
    simp only [hmatch, ne_eq, not_true_eq_false, if_false]
    exact ⟨htruncated _, trivial⟩
  · simp only [hmatch, ne_eq, not_false_eq_true, if_true]
    exact ⟨htruncated _, trivial⟩

/-- What is in the file if the object has been read. -/
theorem readMac_of_read (valAddr : ℕ) (valFile : String)
    (hsize : valSize = typeMac ∨ valSize = typeSerial)
    (hgives : ¬GivesUp taId o w) (hfopen : o.fopen = true) (hmatch : o.size = valSize)
    (hread : o.read = some buf) :
    (readMac taId valAddr valFile valSize o w).1.files valFile =
      some (o.fprintf.getD (formatted valSize buf)) ∧
      ((readMac taId valAddr valFile valSize o w).2 = 0 ↔ o.fprintf = none) := by
  -- what is read has the size of the object, so that the line has all its bytes
  have hlength := (o.length_read buf hread).trans hmatch
  rw [readMac_of_opened valAddr valSize valFile hgives hfopen, hread]
  simp only [hmatch, ne_eq, not_true_eq_false, if_false]
  rcases hsize with rfl | rfl
  · rw [if_pos rfl, ← macLine_eq hlength]
    exact printAndClose_files length_macLine
  · rw [if_neg (by decide), if_pos rfl, ← serialLine_eq hlength]
    exact printAndClose_files length_serialLine

/-- **A failed read leaves the file alone just when** it fails before the file is opened, or what it
leaves is by chance what was there: nothing if the object cannot be read, else what of the line has
been printed. -/
theorem failed_import_keeps_file_iff (taId valAddr : ℕ) (valFile : String) (valSize : ℕ)
    (o : Outcomes) (w : World) (hsize : valSize = typeMac ∨ valSize = typeSerial) :
    KeepsOrWrites valFile valSize o w (readMac taId valAddr valFile valSize o w) ↔
      GivesUp taId o w ∨ o.fopen = false ∨
        if o.size = valSize ∧ o.read ≠ none then o.fprintf = none ∨ o.fprintf = w.files valFile
        else w.files valFile = some [] := by
  -- nothing has been written if the file was not opened
  by_cases hclosed : GivesUp taId o w ∨ o.fopen = false
  · rw [readMac_of_closed valAddr valSize valFile hclosed]
    refine iff_of_true ⟨fun _ => congrFun openPartition_files valFile, fun h => ?_⟩
      (hclosed.imp_right .inl)
    -- the function has returned a failure, so the second half says nothing
    cases h
  · -- both the partition and the file are open
    obtain ⟨hgives, hfopen⟩ := not_or.mp hclosed
    have hopen : o.fopen = true := Bool.eq_true_of_not_eq_false hfopen
    rw [or_iff_right hgives, or_iff_right hfopen]
    by_cases hread : o.size = valSize ∧ o.read ≠ none
    · -- the object has been read, and the file holds what was printed
      obtain ⟨buf, hbuf⟩ := Option.ne_none_iff_exists'.mp hread.2
      obtain ⟨hfile, hret⟩ := readMac_of_read valAddr valFile hsize hgives hopen hread.1 hbuf
      rw [if_pos hread, KeepsOrWrites, hfile, ne_eq, hret]
      -- a failed print leaves what it leaves, and reports nothing
      cases o.fprintf with
      | none => simp [hbuf]
      | some left => simp
    · -- otherwise the opening has emptied the file, and the function fails
      obtain ⟨hfile, hret⟩ := readMac_of_unread valAddr valFile hgives hopen hread
      rw [if_neg hread, KeepsOrWrites, hfile, hret]
      constructor
      · exact fun h => (h.1 Nat.one_ne_zero).symm
      · exact fun h => ⟨fun _ => h.symm, fun hzero => absurd hzero Nat.one_ne_zero⟩

end File

/-! ### A device without an object -/

/-- Everything succeeds but the size query. -/
def Outcomes.noObject : Outcomes where
  opens := fun _ => true
  fopen := true
  size := 0
  read := none
  fprintf := none
  length_read := by simp

/-- Everything succeeds, and the object is a MAC. -/
def Outcomes.macObject : Outcomes where
  opens := fun _ => true
  fopen := true
  size := 6
  read := some [1, 2, 3, 4, 5, 6]
  fprintf := none
  length_read := by
    rintro _ ⟨⟩
    rfl

/-- Before the first read, with the address in the file. -/
def World.withAddress (content : List UInt8) : World where
  taOpened := 0
  opened := none
  files := fun _ => some content
  calls := []

theorem failed_import_keeps_file_iff_mac :
    KeepsOrWrites "bdaddr" typeMac .macObject (.withAddress [65])
      (readMac 1 447 "bdaddr" typeMac .macObject (.withAddress [65])) := by
  refine (failed_import_keeps_file_iff 1 447 "bdaddr" typeMac _ _ (.inl rfl)).mpr (.inr (.inr ?_))
  rw [if_pos ⟨rfl, by simp [Outcomes.macObject]⟩]
  exact .inl rfl

/-- **A read that fails empties the file**: the address is lost if the size query fails. -/
theorem failed_import_empties_file :
    (readMac 1 447 "bdaddr" typeMac .noObject (.withAddress [65])).2 = 1 ∧
      (readMac 1 447 "bdaddr" typeMac .noObject (.withAddress [65])).1.files "bdaddr" = some [] ∧
      ¬KeepsOrWrites "bdaddr" typeMac .noObject (.withAddress [65])
        (readMac 1 447 "bdaddr" typeMac .noObject (.withAddress [65])) := by
  have hgives : ¬GivesUp 1 .noObject (.withAddress [65]) :=
    fun h => Bool.noConfusion (h.2 0 (Nat.zero_le _))
  have hread : ¬(Outcomes.noObject.size = typeMac ∧ Outcomes.noObject.read ≠ none) :=
    fun h => h.2 rfl
  obtain ⟨hfile, hret⟩ := readMac_of_unread 447 "bdaddr" hgives rfl hread
  refine ⟨hret, hfile, fun h => ?_⟩
  have hkept := h.1 (by rw [hret]; decide)
  rw [hfile] at hkept
  cases hkept

end BlueCommon.Macaddrsetup
