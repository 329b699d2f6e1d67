import BlueCommon.Lib.LineTools
import BlueCommon.Lib.Numerals
import BlueCommon.Lib.Records
import Mathlib.Tactic.Ring

/-!
# The new size of the user data

`resize_userdata/main.sh` shrinks the file system of the user data, so that the footer of the
encryption has room behind it. `part_get_resize2fs` computes the number of blocks from the listing
in `/proc/partitions`. The arithmetic of the shell has no bounds here.

* `procPartitions`: the listing.
* `partGetResize2fs`: the number of blocks, `none` when the shell stops with an error.
* `partitionSize_eq`: what the commands of the pipeline take out of the listing.
* `tdiv_between_iff`: when a division of the shell rounds down.
* `resize_leaves_room_iff`: when the number is the greatest one that leaves room.
-/

namespace BlueCommon

namespace Releasetools

open LineTools Numerals

/-! ### The listing -/

/-- The bytes of a text in ASCII. -/
def ascii (s : String) : List UInt8 := s.toList.map fun c => UInt8.ofNat c.toNat

/-- What `/proc/partitions` says of a partition. Its size is shown in units of two sectors. No major
number has four digits, and no name a blank. -/
structure DiskPartition where
  major : ℕ
  minor : ℕ
  sectors : ℕ
  name : List UInt8
  major_lt : major < 1000
  blank_notMem : 32 ∉ name

/-- `%d` and a width. -/
def padded (width n : ℕ) : List UInt8 :=
  List.replicate (width - (text 10 1 n).length) 32 ++ text 10 1 n

/-- `"%4d  %7d %10llu %s"`, the line of a partition in `/proc/partitions`. The kernel counts in
blocks of one kilobyte. -/
def DiskPartition.line (p : DiskPartition) : List UInt8 :=
  padded 4 p.major ++ (List.replicate 2 32 ++ padded 7 p.minor) ++
    (List.replicate 1 32 ++ padded 10 (p.sectors / 2)) ++ (List.replicate 1 32 ++ p.name)

/-- The lines of `/proc/partitions`. -/
def procPartitions (table : List DiskPartition) : List (List UInt8) :=
  ascii "major minor  #blocks  name" :: [] :: table.map DiskPartition.line

/-- The device of a partition, without its directory: `mmcblk0p` and the number. -/
def mmcBlockName (num : ℕ) : List UInt8 := ascii "mmcblk0" ++ 112 :: text 10 1 num

/-! ### The script -/

/-- `partition_size`: the fourth field of the line of the partition. The lines are searched for `p`
and the number, which may be in other names too. -/
def partitionSize (listing : List (List UInt8)) (num : ℕ) : List UInt8 :=
  capture 10 <|
    ((grep (112 :: text 10 1 num) listing).map (squeeze 32) |>.map
      (List.takeWhile fun c => c ≠ 46)).map (cutField 32 4)

/-- The number of a text in an arithmetic expression. Without a text the minus after it is a sign,
and with anything but digits there is no expression. -/
def shellNumber (s : List UInt8) : Option ℤ :=
  if s = [] then some 0 else (s.mapM (digit 10)).map fun ds => (value 10 ds : ℤ)

/-- `part_get_resize2fs`, where `blockdev --getbsz` prints `bsz`. -/
def partGetResize2fs (listing : List (List UInt8)) (num lengthSub bsz : ℕ) : Option ℤ := do
  let size ← shellNumber (partitionSize listing num)
  let blockSize := (bsz : ℤ).tdiv 1024
  -- a division by zero stops the shell
  if blockSize = 0 then none
  else some ((size - (lengthSub : ℤ).tdiv 1024).tdiv blockSize)

/-! ### The pipeline -/

section Pipeline

variable {n num : ℕ} {c : UInt8} {p : DiskPartition} {table : List DiskPartition}

theorem toNat_of_mem_text (h : c ∈ text 10 1 n) : 48 ≤ c.toNat ∧ c.toNat ≤ 57 := by
  obtain ⟨d, hd, rfl⟩ := List.mem_map.mp h
  have hlt : d < 10 := lt_of_mem_numeral (by decide) hd
  rw [toNat_digitChar (by omega), if_pos hlt]
  omega

/-- Any other character is missing from a number. -/
theorem notMem_text (h : c.toNat < 48 ∨ 57 < c.toNat) : c ∉ text 10 1 n := by
  intro hc
  have hbounds := toNat_of_mem_text hc
  omega

theorem text_ne_nil : text 10 1 n ≠ [] := by
  intro hnil
  have hlength : 1 ≤ (numeral 10 1 n).length := le_length_numeral
  rw [List.map_eq_nil_iff.mp hnil] at hlength
  exact absurd hlength (by decide)

theorem length_text_major (p : DiskPartition) : (text 10 1 p.major).length ≤ 3 := by
  unfold text
  rw [List.length_map]
  exact length_numeral_le (by decide) p.major_lt (by decide)

/-- The words of a line, each with the number of blanks before it. -/
def DiskPartition.cells (p : DiskPartition) : List (ℕ × List UInt8) :=
  [(3 - (text 10 1 p.major).length, text 10 1 p.major),
    (1 + (7 - (text 10 1 p.minor).length), text 10 1 p.minor),
    (10 - (text 10 1 (p.sectors / 2)).length, text 10 1 (p.sectors / 2)),
    (0, p.name)]

/-- The blanks of a width join those before it. -/
theorem replicate_append_padded (k width n : ℕ) :
    List.replicate (k + 1) 32 ++ padded width n =
      List.replicate (k + (width - (text 10 1 n).length) + 1) 32 ++ text 10 1 n := by
  unfold padded
  rw [← List.append_assoc, List.replicate_append_replicate, Nat.add_right_comm]

theorem DiskPartition.line_eq_row (p : DiskPartition) : p.line = row 32 p.cells := by
  have hmajor : 4 - (text 10 1 p.major).length = 3 - (text 10 1 p.major).length + 1 := by
    have hle := length_text_major p
    omega
  unfold DiskPartition.line row DiskPartition.cells
  rw [replicate_append_padded 1 7, replicate_append_padded 0 10, padded, hmajor]
  simp only [List.flatMap_cons, List.flatMap_nil, List.append_nil, List.append_assoc, Nat.zero_add]

theorem words_ne_nil (hname : p.name ≠ []) : ∀ cell ∈ p.cells, cell.2 ≠ [] := by
  unfold DiskPartition.cells
  simp only [List.forall_mem_cons]
  exact ⟨text_ne_nil, text_ne_nil, text_ne_nil, hname, nofun⟩

theorem blank_notMem_words (p : DiskPartition) : ∀ cell ∈ p.cells, 32 ∉ cell.2 := by
  have htext (n : ℕ) : 32 ∉ text 10 1 n := notMem_text (.inl (by decide))
  unfold DiskPartition.cells
  simp only [List.forall_mem_cons]
  exact ⟨htext _, htext _, htext _, p.blank_notMem, nofun⟩

/-- A dot can only be in the name. -/
theorem takeWhile_fields (p : DiskPartition) :
    (fields 32 (p.cells.map Prod.snd)).takeWhile (fun c => c ≠ 46) =
      fields 32 [text 10 1 p.major, text 10 1 p.minor, text 10 1 (p.sectors / 2),
        p.name.takeWhile fun c => c ≠ 46] := by
  -- the numbers before the name contain no dot
  have hword (n : ℕ) (rest : List UInt8) :
      (32 :: (text 10 1 n ++ rest)).takeWhile (fun c => c ≠ 46) =
        32 :: (text 10 1 n ++ rest.takeWhile fun c => c ≠ 46) := by
    have hdot : ∀ c ∈ text 10 1 n, decide (c ≠ 46) = true := fun c hc =>
      decide_eq_true fun heq => notMem_text (.inl (by decide)) (heq ▸ hc)
    rw [List.takeWhile_cons_of_pos (by decide), List.takeWhile_append_of_pos hdot]
  simp only [fields, DiskPartition.cells, List.map_cons, List.map_nil, List.flatMap_cons,
    List.flatMap_nil, List.append_nil, List.cons_append]
  rw [hword, hword, hword, List.takeWhile_cons_of_pos (by decide)]

/-- What the commands after `grep` make of a line. -/
theorem size_of_line (hname : p.name ≠ []) :
    cutField 32 4 ((squeeze 32 p.line).takeWhile fun c => c ≠ 46) = text 10 1 (p.sectors / 2) := by
  have htext (n : ℕ) : 32 ∉ text 10 1 n := notMem_text (.inl (by decide))
  have hcut : 32 ∉ p.name.takeWhile fun c => c ≠ 46 :=
    fun hmem => p.blank_notMem ((List.takeWhile_sublist _).subset hmem)
  rw [p.line_eq_row, squeeze_row (words_ne_nil hname) (blank_notMem_words p), takeWhile_fields,
    cutField_fields (List.cons_ne_nil _ _)]
  · rfl
  · simp only [List.forall_mem_cons]
    exact ⟨htext _, htext _, htext _, hcut, nofun⟩

/-- The partitions whose name contains a `p` and the number: the one that is meant, and any whose
number starts with the same digits. -/
def matching (table : List DiskPartition) (num : ℕ) : List DiskPartition :=
  table.filter fun p => 112 :: text 10 1 num <:+: p.name

/-- Outside the name there is no `p`. -/
theorem infix_line_iff : 112 :: text 10 1 num <:+: p.line ↔ 112 :: text 10 1 num <:+: p.name := by
  -- the numbers, their padding and the blanks between them are not the letter
  have hpadded (width n : ℕ) : 112 ∉ padded width n := by
    rw [padded, List.mem_append, not_or]
    exact ⟨fun h => absurd (List.eq_of_mem_replicate h) (by decide),
      notMem_text (.inr (by decide))⟩
  have hblanks (k : ℕ) : (112 : UInt8) ∉ List.replicate k 32 :=
    fun h => absurd (List.eq_of_mem_replicate h) (by decide)
  unfold DiskPartition.line
  rw [← List.append_assoc _ _ p.name]
  refine infix_append_iff ?_
  simp only [List.mem_append, not_or]
  exact ⟨⟨⟨hpadded _ _, hblanks _, hpadded _ _⟩, hblanks _, hpadded _ _⟩, hblanks _⟩

theorem grep_procPartitions :
    grep (112 :: text 10 1 num) (procPartitions table) =
      (matching table num).map DiskPartition.line := by
  have hheader : 112 ∉ ascii "major minor  #blocks  name" := by decide
  unfold procPartitions
  rw [grep_cons_of_notMem hheader, grep_cons_of_notMem List.not_mem_nil]
  unfold grep matching
  rw [List.filter_map]
  refine congrArg (List.map DiskPartition.line) (List.filter_congr fun p _ => ?_)
  rw [Function.comp_apply, decide_eq_decide]
  exact infix_line_iff

/-- **What the pipeline takes out of the listing**: the sizes of the matching partitions. -/
theorem partitionSize_eq :
    partitionSize (procPartitions table) num =
      capture 10 ((matching table num).map fun p => text 10 1 (p.sectors / 2)) := by
  unfold partitionSize
  rw [grep_procPartitions, List.map_map, List.map_map, List.map_map]
  refine congrArg (capture 10) (List.map_congr_left fun p hp => ?_)
  -- the name contains at least the `p`
  have hfound : 112 :: text 10 1 num <:+: p.name := of_decide_eq_true (List.mem_filter.mp hp).2
  have hname : p.name ≠ [] := by
    intro hnil
    rw [hnil] at hfound
    exact List.cons_ne_nil _ _ (List.infix_nil.mp hfound)
  rw [Function.comp_apply, Function.comp_apply, Function.comp_apply]
  exact size_of_line hname

/-! ### Numbers -/

theorem spells_iff_mapM {s : List UInt8} {ds : List ℕ} :
    Spells 10 s ds ↔ s.mapM (digit 10) = some ds := by
  rw [RecordFormat.mapM_eq_some_iff, Spells, ← List.forall₂_eq_eq_eq, List.forall₂_map_left_iff,
    List.forall₂_map_right_iff]

theorem shellNumber_text : shellNumber (text 10 1 n) = some (n : ℤ) := by
  have hspells : Spells 10 (text 10 1 n) (numeral 10 1 n) := spells_text (by decide) (by decide)
  rw [shellNumber, if_neg text_ne_nil, spells_iff_mapM.mp hspells, Option.map_some, value_numeral]

/-- A newline is no digit. -/
theorem shellNumber_of_newline {s : List UInt8} (h : 10 ∈ s) : shellNumber s = none := by
  have hdigits : s.mapM (digit 10) = none := by
    refine Option.eq_none_iff_forall_ne_some.mpr fun ds hds => ?_
    obtain ⟨d, hd⟩ := exists_spells_iff.mp ⟨ds, spells_iff_mapM.mpr hds⟩ 10 h
    rw [show digit 10 10 = none by decide] at hd
    exact nomatch hd
  rw [shellNumber, if_neg (List.ne_nil_of_mem h), hdigits]
  rfl

/-- One matching partition gives its size. -/
theorem shellNumber_partitionSize (h : matching table num = [p]) :
    partitionSize (procPartitions table) num = text 10 1 (p.sectors / 2) ∧
      shellNumber (partitionSize (procPartitions table) num) = some ((p.sectors / 2 : ℕ) : ℤ) := by
  have hsize : partitionSize (procPartitions table) num = text 10 1 (p.sectors / 2) := by
    rw [partitionSize_eq, h, List.map_singleton, capture_singleton text_ne_nil]
  exact ⟨hsize, by rw [hsize, shellNumber_text]⟩

/-- Several matching partitions give no number. -/
theorem shellNumber_of_several (h : 2 ≤ (matching table num).length) :
    shellNumber (partitionSize (procPartitions table) num) = none := by
  rw [partitionSize_eq]
  refine shellNumber_of_newline (mem_capture (fun line hline => ?_) ?_)
  · obtain ⟨p, -, rfl⟩ := List.mem_map.mp hline
    exact text_ne_nil
  · rwa [List.length_map]

/-- **When a division of the shell rounds down**: it rounds towards zero. -/
theorem tdiv_between_iff {a b : ℤ} (hb : 0 < b) :
    a.tdiv b * b ≤ a ∧ a < (a.tdiv b + 1) * b ↔ 0 ≤ a ∨ b ∣ a := by
  rw [Int.tdiv_eq_ediv]
  by_cases h : 0 ≤ a ∨ b ∣ a
  · rw [if_pos h, add_zero]
    exact iff_of_true ⟨Int.ediv_mul_le a hb.ne', Int.lt_ediv_add_one_mul_self a hb⟩ h
  · -- the quotient is one above the one that is rounded down
    rw [if_neg h, Int.sign_eq_one_of_pos hb]
    refine iff_of_false (fun hle => ?_) h
    exact absurd hle.1 (Int.not_le.mpr (Int.lt_ediv_add_one_mul_self a hb))

end Pipeline

/-! ### Room for the footer -/

/-- The size of the partition is used, and the number of blocks is the greatest one that leaves room
for the footer behind the file system. -/
def LeavesRoom (table : List DiskPartition) (p : DiskPartition) (num lengthSub bsz : ℕ) : Prop :=
  partitionSize (procPartitions table) num = text 10 1 (p.sectors / 2) ∧
    ∃ B : ℤ, partGetResize2fs (procPartitions table) num lengthSub bsz = some B ∧
      B * bsz + lengthSub ≤ 512 * p.sectors ∧ (512 * p.sectors : ℤ) < (B + 1) * bsz + lengthSub

section Room

variable {num lengthSub bsz : ℕ} {p : DiskPartition} {table : List DiskPartition}

theorem partGetResize2fs_eq_none (h : 2 ≤ (matching table num).length) :
    partGetResize2fs (procPartitions table) num lengthSub bsz = none := by
  unfold partGetResize2fs
  rw [shellNumber_of_several h]
  rfl

theorem partGetResize2fs_eq (h : matching table num = [p]) :
    partGetResize2fs (procPartitions table) num lengthSub bsz =
      if (bsz : ℤ).tdiv 1024 = 0 then none
      else some (((p.sectors / 2 : ℕ) - (lengthSub : ℤ).tdiv 1024).tdiv ((bsz : ℤ).tdiv 1024)) := by
  unfold partGetResize2fs
  rw [(shellNumber_partitionSize h).2]
  rfl

theorem mem_matching (hp : p ∈ table) (hname : p.name = mmcBlockName num) :
    p ∈ matching table num := by
  have hfound : 112 :: text 10 1 num <:+: p.name :=
    hname ▸ (List.suffix_append (ascii "mmcblk0") (112 :: text 10 1 num)).isInfix
  exact List.mem_filter.mpr ⟨hp, decide_eq_true hfound⟩

/-- With blocks of `b` KiB and a footer of `s` KiB. Both are whole kilobytes, so what the divisions
of the shell lose is at most an odd sector, and that is too small to matter. -/
theorem leavesRoom_of_kilobytes (h : matching table num = [p]) {b s : ℕ} (hb : 0 < b) :
    LeavesRoom table p num (1024 * s) (1024 * b) ↔
      0 ≤ ((p.sectors / 2 : ℕ) : ℤ) - s ∨ (b : ℤ) ∣ ((p.sectors / 2 : ℕ) : ℤ) - s := by
  -- both are whole kilobytes, so the divisions of the shell lose nothing
  have hblock : ((1024 * b : ℕ) : ℤ).tdiv 1024 = b := by
    rw [Nat.cast_mul]
    exact Int.mul_tdiv_cancel_left _ (by decide)
  have hsub : ((1024 * s : ℕ) : ℤ).tdiv 1024 = s := by
    rw [Nat.cast_mul]
    exact Int.mul_tdiv_cancel_left _ (by decide)
  have hb' : (0 : ℤ) < b := Int.natCast_pos.mpr hb
  have hrun : partGetResize2fs (procPartitions table) num (1024 * s) (1024 * b) =
      some ((((p.sectors / 2 : ℕ) : ℤ) - s).tdiv b) := by
    rw [partGetResize2fs_eq h, hblock, hsub, if_neg hb'.ne']
  rw [← tdiv_between_iff hb']
  -- an odd sector is too small to matter
  have hbytes (B : ℤ) :
      (B * (1024 * b : ℕ) + (1024 * s : ℕ) ≤ 512 * p.sectors ∧
          (512 * p.sectors : ℤ) < (B + 1) * (1024 * b : ℕ) + (1024 * s : ℕ)) ↔
        B * b ≤ ((p.sectors / 2 : ℕ) : ℤ) - s ∧ ((p.sectors / 2 : ℕ) : ℤ) - s < (B + 1) * b := by
    have hlow : B * ((1024 * b : ℕ) : ℤ) = 1024 * (B * b) := by
      push_cast
      ring
    have hhigh : (B + 1) * ((1024 * b : ℕ) : ℤ) = 1024 * ((B + 1) * b) := by
      push_cast
      ring
    rw [hlow, hhigh]
    omega
  constructor
  · rintro ⟨-, B, hB, hroom⟩
    obtain rfl := Option.some.inj (hrun.symm.trans hB)
    exact (hbytes _).mp hroom
  · exact fun hroom => ⟨(shellNumber_partitionSize h).1, _, hrun, (hbytes _).mpr hroom⟩

/-- **When there is room for the footer**: only one partition matches, a block has a kilobyte at
least, and the footer fits into the partition, or else the difference is a number of blocks. The
shell divides towards zero, so that a negative difference is rounded up. -/
theorem resize_leaves_room_iff (hp : p ∈ table) (hname : p.name = mmcBlockName num)
    (hbsz : bsz ∈ [512, 1024, 2048, 4096]) (hsub : 1024 ∣ lengthSub) :
    LeavesRoom table p num lengthSub bsz ↔
      (matching table num).length = 1 ∧ bsz ≠ 512 ∧
        (lengthSub ≤ 1024 * (p.sectors / 2) ∨
          (bsz : ℤ) ∣ 1024 * ((p.sectors / 2 : ℕ) : ℤ) - lengthSub) := by
  have hmem := mem_matching hp hname
  by_cases hone : (matching table num).length = 1
  case neg =>
    -- several sizes make one argument with newlines in it
    have hseveral : 2 ≤ (matching table num).length := by
      have hpos := List.length_pos_of_mem hmem
      omega
    refine iff_of_false ?_ fun h => hone h.1
    rintro ⟨-, B, hB, -⟩
    rw [partGetResize2fs_eq_none hseveral] at hB
    exact nomatch hB
  case pos =>
    -- the only match is the partition itself
    obtain ⟨q, hq⟩ := List.length_eq_one_iff.mp hone
    obtain rfl : p = q := List.mem_singleton.mp (hq ▸ hmem)
    rw [and_iff_right hone]
    obtain ⟨s, rfl⟩ := hsub
    by_cases h512 : bsz = 512
    case pos =>
      -- a block of half a kilobyte has no whole kilobytes
      refine iff_of_false ?_ fun h => h.1 h512
      rintro ⟨-, B, hB, -⟩
      rw [partGetResize2fs_eq hq, h512, if_pos (by decide)] at hB
      exact nomatch hB
    case neg =>
      -- the other block sizes are whole kilobytes
      obtain ⟨b, hb, rfl⟩ : ∃ b, 0 < b ∧ bsz = 1024 * b := by
        simp only [List.mem_cons, List.not_mem_nil, or_false] at hbsz
        exact ⟨bsz / 1024, by omega, by omega⟩
      rw [leavesRoom_of_kilobytes hq hb, and_iff_right h512]
      refine or_congr (by omega) ?_
      have hdiff : 1024 * ((p.sectors / 2 : ℕ) : ℤ) - ((1024 * s : ℕ) : ℤ) =
          1024 * (((p.sectors / 2 : ℕ) : ℤ) - s) := by
        push_cast
        ring
      rw [hdiff, Nat.cast_mul]
      exact (mul_dvd_mul_iff_left (by decide)).symm

/-- A listing of the device, its partitions 1, 13 and 15 and, in between, that of the user data. -/
def deviceTable (userdata : DiskPartition) : List DiskPartition :=
  [⟨179, 0, 30777344, ascii "mmcblk0", by decide, by decide⟩,
    ⟨179, 1, 4096, mmcBlockName 1, by decide, by decide⟩,
    ⟨179, 13, 2048, mmcBlockName 13, by decide, by decide⟩, userdata,
    ⟨179, 15, 23416832, mmcBlockName 15, by decide, by decide⟩]

/-- The partition of the user data, with the values of `variables.sh`. Of its 3677184 kilobytes 16
are kept free. -/
theorem resize_leaves_room_iff_userdata :
    let userdata : DiskPartition := ⟨179, 14, 7354368, mmcBlockName 14, by decide, by decide⟩
    LeavesRoom (deviceTable userdata) userdata 14 16384 4096 := by
  intro userdata
  have hmem : userdata ∈ deviceTable userdata := by simp [deviceTable]
  exact (resize_leaves_room_iff hmem rfl (by decide) (by decide)).mpr
    ⟨by decide, by decide, .inl (by decide)⟩

/-- For the number 1 the listing gives two sizes, the other one that of partition 14. -/
theorem resize_several_partitions : ¬ ∀ table p num lengthSub bsz, p ∈ table →
    p.name = mmcBlockName num → bsz ∈ [512, 1024, 2048, 4096] → 1024 ∣ lengthSub →
    LeavesRoom table p num lengthSub bsz := by
  intro h
  let first : DiskPartition := ⟨179, 1, 4096, mmcBlockName 1, by decide, by decide⟩
  let userdata : DiskPartition := ⟨179, 14, 23429120, mmcBlockName 14, by decide, by decide⟩
  obtain ⟨-, B, hB, -⟩ :=
    h [first, userdata] first 1 0 4096 List.mem_cons_self rfl (by decide) (by decide)
  rw [partGetResize2fs_eq_none (by decide)] at hB
  exact nomatch hB

end Room

end Releasetools

end BlueCommon
