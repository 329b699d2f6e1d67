import BlueCommon.Boot.Mkelf

/-!
# The entry point of a boot image

`e_entry` in the header says where a boot loader starts. `parse_inputs` accepts a mark for the entry
segment; `main` writes the address of the first segment.

* `IsEntry`: the segment that the inputs ask for.
* `main_entry`: the header of a written image has the address of the first segment, whatever is
  written after the header.
* `entry_point_iff`: when that is the address of the entry segment.
-/

namespace BlueCommon

namespace Boot

open Image Interaction

/-- `e_entry` of an image: the four bytes at offset 24, the lowest first. It is the address to which
a loader jumps once the segments are in memory. -/
def readEntry (image : List UInt8) : ℕ := numberAt image 4 24

/-- The input is marked as the entry segment. -/
def Input.isEntry (input : Input) : Bool := input.flags = some .entry

/-- The entry segment of the inputs, as the usage of the script describes it: the only one with the
mark `entry`, or the first one when none has it. Inputs with more than one mark have no entry
segment. -/
def IsEntry (inputs : List Input) (input : Input) : Prop :=
  inputs.filter Input.isEntry = [input] ∨
    inputs.filter Input.isEntry = [] ∧ inputs.head? = some input

instance (inputs : List Input) (input : Input) : Decidable (IsEntry inputs input) :=
  inferInstanceAs (Decidable (_ ∨ _))

/-- The condition on the arguments: if exactly one input is marked, its address is that of the first
one. Only the addresses are compared, so the marked input need not be the first. -/
def EntryFirst (inputs : List Input) : Prop :=
  ∀ input, inputs.filter Input.isEntry = [input] →
    inputs.head?.map (fun first => long16 first.addr) = some (long16 input.addr)

/-! ### What a successful run has done -/

/-- Numbers are packed only if they fit. -/
theorem pack_ok {fields : List (ℕ × ℕ)} {bytes : List UInt8} (h : pack fields = .ok bytes) :
    Fits fields ∧ bytes = encode fields := by
  -- what `pack` returns is known once every number fits in its field
  suffices hfits : Fits fields by
    rw [pack_eq hfits] at h
    exact ⟨hfits, (Except.ok.inj h).symm⟩
  unfold pack at h
  obtain ⟨packed, hpacked, -⟩ := bind_eq_ok.mp h
  clear h
  -- the numbers are packed one by one, and the first that is too large is an error
  induction fields generalizing packed with
  | nil => exact fun field hmem => absurd hmem List.not_mem_nil
  | cons field fields ih =>
    rw [List.mapM_cons] at hpacked
    obtain ⟨bytes, hbytes, hpacked⟩ := bind_eq_ok.mp hpacked
    obtain ⟨rest, hrest, -⟩ := bind_eq_ok.mp hpacked
    refine List.forall_mem_cons.mpr ⟨?_, ih rest hrest⟩
    by_contra hlarge
    unfold packNumber at hbytes
    rw [if_neg hlarge] at hbytes
    cases hbytes

theorem writeElfHeader_ok {entry : String} {phnum : ℕ} {elf : OutFile UInt8}
    (h : writeElfHeader OutFile.empty entry phnum = .ok elf) :
    long16 entry < 2 ^ 32 ∧ elf = ⟨elfHeader (long16 entry) phnum, 52⟩ := by
  obtain ⟨fields, hfields, helf⟩ := bind_eq_ok.mp h
  obtain ⟨hfits, rfl⟩ := pack_ok hfields
  refine ⟨hfits (4, long16 entry) (by simp [elfHeaderFields]), ?_⟩
  obtain rfl := Except.ok.inj helf
  rfl

/-- The run of `main`: the arguments are parsed, the files placed and the image written. When it
ends without an error there is a first segment, and its address is the entry point of the image. -/
theorem main_ok {boardname : Option (List UInt8)} {path : String} {args : List String}
    {fs fs' : FileSystem} (h : main boardname (some path) args fs = .ok fs') :
    ∃ inputs first rest elf, parseInputs args = .ok inputs ∧
      placeSegments fs pagesize inputs = .ok (first :: rest) ∧
      writeImage boardname (Function.update fs path (some [])) first.addr (first :: rest) =
        .ok elf ∧ fs' path = some elf.contents := by
  unfold main at h
  dsimp only at h
  -- the two checks of the arguments come before anything is written
  by_cases hpath : path = ""
  · rw [if_pos hpath] at h
    cases h
  rw [if_neg hpath] at h
  by_cases hargs : args.isEmpty = true
  · rw [if_pos hargs] at h
    cases h
  rw [if_neg hargs] at h
  obtain ⟨inputs, hparse, h⟩ := bind_eq_ok.mp h
  obtain ⟨segments, hsegments, h⟩ := bind_eq_ok.mp h
  cases segments with
  | nil => cases h
  | cons first rest =>
    obtain ⟨elf, helf, h⟩ := bind_eq_ok.mp h
    -- an image has been written, so there is a first segment
    refine ⟨inputs, first, rest, elf, hparse, hsegments, helf, ?_⟩
    obtain rfl := Except.ok.inj h
    exact Function.update_self ..

/-! ### The header stays -/

/-- The header stands at the start of the file, and the next write is past it. -/
def KeepsHeader (header : List UInt8) (elf : OutFile UInt8) : Prop :=
  header <+: elf.contents ∧ header.length ≤ elf.pos

theorem KeepsHeader.write {header data : List UInt8} {elf : OutFile UInt8}
    (h : KeepsHeader header elf) : KeepsHeader header (elf.write 0 data) :=
  ⟨prefix_writeAt_trans h.1 h.2, Nat.le_add_right_of_le h.2⟩

theorem KeepsHeader.seek {header : List UInt8} {elf : OutFile UInt8} {pos : ℕ}
    (h : KeepsHeader header elf) (hpos : header.length ≤ pos) :
    KeepsHeader header (elf.seek pos) := ⟨h.1, hpos⟩

/-- **What is written after the header leaves it as it is**: the program headers follow it, and the
name of the board and the files are at fixed places past it. -/
theorem writeImage_keepsHeader {boardname : Option (List UInt8)} {fs fs' : FileSystem}
    {entry : String} {segments : List Segment} {elf : OutFile UInt8}
    (hplaced : Placed fs' pagesize segments)
    (h : writeImage boardname fs entry segments = .ok elf) :
    long16 entry < 2 ^ 32 ∧ elfHeader (long16 entry) segments.length <+: elf.contents := by
  obtain ⟨elf₀, hheader, h⟩ := bind_eq_ok.mp h
  obtain ⟨elf₁, hphdrs, hsegments⟩ := bind_eq_ok.mp h
  obtain ⟨hentry, rfl⟩ := writeElfHeader_ok hheader
  -- what the header contains does not matter from here on
  have hlen := length_elfHeader (long16 entry) segments.length
  generalize elfHeader (long16 entry) segments.length = header at *
  have h₀ : KeepsHeader header ⟨header, 52⟩ := ⟨List.prefix_rfl, Nat.le_of_eq hlen⟩
  -- the program headers are written behind it
  have h₁ : KeepsHeader header elf₁ := by
    refine foldlM_ok_invariant h₀ (fun elf seg elf' _ hkeeps hwrite => ?_) hphdrs
    obtain ⟨fields, -, hwrite⟩ := bind_eq_ok.mp hwrite
    obtain rfl := Except.ok.inj hwrite
    exact hkeeps.write
  -- so is the board name, at an offset of its own
  have h₂ : KeepsHeader header (writeBoardname boardname elf₁) := by
    cases boardname with
    | none => exact h₁
    | some name =>
      refine (h₁.seek ?_).write
      rw [hlen]
      decide
  -- and the segments lie behind the first page
  have h₃ : KeepsHeader header elf := by
    refine foldlM_ok_invariant h₂ (fun elf seg elf' hmem hkeeps hwrite => ?_) hsegments
    obtain ⟨data, -, hwrite⟩ := bind_eq_ok.mp hwrite
    obtain rfl := Except.ok.inj hwrite
    refine (hkeeps.seek ?_).write
    calc header.length = 52 := hlen
      _ ≤ pagesize := by decide
      _ ≤ seg.offset := hplaced.offset_le seg hmem
  exact ⟨hentry, h₃.1⟩

/-- **`e_entry` of a written image is the address of the first input.** -/
theorem main_entry {boardname : Option (List UInt8)} {path : String} {args : List String}
    {inputs : List Input} {fs fs' : FileSystem} (hparse : parseInputs args = .ok inputs)
    (h : main boardname (some path) args fs = .ok fs') :
    ∃ first image, inputs.head? = some first ∧ fs' path = some image ∧
      readEntry image = long16 first.addr := by
  obtain ⟨inputs', first, rest, elf, hparse', hplace, hwrite, hfile⟩ := main_ok h
  obtain rfl : inputs = inputs' := Except.ok.inj (hparse.symm.trans hparse')
  obtain ⟨hplaced, rfl⟩ := placeSegments_placed hplace
  obtain ⟨hentry, header⟩ := writeImage_keepsHeader hplaced hwrite
  refine ⟨first.toInput, elf.contents, rfl, hfile, ?_⟩
  -- the entry address is the fourth field of the header that is still in front
  have hholds : Holds elf.contents 0 (elfHeader (long16 first.addr) (first :: rest).length) :=
    Holds.mono (holds_append_right [] _) header
  have hfields := (holds_append.mp hholds).2
  exact numberAt_field ((elfHeaderFields (long16 first.addr) (first :: rest).length).take 3)
    ((elfHeaderFields (long16 first.addr) (first :: rest).length).drop 4) hfields hentry

/-! ### The entry segment -/

/-- **When the image starts in the entry segment.** The script writes the address of its first
segment as the entry point, and never looks at the mark for it. So for arguments that it accepts the
image starts where the usage promises exactly if a marked segment has the address of the first
one. -/
theorem entry_point_iff {boardname : Option (List UInt8)} {path : String} {args : List String}
    {inputs : List Input} {fs fs' : FileSystem} (hparse : parseInputs args = .ok inputs)
    (h : main boardname (some path) args fs = .ok fs') :
    (∀ input, IsEntry inputs input →
      ∃ image, fs' path = some image ∧ readEntry image = long16 input.addr) ↔
      EntryFirst inputs := by
  -- the file holds an image that starts at the address of the first segment
  obtain ⟨first, image, hfirst, hfile, hentry⟩ := main_entry hparse h
  unfold EntryFirst
  rw [hfirst, Option.map_some]
  constructor
  · -- the code writes the address of the first segment, whatever the marks say
    intro hstarts input hmarked
    obtain ⟨image', hfile', hentry'⟩ := hstarts input (.inl hmarked)
    obtain rfl : image = image' := Option.some.inj (hfile.symm.trans hfile')
    rw [← hentry, hentry']
  · -- a marked segment is the first one by the condition, and without a mark the first one is meant
    rintro hmarked input (hone | ⟨-, hhead⟩)
    · exact ⟨image, hfile, hentry.trans (Option.some.inj (hmarked input hone))⟩
    · obtain rfl : first = input := Option.some.inj (hfirst.symm.trans hhead)
      exact ⟨image, hfile, hentry⟩

/-- Two files, of which the second is marked. -/
def secondMarked : List String := ["k@0x1000", "r@0x2000,entry"]

theorem secondMarked_run :
    ∃ fs', main none (some "o") secondMarked (fun _ => some []) = .ok fs' := ⟨_, rfl⟩

theorem secondMarked_inputs :
    parseInputs secondMarked = .ok [⟨"k", "0x1000", none⟩, ⟨"r", "0x2000", some .entry⟩] := rfl

theorem entry_point_iff_secondMarked :
    ∃ fs', main none (some "o") secondMarked (fun _ => some []) = .ok fs' ∧
      ((∀ input, IsEntry [⟨"k", "0x1000", none⟩, ⟨"r", "0x2000", some .entry⟩] input →
        ∃ image, fs' "o" = some image ∧ readEntry image = long16 input.addr) ↔
        EntryFirst [⟨"k", "0x1000", none⟩, ⟨"r", "0x2000", some .entry⟩]) := by
  obtain ⟨fs', h⟩ := secondMarked_run
  exact ⟨fs', h, entry_point_iff secondMarked_inputs h⟩

/-- The image does not start in the marked segment. -/
theorem entry_mark_ignored :
    ¬ ∀ boardname path args inputs fs fs', parseInputs args = .ok inputs →
      main boardname (some path) args fs = .ok fs' → ∀ input, IsEntry inputs input →
        ∃ image, fs' path = some image ∧ readEntry image = long16 input.addr := by
  -- the run itself, and what `main_entry` says of it, name different addresses
  intro hall
  obtain ⟨fs', h⟩ := secondMarked_run
  obtain ⟨image, hfile, hentry⟩ := hall _ _ _ _ _ _ secondMarked_inputs h
    ⟨"r", "0x2000", some .entry⟩ (.inl (by decide))
  obtain ⟨first, image', hfirst, hfile', hentry'⟩ := main_entry secondMarked_inputs h
  obtain rfl : image' = image := Option.some.inj (hfile'.symm.trans hfile)
  obtain rfl := Option.some.inj hfirst
  rw [hentry] at hentry'
  revert hentry'
  decide

end Boot

end BlueCommon
