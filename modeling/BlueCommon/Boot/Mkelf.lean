import BlueCommon.Lib.Exits
import BlueCommon.Lib.Image
import Mathlib.Data.List.Forall2
import Mathlib.Logic.Function.Basic

/-!
# Boot images

`mkelf.py` combines files to an ELF file: the header and the program headers, the name of the board
at the end of the first page, and from 4096 on the files, one after the other.

* `parseInputs`: the arguments `file@addr[,flag]` and `file@cmdline`.
* `main`: the program. The files are maps from paths to contents.
* `ProgramHeader`, `readProgramHeaders`: how a boot loader reads the image.
* `main_decodes`: what it reads are the inputs.

What is written is in the file once it is closed.
-/

namespace BlueCommon

namespace Boot

open Image Interaction

/-- The ways in which the program ends early. -/
inductive MkelfError
  | fatal (message : String)
  | osError
  | structError
  deriving DecidableEq

/-- The marks of an input. -/
inductive SegFlag
  | ramdisk
  | ipl
  | entry
  | rpm
  | cmdline
  deriving DecidableEq

/-- An input: the keys that `parse_inputs` sets for an argument. The address is kept as the text
that was matched, and `flags` is the mark after it, if there is one. -/
structure Input where
  file : String
  addr : String
  flags : Option SegFlag
  deriving DecidableEq

/-- A segment: an input with the keys that `main` adds when it has read the size of the file. The
offset is that in the output, where the first segment starts at the second page. -/
structure Segment extends Input where
  offset : ℕ
  size : ℕ

abbrev FileSystem := String → Option (List UInt8)

/-! ### The arguments -/

def isHexDigit (c : Char) : Bool :=
  c.isDigit || ('a' ≤ c && c ≤ 'f') || ('A' ≤ c && c ≤ 'F')

/-- The marks in an address. -/
def flagNames : List (List Char × SegFlag) :=
  [("ramdisk".toList, .ramdisk), ("ipl".toList, .ipl), ("entry".toList, .entry),
    ("rpm".toList, .rpm)]

/-- `(?:,(ramdisk|ipl|entry|rpm))?$`. The `$` also matches before a newline at the end. -/
def matchFlag (tail : List Char) : Option (Option SegFlag) :=
  if tail = [] ∨ tail = ['\n'] then some none
  else match tail with
    | ',' :: name =>
      (flagNames.find? fun p => name = p.1 || name = p.1 ++ ['\n']).map fun p => some p.2
    | _ => none

/-- The address of an argument and the mark after it, by
`^(0x[0-9a-fA-F]+)(?:,(ramdisk|ipl|entry|rpm))?$`. Anything else is no address, and the argument is
refused. -/
def matchAddr : List Char → Option (String × Option SegFlag)
  | '0' :: 'x' :: rest =>
    let digits := rest.takeWhile isHexDigit
    if digits.isEmpty then none
    else (matchFlag (rest.dropWhile isHexDigit)).map fun flag =>
      (String.ofList ('0' :: 'x' :: digits), flag)
  | _ => none

def incorrectFormat (arg : String) : MkelfError :=
  .fatal ("Incorrect format of input parameter: " ++ arg)

def parseInput (arg : String) : Except MkelfError Input :=
  match arg.toList.splitOn '@' with
  | [file, spec] =>
    if spec = "cmdline".toList then .ok ⟨String.ofList file, "0", some .cmdline⟩
    else match matchAddr spec with
      | some (addr, flags) => .ok ⟨String.ofList file, addr, flags⟩
      | none => .error (incorrectFormat arg)
  | _ => .error (incorrectFormat arg)

def parseInputs (args : List String) : Except MkelfError (List Input) := args.mapM parseInput

/-! ### The headers -/

def hexValue (c : Char) : ℕ :=
  if c.isDigit then c.toNat - '0'.toNat
  else if 'a' ≤ c && c ≤ 'f' then c.toNat - 'a'.toNat + 10
  else c.toNat - 'A'.toNat + 10

/-- `long(s, 16)`, which reads the hexadecimal digits with or without a `0x` before them. The texts
here have been matched before, so there is no other character in them. -/
def long16 (s : String) : ℕ :=
  let digits := match s.toList with
    | '0' :: 'x' :: digits => digits
    | digits => digits
  digits.foldl (fun n c => 16 * n + hexValue c) 0

/-- `struct.pack` of a number of `width` bytes. -/
def packNumber (width n : ℕ) : Except MkelfError (List UInt8) :=
  if n < 256 ^ width then .ok (littleEndian width n) else .error .structError

/-- `struct.pack` of numbers, each with its width. -/
def pack (fields : List (ℕ × ℕ)) : Except MkelfError (List UInt8) := do
  let packed ← fields.mapM fun field => packNumber field.1 field.2
  return packed.flatten

/-- `'\x7fELF\x01\x01\x01\x61'`, and the padding of `8s8x`. -/
def eIdent : List UInt8 := [0x7f, 0x45, 0x4c, 0x46, 1, 1, 1, 0x61, 0, 0, 0, 0, 0, 0, 0, 0]

/-- The fields of the ELF header after `e_ident`. -/
def elfHeaderFields (entry phnum : ℕ) : List (ℕ × ℕ) :=
  let e_type := 2
  let e_machine := 40
  let e_version := 1
  let e_phoff := 52
  let e_shoff := 0
  let e_flags := 0
  let e_ehsize := 52
  let e_phentsize := 32
  let e_shentsize := 0
  let e_shnum := 0
  let e_shstrndx := 0
  [(2, e_type), (2, e_machine), (4, e_version), (4, entry), (4, e_phoff), (4, e_shoff),
    (4, e_flags),
    (2, e_ehsize), (2, e_phentsize), (2, phnum), (2, e_shentsize), (2, e_shnum), (2, e_shstrndx)]

def writeElfHeader (elf : OutFile UInt8) (entry : String)
    (phnum : ℕ) : Except MkelfError (OutFile UInt8) := do
  let fields ← pack (elfHeaderFields (long16 entry) phnum)
  return elf.write 0 (eIdent ++ fields)

def ptLoad : ℕ := 1
def ptNote : ℕ := 4
def pFlagsRamdisk : ℕ := 0x80000000
def pFlagsIpl : ℕ := 0x40000000
def pFlagsCmdline : ℕ := 0x20000000
def pFlagsRpm : ℕ := 0x01000000

def segType (flags : Option SegFlag) : ℕ := if flags = some .cmdline then ptNote else ptLoad

def segFlags : Option SegFlag → ℕ
  | some .ramdisk => pFlagsRamdisk
  | some .ipl => pFlagsIpl
  | some .cmdline => pFlagsCmdline
  | some .rpm => pFlagsRpm
  | _ => 0

/-- A program header. -/
structure ProgramHeader where
  p_type : ℕ
  p_offset : ℕ
  p_vaddr : ℕ
  p_paddr : ℕ
  p_filesz : ℕ
  p_memsz : ℕ
  p_flags : ℕ
  p_align : ℕ
  deriving DecidableEq

def ProgramHeader.fields (h : ProgramHeader) : List (ℕ × ℕ) :=
  [(4, h.p_type), (4, h.p_offset), (4, h.p_vaddr), (4, h.p_paddr), (4, h.p_filesz), (4, h.p_memsz),
    (4, h.p_flags), (4, h.p_align)]

def Segment.header (seg : Segment) : ProgramHeader where
  p_type := segType seg.flags
  p_offset := seg.offset
  p_vaddr := long16 seg.addr
  p_paddr := long16 seg.addr
  p_filesz := seg.size
  p_memsz := seg.size
  p_flags := segFlags seg.flags
  p_align := 0

def writeElfPhdr (elf : OutFile UInt8) (seg : Segment) : Except MkelfError (OutFile UInt8) := do
  let fields ← pack seg.header.fields
  return elf.write 0 fields

/-! ### The program -/

def readFile (fs : FileSystem) (path : String) : Except MkelfError (List UInt8) :=
  match fs path with
  | some data => .ok data
  | none => .error .osError

/-- The segments of the inputs from an offset on. Each takes as many bytes as its file has and the
next one follows at once; the first file that cannot be read ends the program. -/
def placeSegments (fs : FileSystem) : ℕ → List Input → Except MkelfError (List Segment)
  | _, [] => .ok []
  | offset, input :: inputs => do
    let size ← List.length <$> readFile fs input.file
    let segments ← placeSegments fs (offset + size) inputs
    return { input with offset := offset, size := size } :: segments

/-- `struct.pack('<16s', name)`: a name that is too long is cut to 16 bytes, and a shorter one is
filled up with zeros. -/
def packName (name : List UInt8) : List UInt8 :=
  name.take 16 ++ List.replicate (16 - name.length) 0

theorem length_packName {name : List UInt8} (h : name.length ≤ 16) :
    (packName name).length = 16 := by
  unfold packName
  rw [List.length_append, List.length_take, List.length_replicate]
  omega

def writeSegment (fs : FileSystem) (elf : OutFile UInt8) (seg : Segment) :
    Except MkelfError (OutFile UInt8) := do
  let elf := elf.seek seg.offset
  let data ← readFile fs seg.file
  return elf.write 0 data

def pagesize : ℕ := 4096

/-- The name of the board stands at the end of the first page. -/
def writeBoardname (boardname : Option (List UInt8)) (elf : OutFile UInt8) : OutFile UInt8 :=
  match boardname with
  | some name => (elf.seek (pagesize - 16)).write 0 (packName name)
  | none => elf

/-- Writes the output file. -/
def writeImage (boardname : Option (List UInt8)) (fs : FileSystem) (entry : String)
    (segments : List Segment) :
    Except MkelfError (OutFile UInt8) := do
  let elf ← writeElfHeader OutFile.empty entry segments.length
  let elf ← segments.foldlM writeElfPhdr elf
  segments.foldlM (writeSegment fs) (writeBoardname boardname elf)

/-- The options, and the arguments that are not options. The sizes of the inputs are read before the
output is opened, which empties it, and their contents afterwards: an input that is the output is
empty by then. The result is the files afterwards. -/
def main (boardname : Option (List UInt8)) (outputfile : Option String) (args : List String)
    (fs : FileSystem) :
    Except MkelfError FileSystem := do
  match outputfile with
  | none => throw (.fatal "Missing -o on command line")
  | some path =>
    if path = "" then throw (.fatal "Missing -o on command line")
    let inputs ← if args.isEmpty then throw (.fatal "Missing input files") else parseInputs args
    let segments ← placeSegments fs pagesize inputs
    match segments with
    | [] => throw (.fatal "Missing input files")
    | first :: _ =>
      let fs := Function.update fs path (some [])
      let elf ← writeImage boardname fs first.addr segments
      return Function.update fs path (some elf.contents)

/-! ### Reading an image -/

def readProgramHeader (image : List UInt8) (pos : ℕ) : ProgramHeader where
  p_type := numberAt image 4 pos
  p_offset := numberAt image 4 (pos + 4)
  p_vaddr := numberAt image 4 (pos + 8)
  p_paddr := numberAt image 4 (pos + 12)
  p_filesz := numberAt image 4 (pos + 16)
  p_memsz := numberAt image 4 (pos + 20)
  p_flags := numberAt image 4 (pos + 24)
  p_align := numberAt image 4 (pos + 28)

/-- `e_phnum` of an image. -/
def readPhnum (image : List UInt8) : ℕ := numberAt image 2 44

/-- `e_phoff` of an image. -/
def readPhoff (image : List UInt8) : ℕ := numberAt image 4 28

/-- The program headers of an image, in order. -/
def readProgramHeaders (image : List UInt8) : List ProgramHeader :=
  (List.range (readPhnum image)).map fun i => readProgramHeader image (readPhoff image + 32 * i)

/-- The contents of a segment: the bytes of the image from `p_offset` on, as many as `p_filesz`
says. -/
def ProgramHeader.data (h : ProgramHeader) (image : List UInt8) : List UInt8 :=
  slice image h.p_offset h.p_filesz

/-! ### Fields -/

/-- Numbers as bytes, each with its width. -/
def encode (fields : List (ℕ × ℕ)) : List UInt8 :=
  fields.flatMap fun field => littleEndian field.1 field.2

/-- The bytes of the fields. -/
def totalWidth (fields : List (ℕ × ℕ)) : ℕ := (fields.map Prod.fst).sum

theorem length_encode (fields : List (ℕ × ℕ)) : (encode fields).length = totalWidth fields := by
  unfold encode totalWidth
  induction fields with
  | nil => rfl
  | cons field fields ih =>
    rw [List.flatMap_cons, List.length_append, length_littleEndian, ih, List.map_cons,
      List.sum_cons]

/-- The numbers fit into their fields, which are given by their sizes in bytes. `struct.pack` raises
an error for any other number. -/
def Fits (fields : List (ℕ × ℕ)) : Prop := ∀ field ∈ fields, field.2 < 256 ^ field.1

theorem pack_eq {fields : List (ℕ × ℕ)} (h : Fits fields) : pack fields = .ok (encode fields) := by
  have hmap : fields.mapM (fun field => packNumber field.1 field.2) =
      Except.ok (fields.map fun field => littleEndian field.1 field.2) := by
    induction fields with
    | nil => rfl
    | cons field fields ih =>
      have hfield : packNumber field.1 field.2 = .ok (littleEndian field.1 field.2) :=
        if_pos (h field List.mem_cons_self)
      rw [List.mapM_cons, hfield, ih fun f hf => h f (List.mem_cons_of_mem _ hf)]
      rfl
  unfold pack
  rw [hmap]
  rfl

/-- A field is found after the fields before it. -/
theorem holds_field {image : List UInt8} {pos : ℕ} {width n : ℕ} {before after : List (ℕ × ℕ)}
    (h : Holds image pos (encode (before ++ (width, n) :: after))) :
    Holds image (pos + totalWidth before) (littleEndian width n) := by
  unfold encode at h
  rw [List.flatMap_append, List.flatMap_cons] at h
  have hafter := (holds_append.mp h).2
  have hfield := (holds_append.mp hafter).1
  rwa [← encode, length_encode] at hfield

/-- A field is read back. -/
theorem numberAt_field {image : List UInt8} {pos : ℕ} {width n : ℕ} (before after : List (ℕ × ℕ))
    (h : Holds image pos (encode (before ++ (width, n) :: after))) (hn : n < 256 ^ width) :
    numberAt image width (pos + totalWidth before) = n :=
  (holds_field h).numberAt hn

/-- The ELF header as bytes. -/
def elfHeader (entry phnum : ℕ) : List UInt8 := eIdent ++ encode (elfHeaderFields entry phnum)

theorem elfHeaderFields_fits {entry phnum : ℕ} (hentry : entry < 2 ^ 32) (hphnum : phnum < 2 ^ 16) :
    Fits (elfHeaderFields entry phnum) := by
  unfold Fits elfHeaderFields
  simp only [List.forall_mem_cons, List.not_mem_nil, false_imp_iff, implies_true, and_true]
  omega

theorem length_elfHeader (entry phnum : ℕ) : (elfHeader entry phnum).length = 52 := by
  unfold elfHeader
  rw [List.length_append, length_encode]
  rfl

/-- `e_phnum` and `e_phoff` are read back. -/
theorem read_elfHeader {image : List UInt8} {entry phnum : ℕ}
    (h : Holds image 0 (elfHeader entry phnum))
    (hphnum : phnum < 2 ^ 16) : readPhnum image = phnum ∧ readPhoff image = 52 := by
  have hfields := (holds_append.mp h).2
  constructor
  · exact numberAt_field ((elfHeaderFields entry phnum).take 9)
      ((elfHeaderFields entry phnum).drop 10) hfields
      hphnum
  · exact numberAt_field ((elfHeaderFields entry phnum).take 4)
      ((elfHeaderFields entry phnum).drop 5) hfields
      (by decide)

/-- The numbers of a program header fit into its fields. -/
theorem ProgramHeader.read {image : List UInt8} {pos : ℕ} {h : ProgramHeader}
    (hholds : Holds image pos (encode h.fields))
    (hfits : Fits h.fields) : readProgramHeader image pos = h := by
  have hfield : ∀ before after n, h.fields = before ++ (4, n) :: after →
      numberAt image 4 (pos + totalWidth before) = n := by
    intro before after n heq
    refine numberAt_field before after (heq ▸ hholds) (hfits (4, n) ?_)
    rw [heq]
    exact List.mem_append_right _ List.mem_cons_self
  -- each field is read past the fields before it, all of four bytes
  cases h
  unfold readProgramHeader
  rw [ProgramHeader.mk.injEq]
  refine ⟨hfield [] _ _ rfl, hfield [(4, _)] _ _ rfl, ?_, ?_, ?_, ?_, ?_, ?_⟩
  · exact hfield [(4, _), (4, _)] _ _ rfl
  · exact hfield [(4, _), (4, _), (4, _)] _ _ rfl
  · exact hfield [(4, _), (4, _), (4, _), (4, _)] _ _ rfl
  · exact hfield [(4, _), (4, _), (4, _), (4, _), (4, _)] _ _ rfl
  · exact hfield [(4, _), (4, _), (4, _), (4, _), (4, _), (4, _)] _ _ rfl
  · exact hfield [(4, _), (4, _), (4, _), (4, _), (4, _), (4, _), (4, _)] _ _ rfl

/-! ### What is written -/

theorem Segment.header_fits {seg : Segment} (haddr : long16 seg.addr < 2 ^ 32)
    (hoffset : seg.offset < 2 ^ 32) (hsize : seg.size < 2 ^ 32) : Fits seg.header.fields := by
  have htype : segType seg.flags < 2 ^ 32 := by
    unfold segType ptNote ptLoad
    split <;> omega
  have hflags : segFlags seg.flags < 2 ^ 32 := by
    unfold segFlags pFlagsRamdisk pFlagsIpl pFlagsCmdline pFlagsRpm
    split <;> omega
  unfold Fits ProgramHeader.fields Segment.header
  simp only [List.forall_mem_cons, List.not_mem_nil, false_imp_iff, implies_true, and_true]
  omega

/-- The program headers as bytes. -/
def programHeaders (segments : List Segment) : List UInt8 :=
  segments.flatMap fun seg => encode seg.header.fields

theorem length_programHeaders (segments : List Segment) :
    (programHeaders segments).length = 32 * segments.length := by
  unfold programHeaders
  induction segments with
  | nil => rfl
  | cons seg segments ih =>
    have hwidth : totalWidth seg.header.fields = 32 := rfl
    rw [List.flatMap_cons, List.length_append, length_encode, ih, List.length_cons, hwidth]
    omega

/-- The program headers are written at the end of the file. -/
theorem writeElfPhdrs_eq {segments : List Segment} {elf : OutFile UInt8}
    (hfits : ∀ seg ∈ segments, Fits seg.header.fields) (hpos : elf.pos = elf.contents.length) :
    segments.foldlM writeElfPhdr elf =
      .ok ⟨elf.contents ++ programHeaders segments, elf.pos + 32 * segments.length⟩ := by
  unfold programHeaders
  -- induction on the segments: after each one the position is again the end of the file
  induction segments generalizing elf with
  | nil =>
    rw [List.flatMap_nil, List.append_nil]
    rfl
  | cons seg segments ih =>
    -- every header takes 32 bytes
    have hwidth : (encode seg.header.fields).length = 32 := length_encode _
    -- the header fits in its fields, so it is packed and put at the end
    have hwrite : writeElfPhdr elf seg = .ok ⟨elf.contents ++ encode seg.header.fields,
        elf.pos + 32⟩ := by
      unfold writeElfPhdr OutFile.write
      rw [pack_eq (hfits seg List.mem_cons_self), ← hwidth, ← writeAt_end hpos]
      rfl
    have hpos' : elf.pos + 32 = (elf.contents ++ encode seg.header.fields).length := by
      rw [List.length_append, hwidth, hpos]
    rw [List.foldlM_cons, hwrite]
    -- the rest is written behind it
    refine (ih (fun s hs => hfits s (List.mem_cons_of_mem _ hs)) hpos').trans ?_
    rw [List.flatMap_cons, List.append_assoc, List.length_cons, Nat.mul_add, Nat.mul_one,
      Nat.add_assoc, Nat.add_comm 32]

/-- Every program header is at its place. -/
theorem holds_programHeader {image : List UInt8} {segments : List Segment} {pos : ℕ}
    (h : Holds image pos (programHeaders segments)) (i : ℕ) (hi : i < segments.length) :
    Holds image (pos + 32 * i) (encode (segments[i]).header.fields) := by
  unfold programHeaders at h
  induction segments generalizing pos i with
  | nil => exact absurd hi (Nat.not_lt_zero i)
  | cons seg segments ih =>
    rw [List.flatMap_cons, holds_append] at h
    cases i with
    | zero => exact h.1
    | succ i =>
      have hwidth : (encode seg.header.fields).length = 32 := length_encode _
      have hrest := ih h.2 i (Nat.lt_of_succ_lt_succ hi)
      have hpos : pos + 32 + 32 * i = pos + 32 * (i + 1) := by omega
      rwa [hwidth, hpos] at hrest

/-- **The program headers are read back.** -/
theorem readProgramHeaders_eq {image : List UInt8} {segments : List Segment} {entry : ℕ}
    (hheader : Holds image 0 (elfHeader entry segments.length)) (hlen : segments.length < 2 ^ 16)
    (h : Holds image 52 (programHeaders segments))
    (hfits : ∀ seg ∈ segments, Fits seg.header.fields) :
    readProgramHeaders image = segments.map Segment.header := by
  obtain ⟨hphnum, hphoff⟩ := read_elfHeader hheader hlen
  unfold readProgramHeaders
  rw [hphnum, hphoff]
  -- both sides entry by entry
  refine List.ext_getElem (by simp) fun i hi _ => ?_
  have hi' : i < segments.length := by simpa using hi
  rw [List.getElem_map, List.getElem_range, List.getElem_map]
  exact ProgramHeader.read (holds_programHeader h i hi') (hfits _ (List.getElem_mem hi'))

/-! ### Where the segments are -/

/-- The segments stand one after the other from an offset on, each with the size of its file. -/
def Placed (fs : FileSystem) : ℕ → List Segment → Prop
  | _, [] => True
  | offset, seg :: segments =>
    seg.offset = offset ∧ (∃ data, fs seg.file = some data ∧ data.length = seg.size) ∧
      Placed fs (offset + seg.size) segments

theorem placeSegments_placed {fs : FileSystem} {inputs : List Input} {offset : ℕ}
    {segments : List Segment} (h : placeSegments fs offset inputs = .ok segments) :
    Placed fs offset segments ∧ segments.map Segment.toInput = inputs := by
  -- induction on the inputs, with the offset of the next one
  induction inputs generalizing offset segments with
  | nil =>
    obtain rfl : [] = segments := Except.ok.inj h
    exact ⟨trivial, rfl⟩
  | cons input inputs ih =>
    -- both the file and the inputs behind it could be read
    unfold placeSegments readFile at h
    obtain ⟨size, hsize, h⟩ := bind_eq_ok.mp h
    obtain ⟨rest, hrest, h⟩ := bind_eq_ok.mp h
    obtain rfl : { input with offset := offset, size := size } :: rest = segments := Except.ok.inj h
    obtain ⟨hplaced, hinputs⟩ := ih hrest
    -- the size is that of a file that exists
    refine ⟨⟨rfl, ?_, hplaced⟩, by rw [List.map_cons, hinputs]⟩
    cases hfile : fs input.file with
    | none =>
      rw [hfile] at hsize
      exact absurd hsize (by simp)
    | some data =>
      rw [hfile] at hsize
      exact ⟨data, rfl, Except.ok.inj hsize⟩

theorem Placed.offset_le {fs : FileSystem} {segments : List Segment} {offset : ℕ}
    (h : Placed fs offset segments) :
    ∀ seg ∈ segments, offset ≤ seg.offset := by
  induction segments generalizing offset with
  | nil => exact fun seg hmem => absurd hmem List.not_mem_nil
  | cons first segments ih =>
    obtain ⟨hfirst, -, hrest⟩ := h
    intro seg hmem
    rcases List.mem_cons.mp hmem with rfl | hmem
    · exact Nat.le_of_eq hfirst.symm
    · exact Nat.le_trans (Nat.le_add_right offset first.size) (ih hrest seg hmem)

/-- A segment ends before the later ones start. -/
theorem Placed.pairwise {fs : FileSystem} {segments : List Segment} {offset : ℕ}
    (h : Placed fs offset segments) :
    segments.Pairwise fun a b => a.offset + a.size ≤ b.offset := by
  induction segments generalizing offset with
  | nil => exact List.Pairwise.nil
  | cons first segments ih =>
    obtain ⟨hfirst, -, hrest⟩ := h
    refine List.pairwise_cons.mpr ⟨fun seg hmem => ?_, ih hrest⟩
    rw [hfirst]
    exact hrest.offset_le seg hmem

/-- The placement only reads the input files. -/
theorem Placed.congr {fs fs' : FileSystem} {segments : List Segment} {offset : ℕ}
    (h : Placed fs offset segments)
    (hsame : ∀ seg ∈ segments, fs' seg.file = fs seg.file) : Placed fs' offset segments := by
  induction segments generalizing offset with
  | nil => trivial
  | cons first segments ih =>
    obtain ⟨hfirst, hfile, hrest⟩ := h
    refine ⟨hfirst, ?_, ih hrest fun seg hmem => hsame seg (List.mem_cons_of_mem _ hmem)⟩
    rw [hsame first List.mem_cons_self]
    exact hfile

/-- **The files are written past the end**, so that nothing is overwritten. Each segment starts at
the end of the file or behind it, and the next one starts behind what it writes; the induction goes
along the segments. -/
theorem writeSegments_holds {fs : FileSystem} {segments : List Segment} {offset : ℕ}
    {elf : OutFile UInt8} (h : Placed fs offset segments) (hlen : elf.contents.length ≤ offset) :
    ∃ elf', segments.foldlM (writeSegment fs) elf = .ok elf' ∧ elf.contents <+: elf'.contents ∧
      ∀ seg ∈ segments, ∃ data, fs seg.file = some data ∧ data.length = seg.size ∧
        Holds elf'.contents seg.offset data := by
  -- induction on the segments: the file ends where the next one starts, or before
  induction segments generalizing offset elf with
  | nil => exact ⟨elf, rfl, List.prefix_rfl, fun seg hmem => absurd hmem List.not_mem_nil⟩
  -- the segment starts at the end of the file or behind it
  | cons first segments ih =>
    obtain ⟨hfirst, ⟨data, hfile, hsize⟩, hrest⟩ := h
    have hlen' : elf.contents.length ≤ first.offset := by rw [hfirst]; exact hlen
    have hwrite : writeSegment fs elf first = .ok ((elf.seek first.offset).write 0 data) := by
      unfold writeSegment readFile
      rw [hfile]
      rfl
    -- the next one starts behind what is written here
    have hend : ((elf.seek first.offset).write 0 data).contents.length ≤ offset + first.size := by
      rw [← hsize, ← hfirst]
      exact length_writeAt_le hlen'
    obtain ⟨elf', hfold, hkept, hholds⟩ := ih hrest hend
    refine ⟨elf', ?_, (prefix_writeAt hlen').trans hkept, fun seg hmem => ?_⟩
    · rw [List.foldlM_cons, hwrite]
      exact hfold
    · -- the segment is this one, which nothing behind it overwrites, or a later one
      rcases List.mem_cons.mp hmem with rfl | hmem
      · exact ⟨data, hfile, hsize, (holds_writeAt hlen').mono hkept⟩
      · exact hholds seg hmem

/-! ### The image -/

/-- What a boot loader finds in the image: as many program headers as there are inputs, in their
order, each with the address, type and flags of its input and with the contents of its file;
segments that do not overlap and start behind the first page; and the board name at the end of that
page. -/
structure Decodes (fs : FileSystem) (boardname : Option (List UInt8)) (inputs : List Input)
    (image : List UInt8) :
    Prop where
  phnum : readPhnum image = inputs.length
  segments : List.Forall₂ (fun (h : ProgramHeader) input => fs input.file = some (h.data image) ∧
    h.p_vaddr = long16 input.addr ∧ h.p_paddr = long16 input.addr ∧
    h.p_type = segType input.flags ∧ h.p_flags = segFlags input.flags)
      (readProgramHeaders image) inputs
  disjoint : (readProgramHeaders image).Pairwise fun a b => a.p_offset + a.p_filesz ≤ b.p_offset
  start : ∀ h ∈ readProgramHeaders image, 4096 ≤ h.p_offset
  board : ∀ name, boardname = some name →
    slice image 4080 16 = name ++ List.replicate (16 - name.length) 0

theorem length_parseInputs {args : List String} {inputs : List Input}
    (h : parseInputs args = .ok inputs) :
    inputs.length = args.length := by
  unfold parseInputs at h
  induction args generalizing inputs with
  | nil =>
    obtain rfl : [] = inputs := Except.ok.inj h
    rfl
  | cons arg args ih =>
    rw [List.mapM_cons] at h
    obtain ⟨input, -, h⟩ := bind_eq_ok.mp h
    obtain ⟨rest, hrest, h⟩ := bind_eq_ok.mp h
    obtain rfl : input :: rest = inputs := Except.ok.inj h
    rw [List.length_cons, List.length_cons, ih hrest]

/-- What the four parts of the file decode to. The header and the program headers are read as a
loader reads them, and the data of each segment is at the offset that its header gives. -/
theorem decodes_of_holds {fs : FileSystem} {boardname : Option (List UInt8)}
    {segments : List Segment} {entry : ℕ} {image : List UInt8}
    (hplaced : Placed fs pagesize segments) (hlen : segments.length < 2 ^ 16)
    (hfits : ∀ seg ∈ segments, Fits seg.header.fields)
    (hheader : Holds image 0 (elfHeader entry segments.length))
    (hheaders : Holds image 52 (programHeaders segments))
    (hboard : ∀ name, boardname = some name → name.length ≤ 16 ∧ Holds image 4080 (packName name))
    (hdata : ∀ seg ∈ segments, ∃ data, fs seg.file = some data ∧ data.length = seg.size ∧
      Holds image seg.offset data) :
    Decodes fs boardname (segments.map Segment.toInput) image := by
  -- the fields of `Decodes` are read off the segments, whose headers are what a loader reads
  have hread := readProgramHeaders_eq hheader hlen hheaders hfits
  refine ⟨?_, ?_, ?_, ?_, fun name hname => ?_⟩
  · rw [(read_elfHeader hheader hlen).1, List.length_map]
  · rw [hread, List.forall₂_map_left_iff, List.forall₂_map_right_iff, List.forall₂_same]
    intro seg hmem
    obtain ⟨data, hfile, hsize, hholds⟩ := hdata seg hmem
    refine ⟨?_, rfl, rfl, rfl, rfl⟩
    rw [hfile]
    show some data = some (slice image seg.offset seg.size)
    rw [← hsize, hholds]
  · rw [hread, List.pairwise_map]
    exact hplaced.pairwise
  · rw [hread]
    intro h hmem
    obtain ⟨seg, hseg, rfl⟩ := List.mem_map.mp hmem
    exact hplaced.offset_le seg hseg
  · obtain ⟨hshort, hholds⟩ := hboard name hname
    -- a short name is padded, not cut
    unfold Holds at hholds
    rw [length_packName hshort] at hholds
    rw [hholds]
    unfold packName
    rw [List.take_of_length_le hshort]

/-- The name of the board is written past the headers. -/
theorem writeBoardname_holds {boardname : Option (List UInt8)} {elf : OutFile UInt8}
    (hboard : ∀ name, boardname = some name → name.length ≤ 16)
    (hlen : elf.contents.length ≤ 4080) :
    elf.contents <+: (writeBoardname boardname elf).contents ∧
      (writeBoardname boardname elf).contents.length ≤ 4096 ∧
      ∀ name, boardname = some name → Holds (writeBoardname boardname elf).contents 4080
        (packName name) := by
  cases boardname with
  | none => exact ⟨List.prefix_rfl, Nat.le_trans hlen (by omega), fun name h => absurd h (by simp)⟩
  | some name =>
    have hlenName : (packName name).length ≤ 16 :=
      Nat.le_of_eq (length_packName (hboard name rfl))
    refine ⟨prefix_writeAt hlen, Nat.le_trans (length_writeAt_le hlen) ?_, fun name' h => ?_⟩
    · exact Nat.add_le_add_left hlenName 4080
    · rw [← Option.some.inj h]
      exact holds_writeAt hlen

/-- **What is in the output file**: the headers, the name of the board and the files, each at its
place. -/
theorem writeImage_holds {fs : FileSystem} {boardname : Option (List UInt8)} {entry : String}
    {segments : List Segment} (hplaced : Placed fs pagesize segments)
    (hfit : 52 + 32 * segments.length ≤ 4080) (hentry : long16 entry < 2 ^ 32)
    (hfits : ∀ seg ∈ segments, Fits seg.header.fields)
    (hboard : ∀ name, boardname = some name → name.length ≤ 16) :
    ∃ elf, writeImage boardname fs entry segments = .ok elf ∧
      Holds elf.contents 0 (elfHeader (long16 entry) segments.length) ∧
      Holds elf.contents 52 (programHeaders segments) ∧
      (∀ name, boardname = some name → Holds elf.contents 4080 (packName name)) ∧
      ∀ seg ∈ segments, ∃ data, fs seg.file = some data ∧ data.length = seg.size ∧
        Holds elf.contents seg.offset data := by
  -- the headers are written from the start
  let header := elfHeader (long16 entry) segments.length
  let elf : OutFile UInt8 := ⟨header ++ programHeaders segments, 52 + 32 * segments.length⟩
  have hheaderLen : header.length = 52 := length_elfHeader _ _
  have hwriteHeader : writeElfHeader OutFile.empty entry segments.length = .ok ⟨header, 52⟩ := by
    unfold writeElfHeader
    rw [pack_eq (elfHeaderFields_fits hentry (by omega))]
    rfl
  have hwriteHeaders : segments.foldlM writeElfPhdr ⟨header, 52⟩ = .ok elf :=
    writeElfPhdrs_eq hfits hheaderLen.symm
  have hheader : Holds elf.contents 0 header :=
    Holds.mono (holds_append_right [] header) (List.prefix_append _ _)
  have hheaders : Holds elf.contents 52 (programHeaders segments) := by
    rw [← hheaderLen]
    exact holds_append_right _ _
  -- then the name of the board and the files, past what is there
  have hlen : elf.contents.length ≤ 4080 := by
    rw [List.length_append, hheaderLen, length_programHeaders]
    exact hfit
  obtain ⟨hkept, hlen', hname⟩ := writeBoardname_holds hboard hlen
  obtain ⟨elf', hwrite, hkept', hdata⟩ := writeSegments_holds hplaced hlen'
  refine ⟨elf', ?_, hheader.mono (hkept.trans hkept'), hheaders.mono (hkept.trans hkept'),
    fun name h => (hname name h).mono hkept', hdata⟩
  unfold writeImage
  rw [hwriteHeader]
  show (segments.foldlM writeElfPhdr ⟨header, 52⟩ >>= fun elf =>
    segments.foldlM (writeSegment fs) (writeBoardname boardname elf)) = _
  rw [hwriteHeaders]
  exact hwrite

/-- **The image decodes to its inputs.** For arguments that are accepted, files that are there and
are not the output, at most as many segments as the first page has room for, numbers of 32 bits and
a board name of at most 16 bytes, the script writes an image from which a loader reads back what it
was made of. -/
theorem main_decodes {fs : FileSystem} {boardname : Option (List UInt8)} {path : String}
    {args : List String} {inputs : List Input} {segments : List Segment}
    (hpath : path ≠ "") (hargs : args ≠ [])
    (hparse : parseInputs args = .ok inputs)
    (hplace : placeSegments fs pagesize inputs = .ok segments)
    (hother : ∀ input ∈ inputs, input.file ≠ path) (hfit : 52 + 32 * args.length ≤ 4080)
    (hrange : ∀ seg ∈ segments, long16 seg.addr < 2 ^ 32 ∧ seg.offset < 2 ^ 32 ∧ seg.size < 2 ^ 32)
    (hboard : ∀ name, boardname = some name → name.length ≤ 16) :
    ∃ image, main boardname (some path) args fs = .ok (Function.update fs path (some image)) ∧
      Decodes fs boardname inputs image ∧ readPhnum image = args.length := by
  -- the placed segments are the inputs in their order
  obtain ⟨hplaced, hinputs⟩ := placeSegments_placed hplace
  have hlenInputs := length_parseInputs hparse
  have hlen : segments.length = args.length := by rw [← hlenInputs, ← hinputs, List.length_map]
  -- no field is too large for its place
  have hfits : ∀ seg ∈ segments, Fits seg.header.fields := fun seg hmem =>
    Segment.header_fits (hrange seg hmem).1 (hrange seg hmem).2.1 (hrange seg hmem).2.2
  -- the files that are read are still there when the output is open
  have hsame : ∀ seg ∈ segments, Function.update fs path (some []) seg.file = fs seg.file := by
    intro seg hmem
    exact Function.update_of_ne (hother seg.toInput (hinputs ▸ List.mem_map_of_mem hmem)) _ _
  -- there is an input, so there is an entry point
  obtain ⟨first, rest, hsegments⟩ : ∃ first rest, segments = first :: rest := by
    cases segments with
    | nil => exact absurd (List.length_eq_zero_iff.mp hlen.symm) hargs
    | cons first rest => exact ⟨first, rest, rfl⟩
  have hentry : long16 first.addr < 2 ^ 32 := (hrange first (hsegments ▸ List.mem_cons_self)).1
  -- the image holds the header, the program headers and the files
  obtain ⟨elf, hwrite, hheader, hheaders, hname, hdata⟩ :=
    writeImage_holds (hplaced.congr hsame) (by omega) hentry hfits hboard
  -- what is read back are the inputs, in the map before the output was opened
  have hdecodes : Decodes fs boardname inputs elf.contents := by
    rw [← hinputs]
    refine decodes_of_holds hplaced (by omega) hfits hheader hheaders
      (fun name h => ⟨hboard name h, hname name h⟩) fun seg hmem => ?_
    rw [← hsame seg hmem]
    exact hdata seg hmem
  -- the other parts of the script only check the arguments
  refine ⟨elf.contents, ?_, hdecodes, hdecodes.phnum.trans hlenInputs⟩
  unfold main
  rw [hsegments] at hplace hwrite
  simp [hpath, hargs, hparse, hplace, hwrite, bind, Except.bind, pure, Except.pure]

/-- A ramdisk and an empty file with a command line. -/
theorem main_decodes_ramdisk :
    ∃ image, main (some [0x61]) (some "o") ["r@0x10,ramdisk", "c@cmdline"]
        (fun path => if path = "r" then some [1, 2, 3] else if path = "c" then some [] else none) =
        .ok (Function.update (fun path => if path = "r" then some [1, 2, 3] else if path = "c" then
          some [] else none)
          "o" (some image)) ∧
      Decodes (fun path => if path = "r" then some [1, 2, 3] else if path = "c" then some []
        else none) (some [0x61])
        [⟨"r", "0x10", some .ramdisk⟩, ⟨"c", "0", some .cmdline⟩] image ∧ readPhnum image = 2 :=
  @main_decodes _ _ _ _ _ [⟨⟨"r", "0x10", some .ramdisk⟩, 4096, 3⟩,
    ⟨⟨"c", "0", some .cmdline⟩, 4099, 0⟩]
    (by decide) (by decide) (by rfl) (by rfl) (by decide) (by decide) (by decide) (by simp)

end Boot

end BlueCommon
