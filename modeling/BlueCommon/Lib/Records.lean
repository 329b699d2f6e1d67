import Mathlib.Data.List.Forall2

/-!
# Arrays of records in memory

A C array of structures is a run of cells in which each structure takes the same number of them. A
reader that knows the format reads element `i` from offset `i * size`; a reader that assumes another
format reads other elements.

* `RecordFormat`: how a record is laid out, and that it can be read back.
* `prod`, `via`, `field`: the layout of a structure, from those of its fields.
* `decodeArray`: a loop that reads and converts the elements one by one.
* `decodeArray_writeArray`: with the format of the writer, the loop converts the records written.
* `readAt_of_lt`: a loop over as many elements as fit stays inside the buffer.
* `length_of_decodeArray`: with any format, the loop makes as many results as it makes rounds.
-/

/-- The layout of the records `α` in cells. -/
structure RecordFormat (Cell α : Type) where
  size : ℕ
  size_pos : 0 < size
  write : α → List Cell
  read : List Cell → Option α
  length_write : ∀ a, (write a).length = size
  read_write : ∀ a rest, read (write a ++ rest) = some a
  read_of_le : ∀ cells, size ≤ cells.length → ∃ a, read cells = some a

namespace RecordFormat

variable {Cell α β : Type} (f : RecordFormat Cell α)

/-- The array of the records, one after the other and without a gap, as a C array has them. -/
def writeArray (records : List α) : List Cell := records.flatMap f.write

/-- Element `i` of the array at the start of the buffer. -/
def readAt (buffer : List Cell) (i : ℕ) : Option α := f.read (buffer.drop (i * f.size))

/-- The loop that converts the elements `0, …, num - 1`. -/
def decodeArray (convert : α → Option β) (buffer : List Cell) (num : ℕ) : Option (List β) :=
  (List.range num).mapM fun i => do
    let record ← f.readAt buffer i
    convert record

/-- After the first record the array of the others begins. -/
theorem readAt_cons_succ (r : α) (rs : List α) (i : ℕ) :
    f.readAt (f.writeArray (r :: rs)) (i + 1) = f.readAt (f.writeArray rs) i := by
  show f.read ((f.write r ++ f.writeArray rs).drop _) = _
  rw [Nat.succ_mul, Nat.add_comm, ← List.drop_drop, List.drop_left' (f.length_write r)]
  rfl

theorem readAt_cons_zero (r : α) (rs : List α) :
    f.readAt (f.writeArray (r :: rs)) 0 = some r := by
  show f.read ((f.write r ++ f.writeArray rs).drop _) = _
  rw [Nat.zero_mul, List.drop_zero, f.read_write]

/-- The elements of an array that fills the buffer are read inside the buffer. -/
theorem readAt_of_lt {buffer : List Cell} {num i : ℕ} (hlen : buffer.length = num * f.size)
    (hi : i < num) : ∃ a, f.readAt buffer i = some a := by
  apply f.read_of_le
  rw [List.length_drop, hlen]
  calc f.size = (i + 1) * f.size - i * f.size := by
        rw [Nat.succ_mul, Nat.add_sub_cancel_left]
    _ ≤ num * f.size - i * f.size := Nat.sub_le_sub_right (Nat.mul_le_mul_right f.size hi) _

/-- Before element `i` there are the records `0, …, i - 1`. -/
theorem drop_writeArray (records : List α) (i : ℕ) :
    (f.writeArray records).drop (i * f.size) = f.writeArray (records.drop i) := by
  induction records generalizing i with
  | nil =>
    rw [List.drop_nil]
    exact List.drop_nil
  | cons r rs ih =>
    cases i with
    | zero => rw [Nat.zero_mul, List.drop_zero, List.drop_zero]
    | succ i =>
      calc (f.writeArray (r :: rs)).drop ((i + 1) * f.size)
          = ((f.write r ++ f.writeArray rs).drop f.size).drop (i * f.size) := by
            rw [List.drop_drop, Nat.succ_mul, Nat.add_comm]
            rfl
        _ = (f.writeArray rs).drop (i * f.size) := by rw [List.drop_left' (f.length_write r)]
        _ = f.writeArray ((r :: rs).drop (i + 1)) := ih i

theorem length_writeArray (records : List α) :
    (f.writeArray records).length = records.length * f.size := by
  induction records with
  | nil => exact (Nat.zero_mul _).symm
  | cons r rs ih =>
    calc (f.writeArray (r :: rs)).length = (f.write r).length + (f.writeArray rs).length :=
          List.length_append
      _ = (r :: rs).length * f.size := by
          rw [f.length_write, ih, List.length_cons, Nat.succ_mul, Nat.add_comm]

/-- The memory from element `i` of an array on, which is followed by other memory. -/
theorem drop_writeArray_append {records : List α} {i : ℕ} (hi : i < records.length)
    (beyond : List Cell) :
    (f.writeArray records ++ beyond).drop (i * f.size) =
      f.write records[i] ++ (f.writeArray (records.drop (i + 1)) ++ beyond) := by
  have hle : i * f.size ≤ (f.writeArray records).length := by
    rw [f.length_writeArray]
    exact Nat.mul_le_mul_right _ (Nat.le_of_lt hi)
  rw [List.drop_append_of_le_length hle, f.drop_writeArray, List.drop_eq_getElem_cons hi,
    ← List.append_assoc]
  rfl

theorem readAt_writeArray_append {records : List α} {i : ℕ} (hi : i < records.length)
    (beyond : List Cell) : f.readAt (f.writeArray records ++ beyond) i = some records[i] := by
  rw [readAt, f.drop_writeArray_append hi, f.read_write]

/-- **Round trip.** With the format of the writer the loop converts the records that were
written. -/
theorem decodeArray_writeArray (convert : α → Option β) (records : List α) :
    f.decodeArray convert (f.writeArray records) records.length = records.mapM convert := by
  induction records with
  | nil => rfl
  | cons r rs ih =>
    unfold decodeArray at ih ⊢
    rw [List.length_cons, List.range_succ_eq_map, List.mapM_cons, List.mapM_cons, List.mapM_map]
    rw [f.readAt_cons_zero]
    -- the other rounds read the rest of the array
    rw [← ih]
    congr 1
    funext b
    congr 1
    congr 1
    funext i
    show (f.readAt (f.writeArray (r :: rs)) (i + 1) >>= convert) = _
    rw [f.readAt_cons_succ]

/-- The results of a loop that does not fail correspond one by one to the elements. -/
theorem mapM_eq_some_iff {γ : Type} {g : γ → Option β} {xs : List γ} {ys : List β} :
    xs.mapM g = some ys ↔ List.Forall₂ (fun x y => g x = some y) xs ys := by
  induction xs generalizing ys with
  | nil =>
    rw [List.mapM_nil, List.forall₂_nil_left_iff]
    exact Option.some_inj.trans eq_comm
  | cons x xs ih =>
    -- each element is converted on its own
    rw [List.mapM_cons, List.forall₂_cons_left_iff]
    constructor
    · intro h
      obtain ⟨y, hy, h⟩ := Option.bind_eq_some_iff.mp h
      obtain ⟨ys', hys, h⟩ := Option.bind_eq_some_iff.mp h
      exact ⟨y, ys', hy, ih.mp hys, (Option.some.inj h).symm⟩
    · rintro ⟨y, ys', hy, hys, rfl⟩
      rw [hy, ih.mpr hys]
      rfl

/-- Each result of a loop is that of an element. -/
theorem exists_of_mem_mapM {γ : Type} {g : γ → Option β} {xs : List γ} {ys : List β}
    (h : xs.mapM g = some ys) {y : β} (hy : y ∈ ys) : ∃ x ∈ xs, g x = some y := by
  have hall := mapM_eq_some_iff.mp h
  clear h
  induction hall with
  | nil => exact absurd hy List.not_mem_nil
  | cons hhead _ ih =>
    obtain rfl | hrest := List.mem_cons.mp hy
    · exact ⟨_, List.mem_cons_self, hhead⟩
    · obtain ⟨x, hx, heq⟩ := ih hrest
      exact ⟨x, List.mem_cons_of_mem _ hx, heq⟩

/-- A loop fails only if one of its rounds does. -/
theorem mapM_isSome {γ : Type} {g : γ → Option β} {xs : List γ}
    (h : ∀ x ∈ xs, ∃ y, g x = some y) : ∃ ys, xs.mapM g = some ys := by
  induction xs with
  | nil => exact ⟨[], rfl⟩
  | cons x xs ih =>
    obtain ⟨y, hy⟩ := h x List.mem_cons_self
    obtain ⟨ys, hys⟩ := ih fun z hz => h z (List.mem_cons_of_mem x hz)
    rw [List.mapM_cons, hy, hys]
    exact ⟨y :: ys, rfl⟩

theorem length_of_decodeArray {convert : α → Option β} {buffer : List Cell} {num : ℕ}
    {results : List β} (h : f.decodeArray convert buffer num = some results) :
    results.length = num := by
  rw [← (mapM_eq_some_iff.mp h).length_eq, List.length_range]

/-- Each result of the loop is that of a record. -/
theorem exists_of_mem_decodeArray {convert : α → Option β} {buffer : List Cell} {num : ℕ}
    {results : List β} (h : f.decodeArray convert buffer num = some results) {b : β}
    (hb : b ∈ results) : ∃ a, convert a = some b := by
  obtain ⟨i, -, hi⟩ := exists_of_mem_mapM h hb
  obtain ⟨a, -, ha⟩ := Option.bind_eq_some_iff.mp hi
  exact ⟨a, ha⟩

/-- A loop over as many elements as fit fails only if a conversion does. -/
theorem decodeArray_isSome {convert : α → Option β} {buffer : List Cell} {num : ℕ}
    (hlen : buffer.length = num * f.size) (hconvert : ∀ a, ∃ b, convert a = some b) :
    ∃ results, f.decodeArray convert buffer num = some results := by
  have hround : ∀ i ∈ List.range num, ∃ b, (f.readAt buffer i >>= convert) = some b := by
    intro i hi
    obtain ⟨a, ha⟩ := f.readAt_of_lt hlen (List.mem_range.mp hi)
    obtain ⟨b, hb⟩ := hconvert a
    exact ⟨b, by rw [ha]; exact hb⟩
  exact mapM_isSome hround

/-! ### Records of fields -/

variable {Cell α β γ : Type}

/-- Two fields, one behind the other. -/
def prod (f : RecordFormat Cell α) (g : RecordFormat Cell β) : RecordFormat Cell (α × β) where
  size := f.size + g.size
  size_pos := Nat.add_pos_left f.size_pos g.size
  write p := f.write p.1 ++ g.write p.2
  read cells := do
    let a ← f.read cells
    let b ← g.read (cells.drop f.size)
    some (a, b)
  length_write p := by rw [List.length_append, f.length_write, g.length_write]
  read_write p rest := by
    rw [List.append_assoc, f.read_write, List.drop_left' (f.length_write p.1), g.read_write]
    rfl
  read_of_le cells h := by
    obtain ⟨a, ha⟩ := f.read_of_le cells (Nat.le_trans (Nat.le_add_right _ _) h)
    obtain ⟨b, hb⟩ := g.read_of_le (cells.drop f.size) (by
      rw [List.length_drop]
      exact Nat.le_sub_of_add_le' h)
    rw [ha, hb]
    exact ⟨(a, b), rfl⟩

/-- The fields of a structure. -/
def via (f : RecordFormat Cell α) (make : α → β) (fields : β → α)
    (h : ∀ b, make (fields b) = b) : RecordFormat Cell β where
  size := f.size
  size_pos := f.size_pos
  write b := f.write (fields b)
  read cells := (f.read cells).map make
  length_write b := f.length_write (fields b)
  read_write b rest := by
    rw [f.read_write, Option.map_some, h]
  read_of_le cells hle := by
    obtain ⟨a, ha⟩ := f.read_of_le cells hle
    exact ⟨make a, by rw [ha, Option.map_some]⟩

/-- A field that is read from its own cells. -/
def field (size : ℕ) (size_pos : 0 < size) (write : α → List Cell) (read : List Cell → α)
    (length_write : ∀ a, (write a).length = size) (read_write : ∀ a, read (write a) = a) :
    RecordFormat Cell α where
  size
  size_pos
  write
  read cells := if size ≤ cells.length then some (read (cells.take size)) else none
  length_write
  read_write a rest := by
    have hle : size ≤ (write a ++ rest).length := by
      rw [List.length_append, length_write]
      exact Nat.le_add_right _ _
    rw [if_pos hle, List.take_left' (length_write a), read_write]
  read_of_le cells h := ⟨_, if_pos h⟩

end RecordFormat
