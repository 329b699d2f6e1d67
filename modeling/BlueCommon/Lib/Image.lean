import Mathlib.Algebra.Ring.Nat
import Mathlib.Data.List.Basic
import Mathlib.Data.Nat.Notation

/-!
# Files written at positions

A file with a position, as a program writes it: writing replaces what is at the position, and fills
the gap when the position is past the end.

* `OutFile.write`, `OutFile.seek`: the operations.
* `Holds`: the file holds these contents at this position.
* `prefix_writeAt`, `holds_writeAt`: writing at or past the end keeps what was there.
* `littleEndian`, `ofLittleEndian`: numbers as bytes, the lowest first.
-/

namespace Image

section Contents

variable {α : Type} (fill : α)

/-- The contents after `data` is written at `pos`. Nothing is filled for empty data. -/
def writeAt (contents : List α) (pos : ℕ) (data : List α) : List α :=
  if data.isEmpty then contents
  else contents.take pos ++ List.replicate (pos - contents.length) fill ++ data ++
    contents.drop (pos + data.length)

/-- The `n` elements from `pos` on, or those that are there. -/
def slice (contents : List α) (pos n : ℕ) : List α := (contents.drop pos).take n

/-- The contents have `data` at `pos`. -/
def Holds (contents : List α) (pos : ℕ) (data : List α) : Prop :=
  slice contents pos data.length = data

/-- A file that is written. -/
structure OutFile (α : Type) where
  contents : List α
  pos : ℕ

/-- A file that was opened for writing. -/
def OutFile.empty : OutFile α := ⟨[], 0⟩

def OutFile.seek (f : OutFile α) (pos : ℕ) : OutFile α := { f with pos := pos }

def OutFile.write (f : OutFile α) (data : List α) : OutFile α :=
  ⟨writeAt fill f.contents f.pos data, f.pos + data.length⟩

variable {fill} {contents contents' data : List α} {pos : ℕ}

theorem writeAt_of_le (h : contents.length ≤ pos) (hne : data ≠ []) :
    writeAt fill contents pos data = contents ++ List.replicate (pos - contents.length) fill ++
      data := by
  unfold writeAt
  rw [if_neg (by simpa using hne), List.take_of_length_le h, List.drop_of_length_le (by omega),
    List.append_nil]

theorem writeAt_end (h : pos = contents.length) :
    writeAt fill contents pos data = contents ++ data := by
  subst h
  by_cases hne : data = []
  · subst hne
    rw [List.append_nil]
    rfl
  · rw [writeAt_of_le (Nat.le_refl _) hne, Nat.sub_self, List.replicate_zero, List.append_nil]

/-- A write keeps what is before its position. -/
theorem prefix_writeAt_trans {front : List α} (h : front <+: contents)
    (hpos : front.length ≤ pos) : front <+: writeAt fill contents pos data := by
  unfold writeAt
  split
  · exact h
  · have hfront : front <+: contents.take pos := List.prefix_take_iff.mpr ⟨h, hpos⟩
    rw [List.append_assoc, List.append_assoc]
    exact hfront.trans (List.prefix_append _ _)

/-- A write past the end keeps what was there. -/
theorem prefix_writeAt (h : contents.length ≤ pos) :
    contents <+: writeAt fill contents pos data :=
  prefix_writeAt_trans List.prefix_rfl h

theorem length_writeAt_le (h : contents.length ≤ pos) :
    (writeAt fill contents pos data).length ≤ pos + data.length := by
  by_cases hne : data = []
  · subst hne
    exact Nat.le_add_right_of_le h
  · rw [writeAt_of_le h hne, List.length_append, List.length_append, List.length_replicate]
    omega

theorem holds_nil (contents : List α) (pos : ℕ) : Holds contents pos [] := List.take_zero

theorem holds_append_right (contents data : List α) :
    Holds (contents ++ data) contents.length data := by
  unfold Holds slice
  rw [List.drop_left, List.take_length]

/-- What was written is there. -/
theorem holds_writeAt (h : contents.length ≤ pos) :
    Holds (writeAt fill contents pos data) pos data := by
  by_cases hne : data = []
  · subst hne
    exact holds_nil _ _
  · rw [writeAt_of_le h hne]
    have hlen : (contents ++ List.replicate (pos - contents.length) fill).length = pos := by
      rw [List.length_append, List.length_replicate]
      omega
    have hholds := holds_append_right (contents ++ List.replicate (pos - contents.length) fill) data
    rwa [hlen] at hholds

theorem Holds.length_le (h : Holds contents pos data) (hne : data ≠ []) :
    pos + data.length ≤ contents.length := by
  have hlen := congrArg List.length h
  have hpos := List.length_pos_of_ne_nil hne
  unfold slice at hlen
  rw [List.length_take, List.length_drop] at hlen
  omega

/-- What is there stays there when the contents grow. -/
theorem Holds.mono (h : Holds contents pos data) (hpre : contents <+: contents') :
    Holds contents' pos data := by
  by_cases hne : data = []
  · subst hne
    exact holds_nil _ _
  · have hle := h.length_le hne
    obtain ⟨rest, rfl⟩ := hpre
    unfold Holds slice at h ⊢
    rw [List.drop_append_of_le_length (by omega), List.take_append_of_le_length]
    · exact h
    · rw [List.length_drop]
      omega

theorem holds_append {a b : List α} :
    Holds contents pos (a ++ b) ↔ Holds contents pos a ∧ Holds contents (pos + a.length) b := by
  unfold Holds slice
  rw [List.length_append, List.take_add, List.drop_drop]
  constructor
  · intro h
    -- the first part is as long as `a`, as both together are as long as `a ++ b`
    have hlen := congrArg List.length h
    rw [List.length_append, List.length_append, List.length_take, List.length_take] at hlen
    have ha : ((contents.drop pos).take a.length).length = a.length := by
      rw [List.length_take]
      omega
    exact List.append_inj h ha
  · rintro ⟨ha, hb⟩
    rw [ha, hb]

end Contents

section Numbers

/-- The `width` lowest bytes of a number, the lowest first. -/
def littleEndian : ℕ → ℕ → List UInt8
  | 0, _ => []
  | width + 1, n => UInt8.ofNat n :: littleEndian width (n / 256)

/-- The number that the bytes stand for. -/
def ofLittleEndian : List UInt8 → ℕ
  | [] => 0
  | b :: bytes => b.toNat + 256 * ofLittleEndian bytes

@[simp] theorem length_littleEndian (width n : ℕ) : (littleEndian width n).length = width := by
  induction width generalizing n with
  | zero => rfl
  | succ width ih => rw [littleEndian, List.length_cons, ih]

/-- A number that fits is read back. -/
theorem ofLittleEndian_littleEndian {width n : ℕ} (h : n < 256 ^ width) :
    ofLittleEndian (littleEndian width n) = n := by
  induction width generalizing n with
  | zero =>
    rw [Nat.pow_zero, Nat.lt_one_iff] at h
    rw [h]
    rfl
  | succ width ih =>
    rw [Nat.pow_succ, Nat.mul_comm] at h
    rw [littleEndian, ofLittleEndian, ih (Nat.div_lt_of_lt_mul h), UInt8.toNat_ofNat']
    exact Nat.mod_add_div n 256

/-- The number of `width` bytes at a position. -/
def numberAt (contents : List UInt8) (width pos : ℕ) : ℕ :=
  ofLittleEndian (slice contents pos width)

/-- A number that was written is read back. -/
theorem Holds.numberAt {contents : List UInt8} {width pos n : ℕ}
    (h : Holds contents pos (littleEndian width n)) (hn : n < 256 ^ width) :
    numberAt contents width pos = n := by
  unfold Holds at h
  rw [length_littleEndian] at h
  unfold Image.numberAt
  rw [h, ofLittleEndian_littleEndian hn]

end Numbers

end Image
