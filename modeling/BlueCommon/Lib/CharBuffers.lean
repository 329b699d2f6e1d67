import Mathlib.Data.List.Basic
import Mathlib.Data.Nat.Notation

/-!
# Character arrays

Arrays of a fixed size that C functions write strings to. A string ends before the first terminator,
and an access outside the array is a fault, `none`.

* `put`, `write`: accesses from a position on. `write_append`, `write_eq_none`: what they do.
* `strlen`, `strcat`, `contents`: the string in an array.
* `cString_append_iff`: what is read of an array whose size is not looked at.
* `contents_of_write`: the string that has been written to an array of any contents.
* `filled`: an array that holds a string and is cleared behind it.
* `put_filled`, `strcat_filled`: a character or a string is added to the string, if there is room.
-/

namespace CharBuffers

variable {α : Type}

/-- `buffer[pos] = c`, which fails outside of the array. -/
def put (buffer : List α) (pos : ℕ) (c : α) : Option (List α) :=
  if pos < buffer.length then some (buffer.set pos c) else none

/-- Writes the characters from `pos` on, and fails as soon as one of them is past the end. -/
def write (buffer : List α) (pos : ℕ) : List α → Option (List α)
  | [] => some buffer
  | c :: cs => do
    let buffer ← put buffer pos c
    write buffer (pos + 1) cs

section Writes

variable {buffer s front old : List α} {pos : ℕ}

theorem put_append (front rest : List α) (old c : α) :
    put (front ++ old :: rest) front.length c = some (front ++ c :: rest) := by
  have hroom : front.length < (front ++ old :: rest).length := by
    rw [List.length_append, List.length_cons]
    omega
  rw [put, if_pos hroom, List.set_append_right _ _ (Nat.le_refl _), Nat.sub_self,
    List.set_cons_zero]

/-- As many characters as are written are replaced. -/
theorem write_append (hlength : old.length = s.length) (rest : List α) :
    write (front ++ (old ++ rest)) front.length s = some (front ++ (s ++ rest)) := by
  -- the characters written so far belong to the front
  induction s generalizing front old with
  | nil =>
    obtain rfl := List.length_eq_zero_iff.mp hlength
    rfl
  | cons c s ih =>
    match old, hlength with
    | d :: old, hlength =>
      have hstep := put_append front (old ++ rest) d c
      have hfront : front ++ c :: (old ++ rest) = (front ++ [c]) ++ (old ++ rest) := by
        rw [List.append_assoc]
        rfl
      have hpos : front.length + 1 = (front ++ [c]).length := by
        rw [List.length_append, List.length_singleton]
      rw [write, List.cons_append, hstep, Option.bind_eq_bind, Option.bind_some, hpos, hfront]
      rw [ih (Nat.succ.inj hlength), List.append_assoc]
      rfl

/-- A string that is too long is written past the end. -/
theorem write_eq_none (hne : s ≠ []) (hlength : buffer.length < pos + s.length) :
    write buffer pos s = none := by
  -- each character is put behind the one before it
  induction s generalizing buffer pos with
  | nil => exact absurd rfl hne
  | cons c s ih =>
    rw [List.length_cons] at hlength
    rw [write]
    by_cases hroom : pos < buffer.length
    case neg => rw [put, if_neg hroom]; rfl
    case pos =>
      rw [put, if_pos hroom]
      -- the first character fits, so it is not the only one
      refine ih (fun hnil => ?_) ?_
      · rw [hnil, List.length_nil] at hlength
        omega
      · rw [List.length_set]
        omega

/-- An array of `size` characters that holds the string. -/
def filled (nul : α) (size : ℕ) (s : List α) : List α := s ++ List.replicate (size - s.length) nul

variable {nul : α} {size : ℕ}

/-- The string and its terminator need as many characters as there are. -/
theorem write_eq_none_of_le (hlength : buffer.length ≤ s.length) :
    write buffer 0 (s ++ [nul]) = none := by
  refine write_eq_none (List.append_ne_nil_of_right_ne_nil _ (List.cons_ne_nil _ _)) ?_
  rw [List.length_append, List.length_singleton]
  omega

theorem length_filled (h : s.length ≤ size) : (filled nul size s).length = size := by
  rw [filled, List.length_append, List.length_replicate]
  omega

/-- Behind the string there is a terminator. -/
theorem filled_of_lt (h : s.length < size) :
    filled nul size s = s ++ nul :: List.replicate (size - (s.length + 1)) nul := by
  rw [filled, ← List.replicate_succ, show size - (s.length + 1) + 1 = size - s.length by omega]

/-- **A character is added.** -/
theorem put_filled (h : s.length ≤ size) (c : α) :
    put (filled nul size s) s.length c =
      if s.length < size then some (filled nul size (s ++ [c])) else none := by
  split
  case isTrue hroom =>
    rw [filled_of_lt hroom, put_append, filled, List.length_append, List.length_singleton,
      List.append_assoc]
    rfl
  case isFalse hfull => rw [put, length_filled h, if_neg hfull]

end Writes

/-! ### Strings -/

section Strings

variable [DecidableEq α] (nul : α)

/-- `strlen`: the position of the first terminator. -/
def strlen (buffer : List α) : Option ℕ := buffer.findIdx? fun c => c = nul

/-- `strcat`: the string is written where the one in the array ends. -/
def strcat (buffer : List α) (s : List α) : Option (List α) := do
  let pos ← strlen nul buffer
  write buffer pos (s ++ [nul])

/-- The string in the array: its characters before the first terminator, or all of them when there
is none. -/
def contents (buffer : List α) : List α := buffer.takeWhile fun c => c ≠ nul

variable {nul} {buffer s t : List α} {c : α} {size : ℕ}

theorem contents_append (h : nul ∉ s) (rest : List α) : contents nul (s ++ nul :: rest) = s := by
  have hall : ∀ c ∈ s, decide (c ≠ nul) = true :=
    fun c hc => decide_eq_true fun heq => h (heq ▸ hc)
  rw [contents, List.takeWhile_append_of_pos hall, List.takeWhile_cons_of_neg (by simp),
    List.append_nil]

/-- The string from the start of some memory on, as `strlen` finds it: `none` where there is no
terminator. -/
def cString (nul : α) (memory : List α) : Option (List α) := do
  let n ← strlen nul memory
  some (memory.take n)

/-- The string in a memory is what stands before its first terminator, and there is none without a
terminator. By induction on the memory: the terminator is the first character, or it is found in the
rest. -/
theorem cString_eq (memory : List α) :
    cString nul memory = if nul ∈ memory then some (contents nul memory) else none := by
  -- the terminator is the first character or behind it
  induction memory with
  | nil => rfl
  | cons c memory ih =>
    unfold cString strlen contents at ih ⊢
    rw [List.findIdx?_cons, List.takeWhile_cons]
    -- the first character is the terminator: the string is empty
    by_cases hc : c = nul
    · subst hc
      simp
    · have hne : nul ≠ c := Ne.symm hc
      rw [decide_eq_false hc, decide_eq_true hc]
      -- otherwise the search goes on behind it
      cases hfound : memory.findIdx? fun c => c = nul with
      | none =>
        -- there is no terminator in the rest, and none at all
        rw [hfound] at ih
        by_cases hmem : nul ∈ memory
        · rw [if_pos hmem] at ih
          cases ih
        · -- the terminator is in the rest, one place further on
          simp [hmem, hne]
      | some n =>
        rw [hfound] at ih
        by_cases hmem : nul ∈ memory
        · rw [if_pos hmem] at ih
          have htake : memory.take n = memory.takeWhile fun c => c ≠ nul := Option.some.inj ih
          simpa [hmem] using htake
        · rw [if_neg hmem] at ih
          cases ih

/-- **Read without a bound, an array gives the string in it just when it has a terminator or one
follows.** -/
theorem cString_append_iff {rest : List α} :
    cString nul (buffer ++ rest) = some (contents nul buffer) ↔
      nul ∈ buffer ∨ rest.head? = some nul := by
  -- the string read is what stands before the first terminator of all
  rw [cString_eq]
  by_cases hbuffer : nul ∈ buffer
  · -- the string ends in the array
    have hcontents : contents nul (buffer ++ rest) = contents nul buffer := by
      obtain ⟨front, back, rfl, hfront⟩ := List.eq_append_cons_of_mem hbuffer
      rw [List.append_assoc, List.cons_append, contents_append hfront, contents_append hfront]
    rw [if_pos (List.mem_append_left _ hbuffer), hcontents]
    exact iff_of_true rfl (.inl hbuffer)
  · -- the array has no terminator, so the reading goes on behind it
    have hall : ∀ c ∈ buffer, decide (c ≠ nul) = true :=
      fun c hc => decide_eq_true fun heq => hbuffer (heq ▸ hc)
    have hcontents : ∀ rest, contents nul (buffer ++ rest) = buffer ++ contents nul rest :=
      fun rest => List.takeWhile_append_of_pos hall
    have hwhole : contents nul buffer = buffer := by
      have hnil : contents nul (buffer ++ []) = buffer ++ [] := hcontents []
      rwa [List.append_nil] at hnil
    rw [or_iff_right hbuffer, hwhole, hcontents]
    -- the string is the array only if the next character ends it
    cases rest with
    | nil => simp [hbuffer]
    | cons c rest =>
      rw [List.head?_cons, Option.some_inj]
      by_cases hc : c = nul
      · subst hc
        simp [contents]
      · have hne : nul ≠ c := Ne.symm hc
        simp [contents, hc, hbuffer, hne]

/-- **A string that fits is the string in the array**, whatever was in it before. -/
theorem contents_of_write (h : nul ∉ s) (hlength : s.length < buffer.length) :
    ∃ buffer', write buffer 0 (s ++ [nul]) = some buffer' ∧ contents nul buffer' = s := by
  have hsplit : buffer = buffer.take (s.length + 1) ++ buffer.drop (s.length + 1) :=
    (List.take_append_drop _ _).symm
  have hold : (buffer.take (s.length + 1)).length = (s ++ [nul]).length := by
    rw [List.length_take, List.length_append, List.length_singleton]
    omega
  have hwrite : write buffer 0 (s ++ [nul]) = some (s ++ nul :: buffer.drop (s.length + 1)) := by
    have happend := @write_append _ _ [] _ hold (buffer.drop (s.length + 1))
    rwa [List.nil_append, ← hsplit, List.nil_append, List.append_assoc] at happend
  exact ⟨_, hwrite, contents_append h _⟩

theorem contents_filled (h : nul ∉ s) (hlength : s.length < size) :
    contents nul (filled nul size s) = s := by
  rw [filled_of_lt hlength, contents_append h]

theorem strlen_filled (h : nul ∉ s) (hlength : s.length < size) :
    strlen nul (filled nul size s) = some s.length := by
  have hnone : s.findIdx? (fun c => decide (c = nul)) = none := by
    rw [List.findIdx?_eq_none_iff]
    exact fun c hc => decide_eq_false fun heq => h (heq ▸ hc)
  rw [strlen, filled_of_lt hlength, List.findIdx?_append, hnone, List.findIdx?_cons]
  simp

/-- **A string is added.** In an array that is filled with terminators behind a string, the text and
its terminator overwrite as many of them. It goes wrong exactly if there is no room for the last
terminator. -/
theorem strcat_filled (h : nul ∉ s) (hlength : s.length ≤ size) (t : List α) :
    strcat nul (filled nul size s) t =
      if s.length + t.length < size then some (filled nul size (s ++ t)) else none := by
  split
  case isTrue hroom =>
    -- the new text and its terminator overwrite the same number of terminators
    have hsplit : filled nul size s = s ++ (List.replicate (t.length + 1) nul ++
        List.replicate (size - (s.length + t.length + 1)) nul) := by
      rw [filled, List.replicate_append_replicate]
      congr 2
      omega
    have hold : (List.replicate (t.length + 1) nul).length = (t ++ [nul]).length := by
      rw [List.length_replicate, List.length_append, List.length_singleton]
    rw [strcat, strlen_filled h (by omega), Option.bind_eq_bind, Option.bind_some, hsplit,
      write_append hold, filled_of_lt (by rw [List.length_append]; exact hroom), List.length_append,
      List.append_assoc, List.append_assoc]
    rfl
  -- no room: the text does not fit behind the string, or there is no string
  case isFalse hfull =>
    -- the string has a terminator, and the text would be written past the end
    by_cases hterm : s.length < size
    · rw [strcat, strlen_filled h hterm, Option.bind_eq_bind, Option.bind_some]
      refine write_eq_none (List.append_ne_nil_of_right_ne_nil _ (List.cons_ne_nil _ _)) ?_
      rw [length_filled hlength, List.length_append, List.length_singleton]
      omega
    · -- the array has no terminator
      have hnone : strlen nul (filled nul size s) = none := by
        rw [strlen, filled, Nat.sub_eq_zero_of_le (Nat.not_lt.mp hterm), List.replicate_zero,
          List.append_nil, List.findIdx?_eq_none_iff]
        exact fun c hc => decide_eq_false fun heq => h (heq ▸ hc)
      rw [strcat, hnone]
      rfl

end Strings

end CharBuffers
