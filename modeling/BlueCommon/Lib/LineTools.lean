import Mathlib.Data.List.DropRight
import Mathlib.Data.List.Infix
import Mathlib.Data.Nat.Notation

/-!
# Tools on lines

The commands with which a shell script takes a field out of the lines of a listing, over an
arbitrary type of characters.

* `grep`, `squeeze`, `cutField`, `capture`: `grep`, `tr -s`, `cut` and `$(…)`.
* `infix_append_iff`: where a pattern can be found.
* `row`, `fields`: words with one or more separators before each. `squeeze_row`: a run becomes one.
* `cutField_fields`: a field is a word.
* `capture_singleton`, `mem_capture`: one line is captured as it is, from more there is a newline.
-/

namespace LineTools

variable {α : Type}

/-- `grep`: the lines that contain the pattern. -/
def grep [DecidableEq α] (pattern : List α) (lines : List (List α)) : List (List α) :=
  lines.filter fun line => pattern <:+: line

/-- `tr -s`: a run of separators becomes one. -/
def squeeze [DecidableEq α] (sep : α) : List α → List α
  | [] => []
  | c :: rest => if c = sep ∧ rest.head? = some sep then squeeze sep rest else c :: squeeze sep rest

/-- `cut -d sep -f field`. A line without a separator stays as it is. -/
def cutField [DecidableEq α] (sep : α) (field : ℕ) (line : List α) : List α :=
  if sep ∈ line then (line.splitOn sep).getD (field - 1) [] else line

/-- `$(…)`: the lines without the empty ones at the end. -/
def capture (newline : α) (lines : List (List α)) : List α :=
  [newline].intercalate (lines.rdropWhile fun line => line = [])

variable {sep newline : α} {c : α} {word rest front pattern : List α}

/-! ### Patterns -/

/-- A pattern is not found where its first character is missing. -/
theorem infix_append_iff (h : c ∉ front) :
    c :: pattern <:+: front ++ rest ↔ c :: pattern <:+: rest := by
  induction front with
  | nil => rfl
  | cons d front ih =>
    obtain ⟨hd, hfront⟩ := not_or.mp (mt List.mem_cons.mpr h)
    have hstart : ¬ c :: pattern <+: d :: (front ++ rest) :=
      fun hprefix => hd (List.cons_prefix_cons.mp hprefix).1
    rw [List.cons_append, List.infix_cons_iff, or_iff_right hstart, ih hfront]

theorem not_infix_of_notMem (h : c ∉ front) : ¬ c :: pattern <:+: front :=
  fun hfound => h (hfound.subset List.mem_cons_self)

theorem grep_cons_of_notMem [DecidableEq α] (h : c ∉ front) (lines : List (List α)) :
    grep (c :: pattern) (front :: lines) = grep (c :: pattern) lines :=
  List.filter_cons_of_neg (mt of_decide_eq_true (not_infix_of_notMem h))

/-! ### Separators -/

/-- Words with one or more separators before each. -/
def row (sep : α) (cells : List (ℕ × List α)) : List α :=
  cells.flatMap fun cell => List.replicate (cell.1 + 1) sep ++ cell.2

/-- Words with one separator before each. -/
def fields (sep : α) (words : List (List α)) : List α := words.flatMap fun word => sep :: word

theorem fields_eq_intercalate (words : List (List α)) :
    fields sep words = [sep].intercalate ([] :: words) := by
  -- each word brings the separator before it
  induction words with
  | nil => rfl
  | cons word words ih =>
    rw [List.intercalate_cons_cons]
    show sep :: word ++ fields sep words = _
    rw [ih]
    cases words with
    | nil => rw [List.intercalate_singleton, List.intercalate_singleton, List.append_nil]; rfl
    | cons word' words =>
      rw [List.intercalate_cons_cons, List.intercalate_cons_cons, List.append_assoc word]
      rfl

section Separators

variable [DecidableEq α]

theorem squeeze_word (h : sep ∉ word) : squeeze sep (word ++ rest) = word ++ squeeze sep rest := by
  induction word with
  | nil => rfl
  | cons c word ih =>
    obtain ⟨hc, hword⟩ := not_or.mp (mt List.mem_cons.mpr h)
    rw [List.cons_append, squeeze, if_neg fun hrun => hc hrun.1.symm, ih hword]
    rfl

theorem squeeze_run (h : rest.head? ≠ some sep) (k : ℕ) :
    squeeze sep (List.replicate (k + 1) sep ++ rest) = sep :: squeeze sep rest := by
  induction k with
  | zero => exact if_neg fun hrun => h hrun.2
  | succ k ih =>
    -- another separator follows the first one
    rw [List.replicate_succ, List.cons_append, squeeze, if_pos ⟨rfl, rfl⟩, ih]

theorem squeeze_row {cells : List (ℕ × List α)} (hne : ∀ cell ∈ cells, cell.2 ≠ [])
    (hsep : ∀ cell ∈ cells, sep ∉ cell.2) :
    squeeze sep (row sep cells) = fields sep (cells.map Prod.snd) := by
  induction cells with
  | nil => rfl
  | cons cell cells ih =>
    obtain ⟨hne₀, hne⟩ := List.forall_mem_cons.mp hne
    obtain ⟨hsep₀, hsep⟩ := List.forall_mem_cons.mp hsep
    -- the word ends the run of separators
    have hhead : (cell.2 ++ row sep cells).head? ≠ some sep := by
      cases hword : cell.2 with
      | nil => exact absurd hword hne₀
      | cons c word =>
        rw [hword] at hsep₀
        exact fun heq => hsep₀ (Option.some.inj heq ▸ List.mem_cons_self)
    show squeeze sep ((List.replicate (cell.1 + 1) sep ++ cell.2) ++ row sep cells) = _
    rw [List.append_assoc, squeeze_run hhead, squeeze_word hsep₀, ih hne hsep]
    rfl

/-- Before the first separator there is a field, too: it is empty. -/
theorem cutField_fields {words : List (List α)} (hne : words ≠ [])
    (hsep : ∀ word ∈ words, sep ∉ word) (i : ℕ) :
    cutField sep (i + 2) (fields sep words) = words.getD i [] := by
  have hmem : sep ∈ fields sep words := by
    cases words with
    | nil => exact absurd rfl hne
    | cons word words => exact List.mem_cons_self
  -- the line begins with a separator, so its first field is empty
  have hsplit : (fields sep words).splitOn sep = [] :: words := by
    rw [fields_eq_intercalate]
    refine List.splitOn_intercalate sep (fun word hword => ?_) (List.cons_ne_nil _ _)
    rcases List.mem_cons.mp hword with rfl | hword
    · exact List.not_mem_nil
    · exact hsep word hword
  rw [cutField, if_pos hmem, hsplit]
  rfl

end Separators

/-! ### Captured lines -/

theorem capture_of_ne_nil {lines : List (List α)} (h : ∀ line ∈ lines, line ≠ []) :
    capture newline lines = [newline].intercalate lines := by
  unfold capture
  rw [List.rdropWhile_eq_self_iff.mpr]
  exact fun hl hlast => h _ (List.getLast_mem hl) (of_decide_eq_true hlast)

theorem capture_singleton (h : word ≠ []) : capture newline [word] = word := by
  rw [capture_of_ne_nil fun line hline => List.mem_singleton.mp hline ▸ h]
  exact List.intercalate_singleton

/-- Between two lines there is a newline. -/
theorem mem_capture {lines : List (List α)} (h : ∀ line ∈ lines, line ≠ [])
    (hlength : 2 ≤ lines.length) : newline ∈ capture newline lines := by
  rw [capture_of_ne_nil h]
  match lines, hlength with
  | line :: line' :: lines, _ =>
    rw [List.intercalate_cons_cons]
    exact List.mem_append_left _ (List.mem_append_right _ List.mem_cons_self)

end LineTools
