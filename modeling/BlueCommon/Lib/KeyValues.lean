import Mathlib.Data.List.Basic
import Mathlib.Order.Lattice

/-!
# Key-value text and sorted maps

A map written as text: `key=value` pairs with a separator between them. The two separators are any
two elements of the alphabet.

* `flatten` and `unflatten`: the text of a list of pairs, and the pairs of a text.
* `unflatten_flatten`: reading what was written, when no key has an `=` and no value a separator in
  it.
* `insert`: the entry of a key is added or replaced, in the order of the keys.
* `lookup_insert_self`, `lookup_insert_of_ne`, `lookup_foldl_insert`: what is found afterwards.
-/

namespace KeyValues

section Text

variable {α : Type} [DecidableEq α] (eq sep : α)

/-- The text of the pairs: key, `=`, value, with a separator between two pairs and none behind the
last. -/
def flatten : List (List α × List α) → List α
  | [] => []
  | [(key, value)] => key ++ eq :: value
  | (key, value) :: rest => key ++ eq :: (value ++ sep :: flatten rest)

/-- Reads pairs. `acc` is what was read of the key, or of the value when the key is complete, in
reverse. -/
def unflattenFrom : List α → List α → Option (List α) → List (List α × List α)
  | [], _, none => []
  | [], acc, some key => [(key, acc.reverse)]
  | x :: text, acc, none =>
    if x = eq then unflattenFrom text [] (some acc.reverse) else unflattenFrom text (x :: acc) none
  | x :: text, acc, some key =>
    if x = sep then (key, acc.reverse) :: unflattenFrom text [] none
    else unflattenFrom text (x :: acc) (some key)

/-- The pairs of a text: a key up to the next `=`, and its value up to the next separator. What
follows the last pair without an `=` is dropped. -/
def unflatten (text : List α) : List (List α × List α) := unflattenFrom eq sep text [] none

variable {eq sep}

/-- A key is read up to the first `=`. -/
theorem unflattenFrom_key {key : List α} (hkey : eq ∉ key) (acc text : List α) :
    unflattenFrom eq sep (key ++ eq :: text) acc none =
      unflattenFrom eq sep text [] (some (acc.reverse ++ key)) := by
  induction key generalizing acc with
  | nil =>
    rw [List.nil_append, unflattenFrom, if_pos rfl, List.append_nil]
  | cons x key ih =>
    have hx : x ≠ eq := fun h => hkey (h ▸ List.mem_cons_self)
    have htail : eq ∉ key := fun h => hkey (List.mem_cons_of_mem x h)
    rw [List.cons_append, unflattenFrom, if_neg hx, ih htail, List.reverse_cons, List.append_assoc]
    rfl

/-- A value is read up to the next separator. -/
theorem unflattenFrom_value {value : List α} (hvalue : sep ∉ value) (acc text key : List α) :
    unflattenFrom eq sep (value ++ sep :: text) acc (some key) =
      (key, acc.reverse ++ value) :: unflattenFrom eq sep text [] none := by
  induction value generalizing acc with
  | nil =>
    rw [List.nil_append, unflattenFrom, if_pos rfl, List.append_nil]
  | cons x value ih =>
    have hx : x ≠ sep := fun h => hvalue (h ▸ List.mem_cons_self)
    have htail : sep ∉ value := fun h => hvalue (List.mem_cons_of_mem x h)
    rw [List.cons_append, unflattenFrom, if_neg hx, ih htail, List.reverse_cons, List.append_assoc]
    rfl

/-- The last value is read up to the end. -/
theorem unflattenFrom_last {value : List α} (hvalue : sep ∉ value) (acc key : List α) :
    unflattenFrom eq sep value acc (some key) = [(key, acc.reverse ++ value)] := by
  induction value generalizing acc with
  | nil => rw [unflattenFrom, List.append_nil]
  | cons x value ih =>
    have hx : x ≠ sep := fun h => hvalue (h ▸ List.mem_cons_self)
    have htail : sep ∉ value := fun h => hvalue (List.mem_cons_of_mem x h)
    rw [unflattenFrom, if_neg hx, ih htail, List.reverse_cons, List.append_assoc]
    rfl

/-- What is read has no separator in the wrong place. The induction is on the text, for any
characters that were read before: while a key is read there is no equal sign in it, and while a
value is read there is no separator in that. -/
theorem mem_unflattenFrom {text acc : List α} {key? : Option (List α)} {pair : List α × List α}
    (h : pair ∈ unflattenFrom eq sep text acc key?) (hkey : ∀ key, key? = some key → eq ∉ key)
    (hacc : (if key?.isSome then sep else eq) ∉ acc) : eq ∉ pair.1 ∧ sep ∉ pair.2 := by
  -- induction on the text; between two pairs there is no key, and the characters read are no `=`
  induction text generalizing acc key? with
  | nil =>
    cases key? with
    | none => exact absurd h List.not_mem_nil
    | some key =>
      -- the text ends, and the characters read are the last value
      obtain rfl := List.mem_singleton.mp h
      exact ⟨hkey key rfl, fun hmem => hacc (List.mem_reverse.mp hmem)⟩
  | cons x text ih =>
    cases key? with
    | none =>
      unfold unflattenFrom at h
      split at h
      · -- the key is complete
        refine ih h (fun key heq hmem => ?_) List.not_mem_nil
        rw [← Option.some.inj heq] at hmem
        exact hacc (List.mem_reverse.mp hmem)
      · next hne =>
        -- one more character of the key
        refine ih h hkey fun hmem => ?_
        rcases List.mem_cons.mp hmem with heq | hmem
        · exact hne heq.symm
        · exact hacc hmem
    | some key =>
      unfold unflattenFrom at h
      split at h
      · -- the value is complete, and with it the pair
        rcases List.mem_cons.mp h with rfl | h
        · exact ⟨hkey key rfl, fun hmem => hacc (List.mem_reverse.mp hmem)⟩
        · exact ih h (fun key heq => absurd heq (by simp)) List.not_mem_nil
      · next hne =>
        -- one more character of the value
        refine ih h hkey fun hmem => ?_
        rcases List.mem_cons.mp hmem with heq | hmem
        · exact hne heq.symm
        · exact hacc hmem

theorem mem_unflatten {text : List α} {pair : List α × List α} (h : pair ∈ unflatten eq sep text) :
    eq ∉ pair.1 ∧ sep ∉ pair.2 :=
  mem_unflattenFrom h (fun _ heq => absurd heq (by simp)) List.not_mem_nil

/-- **The pairs that were written are read back.** -/
theorem unflatten_flatten {pairs : List (List α × List α)}
    (h : ∀ pair ∈ pairs, eq ∉ pair.1 ∧ sep ∉ pair.2) :
    unflatten eq sep (flatten eq sep pairs) = pairs := by
  unfold unflatten
  -- induction along `flatten`: the last pair has no separator after it
  induction pairs with
  | nil => rfl
  | cons pair rest ih =>
    obtain ⟨key, value⟩ := pair
    have hpair := h _ List.mem_cons_self
    cases rest with
    | nil =>
      -- the last value goes to the end of the text
      show unflattenFrom eq sep (key ++ eq :: value) [] none = _
      rw [unflattenFrom_key hpair.1, unflattenFrom_last hpair.2]
      rfl
    | cons next rest =>
      -- any other value ends at the separator, behind which the hypothesis takes over
      show unflattenFrom eq sep
        (key ++ eq :: (value ++ sep :: flatten eq sep (next :: rest))) [] none = _
      rw [unflattenFrom_key hpair.1, unflattenFrom_value hpair.2,
        ih fun p hp => h p (List.mem_cons_of_mem _ hp)]
      rfl

end Text

section Map

variable {K V : Type} [LinearOrder K]

/-- The entry of the key is added, or replaced. -/
def insert (key : K) (value : V) : List (K × V) → List (K × V)
  | [] => [(key, value)]
  | entry :: rest =>
    if key < entry.1 then (key, value) :: entry :: rest
    else if key = entry.1 then (key, value) :: rest
    else entry :: insert key value rest

/-- The keys are in order, each there once. -/
def Sorted (entries : List (K × V)) : Prop := entries.Pairwise fun a b => a.1 < b.1

theorem lookup_insert_self (key : K) (value : V) (entries : List (K × V)) :
    (insert key value entries).lookup key = some value := by
  induction entries with
  | nil => simp [insert]
  | cons entry rest ih =>
    unfold insert
    split
    · simp
    · split
      · simp
      · next hne => rw [List.lookup_cons, beq_false_of_ne hne, ih]

theorem lookup_insert_of_ne {key other : K} (h : other ≠ key) (value : V) (entries : List (K × V)) :
    (insert key value entries).lookup other = entries.lookup other := by
  induction entries with
  | nil => simp [insert, List.lookup_cons, beq_false_of_ne h]
  | cons entry rest ih =>
    unfold insert
    split
    · rw [List.lookup_cons, beq_false_of_ne h]
    · split
      · next heq => rw [List.lookup_cons, List.lookup_cons, ← heq, beq_false_of_ne h]
      · rw [List.lookup_cons, List.lookup_cons, ih]

theorem mem_insert {key : K} {value : V} {entries : List (K × V)} {entry : K × V}
    (h : entry ∈ insert key value entries) : entry = (key, value) ∨ entry ∈ entries := by
  induction entries with
  | nil => exact Or.inl (List.mem_singleton.mp h)
  | cons first rest ih =>
    unfold insert at h
    split at h
    · exact List.mem_cons.mp h
    · split at h
      · exact (List.mem_cons.mp h).imp id (List.mem_cons_of_mem _)
      · rcases List.mem_cons.mp h with heq | hrest
        · exact Or.inr (heq ▸ List.mem_cons_self)
        · exact (ih hrest).imp id (List.mem_cons_of_mem _)

/-- An insertion keeps the keys in order. A key that is new goes before the first greater one, and a
key that is there has its value replaced. -/
theorem Sorted.insert {entries : List (K × V)} (h : Sorted entries) (key : K) (value : V) :
    Sorted (KeyValues.insert key value entries) := by
  -- by the cases of the insertion
  induction entries with
  -- into an empty list
  | nil => exact List.pairwise_singleton _ _
  | cons first rest ih =>
    -- the keys behind the first are greater than it
    obtain ⟨hfirst, hrest⟩ := List.pairwise_cons.mp h
    unfold KeyValues.insert
    split
    · -- in front of the first entry, whose key is greater
      next hlt =>
      refine List.pairwise_cons.mpr ⟨fun entry hmem => ?_, h⟩
      rcases List.mem_cons.mp hmem with rfl | hmem
      · exact hlt
      · exact lt_trans hlt (hfirst entry hmem)
    · split
      · -- the first entry has the key and gets the value
        next heq =>
        refine List.pairwise_cons.mpr ⟨fun entry hmem => ?_, hrest⟩
        rw [heq]
        exact hfirst entry hmem
      · -- behind the first entry
        next hnlt hne =>
        refine List.pairwise_cons.mpr ⟨fun entry hmem => ?_, ih hrest⟩
        -- an entry behind the first is the new one or an old one
        rcases mem_insert hmem with rfl | hmem
        · exact lt_of_le_of_ne (not_lt.mp hnlt) (Ne.symm hne)
        · exact hfirst entry hmem

theorem lookup_eq_none {entries : List (K × V)} {key : K} (h : ∀ entry ∈ entries, entry.1 ≠ key) :
    entries.lookup key = none := by
  induction entries with
  | nil => rfl
  | cons first rest ih =>
    rw [List.lookup_cons, beq_false_of_ne (Ne.symm (h first List.mem_cons_self)),
      ih fun entry hmem => h entry (List.mem_cons_of_mem _ hmem)]

/-- Adding the entries of a sorted list to a map finds them all, and else what was in the map. -/
theorem lookup_foldl_insert {entries : List (K × V)} (h : Sorted entries) (map : List (K × V))
    (key : K) :
    (entries.foldl (fun m e => insert e.1 e.2 m) map).lookup key =
      (entries.lookup key).or (map.lookup key) := by
  induction entries generalizing map with
  | nil => rfl
  | cons first rest ih =>
    obtain ⟨hfirst, hrest⟩ := List.pairwise_cons.mp h
    rw [List.foldl_cons, ih hrest]
    by_cases hkey : key = first.1
    · subst hkey
      -- no later entry has the key
      rw [lookup_eq_none fun entry hmem => (ne_of_lt (hfirst entry hmem)).symm, Option.none_or,
        lookup_insert_self, List.lookup_cons, beq_self_eq_true, Option.some_or]
    · -- the first entry has another key
      rw [lookup_insert_of_ne hkey, List.lookup_cons, beq_false_of_ne hkey]

end Map

end KeyValues
