import BlueCommon.Lib.KeyValues
import Mathlib.Data.String.Basic

/-!
# The parameter map of the camera framework

* `CameraParameters`: the operations of the map, and `Lawful`: what is documented of them.
* `Refuses`: what is documented of a value that cannot be set, and of an empty one.
* `ParameterMap`: a map with the entries in order and no separator in the wrong place, and
  `parameterMap_lawful`: its operations are as documented.
-/

namespace BlueCommon

namespace Camera

/-- `CameraParameters` of the framework. `get` is `none` for a key that is absent or empty. -/
structure CameraParameters (Params : Type) where
  unflatten : String → Params
  flatten : Params → String
  get : Params → String → Option String
  set : Params → String → String → Params

/-- The string has none of the two separators of a flattened map. Only such a string can be a key or
a value. -/
def Plain (s : String) : Prop := '=' ∉ s.toList ∧ ';' ∉ s.toList

instance (s : String) : Decidable (Plain s) := inferInstanceAs (Decidable (_ ∧ _))

/-- What is documented of the parameter map: it can be written and read back, and a value that is
set is found under its key and changes no other one. -/
structure CameraParameters.Lawful {Params : Type} (api : CameraParameters Params) : Prop where
  get_unflatten : ∀ p key, api.get (api.unflatten (api.flatten p)) key = api.get p key
  get_set : ∀ p key value, Plain key → Plain value → value ≠ "" →
      api.get (api.set p key value) key = some value
  get_set_of_ne : ∀ p key value other, other ≠ key →
      api.get (api.set p key value) other = api.get p other
  get_ne_empty : ∀ p key value, api.get p key = some value → value ≠ ""

/-- Of a value with a separator in it the map is left as it is, and an empty value is not found.
This is how `CameraParameters::set` and `get` of the framework behave. -/
structure CameraParameters.Refuses {Params : Type} (api : CameraParameters Params) : Prop extends
    api.Lawful where
  get_set_refused : ∀ p key value, ¬ Plain value → ∀ other,
      api.get (api.set p key value) other = api.get p other
  get_set_empty : ∀ p key, Plain key → api.get (api.set p key "") key = none

/-- What is found under a key after it has been set. -/
theorem CameraParameters.Refuses.get_set_self {Params : Type} {api : CameraParameters Params}
    (hapi : api.Refuses) (p : Params) {key : String} (hkey : Plain key) (value : String) :
    api.get (api.set p key value) key =
      if Plain value then (if value = "" then none else some value) else api.get p key := by
  split
  case isTrue hplain =>
    split
    case isTrue hempty => rw [hempty, hapi.get_set_empty p key hkey]
    case isFalse hne => exact hapi.get_set p key value hkey hplain hne
  case isFalse hnot => exact hapi.get_set_refused p key value hnot key

theorem Plain.append {s t : String} (hs : Plain s) (ht : Plain t) : Plain (s ++ t) := by
  unfold Plain
  rw [String.toList_append, List.mem_append, List.mem_append, not_or, not_or]
  exact ⟨⟨hs.1, ht.1⟩, hs.2, ht.2⟩

theorem Plain.of_append {s t : String} (h : Plain (s ++ t)) : Plain t := by
  unfold Plain at h
  rw [String.toList_append, List.mem_append, List.mem_append, not_or, not_or] at h
  exact ⟨h.1.2, h.2.2⟩

/-! ### A map of strings -/

/-- A map that can be written as text. -/
structure ParameterMap where
  entries : List (String × String)
  sorted : KeyValues.Sorted entries
  plain : ∀ e ∈ entries, '=' ∉ e.1.toList ∧ ';' ∉ e.2.toList

namespace ParameterMap

/-- A pair of character lists as strings. -/
def ofChars (pair : List Char × List Char) : String × String :=
  (String.ofList pair.1, String.ofList pair.2)

def toChars (entry : String × String) : List Char × List Char := (entry.1.toList, entry.2.toList)

theorem ofChars_toChars (entry : String × String) : ofChars (toChars entry) = entry := by
  simp [ofChars, toChars]

def flatten (m : ParameterMap) : String :=
  String.ofList (KeyValues.flatten '=' ';' (m.entries.map toChars))

/-- The pairs of a text. -/
def pairsOf (text : String) : List (String × String) :=
  (KeyValues.unflatten '=' ';' text.toList).map ofChars

/-- The pairs are added one by one. -/
def addAll (pairs map : List (String × String)) : List (String × String) :=
  pairs.foldl (fun m e => KeyValues.insert e.1 e.2 m) map

theorem addAll_sorted (pairs : List (String × String)) {map : List (String × String)}
    (h : KeyValues.Sorted map) : KeyValues.Sorted (addAll pairs map) := by
  induction pairs generalizing map with
  | nil => exact h
  | cons e pairs ih => exact ih (h.insert e.1 e.2)

theorem mem_addAll {pairs map : List (String × String)} {e : String × String}
    (h : e ∈ addAll pairs map) :
    e ∈ pairs ∨ e ∈ map := by
  induction pairs generalizing map with
  | nil => exact Or.inr h
  | cons first pairs ih =>
    rcases ih h with hpairs | hmap
    · exact Or.inl (List.mem_cons_of_mem _ hpairs)
    · refine (KeyValues.mem_insert hmap).imp (fun heq => ?_) id
      rw [heq]
      exact List.mem_cons_self

def unflatten (text : String) : ParameterMap where
  entries := addAll (pairsOf text) []
  sorted := addAll_sorted _ List.Pairwise.nil
  plain e h := by
    obtain ⟨pair, hpair, rfl⟩ := List.mem_map.mp ((mem_addAll h).resolve_right List.not_mem_nil)
    have hplain := KeyValues.mem_unflatten hpair
    simpa [ofChars] using hplain

def get (m : ParameterMap) (key : String) : Option String := (m.entries.lookup key).filter (· ≠ "")

/-- A key or value with a separator in it is refused. -/
def set (m : ParameterMap) (key value : String) : ParameterMap :=
  if h : Plain key ∧ Plain value then
    { entries := KeyValues.insert key value m.entries
      sorted := m.sorted.insert key value
      plain := fun _ hmem => (KeyValues.mem_insert hmem).elim (fun heq => heq ▸ ⟨h.1.1, h.2.2⟩)
        (m.plain _) }
  else m

theorem pairsOf_flatten (m : ParameterMap) : pairsOf m.flatten = m.entries := by
  unfold pairsOf flatten
  rw [String.toList_ofList, KeyValues.unflatten_flatten]
  · rw [List.map_map]
    exact (List.map_congr_left fun e _ => ofChars_toChars e).trans (List.map_id _)
  · intro pair hpair
    obtain ⟨e, he, rfl⟩ := List.mem_map.mp hpair
    exact m.plain e he

theorem get_unflatten_flatten (m : ParameterMap)
    (key : String) : (unflatten m.flatten).get key = m.get key := by
  show ((addAll (pairsOf m.flatten) []).lookup key).filter (· ≠ "") = _
  rw [pairsOf_flatten]
  unfold addAll
  rw [KeyValues.lookup_foldl_insert m.sorted, List.lookup_nil, Option.or_none]
  rfl

theorem get_set (m : ParameterMap) {key value : String} (hkey : Plain key) (hvalue : Plain value)
    (hne : value ≠ "") : (m.set key value).get key = some value := by
  unfold set get
  rw [dif_pos ⟨hkey, hvalue⟩]
  dsimp only
  rw [KeyValues.lookup_insert_self]
  simp [hne]

theorem get_set_of_ne (m : ParameterMap) (key value : String) {other : String} (h : other ≠ key) :
    (m.set key value).get other = m.get other := by
  unfold set
  split
  · unfold get
    rw [KeyValues.lookup_insert_of_ne h]
  · rfl

theorem get_ne_empty {m : ParameterMap} {key value : String} (h : m.get key = some value) :
    value ≠ "" := by
  have hfilter := (Option.filter_eq_some_iff.mp h).2
  simpa using hfilter

theorem set_of_not_plain (m : ParameterMap) (key : String) {value : String} (h : ¬ Plain value) :
    m.set key value = m :=
  dif_neg fun hplain => h hplain.2

theorem get_set_empty (m : ParameterMap) {key : String} (hkey : Plain key) :
    (m.set key "").get key = none := by
  unfold set get
  rw [dif_pos ⟨hkey, by decide⟩]
  dsimp only
  rw [KeyValues.lookup_insert_self]
  rfl

theorem exists_entry_of_get {m : ParameterMap} {key value : String} (h : m.get key = some value) :
    ∃ e ∈ m.entries, e.2 = value := by
  have hlookup := (Option.filter_eq_some_iff.mp h).1
  obtain ⟨before, after, heq, -⟩ := List.lookup_eq_some_iff.mp hlookup
  rw [heq]
  exact ⟨(key, value), List.mem_append_right _ List.mem_cons_self, rfl⟩

end ParameterMap

/-- The operations of `ParameterMap`. -/
def parameterMap : CameraParameters ParameterMap where
  unflatten := ParameterMap.unflatten
  flatten := ParameterMap.flatten
  get := ParameterMap.get
  set := ParameterMap.set

/-- `ParameterMap` is as documented. -/
theorem parameterMap_lawful : parameterMap.Lawful where
  get_unflatten m key := m.get_unflatten_flatten key
  get_set m _ _ hkey hvalue hne := m.get_set hkey hvalue hne
  get_set_of_ne m key value _ h := m.get_set_of_ne key value h
  get_ne_empty _ _ _ h := ParameterMap.get_ne_empty h

theorem parameterMap_refuses : parameterMap.Refuses where
  toLawful := parameterMap_lawful
  get_set_refused m key _ h other := congrArg (fun m' => m'.get other) (m.set_of_not_plain key h)
  get_set_empty m _ hkey := m.get_set_empty hkey

end Camera

end BlueCommon
