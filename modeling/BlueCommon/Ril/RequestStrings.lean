import BlueCommon.Ril.Dispatch
import Mathlib.Data.List.Forall2
import Mathlib.Data.List.TakeWhile

/-!
# Strings in requests

A string argument of a request is copied into a buffer as long as `size()` says, up to the first
NUL, and the copy is what the vendor gets. A copy that is too long for the buffer is reported to the
client; one that is too short is not. Memory may run out at every allocation.

* `copyHidlStringToRil_runs`, `copyStrings_runs`: what a copy, and the loop over the arguments,
  does.
* `cStr_eq_self_iff`: only strings without a NUL are shown whole.
* `whole_strings_iff`: when the vendor gets the strings whole, or the client an error.
-/

namespace BlueCommon.Ril

open Interaction Program

/-! ### What a request method has done -/

/-- The request that has been added, the error responses so far, what the vendor has been handed,
and how many allocations there have been. -/
structure Doings where
  request : Option Addr
  errors : List (Option Addr × ℤ)
  handed : List RequestData
  allocations : ℕ

/-- Nothing has been done but adding the request, if it was added. -/
def Doings.fresh (request : Option Addr) : Doings := ⟨request, [], [], 0⟩

/-- What a call adds. The `n`-th allocation succeeds when `alloc n` says so; a request may be added
or not. -/
def doing (alloc : ℕ → Bool) : Semantics entrySignature Doings
  | .addRequestToList .., r, d, d' => d' = { d with request := r }
  | .calloc, r, d, d' => r = alloc d.allocations ∧ d' = { d with allocations := d.allocations + 1 }
  | .sendErrorResponse pRI err, _, d, d' => d' = { d with errors := d.errors ++ [(pRI, err)] }
  | .onRequest _ data _ _, _, d, d' => d' = { d with handed := d.handed ++ [data] }
  | _, _, d, d' => d' = d

/-! ### What should come of a string -/

/-- The pointer shows the whole string, or it is the `NULL` of an empty one where empty strings are
not kept. -/
def ShowsWhole (allowEmpty : Bool) (src : HidlString) (dest : CharPtr) : Prop :=
  dest = none ∧ src = [] ∧ allowEmpty = false ∨ dest = some src

/-- A copy is whole, or it fails and the client gets one error response. A copy that succeeds with
less than the string is neither. -/
def CopiesWhole (src : HidlString) (pRI : Addr) (allowEmpty : Bool) (result : Bool × CharPtr)
    (d : Doings) : Prop :=
  if result.1 then ShowsWhole allowEmpty src result.2 ∧ d.errors = []
  else result.2 = none ∧ ∃ err, d.errors = [(some pRI, err)]

/-- The vendor gets one request, with whole strings, or the client one error response. This is about
requests that have been added: for others there is nothing to respond to. -/
def HandsOverWhole (whole : RequestData → Prop) (d : Doings) : Prop :=
  d.request ≠ none →
    (d.errors = [] ∧ ∃ data, d.handed = [data] ∧ whole data) ∨
      d.handed = [] ∧ ∃ err, d.errors = [(d.request, err)]

/-! ### C strings -/

/-- **Only strings without a NUL are shown whole.** -/
theorem cStr_eq_self_iff {s : HidlString} : s.cStr = s ↔ 0 ∉ s := by
  unfold HidlString.cStr
  simp only [List.takeWhile_eq_self_iff, decide_eq_true_eq]
  exact ⟨fun h hmem => h 0 hmem rfl, fun h c hc => fun hzero => h (hzero ▸ hc)⟩

theorem zero_notMem_cStr (s : HidlString) : 0 ∉ s.cStr := by
  intro hmem
  have hne := List.mem_takeWhile_imp (p := fun c => decide (c ≠ 0)) hmem
  exact of_decide_eq_true hne rfl

@[simp] theorem cStr_cStr (s : HidlString) : HidlString.cStr s.cStr = s.cStr :=
  cStr_eq_self_iff.mpr (zero_notMem_cStr s)

/-- `strlcpy` never returns more than `size()`: this is why its check does not see a NUL. -/
theorem length_cStr_lt (s : HidlString) : ¬s.cStr.length ≥ s.length + 1 := by
  have hle : s.cStr.length ≤ s.length := (List.takeWhile_sublist _).length_le
  omega

namespace Entry

/-! ### One copy -/

/-- `copyHidlStringToRil` with both of its results: what it returns and `*dest`. What `strlcpy`
returns is compared with the length of the buffer, and it is never as long. -/
def copyHidlString (src : HidlString) (pRI : Addr) (allowEmpty : Bool) : Entry (Bool × CharPtr) :=
  if src.length = 0 ∧ allowEmpty = false then pure (true, none)
  else do
    let allocated ← calloc
    if allocated = false then do
      sendErrorResponse (some pRI) Errno.noMemory
      pure (false, none)
    else if src.cStr.length ≥ src.length + 1 then do
      sendErrorResponse (some pRI) Errno.internalErr
      pure (false, none)
    else pure (true, some src.cStr)

/-- Whether a copy needs a buffer: an empty string needs one only where empty strings are kept. -/
def needsBuffer (allowEmpty : Bool) (src : HidlString) : Bool := src ≠ [] ∨ allowEmpty = true

/-- What a copy shows when it succeeds: the string up to its first NUL. -/
def copied (allowEmpty : Bool) (src : HidlString) : CharPtr :=
  if needsBuffer allowEmpty src then some src.cStr else none

section Copies

variable {alloc : ℕ → Bool} {src : HidlString} {pRI : Addr} {allowEmpty : Bool} {d d' : Doings}

theorem copyHidlStringToRil_eq : copyHidlStringToRil src pRI allowEmpty =
    copyHidlString src pRI allowEmpty >>= fun result =>
    pure (if result.1 then some result.2 else none) := by
  unfold copyHidlStringToRil copyHidlString
  split
  · rfl
  · -- the two functions differ in what they return only
    refine congrArg (Program.op (S := entrySignature) EntryOp.calloc) (funext fun allocated => ?_)
    cases allocated with
    | false => rfl
    | true =>
      simp only
      split <;> rfl

/-- A copy takes what there is before the first NUL, unless there is no memory. The outcome of the
next allocation decides, if one is needed; without memory an error is answered and the result is
false. -/
theorem copyHidlString_runs {result : Bool × CharPtr}
    (h : (copyHidlString src pRI allowEmpty).Runs (doing alloc) d result d') :
    (result = (true, copied allowEmpty src) ∧ d'.errors = d.errors ∧
        (needsBuffer allowEmpty src = true → alloc d.allocations = true) ∨
      result = (false, none) ∧ d'.errors = d.errors ++ [(some pRI, Errno.noMemory)] ∧
        needsBuffer allowEmpty src = true ∧ alloc d.allocations = false) ∧
    d'.request = d.request ∧ d'.handed = d.handed ∧
      d'.allocations = d.allocations + if needsBuffer allowEmpty src then 1 else 0 := by
  unfold copyHidlString at h
  split at h
  · -- nothing is allocated for an empty string that is not kept
    rename_i hnull
    obtain ⟨rfl, rfl⟩ := h
    simp [copied, needsBuffer, List.length_eq_zero_iff.mp hnull.1, hnull.2]
  · rename_i hnull
    have hneeds : needsBuffer allowEmpty src = true := by
      unfold needsBuffer
      rw [List.length_eq_zero_iff, not_and_or, Bool.not_eq_false] at hnull
      exact decide_eq_true hnull
    -- the outcome of the allocation decides
    obtain ⟨allocated, d₁, ⟨rfl, rfl⟩, h⟩ := runs_op_bind.mp h
    -- no memory: an error is answered, and the result is false
    cases halloc : alloc d.allocations with
    | false =>
      rw [halloc, if_pos rfl] at h
      obtain ⟨_, d₂, rfl, rfl, rfl⟩ := runs_op_bind.mp h
      simp [hneeds]
    -- the copy has the string up to its first NUL
    | true =>
      rw [halloc, if_neg (by decide), if_neg (length_cStr_lt src)] at h
      obtain ⟨rfl, rfl⟩ := h
      simp [copied, hneeds]

/-- The loop copies all strings, or there is no memory for one of them, and then it stops. The
induction is on the strings, each of which takes the next outcome if it needs a buffer. -/
theorem copyStrings_runs {strs : List HidlString} {r : Option (List CharPtr)}
    (h : (copyStrings pRI allowEmpty strs).Runs (doing alloc) d r d') :
    (r = some (strs.map (copied allowEmpty)) ∧ d'.errors = d.errors ∧
        (¬∃ i < strs.countP (needsBuffer allowEmpty), alloc (d.allocations + i) = false) ∨
      r = none ∧ (∃ err, d'.errors = d.errors ++ [(some pRI, err)]) ∧
        ∃ i < strs.countP (needsBuffer allowEmpty), alloc (d.allocations + i) = false) ∧
    d'.request = d.request ∧ d'.handed = d.handed := by
  -- induction on the strings, each of which is copied with the next outcome
  induction strs generalizing d r with
  | nil =>
    obtain ⟨rfl, rfl⟩ := h
    simp
  | cons str strs ih =>
    obtain ⟨result, d₁, hcopy, h⟩ := (runs_bind _ _).mp h
    rw [copyHidlStringToRil_eq] at hcopy
    obtain ⟨_, _, hcopy, rfl, rfl⟩ := (runs_bind _ _).mp hcopy
    obtain ⟨hcopied | hfailed, hrequest, hhanded, hallocations⟩ := copyHidlString_runs hcopy
    · obtain ⟨rfl, herrors, hok⟩ := hcopied
      obtain ⟨rest, d₂, hrest, rfl, rfl⟩ := (runs_bind _ _).mp h
      obtain ⟨hrest, hrequest', hhanded'⟩ := ih hrest
      -- an allocation fails now or in what follows, and it is not this one
      have hstarved :
          (∃ i < (str :: strs).countP (needsBuffer allowEmpty), alloc (d.allocations + i) = false) ↔
          ∃ i < strs.countP (needsBuffer allowEmpty), alloc (d₁.allocations + i) = false := by
        rw [List.countP_cons, hallocations]
        cases hneeds : needsBuffer allowEmpty str with
        | false => simp
        | true =>
          constructor
          · rintro ⟨i, hi, hfails⟩
            cases i with
            | zero => exact absurd ((hok hneeds).symm.trans hfails) (by decide)
            | succ i => exact ⟨i, by simpa using hi, by rwa [if_pos rfl, Nat.add_right_comm]⟩
          · rintro ⟨i, hi, hfails⟩
            exact ⟨i + 1, by simpa using hi, by rwa [if_pos rfl, Nat.add_right_comm] at hfails⟩
      rw [hstarved, hrequest', hhanded', hrequest, hhanded, ← herrors]
      -- what follows decides
      obtain ⟨rfl, herrors', hnone⟩ | ⟨rfl, herrors', hsome⟩ := hrest
      · exact ⟨.inl ⟨rfl, herrors', hnone⟩, rfl, rfl⟩
      · exact ⟨.inr ⟨rfl, herrors', hsome⟩, rfl, rfl⟩
    · -- the first copy has failed, and the loop ends
      obtain ⟨rfl, herrors, hneeds, hfails⟩ := hfailed
      obtain ⟨rfl, rfl⟩ := h
      refine ⟨.inr ⟨rfl, ⟨_, herrors⟩, 0, ?_, hfails⟩, hrequest, hhanded⟩
      rw [List.countP_cons, if_pos hneeds]
      exact Nat.succ_pos _

/-- Whether a copy of `src` is whole is whether `src` has a NUL, also if it was cut at the first one
before. -/
theorem showsWhole_copied_iff (allowEmpty : Bool) {t : HidlString} (ht : t.cStr = src.cStr) :
    ShowsWhole allowEmpty src (copied allowEmpty t) ↔ 0 ∉ src := by
  rw [← cStr_eq_self_iff, ShowsWhole, copied]
  by_cases hneeds : needsBuffer allowEmpty t = true
  · simp [hneeds, ht]
  · -- nothing is copied, as the string is empty
    rw [if_neg hneeds]
    simp only [needsBuffer, ne_eq, decide_eq_true_eq, not_or, not_not, Bool.not_eq_true] at hneeds
    obtain ⟨rfl, rfl⟩ := hneeds
    rw [← ht]
    simp [HidlString.cStr, eq_comm]

theorem showsWhole_map_copied_iff (allowEmpty : Bool) {strs : List HidlString}
    {f : HidlString → HidlString} (hf : ∀ s, (f s).cStr = s.cStr) :
    List.Forall₂ (ShowsWhole allowEmpty) strs ((strs.map f).map (copied allowEmpty)) ↔
    ∀ s ∈ strs, 0 ∉ s := by
  rw [List.map_map, List.forall₂_map_right_iff, List.forall₂_same]
  exact forall₂_congr fun s _ => showsWhole_copied_iff allowEmpty (hf s)

end Copies

/-! ### Requests -/

/-- How a request ends: it is not even added, or the vendor gets strings, which are whole when `ok`
holds, or there is no memory. -/
inductive Ends (whole : RequestData → Prop) (ok starved : Prop) (d : Doings) : Prop
  | notAdded (hrequest : d.request = none)
  | handedOver (hrequest : d.request ≠ none) (herrors : d.errors = []) (data : RequestData)
      (hhanded : d.handed = [data]) (hwhole : whole data ↔ ok) (hstarved : ¬starved)
  | failed (hrequest : d.request ≠ none) (hhanded : d.handed = []) (err : ℤ)
      (herrors : d.errors = [(d.request, err)]) (hstarved : starved)

section Requests

variable {alloc : ℕ → Bool} {serial slotId request : ℤ} {pRI : Addr} {allowEmpty : Bool}
  {d : Doings}

theorem Ends.handsOverWhole_iff {whole : RequestData → Prop} {ok starved : Prop}
    (h : Ends whole ok starved d) :
    HandsOverWhole whole d ↔ d.request = none ∨ ok ∨ starved := by
  cases h with
  | notAdded hrequest => simp [HandsOverWhole, hrequest]
  | handedOver hrequest herrors data hhanded hwhole hstarved =>
    simp [HandsOverWhole, hrequest, herrors, hhanded, hwhole, hstarved]
  | failed hrequest hhanded err herrors hstarved =>
    simp [HandsOverWhole, hrequest, herrors, hhanded, hstarved]

/-- A request is added, or not, and then nothing more happens. -/
theorem withRequest_runs {body : Addr → Entry Unit}
    (h : (withRequest serial slotId request body).Runs (doing alloc) (.fresh none) () d) :
    d.request = none ∨ ∃ pRI, (body pRI).Runs (doing alloc) (.fresh (some pRI)) () d := by
  obtain ⟨r, d₁, rfl, h⟩ := runs_op_bind.mp h
  cases r with
  | none =>
    obtain ⟨-, rfl⟩ := h
    exact .inl rfl
  | some pRI => exact .inr ⟨pRI, h⟩

/-- How the dispatch of one string ends: with the text handed over, or without memory for it. It is
whole exactly if it has no NUL in it. The one allocation is that of the copy. -/
theorem dispatchString_ends {str : HidlString}
    (h : (dispatchString serial slotId request str).Runs (doing alloc) (.fresh none) () d) :
    Ends (fun data => ∃ p, data = .string p ∧ ShowsWhole false str p) (0 ∉ str)
      (str.cStr ≠ [] ∧ alloc 0 = false) d := by
  -- the request was not even added
  obtain hnone | ⟨pRI, h⟩ := withRequest_runs h
  · exact .notAdded hnone
  obtain ⟨result, d₁, hcopy, h⟩ := (runs_bind _ _).mp h
  rw [copyHidlStringToRil_eq] at hcopy
  obtain ⟨_, _, hcopy, rfl, rfl⟩ := (runs_bind _ _).mp hcopy
  -- the single allocation is that of the copy, if one is needed
  have hneeds : needsBuffer false str.cStr = true ↔ str.cStr ≠ [] := by simp [needsBuffer]
  obtain ⟨hcopied | hfailed, hrequest, hhanded, -⟩ := copyHidlString_runs hcopy
  · -- handed over: what the vendor sees is whole when the string has no NUL
    obtain ⟨rfl, herrors, hok⟩ := hcopied
    obtain ⟨_, _, rfl, -, rfl⟩ := h
    refine .handedOver ?_ herrors (.string (copied false str.cStr)) ?_ ?_ ?_
    · simp [hrequest, Doings.fresh]
    · simp [hhanded, Doings.fresh]
    · simp [showsWhole_copied_iff false (cStr_cStr str)]
    · rintro ⟨hne, hfails⟩
      exact absurd ((hok (hneeds.mpr hne)).symm.trans hfails) (by decide)
  · -- failed: the error is the only thing that was answered
    obtain ⟨rfl, herrors, hne, hfails⟩ := hfailed
    obtain ⟨-, rfl⟩ := h
    refine .failed ?_ hhanded Errno.noMemory ?_ ⟨hneeds.mp hne, hfails⟩
    · simp [hrequest, Doings.fresh]
    · simp [herrors, hrequest, Doings.fresh]

/-- The array of pointers takes the first allocation, the copies those after it. The strings are
handed over when every allocation succeeds, and each of them is whole exactly if it has no NUL. -/
theorem strings_end {strs : List HidlString} (f : HidlString → HidlString) (finish : Entry Unit)
    (hf : ∀ s, (f s).cStr = s.cStr) (hfinish : ∀ d d', finish.Runs (doing alloc) d () d' → d' = d)
    (h : (withCalloc pRI do
      match ← copyStrings pRI allowEmpty (strs.map f) with
      | none => pure ()
      | some pStrings =>
        onRequest request (.strings pStrings) pRI slotId
        finish).Runs (doing alloc) (.fresh (some pRI)) () d) :
    Ends (fun data => ∃ ps, data = .strings ps ∧ List.Forall₂ (ShowsWhole allowEmpty) strs ps)
      (∀ s ∈ strs, 0 ∉ s)
      (∃ i ≤ (strs.map f).countP (needsBuffer allowEmpty), alloc i = false) d := by
  obtain ⟨allocated, d₁, ⟨rfl, rfl⟩, h⟩ := runs_op_bind.mp h
  -- the first allocation is that of the array of pointers
  cases halloc : alloc (Doings.fresh (some pRI)).allocations with
  | false =>
    rw [halloc, if_pos rfl] at h
    obtain ⟨_, _, rfl, -, rfl⟩ := h
    -- there is no array, so nothing is handed over
    exact .failed (by simp [Doings.fresh]) rfl Errno.noMemory rfl ⟨0, Nat.zero_le _, halloc⟩
  | true =>
    rw [halloc, if_neg (by decide)] at h
    -- then the copies are made, one after the other
    obtain ⟨r, d₂, hcopies, h⟩ := (runs_bind _ _).mp h
    obtain ⟨hcopies, hrequest, hhanded⟩ := copyStrings_runs hcopies
    -- the first allocation is that of the array, which succeeds
    have hstarved : (∃ i ≤ (strs.map f).countP (needsBuffer allowEmpty), alloc i = false) ↔
        ∃ i < (strs.map f).countP (needsBuffer allowEmpty), alloc (0 + 1 + i) = false := by
      constructor
      · rintro ⟨i, hi, hfails⟩
        cases i with
        | zero => exact absurd (halloc.symm.trans hfails) (by decide)
        | succ i => exact ⟨i, hi, by rwa [Nat.zero_add, Nat.add_comm]⟩
      · rintro ⟨i, hi, hfails⟩
        exact ⟨i + 1, hi, by rwa [Nat.zero_add, Nat.add_comm] at hfails⟩
    -- all copies were made, or one of them ran out of memory
    obtain ⟨rfl, herrors, hnone⟩ | ⟨rfl, ⟨err, herrors⟩, hsome⟩ := hcopies
    · obtain ⟨_, d₃, rfl, h⟩ := h
      obtain rfl := hfinish _ _ h
      refine .handedOver ?_ herrors (.strings ((strs.map f).map (copied allowEmpty))) ?_ ?_
        (hstarved.not.mpr hnone)
      · simp [hrequest, Doings.fresh]
      · simp [hhanded, Doings.fresh]
      · -- the vendor sees each string as a whole, or not
        refine Iff.trans ?_ (showsWhole_map_copied_iff allowEmpty hf)
        constructor
        · rintro ⟨_, ⟨⟩, hps⟩
          exact hps
        · intro hps
          exact ⟨_, rfl, hps⟩
    · obtain ⟨-, rfl⟩ := h
      refine .failed ?_ hhanded err ?_ (hstarved.mpr hsome)
      · simp [hrequest, Doings.fresh]
      · simp [herrors, hrequest, Doings.fresh]

theorem dispatchStrings_ends {strs : List HidlString}
    (h : (dispatchStrings serial slotId request allowEmpty strs).Runs (doing alloc)
      (.fresh none) () d) :
    Ends (fun data => ∃ ps, data = .strings ps ∧ List.Forall₂ (ShowsWhole allowEmpty) strs ps)
      (∀ s ∈ strs, 0 ∉ s)
      (∃ i ≤ (strs.map HidlString.cStr).countP (needsBuffer allowEmpty), alloc i = false) d := by
  obtain hnone | ⟨pRI, h⟩ := withRequest_runs h
  · exact .notAdded hnone
  · refine strings_end HidlString.cStr _ cStr_cStr (fun d d' hfinish => ?_) h
    split at hfinish
    · obtain ⟨_, _, rfl, -, rfl⟩ := hfinish
      rfl
    · exact hfinish.2

theorem dispatchStringsVec_ends {data : List HidlString}
    (h : (dispatchStringsVec serial slotId request data).Runs (doing alloc) (.fresh none) () d) :
    Ends (fun handed => ∃ ps, handed = .strings ps ∧ List.Forall₂ (ShowsWhole false) data ps)
      (∀ s ∈ data, 0 ∉ s)
      (∃ i ≤ data.countP (needsBuffer false), alloc i = false) d := by
  obtain hnone | ⟨pRI, h⟩ := withRequest_runs h
  · exact .notAdded hnone
  · rw [← List.map_id data] at h
    have hend := strings_end id (pure ()) (fun _ => rfl) (fun d d' hfinish => hfinish.2) h
    rwa [List.map_id] at hend

end Requests

end Entry

open Entry

/-- **Strings are handed over whole just when they have no NUL**, or when memory runs out and the
request ends with an error: for one copy, and for the three ways to dispatch strings. A string with
a NUL is cut there, and the check for it never fails. -/
theorem whole_strings_iff (alloc : ℕ → Bool) (d : Doings) :
    (∀ src pRI allowEmpty result,
      (copyHidlString src pRI allowEmpty).Runs (doing alloc) (.fresh (some pRI)) result d →
      (CopiesWhole src pRI allowEmpty result d ↔ 0 ∉ src ∨ alloc 0 = false)) ∧
    (∀ serial slotId request str,
      (dispatchString serial slotId request str).Runs (doing alloc) (.fresh none) () d →
      (HandsOverWhole (fun data => ∃ p, data = .string p ∧ ShowsWhole false str p) d ↔
        d.request = none ∨ 0 ∉ str ∨ str.cStr ≠ [] ∧ alloc 0 = false)) ∧
    (∀ serial slotId request allowEmpty strs,
      (dispatchStrings serial slotId request allowEmpty strs).Runs (doing alloc)
        (.fresh none) () d →
      (HandsOverWhole (fun data => ∃ ps, data = .strings ps ∧
        List.Forall₂ (ShowsWhole allowEmpty) strs ps) d ↔
        d.request = none ∨ (∀ str ∈ strs, 0 ∉ str) ∨
          ∃ i ≤ (strs.map HidlString.cStr).countP (needsBuffer allowEmpty), alloc i = false)) ∧
    ∀ serial slotId request data,
      (dispatchStringsVec serial slotId request data).Runs (doing alloc) (.fresh none) () d →
      (HandsOverWhole (fun handed => ∃ ps, handed = .strings ps ∧
        List.Forall₂ (ShowsWhole false) data ps) d ↔
        d.request = none ∨ (∀ str ∈ data, 0 ∉ str) ∨ ∃ i ≤ data.countP (needsBuffer false),
          alloc i = false) := by
  refine ⟨fun src pRI allowEmpty result h => ?_,
    fun serial slotId request str h => (dispatchString_ends h).handsOverWhole_iff,
    fun serial slotId request allowEmpty strs h => (dispatchStrings_ends h).handsOverWhole_iff,
    fun serial slotId request data h => (dispatchStringsVec_ends h).handsOverWhole_iff⟩
  -- the first part is about the copy alone
  obtain ⟨hcopied | hfailed, -⟩ := copyHidlString_runs h
  · obtain ⟨rfl, herrors, hok⟩ := hcopied
    have hwhole : CopiesWhole src pRI allowEmpty (true, copied allowEmpty src) d ↔ 0 ∉ src := by
      rw [← showsWhole_copied_iff allowEmpty rfl]
      simp [CopiesWhole, herrors, Doings.fresh]
    rw [hwhole]
    refine (or_iff_left_of_imp fun hfails hmem => ?_).symm
    -- a string with a NUL needs a buffer, and gets it
    have hneeds : needsBuffer allowEmpty src = true :=
      decide_eq_true (.inl (List.ne_nil_of_mem hmem))
    exact absurd ((hok hneeds).symm.trans hfails) (by decide)
  · -- without memory an error is answered, which is allowed
    obtain ⟨rfl, herrors, -, hfails⟩ := hfailed
    exact iff_of_true ⟨rfl, _, herrors⟩ (.inr hfails)

/-! ### A PIN -/

/-- A PIN with a NUL in its middle. -/
def cutPin : HidlString := [49, 50, 0, 51, 52]

/-- One text of two characters, through each of the four functions, with memory for all that is
asked for. There is no zero in it, so it arrives whole everywhere. -/
theorem whole_strings_iff_pin :
    (∃ result d, (copyHidlString [49, 50] 1 false).Runs (doing fun _ => true)
      (.fresh (some 1)) result d ∧
      CopiesWhole [49, 50] 1 false result d) ∧
    (∃ d, (dispatchString 5 0 1 [49, 50]).Runs (doing fun _ => true) (.fresh none) () d ∧
      HandsOverWhole (fun data => ∃ p, data = .string p ∧ ShowsWhole false [49, 50] p) d) ∧
    (∃ d, (dispatchStrings 5 0 2 true [[49, 50]]).Runs (doing fun _ => true) (.fresh none) () d ∧
      HandsOverWhole (fun data => ∃ ps, data = .strings ps ∧ List.Forall₂ (ShowsWhole true)
        [[49, 50]] ps) d) ∧
    ∃ d, (dispatchStringsVec 5 0 2 [[49, 50]]).Runs (doing fun _ => true) (.fresh none) () d ∧
      HandsOverWhole (fun data => ∃ ps, data = .strings ps ∧ List.Forall₂ (ShowsWhole false)
        [[49, 50]] ps) d := by
  -- one text of two characters, and memory for everything that is asked for
  have hcopy : (copyHidlString [49, 50] 1 false).Runs (doing fun _ => true) (.fresh (some 1))
      (true, some [49, 50]) ⟨some 1, [], [], 1⟩ := ⟨true, _, ⟨rfl, rfl⟩, rfl, rfl⟩
  -- the four runs differ in how many blocks were handed out before the text
  have hstring : (dispatchString 5 0 1 [49, 50]).Runs (doing fun _ => true) (.fresh none) ()
      ⟨some 1, [], [.string (some [49, 50])], 1⟩ :=
      ⟨some 1, _, rfl, true, _, ⟨rfl, rfl⟩, (), _, rfl, rfl, rfl⟩
  have hstrings : (dispatchStrings 5 0 2 true [[49, 50]]).Runs (doing fun _ => true)
      (.fresh none) ()
      ⟨some 1, [], [.strings [some [49, 50]]], 2⟩ :=
    ⟨some 1, _, rfl, true, _, ⟨rfl, rfl⟩, true, _, ⟨rfl, rfl⟩, (), _, rfl, rfl, rfl⟩
  have hvector : (dispatchStringsVec 5 0 2 [[49, 50]]).Runs (doing fun _ => true) (.fresh none) ()
      ⟨some 1, [], [.strings [some [49, 50]]], 2⟩ :=
    ⟨some 1, _, rfl, true, _, ⟨rfl, rfl⟩, true, _, ⟨rfl, rfl⟩, (), _, rfl, rfl, rfl⟩
  -- every run meets the condition since the text has no zero in it
  exact ⟨⟨_, _, hcopy, ((whole_strings_iff _ _).1 _ _ _ _ hcopy).mpr (.inl (by decide))⟩,
    ⟨_, hstring, ((whole_strings_iff _ _).2.1 _ _ _ _ hstring).mpr (.inr (.inl (by decide)))⟩,
    ⟨_, hstrings, ((whole_strings_iff _ _).2.2.1 _ _ _ _ _ hstrings).mpr (.inr (.inl (by decide)))⟩,
    ⟨_, hvector, ((whole_strings_iff _ _).2.2.2 _ _ _ _ hvector).mpr (.inr (.inl (by decide)))⟩⟩

/-- **The rest of the PIN is lost without an error**: the copy claims success, and the vendor gets
what is before the NUL. -/
theorem pin_cut_silently :
    (∃ result d, (copyHidlString cutPin 1 false).Runs (doing fun _ => true)
      (.fresh (some 1)) result d ∧
      ¬CopiesWhole cutPin 1 false result d) ∧
    ∃ d, (dispatchString 5 0 1 cutPin).Runs (doing fun _ => true) (.fresh none) () d ∧
      d.errors = [] ∧ d.handed = [.string (some [49, 50])] ∧
      ¬HandsOverWhole (fun data => ∃ p, data = .string p ∧ ShowsWhole false cutPin p) d := by
  refine ⟨⟨(true, some [49, 50]), ⟨some 1, [], [], 1⟩, ⟨true, _, ⟨rfl, rfl⟩, rfl, rfl⟩, ?_⟩,
    ⟨some 1, [], [.string (some [49, 50])], 1⟩,
    ⟨some 1, _, rfl, true, _, ⟨rfl, rfl⟩, (), _, rfl, rfl, rfl⟩, rfl, rfl, ?_⟩
  · simp [CopiesWhole, ShowsWhole, cutPin]
  · simp [HandsOverWhole, ShowsWhole, cutPin]

end BlueCommon.Ril
