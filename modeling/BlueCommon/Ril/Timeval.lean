import Mathlib.Algebra.Order.Ring.Int
import Mathlib.Data.Prod.Lex
import Mathlib.Tactic.Linarith

/-!
# Times of the event loop

`struct timeval` with the macros `timercmp`, `timeradd` and `timersub` of `ril_event.cpp`. The
comparison is the lexicographic order; on normalized times it is the order of the microseconds, and
`timeradd` and `timersub` are addition and subtraction of microseconds.
-/

namespace BlueCommon

namespace Ril

/-- `struct timeval`. Its fields are integers here, and where they are added the bound of the type
is looked at. -/
structure Timeval where
  sec : ℤ
  usec : ℤ
  deriving DecidableEq, Repr

/-- The largest `time_t`, a `long` of 32 bits on this platform. -/
def timeMax : ℤ := 2147483647

/-- `timercmp(a, b, op)`: the seconds decide, and the microseconds only when they are equal. -/
def timercmp (a b : Timeval) (op : ℤ → ℤ → Bool) : Bool :=
  if a.sec = b.sec then op a.usec b.usec else op a.sec b.sec

/-- `timeradd(tvp, uvp, vvp)`; `none` when a sum of seconds overflows. -/
def timeradd (tvp uvp : Timeval) : Option Timeval :=
  let sec := tvp.sec + uvp.sec
  let usec := tvp.usec + uvp.usec
  if timeMax < sec then none
  else if 1000000 ≤ usec then
    if timeMax < sec + 1 then none else some ⟨sec + 1, usec - 1000000⟩
  else some ⟨sec, usec⟩

/-- `timersub(a, b, res)`, which borrows a second when the microseconds are not enough. -/
def timersub (a b : Timeval) : Timeval :=
  let sec := a.sec - b.sec
  let usec := a.usec - b.usec
  if usec < 0 then ⟨sec - 1, usec + 1000000⟩ else ⟨sec, usec⟩

namespace Timeval

/-- The order of `timercmp`. -/
instance : LinearOrder Timeval :=
  LinearOrder.lift' (fun t => toLex (t.sec, t.usec)) fun a b h => by
    cases a
    cases b
    simpa using h

theorem lt_iff {a b : Timeval} : a < b ↔ a.sec < b.sec ∨ a.sec = b.sec ∧ a.usec < b.usec :=
  Prod.Lex.toLex_lt_toLex

/-- `timercmp(a, b, <)` decides the order. -/
theorem timercmp_lt (a b : Timeval) :
    (timercmp a b fun x y => decide (x < y)) = decide (a < b) := by
  have h : decide (a < b) = decide (a.sec < b.sec ∨ a.sec = b.sec ∧ a.usec < b.usec) :=
    decide_eq_decide.mpr lt_iff
  rw [h]
  unfold timercmp
  by_cases h : a.sec = b.sec <;> simp [h]

/-- `timercmp(a, b, >)` decides the converse order. -/
theorem timercmp_gt (a b : Timeval) :
    (timercmp a b fun x y => decide (x > y)) = decide (b < a) := by
  rw [← timercmp_lt b a]
  unfold timercmp
  by_cases h : a.sec = b.sec
  · simp [h]
  · simp [h, Ne.symm h]

/-- Microseconds from 0 on and below a full second, as `getNow` and the callers of `ril_timer_add`
give them. -/
def Normalized (t : Timeval) : Prop := 0 ≤ t.usec ∧ t.usec < 1000000

/-- The time in microseconds. -/
def micros (t : Timeval) : ℤ := t.sec * 1000000 + t.usec

variable {a b c : Timeval}

/-- Normalized times compare as their microseconds. -/
theorem lt_iff_micros (ha : a.Normalized) (hb : b.Normalized) : a < b ↔ a.micros < b.micros := by
  obtain ⟨ha0, ha1⟩ := ha
  obtain ⟨hb0, hb1⟩ := hb
  rw [lt_iff]
  unfold micros
  constructor
  · rintro (h | ⟨h, h'⟩) <;> omega
  · intro h
    omega

theorem le_iff_micros (ha : a.Normalized) (hb : b.Normalized) : a ≤ b ↔ a.micros ≤ b.micros := by
  rw [← not_lt, ← not_lt, lt_iff_micros hb ha]

/-- `timeradd` adds microseconds and keeps times normalized. -/
theorem timeradd_eq_some (ha : a.Normalized) (hb : b.Normalized) (h : timeradd a b = some c) :
    c.Normalized ∧ c.micros = a.micros + b.micros := by
  obtain ⟨ha0, ha1⟩ := ha
  obtain ⟨hb0, hb1⟩ := hb
  -- the seconds are added first, which may overflow, and then the microseconds
  simp only [timeradd] at h
  split at h
  · cases h
  · split at h
    · split at h
      · -- a carry would overflow the seconds
        cases h
      · -- the sum of the microseconds is carried into the seconds
        obtain rfl := Option.some.inj h
        simp only [Normalized, micros]
        omega
    · -- there is no carry
      obtain rfl := Option.some.inj h
      simp only [Normalized, micros]
      omega

/-- `timersub` subtracts microseconds and keeps times normalized. -/
theorem timersub_spec (ha : a.Normalized) (hb : b.Normalized) :
    (timersub a b).Normalized ∧ (timersub a b).micros = a.micros - b.micros := by
  obtain ⟨ha0, ha1⟩ := ha
  obtain ⟨hb0, hb1⟩ := hb
  unfold timersub
  simp only
  split <;> simp only [Normalized, micros] <;> omega

/-- `timersub` borrows a second if the microseconds are fewer. -/
theorem timersub_eq (a b : Timeval) : timersub a b =
    if a.usec < b.usec then ⟨a.sec - b.sec - 1, a.usec - b.usec + 1000000⟩
    else ⟨a.sec - b.sec, a.usec - b.usec⟩ := by
  by_cases hborrow : a.usec < b.usec
  · rw [if_pos hborrow]
    exact if_pos (sub_neg.mpr hborrow)
  · rw [if_neg hborrow]
    exact if_neg (mt sub_neg.mp hborrow)

/-- Adding what `timersub` has taken off a time goes past that time only if its microseconds are a
full second: `timeradd` carries them. -/
theorem lt_timeradd_timersub_iff (hb : b.Normalized) (h : timeradd b (timersub a b) = some c) :
    a < c ↔ 1000000 ≤ a.usec := by
  obtain ⟨hb0, hb1⟩ := hb
  rw [lt_iff]
  rw [timersub_eq] at h
  by_cases hborrow : a.usec < b.usec
  · rw [if_pos hborrow, timeradd] at h
    simp only at h
    split_ifs at h <;> obtain rfl := Option.some.inj h <;> simp only <;> omega
  · rw [if_neg hborrow, timeradd] at h
    simp only at h
    split_ifs at h <;> obtain rfl := Option.some.inj h <;> simp only <;> omega

theorem timeradd_timersub_isSome (hb : b.Normalized) (ha : a.sec ≤ timeMax)
    (hmicros : a.usec < 1000000) :
    ∃ c, timeradd b (timersub a b) = some c := by
  obtain ⟨hb0, hb1⟩ := hb
  rw [timersub_eq]
  -- with a borrow the microseconds add up to a second and those of `a`, so that they are carried
  by_cases hborrow : a.usec < b.usec
  · rw [if_pos hborrow, timeradd]
    simp only
    rw [if_neg (by omega)]
    split_ifs with hcarry hoverflow
    · omega
    · exact ⟨_, rfl⟩
    · exact ⟨_, rfl⟩
  · rw [if_neg hborrow, timeradd]
    simp only
    rw [if_neg (by omega), if_neg (by omega)]
    exact ⟨_, rfl⟩

theorem timeradd_zero (hb : b.Normalized) (hmax : b.sec ≤ timeMax) :
    timeradd b ⟨0, 0⟩ = some b := by
  obtain ⟨hb0, hb1⟩ := hb
  simp only [timeradd, add_zero]
  rw [if_neg (by omega), if_neg (by omega)]

theorem eq_of_timeradd_zero (hb : b.Normalized) (h : timeradd b ⟨0, 0⟩ = some c) : c = b := by
  obtain ⟨hb0, hb1⟩ := hb
  simp only [timeradd, add_zero] at h
  split_ifs at h with hmax hcarry
  · omega
  · exact (Option.some.inj h).symm

end Timeval

end Ril

end BlueCommon
