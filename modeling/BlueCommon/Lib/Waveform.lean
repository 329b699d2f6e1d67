import Mathlib.Algebra.Order.Floor.Semifield
import Mathlib.Tactic.Linarith
import Mathlib.Tactic.Push
import Mathlib.Tactic.Ring

/-!
# Square waves

A wave of a given period that is on in the first part of every cycle, and that is drawn for a number
of cycles only.

* `Lit`: the instants at which the drawn wave is on; `LitEarly`: those at which a wave is on whose
  on-phases take in the instants just before them.
* `litEarly_iff_lit`: where the two agree. `not_litEarly_iff`: when the early wave is off.
* `roundedCycles`: how many cycles fit into a duration, rounded to the nearest number.
* `tdiv_nonneg_iff`, `tdiv_lt_iff`: comparisons with a quotient that is cut to an integer.
* `foldl_iff`: a loop that can only raise a flag.
-/

namespace Waveform

section Phases

variable {F : Type} [Field F] [LinearOrder F] [IsStrictOrderedRing F]

/-- In the on-phase of one of the first `cycles` cycles. -/
def Lit (period on : F) (cycles : ℕ) (t : F) : Prop :=
  ∃ k < cycles, k * period ≤ t ∧ t < k * period + on

/-- In such an on-phase, or less than `lead` ahead of it. -/
def LitEarly (period on lead : F) (cycles : ℕ) (t : F) : Prop :=
  ∃ k < cycles, k * period - lead < t ∧ t < k * period + on

/-- Less than `lead` ahead of such an on-phase. -/
def Ahead (period lead : F) (cycles : ℕ) (t : F) : Prop :=
  ∃ k < cycles, k * period - lead < t ∧ t < k * period

/-- After an on-phase, and at least `lead` ahead of the next one if that is drawn. -/
def InGap (period on lead : F) (cycles : ℕ) (t : F) : Prop :=
  ∃ k : ℕ, k * period + on ≤ t ∧ (k + 1 < cycles → t ≤ (k + 1) * period - lead)

variable {period on lead t : F} {cycles j k : ℕ}

theorem start_le (hperiod : 0 ≤ period) (hjk : j ≤ k) : j * period ≤ k * period :=
  mul_le_mul_of_nonneg_right (Nat.cast_le.mpr hjk) hperiod

theorem start_succ_le (hperiod : 0 ≤ period) (hjk : j < k) : j * period + period ≤ k * period := by
  have hle : ((j + 1 : ℕ) : F) * period ≤ k * period := start_le hperiod hjk
  rw [Nat.cast_succ, add_one_mul] at hle
  exact hle

theorem litEarly_iff (hon : 0 < on) (hlead : 0 < lead) :
    LitEarly period on lead cycles t ↔ Lit period on cycles t ∨ Ahead period lead cycles t := by
  constructor
  · rintro ⟨k, hk, hstart, hend⟩
    rcases le_or_gt (k * period) t with hle | hlt
    · exact .inl ⟨k, hk, hle, hend⟩
    · exact .inr ⟨k, hk, hstart, hlt⟩
  · rintro (⟨k, hk, hstart, hend⟩ | ⟨k, hk, hstart, hend⟩)
    · exact ⟨k, hk, by linarith, hend⟩
    · exact ⟨k, hk, hstart, by linarith⟩

/-- Just ahead of an on-phase the wave is off: the on-phases before it are over. -/
theorem Ahead.not_lit (h : Ahead period lead cycles t) (hperiod : 0 < period)
    (hgap : on + lead ≤ period) :
    ¬Lit period on cycles t := by
  obtain ⟨k, -, hahead, hbefore⟩ := h
  rintro ⟨j, -, hstart, hend⟩
  have hjk : j < k := by
    by_contra hkj
    have hle := start_le hperiod.le (not_lt.mp hkj)
    linarith
  have hnext := start_succ_le hperiod.le hjk
  linarith

/-- **The early wave agrees with the wave except just ahead of the on-phases.** -/
theorem litEarly_iff_lit (hperiod : 0 < period) (hon : 0 < on) (hlead : 0 < lead)
    (hgap : on + lead ≤ period) :
    (LitEarly period on lead cycles t ↔ Lit period on cycles t) ↔ ¬Ahead period lead cycles t := by
  rw [litEarly_iff hon hlead]
  constructor
  · intro hagree hahead
    exact hahead.not_lit hperiod hgap (hagree.mp (.inr hahead))
  · exact fun hahead => ⟨fun h => h.resolve_right hahead, .inl⟩

/-- In a gap the early wave is off. -/
theorem InGap.not_litEarly (h : InGap period on lead cycles t) (hperiod : 0 < period) :
    ¬LitEarly period on lead cycles t := by
  obtain ⟨k, hover, hnext⟩ := h
  rintro ⟨j, hj, hstart, hend⟩
  rcases Nat.lt_or_ge k j with hkj | hjk
  · have hle := hnext (Nat.lt_of_le_of_lt hkj hj)
    have hsucc := start_succ_le hperiod.le hkj
    rw [add_one_mul] at hle
    linarith
  · have hle := start_le hperiod.le hjk
    linarith

/-- Where the early wave is off, there is a gap: the last on-phase before that instant is over. By
induction on the number of cycles: either the last of them has begun, or it may be left out. -/
theorem exists_gap (hlead : 0 < lead) (ht : 0 ≤ t) (hcycles : 0 < cycles)
    (hoff : ¬LitEarly period on lead cycles t) : InGap period on lead cycles t := by
  -- by induction on the number of cycles: either the last of them has begun, or it may be left out
  induction cycles, hcycles using Nat.le_induction with
  | base =>
    -- in the only cycle it is after the on-phase
    have hover : on ≤ t := by
      by_contra hlt
      refine hoff ⟨0, Nat.one_pos, ?_, ?_⟩
      · rw [Nat.cast_zero, zero_mul]
        linarith
      · rw [Nat.cast_zero, zero_mul, zero_add]
        exact not_le.mp hlt
    exact ⟨0, by rwa [Nat.cast_zero, zero_mul, zero_add], fun h => absurd h (Nat.lt_irrefl _)⟩
  | succ cycles _ ih =>
    rcases lt_or_ge (cycles * period - lead) t with hbegun | hahead
    · -- the last cycle has begun, and it is after its on-phase
      have hover : cycles * period + on ≤ t := by
        by_contra hlt
        exact hoff ⟨cycles, Nat.lt_succ_self _, hbegun, not_le.mp hlt⟩
      exact ⟨cycles, hover, fun h => absurd h (Nat.lt_irrefl _)⟩
    · obtain ⟨k, hover, hnext⟩ := ih fun ⟨k, hk, hlit⟩ => hoff ⟨k, Nat.lt_succ_of_lt hk, hlit⟩
      refine ⟨k, hover, fun hk => ?_⟩
      -- the cycle after the gap is one of those before, or the last one
      rcases Nat.lt_or_eq_of_le (Nat.le_of_lt_succ hk) with hlt | heq
      · exact hnext hlt
      · rw [← heq, Nat.cast_succ] at hahead
        exact hahead

/-- **The early wave is off exactly in the gaps.** -/
theorem not_litEarly_iff (hperiod : 0 < period) (hlead : 0 < lead) (ht : 0 ≤ t)
    (hcycles : 0 < cycles) :
    ¬LitEarly period on lead cycles t ↔ InGap period on lead cycles t :=
  ⟨exists_gap hlead ht hcycles, fun h => h.not_litEarly hperiod⟩

/-- At the start the wave is on. -/
theorem litEarly_zero (hon : 0 < on) (hlead : 0 < lead) (hcycles : 0 < cycles) :
    LitEarly period on lead cycles 0 :=
  ⟨0, hcycles, by simpa using hlead, by simpa using hon⟩

end Phases

section Cycles

variable {F : Type} [Field F] [LinearOrder F] [IsStrictOrderedRing F] [FloorSemiring F]
  {duration period on lead t : F} {k : ℕ}

/-- The number of cycles in a duration, to the nearest and at least one. -/
def roundedCycles (duration period : F) : ℕ := max 1 ⌊duration / period + 1 / 2⌋₊

omit [IsStrictOrderedRing F] in
theorem roundedCycles_pos : 0 < roundedCycles duration period :=
  Nat.lt_of_lt_of_le Nat.one_pos (le_max_left ..)

/-- A cycle counts if at least half of it fits. -/
theorem lt_roundedCycles (hperiod : 0 < period) (hk : 0 < k) :
    k < roundedCycles duration period ↔ (2 * k + 1) * period ≤ 2 * duration := by
  have hone : ¬k < 1 := Nat.not_lt.mpr hk
  have hfloor : k < ⌊duration / period + 1 / 2⌋₊ ↔ ((k + 1 : ℕ) : F) ≤ duration / period + 1 / 2 :=
    Nat.le_floor_iff' (Nat.succ_ne_zero k)
  have hhalf : ((k + 1 : ℕ) : F) ≤ duration / period + 1 / 2 ↔
      (k + 1 / 2 : F) ≤ duration / period := by
    rw [Nat.cast_succ]
    constructor <;> intro h <;> linarith
  have hdouble : (k + 1 / 2 : F) * period ≤ duration ↔ (2 * k + 1) * period ≤ 2 * duration := by
    constructor <;> intro h <;> linarith
  rw [roundedCycles, lt_max_iff, or_iff_right hone, hfloor, hhalf, le_div_iff₀ hperiod, hdouble]

/-- Being ahead of a cycle that counts. -/
theorem ahead_roundedCycles (hperiod : 0 < period) (ht : 0 ≤ t) :
    Ahead period lead (roundedCycles duration period) t ↔
      ∃ k : ℕ, (2 * k + 1) * period ≤ 2 * duration ∧ k * period - lead < t ∧ t < k * period := by
  have hpos : ∀ {k : ℕ}, t < k * period → 0 < k := by
    intro k hlt
    refine Nat.pos_of_ne_zero fun hk => ?_
    rw [hk, Nat.cast_zero, zero_mul] at hlt
    exact hlt.not_ge ht
  constructor
  · rintro ⟨k, hk, hahead, hlt⟩
    exact ⟨k, (lt_roundedCycles hperiod (hpos hlt)).mp hk, hahead, hlt⟩
  · rintro ⟨k, hk, hahead, hlt⟩
    exact ⟨k, (lt_roundedCycles hperiod (hpos hlt)).mpr hk, hahead, hlt⟩

/-- A gap among the cycles that count. -/
theorem inGap_roundedCycles (hperiod : 0 < period) :
    InGap period on lead (roundedCycles duration period) t ↔ ∃ k : ℕ, k * period + on ≤ t ∧
      (t ≤ (k + 1) * period - lead ∨ 2 * duration < (2 * k + 3) * period) := by
  refine exists_congr fun k => and_congr_right fun _ => ?_
  have hdrawn := @lt_roundedCycles F _ _ _ _ duration period (k + 1) hperiod (Nat.succ_pos k)
  rw [hdrawn, Nat.cast_succ, show (2 * ((k : F) + 1) + 1) =
    2 * k + 3 by ring, imp_iff_or_not, not_le]

end Cycles

section Truncation

variable {F : Type} [Field F] [LinearOrder F] [IsStrictOrderedRing F] {a m n : ℤ}

/-- Cutting a quotient to an integer makes what is just below zero zero. -/
theorem tdiv_nonneg_iff (hn : 0 < n) : 0 ≤ a.tdiv n ↔ (-1 : F) < a / n := by
  have hcast : (-1 : F) < a / n ↔ -n < a := by
    rw [lt_div_iff₀ (Int.cast_pos.mpr hn), neg_one_mul, ← Int.cast_neg, Int.cast_lt]
  rw [hcast]
  rcases lt_or_ge a 0 with hneg | hpos
  · have hcut : a.tdiv n = -(-a / n) := by
      rw [← Int.tdiv_eq_ediv_of_nonneg (by omega), Int.neg_tdiv, Int.neg_neg]
    have hquot : -a / n < 1 ↔ -a < 1 * n := Int.ediv_lt_iff_lt_mul hn
    omega
  · have hcut := Int.tdiv_nonneg hpos hn.le
    omega

/-- Above zero it changes no comparison with an integer. -/
theorem tdiv_lt_iff (hn : 0 < n) (hm : 0 < m) : a.tdiv n < m ↔ (a / n : F) < m := by
  have hcast : (a / n : F) < m ↔ a < m * n := by
    rw [div_lt_iff₀ (Int.cast_pos.mpr hn), ← Int.cast_mul, Int.cast_lt]
  rw [hcast]
  rcases lt_or_ge a 0 with hneg | hpos
  · have hcut : a.tdiv n = -(-a / n) := by
      rw [← Int.tdiv_eq_ediv_of_nonneg (by omega), Int.neg_tdiv, Int.neg_neg]
    have hquot : 0 ≤ -a / n := Int.ediv_nonneg (by omega) hn.le
    have hprod := Int.mul_pos hm hn
    omega
  · rw [Int.tdiv_eq_ediv_of_nonneg hpos, Int.ediv_lt_iff_lt_mul hn]

end Truncation

section Loops

variable {σ α : Type} {step : σ → α → σ} {Q : σ → Prop} {P : α → Prop}

/-- A flag that each step of a loop leaves alone or raises. -/
theorem foldl_iff {l : List α} (hstep : ∀ a ∈ l, ∀ s, Q (step s a) ↔ Q s ∨ P a) (s : σ) :
    Q (l.foldl step s) ↔ Q s ∨ ∃ a ∈ l, P a := by
  induction l generalizing s with
  | nil => simp
  | cons a l ih =>
    rw [List.foldl_cons, ih fun a ha => hstep a (List.mem_cons_of_mem _ ha),
      hstep a List.mem_cons_self, or_assoc]
    refine or_congr_right ⟨?_, ?_⟩
    · rintro (ha | ⟨b, hb, hP⟩)
      · exact ⟨a, List.mem_cons_self, ha⟩
      · exact ⟨b, List.mem_cons_of_mem _ hb, hP⟩
    · rintro ⟨b, hb, hP⟩
      rcases List.mem_cons.mp hb with rfl | hb
      · exact .inl hP
      · exact .inr ⟨b, hb, hP⟩

end Loops

end Waveform
