import BlueCommon.Lib.Waveform
import BlueCommon.Lights.LedFiles
import Mathlib.Algebra.Order.Ring.Int
import Mathlib.Data.Rat.Floor
import Mathlib.Tactic.FieldSimp
import Mathlib.Tactic.Ring

/-!
# LED patterns

A timed light is shown by 32 samples of a wave, one after the other within a duration of one or
eight seconds, and a delay after them.

* `testBit_patternDataOnBit`: the samples that are lit. The offset into a cycle is cut to whole
  milliseconds, so that a sample just ahead of a cycle counts as its first.
* `clampPhases_toInt`: the phases that are drawn, as long as their sum does not wrap around.
* `pattern_samples_wave`: when the samples are those of the wave.
* `timedPattern_short`, `timedPattern_long`: the two kinds of patterns.
* `timing_in_range_iff`, `timed_light_blinks_iff`: when the arithmetic stays in range, and when a
  timed light blinks.
-/

namespace BlueCommon

namespace Lights

open Waveform

/-! ### Samples -/

section Samples

/-- The values of `bit` and `now_cycle`, as the loops of `pattern_data_on_bit` go through them. -/
def patternSteps (duration totalMS : ℤ) : List (ℕ × ℕ) :=
  (List.range 32).flatMap fun bit =>
    (List.range (patternCycles duration totalMS).toNat).map fun nowCycle => (bit, nowCycle)

/-- The body of the loops. -/
def drawStep (duration : ℤ) (onMS offMS : Int32) (data : UInt32) (step : ℕ × ℕ) : UInt32 :=
  let s := patternOffset duration (onMS + offMS).toInt step.1 step.2
  if s ≥ 0 ∧ s < onMS.toInt then data ||| (1 <<< UInt32.ofNat step.1) else data

/-- The instant of a sample, in milliseconds. -/
def sampleInstant (duration : ℤ) (bit : ℕ) : ℚ := duration * bit / 32

variable {duration : ℤ} {onMS offMS : Int32} {data : UInt32} {bit b : ℕ}

theorem patternDataOnBit_eq : patternDataOnBit duration onMS offMS data =
    (patternSteps duration (onMS + offMS).toInt).foldl (drawStep duration onMS offMS) data := by
  unfold patternSteps patternDataOnBit
  rw [List.foldl_flatMap]
  simp only [List.foldl_map]
  rfl

theorem mem_patternSteps {totalMS : ℤ} {step : ℕ × ℕ} : step ∈ patternSteps duration totalMS ↔
    step.1 < 32 ∧ step.2 < (patternCycles duration totalMS).toNat := by
  obtain ⟨bit, nowCycle⟩ := step
  simp only [patternSteps, List.mem_flatMap, List.mem_map, List.mem_range, Prod.mk.injEq]
  constructor
  · rintro ⟨bit, hbit, nowCycle, hcycle, rfl, rfl⟩
    exact ⟨hbit, hcycle⟩
  · rintro ⟨hbit, hcycle⟩
    exact ⟨bit, hbit, nowCycle, hcycle, rfl, rfl⟩

/-- The loops run 32 times for each cycle. -/
theorem length_patternSteps (totalMS : ℤ) :
    (patternSteps duration totalMS).length = 32 * (patternCycles duration totalMS).toNat := by
  simp only [patternSteps, List.length_flatMap, List.length_map, List.length_range, List.map_const',
    List.sum_replicate, nsmul_eq_mul, Nat.cast_ofNat]

theorem testBit_or_one (hbit : bit < 32) :
    (data ||| (1 <<< UInt32.ofNat bit)).toNat.testBit b = true ↔ data.toNat.testBit b = true ∨
      b = bit := by
  have hmod : bit % 2 ^ 32 % 32 = bit := by omega
  have hpow : 2 ^ bit < 2 ^ 32 := Nat.pow_lt_pow_right (by decide) hbit
  have hone : (1 <<< UInt32.ofNat bit : UInt32).toNat = 2 ^ bit := by
    rw [UInt32.toNat_shiftLeft, UInt32.toNat_ofNat', hmod, UInt32.toNat_one, Nat.one_shiftLeft,
      Nat.mod_eq_of_lt hpow]
  rw [UInt32.toNat_or, hone, Nat.testBit_or, Bool.or_eq_true, Nat.testBit_two_pow,
    decide_eq_true_iff]
  exact or_congr_right eq_comm

theorem sampleInstant_nonneg (hduration : 0 ≤ duration) : 0 ≤ sampleInstant duration bit :=
  div_nonneg (mul_nonneg (Int.cast_nonneg hduration) (Nat.cast_nonneg _)) (by norm_num)

/-- The offset before it is cut to whole milliseconds. -/
theorem sampleInstant_sub {totalMS : ℤ} {nowCycle : ℕ} :
    ((duration * bit - 32 * (nowCycle * totalMS) : ℤ) / (32 : ℤ) : ℚ)
      = sampleInstant duration bit - nowCycle * totalMS := by
  rw [sampleInstant]
  push_cast
  ring

theorem patternOffset_nonneg {totalMS : ℤ} {nowCycle : ℕ} :
    patternOffset duration totalMS bit nowCycle ≥ 0 ↔
      (nowCycle * totalMS - 1 : ℚ) < sampleInstant duration bit := by
  show 0 ≤ Int.tdiv _ _ ↔ _
  rw [@tdiv_nonneg_iff ℚ _ _ _ _ _ (by decide), sampleInstant_sub]
  constructor <;> intro h <;> linarith

theorem patternOffset_lt {totalMS onMS : ℤ} {nowCycle : ℕ} (hon : 0 < onMS) :
    patternOffset duration totalMS bit nowCycle < onMS ↔
      sampleInstant duration bit < (nowCycle * totalMS + onMS : ℚ) := by
  rw [patternOffset, @tdiv_lt_iff ℚ _ _ _ _ _ _ (by decide) hon, sampleInstant_sub]
  constructor <;> intro h <;> linarith

/-- The cycles are rounded to the nearest number. -/
theorem patternCycles_eq {totalMS : ℤ} (hduration : 0 ≤ duration) (htotal : 0 < totalMS) :
    (patternCycles duration totalMS).toNat = roundedCycles (duration : ℚ) totalMS := by
  obtain ⟨d, rfl⟩ := Int.eq_ofNat_of_zero_le hduration
  obtain ⟨T, rfl⟩ := Int.eq_ofNat_of_zero_le htotal.le
  have hquot : (d / T + 1 / 2 : ℚ) = ((2 * d + T : ℕ) : ℚ) / ((2 * T : ℕ) : ℚ) := by
    have hT : (T : ℚ) ≠ 0 := Nat.cast_ne_zero.mpr (by omega)
    push_cast
    field_simp
  have hcut : (2 * (d : ℤ) + T).tdiv (2 * T) = ((2 * d + T) / (2 * T) : ℕ) := by
    rw [Int.tdiv_eq_ediv_of_nonneg (by omega)]
    push_cast
    rfl
  rw [patternCycles, roundedCycles, Int.cast_natCast, Int.cast_natCast, hquot, Nat.floor_div_eq_div]
  rw [hcut]
  generalize (2 * d + T) / (2 * T) = cycle
  split <;> omega

/-- **The samples that are lit**: the on-phases take in the last millisecond before them. The two
loops go over the cycles and the bits, and each step sets the bit of its sample if the instant is in
the lit part of the cycle. -/
theorem testBit_patternDataOnBit (hduration : 0 ≤ duration) (hon : 0 < onMS.toInt)
    (htotal : 0 < (onMS + offMS).toInt) :
    (patternDataOnBit duration onMS offMS data).toNat.testBit b = true ↔
    data.toNat.testBit b = true ∨
      b < 32 ∧ LitEarly ((onMS + offMS).toInt : ℚ) onMS.toInt 1
        (roundedCycles (duration : ℚ) (onMS + offMS).toInt) (sampleInstant duration b) := by
  -- one step of the loops sets the bit of its sample, if the instant is in the lit part
  have hstep : ∀ step ∈ patternSteps duration (onMS + offMS).toInt, ∀ data : UInt32,
      (drawStep duration onMS offMS data step).toNat.testBit b = true ↔
      data.toNat.testBit b = true ∨
        b = step.1 ∧ ((step.2 * (onMS + offMS).toInt - 1 : ℚ) < sampleInstant duration step.1 ∧
          sampleInstant duration step.1 < (step.2 * (onMS + offMS).toInt + onMS.toInt : ℚ)) := by
    intro step hmem data
    have hbit := (mem_patternSteps.mp hmem).1
    unfold drawStep
    dsimp only
    rw [← patternOffset_nonneg, ← patternOffset_lt hon]
    split
    next hs => rw [testBit_or_one hbit, and_iff_left hs]
    next hs => rw [or_iff_left fun h => hs h.2]
  have hloop := foldl_iff (Q := fun data : UInt32 => data.toNat.testBit b = true) hstep data
  rw [patternDataOnBit_eq, hloop]
  -- the loops meet every bit with every cycle
  refine or_congr_right ⟨?_, ?_⟩
  · rintro ⟨step, hmem, rfl, hlit⟩
    obtain ⟨hbit, hcycle⟩ := mem_patternSteps.mp hmem
    rw [patternCycles_eq hduration htotal] at hcycle
    exact ⟨hbit, step.2, hcycle, hlit⟩
  · rintro ⟨hbit, k, hcycle, hlit⟩
    rw [← patternCycles_eq hduration htotal] at hcycle
    exact ⟨(b, k), mem_patternSteps.mpr ⟨hbit, hcycle⟩, rfl, hlit⟩

end Samples

/-! ### Phases -/

section Phases

variable {onMS offMS : Int32}

/-- What fits into an `int`. -/
def IsInt (n : ℤ) : Prop := -2147483648 ≤ n ∧ n ≤ 2147483647

theorem bmod_of_isInt {n : ℤ} (h : IsInt n) : n.bmod (2 ^ 32) = n := by
  obtain ⟨hlo, hhi⟩ := h
  rw [Int.bmod_eq_of_le] <;> omega

theorem toInt_add_of_isInt {a b : Int32} (h : IsInt (a.toInt + b.toInt)) :
    (a + b).toInt = a.toInt + b.toInt := by
  rw [Int32.toInt_add, bmod_of_isInt h]

theorem toInt_sub_of_isInt {a b : Int32} (h : IsInt (a.toInt - b.toInt)) :
    (a - b).toInt = a.toInt - b.toInt := by
  rw [Int32.toInt_sub, bmod_of_isInt h]

theorem toInt_mul_of_isInt {a b : Int32} (h : IsInt (a.toInt * b.toInt)) :
    (a * b).toInt = a.toInt * b.toInt := by
  rw [Int32.toInt_mul, bmod_of_isInt h]

theorem toInt_ite_min {a b : Int32} : (if a > b then b else a).toInt = min a.toInt b.toInt := by
  split
  next hlt => rw [min_eq_right (Int32.lt_iff_toInt_lt.mp hlt).le]
  next hge => rw [min_eq_left (not_lt.mp fun hlt => hge (Int32.lt_iff_toInt_lt.mpr hlt))]

/-- A sum of phases that does not wrap around. -/
theorem toInt_add_of_le (hon : 0 < onMS.toInt) (hoff : 0 < offMS.toInt)
    (hsum : onMS.toInt + offMS.toInt ≤ 2147483647) :
    (onMS + offMS).toInt = onMS.toInt + offMS.toInt :=
  toInt_add_of_isInt ⟨by omega, hsum⟩

/-- The phases that are drawn, if their sum does not wrap around. -/
theorem clampPhases_toInt (hon : 0 < onMS.toInt) (hoff : 0 < offMS.toInt)
    (hsum : onMS.toInt + offMS.toInt ≤ 2147483647) :
    (clampPhases onMS offMS).1.toInt =
        (if 15000 < onMS.toInt + offMS.toInt then min onMS.toInt 8000 else onMS.toInt) ∧
      (clampPhases onMS offMS).2.toInt =
        if 15000 < onMS.toInt + offMS.toInt then min offMS.toInt (15000 - min onMS.toInt 8000)
        else offMS.toInt := by
  have hadd := toInt_add_of_le hon hoff hsum
  have h15000 : (15000 : Int32).toInt = 15000 := rfl
  have hguard : onMS + offMS > 15000 ↔ 15000 < onMS.toInt + offMS.toInt := by
    rw [gt_iff_lt, Int32.lt_iff_toInt_lt, hadd, h15000]
  -- the arithmetic of 32 bits is exact below the bound on the sum
  unfold clampPhases
  dsimp only
  by_cases hlong : 15000 < onMS.toInt + offMS.toInt
  · have hclamped : (if onMS > 8000 then 8000 else onMS).toInt = min onMS.toInt 8000 :=
      toInt_ite_min
    rw [if_pos (hguard.mpr hlong), if_pos hlong, if_pos hlong]
    refine ⟨hclamped, ?_⟩
    generalize (if onMS > 8000 then 8000 else onMS) = on at hclamped
    -- what is left of the 15 seconds
    have hrest : (15000 - on).toInt = 15000 - min onMS.toInt 8000 := by
      rw [toInt_sub_of_isInt ⟨by omega, by omega⟩, h15000, hclamped]
    exact hrest ▸ toInt_ite_min
  · rw [if_neg fun h => hlong (hguard.mp h), if_neg hlong, if_neg hlong]
    exact ⟨rfl, rfl⟩

end Phases

/-! ### Sampling the wave -/

section Waves

variable {duration : ℤ} {onMS offMS : Int32}

/-- Exactly the samples within the wave of the given phases are added to the data: a bit is set if
it was, or if the wave is lit at its instant in one of the cycles that the loop counts. -/
def SamplesWave (duration : ℤ) (onMS offMS : Int32) : Prop :=
  ∀ data : UInt32, ∀ b < 32, (patternDataOnBit duration onMS offMS data).toNat.testBit b = true ↔
    data.toNat.testBit b = true ∨
      Lit (onMS.toInt + offMS.toInt : ℚ) onMS.toInt
        (roundedCycles (duration : ℚ) (onMS.toInt + offMS.toInt)) (sampleInstant duration b)

/-- A sample less than a millisecond ahead of a cycle of which at least half fits into the
duration. -/
def SampleAhead (duration : ℤ) (onMS offMS : Int32) : Prop :=
  ∃ b < 32, ∃ k : ℕ, (2 * k + 1) * (onMS.toInt + offMS.toInt : ℚ) ≤ 2 * duration ∧
    k * (onMS.toInt + offMS.toInt : ℚ) - 1 < sampleInstant duration b ∧
    sampleInstant duration b < k * (onMS.toInt + offMS.toInt : ℚ)

/-- The samples are those of the wave exactly if no sample is ahead of it. The loop counts as many
cycles as the rounded quotient says, so only the last, partial cycle can be missing. -/
theorem samplesWave_iff (hduration : 0 ≤ duration) (hon : 0 < onMS.toInt) (hoff : 0 < offMS.toInt)
    (hsum : onMS.toInt + offMS.toInt ≤ 15000) :
    SamplesWave duration onMS offMS ↔ ¬SampleAhead duration onMS offMS := by
  have htotal := toInt_add_of_le hon hoff (by omega)
  have hcast : ((onMS + offMS).toInt : ℚ) = onMS.toInt + offMS.toInt := by rw [htotal, Int.cast_add]
  -- over the rationals both phases are at least one millisecond
  have honQ : (1 : ℚ) ≤ onMS.toInt := by exact_mod_cast hon
  have hoffQ : (1 : ℚ) ≤ offMS.toInt := by exact_mod_cast hoff
  have hperiod : (0 : ℚ) < onMS.toInt + offMS.toInt := by linarith
  -- a bit is set if it was, or if its instant is lit
  have hbits : ∀ {data : UInt32} {b : ℕ}, b < 32 →
      ((patternDataOnBit duration onMS offMS data).toNat.testBit b = true ↔
        data.toNat.testBit b = true ∨
        LitEarly (onMS.toInt + offMS.toInt : ℚ) onMS.toInt 1
          (roundedCycles (duration : ℚ) (onMS.toInt + offMS.toInt))
            (sampleInstant duration b)) := by
    -- the loop counts as many cycles as the rounded quotient says
    intro data b hb
    rw [testBit_patternDataOnBit hduration hon (by omega), and_iff_right hb, hcast]
  -- the sample that is missing is the one whose cycle has not been counted
  constructor
  · -- the sample is missing, though the wave is on at its instant
    rintro hsamples ⟨b, hb, hmissing⟩
    have hagree := (hbits hb).symm.trans (hsamples 0 b hb)
    rw [UInt32.toNat_zero, Nat.zero_testBit, or_iff_right Bool.false_ne_true,
      or_iff_right Bool.false_ne_true] at hagree
    exact (litEarly_iff_lit hperiod (by linarith) one_pos (by linarith)).mp hagree
      ((ahead_roundedCycles hperiod (sampleInstant_nonneg hduration)).mpr hmissing)
  · -- no cycle is left out, so the bit is that of the wave
    intro hnone data b hb
    rw [hbits hb]
    refine or_congr_right ((litEarly_iff_lit hperiod (by linarith) one_pos (by linarith)).mpr
      fun hahead => ?_)
    exact hnone ⟨b, hb, (ahead_roundedCycles hperiod (sampleInstant_nonneg hduration)).mp hahead⟩

/-- Within eight seconds the samples are whole milliseconds apart. -/
theorem not_sampleAhead_eight : ¬SampleAhead 8000 onMS offMS := by
  rintro ⟨b, -, k, -, hahead, hbefore⟩
  have hinstant : sampleInstant 8000 b = ((250 * b : ℤ) : ℚ) := by
    rw [sampleInstant]
    push_cast
    ring
  have hstart : (k * (onMS.toInt + offMS.toInt) : ℚ) =
      ((k * (onMS.toInt + offMS.toInt) : ℤ) : ℚ) := by
    push_cast
    rfl
  rw [hinstant, hstart] at hahead hbefore
  have hle := Int.cast_lt.mp hbefore
  have hlt : (k * (onMS.toInt + offMS.toInt) - 1 : ℤ) < 250 * b := by exact_mod_cast hahead
  omega

/-- **The samples are those of the wave**, unless one of them is cut to the start of a cycle: the
instants are multiples of a 32nd of the duration, which for one second is no whole number of
milliseconds. -/
theorem pattern_samples_wave (hduration : duration = 1000 ∨ duration = 8000) (hon : 0 < onMS)
    (hoff : 0 < offMS) (hsum : onMS.toInt + offMS.toInt ≤ 15000) :
    SamplesWave duration onMS offMS ↔ (duration = 1000 → ¬SampleAhead 1000 onMS offMS) := by
  have hiff := @samplesWave_iff duration onMS offMS (by omega) (Int32.lt_iff_toInt_lt.mp hon)
    (Int32.lt_iff_toInt_lt.mp hoff) hsum
  rw [hiff]
  rcases hduration with rfl | rfl
  · exact ⟨fun h _ => h, fun h => h rfl⟩
  · exact ⟨fun _ h => absurd h (by decide), fun _ => not_sampleAhead_eight⟩

theorem pattern_samples_wave_slow :
    SamplesWave 8000 3000 1000 ↔ ((8000 : ℤ) = 1000 → ¬SampleAhead 1000 3000 1000) :=
  pattern_samples_wave (.inr rfl) (by decide) (by decide) (by decide)

/-- A sample at 187.5 ms counts as the start of the cycle at 188 ms. -/
theorem sample_ahead_lit : ¬SamplesWave 1000 100 88 := by
  intro hsamples
  have hlit : (patternDataOnBit 1000 100 88 0).toNat.testBit 6 = true := by decide +kernel
  rcases (hsamples 0 6 (by decide)).mp hlit with hbit | ⟨k, -, hstart, hend⟩
  · exact absurd hbit (by decide)
  · have hon : (100 : Int32).toInt = 100 := rfl
    have hoff : (88 : Int32).toInt = 88 := rfl
    rw [hon, hoff, sampleInstant] at hstart
    rw [hon, hoff, sampleInstant] at hend
    push_cast at hstart hend
    have hk : k = 0 := by
      by_contra hk
      have hone : (1 : ℚ) ≤ k := Nat.one_le_cast.mpr (Nat.pos_of_ne_zero hk)
      linarith
    rw [hk, Nat.cast_zero] at hend
    linarith

end Waves

/-! ### Timed patterns -/

section Timed

variable {onMS offMS : Int32}

theorem clampPhases_bounds (hon : 0 < onMS.toInt) (hoff : 0 < offMS.toInt)
    (hsum : onMS.toInt + offMS.toInt ≤ 2147483647) :
    0 < (clampPhases onMS offMS).1.toInt ∧ (clampPhases onMS offMS).1.toInt ≤ 15000 ∧
      0 < (clampPhases onMS offMS).2.toInt ∧
      (clampPhases onMS offMS).1.toInt + (clampPhases onMS offMS).2.toInt ≤ 15000 := by
  obtain ⟨hon', hoff'⟩ := clampPhases_toInt hon hoff hsum
  rw [hon', hoff']
  split <;> omega

/-- Phases of at most 15 s are drawn as they are. -/
theorem clampPhases_of_le (hon : 0 < onMS.toInt) (hoff : 0 < offMS.toInt)
    (hsum : onMS.toInt + offMS.toInt ≤ 15000) : clampPhases onMS offMS = (onMS, offMS) := by
  have hadd := toInt_add_of_le hon hoff (by omega)
  refine if_neg fun hlong => ?_
  have hlt := Int32.lt_iff_toInt_lt.mp hlong
  rw [hadd] at hlt
  exact absurd hsum (not_le.mpr hlt)

/-- The pattern takes one second: the period is under eight seconds and the light is on for less
than one. -/
def IsShort (onMS offMS : Int32) : Prop := onMS.toInt + offMS.toInt < 8000 ∧ onMS.toInt < 1000

instance : Decidable (IsShort onMS offMS) := inferInstanceAs (Decidable (_ ∧ _))

variable {on off : Int32}

theorem isShort_iff (hadd : (on + off).toInt = on.toInt + off.toInt) :
    on + off < 8000 ∧ on < 1000 ↔ IsShort on off := by
  rw [Int32.lt_iff_toInt_lt, Int32.lt_iff_toInt_lt, hadd]
  rfl

/-- The delay of a short pattern: the seconds that the period lasts longer, or one for a long off
phase. -/
theorem shortDelay_toInt (hadd : (on + off).toInt = on.toInt + off.toInt) (hon : 0 < on.toInt)
    (hoff : 0 < off.toInt) (hshort : IsShort on off) :
    (if on + off - 1000 < 1000 then if off > 3 * on then 1 else 0
        else (on + off - 1000) / 1000 : Int32).toInt =
      if on.toInt + off.toInt < 2000 then if 3 * on.toInt < off.toInt then 1 else 0
      else (on.toInt + off.toInt - 1000) / 1000 := by
  obtain ⟨htotal, hshort⟩ := hshort
  have h1000 : (1000 : Int32).toInt = 1000 := rfl
  have h3 : (3 : Int32).toInt = 3 := rfl
  -- nothing overflows, so the code computes over the integers
  have hsub : (on + off - 1000).toInt = on.toInt + off.toInt - 1000 := by
    rw [toInt_sub_of_isInt ⟨by omega, by omega⟩, hadd, h1000]
  have hmul : (3 * on).toInt = 3 * on.toInt := by
    have hthree : IsInt (3 * on.toInt) := ⟨by omega, by omega⟩
    rw [toInt_mul_of_isInt (by rw [h3]; exact hthree), h3]
  -- both comparisons are those of the integers
  have hperiod : on + off - 1000 < 1000 ↔ on.toInt + off.toInt < 2000 := by
    rw [Int32.lt_iff_toInt_lt, hsub, h1000]
    omega
  have hlong : off > 3 * on ↔ 3 * on.toInt < off.toInt := by
    rw [gt_iff_lt, Int32.lt_iff_toInt_lt, hmul]
  -- the branches of the delay
  by_cases hless : on.toInt + off.toInt < 2000
  · rw [if_pos (hperiod.mpr hless), if_pos hless]
    by_cases hgap : 3 * on.toInt < off.toInt
    · rw [if_pos (hlong.mpr hgap), if_pos hgap]
      rfl
    · rw [if_neg fun h => hgap (hlong.mp h), if_neg hgap]
      rfl
  · -- the period is long: whole seconds are left for the delay
    rw [if_neg fun h => hless (hperiod.mp h), if_neg hless, Int32.toInt_div, hsub, h1000,
      Int.tdiv_eq_ediv_of_nonneg (by omega), bmod_of_isInt ⟨by omega, by omega⟩]

theorem timedPattern_short (hclamp : clampPhases onMS offMS = (on, off))
    (hadd : (on + off).toInt = on.toInt + off.toInt) (hon : 0 < on.toInt) (hoff : 0 < off.toInt)
    (hshort : IsShort on off) :
    (timedPattern onMS offMS).data = patternDataOnBit 1000 on off 0 ∧
    (timedPattern onMS offMS).duration = 1 ∧
      (timedPattern onMS offMS).delay.toInt =
        if on.toInt + off.toInt < 2000 then if 3 * on.toInt < off.toInt then 1 else 0
        else (on.toInt + off.toInt - 1000) / 1000 := by
  have hguard := (isShort_iff hadd).mpr hshort
  unfold timedPattern
  rw [hclamp]
  dsimp only
  rw [if_pos hguard]
  exact ⟨rfl, rfl, shortDelay_toInt hadd hon hoff hshort⟩

theorem timedPattern_long (hclamp : clampPhases onMS offMS = (on, off))
    (hadd : (on + off).toInt = on.toInt + off.toInt) (hsum : 0 ≤ on.toInt + off.toInt)
    (hle : on.toInt + off.toInt ≤ 15000) (hlong : ¬IsShort on off) :
    (timedPattern onMS offMS).data = patternDataOnBit 8000 on off 0 ∧
    (timedPattern onMS offMS).duration = 8 ∧
      (timedPattern onMS offMS).delay = 0 := by
  -- the phases are not short, so the samples cover eight seconds
  have hguard : ¬(on + off < 8000 ∧ on < 1000) := fun h => hlong ((isShort_iff hadd).mp h)
  have hsub : (on + off - 8000).toInt = on.toInt + off.toInt - 8000 := by
    rw [toInt_sub_of_isInt
      ⟨by rw [hadd]; show _ ≤ _ - 8000; omega, by rw [hadd]; show _ - 8000 ≤ _; omega⟩, hadd]
    rfl
  -- what is left of the period is less than that, so there is no delay
  have hdelay : on + off - 8000 < 8000 := by
    rw [Int32.lt_iff_toInt_lt, hsub]
    show _ < (8000 : ℤ)
    omega
  unfold timedPattern
  rw [hclamp]
  dsimp only
  rw [if_neg hguard]
  exact ⟨rfl, rfl, if_pos hdelay⟩

theorem delay_nonneg (hclamp : clampPhases onMS offMS = (on, off))
    (hadd : (on + off).toInt = on.toInt + off.toInt) (hon : 0 < on.toInt) (hoff : 0 < off.toInt)
    (hle : on.toInt + off.toInt ≤ 15000) : 0 ≤ (timedPattern onMS offMS).delay.toInt := by
  by_cases hshort : IsShort on off
  · rw [(timedPattern_short hclamp hadd hon hoff hshort).2.2]
    split
    · split <;> decide
    · omega
  · rw [(timedPattern_long hclamp hadd (by omega) hle hshort).2.2]
    decide

/-- A delay follows a short pattern with a period of two seconds or a long off phase only. -/
theorem delay_pos_iff (hclamp : clampPhases onMS offMS = (on, off))
    (hadd : (on + off).toInt = on.toInt + off.toInt) (hon : 0 < on.toInt) (hoff : 0 < off.toInt)
    (hle : on.toInt + off.toInt ≤ 15000) : 0 < (timedPattern onMS offMS).delay ↔
      IsShort on off ∧ (2000 ≤ on.toInt + off.toInt ∨ 3 * on.toInt < off.toInt) := by
  have hzero : (0 : Int32).toInt = 0 := rfl
  rw [Int32.lt_iff_toInt_lt, hzero]
  by_cases hshort : IsShort on off
  · rw [(timedPattern_short hclamp hadd hon hoff hshort).2.2, and_iff_right hshort]
    split
    · split <;> omega
    · omega
  · rw [(timedPattern_long hclamp hadd (by omega) hle hshort).2.2, hzero]
    exact ⟨fun h => absurd h (by decide), fun h => absurd h.1 hshort⟩

/-- The duration of the samples, in milliseconds: one second for a short pattern and eight for any
other. -/
def samplesMS (onMS offMS : Int32) : ℤ := if IsShort onMS offMS then 1000 else 8000

theorem samplesMS_eq : samplesMS onMS offMS = 1000 ∨ samplesMS onMS offMS = 8000 := by
  unfold samplesMS
  split
  · exact .inl rfl
  · exact .inr rfl

theorem timedPattern_samples (hclamp : clampPhases onMS offMS = (on, off))
    (hadd : (on + off).toInt = on.toInt + off.toInt) (hon : 0 < on.toInt) (hoff : 0 < off.toInt)
    (hle : on.toInt + off.toInt ≤ 15000) :
    (timedPattern onMS offMS).data = patternDataOnBit (samplesMS on off) on off 0 ∧
      1000 * (timedPattern onMS offMS).duration.toInt = samplesMS on off := by
  unfold samplesMS
  by_cases hshort : IsShort on off
  · obtain ⟨hdata, hduration, -⟩ := timedPattern_short hclamp hadd hon hoff hshort
    rw [if_pos hshort, hdata, hduration]
    exact ⟨rfl, rfl⟩
  · obtain ⟨hdata, hduration, -⟩ := timedPattern_long hclamp hadd (by omega) hle hshort
    rw [if_neg hshort, hdata, hduration]
    exact ⟨rfl, rfl⟩

end Timed

/-! ### The range of the arithmetic -/

section Range

/-- The loops of `pattern_data_on_bit` run, but not too often, and on values that fit. -/
structure LoopsInRange (duration totalMS : ℤ) : Prop where
  cycles_pos : 0 < patternCycles duration totalMS
  steps_le : ((patternSteps duration totalMS).length : ℤ) ≤ 32 * patternCycles duration totalMS
  start : ∀ step ∈ patternSteps duration totalMS, IsInt (step.2 * totalMS)
  offset : ∀ step ∈ patternSteps duration totalMS,
      IsInt (patternOffset duration totalMS step.1 step.2)

/-- The arithmetic on the phases of a timed light, of which `on` and `off` are drawn: no value that
is computed on the way leaves the range of an `int`. -/
structure TimingInRange (onMS offMS on off : Int32) (pattern : Pattern) : Prop where
  requested : IsInt (onMS.toInt + offMS.toInt)
  unclamped : onMS.toInt + offMS.toInt ≤ 15000 → on = onMS ∧ off = offMS
  rest : IsInt (15000 - on.toInt)
  on_pos : 0 < on.toInt
  on_le : on.toInt ≤ 15000
  off_pos : 0 < off.toInt
  total_eq : (on + off).toInt = on.toInt + off.toInt
  total_pos : 0 < (on + off).toInt
  total_le : (on + off).toInt ≤ 15000
  late : IsInt ((on + off).toInt - 1000) ∧ IsInt ((on + off).toInt - 8000)
  triple : IsShort on off → IsInt (3 * on.toInt)
  loops : LoopsInRange (1000 * pattern.duration.toInt) (on + off).toInt
  delay : 0 ≤ pattern.delay.toInt

variable {duration totalMS : ℤ}

/-- A cycle that is drawn starts within the duration. -/
theorem cycle_start_le (hduration : 0 ≤ duration) (htotal : 0 < totalMS) {nowCycle : ℕ}
    (hcycle : nowCycle < (patternCycles duration totalMS).toNat) :
    nowCycle * totalMS ≤ duration := by
  rw [patternCycles_eq hduration htotal] at hcycle
  rcases Nat.eq_zero_or_pos nowCycle with rfl | hpos
  · rw [Nat.cast_zero, zero_mul]
    exact hduration
  · have hhalf := (lt_roundedCycles (Int.cast_pos.mpr htotal) hpos).mp hcycle
    have hint : (2 * nowCycle + 1) * totalMS ≤ 2 * duration := by exact_mod_cast hhalf
    linarith

theorem patternOffset_isInt (hduration : 0 ≤ duration) (hle : duration ≤ 8000) {bit nowCycle : ℕ}
    (hbit : bit < 32) (hpos : 0 ≤ nowCycle * totalMS) (hstart : nowCycle * totalMS ≤ duration) :
    IsInt (patternOffset duration totalMS bit nowCycle) := by
  have hsample : duration * bit ≤ 8000 * 32 :=
    mul_le_mul hle (by exact_mod_cast hbit.le) (Int.natCast_nonneg _) (by decide)
  have hsample_nonneg : 0 ≤ duration * bit := mul_nonneg hduration (Int.natCast_nonneg _)
  have hsign : Int.sign 32 = 1 := rfl
  rw [patternOffset, Int.tdiv_eq_ediv, hsign]
  unfold IsInt
  split <;> omega

theorem loopsInRange (hduration : 0 ≤ duration) (hle : duration ≤ 8000) (htotal : 0 < totalMS) :
    LoopsInRange duration totalMS := by
  have hpos : 0 < patternCycles duration totalMS := by
    have hrounded := patternCycles_eq hduration htotal ▸ roundedCycles_pos
    exact Int.lt_toNat.mp hrounded
  have hstart : ∀ step ∈ patternSteps duration totalMS,
      0 ≤ step.2 * totalMS ∧ step.2 * totalMS ≤ duration := fun step hmem =>
    ⟨mul_nonneg (Int.natCast_nonneg _) htotal.le,
      cycle_start_le hduration htotal (mem_patternSteps.mp hmem).2⟩
  refine ⟨hpos, ?_, fun step hmem => ?_, fun step hmem => ?_⟩
  · rw [length_patternSteps]
    push_cast
    rw [Int.toNat_of_nonneg hpos.le]
  · obtain ⟨hnonneg, hbefore⟩ := hstart step hmem
    exact ⟨by omega, by omega⟩
  · obtain ⟨hnonneg, hbefore⟩ := hstart step hmem
    exact patternOffset_isInt hduration hle (mem_patternSteps.mp hmem).1 hnonneg hbefore

/-- The pattern of a timed light. -/
theorem ledsPattern_timed {state : LightState} (hmode : state.flashMode = lightFlashTimed)
    (hon : 0 < state.flashOnMS) (hoff : 0 < state.flashOffMS) :
    ledsPattern state = { timedPattern state.flashOnMS state.flashOffMS with useSoftdim := 1 } := by
  have hne : state.flashOffMS ≠ 0 := fun h => absurd (h ▸ hoff) (by decide)
  have heffective : effectiveFlashMode state = lightFlashTimed := by
    rw [effectiveFlashMode, if_neg hne, hmode]
  have hphases : flashPhases state = (state.flashOnMS, state.flashOffMS) := by
    rw [flashPhases, if_pos heffective]
  unfold ledsPattern
  rw [hphases, if_pos heffective]
  exact if_pos ⟨hon, hoff⟩

/-- **The arithmetic stays in range** exactly if the sum of the phases does. It is the first value
that is computed, before the clamp; once it fits, so does everything that is computed from it. -/
theorem timing_in_range_iff {state : LightState} (hmode : state.flashMode = lightFlashTimed)
    (hon : 0 < state.flashOnMS) (hoff : 0 < state.flashOffMS) :
    TimingInRange state.flashOnMS state.flashOffMS (clampPhases state.flashOnMS state.flashOffMS).1
        (clampPhases state.flashOnMS state.flashOffMS).2 (ledsPattern state) ↔
      state.flashOnMS.toInt + state.flashOffMS.toInt ≤ 2147483647 := by
  -- the sum of the phases that were asked for is the first of the computations
  refine ⟨fun h => h.requested.2, fun hsum => ?_⟩
  -- the phases that are used are those after the clamp
  rw [ledsPattern_timed hmode hon hoff]
  have hon : 0 < state.flashOnMS.toInt := Int32.lt_iff_toInt_lt.mp hon
  have hoff : 0 < state.flashOffMS.toInt := Int32.lt_iff_toInt_lt.mp hoff
  -- the clamp leaves phases alone that are short enough
  have hunclamped := @clampPhases_of_le state.flashOnMS state.flashOffMS hon hoff
  obtain ⟨honPos, honLe, hoffPos, htotalLe⟩ := clampPhases_bounds hon hoff hsum
  generalize hclamp : clampPhases state.flashOnMS state.flashOffMS = phases at *
  obtain ⟨on, off⟩ := phases
  dsimp only at honPos honLe hoffPos htotalLe ⊢
  -- the clamped phases add up without an overflow
  have hadd := toInt_add_of_le honPos hoffPos (by omega)
  obtain ⟨-, hduration⟩ := timedPattern_samples hclamp hadd honPos hoffPos htotalLe
  have hsamples := @samplesMS_eq on off
  -- the loop runs over the whole duration
  have hloops : LoopsInRange (1000 * (timedPattern state.flashOnMS state.flashOffMS).duration.toInt)
      (on + off).toInt := by
    rw [hduration]
    exact loopsInRange (by omega) (by omega) (by omega)
  -- each of the other computations is bounded by the period
  exact
    { requested := ⟨by omega, hsum⟩
      unclamped := fun hle => Prod.mk.inj (hunclamped hle)
      rest := ⟨by omega, by omega⟩
      on_pos := honPos
      on_le := honLe
      off_pos := hoffPos
      total_eq := hadd
      total_pos := by omega
      total_le := by omega
      late := ⟨⟨by omega, by omega⟩, ⟨by omega, by omega⟩⟩
      triple := fun hshort => ⟨by omega, by have := hshort.2; omega⟩
      loops := hloops
      delay := delay_nonneg hclamp hadd honPos hoffPos htotalLe }

theorem timing_in_range_iff_second :
    TimingInRange 500 500 (clampPhases 500 500).1 (clampPhases 500 500).2
      (ledsPattern ⟨0xFFFFFF, 1, 500, 500⟩) ↔
      (500 : Int32).toInt + (500 : Int32).toInt ≤ 2147483647 :=
  @timing_in_range_iff ⟨0xFFFFFF, 1, 500, 500⟩ rfl (by decide) (by decide)

/-- If the sum of the phases wraps around, they are drawn as they are, in cycles of negative
length. -/
theorem clampPhases_of_wraps {onMS offMS : Int32} (hsum : 2147483647 < onMS.toInt + offMS.toInt) :
    clampPhases onMS offMS = (onMS, offMS) ∧ (onMS + offMS).toInt < 0 := by
  have honLt := onMS.toInt_lt
  have hoffLt := offMS.toInt_lt
  have hwrapped : (onMS + offMS).toInt = onMS.toInt + offMS.toInt - 4294967296 := by
    rw [Int32.toInt_add, ← Int.sub_bmod_right, Int.bmod_eq_of_le] <;> omega
  have hneg : (onMS + offMS).toInt < 0 := by omega
  refine ⟨if_neg fun hlong => ?_, hneg⟩
  have hlt := Int32.lt_iff_toInt_lt.mp hlong
  exact absurd (hlt.trans hneg) (by decide)

theorem total_wraps : ¬TimingInRange 2147483647 2147483647 (clampPhases 2147483647 2147483647).1
    (clampPhases 2147483647 2147483647).2 (ledsPattern ⟨0xFFFFFF, 1, 2147483647, 2147483647⟩) := by
  obtain ⟨hclamp, hneg⟩ := @clampPhases_of_wraps 2147483647 2147483647 (by decide)
  rw [hclamp]
  exact fun h => hneg.not_gt h.total_pos

end Range

/-! ### Blinking -/

section Blinking

/-- The pattern files hold the pattern: its samples, their duration and the delay after them, each
in the format of its file. -/
structure Programmed (s : State) (pattern : Pattern) : Prop where
  data : s.contents .patternData = formatHex pattern.data ++ "\n"
  duration : s.contents .patternDurationSecs = toString pattern.duration.toInt ++ "\n"
  delay : s.contents .patternDelay = toString pattern.delay.toInt ++ "\n"

/-- The light of the pattern comes on and goes off. What a period takes over eight seconds of
samples is not left out if it is a second or more. -/
structure Blinks (periodMS : ℤ) (pattern : Pattern) : Prop where
  lit : pattern.data.toNat.testBit 0 = true
  dark : (∃ b < 32, pattern.data.toNat.testBit b = false) ∨ 0 < pattern.delay
  late : pattern.duration = 8 → 9000 ≤ periodMS → 0 < pattern.delay

/-- A sample after an on-phase, and at least a millisecond ahead of the next one if half of that
cycle fits. -/
def SampleInGap (duration : ℤ) (onMS offMS : Int32) : Prop :=
  ∃ b < 32, ∃ k : ℕ, k * (onMS.toInt + offMS.toInt : ℚ) + onMS.toInt ≤ sampleInstant duration b ∧
    (sampleInstant duration b ≤ (k + 1) * (onMS.toInt + offMS.toInt : ℚ) - 1 ∨
      2 * duration < (2 * k + 3) * (onMS.toInt + offMS.toInt : ℚ))

variable {duration : ℤ} {onMS offMS on off : Int32}

theorem setLightLedsLocked_programmed {dev : Device} {state : LightState} {s : State}
    (hwritable : ∀ f ∈ ledFiles, s.writable f = true) (huse : (ledsPattern state).useSoftdim ≠ 0) :
    Programmed (setLightLedsLocked dev state s) (ledsPattern state) := by
  -- a file that can be written holds the last text that was written to it
  have hled : ∀ {f : File} {writes : List (File × String)} {text : String}, f ∈ ledFiles →
      Overwrite.lastWrite f writes = some text →
      ((clearLightsLocked dev s).perform writes).contents f = text := by
    intro f writes text hf hlast
    rw [perform_contents, clearLightsLocked_writable, if_pos (hwritable f hf), hlast]
    rfl
  -- the files of the logo are others
  have hlogo : ∀ f ∈ ledFiles, f ∉ logoFiles := by decide
  unfold setLightLedsLocked
  dsimp only
  rw [if_pos huse]
  -- with a logo its files are written after the LEDs
  split
  · refine ⟨?_, ?_, ?_⟩
    all_goals rw [perform_of_notMem (hlogo _ (by decide))]
    · exact hled (by decide) rfl
    · exact hled (by decide) rfl
    · exact hled (by decide) rfl
  · exact ⟨hled (by decide) rfl, hled (by decide) rfl, hled (by decide) rfl⟩

theorem first_sample_lit (hduration : 0 ≤ duration) (hon : 0 < onMS.toInt)
    (htotal : 0 < (onMS + offMS).toInt) :
    (patternDataOnBit duration onMS offMS 0).toNat.testBit 0 = true := by
  rw [testBit_patternDataOnBit hduration hon htotal]
  have hzero : sampleInstant duration 0 = 0 := by
    rw [sampleInstant, Nat.cast_zero, mul_zero, zero_div]
  rw [hzero]
  exact .inr ⟨by decide, litEarly_zero (Int.cast_pos.mpr hon) one_pos roundedCycles_pos⟩

theorem dark_sample_iff (hduration : 0 ≤ duration) (hon : 0 < onMS.toInt) (hoff : 0 < offMS.toInt)
    (hsum : onMS.toInt + offMS.toInt ≤ 15000) :
    (∃ b < 32, (patternDataOnBit duration onMS offMS 0).toNat.testBit b = false) ↔
      SampleInGap duration onMS offMS := by
  have htotal := toInt_add_of_le hon hoff (by omega)
  have hcast : ((onMS + offMS).toInt : ℚ) = onMS.toInt + offMS.toInt := by rw [htotal, Int.cast_add]
  have hperiod : (0 : ℚ) < onMS.toInt + offMS.toInt := by
    rw [← hcast]
    exact Int.cast_pos.mpr (by omega)
  -- sample by sample: a bit is clear just when its instant is dark
  refine exists_congr fun b => and_congr_right fun hb => ?_
  -- the instants at which no cycle that is counted is on
  have hgap :=
    @not_litEarly_iff ℚ _ _ _ (onMS.toInt + offMS.toInt) onMS.toInt 1 (sampleInstant duration b)
    (roundedCycles (duration : ℚ) (onMS.toInt + offMS.toInt)) hperiod one_pos
      (sampleInstant_nonneg hduration)
    roundedCycles_pos
  -- the loop sets a bit that is lit, and leaves the others
  have hlit := @testBit_patternDataOnBit duration onMS offMS 0 b hduration hon (by omega)
  rw [hcast, UInt32.toNat_zero, Nat.zero_testBit, or_iff_right Bool.false_ne_true,
    and_iff_right hb] at hlit
  rw [← Bool.not_eq_true, hlit, hgap, inGap_roundedCycles hperiod]

/-- Nothing is left of a period of nine seconds or more but its samples. -/
theorem timedPattern_of_late (hon : 0 < onMS.toInt) (hoff : 0 < offMS.toInt)
    (hsum : onMS.toInt + offMS.toInt ≤ 2147483647) (hlate : 9000 ≤ onMS.toInt + offMS.toInt) :
    (timedPattern onMS offMS).duration = 8 ∧ (timedPattern onMS offMS).delay = 0 := by
  obtain ⟨honPos, -, hoffPos, htotalLe⟩ := clampPhases_bounds hon hoff hsum
  obtain ⟨hclampOn, hclampOff⟩ := clampPhases_toInt hon hoff hsum
  generalize hclamp : clampPhases onMS offMS = phases at *
  obtain ⟨on, off⟩ := phases
  dsimp only at honPos hoffPos htotalLe hclampOn hclampOff
  have hadd := toInt_add_of_le honPos hoffPos (by omega)
  have hlong : ¬IsShort on off := by
    rintro ⟨htotal, -⟩
    rw [hclampOn, hclampOff] at htotal
    split at htotal <;> omega
  exact (timedPattern_long hclamp hadd (by omega) htotalLe hlong).2

/-- When the pattern goes out in every cycle. From nine seconds on there is no delay behind the
samples. Below that the delay may be dark, or one of the samples: the LED goes out in both cases. -/
theorem timedPattern_blinks_iff (hon : 0 < onMS.toInt) (hoff : 0 < offMS.toInt)
    (hsum : onMS.toInt + offMS.toInt ≤ 2147483647) :
    Blinks (onMS.toInt + offMS.toInt) (timedPattern onMS offMS) ↔ onMS.toInt + offMS.toInt < 9000 ∧
      (IsShort onMS offMS ∧ (2000 ≤ onMS.toInt + offMS.toInt ∨ 3 * onMS.toInt < offMS.toInt) ∨
        SampleInGap (samplesMS onMS offMS) onMS offMS) := by
  -- from nine seconds on there is no delay after the samples
  by_cases hlate : onMS.toInt + offMS.toInt < 9000
  · -- in that range the clamp does nothing and nothing overflows
    have hclamp := clampPhases_of_le hon hoff (by omega)
    have hadd := toInt_add_of_le hon hoff (by omega)
    have hduration : 0 ≤ samplesMS onMS offMS := by
      have := @samplesMS_eq onMS offMS
      omega
    have hdelay := delay_pos_iff hclamp hadd hon hoff (by omega)
    -- a sample is dark or the delay is: the LED goes out in both cases
    have hdark := dark_sample_iff hduration hon hoff (by omega)
    obtain ⟨hdata, -⟩ := timedPattern_samples hclamp hadd hon hoff (by omega)
    rw [← hdata] at hdark
    rw [and_iff_right hlate, ← hdelay, ← hdark]
    constructor
    · exact fun h => h.dark.symm
    · -- the first sample is lit, and the delay is not asked for
      intro h
      refine ⟨?_, h.symm, fun _ hle => absurd hlate (not_lt.mpr hle)⟩
      rw [hdata]
      exact first_sample_lit hduration hon (by omega)
  · -- late phases leave no delay, so nothing says that the LED goes out
    obtain ⟨hduration, hdelay⟩ := timedPattern_of_late hon hoff hsum (not_lt.mp hlate)
    refine ⟨fun h => ?_, fun h => absurd h.1 hlate⟩
    have hpos := h.late hduration (not_lt.mp hlate)
    rw [hdelay] at hpos
    exact absurd hpos (by decide)

/-- **When a timed light blinks**: its period is under nine seconds, and a delay follows the samples
or one of them is dark. From nine seconds on the code leaves out the delay, though the samples cover
eight seconds only. In any case the pattern is written to its files. -/
theorem timed_light_blinks_iff {state : LightState} (hmode : state.flashMode = lightFlashTimed)
    (hon : 0 < state.flashOnMS) (hoff : 0 < state.flashOffMS)
    (hsum : state.flashOnMS.toInt + state.flashOffMS.toInt ≤ 2147483647) :
    (∀ dev s, (∀ f ∈ ledFiles, s.writable f = true) →
      Programmed (setLightLedsLocked dev state s) (ledsPattern state)) ∧
    (Blinks (state.flashOnMS.toInt + state.flashOffMS.toInt) (ledsPattern state) ↔
      state.flashOnMS.toInt + state.flashOffMS.toInt < 9000 ∧
        (IsShort state.flashOnMS state.flashOffMS ∧
            (2000 ≤ state.flashOnMS.toInt + state.flashOffMS.toInt ∨
              3 * state.flashOnMS.toInt < state.flashOffMS.toInt) ∨
          SampleInGap (samplesMS state.flashOnMS state.flashOffMS) state.flashOnMS
            state.flashOffMS)) := by
  -- the pattern is the one of the timed branch
  have htimed := ledsPattern_timed hmode hon hoff
  constructor
  · -- the pattern is written to the files of the LEDs
    intro dev s hwritable
    refine setLightLedsLocked_programmed hwritable ?_
    rw [htimed]
    show (1 : Int32) ≠ 0
    decide
  · rw [← timedPattern_blinks_iff (Int32.lt_iff_toInt_lt.mp hon)
      (Int32.lt_iff_toInt_lt.mp hoff) hsum, htimed]
    exact ⟨fun h => ⟨h.lit, h.dark, h.late⟩, fun h => ⟨h.lit, h.dark, h.late⟩⟩

theorem timed_light_blinks_iff_second :
    (∀ dev s, (∀ f ∈ ledFiles, s.writable f = true) →
      Programmed (setLightLedsLocked dev ⟨0xFFFFFF, 1, 500, 500⟩ s)
        (ledsPattern ⟨0xFFFFFF, 1, 500, 500⟩)) ∧
    (Blinks ((500 : Int32).toInt + (500 : Int32).toInt) (ledsPattern ⟨0xFFFFFF, 1, 500, 500⟩) ↔
      (500 : Int32).toInt + (500 : Int32).toInt < 9000 ∧
        (IsShort 500 500 ∧ (2000 ≤ (500 : Int32).toInt + (500 : Int32).toInt ∨
            3 * (500 : Int32).toInt < (500 : Int32).toInt) ∨
          SampleInGap (samplesMS 500 500) 500 500)) :=
  @timed_light_blinks_iff ⟨0xFFFFFF, 1, 500, 500⟩ rfl (by decide) (by decide) (by decide)

/-- Ten seconds on and five seconds off show a light that stays on. -/
theorem slow_light_stays_on :
    (∀ b < 32, (ledsPattern ⟨0xFFFFFF, 1, 10000, 5000⟩).data.toNat.testBit b = true) ∧
      (ledsPattern ⟨0xFFFFFF, 1, 10000, 5000⟩).delay = 0 ∧
      ¬Blinks ((10000 : Int32).toInt + (5000 : Int32).toInt)
        (ledsPattern ⟨0xFFFFFF, 1, 10000, 5000⟩) := by
  have hlit : ∀ b < 32, (ledsPattern ⟨0xFFFFFF, 1, 10000, 5000⟩).data.toNat.testBit b = true := by
    decide +kernel
  have hdelay : (ledsPattern ⟨0xFFFFFF, 1, 10000, 5000⟩).delay = 0 := by decide +kernel
  refine ⟨hlit, hdelay, fun h => ?_⟩
  rcases h.dark with ⟨b, hb, hdark⟩ | hpos
  · exact Bool.false_ne_true (hdark.symm.trans (hlit b hb))
  · rw [hdelay] at hpos
    exact absurd hpos (by decide)

end Blinking

end Lights

end BlueCommon
