import BlueCommon.Lib.Lts
import Mathlib.Data.Int.Order.Basic

/-!
# The radio wake lock of libril

`ril.cpp` keeps the phone awake while a message that wants an acknowledgement is on its way to the
client. One kernel wake lock (`ANDROID_WAKE_LOCK_NAME`, not counting) is shared by all such
messages; the code keeps a counter `s_wakelock_count`, a pointer `s_last_wake_timeout_info` to the
timer of the last grab, and cancels older timers by setting their `userParam`.

* `grabPartialWakeLock`, `releaseWakeLock`, `wakeTimeoutCallback`, `userTimerCallback`,
  `internalRequestTimedCallback`: the functions, as state transformers.
* `wakeSystem version`: the runs of these functions, each taken as one step, with the clock, timers
  of the vendor and any timer that has expired firing next.
* `WakeInv`: the invariant of these runs for a vendor version of at least 13. While the lock is held
  the last timer is the only one that is not cancelled.
-/

namespace BlueCommon

/-- Addresses of heap cells. A null pointer is the `none` of `Option Addr`, so that any number may
be an address. -/
abbrev Addr : Type := ℕ

/-- `INT_MAX`. The library is built with the integer sanitizer, which stops the process on a signed
overflow. -/
def intMax : ℤ := 2147483647

namespace Ril

/-! ### State -/

/-- `RIL_TimedCallback`: what a timer runs, the wake timeout or a callback of the vendor. -/
inductive TimedCallback
  | wakeTimeoutCallback
  | vendor
  deriving DecidableEq, Repr

/-- A `UserCallbackInfo` that waits in the timer list: its callback, the parameter of the callback
and the deadline of its event. `userParam` is `none` for `NULL`; `(void *)1` cancels. -/
structure UserCallbackInfo where
  pCallback : TimedCallback
  userParam : Option ℕ
  timeout : ℕ
  deriving DecidableEq, Repr

/-- The state of the wake lock: the kernel lock, `s_wakelock_count`, `s_last_wake_timeout_info`, the
timers that have not fired, by address, and the clock in microseconds. -/
structure WakeState where
  kernelHeld : Bool
  wakelockCount : ℤ
  lastWakeTimeoutInfo : Option Addr
  timers : Addr → Option UserCallbackInfo
  now : ℕ

/-- `TIMEVAL_WAKE_TIMEOUT`: 200 ms, in microseconds. -/
def wakeTimeout : ℕ := 200000

namespace WakeState

/-- `acquire_wake_lock(PARTIAL_WAKE_LOCK, ANDROID_WAKE_LOCK_NAME)`: the kernel holds one lock of
this name, however often it is asked. -/
def acquireWakeLock (s : WakeState) : WakeState := { s with kernelHeld := true }

/-- `release_wake_lock(ANDROID_WAKE_LOCK_NAME)`: the lock is free after one call. -/
def releaseKernelLock (s : WakeState) : WakeState := { s with kernelHeld := false }

/-- `if (s_last_wake_timeout_info != NULL) s_last_wake_timeout_info->userParam = (void *)1;`, by
which the last timer will do nothing when it fires. -/
def cancelLast (s : WakeState) : WakeState :=
  match s.lastWakeTimeoutInfo with
  | none => s
  | some a => { s with
      timers := Function.update s.timers a
        ((s.timers a).map fun info => { info with userParam := some 1 }) }

/-- `internalRequestTimedCallback`; `alloc` is what `calloc` returns. -/
def internalRequestTimedCallback (alloc : Option Addr) (callback : TimedCallback)
    (param : Option ℕ) (relativeTime : ℕ) (s : WakeState) : Option Addr × WakeState :=
  match alloc with
  | none => (none, s)
  | some a => (some a, { s with
      timers := Function.update s.timers a (some ⟨callback, param, s.now + relativeTime⟩) })

/-- `grabPartialWakeLock`. The result is `none` when `s_wakelock_count++` overflows. -/
def grabPartialWakeLock (version : ℤ) (alloc : Option Addr) (s : WakeState) : Option WakeState :=
  if 13 ≤ version then
    match internalRequestTimedCallback alloc .wakeTimeoutCallback none wakeTimeout
        s.acquireWakeLock with
    | (none, s) => some s.releaseKernelLock
    | (some a, s) =>
      if s.wakelockCount = intMax then none
      else some { ({ s with wakelockCount := s.wakelockCount + 1 } : WakeState).cancelLast with
        lastWakeTimeoutInfo := some a }
  else some s.acquireWakeLock

/-- `releaseWakeLock`. From version 13 on messages are counted, and the last one releases the lock
and cancels its timer. -/
def releaseWakeLock (version : ℤ) (s : WakeState) : WakeState :=
  if 13 ≤ version then
    if 1 < s.wakelockCount then { s with wakelockCount := s.wakelockCount - 1 }
    else cancelLast { s with wakelockCount := 0, kernelHeld := false }
  else s.releaseKernelLock

/-- `wakeTimeoutCallback`: a parameter that is not `NULL` means cancelled. Otherwise the lock is
released, whatever the count is. -/
def wakeTimeoutCallback (version : ℤ) (param : Option ℕ) (s : WakeState) : WakeState :=
  if 13 ≤ version then
    if param = none then { s with wakelockCount := 0, kernelHeld := false } else s
  else if param = none then s.releaseWakeLock version else s

/-- `userTimerCallback` on the timer `info` at `a`: run the callback, forget the last timer if it is
this one, free it. What a callback of the vendor does is other steps of the run. -/
def userTimerCallback (version : ℤ) (a : Addr) (info : UserCallbackInfo) (s : WakeState) :
    WakeState :=
  let s := match info.pCallback with
    | .wakeTimeoutCallback => s.wakeTimeoutCallback version info.userParam
    | .vendor => s
  { s with
    lastWakeTimeoutInfo :=
      if s.lastWakeTimeoutInfo = some a then none else s.lastWakeTimeoutInfo
    timers := Function.update s.timers a none }

/-- The part of `RIL_onUnsolicitedResponse` for vendors older than version 13: schedule the wake
timeout and cancel the previous one; `false` when `calloc` fails. -/
def scheduleWakeTimeout (alloc : Option Addr) (s : WakeState) : Bool × WakeState :=
  match internalRequestTimedCallback alloc .wakeTimeoutCallback none wakeTimeout s with
  | (none, s) => (false, s)
  | (some a, s) => (true, { s.cancelLast with lastWakeTimeoutInfo := some a })

/-- The state after a grab of version 13 whose timer is at `a`: the lock is held, one more message
is counted, and the timer before is cancelled. -/
def granted (s : WakeState) (a : Addr) : WakeState :=
  { cancelLast { s with
      kernelHeld := true
      wakelockCount := s.wakelockCount + 1
      timers := Function.update s.timers a
        (some ⟨.wakeTimeoutCallback, none, s.now + wakeTimeout⟩) } with
    lastWakeTimeoutInfo := some a }

/-- The timer at `a` is a wake timer that has neither fired nor been cancelled. -/
def Live (s : WakeState) (a : Addr) : Prop :=
  ∃ deadline, s.timers a = some ⟨.wakeTimeoutCallback, none, deadline⟩

end WakeState

/-! ### Runs -/

/-- The steps of the wake lock: time passes, a message grabs the lock, the client acknowledges
(possibly nothing), a timer fires, the vendor requests a timer of its own. -/
inductive WakeLabel
  | tick (n : ℕ)
  | grab (alloc : Option Addr)
  | release
  | fire (a : Addr)
  | request (alloc : Option Addr) (param : Option ℕ) (relativeTime : ℕ)

/-- `calloc` never returns the address of a timer that is still waiting. -/
def WakeState.Fresh (s : WakeState) (alloc : Option Addr) : Prop :=
  ∀ a, alloc = some a → s.timers a = none

/-- One step of the wake lock. A timer fires only after its deadline; which of the expired timers
fires is left open. -/
inductive WakeStep (version : ℤ) : WakeState → WakeLabel → WakeState → Prop
  | tick (s : WakeState) (n : ℕ) : WakeStep version s (.tick n) { s with now := s.now + n }
  | grab (s t : WakeState) (alloc : Option Addr) (hfresh : s.Fresh alloc)
      (hgrab : s.grabPartialWakeLock version alloc = some t) :
      WakeStep version s (.grab alloc) t
  | release (s : WakeState) : WakeStep version s .release (s.releaseWakeLock version)
  | fire (s : WakeState) (a : Addr) (info : UserCallbackInfo) (hinfo : s.timers a = some info)
      (hdue : info.timeout < s.now) :
      WakeStep version s (.fire a) (s.userTimerCallback version a info)
  | request (s : WakeState) (alloc : Option Addr) (param : Option ℕ) (relativeTime : ℕ)
      (hfresh : s.Fresh alloc) :
      WakeStep version s (.request alloc param relativeTime)
        (s.internalRequestTimedCallback alloc .vendor param relativeTime).2

/-- The process has just started: the lock is free, no timer waits. -/
structure WakeState.Initial (s : WakeState) : Prop where
  kernelHeld : s.kernelHeld = false
  wakelockCount : s.wakelockCount = 0
  lastWakeTimeoutInfo : s.lastWakeTimeoutInfo = none
  timers : ∀ a, s.timers a = none

/-- The runs of the wake lock under a vendor version. Timers fire late, and memory for one may not
be found. -/
def wakeSystem (version : ℤ) : Lts WakeState WakeLabel where
  init := WakeState.Initial
  step := WakeStep version

/-! ### The invariant of the wake lock -/

/-- **The invariant of the wake lock.** A timer that is not cancelled is the last one; the last
timer has not fired; while the kernel lock is held the last timer is not cancelled and the counter
is positive. -/
structure WakeInv (s : WakeState) : Prop where
  /-- Every timer that is not cancelled is the last one. -/
  live_last : ∀ a, s.Live a → s.lastWakeTimeoutInfo = some a
  /-- The last timer is a wake timer that waits. -/
  last_waits : ∀ a, s.lastWakeTimeoutInfo = some a →
    ∃ param deadline, s.timers a = some ⟨.wakeTimeoutCallback, param, deadline⟩
  /-- The lock is held for the last timer. -/
  held_live : s.kernelHeld = true → (∃ a, s.Live a) ∧ 1 ≤ s.wakelockCount
  /-- The counter counts. -/
  count_nonneg : 0 ≤ s.wakelockCount

namespace WakeState

variable {s : WakeState} {version : ℤ}

@[simp] theorem cancelLast_kernelHeld : s.cancelLast.kernelHeld = s.kernelHeld := by
  unfold cancelLast
  split <;> rfl

@[simp] theorem cancelLast_wakelockCount : s.cancelLast.wakelockCount = s.wakelockCount := by
  unfold cancelLast
  split <;> rfl

@[simp] theorem cancelLast_lastWakeTimeoutInfo :
    s.cancelLast.lastWakeTimeoutInfo = s.lastWakeTimeoutInfo := by
  unfold cancelLast
  split <;> rfl

@[simp] theorem cancelLast_now : s.cancelLast.now = s.now := by
  unfold cancelLast
  split <;> rfl

/-- A timer that is not the last keeps what it was. -/
theorem cancelLast_timers_of_ne {b : Addr} (h : s.lastWakeTimeoutInfo ≠ some b) :
    s.cancelLast.timers b = s.timers b := by
  cases hl : s.lastWakeTimeoutInfo with
  | none => simp [cancelLast, hl]
  | some a =>
    have hba : b ≠ a := by
      rintro rfl
      exact h hl
    simp [cancelLast, hl, hba]

/-- The last timer ends up cancelled. -/
theorem cancelLast_timers_last {a : Addr} {info : UserCallbackInfo}
    (h : s.lastWakeTimeoutInfo = some a) (hinfo : s.timers a = some info) :
    s.cancelLast.timers a = some { info with userParam := some 1 } := by
  simp [cancelLast, h, hinfo]

/-- Under the invariant no timer is left uncancelled by `cancelLast`. -/
theorem not_live_cancelLast (hlive : ∀ a, s.Live a → s.lastWakeTimeoutInfo = some a) (b : Addr) :
    ¬ s.cancelLast.Live b := by
  rintro ⟨d, hd⟩
  by_cases hb : s.lastWakeTimeoutInfo = some b
  · cases ht : s.timers b with
    | none => simp [cancelLast, hb, ht] at hd
    | some info =>
      rw [cancelLast_timers_last hb ht] at hd
      simp at hd
  · rw [cancelLast_timers_of_ne hb] at hd
    exact hb (hlive b ⟨d, hd⟩)

/-- `cancelLast` keeps the last timer a waiting wake timer. -/
theorem cancelLast_last_waits
    (hlast : ∀ a, s.lastWakeTimeoutInfo = some a →
      ∃ param deadline, s.timers a = some ⟨.wakeTimeoutCallback, param, deadline⟩) {a : Addr}
    (ha : s.lastWakeTimeoutInfo = some a) :
    ∃ param deadline, s.cancelLast.timers a = some ⟨.wakeTimeoutCallback, param, deadline⟩ := by
  obtain ⟨p, d, hp⟩ := hlast a ha
  exact ⟨some 1, d, cancelLast_timers_last ha hp⟩

@[simp] theorem granted_kernelHeld (a : Addr) : (s.granted a).kernelHeld = true := by
  simp [granted]

@[simp] theorem granted_wakelockCount (a : Addr) :
    (s.granted a).wakelockCount = s.wakelockCount + 1 := by
  simp [granted]

@[simp] theorem granted_lastWakeTimeoutInfo (a : Addr) :
    (s.granted a).lastWakeTimeoutInfo = some a := rfl

@[simp] theorem granted_now (a : Addr) : (s.granted a).now = s.now := by
  simp [granted]

/-- The new timer is not cancelled, as it is not the last one yet. -/
theorem granted_timers_self {a : Addr} (hne : s.lastWakeTimeoutInfo ≠ some a) :
    (s.granted a).timers a =
      some ⟨.wakeTimeoutCallback, none, s.now + wakeTimeout⟩ := by
  change (cancelLast _).timers a = _
  rw [cancelLast_timers_of_ne (by exact hne)]
  simp

/-- The timer of the previous grab is cancelled. -/
theorem granted_timers_last {a b : Addr} {info : UserCallbackInfo} (hba : b ≠ a)
    (hb : s.lastWakeTimeoutInfo = some b) (hinfo : s.timers b = some info) :
    (s.granted a).timers b = some { info with userParam := some 1 } := by
  change (cancelLast _).timers b = _
  exact cancelLast_timers_last hb (by simp [hba, hinfo])

/-- The other timers stay as they are. -/
theorem granted_timers_of_ne {a b : Addr} (hba : b ≠ a) (hb : s.lastWakeTimeoutInfo ≠ some b) :
    (s.granted a).timers b = s.timers b := by
  change (cancelLast _).timers b = _
  rw [cancelLast_timers_of_ne (by exact hb)]
  simp [hba]

/-- What a grab does, by the outcome of its allocation. -/
theorem grabPartialWakeLock_cases (hv : 13 ≤ version) {alloc : Option Addr} {t : WakeState}
    (h : s.grabPartialWakeLock version alloc = some t) :
    (alloc = none ∧ t = { s with kernelHeld := false }) ∨
    (∃ a, alloc = some a ∧ s.wakelockCount ≠ intMax ∧ t = s.granted a) := by
  cases alloc with
  | none =>
    left
    simp only [grabPartialWakeLock, hv, if_true, internalRequestTimedCallback, acquireWakeLock,
      releaseKernelLock, Option.some.injEq] at h
    exact ⟨rfl, h.symm⟩
  | some a =>
    right
    simp only [grabPartialWakeLock, hv, if_true, internalRequestTimedCallback,
      acquireWakeLock] at h
    split at h
    · cases h
    · next hmax =>
      exact ⟨a, rfl, hmax, (Option.some.inj h).symm⟩

/-- What an acknowledgement does, by the counter. -/
theorem releaseWakeLock_of_ge (hv : 13 ≤ version) :
    s.releaseWakeLock version =
      if 1 < s.wakelockCount then { s with wakelockCount := s.wakelockCount - 1 }
      else cancelLast { s with wakelockCount := 0, kernelHeld := false } := by
  simp [releaseWakeLock, hv]

/-- A timer of the vendor, or a cancelled one, leaves the lock and the counter alone. -/
theorem userTimerCallback_of_not_live (hv : 13 ≤ version) {a : Addr} {info : UserCallbackInfo}
    (h : info.pCallback = .wakeTimeoutCallback → info.userParam ≠ none) :
    s.userTimerCallback version a info = { s with
      lastWakeTimeoutInfo :=
        if s.lastWakeTimeoutInfo = some a then none else s.lastWakeTimeoutInfo
      timers := Function.update s.timers a none } := by
  unfold userTimerCallback
  cases hcb : info.pCallback with
  | vendor => rfl
  | wakeTimeoutCallback => simp [wakeTimeoutCallback, hv, h hcb]

/-- The wake timer that is not cancelled releases the lock and zeroes the counter. -/
theorem userTimerCallback_of_live (hv : 13 ≤ version) {a : Addr} {deadline : ℕ} :
    s.userTimerCallback version a ⟨.wakeTimeoutCallback, none, deadline⟩ = { s with
      kernelHeld := false
      wakelockCount := 0
      lastWakeTimeoutInfo :=
        if s.lastWakeTimeoutInfo = some a then none else s.lastWakeTimeoutInfo
      timers := Function.update s.timers a none } := by
  simp [userTimerCallback, wakeTimeoutCallback, hv]

end WakeState

namespace WakeInv

open WakeState

variable {version : ℤ} {s : WakeState}

/-- **Initial state.** -/
theorem initial (h : s.Initial) : WakeInv s where
  live_last a := by
    rintro ⟨d, hd⟩
    simp [h.timers a] at hd
  last_waits a ha := by simp [h.lastWakeTimeoutInfo] at ha
  held_live hk := by simp [h.kernelHeld] at hk
  count_nonneg := by simp [h.wakelockCount]

/-- The last timer is not at an address that `calloc` can return. -/
theorem last_ne_of_fresh (h : WakeInv s) {a : Addr} (hfresh : s.timers a = none) :
    s.lastWakeTimeoutInfo ≠ some a := by
  intro hl
  obtain ⟨p, d, hp⟩ := h.last_waits a hl
  rw [hfresh] at hp
  cases hp

/-- A grab that gets its timer makes the new timer the only one that is not cancelled. -/
theorem granted (h : WakeInv s) {a : Addr} (hfresh : s.timers a = none) :
    WakeInv (s.granted a) := by
  have hne : s.lastWakeTimeoutInfo ≠ some a := h.last_ne_of_fresh hfresh
  have hc : 0 ≤ s.wakelockCount := h.count_nonneg
  refine ⟨?_, ?_, ?_, ?_⟩
  · -- a timer that is not cancelled is the last one: the old one was cancelled by the grab
    rintro b ⟨d, hd⟩
    by_contra hab
    have hba : b ≠ a := fun e => hab (by rw [e, granted_lastWakeTimeoutInfo])
    by_cases hb : s.lastWakeTimeoutInfo = some b
    · obtain ⟨p, e, hp⟩ := h.last_waits b hb
      rw [granted_timers_last hba hb hp] at hd
      simp at hd
    · rw [granted_timers_of_ne hba hb] at hd
      exact hb (h.live_last b ⟨d, hd⟩)
  · -- the new timer is set, behind the cancelled one
    intro b hb
    obtain rfl : a = b := Option.some.inj hb
    exact ⟨none, _, granted_timers_self hne⟩
  · -- the lock is held, and for this timer
    intro _
    rw [granted_wakelockCount]
    exact ⟨⟨a, _, granted_timers_self hne⟩, by omega⟩
  · rw [granted_wakelockCount]
    omega

/-- Cancelling the last timer together with releasing the lock keeps the invariant. -/
theorem cancelLast_released (h : WakeInv s) (hk : s.kernelHeld = false) :
    WakeInv s.cancelLast where
  live_last a ha := absurd ha (not_live_cancelLast h.live_last a)
  last_waits a ha := cancelLast_last_waits h.last_waits (by simpa using ha)
  held_live hk' := by simp [hk] at hk'
  count_nonneg := by simpa using h.count_nonneg

/-- The kernel lock may be released, and the counter zeroed, at any time. -/
theorem released (h : WakeInv s) {count : ℤ} (hcount : 0 ≤ count) :
    WakeInv { s with wakelockCount := count, kernelHeld := false } where
  live_last := h.live_last
  last_waits := h.last_waits
  held_live hk := by simp at hk
  count_nonneg := hcount

/-- Freeing a timer keeps the invariant if the lock is not held for it. The timers that are left are
others. -/
theorem free (h : WakeInv s) {a : Addr} (hk : s.kernelHeld = true → ¬ s.Live a) :
    WakeInv { s with
      lastWakeTimeoutInfo :=
        if s.lastWakeTimeoutInfo = some a then none else s.lastWakeTimeoutInfo
      timers := Function.update s.timers a none } := by
  -- the timers that are left are the others
  have hlive : ∀ b, Live { s with
      lastWakeTimeoutInfo :=
        if s.lastWakeTimeoutInfo = some a then none else s.lastWakeTimeoutInfo
      timers := Function.update s.timers a none } b → b ≠ a ∧ s.Live b := by
    rintro b ⟨d, hd⟩
    by_cases hb : b = a
    · subst hb
      simp at hd
    · exact ⟨hb, d, by simpa [hb] using hd⟩
  refine ⟨?_, ?_, ?_, h.count_nonneg⟩
  · -- the timer that is left is the last one, so that pointer is not cleared
    intro b hb
    obtain ⟨hba, hlb⟩ := hlive b hb
    have hlast := h.live_last b hlb
    have hne : s.lastWakeTimeoutInfo ≠ some a := by
      rw [hlast]
      simpa using hba
    simp [hlast, hba]
  · -- the pointer that is left is to another timer than the one that is freed
    intro b hb
    have hna : s.lastWakeTimeoutInfo ≠ some a := by
      intro e
      simp [e] at hb
    have hb' : s.lastWakeTimeoutInfo = some b := by simpa [hna] using hb
    obtain ⟨p, d, hp⟩ := h.last_waits b hb'
    have hba : b ≠ a := by
      rintro rfl
      exact hna hb'
    exact ⟨p, d, by simpa [hba] using hp⟩
  · -- while the lock is held its timer is not the one that is freed
    intro hheld
    obtain ⟨⟨b, d, hb⟩, hc⟩ := h.held_live hheld
    have hba : b ≠ a := by
      rintro rfl
      exact hk hheld ⟨d, hb⟩
    exact ⟨⟨b, d, by simpa [hba] using hb⟩, hc⟩

/-- A timer of the vendor at a fresh address keeps the invariant. Its address is not in use, and it
is never one of the lock. -/
theorem request (h : WakeInv s) {alloc : Option Addr} (hfresh : s.Fresh alloc) (param : Option ℕ)
    (relativeTime : ℕ) :
    WakeInv (s.internalRequestTimedCallback alloc .vendor param relativeTime).2 := by
  cases alloc with
  | none => exact h
  | some a =>
    -- the address of the new timer is not in use
    have ha : s.timers a = none := hfresh a rfl
    -- a timer of the vendor is never one of the lock
    refine ⟨?_, ?_, ?_, h.count_nonneg⟩
    · rintro b ⟨d, hd⟩
      by_cases hb : b = a
      · subst hb
        simp [internalRequestTimedCallback] at hd
      · exact h.live_last b ⟨d, by simpa [internalRequestTimedCallback, hb] using hd⟩
    · -- the last timer of the lock is another one, since it is in use
      intro b hb
      obtain ⟨p, d, hp⟩ := h.last_waits b hb
      have hba : b ≠ a := by
        rintro rfl
        rw [ha] at hp
        cases hp
      exact ⟨p, d, by simpa [internalRequestTimedCallback, hba] using hp⟩
    · -- so is the one for which the lock is held
      intro hheld
      obtain ⟨⟨b, d, hb⟩, hc⟩ := h.held_live hheld
      have hba : b ≠ a := by
        rintro rfl
        rw [ha] at hb
        cases hb
      exact ⟨⟨b, d, by simpa [internalRequestTimedCallback, hba] using hb⟩, hc⟩

/-- **Preservation.** Every step of the wake lock keeps the invariant. A grab has a timer or has
given up the lock; a release leaves a positive count or releases it; and a timer that fires releases
it if it is the last one. -/
theorem step (hv : 13 ≤ version) {l : WakeLabel} {t : WakeState} (h : WakeInv s)
    (hstep : WakeStep version s l t) : WakeInv t := by
  cases hstep with
  | tick n => exact ⟨h.live_last, h.last_waits, h.held_live, h.count_nonneg⟩
  | grab _ alloc hfresh hgrab =>
    -- the grab found memory for its timer, or it lost the lock
    rcases grabPartialWakeLock_cases hv hgrab with ⟨-, rfl⟩ | ⟨a, rfl, -, rfl⟩
    · exact h.released h.count_nonneg
    · exact h.granted (hfresh a rfl)
  | release =>
    rw [releaseWakeLock_of_ge hv]
    split
    · next hc =>
      -- the count was above 1, so it is still positive
      refine ⟨h.live_last, h.last_waits, fun hk => ⟨(h.held_live hk).1, ?_⟩, ?_⟩
      · change 1 ≤ s.wakelockCount - 1
        omega
      · change 0 ≤ s.wakelockCount - 1
        omega
    · -- the last count releases the lock and cancels the timer
      exact (h.released le_rfl).cancelLast_released rfl
  | fire a info hinfo hdue =>
    -- the timer was cancelled or is one of the vendor, or it releases the lock
    by_cases hl : info.pCallback = .wakeTimeoutCallback ∧ info.userParam = none
    · -- it releases the lock, and then it is freed
      obtain ⟨cb, p, d⟩ := info
      obtain ⟨rfl, rfl⟩ := hl
      rw [userTimerCallback_of_live hv]
      exact (h.released le_rfl).free (a := a) (by simp)
    · -- it does nothing, and is freed
      rw [userTimerCallback_of_not_live hv fun hcb hp => hl ⟨hcb, hp⟩]
      refine h.free fun _ hlive => hl ?_
      obtain ⟨d, hd⟩ := hlive
      rw [hinfo] at hd
      obtain rfl := Option.some.inj hd
      exact ⟨rfl, rfl⟩
  | request alloc param relativeTime hfresh => exact h.request hfresh param relativeTime

/-- The invariant holds in every run. -/
theorem reachable (hv : 13 ≤ version) (h : (wakeSystem version).Reachable s) : WakeInv s :=
  h.invariant (fun _ => WakeInv.initial) fun _ _ _ hs hstep => hs.step hv hstep

end WakeInv

/-! ### No leaked lock -/

/-- **The wake lock is never leaked.** Whenever the kernel lock is held, exactly one wake timer is
neither fired nor cancelled, `s_last_wake_timeout_info` points to it and the counter is positive;
and `s_last_wake_timeout_info` never points to a timer that has fired. -/
theorem wakeLock_held_by_one_live_timer {version : ℤ} (hv : 13 ≤ version) {s : WakeState}
    (h : (wakeSystem version).Reachable s) :
    (s.kernelHeld = true → 1 ≤ s.wakelockCount ∧
      ∃ a, s.lastWakeTimeoutInfo = some a ∧ s.Live a ∧ ∀ b, s.Live b → b = a) ∧
    ∀ a, s.lastWakeTimeoutInfo = some a →
      ∃ param deadline, s.timers a = some ⟨.wakeTimeoutCallback, param, deadline⟩ := by
  have hinv : WakeInv s := WakeInv.reachable hv h
  refine ⟨fun hk => ?_, hinv.last_waits⟩
  obtain ⟨⟨a, ha⟩, hc⟩ := hinv.held_live hk
  have hlast := hinv.live_last a ha
  refine ⟨hc, a, hlast, ha, fun b hb => ?_⟩
  have := hinv.live_last b hb
  rw [hlast] at this
  exact (Option.some.inj this).symm

/-- The state in which the process starts at time 0. -/
def WakeState.start : WakeState where
  kernelHeld := false
  wakelockCount := 0
  lastWakeTimeoutInfo := none
  timers := fun _ => none
  now := 0

theorem WakeState.start_initial : WakeState.start.Initial := ⟨rfl, rfl, rfl, fun _ => rfl⟩

/-- The first grab of a version 15 vendor, its timer at address 1. -/
def WakeState.firstGrab : WakeState where
  kernelHeld := true
  wakelockCount := 1
  lastWakeTimeoutInfo := some 1
  timers := Function.update (fun _ => none) 1 (some ⟨.wakeTimeoutCallback, none, wakeTimeout⟩)
  now := 0

theorem WakeState.firstGrab_reachable : (wakeSystem 15).Reachable WakeState.firstGrab :=
  .step (.init WakeState.start_initial)
    (.grab WakeState.start _ (some 1) (fun _ _ => rfl) rfl)

theorem wakeLock_held_by_one_live_timer_firstGrab :
    ∃ a, WakeState.firstGrab.lastWakeTimeoutInfo = some a ∧ WakeState.firstGrab.Live a ∧
      ∀ b, WakeState.firstGrab.Live b → b = a :=
  ((wakeLock_held_by_one_live_timer (by decide) WakeState.firstGrab_reachable).1 rfl).2

end Ril

end BlueCommon
