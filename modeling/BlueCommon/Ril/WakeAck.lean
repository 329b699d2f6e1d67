import BlueCommon.Ril.WakeLock
import Mathlib.Data.List.Count

/-!
# Acknowledgements and the radio wake lock

The messages behind the grabs. A message that is sent with an `ACK_EXP` response type grabs the wake
lock; the client sends one `responseAcknowledgement` for it, possibly late. `releaseWakeLock` is not
told which message the acknowledgement is for: only a count is kept.

* `ackSystem version`: the runs of `wakeSystem version` with the unacknowledged messages as ghost
  state. A message is *waiting* while its grab got a timer and no wake timeout has fired since.
* `AckInv`: the counter never exceeds the number of waiting messages. It equals that number unless
  the count has been *disturbed*: while other messages were waiting, an acknowledgement came for a
  message that was no longer waiting, or a grab failed. The disturbance ends when no message waits.
* `wakeLock_held_while_waiting`: without a disturbance the lock is held for every message younger
  than the wake timeout; `late_acknowledgement_drops_wakeLock` is a run in which a late
  acknowledgement disturbs the count and drops the lock of a newer message.
-/

namespace BlueCommon

namespace Ril

/-! ### Messages -/

/-- A message that was sent with an `ACK_EXP` type and has not been acknowledged: the time of its
grab, whether the grab got its timer, and whether the lock still counts for it. -/
structure Message where
  grabbed : ℕ
  granted : Bool
  waiting : Bool
  deriving DecidableEq, Repr

/-- The wake lock and the messages it serves. History: whether the count has been disturbed since no
message was waiting. -/
structure AckState where
  wake : WakeState
  unacked : List Message
  disturbed : Bool

namespace AckState

/-- The number of messages the lock has to be held for. -/
def waitingCount (s : AckState) : ℕ := s.unacked.countP (·.waiting)

/-- A disturbance of the count ends when no message waits. -/
def settle (s : AckState) : AckState :=
  { s with disturbed := s.disturbed && decide (s.waitingCount ≠ 0) }

/-- A grab for a new message. A grab that gets no timer disturbs the count if others wait. -/
def grab (s : AckState) (alloc : Option Addr) (wake : WakeState) : AckState :=
  settle { s with
    wake := wake
    unacked := ⟨s.wake.now, alloc.isSome, alloc.isSome⟩ :: s.unacked
    disturbed := s.disturbed || alloc.isNone }

/-- The acknowledgement of `m`. It disturbs the count if `m` is not waiting and others are. -/
def acknowledge (s : AckState) (m : Message) (wake : WakeState) : AckState :=
  settle { s with
    wake := wake
    unacked := s.unacked.erase m
    disturbed := s.disturbed || !m.waiting }

/-- The wake timeout ends all waiting; the timers of the vendor and cancelled ones do nothing. -/
def timeout (s : AckState) (info : UserCallbackInfo) (wake : WakeState) : AckState :=
  if info.pCallback = .wakeTimeoutCallback ∧ info.userParam = none then
    settle { s with wake := wake, unacked := s.unacked.map fun m => { m with waiting := false } }
  else { s with wake := wake }

end AckState

/-- The steps of the wake lock, an acknowledgement being one for a message. -/
inductive AckLabel
  | tick (n : ℕ)
  | grab (alloc : Option Addr)
  | acknowledge (m : Message)
  | fire (a : Addr)
  | request (alloc : Option Addr) (param : Option ℕ) (relativeTime : ℕ)

/-- One step of the wake lock and of the messages. The client acknowledges only what it was sent,
and each message once. -/
inductive AckStep (version : ℤ) : AckState → AckLabel → AckState → Prop
  | tick (s : AckState) (n : ℕ) (w : WakeState) (h : WakeStep version s.wake (.tick n) w) :
      AckStep version s (.tick n) { s with wake := w }
  | grab (s : AckState) (alloc : Option Addr) (w : WakeState)
      (h : WakeStep version s.wake (.grab alloc) w) :
      AckStep version s (.grab alloc) (s.grab alloc w)
  | acknowledge (s : AckState) (m : Message) (w : WakeState) (hm : m ∈ s.unacked)
      (h : WakeStep version s.wake .release w) :
      AckStep version s (.acknowledge m) (s.acknowledge m w)
  | fire (s : AckState) (a : Addr) (info : UserCallbackInfo) (w : WakeState)
      (hinfo : s.wake.timers a = some info) (h : WakeStep version s.wake (.fire a) w) :
      AckStep version s (.fire a) (s.timeout info w)
  | request (s : AckState) (alloc : Option Addr) (param : Option ℕ) (relativeTime : ℕ)
      (w : WakeState) (h : WakeStep version s.wake (.request alloc param relativeTime) w) :
      AckStep version s (.request alloc param relativeTime) { s with wake := w }

/-- The process has just started and no message is under way. -/
structure AckState.Initial (s : AckState) : Prop where
  wake : s.wake.Initial
  unacked : s.unacked = []
  disturbed : s.disturbed = false

/-- The runs of the wake lock with the messages it serves: messages are sent and acknowledged, and
timers fire late, but in any order. -/
def ackSystem (version : ℤ) : Lts AckState AckLabel where
  init := AckState.Initial
  step := AckStep version

/-! ### The invariant -/

/-- **The invariant of the count.** -/
structure AckInv (s : AckState) : Prop where
  /-- The wake lock itself keeps its invariant. -/
  wake : WakeInv s.wake
  /-- The counter never exceeds the number of waiting messages. -/
  count_le : s.wake.wakelockCount ≤ s.waitingCount
  /-- An undisturbed counter is exact. -/
  count_eq : s.disturbed = false → s.wake.wakelockCount = s.waitingCount
  /-- While the count is undisturbed and positive the kernel lock is held. -/
  held : s.disturbed = false → 0 < s.wake.wakelockCount → s.wake.kernelHeld = true
  /-- The timer that is not cancelled outlasts every waiting message. -/
  deadline : ∀ m ∈ s.unacked, m.waiting = true → ∀ a d,
    s.wake.timers a = some ⟨.wakeTimeoutCallback, none, d⟩ → m.grabbed + wakeTimeout ≤ d
  /-- A message that stopped waiting is older than the wake timeout. -/
  expired : ∀ m ∈ s.unacked, m.granted = true → m.waiting = false →
    m.grabbed + wakeTimeout < s.wake.now
  /-- Messages were grabbed for in the past. -/
  past : ∀ m ∈ s.unacked, m.grabbed ≤ s.wake.now

namespace AckState

variable {s : AckState}

@[simp] theorem settle_wake : s.settle.wake = s.wake := rfl

@[simp] theorem settle_waitingCount : s.settle.waitingCount = s.waitingCount := rfl

theorem settle_calm : s.settle.disturbed = false ↔ s.disturbed = false ∨ s.waitingCount = 0 := by
  cases hd : s.disturbed <;> simp [settle, hd]

/-- An acknowledged message no longer counts. -/
theorem waitingCount_erase {m : Message} (hm : m ∈ s.unacked) :
    (s.unacked.erase m).countP (·.waiting) =
      s.unacked.countP (·.waiting) - if m.waiting then 1 else 0 := by
  rw [List.countP_erase]
  simp [hm]

/-- A message that waits is counted. -/
theorem waitingCount_pos {m : Message} (hm : m ∈ s.unacked) (hw : m.waiting = true) :
    0 < s.waitingCount :=
  List.countP_pos_iff.mpr ⟨m, hm, hw⟩

end AckState

namespace AckInv

open AckState

variable {version : ℤ} {s : AckState}

/-- **Initial state.** -/
theorem initial (h : s.Initial) : AckInv s where
  wake := WakeInv.initial h.wake
  count_le := by simp [waitingCount, h.unacked, h.wake.wakelockCount]
  count_eq _ := by simp [waitingCount, h.unacked, h.wake.wakelockCount]
  held _ hc := by simp [h.wake.wakelockCount] at hc
  deadline m hm := by simp [h.unacked] at hm
  expired m hm := by simp [h.unacked] at hm
  past m hm := by simp [h.unacked] at hm

/-- The end of a disturbance: with no message waiting the counter is zero. -/
theorem settle (h : WakeInv s.wake) (hle : s.wake.wakelockCount ≤ s.waitingCount)
    (heq : s.disturbed = false → s.wake.wakelockCount = s.waitingCount)
    (hheld : s.disturbed = false → 0 < s.wake.wakelockCount → s.wake.kernelHeld = true)
    (hdeadline : ∀ m ∈ s.unacked, m.waiting = true → ∀ a d,
      s.wake.timers a = some ⟨.wakeTimeoutCallback, none, d⟩ → m.grabbed + wakeTimeout ≤ d)
    (hexpired : ∀ m ∈ s.unacked, m.granted = true → m.waiting = false →
      m.grabbed + wakeTimeout < s.wake.now)
    (hpast : ∀ m ∈ s.unacked, m.grabbed ≤ s.wake.now) : AckInv s.settle where
  wake := h
  count_le := hle
  -- undisturbed, or all is forgotten because no message is left
  count_eq hcalm := by
    rcases settle_calm.mp hcalm with hd | h0
    · exact heq hd
    · have := h.count_nonneg
      simp only [settle_wake, settle_waitingCount]
      omega
  held hcalm hpos := by
    rcases settle_calm.mp hcalm with hd | h0
    · exact hheld hd hpos
    · simp only [settle_wake] at hpos
      omega
  deadline := hdeadline
  expired := hexpired
  past := hpast

/-- A grab that gets its timer counts its message. The message waits from now on, and the count is
one more. -/
theorem grab_some (h : AckInv s) {a : Addr} {w : WakeState}
    (hstep : WakeStep version s.wake (.grab (some a)) w) (hv : 13 ≤ version) :
    AckInv (s.grab (some a) w) := by
  have hw : WakeInv w := h.wake.step hv hstep
  cases hstep with
  | grab _ _ hfresh hgrab =>
    obtain ⟨⟨⟩, -⟩ | ⟨_, ⟨⟩, -, rfl⟩ := WakeState.grabPartialWakeLock_cases hv hgrab
    have hcount := h.count_le
    -- the new message waits, and the count is one more
    refine settle hw ?_ ?_ ?_ ?_ ?_ ?_
    · simp only [waitingCount, List.countP_cons, WakeState.granted_wakelockCount,
        Option.isSome_some, if_true] at hcount ⊢
      omega
    · -- undisturbed, the two numbers were the same before
      intro hd
      have hcalm : s.disturbed = false := by simpa using hd
      have heq := h.count_eq hcalm
      simp only [waitingCount, List.countP_cons, WakeState.granted_wakelockCount,
        Option.isSome_some, if_true] at heq ⊢
      omega
    · -- the grab takes the lock of the kernel
      intro _ _
      exact WakeState.granted_kernelHeld a
    · -- the only timer that is not cancelled is the new one
      intro m hm _ b d hb
      obtain rfl : a = b := Option.some.inj (hw.live_last b ⟨d, hb⟩)
      have hnew := WakeState.granted_timers_self (h.wake.last_ne_of_fresh (hfresh a rfl))
      have hd : s.wake.now + wakeTimeout = d := by simpa using hnew.symm.trans hb
      rcases List.mem_cons.mp hm with rfl | hm
      · simp only
        omega
      · have := h.past m hm
        omega
    · -- the new message waits, so it has not expired
      intro m hm hg hwait
      rcases List.mem_cons.mp hm with rfl | hm
      · simp at hwait
      · simpa using h.expired m hm hg hwait
    · -- every message was sent by now
      intro m hm
      rcases List.mem_cons.mp hm with rfl | hm
      · simp
      · simpa using h.past m hm

/-- A grab that gets no timer leaves the counter and disturbs it if messages wait. -/
theorem grab_none (h : AckInv s) {w : WakeState}
    (hstep : WakeStep version s.wake (.grab none) w) (hv : 13 ≤ version) :
    AckInv (s.grab none w) := by
  have hw : WakeInv w := h.wake.step hv hstep
  cases hstep with
  | grab _ _ hfresh hgrab =>
    -- without memory the timer is not set and the lock is not taken
    obtain ⟨-, rfl⟩ | ⟨b, ⟨⟩, -⟩ := WakeState.grabPartialWakeLock_cases hv hgrab
    refine settle hw ?_ (by simp) (by simp) ?_ ?_ ?_
    · simpa [waitingCount] using h.count_le
    · -- the message got no lock, so it does not wait
      intro m hm hwait
      rcases List.mem_cons.mp hm with rfl | hm
      · simp at hwait
      · -- it neither waits nor was it granted the lock, so it cannot expire
        exact h.deadline m hm hwait
    · intro m hm hg hwait
      rcases List.mem_cons.mp hm with rfl | hm
      · simp at hg
      · exact h.expired m hm hg hwait
    · intro m hm
      rcases List.mem_cons.mp hm with rfl | hm
      · simp
      · exact h.past m hm

/-- An acknowledgement takes one off the counter, whoever it is for. As long as the count is that of
the messages that wait, one of them waits no longer. -/
theorem acknowledge (h : AckInv s) {m : Message} (hm : m ∈ s.unacked) {w : WakeState}
    (hstep : WakeStep version s.wake .release w) (hv : 13 ≤ version) :
    AckInv (s.acknowledge m w) := by
  have hw : WakeInv w := h.wake.step hv hstep
  -- the other messages stay
  have hsub : ∀ m' ∈ s.unacked.erase m, m' ∈ s.unacked := fun m' h' => List.mem_of_mem_erase h'
  have hcount := h.count_le
  have hpos := h.wake.count_nonneg
  have hwait : m.waiting = true → 0 < s.waitingCount := waitingCount_pos hm
  cases hstep with
  | release =>
    rw [WakeState.releaseWakeLock_of_ge hv] at hw ⊢
    -- undisturbed, the count is that of the messages which wait
    have hcalm : (s.disturbed || !m.waiting) = false →
        m.waiting = true ∧ s.wake.wakelockCount = s.waitingCount := by
      intro hd
      obtain ⟨hd, hmw⟩ := Bool.or_eq_false_iff.mp hd
      exact ⟨by simpa using hmw, h.count_eq hd⟩
    simp only [waitingCount] at hcount hwait hcalm
    split at hw
    · -- others are left, and the lock stays held
      next hgt =>
      simp only [hgt, if_true]
      refine settle hw ?_ ?_ ?_ ?_ ?_ ?_
      · -- the count goes down with the number of messages that wait, or faster
        simp only [waitingCount, waitingCount_erase hm]
        split <;> omega
      · -- the message that is acknowledged was one of those that wait
        intro hd
        obtain ⟨hmw, heq⟩ := hcalm hd
        simp only [waitingCount, waitingCount_erase hm, hmw, if_true]
        omega
      · intro hd _
        have hd' : s.disturbed = false := (Bool.or_eq_false_iff.mp hd).1
        exact h.held hd' (by omega)
      · exact fun m' h' => h.deadline m' (hsub m' h')
      · exact fun m' h' => h.expired m' (hsub m' h')
      · exact fun m' h' => h.past m' (hsub m' h')
    · -- this was the last one, and the lock is released
      next hle =>
      simp only [hle, if_false]
      refine settle hw ?_ ?_ ?_ ?_ ?_ ?_
      · simp
      · -- the count is zero, and no message waits any more
        intro hd
        obtain ⟨hmw, heq⟩ := hcalm hd
        simp only [waitingCount, waitingCount_erase hm, hmw, if_true,
          WakeState.cancelLast_wakelockCount]
        omega
      · simp
      · -- the last timer has just been cancelled, so no timer is left uncancelled
        intro m' _ _ a d ha
        exact absurd ⟨d, ha⟩ (WakeState.not_live_cancelLast (by exact h.wake.live_last) a)
      · exact fun m' h' hg hw' => by simpa using h.expired m' (hsub m' h') hg hw'
      · exact fun m' h' => by simpa using h.past m' (hsub m' h')

/-- The wake timeout fires only when every waiting message is older than it. The timer is the one of
the last grab, so all messages that wait were sent before it was set, and none waits afterwards. -/
theorem timeout (h : AckInv s) {a : Addr} {info : UserCallbackInfo} {w : WakeState}
    (hinfo : s.wake.timers a = some info) (hstep : WakeStep version s.wake (.fire a) w)
    (hv : 13 ≤ version) : AckInv (s.timeout info w) := by
  have hw : WakeInv w := h.wake.step hv hstep
  cases hstep with
  | fire _ info' hinfo' hdue =>
    -- the timer that fires is the one in the table
    obtain rfl : info' = info := Option.some.inj (hinfo'.symm.trans hinfo)
    unfold AckState.timeout
    split
    · -- the timer of the last grab fires: all that wait have expired
      next hlive =>
      obtain ⟨cb, p, d⟩ := info'
      obtain ⟨rfl, rfl⟩ := hlive
      rw [WakeState.userTimerCallback_of_live hv] at hw ⊢
      refine settle hw ?_ ?_ ?_ ?_ ?_ ?_
      · -- the count is zero then
        simp
      · intro _
        simp [waitingCount, List.countP_map, Function.comp_def]
      · simp
      · -- a message that is not waiting has no timer to wait for
        intro m hm hwait
        obtain ⟨m', _, rfl⟩ := List.mem_map.mp hm
        simp at hwait
      · -- it was waiting until the timer fired, and the timer fires late
        intro m hm hg _
        obtain ⟨m', hm', rfl⟩ := List.mem_map.mp hm
        by_cases hw' : m'.waiting = true
        · have := h.deadline m' hm' hw' a d hinfo
          simp only at hdue ⊢
          omega
        · exact h.expired m' hm' hg (by simpa using hw')
      · intro m hm
        obtain ⟨m', hm', rfl⟩ := List.mem_map.mp hm
        exact h.past m' hm'
    · -- any other timer leaves the lock alone, and is gone afterwards
      next hlive =>
      rw [WakeState.userTimerCallback_of_not_live hv fun hcb hp => hlive ⟨hcb, hp⟩] at hw ⊢
      refine ⟨hw, h.count_le, h.count_eq, h.held, ?_, h.expired, h.past⟩
      intro m hm hwait b e hb
      by_cases hba : b = a
      · subst hba
        simp at hb
      · exact h.deadline m hm hwait b e (by simpa [hba] using hb)

/-- **Preservation.** Time passes, messages come and are acknowledged, and timers fire. A timer of
the vendor is not one of the lock, so no message waits for it. -/
theorem step (h : AckInv s) (hv : 13 ≤ version) {l : AckLabel} {t : AckState}
    (hstep : AckStep version s l t) : AckInv t := by
  cases hstep with
  | tick n w hw =>
    have hwake := h.wake.step hv hw
    cases hw with
    -- the time grows, and what has expired stays expired
    | tick =>
      refine ⟨hwake, h.count_le, h.count_eq, h.held, h.deadline, fun m hm hg hwait => ?_,
        fun m hm => ?_⟩
      · have := h.expired m hm hg hwait
        simp only
        omega
      · have := h.past m hm
        simp only
        omega
  | grab alloc w hw =>
    cases alloc with
    | none => exact h.grab_none hw hv
    | some a => exact h.grab_some hw hv
  | acknowledge m w hm hw => exact h.acknowledge hm hw hv
  | fire a info w hinfo hw => exact h.timeout hinfo hw hv
  | request alloc param relativeTime w hw =>
    -- a timer of the vendor is not one of the lock
    have hwake := h.wake.step hv hw
    cases hw with
    | request _ _ _ hfresh =>
      cases alloc with
      | none => exact h
      | some a =>
        -- the new timer is of another kind, so no message waits for it
        refine ⟨hwake, h.count_le, h.count_eq, h.held, ?_, h.expired, h.past⟩
        intro m hm hwait b d hb
        by_cases hba : b = a
        · subst hba
          simp [WakeState.internalRequestTimedCallback] at hb
        · exact h.deadline m hm hwait b d
            (by simpa [WakeState.internalRequestTimedCallback, hba] using hb)

/-- The invariant holds in every run. -/
theorem reachable (hv : 13 ≤ version) (h : (ackSystem version).Reachable s) : AckInv s :=
  h.invariant (fun _ => AckInv.initial) fun _ _ _ hs hstep => hs.step hv hstep

end AckInv

/-! ### The lock is not dropped early -/

/-- **The wake lock is held for waiting messages.** Unless the count has been disturbed since the
last time no message was waiting, the kernel lock is held as long as some message whose grab got its
timer is unacknowledged and younger than the wake timeout. -/
theorem wakeLock_held_while_waiting {version : ℤ} (hv : 13 ≤ version) {s : AckState}
    (h : (ackSystem version).Reachable s) (hcalm : s.disturbed = false) {m : Message}
    (hm : m ∈ s.unacked) (hgranted : m.granted = true)
    (hyoung : s.wake.now < m.grabbed + wakeTimeout) : s.wake.kernelHeld = true := by
  have hinv : AckInv s := AckInv.reachable hv h
  have hwait : m.waiting = true := by
    by_contra hw
    have := hinv.expired m hm hgranted (by simpa using hw)
    omega
  have hpos : 0 < s.waitingCount := AckState.waitingCount_pos hm hwait
  have heq := hinv.count_eq hcalm
  exact hinv.held hcalm (by omega)

/-- The state in which the process starts, with no message under way. -/
def AckState.start : AckState := ⟨WakeState.start, [], false⟩

theorem AckState.start_initial : AckState.start.Initial :=
  ⟨WakeState.start_initial, rfl, rfl⟩

/-- One message has just been sent. -/
def AckState.oneSent : AckState := AckState.start.grab (some 1) WakeState.firstGrab

theorem AckState.oneSent_reachable : (ackSystem 15).Reachable AckState.oneSent :=
  .step (.init AckState.start_initial)
    (.grab _ _ _ (.grab _ _ _ (fun _ _ => rfl) rfl))

/-- A second message 100 ms later. The first one is acknowledged, and after 200 ms only the second
one waits. -/
theorem secondWaits_reachable : ∃ s, (ackSystem 15).Reachable s ∧ s.disturbed = false ∧
    s.unacked = [⟨100000, true, true⟩] ∧ s.wake.now = 200000 := by
  have h₁ := AckState.oneSent_reachable
  have h₂ := h₁.step (.tick _ 100000 _ (.tick _ 100000))
  have h₃ := h₂.step (.grab _ (some 2) _ (.grab _ _ _ (by rintro a ⟨⟩; rfl) rfl))
  have h₄ := h₃.step (.acknowledge _ ⟨0, true, true⟩ _ (by decide) (.release _))
  have h₅ := h₄.step (.tick _ 100000 _ (.tick _ 100000))
  exact ⟨_, h₅, by decide, by decide, by decide⟩

theorem wakeLock_held_while_waiting_second : ∃ s, (ackSystem 15).Reachable s ∧
    s.unacked = [⟨100000, true, true⟩] ∧ s.wake.now = 200000 ∧ s.wake.kernelHeld = true := by
  obtain ⟨s, hreach, hcalm, hunacked, hnow⟩ := secondWaits_reachable
  have hmem : (⟨100000, true, true⟩ : Message) ∈ s.unacked := by
    rw [hunacked]
    exact List.mem_singleton_self _
  have hyoung : s.wake.now < 100000 + wakeTimeout := by
    rw [hnow]
    decide
  exact ⟨s, hreach, hunacked, hnow,
    wakeLock_held_while_waiting (by decide) hreach hcalm hmem rfl hyoung⟩

/-- **A late acknowledgement drops the lock of a newer message.** A first message times out, a
second one is sent, and then the client acknowledges the first. -/
theorem late_acknowledgement_drops_wakeLock :
    ¬ ∀ s, (ackSystem 15).Reachable s → ∀ m ∈ s.unacked, m.granted = true →
      s.wake.now < m.grabbed + wakeTimeout → s.wake.kernelHeld = true := by
  intro hall
  have h₁ := AckState.oneSent_reachable
  -- 200.001 ms later the timeout of the first message fires
  have h₂ := h₁.step (.tick _ 200001 _ (.tick _ 200001))
  have h₃ := h₂.step (.fire _ 1 _ _ rfl (.fire _ 1 _ rfl (by decide)))
  -- the second message, and the acknowledgement of the first
  have h₄ := h₃.step (.grab _ (some 1) _ (.grab _ _ _ (by rintro a ⟨⟩; rfl) rfl))
  have h₅ := h₄.step (.acknowledge _ ⟨0, true, false⟩ _ (by decide) (.release _))
  have := hall _ h₅ ⟨200001, true, true⟩ (by decide) rfl (by decide)
  revert this
  decide

end Ril

end BlueCommon
