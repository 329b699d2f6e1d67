import BlueCommon.Ril.TimerQueue

/-!
# No lost wakeup of the event loop

`calcNextTimeout` runs without the mutex and some time before `select` blocks, and one run of
`processWakeupCallback` may swallow the bytes of many threads.

* `WakeupInv`: from the moment the loop thread has read the head of `timer_list` until `select`
  returns, either that head is the earliest timer, or a signal is on its way: a byte is in the
  pipe, or a thread has added a timer and has yet to write.
* `loop_accounts_for_timers`: a blocked loop thread sleeps no longer than until the earliest
  deadline, counted from the clock reading of `calcNextTimeout`, unless it is signalled; and after
  the pipe has been drained the timer list is read again before the next `select`.
* `select_may_oversleep`: counted from the call of `select` the first half fails, as time may pass
  between the clock reading and the call.
* `wakesInTime_iff`: when `processTimeouts` moves the head of `timer_list` at the very end of the
  wait.
-/

namespace BlueCommon

namespace Ril

open LinkedList EventState

/-! ### Signals -/

/-- A byte is in the wakeup pipe, or a thread has added a timer and not yet written its byte. -/
def LoopState.Signalled (s : LoopState) : Prop :=
  0 < s.wakeupBytes ∨ ∃ i, s.toWrite i = true

/-- The event `a` is on `timer_list`. -/
def LoopState.Waits (s : LoopState) (a : Addr) : Prop :=
  ∃ xs, Ring s.events.links timerList xs ∧ a ∈ xs

/-- A timeout, counted from `since`, does not exceed the time to any deadline in `timer_list`. A
missing timeout exceeds any time. -/
def LoopState.Covers (s : LoopState) (ptv : Option Timeval) (since : Timeval) : Prop :=
  ∀ a, s.Waits a →
    ∃ tv, ptv = some tv ∧ tv.micros ≤ max 0 ((s.events.deadline a).micros - since.micros)

/-- **The invariant of the wakeup.** -/
def WakeupInv (s : LoopState) : Prop :=
  match s.pc with
  | .calcNow tev => s.Signalled ∨ ∀ a, s.Waits a →
      s.Waits tev ∧ s.events.deadline tev ≤ s.events.deadline a
  | .selectCall ptv reading => s.Signalled ∨ s.Covers ptv reading
  | .blocked ptv reading _ => s.Signalled ∨ s.Covers ptv reading
  | _ => True

/-! ### The computed wait -/

/-- The wait for a deadline ahead ends at it, the wait for any other at once. -/
theorem EventState.calcNextTimeout_eq {s : EventState} {tev : Addr} {now : Timeval}
    (hne : tev ≠ timerList) : s.calcNextTimeout now tev =
      some (if now < s.deadline tev then timersub (s.deadline tev) now else ⟨0, 0⟩) := by
  unfold calcNextTimeout
  rw [if_neg hne, Timeval.timercmp_gt]
  by_cases hahead : now < s.deadline tev
  · rw [if_pos hahead, if_pos (decide_eq_true hahead)]
  · rw [if_neg hahead, decide_eq_false hahead]
    rfl

/-! ### Keeping the invariant -/

namespace WakeupInv

variable {static : StaticEvents} {s t : LoopState} {xs due fds : List Addr}

theorem initial (h : s.Initial static) : WakeupInv s := by
  simp [WakeupInv, h.pc]

/-- Outside of the stretch from reading the head to the return of `select` there is nothing to
show. -/
theorem of_pc (h₁ : ∀ tev, s.pc ≠ .calcNow tev) (h₂ : ∀ ptv r, s.pc ≠ .selectCall ptv r)
    (h₃ : ∀ ptv r e, s.pc ≠ .blocked ptv r e) : WakeupInv s := by
  unfold WakeupInv
  split
  · next he => exact absurd he (h₁ _)
  · next he => exact absurd he (h₂ _ _)
  · next he => exact absurd he (h₃ _ _ _)
  · trivial

/-- A signalled loop thread satisfies the invariant wherever it is. -/
theorem of_signalled (h : s.Signalled) : WakeupInv s := by
  unfold WakeupInv
  split
  · exact .inl h
  · exact .inl h
  · exact .inl h
  · trivial

/-- The nodes of the timer list are those of its ring. -/
theorem waits_iff (h : QueueInv static s xs due fds) {a : Addr} : s.Waits a ↔ a ∈ xs := by
  constructor
  · rintro ⟨ys, hy, ha⟩
    rwa [h.lists.timer.unique hy]
  · exact fun ha => ⟨xs, h.lists.timer, ha⟩

/-- Reading the head of the sorted list finds the earliest timer. -/
theorem calcHead (hq : QueueInv static s xs due fds) {tev : Addr}
    (htev : s.events.links.next timerList = some tev) :
    WakeupInv { s with pc := .calcNow tev } := by
  refine .inr fun a ha => ?_
  have ha' : a ∈ xs := (waits_iff hq).mp ha
  obtain rfl : xs.headD timerList = tev := Option.some.inj (hq.lists.head.symm.trans htev)
  cases xs with
  | nil => cases ha'
  | cons x xs =>
    refine ⟨(waits_iff hq).mpr List.mem_cons_self, ?_⟩
    rcases List.mem_cons.mp ha' with rfl | hm
    · exact le_refl _
    · exact (List.pairwise_cons.mp hq.sorted).1 a hm

/-- The timeout computed from the earliest timer covers all of them. Unless a byte is on its way,
the head of the list has the earliest deadline; the deadlines are normalized, so they can be
compared in microseconds. -/
theorem calcNow (hq : QueueInv static s xs due fds) (h : WakeupInv s) {tev : Addr}
    (hpc : s.pc = .calcNow tev) :
    WakeupInv { s with pc := .selectCall (s.events.calcNextTimeout s.now tev) s.now } := by
  have h' : s.Signalled ∨ ∀ a, s.Waits a →
      s.Waits tev ∧ s.events.deadline tev ≤ s.events.deadline a := by
    simpa only [WakeupInv, hpc] using h
  -- unless a byte is on its way, the head of the list has the earliest deadline
  refine h'.imp (fun hs => hs) fun hall a ha => ?_
  obtain ⟨htev, hle⟩ := hall a ha
  -- the deadlines are normalized, so they can be compared in microseconds
  have hnorm : ∀ b, s.Waits b → (s.events.deadline b).Normalized := by
    intro b hb
    obtain ⟨id, hid⟩ := hq.owned b (List.mem_append_left due ((waits_iff hq).mp hb))
    obtain ⟨-, hdl, hn⟩ := hq.owner_deadline b id hid
    rwa [hdl]
  have hne : tev ≠ timerList := by
    rintro rfl
    exact hq.lists.timerList_notMem.1 ((waits_iff hq).mp htev)
  have hmicros := (Timeval.le_iff_micros (hnorm tev htev) (hnorm a ha)).mp hle
  by_cases hgt : s.now < s.events.deadline tev
  · -- the earliest deadline is ahead: the timeout is the difference
    refine ⟨timersub (s.events.deadline tev) s.now, ?_, ?_⟩
    · show s.events.calcNextTimeout s.now tev = _
      rw [calcNextTimeout_eq hne, if_pos hgt]
    · rw [(Timeval.timersub_spec (hnorm tev htev) hq.now_normalized).2]
      exact le_max_of_le_right (Int.sub_le_sub_right hmicros _)
  · -- it has passed: the timeout is zero
    refine ⟨⟨0, 0⟩, ?_, le_max_left _ _⟩
    rw [calcNextTimeout_eq hne, if_neg hgt]

/-- **Preservation.** From the read of the head of the list to the wait each step hands the deadline
on. A timer that comes in between is added by another thread, which writes a byte to the pipe, or in
a callback, before the head is read. -/
theorem step (hq : QueueInv static s xs due fds) (h : WakeupInv s) {l : LoopLabel}
    (hstep : LoopStep static s l t) : WakeupInv t := by
  cases hstep with
  -- the clock does not matter before the timeout is computed
  | tick now _ _ => exact h
  | copyFds hpc => exact of_pc (by simp) (by simp) (by simp)
  -- the head of the list is read: it is the earliest timer
  | calcHead tev hpc htev => exact calcHead hq htev
  -- the timeout covers that timer, and with it all others
  | calcNow tev hpc => exact calcNow hq h hpc
  -- the wait begins with what was computed
  | select ptv reading hpc =>
    have h' : s.Signalled ∨ s.Covers ptv reading := by simpa only [WakeupInv, hpc] using h
    exact h'
  | selectReturns ptv reading entered ready n _ _ _ => exact of_pc (by simp) (by simp) (by simp)
  | selectInterrupted ptv reading entered _ => exact of_pc (by simp) (by simp) (by simp)
  | selectFails ptv reading entered _ => exact of_pc (by simp) (by simp) (by simp)
  -- while the events are handled there is nothing to cover
  | processTimeouts n fuel events _ _ => exact of_pc (by simp) (by simp) (by simp)
  | processReadReadies n events ev _ _ _ => exact of_pc (by simp) (by simp) (by simp)
  | call ev next events _ _ _ _ => exact of_pc (by simp) (by simp) (by simp)
  | drain ev next hpc _ _ => exact of_pc (by simp [hpc]) (by simp [hpc]) (by simp [hpc])
  | finish ev next _ _ => exact of_pc (by simp) (by simp) (by simp)
  | firePendingReturns _ => exact of_pc (by simp) (by simp) (by simp)
  -- a timer that is added by another thread is followed by a byte to the pipe
  | timerAdd thread a tv d fuel events _ _ _ hloop _ _ =>
    cases thread with
    | none =>
      -- on the loop thread a timer is added in a callback only
      obtain ⟨ev, next, hpc⟩ := hloop rfl
      exact of_pc (by simp [hpc]) (by simp [hpc]) (by simp [hpc])
    | some i => exact of_signalled (.inr ⟨i, by simp⟩)
  | write i _ => exact of_signalled (.inl (Nat.succ_pos _))

/-- The invariant holds in every run. -/
theorem reachable (h : (eventLoop static).Reachable s) : WakeupInv s := by
  suffices hboth : (∃ xs due fds, QueueInv static s xs due fds) ∧ WakeupInv s from hboth.2
  refine @Lts.Reachable.invariant _ _ _
    (fun s => (∃ xs due fds, QueueInv static s xs due fds) ∧ WakeupInv s)
    (fun s h₀ => ⟨⟨_, _, _, QueueInv.initial h₀⟩, initial h₀⟩) ?_ s h
  rintro s l t ⟨⟨xs, due, fds, hq⟩, hw⟩ hstep
  exact ⟨hq.step hstep, step hq hw hstep⟩

end WakeupInv

/-! ### Draining the pipe -/

/-- The loop thread is between reading the head of the timer list and the return of `select`. -/
def LoopPc.HasRead : LoopPc → Prop
  | .calcNow _ => True
  | .selectCall _ _ => True
  | .blocked _ _ _ => True
  | _ => False

/-- A step that gets the loop thread past the head of the timer list is the step that reads it. -/
theorem hasRead_step {static : StaticEvents} {s t : LoopState} {l : LoopLabel}
    (hstep : LoopStep static s l t) (ht : t.pc.HasRead) : s.pc.HasRead ∨ l = .calcHead := by
  cases hstep with
  | calcHead tev hpc htev => exact .inr rfl
  | calcNow tev hpc => exact .inl (by simp [hpc, LoopPc.HasRead])
  | select ptv reading hpc => exact .inl (by simp [hpc, LoopPc.HasRead])
  | tick now _ _ => exact .inl ht
  | drain ev next hpc _ _ => exact .inl ht
  | timerAdd thread a tv d fuel events _ _ _ hloop _ _ => exact .inl ht
  | write i _ => exact .inl ht
  | _ => exact absurd ht (by simp [LoopPc.HasRead])

/-- In a run from a state before the read to a state after it the timer list has been read. -/
theorem calcHead_mem_of_hasRead {static : StaticEvents} {s t : LoopState}
    {tr : List (LoopState × LoopLabel)} (hrun : (eventLoop static).Run s tr t)
    (hs : ¬ s.pc.HasRead) (ht : t.pc.HasRead) : ∃ p ∈ tr, p.2 = .calcHead := by
  induction hrun with
  | nil => exact absurd ht hs
  | @snoc tr t u l _ hstep ih =>
    rcases hasRead_step hstep ht with hread | rfl
    · obtain ⟨p, hp, hl⟩ := ih hread
      exact ⟨p, List.mem_append_left _ hp, hl⟩
    · exact ⟨(t, .calcHead), by simp, rfl⟩

/-- **No lost wakeup.** Whenever the loop thread is blocked in `select`, its timeout, counted from
the clock reading of `calcNextTimeout`, does not exceed the time to the earliest deadline in
`timer_list`, or the wakeup pipe is not empty, or a thread has added a timer and not yet written;
and after bytes have been drained the loop thread does not block before it has read the timer list
again. -/
theorem loop_accounts_for_timers (static : StaticEvents) {s : LoopState}
    (h : (eventLoop static).Reachable s) :
    (∃ xs, Ring s.events.links timerList xs) ∧
    (∀ ptv reading entered, s.pc = .blocked ptv reading entered →
      s.Covers ptv reading ∨ 0 < s.wakeupBytes ∨ ∃ i, s.toWrite i = true) ∧
    ∀ t, LoopStep static s .drain t → ∀ tr u, (eventLoop static).Run t tr u →
      ∀ ptv reading entered, u.pc = .blocked ptv reading entered → ∃ p ∈ tr, p.2 = .calcHead := by
  refine ⟨?_, ?_, ?_⟩
  · -- the ring of the timers is intact
    obtain ⟨xs, due, fds, hq⟩ := QueueInv.reachable h
    exact ⟨xs, hq.lists.timer⟩
  · -- a loop that waits either covers all timers or is about to be woken
    intro ptv reading entered hpc
    have hw : s.Signalled ∨ s.Covers ptv reading := by
      simpa only [WakeupInv, hpc] using WakeupInv.reachable h
    exact hw.symm
  · -- after a drain the list is read again before the next wait
    intro t hdrain tr u hrun ptv reading entered hpc
    refine calcHead_mem_of_hasRead hrun ?_ (by simp [hpc, LoopPc.HasRead])
    cases hdrain with
    | drain ev next hpc' _ _ => simp [hpc', LoopPc.HasRead]

/-- A run with one timer. The loop blocks, a thread adds a timer of one second and writes its byte,
the byte wakes the loop, which drains the pipe. In the next iteration it computes the timeout, and
half a second later it calls `select`. -/
theorem oneTimer_run : ∃ (s drained u : LoopState) (tr : List (LoopState × LoopLabel)),
    (eventLoop wakeupStatic).Reachable s ∧ LoopStep wakeupStatic s .drain drained ∧
      (eventLoop wakeupStatic).Run drained tr u ∧
      u.pc = .blocked (some ⟨1, 0⟩) ⟨0, 0⟩ ⟨0, 500000⟩ ∧ u.Waits 2 ∧
      u.events.deadline 2 = ⟨1, 0⟩ ∧ u.wakeupBytes = 0 ∧ ∀ i, u.toWrite i = false := by
  have h₀ : (eventLoop wakeupStatic).Reachable _ := .init LoopState.start_initial
  -- a first iteration: the loop blocks, a thread adds a timer and writes its byte
  have h₁ := h₀.step (.copyFds _ rfl)
  have h₂ := h₁.step (.calcHead _ _ rfl rfl)
  have h₃ := h₂.step (.calcNow _ _ rfl)
  have h₄ := h₃.step (.select _ _ _ rfl)
  have h₅ := h₄.step (.timerAdd _ (some 0) 2 ⟨1, 0⟩ ⟨1, 0⟩ 1 _
    ⟨rfl, by simp [wakeupStatic], by decide, by decide⟩ ⟨by decide, by decide, by decide⟩
    (fun _ _ => rfl) (fun h => by cases h) rfl rfl)
  have h₆ := h₅.step (.write _ 0 rfl)
  -- the byte wakes the loop
  have h₇ := h₆.step (.selectReturns _ _ _ _ (fun fd => decide (fd = 5)) 1 rfl
    (by intro fd hfd; rw [of_decide_eq_true hfd]; rfl) (by decide))
  have h₈ := h₇.step (.processTimeouts _ _ 1 _ rfl rfl)
  have h₉ := h₈.step (.processReadReadies _ _ _ _ rfl rfl rfl)
  have h₁₀ := h₉.step (.call _ _ _ _ rfl (by decide) rfl rfl)
  -- the second iteration
  refine ⟨_, _, _, _, h₁₀, .drain _ _ _ rfl rfl (by decide),
    .snoc (.snoc (.snoc (.snoc (.snoc (.snoc (.snoc .nil (.finish _ _ _ rfl fun _ => rfl))
      (.firePendingReturns _ rfl)) (.copyFds _ rfl)) (.calcHead _ _ rfl rfl)) (.calcNow _ _ rfl))
      (.tick _ ⟨0, 500000⟩ (le_of_lt (Timeval.lt_iff.mpr (by decide))) ⟨by decide, by decide⟩))
      (.select _ _ _ rfl), ?_⟩
  · refine ⟨rfl, ⟨[2], ⟨⟨rfl, rfl⟩, ⟨rfl, rfl⟩, by decide⟩, List.mem_singleton.mpr rfl⟩, rfl, rfl,
      fun i => ?_⟩
    by_cases hi : i = 0
    · rw [hi]
      rfl
    · simp [hi, LoopState.start]

/-- The loop blocks with the timer in its list, after it has drained the pipe. -/
theorem loop_accounts_for_timers_oneTimer : ∃ (u : LoopState) (tr : List (LoopState × LoopLabel)),
    u.Waits 2 ∧ u.pc = .blocked (some ⟨1, 0⟩) ⟨0, 0⟩ ⟨0, 500000⟩ ∧ u.Covers (some ⟨1, 0⟩) ⟨0, 0⟩ ∧
      ∃ p ∈ tr, p.2 = .calcHead := by
  obtain ⟨s, drained, u, tr, hs, hdrain, hrun, hpc, hwaits, -, hbytes, hwrite⟩ := oneTimer_run
  have hu : (eventLoop wakeupStatic).Reachable u := hrun.reachable_of (hs.step hdrain)
  have hhead := (loop_accounts_for_timers wakeupStatic hs).2.2 drained hdrain tr u hrun _ _ _ hpc
  refine ⟨u, tr, hwaits, hpc, ?_, hhead⟩
  obtain hcovers | hpos | ⟨i, hi⟩ := (loop_accounts_for_timers wakeupStatic hu).2.1 _ _ _ hpc
  · exact hcovers
  · exact absurd hbytes (Nat.ne_of_gt hpos)
  · exact absurd ((hwrite i).symm.trans hi) Bool.false_ne_true

/-! ### Counted from the call of `select` -/

/-- **Counted from the call of `select` the loop may sleep too long.** The loop takes a timer of one
second into account, half a second passes, and `select` is called with a timeout of one second. -/
theorem select_may_oversleep :
    ¬ ∀ s, (eventLoop wakeupStatic).Reachable s → ∀ ptv reading entered,
      s.pc = .blocked ptv reading entered →
        s.Covers ptv entered ∨ 0 < s.wakeupBytes ∨ ∃ i, s.toWrite i = true := by
  intro hall
  obtain ⟨s, drained, u, tr, hs, hdrain, hrun, hpc, hwaits, hdeadline, hbytes, hwrite⟩ :=
    oneTimer_run
  have hu : (eventLoop wakeupStatic).Reachable u := hrun.reachable_of (hs.step hdrain)
  obtain hcovers | hpos | ⟨i, hi⟩ := hall u hu _ _ _ hpc
  · obtain ⟨tv, htv, hle⟩ := hcovers 2 hwaits
    obtain rfl := Option.some.inj htv
    rw [hdeadline] at hle
    revert hle
    decide
  · exact absurd hbytes (Nat.ne_of_gt hpos)
  · exact absurd ((hwrite i).symm.trans hi) Bool.false_ne_true

/-! ### At the end of the wait -/

namespace EventState

/-- The event is on the pending list. -/
def Pends (s : EventState) (a : Addr) : Prop := ∃ zs, Ring s.links pendingList zs ∧ a ∈ zs

/-- When the loop goes on exactly after the wait that `calcNextTimeout` has computed at `now` for
the head `tev` of the timer list, `processTimeouts` moves `tev` to the pending list. -/
def WakesInTime (s : EventState) (now : Timeval) (tev : Addr) : Prop :=
  ∀ w resumed, s.calcNextTimeout now tev = some w → timeradd now w = some resumed →
    ∃ fuel t, s.processTimeouts resumed fuel = some t ∧ t.Pends tev

variable {s t : EventState} {xs zs : List Addr} {tev : Addr} {now : Timeval}

/-- `processTimeouts` moves the head of the timer list if it is due. -/
theorem processTimeouts_pends_iff (h : Lists s (tev :: xs) zs) :
    (∃ fuel t, s.processTimeouts now fuel = some t ∧ t.Pends tev) ↔ s.Due now tev := by
  have hzs : tev ∉ zs := fun hmem => h.disjoint (List.mem_cons_of_mem _ List.mem_cons_self)
    (List.mem_cons_of_mem _ hmem)
  constructor
  · -- after the call the pending list has the timers that were due behind it
    rintro ⟨fuel, t, ht, zs', hring, hmem⟩
    obtain ⟨m, -, hlists⟩ := processTimeouts_spec h ht
    rw [hring.unique hlists.pending] at hmem
    -- had the first timer not been due, nothing would have been moved
    by_contra hdue
    rw [List.takeWhile_cons_of_neg (p := fun b => decide (s.Due now b)) (mt of_decide_eq_true hdue),
      List.append_nil] at hmem
    exact hzs hmem
  · -- it is due, so it is among those that were moved
    intro hdue
    obtain ⟨t, ht⟩ := processTimeouts_returns now h
    obtain ⟨m, -, hlists⟩ := processTimeouts_spec h ht
    refine ⟨_, t, ht, _, hlists.pending, List.mem_append_right _ ?_⟩
    rw [List.takeWhile_cons_of_pos (p := fun b => decide (s.Due now b)) (decide_eq_true hdue)]
    exact List.mem_cons_self

end EventState

/-- **The end of the wait is not past the deadline.** `processTimeouts` wants the clock to be past
it, so that the head of the timer list is moved only if its deadline had passed before the wait. A
deadline with a full second of microseconds is passed all the same, as the addition carries them. -/
theorem wakesInTime_iff {s : EventState} {xs zs : List Addr} {tev : Addr} {now : Timeval}
    (h : Lists s (tev :: xs) zs) (hnow : now.Normalized) (hmax : (s.deadline tev).sec ≤ timeMax) :
    (∃ w, s.calcNextTimeout now tev = some w) ∧
      (s.WakesInTime now tev ↔ s.deadline tev < now ∨ 1000000 ≤ (s.deadline tev).usec) := by
  have hne : tev ≠ timerList := fun e => h.timerList_notMem.1 (e ▸ List.mem_cons_self)
  have hwait := @calcNextTimeout_eq s tev now hne
  refine ⟨⟨_, hwait⟩, ?_⟩
  unfold WakesInTime
  rw [hwait]
  by_cases hahead : now < s.deadline tev
  · -- the wait ends at the deadline, or past it if the addition carries
    rw [if_pos hahead, or_iff_right (lt_asymm hahead)]
    -- the difference and the sum cancel, up to the carry of the microseconds
    constructor
    · intro hwakes
      by_contra hmicros
      obtain ⟨resumed, hresumed⟩ := Timeval.timeradd_timersub_isSome hnow hmax (not_le.mp hmicros)
      have hdue := (processTimeouts_pends_iff h).mp (hwakes _ _ rfl hresumed)
      exact hmicros ((Timeval.lt_timeradd_timersub_iff hnow hresumed).mp hdue)
    · -- for a full second of microseconds the sum carries, and the loop wakes past the deadline
      rintro hmicros w resumed hw hresumed
      obtain rfl := Option.some.inj hw
      exact (processTimeouts_pends_iff h).mpr
        ((Timeval.lt_timeradd_timersub_iff hnow hresumed).mpr hmicros)
  · -- there is no wait, and the clock is still at `now`
    rw [if_neg hahead]
    -- the wait is zero, so the loop wakes at `now`
    constructor
    · intro hwakes
      rcases lt_or_eq_of_le (not_lt.mp hahead) with hlt | heq
      · exact .inl hlt
      · have hsec : now.sec ≤ timeMax := heq ▸ hmax
        exact .inl ((processTimeouts_pends_iff h).mp
          (hwakes _ _ rfl (Timeval.timeradd_zero hnow hsec)))
    · rintro hcond w resumed hw hresumed
      obtain rfl := Option.some.inj hw
      obtain rfl := Timeval.eq_of_timeradd_zero hnow hresumed
      refine (processTimeouts_pends_iff h).mpr ((not_lt.mp hahead).lt_of_ne fun heq => ?_)
      -- a clock reading has less than a full second of microseconds
      rcases hcond with hlt | hmicros
      · exact absurd heq hlt.ne
      · exact absurd hnow.2 (not_lt.mpr (heq ▸ hmicros))

/-! The loop in a state with a timer of one second, set at time zero. -/

/-- The events when the timer, whose event is at address 2, has been added. -/
theorem EventState.start_rilTimerAdd :
    ∃ s, EventState.start.rilTimerAdd 2 ⟨1, 0⟩ ⟨0, 0⟩ 1 = some s ∧
      Lists s [2] [] ∧ s.deadline 2 = ⟨1, 0⟩ := by
  have hstart : Lists EventState.start [] [] := LoopState.start_initial.lists
  have hdeadline : timeradd ⟨0, 0⟩ ⟨1, 0⟩ = some ⟨1, 0⟩ := rfl
  obtain ⟨s, hs⟩ : ∃ s, EventState.start.rilTimerAdd 2 ⟨1, 0⟩ ⟨0, 0⟩ 1 = some s :=
    rilTimerAdd_returns hstart (by decide) hdeadline
  obtain ⟨d, m, hd, rfl, hlists⟩ := rilTimerAdd_spec hstart (by decide) (by decide) hs
  exact ⟨_, hs, hlists, by rw [← Option.some.inj hd]; rfl⟩

theorem wakesInTime_iff_late : ∃ s : EventState, Lists s [2] [] ∧ s.WakesInTime ⟨2, 0⟩ 2 := by
  obtain ⟨s, -, hlists, hdeadline⟩ := EventState.start_rilTimerAdd
  refine ⟨s, hlists, (wakesInTime_iff hlists ⟨by decide, by decide⟩ ?_).2.mpr (.inl ?_)⟩
  · rw [hdeadline]
    decide
  · rw [hdeadline, Timeval.lt_iff]
    decide

/-- **A loop that has slept until the deadline does not move the timer**, and waits for zero seconds
next. -/
theorem slept_until_deadline : ∃ s : EventState, Lists s [2] [] ∧ ¬s.WakesInTime ⟨0, 500000⟩ 2 ∧
    s.calcNextTimeout ⟨1, 0⟩ 2 = some ⟨0, 0⟩ ∧ ¬s.WakesInTime ⟨1, 0⟩ 2 := by
  obtain ⟨s, -, hlists, hdeadline⟩ := EventState.start_rilTimerAdd
  have hstays : ¬∃ fuel t, s.processTimeouts ⟨1, 0⟩ fuel = some t ∧ t.Pends 2 := by
    rw [processTimeouts_pends_iff hlists, Due, hdeadline]
    exact lt_irrefl _
  have hwait : ∀ now, s.calcNextTimeout now 2 =
      some (if now < (⟨1, 0⟩ : Timeval) then timersub ⟨1, 0⟩ now else ⟨0, 0⟩) := by
    intro now
    rw [calcNextTimeout_eq (by decide), hdeadline]
  have hhalf : s.calcNextTimeout ⟨0, 500000⟩ 2 = some ⟨0, 500000⟩ := by
    rw [hwait, if_pos (Timeval.lt_iff.mpr (by decide))]
    rfl
  have hzero : s.calcNextTimeout ⟨1, 0⟩ 2 = some ⟨0, 0⟩ := by
    rw [hwait, if_neg (lt_irrefl _)]
  exact ⟨s, hlists, fun hwakes => hstays (hwakes _ _ hhalf rfl), hzero, fun hwakes =>
    hstays (hwakes _ _ hzero rfl)⟩

end Ril

end BlueCommon
