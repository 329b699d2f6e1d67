import BlueCommon.Lib.Lts
import BlueCommon.Ril.Event

/-!
# The event loop and the threads that add timers

`ril_event_loop` as a thread that takes one step at a time, with any number of other threads that
run `internalRequestTimedCallback`: `ril_timer_add` and then one byte into the wakeup pipe.
Callbacks may add timers too; on the loop thread `triggerEvLoop` writes nothing.

* `LoopPc`: where the loop thread is. `calcNextTimeout` runs without the mutex and is split where it
  reads `timer_list.next` and where it reads the clock.
* `LoopStep`, `eventLoop`: the steps and the runs. The ghost fields name the timer request that owns
  an address, the deadline of each request and the callbacks that were invoked.
-/

namespace BlueCommon

namespace Ril

open LinkedList

/-! ### State -/

/-- Where the loop thread is in `ril_event_loop`. -/
inductive LoopPc
  /-- at the top of the loop -/
  | copyFds
  /-- in `calcNextTimeout`, about to read `timer_list.next` -/
  | calcHead
  /-- in `calcNextTimeout`, with `tev`, about to read the clock -/
  | calcNow (tev : Addr)
  /-- about to call `select` with the timeout computed from the clock reading -/
  | selectCall (ptv : Option Timeval) (reading : Timeval)
  /-- blocked in `select` since `entered` -/
  | blocked (ptv : Option Timeval) (reading entered : Timeval)
  /-- `select` has returned `n` -/
  | timeouts (n : ℤ)
  | readies (n : ℤ)
  /-- in `firePending`, at the head of its loop -/
  | firing (ev : Addr)
  /-- in the callback of `ev`, which `firePending` called -/
  | running (ev next : Addr)
  /-- `ril_event_loop` has returned after an error of `select` -/
  | returned

/-- The state of the process as far as the event loop goes: the events, the clock, where the loop
is, the bytes in the wakeup pipe and which threads have still to write one. Ghost: to which request
a timer belongs, the deadlines of the requests, and what has fired. -/
structure LoopState where
  events : EventState
  now : Timeval
  pc : LoopPc
  /-- the local copy of the descriptor set -/
  rfds : ℤ → Bool
  /-- the bytes in the wakeup pipe -/
  wakeupBytes : ℕ
  /-- the threads that have added a timer and not yet written to the pipe -/
  toWrite : ℕ → Bool
  /-- the timer request whose event is at an address -/
  owner : Addr → Option ℕ
  /-- the number of timer requests so far -/
  issued : ℕ
  /-- the deadline of each request -/
  deadlines : ℕ → Timeval
  /-- the requests whose callback was invoked, with the time of the invocation -/
  fired : List (ℕ × Timeval)
  /-- the deadlines of the callbacks of this iteration, in the order of their invocation -/
  batch : List Timeval

/-- The addresses that are never returned by `calloc`: the sentinels and the events of the watched
descriptors. -/
structure StaticEvents where
  isFdEvent : Addr → Prop
  timerList_not : ¬ isFdEvent timerList
  pendingList_not : ¬ isFdEvent pendingList

/-- `calloc` may return `a`. -/
def LoopState.Fresh (static : StaticEvents) (s : LoopState) (a : Addr) : Prop :=
  s.owner a = none ∧ ¬ static.isFdEvent a ∧ a ≠ timerList ∧ a ≠ pendingList

/-- `ril_event_set(&p_info->event, -1, false, userTimerCallback, p_info)` on a fresh
`UserCallbackInfo`. -/
abbrev EventState.setTimer (a : Addr) (s : EventState) : EventState :=
  s.rilEventSet a (-1) false .userTimerCallback

/-! ### Steps -/

/-- The steps of the loop thread, of the other threads and of the clock. -/
inductive LoopLabel
  | tick (now : Timeval)
  | copyFds
  | calcHead
  | calcNow
  | select
  | selectReturns (ready : ℤ → Bool) (n : ℤ)
  | selectInterrupted
  | selectFails
  | processTimeouts
  | processReadReadies
  | call
  | drain
  | finish
  | firePendingReturns
  /-- `ril_timer_add` of a fresh timer by a thread, or by a callback on the loop thread -/
  | timerAdd (thread : Option ℕ) (a : Addr) (tv : Timeval)
  /-- `write (s_fdWakeupWrite, " ", 1)` -/
  | write (thread : ℕ)

/-- The relative times `ril_timer_add` is called with. -/
def Timeval.Relative (tv : Timeval) : Prop := 0 ≤ tv.sec ∧ tv.Normalized

/-- A callback of the loop thread is running. -/
def LoopState.InCallback (s : LoopState) : Prop := ∃ ev next, s.pc = .running ev next

/-- **One step.** -/
inductive LoopStep (static : StaticEvents) : LoopState → LoopLabel → LoopState → Prop
  | tick (s : LoopState) (now : Timeval) (hle : s.now ≤ now) (hn : now.Normalized) :
      LoopStep static s (.tick now) { s with now := now }
  | copyFds (s : LoopState) (hpc : s.pc = .copyFds) :
      LoopStep static s .copyFds { s with rfds := s.events.readFds, pc := .calcHead }
  | calcHead (s : LoopState) (tev : Addr) (hpc : s.pc = .calcHead)
      (htev : s.events.links.next timerList = some tev) :
      LoopStep static s .calcHead { s with pc := .calcNow tev }
  | calcNow (s : LoopState) (tev : Addr) (hpc : s.pc = .calcNow tev) :
      LoopStep static s .calcNow
        { s with pc := .selectCall (s.events.calcNextTimeout s.now tev) s.now }
  | select (s : LoopState) (ptv : Option Timeval) (reading : Timeval)
      (hpc : s.pc = .selectCall ptv reading) :
      LoopStep static s .select { s with pc := .blocked ptv reading s.now }
  | selectReturns (s : LoopState) (ptv : Option Timeval) (reading entered : Timeval)
      (ready : ℤ → Bool) (n : ℤ) (hpc : s.pc = .blocked ptv reading entered)
      (hready : ∀ fd, ready fd = true → s.rfds fd = true) (hn : 0 ≤ n) :
      LoopStep static s (.selectReturns ready n) { s with rfds := ready, pc := .timeouts n }
  | selectInterrupted (s : LoopState) (ptv : Option Timeval) (reading entered : Timeval)
      (hpc : s.pc = .blocked ptv reading entered) :
      LoopStep static s .selectInterrupted { s with pc := .copyFds }
  | selectFails (s : LoopState) (ptv : Option Timeval) (reading entered : Timeval)
      (hpc : s.pc = .blocked ptv reading entered) :
      LoopStep static s .selectFails { s with pc := .returned }
  | processTimeouts (s : LoopState) (n : ℤ) (fuel : ℕ) (events : EventState)
      (hpc : s.pc = .timeouts n) (h : s.events.processTimeouts s.now fuel = some events) :
      LoopStep static s .processTimeouts
        { s with events := events, batch := [], pc := .readies n }
  | processReadReadies (s : LoopState) (n : ℤ) (events : EventState) (ev : Addr)
      (hpc : s.pc = .readies n) (h : s.events.processReadReadies s.rfds n = some events)
      (hev : events.links.next pendingList = some ev) :
      LoopStep static s .processReadReadies { s with events := events, pc := .firing ev }
  | call (s : LoopState) (ev next : Addr) (events : EventState) (hpc : s.pc = .firing ev)
      (hev : ev ≠ pendingList) (hnext : s.events.links.next ev = some next)
      (h : s.events.removeFromList ev = some events) :
      LoopStep static s .call { s with
        events := events
        pc := .running ev next
        fired := s.fired ++ (s.owner ev).toList.map fun id => (id, s.now)
        batch := s.batch ++ (s.owner ev).toList.map s.deadlines }
  | drain (s : LoopState) (ev next : Addr) (hpc : s.pc = .running ev next)
      (hfunc : (s.events.event ev).func = .processWakeupCallback) (hbytes : 0 < s.wakeupBytes) :
      LoopStep static s .drain { s with wakeupBytes := s.wakeupBytes - 16 }
  | finish (s : LoopState) (ev next : Addr) (hpc : s.pc = .running ev next)
      (hempty : (s.events.event ev).func = .processWakeupCallback → s.wakeupBytes = 0) :
      LoopStep static s .finish
        { s with pc := .firing next, owner := Function.update s.owner ev none }
  | firePendingReturns (s : LoopState) (hpc : s.pc = .firing pendingList) :
      LoopStep static s .firePendingReturns { s with pc := .copyFds }
  | timerAdd (s : LoopState) (thread : Option ℕ) (a : Addr) (tv d : Timeval) (fuel : ℕ)
      (events : EventState) (hfresh : s.Fresh static a) (htv : tv.Relative)
      (hidle : ∀ i, thread = some i → s.toWrite i = false)
      (hloop : thread = none → s.InCallback) (hd : timeradd s.now tv = some d)
      (h : (s.events.setTimer a).rilTimerAdd a tv s.now fuel = some events) :
      LoopStep static s (.timerAdd thread a tv) { s with
        events := events
        toWrite := match thread with
          | none => s.toWrite
          | some i => Function.update s.toWrite i true
        owner := Function.update s.owner a (some s.issued)
        issued := s.issued + 1
        deadlines := Function.update s.deadlines s.issued d }
  | write (s : LoopState) (i : ℕ) (hi : s.toWrite i = true) :
      LoopStep static s (.write i) { s with
        toWrite := Function.update s.toWrite i false
        wakeupBytes := s.wakeupBytes + 1 }

/-- The loop is about to start: the lists are empty, the descriptors to watch are registered, and no
request was made. -/
structure LoopState.Initial (static : StaticEvents) (s : LoopState) : Prop where
  lists : s.events.Lists [] []
  watchedOnce : s.events.WatchedOnce
  watched : ∀ i a, s.events.watchTable i = some a → static.isFdEvent a
  now : s.now.Normalized
  pc : s.pc = .copyFds
  owner : ∀ a, s.owner a = none
  issued : s.issued = 0
  fired : s.fired = []
  batch : s.batch = []

/-- The runs of the event loop and the threads that add timers. The clock may go on at any time, and
a thread may be interrupted between adding its timer and writing to the pipe. -/
def eventLoop (static : StaticEvents) : Lts LoopState LoopLabel where
  init := LoopState.Initial static
  step := LoopStep static

/-! ### What adding a timer does -/

namespace EventState

variable {s t : EventState} {xs zs : List Addr} {a : Addr} {tv now : Timeval}

/-- The timers after a fresh one was added. -/
theorem setTimer_rilTimerAdd_spec (h : Lists s xs zs) (hx : a ∉ timerList :: xs)
    (hz : a ∉ pendingList :: zs) {fuel : ℕ} {d : Timeval} (hd : timeradd now tv = some d)
    (hadd : (s.setTimer a).rilTimerAdd a tv now fuel = some t) :
    Lists t (xs.orderedInsert t.Before a) zs ∧ t.deadline a = d ∧
      (∀ b ≠ a, t.event b = s.event b) ∧ t.watchTable = s.watchTable := by
  obtain ⟨d', m, hd', rfl, hl⟩ := rilTimerAdd_spec (h.rilEventSet hx hz _ _ _) hx hz hadd
  obtain rfl : d = d' := Option.some.inj (hd.symm.trans hd')
  refine ⟨hl, by simp [arm, deadline], fun b hb => ?_, rfl⟩
  simp [arm, EventState.rilEventSet, hb]

end EventState

end Ril

end BlueCommon
