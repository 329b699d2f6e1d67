import BlueCommon.Lib.Ring
import BlueCommon.Ril.Timeval
import BlueCommon.Ril.WakeLock
import Mathlib.Data.Finset.Card
import Mathlib.Data.List.Sort

/-!
# The event layer of libril

`ril_event.cpp`: the timers of the process wait in the ring `timer_list`, sorted by deadline; the
events of one iteration of the loop are collected in the ring `pending_list`; file descriptors are
watched through `watch_table`. The functions are modelled on the link fields themselves.

* `rilTimerAdd`, `processTimeouts`, `processReadReadies`, `removeWatch`, `calcNextTimeout`,
  `rilEventInit`, `rilEventSet`, `rilEventAdd`, `rilEventDel`: the functions. A loop takes fuel, and
  a followed null pointer gives `none`.
* `rilTimerAdd_spec`: on a sorted ring the new timer is linked in at its place.
* `processTimeouts_spec`: exactly the expired timers move to the pending list, in order.
* `processReadReadies_spec`: the events of the ready descriptors are appended to the pending list.
-/

namespace BlueCommon

namespace Ril

open LinkedList

/-! ### State -/

/-- `MAX_FD_EVENTS`, the length of the watch table. -/
abbrev maxFdEvents : ℕ := 8

/-- `func` of an event: the callback of a timer, the callback of the wakeup pipe, or another one. -/
inductive EventFunc
  | userTimerCallback
  | processWakeupCallback
  | other (n : ℕ)
  deriving DecidableEq, Repr

/-- `struct ril_event` without its link fields. -/
structure RilEvent where
  fd : ℤ
  index : ℤ
  persist : Bool
  timeout : Timeval
  func : EventFunc
  deriving DecidableEq, Repr

/-- The static data of `ril_event.cpp`, with the memory of the events: the links of the two lists,
the other fields of the events, the watch table, the descriptor set and `nfds`. -/
structure EventState where
  links : Links Addr
  event : Addr → RilEvent
  watchTable : Fin maxFdEvents → Option Addr
  readFds : ℤ → Bool
  nfds : ℤ

/-- `&timer_list`, the sentinel of the list of timers that are waiting. -/
def timerList : Addr := 0

/-- `&pending_list`, the sentinel of the list of events whose callbacks are to be called. -/
def pendingList : Addr := 1

/-! ### Functions -/

namespace EventState

/-- `init_list`: an empty list, whose sentinel is its own neighbour on both sides. -/
def initList (list : Addr) (s : EventState) : EventState := { s with
  links := (s.links.setNext list (some list)).setPrev list (some list)
  event := Function.update s.event list ⟨-1, 0, false, ⟨0, 0⟩, .other 0⟩ }

/-- `ril_event_init`: both lists and the watch table are empty. `nfds` is not set, as it is static
and zero. -/
def rilEventInit (s : EventState) : EventState :=
  { initList pendingList (initList timerList { s with readFds := fun _ => false }) with
    watchTable := fun _ => none }

/-- `ril_event_set`: the links are cleared and the index is that of an event that is not watched. -/
def rilEventSet (ev : Addr) (fd : ℤ) (persist : Bool) (func : EventFunc) (s : EventState) :
    EventState := { s with
  links := (s.links.setNext ev none).setPrev ev none
  event := Function.update s.event ev ⟨fd, -1, persist, ⟨0, 0⟩, func⟩ }

/-- `ril_event_add`: the event takes the first free entry of the watch table, if there is one.
Otherwise nothing happens, and nobody is told. -/
def rilEventAdd (ev : Addr) (s : EventState) : EventState :=
  match (List.finRange maxFdEvents).find? fun i => (s.watchTable i).isNone with
  | none => s
  | some i => { s with
      watchTable := Function.update s.watchTable i (some ev)
      event := Function.update s.event ev { s.event ev with index := i.val }
      readFds := Function.update s.readFds (s.event ev).fd true
      nfds := if s.nfds ≤ (s.event ev).fd then (s.event ev).fd + 1 else s.nfds }

/-- `addToList(ev, list)`: the event becomes the last one of the list, or stands before any event
that is given for the list. -/
def addToList (ev list : Addr) (s : EventState) : Option EventState :=
  (s.links.insertBefore ev list).map fun links => { s with links := links }

/-- `removeFromList(ev)`: the event is unlinked, from whichever list it is in. -/
def removeFromList (ev : Addr) (s : EventState) : Option EventState :=
  (s.links.remove ev).map fun links => { s with links := links }

/-- The largest descriptor in the watch table, or 0. -/
def maxWatchedFd (s : EventState) : ℤ :=
  (List.finRange maxFdEvents).foldl (fun n i =>
    match s.watchTable i with
    | some rev => if n < (s.event rev).fd then (s.event rev).fd else n
    | none => n) 0

/-- `removeWatch(ev, index)`: the entry is cleared, the descriptor is no longer in the set, and
`nfds` is computed anew if it was the largest one. -/
def removeWatch (ev : Addr) (index : Fin maxFdEvents) (s : EventState) : EventState :=
  let s := { s with
    watchTable := Function.update s.watchTable index none
    event := Function.update s.event ev { s.event ev with index := -1 } }
  let s := { s with readFds := Function.update s.readFds (s.event ev).fd false }
  if (s.event ev).fd + 1 = s.nfds then { s with nfds := s.maxWatchedFd + 1 } else s

/-- `ril_event_del(ev)`. An event whose `index` is no index of the table is left alone, wherever it
is queued. -/
def rilEventDel (ev : Addr) (s : EventState) : EventState :=
  if h : (s.event ev).index < 0 ∨ (s.event ev).index ≥ maxFdEvents then s
  else s.removeWatch ev ⟨(s.event ev).index.toNat, by omega⟩

/-- The loop of `processTimeouts` from `tev`. -/
def processTimeoutsLoop (now : Timeval) : ℕ → Addr → EventState → Option EventState
  | 0, _, _ => none
  | fuel + 1, tev, s =>
    if decide (tev ≠ timerList) && timercmp now (s.event tev).timeout (fun x y => decide (x > y))
    then do
      let next ← s.links.next tev
      let s ← s.removeFromList tev
      let s ← s.addToList tev pendingList
      processTimeoutsLoop now fuel next s
    else some s

/-- `processTimeouts`: the timers whose deadline has passed go from the front of the timer list to
the pending list. `fuel` bounds the rounds of its loop. -/
def processTimeouts (now : Timeval) (fuel : ℕ) (s : EventState) : Option EventState := do
  let tev ← s.links.next timerList
  s.processTimeoutsLoop now fuel tev

/-- The loop of `processReadReadies` over the rest of the table. -/
def processReadReadiesLoop (rfds : ℤ → Bool) :
    List (Fin maxFdEvents) → ℤ → EventState → Option EventState
  | [], _, s => some s
  | i :: rest, n, s =>
    if 0 < n then
      match s.watchTable i with
      | some rev =>
        if rfds (s.event rev).fd then do
          let s ← s.addToList rev pendingList
          let s := if (s.event rev).persist = false then s.removeWatch rev i else s
          processReadReadiesLoop rfds rest (n - 1) s
        else processReadReadiesLoop rfds rest n s
      | none => processReadReadiesLoop rfds rest n s
    else some s

/-- `processReadReadies(rfds, n)`: the events whose descriptors are ready are queued, and those that
are not persistent are no longer watched. The loop ends when `n` of them were found. -/
def processReadReadies (rfds : ℤ → Bool) (n : ℤ) (s : EventState) : Option EventState :=
  s.processReadReadiesLoop rfds (List.finRange maxFdEvents) n

/-- `calcNextTimeout` once it has read `timer_list.next` into `tev`: the time until the first
deadline, zero if it has passed, and `none` for the result -1 when there is no timer. -/
def calcNextTimeout (now : Timeval) (tev : Addr) (s : EventState) : Option Timeval :=
  if tev = timerList then none
  else if timercmp (s.event tev).timeout now (fun x y => decide (x > y)) then
    some (timersub (s.event tev).timeout now)
  else some ⟨0, 0⟩

/-- `ev->fd = -1; ev->timeout = timeout;` in `ril_timer_add`, before the event is put into the
list. -/
def arm (ev : Addr) (timeout : Timeval) (s : EventState) : EventState := { s with
  event := Function.update s.event ev { s.event ev with fd := -1, timeout := timeout } }

/-- `ril_timer_add(ev, tv)` at the time `now`. -/
def rilTimerAdd (ev : Addr) (tv now : Timeval) (fuel : ℕ) (s : EventState) : Option EventState := do
  let list ← s.links.next timerList
  let timeout ← timeradd now tv
  let s := s.arm ev timeout
  let list ← walkRing s.links.next timerList
    (fun b => timercmp (s.event b).timeout (s.event ev).timeout fun x y => decide (x < y)) fuel list
  s.addToList ev list

/-! ### What the functions do to the rings -/

variable {s t : EventState} {xs zs : List Addr} {now tv : Timeval} {ev : Addr}

/-- The timer list holds `xs` and the pending list holds `zs`. They are rings without a common
node. -/
structure Lists (s : EventState) (xs zs : List Addr) : Prop where
  timer : Ring s.links timerList xs
  pending : Ring s.links pendingList zs
  disjoint : (timerList :: xs).Disjoint (pendingList :: zs)

/-- The deadline of an event, by which the timer list is sorted. -/
abbrev deadline (s : EventState) (a : Addr) : Timeval := (s.event a).timeout

/-- The order of the timer list. -/
def Before (s : EventState) (a b : Addr) : Prop := s.deadline a ≤ s.deadline b

instance (s : EventState) : DecidableRel s.Before :=
  fun a b => inferInstanceAs (Decidable (s.deadline a ≤ s.deadline b))

instance (s : EventState) : Std.Total s.Before :=
  ⟨fun a b => le_total (s.deadline a) (s.deadline b)⟩

instance (s : EventState) : IsTrans Addr s.Before := ⟨fun _ _ _ h h' => le_trans h h'⟩

/-- A timer is due when its deadline is before `now`. -/
def Due (s : EventState) (now : Timeval) (a : Addr) : Prop := s.deadline a < now

instance (s : EventState) (now : Timeval) : DecidablePred (s.Due now) :=
  fun a => inferInstanceAs (Decidable (s.deadline a < now))

@[simp] theorem arm_links (d : Timeval) : (s.arm ev d).links = s.links := rfl

/-- Arming a timer leaves the other events alone. -/
theorem arm_event_of_ne (d : Timeval) {b : Addr} (hb : b ≠ ev) :
    (s.arm ev d).event b = s.event b := by
  simp [arm, hb]

namespace Lists

/-- The node at the front of the timer list. -/
theorem head (h : Lists s xs zs) : s.links.next timerList = some (xs.headD timerList) :=
  Path.head_eq h.timer.next

/-- The timer list as a path from its front. -/
theorem path (h : Lists s xs zs) :
    Path s.links.next (some (xs.headD timerList)) xs (some timerList) := by
  rw [← h.head]
  exact h.timer.next

/-- The sentinels are no timers and no pending events. -/
theorem timerList_notMem (h : Lists s xs zs) : timerList ∉ xs ∧ timerList ∉ pendingList :: zs :=
  ⟨(List.nodup_cons.mp h.timer.nodup).1, fun hm => h.disjoint List.mem_cons_self hm⟩

/-- Appending an event to the pending list. -/
theorem addToList_pending (h : Lists s xs zs) (hx : ev ∉ timerList :: xs)
    (hz : ev ∉ pendingList :: zs) :
    ∃ m, s.addToList ev pendingList = some { s with links := m } ∧
      Lists { s with links := m } xs (zs ++ [ev]) := by
  -- the new event goes in front of the sentinel, which is the end of the ring
  have hring : Ring s.links pendingList (zs ++ []) := by simpa using h.pending
  obtain ⟨m, hm, hpend, hframe⟩ := hring.insertBefore (show ev ∉ _ by simpa using hz)
  refine ⟨m, by simpa [addToList] using hm, ⟨h.timer.congr fun b hb => hframe b ?_, hpend, ?_⟩⟩
  · -- what is written are nodes of the pending ring and the event itself, none of them on the timer
    -- ring
    intro hb'
    have hbz : b ∉ pendingList :: zs := h.disjoint hb
    simp only [List.mem_cons, List.mem_append, List.not_mem_nil, or_false] at hb' hbz
    rcases hb' with h' | h' | rfl
    · exact hbz (Or.inl h')
    · exact hbz (Or.inr h')
    · exact hx hb
  · intro b hb hb'
    have hbz : b ∉ pendingList :: zs := h.disjoint hb
    simp only [List.mem_cons, List.mem_append, List.not_mem_nil, or_false] at hb' hbz
    rcases hb' with h' | h' | rfl
    · exact hbz (Or.inl h')
    · exact hbz (Or.inr h')
    · exact hx hb

/-- Taking the first timer off the timer list. -/
theorem removeFromList_timer {x : Addr} (h : Lists s (x :: xs) zs) :
    ∃ m, s.removeFromList x = some { s with links := m } ∧
      Lists { s with links := m } xs zs := by
  obtain ⟨m, hm, htimer, hframe⟩ :=
    Ring.remove (show Ring s.links timerList ([] ++ x :: xs) from h.timer)
  refine ⟨m, by simp [removeFromList, hm], htimer, ?_, ?_⟩
  · exact h.pending.congr fun b hb => hframe b fun hb' => h.disjoint hb' hb
  · intro b hb hb'
    refine h.disjoint ?_ hb'
    simp only [List.mem_cons] at hb ⊢
    tauto

/-- Taking the first event off the pending list. -/
theorem removeFromList_pending {z : Addr} (h : Lists s xs (z :: zs)) :
    ∃ m, s.removeFromList z = some { s with links := m } ∧
      Lists { s with links := m } xs zs := by
  obtain ⟨m, hm, hpend, hframe⟩ :=
    Ring.remove (show Ring s.links pendingList ([] ++ z :: zs) from h.pending)
  refine ⟨m, by simp [removeFromList, hm], ?_, hpend, ?_⟩
  · exact h.timer.congr fun b hb => hframe b fun hb' => h.disjoint hb hb'
  · intro b hb hb'
    refine h.disjoint hb ?_
    simp only [List.mem_cons] at hb' ⊢
    tauto

/-- Setting up an event that is on no list changes no list. -/
theorem rilEventSet (h : Lists s xs zs) (hx : ev ∉ timerList :: xs) (hz : ev ∉ pendingList :: zs)
    (fd : ℤ) (persist : Bool) (func : EventFunc) :
    Lists (s.rilEventSet ev fd persist func) xs zs := by
  refine ⟨h.timer.congr fun b hb => ?_, h.pending.congr fun b hb => ?_, h.disjoint⟩
  · have hbe : b ≠ ev := fun e => hx (e ▸ hb)
    simp [EventState.rilEventSet, Links.setNext, Links.setPrev, hbe]
  · have hbe : b ≠ ev := fun e => hz (e ▸ hb)
    simp [EventState.rilEventSet, Links.setNext, Links.setPrev, hbe]

end Lists

/-! ### Adding a timer -/

/-- The walk of `ril_timer_add` passes the timers that do not come after `ev`. -/
theorem timercmp_walk (s : EventState) (ev : Addr) :
    (fun b => timercmp (s.event b).timeout (s.event ev).timeout fun x y => decide (x < y)) =
      fun b => decide ¬ s.Before ev b := by
  funext b
  rw [Timeval.timercmp_lt]
  exact decide_eq_decide.mpr not_le.symm

/-- **`ril_timer_add` keeps the timer list sorted.** The new timer is linked in behind the timers
with an earlier deadline and before all others. -/
theorem rilTimerAdd_spec (h : Lists s xs zs) (hx : ev ∉ timerList :: xs)
    (hz : ev ∉ pendingList :: zs) {fuel : ℕ} (hadd : s.rilTimerAdd ev tv now fuel = some t) :
    ∃ d m, timeradd now tv = some d ∧ t = { s.arm ev d with links := m } ∧
      Lists t (xs.orderedInsert (s.arm ev d).Before ev) zs := by
  -- the deadline is computed, the place is searched, and the event is linked in before it
  simp only [rilTimerAdd, h.head, Option.bind_eq_bind, Option.bind_some] at hadd
  obtain ⟨d, hd, hadd⟩ := Option.bind_eq_some_iff.mp hadd
  obtain ⟨c, hc, hadd⟩ := Option.bind_eq_some_iff.mp hadd
  -- the walk stops at the first timer that is later
  rw [timercmp_walk] at hc
  have hplace := walkRing_unique h.path h.timerList_notMem.1 hc
  -- what is before that place and what is after it make up the old list
  have hsplit : xs = xs.takeWhile (fun b => decide ¬ (s.arm ev d).Before ev b) ++
      xs.dropWhile (fun b => decide ¬ (s.arm ev d).Before ev b) :=
    (List.takeWhile_append_dropWhile).symm
  have hring : Ring (s.arm ev d).links timerList _ := hsplit ▸ h.timer
  obtain ⟨m, hm, htimer, hframe⟩ := hring.insertBefore (hsplit ▸ hx)
  rw [← List.orderedInsert_eq_take_drop] at htimer hframe
  rw [hplace, addToList, hm] at hadd
  obtain rfl := Option.some.inj hadd
  -- the two rings stay apart, so that the pending one is not written
  have hdisjoint : List.Disjoint (timerList :: xs.orderedInsert (s.arm ev d).Before ev)
      (pendingList :: zs) := by
    intro b hb hb'
    simp only [List.mem_cons, List.mem_orderedInsert] at hb
    rcases hb with rfl | rfl | hb
    · exact h.timerList_notMem.2 hb'
    · exact hz hb'
    · exact h.disjoint (List.mem_cons_of_mem _ hb) hb'
  exact ⟨d, m, hd, rfl, htimer, h.pending.congr fun b hb => hframe b fun hb' => hdisjoint hb' hb,
    hdisjoint⟩

/-- `ril_timer_add` returns unless the deadline overflows. -/
theorem rilTimerAdd_returns (h : Lists s xs zs) (hx : ev ∉ timerList :: xs) {d : Timeval}
    (hd : timeradd now tv = some d) :
    ∃ t, s.rilTimerAdd ev tv now (xs.length + 1) = some t := by
  have hwalk : walkRing s.links.next timerList (fun b => decide ¬ (s.arm ev d).Before ev b)
      (xs.length + 1) (xs.headD timerList) = _ :=
    walkRing_eq h.path h.timerList_notMem.1 (Nat.lt_succ_self _)
  have hsplit : xs = xs.takeWhile (fun b => decide ¬ (s.arm ev d).Before ev b) ++
      xs.dropWhile (fun b => decide ¬ (s.arm ev d).Before ev b) :=
    (List.takeWhile_append_dropWhile).symm
  have hring : Ring (s.arm ev d).links timerList _ := hsplit ▸ h.timer
  obtain ⟨m, hm, -⟩ := hring.insertBefore (hsplit ▸ hx)
  refine ⟨{ s.arm ev d with links := m }, ?_⟩
  simp only [rilTimerAdd, h.head, hd, Option.bind_eq_bind, Option.bind_some, arm_links]
  rw [timercmp_walk, hwalk, Option.bind_some, addToList, hm]
  rfl

/-! ### Expired timers -/

/-- The loop of `processTimeouts` moves the due timers at the front of the list. It ends at the
first one that is not due. Any fuel above the number of timers gives the result, and less fuel gives
the same or none. -/
theorem processTimeoutsLoop_spec (now : Timeval) (h : Lists s xs zs) :
    ∃ m, (∀ fuel, xs.length < fuel →
        s.processTimeoutsLoop now fuel (xs.headD timerList) = some { s with links := m }) ∧
      (∀ fuel t, s.processTimeoutsLoop now fuel (xs.headD timerList) = some t →
        t = { s with links := m }) ∧
      Lists { s with links := m } (xs.dropWhile (s.Due now)) (zs ++ xs.takeWhile (s.Due now)) := by
  -- induction on the timers: the ones that are due are at the front, and the first that is not
  -- ends the loop
  induction xs generalizing s zs with
  | nil =>
    refine ⟨s.links, ?_, ?_, by simpa using h⟩
    · intro fuel hfuel
      obtain ⟨fuel, rfl⟩ : ∃ k, fuel = k + 1 := ⟨fuel - 1, by omega⟩
      simp [processTimeoutsLoop]
    · intro fuel t ht
      cases fuel with
      | zero => cases ht
      | succ fuel => exact (by simpa [processTimeoutsLoop] using ht : s = t).symm
  | cons x xs ih =>
    -- the loop has not come to the sentinel
    have hxne : x ≠ timerList := fun e => h.timerList_notMem.1 (e ▸ List.mem_cons_self)
    by_cases hdue : s.Due now x
    · -- the front timer is due: it moves to the end of the pending list
      obtain ⟨m₁, hrem, h₁⟩ := h.removeFromList_timer
      have hx₁ : x ∉ timerList :: xs := by
        have hnd := h.timer.nodup
        simp only [List.nodup_cons, List.mem_cons, not_or] at hnd ⊢
        exact ⟨hxne, hnd.2.1⟩
      have hxz : x ∉ pendingList :: zs := h.disjoint (by simp)
      obtain ⟨m₂, hadd, h₂⟩ := h₁.addToList_pending hx₁ hxz
      obtain ⟨m, hret, huniq, h₃⟩ := ih h₂
      -- the successor is read before the event is moved
      have hnext : s.links.next x = some (xs.headD timerList) := h.path.2.head_eq
      have hstep : ∀ fuel, s.processTimeoutsLoop now (fuel + 1) x =
          processTimeoutsLoop now fuel (xs.headD timerList) { s with links := m₂ } := by
        intro fuel
        have hcmp : timercmp now (s.event x).timeout (fun x y => decide (x > y)) = true := by
          rw [Timeval.timercmp_gt]
          exact decide_eq_true hdue
        simp [processTimeoutsLoop, hxne, hcmp, hnext, hrem, hadd]
      -- one round, and the rest by induction
      refine ⟨m, ?_, ?_, ?_⟩
      · intro fuel hfuel
        obtain ⟨fuel, rfl⟩ : ∃ k, fuel = k + 1 := ⟨fuel - 1, by omega⟩
        rw [List.headD_cons, hstep]
        exact hret fuel (by simpa using hfuel)
      · intro fuel t ht
        cases fuel with
        | zero => cases ht
        | succ fuel =>
          rw [List.headD_cons, hstep] at ht
          exact huniq fuel t ht
      · -- the timers that are due stay at the front of the list
        rw [List.dropWhile_cons_of_pos (by simpa using hdue),
          List.takeWhile_cons_of_pos (by simpa using hdue)]
        rw [List.append_assoc, List.singleton_append] at h₃
        exact h₃
    · -- the front timer is not due, and since the list is sorted no other one is
      have hcmp : timercmp now (s.event x).timeout (fun x y => decide (x > y)) = false := by
        rw [Timeval.timercmp_gt]
        exact decide_eq_false hdue
      refine ⟨s.links, ?_, ?_, ?_⟩
      · intro fuel hfuel
        obtain ⟨fuel, rfl⟩ : ∃ k, fuel = k + 1 := ⟨fuel - 1, by omega⟩
        simp [processTimeoutsLoop, hcmp]
      · intro fuel t ht
        cases fuel with
        | zero => cases ht
        | succ fuel => exact (by simpa [processTimeoutsLoop, hcmp] using ht : s = t).symm
      · rw [List.dropWhile_cons_of_neg (by simpa using hdue),
          List.takeWhile_cons_of_neg (by simpa using hdue)]
        simpa using h

/-- **`processTimeouts` moves the due timers at the front of the timer list** to the end of the
pending list, in order. -/
theorem processTimeouts_spec (h : Lists s xs zs) {fuel : ℕ}
    (ht : s.processTimeouts now fuel = some t) :
    ∃ m, t = { s with links := m } ∧
      Lists t (xs.dropWhile (s.Due now)) (zs ++ xs.takeWhile (s.Due now)) := by
  obtain ⟨m, -, huniq, hlists⟩ := processTimeoutsLoop_spec now h
  simp only [processTimeouts, h.head, Option.bind_eq_bind, Option.bind_some] at ht
  obtain rfl := huniq fuel t ht
  exact ⟨m, rfl, hlists⟩

/-- `processTimeouts` returns. -/
theorem processTimeouts_returns (now : Timeval) (h : Lists s xs zs) :
    ∃ t, s.processTimeouts now (xs.length + 1) = some t := by
  obtain ⟨m, hret, -⟩ := processTimeoutsLoop_spec now h
  refine ⟨{ s with links := m }, ?_⟩
  simp only [processTimeouts, h.head, Option.bind_eq_bind, Option.bind_some]
  exact hret _ (Nat.lt_succ_self _)

/-! ### Ready descriptors -/

/-- What the handling of ready descriptors leaves alone: the events but for their `index`, and the
persistent entries of the watch table; entries only disappear. -/
structure Watches (s t : EventState) : Prop where
  event : ∀ a, ∃ index, t.event a = { s.event a with index := index }
  entry : ∀ i a, t.watchTable i = some a → s.watchTable i = some a
  persist : ∀ i a, s.watchTable i = some a → (s.event a).persist = true → t.watchTable i = some a

namespace Watches

variable {u : EventState}

theorem refl (s : EventState) : Watches s s :=
  ⟨fun a => ⟨(s.event a).index, rfl⟩, fun _ _ h => h, fun _ _ h _ => h⟩

theorem deadline_eq (h : Watches s t) (a : Addr) : t.deadline a = s.deadline a := by
  obtain ⟨k, hk⟩ := h.event a
  simp only [deadline, hk]

theorem persist_eq (h : Watches s t) (a : Addr) : (t.event a).persist = (s.event a).persist := by
  obtain ⟨k, hk⟩ := h.event a
  simp only [hk]

theorem trans (h : Watches s t) (h' : Watches t u) : Watches s u where
  event a := by
    obtain ⟨k, hk⟩ := h.event a
    obtain ⟨k', hk'⟩ := h'.event a
    exact ⟨k', by rw [hk', hk]⟩
  entry i a hu := h.entry i a (h'.entry i a hu)
  persist i a hs hp := h'.persist i a (h.persist i a hs hp) ((h.persist_eq a).trans hp)

/-- Appending an event to a list is no business of the watch table. -/
theorem links (s : EventState) (m : Links Addr) : Watches s { s with links := m } :=
  ⟨fun a => ⟨(s.event a).index, rfl⟩, fun _ _ h => h, fun _ _ h _ => h⟩

end Watches

theorem removeWatch_links (i : Fin maxFdEvents) : (s.removeWatch ev i).links = s.links := by
  unfold removeWatch
  simp only
  split <;> rfl

theorem removeWatch_watchTable (i : Fin maxFdEvents) :
    (s.removeWatch ev i).watchTable = Function.update s.watchTable i none := by
  unfold removeWatch
  simp only
  split <;> rfl

theorem removeWatch_event (i : Fin maxFdEvents) :
    (s.removeWatch ev i).event = Function.update s.event ev { s.event ev with index := -1 } := by
  unfold removeWatch
  simp only
  split <;> rfl

/-- Removing an event that is not persistent. -/
theorem removeWatch_watches {i : Fin maxFdEvents} (hi : s.watchTable i = some ev)
    (hp : (s.event ev).persist = false) : Watches s (s.removeWatch ev i) where
  -- only the event that is removed gets another index
  event a := by
    rw [removeWatch_event]
    by_cases ha : a = ev
    · subst ha
      exact ⟨-1, by simp⟩
    · exact ⟨(s.event a).index, by simp [ha]⟩
  -- a slot that is still taken was taken before
  entry j a hj := by
    rw [removeWatch_watchTable] at hj
    by_cases hji : j = i
    · simp [hji] at hj
    · simpa [hji] using hj
  -- the slots of persistent events are not cleared
  persist j a hj hpa := by
    rw [removeWatch_watchTable]
    have hji : j ≠ i := by
      rintro rfl
      obtain rfl : ev = a := Option.some.inj (hi.symm.trans hj)
      rw [hp] at hpa
      cases hpa
    simpa [hji] using hj

/-- The lists do not depend on the watch table. -/
theorem Lists.of_links (h : Lists s xs zs) (hl : t.links = s.links) : Lists t xs zs := by
  obtain ⟨h₁, h₂, h₃⟩ := h
  exact ⟨hl ▸ h₁, hl ▸ h₂, h₃⟩

/-- No event is watched twice. -/
def WatchedOnce (s : EventState) : Prop :=
  ∀ i j a, s.watchTable i = some a → s.watchTable j = some a → i = j

theorem WatchedOnce.mono (h : WatchedOnce s) (hw : Watches s t) : WatchedOnce t :=
  fun i j a hi hj => h i j a (hw.entry i a hi) (hw.entry j a hj)

/-- The loop of `processReadReadies` appends watched events to the pending list. The induction is on
the slots that are left, whose events are in neither list; an event is in one slot only, so it is
appended once. -/
theorem processReadReadiesLoop_spec (rfds : ℤ → Bool) {is : List (Fin maxFdEvents)} {n : ℤ}
    (h : Lists s xs zs) (honce : WatchedOnce s) (his : is.Nodup)
    (hfree : ∀ i ∈ is, ∀ a, s.watchTable i = some a → a ∉ timerList :: xs ∧ a ∉ pendingList :: zs) :
    ∃ t fs, s.processReadReadiesLoop rfds is n = some t ∧ Lists t xs (zs ++ fs) ∧ Watches s t ∧
      ∀ a ∈ fs, ∃ i ∈ is, s.watchTable i = some a := by
  -- induction on the slots that are left, whose events are in neither list
  induction is generalizing s zs n with
  | nil => exact ⟨s, [], rfl, by simpa using h, Watches.refl s, by simp⟩
  | cons i is ih =>
    have his' := List.nodup_cons.mp his
    have hfree' : ∀ j ∈ is, ∀ a, s.watchTable j = some a →
        a ∉ timerList :: xs ∧ a ∉ pendingList :: zs :=
      fun j hj => hfree j (List.mem_cons_of_mem i hj)
    -- an iteration that queues nothing
    have hskip : ∀ n, ∃ t fs, s.processReadReadiesLoop rfds is n = some t ∧
        Lists t xs (zs ++ fs) ∧ Watches s t ∧ ∀ a ∈ fs, ∃ j ∈ i :: is, s.watchTable j = some a := by
      intro n
      -- the slots that are left queue what they queue without this one
      obtain ⟨t, fs, ht, hl, hw, hfs⟩ := @ih s zs n h honce his'.2 hfree'
      exact ⟨t, fs, ht, hl, hw, fun a ha =>
        (hfs a ha).imp fun j hj => ⟨List.mem_cons_of_mem i hj.1, hj.2⟩⟩
    unfold processReadReadiesLoop
    split
    · cases hrev : s.watchTable i with
      | none => exact hskip n
      | some rev =>
        simp only
        split
        · -- the descriptor is ready: its event is queued, and forgotten if it is not persistent
          obtain ⟨hx, hz⟩ := hfree i List.mem_cons_self rev hrev
          obtain ⟨m, hadd, hlists⟩ := h.addToList_pending hx hz
          rw [hadd]
          simp only [Option.bind_eq_bind, Option.bind_some]
          set s₁ : EventState := { s with links := m } with hs₁
          have hw₁ : Watches s s₁ := Watches.links s m
          -- a persistent event stays in the table
          obtain ⟨s₂, hs₂, hw₂, hl₂⟩ : ∃ s₂, (if (s₁.event rev).persist = false then
              s₁.removeWatch rev i else s₁) = s₂ ∧ Watches s s₂ ∧ s₂.links = m := by
            refine ⟨_, rfl, ?_⟩
            split
            · next hp =>
              exact ⟨hw₁.trans (removeWatch_watches hrev hp), removeWatch_links i⟩
            · exact ⟨hw₁, rfl⟩
          -- an event is in one slot only, so those that are left are not the one just queued
          have hfree₂ : ∀ j ∈ is, ∀ a, s₂.watchTable j = some a →
              a ∉ timerList :: xs ∧ a ∉ pendingList :: (zs ++ [rev]) := by
            intro j hj a ha
            have hsa := hw₂.entry j a ha
            obtain ⟨hax, haz⟩ := hfree' j hj a hsa
            have har : a ≠ rev := by
              rintro rfl
              exact his'.1 (honce i j a hrev hsa ▸ hj)
            refine ⟨hax, ?_⟩
            simp only [List.mem_cons, List.mem_append, not_or] at haz ⊢
            exact ⟨haz.1, haz.2, har, by simp⟩
          obtain ⟨t, fs, ht, hl, hw, hfs⟩ :=
            @ih s₂ (zs ++ [rev]) (n - 1) (hlists.of_links hl₂) (honce.mono hw₂) his'.2 hfree₂
          rw [hs₂]
          refine ⟨t, rev :: fs, ht, by simpa using hl, hw₂.trans hw, ?_⟩
          -- what is queued comes from this slot or from one of the others
          intro a ha
          rcases List.mem_cons.mp ha with rfl | ha
          · exact ⟨i, List.mem_cons_self, hrev⟩
          · obtain ⟨j, hj, hja⟩ := hfs a ha
            exact ⟨j, List.mem_cons_of_mem i hj, hw₂.entry j a hja⟩
        · exact hskip n
    · -- no ready descriptor is left, so the loop ends
      exact ⟨s, [], rfl, by simpa using h, Watches.refl s, by simp⟩

/-- **`processReadReadies` appends events of the watch table** to the pending list. -/
theorem processReadReadies_spec (rfds : ℤ → Bool) (n : ℤ) (h : Lists s xs zs)
    (honce : WatchedOnce s)
    (hfree : ∀ i a, s.watchTable i = some a → a ∉ timerList :: xs ∧ a ∉ pendingList :: zs) :
    ∃ t fs, s.processReadReadies rfds n = some t ∧ Lists t xs (zs ++ fs) ∧ Watches s t ∧
      ∀ a ∈ fs, ∃ i, s.watchTable i = some a := by
  obtain ⟨t, fs, ht, hl, hw, hfs⟩ := processReadReadiesLoop_spec rfds h honce
    (List.nodup_finRange maxFdEvents) fun i _ => hfree i
  exact ⟨t, fs, ht, hl, hw, fun a ha => (hfs a ha).imp fun _ hj => hj.2⟩

/-! ### The initial state -/

/-- Watching a descriptor changes no list. -/
theorem rilEventAdd_links (s : EventState) (ev : Addr) : (s.rilEventAdd ev).links = s.links := by
  unfold rilEventAdd
  split <;> rfl

/-- `ril_event_init` makes two empty lists and an empty watch table. -/
theorem rilEventInit_lists (s : EventState) : Lists s.rilEventInit [] [] := by
  refine ⟨⟨?_, ?_, by simp⟩, ⟨?_, ?_, by simp⟩, ?_⟩ <;>
    simp [LinkedList.Cycle, rilEventInit, initList, Links.setNext, Links.setPrev, timerList,
      pendingList]

end EventState

end Ril

end BlueCommon
