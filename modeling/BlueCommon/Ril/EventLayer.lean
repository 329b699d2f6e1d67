import BlueCommon.Lib.Lts
import BlueCommon.Ril.WatchTable

/-!
# Runs of the event layer

The functions of `ril_event.h`, called by any threads and by callbacks at any time between the steps
of `ril_event_loop`. Before its first use an event is set up by `ril_event_set`.

* `LayerStep`, `eventLayer`: the steps and the runs. The ghost log records additions, deletions and
  calls of callbacks.
* `LayerInv`: the rings, the watch table and the phase of the loop.
* `watch_table_correct`: what holds of the watch table after every step.
* `full_table_drops_event`: an event that finds the table full is not watched, and nobody is told.
-/

namespace BlueCommon

namespace Ril

open LinkedList EventState

/-! ### State -/

/-- Where `ril_event_loop` is: before `processTimeouts`, before `processReadReadies`, at the head of
the loop of `firePending`, or in a callback. -/
inductive LayerPhase
  | waiting
  | timedOut
  | firing (ev : Addr)
  | running (next : Addr)

/-- What the users of an event see. -/
inductive LayerEvent
  | added (ev : Addr)
  | deleted (ev : Addr)
  | called (ev : Addr)

/-- The event layer, with the place at which its loop is. Ghost: the log, newest first. -/
structure LayerState where
  events : EventState
  phase : LayerPhase
  log : List LayerEvent

/-- The event is on a list. -/
def EventState.Queued (s : EventState) (list a : Addr) : Prop :=
  ∃ xs, Ring s.links list xs ∧ a ∈ xs

/-- The event is neither watched nor on a list, and no sentinel. -/
structure EventState.Unused (s : EventState) (ev : Addr) : Prop where
  timerList : ev ≠ timerList
  pendingList : ev ≠ pendingList
  watched : ¬ s.Watched ev
  timer : ¬ s.Queued Ril.timerList ev
  pending : ¬ s.Queued Ril.pendingList ev

/-- The event may be passed to `ril_event_add`: it is not watched, and its descriptor is valid and
not watched either. -/
structure EventState.Addable (s : EventState) (ev : Addr) : Prop where
  timerList : ev ≠ timerList
  pendingList : ev ≠ pendingList
  watched : ¬ s.Watched ev
  valid : 0 ≤ s.fd ev ∧ s.fd ev < fdSetsize
  distinct : ∀ a, s.Watched a → s.fd a ≠ s.fd ev

inductive LayerLabel
  | rilEventSet (ev : Addr) (fd : ℤ) (persist : Bool) (func : EventFunc)
  | rilEventAdd (ev : Addr)
  | rilTimerAdd (ev : Addr) (tv now : Timeval)
  | rilEventDel (ev : Addr)
  | processTimeouts (now : Timeval)
  | processReadReadies (rfds : Finset ℤ) (n : ℤ)
  | call (ev : Addr)
  | finish
  | firePendingReturns

/-- **One step.** The first four are calls of the users, the others are steps of the loop. -/
inductive LayerStep : LayerState → LayerLabel → LayerState → Prop
  | rilEventSet (s : LayerState) (ev : Addr) (fd : ℤ) (persist : Bool) (func : EventFunc)
      (hunused : s.events.Unused ev) :
      LayerStep s (.rilEventSet ev fd persist func)
        { s with events := s.events.rilEventSet ev fd persist func }
  | rilEventAdd (s : LayerState) (ev : Addr) (haddable : s.events.Addable ev) :
      LayerStep s (.rilEventAdd ev)
        { s with events := s.events.rilEventAdd ev, log := .added ev :: s.log }
  | rilTimerAdd (s : LayerState) (ev : Addr) (tv now : Timeval) (fuel : ℕ) (events : EventState)
      (hunused : s.events.Unused ev) (h : s.events.rilTimerAdd ev tv now fuel = some events) :
      LayerStep s (.rilTimerAdd ev tv now)
        { s with events := events, log := .added ev :: s.log }
  | rilEventDel (s : LayerState) (ev : Addr) (htimer : ev ≠ timerList)
      (hpending : ev ≠ pendingList) :
      LayerStep s (.rilEventDel ev)
        { s with events := s.events.rilEventDel ev, log := .deleted ev :: s.log }
  | processTimeouts (s : LayerState) (now : Timeval) (fuel : ℕ) (events : EventState)
      (hphase : s.phase = .waiting) (h : s.events.processTimeouts now fuel = some events) :
      LayerStep s (.processTimeouts now) { s with events := events, phase := .timedOut }
  | processReadReadies (s : LayerState) (rfds : Finset ℤ) (n : ℤ) (events : EventState) (ev : Addr)
      (hphase : s.phase = .timedOut)
      (h : s.events.processReadReadies (fun fd => decide (fd ∈ rfds)) n = some events)
      (hev : events.links.next pendingList = some ev) :
      LayerStep s (.processReadReadies rfds n) { s with events := events, phase := .firing ev }
  | call (s : LayerState) (ev next : Addr) (events : EventState) (hphase : s.phase = .firing ev)
      (hev : ev ≠ pendingList) (hnext : s.events.links.next ev = some next)
      (h : s.events.removeFromList ev = some events) :
      LayerStep s (.call ev)
        { s with events := events, phase := .running next, log := .called ev :: s.log }
  | finish (s : LayerState) (next : Addr) (hphase : s.phase = .running next) :
      LayerStep s .finish { s with phase := .firing next }
  | firePendingReturns (s : LayerState) (hphase : s.phase = .firing pendingList) :
      LayerStep s .firePendingReturns { s with phase := .waiting }

/-- `ril_event_init` has been called and no event is in use: both lists are empty and nothing is
watched. -/
structure LayerState.Initial (s : LayerState) : Prop where
  lists : s.events.Lists [] []
  watchTable : ∀ i, s.events.watchTable i = none
  readFds : ∀ fd, s.events.readFds fd = false
  nfds : s.events.nfds = 0
  index : ∀ a, a ≠ timerList → a ≠ pendingList → (s.events.event a).index = -1
  phase : s.phase = .waiting
  log : s.log = []

/-- The runs of the event layer: calls of its users and steps of its loop, in any order. Each of the
functions holds the mutex while it runs. -/
def eventLayer : Lts LayerState LayerLabel where
  init := LayerState.Initial
  step := LayerStep

/-! ### The invariant -/

/-- What the phase says about the pending list `zs`. -/
def LayerPhase.Inv (phase : LayerPhase) (events : EventState) (zs : List Addr) : Prop :=
  match phase with
  | .waiting => zs = []
  | .timedOut => ∀ a ∈ zs, events.fd a = -1
  | .firing ev => ev = zs.headD pendingList
  | .running next => next = zs.headD pendingList

/-- **The invariant of the event layer**: the timers `xs` and the pending events `zs`. A timer has
no valid descriptor, so it is not watched. -/
structure LayerInv (s : LayerState) (xs zs : List Addr) : Prop where
  lists : s.events.Lists xs zs
  table : s.events.WatchTable
  timers : ∀ a ∈ xs, s.events.fd a = -1
  phase : s.phase.Inv s.events zs

/-- The events keep their descriptors. -/
theorem LayerPhase.Inv.congr {phase : LayerPhase} {events events' : EventState} {zs : List Addr}
    (h : phase.Inv events zs) (hfd : ∀ a ∈ zs, events'.fd a = events.fd a) :
    phase.Inv events' zs := by
  cases phase with
  | waiting => exact h
  | timedOut => exact fun a ha => (hfd a ha).trans (h a ha)
  | firing ev => exact h
  | running next => exact h

namespace LayerInv

variable {s t : LayerState} {xs zs : List Addr} {ev : Addr}

theorem initial (h : s.Initial) : LayerInv s [] [] where
  lists := h.lists
  -- the table is empty
  table :=
    have hempty : ∀ a, ¬ s.events.Watched a := by
      rintro a ⟨i, hi⟩
      rw [h.watchTable] at hi
      cases hi
    { index := fun i a ha => absurd ⟨i, ha⟩ (hempty a)
      unwatched := fun a hx hz _ => h.index a hx hz
      sentinels := ⟨hempty _, hempty _⟩
      readFds := fun fd => by
        rw [h.readFds]
        exact iff_of_false Bool.false_ne_true fun ⟨a, ha, _⟩ => hempty a ha
      valid := fun a ha => absurd ha (hempty a)
      distinct := fun a _ ha => absurd ha (hempty a)
      nfds := .inr ⟨hempty, h.nfds⟩ }
  -- there are no timers and nothing is pending
  timers a ha := absurd ha List.not_mem_nil
  phase := by
    rw [h.phase]
    rfl

/-- The lists of the guards are those of the invariant. -/
theorem queued_timer_iff (inv : LayerInv s xs zs) {a : Addr} :
    s.events.Queued timerList a ↔ a ∈ xs := by
  constructor
  · rintro ⟨ys, hring, ha⟩
    rwa [inv.lists.timer.unique hring]
  · exact fun ha => ⟨xs, inv.lists.timer, ha⟩

theorem queued_pending_iff (inv : LayerInv s xs zs) {a : Addr} :
    s.events.Queued pendingList a ↔ a ∈ zs := by
  constructor
  · rintro ⟨ys, hring, ha⟩
    rwa [inv.lists.pending.unique hring]
  · exact fun ha => ⟨zs, inv.lists.pending, ha⟩

/-- An unused event is on no list. -/
theorem notMem_of_unused (inv : LayerInv s xs zs) (h : s.events.Unused ev) :
    ev ∉ timerList :: xs ∧ ev ∉ pendingList :: zs := by
  rw [List.mem_cons, List.mem_cons]
  exact ⟨fun hm => hm.elim h.timerList fun hx => h.timer (inv.queued_timer_iff.mpr hx),
    fun hm => hm.elim h.pendingList fun hz => h.pending (inv.queued_pending_iff.mpr hz)⟩

/-- A watched event is no timer. -/
theorem notMem_timers_of_watched (inv : LayerInv s xs zs) {a : Addr} (ha : s.events.Watched a) :
    a ∉ timerList :: xs := by
  intro hmem
  rcases List.mem_cons.mp hmem with rfl | hx
  · exact inv.table.sentinels.1 ha
  · have hvalid := (inv.table.valid a ha).1
    rw [inv.timers a hx] at hvalid
    exact absurd hvalid (by decide)

/-- `ril_event_set`. The event is unused, so it is in neither list and no slot of the table has it.
No other event is written. -/
theorem rilEventSet (inv : LayerInv s xs zs) {fd : ℤ} {persist : Bool} {func : EventFunc}
    (hunused : s.events.Unused ev) :
    LayerInv { s with events := s.events.rilEventSet ev fd persist func } xs zs := by
  -- an event that is unused is in neither list
  obtain ⟨hx, hz⟩ := inv.notMem_of_unused hunused
  -- no other event is written
  have hevent : ∀ a, a ≠ ev → (s.events.rilEventSet ev fd persist func).event a =
      s.events.event a :=
    fun a hne => Function.update_of_ne hne _ _
  refine ⟨inv.lists.rilEventSet hx hz fd persist func, ?_, fun a ha => ?_, ?_⟩
  · -- the event was in neither list and in no slot
    refine inv.table.of_eq rfl (fun a => ?_) (fun a ha => ?_) rfl rfl
    · rcases eq_or_ne a ev with rfl | hne
      · -- its index was -1 before
        rw [inv.table.unwatched a hunused.timerList hunused.pendingList hunused.watched]
        exact congrArg RilEvent.index (Function.update_self a _ s.events.event)
      · rw [hevent a hne]
    · have hne : a ≠ ev := by
        rintro rfl
        exact hunused.watched ha
      exact congrArg RilEvent.fd (hevent a hne)
  · -- the timers and the pending events are others
    have hne : a ≠ ev := by
      rintro rfl
      exact hx (List.mem_cons_of_mem _ ha)
    exact (congrArg RilEvent.fd (hevent a hne)).trans (inv.timers a ha)
  · refine inv.phase.congr fun a ha => congrArg RilEvent.fd (hevent a ?_)
    rintro rfl
    exact hz (List.mem_cons_of_mem _ ha)

/-- A step that changes the watch table only. -/
theorem table_step (inv : LayerInv s xs zs) {events : EventState} {log : List LayerEvent}
    (hlinks : events.links = s.events.links) (htable : events.WatchTable)
    (hfd : ∀ a, events.fd a = s.events.fd a) :
    LayerInv { s with events := events, log := log } xs zs :=
  ⟨inv.lists.of_links hlinks, htable, fun a ha => (hfd a).trans (inv.timers a ha),
    inv.phase.congr fun a _ => hfd a⟩

/-- `ril_event_add`: the event is watched if an entry is free, and nothing happens otherwise. The
caller is not told which of the two it was. -/
theorem rilEventAdd (inv : LayerInv s xs zs) (haddable : s.events.Addable ev)
    (log : List LayerEvent) :
    LayerInv { s with events := s.events.rilEventAdd ev, log := log } xs zs ∧
      (∀ a, (s.events.rilEventAdd ev).Watched a ↔
        s.events.Watched a ∨ a = ev ∧ ∃ i, s.events.watchTable i = none) := by
  -- a full table is left as it is
  by_cases hfree : ∃ i, s.events.watchTable i = none
  · obtain ⟨htable, hwatched⟩ := inv.table.rilEventAdd haddable.timerList haddable.pendingList
      haddable.watched haddable.valid haddable.distinct hfree
    refine ⟨inv.table_step (rilEventAdd_links _ _) htable fun a => ?_, fun a => ?_⟩
    · -- the links of the lists are not written, nor the descriptors
      rcases WatchTable.rilEventAdd_cases s.events ev with ⟨-, heq⟩ | ⟨i, -, heq⟩
      · rw [heq]
      · rw [heq]
        show (Function.update s.events.event ev _ a).fd = _
        rcases eq_or_ne a ev with rfl | hne
        · rw [Function.update_self]
        · rw [Function.update_of_ne hne]
    · -- there is a free slot, so the event gets one
      rw [hwatched]
      exact or_congr_right (and_iff_left hfree).symm
  · have hfull : s.events.rilEventAdd ev = s.events := by
      rcases WatchTable.rilEventAdd_cases s.events ev with ⟨-, heq⟩ | ⟨i, hi, -⟩
      · exact heq
      · exact absurd ⟨i, hi⟩ hfree
    rw [hfull]
    exact ⟨inv.table_step rfl inv.table fun _ => rfl,
      fun a => (or_iff_left fun h => hfree h.2).symm⟩

/-- `ril_event_del`: the event is not watched any more; the lists stay as they are. -/
theorem rilEventDel (inv : LayerInv s xs zs) (hx : ev ≠ timerList) (hz : ev ≠ pendingList)
    (log : List LayerEvent) :
    LayerInv { s with events := s.events.rilEventDel ev, log := log } xs zs ∧
      (∀ a, (s.events.rilEventDel ev).Watched a ↔ s.events.Watched a ∧ a ≠ ev) ∧
      (s.events.Watched ev → (s.events.rilEventDel ev).NfdsExact) := by
  -- watched: its slot is cleared and the highest descriptor is computed again
  by_cases hev : s.events.Watched ev
  · obtain ⟨i, hi, hdel⟩ := inv.table.rilEventDel_watched hev
    obtain ⟨htable, hexact, hwatched⟩ := inv.table.removeWatch hi
    rw [hdel]
    refine ⟨inv.table_step (removeWatch_links i) htable fun a => ?_, hwatched, fun _ => hexact⟩
    unfold fd
    rw [removeWatch_event]
    rcases eq_or_ne a ev with rfl | hne
    · rw [Function.update_self]
    · rw [Function.update_of_ne hne]
  · -- not watched: the call finds an index of -1 and returns
    rw [inv.table.rilEventDel_unwatched hx hz hev]
    refine ⟨inv.table_step rfl inv.table fun _ => rfl, fun a => ?_, fun h => absurd h hev⟩
    refine (and_iff_left_of_imp fun ha => ?_).symm
    rintro rfl
    exact hev ha

/-- `ril_timer_add`. The list of timers has the event in addition, at the place of its deadline, and
the table is the one it was. -/
theorem rilTimerAdd (inv : LayerInv s xs zs) {tv now : Timeval} {fuel : ℕ} {events : EventState}
    (hunused : s.events.Unused ev) (h : s.events.rilTimerAdd ev tv now fuel = some events)
    (log : List LayerEvent) :
    ∃ xs', (∀ a, a ∈ xs' ↔ a = ev ∨ a ∈ xs) ∧ events.watchTable = s.events.watchTable ∧
      LayerInv { s with events := events, log := log } xs' zs := by
  obtain ⟨hx, hz⟩ := inv.notMem_of_unused hunused
  obtain ⟨d, m, -, rfl, hlists⟩ := rilTimerAdd_spec inv.lists hx hz h
  have hfd : ∀ a, a ≠ ev → (s.events.arm ev d).fd a = s.events.fd a :=
    fun a hne => congrArg RilEvent.fd (arm_event_of_ne d hne)
  -- the list of timers has the event, and the table is the one it was
  refine ⟨_, fun a => List.mem_orderedInsert _, rfl, hlists, ?_, fun a ha => ?_, ?_⟩
  · refine inv.table.of_eq rfl (fun a => ?_) (fun a ha => ?_) rfl rfl
    · show (Function.update s.events.event ev _ a).index = _
      rcases eq_or_ne a ev with rfl | hne
      · rw [Function.update_self]
      · rw [Function.update_of_ne hne]
    · refine hfd a ?_
      rintro rfl
      exact hunused.watched ha
  · -- a timer has no descriptor
    rcases (List.mem_orderedInsert _).mp ha with rfl | hax
    · show (Function.update s.events.event a _ a).fd = _
      rw [Function.update_self]
    · have hne : a ≠ ev := by
        rintro rfl
        exact hx (List.mem_cons_of_mem _ hax)
      exact (hfd a hne).trans (inv.timers a hax)
  · -- nor is a pending event the new timer
    refine inv.phase.congr fun a ha => hfd a ?_
    rintro rfl
    exact hz (List.mem_cons_of_mem _ ha)

/-- `processTimeouts`. -/
theorem processTimeouts (inv : LayerInv s xs zs) {now : Timeval} {fuel : ℕ} {events : EventState}
    (hphase : s.phase = .waiting) (h : s.events.processTimeouts now fuel = some events) :
    ∃ xs' zs', xs = zs' ++ xs' ∧ zs = [] ∧ events.watchTable = s.events.watchTable ∧
      LayerInv { s with events := events, phase := .timedOut } xs' zs' := by
  obtain ⟨m, rfl, hlists⟩ := processTimeouts_spec inv.lists h
  have hzs : zs = [] := by
    have hp := inv.phase
    rw [hphase] at hp
    exact hp
  subst hzs
  refine ⟨_, _, (List.takeWhile_append_dropWhile).symm, rfl, rfl, hlists, ?_, fun a ha => ?_,
    fun a ha => ?_⟩
  · exact inv.table.of_eq rfl (fun _ => rfl) (fun _ _ => rfl) rfl rfl
  · exact inv.timers a ((List.dropWhile_suffix _).subset ha)
  · exact inv.timers a ((List.takeWhile_prefix _).subset ha)

/-- `processReadReadies`. What is ready is appended to the pending list, in the order of the slots
and no more than `select` has counted. Those that are not persistent are no longer watched. -/
theorem processReadReadies (inv : LayerInv s xs zs) {rfds : Finset ℤ} {n : ℤ}
    {events : EventState} {ev : Addr} (hphase : s.phase = .timedOut)
    (h : s.events.processReadReadies (fun fd => decide (fd ∈ rfds)) n = some events)
    (hev : events.links.next pendingList = some ev) :
    let queued := (s.events.readyEvents fun fd => decide (fd ∈ rfds)).take n.toNat
    LayerInv { s with events := events, phase := .firing ev } xs (zs ++ queued) ∧
      (∀ a, events.Watched a ↔ s.events.Watched a ∧
        (a ∈ queued → (s.events.event a).persist = true)) ∧
      (s.events.NfdsExact → events.NfdsExact) := by
  have hpending := inv.phase
  rw [hphase] at hpending
  -- the events in the slots have a descriptor, so they are neither timers nor pending
  obtain ⟨t, ht, hlists, htable, hwatches, hwatched, hexact⟩ :=
    @processReadReadiesLoop_queues _ _ _ (fun fd => decide (fd ∈ rfds)) _ n inv.lists inv.table
      (List.nodup_finRange _) fun i _ a ha => by
        have hw : s.events.Watched a := ⟨i, ha⟩
        refine ⟨inv.notMem_timers_of_watched hw, fun hmem => ?_⟩
        rcases List.mem_cons.mp hmem with rfl | hz
        · exact inv.table.sentinels.2 hw
        · have hvalid := (inv.table.valid a hw).1
          rw [hpending a hz] at hvalid
          exact absurd hvalid (by decide)
  -- this is the state after the loop
  obtain rfl : t = events := Option.some.inj (ht.symm.trans h)
  refine ⟨⟨hlists, htable, fun a ha => ?_, ?_⟩, hwatched, hexact⟩
  · obtain ⟨k, hk⟩ := hwatches.event a
    unfold fd
    rw [hk]
    exact inv.timers a ha
  · exact Option.some.inj (hev.symm.trans (Path.head_eq hlists.pending.next))

/-- A callback is called. -/
theorem call (inv : LayerInv s xs zs) {next : Addr} {events : EventState}
    (hphase : s.phase = .firing ev) (hev : ev ≠ pendingList)
    (hnext : s.events.links.next ev = some next) (h : s.events.removeFromList ev = some events)
    (log : List LayerEvent) :
    ∃ zs', zs = ev :: zs' ∧ events.watchTable = s.events.watchTable ∧
      LayerInv { s with events := events, phase := .running next, log := log } xs zs' := by
  -- the event being fired is the first of the pending list
  have hhead := inv.phase
  rw [hphase] at hhead
  cases zs with
  | nil => exact absurd hhead hev
  | cons z zs' =>
    obtain rfl : ev = z := hhead
    obtain ⟨m, hm, hlists⟩ := inv.lists.removeFromList_pending
    obtain rfl := Option.some.inj (hm.symm.trans h)
    have hring : Ring s.events.links pendingList ([] ++ ev :: zs') := inv.lists.pending
    refine ⟨zs', rfl, rfl, hlists, ?_, inv.timers, ?_⟩
    · -- taking it out of the list does not touch the table
      exact inv.table.of_eq rfl (fun _ => rfl) (fun _ _ => rfl) rfl rfl
    · exact Option.some.inj (hnext.symm.trans hring.next_mem)

/-- A step that stops watching an event makes the bound exact. There are two such steps, a deletion
and the firing of an event that is not persistent, and both compute the highest descriptor anew. -/
theorem nfdsExact_step (inv : LayerInv s xs zs) {l : LayerLabel} (hstep : LayerStep s l t)
    {a : Addr} (ha : s.events.Watched a) (hna : ¬ t.events.Watched a) : t.events.NfdsExact := by
  -- only a step that changes the table stops watching
  have hkeep : t.events.watchTable ≠ s.events.watchTable := by
    intro heq
    refine hna ?_
    unfold Watched
    rw [heq]
    exact ha
  -- the steps that stop watching: a deletion, and the firing of an event that is not persistent
  cases hstep with
  | rilEventSet ev fd persist func hunused => exact absurd rfl hkeep
  | rilEventAdd ev haddable =>
    -- adding an event only adds to those watched
    exact absurd (((inv.rilEventAdd haddable s.log).2 a).mpr (.inl ha)) hna
  | rilTimerAdd ev tv now fuel events hunused h =>
    obtain ⟨-, -, htable, -⟩ := inv.rilTimerAdd hunused h s.log
    exact absurd htable hkeep
  | rilEventDel ev htimer hpending =>
    obtain ⟨-, hwatched, hexact⟩ := inv.rilEventDel htimer hpending s.log
    obtain rfl : a = ev := by
      by_contra hne
      exact hna ((hwatched a).mpr ⟨ha, hne⟩)
    -- the event itself is the one that was deleted
    exact hexact ha
  | processTimeouts now fuel events hphase h =>
    obtain ⟨-, -, -, -, htable, -⟩ := inv.processTimeouts hphase h
    exact absurd htable hkeep
  | processReadReadies rfds n events ev hphase h hev =>
    -- the events that were forgotten were ready, and the scan computed the highest descriptor
    exact (inv.processReadReadies hphase h hev).2.2 (inv.table.nfdsExact ha)
  | call ev next events hphase hev hnext h =>
    obtain ⟨-, -, htable, -⟩ := inv.call hphase hev hnext h s.log
    exact absurd htable hkeep
  | finish next hphase => exact absurd rfl hkeep
  | firePendingReturns hphase => exact absurd rfl hkeep

/-- **Every step keeps the invariant.** Each function of the source has its own lemma, and the loop
goes from one to the next with the pending list it has. -/
theorem step (inv : LayerInv s xs zs) {l : LayerLabel} (hstep : LayerStep s l t) :
    ∃ xs' zs', LayerInv t xs' zs' := by
  cases hstep with
  | rilEventSet ev fd persist func hunused => exact ⟨xs, zs, inv.rilEventSet hunused⟩
  -- a full table is left as it is, which also keeps the invariant
  | rilEventAdd ev haddable => exact ⟨xs, zs, (inv.rilEventAdd haddable _).1⟩
  | rilTimerAdd ev tv now fuel events hunused h =>
    obtain ⟨xs', -, -, hinv⟩ := inv.rilTimerAdd hunused h (.added ev :: s.log)
    exact ⟨xs', zs, hinv⟩
  -- deleting changes the table, not the lists
  | rilEventDel ev htimer hpending => exact ⟨xs, zs, (inv.rilEventDel htimer hpending _).1⟩
  | processTimeouts now fuel events hphase h =>
    obtain ⟨xs', zs', -, -, -, hinv⟩ := inv.processTimeouts hphase h
    exact ⟨xs', zs', hinv⟩
  -- the ready events come to the end of the pending list
  | processReadReadies rfds n events ev hphase h hev =>
    exact ⟨xs, _, (inv.processReadReadies hphase h hev).1⟩
  -- the callback runs with its event out of the list
  | call ev next events hphase hev hnext h =>
    obtain ⟨zs', -, -, hinv⟩ := inv.call hphase hev hnext h _
    exact ⟨xs, zs', hinv⟩
  -- the event returned and the next one is fired
  | finish next hphase =>
    have hhead := inv.phase
    rw [hphase] at hhead
    exact ⟨xs, zs, inv.lists, inv.table, inv.timers, hhead⟩
  | firePendingReturns hphase =>
    refine ⟨xs, zs, inv.lists, inv.table, inv.timers, ?_⟩
    have hhead := inv.phase
    rw [hphase] at hhead
    -- the head of the list is the sentinel only if the list is empty
    cases zs with
    | nil => rfl
    | cons z zs' =>
      have hnodup := inv.lists.pending.nodup
      rw [show pendingList = z from hhead] at hnodup
      exact absurd List.mem_cons_self (List.nodup_cons.mp hnodup).1

theorem reachable (h : Lts.Reachable eventLayer s) : ∃ xs zs, LayerInv s xs zs :=
  @Lts.Reachable.invariant _ _ eventLayer (fun s => ∃ xs zs, LayerInv s xs zs)
    (fun _ h0 => ⟨[], [], initial h0⟩) (fun _ _ _ ⟨_, _, hinv⟩ hstep => hinv.step hstep) s h

end LayerInv

/-! ### The watch table after every step -/

/-- **The watch table is consistent.** After every step the table, the indices, the descriptor set
and `nfds` agree. When a step stops watching an event, its index is -1 and `nfds` is the largest
watched descriptor plus one, or 1. `processReadReadies` with `n` the number of the ready descriptors
queues each watched event of a ready descriptor once, in the order of the table, and stops watching
exactly those that are not persistent. `ril_event_add` makes the event watched exactly if an entry
of the table is free, and changes nothing otherwise. -/
theorem watch_table_correct {s t : LayerState} {l : LayerLabel}
    (h : Lts.Reachable eventLayer s) (hstep : eventLayer.step s l t) :
    t.events.WatchTable ∧ (∀ a, t.events.Watched a → t.events.fd a < t.events.nfds) ∧
      (∀ a, s.events.Watched a → ¬ t.events.Watched a →
        (t.events.event a).index = -1 ∧ t.events.NfdsExact) ∧
      (∀ (rfds : Finset ℤ), l = .processReadReadies rfds rfds.card →
        let ready := s.events.readyEvents fun fd => decide (fd ∈ rfds)
        ready.Nodup ∧ (∀ a, a ∈ ready ↔ s.events.Watched a ∧ s.events.fd a ∈ rfds) ∧
        (∀ zs, Ring s.events.links pendingList zs →
          Ring t.events.links pendingList (zs ++ ready)) ∧
        ∀ a, t.events.Watched a ↔
          s.events.Watched a ∧ (s.events.fd a ∈ rfds → (s.events.event a).persist = true)) ∧
      ∀ ev, l = .rilEventAdd ev →
        (t.events.Watched ev ↔ ∃ i, s.events.watchTable i = none) ∧
        ((∀ i, s.events.watchTable i ≠ none) → t.events = s.events) := by
  obtain ⟨xs, zs, inv⟩ := LayerInv.reachable h
  -- the invariant holds on both sides of the step
  obtain ⟨xs', zs', inv'⟩ := inv.step hstep
  refine ⟨inv'.table, fun a ha => inv'.table.lt_nfds ha, fun a ha hna => ?_, ?_, ?_⟩
  · -- the sentinels are never watched
    have hx : a ≠ timerList := by
      rintro rfl
      exact inv.table.sentinels.1 ha
    have hz : a ≠ pendingList := by
      rintro rfl
      exact inv.table.sentinels.2 ha
    exact ⟨inv'.table.unwatched a hx hz hna, inv.nfdsExact_step hstep ha hna⟩
  · rintro rfds rfl
    -- `select` counts the ready descriptors, and no more events are watched on them
    have hlen := readyEvents_length_le inv.table rfds
    have hmem : ∀ a, a ∈ s.events.readyEvents (fun fd => decide (fd ∈ rfds)) ↔
        s.events.Watched a ∧ s.events.fd a ∈ rfds := fun a => by
      rw [mem_readyEvents, decide_eq_true_iff]
    cases hstep with
    | processReadReadies _ _ events ev hphase hread hev =>
    obtain ⟨hinv, hwatched, -⟩ := inv.processReadReadies hphase hread hev
    -- the counter does not run out
    rw [Int.toNat_natCast, List.take_of_length_le hlen] at hinv hwatched
    refine ⟨readyAmong_nodup inv.table.watchedOnce (List.nodup_finRange _), hmem,
      fun ys hring => ?_, fun a => ?_⟩
    · -- the pending list has the ready events behind those it had
      rw [hring.unique inv.lists.pending]
      exact hinv.lists.pending
    · -- persistent events stay watched, the others are forgotten when they were ready
      rw [hwatched]
      refine and_congr_right fun ha => ?_
      rw [hmem]
      exact ⟨fun himp hfd => himp ⟨ha, hfd⟩, fun himp hready => himp hready.2⟩
  · rintro ev rfl
    cases hstep with
    | rilEventAdd _ haddable =>
    refine ⟨?_, fun hfull => ?_⟩
    · -- the event was not watched before
      rw [(inv.rilEventAdd haddable s.log).2]
      exact ⟨fun hw => (hw.resolve_left haddable.watched).2, fun hfree => .inr ⟨rfl, hfree⟩⟩
    · -- with every slot taken nothing is done
      rcases WatchTable.rilEventAdd_cases s.events ev with ⟨-, heq⟩ | ⟨i, hi, -⟩
      · exact heq
      · exact absurd hi (hfull i)

/-! ### A full table -/

namespace FullTable

/-- The state before the first event is added: the descriptor of each event is its address. The
events of even descriptors are persistent. -/
def start : LayerState where
  events :=
    { ({ links := ⟨fun _ => none, fun _ => none⟩
         event := fun a => ⟨a, -1, decide (a % 2 = 0), ⟨0, 0⟩, .other 0⟩
         watchTable := fun _ => none
         readFds := fun _ => false
         nfds := 0 } : EventState).rilEventInit with nfds := 0 }
  phase := .waiting
  log := []

theorem initial : start.Initial where
  lists := (rilEventInit_lists _).of_links rfl
  watchTable _ := rfl
  readFds _ := rfl
  nfds := rfl
  index a hx hz := by
    unfold start rilEventInit initList
    simp only [Function.update_of_ne hz, Function.update_of_ne hx]
  phase := rfl
  log := rfl

/-- The first events are added, from address 2 on. -/
def filled : ℕ → LayerState
  | 0 => start
  | n + 1 =>
    { filled n with
      events := (filled n).events.rilEventAdd (n + 2), log := .added (n + 2) :: (filled n).log }

/-- The events fill the table from its first entry on. By induction on their number: the first free
slot is the one after those that are taken. -/
theorem filled_spec {n : ℕ} (hn : n ≤ 8) :
    (∀ i : Fin 8, (filled n).events.watchTable i = if i.val < n then some (i.val + 2) else none) ∧
      ∀ a, a ≠ timerList → a ≠ pendingList → (filled n).events.fd a = a := by
  induction n with
  -- the empty table, with each event having its own descriptor
  | zero =>
    refine ⟨fun i => rfl, fun a hx hz => ?_⟩
    unfold filled start rilEventInit initList
    simp only [fd, Function.update_of_ne hz, Function.update_of_ne hx]
  | succ n ih =>
    obtain ⟨htable, hfd⟩ := ih (by omega)
    have hfirst : ∀ n : Fin 8, ((List.finRange 8).find? fun i => decide (n ≤ i)) = some n := by
      decide
    -- the first free slot is that after the `n` which are taken
    have hfree : ((List.finRange maxFdEvents).find?
        fun i => ((filled n).events.watchTable i).isNone) =
          some ⟨n, show n < 8 from hn⟩ := by
      rw [← hfirst]
      congr 1
      funext i
      rw [htable]
      split
      · next hlt => exact (decide_eq_false (not_le.mpr hlt)).symm
      · next hge => exact (decide_eq_true (not_lt.mp hge)).symm
    have hadd : (filled (n + 1)).events = (filled n).events.rilEventAdd (n + 2) := rfl
    unfold rilEventAdd at hadd
    rw [hfree] at hadd
    rw [hadd]
    refine ⟨fun i => ?_, fun a hx hz => ?_⟩
    · -- the slot `n` is taken now, the others are as before
      show Function.update (filled n).events.watchTable _ _ i = _
      rcases eq_or_ne i ⟨n, show n < 8 from hn⟩ with rfl | hne
      · rw [Function.update_self]
        exact (if_pos (Nat.lt_succ_self n)).symm
      · have hin : i.val ≠ n := fun e => hne (Fin.ext e)
        rw [Function.update_of_ne hne, htable]
        exact if_congr (by omega) rfl rfl
    · -- adding an event does not change its descriptor
      show (Function.update (filled n).events.event _ _ a).fd = _
      rcases eq_or_ne a (n + 2) with rfl | hne
      · rw [Function.update_self]
        exact hfd _ hx hz
      · rw [Function.update_of_ne hne]
        exact hfd a hx hz

theorem addable {n : ℕ} (hn : n ≤ 8) : (filled n).events.Addable (n + 2) := by
  obtain ⟨htable, hfd⟩ := filled_spec hn
  have hx : n + 2 ≠ timerList := Nat.succ_ne_zero (n + 1)
  have hz : n + 2 ≠ pendingList := fun h => Nat.succ_ne_zero n (Nat.succ.inj h)
  -- the events watched so far have the addresses 2 to `n + 1`
  have hsmall : ∀ a, (filled n).events.Watched a → a ≠ timerList ∧ a ≠ pendingList ∧ a < n + 2 := by
    rintro a ⟨i, hi⟩
    rw [htable] at hi
    split at hi
    · next hlt =>
      cases hi
      exact ⟨Nat.succ_ne_zero _, fun h => Nat.succ_ne_zero _ (Nat.succ.inj h),
        Nat.add_lt_add_right hlt 2⟩
    · cases hi
  refine ⟨hx, hz, fun hw => ?_, ?_, fun a ha heq => ?_⟩
  · exact absurd (hsmall _ hw).2.2 (lt_irrefl _)
  · rw [hfd _ hx hz]
    unfold fdSetsize
    omega
  · -- no two of these events have one descriptor
    obtain ⟨hax, haz, hlt⟩ := hsmall a ha
    rw [hfd _ hx hz, hfd a hax haz] at heq
    exact hlt.ne (Int.ofNat.inj heq)

theorem reachable {n : ℕ} (hn : n ≤ 8) : Lts.Reachable eventLayer (filled n) := by
  induction n with
  | zero => exact .init initial
  | succ n ih => exact .step (ih (by omega)) (.rilEventAdd _ (n + 2) (addable (by omega)))

end FullTable

/-- **A full table drops the event.** Eight descriptors are watched; the ninth event is added, is
not watched, and nothing else has changed: `ril_event_add` has no result that could tell. -/
theorem full_table_drops_event : ∃ s ev t, Lts.Reachable eventLayer s ∧
    eventLayer.step s (.rilEventAdd ev) t ∧ ¬ t.events.Watched ev ∧ t.events = s.events := by
  have haddable := FullTable.addable (le_refl 8)
  have hsame : (FullTable.filled 8).events.rilEventAdd 10 = (FullTable.filled 8).events := by
    rcases WatchTable.rilEventAdd_cases (FullTable.filled 8).events 10 with ⟨-, heq⟩ | ⟨i, hi, -⟩
    · exact heq
    · rw [(FullTable.filled_spec (le_refl 8)).1, if_pos i.isLt] at hi
      cases hi
  refine ⟨_, 10, _, FullTable.reachable (le_refl 8), .rilEventAdd _ 10 haddable, ?_, hsame⟩
  show ¬ ((FullTable.filled 8).events.rilEventAdd 10).Watched 10
  rw [hsame]
  exact haddable.watched

/-- Of eight watched descriptors the descriptors 3, 4 and 9 are ready. -/
theorem readies_step : ∃ s t, Lts.Reachable eventLayer s ∧
    eventLayer.step s (.processReadReadies {3, 4, 9} 3) t ∧
      s.events = (FullTable.filled 8).events := by
  have hreach := FullTable.reachable (le_refl 8)
  have hwaited := hreach.step (.processTimeouts _ ⟨0, 0⟩ 1 _ rfl rfl)
  exact ⟨_, _, hwaited, .processReadReadies _ {3, 4, 9} 3 _ _ rfl rfl rfl, rfl⟩

/-- Their events are queued, and those of 3 and 9, which are not persistent, are not watched any
more. -/
theorem watch_table_correct_readies : ∃ t : LayerState, t.events.WatchTable ∧
    Ring t.events.links pendingList [3, 4, 9] ∧
      ¬ t.events.Watched 3 ∧ t.events.Watched 4 ∧ ¬ t.events.Watched 9 := by
  obtain ⟨s, t, hreach, hstep, hevents⟩ := readies_step
  obtain ⟨htable, -, -, hreadies, -⟩ := watch_table_correct hreach hstep
  obtain ⟨-, -, hring, hwatched⟩ := hreadies {3, 4, 9} rfl
  rw [hevents] at hring hwatched
  have hfd : ∀ a ∈ [3, 4, 9], (FullTable.filled 8).events.fd a ∈ ({3, 4, 9} : Finset ℤ) := by
    decide
  refine ⟨t, htable, hring [] ?_, fun h => ?_, ?_, fun h => ?_⟩
  · exact ⟨rfl, rfl, by decide⟩
  · exact absurd (((hwatched 3).mp h).2 (hfd 3 (by decide))) (by decide)
  · exact (hwatched 4).mpr ⟨⟨2, rfl⟩, fun _ => rfl⟩
  · exact absurd (((hwatched 9).mp h).2 (hfd 9 (by decide))) (by decide)

end Ril

end BlueCommon
