import BlueCommon.Ril.EventLoop
import Mathlib.Data.List.TakeWhile

/-!
# The timer queue over whole runs

* `QueueInv static s xs due fds`: the invariant of the event loop. `timer_list` holds the timers
  `xs`, sorted; `pending_list` holds the expired timers `due` and the ready descriptors `fds`; every
  request is on exactly one of the lists or its callback has been invoked.
* `QueueInv.step`: every step of the loop thread and of the other threads keeps it.
* `timer_queue_correct`: what the users of the queue rely on.

The proof is one induction over the steps (`QueueInv.reachable`). The pending list is kept in two
parts: `processTimeouts` puts the expired timers there, `processReadReadies` the descriptors behind
them, and `PcInv` says at which places of an iteration each part is empty. On a sorted list the
expired timers are a prefix (`takeWhile_eq_filter`), so none is missed where the loop stops at the
first timer that is not due. A callback that runs still owns its address (`owner_place`), so that
the timers it adds get other ones and a request is never mistaken for a later one at the same
address.
-/

namespace BlueCommon

namespace Ril

open LinkedList EventState

/-! ### The invariant -/

/-- What the program counter says about the pending list. -/
def PcInv (static : StaticEvents) (s : LoopState) (xs due fds : List Addr) : Prop :=
  match s.pc with
  | .readies _ => fds = []
  | .firing ev => ev = (due ++ fds).headD pendingList
  | .running ev next =>
    next = (due ++ fds).headD pendingList ∧ ev ∉ timerList :: xs ∧
    ev ∉ pendingList :: (due ++ fds) ∧
      (static.isFdEvent ev ∨ ∃ id, s.owner ev = some id ∧ id ∈ s.fired.map Prod.fst)
  | _ => due = [] ∧ fds = []

/-- **The invariant of the event loop.** -/
structure QueueInv (static : StaticEvents) (s : LoopState) (xs due fds : List Addr) : Prop where
  /-- The links form the two lists. -/
  lists : s.events.Lists xs (due ++ fds)
  /-- The timer list is sorted by deadline. -/
  sorted : xs.Pairwise s.events.Before
  /-- The nodes of the timer list and the expired timers belong to requests. -/
  owned : ∀ a ∈ xs ++ due, ∃ id, s.owner a = some id
  /-- The other pending events are events of descriptors. -/
  fds_static : ∀ a ∈ fds, static.isFdEvent a
  /-- An owned address is on a list, or its callback is running. -/
  owner_place : ∀ a id, s.owner a = some id → a ∈ xs ++ due ∨ ∃ next, s.pc = .running a next
  /-- No request owns a sentinel or the event of a descriptor. -/
  owner_dynamic : ∀ a id, s.owner a = some id → ¬ static.isFdEvent a ∧ a ≠ timerList ∧
      a ≠ pendingList
  /-- Each request owns one address, whose event has the deadline of the request. -/
  owner_inj : ∀ a b id, s.owner a = some id → s.owner b = some id → a = b
  owner_deadline : ∀ a id, s.owner a = some id →
    id < s.issued ∧ s.events.deadline a = s.deadlines id ∧ (s.deadlines id).Normalized
  /-- Every request is queued or has been fired, and not both. -/
  accounted : ∀ id < s.issued, (∃ a ∈ xs ++ due, s.owner a = some id) ∨ id ∈ s.fired.map Prod.fst
  not_fired : ∀ a ∈ xs ++ due, ∀ id, s.owner a = some id → id ∉ s.fired.map Prod.fst
  fired_issued : ∀ id ∈ s.fired.map Prod.fst, id < s.issued
  /-- No callback is invoked twice. -/
  fired_nodup : (s.fired.map Prod.fst).Nodup
  /-- No callback is invoked before its deadline has passed. -/
  fired_late : ∀ p ∈ s.fired, s.deadlines p.1 < p.2
  due_late : ∀ a ∈ due, s.events.deadline a < s.now
  /-- The callbacks of an iteration come in the order of their deadlines. -/
  batch_sorted : (s.batch ++ due.map s.events.deadline).Pairwise (· ≤ ·)
  /-- The watch table holds static events, each once. -/
  watchedOnce : s.events.WatchedOnce
  watched : ∀ i a, s.events.watchTable i = some a → static.isFdEvent a
  now_normalized : s.now.Normalized
  pc : PcInv static s xs due fds

namespace QueueInv

variable {static : StaticEvents} {s t : LoopState} {xs due fds : List Addr}

/-- **Initial state.** Both lists are empty and no request was made, so most parts are vacuous. -/
theorem initial (h : s.Initial static) : QueueInv static s [] [] [] where
  lists := h.lists
  sorted := List.Pairwise.nil
  owned a ha := by simp at ha
  fds_static a ha := by simp at ha
  owner_place a id ha := by simp [h.owner] at ha
  owner_dynamic a id ha := by simp [h.owner] at ha
  owner_inj a b id ha := by simp [h.owner] at ha
  owner_deadline a id ha := by simp [h.owner] at ha
  accounted id hid := by simp [h.issued] at hid
  not_fired a ha := by simp at ha
  fired_issued id hid := by simp [h.fired] at hid
  fired_nodup := by simp [h.fired]
  fired_late p hp := by simp [h.fired] at hp
  due_late a ha := by simp at ha
  batch_sorted := by simp [h.batch]
  watchedOnce := h.watchedOnce
  watched := h.watched
  now_normalized := h.now
  pc := by simp [PcInv, h.pc]

/-- A step of the loop thread that touches neither the lists nor the ghost state. -/
theorem goto (h : QueueInv static s xs due fds) {pc : LoopPc} {rfds : ℤ → Bool}
    (howner : ∀ a id, s.owner a = some id → a ∈ xs ++ due)
    (hpc : PcInv static { s with pc := pc, rfds := rfds } xs due fds) :
    QueueInv static { s with pc := pc, rfds := rfds } xs due fds :=
  { h with owner_place := fun a id ha => .inl (howner a id ha), pc := hpc }

/-- While no callback is running every owned address is on a list. -/
theorem owner_queued (h : QueueInv static s xs due fds) (hpc : ∀ ev next, s.pc ≠ .running ev next)
    {a : Addr} {id : ℕ} (ha : s.owner a = some id) : a ∈ xs ++ due := by
  rcases h.owner_place a id ha with hq | ⟨next, hr⟩
  · exact hq
  · exact absurd hr (hpc a next)

/-- Time passes. -/
theorem tick (h : QueueInv static s xs due fds) {now : Timeval} (hle : s.now ≤ now)
    (hn : now.Normalized) : QueueInv static { s with now := now } xs due fds :=
  { h with
    due_late := fun a ha => lt_of_lt_of_le (h.due_late a ha) hle
    now_normalized := hn
    pc := h.pc }

/-- `processTimeouts` moves the expired timers. They are at the front of the sorted list, and are in
the same order in the pending list, which was empty before. -/
theorem processTimeouts (h : QueueInv static s xs due fds) {n : ℤ} {fuel : ℕ} {events : EventState}
    (hpc : s.pc = .timeouts n) (hev : s.events.processTimeouts s.now fuel = some events) :
    QueueInv static { s with events := events, batch := [], pc := .readies n }
      (xs.dropWhile (s.events.Due s.now)) (xs.takeWhile (s.events.Due s.now)) [] := by
  -- before the timeouts are looked at nothing is pending
  have hidle := h.pc
  simp only [PcInv, hpc] at hidle
  obtain ⟨rfl, rfl⟩ := hidle
  obtain ⟨m, rfl, hlists⟩ := processTimeouts_spec h.lists hev
  -- the late timers stand at the front of the sorted list, and go over to the pending list
  have hsplit : xs.takeWhile (s.events.Due s.now) ++ xs.dropWhile (s.events.Due s.now) = xs :=
    List.takeWhile_append_dropWhile
  have hmem : ∀ a, a ∈ xs.dropWhile (s.events.Due s.now) ++ xs.takeWhile (s.events.Due s.now) ↔
      a ∈ xs ++ [] := by
    intro a
    rw [List.append_nil]
    conv_rhs => rw [← hsplit]
    simp only [List.mem_append, or_comm]
  have hlate : ∀ a ∈ xs.takeWhile (s.events.Due s.now), s.events.Due s.now a :=
    fun a ha => by simpa using List.mem_takeWhile_imp ha
  -- both parts of a sorted list are sorted
  have hsorted := h.sorted
  rw [← hsplit, List.pairwise_append] at hsorted
  -- the owners, the numbers and the deadlines are not touched
  refine { h with
    lists := by simpa using hlists
    sorted := hsorted.2.1
    owned := fun a ha => h.owned a ((hmem a).mp ha)
    fds_static := by simp
    owner_place := fun a id ha => .inl ((hmem a).mpr (h.owner_queued (by simp [hpc]) ha))
    accounted := fun id hid => (h.accounted id hid).imp
      (fun ⟨a, ha, hid⟩ => ⟨a, (hmem a).mpr ha, hid⟩) fun hf => hf
    not_fired := fun a ha => h.not_fired a ((hmem a).mp ha)
    due_late := hlate
    batch_sorted := ?_
    pc := rfl }
  -- the pending part is sorted by deadlines, as the list was
  rw [List.nil_append]
  exact List.Pairwise.map _ (fun a b hab => hab) hsorted.1

/-- `processReadReadies` queues events of descriptors behind the expired timers. An event that is
watched is no timer, so it is in neither list; no deadline changes. -/
theorem processReadReadies (h : QueueInv static s xs due fds) {n : ℤ} {events : EventState}
    {ev : Addr} (hpc : s.pc = .readies n)
    (hrr : s.events.processReadReadies s.rfds n = some events)
    (hev : events.links.next pendingList = some ev) :
    ∃ fds', QueueInv static { s with events := events, pc := .firing ev } xs due fds' := by
  -- the descriptors that were pending before: none
  have hidle : fds = [] := by simpa only [PcInv, hpc] using h.pc
  subst hidle
  -- an event that is watched is no timer, so it is in neither list
  have hfree : ∀ i a, s.events.watchTable i = some a →
      a ∉ timerList :: xs ∧ a ∉ pendingList :: (due ++ []) := by
    intro i a ha
    have hst := h.watched i a ha
    have hnot : a ∉ xs ++ due := by
      intro hm
      obtain ⟨id, hid⟩ := h.owned a hm
      exact (h.owner_dynamic a id hid).1 hst
    have h₁ : a ≠ timerList := fun e => static.timerList_not (e ▸ hst)
    have h₂ : a ≠ pendingList := fun e => static.pendingList_not (e ▸ hst)
    simp only [List.mem_append, not_or] at hnot
    simp [h₁, h₂, hnot]
  -- each descriptor that is ready comes behind the timers, once
  obtain ⟨t, fds', ht, hl, hw, hfds⟩ :=
    processReadReadies_spec s.rfds n h.lists h.watchedOnce hfree
  obtain rfl : events = t := Option.some.inj (hrr.symm.trans ht)
  -- no deadline changes
  have hdl := hw.deadline_eq
  refine ⟨fds', { h with
    lists := by simpa using hl
    sorted := h.sorted.imp fun {a b} hab => by simpa only [Before, hdl] using hab
    fds_static := fun a ha => by
      obtain ⟨i, hi⟩ := hfds a ha
      exact h.watched i a hi
    owner_place := fun a id ha => .inl (h.owner_queued (by simp [hpc]) ha)
    owner_deadline := fun a id ha => by simpa only [hdl] using h.owner_deadline a id ha
    due_late := fun a ha => by simpa only [hdl] using h.due_late a ha
    batch_sorted := by simpa only [funext hdl] using h.batch_sorted
    watchedOnce := h.watchedOnce.mono hw
    watched := fun i a ha => h.watched i a (hw.entry i a ha)
    pc := ?_ }⟩
  -- the first of the pending list is the one that fires next
  have hhead := Path.head_eq hl.pending.next
  rw [hev] at hhead
  simpa [PcInv] using Option.some.inj hhead

/-- The front event is an expired timer. It belongs to a request that has not fired, since it was
still queued; its successor was read before it is unlinked. -/
theorem callTimer {ev next : Addr} (h : QueueInv static s xs (ev :: due) fds) {events : EventState}
    (hpc : s.pc = .firing ev) (hev : ev ≠ pendingList)
    (hnext : s.events.links.next ev = some next) (hrem : s.events.removeFromList ev = some events) :
    QueueInv static { s with
      events := events
      pc := .running ev next
      fired := s.fired ++ (s.owner ev).toList.map fun id => (id, s.now)
      batch := s.batch ++ (s.owner ev).toList.map s.deadlines } xs due fds := by
  have hqueued : ∀ {a id}, s.owner a = some id → a ∈ xs ++ ev :: due :=
    h.owner_queued (by simp [hpc])
  -- the front of the pending list is unlinked
  obtain ⟨m, hrem', hl⟩ := h.lists.removeFromList_pending
  obtain rfl : events = { s.events with links := m } :=
    Option.some.inj (hrem.symm.trans hrem')
  -- the successor was read before the event was unlinked
  have hnx : next = (due ++ fds).headD pendingList := by
    have := Path.head_eq h.lists.pending.next.2
    exact Option.some.inj (hnext.symm.trans this)
  -- the timer belongs to a request that has not fired
  obtain ⟨id, hid⟩ := h.owned ev (by simp)
  obtain ⟨hlt, hdl, hnorm⟩ := h.owner_deadline ev id hid
  -- it fires for the first time, since it was still queued
  have hnot : id ∉ s.fired.map Prod.fst := h.not_fired ev (by simp) id hid
  have hnd := h.lists.pending.nodup
  have hevx : ev ∉ timerList :: xs := fun hm => h.lists.disjoint hm (by simp)
  have hevz : ev ∉ pendingList :: (due ++ fds) := by
    simp only [List.cons_append, List.nodup_cons, List.mem_cons, not_or] at hnd ⊢
    exact ⟨hev, hnd.2.1⟩
  -- the timers that are left
  have hsub : ∀ a, a ∈ xs ++ due → a ∈ xs ++ ev :: due := by
    intro a ha
    simp only [List.mem_append, List.mem_cons] at ha ⊢
    tauto
  have hne : ∀ a, a ∈ xs ++ due → a ≠ ev := by
    rintro a ha rfl
    rcases List.mem_append.mp ha with ha | ha
    · exact hevx (List.mem_cons_of_mem _ ha)
    · exact hevz (List.mem_cons_of_mem _ (List.mem_append_left _ ha))
  have hfired : (s.fired ++ (s.owner ev).toList.map fun id => (id, s.now)).map Prod.fst =
      s.fired.map Prod.fst ++ [id] := by simp [hid]
  refine { h with
    lists := hl
    owned := fun a ha => h.owned a (hsub a ha)
    owner_place := ?_
    accounted := ?_
    not_fired := ?_
    fired_issued := ?_
    fired_nodup := ?_
    fired_late := ?_
    due_late := fun a ha => h.due_late a (List.mem_cons_of_mem _ ha)
    batch_sorted := ?_
    pc := ?_ }
  · -- the timer that fires is now the one whose callback runs
    intro a id' ha
    have := hqueued ha
    simp only [List.mem_append, List.mem_cons] at this ⊢
    rcases this with h' | rfl | h'
    · exact .inl (.inl h')
    · exact .inr ⟨next, rfl⟩
    · exact .inl (.inr h')
  · -- it is accounted for as fired
    intro id' hid'
    simp only [hfired]
    rcases h.accounted id' hid' with ⟨a, ha, hao⟩ | hf
    · by_cases hae : a = ev
      · subst hae
        obtain rfl : id = id' := Option.some.inj (hid.symm.trans hao)
        exact .inr (by simp)
      · refine .inl ⟨a, ?_, hao⟩
        simp only [List.mem_append, List.mem_cons] at ha ⊢
        tauto
    · exact .inr (List.mem_append_left _ hf)
  · -- the others have not fired, since each belongs to one timer
    intro a ha id' hao
    simp only [hfired, List.mem_append, List.mem_singleton, not_or]
    refine ⟨h.not_fired a (hsub a ha) id' hao, ?_⟩
    rintro rfl
    exact hne a ha (h.owner_inj a ev id' hao hid)
  · -- only a number that was issued fires
    intro id' hid'
    simp only [hfired, List.mem_append, List.mem_singleton] at hid'
    rcases hid' with hid' | rfl
    · exact h.fired_issued id' hid'
    · exact hlt
  · -- no number fires twice
    simp only [hfired]
    exact List.nodup_append.mpr ⟨h.fired_nodup, by simp, by
      rintro a ha b hb rfl
      rw [List.mem_singleton] at hb
      exact hnot (hb ▸ ha)⟩
  · -- it fires late, since it was moved from the list when it was due
    intro p hp
    simp only [hid, Option.toList_some, List.map_cons, List.map_nil, List.mem_append,
      List.mem_singleton] at hp
    rcases hp with hp | rfl
    · exact h.fired_late p hp
    · have := h.due_late ev List.mem_cons_self
      rwa [hdl] at this
  · -- its deadline goes from the front of the rest to the end of the batch
    have := h.batch_sorted
    simp only [List.map_cons, hdl] at this
    simpa [hid] using this
  · -- the event whose callback runs is in neither list any more
    refine ⟨hnx, hevx, hevz, .inr ⟨id, hid, ?_⟩⟩
    simp only [hfired]
    simp
/-- The front event is the event of a descriptor. Such an event is static and has no owner, so no
request is noted as fired. -/
theorem callDescriptor {ev next : Addr} (h : QueueInv static s xs [] (ev :: fds))
    {events : EventState} (hpc : s.pc = .firing ev) (hev : ev ≠ pendingList)
    (hnext : s.events.links.next ev = some next) (hrem : s.events.removeFromList ev = some events) :
    QueueInv static { s with
      events := events
      pc := .running ev next
      fired := s.fired ++ (s.owner ev).toList.map fun id => (id, s.now)
      batch := s.batch ++ (s.owner ev).toList.map s.deadlines } xs [] fds := by
  have hqueued : ∀ {a id}, s.owner a = some id → a ∈ xs ++ [] := h.owner_queued (by simp [hpc])
  -- the front of the pending list is unlinked
  obtain ⟨m, hrem', hl⟩ := h.lists.removeFromList_pending
  obtain rfl : events = { s.events with links := m } :=
    Option.some.inj (hrem.symm.trans hrem')
  -- the successor was read before the event was unlinked
  have hnx : next = fds.headD pendingList := by
    have := Path.head_eq h.lists.pending.next.2
    exact Option.some.inj (hnext.symm.trans this)
  -- a static event has no owner, so nothing is fired
  have hst := h.fds_static ev List.mem_cons_self
  have hid : s.owner ev = none := by
    cases ho : s.owner ev with
    | none => rfl
    | some id => exact absurd hst (h.owner_dynamic ev id ho).1
  have hnd := h.lists.pending.nodup
  -- so the lists of what was fired stay as they are
  refine { h with
    lists := hl
    fds_static := fun a ha => h.fds_static a (List.mem_cons_of_mem _ ha)
    owner_place := fun a id ha => .inl (hqueued ha)
    accounted := by simpa [hid] using h.accounted
    not_fired := by simpa [hid] using h.not_fired
    fired_issued := by simpa [hid] using h.fired_issued
    fired_nodup := by simpa [hid] using h.fired_nodup
    fired_late := by simpa [hid] using h.fired_late
    batch_sorted := by simpa [hid] using h.batch_sorted
    pc := ?_ }
  -- the event whose callback runs is in neither list any more
  refine ⟨hnx, fun hm => h.lists.disjoint hm (by simp), ?_, .inl hst⟩
  simp only [List.nil_append, List.nodup_cons, List.mem_cons, not_or] at hnd ⊢
  exact ⟨hev, hnd.2.1⟩

/-- `firePending` takes the front event off the pending list and calls it. -/
theorem call (h : QueueInv static s xs due fds) {ev next : Addr} {events : EventState}
    (hpc : s.pc = .firing ev) (hev : ev ≠ pendingList)
    (hnext : s.events.links.next ev = some next) (hrem : s.events.removeFromList ev = some events) :
    ∃ due' fds', QueueInv static { s with
      events := events
      pc := .running ev next
      fired := s.fired ++ (s.owner ev).toList.map fun id => (id, s.now)
      batch := s.batch ++ (s.owner ev).toList.map s.deadlines } xs due' fds' := by
  -- the front of the pending list is a timer as long as one is left, and a descriptor then
  have hfront : ev = (due ++ fds).headD pendingList := by simpa only [PcInv, hpc] using h.pc
  cases due with
  | cons x due =>
    obtain rfl : ev = x := hfront
    exact ⟨due, fds, h.callTimer hpc hev hnext hrem⟩
  | nil =>
    cases fds with
    -- the list would be empty, and the event its sentinel
    | nil => exact absurd hfront hev
    | cons x fds =>
      obtain rfl : ev = x := hfront
      exact ⟨[], fds, h.callDescriptor hpc hev hnext hrem⟩

/-- The callback returns and its timer is freed. The event is in neither list by then, and what is
left in them has other owners. -/
theorem finish (h : QueueInv static s xs due fds) {ev next : Addr} (hpc : s.pc = .running ev next) :
    QueueInv static { s with pc := .firing next, owner := Function.update s.owner ev none }
      xs due fds := by
  -- the event whose callback has run is in neither list
  obtain ⟨hnx, hevx, hevz, -⟩ : next = (due ++ fds).headD pendingList ∧ ev ∉ timerList :: xs ∧
      ev ∉ pendingList :: (due ++ fds) ∧
      (static.isFdEvent ev ∨ ∃ id, s.owner ev = some id ∧ id ∈ s.fired.map Prod.fst) := by
    simpa only [PcInv, hpc] using h.pc
  -- the owners that are left are those of the other events
  have hold : ∀ {a id}, Function.update s.owner ev none a = some id →
      a ≠ ev ∧ s.owner a = some id := by
    intro a id ha
    by_cases hae : a = ev
    · subst hae
      simp at ha
    · exact ⟨hae, by simpa [hae] using ha⟩
  -- no timer that is left is the one that is freed
  have hne : ∀ a ∈ xs ++ due, a ≠ ev := by
    rintro a ha rfl
    rcases List.mem_append.mp ha with ha | ha
    · exact hevx (List.mem_cons_of_mem _ ha)
    · exact hevz (List.mem_cons_of_mem _ (List.mem_append_left _ ha))
  -- the place of an owner can no longer be the callback that has just ended
  exact { h with
    owned := fun a ha => by simpa [hne a ha] using h.owned a ha
    owner_place := fun a id ha => by
      obtain ⟨hae, ha⟩ := hold ha
      rcases h.owner_place a id ha with hq | ⟨nx, hr⟩
      · exact .inl hq
      · rw [hpc] at hr
        cases hr
        exact absurd rfl hae
    owner_dynamic := fun a id ha => h.owner_dynamic a id (hold ha).2
    owner_inj := fun a b id ha hb => h.owner_inj a b id (hold ha).2 (hold hb).2
    owner_deadline := fun a id ha => h.owner_deadline a id (hold ha).2
    accounted := fun id hid => (h.accounted id hid).imp
      (fun ⟨a, ha, hao⟩ => ⟨a, ha, by simpa [hne a ha] using hao⟩) (fun h' => h')
    not_fired := fun a ha id hao => h.not_fired a ha id (hold hao).2
    pc := hnx }

theorem owner_update {owner : Addr → Option ℕ} {a b : Addr} {n id : ℕ}
    (h : Function.update owner a (some n) b = some id) :
    b = a ∧ id = n ∨ b ≠ a ∧ owner b = some id := by
  by_cases hba : b = a
  · subst hba
    exact .inl ⟨rfl, by simpa [eq_comm] using h⟩
  · exact .inr ⟨hba, by simpa [hba] using h⟩

/-- A fresh address is on neither list. -/
theorem fresh_notMem (h : QueueInv static s xs due fds) {a : Addr} (hfresh : s.Fresh static a) :
    a ∉ xs ++ due ∧ a ∉ timerList :: xs ∧ a ∉ pendingList :: (due ++ fds) := by
  obtain ⟨hnone, hstatic, htl, hpl⟩ := hfresh
  have hnotx : a ∉ xs ++ due := by
    intro hm
    obtain ⟨id, hid⟩ := h.owned a hm
    rw [hnone] at hid
    cases hid
  have hnotf : a ∉ fds := fun hm => hstatic (h.fds_static a hm)
  have hparts := hnotx
  simp only [List.mem_append, not_or] at hparts
  exact ⟨hnotx, by simp [htl, hparts], by simp [hpl, hparts, hnotf]⟩

/-- The program counter does not notice a new timer. Only the place where a callback runs says
something about addresses, and the running event has not been freed, so its address is not handed
out. -/
theorem pcInv_timerAdd {a : Addr} {d : Timeval} {events : EventState} {toWrite : ℕ → Bool}
    (hpc : PcInv static s xs due fds) (hnone : s.owner a = none) (hstatic : ¬ static.isFdEvent a) :
    PcInv static { s with
      events := events
      toWrite := toWrite
      owner := Function.update s.owner a (some s.issued)
      issued := s.issued + 1
      deadlines := Function.update s.deadlines s.issued d } (xs.orderedInsert events.Before a)
      due fds := by
  -- only the place where a callback runs says something about the new address
  unfold PcInv at hpc ⊢
  simp only at hpc ⊢
  split
  · next he => simpa only [he] using hpc
  · next he => simpa only [he] using hpc
  · next ev next he =>
    simp only [he] at hpc
    obtain ⟨hnx, hevx, hevz, hf⟩ := hpc
    -- the event whose callback runs has not been freed, so its address is not handed out
    have hea : ev ≠ a := by
      rintro rfl
      rcases hf with hf | ⟨id, hid, -⟩
      · exact hstatic hf
      · rw [hnone] at hid
        cases hid
    -- the running event is as much out of the longer list as it was out of the shorter one
    refine ⟨hnx, ?_, hevz, by simpa [hea] using hf⟩
    simp only [List.mem_cons, List.mem_orderedInsert, not_or] at hevx ⊢
    exact ⟨hevx.1, hea, hevx.2⟩
  · -- at the other places both lists of pending events are empty, and stay so
    next h₁ h₂ h₃ =>
    split at hpc
    · next he => exact absurd he (h₁ _)
    · next he => exact absurd he (h₂ _)
    · next he => exact absurd he (h₃ _ _)
    · exact hpc

/-- `ril_timer_add` links a fresh timer in at its place. The address is in neither list, and the
number of the request is a new one; no other event is changed. -/
theorem timerAdd (h : QueueInv static s xs due fds) {a : Addr} {tv d : Timeval} {fuel : ℕ}
    {events : EventState} {toWrite : ℕ → Bool} (hfresh : s.Fresh static a) (htv : tv.Relative)
    (hd : timeradd s.now tv = some d)
    (hadd : (s.events.setTimer a).rilTimerAdd a tv s.now fuel = some events) :
    QueueInv static { s with
      events := events
      toWrite := toWrite
      owner := Function.update s.owner a (some s.issued)
      issued := s.issued + 1
      deadlines := Function.update s.deadlines s.issued d } (xs.orderedInsert events.Before a)
      due fds := by
  -- a fresh address is in neither list
  obtain ⟨hnotx, hx, hz⟩ := h.fresh_notMem hfresh
  obtain ⟨hnone, hstatic, htl, hpl⟩ := hfresh
  have hnorm := (Timeval.timeradd_eq_some h.now_normalized htv.2 hd).1
  -- the insertion puts the timer at its place and changes no other event
  obtain ⟨hlists, hda, hevent, hwatch⟩ := setTimer_rilTimerAdd_spec h.lists hx hz hd hadd
  have hdl : ∀ b ≠ a, events.deadline b = s.events.deadline b := by
    intro b hb
    simp only [deadline, hevent b hb]
  -- the new list of timers has one more
  have hmem : ∀ b, b ∈ xs.orderedInsert events.Before a ++ due ↔ b = a ∨ b ∈ xs ++ due := by
    intro b
    simp only [List.mem_append, List.mem_orderedInsert, or_assoc]
  -- the address is in no list, and the number is new
  have hne : ∀ b ∈ xs ++ due, b ≠ a := fun b hb e => hnotx (e ▸ hb)
  have hlt : ∀ {b id}, s.owner b = some id → id ≠ s.issued :=
    fun hb => (h.owner_deadline _ _ hb).1.ne
  refine { h with
    lists := hlists
    sorted := ?_
    owned := ?_
    owner_place := ?_
    owner_dynamic := ?_
    owner_inj := ?_
    owner_deadline := ?_
    accounted := ?_
    not_fired := ?_
    fired_issued := fun id hid => (h.fired_issued id hid).trans (Nat.lt_succ_self _)
    fired_late := ?_
    due_late := ?_
    batch_sorted := ?_
    watchedOnce := ?_
    watched := ?_
    pc := ?_ }
  · -- the list stays sorted by deadlines
    refine List.Pairwise.orderedInsert a xs (h.sorted.imp_of_mem fun {b c} hb hc hbc => ?_)
    have hb' := hdl b (hne b (List.mem_append_left _ hb))
    have hc' := hdl c (hne c (List.mem_append_left _ hc))
    simpa only [Before, hb', hc'] using hbc
  · -- the new timer has an owner, the others keep theirs
    intro b hb
    rcases (hmem b).mp hb with rfl | hb
    · exact ⟨s.issued, by simp⟩
    · simpa [hne b hb] using h.owned b hb
  · -- the new timer is in the list, the others stay where they are
    intro b id hb
    rcases owner_update hb with ⟨rfl, -⟩ | ⟨-, hb⟩
    · exact .inl ((hmem b).mpr (.inl rfl))
    · exact (h.owner_place b id hb).imp (fun hm => (hmem b).mpr (.inr hm)) fun hr => hr
  · -- the new owner is a dynamic event
    intro b id hb
    rcases owner_update hb with ⟨rfl, -⟩ | ⟨-, hb⟩
    · exact ⟨hstatic, htl, hpl⟩
    · exact h.owner_dynamic b id hb
  · -- no two addresses have the same number
    intro b c id hb hc
    rcases owner_update hb with ⟨hba, hi⟩ | ⟨-, hb'⟩ <;>
      rcases owner_update hc with ⟨hca, hj⟩ | ⟨-, hc'⟩
    · rw [hba, hca]
    · exact absurd hi (hlt hc')
    · exact absurd hj (hlt hb')
    · exact h.owner_inj b c id hb' hc'
  · -- the deadline is the one that was asked for
    intro b id hb
    rcases owner_update hb with ⟨rfl, rfl⟩ | ⟨hba, hb⟩
    · refine ⟨Nat.lt_succ_self _, ?_, ?_⟩
      · simpa using hda
      · simpa using hnorm
    · obtain ⟨h₁, h₂, h₃⟩ := h.owner_deadline b id hb
      refine ⟨h₁.trans (Nat.lt_succ_self _), ?_, ?_⟩
      · simpa [(hlt hb)] using (hdl b hba).trans h₂
      · simpa [(hlt hb)] using h₃
  · -- the new number is accounted for by the new timer
    intro id hid
    rcases Nat.lt_succ_iff_lt_or_eq.mp hid with hid | rfl
    · refine (h.accounted id hid).imp (fun ⟨b, hb, hbo⟩ => ?_) fun hf => hf
      exact ⟨b, (hmem b).mpr (.inr hb), by simpa [hne b hb] using hbo⟩
    · exact .inl ⟨a, (hmem a).mpr (.inl rfl), by simp⟩
  · -- it has not fired, since only issued numbers have
    intro b hb id hbo
    rcases owner_update hbo with ⟨rfl, rfl⟩ | ⟨hba, hbo⟩
    · exact fun hf => absurd rfl (h.fired_issued _ hf).ne
    · rcases (hmem b).mp hb with rfl | hb
      · exact absurd rfl hba
      · exact h.not_fired b hb id hbo
  · -- what has fired is as late as before
    intro p hp
    have hpi := (h.fired_issued p.1 (List.mem_map_of_mem hp)).ne
    simpa [hpi] using h.fired_late p hp
  · -- the others keep their deadlines
    intro b hb
    rw [hdl b (hne b (List.mem_append_right _ hb))]
    exact h.due_late b hb
  · -- the pending timers keep their deadlines, so the batch stays sorted
    have hmap : due.map events.deadline = due.map s.events.deadline :=
      List.map_congr_left fun b hb => hdl b (hne b (List.mem_append_right _ hb))
    rw [hmap]
    exact h.batch_sorted
  · -- the watch table is not touched
    simpa only [WatchedOnce, hwatch] using h.watchedOnce
  · simpa only [hwatch] using h.watched
  · exact pcInv_timerAdd h.pc hnone hstatic

/-- **Preservation.** Every step keeps the invariant. The pending list is empty outside of the
second half of an iteration, and most steps only go on to the next place. -/
theorem step (h : QueueInv static s xs due fds) {l : LoopLabel} (hstep : LoopStep static s l t) :
    ∃ xs' due' fds', QueueInv static t xs' due' fds' := by
  -- the pending list is empty outside of the second half of an iteration
  have hidle : ∀ {pc : LoopPc}, s.pc = pc → (∀ n, pc ≠ .readies n) → (∀ ev, pc ≠ .firing ev) →
      (∀ ev next, pc ≠ .running ev next) → due = [] ∧ fds = [] := by
    intro pc hpc h₁ h₂ h₃
    have := h.pc
    unfold PcInv at this
    split at this
    · next he => exact absurd (hpc.symm.trans he) (h₁ _)
    · next he => exact absurd (hpc.symm.trans he) (h₂ _)
    · next he => exact absurd (hpc.symm.trans he) (h₃ _ _)
    · exact this
  -- the steps that go on to the next place keep both lists
  cases hstep with
  | tick now hle hn => exact ⟨_, _, _, h.tick hle hn⟩
  | copyFds hpc =>
    obtain ⟨rfl, rfl⟩ := hidle hpc (by simp) (by simp) (by simp)
    exact ⟨xs, _, _, h.goto (fun a id => h.owner_queued (by simp [hpc])) ⟨rfl, rfl⟩⟩
  | calcHead tev hpc _ =>
    obtain ⟨rfl, rfl⟩ := hidle hpc (by simp) (by simp) (by simp)
    exact ⟨xs, _, _, h.goto (fun a id => h.owner_queued (by simp [hpc])) ⟨rfl, rfl⟩⟩
  | calcNow tev hpc =>
    obtain ⟨rfl, rfl⟩ := hidle hpc (by simp) (by simp) (by simp)
    exact ⟨xs, _, _, h.goto (fun a id => h.owner_queued (by simp [hpc])) ⟨rfl, rfl⟩⟩
  | select ptv reading hpc =>
    obtain ⟨rfl, rfl⟩ := hidle hpc (by simp) (by simp) (by simp)
    exact ⟨xs, _, _, h.goto (fun a id => h.owner_queued (by simp [hpc])) ⟨rfl, rfl⟩⟩
  | selectReturns ptv reading entered ready n hpc _ _ =>
    obtain ⟨rfl, rfl⟩ := hidle hpc (by simp) (by simp) (by simp)
    exact ⟨xs, _, _, h.goto (fun a id => h.owner_queued (by simp [hpc])) ⟨rfl, rfl⟩⟩
  | selectInterrupted ptv reading entered hpc =>
    obtain ⟨rfl, rfl⟩ := hidle hpc (by simp) (by simp) (by simp)
    exact ⟨xs, _, _, h.goto (fun a id => h.owner_queued (by simp [hpc])) ⟨rfl, rfl⟩⟩
  | selectFails ptv reading entered hpc =>
    obtain ⟨rfl, rfl⟩ := hidle hpc (by simp) (by simp) (by simp)
    exact ⟨xs, _, _, h.goto (fun a id => h.owner_queued (by simp [hpc])) ⟨rfl, rfl⟩⟩
  | processTimeouts n fuel events hpc hev => exact ⟨_, _, _, h.processTimeouts hpc hev⟩
  -- the descriptors that are ready join the pending list
  | processReadReadies n events ev hpc hrr hev =>
    obtain ⟨fds', h'⟩ := h.processReadReadies hpc hrr hev
    exact ⟨_, _, _, h'⟩
  -- the front of the pending list is called
  | call ev next events hpc hev hnext hrem =>
    obtain ⟨due', fds', h'⟩ := h.call hpc hev hnext hrem
    exact ⟨_, _, _, h'⟩
  | drain ev next hpc _ _ => exact ⟨xs, due, fds, { h with pc := h.pc }⟩
  | finish ev next hpc _ => exact ⟨_, _, _, h.finish hpc⟩
  | firePendingReturns hpc =>
    -- the front of the pending list is its sentinel: it is empty
    have hfront : pendingList = (due ++ fds).headD pendingList := by
      simpa only [PcInv, hpc] using h.pc
    have hnil : due ++ fds = [] := by
      have hnd := (List.nodup_cons.mp h.lists.pending.nodup).1
      cases hz : due ++ fds with
      | nil => rfl
      | cons z zs =>
        rw [hz] at hfront hnd
        exact absurd (hfront ▸ List.mem_cons_self) hnd
    obtain ⟨rfl, rfl⟩ := List.append_eq_nil_iff.mp hnil
    exact ⟨xs, _, _, h.goto (fun a id => h.owner_queued (by simp [hpc])) ⟨rfl, rfl⟩⟩
  | timerAdd thread a tv d fuel events hfresh htv _ _ hd hadd =>
    exact ⟨_, _, _, h.timerAdd hfresh htv hd hadd⟩
  | write i _ => exact ⟨xs, due, fds, { h with pc := h.pc }⟩

/-- The invariant holds in every run. -/
theorem reachable (h : (eventLoop static).Reachable s) :
    ∃ xs due fds, QueueInv static s xs due fds := by
  refine @Lts.Reachable.invariant _ _ _ (fun s => ∃ xs due fds, QueueInv static s xs due fds)
    (fun s h₀ => ⟨_, _, _, initial h₀⟩) ?_ s h
  rintro s l t ⟨xs, due, fds, hs⟩ hstep
  exact hs.step hstep

end QueueInv

/-! ### What the users of the queue rely on -/

/-- **The timer queue is correct** in a state whose timer list holds `xs` and whose pending list
holds `zs`. -/
structure TimerQueueCorrect (static : StaticEvents) (s : LoopState) (xs zs : List Addr) : Prop where
  /-- `timer_list` is a doubly linked circular list, sorted by non-decreasing deadline. -/
  timer_ring : Ring s.events.links timerList xs
  pending_ring : Ring s.events.links pendingList zs
  sorted : xs.Pairwise fun a b => s.events.deadline a ≤ s.events.deadline b
  /-- Its nodes are timers of requests, with the deadlines of the requests. -/
  timers : ∀ a ∈ xs, ∃ id < s.issued, s.owner a = some id ∧ s.events.deadline a = s.deadlines id
  /-- No callback is invoked twice. -/
  at_most_once : (s.fired.map Prod.fst).Nodup
  /-- No callback is invoked while the clock has not passed its deadline. -/
  not_early : ∀ p ∈ s.fired, s.deadlines p.1 < p.2
  /-- Every added timer is in exactly one place: its callback has been invoked, or exactly one node
  of the two lists is its event. -/
  fired_or_queued : ∀ id < s.issued,
    (id ∈ s.fired.map Prod.fst ∧ ∀ a ∈ xs ++ zs, s.owner a ≠ some id) ∨
    (id ∉ s.fired.map Prod.fst ∧ ∃ a ∈ xs ++ zs, s.owner a = some id ∧
      ∀ b ∈ xs ++ zs, s.owner b = some id → b = a)
  /-- The callbacks of one iteration run in non-decreasing order of their deadlines. -/
  in_order : s.batch.Pairwise (· ≤ ·)
  /-- `processTimeouts` moves exactly the timers whose deadline is before `now`. -/
  expires : ∀ t, LoopStep static s .processTimeouts t →
    Ring t.events.links timerList (xs.filter fun a => decide ¬ s.events.deadline a < s.now) ∧
    Ring t.events.links pendingList (zs ++ xs.filter fun a => decide (s.events.deadline a < s.now))
  /-- The functions return: `ril_timer_add` unless the deadline overflows, `processTimeouts`, and
  `firePending` has a next step. -/
  add_returns : ∀ thread a tv d, s.Fresh static a → tv.Relative →
    (∀ i, thread = some i → s.toWrite i = false) → (thread = none → s.InCallback) →
    timeradd s.now tv = some d → ∃ t, LoopStep static s (.timerAdd thread a tv) t
  expire_returns : ∀ n, s.pc = .timeouts n → ∃ t, LoopStep static s .processTimeouts t
  fire_goes_on : ∀ ev, s.pc = .firing ev →
    (∃ t, LoopStep static s .call t) ∨ ∃ t, LoopStep static s .firePendingReturns t

/-- On a sorted list the elements that satisfy a downward closed predicate form a prefix. -/
theorem takeWhile_eq_filter {α : Type} {r : α → α → Prop} {p : α → Bool}
    (hp : ∀ a b, r a b → p b = true → p a = true) {l : List α} (h : l.Pairwise r) :
    l.takeWhile p = l.filter p ∧ l.dropWhile p = l.filter fun a => !p a := by
  induction l with
  | nil => simp
  | cons a l ih =>
    obtain ⟨ha, hl⟩ := List.pairwise_cons.mp h
    by_cases hpa : p a = true
    · simp [hpa, ih hl]
    · have hnone : ∀ b ∈ l, p b = false := by
        intro b hb
        by_contra hpb
        exact hpa (hp a b (ha b hb) (by simpa using hpb))
      have hfilter : l.filter p = [] := by
        rw [List.filter_eq_nil_iff]
        exact fun b hb => by simp [hnone b hb]
      have hall : l.filter (fun b => !p b) = l := by
        rw [List.filter_eq_self]
        exact fun b hb => by simp [hnone b hb]
      simp [hpa, hfilter, hall]

namespace QueueInv

variable {static : StaticEvents} {s t : LoopState} {xs due fds : List Addr}

/-- A request that owns a node has exactly this one, and has not been fired. -/
theorem fired_or_queued (h : QueueInv static s xs due fds) {id : ℕ} (hid : id < s.issued) :
    (id ∈ s.fired.map Prod.fst ∧ ∀ a ∈ xs ++ (due ++ fds), s.owner a ≠ some id) ∨
    (id ∉ s.fired.map Prod.fst ∧ ∃ a ∈ xs ++ (due ++ fds), s.owner a = some id ∧
      ∀ b ∈ xs ++ (due ++ fds), s.owner b = some id → b = a) := by
  -- the events of descriptors are owned by no request
  have hqueued : ∀ a ∈ xs ++ (due ++ fds), ∀ id, s.owner a = some id → a ∈ xs ++ due := by
    intro a ha id hao
    rw [← List.append_assoc, List.mem_append] at ha
    rcases ha with ha | ha
    · exact ha
    · exact absurd (h.fds_static a ha) (h.owner_dynamic a id hao).1
  by_cases hf : id ∈ s.fired.map Prod.fst
  · exact .inl ⟨hf, fun a ha hao => h.not_fired a (hqueued a ha id hao) id hao hf⟩
  · rcases h.accounted id hid with ⟨a, ha, hao⟩ | hf'
    · refine .inr ⟨hf, a, ?_, hao, fun b _ hb => h.owner_inj b a id hb hao⟩
      rw [← List.append_assoc]
      exact List.mem_append_left fds ha
    · exact absurd hf' hf

/-- `processTimeouts` moves exactly the expired timers. -/
theorem expires (h : QueueInv static s xs due fds) (hstep : LoopStep static s .processTimeouts t) :
    Ring t.events.links timerList (xs.filter fun a => decide ¬ s.events.deadline a < s.now) ∧
    Ring t.events.links pendingList
      ((due ++ fds) ++ xs.filter fun a => decide (s.events.deadline a < s.now)) := by
  cases hstep with
  | processTimeouts n fuel events hpc hev =>
    obtain ⟨m, rfl, hl⟩ := processTimeouts_spec h.lists hev
    have hdown : ∀ a b, s.events.Before a b → decide (s.events.Due s.now b) = true →
        decide (s.events.Due s.now a) = true := by
      intro a b hab hb
      exact decide_eq_true (lt_of_le_of_lt hab (of_decide_eq_true hb))
    obtain ⟨htake, hdrop⟩ := takeWhile_eq_filter hdown h.sorted
    rw [htake, hdrop] at hl
    refine ⟨?_, hl.pending⟩
    have hnot : ∀ a, (!decide (s.events.Due s.now a)) = decide ¬ s.events.deadline a < s.now :=
      fun a => (decide_not).symm
    simpa only [hnot] using hl.timer

/-- `ril_timer_add` returns unless the deadline overflows. -/
theorem add_returns (h : QueueInv static s xs due fds) {thread : Option ℕ} {a : Addr}
    {tv d : Timeval} (hfresh : s.Fresh static a) (htv : tv.Relative)
    (hidle : ∀ i, thread = some i → s.toWrite i = false) (hloop : thread = none → s.InCallback)
    (hd : timeradd s.now tv = some d) : ∃ t, LoopStep static s (.timerAdd thread a tv) t := by
  have hnotx : a ∉ xs ++ due := by
    intro hm
    obtain ⟨id, hid⟩ := h.owned a hm
    rw [hfresh.1] at hid
    cases hid
  have hx : a ∉ timerList :: xs := by
    simp only [List.mem_append, not_or] at hnotx
    simp [hfresh.2.2.1, hnotx]
  have hz : a ∉ pendingList :: (due ++ fds) := by
    simp only [List.mem_append, not_or] at hnotx
    have hf : a ∉ fds := fun hm => hfresh.2.1 (h.fds_static a hm)
    simp [hfresh.2.2.2, hnotx, hf]
  obtain ⟨events, hadd⟩ := rilTimerAdd_returns (h.lists.rilEventSet hx hz _ _ _) hx hd
  exact ⟨_, .timerAdd s thread a tv d _ events hfresh htv hidle hloop hd hadd⟩

/-- `firePending` calls the front event or returns. -/
theorem fire_goes_on (h : QueueInv static s xs due fds) {ev : Addr} (hpc : s.pc = .firing ev) :
    (∃ t, LoopStep static s .call t) ∨ ∃ t, LoopStep static s .firePendingReturns t := by
  have hfront : ev = (due ++ fds).headD pendingList := by
    simpa only [PcInv, hpc] using h.pc
  have hl := h.lists
  cases hz : due ++ fds with
  | nil =>
    rw [hz] at hfront
    obtain rfl : ev = pendingList := hfront
    exact .inr ⟨_, .firePendingReturns s hpc⟩
  | cons z zs =>
    rw [hz] at hfront hl
    obtain rfl : ev = z := hfront
    have hev : ev ≠ pendingList := fun e =>
      (List.nodup_cons.mp hl.pending.nodup).1 (e ▸ List.mem_cons_self)
    have hnext : s.events.links.next ev = some (zs.headD pendingList) :=
      Path.head_eq hl.pending.next.2
    obtain ⟨m, hrem, -⟩ := hl.removeFromList_pending
    exact .inl ⟨_, .call s ev _ _ hpc hev hnext hrem⟩

end QueueInv

/-- **The timer queue is correct in every run** of the event loop and the threads that add timers:
the list is sorted, nothing is called twice or before its time, nothing that was added gets lost,
and the functions return. A timer may be added by any thread and in a callback, between any two
steps of the loop. -/
theorem timer_queue_correct (static : StaticEvents) {s : LoopState}
    (h : (eventLoop static).Reachable s) : ∃ xs zs, TimerQueueCorrect static s xs zs := by
  obtain ⟨xs, due, fds, hinv⟩ := QueueInv.reachable h
  refine ⟨xs, due ++ fds, ?_⟩
  exact
    { timer_ring := hinv.lists.timer
      pending_ring := hinv.lists.pending
      sorted := hinv.sorted
      timers := fun a ha => by
        obtain ⟨id, hid⟩ := hinv.owned a (List.mem_append_left due ha)
        obtain ⟨hlt, hdl, -⟩ := hinv.owner_deadline a id hid
        exact ⟨id, hlt, hid, hdl⟩
      at_most_once := hinv.fired_nodup
      not_early := hinv.fired_late
      fired_or_queued := fun id hid => hinv.fired_or_queued hid
      in_order := (List.pairwise_append.mp hinv.batch_sorted).1
      expires := fun t ht => hinv.expires ht
      add_returns := fun thread a tv d hf htv hi hl hd => hinv.add_returns hf htv hi hl hd
      expire_returns := fun n hpc => by
        obtain ⟨events, hev⟩ := processTimeouts_returns s.now hinv.lists
        exact ⟨_, .processTimeouts s n _ events hpc hev⟩
      fire_goes_on := fun ev hpc => hinv.fire_goes_on hpc }

/-! ### A run -/

/-- The wakeup pipe at descriptor 5, watched through the event at address 3. -/
def wakeupStatic : StaticEvents where
  isFdEvent a := a = 3
  timerList_not := by decide
  pendingList_not := by decide

/-- The event layer when the loop starts, with the wakeup pipe watched. The event of the pipe is
static and stays watched. -/
def EventState.start : EventState :=
  let blank : EventState :=
    { links := ⟨fun _ => none, fun _ => none⟩
      event := fun _ => ⟨0, 0, false, ⟨0, 0⟩, .other 0⟩
      watchTable := fun _ => none
      readFds := fun _ => false
      nfds := 0 }
  (blank.rilEventInit.rilEventSet 3 5 true .processWakeupCallback).rilEventAdd 3

/-- The process when the loop starts, at time zero and without a request. -/
def LoopState.start : LoopState where
  events := EventState.start
  now := ⟨0, 0⟩
  pc := .copyFds
  rfds := fun _ => false
  wakeupBytes := 0
  toWrite := fun _ => false
  owner := fun _ => none
  issued := 0
  deadlines := fun _ => ⟨0, 0⟩
  fired := []
  batch := []

theorem EventState.start_watchTable :
    ∀ i, EventState.start.watchTable i = if i = 0 then some 3 else none := by
  decide

theorem LoopState.start_initial : LoopState.start.Initial wakeupStatic where
  lists :=
    ((rilEventInit_lists _).rilEventSet (by decide) (by decide) 5 true _).of_links
      (rilEventAdd_links _ 3)
  watchedOnce i j a hi hj := by
    rw [LoopState.start, EventState.start_watchTable] at hi hj
    split at hi <;> split at hj <;> simp_all
  watched i a ha := by
    rw [LoopState.start, EventState.start_watchTable] at ha
    split at ha
    · exact (Option.some.inj ha).symm
    · cases ha
  now := ⟨by decide, by decide⟩
  pc := rfl
  owner _ := rfl
  issued := rfl
  fired := rfl
  batch := rfl

/-- Three threads add timers of two seconds, one second and five seconds, whose events are at the
addresses 2, 4 and 6. After three seconds two of them have expired, and their callbacks run, that of
the second timer first. -/
theorem threeTimers_reachable : ∃ t, (eventLoop wakeupStatic).Reachable t ∧
    t.fired = [(1, ⟨3, 0⟩), (0, ⟨3, 0⟩)] ∧ t.issued = 3 ∧ Ring t.events.links timerList [6] := by
  have h₀ : (eventLoop wakeupStatic).Reachable _ := .init LoopState.start_initial
  have h₁ := h₀.step (.timerAdd _ (some 0) 2 ⟨2, 0⟩ ⟨2, 0⟩ 1 _
    ⟨rfl, by simp [wakeupStatic], by decide, by decide⟩ ⟨by decide, by decide, by decide⟩
    (fun _ _ => rfl) (fun h => by cases h) rfl rfl)
  -- the second timer comes before the first one, the third one behind both
  have h₂ := h₁.step (.timerAdd _ (some 1) 4 ⟨1, 0⟩ ⟨1, 0⟩ 2 _
    ⟨rfl, by simp [wakeupStatic], by decide, by decide⟩ ⟨by decide, by decide, by decide⟩
    (fun i hi => by cases hi; rfl) (fun h => by cases h) rfl rfl)
  have h₃ := h₂.step (.timerAdd _ (some 2) 6 ⟨5, 0⟩ ⟨5, 0⟩ 3 _
    ⟨rfl, by simp [wakeupStatic], by decide, by decide⟩ ⟨by decide, by decide, by decide⟩
    (fun i hi => by cases hi; rfl) (fun h => by cases h) rfl rfl)
  have h₄ := h₃.step (.tick _ ⟨3, 0⟩ (le_of_lt (Timeval.lt_iff.mpr (by decide)))
    ⟨by decide, by decide⟩)
  have h₅ := h₄.step (.copyFds _ rfl)
  have h₆ := h₅.step (.calcHead _ _ rfl rfl)
  have h₇ := h₆.step (.calcNow _ _ rfl)
  have h₈ := h₇.step (.select _ _ _ rfl)
  -- `select` returns with no descriptor ready
  have h₉ := h₈.step (.selectReturns _ _ _ _ (fun _ => false) 0 rfl nofun (by decide))
  have h₁₀ := h₉.step (.processTimeouts _ _ 3 _ rfl rfl)
  have h₁₁ := h₁₀.step (.processReadReadies _ _ _ _ rfl rfl rfl)
  have h₁₂ := h₁₁.step (.call _ _ _ _ rfl (by decide) rfl rfl)
  have h₁₃ := h₁₂.step (.finish _ _ _ rfl nofun)
  have h₁₄ := h₁₃.step (.call _ _ _ _ rfl (by decide) rfl rfl)
  exact ⟨_, h₁₄, rfl, rfl, ⟨rfl, rfl⟩, ⟨rfl, rfl⟩, by decide⟩

theorem timer_queue_correct_threeTimers :
    ∃ t xs zs, t.fired = [(1, ⟨3, 0⟩), (0, ⟨3, 0⟩)] ∧ t.issued = 3 ∧
      Ring t.events.links timerList [6] ∧ TimerQueueCorrect wakeupStatic t xs zs := by
  obtain ⟨t, hreach, hfired, hissued, hring⟩ := threeTimers_reachable
  obtain ⟨xs, zs, h⟩ := timer_queue_correct wakeupStatic hreach
  exact ⟨t, xs, zs, hfired, hissued, hring, h⟩

end Ril

end BlueCommon
