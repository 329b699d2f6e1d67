import BlueCommon.Ril.Event

/-!
# The watch table

A watched descriptor is recorded four times: in `watch_table`, in the `index` of its event, in
`readFds` and in `nfds`.

* `WatchTable`: the four agree. `WatchTable.rilEventAdd`, `WatchTable.removeWatch`,
  `WatchTable.rilEventDel`: the functions that change the table keep it.
* `processReadReadies_queues`: `processReadReadies` queues the events of the ready descriptors in
  the order of the table, as far as its counter goes, and forgets those that are not persistent.
-/

namespace BlueCommon

namespace Ril

open LinkedList

/-- `FD_SETSIZE`, the number of descriptors in a set for `select`. -/
def fdSetsize : ℤ := 1024

namespace EventState

/-- The event is in the watch table, in whichever entry. -/
def Watched (s : EventState) (a : Addr) : Prop := ∃ i, s.watchTable i = some a

instance (s : EventState) (a : Addr) : Decidable (s.Watched a) :=
  inferInstanceAs (Decidable (∃ i, s.watchTable i = some a))

/-- The descriptor of an event. -/
abbrev fd (s : EventState) (a : Addr) : ℤ := (s.event a).fd

/-- `nfds` is the largest watched descriptor plus one, or 1 when no descriptor is watched. This is
how it is computed when a watched event is removed. -/
def NfdsExact (s : EventState) : Prop :=
  (∃ a, s.Watched a ∧ s.nfds = s.fd a + 1 ∧ ∀ b, s.Watched b → s.fd b ≤ s.fd a) ∨
    (∀ a, ¬ s.Watched a) ∧ s.nfds = 1

/-- **The watch table, the indices, the descriptor set and the bound agree.** An event that is not
watched has the index -1, the set has the descriptors of the watched events, no two of which share
one, and `nfds` is past all of them. -/
structure WatchTable (s : EventState) : Prop where
  /-- The event of an entry knows its index. -/
  index : ∀ i a, s.watchTable i = some a → (s.event a).index = i.val
  /-- An event that is not watched has the index -1. -/
  unwatched : ∀ a, a ≠ timerList → a ≠ pendingList → ¬ s.Watched a → (s.event a).index = -1
  /-- The sentinels are not watched. -/
  sentinels : ¬ s.Watched timerList ∧ ¬ s.Watched pendingList
  /-- A descriptor is in the set exactly when it is watched. -/
  readFds : ∀ fd, s.readFds fd = true ↔ ∃ a, s.Watched a ∧ s.fd a = fd
  /-- The watched descriptors are valid and distinct. -/
  valid : ∀ a, s.Watched a → 0 ≤ s.fd a ∧ s.fd a < fdSetsize
  distinct : ∀ a b, s.Watched a → s.Watched b → s.fd a = s.fd b → a = b
  /-- `nfds` is 0 only before the first descriptor is watched. -/
  nfds : s.NfdsExact ∨ (∀ a, ¬ s.Watched a) ∧ s.nfds = 0

variable {s t : EventState} {xs zs : List Addr} {ev : Addr} {i : Fin maxFdEvents}

/-! ### The largest descriptor -/

/-- The loop of `removeWatch` finds the largest descriptor of the entries it has seen. By induction
on the entries to come, for every number that was found before: it is a bound, and it is one of
them. -/
theorem foldl_maxFd (s : EventState) (is : List (Fin maxFdEvents)) (n : ℤ) :
    n ≤ is.foldl (fun n i => match s.watchTable i with
      | some rev => if n < (s.event rev).fd then (s.event rev).fd else n
      | none => n) n ∧
    (∀ i ∈ is, ∀ a, s.watchTable i = some a → s.fd a ≤ is.foldl (fun n i =>
      match s.watchTable i with
      | some rev => if n < (s.event rev).fd then (s.event rev).fd else n
      | none => n) n) ∧
    (is.foldl (fun n i => match s.watchTable i with
      | some rev => if n < (s.event rev).fd then (s.event rev).fd else n
      | none => n) n = n ∨ ∃ i ∈ is, ∃ a, s.watchTable i = some a ∧
        is.foldl (fun n i => match s.watchTable i with
          | some rev => if n < (s.event rev).fd then (s.event rev).fd else n
          | none => n) n = s.fd a) := by
  -- induction on the entries to come, for every number that was found before
  induction is generalizing n with
  | nil => exact ⟨le_rfl, fun i hi => absurd hi List.not_mem_nil, .inl rfl⟩
  | cons j is ih =>
    rw [List.foldl_cons]
    cases hj : s.watchTable j with
    -- an empty entry changes nothing
    | none =>
      obtain ⟨hle, hall, hmax⟩ := ih n
      refine ⟨hle, fun i hi a ha => ?_, hmax.imp_right ?_⟩
      · rcases List.mem_cons.mp hi with rfl | hi
        · rw [hj] at ha
          cases ha
        · exact hall i hi a ha
      · rintro ⟨i, hi, a, ha, heq⟩
        exact ⟨i, List.mem_cons_of_mem _ hi, a, ha, heq⟩
    | some rev =>
      obtain ⟨hle, hall, hmax⟩ := ih (if n < (s.event rev).fd then (s.event rev).fd else n)
      -- the step takes the larger one
      have hn : n ≤ (if n < (s.event rev).fd then (s.event rev).fd else n) ∧
          (s.event rev).fd ≤ (if n < (s.event rev).fd then (s.event rev).fd else n) := by
        split <;> omega
      refine ⟨hn.1.trans hle, fun i hi a ha => ?_, ?_⟩
      · -- the entry is the new one, or one of the rest
        rcases List.mem_cons.mp hi with rfl | hi
        · obtain rfl : rev = a := Option.some.inj (hj.symm.trans ha)
          exact hn.2.trans hle
        · exact hall i hi a ha
      · rcases hmax with heq | ⟨i, hi, a, ha, heq⟩
        · -- the number comes from this entry if it was larger
          by_cases hlt : n < (s.event rev).fd
          · refine .inr ⟨j, List.mem_cons_self, rev, hj, heq.trans ?_⟩
            rw [if_pos hlt]
          · refine .inl (heq.trans ?_)
            rw [if_neg hlt]
        · exact .inr ⟨i, List.mem_cons_of_mem _ hi, a, ha, heq⟩

/-- `nfds = n + 1` makes the bound exact. -/
theorem nfdsExact_of_max (hvalid : ∀ a, s.Watched a → 0 ≤ s.fd a)
    (h : s.nfds = s.maxWatchedFd + 1) : s.NfdsExact := by
  -- the loop over the table ends with the largest number, or with 0
  obtain ⟨-, hall, hmax⟩ := foldl_maxFd s (List.finRange maxFdEvents) 0
  have hle : ∀ b, s.Watched b → s.fd b ≤ s.maxWatchedFd :=
    fun b ⟨i, hi⟩ => hall i (List.mem_finRange i) b hi
  rcases hmax with hzero | ⟨i, -, a, ha, heq⟩
  · -- no descriptor is above 0
    have hzero : s.maxWatchedFd = 0 := hzero
    rw [hzero] at h hle
    by_cases hempty : ∃ a, s.Watched a
    · -- the only descriptor is 0
      obtain ⟨a, ha⟩ := hempty
      have hfd : s.fd a = 0 := le_antisymm (hle a ha) (hvalid a ha)
      exact .inl ⟨a, ha, by omega, fun b hb => by
        rw [hfd]
        exact hle b hb⟩
    · -- nothing is watched
      exact .inr ⟨fun a ha => hempty ⟨a, ha⟩, h⟩
  · -- it is the number of one of the watched events
    have heq : s.maxWatchedFd = s.fd a := heq
    rw [heq] at h hle
    exact .inl ⟨a, ⟨i, ha⟩, h, hle⟩

/-! ### The functions that change the table -/

/-- The table with the event at an entry. -/
def addedAt (s : EventState) (ev : Addr) (i : Fin maxFdEvents) : EventState :=
  { s with
    watchTable := Function.update s.watchTable i (some ev)
    event := Function.update s.event ev { s.event ev with index := i.val }
    readFds := Function.update s.readFds (s.fd ev) true
    nfds := if s.nfds ≤ s.fd ev then s.fd ev + 1 else s.nfds }

namespace WatchTable

/-- The links and the other fields of the events do not matter. Each part speaks of the events that
are watched, and these have the same slots and descriptors. -/
theorem of_eq (h : s.WatchTable) (htable : t.watchTable = s.watchTable)
    (hindex : ∀ a, (t.event a).index = (s.event a).index)
    (hfd : ∀ a, s.Watched a → t.fd a = s.fd a) (hread : t.readFds = s.readFds)
    (hnfds : t.nfds = s.nfds) : t.WatchTable := by
  -- the same table watches the same events
  have hw : ∀ a, t.Watched a ↔ s.Watched a := fun a => by
    unfold Watched
    rw [htable]
  -- each part speaks of the events that are watched, and their numbers are the same
  exact {
    index := fun i a ha => by
      rw [hindex]
      exact h.index i a (htable ▸ ha)
    unwatched := fun a hx hz ha => by
      rw [hindex]
      exact h.unwatched a hx hz fun hs => ha ((hw a).mpr hs)
    sentinels := by
      rw [hw, hw]
      exact h.sentinels
    readFds := fun fd => by
      rw [hread, h.readFds]
      refine exists_congr fun a => ?_
      rw [hw]
      exact and_congr_right fun ha => by rw [hfd a ha]
    valid := fun a ha => by
      rw [hfd a ((hw a).mp ha)]
      exact h.valid a ((hw a).mp ha)
    distinct := fun a b ha hb heq => by
      rw [hfd a ((hw a).mp ha), hfd b ((hw b).mp hb)] at heq
      exact h.distinct a b ((hw a).mp ha) ((hw b).mp hb) heq
    nfds := by
      -- the largest number is that of the same event
      rcases h.nfds with (⟨a, ha, hn, hmax⟩ | ⟨hempty, hn⟩) | ⟨hempty, hn⟩
      · refine .inl (.inl ⟨a, (hw a).mpr ha, ?_, fun b hb => ?_⟩)
        · rw [hnfds, hn, hfd a ha]
        · rw [hfd a ha, hfd b ((hw b).mp hb)]
          exact hmax b ((hw b).mp hb)
      · exact .inl (.inr ⟨fun a ha => hempty a ((hw a).mp ha), hnfds.trans hn⟩)
      · exact .inr ⟨fun a ha => hempty a ((hw a).mp ha), hnfds.trans hn⟩ }

/-- `nfds` is above every watched descriptor. -/
theorem lt_nfds (h : s.WatchTable) {a : Addr} (ha : s.Watched a) : s.fd a < s.nfds := by
  rcases h.nfds with (⟨b, -, hn, hmax⟩ | ⟨hempty, -⟩) | ⟨hempty, -⟩
  · have := hmax a ha
    omega
  · exact absurd ha (hempty a)
  · exact absurd ha (hempty a)

/-- While something is watched the bound is exact. -/
theorem nfdsExact (h : s.WatchTable) {a : Addr} (ha : s.Watched a) : s.NfdsExact :=
  h.nfds.resolve_right fun hempty => hempty.1 a ha

/-- No event is watched twice. -/
theorem watchedOnce (h : s.WatchTable) : s.WatchedOnce := fun i j a hi hj => by
  have heq : (i.val : ℤ) = j.val := (h.index i a hi).symm.trans (h.index j a hj)
  exact Fin.ext (by omega)

theorem removeWatch_fd (a : Addr) : (s.removeWatch ev i).fd a = s.fd a := by
  unfold fd
  rw [removeWatch_event]
  rcases eq_or_ne a ev with rfl | hne
  · rw [Function.update_self]
  · rw [Function.update_of_ne hne]

theorem removeWatch_readFds :
    (s.removeWatch ev i).readFds = Function.update s.readFds (s.fd ev) false := by
  unfold EventState.removeWatch
  simp only [Function.update_self]
  split <;> rfl

theorem removeWatch_nfds :
    (s.removeWatch ev i).nfds = if s.fd ev + 1 = s.nfds then
      (s.removeWatch ev i).maxWatchedFd + 1 else s.nfds := by
  unfold EventState.removeWatch
  simp only [Function.update_self]
  split
  · rfl
  · rfl

/-- The event leaves the table, and no other one does. -/
theorem removeWatch_watched (h : s.WatchTable) (hi : s.watchTable i = some ev) (a : Addr) :
    (s.removeWatch ev i).Watched a ↔ s.Watched a ∧ a ≠ ev := by
  -- to be watched is to stand in some entry
  unfold Watched
  rw [removeWatch_watchTable]
  constructor
  · rintro ⟨j, hj⟩
    -- the entry is not the one that was cleared
    have hji : j ≠ i := by
      rintro rfl
      rw [Function.update_self] at hj
      cases hj
    rw [Function.update_of_ne hji] at hj
    refine ⟨⟨j, hj⟩, ?_⟩
    -- an event stands in one entry only
    rintro rfl
    exact hji (h.watchedOnce j i _ hj hi)
  · rintro ⟨⟨j, hj⟩, hne⟩
    -- another event stands in another entry
    have hji : j ≠ i := by
      rintro rfl
      exact hne (Option.some.inj (hj.symm.trans hi))
    refine ⟨j, ?_⟩
    rw [Function.update_of_ne hji]
    exact hj

/-- The bound is exact afterwards, also where it was not before. -/
theorem removeWatch_nfdsExact (h : s.WatchTable) (hi : s.watchTable i = some ev) :
    (s.removeWatch ev i).NfdsExact := by
  have hwatched := h.removeWatch_watched hi
  -- the number is computed anew only if the event had the largest one
  by_cases hmax : s.fd ev + 1 = s.nfds
  · refine nfdsExact_of_max (fun a ha => ?_) (removeWatch_nfds.trans (if_pos hmax))
    rw [removeWatch_fd]
    exact (h.valid a ((hwatched a).mp ha).1).1
  · -- the largest descriptor is another one, and stays
    have hnfds : (s.removeWatch ev i).nfds = s.nfds := removeWatch_nfds.trans (if_neg hmax)
    rcases h.nfdsExact ⟨i, hi⟩ with ⟨a, ha, hn, hall⟩ | ⟨hempty, -⟩
    · have hne : a ≠ ev := by
        rintro rfl
        exact hmax hn.symm
      refine .inl ⟨a, (hwatched a).mpr ⟨ha, hne⟩, ?_, fun b hb => ?_⟩
      · rw [hnfds, hn, removeWatch_fd]
      · rw [removeWatch_fd, removeWatch_fd]
        exact hall b ((hwatched b).mp hb).1
    · exact absurd ⟨i, hi⟩ (hempty ev)

/-- The table without an event. Its slot and its index are cleared, its bit is cleared, and each
part speaks of one event less. -/
theorem removeWatch_table (h : s.WatchTable) (hi : s.watchTable i = some ev) :
    (s.removeWatch ev i).WatchTable := by
  have hwatched := h.removeWatch_watched hi
  -- each part speaks of one event less
  exact {
    index := fun j a ha => by
      have hw := ((hwatched a).mp ⟨j, ha⟩).2
      rw [removeWatch_event, Function.update_of_ne hw]
      rw [removeWatch_watchTable] at ha
      -- the slot that was cleared holds no event
      have hji : j ≠ i := by
        rintro rfl
        rw [Function.update_self] at ha
        cases ha
      rw [Function.update_of_ne hji] at ha
      exact h.index j a ha
    unwatched := fun a hx hz ha => by
      rw [removeWatch_event]
      -- the index of the event that is gone is cleared, those of the others are not
      rcases eq_or_ne a ev with rfl | hne
      · rw [Function.update_self]
      · rw [Function.update_of_ne hne]
        exact h.unwatched a hx hz fun hs => ha ((hwatched a).mpr ⟨hs, hne⟩)
    sentinels := ⟨fun hw => h.sentinels.1 ((hwatched _).mp hw).1,
      fun hw => h.sentinels.2 ((hwatched _).mp hw).1⟩
    readFds := fun fd => by
      rw [removeWatch_readFds]
      rcases eq_or_ne fd (s.fd ev) with rfl | hne
      · -- no other event has the descriptor that is cleared
        rw [Function.update_self]
        refine iff_of_false Bool.false_ne_true ?_
        rintro ⟨a, ha, heq⟩
        rw [removeWatch_fd] at heq
        obtain ⟨hw, hne⟩ := (hwatched a).mp ha
        exact hne (h.distinct a ev hw ⟨i, hi⟩ heq)
      · -- any other descriptor is set as before
        rw [Function.update_of_ne hne, h.readFds]
        refine exists_congr fun a => ?_
        rw [hwatched, removeWatch_fd]
        refine ⟨fun ⟨ha, heq⟩ => ⟨⟨ha, ?_⟩, heq⟩, fun ⟨ha, heq⟩ => ⟨ha.1, heq⟩⟩
        rintro rfl
        exact hne heq.symm
    valid := fun a ha => by
      rw [removeWatch_fd]
      exact h.valid a ((hwatched a).mp ha).1
    distinct := fun a b ha hb heq => by
      rw [removeWatch_fd, removeWatch_fd] at heq
      exact h.distinct a b ((hwatched a).mp ha).1 ((hwatched b).mp hb).1 heq
    nfds := .inl (h.removeWatch_nfdsExact hi) }

/-- `removeWatch` of the event at an entry. -/
theorem removeWatch (h : s.WatchTable) (hi : s.watchTable i = some ev) :
    (s.removeWatch ev i).WatchTable ∧ (s.removeWatch ev i).NfdsExact ∧
      (∀ a, (s.removeWatch ev i).Watched a ↔ s.Watched a ∧ a ≠ ev) :=
  ⟨h.removeWatch_table hi, h.removeWatch_nfdsExact hi, h.removeWatch_watched hi⟩

/-- `ril_event_del` of a watched event. -/
theorem rilEventDel_watched (h : s.WatchTable) (hev : s.Watched ev) :
    ∃ i, s.watchTable i = some ev ∧ s.rilEventDel ev = s.removeWatch ev i := by
  obtain ⟨i, hi⟩ := hev
  have hindex := h.index i ev hi
  have hvalid : ¬ ((s.event ev).index < 0 ∨ (s.event ev).index ≥ maxFdEvents) := by
    rw [hindex]
    have := i.isLt
    omega
  refine ⟨i, hi, ?_⟩
  unfold rilEventDel
  rw [dif_neg hvalid]
  congr 1
  exact Fin.ext (by simp [hindex])

/-- `ril_event_del` of an event that is not watched does nothing. -/
theorem rilEventDel_unwatched (h : s.WatchTable) (hx : ev ≠ timerList) (hz : ev ≠ pendingList)
    (hev : ¬ s.Watched ev) : s.rilEventDel ev = s := by
  unfold rilEventDel
  rw [dif_pos]
  rw [h.unwatched ev hx hz hev]
  exact .inl (by decide)

/-- The first free entry. -/
theorem rilEventAdd_cases (s : EventState) (ev : Addr) :
    ((∀ i, s.watchTable i ≠ none) ∧ s.rilEventAdd ev = s) ∨
      ∃ i, s.watchTable i = none ∧ s.rilEventAdd ev = s.addedAt ev i := by
  unfold rilEventAdd
  split
  · next hnone =>
    refine .inl ⟨fun i hi => ?_, rfl⟩
    have := List.find?_eq_none.mp hnone i (List.mem_finRange i)
    rw [hi] at this
    exact this rfl
  · next i hi =>
    refine .inr ⟨i, ?_, rfl⟩
    have := List.find?_some hi
    exact Option.isNone_iff_eq_none.mp this

theorem addedAt_watchTable :
    (s.addedAt ev i).watchTable = Function.update s.watchTable i (some ev) := rfl

theorem addedAt_event :
    (s.addedAt ev i).event = Function.update s.event ev { s.event ev with index := i.val } := rfl

theorem addedAt_watched (hi : s.watchTable i = none) (a : Addr) :
    (s.addedAt ev i).Watched a ↔ s.Watched a ∨ a = ev := by
  -- to be watched is to stand in some entry
  constructor
  · rintro ⟨j, hj⟩
    rw [addedAt_watchTable] at hj
    rcases eq_or_ne j i with rfl | hji
    · rw [Function.update_self] at hj
      exact .inr (Option.some.inj hj).symm
    · rw [Function.update_of_ne hji] at hj
      exact .inl ⟨j, hj⟩
  · rintro (⟨j, hj⟩ | rfl)
    · -- the entry that is written was free
      have hji : j ≠ i := by
        rintro rfl
        rw [hi] at hj
        cases hj
      refine ⟨j, ?_⟩
      rw [addedAt_watchTable, Function.update_of_ne hji]
      exact hj
    · refine ⟨i, ?_⟩
      rw [addedAt_watchTable, Function.update_self]

theorem addedAt_fd (a : Addr) : (s.addedAt ev i).fd a = s.fd a := by
  unfold fd
  rw [addedAt_event]
  rcases eq_or_ne a ev with rfl | hne
  · rw [Function.update_self]
  · rw [Function.update_of_ne hne]

/-- The bound is the larger of the old one and the one for the new descriptor. If it is kept, one of
the events that were there reaches it, or no event was watched and the new one has the descriptor
0. -/
theorem addedAt_nfdsExact (h : s.WatchTable) (hi : s.watchTable i = none)
    (hvalid : 0 ≤ s.fd ev) : (s.addedAt ev i).NfdsExact := by
  have hwatched (a : Addr) : (s.addedAt ev i).Watched a ↔ s.Watched a ∨ a = ev :=
    addedAt_watched hi a
  refine .inl ?_
  by_cases hle : s.nfds ≤ s.fd ev
  · -- the new descriptor is the largest
    refine ⟨ev, (hwatched ev).mpr (.inr rfl), (if_pos hle).trans ?_, fun b hb => ?_⟩
    · rw [addedAt_fd]
    · rw [addedAt_fd, addedAt_fd]
      -- all others are below the old bound
      rcases (hwatched b).mp hb with hs | rfl
      · exact le_of_lt ((h.lt_nfds hs).trans_le hle)
      · exact le_rfl
  · -- otherwise the bound is kept
    have hn : (s.addedAt ev i).nfds = s.nfds := if_neg hle
    rcases h.nfds with (⟨a, ha, hna, hall⟩ | ⟨hempty, hna⟩) | ⟨hempty, hna⟩
    · -- the largest one is one of those that were there
      refine ⟨a, (hwatched a).mpr (.inl ha), by rw [hn, hna, addedAt_fd], fun b hb => ?_⟩
      rw [addedAt_fd, addedAt_fd]
      rcases (hwatched b).mp hb with hs | rfl
      · exact hall b hs
      · omega
    · -- only the descriptor 0 is below 1
      refine ⟨ev, (hwatched ev).mpr (.inr rfl), ?_, fun b hb => ?_⟩
      · rw [hn, hna, addedAt_fd]
        omega
      · rcases (hwatched b).mp hb with hs | rfl
        · exact absurd hs (hempty b)
        · exact le_rfl
    · -- a bound of 0 is below every descriptor
      omega

/-- The table with one event more. The bit that is set is that of its descriptor, which no other
event that is watched has. -/
theorem addedAt_table (h : s.WatchTable) (hi : s.watchTable i = none) (hx : ev ≠ timerList)
    (hz : ev ≠ pendingList) (hev : ¬ s.Watched ev) (hvalid : 0 ≤ s.fd ev ∧ s.fd ev < fdSetsize)
    (hdistinct : ∀ a, s.Watched a → s.fd a ≠ s.fd ev) : (s.addedAt ev i).WatchTable := by
  have hwatched (a : Addr) : (s.addedAt ev i).Watched a ↔ s.Watched a ∨ a = ev :=
    addedAt_watched hi a
  -- each part speaks of one event more
  exact {
    index := fun j a ha => by
      rw [addedAt_watchTable] at ha
      rw [addedAt_event]
      rcases eq_or_ne j i with rfl | hji
      · -- the descriptor that is set is that of the new event
        rw [Function.update_self] at ha
        rw [Option.some.inj ha, Function.update_self]
      · -- the other entries are those of other events
        rw [Function.update_of_ne hji] at ha
        have hne : a ≠ ev := by
          rintro rfl
          exact hev ⟨j, ha⟩
        rw [Function.update_of_ne hne]
        exact h.index j a ha
    unwatched := fun a hax haz ha => by
      have hne : a ≠ ev := fun e => ha ((hwatched a).mpr (.inr e))
      rw [addedAt_event, Function.update_of_ne hne]
      exact h.unwatched a hax haz fun hs => ha ((hwatched a).mpr (.inl hs))
    sentinels := by
      rw [hwatched, hwatched]
      exact ⟨fun hw => hw.elim h.sentinels.1 fun e => hx e.symm,
        fun hw => hw.elim h.sentinels.2 fun e => hz e.symm⟩
    readFds := fun fd => by
      show Function.update s.readFds (s.fd ev) true fd = true ↔ _
      -- the bit that is set is that of the new event
      rcases eq_or_ne fd (s.fd ev) with rfl | hne
      · rw [Function.update_self]
        exact iff_of_true rfl ⟨ev, (hwatched ev).mpr (.inr rfl), addedAt_fd ev⟩
      · rw [Function.update_of_ne hne, h.readFds]
        refine exists_congr fun a => ?_
        rw [hwatched, addedAt_fd]
        refine ⟨fun ⟨ha, heq⟩ => ⟨.inl ha, heq⟩, fun ⟨ha, heq⟩ => ⟨ha.resolve_right ?_, heq⟩⟩
        rintro rfl
        exact hne heq.symm
    valid := fun a ha => by
      rw [addedAt_fd]
      rcases (hwatched a).mp ha with hs | rfl
      · exact h.valid a hs
      · exact hvalid
    distinct := fun a b ha hb heq => by
      rw [addedAt_fd, addedAt_fd] at heq
      -- two of the old events, or the new one and an old one
      rcases (hwatched a).mp ha with hsa | rfl
      · rcases (hwatched b).mp hb with hsb | rfl
        · exact h.distinct a b hsa hsb heq
        · exact absurd heq (hdistinct a hsa)
      · rcases (hwatched b).mp hb with hsb | rfl
        · exact absurd heq.symm (hdistinct b hsb)
        · rfl
    nfds := .inl (h.addedAt_nfdsExact hi hvalid.1) }

/-- `ril_event_add` of an event with a descriptor of its own: it is watched if an entry is free. -/
theorem rilEventAdd (h : s.WatchTable) (hx : ev ≠ timerList) (hz : ev ≠ pendingList)
    (hev : ¬ s.Watched ev) (hvalid : 0 ≤ s.fd ev ∧ s.fd ev < fdSetsize)
    (hdistinct : ∀ a, s.Watched a → s.fd a ≠ s.fd ev) (hfree : ∃ i, s.watchTable i = none) :
    (s.rilEventAdd ev).WatchTable ∧
      ∀ a, (s.rilEventAdd ev).Watched a ↔ s.Watched a ∨ a = ev := by
  rcases rilEventAdd_cases s ev with ⟨hfull, -⟩ | ⟨i, hi, hadd⟩
  · obtain ⟨i, hi⟩ := hfree
    exact absurd hi (hfull i)
  · rw [hadd]
    exact ⟨h.addedAt_table hi hx hz hev hvalid hdistinct, addedAt_watched hi⟩

end WatchTable

/-! ### Ready descriptors -/

/-- The watched events of the given entries whose descriptor is ready, in the order of the table. -/
def readyAmong (rfds : ℤ → Bool) (is : List (Fin maxFdEvents)) (s : EventState) : List Addr :=
  is.filterMap fun i => (s.watchTable i).filter fun a => rfds (s.fd a)

/-- The watched events whose descriptor is ready, in the order of the table. -/
def readyEvents (rfds : ℤ → Bool) (s : EventState) : List Addr :=
  s.readyAmong rfds (List.finRange maxFdEvents)

theorem mem_readyAmong {rfds : ℤ → Bool} {is : List (Fin maxFdEvents)} {a : Addr} :
    a ∈ s.readyAmong rfds is ↔ ∃ i ∈ is, s.watchTable i = some a ∧ rfds (s.fd a) = true := by
  simp only [readyAmong, List.mem_filterMap, Option.filter_eq_some_iff]

theorem mem_readyEvents {rfds : ℤ → Bool} {a : Addr} :
    a ∈ s.readyEvents rfds ↔ s.Watched a ∧ rfds (s.fd a) = true := by
  unfold readyEvents
  rw [mem_readyAmong]
  constructor
  · rintro ⟨i, -, hi, hready⟩
    exact ⟨⟨i, hi⟩, hready⟩
  · rintro ⟨⟨i, hi⟩, hready⟩
    exact ⟨i, List.mem_finRange i, hi, hready⟩

theorem readyAmong_nodup (honce : s.WatchedOnce) {rfds : ℤ → Bool} {is : List (Fin maxFdEvents)}
    (his : is.Nodup) : (s.readyAmong rfds is).Nodup := by
  refine List.Nodup.filterMap (fun i j a hi hj => ?_) his
  exact honce i j a (Option.filter_eq_some_iff.mp hi).1 (Option.filter_eq_some_iff.mp hj).1

/-- When the counter is the number of ready descriptors the loop meets all of them. -/
theorem readyEvents_length_le (h : s.WatchTable) (rfds : Finset ℤ) :
    (s.readyEvents fun fd => decide (fd ∈ rfds)).length ≤ rfds.card := by
  have hnodup : ((s.readyEvents fun fd => decide (fd ∈ rfds)).map s.fd).Nodup := by
    refine List.Nodup.map_on (fun a ha b hb heq => ?_)
      (readyAmong_nodup h.watchedOnce (List.nodup_finRange _))
    exact h.distinct a b (mem_readyEvents.mp ha).1 (mem_readyEvents.mp hb).1 heq
  calc (s.readyEvents fun fd => decide (fd ∈ rfds)).length
      = ((s.readyEvents fun fd => decide (fd ∈ rfds)).map s.fd).toFinset.card := by
        rw [List.toFinset_card_of_nodup hnodup, List.length_map]
    _ ≤ rfds.card := by
        refine Finset.card_le_card fun fd hfd => ?_
        obtain ⟨a, ha, rfl⟩ := List.mem_map.mp (List.mem_toFinset.mp hfd)
        exact of_decide_eq_true (mem_readyEvents.mp ha).2

/-- The ready event at an entry has been queued; it is forgotten if it is not persistent. -/
structure ReadyQueued (s : EventState) (rev : Addr) (i : Fin maxFdEvents) (m : Links Addr)
    (t : EventState) : Prop where
  table : t.WatchTable
  watches : Watches s t
  links : t.links = m
  watched : ∀ a, t.Watched a ↔ s.Watched a ∧ (a = rev → (s.event a).persist = true)
  other : ∀ j, j ≠ i → t.watchTable j = s.watchTable j
  nfdsExact : s.NfdsExact → t.NfdsExact

/-- An event that is ready is queued, and is watched from then on only if it is persistent. The
links of the queue do not concern the table. -/
theorem WatchTable.readyQueued (hw : s.WatchTable) {rev : Addr} (hrev : s.watchTable i = some rev)
    (m : Links Addr) :
    ReadyQueued s rev i m (if (s.event rev).persist = false then
      { s with links := m }.removeWatch rev i else { s with links := m }) := by
  -- the links of the queue do not concern the table
  have hw₁ : { s with links := m }.WatchTable :=
    hw.of_eq rfl (fun _ => rfl) (fun _ _ => rfl) rfl rfl
  -- a persistent event stays watched
  by_cases hp : (s.event rev).persist = false
  · rw [if_pos hp]
    obtain ⟨hwt, hexact, hwatched⟩ := hw₁.removeWatch hrev
    refine ⟨hwt, (Watches.links s m).trans (removeWatch_watches hrev hp), removeWatch_links i,
      fun a => ?_, fun j hj => ?_, fun _ => hexact⟩
    · -- a watched event is another one, or it is persistent: it is not
      rw [hwatched]
      refine and_congr_right fun _ => ⟨fun hne heq => absurd heq hne, fun himp heq => ?_⟩
      subst heq
      exact absurd ((himp rfl).symm.trans hp) (by decide)
    · -- only the entry of the event is cleared
      rw [removeWatch_watchTable]
      exact Function.update_of_ne hj _ _
  · rw [if_neg hp]
    -- the table stays as it is, and the event is persistent
    refine ⟨hw₁, Watches.links s m, rfl, fun a => ?_, fun _ _ => rfl, id⟩
    refine ⟨fun ha => ⟨ha, fun heq => ?_⟩, And.left⟩
    rw [heq]
    exact Bool.eq_true_of_not_eq_false hp

/-- The events of the other entries are on no list yet. -/
theorem ReadyQueued.free {rev : Addr} {m : Links Addr} {is : List (Fin maxFdEvents)}
    (h : ReadyQueued s rev i m t) (hw : s.WatchTable) (hrev : s.watchTable i = some rev)
    (hi : i ∉ is)
    (hfree : ∀ j ∈ is, ∀ a, s.watchTable j = some a → a ∉ timerList :: xs ∧ a ∉ pendingList :: zs) :
    ∀ j ∈ is, ∀ a, t.watchTable j = some a →
      a ∉ timerList :: xs ∧ a ∉ pendingList :: (zs ++ [rev]) := by
  intro j hj a ha
  -- no entry that is still to come is this one
  have hji : j ≠ i := fun e => hi (e ▸ hj)
  rw [h.other j hji] at ha
  obtain ⟨hax, haz⟩ := hfree j hj a ha
  -- an event stands in one entry only
  have har : a ≠ rev := by
    rintro rfl
    exact hji (hw.watchedOnce j i a ha hrev)
  refine ⟨hax, fun hmem => haz ?_⟩
  simp only [List.mem_cons, List.mem_append, List.not_mem_nil, or_false] at hmem ⊢
  rcases hmem with h' | h' | h'
  · exact .inl h'
  · exact .inr h'
  · exact absurd h' har

/-- They are as ready as they were. -/
theorem ReadyQueued.readyAmong {rev : Addr} {m : Links Addr} {is : List (Fin maxFdEvents)}
    (h : ReadyQueued s rev i m t) (rfds : ℤ → Bool) (hi : i ∉ is) :
    t.readyAmong rfds is = s.readyAmong rfds is := by
  refine List.filterMap_congr fun j hj => ?_
  rw [h.other j fun e => hi (e ▸ hj)]
  congr 1
  funext a
  obtain ⟨k, hk⟩ := h.watches.event a
  rw [show t.fd a = s.fd a by
    unfold fd
    rw [hk]]

/-- The loop of `processReadReadies` queues ready events until its counter is used up. The induction
is on the entries to come, whose events are in no list; an event that is queued is no longer among
them. -/
theorem processReadReadiesLoop_queues (rfds : ℤ → Bool) {is : List (Fin maxFdEvents)} {n : ℤ}
    (h : Lists s xs zs) (hw : s.WatchTable) (his : is.Nodup)
    (hfree : ∀ i ∈ is, ∀ a, s.watchTable i = some a → a ∉ timerList :: xs ∧ a ∉ pendingList :: zs) :
    ∃ t, s.processReadReadiesLoop rfds is n = some t ∧
      Lists t xs (zs ++ (s.readyAmong rfds is).take n.toNat) ∧ t.WatchTable ∧ Watches s t ∧
      (∀ a, t.Watched a ↔ s.Watched a ∧
        (a ∈ (s.readyAmong rfds is).take n.toNat → (s.event a).persist = true)) ∧
      (s.NfdsExact → t.NfdsExact) := by
  -- induction on the entries to come
  induction is generalizing s zs n with
  | nil =>
    refine ⟨s, rfl, ?_, hw, .refl s, fun a => ?_, id⟩
    · rw [show s.readyAmong rfds [] = [] from rfl, List.take_nil, List.append_nil]
      exact h
    · refine ⟨fun ha => ⟨ha, fun hmem => ?_⟩, And.left⟩
      rw [show s.readyAmong rfds [] = [] from rfl, List.take_nil] at hmem
      exact absurd hmem List.not_mem_nil
  | cons i is ih =>
    -- the entries to come are other ones than this
    obtain ⟨hi, his⟩ := List.nodup_cons.mp his
    have hfree' : ∀ j ∈ is, ∀ a, s.watchTable j = some a →
        a ∉ timerList :: xs ∧ a ∉ pendingList :: zs :=
      fun j hj => hfree j (List.mem_cons_of_mem i hj)
    unfold processReadReadiesLoop
    by_cases hn : 0 < n
    · rw [if_pos hn]
      cases hrev : s.watchTable i with
      | none =>
        -- an empty entry is skipped
        have hready : s.readyAmong rfds (i :: is) = s.readyAmong rfds is := by
          simp only [readyAmong, List.filterMap_cons, hrev, Option.filter_none]
        rw [hready]
        exact ih h hw his hfree'
      | some rev =>
        show ∃ t, (if rfds (s.event rev).fd = true then _ else _) = some t ∧ _
        by_cases hset : rfds (s.fd rev) = true
        · rw [if_pos hset]
          have hready : s.readyAmong rfds (i :: is) = rev :: s.readyAmong rfds is := by
            simp only [readyAmong, List.filterMap_cons, hrev, Option.filter_some, hset, if_true]
          -- the event is in no list, so it can be put into the queue
          obtain ⟨hx, hz⟩ := hfree i List.mem_cons_self rev hrev
          obtain ⟨m, hadd, hlists⟩ := h.addToList_pending hx hz
          rw [hadd]
          have hqueued := hw.readyQueued hrev m
          set s₂ : EventState := if (s.event rev).persist = false then
            { s with links := m }.removeWatch rev i else { s with links := m } with hs₂
          -- the rest of the loop starts with this event in the queue
          obtain ⟨t, ht, hl, hwt, hwatches, hwatched, hexact⟩ :=
            @ih s₂ (zs ++ [rev]) (n - 1) (hlists.of_links hqueued.links) hqueued.table his
              (hqueued.free hw hrev hi hfree')
          -- it is the first of those that are taken
          have htake : (s.readyAmong rfds (i :: is)).take n.toNat =
              rev :: (s.readyAmong rfds is).take (n - 1).toNat := by
            rw [hready, show n.toNat = (n - 1).toNat + 1 by omega, List.take_succ_cons]
          rw [htake]
          rw [hqueued.readyAmong rfds hi] at hl hwatched
          refine ⟨t, ht, ?_, hwt, hqueued.watches.trans hwatches, fun a => ?_, fun h =>
            hexact (hqueued.nfdsExact h)⟩
          · rw [List.append_assoc, List.singleton_append] at hl
            exact hl
          · -- it stays watched if it is persistent, and the rest says the same of the others
            rw [hwatched, hqueued.watched, and_assoc]
            refine and_congr_right fun _ => ?_
            rw [hqueued.watches.persist_eq, List.mem_cons, or_imp]
        · -- its descriptor is not ready
          rw [if_neg hset]
          have hready : s.readyAmong rfds (i :: is) = s.readyAmong rfds is := by
            simp only [readyAmong, List.filterMap_cons, hrev, Option.filter_some, hset]
            rfl
          rw [hready]
          exact ih h hw his hfree'
    · -- all ready descriptors were found
      rw [if_neg hn]
      have htake : (s.readyAmong rfds (i :: is)).take n.toNat = [] := by
        rw [show n.toNat = 0 by omega, List.take_zero]
      rw [htake, List.append_nil]
      refine ⟨s, rfl, h, hw, .refl s, fun a => ?_, id⟩
      exact ⟨fun ha => ⟨ha, fun hmem => absurd hmem List.not_mem_nil⟩, And.left⟩

end EventState

end Ril

end BlueCommon
