import BlueCommon.Ril.EventLayer

/-!
# Deleted events

The comment of `ril_event_del` promises to remove the event from the watch list or the timer list.
The function only looks at the watch table: an event that waits on the timer list or on the pending
list stays there, and its callback is called later.

* `Deleted`, `Effective`: what the log of the event layer says of deletions.
* `LayerInv.inUse_step`: an event comes into use only when it is added.
* `deletion_effective`: the callback of a deleted event is not called, in every run that deletes an
  event only while it is on no list.
* `deleted_timer_called`: a deleted timer that is called.
-/

namespace BlueCommon

namespace Ril

open LinkedList EventState

/-- The event has been deleted and not been added since. -/
def Deleted : List LayerEvent → Addr → Prop
  | [], _ => False
  | .added a :: log, ev => ev ≠ a ∧ Deleted log ev
  | .deleted a :: log, ev => ev = a ∨ Deleted log ev
  | .called _ :: log, ev => Deleted log ev

/-- No callback of a deleted event has been called, at any time of the log. -/
def Effective : List LayerEvent → Prop
  | [] => True
  | .called a :: log => ¬ Deleted log a ∧ Effective log
  | .added _ :: log => Effective log
  | .deleted _ :: log => Effective log

/-- The step deletes no event that is on the timer list or on the pending list. `ril_event_del`
looks at the watch table only, so that such an event would stay where it is. -/
def DeletesUnqueued (s : LayerState) (l : LayerLabel) : Prop :=
  ∀ ev, l = .rilEventDel ev →
    ¬ s.events.Queued timerList ev ∧ ¬ s.events.Queued pendingList ev

/-- The event is in the watch table or on a list. -/
def EventState.InUse (s : EventState) (ev : Addr) : Prop :=
  s.Watched ev ∨ s.Queued timerList ev ∨ s.Queued pendingList ev

namespace LayerInv

variable {s t : LayerState} {xs zs : List Addr}

theorem inUse_iff (inv : LayerInv s xs zs) {a : Addr} :
    s.events.InUse a ↔ s.events.Watched a ∨ a ∈ xs ∨ a ∈ zs := by
  unfold InUse
  rw [inv.queued_timer_iff, inv.queued_pending_iff]

/-- **An event comes into use only when it is added.** Only `rilEventAdd` and `rilTimerAdd` put an
event in use, and both note it; the other steps move events between the table and the lists, or take
them out. -/
theorem inUse_step (inv : LayerInv s xs zs) {l : LayerLabel} (hstep : LayerStep s l t) {a : Addr}
    (ha : t.events.InUse a) : s.events.InUse a ∨ t.log = .added a :: s.log := by
  -- only `rilEventAdd` and `rilTimerAdd` put an event in use, and both note it
  cases hstep with
  | rilEventSet ev fd persist func hunused =>
    rw [(inv.rilEventSet hunused).inUse_iff] at ha
    rw [inv.inUse_iff]
    exact .inl ha
  | rilEventAdd ev haddable =>
    obtain ⟨hinv, hwatched⟩ := inv.rilEventAdd haddable (.added ev :: s.log)
    rw [hinv.inUse_iff, hwatched] at ha
    rw [inv.inUse_iff]
    rcases ha with (hw | ⟨rfl, -⟩) | hq
    · exact .inl (.inl hw)
    · exact .inr rfl
    · exact .inl (.inr hq)
  | rilTimerAdd ev tv now fuel events hunused h =>
    obtain ⟨xs', hmem, htable, hinv⟩ := inv.rilTimerAdd hunused h (.added ev :: s.log)
    rw [hinv.inUse_iff, hmem, Watched, htable] at ha
    rw [inv.inUse_iff]
    rcases ha with hw | (rfl | hx) | hz
    · exact .inl (.inl hw)
    · exact .inr rfl
    · exact .inl (.inr (.inl hx))
    · exact .inl (.inr (.inr hz))
  | rilEventDel ev htimer hpending =>
    -- what is deleted is in use less than before
    obtain ⟨hinv, hwatched, -⟩ := inv.rilEventDel htimer hpending (.deleted ev :: s.log)
    rw [hinv.inUse_iff, hwatched] at ha
    rw [inv.inUse_iff]
    exact .inl (ha.imp_left And.left)
  | processTimeouts now fuel events hphase h =>
    obtain ⟨xs', zs', rfl, rfl, htable, hinv⟩ := inv.processTimeouts hphase h
    rw [hinv.inUse_iff, Watched, htable] at ha
    rw [inv.inUse_iff, List.mem_append]
    -- the expired timers go from one list to the other
    rcases ha with hw | hx | hz
    · exact .inl (.inl hw)
    · exact .inl (.inr (.inl (.inr hx)))
    · exact .inl (.inr (.inl (.inl hz)))
  | processReadReadies rfds n events ev hphase h hev =>
    obtain ⟨hinv, hwatched, -⟩ := inv.processReadReadies hphase h hev
    rw [hinv.inUse_iff, hwatched, List.mem_append] at ha
    rw [inv.inUse_iff]
    rcases ha with ⟨hw, -⟩ | hx | hz | hqueued
    · exact .inl (.inl hw)
    · exact .inl (.inr (.inl hx))
    · exact .inl (.inr (.inr hz))
    · -- only watched events are ready
      exact .inl (.inl (mem_readyEvents.mp (List.mem_of_mem_take hqueued)).1)
  | call ev next events hphase hev hnext h =>
    obtain ⟨zs', rfl, htable, hinv⟩ := inv.call hphase hev hnext h (.called ev :: s.log)
    rw [hinv.inUse_iff, Watched, htable] at ha
    rw [inv.inUse_iff]
    exact .inl (ha.imp_right (Or.imp_right (List.mem_cons_of_mem ev)))
  | finish next hphase => exact .inl ha
  | firePendingReturns hphase => exact .inl ha

end LayerInv

/-- **The invariant**: deleted events are not in use. -/
structure DeletionInv (s : LayerState) : Prop where
  reachable : Lts.Reachable eventLayer s
  unused : ∀ a, Deleted s.log a → ¬ s.events.InUse a
  effective : Effective s.log

namespace DeletionInv

variable {s t : LayerState}

/-- What the log says of a step that neither adds nor deletes nor calls. -/
theorem of_log_eq (h : DeletionInv s) {l : LayerLabel} (hstep : LayerStep s l t)
    (hlog : t.log = s.log) : DeletionInv t := by
  obtain ⟨xs, zs, inv⟩ := LayerInv.reachable h.reachable
  refine ⟨.step h.reachable hstep, fun a ha hin => ?_, ?_⟩
  · rw [hlog] at ha
    rcases inv.inUse_step hstep hin with hs | hadded
    · exact h.unused a ha hs
    · rw [hlog] at hadded
      exact absurd hadded.symm (List.cons_ne_self _ _)
  · rw [hlog]
    exact h.effective

/-- An added event is not deleted any more. -/
theorem of_added (h : DeletionInv s) {l : LayerLabel} (hstep : LayerStep s l t) {ev : Addr}
    (hlog : t.log = .added ev :: s.log) : DeletionInv t := by
  obtain ⟨xs, zs, inv⟩ := LayerInv.reachable h.reachable
  refine ⟨.step h.reachable hstep, fun a ha hin => ?_, ?_⟩
  · rw [hlog] at ha
    obtain ⟨hne, hdeleted⟩ := ha
    rcases inv.inUse_step hstep hin with hs | hadded
    · exact h.unused a hdeleted hs
    · rw [hlog] at hadded
      cases hadded
      exact hne rfl
  · rw [hlog]
    exact h.effective

/-- An event that is deleted while on no list is not in use afterwards. -/
theorem rilEventDel (h : DeletionInv s) {ev : Addr} (htimer : ev ≠ timerList)
    (hpending : ev ≠ pendingList) (hok : DeletesUnqueued s (.rilEventDel ev)) :
    DeletionInv { s with
      events := s.events.rilEventDel ev, log := .deleted ev :: s.log } := by
  obtain ⟨xs, zs, inv⟩ := LayerInv.reachable h.reachable
  have hstep := LayerStep.rilEventDel s ev htimer hpending
  refine ⟨.step h.reachable hstep, fun a ha hin => ?_, h.effective⟩
  -- what the step leaves in use: the events watched, waiting or pending
  obtain ⟨hinv, hwatched, -⟩ := inv.rilEventDel htimer hpending (.deleted ev :: s.log)
  -- the event just deleted, or one deleted before
  rcases ha with rfl | hdeleted
  · rw [hinv.inUse_iff, hwatched] at hin
    -- the condition: at the time of the call the event was in neither list
    obtain ⟨hx, hz⟩ := hok a rfl
    rcases hin with hw | hxs | hzs
    · exact hw.2 rfl
    · exact hx (inv.queued_timer_iff.mpr hxs)
    · exact hz (inv.queued_pending_iff.mpr hzs)
  · -- for the older ones: it was unused, and only an add brings it back
    rcases inv.inUse_step hstep hin with hs | hadded
    · exact h.unused a hdeleted hs
    · cases hadded

/-- The callback that is called is the one of a pending event, which has not been deleted. -/
theorem call (h : DeletionInv s) {ev next : Addr} {events : EventState}
    (hphase : s.phase = .firing ev) (hev : ev ≠ pendingList)
    (hnext : s.events.links.next ev = some next)
    (hremove : s.events.removeFromList ev = some events) :
    DeletionInv { s with
      events := events, phase := .running next, log := .called ev :: s.log } := by
  obtain ⟨xs, zs, inv⟩ := LayerInv.reachable h.reachable
  have hstep := LayerStep.call s ev next events hphase hev hnext hremove
  obtain ⟨zs', rfl, -, -⟩ := inv.call hphase hev hnext hremove (.called ev :: s.log)
  refine ⟨.step h.reachable hstep, fun a ha hin => ?_, fun hdeleted => ?_, h.effective⟩
  · rcases inv.inUse_step hstep hin with hs | hadded
    · exact h.unused a ha hs
    · cases hadded
  · exact h.unused ev hdeleted (inv.inUse_iff.mpr (.inr (.inr List.mem_cons_self)))

/-- **Every step that deletes no queued event keeps the invariant.** -/
theorem step (h : DeletionInv s) {l : LayerLabel} (hstep : LayerStep s l t)
    (hok : DeletesUnqueued s l) : DeletionInv t := by
  cases hstep with
  | rilEventSet ev fd persist func hunused =>
    exact h.of_log_eq (.rilEventSet s ev fd persist func hunused) rfl
  | rilEventAdd ev haddable => exact h.of_added (.rilEventAdd s ev haddable) rfl
  | rilTimerAdd ev tv now fuel events hunused hadd =>
    exact h.of_added (.rilTimerAdd s ev tv now fuel events hunused hadd) rfl
  | rilEventDel ev htimer hpending => exact h.rilEventDel htimer hpending hok
  | processTimeouts now fuel events hphase hrun =>
    exact h.of_log_eq (.processTimeouts s now fuel events hphase hrun) rfl
  | processReadReadies rfds n events ev hphase hrun hev =>
    exact h.of_log_eq (.processReadReadies s rfds n events ev hphase hrun hev) rfl
  | call ev next events hphase hev hnext hremove => exact h.call hphase hev hnext hremove
  | finish next hphase => exact h.of_log_eq (.finish s next hphase) rfl
  | firePendingReturns hphase => exact h.of_log_eq (.firePendingReturns s hphase) rfl

theorem initial (h : s.Initial) : DeletionInv s where
  reachable := .init h
  unused a ha := by
    rw [h.log] at ha
    exact ha.elim
  effective := by
    rw [h.log]
    trivial

end DeletionInv

/-- **Deletion is effective.** In every run that deletes an event only while it is neither on the
timer list nor on the pending list, the callback of an event is not called from its deletion to its
next addition. -/
theorem deletion_effective {s : LayerState}
    (h : Lts.ReachableUnder eventLayer DeletesUnqueued s) : Effective s.log :=
  (@Lts.ReachableUnder.invariant _ _ eventLayer DeletesUnqueued DeletionInv
    (fun _ h0 => DeletionInv.initial h0) (fun _ _ _ hinv hstep hok => hinv.step hstep hok)
    s h).effective

/-- Only additions so far: nothing has been deleted, and the two lists are empty. -/
theorem FullTable.reachableUnder {n : ℕ} (hn : n ≤ 8) :
    Lts.ReachableUnder eventLayer DeletesUnqueued (FullTable.filled n) ∧
      LayerInv (FullTable.filled n) [] [] := by
  induction n with
  | zero => exact ⟨.init FullTable.initial, LayerInv.initial FullTable.initial⟩
  | succ n ih =>
    obtain ⟨hreach, inv⟩ := ih (Nat.le_of_succ_le hn)
    have haddable := FullTable.addable (Nat.le_of_succ_le hn)
    exact ⟨hreach.step (.rilEventAdd _ (n + 2) haddable) nofun, (inv.rilEventAdd haddable _).1⟩

/-- Eight events are watched, and that of the descriptor 3 is deleted. Then the descriptors 3, 4 and
9 are ready, and the callbacks of 4 and 9 are called. -/
theorem deletedEvent_reachable : ∃ s, Lts.ReachableUnder eventLayer DeletesUnqueued s ∧
    s.log = [.called 9, .called 4, .deleted 3] ++ (FullTable.filled 8).log := by
  obtain ⟨hadded, inv⟩ := FullTable.reachableUnder (le_refl 8)
  have hunqueued : DeletesUnqueued (FullTable.filled 8) (.rilEventDel 3) := by
    intro ev hev
    rw [inv.queued_timer_iff, inv.queued_pending_iff]
    exact ⟨List.not_mem_nil, List.not_mem_nil⟩
  have hdel := hadded.step (.rilEventDel _ 3 (by decide) (by decide)) hunqueued
  have htimeout := hdel.step (.processTimeouts _ ⟨0, 0⟩ 1 _ rfl rfl) nofun
  have hready := htimeout.step (.processReadReadies _ {3, 4, 9} 3 _ 4 rfl rfl rfl) nofun
  have hfirst := hready.step (.call _ 4 9 _ rfl (by decide) rfl rfl) nofun
  have hfinish := hfirst.step (.finish _ 9 rfl) nofun
  exact ⟨_, hfinish.step (.call _ 9 pendingList _ rfl (by decide) rfl rfl) nofun, rfl⟩

theorem deletion_effective_deletedEvent :
    Effective ([.called 9, .called 4, .deleted 3] ++ (FullTable.filled 8).log) := by
  obtain ⟨s, hreach, hlog⟩ := deletedEvent_reachable
  rw [← hlog]
  exact deletion_effective hreach

/-- **A deleted timer is called.** The event at address 2 is added as a timer without delay and
deleted; a second later its callback is called. -/
theorem deleted_timer_called : ∃ s, Lts.Reachable eventLayer s ∧ ¬ Effective s.log := by
  have hunused : FullTable.start.events.Unused 2 := by
    have inv := LayerInv.initial FullTable.initial
    refine ⟨by decide, by decide, ?_, ?_, ?_⟩
    · rintro ⟨i, hi⟩
      cases hi
    · rw [inv.queued_timer_iff]
      exact List.not_mem_nil
    · rw [inv.queued_pending_iff]
      exact List.not_mem_nil
  have hinit : Lts.Reachable eventLayer FullTable.start := .init FullTable.initial
  have hadd := hinit.step (.rilTimerAdd _ 2 ⟨0, 0⟩ ⟨0, 0⟩ 1 _ hunused rfl)
  have hdel := hadd.step (.rilEventDel _ 2 (by decide) (by decide))
  have htimeout := hdel.step (.processTimeouts _ ⟨1, 0⟩ 2 _ rfl rfl)
  have hready := htimeout.step (.processReadReadies _ ∅ 0 _ 2 rfl rfl rfl)
  have hcall := hready.step (.call _ 2 pendingList _ rfl (by decide) rfl rfl)
  exact ⟨_, hcall, fun h => h.1 (.inl rfl)⟩

end Ril

end BlueCommon
