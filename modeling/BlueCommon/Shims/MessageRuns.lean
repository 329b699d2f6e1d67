import BlueCommon.Shims.Messages

/-!
# No message is lost in the looper

* `QueueInv`: the queue is in order, and the delays are below the cap.
* `WakeInv`: unless a handler is called, the next wake-up is no later than the head of the queue is
  due, or a wake-up is on its way.
* `LedgerInv`: every envelope that was sent is in one place.
* `looper_no_lost_wakeup`: the results.

The three are proved together, as `WakeInv.step` needs a queue in order and delays below the cap.
`WakeInv` asks nothing while a handler is called: senders then do not wake the looper, and the queue
is read again afterwards. A thread that has put a message in front and not yet called `wake` counts
as a wake-up on its way (`Looper.Signalled`). `LedgerInv` follows the numbers of the envelopes:
sending adds one with a new number, and every other step moves envelopes between the queue, the hand
of the looper, the delivered and the removed ones, so that the numbers stay different.
-/

namespace BlueCommon

namespace Shims

variable {Handler : Type} {toMillisecondTimeoutDelay : ℤ → ℤ → ℤ} {cap : ℤ}

/-! ### The queue -/

/-- An envelope stands before another one: it is earlier, or as early and sent before. This is the
order in which messages are to be delivered. -/
def Envelope.Before (a b : Envelope Handler) : Prop :=
  a.uptime < b.uptime ∨ a.uptime = b.uptime ∧ a.seq < b.seq

theorem Envelope.Before.le {a b : Envelope Handler} (h : a.Before b) : a.uptime ≤ b.uptime := by
  unfold Envelope.Before at h
  omega

theorem insertionIndex_le (uptime : ℤ) (envelopes : List (Envelope Handler)) :
    insertionIndex uptime envelopes ≤ envelopes.length := by
  induction envelopes with
  | nil => exact Nat.le_refl 0
  | cons e rest ih =>
    unfold insertionIndex
    split
    · exact Nat.succ_le_succ ih
    · exact Nat.zero_le _

theorem insertIdx_perm (e : Envelope Handler) (envelopes : List (Envelope Handler)) :
    (envelopes.insertIdx (insertionIndex e.uptime envelopes) e).Perm (e :: envelopes) :=
  List.perm_insertIdx e envelopes (insertionIndex_le _ _)

/-- The new envelope stands after those that are as early. -/
theorem insertIdx_sorted {e : Envelope Handler} {envelopes : List (Envelope Handler)}
    (h : envelopes.Pairwise Envelope.Before) (hseq : ∀ a ∈ envelopes, a.seq < e.seq) :
    (envelopes.insertIdx (insertionIndex e.uptime envelopes) e).Pairwise Envelope.Before := by
  induction envelopes with
  -- the list of envelopes is sorted, so the new one goes before the first that is later
  | nil => exact List.pairwise_singleton _ _
  | cons a rest ih =>
    obtain ⟨ha, hrest⟩ := List.pairwise_cons.mp h
    have hseqRest : ∀ b ∈ rest, b.seq < e.seq := fun b hb => hseq b (List.mem_cons_of_mem _ hb)
    unfold insertionIndex
    by_cases hle : a.uptime ≤ e.uptime
    · -- `a` is not later, so it stays before the new message, and the older number breaks a tie
      rw [if_pos hle, List.insertIdx_succ_cons]
      refine List.pairwise_cons.mpr ⟨fun b hb => ?_, ih hrest hseqRest⟩
      rcases List.mem_cons.mp ((insertIdx_perm e rest).mem_iff.mp hb) with rfl | hb
      · have := hseq a List.mem_cons_self
        unfold Envelope.Before
        omega
      · exact ha b hb
    · -- `a` is later, and with it all that come after
      rw [if_neg hle, List.insertIdx_zero]
      refine List.pairwise_cons.mpr ⟨fun b hb => Or.inl ?_, h⟩
      rcases List.mem_cons.mp hb with rfl | hb
      · omega
      · have := (ha b hb).le
        omega

/-- An envelope that is not put at the head leaves the head where it is. -/
theorem head?_insertIdx {e : Envelope Handler} {envelopes : List (Envelope Handler)}
    (h : insertionIndex e.uptime envelopes ≠ 0) :
    (envelopes.insertIdx (insertionIndex e.uptime envelopes) e).head? = envelopes.head? := by
  cases envelopes with
  | nil => exact absurd rfl h
  | cons a rest =>
    unfold insertionIndex at h ⊢
    by_cases hle : a.uptime ≤ e.uptime
    · rw [if_pos hle, List.insertIdx_succ_cons]
      rfl
    · rw [if_neg hle] at h
      exact absurd rfl h

/-- The loop of `removeMessages` removes the envelopes before the place it has come to. It goes from
the end to the beginning, so the places it still has to look at do not move. -/
theorem removeLoop_eq (p : Envelope Handler → Bool) {i : ℕ} {envelopes : List (Envelope Handler)}
    (hi : i ≤ envelopes.length) :
    removeLoop p i envelopes = (envelopes.take i).filter (fun e => !p e) ++ envelopes.drop i := by
  -- the loop runs from the back: what is behind `i` has been looked at
  induction i generalizing envelopes with
  | zero => rfl
  | succ i ih =>
    have hlt : i < envelopes.length := hi
    unfold removeLoop
    rw [List.getElem?_eq_getElem hlt, Option.any_some, List.take_succ_eq_append_getElem hlt,
      List.filter_append]
    by_cases hp : p envelopes[i] = true
    · -- removed: the part before `i` is untouched
      have hlen : i ≤ (envelopes.eraseIdx i).length := by
        rw [List.length_eraseIdx_of_lt hlt]
        omega
      rw [if_pos hp, ih hlen, List.filter_cons_of_neg (by simp [hp]), List.filter_nil,
        List.append_nil, List.eraseIdx_eq_take_drop_succ, List.take_append_of_le_length
          (by rw [List.length_take]; omega),
        List.take_take, Nat.min_self, List.drop_append_of_le_length
          (by rw [List.length_take]; omega),
        List.drop_eq_nil_of_le (by rw [List.length_take]; omega), List.nil_append]
    · -- kept: it moves to the part that is done
      rw [if_neg hp, ih (by omega), List.filter_cons_of_pos (by simp [hp]), List.filter_nil,
        List.append_assoc, List.singleton_append, List.getElem_cons_drop]

theorem removeLoop_length (p : Envelope Handler → Bool) (envelopes : List (Envelope Handler)) :
    removeLoop p envelopes.length envelopes = envelopes.filter fun e => !p e := by
  rw [removeLoop_eq p (Nat.le_refl _), List.take_length, List.drop_length, List.append_nil]

/-- The queue is in order, and the delays are below the cap. The cap is that of
`toMillisecondTimeoutDelay`, above which there is no timeout. -/
structure QueueInv (cap : ℤ) (s : Looper Handler) : Prop where
  sorted : s.mMessageEnvelopes.Pairwise Envelope.Before
  seq : ∀ e ∈ s.mMessageEnvelopes, e.seq < s.sent
  soon : ∀ e ∈ s.mMessageEnvelopes, e.uptime < llongMax ∧ e.uptime - s.clock ≤ cap
  next : s.mNextMessageUptime = llongMax ∨ s.mNextMessageUptime - s.clock ≤ cap

namespace QueueInv

variable {s : Looper Handler}

theorem start (clock : ℤ) : QueueInv cap (Looper.start clock : Looper Handler) where
  sorted := List.Pairwise.nil
  seq _ h := absurd h List.not_mem_nil
  soon _ h := absurd h List.not_mem_nil
  next := Or.inl rfl

/-- Envelopes may leave the queue. -/
theorem sublist (h : QueueInv cap s) {envelopes : List (Envelope Handler)}
    (hsub : envelopes.Sublist s.mMessageEnvelopes) :
    QueueInv cap { s with mMessageEnvelopes := envelopes } where
  sorted := h.sorted.sublist hsub
  seq e he := h.seq e (hsub.subset he)
  soon e he := h.soon e (hsub.subset he)
  next := h.next

theorem dispatch (h : QueueInv cap s) : QueueInv cap s.dispatch := by
  unfold Looper.dispatch
  split
  · exact ⟨h.sorted, h.seq, h.soon, h.next⟩
  · next e rest hq =>
    split
    · have hrest := h.sublist (hq ▸ List.sublist_cons_self e rest)
      exact ⟨hrest.sorted, hrest.seq, hrest.soon, hrest.next⟩
    · exact ⟨h.sorted, h.seq, h.soon, Or.inr (h.soon e (hq ▸ List.mem_cons_self)).2⟩

/-- Sending keeps the queue in order. What is in it afterwards is the new envelope or was there
before, and the new one is put behind those that are as early. -/
theorem sendMessageAtTime (h : QueueInv cap s) (thread : ℕ) {uptime : ℤ}
    (handler : Handler) (what : ℤ) (hcap : uptime - s.clock ≤ cap) (hmax : uptime < llongMax) :
    QueueInv cap (s.sendMessageAtTime thread uptime handler what) := by
  let e : Envelope Handler := ⟨uptime, handler, what, s.sent⟩
  -- what is in the queue afterwards is the new message or was there before
  have hmem : ∀ a ∈ s.mMessageEnvelopes.insertIdx (insertionIndex e.uptime s.mMessageEnvelopes) e,
      a = e ∨ a ∈ s.mMessageEnvelopes := fun a ha =>
    List.mem_cons.mp ((insertIdx_perm e s.mMessageEnvelopes).mem_iff.mp ha)
  have hins : QueueInv cap { s with
      mMessageEnvelopes :=
        s.mMessageEnvelopes.insertIdx (insertionIndex e.uptime s.mMessageEnvelopes) e
      sent := s.sent + 1 } := by
    refine ⟨insertIdx_sorted h.sorted h.seq, fun a ha => ?_, fun a ha => ?_, h.next⟩
    · -- numbers go up, so the new one is above all others
      rcases hmem a ha with rfl | ha
      · exact Nat.lt_succ_self _
      · exact Nat.lt_succ_of_lt (h.seq a ha)
    · -- the caller's bound is what keeps the new message within the timeout
      rcases hmem a ha with rfl | ha
      · exact ⟨hmax, hcap⟩
      · exact h.soon a ha
  unfold Looper.sendMessageAtTime
  dsimp only
  -- the wake-up after it leaves the queue
  split
  · exact hins
  · split
    · exact ⟨hins.sorted, hins.seq, hins.soon, hins.next⟩
    · exact hins

theorem removeMessages (h : QueueInv cap s) (p : Envelope Handler → Bool) :
    QueueInv cap (s.removeMessages p) := by
  unfold Looper.removeMessages
  rw [removeLoop_length]
  have hrest := h.sublist (List.filter_sublist (p := fun e => !p e))
  exact ⟨hrest.sorted, hrest.seq, hrest.soon, hrest.next⟩

/-- **Every step keeps the queue in order.** Only `sendMessageAtTime` adds to it, and it looks for
the place. -/
theorem step [DecidableEq Handler] {l : Step Handler} {t : Looper Handler} (h : QueueInv cap s)
    (hstep : Steps toMillisecondTimeoutDelay cap s l t) : QueueInv cap t := by
  cases hstep with
  | tick d =>
    -- time goes on, so all of it comes sooner
    refine ⟨h.sorted, h.seq, fun e he => ?_, ?_⟩
    · have := h.soon e he
      show e.uptime < llongMax ∧ e.uptime - (s.clock + d) ≤ cap
      omega
    · have := h.next
      show s.mNextMessageUptime = llongMax ∨ s.mNextMessageUptime - (s.clock + d) ≤ cap
      omega
  -- a step of the poller leaves the queue as it was
  | pollInner timeoutMillis hidle => exact ⟨h.sorted, h.seq, h.soon, h.next⟩
  | epollReturns woken hpoll hwoken => exact ⟨h.sorted, h.seq, h.soon, h.next⟩
  | @lockPolled woken hpolled =>
    unfold Looper.handlePolled
    cases woken with
    -- woken or not, the next uptime is reset before the queue is looked at
    | true => exact dispatch ⟨h.sorted, h.seq, h.soon, Or.inl rfl⟩
    | false => exact dispatch ⟨h.sorted, h.seq, h.soon, Or.inl rfl⟩
  | handleMessage hsending => exact ⟨h.sorted, h.seq, h.soon, h.next⟩
  | lockHandled hhandling => exact dispatch ⟨h.sorted, h.seq, h.soon, h.next⟩
  | pollReturns hresponding => exact ⟨h.sorted, h.seq, h.soon, h.next⟩
  | sendMessageAtTime thread uptime handler what hwaking hcap hmax =>
    exact h.sendMessageAtTime thread handler what hcap hmax
  | wake thread hwaking => exact ⟨h.sorted, h.seq, h.soon, h.next⟩
  -- what is removed leaves the rest in order
  | removeMessages handler => exact h.removeMessages _
  | removeMessagesWhat handler what => exact h.removeMessages _

end QueueInv

/-! ### The wake-ups -/

/-- A wake-up is on its way: the pipe is not empty, or a thread has inserted an envelope and not yet
executed `wake`. -/
def Looper.Signalled (s : Looper Handler) : Prop :=
  0 < s.wakePipe ∨ ∃ thread, s.waking thread = true

/-- The polling thread calls a handler, or has taken out an envelope for it. -/
def Poller.calls : Poller Handler → Bool
  | .sending _ | .handling _ => true
  | _ => false

/-- The next wake-up is no later than the head of the queue is due, or a wake-up is on its way: in
the pipe, or by a thread that has sent and not yet called `wake`. -/
def Looper.Covered (s : Looper Handler) : Prop :=
  ∀ e, s.mMessageEnvelopes.head? = some e → s.mNextMessageUptime ≤ e.uptime ∨ s.Signalled

/-- **The invariant of the wake-ups.** While a handler is called nothing is asked: the queue is read
again afterwards. -/
structure WakeInv (s : Looper Handler) : Prop where
  flag : s.mSendingMessage = s.poller.calls
  covered : s.poller.calls = false → s.Covered
  timeout : ∀ timeoutMillis since, s.poller = .polling timeoutMillis since →
      s.mNextMessageUptime ≠ llongMax →
    0 ≤ timeoutMillis ∧ timeoutMillis ≤ roundedDelay since s.mNextMessageUptime

theorem roundedDelay_nonneg (now uptime : ℤ) : 0 ≤ roundedDelay now uptime := by
  unfold roundedDelay
  split <;> omega

theorem roundedDelay_mono (now : ℤ) {uptime uptime' : ℤ} (h : uptime ≤ uptime') :
    roundedDelay now uptime ≤ roundedDelay now uptime' := by
  unfold roundedDelay
  split <;> split <;> omega

/-- The adjusted timeout ends when the next message is due, or before, as the delay is rounded up to
whole milliseconds. -/
theorem adjustTimeout_le {s : Looper Handler} (hround : RoundsUp toMillisecondTimeoutDelay cap)
    (hq : QueueInv cap s) (timeoutMillis : ℤ) (hne : s.mNextMessageUptime ≠ llongMax) :
    0 ≤ s.adjustTimeout toMillisecondTimeoutDelay timeoutMillis ∧
      s.adjustTimeout toMillisecondTimeoutDelay timeoutMillis ≤
        roundedDelay s.clock s.mNextMessageUptime := by
  have hdelay := hround s.clock s.mNextMessageUptime (hq.next.resolve_left hne)
  have hnonneg := roundedDelay_nonneg s.clock s.mNextMessageUptime
  unfold Looper.adjustTimeout
  rw [hdelay]
  by_cases hzero : timeoutMillis = 0
  · rw [if_neg fun h => h.1 hzero, hzero]
    exact ⟨Int.le_refl 0, hnonneg⟩
  · rw [if_pos ⟨hzero, hne⟩]
    dsimp only
    split <;> omega

namespace WakeInv

variable {s : Looper Handler}

theorem start (clock : ℤ) : WakeInv (Looper.start clock : Looper Handler) where
  flag := rfl
  covered _ e h := absurd h (by simp [Looper.start])
  timeout _ _ h := absurd h (by simp [Looper.start])

/-- After the loop over the messages the next wake-up is for the head of the queue. -/
theorem dispatch (s : Looper Handler) (hflag : s.mSendingMessage = false) : WakeInv s.dispatch := by
  unfold Looper.dispatch
  split
  · next hq =>
    refine ⟨hflag, fun _ e he => ?_, fun _ _ h => absurd h (by simp)⟩
    rw [hq] at he
    exact absurd he (by simp)
  · next e rest hq =>
    split
    · exact ⟨rfl, fun h => absurd h (by simp [Poller.calls]), fun _ _ h => absurd h (by simp)⟩
    · refine ⟨hflag, fun _ a ha => Or.inl ?_, fun _ _ h => absurd h (by simp)⟩
      rw [hq] at ha
      obtain rfl : e = a := Option.some.inj ha
      exact Int.le_refl _

/-- A sender that inserts at the head wakes the looper, unless the queue is read again anyway. -/
theorem sendMessageAtTime (h : WakeInv s) (thread : ℕ) (uptime : ℤ) (handler : Handler) (what : ℤ) :
    WakeInv (s.sendMessageAtTime thread uptime handler what) := by
  unfold Looper.sendMessageAtTime
  dsimp only
  split
  · next hsending =>
    -- the queue is read again once the handler has returned
    have hcalls : s.poller.calls = true := h.flag ▸ hsending
    exact ⟨h.flag, fun hno => absurd hcalls (by simp [hno]), h.timeout⟩
  · split
    · exact ⟨h.flag, fun _ _ _ => Or.inr (Or.inr ⟨thread, Function.update_self ..⟩), h.timeout⟩
    · next hhead =>
      refine ⟨h.flag, fun hno e he => ?_, h.timeout⟩
      have hsame := @head?_insertIdx _ ⟨uptime, handler, what, s.sent⟩ _ hhead
      exact h.covered hno e (hsame.symm.trans he)

theorem removeMessages (h : WakeInv s) (hq : QueueInv cap s) (p : Envelope Handler → Bool) :
    WakeInv (s.removeMessages p) := by
  unfold Looper.removeMessages
  rw [removeLoop_length]
  refine ⟨h.flag, fun hno e he => ?_, h.timeout⟩
  -- what is at the head now stood behind the old head, or is that
  have hmem : e ∈ s.mMessageEnvelopes := List.mem_of_mem_filter (List.mem_of_mem_head? he)
  cases henv : s.mMessageEnvelopes with
  | nil => exact absurd hmem (by simp [henv])
  | cons first rest =>
    have hsorted := hq.sorted
    rw [henv] at hmem hsorted
    have hle : first.uptime ≤ e.uptime := by
      rcases List.mem_cons.mp hmem with rfl | hmem
      · exact Int.le_refl _
      · exact ((List.pairwise_cons.mp hsorted).1 e hmem).le
    exact (h.covered hno first (by rw [henv]; rfl)).imp (fun hnext => Int.le_trans hnext hle) id

/-- **Every step keeps the invariant of the wake-ups.** A sender changes the head of the queue and
is then to call `wake`, and the polling thread reads the queue again after every handler. -/
theorem step [DecidableEq Handler] {l : Step Handler} {t : Looper Handler}
    (hround : RoundsUp toMillisecondTimeoutDelay cap) (h : WakeInv s) (hq : QueueInv cap s)
    (hstep : Steps toMillisecondTimeoutDelay cap s l t) : WakeInv t := by
  cases hstep with
  -- the flag, the pipe and the deadline do not depend on the clock
  | tick d => exact ⟨h.flag, h.covered, h.timeout⟩
  | pollInner timeoutMillis hidle =>
    -- the timeout is rounded up, so it does not end before the message is due
    have hno : s.poller.calls = false := by rw [hidle]; rfl
    refine ⟨h.flag.trans hno, fun _ => h.covered hno, fun _ _ heq hne => ?_⟩
    obtain ⟨rfl, rfl⟩ : s.adjustTimeout toMillisecondTimeoutDelay timeoutMillis = _ ∧
        s.clock = _ := by
      simpa [Looper.pollInner] using heq
    exact adjustTimeout_le hround hq timeoutMillis hne
  -- back from `epoll_wait`: there is no deadline any more
  | epollReturns woken hpoll hwoken =>
    have hno : s.poller.calls = false := by rw [hpoll]; rfl
    exact ⟨h.flag.trans hno, fun _ => h.covered hno, fun _ _ heq => absurd heq (by simp)⟩
  | @lockPolled woken hpolled =>
    have hno : s.poller.calls = false := by rw [hpolled]; rfl
    unfold Looper.handlePolled
    cases woken with
    -- after a return the queue is looked at under the lock, so nothing has to be covered
    | true => exact dispatch _ (h.flag.trans hno)
    | false => exact dispatch _ (h.flag.trans hno)
  | handleMessage hsending =>
    -- while a message is handled the flag is up, and nobody has to wake the poller
    have hcalls : s.poller.calls = true := by rw [hsending]; rfl
    exact ⟨h.flag.trans hcalls, fun hno => absurd hno
      (by simp [Looper.handleMessage, Poller.calls]),
      fun _ _ heq => absurd heq (by simp [Looper.handleMessage])⟩
  | lockHandled hhandling => exact dispatch _ rfl
  | pollReturns hresponding =>
    have hno : s.poller.calls = false := by rw [hresponding]; rfl
    exact ⟨h.flag.trans hno, fun _ => h.covered hno, fun _ _ heq => absurd heq (by simp)⟩
  | sendMessageAtTime thread uptime handler what hwaking hcap hmax =>
    exact h.sendMessageAtTime thread uptime handler what
  -- the byte in the pipe ends the wait
  | wake thread hwaking => exact ⟨h.flag, fun _ _ _ => Or.inr (Or.inl (Nat.succ_pos _)), h.timeout⟩
  | removeMessages handler => exact h.removeMessages hq _
  | removeMessagesWhat handler what => exact h.removeMessages hq _

end WakeInv

/-! ### Where the envelopes go -/

/-- The envelope that is taken out of the queue and not yet handed over. -/
def Poller.inHand : Poller Handler → List (Envelope Handler)
  | .sending e => [e]
  | _ => []

/-- All envelopes: in the queue, in the hand of the polling thread, handed over, and removed. Steps
move envelopes within it, and only sending adds one. -/
def Looper.ledger (s : Looper Handler) : List (Envelope Handler) :=
  s.mMessageEnvelopes ++ (s.poller.inHand ++ (s.delivered.map Prod.fst ++ s.removed))

/-- **Every envelope is in one place**, and handed over only when it is due. The numbers of the
envelopes differ, as each one is numbered when it is sent. -/
structure LedgerInv (s : Looper Handler) : Prop where
  once : (s.ledger.map Envelope.seq).Nodup
  seq : ∀ e ∈ s.ledger, e.seq < s.sent
  due : ∀ e ∈ s.poller.inHand, e.uptime ≤ s.clock
  delivered : ∀ d ∈ s.delivered, d.1.uptime ≤ d.2

namespace LedgerInv

variable {s : Looper Handler}

theorem start (clock : ℤ) : LedgerInv (Looper.start clock : Looper Handler) where
  once := List.nodup_nil
  seq _ h := absurd h List.not_mem_nil
  due _ h := absurd h List.not_mem_nil
  delivered _ h := absurd h List.not_mem_nil

/-- Envelopes may change their places. What has been handed over must have been due then. -/
theorem of_perm {t : Looper Handler} (h : LedgerInv s) (hperm : t.ledger.Perm s.ledger)
    (hsent : t.sent = s.sent)
    (hdue : ∀ e ∈ t.poller.inHand, e.uptime ≤ t.clock)
    (hdelivered : ∀ d ∈ t.delivered, d.1.uptime ≤ d.2) :
    LedgerInv t where
  once := (hperm.map Envelope.seq).nodup_iff.mpr h.once
  seq e he := by
    rw [hsent]
    exact h.seq e (hperm.mem_iff.mp he)
  due := hdue
  delivered := hdelivered

theorem dispatch (h : LedgerInv s) (hhand : s.poller.inHand = []) : LedgerInv s.dispatch := by
  unfold Looper.dispatch
  -- the queue is empty, is due, or is early: only a due message changes hands
  split
  · refine h.of_perm ?_ rfl (fun e he => absurd he List.not_mem_nil) h.delivered
    unfold Looper.ledger
    rw [hhand]
    exact List.Perm.refl _
  · next e rest hq =>
    split
    · -- due: the first message goes from the queue into the hand of the poller
      next hdue =>
      refine h.of_perm ?_ rfl (fun a ha => ?_) h.delivered
      · unfold Looper.ledger
        rw [hhand, hq]
        exact List.perm_middle
      · obtain rfl : a = e := List.mem_singleton.mp ha
        exact hdue
    · -- early: it stays in the queue
      refine h.of_perm ?_ rfl (fun e he => absurd he List.not_mem_nil) h.delivered
      unfold Looper.ledger
      rw [hhand]
      exact List.Perm.refl _

theorem handleMessage (h : LedgerInv s) {e : Envelope Handler} (hsending : s.poller = .sending e) :
    LedgerInv (s.handleMessage e) := by
  have hhand : s.poller.inHand = [e] := by rw [hsending]; rfl
  refine h.of_perm ?_ rfl (fun a ha => absurd ha List.not_mem_nil) fun d hd => ?_
  · unfold Looper.ledger
    rw [hhand]
    exact List.Perm.refl _
  · rcases List.mem_cons.mp hd with rfl | hd
    · exact h.due e (hhand ▸ List.mem_cons_self)
    · exact h.delivered d hd

/-- Sending adds one envelope to the ledger, and the others are the same up to order. All envelopes
so far have smaller numbers. -/
theorem sendMessageAtTime (h : LedgerInv s) (thread : ℕ) (uptime : ℤ) (handler : Handler)
    (what : ℤ) :
    LedgerInv (s.sendMessageAtTime thread uptime handler what) := by
  let e : Envelope Handler := ⟨uptime, handler, what, s.sent⟩
  -- one message more in the ledger, and the others are the same up to order
  have hperm : (s.mMessageEnvelopes.insertIdx (insertionIndex e.uptime s.mMessageEnvelopes) e ++
      (s.poller.inHand ++ (s.delivered.map Prod.fst ++ s.removed))).Perm (e :: s.ledger) :=
    (insertIdx_perm e s.mMessageEnvelopes).append_right _
  -- all messages so far have smaller numbers
  have hfresh : e.seq ∉ s.ledger.map Envelope.seq := by
    intro hmem
    obtain ⟨a, ha, heq⟩ := List.mem_map.mp hmem
    exact absurd (h.seq a ha) (heq ▸ Nat.lt_irrefl _)
  have hins : LedgerInv { s with
      mMessageEnvelopes :=
        s.mMessageEnvelopes.insertIdx (insertionIndex e.uptime s.mMessageEnvelopes) e
      sent := s.sent + 1 } := by
    refine ⟨?_, fun a ha => ?_, h.due, h.delivered⟩
    · exact (hperm.map Envelope.seq).nodup_iff.mpr (List.nodup_cons.mpr ⟨hfresh, h.once⟩)
    · -- the new message has the number `sent`, and the counter goes up
      rcases List.mem_cons.mp (hperm.mem_iff.mp ha) with rfl | ha
      · exact Nat.lt_succ_self _
      · exact Nat.lt_succ_of_lt (h.seq a ha)
  unfold Looper.sendMessageAtTime
  dsimp only
  -- whether the poller is woken does not matter to the ledger
  split
  · exact hins
  · split
    · exact ⟨hins.once, hins.seq, hins.due, hins.delivered⟩
    · exact hins

theorem removeMessages (h : LedgerInv s) (p : Envelope Handler → Bool) :
    LedgerInv (s.removeMessages p) := by
  unfold Looper.removeMessages
  rw [removeLoop_length]
  refine h.of_perm ?_ rfl h.due h.delivered
  -- the queue splits into what stays and what is removed
  have hsplit : (s.mMessageEnvelopes.filter p ++ s.mMessageEnvelopes.filter fun e => !p e).Perm
      s.mMessageEnvelopes := List.filter_append_perm p s.mMessageEnvelopes
  have hrest := (List.perm_append_comm.trans hsplit).append_right
    (s.poller.inHand ++ (s.delivered.map Prod.fst ++ s.removed))
  refine List.Perm.trans ?_ hrest
  unfold Looper.ledger
  dsimp only
  rw [List.append_assoc]
  refine List.Perm.append_left _ ?_
  -- what is removed moves to the end
  rw [← List.append_assoc s.poller.inHand, ← List.append_assoc s.poller.inHand,
    ← List.append_assoc _ _ s.removed, ← List.append_assoc _ _ s.removed]
  exact List.perm_append_comm.append_right _

/-- **Every step keeps the ledger.** Sending adds an envelope with a new number to it, and every
other step moves envelopes within it. -/
theorem step [DecidableEq Handler] {l : Step Handler} {t : Looper Handler} (h : LedgerInv s)
    (hstep : Steps toMillisecondTimeoutDelay cap s l t) : LedgerInv t := by
  cases hstep with
  | tick d =>
    -- what was due is due later too
    refine h.of_perm (List.Perm.refl _) rfl (fun e he => ?_) h.delivered
    have := h.due e he
    show e.uptime ≤ s.clock + d
    omega
  | pollInner timeoutMillis hidle =>
    refine h.of_perm ?_ rfl (fun e he => absurd he List.not_mem_nil) h.delivered
    -- the poller holds no message before it looks at the queue
    simp [Looper.ledger, Looper.pollInner, Poller.inHand, hidle]
  | epollReturns woken hpoll hwoken =>
    refine h.of_perm ?_ rfl (fun e he => absurd he List.not_mem_nil) h.delivered
    simp [Looper.ledger, Poller.inHand, hpoll]
  | @lockPolled woken hpolled =>
    have hhand : s.poller.inHand = [] := by rw [hpolled]; rfl
    unfold Looper.handlePolled
    cases woken with
    -- the poller's hand is empty when it comes back, so `dispatch` may fill it
    | true => exact dispatch ⟨h.once, h.seq, h.due, h.delivered⟩ hhand
    | false => exact dispatch ⟨h.once, h.seq, h.due, h.delivered⟩ hhand
  -- from the hand to what was delivered
  | handleMessage hsending => exact h.handleMessage hsending
  | lockHandled hhandling =>
    have hhand : s.poller.inHand = [] := by rw [hhandling]; rfl
    exact dispatch ⟨h.once, h.seq, h.due, h.delivered⟩ hhand
  | pollReturns hresponding =>
    refine h.of_perm ?_ rfl (fun e he => absurd he List.not_mem_nil) h.delivered
    simp [Looper.ledger, Poller.inHand, hresponding]
  | sendMessageAtTime thread uptime handler what hwaking hcap hmax =>
    exact h.sendMessageAtTime thread uptime handler what
  | wake thread hwaking => exact ⟨h.once, h.seq, h.due, h.delivered⟩
  -- what is taken out of the queue is in the ledger as removed
  | removeMessages handler => exact h.removeMessages _
  | removeMessagesWhat handler what => exact h.removeMessages _

end LedgerInv

/-! ### The results -/

/-- What holds in every state of a looper. The thread that polls wakes up in time for the first
message; the queue is in order; no message is delivered twice, early, or after it was removed. -/
structure LooperSafe (s : Looper Handler) : Prop where
  /-- The polling thread sleeps no longer than until the head of the queue is due, counted from when
  it began to, or a wake-up is on its way. -/
  wakeup : ∀ timeoutMillis since, s.poller = .polling timeoutMillis since →
    ∀ e, s.mMessageEnvelopes.head? = some e →
      (0 ≤ timeoutMillis ∧ timeoutMillis ≤ roundedDelay since e.uptime) ∨ 0 < s.wakePipe ∨
        ∃ thread, s.waking thread = true
  sorted : s.mMessageEnvelopes.Pairwise fun a b => a.uptime < b.uptime ∨ a.uptime = b.uptime ∧
      a.seq < b.seq
  once : (s.delivered.map fun d => d.1.seq).Nodup
  notEarly : ∀ d ∈ s.delivered, d.1.uptime ≤ d.2
  notRemoved : ∀ d ∈ s.delivered, ∀ e ∈ s.removed, d.1.seq ≠ e.seq

/-- A head below the next wake-up is covered by a wake-up. -/
theorem wakeup_of_inv {s : Looper Handler} (hq : QueueInv cap s) (hw : WakeInv s)
    {timeoutMillis since : ℤ}
    (hpoll : s.poller = .polling timeoutMillis since) {e : Envelope Handler}
    (he : s.mMessageEnvelopes.head? = some e) :
    (0 ≤ timeoutMillis ∧ timeoutMillis ≤ roundedDelay since e.uptime) ∨ s.Signalled := by
  have hno : s.poller.calls = false := by rw [hpoll]; rfl
  rcases hw.covered hno e he with hnext | hsignal
  · have hmax := (hq.soon e (List.mem_of_mem_head? he)).1
    have hne : s.mNextMessageUptime ≠ llongMax := by omega
    obtain ⟨hnonneg, hle⟩ := hw.timeout _ _ hpoll hne
    exact Or.inl ⟨hnonneg, Int.le_trans hle (roundedDelay_mono since hnext)⟩
  · exact Or.inr hsignal

/-- **No message is lost, early, out of order or delivered twice.** In every interleaving of the
senders with the polling thread, for every function that rounds delays up below its cap. -/
theorem looper_no_lost_wakeup [DecidableEq Handler]
    (hround : RoundsUp toMillisecondTimeoutDelay cap)
    {s : Looper Handler} (h : (looperRuns Handler toMillisecondTimeoutDelay cap).Reachable s) :
    LooperSafe s := by
  -- the three invariants hold together: the second needs the first at every step
  have hinv : QueueInv cap s ∧ WakeInv s ∧ LedgerInv s := by
    refine @Lts.Reachable.invariant _ _ _ (fun s => QueueInv cap s ∧ WakeInv s ∧
      LedgerInv s) ?_ ?_ _ h
    · rintro s ⟨clock, rfl⟩
      exact ⟨QueueInv.start clock, WakeInv.start clock, LedgerInv.start clock⟩
    · intro s l t ⟨hq, hw, hl⟩ hstep
      exact ⟨hq.step hstep, hw.step hround hq hstep, hl.step hstep⟩
  obtain ⟨hq, hw, hl⟩ := hinv
  -- the numbers differ throughout the ledger, so also in its last two parts
  have hrest : ((s.delivered.map Prod.fst ++ s.removed).map Envelope.seq).Nodup := by
    have honce := hl.once
    unfold Looper.ledger at honce
    rw [List.map_append, List.map_append] at honce
    exact (List.nodup_append.mp (List.nodup_append.mp honce).2.1).2.1
  rw [List.map_append, List.map_map] at hrest
  obtain ⟨honce, -, hdisjoint⟩ := List.nodup_append.mp hrest
  refine ⟨fun _ _ hpoll e he => wakeup_of_inv hq hw hpoll he, hq.sorted, honce, hl.delivered, ?_⟩
  -- a message that was removed and delivered would have its number twice
  intro d hd e he
  exact hdisjoint d.1.seq (List.mem_map_of_mem hd) e.seq (List.mem_map_of_mem he)

/-- The rounding of the framework: delays above the cap are -1, no timeout. Delays are in
nanoseconds, and timeouts in milliseconds. -/
def frameworkDelay (now uptime : ℤ) : ℤ :=
  if now < uptime then
    if 2147483646000000 < uptime - now then -1 else (uptime - now + 999999) / 1000000
  else 0

/-- A message that is due in five milliseconds is sent, and the looper waits for it. -/
theorem looper_no_lost_wakeup_waiting :
    ∃ s : Looper Bool, s.poller = .polling 5 0 ∧ s.mMessageEnvelopes ≠ [] ∧ LooperSafe s := by
  have hround : RoundsUp frameworkDelay 2147483646000000 := by
    intro now uptime hcap
    unfold frameworkDelay roundedDelay
    split <;> split <;> omega
  refine ⟨_, ?_, ?_, looper_no_lost_wakeup hround (.step (.step (.step (.step (.step (.step (.step
    (.init ⟨0, rfl⟩) (.sendMessageAtTime _ 0 5000000 true 1 rfl (by decide) (by decide)))
    (.wake _ 0 rfl)) (.pollInner _ (-1) rfl)) (.epollReturns _ true rfl fun _ => by decide))
    (.lockPolled _ rfl)) (.pollReturns _ rfl)) (.pollInner _ (-1) rfl))⟩
  · rfl
  · exact List.cons_ne_nil _ _

end Shims

end BlueCommon
