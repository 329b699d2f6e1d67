import BlueCommon.Lib.Lts
import Mathlib.Data.Int.Notation
import Mathlib.Data.Nat.Notation
import Mathlib.Logic.Function.Basic

/-!
# The file descriptors of the looper

`Looper` keeps one registration for a file descriptor. `pollInner` collects the responses to the
events of `epoll_wait` as copies of the registrations, and then invokes their callbacks. A callback
that returns 0 is unregistered, by the number of its file descriptor.

* `FdLooper`: the registrations and the responses. Each registration has a number. History: the
  responses as they were collected, and those whose callbacks were invoked.
* `FdLooper.addFd`, `FdLooper.removeFd`, `FdLooper.collect`, `FdLooper.finish`: the functions.
* `fdRuns`: the runs. The callbacks and other threads may call `addFd` and `removeFd` at any time.
* `callbacks_run_once`: every collected callback runs, also when it has been unregistered meanwhile,
  and one that returns 0 unregisters nothing that was registered before but itself.

The messages are left out, as are the errors of `epoll_wait`.
-/

namespace BlueCommon

namespace Shims

/-- `Request`: a registration. `seq` numbers the registrations in the order in which they are made,
so that a later one of the same file descriptor is told from an earlier one. -/
structure Request (Callback : Type) where
  fd : ℤ
  ident : ℤ
  callback : Option Callback
  data : ℕ
  /-- History: how many registrations there were before. -/
  seq : ℕ

/-- `Response`. It has a copy of the registration, taken when the event was collected; the
registration itself may be removed or replaced while the callbacks run. -/
structure Response (Callback : Type) where
  events : UInt32
  request : Request Callback

/-- Where `pollInner` is: before the response `i`, in its callback, or after it. Between two of
these places other threads may take the lock. -/
inductive FdPoller
  | idle
  | callbacks (i : ℕ)
  | invoking (i : ℕ)
  | returned (i : ℕ) (callbackResult : ℤ)

/-- The part of the looper that is about file descriptors. The last four fields are not in the
source: they count the registrations, and keep what was collected and which callbacks were
invoked. -/
structure FdLooper (Callback : Type) where
  mAllowNonCallbacks : Bool
  mWakeReadPipeFd : ℤ
  /-- A map with the file descriptors as keys. -/
  mRequests : ℤ → Option (Request Callback)
  mResponses : List (Response Callback)
  poller : FdPoller
  /-- History: how many registrations there were. -/
  registered : ℕ
  /-- History: the responses of the batch, as they were collected. -/
  batch : List (Response Callback)
  /-- History: how many registrations there were when the batch was collected. -/
  batchStart : ℕ
  /-- History: the responses whose callbacks were invoked, of this batch. -/
  invoked : List (Response Callback)

variable {Callback : Type}

/-- `POLL_CALLBACK`: the identifier of the registrations that have a callback. -/
def pollCallback : ℤ := -2

/-- The events of a response: `EPOLLIN`, `EPOLLOUT`, `EPOLLERR` and `EPOLLHUP` as `EVENT_INPUT`,
`EVENT_OUTPUT`, `EVENT_ERROR` and `EVENT_HANGUP`. -/
def pollEvents (epollEvents : UInt32) : UInt32 :=
  (if epollEvents &&& 1 ≠ 0 then 1 else 0) ||| (if epollEvents &&& 4 ≠ 0 then 2 else 0) |||
    (if epollEvents &&& 8 ≠ 0 then 4 else 0) ||| (if epollEvents &&& 16 ≠ 0 then 8 else 0)

namespace FdLooper

/-- `addFd`. `epollOk` is whether `epoll_ctl` succeeds. -/
def addFd (s : FdLooper Callback) (fd ident : ℤ) (callback : Option Callback) (data : ℕ)
    (epollOk : Bool) :
    ℤ × FdLooper Callback :=
  if callback.isNone ∧ (s.mAllowNonCallbacks = false ∨ ident < 0) then (-1, s)
  else
    let ident := if callback.isNone then ident else pollCallback
    let request : Request Callback := ⟨fd, ident, callback, data, s.registered⟩
    -- added, or modified: an old registration is replaced
    if epollOk then
      (1, { s with
        mRequests := Function.update s.mRequests fd (some request), registered :=
        s.registered + 1 })
    else (-1, s)

def removeFd (s : FdLooper Callback) (fd : ℤ) (epollOk : Bool) : ℤ × FdLooper Callback :=
  match s.mRequests fd with
  | none => (0, s)
  | some _ =>
    if epollOk then (1, { s with mRequests := Function.update s.mRequests fd none }) else (-1, s)

/-- The response to an event, if its file descriptor is registered. -/
def pushResponse (s : FdLooper Callback) (eventItem : ℤ × UInt32) : Option (Response Callback) :=
  if eventItem.1 = s.mWakeReadPipeFd then none
  else (s.mRequests eventItem.1).map fun request => ⟨pollEvents eventItem.2, request⟩

/-- `pollInner` up to the callbacks, with the events that `epoll_wait` returns. The old responses
are cleared, and there is a new one for each event of a file descriptor that is registered. -/
def collect (s : FdLooper Callback) (eventItems : List (ℤ × UInt32)) : FdLooper Callback :=
  let responses := eventItems.filterMap s.pushResponse
  { s with
    mResponses := responses
    poller := .callbacks 0
    batch := responses
    batchStart := s.registered
    invoked := [] }

/-- The callback of a response is invoked, if it has one. -/
def invoke (s : FdLooper Callback) (i : ℕ) (response : Response Callback) : FdLooper Callback :=
  if response.request.ident = pollCallback then
    { s with poller := .invoking i, invoked := s.invoked ++ [response] }
  else { s with poller := .callbacks (i + 1) }

/-- `response.request.callback.clear()`. -/
def clearCallback (response : Response Callback) : Response Callback :=
  { response with request := { response.request with callback := none } }

/-- `pollInner` after a callback. When the callback returned 0 its file descriptor is removed,
whatever is registered for it by now. The response drops its reference to the callback in any
case. -/
def finish (s : FdLooper Callback) (i : ℕ) (response : Response Callback) (callbackResult : ℤ)
    (epollOk : Bool) :
    FdLooper Callback :=
  let s := if callbackResult = 0 then (s.removeFd response.request.fd epollOk).2 else s
  { s with mResponses := s.mResponses.set i (clearCallback response), poller := .callbacks (i + 1) }

end FdLooper

/-- What happens to the looper. -/
inductive FdStep (Callback : Type)
  | addFd (fd ident : ℤ) (callback : Option Callback) (data : ℕ) (epollOk : Bool)
  | removeFd (fd : ℤ) (epollOk : Bool)
  | pollInner (eventItems : List (ℤ × UInt32))
  | handleEvent
  | callbackReturns (callbackResult : ℤ)
  | finish (epollOk : Bool)
  | pollReturns

/-- One step. `pollInner` is not called by a callback; `addFd` and `removeFd` are called by any
thread, at any time, also by a callback. -/
inductive FdSteps : FdLooper Callback → FdStep Callback → FdLooper Callback → Prop
  | addFd (s : FdLooper Callback) (fd ident : ℤ) (callback : Option Callback) (data : ℕ)
      (epollOk : Bool) :
      FdSteps s (.addFd fd ident callback data epollOk) (s.addFd fd ident callback data epollOk).2
  | removeFd (s : FdLooper Callback) (fd : ℤ) (epollOk : Bool) :
      FdSteps s (.removeFd fd epollOk) (s.removeFd fd epollOk).2
  | pollInner (s : FdLooper Callback) (eventItems : List (ℤ × UInt32)) (h : s.poller = .idle) :
      FdSteps s (.pollInner eventItems) (s.collect eventItems)
  | handleEvent (s : FdLooper Callback) {i : ℕ} {response : Response Callback}
      (h : s.poller = .callbacks i)
      (hresponse : s.mResponses[i]? = some response) : FdSteps s .handleEvent (s.invoke i response)
  | callbackReturns (s : FdLooper Callback) {i : ℕ} (callbackResult : ℤ)
      (h : s.poller = .invoking i) :
      FdSteps s (.callbackReturns callbackResult) { s with poller := .returned i callbackResult }
  | finish (s : FdLooper Callback) {i : ℕ} {response : Response Callback} {callbackResult : ℤ}
      (epollOk : Bool)
      (h : s.poller = .returned i callbackResult) (hresponse : s.mResponses[i]? = some response) :
      FdSteps s (.finish epollOk) (s.finish i response callbackResult epollOk)
  | pollReturns (s : FdLooper Callback) {i : ℕ} (h : s.poller = .callbacks i)
      (hend : s.mResponses.length ≤ i) :
      FdSteps s .pollReturns { s with poller := .idle }

/-- A looper after its constructor. -/
def FdLooper.start (mAllowNonCallbacks : Bool) (mWakeReadPipeFd : ℤ) : FdLooper Callback where
  mAllowNonCallbacks := mAllowNonCallbacks
  mWakeReadPipeFd := mWakeReadPipeFd
  mRequests := fun _ => none
  mResponses := []
  poller := .idle
  registered := 0
  batch := []
  batchStart := 0
  invoked := []

/-- The runs of the looper. A looper starts with no file descriptors, and with either value of
`mAllowNonCallbacks`. -/
def fdRuns (Callback : Type) : Lts (FdLooper Callback) (FdStep Callback) where
  init s := ∃ mAllowNonCallbacks mWakeReadPipeFd,
    s = FdLooper.start mAllowNonCallbacks mWakeReadPipeFd
  step := FdSteps

/-! ### The batch -/

/-- How many responses of the batch have been come to. The callback of the last one of them may
still be running. -/
def FdLooper.position (s : FdLooper Callback) : ℕ :=
  match s.poller with
  | .idle => s.batch.length
  | .callbacks i => i
  | .invoking i => i + 1
  | .returned i _ => i + 1

/-- The response that is being handled, and later ones, are still as they were collected. This is
the place of the first of them. -/
def FdLooper.current (s : FdLooper Callback) : ℕ :=
  match s.poller with
  | .idle => s.batch.length
  | .callbacks i => i
  | .invoking i => i
  | .returned i _ => i

/-- The response is one for a callback. -/
def Response.isCallback (response : Response Callback) : Bool :=
  response.request.ident == pollCallback

/-- **The invariant of a batch.** What is registered for the file descriptor of a response is the
registration that was collected, or a later one. -/
structure BatchInv (s : FdLooper Callback) : Prop where
  seq : ∀ fd request, s.mRequests fd = some request → request.fd = fd ∧ request.seq < s.registered
  started : s.batchStart ≤ s.registered
  kept : ∀ response ∈ s.batch, ∀ request, s.mRequests response.request.fd = some request →
    request.seq < s.batchStart → request = response.request
  responses : s.mResponses.length = s.batch.length ∧
    ∀ i, s.current ≤ i → s.mResponses[i]? = s.batch[i]?
  bounded : s.position ≤ s.batch.length
  invoked : s.invoked = (s.batch.take s.position).filter Response.isCallback

namespace BatchInv

variable {s : FdLooper Callback}

theorem start (mAllowNonCallbacks : Bool) (mWakeReadPipeFd : ℤ) :
    BatchInv (FdLooper.start mAllowNonCallbacks mWakeReadPipeFd : FdLooper Callback) where
  seq _ _ h := absurd h (by simp [FdLooper.start])
  started := Nat.le_refl 0
  kept _ h := absurd h List.not_mem_nil
  responses := ⟨rfl, fun _ _ => rfl⟩
  bounded := Nat.le_refl 0
  invoked := rfl

/-- A registration that is added is later than the batch. -/
theorem register (h : BatchInv s) (fd ident : ℤ) (callback : Option Callback) (data : ℕ) :
    BatchInv { s with
      mRequests := Function.update s.mRequests fd (some ⟨fd, ident, callback, data, s.registered⟩)
      registered := s.registered + 1 } := by
  -- only the requests change, so the batch and its responses are as before
  refine ⟨fun fd' request hreq => ?_, Nat.le_succ_of_le h.started,
    fun response hmem request hreq hlt => ?_, h.responses, h.bounded, h.invoked⟩
  · dsimp only at hreq
    -- a descriptor has one request: either the new one, with the newest number, or an old one
    by_cases hfd : fd' = fd
    · rw [hfd, Function.update_self] at hreq
      obtain rfl := Option.some.inj hreq
      exact ⟨hfd.symm, Nat.lt_succ_self _⟩
    · rw [Function.update_of_ne hfd] at hreq
      obtain ⟨heq, hseq⟩ := h.seq fd' request hreq
      exact ⟨heq, Nat.lt_succ_of_lt hseq⟩
  · dsimp only at hreq
    -- a response waiting for this descriptor was made before, so the number is not below it
    by_cases hfd : response.request.fd = fd
    · rw [hfd, Function.update_self] at hreq
      obtain rfl := Option.some.inj hreq
      exact absurd h.started (Nat.not_le_of_lt hlt)
    · rw [Function.update_of_ne hfd] at hreq
      exact h.kept response hmem request hreq hlt

theorem addFd (h : BatchInv s) (fd ident : ℤ) (callback : Option Callback) (data : ℕ)
    (epollOk : Bool) :
    BatchInv (s.addFd fd ident callback data epollOk).2 := by
  unfold FdLooper.addFd
  split
  · exact h
  · cases epollOk with
    | true => exact h.register fd _ callback data
    | false => exact h

/-- What is left after a removal was there before. -/
theorem removeFd_mRequests {fd fd' : ℤ} {epollOk : Bool} {request : Request Callback}
    (h : (s.removeFd fd epollOk).2.mRequests fd' = some request) :
    s.mRequests fd' = some request := by
  unfold FdLooper.removeFd at h
  split at h
  · exact h
  · split at h
    · dsimp only at h
      by_cases hfd : fd' = fd
      · rw [hfd, Function.update_self] at h
        exact absurd h (by simp)
      · rwa [Function.update_of_ne hfd] at h
    · exact h

/-- A removal changes nothing but the registrations. -/
theorem removeFd_fields (s : FdLooper Callback) (fd : ℤ) (epollOk : Bool) :
    (s.removeFd fd epollOk).2 = { s with mRequests := (s.removeFd fd epollOk).2.mRequests } := by
  unfold FdLooper.removeFd
  split
  · rfl
  · split <;> rfl

theorem removeFd (h : BatchInv s) (fd : ℤ) (epollOk : Bool) :
    BatchInv (s.removeFd fd epollOk).2 := by
  have hkept := @removeFd_mRequests _ s fd
  rw [removeFd_fields]
  exact ⟨fun fd' request hreq => h.seq fd' request (hkept hreq), h.started,
    fun response hmem request hreq => h.kept response hmem request (hkept hreq), h.responses,
    h.bounded, h.invoked⟩

theorem collect (h : BatchInv s) (eventItems : List (ℤ × UInt32)) :
    BatchInv (s.collect eventItems) := by
  refine ⟨h.seq, Nat.le_refl _, fun response hmem request hreq _ => ?_, ⟨rfl, fun _ _ => rfl⟩,
    Nat.zero_le _, rfl⟩
  obtain ⟨item, -, hitem⟩ := List.mem_filterMap.mp hmem
  unfold FdLooper.pushResponse at hitem
  split at hitem
  · exact absurd hitem (by simp)
  · obtain ⟨registered, hregistered, rfl⟩ := Option.map_eq_some_iff.mp hitem
    -- the response has the registration of its own file descriptor
    have hfd := (h.seq _ _ hregistered).1
    have hreq' : s.mRequests registered.fd = some request := hreq
    rw [hfd, hregistered] at hreq'
    exact (Option.some.inj hreq').symm

/-- The next response is handled: its callback is invoked if it has one. It is as it was collected,
since nothing behind the ones that are done has been touched. -/
theorem handleEvent (h : BatchInv s) {i : ℕ} {response : Response Callback}
    (hpoll : s.poller = .callbacks i)
    (hresponse : s.mResponses[i]? = some response) : BatchInv (s.invoke i response) := by
  -- the response handled is the next one of the batch
  have hcurrent : s.current = i := by unfold FdLooper.current; rw [hpoll]
  have hposition : s.position = i := by unfold FdLooper.position; rw [hpoll]
  have hbatch : s.batch[i]? = some response := by
    -- what is still to be handled has not been touched since the batch was made
    rw [← h.responses.2 i (Nat.le_of_eq hcurrent)]
    exact hresponse
  obtain ⟨hlt, hget⟩ := List.getElem?_eq_some_iff.mp hbatch
  have htake : s.batch.take (i + 1) = s.batch.take i ++ [response] := by
    rw [List.take_succ_eq_append_getElem hlt, hget]
  -- what was called so far is the callbacks among the first `i`
  have hinvoked := h.invoked
  rw [hposition] at hinvoked
  unfold FdLooper.invoke
  split
  · -- a callback: it is called, and becomes the last of those that were
    next hident =>
    refine ⟨h.seq, h.started, h.kept, ⟨h.responses.1, fun j hj => ?_⟩, hlt, ?_⟩
    · exact h.responses.2 j (by rw [hcurrent]; exact hj)
    · show s.invoked ++ [response] = (s.batch.take (i + 1)).filter Response.isCallback
      rw [hinvoked, htake, List.filter_append,
        List.filter_cons_of_pos (by simp [Response.isCallback, hident]), List.filter_nil]
  · -- an identifier is left for the caller of `pollOnce`, and is passed over
    next hident =>
    refine ⟨h.seq, h.started, h.kept, ⟨h.responses.1, fun j hj => ?_⟩, hlt, ?_⟩
    · have hj' : i + 1 ≤ j := hj
      exact h.responses.2 j (by omega)
    · show s.invoked = (s.batch.take (i + 1)).filter Response.isCallback
      rw [hinvoked, htake, List.filter_append,
        List.filter_cons_of_neg (by simp [Response.isCallback, hident]),
        List.filter_nil, List.append_nil]

/-- A callback has returned. The response that is done is cleared, and the later ones are not
touched; a callback that returns 0 is removed with its descriptor. -/
theorem finish (h : BatchInv s) {i : ℕ} {response : Response Callback} {callbackResult : ℤ}
    (epollOk : Bool)
    (hpoll : s.poller = .returned i callbackResult) :
    BatchInv (s.finish i response callbackResult epollOk) := by
  have hcurrent : s.current = i := by unfold FdLooper.current; rw [hpoll]
  have hposition : s.position = i + 1 := by unfold FdLooper.position; rw [hpoll]
  -- the response that is done is cleared; the later ones are not touched
  have hclear : ∀ u : FdLooper Callback, BatchInv u → u.poller = s.poller → u.batch = s.batch →
      u.mResponses = s.mResponses → u.invoked = s.invoked →
      BatchInv { u with
        mResponses := u.mResponses.set i (FdLooper.clearCallback response), poller :=
          .callbacks (i + 1) } := by
    intro u hu hup hub hur hui
    refine ⟨hu.seq, hu.started, hu.kept,
      ⟨by rw [List.length_set]; exact hu.responses.1, fun j hj => ?_⟩, ?_, ?_⟩
    · have hj' : i + 1 ≤ j := hj
      show (u.mResponses.set i _)[j]? = u.batch[j]?
      rw [List.getElem?_set_ne (by omega), hur, hub]
      exact h.responses.2 j (by omega)
    · have hb := h.bounded
      rw [hposition] at hb
      show i + 1 ≤ u.batch.length
      rw [hub]
      exact hb
    · have hi := h.invoked
      rw [hposition] at hi
      show u.invoked = (u.batch.take (i + 1)).filter Response.isCallback
      rw [hui, hub, hi]
  unfold FdLooper.finish
  -- a callback that returns 0 is removed with its descriptor
  by_cases hzero : callbackResult = 0
  · rw [if_pos hzero]
    have hfields := removeFd_fields s response.request.fd epollOk
    refine hclear _ (h.removeFd _ epollOk) ?_ ?_ ?_ ?_
    · rw [hfields]
    · rw [hfields]
    · rw [hfields]
    · rw [hfields]
  · rw [if_neg hzero]
    exact hclear s h rfl rfl rfl rfl

/-- **Every step keeps the invariant of the batch.** Registrations that are added or removed leave
the responses as they are, and a callback that returns moves on by one. -/
theorem step {l : FdStep Callback} {t : FdLooper Callback} (h : BatchInv s)
    (hstep : FdSteps s l t) :
    BatchInv t := by
  cases hstep with
  | addFd fd ident callback data epollOk => exact h.addFd fd ident callback data epollOk
  | removeFd fd epollOk => exact h.removeFd fd epollOk
  | pollInner eventItems hidle => exact h.collect eventItems
  | handleEvent hpoll hresponse => exact h.handleEvent hpoll hresponse
  | callbackReturns callbackResult hpoll =>
    -- only the state of the poller changes
    refine ⟨h.seq, h.started, h.kept, ?_, ?_, ?_⟩
    · have hr := h.responses
      unfold FdLooper.current at hr ⊢
      rw [hpoll] at hr
      exact hr
    · have hb := h.bounded
      unfold FdLooper.position at hb ⊢
      rw [hpoll] at hb
      exact hb
    · have hi := h.invoked
      unfold FdLooper.position at hi ⊢
      rw [hpoll] at hi
      exact hi
  | finish epollOk hpoll hresponse => exact h.finish epollOk hpoll
  | @pollReturns i hpoll hend =>
    -- the batch is done
    have hb := h.bounded
    have hposition : s.position = i := by unfold FdLooper.position; rw [hpoll]
    have hlen : i = s.batch.length := by
      rw [hposition] at hb
      exact Nat.le_antisymm hb (h.responses.1 ▸ hend)
    refine ⟨h.seq, h.started, h.kept, ⟨h.responses.1, fun j hj => ?_⟩, Nat.le_refl _, ?_⟩
    · have hj' : s.batch.length ≤ j := hj
      exact (List.getElem?_eq_none (h.responses.1 ▸ hj')).trans (List.getElem?_eq_none hj').symm
    · have hi := h.invoked
      rw [hposition, hlen] at hi
      exact hi

end BatchInv

/-! ### The results -/

theorem BatchInv.reachable {s : FdLooper Callback} (h : (fdRuns Callback).Reachable s) :
    BatchInv s := by
  refine @Lts.Reachable.invariant _ _ _ BatchInv ?_ ?_ _ h
  · rintro s ⟨mAllowNonCallbacks, mWakeReadPipeFd, rfl⟩
    exact BatchInv.start mAllowNonCallbacks mWakeReadPipeFd
  · intro s l t hinv hstep
    exact hinv.step hstep

/-- What the return of a callback changes. Nothing is removed when it returns something else than 0,
and otherwise nothing but its own file descriptor. -/
structure FinishSafe (s : FdLooper Callback) (i : ℕ) (response : Response Callback)
    (callbackResult : ℤ) (epollOk : Bool) : Prop where
  /-- The callback was invoked for what was collected. -/
  collected : s.batch[i]? = some response
  /-- A callback that returns something else stays registered, and all others do. -/
  nonzero : callbackResult ≠ 0 → (s.finish i response callbackResult epollOk).mRequests =
      s.mRequests
  others : ∀ fd, fd ≠ response.request.fd →
    (s.finish i response callbackResult epollOk).mRequests fd = s.mRequests fd
  /-- After a callback that returns 0, its file descriptor is not registered. -/
  removed : callbackResult = 0 → epollOk = true →
    (s.finish i response callbackResult epollOk).mRequests response.request.fd = none
  /-- What was registered when the responses were collected, and is removed, is the registration of
  the callback. -/
  own : ∀ request, s.mRequests response.request.fd = some request → request.seq < s.batchStart →
    (s.finish i response callbackResult epollOk).mRequests response.request.fd ≠ some request →
    request = response.request

theorem finish_mRequests (s : FdLooper Callback) (i : ℕ) (response : Response Callback)
    (callbackResult : ℤ) (epollOk : Bool) : (s.finish i response callbackResult epollOk).mRequests =
      if callbackResult = 0 then (s.removeFd response.request.fd epollOk).2.mRequests
      else s.mRequests := by
  unfold FdLooper.finish
  split <;> rfl

/-- **The callbacks of a batch.** They are invoked in order, each once, whatever is unregistered
meanwhile. When one returns, only the registration of its file descriptor may go, and of those that
were there when the batch was collected only its own. -/
theorem callbacks_run_once {s : FdLooper Callback} (h : (fdRuns Callback).Reachable s) :
    s.invoked = (s.batch.take s.position).filter Response.isCallback ∧
      ∀ i response callbackResult epollOk, s.poller = .returned i callbackResult →
        s.mResponses[i]? = some response → FinishSafe s i response callbackResult epollOk := by
  have hinv := BatchInv.reachable h
  refine ⟨hinv.invoked, fun i response callbackResult epollOk hpoll hresponse => ?_⟩
  have hcurrent : s.current = i := by unfold FdLooper.current; rw [hpoll]
  -- the response that is done has not been touched since the batch was made
  have hbatch : s.batch[i]? = some response := by
    rw [← hinv.responses.2 i (Nat.le_of_eq hcurrent)]
    exact hresponse
  refine ⟨hbatch, fun hne => ?_, fun fd hfd => ?_, fun hzero hok => ?_,
    fun request hreq hlt _ => ?_⟩
  · rw [finish_mRequests, if_neg hne]
  · rw [finish_mRequests]
    split
    · unfold FdLooper.removeFd
      split
      · rfl
      · split
        · exact Function.update_of_ne hfd ..
        · rfl
    · rfl
  · rw [finish_mRequests, if_pos hzero]
    -- the requests of the other descriptors stay
    unfold FdLooper.removeFd
    cases hreq : s.mRequests response.request.fd with
    | none => exact hreq
    | some request =>
      dsimp only
      rw [if_pos hok]
      exact Function.update_self ..
  · exact hinv.kept response (List.mem_of_getElem? hbatch) request hreq hlt

/-- Two file descriptors are registered and have events, and the callback of the first one runs. -/
def invokingFirst : FdLooper Bool :=
  ((((FdLooper.start false 3).addFd 5 0 (some true) 0 true).2.addFd 6 0
    (some false) 0 true).2.collect
    [(5, 1), (6, 1)]).invoke 0 ⟨1, ⟨5, pollCallback, some true, 0, 0⟩⟩

theorem invokingFirst_reachable : (fdRuns Bool).Reachable invokingFirst :=
  .step (.step (.step (.step (.init ⟨false, 3, rfl⟩) (.addFd _ 5 0 (some true) 0 true))
    (.addFd _ 6 0 (some false) 0 true)) (.pollInner _ [(5, 1), (6, 1)] rfl))
      (.handleEvent _ rfl rfl)

/-- The callback returns 0. -/
theorem callbacks_run_once_first : ∃ s : FdLooper Bool, s.poller = .returned 0 0 ∧
    s.invoked = (s.batch.take s.position).filter Response.isCallback ∧
      ∀ i response callbackResult epollOk, s.poller = .returned i callbackResult →
        s.mResponses[i]? = some response → FinishSafe s i response callbackResult epollOk :=
  ⟨_, rfl, callbacks_run_once (.step invokingFirst_reachable (FdSteps.callbackReturns _ 0 rfl))⟩

/-- The callback of the first response unregisters the other file descriptor. The callback of that
one is invoked nevertheless. -/
theorem unregistered_callback_runs : ∃ (s₁ s₂ s t : FdLooper Bool)
    (tr : List (FdLooper Bool × FdStep Bool))
    (response : Response Bool), (fdRuns Bool).Reachable s₁ ∧ s₁.poller = .invoking 0 ∧
      FdSteps s₁ (.removeFd 6 true) s₂ ∧ Lts.Run (fdRuns Bool) s₂ tr s ∧ s.mRequests 6 = none ∧
      FdSteps s .handleEvent t ∧ response.request.fd = 6 ∧ t.invoked = s.invoked ++ [response] := by
  let neighbour : Response Bool := ⟨1, ⟨6, pollCallback, some false, 0, 1⟩⟩
  have hreturns : (fdRuns Bool).step (invokingFirst.removeFd 6 true).2 (.callbackReturns 1) _ :=
    FdSteps.callbackReturns _ 1 rfl
  have hrun := (Lts.Run.nil.snoc hreturns).snoc (FdSteps.finish _ true rfl rfl)
  exact ⟨_, _, _, _, _, neighbour, invokingFirst_reachable, rfl, .removeFd _ 6 true, hrun, rfl,
    @FdSteps.handleEvent _ _ 1 neighbour rfl rfl, rfl, rfl⟩

end Shims

end BlueCommon
