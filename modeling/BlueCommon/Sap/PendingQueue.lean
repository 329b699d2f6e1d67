import BlueCommon.Lib.Lts
import BlueCommon.Sap.ApduRequest
import Mathlib.Data.List.Nodup

/-!
# The queue of the dispatched requests

`dispatchRequest` puts a request at the front of `pendingResponseQueue`. `onRequestComplete` is
given the request itself, but looks the queue through for the message id and the token of its
header, so that it dequeues the newest request with that pair.

* `sapQueue`: runs of `dispatchRequest` on new messages and of completions by the vendor, in any
  order.
* `QueueInv`: what the requests in the queue are made of.
* `queueExact_iff_newest`: the queue stays exact if and only if only newest requests are completed.
* `older_request_completed_first`: two requests with one pair.

The completion looks for the first request in the queue that has the pair of the one it was given.
This is the one itself exactly if no newer request has its pair (`find_iff_newest`). A completion
that finds its own request keeps the invariant (`QueueInv.step`); one that finds another takes out a
request that is still outstanding and leaves its own (`QueueInv.step_bad`). `Lts.good_iff_ok` makes
the equivalence over runs out of the two.
-/

namespace BlueCommon

namespace Sap

open Interaction Program

/-! ### Runs -/

/-- Allocations succeed or fail. -/
abbrev anySem (t : ℕ) : Semantics sapSignature SapState := SapOp.sem (fun _ _ => True) t

/-- A new message with its payload, made by the thread `t`. -/
def SapState.newMessage (s : SapState) (t : ℕ) (id : MsgId) (token : ℤ) (data : PbBytesArray) :
    SapState :=
  (((s.allocated t .payload).writeData s.next data).allocated t .header).writeHeader (s.next + 1)
    ⟨token, id, some s.next⟩

inductive QueueLabel
  | dispatch (id : MsgId) (token : ℤ)
  | complete (request : Ptr)

/-- `dispatchRequest` is called for a new message, or the vendor completes a request that it has. -/
inductive QueueStep (pb : Nanopb) : SapState → QueueLabel → SapState → Prop
  | dispatch {s s' : SapState} {t : ℕ} {id : MsgId} {token : ℤ} {data : PbBytesArray} {a : Unit}
      (h : (dispatchRequest pb (s.next + 1)).Runs (anySem t) (s.newMessage t id token data) a s') :
      QueueStep pb s (.dispatch id token) s'
  | complete {s s' : SapState} {t : ℕ} {request : Ptr} {response : List UInt8} {a : Unit}
      (h : (sOnRequestComplete pb request response).Runs (anySem t) s a s') :
      QueueStep pb s (.complete request) s'

/-- No request has been dispatched yet: the queue is empty, and the vendor has none. -/
structure SapState.Initial (s : SapState) : Prop where
  socket : s.socket = true
  queue : s.pendingResponseQueue = []
  outstanding : s.outstanding = []
  given : ∀ q, s.given q = false
  fresh : ∀ p, s.next ≤ p → s.live p = false

/-- The queue of the socket over time: requests are dispatched and completed one after the other. -/
def sapQueue (pb : Nanopb) : Lts SapState QueueLabel where
  init := SapState.Initial
  step := QueueStep pb

/-- **The queue is exact**: it holds the requests that have been dispatched and not been completed,
in order, and each has a header. -/
structure QueueExact (s : SapState) : Prop where
  queue : s.pendingResponseQueue = s.outstanding
  headers : ∀ q ∈ s.pendingResponseQueue, s.live (s.requests q).curr = true

/-- The two requests carry the same message id and token. -/
def SamePair (s : SapState) (q q' : Ptr) : Prop :=
  (s.requests q).token = (s.requests q').token ∧
    (s.headers (s.requests q).curr).id = (s.headers (s.requests q').curr).id

instance (s : SapState) (q q' : Ptr) : Decidable (SamePair s q q') :=
  inferInstanceAs (Decidable (_ ∧ _))

/-- If the step completes a request, no newer request in the queue has its pair of message id and
token. The queue is searched from its newest end. -/
def CompletesNewest (s : SapState) (l : QueueLabel) : Prop :=
  ∀ q, l = .complete q → ∃ newer older, s.pendingResponseQueue = newer ++ q :: older ∧
    ∀ q' ∈ newer, ¬ SamePair s q q'

/-! ### The invariant -/

/-- **The requests in the queue**: their objects are live and all different. -/
structure QueueInv (s : SapState) : Prop where
  socket : s.socket = true
  queue : s.pendingResponseQueue = s.outstanding
  nodup : s.pendingResponseQueue.Nodup
  live : ∀ q ∈ s.pendingResponseQueue, s.live q = true
  headers : ∀ q ∈ s.pendingResponseQueue, s.live (s.requests q).curr = true
  curr_inj : ∀ q ∈ s.pendingResponseQueue, ∀ q' ∈ s.pendingResponseQueue,
    (s.requests q).curr = (s.requests q').curr → q = q'
  curr_ne : ∀ q ∈ s.pendingResponseQueue, ∀ q' ∈ s.pendingResponseQueue, (s.requests q).curr ≠ q'
  token : ∀ q ∈ s.pendingResponseQueue,
    (s.requests q).token = (s.headers (s.requests q).curr).token
  given : ∀ q, s.given q = true → q ∈ s.pendingResponseQueue
  fresh : ∀ p, s.next ≤ p → s.live p = false

theorem QueueInv.exact {s : SapState} (inv : QueueInv s) : QueueExact s := ⟨inv.queue, inv.headers⟩

theorem SapState.Initial.queueInv {s : SapState} (h : s.Initial) : QueueInv s where
  socket := h.socket
  queue := h.queue.trans h.outstanding.symm
  nodup := by
    rw [h.queue]
    exact List.nodup_nil
  live q hq := by
    rw [h.queue] at hq
    cases hq
  headers q hq := by
    rw [h.queue] at hq
    cases hq
  curr_inj q hq := by
    rw [h.queue] at hq
    cases hq
  curr_ne q hq := by
    rw [h.queue] at hq
    cases hq
  token q hq := by
    rw [h.queue] at hq
    cases hq
  given q hq := by
    rw [h.given] at hq
    cases hq
  fresh := h.fresh

/-! ### What a completion looks for -/

/-- The request carries this message id and token. -/
def HasPair (s : SapState) (id : MsgId) (token : ℤ) (q : Ptr) : Prop :=
  token = (s.requests q).token ∧ id = (s.headers (s.requests q).curr).id

instance (s : SapState) (id : MsgId) (token : ℤ) (q : Ptr) : Decidable (HasPair s id token q) :=
  inferInstanceAs (Decidable (_ ∧ _))

section Find

variable {s : SapState} {id : MsgId} {token : ℤ}

/-- The loop stops at the first request with the pair. -/
theorem checkAndDequeueLoop_fst (rest : List Ptr) (s : SapState) :
    (SapState.checkAndDequeueLoop id token rest s).1 =
      rest.find? fun q => decide (HasPair s id token q) := by
  induction rest generalizing s with
  | nil => rfl
  | cons cur rest ih =>
    have htouch : ∀ p q, HasPair (s.touch p) id token q ↔ HasPair s id token q := fun _ _ => Iff.rfl
    unfold SapState.checkAndDequeueLoop
    dsimp only
    rw [List.find?_cons]
    split
    · -- the token fits, so the id decides
      next htoken =>
      split
      · next hid =>
        rw [decide_eq_true (show HasPair s id token cur from ⟨htoken, hid⟩)]
      · next hid =>
        rw [decide_eq_false fun hpair : HasPair s id token cur => hid hpair.2]
        exact ih _
    · -- another token: the loop goes on with the rest
      next htoken =>
      rw [decide_eq_false fun hpair : HasPair s id token cur => htoken hpair.1]
      exact ih _

/-- What `checkAndDequeue` leaves behind. -/
theorem checkAndDequeue_found {q : Ptr}
    (h : (s.pendingResponseQueue.find? fun q => decide (HasPair s id token q)) = some q) :
    ∃ faulty, (s.checkAndDequeue id token).2 = { s with
      pendingResponseQueue := s.pendingResponseQueue.erase q
      live := Function.update s.live q false
      faulty := faulty } := by
  obtain ⟨faulty, hloop⟩ := SapState.checkAndDequeueLoop_snd id token s.pendingResponseQueue s
  have hfst := @checkAndDequeueLoop_fst id token s.pendingResponseQueue s
  rw [h] at hfst
  unfold SapState.checkAndDequeue
  rw [show SapState.checkAndDequeueLoop id token s.pendingResponseQueue s =
    (some q, { s with faulty := faulty }) from Prod.ext hfst hloop]
  exact ⟨_, rfl⟩

end Find

/-! ### Messages to the client -/

/-- The operations that tell the client something. -/
def SapOp.IsMessaging : SapOp → Prop
  | .getSapCallback | .call _ | .resetSapCallback => True
  | _ => False

section Messaging

variable {pb : Nanopb} {t : ℕ} {s s' : SapState}

theorem checkReturnStatus_isMessaging (isOk : Bool) :
    (checkReturnStatus isOk).Only SapOp.IsMessaging := by
  cases isOk with
  | false => exact ⟨trivial, fun _ => trivial⟩
  | true => trivial

theorem processResponse_isMessaging (id : MsgId) (token : ℤ) (response : List UInt8) :
    (processResponse pb id token response).Only SapOp.IsMessaging := by
  refine ⟨trivial, fun (sapCallback : Bool) => ?_⟩
  show (ite (sapCallback = false) (pure ()) (ite _ _ _) : Code Unit).Only SapOp.IsMessaging
  split
  · trivial
  split
  · cases id with
    | other value => trivial
    | _ => exact ⟨trivial, fun isOk => checkReturnStatus_isMessaging isOk⟩
  · cases id with
    | other value => trivial
    | _ => exact ⟨trivial, fun isOk => checkReturnStatus_isMessaging isOk⟩

/-- Telling the client something changes neither the objects nor the queue. -/
theorem messaging_runs {α : Type} {code : Code α} {a : α} (hcode : code.Only SapOp.IsMessaging)
    (h : code.Runs (anySem t) s a s') :
    ∃ sapCallback log, s' = { s with sapCallback := sapCallback, log := log } := by
  refine Only.invariant
    (fun u => ∃ sapCallback log, u = { s with sapCallback := sapCallback, log := log })
    (fun o r u u' ho hsem hu => ?_) hcode h ⟨s.sapCallback, s.log, rfl⟩
  obtain ⟨sapCallback, log, rfl⟩ := hu
  cases o with
  -- the three commands of a message write the callback and the log
  | getSapCallback =>
    obtain ⟨-, rfl⟩ := hsem
    exact ⟨_, _, rfl⟩
  | call e =>
    obtain rfl := hsem
    exact ⟨_, _, rfl⟩
  | resetSapCallback =>
    obtain rfl := hsem
    exact ⟨_, _, rfl⟩
  | _ => exact ho.elim

end Messaging

/-! ### Completion -/

/-- The queue, the requests and their headers are the same in both states. -/
structure SameQueue (s s' : SapState) : Prop where
  socket : s'.socket = s.socket
  queue : s'.pendingResponseQueue = s.pendingResponseQueue
  outstanding : s'.outstanding = s.outstanding
  headers : s'.headers = s.headers
  requests : s'.requests = s.requests
  given : s'.given = s.given
  live : s'.live = s.live
  next : s.next ≤ s'.next

/-- The request `temp` has left the queue, and the header of `q` has been freed. -/
structure Retired (s : SapState) (q temp : Ptr) (s' : SapState) : Prop where
  socket : s'.socket = s.socket
  queue : s'.pendingResponseQueue = s.pendingResponseQueue.erase temp
  outstanding : s'.outstanding = s.outstanding.erase q
  headers : s'.headers = s.headers
  requests : s'.requests = s.requests
  given : s'.given = s.given
  live : s'.live = Function.update (Function.update s.live temp false) (s.requests q).curr false
  next : s.next ≤ s'.next

section Completion

variable {pb : Nanopb} {t : ℕ} {s s' : SapState} {q temp : Ptr} {response : List UInt8}

/-- The object for the response is freed again. -/
theorem sendResponse_runs (hfresh : s.live s.next = false) {header : MsgHeader} {a : Unit}
    (h : (sendResponse pb header response).Runs (anySem t) s a s') : SameQueue s s' := by
  unfold sendResponse at h
  replace h := runs_op_bind.mp h
  obtain ⟨r, s₁, hallocate, h⟩ := h
  rcases hallocate with ⟨-, rfl, rfl⟩ | ⟨-, rfl, rfl⟩
  · -- no memory for the response: nothing was sent
    obtain ⟨-, rfl⟩ := h
    exact ⟨rfl, rfl, rfl, rfl, rfl, rfl, rfl, Nat.le_refl _⟩
  · replace h := runs_op_bind.mp h
    obtain ⟨_, s₁, hwrite, h⟩ := h
    obtain rfl : s₁ = (s.allocated t .response).writeData s.next ⟨response.length, response⟩ :=
      hwrite
    replace h := (runs_bind _ _).mp h
    obtain ⟨_, s₂, hprocess, h⟩ := h
    -- sending it changes nothing that the queue depends on
    obtain ⟨sapCallback, log, rfl⟩ := messaging_runs (processResponse_isMessaging _ _ _) hprocess
    obtain ⟨_, _, rfl, -, rfl⟩ := h
    refine ⟨rfl, rfl, rfl, rfl, rfl, rfl, ?_, Nat.le_succ _⟩
    -- the response was freed, and its address was free before
    show Function.update (Function.update s.live s.next true) s.next false = s.live
    rw [Function.update_idem, ← hfresh, Function.update_eq_self]

/-- **What `onRequestComplete` does** for a request in the queue: the first request with its pair
leaves the queue, and its own header is freed. -/
theorem onRequestComplete_runs (inv : QueueInv s) (hq : q ∈ s.pendingResponseQueue) {a : Unit}
    (h : (onRequestComplete pb q response).Runs (anySem t) s a s') :
    ∃ temp, (s.pendingResponseQueue.find? fun q' => decide (SamePair s q q')) = some temp ∧
      Retired s q temp s' := by
  have hlive := inv.live q hq
  have hheader := inv.headers q hq
  -- the request itself has its own pair, so the search finds one
  have hfind : ∃ temp,
      (s.pendingResponseQueue.find? fun q' => decide (SamePair s q q')) = some temp := by
    rw [← Option.isSome_iff_exists, List.find?_isSome]
    exact ⟨q, hq, decide_eq_true ⟨rfl, rfl⟩⟩
  obtain ⟨temp, htemp⟩ := hfind
  refine ⟨temp, htemp, ?_⟩
  unfold onRequestComplete at h
  replace h := runs_op_bind.mp h
  obtain ⟨request, s₁, ⟨hrequest, rfl⟩, h⟩ := h
  -- the request and its header are alive
  obtain rfl : request = s.requests q := hrequest hlive
  replace h := runs_op_bind.mp h
  obtain ⟨header, s₁, ⟨-, rfl⟩, h⟩ := h
  replace h := (runs_bind _ _).mp h
  obtain ⟨_, s₃, hsend, h⟩ := h
  -- the response is sent before the request is dequeued
  have hsame : SameQueue ((s.touch q).touch (s.requests q).curr) s₃ :=
    @sendResponse_runs _ _ ((s.touch q).touch (s.requests q).curr) _ _
      (inv.fresh _ (Nat.le_refl _)) _ _ hsend
  replace h := runs_op_bind.mp h
  obtain ⟨header', s₄, ⟨hheader', rfl⟩, h⟩ := h
  obtain rfl : header' = s.headers (s.requests q).curr := by
    rw [hheader' (by rw [hsame.live]; exact hheader), hsame.headers]
    rfl
  replace h := runs_op_bind.mp h
  obtain ⟨found, s₅, ⟨-, rfl⟩, h⟩ := h
  obtain ⟨_, s₆, rfl, -, rfl⟩ := h
  -- the search is for the pair of the header
  have hpair : ∀ q', HasPair (s₃.touch (s.requests q).curr) (s.headers (s.requests q).curr).id
      (s.headers (s.requests q).curr).token q' ↔ SamePair s q q' := by
    intro q'
    show _ = (s₃.requests q').token ∧ _ = (s₃.headers (s₃.requests q').curr).id ↔ _
    rw [hsame.requests, hsame.headers, ← inv.token q hq]
    exact Iff.rfl
  have hqueue : (s₃.touch (s.requests q).curr).pendingResponseQueue = s.pendingResponseQueue :=
    hsame.queue
  obtain ⟨faulty, hdequeue⟩ := @checkAndDequeue_found (s₃.touch (s.requests q).curr)
    (s.headers (s.requests q).curr).id (s.headers (s.requests q).curr).token temp (by
      rw [hqueue]
      simp only [hpair]
      exact htemp)
  rw [hdequeue]
  refine ⟨hsame.socket, ?_, ?_, hsame.headers, hsame.requests, hsame.given, ?_, hsame.next⟩
  · -- the first request with that pair leaves the queue, and it need not be `q`
    exact congrArg (fun xs => List.erase xs temp) hsame.queue
  · exact congrArg (fun xs => List.erase xs q) hsame.outstanding
  · -- it is freed, and then the header of `q`
    show Function.update (Function.update s₃.live temp false) _ false = _
    rw [hsame.live]
    rfl

theorem QueueInv.begun (inv : QueueInv s) (q : Ptr) : QueueInv (s.begun q) :=
  { inv with
    given := fun q' hq' => by
      rw [SapState.begun_given] at hq'
      rcases eq_or_ne q' q with rfl | hne
      · rw [Function.update_self] at hq'
        cases hq'
      · rw [Function.update_of_ne hne] at hq'
        exact inv.given q' hq' }

/-- A completion by the vendor. -/
theorem sOnRequestComplete_runs (inv : QueueInv s) {a : Unit}
    (h : (sOnRequestComplete pb q response).Runs (anySem t) s a s') :
    s.given q = true ∧ ∃ temp,
      (s.pendingResponseQueue.find? fun q' => decide (SamePair s q q')) = some temp ∧
      Retired (s.begun q) q temp s' := by
  unfold sOnRequestComplete at h
  replace h := runs_op_bind.mp h
  obtain ⟨_, s₁, ⟨hgiven, rfl⟩, h⟩ := h
  replace h := runs_op_bind.mp h
  obtain ⟨sapSocket, s₁, ⟨hsocket, rfl⟩, h⟩ := h
  obtain rfl : sapSocket = true := hsocket.trans inv.socket
  rw [if_pos rfl] at h
  refine ⟨hgiven, ?_⟩
  exact onRequestComplete_runs (inv.begun q) (inv.given q hgiven) h

/-- If the request itself leaves the queue, the others stay as they are. They and their headers are
other blocks than the two that are freed. -/
theorem QueueInv.retired (inv : QueueInv s) (hq : q ∈ s.pendingResponseQueue)
    (hgiven : s.given q = false) (h : Retired s q q s') : QueueInv s' := by
  -- with the request itself dequeued, the queue is as before without it
  have hmem : ∀ q', q' ∈ s'.pendingResponseQueue ↔ q' ≠ q ∧ q' ∈ s.pendingResponseQueue := by
    intro q'
    rw [h.queue, inv.nodup.mem_erase_iff]
  have hlive : ∀ p, p ≠ q → p ≠ (s.requests q).curr → s'.live p = s.live p := by
    intro p hp hp'
    rw [h.live, Function.update_of_ne hp', Function.update_of_ne hp]
  exact
    { socket := h.socket.trans inv.socket
      queue := by rw [h.queue, h.outstanding, inv.queue]
      nodup := by
        rw [h.queue]
        exact inv.nodup.erase q
      -- the others are alive, because they are no headers
      live := fun q' hq' => by
        obtain ⟨hne, hq'⟩ := (hmem q').mp hq'
        rw [hlive q' hne (inv.curr_ne q hq q' hq').symm]
        exact inv.live q' hq'
      headers := fun q' hq' => by
        obtain ⟨hne, hq'⟩ := (hmem q').mp hq'
        rw [h.requests, hlive _ (inv.curr_ne q' hq' q hq)
          fun heq => hne (inv.curr_inj q' hq' q hq heq)]
        exact inv.headers q' hq'
      curr_inj := fun q₁ h₁ q₂ h₂ heq => by
        rw [h.requests] at heq
        exact inv.curr_inj q₁ ((hmem q₁).mp h₁).2 q₂ ((hmem q₂).mp h₂).2 heq
      curr_ne := fun q₁ h₁ q₂ h₂ => by
        rw [h.requests]
        exact inv.curr_ne q₁ ((hmem q₁).mp h₁).2 q₂ ((hmem q₂).mp h₂).2
      token := fun q' hq' => by
        rw [h.requests, h.headers]
        exact inv.token q' ((hmem q').mp hq').2
      given := fun q' hq' => by
        rw [h.given] at hq'
        refine (hmem q').mpr ⟨?_, inv.given q' hq'⟩
        rintro rfl
        rw [hgiven] at hq'
        cases hq'
      -- nothing that was freed is above the next address
      fresh := fun p hp => by
        have hdead := inv.fresh p (Nat.le_trans h.next hp)
        rw [h.live]
        rcases eq_or_ne p (s.requests q).curr with rfl | hne
        · rw [Function.update_self]
        · rw [Function.update_of_ne hne]
          rcases eq_or_ne p q with rfl | hne'
          · rw [Function.update_self]
          · rw [Function.update_of_ne hne', hdead] }

/-- If another request leaves the queue, the queue is not exact any more. -/
theorem QueueInv.not_exact_of_retired (inv : QueueInv s) (htemp : temp ∈ s.pendingResponseQueue)
    (hne : temp ≠ q) (h : Retired s q temp s') : ¬ QueueExact s' := by
  intro hexact
  have hmem : temp ∈ s'.pendingResponseQueue := by
    rw [hexact.queue, h.outstanding, ← inv.queue]
    exact (List.mem_erase_of_ne hne).mpr htemp
  rw [h.queue] at hmem
  exact inv.nodup.not_mem_erase hmem

end Completion

/-! ### Dispatch -/

/-- The header of a new message: no request in the queue has it. -/
structure NewHeader (s : SapState) (req : Ptr) : Prop where
  live : s.live req = true
  lt : req < s.next
  curr : ∀ q ∈ s.pendingResponseQueue, (s.requests q).curr ≠ req
  queue : req ∉ s.pendingResponseQueue

/-- The request `q` for the header `req` has entered the queue. -/
structure Enqueued (s : SapState) (q req : Ptr) (s' : SapState) : Prop where
  socket : s'.socket = s.socket
  uimFuncs : s'.uimFuncs = s.uimFuncs
  queue : s'.pendingResponseQueue = q :: s.pendingResponseQueue
  outstanding : s'.outstanding = q :: s.outstanding
  headers : s'.headers = s.headers
  requests : s'.requests = Function.update s.requests q ⟨(s.headers req).token, req⟩
  given : s'.given = s.given
  live : s'.live = Function.update s.live q true
  next : s'.next = q + 1

section Dispatch

variable {pb : Nanopb} {t : ℕ} {s s' : SapState} {q req : Ptr}

/-- Freeing an object that no request has. -/
theorem QueueInv.release (inv : QueueInv s) (hcurr : ∀ q ∈ s.pendingResponseQueue,
    (s.requests q).curr ≠ req) (hqueue : req ∉ s.pendingResponseQueue) :
    QueueInv (s.release req) :=
  { inv with
    -- the freed block is in no use by the queue
    live := fun q hq => by
      have hne : q ≠ req := by
        rintro rfl
        exact hqueue hq
      rw [SapState.release_live, Function.update_of_ne hne]
      exact inv.live q hq
    headers := fun q hq => by
      show (s.release req).live (s.requests q).curr = true
      rw [SapState.release_live, Function.update_of_ne (hcurr q hq)]
      exact inv.headers q hq
    -- nor does it come back
    fresh := fun p hp => by
      rw [SapState.release_live]
      rcases eq_or_ne p req with rfl | hne
      · rw [Function.update_self]
      · rw [Function.update_of_ne hne]
        exact inv.fresh p hp }

/-- A new request enters the queue. It is a block that was not live, and its header was given to no
other request. -/
theorem QueueInv.enqueued (inv : QueueInv s) (hreq : NewHeader s req)
    (h : Enqueued s s.next req s') : QueueInv s' := by
  -- the new request is a block that was not live
  have hfresh : s.next ∉ s.pendingResponseQueue := by
    intro hmem
    have hlive := inv.live _ hmem
    rw [inv.fresh _ (Nat.le_refl _)] at hlive
    cases hlive
  have hrequest : ∀ q ∈ s.pendingResponseQueue, s'.requests q = s.requests q := by
    intro q hq
    have hne : q ≠ s.next := by
      rintro rfl
      exact hfresh hq
    rw [h.requests, Function.update_of_ne hne]
  have hnew : s'.requests s.next = ⟨(s.headers req).token, req⟩ := by
    rw [h.requests, Function.update_self]
  -- the blocks that were live still are
  have hlive : ∀ p, s.live p = true → s'.live p = true := by
    intro p hp
    rw [h.live]
    rcases eq_or_ne p s.next with rfl | hne
    · rw [Function.update_self]
    · rw [Function.update_of_ne hne, hp]
  have hmem : ∀ q, q ∈ s'.pendingResponseQueue ↔ q = s.next ∨ q ∈ s.pendingResponseQueue := by
    intro q
    rw [h.queue, List.mem_cons]
  -- the header of each request in the queue, and that it is no request
  have hcurr_next : ∀ q ∈ s.pendingResponseQueue, (s.requests q).curr ≠ s.next := by
    intro q hq heq
    have hheader := inv.headers q hq
    rw [heq, inv.fresh _ (Nat.le_refl _)] at hheader
    cases hheader
  exact
    { socket := h.socket.trans inv.socket
      queue := by rw [h.queue, h.outstanding, inv.queue]
      nodup := by
        rw [h.queue]
        exact List.nodup_cons.mpr ⟨hfresh, inv.nodup⟩
      -- the queue has the new request in front
      live := fun q hq => by
        rcases (hmem q).mp hq with rfl | hq
        · rw [h.live, Function.update_self]
        · exact hlive q (inv.live q hq)
      headers := fun q hq => by
        rcases (hmem q).mp hq with rfl | hq
        · rw [hnew]
          exact hlive req hreq.live
        · rw [hrequest q hq]
          exact hlive _ (inv.headers q hq)
      -- the new header was given to no other request
      curr_inj := fun q₁ h₁ q₂ h₂ heq => by
        rcases (hmem q₁).mp h₁ with rfl | h₁ <;> rcases (hmem q₂).mp h₂ with rfl | h₂
        · rfl
        · rw [hnew, hrequest q₂ h₂] at heq
          exact absurd heq.symm (hreq.curr q₂ h₂)
        · rw [hnew, hrequest q₁ h₁] at heq
          exact absurd heq (hreq.curr q₁ h₁)
        · rw [hrequest q₁ h₁, hrequest q₂ h₂] at heq
          exact inv.curr_inj q₁ h₁ q₂ h₂ heq
      -- and no request is a header
      curr_ne := fun q₁ h₁ q₂ h₂ => by
        rcases (hmem q₁).mp h₁ with rfl | h₁ <;> rcases (hmem q₂).mp h₂ with rfl | h₂
        · rw [hnew]
          exact Nat.ne_of_lt hreq.lt
        · rw [hnew]
          rintro rfl
          exact hreq.queue h₂
        · rw [hrequest q₁ h₁]
          exact hcurr_next q₁ h₁
        · rw [hrequest q₁ h₁]
          exact inv.curr_ne q₁ h₁ q₂ h₂
      token := fun q hq => by
        rcases (hmem q).mp hq with rfl | hq
        · rw [hnew, h.headers]
        · rw [hrequest q hq, h.headers]
          exact inv.token q hq
      given := fun q hq => by
        rw [h.given] at hq
        exact (hmem q).mpr (.inr (inv.given q hq))
      -- the next address has gone up by one
      fresh := fun p hp => by
        rw [h.next] at hp
        rw [h.live, Function.update_of_ne (Nat.ne_of_gt hp)]
        exact inv.fresh p (Nat.le_of_succ_le hp) }

/-- What `dispatchRequest` does up to the call of the vendor. -/
theorem enqueued_next (s : SapState) (t : ℕ) (req : Ptr) : Enqueued s s.next req
    ((((s.allocated t .request).touch req).writeRequest s.next
      ⟨(s.headers req).token, req⟩).enqueue s.next) where
  socket := by simp
  uimFuncs := by simp
  queue := by simp
  outstanding := by simp
  headers := by ext p : 1; simp
  requests := rfl
  given := by ext p : 1; simp
  live := by ext p : 1; simp
  next := by simp

/-- The vendor gets a request of the queue. -/
theorem QueueInv.handedOver (inv : QueueInv s) (hq : q ∈ s.pendingResponseQueue) (id : MsgId)
    (data : List UInt8) (size : ℕ) : QueueInv (s.handedOver id data size q) :=
  { inv with
    given := fun q' hq' => by
      rw [SapState.handedOver_given] at hq'
      rcases eq_or_ne q' q with rfl | hne
      · exact hq
      · rw [Function.update_of_ne hne] at hq'
        exact inv.given q' hq' }

theorem QueueInv.touch (inv : QueueInv s) (p : Ptr) : QueueInv (s.touch p) := { inv with }

/-- A completion of the newest request. -/
theorem QueueInv.sOnRequestComplete (inv : QueueInv s) {response : List UInt8} {a : Unit}
    (hnewest : (s.pendingResponseQueue.find? fun q' => decide (SamePair s q q')) = some q)
    (h : (Sap.sOnRequestComplete pb q response).Runs (anySem t) s a s') : QueueInv s' := by
  obtain ⟨hgiven, temp, htemp, hretired⟩ := sOnRequestComplete_runs inv h
  obtain rfl : q = temp := Option.some.inj (hnewest.symm.trans htemp)
  exact (inv.begun q).retired (inv.given q hgiven) (Function.update_self _ _ _) hretired

/-- **`dispatchRequest` keeps the invariant**, also when the vendor completes the request at once:
the request is the newest. -/
theorem QueueInv.dispatchRequest (inv : QueueInv s) (hreq : NewHeader s req) {a : Unit}
    (h : (Sap.dispatchRequest pb req).Runs (anySem t) s a s') : QueueInv s' := by
  unfold Sap.dispatchRequest at h
  replace h := runs_op_bind.mp h
  obtain ⟨r, s₁, hallocate, h⟩ := h
  rcases hallocate with ⟨-, rfl, rfl⟩ | ⟨-, rfl, rfl⟩
  · -- out of memory: the header is freed
    obtain ⟨_, _, rfl, -, rfl⟩ := h
    exact inv.release hreq.curr hreq.queue
  · replace h := runs_op_bind.mp h
    -- the header is alive while the request is filled
    obtain ⟨header, _, ⟨hheader, rfl⟩, h⟩ := h
    obtain rfl : header = s.headers req := hheader (s.live_allocated t .request hreq.live)
    replace h := runs_op_bind.mp h
    obtain ⟨_, _, rfl, h⟩ := h
    replace h := runs_op_bind.mp h
    obtain ⟨_, _, rfl, h⟩ := h
    replace h := runs_op_bind.mp h
    obtain ⟨uimFuncs, _, ⟨rfl, rfl⟩, h⟩ := h
    -- the request is in the queue before the vendor hears of it
    have henqueued := enqueued_next s t req
    generalize (((s.allocated t .request).touch req).writeRequest s.next
      ⟨(s.headers req).token, req⟩).enqueue s.next = s₁ at h henqueued
    have inv₁ := inv.enqueued hreq henqueued
    split at h
    · replace h := runs_op_bind.mp h
      obtain ⟨header', _, ⟨-, rfl⟩, h⟩ := h
      split at h
      · -- a message without payload is not given out
        obtain ⟨-, rfl⟩ := h
        exact inv₁.touch req
      · next p _ =>
        replace h := runs_op_bind.mp h
        obtain ⟨payload, _, ⟨-, rfl⟩, h⟩ := h
        have inv₂ := (inv₁.touch req).touch p
        have hq : s.next ∈ ((s₁.touch req).touch p).pendingResponseQueue := by
          show s.next ∈ s₁.pendingResponseQueue
          rw [henqueued.queue]
          exact List.mem_cons_self
        unfold onRequest at h
        replace h := runs_op_bind.mp h
        obtain ⟨response, _, rfl, h⟩ := h
        have inv₃ := inv₂.handedOver hq header'.id payload.bytes payload.size
        -- the vendor answers later, or during the call
        cases response with
        | none =>
          obtain ⟨-, rfl⟩ := h
          exact inv₃
        | some response =>
          -- when it answers during the call, its request is the first of the queue
          refine inv₃.sOnRequestComplete ?_ h
          show s₁.pendingResponseQueue.find? _ = _
          rw [henqueued.queue]
          exact List.find?_cons_of_pos (decide_eq_true ⟨rfl, rfl⟩)
    · -- no functions to call: the request stays where it is
      obtain ⟨-, rfl⟩ := h
      exact inv₁

end Dispatch

/-! ### One step -/

section Step

variable {pb : Nanopb} {s s' : SapState} {t : ℕ} {q : Ptr} {l : QueueLabel}

/-- Memory for an object that is no request. -/
theorem QueueInv.allocated (inv : QueueInv s) (t : ℕ)
    (kind : Kind) : QueueInv (s.allocated t kind) :=
  { inv with
    live := fun q hq => s.live_allocated t kind (inv.live q hq)
    headers := fun q hq => s.live_allocated t kind (inv.headers q hq)
    fresh := fun p hp => by
      have hp' : s.next < p := Nat.lt_of_succ_le hp
      rw [SapState.allocated_live, Function.update_of_ne (Nat.ne_of_gt hp')]
      exact inv.fresh p (Nat.le_of_lt hp') }

/-- No request in the queue has the address that is allocated next. -/
theorem QueueInv.next_fresh (inv : QueueInv s) (t : ℕ) (kind : Kind) :
    NewHeader (s.allocated t kind) s.next where
  live := s.live_allocated_next t kind
  lt := Nat.lt_succ_self _
  curr q hq heq := by
    have hlive := inv.headers q hq
    rw [show (s.requests q).curr = s.next from heq, inv.fresh _ (Nat.le_refl _)] at hlive
    cases hlive
  queue hq := by
    have hlive := inv.live _ hq
    rw [inv.fresh _ (Nat.le_refl _)] at hlive
    cases hlive

/-- The header of a new message is filled in. -/
theorem QueueInv.writeHeader {req : Ptr} (inv : QueueInv s) (hreq : NewHeader s req)
    (msg : MsgHeader) : QueueInv (s.writeHeader req msg) :=
  { inv with
    token := fun q hq => by
      show (s.requests q).token = (Function.update s.headers req msg (s.requests q).curr).token
      rw [Function.update_of_ne (hreq.curr q hq)]
      exact inv.token q hq }

theorem QueueInv.newMessage (inv : QueueInv s) (t : ℕ) (id : MsgId) (token : ℤ)
    (data : PbBytesArray) :
    QueueInv (s.newMessage t id token data) ∧
      NewHeader (s.newMessage t id token data) (s.next + 1) := by
  have inv₁ : QueueInv ((s.allocated t .payload).writeData s.next data) :=
    { inv.allocated t .payload with }
  have hreq := inv₁.next_fresh t .header
  exact ⟨(inv₁.allocated t .header).writeHeader hreq _, { hreq with }⟩

/-- The search finds the completed request exactly if no newer one has its pair. -/
theorem find_iff_newest :
    (s.pendingResponseQueue.find? fun q' => decide (SamePair s q q')) = some q ↔
      CompletesNewest s (.complete q) := by
  rw [List.find?_eq_some_iff_append]
  constructor
  · rintro ⟨-, newer, older, hsplit, hnewer⟩ q' hq'
    cases hq'
    refine ⟨newer, older, hsplit, fun q' hq' => ?_⟩
    have hfalse := hnewer q' hq'
    simpa only [Bool.not_eq_true', decide_eq_false_iff_not] using hfalse
  · intro hnewest
    obtain ⟨newer, older, hsplit, hnewer⟩ := hnewest q rfl
    refine ⟨decide_eq_true ⟨rfl, rfl⟩, newer, older, hsplit, fun q' hq' => ?_⟩
    simpa only [Bool.not_eq_true', decide_eq_false_iff_not] using hnewer q' hq'

/-- A step that completes no request, or a newest one, keeps the invariant. -/
theorem QueueInv.step (inv : QueueInv s) (h : QueueStep pb s l s') (hok : CompletesNewest s l) :
    QueueInv s' := by
  cases h with
  | @dispatch _ t id token data _ hruns =>
    obtain ⟨inv₁, hreq⟩ := inv.newMessage t id token data
    exact inv₁.dispatchRequest hreq hruns
  | complete hruns => exact inv.sOnRequestComplete (find_iff_newest.mpr hok) hruns

/-- The completion of a request that is not the newest with its pair leaves the queue inexact. -/
theorem QueueInv.step_bad (inv : QueueInv s) (h : QueueStep pb s l s')
    (hbad : ¬ CompletesNewest s l) :
    ¬ QueueExact s' := by
  cases h with
  | dispatch hruns => exact absurd (fun q hq => nomatch hq) hbad
  | @complete _ _ q _ _ hruns =>
    obtain ⟨hgiven, temp, htemp, hretired⟩ := sOnRequestComplete_runs inv hruns
    have hne : temp ≠ q := by
      rintro rfl
      exact hbad (find_iff_newest.mp htemp)
    exact (inv.begun q).not_exact_of_retired (List.mem_of_find?_eq_some htemp) hne hretired

end Step

/-! ### Runs of the queue -/

/-- **When the completions retire their own requests.** In a run, the queue holds exactly the
requests that have been dispatched and not been completed, each with a live header, in every state
if and only if every request is completed as the newest in the queue with its message id and
token. -/
theorem queueExact_iff_newest (pb : Nanopb) {s s' : SapState} {tr : List (SapState × QueueLabel)}
    (h0 : s.Initial) (h : (sapQueue pb).Run s tr s') :
    (∀ u ∈ Lts.visited tr s', QueueExact u) ↔ ∀ p ∈ tr, CompletesNewest p.1 p.2 :=
  @Lts.good_iff_ok _ _ (sapQueue pb) QueueInv QueueExact CompletesNewest
    (fun _ hinit => hinit.queueInv) (fun _ inv => inv.exact)
    (fun _ _ _ inv hstep hok => inv.step hstep hok)
    (fun _ _ _ inv hstep hbad => inv.step_bad hstep hbad) s s' tr h0 h

/-! ### Runs that exist -/

/-- The request `q` for a new message has been dispatched, and the vendor has it. -/
structure Taken (s : SapState) (id : MsgId) (token : ℤ) (q : Ptr) (s' : SapState) : Prop where
  uimFuncs : s'.uimFuncs = true
  queue : s'.pendingResponseQueue = q :: s.pendingResponseQueue
  given : s'.given = Function.update s.given q true
  pair : HasPair s' id token q
  older : ∀ q' ∈ s.pendingResponseQueue, ∀ {id' token'}, HasPair s id' token' q' →
    HasPair s' id' token' q'

section Existence

variable (pb : Nanopb) {s : SapState} {q : Ptr}

/-- With memory and a vendor that takes its time. The run of the function is given step by step; at
its end the request is in front of the queue, and the vendor has it. -/
theorem dispatchRequest_taken (huim : s.uimFuncs = true) {req p : Ptr}
    (hpayload : (s.headers req).payload = some p)
    (hfresh : ∀ q ∈ s.pendingResponseQueue, q ≠ s.next) (t : ℕ) :
    ∃ s', (dispatchRequest pb req).Runs (anySem t) s () s' ∧
      Taken s (s.headers req).id (s.headers req).token s.next s' := by
  obtain ⟨s₁, hs₁⟩ : ∃ s₁, s₁ = (((s.allocated t .request).touch req).writeRequest s.next
      ⟨(s.headers req).token, req⟩).enqueue s.next := ⟨_, rfl⟩
  have henqueued : Enqueued s s.next req s₁ := by
    rw [hs₁]
    exact enqueued_next s t req
  refine ⟨((s₁.touch req).touch p).handedOver (s.headers req).id (s₁.data p).bytes (s₁.data p).size
    s.next, ?_, ?_⟩
  · -- memory for the request, the functions, and an answer that comes later
    refine ⟨some s.next, _, .inr ⟨trivial, rfl, rfl⟩, s.headers req, _, ⟨fun _ => rfl, rfl⟩, (), _,
      rfl, (), s₁, hs₁, runs_op_bind.mpr ⟨true, s₁, ⟨(henqueued.uimFuncs.trans huim).symm, rfl⟩,
        ?_⟩⟩
    rw [if_pos rfl]
    refine runs_op_bind.mpr ⟨s₁.headers req, _, ⟨fun _ => rfl, rfl⟩, ?_⟩
    rw [henqueued.headers, hpayload]
    exact ⟨s₁.data p, _, ⟨fun _ => rfl, rfl⟩, none, _, rfl, rfl, rfl⟩
  · -- the older requests keep their headers
    have hcurr : ∀ q ∈ s.pendingResponseQueue, s₁.requests q = s.requests q := by
      intro q hq
      rw [henqueued.requests, Function.update_of_ne (hfresh q hq)]
    refine ⟨henqueued.uimFuncs.trans huim, henqueued.queue, ?_, ?_, fun q hq _ _ hpair => ?_⟩
    · exact congrArg (fun given => Function.update given s.next true) henqueued.given
    · show _ = (s₁.requests s.next).token ∧ _ = (s₁.headers (s₁.requests s.next).curr).id
      rw [henqueued.headers, henqueued.requests, Function.update_self]
      exact ⟨rfl, rfl⟩
    · show _ = (s₁.requests q).token ∧ _ = (s₁.headers (s₁.requests q).curr).id
      rw [henqueued.headers, hcurr q hq]
      exact hpair

/-- A new message can be dispatched. The message of the request is made first; from there the
dispatch goes as in the lemma before. -/
theorem dispatch_step (inv : QueueInv s) (huim : s.uimFuncs = true) (id : MsgId) (token : ℤ) :
    ∃ q s', QueueStep pb s (.dispatch id token) s' ∧ Taken s id token q s' := by
  -- the message of the request is made first
  obtain ⟨inv₁, hreq⟩ := inv.newMessage 0 id token ⟨0, []⟩
  have hstep : ∀ s', (dispatchRequest pb (s.next + 1)).Runs (anySem 0)
      (s.newMessage 0 id token ⟨0, []⟩) () s' → QueueStep pb s (.dispatch id token) s' :=
    fun s' hruns => .dispatch hruns
  -- what a new message changes: its own header, and none of the rest
  have hnew : (s.newMessage 0 id token ⟨0, []⟩).headers =
      Function.update s.headers (s.next + 1) ⟨token, id, some s.next⟩ := rfl
  have hrequests : (s.newMessage 0 id token ⟨0, []⟩).requests = s.requests := by
    ext q : 1
    simp [SapState.newMessage]
  have hqueue : (s.newMessage 0 id token ⟨0, []⟩).pendingResponseQueue =
      s.pendingResponseQueue := by
    simp [SapState.newMessage]
  have hgiven : (s.newMessage 0 id token ⟨0, []⟩).given = s.given := by
    ext q : 1
    simp [SapState.newMessage]
  have huim₁ : (s.newMessage 0 id token ⟨0, []⟩).uimFuncs = s.uimFuncs := by
    simp [SapState.newMessage]
  generalize s.newMessage 0 id token ⟨0, []⟩ =
    s₁ at inv₁ hreq hstep hnew hrequests hqueue hgiven huim₁
  have hheader : s₁.headers (s.next + 1) = ⟨token, id, some s.next⟩ := by
    rw [hnew, Function.update_self]
  have hfresh : ∀ q ∈ s₁.pendingResponseQueue, q ≠ s₁.next := by
    rintro q hq rfl
    have hlive := inv₁.live _ hq
    rw [inv₁.fresh _ (Nat.le_refl _)] at hlive
    cases hlive
  -- from there the dispatch goes as in the lemma before
  obtain ⟨s', hruns, htaken⟩ := @dispatchRequest_taken pb s₁ (huim₁.trans huim) (s.next + 1) s.next
    (by rw [hheader]) hfresh 0
  rw [hheader] at htaken
  refine ⟨_, s', hstep s' hruns, htaken.uimFuncs, ?_, ?_, htaken.pair, ?_⟩
  · rw [htaken.queue, hqueue]
  · rw [htaken.given, hgiven]
  · -- the older requests have other headers
    intro q hq id' token' hpair
    rw [← hqueue] at hq
    refine htaken.older q hq ⟨?_, ?_⟩
    · rw [hrequests]
      exact hpair.1
    · rw [hnew, Function.update_of_ne (hreq.curr q hq), hrequests]
      exact hpair.2

/-- The operations that always have a result. -/
def SapOp.IsTotal : SapOp → Prop
  | .beginCompletion _ => False
  | _ => True

theorem SapOp.IsTotal.exists_sem {o : SapOp} (ho : o.IsTotal) (t : ℕ) (s : SapState) :
    ∃ r s', anySem t o r s s' := by
  cases o with
  | allocate kind => exact ⟨none, s, .inl ⟨trivial, rfl, rfl⟩⟩
  | getHeader p => exact ⟨s.headers p, _, fun _ => rfl, rfl⟩
  | getData p => exact ⟨s.data p, _, fun _ => rfl, rfl⟩
  | getRequest p => exact ⟨s.requests p, _, fun _ => rfl, rfl⟩
  | getSocketById => exact ⟨_, _, rfl, rfl⟩
  | getUimFuncs => exact ⟨_, _, rfl, rfl⟩
  | checkAndDequeue id token request => exact ⟨_, _, rfl, rfl⟩
  | onRequest id data size request => exact ⟨none, _, rfl⟩
  | beginCompletion request => exact ho.elim
  | getSapCallback => exact ⟨_, _, rfl, rfl⟩
  | call e => exact ⟨true, _, rfl⟩
  | _ => exact ⟨(), _, rfl⟩

theorem SapOp.IsMessaging.isTotal {o : SapOp} (ho : o.IsMessaging) : o.IsTotal := by
  cases o with
  | beginCompletion request => exact ho
  | _ => trivial

theorem onRequestComplete_isTotal (response : List UInt8) :
    (onRequestComplete pb q response).Only SapOp.IsTotal := by
  have hsend : ∀ header, (sendResponse pb header response).Only SapOp.IsTotal := by
    intro header
    refine Only.op_bind trivial fun r => ?_
    cases r with
    | none => trivial
    | some payload =>
      refine Only.op_bind trivial fun _ => ?_
      exact ((processResponse_isMessaging _ _ _).mono fun _ ho => ho.isTotal).bind fun _ =>
        ⟨trivial, fun _ => trivial⟩
  refine Only.op_bind trivial fun request => Only.op_bind trivial fun header => ?_
  exact (hsend header).bind fun _ => Only.op_bind trivial fun header' =>
    Only.op_bind trivial fun _ =>
    ⟨trivial, fun _ => trivial⟩

/-- Any request that the vendor has can be completed. -/
theorem complete_step (inv : QueueInv s) (hgiven : s.given q = true) :
    ∃ s', QueueStep pb s (.complete q) s' := by
  obtain ⟨a, s', hruns⟩ := Only.exists_runs (fun o u ho => SapOp.IsTotal.exists_sem ho 0 u)
    (@onRequestComplete_isTotal pb q []) (s.begun q)
  refine ⟨s', @QueueStep.complete pb s s' 0 q [] a ?_⟩
  refine runs_op_bind.mpr ⟨(), _, ⟨hgiven, rfl⟩, ?_⟩
  refine runs_op_bind.mpr ⟨true, _, ⟨inv.socket.symm, rfl⟩, ?_⟩
  rw [if_pos rfl]
  exact hruns

end Existence

theorem start_initial : SapState.start.Initial where
  socket := rfl
  queue := rfl
  outstanding := rfl
  given _ := rfl
  fresh _ _ := rfl

/-- **The older of two requests with one pair is completed first.** The newer one leaves the queue,
and the completed one stays. -/
theorem older_request_completed_first : ∃ pb s, (sapQueue pb).Reachable s ∧ ¬ QueueExact s := by
  obtain ⟨q₁, s₁, hstep₁, htaken₁⟩ :=
    dispatch_step apduNanopb start_initial.queueInv rfl .disconnect 7
  have inv₁ := start_initial.queueInv.step hstep₁ fun q hq => nomatch hq
  obtain ⟨q₂, s₂, hstep₂, htaken₂⟩ := dispatch_step apduNanopb inv₁ htaken₁.uimFuncs .disconnect 7
  have inv₂ := inv₁.step hstep₂ fun q hq => nomatch hq
  -- the vendor completes the first request
  have hgiven : s₂.given q₁ = true := by
    rw [htaken₂.given, htaken₁.given]
    rcases eq_or_ne q₁ q₂ with rfl | hne
    · rw [Function.update_self]
    · rw [Function.update_of_ne hne, Function.update_self]
  obtain ⟨s₃, hstep₃⟩ := complete_step apduNanopb inv₂ hgiven
  refine ⟨apduNanopb, s₃, .step (.step (.step (.init start_initial) hstep₁) hstep₂) hstep₃, ?_⟩
  refine inv₂.step_bad hstep₃ fun hnewest => ?_
  have hqueue : s₂.pendingResponseQueue = [q₂, q₁] := by
    rw [htaken₂.queue, htaken₁.queue]
    rfl
  have hold := htaken₂.older q₁ (by rw [htaken₁.queue]; exact List.mem_cons_self) htaken₁.pair
  have hsame : SamePair s₂ q₁ q₂ :=
    ⟨hold.1.symm.trans htaken₂.pair.1, hold.2.symm.trans htaken₂.pair.2⟩
  -- the search stops at the second one
  have hfind := find_iff_newest.mpr hnewest
  rw [hqueue, List.find?_cons, decide_eq_true hsame] at hfind
  have hnodup := inv₂.nodup
  rw [hqueue, Option.some.inj hfind] at hnodup
  exact (List.nodup_cons.mp hnodup).1 (List.mem_singleton_self _)

/-- A completion of the newest request with its pair takes that request out. -/
theorem complete_newest {pb : Nanopb} {s s' : SapState} {q : Ptr} (inv : QueueInv s)
    (hnewest : CompletesNewest s (.complete q)) (h : QueueStep pb s (.complete q) s') :
    s'.pendingResponseQueue = s.pendingResponseQueue.erase q ∧
      s'.given = Function.update s.given q false := by
  cases h with
  | complete hruns =>
    obtain ⟨-, temp, htemp, hretired⟩ := sOnRequestComplete_runs inv hruns
    obtain rfl : temp = q := Option.some.inj (htemp.symm.trans (find_iff_newest.mpr hnewest))
    exact ⟨hretired.queue, hretired.given⟩

/-- Two requests with different tokens. The older one is completed first, then the newer one; each
of them is the newest with its own pair. -/
theorem queueExact_iff_newest_older : ∃ q₁ q₂ s₂ tr s',
    (sapQueue apduNanopb).Run SapState.start tr s' ∧ (s₂, .complete q₁) ∈ tr ∧
      s₂.pendingResponseQueue = [q₂, q₁] ∧ s'.pendingResponseQueue = [] ∧
      ∀ u ∈ Lts.visited tr s', QueueExact u := by
  -- two requests with different tokens
  obtain ⟨q₁, s₁, hstep₁, htaken₁⟩ :=
    dispatch_step apduNanopb start_initial.queueInv rfl .disconnect 7
  have inv₁ := start_initial.queueInv.step hstep₁ fun q hq => nomatch hq
  obtain ⟨q₂, s₂, hstep₂, htaken₂⟩ := dispatch_step apduNanopb inv₁ htaken₁.uimFuncs .disconnect 8
  have inv₂ := inv₁.step hstep₂ fun q hq => nomatch hq
  have hqueue : s₂.pendingResponseQueue = [q₂, q₁] := by
    rw [htaken₂.queue, htaken₁.queue]
    rfl
  have hne : q₁ ≠ q₂ := by
    rintro rfl
    have hnodup := inv₂.nodup
    rw [hqueue] at hnodup
    exact (List.nodup_cons.mp hnodup).1 (List.mem_singleton_self _)
  have hold := htaken₂.older q₁ (by rw [htaken₁.queue]; exact List.mem_cons_self) htaken₁.pair
  -- the older request is the newest with its token
  have hnewest₁ : CompletesNewest s₂ (.complete q₁) := by
    intro q hq
    cases hq
    refine ⟨[q₂], [], hqueue, fun q' hq' hsame => ?_⟩
    obtain rfl := List.mem_singleton.mp hq'
    have htoken : (7 : ℤ) = 8 := hold.1.trans (hsame.1.trans htaken₂.pair.1.symm)
    exact absurd htoken (by decide)
  have hgiven₁ : s₂.given q₁ = true := by
    rw [htaken₂.given, htaken₁.given, Function.update_of_ne hne, Function.update_self]
  -- the first one is answered although the second is newer
  obtain ⟨s₃, hstep₃⟩ := complete_step apduNanopb inv₂ hgiven₁
  have inv₃ := inv₂.step hstep₃ hnewest₁
  obtain ⟨hqueue₃, hgiven₃⟩ := complete_newest inv₂ hnewest₁ hstep₃
  rw [hqueue, List.erase_cons_tail (by simpa using hne.symm), List.erase_cons_head] at hqueue₃
  -- now the other one is alone
  have hnewest₂ : CompletesNewest s₃ (.complete q₂) := by
    intro q hq
    cases hq
    exact ⟨[], [], hqueue₃, fun _ h => absurd h List.not_mem_nil⟩
  have hgiven₂ : s₃.given q₂ = true := by
    rw [hgiven₃, Function.update_of_ne hne.symm, htaken₂.given, Function.update_self]
  obtain ⟨s₄, hstep₄⟩ := complete_step apduNanopb inv₃ hgiven₂
  obtain ⟨hqueue₄, -⟩ := complete_newest inv₃ hnewest₂ hstep₄
  rw [hqueue₃, List.erase_cons_head] at hqueue₄
  have hrun : (sapQueue apduNanopb).Run SapState.start
      [(SapState.start, .dispatch .disconnect 7), (s₁, .dispatch .disconnect 8),
        (s₂, .complete q₁), (s₃, .complete q₂)] s₄ :=
    Lts.Run.snoc (Lts.Run.snoc (Lts.Run.snoc (Lts.Run.snoc .nil hstep₁) hstep₂) hstep₃) hstep₄
  -- so each completion was that of the newest with its pair
  refine ⟨q₁, q₂, s₂, _, s₄, hrun, by simp, hqueue, hqueue₄,
    (queueExact_iff_newest apduNanopb start_initial hrun).mpr ?_⟩
  simp only [List.forall_mem_cons]
  exact ⟨nofun, nofun, hnewest₁, hnewest₂, List.forall_mem_nil _⟩

end Sap

end BlueCommon
