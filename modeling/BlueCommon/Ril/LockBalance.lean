import BlueCommon.Ril.EntryPoints
import BlueCommon.Ril.ErrorExits
import BlueCommon.Ril.ServiceLocks

/-!
# The balance of the locks

Threads call the functions of libril, with any arguments and any behaviour of the clients: request
methods, acknowledgements, completions and indications of the vendor, registrations of clients.
`checkReturnStatus` counts on its caller to hold the lock of the slot, and every call should end as
free of locks as it began. `RIL_onRequestAck`, `RIL_onRequestComplete` and
`RIL_onUnsolicitedResponse` take the lock before they call a client; `sendErrorResponse` does not.

* `locksBalanced_iff_noUnlockedCall`: the locks are balanced throughout a run exactly when no call
  to a client is made inside `sendErrorResponse`.
* `setIndicationFilter_keeps_read_lock`: a client that dies while it is told that its request is not
  supported leaves the read lock behind, and no client can register any more.

Every function obeys one protocol (`ServiceCall.leads`): a thread that has called a client goes on
with `checkReturnStatus`, and does so with the lock of the slot or inside `sendErrorResponse`.
`LockInv` connects the phases of the threads with the rwlocks. Where it holds the locks are balanced
(`LockObeying.balanced`), since inside `sendErrorResponse` no client has been called; after such a
call the check is entered without a lock (`LockObeying.not_balanced`).
-/

namespace BlueCommon.Ril

open Interaction Program

/-! ### Calls of libril -/

/-- What a thread may be given to run: any function that clients and the vendor call. -/
inductive ServiceCall (cfg : Config) : Code Unit → Prop
  | request {slotId : ℤ} {e : Entry Unit} (h : RequestMethod cfg slotId e) :
      ServiceCall cfg (e.handle (EntryOp.code cfg))
  | rilOnRequestAck (t : Option Addr) : ServiceCall cfg (rilOnRequestAck cfg t)
  | rilOnRequestComplete (t : Option Addr) (e : ℤ) :
      ServiceCall cfg (rilOnRequestComplete cfg t e)
  | rilOnUnsolicitedResponse (unsolResponse : ℤ) (data : Option CharBuffer) (datalen : ℕ)
      (socketId : ℤ) :
      ServiceCall cfg (rilOnUnsolicitedResponse cfg unsolResponse data datalen socketId)
  | setResponseFunctions (slotId : ℤ) (radioResponse radioIndication : Option ℕ) :
      ServiceCall cfg (setResponseFunctions cfg slotId radioResponse radioIndication)
  | setOemHookFunctions (slotId : ℤ) (oemHookResponse oemHookIndication : Option ℕ) :
      ServiceCall cfg (setOemHookFunctions cfg slotId oemHookResponse oemHookIndication)

/-- The state of libril. History: the threads that are inside `sendErrorResponse`, where no lock is
held while the client is called. -/
structure LockState where
  ril : RilState
  answering : ℕ → Bool

/-- The history after an operation of the thread `t`. -/
def RilOp.noteAnswering (t : ℕ) (answering : ℕ → Bool) : RilOp → ℕ → Bool
  | .mark .enterSendErrorResponse => Function.update answering t true
  | .mark .leaveSendErrorResponse => Function.update answering t false
  | _ => answering

/-- How the operations behave, with the history. -/
def lockSem (cfg : Config) (t : ℕ) : Semantics rilSignature LockState :=
  fun o r s s' => ∃ ril, RilOp.sem cfg t o r s.ril ril ∧ s' = ⟨ril, o.noteAnswering t s.answering⟩

/-- Code that stays inside or outside `sendErrorResponse` runs with the history as without. -/
theorem lockSem_runs {cfg : Config} {t : ℕ} {α : Type} {p : Code α} {s s' : RilState} {a : α}
    (answering : ℕ → Bool) (hp : p.Only fun o : RilOp => ∀ f, o.noteAnswering t f = f)
    (h : p.Runs (RilOp.sem cfg t) s a s') :
    p.Runs (lockSem cfg t) ⟨s, answering⟩ a ⟨s', answering⟩ := by
  induction p generalizing s with
  | ret b =>
    obtain ⟨rfl, rfl⟩ := h
    exact ⟨rfl, rfl⟩
  | op o k ih =>
    obtain ⟨r, s₁, ho, hk⟩ := h
    refine ⟨r, ⟨s₁, answering⟩, ⟨s₁, ho, ?_⟩, ih r (hp.2 r) hk⟩
    rw [hp.1 answering]

theorem checkReturnStatus_quiet {cfg : Config} (t : ℕ) {slotId : ℤ} {service : Service}
    (isOk : Bool) :
    (checkReturnStatus cfg slotId isOk service).Only fun o :
    RilOp => ∀ f, o.noteAnswering t f = f := by
  cases isOk with
  | true => exact trivial
  | false =>
    refine ⟨fun _ => rfl, fun _ => ⟨fun _ => rfl, fun _ => ⟨fun _ => rfl, fun _ => ?_⟩⟩⟩
    exact ⟨fun _ => rfl, fun _ => ⟨fun _ => rfl, fun _ => ⟨fun _ => rfl, fun _ => trivial⟩⟩⟩

/-- The runs of the threads of libril, from a state in which all locks are free. A thread that must
wait for a lock takes no step. -/
def lockSystem (cfg : Config) : Lts (Pool rilSignature LockState) (PoolLabel rilSignature) :=
  pool (fun s => (∀ l, s.ril.locks l = ⟨0, none⟩) ∧ ∀ t, s.answering t = false) (lockSem cfg)
    fun _ _ p => ServiceCall cfg p

/-- **The locks are balanced.** Whoever is about to run `checkReturnStatus` holds the lock of the
slot for reading (the arrival of a NITZ message, which sets the reception time, for writing); a
thread that is in no call holds no lock, as before its call; and when no call is running, every lock
can be taken for writing. -/
structure LocksBalanced (cfg : Config) (Q : Pool rilSignature LockState) : Prop where
  guarded :
      ∀ t slotId message k, Q.prog t = .op (.mark (.enterCheckReturnStatus slotId message)) k →
    t ∈ (Q.shared.ril.locks (getRadioServiceRwlock cfg slotId)).readers ∨
      message.IsNitz ∧ (Q.shared.ril.locks (getRadioServiceRwlock cfg slotId)).writer = some t
  released : ∀ t, Q.Idle t → ∀ l, t ∉ (Q.shared.ril.locks l).readers ∧
    (Q.shared.ril.locks l).writer ≠ some t
  available : (∀ t, Q.Idle t) → ∀ l, Q.shared.ril.locks l = ⟨0, none⟩

/-- The step is not a call to a client inside `sendErrorResponse`. If such a call fails, a lock is
given back that was not taken. -/
def NoUnlockedCall (s : LockState) : PoolLabel rilSignature → Prop
  | .op t (.client (.call ..)) _ => s.answering t = false
  | _ => True

variable {cfg : Config}

/-! ### The invariant -/

/-- The rwlocks record what the threads hold, and a thread inside `sendErrorResponse` holds nothing
and has called nobody. -/
structure LockInv (s : LockState) (gh : ℕ → ServicePhase) : Prop where
  held : LocksHeld s.ril.locks gh
  answering : ∀ t, s.answering t = (gh t).answering
  quiet : ∀ t, (gh t).answering = true → (gh t).hold = none ∧ (gh t).called = none

/-- The states in which the invariant holds and what the threads have still to run obeys the
protocol. -/
abbrev LockObeying (cfg : Config) (Q : Pool rilSignature LockState) : Prop :=
  Q.Obeying (fun _ => serviceProtocol cfg True) ServicePhase.Free LockInv

/-- After a call of a client only `checkReturnStatus` is allowed. The lock is kept until then, and
the check is for the slot and message of the call. -/
theorem ServicePhase.allow_of_called {errors : Prop} {g : ServicePhase} {slotId : ℤ}
    {message : ClientMessage} {o : RilOp} (hcalled : g.called = some (slotId, message))
    (hallow : g.allow cfg errors o) : o = .mark (.enterCheckReturnStatus slotId message) := by
  have hnot : g.called ≠ none := by
    rw [hcalled]
    nofun
  cases o with
  -- after a call nothing is allowed before its return status is checked
  | pending o => exact absurd hallow hnot
  | nitz o => exact absurd hallow hnot
  | wake o => exact absurd hallow hnot
  | vendor o => exact absurd hallow hnot
  | client o => exact absurd hallow.1 hnot
  | lock o =>
    -- the lock is kept until then
    cases o with
    | rdlock l => exact absurd hallow.called hnot
    | wrlock l => exact absurd hallow.called hnot
    | unlock l => exact absurd hallow.1 hnot
  | mark o =>
    cases o with
    -- the check is that of the call, for its slot and message
    | enterCheckReturnStatus slotId' message' =>
      obtain ⟨rfl, rfl⟩ := Prod.mk.inj (Option.some.inj (hcalled.symm.trans hallow.1))
      rfl
    | enterSendErrorResponse => exact absurd hallow.2.called hnot
    | leaveSendErrorResponse => exact absurd hallow.1 hnot

/-- Every function of libril obeys the protocol. -/
theorem ServiceCall.leads {p : Code Unit} (h : ServiceCall cfg p) :
    Code.Leads cfg True ServicePhase.Free p ServicePhase.Free := by
  cases h with
  | request => exact Program.Leads.handle entryOp_leads _
  | rilOnRequestAck t => exact rilOnRequestAck_leads t
  | rilOnRequestComplete t e => exact rilOnRequestComplete_leads t e
  | rilOnUnsolicitedResponse unsolResponse data datalen socketId =>
    exact rilOnUnsolicitedResponse_leads unsolResponse data datalen socketId
  | setResponseFunctions slotId radioResponse radioIndication =>
    exact setResponseFunctions_leads radioResponse radioIndication
  | setOemHookFunctions slotId oemHookResponse oemHookIndication =>
    exact setOemHookFunctions_leads oemHookResponse oemHookIndication

namespace LockInv

variable {s s' : LockState} {gh : ℕ → ServicePhase} {t : ℕ}

/-- The history says what the phase says. Only the marks at the beginning and the end of
`sendErrorResponse` change either of them. -/
theorem noteAnswering_eq {g : ServicePhase} {o : RilOp} {r : o.Res} {answering : ℕ → Bool}
    (h : answering t = g.answering) : o.noteAnswering t answering t = (g.after o r).answering := by
  cases o with
  | pending o => exact h
  | nitz o => exact h
  | wake o => exact h
  | vendor o => exact h
  | lock o => cases o <;> exact h
  | mark o =>
    -- only the marks of `sendErrorResponse` change the note
    cases o with
    | enterCheckReturnStatus slotId message => exact h
    | enterSendErrorResponse => exact Function.update_self t true answering
    | leaveSendErrorResponse => exact Function.update_self t false answering
  | client o =>
    cases o with
    | get slotId field =>
      cases r with
      | none => exact h
      | some c =>
        -- a client that is seen is noted only outside of `sendErrorResponse`
        show answering t = (if g.answering then g else _ : ServicePhase).answering
        split <;> exact h
    | castFrom callback => exact h
    | call slotId callback message => exact h
    | getCounter slotId service => exact h
    | resetIfCurrent slotId service counter => exact h
    | setResponseFunctions slotId response indication => exact h
    | setOemHookFunctions slotId response indication => exact h

theorem noteAnswering_of_ne {u : ℕ} (hut : u ≠ t) {o : RilOp} {answering : ℕ → Bool} :
    o.noteAnswering t answering u = answering u := by
  unfold RilOp.noteAnswering
  split
  · exact Function.update_of_ne hut _ _
  · exact Function.update_of_ne hut _ _
  · rfl

/-- A thread inside `sendErrorResponse` stays without a lock unless it calls a client. It is entered
without a lock and without a call that is unchecked, and takes no lock itself. -/
theorem quiet_after {g : ServicePhase} {o : RilOp} {r : o.Res} {errors : Prop}
    (hquiet : g.answering = true → g.hold = none ∧ g.called = none)
    (hallow : g.allow cfg errors o)
    (hcall : ∀ slotId callback message, o = .client (.call slotId callback message) →
      g.answering = false)
    (hafter : (g.after o r).answering = true) :
    (g.after o r).hold = none ∧ (g.after o r).called = none := by
  cases o with
  | pending o => exact hquiet hafter
  | nitz o => exact hquiet hafter
  | wake o => exact hquiet hafter
  | vendor o => exact hquiet hafter
  | lock o =>
    cases o with
    | rdlock l => exact absurd (hallow.answering.symm.trans hafter) (by decide)
    -- no lock is taken inside `sendErrorResponse`
    | wrlock l => exact absurd (hallow.answering.symm.trans hafter) (by decide)
    | unlock l => exact ⟨rfl, hallow.1⟩
  | mark o =>
    cases o with
    | enterCheckReturnStatus slotId message => exact ⟨(hquiet hafter).1, rfl⟩
    | enterSendErrorResponse => exact ⟨hallow.2.hold, hallow.2.called⟩
    -- it is entered without a lock and without a call that is unchecked
    | leaveSendErrorResponse => cases hafter
  | client o =>
    cases o with
    | get slotId field =>
      cases r with
      | none => exact hquiet hafter
      | some c =>
        by_cases hanswering : g.answering = true
        · have heq : g.after (.client (.get slotId field)) (some c) = g := if_pos hanswering
          rw [heq]
          exact hquiet hanswering
        · have heq : g.after (.client (.get slotId field)) (some c) =
              { g with seen := (slotId, field.service, c) :: g.seen } := if_neg hanswering
          rw [heq] at hafter
          exact absurd hafter hanswering
    | castFrom callback => exact hquiet hafter
    | call slotId callback message =>
      -- it calls the client outside of `sendErrorResponse`
      have hfalse : g.answering = false := hcall slotId callback message rfl
      exact absurd (hfalse.symm.trans hafter) (by decide)
    | getCounter slotId service => exact hquiet hafter
    | resetIfCurrent slotId service counter => exact hquiet hafter
    | setResponseFunctions slotId response indication => exact hquiet hafter
    | setOemHookFunctions slotId response indication => exact hquiet hafter

/-- The protocol can go on after an allowed operation. It counts on two things only: a cast gives
the object that was cast, and a thread inside `sendErrorResponse` has called nobody when its return
status would be checked. -/
theorem can_of_sem (inv : LockInv s gh) {o : RilOp} {r : o.Res} {ril : RilState} {errors : Prop}
    (hallow : (gh t).allow cfg errors o) (hsem : RilOp.sem cfg t o r s.ril ril) :
    (gh t).can o r := by
  cases o with
  | pending o => exact trivial
  | nitz o => exact trivial
  | wake o => exact trivial
  | vendor o => exact trivial
  | lock o => exact trivial
  | mark o =>
    cases o with
    | enterCheckReturnStatus slotId message =>
      -- a thread inside `sendErrorResponse` has called nobody
      by_contra hne
      have hcalled := (inv.quiet t (Bool.not_eq_false _ ▸ hne)).2
      rw [hallow.1] at hcalled
      cases hcalled
    | enterSendErrorResponse => exact trivial
    | leaveSendErrorResponse => exact trivial
  | client o =>
    cases o with
    | castFrom callback =>
      -- `castFrom` gives back the callback it was called on
      rintro c rfl
      obtain ⟨_, ⟨hr, -⟩, -⟩ := hsem
      rcases hr with hr | hr | hr
      · cases hr
      · cases hr
      · exact Option.some.inj (Option.some.inj hr)
    | get slotId field => exact trivial
    | call slotId callback message => exact trivial
    | getCounter slotId service => exact trivial
    | resetIfCurrent slotId service counter => exact trivial
    | setResponseFunctions slotId response indication => exact trivial
    | setOemHookFunctions slotId response indication => exact trivial

/-- One operation. -/
theorem step (inv : LockInv s gh) {o : RilOp} {r : o.Res}
    (hallow : (gh t).allow cfg True o) (hsem : lockSem cfg t o r s s')
    (hok : NoUnlockedCall s (.op t o r)) :
    ∃ g, (serviceProtocol cfg True).next (gh t) o r g ∧ LockInv s' (Function.update gh t g) := by
  obtain ⟨ril, hril, rfl⟩ := hsem
  refine ⟨(gh t).after o r, ⟨inv.can_of_sem hallow hril, rfl⟩, inv.held.step rfl rfl hallow hril,
    fun u => ?_, fun u => ?_⟩
  · -- whether a thread is answering an error is the same in both records
    rcases eq_or_ne u t with rfl | hut
    · rw [Function.update_self]
      exact noteAnswering_eq (inv.answering u)
    · rw [Function.update_of_ne hut]
      exact (noteAnswering_of_ne hut).trans (inv.answering u)
  · -- a thread that answers an error has neither a lock nor a call behind it
    rcases eq_or_ne u t with rfl | hut
    · rw [Function.update_self]
      refine quiet_after (inv.quiet u) hallow fun slotId callback message ho => ?_
      -- a call made while answering is what the condition excludes
      subst ho
      exact (inv.answering u).symm.trans hok
    · rw [Function.update_of_ne hut]
      exact inv.quiet u

end LockInv

/-- Where the invariant holds the locks are balanced. An idle thread has nothing left to run, so its
phase holds no lock; and the phase of a thread at `checkReturnStatus` says in which of the three
situations it came there. -/
theorem LockObeying.balanced {Q : Pool rilSignature LockState} (h : LockObeying cfg Q) :
    LocksBalanced cfg Q := by
  obtain ⟨gh, inv, hobeys⟩ := h
  -- an idle thread has nothing to run, so its phase holds no lock
  have hreleased : ∀ t, Q.Idle t → ∀ l, t ∉ (Q.shared.ril.locks l).readers ∧
      (Q.shared.ril.locks l).writer ≠ some t := by
    intro t hidle l
    have hfree : (gh t).Free := by
      have ht := hobeys t
      rw [show Q.prog t = .ret () from hidle] at ht
      exact ht
    rw [inv.held.mem_readers_iff, Ne, inv.held.writer, hfree.hold]
    exact ⟨nofun, nofun⟩
  -- each check has its lock, idle threads hold none, and a quiet lock is free
  refine ⟨fun t slotId message k hprog => ?_, hreleased, fun hidle l => ?_⟩
  · have ht := hobeys t
    rw [hprog] at ht
    obtain ⟨hcalled, hguard⟩ := ht.1
    -- the three situations in which `checkReturnStatus` is entered
    rcases hguard with hanswering | hread | ⟨hnitz, hwrite⟩
    · have hnone := (inv.quiet t hanswering).2
      rw [hcalled] at hnone
      cases hnone
    · -- the lock is held for reading
      exact .inl (inv.held.mem_readers_iff.mpr hread)
    · -- only the NITZ indication holds it for writing
      exact .inr ⟨hnitz, (inv.held.writer _ t).mpr hwrite⟩
  · -- when all threads are idle, nobody holds the lock
    have hreaders : (Q.shared.ril.locks l).readers = 0 :=
      Multiset.eq_zero_of_forall_notMem fun t => (hreleased t (hidle t) l).1
    have hwriter : (Q.shared.ril.locks l).writer = none := by
      rw [Option.eq_none_iff_forall_ne_some]
      exact fun t => (hreleased t (hidle t) l).2
    calc Q.shared.ril.locks l
        = ⟨(Q.shared.ril.locks l).readers, (Q.shared.ril.locks l).writer⟩ := rfl
      _ = ⟨0, none⟩ := by rw [hreaders, hwriter]

/-- After a call of a client inside `sendErrorResponse` the thread is about to run
`checkReturnStatus` without any lock. -/
theorem LockObeying.not_balanced {Q Q' : Pool rilSignature LockState}
    {label : PoolLabel rilSignature} (h : LockObeying cfg Q)
    (hstep : (lockSystem cfg).step Q label Q')
    (hbad : ¬ NoUnlockedCall Q.shared label) : ¬ LocksBalanced cfg Q' := by
  obtain ⟨gh, inv, hobeys⟩ := h
  cases hstep with
  -- the bad step is a call to the client, made while an error is answered
  | call hidle hmay => exact absurd trivial hbad
  | @op t o k r s' hprog hsem =>
    obtain ⟨slotId, callback, message, rfl, hanswering⟩ : ∃ slotId callback message,
        o = .client (.call slotId callback message) ∧ Q.shared.answering t = true := by
      unfold NoUnlockedCall at hbad
      split at hbad
      · next heq =>
        cases heq
        exact ⟨_, _, _, rfl, Bool.eq_true_of_not_eq_false hbad⟩
      · exact absurd trivial hbad
    rw [inv.answering t] at hanswering
    have ht := hobeys t
    rw [hprog] at ht
    -- the phase after the call: `checkReturnStatus` comes next
    have hrest := ht.2 r _ ⟨trivial, rfl⟩
    obtain ⟨ril, ⟨clients, -, rfl⟩, rfl⟩ := hsem
    intro hbalanced
    -- what the thread has still to run begins with `checkReturnStatus`
    -- a thread that has called cannot be at its end
    cases hk : k r with
    | ret a =>
      rw [hk] at hrest
      cases hrest.called
    | op o' k' =>
      rw [hk] at hrest
      obtain rfl := ServicePhase.allow_of_called rfl hrest.1
      have hguard := hbalanced.guarded t slotId message k'
        ((Function.update_self t (k r) Q.prog).trans hk)
      have hnone := (inv.quiet t hanswering).1
      -- the thread holds no lock for it
      rcases hguard with hread | ⟨-, hwrite⟩
      · have hhold := inv.held.mem_readers_iff.mp hread
        rw [hnone] at hhold
        cases hhold
      · have hhold := (inv.held.writer _ t).mp hwrite
        rw [hnone] at hhold
        cases hhold

/-! ### Runs -/

/-- **The balance of the locks.** In every run of the functions of libril, with any clients, the
locks are balanced in every state if and only if no step of the run is a call to a client inside
`sendErrorResponse`. -/
theorem locksBalanced_iff_noUnlockedCall {P Q : Pool rilSignature LockState}
    {tr : List (Pool rilSignature LockState × PoolLabel rilSignature)}
    (h0 : (lockSystem cfg).init P) (h : (lockSystem cfg).Run P tr Q) :
    (∀ U ∈ Lts.visited tr Q, LocksBalanced cfg U) ↔
      ∀ step ∈ tr, NoUnlockedCall step.1.shared step.2 := by
  refine @Lts.good_iff_ok _ _ (lockSystem cfg) (LockObeying cfg) (LocksBalanced cfg)
    (fun U label => NoUnlockedCall U.shared label) ?_ ?_ ?_ ?_ P Q tr h0 h
  · -- at the start no lock is held and nothing runs
    refine fun U hinit => Pool.Obeying.start ?_ hinit
    rintro s ⟨hlocks, hanswering⟩
    refine ⟨fun _ => .start, ⟨.free hlocks fun _ => rfl, hanswering, fun _ => nofun⟩, fun _ => ?_⟩
    exact ⟨rfl, rfl, rfl⟩
  · exact fun U hU => hU.balanced
  · -- the invariant is kept by the start of an entry point and by each operation
    intro U label V hU hstep hok
    refine @Pool.Obeying.step _ _ _ _ _ _ _ _ (fun s label => NoUnlockedCall s label) ?_ ?_ _ _ _
      hU hstep hok
    · intro s gh t p inv hpost hmay
      refine ⟨gh t, ?_, hmay.leads (gh t) hpost⟩
      rw [Function.update_eq_self]
      exact inv
    · intro s gh t o r s' inv hallow hsem hok
      exact inv.step hallow hsem hok
  · exact fun U label V hU hstep hbad => hU.not_balanced hstep hbad

/-! ### A client that dies while its request is refused -/

namespace DeadClient

/-- A client is registered for the first slot, and nothing else has happened. -/
def start : LockState := ⟨.oneClient, fun _ => false⟩

/-- A method that is refused, so that the client is called by `sendErrorResponse`. -/
def call : Code Unit :=
  (Entry.setIndicationFilter .version14 0 7 1).handle (EntryOp.code .version14)

/-- The state in which the request has been accepted at address 1. -/
def accepted : LockState := ⟨RefusedFilter.accepted, fun _ => false⟩

theorem accepts : (addRequestToList .version14 7 0 Request.setUnsolicitedResponseFilter).Runs
    (lockSem .version14 0) start (some 1) accepted :=
  ⟨some 1, _, ⟨_, ⟨_, ⟨rfl, rfl⟩, rfl⟩, rfl⟩, (), _, ⟨_, ⟨_, rfl, rfl⟩, rfl⟩, (), _,
    ⟨_, ⟨_, rfl, rfl⟩, rfl⟩, rfl, rfl⟩

/-- The state in which the call of the client has failed. -/
def called : LockState where
  ril :=
    { RefusedFilter.accepted with
      pending := RefusedFilter.accepted.pending.note
        (.respond (some 0) 0 .solicited 7 Errno.requestNotSupported)
      clients :=
        { RefusedFilter.accepted.clients with
          calls := [⟨0, 0, ⟨1, 0⟩, .response .solicited 7, false⟩] } }
  answering := Function.update (fun _ => false) 0 true

/-- The client is dead. -/
theorem answers : ∃ s', (sendErrorResponse .version14 (some 1) Errno.requestNotSupported).Runs
    (lockSem .version14 0) accepted () s' ∧
      0 ∈ (s'.ril.locks .radioServiceRwlock).readers := by
  -- `checkReturnStatus` unlocks what was never locked and ends with the lock
  obtain ⟨s', hruns, hheld, -⟩ := @checkReturnStatus_runs_alone .version14 0 0 .radio called.ril rfl
    (by decide)
  have hcheck := lockSem_runs called.answering (checkReturnStatus_quiet 0 false) hruns
  refine ⟨⟨s', Function.update called.answering 0 false⟩, ?_, by
    rw [show (s'.locks .radioServiceRwlock).readers = {0} from congrArg Rwlock.readers hheld]
    exact Multiset.mem_singleton_self 0⟩
  refine ⟨(), ⟨accepted.ril, called.answering⟩, ⟨_, rfl, rfl⟩, accepted.ril.pending.info 1, _,
    ⟨_, ⟨_, ⟨fun _ => rfl, rfl⟩, rfl⟩, rfl⟩, ?_⟩
  show (callResponseFunction .version14 1 (accepted.ril.pending.info 1) .solicited
    Errno.requestNotSupported >>= fun _ => mark .leaveSendErrorResponse).Runs _ _ _ _
  refine (runs_bind _ _).mpr ⟨(), ⟨s', called.answering⟩, ?_, ?_⟩
  · exact ⟨(), _, ⟨_, ⟨_, rfl, rfl⟩, rfl⟩, some ⟨1, 0⟩, _, ⟨_, ⟨_, ⟨rfl, rfl⟩, rfl⟩, rfl⟩,
      some ⟨1, 0⟩, _, ⟨_, ⟨_, ⟨rfl, rfl⟩, rfl⟩, rfl⟩, false, called, ⟨_, ⟨_, rfl, rfl⟩, rfl⟩,
      (), called, ⟨_, rfl, rfl⟩, hcheck⟩
  · exact ⟨(), _, ⟨_, rfl, rfl⟩, rfl, rfl⟩

theorem init : (lockSystem .version14).init (Pool.quiet start) :=
  ⟨⟨fun _ => rfl, fun _ => rfl⟩, fun _ => rfl⟩

/-- The run of the method, to its return. -/
theorem runs : ∃ tr s', (lockSystem .version14).Run (Pool.quiet start) tr (Pool.quiet s') ∧
    0 ∈ (s'.ril.locks .radioServiceRwlock).readers := by
  obtain ⟨s', hanswers, hheld⟩ := answers
  have hcall : call.Runs (lockSem .version14 0) start () s' :=
    (runs_bind _ _).mpr ⟨some 1, accepted, accepts,
      (runs_bind _ _).mpr ⟨(), s', hanswers, rfl, rfl⟩⟩
  have hmethod : RequestMethod .version14 0 (Entry.setIndicationFilter .version14 0 7 1) :=
    .setIndicationFilter 7 1
  have hrun : ∃ tr, (lockSystem .version14).Run (Pool.quiet start) tr (Pool.quiet s') :=
    Pool.run_call hcall (ServiceCall.request hmethod) ⟨[], .nil⟩
  obtain ⟨tr, hrun⟩ := hrun
  exact ⟨tr, s', hrun, hheld⟩

end DeadClient

/-- The run of a refused method with a dead client, and the condition on it. -/
theorem locksBalanced_iff_noUnlockedCall_setIndicationFilter :
    ∃ tr s', (lockSystem .version14).Run (Pool.quiet DeadClient.start) tr (Pool.quiet s') ∧
      ((∀ U ∈ Lts.visited tr (Pool.quiet s'), LocksBalanced .version14 U) ↔
        ∀ step ∈ tr, NoUnlockedCall step.1.shared step.2) := by
  obtain ⟨tr, s', hrun, -⟩ := DeadClient.runs
  exact ⟨tr, s', hrun, locksBalanced_iff_noUnlockedCall DeadClient.init hrun⟩

/-- **`setIndicationFilter` leaves a read lock behind.** The vendor is older than version 15 and the
client is dead: all calls have returned, a thread still holds the lock, and no thread can take it
for writing, as `setResponseFunctions` must. -/
theorem setIndicationFilter_keeps_read_lock :
    ∃ P tr Q, (lockSystem .version14).init P ∧ (lockSystem .version14).Run P tr Q ∧
      (∀ t, Q.Idle t) ∧ 0 ∈ (Q.shared.ril.locks .radioServiceRwlock).readers ∧
      (∀ t r locks, ¬ (LockOp.wrlock .radioServiceRwlock).sem t r Q.shared.ril.locks locks) ∧
      ¬ LocksBalanced .version14 Q := by
  obtain ⟨tr, s', hrun, hheld⟩ := DeadClient.runs
  refine ⟨_, tr, _, DeadClient.init, hrun, fun _ => rfl, hheld, ?_, fun hbalanced => ?_⟩
  · rintro t r locks ⟨hreaders, -⟩
    have hheld' : 0 ∈ (s'.ril.locks .radioServiceRwlock).readers := hheld
    rw [show (s'.ril.locks .radioServiceRwlock).readers = 0 from hreaders] at hheld'
    exact Multiset.notMem_zero 0 hheld'
  · exact (hbalanced.released 0 rfl .radioServiceRwlock).1 hheld

end BlueCommon.Ril
