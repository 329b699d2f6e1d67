import BlueCommon.Ril.Dispatch
import Mathlib.Algebra.Order.Group.Multiset

/-!
# How libril uses the rwlocks of the services

The protocol of a thread of libril: which lock it holds, whether it is inside `sendErrorResponse`,
on which callbacks it may call a client and when it may reset one.

* `serviceProtocol`: the protocol. The callbacks of a slot are read under its lock;
  `checkReturnStatus` follows the call of a client, under that lock; a callback is reset, under the
  write lock, only after a call on it has failed. `sendErrorResponse` alone reads and calls without
  a lock.
* `rilOnRequestAck_leads`, `rilOnRequestComplete_leads`, `rilOnUnsolicitedResponse_leads`,
  `setResponseFunctions_leads`, `setOemHookFunctions_leads`, `entryOp_leads`: every function of
  libril obeys it and returns as free of locks as it was called.
* `LocksHeld`: the rwlocks record what the threads hold; `LocksHeld.step` for all operations.
-/

namespace BlueCommon.Ril

open Interaction Program

/-! ### The protocol -/

/-- The two ways to hold a rwlock. -/
inductive LockMode
  | read
  | write
  deriving DecidableEq, Repr

/-- The message is a NITZ message. -/
def ClientMessage.IsNitz : ClientMessage → Prop
  | .nitzTimeReceived .. => True
  | _ => False

/-- Where a thread stands: the lock it holds; whether it is inside `sendErrorResponse`; the client
call whose status it has not looked at yet; the callbacks it has read under the lock it holds; the
callback on which its last failed call was made; the counter it has sampled since. -/
structure ServicePhase where
  hold : Option (RadioRwlock × LockMode)
  answering : Bool
  called : Option (ℤ × ClientMessage)
  seen : List (ℤ × Service × Callback)
  failed : Option (ℤ × Callback)
  sampled : Option (ℤ × Service × ℤ)

namespace ServicePhase

/-- The thread has done nothing yet: it holds no lock, and has called no client. -/
def start : ServicePhase := ⟨none, false, none, [], none, none⟩

/-- The thread holds the lock of the slot. -/
def Holds (cfg : Config) (g : ServicePhase) (slotId : ℤ) (mode : LockMode) : Prop :=
  g.hold = some (getRadioServiceRwlock cfg slotId, mode)

/-- The thread holds no lock and has no call to look at. -/
structure Free (g : ServicePhase) : Prop where
  hold : g.hold = none
  answering : g.answering = false
  called : g.called = none

/-- The thread may run `checkReturnStatus` for a message to the client of the slot: it holds the
slot's lock for reading. The arrival of a NITZ message holds it for writing, since it has set the
reception time. -/
def Guards (cfg : Config) (g : ServicePhase) (slotId : ℤ) (message : ClientMessage) : Prop :=
  g.Holds cfg slotId .read ∨ message.IsNitz ∧ g.Holds cfg slotId .write

/-- The operations on the callbacks that are allowed in a phase. -/
def allowClient (cfg : Config) (g : ServicePhase) : ClientOp → Prop
  | .get slotId _ => g.answering = true ∨ ∃ mode, g.Holds cfg slotId mode
  | .castFrom _ => True
  | .call slotId callback _ =>
    g.answering = true ∨ ∃ service, (slotId, service, callback) ∈ g.seen
  | .getCounter slotId service =>
    ∃ callback, g.failed = some (slotId, callback) ∧ (slotId, service, callback) ∈ g.seen
  | .resetIfCurrent slotId service counter =>
    g.Holds cfg slotId .write ∧ g.sampled = some (slotId, service, counter)
  | .setResponseFunctions slotId .. => g.Holds cfg slotId .write
  | .setOemHookFunctions slotId .. => g.Holds cfg slotId .write

/-- The operations that are allowed in a phase; `errors` says whether `sendErrorResponse` is. After
the call of a client nothing but `checkReturnStatus` is. -/
def allow (cfg : Config) (errors : Prop) (g : ServicePhase) : RilOp → Prop
  | .mark (.enterCheckReturnStatus slotId message) =>
    g.called = some (slotId, message) ∧ (g.answering = true ∨ g.Guards cfg slotId message)
  | .mark .enterSendErrorResponse => errors ∧ g.Free
  | .mark .leaveSendErrorResponse => g.called = none ∧ g.answering = true
  | .lock (.rdlock _) => g.Free
  | .lock (.wrlock _) => g.Free
  | .lock (.unlock lock) => g.called = none ∧ ∃ mode, g.hold = some (lock, mode)
  | .client o => g.called = none ∧ g.allowClient cfg o
  | _ => g.called = none

/-- The phase after the call of a client. -/
def afterCall (g : ServicePhase) (slotId : ℤ) (callback : Callback) (message : ClientMessage)
    (isOk : Bool) : ServicePhase :=
  { g with
    called := some (slotId, message)
    failed := if isOk then g.failed else some (slotId, callback)
    sampled := none }

/-- The phase after an operation. -/
def after (g : ServicePhase) : (o : RilOp) → o.Res → ServicePhase
  | .mark (.enterCheckReturnStatus ..), _ => { g with called := none }
  | .mark .enterSendErrorResponse, _ => { g with answering := true }
  | .mark .leaveSendErrorResponse, _ => { g with answering := false }
  | .lock (.rdlock lock), _ => { g with hold := some (lock, .read), seen := [] }
  | .lock (.wrlock lock), _ => { g with hold := some (lock, .write), seen := [] }
  | .lock (.unlock _), _ => { g with hold := none, seen := [] }
  | .client (.get slotId field), some callback =>
    if g.answering then g else { g with seen := (slotId, field.service, callback) :: g.seen }
  | .client (.call slotId callback message), isOk => g.afterCall slotId callback message isOk
  | .client (.getCounter slotId service), counter =>
    { g with sampled := some (slotId, service, counter) }
  | .client (.resetIfCurrent ..), _ => { g with seen := [], sampled := none }
  | .client (.setResponseFunctions ..), _ => { g with seen := [], sampled := none }
  | .client (.setOemHookFunctions ..), _ => { g with seen := [], sampled := none }
  | _, _ => g

/-- What the protocol counts on: a cast gives the same object, and `checkReturnStatus` is not run
inside `sendErrorResponse`. -/
def can (g : ServicePhase) : (o : RilOp) → o.Res → Prop
  | .mark (.enterCheckReturnStatus ..), _ => g.answering = false
  | .client (.castFrom callback), r => ∀ c, r = some (some c) → c = callback
  | _, _ => True

end ServicePhase

/-- The protocol of the threads of libril. -/
def serviceProtocol (cfg : Config) (errors : Prop) : Protocol rilSignature ServicePhase where
  allow := ServicePhase.allow cfg errors
  next g o r g' := g.can o r ∧ g' = g.after o r

variable {cfg : Config} {errors : Prop} {α : Type}

/-- From phases of the kind `I` the code obeys the protocol and returns in a phase of the kind
`J`. -/
abbrev Code.Leads (cfg : Config) (errors : Prop) (I : ServicePhase → Prop) (p : Code α)
    (J : ServicePhase → Prop) : Prop :=
  Program.Leads (serviceProtocol cfg errors) I p fun _ => J

/-! ### Operations that have nothing to do with clients -/

/-- The operation is about neither locks nor clients. -/
def RilOp.Neutral : RilOp → Prop
  | .pending _ | .nitz _ | .wake _ | .vendor _ => True
  | _ => False

/-- Code without locks and clients keeps the phase. -/
theorem Code.Leads.neutral {I : ServicePhase → Prop} {p : Code α} (hp : p.Only RilOp.Neutral)
    (hI : ∀ g, I g → g.called = none) : Code.Leads cfg errors I p I := by
  refine Program.Leads.of_only hp fun g o hg ho => ?_
  cases o with
  | pending o => exact ⟨hI g hg, fun r g' hnext => hnext.2⟩
  | nitz o => exact ⟨hI g hg, fun r g' hnext => hnext.2⟩
  | wake o => exact ⟨hI g hg, fun r g' hnext => hnext.2⟩
  | vendor o => exact ⟨hI g hg, fun r g' hnext => hnext.2⟩
  | lock o => cases ho
  | client o => cases ho
  | mark o => cases ho

theorem abort_leads {I J : ServicePhase → Prop} (hI : ∀ g, I g → g.called = none) :
    Code.Leads cfg errors I (abort : Code α) J :=
  fun g hg => ⟨hI g hg, fun r => nomatch r⟩

/-! ### Serving a client -/

/-- The thread is about to call the client of the slot: either it is inside `sendErrorResponse`, or
it holds the slot's lock, for writing only if it is passing on a NITZ message. -/
structure Serving (cfg : Config) (slotId : ℤ) (answers : Bool) (nitz : Prop)
    (g : ServicePhase) : Prop where
  called : g.called = none
  answering : g.answering = answers
  hold : if answers then g.hold = none
    else g.Holds cfg slotId .read ∨ nitz ∧ g.Holds cfg slotId .write

/-- The thread may call the client on the callback. -/
def Knows (slotId : ℤ) (service : Service) (callback : Callback) (g : ServicePhase) : Prop :=
  g.answering = true ∨ (slotId, service, callback) ∈ g.seen

section Serving

variable {slotId : ℤ} {answers : Bool} {nitz : Prop} {service : Service} {callback : Callback}
  {message : ClientMessage} {g : ServicePhase}

theorem Serving.of_read (hcalled : g.called = none) (hanswering : g.answering = false)
    (hhold : g.Holds cfg slotId .read) : Serving cfg slotId false nitz g :=
  ⟨hcalled, hanswering, .inl hhold⟩

/-- Outside `sendErrorResponse` the thread holds the slot's lock. -/
theorem Serving.holds (h : Serving cfg slotId false nitz g) : ∃ mode, g.Holds cfg slotId mode := by
  rcases h.hold with hread | ⟨-, hwrite⟩
  · exact ⟨.read, hread⟩
  · exact ⟨.write, hwrite⟩

theorem Serving.mono {nitz' : Prop} (h : Serving cfg slotId answers nitz g)
    (himp : nitz → nitz') : Serving cfg slotId answers nitz' g := by
  refine ⟨h.called, h.answering, ?_⟩
  cases answers with
  | true => exact h.hold
  | false => exact h.hold.imp_right fun hwrite => ⟨himp hwrite.1, hwrite.2⟩

/-- `checkReturnStatus` after a call on a callback that the thread has seen: it ends with the read
lock. -/
theorem checkReturnStatus_leads (isOk : Bool) :
    Code.Leads cfg errors
      (fun g => Serving cfg slotId false nitz g ∧ (isOk = false →
        g.failed = some (slotId, callback) ∧ (slotId, service, callback) ∈ g.seen))
      (checkReturnStatus cfg slotId isOk service) (Serving cfg slotId false nitz) := by
  rintro g ⟨hserving, hfailed⟩
  cases isOk with
  -- a call that went well leaves the lock as it is
  | true => exact hserving
  | false =>
    -- a call that failed is answered by the reset, for which the lock is given up and taken again
    obtain ⟨mode, hhold⟩ := hserving.holds
    have hcalled := hserving.called
    have hanswering := hserving.answering
    -- sample the counter, drop the lock, take it for writing, reset, drop it, take it for reading
    refine ⟨⟨hcalled, callback, hfailed rfl⟩, ?_⟩
    rintro counter _ ⟨-, rfl⟩
    refine ⟨⟨hcalled, mode, hhold⟩, ?_⟩
    rintro ⟨⟩ _ ⟨-, rfl⟩
    refine ⟨⟨rfl, hanswering, hcalled⟩, ?_⟩
    rintro ⟨⟩ _ ⟨-, rfl⟩
    refine ⟨⟨hcalled, rfl, rfl⟩, ?_⟩
    rintro ⟨⟩ _ ⟨-, rfl⟩
    refine ⟨⟨hcalled, .write, rfl⟩, ?_⟩
    rintro ⟨⟩ _ ⟨-, rfl⟩
    refine ⟨⟨rfl, hanswering, hcalled⟩, ?_⟩
    rintro ⟨⟩ _ ⟨-, rfl⟩
    exact .of_read hcalled hanswering rfl

/-- A call to the client and the check of its status. -/
theorem callAndCheck_leads (hnitz : nitz → message.IsNitz) :
    Code.Leads cfg errors
      (fun g => Serving cfg slotId answers nitz g ∧ Knows slotId service callback g)
      (callAndCheck cfg slotId service callback message)
      (Serving cfg slotId answers nitz) := by
  rintro g ⟨hserving, hknows⟩
  -- the call itself: the client was read under the same lock, or this is `sendErrorResponse`
  refine ⟨⟨hserving.called, hknows.imp_right fun hseen => ⟨service, hseen⟩⟩, ?_⟩
  rintro isOk _ ⟨-, rfl⟩
  refine ⟨⟨rfl, ?_⟩, ?_⟩
  · -- only the time of the network is told while the lock is held for writing
    cases answers with
    | true => exact .inl hserving.answering
    | false => exact .inr (hserving.hold.imp_right fun hwrite => ⟨hnitz hwrite.1, hwrite.2⟩)
  · -- the transport is looked at after the call, with the lock still held
    rintro ⟨⟩ _ ⟨hquiet, rfl⟩
    -- inside `sendErrorResponse` the protocol promises nothing behind this point
    obtain rfl : answers = false := hserving.answering.symm.trans hquiet
    refine @checkReturnStatus_leads cfg errors slotId nitz service callback isOk _
      ⟨⟨rfl, hquiet, hserving.hold⟩, ?_⟩
    rintro rfl
    refine ⟨rfl, ?_⟩
    -- a failed call is about a client that was seen in its slot
    rcases hknows with hanswering | hseen
    · exact absurd (hanswering.symm.trans hserving.answering) (by decide)
    · exact hseen

/-- The callback members are read where the client may be called. `K` is what the thread knows from
before. -/
theorem getCallback_leads {field : CallbackField} {K : ServicePhase → Prop}
    (hK : ∀ g entry, K g → K { g with seen := entry :: g.seen }) :
    Program.Leads (serviceProtocol cfg errors) (fun g => Serving cfg slotId answers nitz g ∧ K g)
      (getCallback slotId field) fun r g => (Serving cfg slotId answers nitz g ∧ K g) ∧
        ∀ callback, r = some callback → Knows slotId field.service callback g := by
  rintro g ⟨hserving, hknown⟩
  refine ⟨⟨hserving.called, ?_⟩, ?_⟩
  · -- outside of `sendErrorResponse` one of the two locks is held
    cases answers with
    | true => exact .inl hserving.answering
    -- inside `sendErrorResponse` no lock is asked for
    | false => exact .inr hserving.holds
  · rintro r _ ⟨-, rfl⟩
    -- an empty slot says nothing
    cases r with
    | none => exact ⟨⟨hserving, hknown⟩, nofun⟩
    | some c =>
      cases answers with
      | true =>
        -- inside `sendErrorResponse` what is seen is not recorded
        have hafter : g.after (.client (.get slotId field)) (some c) = g :=
          if_pos hserving.answering
        rw [hafter]
        exact ⟨⟨hserving, hknown⟩, fun _ _ => .inl hserving.answering⟩
      | false =>
        -- otherwise the client joins those that were seen, and what was known before stays known
        have hafter : g.after (.client (.get slotId field)) (some c) =
            { g with seen := (slotId, field.service, c) :: g.seen } :=
          if_neg (ne_true_of_eq_false hserving.answering)
        rw [hafter]
        refine ⟨⟨⟨hserving.called, hserving.answering, hserving.hold⟩, hK _ _ hknown⟩, ?_⟩
        rintro _ ⟨⟩
        exact .inr List.mem_cons_self

/-- What a thread has seen it goes on to know. -/
theorem Knows.seen_cons {entry : ℤ × Service × Callback} (h : Knows slotId service callback g) :
    Knows slotId service callback { g with seen := entry :: g.seen } :=
  h.imp_right (List.mem_cons_of_mem _)

/-- `if (… != NULL)`: the branches run where the client may be called. -/
theorem ifRegistered_leads {field : CallbackField} {absent : Code α} {present : Callback → Code α}
    (habsent : Code.Leads cfg errors (Serving cfg slotId answers nitz) absent
      (Serving cfg slotId answers nitz))
    (hpresent : ∀ callback, Code.Leads cfg errors
      (fun g => Serving cfg slotId answers nitz g ∧ Knows slotId field.service callback g)
      (present callback) (Serving cfg slotId answers nitz)) :
    Code.Leads cfg errors (Serving cfg slotId answers nitz)
      (ifRegistered slotId field absent present) (Serving cfg slotId answers nitz) := by
  -- the macro reads the slot twice, first to test it and then to use it
  have hget : Program.Leads (serviceProtocol cfg errors) (Serving cfg slotId answers nitz)
      (getCallback slotId field) fun r g => Serving cfg slotId answers nitz g ∧
        ∀ callback, r = some callback → Knows slotId field.service callback g :=
    (@getCallback_leads cfg errors slotId answers nitz field (fun _ => True) fun _ _ => id).mono
      (fun g hg => ⟨hg, trivial⟩) fun _ _ hg => ⟨hg.1.1, hg.2⟩
  refine Program.Leads.bind hget fun first => ?_
  cases first with
  | none => exact habsent.mono (fun g hg => hg.1) fun _ _ => id
  | some _ =>
    refine Program.Leads.bind (hget.mono (fun g hg => hg.1) fun _ _ => id) fun second => ?_
    cases second with
    -- the slot was emptied between the two reads: the null pointer is called
    | none => exact abort_leads fun g hg => hg.1.called
    | some callback =>
      exact (hpresent callback).mono (fun g hg => ⟨hg.1, hg.2 callback rfl⟩) fun _ _ => id

/-- The response functions. They read the callback of the slot, or the two of which the newer one is
preferred, and call what they have seen; the lock of the caller is neither taken nor released. -/
theorem responseFunction_leads (f : ResponseFunction) {type : ResponseType} {serial : ℤ} :
    Code.Leads cfg errors (Serving cfg slotId answers False) (f.run cfg slotId type serial)
      (Serving cfg slotId answers False) := by
  cases f with
  | radio => exact ifRegistered_leads (fun _ => id) fun _ => callAndCheck_leads False.elim
  | radioV1_1 => exact ifRegistered_leads (fun _ => id) fun _ => callAndCheck_leads False.elim
  -- the older of the two interfaces is read first, and the newer one is preferred
  | setSimCardPower =>
    have hfirst := @getCallback_leads cfg errors slotId answers False .mRadioResponse
      (fun _ => True) fun _ _ => id
    refine Program.Leads.bind (hfirst.mono (fun g hg => ⟨hg, trivial⟩) fun _ _ => id)
      fun response => ?_
    -- what was learnt from the first read is kept by the second
    have hsecond := @getCallback_leads cfg errors slotId answers False .mRadioResponseV1_1
      (fun g => ∀ c, response = some c → Knows slotId .radio c g)
      fun g entry hK c hc => (hK c hc).seen_cons
    refine Program.Leads.bind (hsecond.mono (fun g hg => ⟨hg.1.1, hg.2⟩) fun _ _ => id)
      fun responseV1_1 => ?_
    cases responseV1_1 with
    | some c =>
      exact (callAndCheck_leads False.elim).mono (fun g hg => ⟨hg.1.1, hg.2 c rfl⟩) fun _ _ => id
    | none =>
      cases response with
      | some c =>
        exact (callAndCheck_leads False.elim).mono (fun g hg => ⟨hg.1.1, hg.1.2 c rfl⟩)
          fun _ _ => id
      | none => exact fun g hg => hg.1.1
  -- without the hook the function is empty
  | oemHook =>
    unfold ResponseFunction.run
    by_cases henabled : cfg.oemHookEnabled = true
    · rw [if_pos henabled]
      exact ifRegistered_leads (fun _ => id) fun _ => callAndCheck_leads False.elim
    · rw [if_neg henabled]
      exact fun _ => id

theorem acknowledgeRequest_leads {serial : ℤ} :
    Code.Leads cfg errors (Serving cfg slotId answers False)
      (acknowledgeRequest cfg slotId serial) (Serving cfg slotId answers False) :=
  ifRegistered_leads (fun _ => id) fun _ => callAndCheck_leads False.elim

/-- A payload that passes its check is passed on. -/
theorem payload_leads {I : ServicePhase → Prop} {present : Code ℤ}
    (hI : ∀ g, I g → Serving cfg slotId answers nitz g)
    (hpresent : Code.Leads cfg errors I present (Serving cfg slotId answers nitz)) :
    Code.Leads cfg errors I (do
      let ok ← payloadOk
      if ok then present else pure 0) (Serving cfg slotId answers nitz) := by
  have hpayload : Code.Leads cfg errors I payloadOk I :=
    Code.Leads.neutral ⟨trivial, fun _ => trivial⟩ fun g hg => (hI g hg).called
  refine hpayload.bind fun ok => ?_
  cases ok with
  | true => exact hpresent
  | false => exact hI

theorem sendIndication_leads {field : CallbackField} {unsolResponse : ℤ} {type : ResponseType} :
    Code.Leads cfg errors (Serving cfg slotId answers False)
      (sendIndication cfg slotId field unsolResponse type) (Serving cfg slotId answers False) := by
  refine ifRegistered_leads (fun _ => id) fun callback => payload_leads (fun g hg => hg.1) ?_
  exact Program.Leads.bind (callAndCheck_leads False.elim) fun _ _ => id

/-- The indication about keepalives. It asks for the newer version of the callback with a cast, and
calls what it gets, also when that is null. The lock is not touched. -/
theorem keepaliveStatusInd_leads {type : ResponseType} :
    Code.Leads cfg errors (Serving cfg slotId answers False)
      (keepaliveStatusInd cfg slotId type) (Serving cfg slotId answers False) := by
  refine ifRegistered_leads (fun _ => id) fun callback => ?_
  -- the cast gives the callback that was read, or nothing
  have hcast : Program.Leads (serviceProtocol cfg errors)
      (fun g => Serving cfg slotId answers False g ∧ Knows slotId .radio callback g)
      (castFrom callback) fun r g =>
        (Serving cfg slotId answers False g ∧ Knows slotId .radio callback g) ∧
          ∀ c, r = some (some c) → c = callback := by
    -- the cast does not touch the lock
    refine Program.Leads.op fun g hg => ⟨⟨hg.1.called, trivial⟩, ?_⟩
    rintro r _ ⟨hsame, rfl⟩
    exact ⟨hg, hsame⟩
  refine hcast.bind fun r => ?_
  cases r with
  | none => exact fun g hg => hg.1.1
  | some radioIndicationV1_1 =>
    refine payload_leads (fun g hg => hg.1.1) ?_
    cases radioIndicationV1_1 with
    -- the cast failed, and the null pointer is called
    | none => exact abort_leads fun g hg => hg.1.1.called
    | some c =>
      refine Program.Leads.bind ((callAndCheck_leads False.elim).mono (fun g hg => ?_)
        fun _ _ => id) fun _ _ => id
      -- the callback that is called is the one that was seen in the slot
      obtain rfl : c = callback := hg.2 c rfl
      exact hg.1

/-- A NITZ message may be passed on under the write lock. -/
theorem nitzTimeReceivedInd_leads {type : ResponseType} {response : Option CharBuffer}
    {responseLen : ℕ} :
    Code.Leads cfg errors (Serving cfg slotId answers nitz)
      (nitzTimeReceivedInd cfg slotId type response responseLen)
      (Serving cfg slotId answers nitz) := by
  refine ifRegistered_leads (fun _ => id) fun callback => ?_
  cases response with
  -- without data nothing is sent
  | none => exact fun g hg => hg.1
  | some response =>
    -- neither is anything sent when the length is zero
    show Code.Leads _ _ _ (if responseLen = 0 then _ else _) _
    split
    · exact fun g hg => hg.1
    · -- the two copies of the data do not concern the lock
      have hcalled : ∀ g, Serving cfg slotId answers nitz g ∧ Knows slotId .radio callback g →
          g.called = none := fun g hg => hg.1.called
      refine Program.Leads.bind (Code.Leads.neutral ⟨trivial, fun _ => trivial⟩ hcalled)
        fun nitzTime => ?_
      refine Program.Leads.bind (Code.Leads.neutral ⟨trivial, fun _ => trivial⟩ hcalled)
        fun time => ?_
      exact Program.Leads.bind (callAndCheck_leads fun _ => trivial) fun _ _ => id

/-- The indication functions. Only that of the NITZ message may run under the write lock. -/
theorem indicationFunction_leads (f : IndicationFunction) {unsolResponse : ℤ}
    {type : ResponseType} {data : Option CharBuffer} {datalen : ℕ}
    (hnitz : nitz → f = .nitzTimeReceived) :
    Code.Leads cfg errors (Serving cfg slotId answers nitz)
      (f.run cfg slotId unsolResponse type data datalen) (Serving cfg slotId answers nitz) := by
  by_cases hf : f = .nitzTimeReceived
  · -- only this function may run under the write lock
    subst hf
    exact nitzTimeReceivedInd_leads
  · -- the write lock is out of the question
    obtain rfl : nitz = False := eq_false fun h => hf (hnitz h)
    cases f with
    | radio => exact sendIndication_leads
    | radioV1_1 => exact sendIndication_leads
    | keepaliveStatus => exact keepaliveStatusInd_leads
    | oemHook =>
      unfold IndicationFunction.run
      by_cases henabled : cfg.oemHookEnabled = true
      · rw [if_pos henabled]
        exact sendIndication_leads
      · rw [if_neg henabled]
        exact fun _ => id
    | nitzTimeReceived => exact absurd rfl hf

end Serving

/-! ### The functions that libril offers -/

section Functions

variable {slotId : ℤ}

/-- The lock of the slot is taken for reading. -/
theorem rdlock_leads : Code.Leads cfg errors ServicePhase.Free
    (pthreadRwlockRdlock (getRadioServiceRwlock cfg slotId)) (Serving cfg slotId false False) := by
  refine Program.Leads.op fun g hfree => ⟨hfree, ?_⟩
  rintro ⟨⟩ _ ⟨-, rfl⟩
  exact .of_read hfree.called hfree.answering rfl

/-- The lock of the slot is taken for writing. -/
theorem wrlock_leads : Code.Leads cfg errors ServicePhase.Free
    (pthreadRwlockWrlock (getRadioServiceRwlock cfg slotId))
    (fun g => Serving cfg slotId false True g ∧ g.Holds cfg slotId .write) := by
  refine Program.Leads.op fun g hfree => ⟨hfree, ?_⟩
  rintro ⟨⟩ _ ⟨-, rfl⟩
  exact ⟨⟨hfree.called, hfree.answering, .inr ⟨trivial, rfl⟩⟩, rfl⟩

/-- The lock is released, however it was held. -/
theorem unlock_leads {nitz : Prop} : Code.Leads cfg errors (Serving cfg slotId false nitz)
    (pthreadRwlockUnlock (getRadioServiceRwlock cfg slotId)) ServicePhase.Free := by
  refine Program.Leads.op fun g hserving => ⟨⟨hserving.called, hserving.holds⟩, ?_⟩
  rintro ⟨⟩ _ ⟨-, rfl⟩
  exact ⟨rfl, hserving.answering, hserving.called⟩

theorem checkAndDequeueRequestInfoIfAck_neutral {pRI : Addr} {isAck : Bool} :
    (checkAndDequeueRequestInfoIfAck cfg pRI isAck).Only RilOp.Neutral :=
  ⟨trivial, fun _ => ⟨trivial, fun _ => trivial⟩⟩

theorem addRequestToList_neutral {serial request : ℤ} :
    (addRequestToList cfg serial slotId request).Only RilOp.Neutral := by
  unfold addRequestToList
  split
  · exact trivial
  · refine ⟨trivial, fun pRI => ?_⟩
    cases pRI with
    | none => exact trivial
    | some a => exact ⟨trivial, fun _ => ⟨trivial, fun _ => trivial⟩⟩

theorem solicitedResponseType_neutral {info : RequestInfo} :
    (solicitedResponseType cfg info).Only RilOp.Neutral := by
  unfold solicitedResponseType
  split
  · exact ⟨trivial, fun _ => trivial⟩
  · exact trivial

/-- A request is answered where the client may be called. -/
theorem callResponseFunction_leads {answers : Bool} {pRI : Addr} {info : RequestInfo}
    {type : ResponseType} {e : ℤ} :
    Code.Leads cfg errors (Serving cfg info.socketId answers False)
      (callResponseFunction cfg pRI info type e) (Serving cfg info.socketId answers False) := by
  unfold callResponseFunction
  split
  · exact abort_leads fun g hg => hg.called
  · -- the answer is written without a look at the lock, and then the function of the request runs
    next f _ =>
    exact Program.Leads.bind
      (Code.Leads.neutral ⟨trivial, fun _ => trivial⟩ fun g hg => hg.called)
      fun _ => responseFunction_leads f

/-- `RIL_onRequestAck` returns without a lock. -/
theorem rilOnRequestAck_leads (t : Option Addr) :
    Code.Leads cfg errors ServicePhase.Free (rilOnRequestAck cfg t) ServicePhase.Free := by
  cases t with
  | none => exact fun _ => id
  | some pRI =>
    refine Program.Leads.bind (Code.Leads.neutral checkAndDequeueRequestInfoIfAck_neutral
      fun g hg => hg.called) fun found => ?_
    cases found with
    | false => exact fun _ => id
    -- nothing is sent for a token that is not in the list
    | true =>
      refine Program.Leads.bind
        (Code.Leads.neutral ⟨trivial, fun _ => trivial⟩ fun g hg => hg.called) fun info => ?_
      -- a cancelled request is not acknowledged
      show Code.Leads _ _ _ (if info.cancelled = 0 then _ else _) _
      split
      · refine rdlock_leads.bind fun _ => ?_
        refine Program.Leads.bind
          (Code.Leads.neutral ⟨trivial, fun _ => trivial⟩ fun g hg => hg.called) fun _ => ?_
        exact acknowledgeRequest_leads.bind fun _ => unlock_leads
      · exact fun _ => id

/-- `RIL_onRequestComplete` returns without a lock. A local request is only freed; of the others the
client hears while the lock of its slot is held. -/
theorem rilOnRequestComplete_leads (t : Option Addr) (e : ℤ) :
    Code.Leads cfg errors ServicePhase.Free (rilOnRequestComplete cfg t e) ServicePhase.Free := by
  have hfree : ∀ pRI, Code.Leads cfg errors ServicePhase.Free (freeRequestInfo pRI)
      ServicePhase.Free :=
    fun pRI => Code.Leads.neutral ⟨trivial, fun _ => trivial⟩ fun g hg => hg.called
  cases t with
  -- without a request there is nothing to complete
  | none => exact fun _ => id
  | some pRI =>
    refine Program.Leads.bind (Code.Leads.neutral checkAndDequeueRequestInfoIfAck_neutral
      fun g hg => hg.called) fun found => ?_
    cases found with
    | false => exact fun _ => id
    -- the request is read before it is freed
    | true =>
      refine Program.Leads.bind
        (Code.Leads.neutral ⟨trivial, fun _ => trivial⟩ fun g hg => hg.called) fun info => ?_
      show Code.Leads _ _ _ (if info.isLocal > 0 then _ else _) _
      -- a local request is freed, of the others the client hears while the lock is held
      split
      · exact hfree pRI
      · refine Program.Leads.bind ?_ fun _ => hfree pRI
        split
        · refine Program.Leads.bind (Code.Leads.neutral solicitedResponseType_neutral
            fun g hg => hg.called) fun type => ?_
          refine rdlock_leads.bind fun _ => ?_
          exact callResponseFunction_leads.bind fun _ => unlock_leads
        · exact fun _ => id

/-- `sendErrorResponse`, where it is allowed, calls the client without a lock. -/
theorem sendErrorResponse_leads (herrors : errors) (pRI : Option Addr) (err : ℤ) :
    Code.Leads cfg errors ServicePhase.Free (sendErrorResponse cfg pRI err) ServicePhase.Free := by
  cases pRI with
  | none => exact abort_leads fun g hg => hg.called
  | some pRI =>
    have henter : Code.Leads cfg errors ServicePhase.Free (mark .enterSendErrorResponse)
        fun g => g.called = none ∧ g.answering = true ∧ g.hold = none := by
      refine Program.Leads.op fun g hfree => ⟨⟨herrors, hfree⟩, ?_⟩
      rintro ⟨⟩ _ ⟨-, rfl⟩
      exact ⟨hfree.called, rfl, hfree.hold⟩
    -- the marker opens the part in which the client is called without a lock
    refine henter.bind fun _ => ?_
    refine Program.Leads.bind (Code.Leads.neutral ⟨trivial, fun _ => trivial⟩ fun g hg => hg.1)
      fun info => ?_
    have hserve : Code.Leads cfg errors
        (fun g => g.called = none ∧ g.answering = true ∧ g.hold = none)
        (callResponseFunction cfg pRI info .solicited err)
        (Serving cfg info.socketId true False) :=
      callResponseFunction_leads.mono (fun g hg => ⟨hg.1, hg.2.1, hg.2.2⟩) fun _ _ => id
    -- and the marker at its end restores the state in which no lock is held
    refine hserve.bind fun _ => Program.Leads.op fun g hserving => ?_
    refine ⟨⟨hserving.called, hserving.answering⟩, ?_⟩
    rintro ⟨⟩ _ ⟨-, rfl⟩
    exact ⟨hserving.hold, rfl, hserving.called⟩

theorem keepNITZTimeData_neutral {data : Option CharBuffer} {datalen : ℕ} :
    (keepNITZTimeData data datalen).Only RilOp.Neutral := by
  refine Only.bind ⟨trivial, fun _ => trivial⟩ fun last => Only.bind ?_ fun _ => ?_
  · split
    · exact ⟨trivial, fun _ => trivial⟩
    · exact trivial
  · refine Only.bind ⟨trivial, fun _ => trivial⟩ fun allocated => ?_
    cases allocated with
    -- the first two tests return before any lock is taken
    | false => exact trivial
    | true =>
      cases data with
      | some data => exact ⟨trivial, fun _ => trivial⟩
      | none =>
        show Only _ (if datalen = 0 then _ else _)
        split
        · exact trivial
        · exact ⟨trivial, fun r => nomatch r⟩

theorem afterIndication_neutral {unsolResponse ret : ℤ} {data : Option CharBuffer}
    {datalen : ℕ} : (afterIndication cfg unsolResponse ret data datalen).Only RilOp.Neutral := by
  unfold afterIndication
  refine Only.bind ?_ fun scheduled => ?_
  · split
    · exact ⟨trivial, fun _ => trivial⟩
    · exact trivial
  · cases scheduled with
    | false => exact trivial
    | true =>
      show Only _ (if ret ≠ 0 ∧ unsolResponse = Unsol.nitzTimeReceived then _ else _)
      split
      · exact keepNITZTimeData_neutral
      · exact trivial

/-- The lock that `RIL_onUnsolicitedResponse` takes, and the indication under it. -/
theorem lockForIndication_leads {unsolResponse : ℤ} :
    Code.Leads cfg errors ServicePhase.Free (lockForIndication cfg slotId unsolResponse)
      (Serving cfg slotId false (unsolResponse = Unsol.nitzTimeReceived)) := by
  unfold lockForIndication
  split
  · next hnitz =>
    have hset : Code.Leads cfg errors (Serving cfg slotId false True) (do
        let time ← elapsedRealtime
        setNitzTimeReceived slotId time) (Serving cfg slotId false True) :=
      Code.Leads.neutral ⟨trivial, fun _ => ⟨trivial, fun _ => trivial⟩⟩ fun g hg => hg.called
    exact wrlock_leads.bind fun _ => hset.mono (fun g hg => hg.1) fun _ g hg =>
      hg.mono fun _ => hnitz
  · exact rdlock_leads.mono (fun _ => id) fun _ g hg => hg.mono False.elim

theorem callIndicationFunction_leads {unsolResponse : ℤ} {type : ResponseType}
    {data : Option CharBuffer} {datalen : ℕ} :
    Code.Leads cfg errors (Serving cfg slotId false (unsolResponse = Unsol.nitzTimeReceived))
      (callIndicationFunction cfg slotId unsolResponse type data datalen)
      (Serving cfg slotId false (unsolResponse = Unsol.nitzTimeReceived)) := by
  unfold callIndicationFunction
  split
  · next f hf =>
    refine indicationFunction_leads f fun hnitz => ?_
    subst hnitz
    exact (Option.some.inj hf).symm
  · exact fun _ => id

/-- `RIL_onUnsolicitedResponse` returns without a lock. -/
theorem rilOnUnsolicitedResponse_leads (unsolResponse : ℤ) (data : Option CharBuffer)
    (datalen : ℕ) (socketId : ℤ) :
    Code.Leads cfg errors ServicePhase.Free
      (rilOnUnsolicitedResponse cfg unsolResponse data datalen socketId) ServicePhase.Free := by
  have hcalled : ∀ g, ServicePhase.Free g → g.called = none := fun g hg => hg.called
  unfold rilOnUnsolicitedResponse
  split
  · exact fun _ => id
  split
  · exact fun _ => id
  unfold passIndicationOn
  -- the wake lock is taken or not, the radio lock is not concerned
  refine Program.Leads.bind (Code.Leads.neutral ?_ hcalled) fun _ => ?_
  · split
    · exact ⟨trivial, fun _ => trivial⟩
    · exact trivial
  -- the lock is taken for the mode of the indication, and given back before the answer is looked at
  refine lockForIndication_leads.bind fun _ => ?_
  refine callIndicationFunction_leads.bind fun ret => unlock_leads.bind fun _ => ?_
  refine Program.Leads.bind (Code.Leads.neutral afterIndication_neutral hcalled) fun ok => ?_
  split
  · exact Code.Leads.neutral ⟨trivial, fun _ => trivial⟩ hcalled
  · exact fun _ => id

theorem resendLastNITZTimeData_leads {socketId : ℤ} :
    Code.Leads cfg errors ServicePhase.Free (resendLastNITZTimeData cfg socketId)
      ServicePhase.Free := by
  have hcalled : ∀ g, Serving cfg socketId false False g → g.called = none :=
    fun g hg => hg.called
  refine Program.Leads.bind (Code.Leads.neutral ⟨trivial, fun _ => trivial⟩
    fun g hg => hg.called) fun last => ?_
  -- the data that was kept is sent under the read lock
  split
  · refine rdlock_leads.bind fun _ => ?_
    refine Program.Leads.bind (Code.Leads.neutral ⟨trivial, fun _ => trivial⟩ hcalled)
      fun data => ?_
    refine Program.Leads.bind (Code.Leads.neutral ⟨trivial, fun _ => trivial⟩ hcalled)
      -- the copy of the data and its freeing do not concern the lock
      fun size => ?_
    refine nitzTimeReceivedInd_leads.bind fun ret => ?_
    refine Program.Leads.bind (Code.Leads.neutral ?_ hcalled) fun _ => unlock_leads
    split
    · exact ⟨trivial, fun _ => trivial⟩
    · exact trivial
  · exact fun _ => id

theorem onNewCommandConnect_leads {socketId : ℤ} :
    Code.Leads cfg errors ServicePhase.Free (onNewCommandConnect cfg socketId)
      ServicePhase.Free := by
  refine (rilOnUnsolicitedResponse_leads _ _ _ _).bind fun _ => ?_
  refine (rilOnUnsolicitedResponse_leads _ _ _ _).bind fun _ => ?_
  refine Program.Leads.bind (Code.Leads.neutral ⟨trivial, fun _ => trivial⟩
    fun g hg => hg.called) fun last => ?_
  split
  · exact resendLastNITZTimeData_leads
  · exact fun _ => id

/-- A registration under the write lock. -/
theorem register_leads {o : ClientOp}
    (hallow : ∀ g : ServicePhase, g.Holds cfg slotId .write → g.allowClient cfg o)
    (hafter : ∀ (g : ServicePhase) r, g.after (.client o) r =
      { g with seen := [], sampled := none }) :
    Code.Leads cfg errors ServicePhase.Free (do
      pthreadRwlockWrlock (getRadioServiceRwlock cfg slotId)
      let _ ← (.op (.client o) .ret : Code o.Res)
      pthreadRwlockUnlock (getRadioServiceRwlock cfg slotId)) ServicePhase.Free := by
  refine wrlock_leads.bind fun _ => ?_
  have hop : Code.Leads cfg errors
      (fun g => Serving cfg slotId false True g ∧ g.Holds cfg slotId .write)
      (.op (.client o) .ret) (Serving cfg slotId false True) := by
    refine Program.Leads.op fun g hg => ⟨⟨hg.1.called, hallow g hg.2⟩, ?_⟩
    rintro r _ ⟨-, rfl⟩
    rw [hafter]
    exact ⟨hg.1.called, hg.1.answering, hg.1.hold⟩
  exact hop.bind fun _ => unlock_leads

/-- `RadioImpl::setResponseFunctions` returns without a lock. -/
theorem setResponseFunctions_leads (radioResponse radioIndication : Option ℕ) :
    Code.Leads cfg errors ServicePhase.Free
      (setResponseFunctions cfg slotId radioResponse radioIndication) ServicePhase.Free := by
  have hregister := @register_leads cfg errors slotId
    (.setResponseFunctions slotId radioResponse radioIndication) (fun _ => id) fun _ _ => rfl
  exact hregister.bind fun _ => onNewCommandConnect_leads

/-- `OemHookImpl::setResponseFunctions` returns without a lock. -/
theorem setOemHookFunctions_leads (oemHookResponse oemHookIndication : Option ℕ) :
    Code.Leads cfg errors ServicePhase.Free
      (setOemHookFunctions cfg slotId oemHookResponse oemHookIndication) ServicePhase.Free :=
  @register_leads cfg errors slotId
    (.setOemHookFunctions slotId oemHookResponse oemHookIndication) (fun _ => id) fun _ _ => rfl

/-- The calls of a request method, `sendErrorResponse` among them. -/
theorem entryOp_leads (o : EntryOp) :
    Code.Leads cfg True ServicePhase.Free (o.code cfg) ServicePhase.Free := by
  have hcalled : ∀ g, ServicePhase.Free g → g.called = none := fun g hg => hg.called
  cases o with
  | addRequestToList serial slotId request =>
    exact Code.Leads.neutral addRequestToList_neutral hcalled
  | loadRequestInfo pRI => exact Code.Leads.neutral ⟨trivial, fun _ => trivial⟩ hcalled
  | calloc => exact Code.Leads.neutral ⟨trivial, fun _ => trivial⟩ hcalled
  | sendErrorResponse pRI err => exact sendErrorResponse_leads trivial pRI err
  | onRequest request data pRI slotId =>
    exact Code.Leads.neutral ⟨trivial, fun _ => trivial⟩ hcalled
  | onRequestComplete t e => exact rilOnRequestComplete_leads (some t) e
  | vendorComplete rid t e => exact rilOnRequestComplete_leads (some t) e
  | vendorAck t => exact rilOnRequestAck_leads (some t)
  | releaseWakeLock => exact Code.Leads.neutral ⟨trivial, fun _ => trivial⟩ hcalled
  | abort => exact abort_leads hcalled

end Functions

/-! ### A dead client -/

/-- `checkReturnStatus` after a failed call when no other thread holds the lock, whether or not its
own thread does: it resets the callbacks and ends with the lock. -/
theorem checkReturnStatus_runs_alone {t : ℕ} {slotId : ℤ} {service : Service} {s : RilState}
    (hlock : (s.locks (getRadioServiceRwlock cfg slotId)).unlock t = ⟨0, none⟩)
    (hcounter : (s.clients.slot slotId).counter service ≠ intMax) :
    ∃ s', (checkReturnStatus cfg slotId false service).Runs (RilOp.sem cfg t) s () s' ∧
      s'.locks (getRadioServiceRwlock cfg slotId) = ⟨{t}, none⟩ ∧
      s'.clients = s.clients.reset t slotId service ∧ s'.wake = s.wake := by
  -- the lock is held by this thread alone, so each of the four operations goes through
  generalize hl : getRadioServiceRwlock cfg slotId = l at hlock
  -- the lock is dropped, taken for writing, dropped, and taken for reading
  let unlocked : RadioRwlock → Rwlock := Function.update s.locks l ⟨0, none⟩
  let written : RadioRwlock → Rwlock := Function.update unlocked l ⟨0, some t⟩
  let released : RadioRwlock → Rwlock := Function.update written l ⟨0, none⟩
  let read : RadioRwlock → Rwlock := Function.update released l ⟨{t}, none⟩
  let reset : RilState := { s with locks := written, clients := s.clients.reset t slotId service }
  have hunlocked : unlocked l = ⟨0, none⟩ := Function.update_self l _ _
  have hwritten : written l = ⟨0, some t⟩ := Function.update_self l _ _
  have hreleased : released l = ⟨0, none⟩ := Function.update_self l _ _
  have hunlock : unlocked = Function.update s.locks l ((s.locks l).unlock t) := by
    rw [hlock]
  have hwrite : written = Function.update unlocked l { unlocked l with writer := some t } := by
    rw [hunlocked]
  have hrelease : released = Function.update written l ((written l).unlock t) := by
    rw [hwritten]
    exact congrArg (Function.update written l) (if_pos rfl).symm
  have hread : read =
      Function.update released l { released l with readers := t ::ₘ (released l).readers } := by
    rw [hreleased]
    rfl
  -- the counter has not changed
  have hreset : (ClientOp.resetIfCurrent slotId service
      ((s.clients.slot slotId).counter service)).sem t () s.clients
        (s.clients.reset t slotId service) := by
    show if _ = _ then _ ∧ _ else _
    rw [if_pos rfl]
    exact ⟨hcounter, rfl⟩
  -- the state in which it ends has the new clients and the lock as it was
  refine ⟨{ reset with locks := read }, ?_, Function.update_self l _ _, rfl, rfl⟩
  unfold checkReturnStatus
  rw [if_pos rfl, hl]
  exact ⟨_, s, ⟨_, ⟨rfl, rfl⟩, rfl⟩, (), { s with locks := unlocked }, ⟨_, hunlock, rfl⟩,
    (), { s with locks := written },
    ⟨_, ⟨congrArg Rwlock.readers hunlocked, congrArg Rwlock.writer hunlocked, hwrite⟩, rfl⟩,
    (), reset, ⟨_, hreset, rfl⟩, (), { reset with locks := released }, ⟨_, hrelease, rfl⟩,
    (), _, ⟨_, ⟨congrArg Rwlock.writer hreleased, hread⟩, rfl⟩, rfl, rfl⟩

/-! ### The rwlocks -/

/-- The rwlocks record what the threads hold: each thread is counted once among the readers of the
lock it holds for reading, and a lock that is held for writing has no readers. -/
structure LocksHeld (locks : RadioRwlock → Rwlock) (gh : ℕ → ServicePhase) : Prop where
  readers : ∀ l t, (locks l).readers.count t = if (gh t).hold = some (l, .read) then 1 else 0
  writer : ∀ l t, (locks l).writer = some t ↔ (gh t).hold = some (l, .write)
  exclusive : ∀ l, (locks l).writer ≠ none → (locks l).readers = 0

namespace LocksHeld

variable {locks locks' : RadioRwlock → Rwlock} {gh : ℕ → ServicePhase} {g : ServicePhase}
  {l : RadioRwlock} {t : ℕ}

theorem free (h : ∀ l, locks l = ⟨0, none⟩) (hgh : ∀ t, (gh t).hold = none) :
    LocksHeld locks gh where
  readers l t := by
    rw [h l, hgh t]
    rfl
  writer l t := by
    rw [h l, hgh t]
    exact iff_of_false nofun nofun
  exclusive l hl := by
    rw [h l] at hl
    exact absurd rfl hl

/-- A thread is a reader of the lock it holds for reading. -/
theorem mem_readers_iff (inv : LocksHeld locks gh) :
    t ∈ (locks l).readers ↔ (gh t).hold = some (l, .read) := by
  rw [← Multiset.count_pos, inv.readers]
  split <;> simp [*]

/-- While a thread holds a lock for writing no other thread holds it. -/
theorem eq_of_write (inv : LocksHeld locks gh) {u : ℕ} {mode : LockMode}
    (ht : (gh t).hold = some (l, .write)) (hu : (gh u).hold = some (l, mode)) : u = t := by
  have hwriter := (inv.writer l t).mpr ht
  cases mode with
  | read =>
    have hempty := inv.exclusive l (by rw [hwriter]; nofun)
    have hmem := inv.mem_readers_iff.mpr hu
    rw [hempty] at hmem
    exact absurd hmem (Multiset.notMem_zero u)
  | write =>
    have := (inv.writer l u).mpr hu
    exact Option.some.inj (this.symm.trans hwriter)

/-- A step that leaves what the thread holds as it is. -/
theorem keep (inv : LocksHeld locks gh) (hhold : g.hold = (gh t).hold) :
    LocksHeld locks (Function.update gh t g) := by
  have hsame : ∀ u, (Function.update gh t g u).hold = (gh u).hold := by
    intro u
    rcases eq_or_ne u t with rfl | hut
    · rw [Function.update_self, hhold]
    · rw [Function.update_of_ne hut]
  exact ⟨fun l u => by rw [hsame]; exact inv.readers l u,
    fun l u => by rw [hsame]; exact inv.writer l u, inv.exclusive⟩

/-- One lock changes, and what one thread holds. The other locks are held as before, and this one is
held by those that its new value says. -/
theorem update (inv : LocksHeld locks gh) {lock : Rwlock}
    (hother : ∀ m, m ≠ l → (g.hold = some (m, .read) ↔ (gh t).hold = some (m, .read)) ∧
      (g.hold = some (m, .write) ↔ (gh t).hold = some (m, .write)))
    (hreaders : ∀ u, lock.readers.count u =
      if (Function.update gh t g u).hold = some (l, .read) then 1 else 0)
    (hwriter : ∀ u, lock.writer = some u ↔ (Function.update gh t g u).hold = some (l, .write))
    (hexclusive : lock.writer ≠ none → lock.readers = 0) :
    LocksHeld (Function.update locks l lock) (Function.update gh t g) where
  -- the lock `l` is new, and the others are held as before
  readers m u := by
    rcases eq_or_ne m l with rfl | hm
    · rw [Function.update_self]
      exact hreaders u
    · rw [Function.update_of_ne hm, inv.readers]
      rcases eq_or_ne u t with rfl | hut
      · rw [Function.update_self]
        simp only [(hother m hm).1]
      · rw [Function.update_of_ne hut]
  writer m u := by
    rcases eq_or_ne m l with rfl | hm
    · rw [Function.update_self]
      exact hwriter u
    · rw [Function.update_of_ne hm, inv.writer]
      rcases eq_or_ne u t with rfl | hut
      · rw [Function.update_self]
        exact (hother m hm).2.symm
      · rw [Function.update_of_ne hut]
  exclusive m := by
    rcases eq_or_ne m l with rfl | hm
    · rw [Function.update_self]
      exact hexclusive
    · rw [Function.update_of_ne hm]
      exact inv.exclusive m

/-- The lock is taken for reading. -/
theorem rdlock (inv : LocksHeld locks gh) (hfree : (gh t).hold = none)
    (hwriter : (locks l).writer = none) (hg : g.hold = some (l, .read)) :
    LocksHeld (Function.update locks l { locks l with readers := t ::ₘ (locks l).readers })
      (Function.update gh t g) := by
  refine inv.update (fun m hm => ?_) (fun u => ?_) (fun u => ?_) fun hw => absurd hwriter hw
  · rw [hg, hfree]
    simp [hm.symm]
  · rcases eq_or_ne u t with rfl | hut
    · -- the thread that takes the lock had no hold, so it is counted once more
      rw [Function.update_self, Multiset.count_cons_self, inv.readers, hfree, hg]
      simp
    · rw [Function.update_of_ne hut, Multiset.count_cons_of_ne hut]
      exact inv.readers l u
  · -- nobody writes, before or after
    show (locks l).writer = some u ↔ _
    rcases eq_or_ne u t with rfl | hut
    · rw [Function.update_self, hg, hwriter]
      exact iff_of_false nofun (by simp)
    · rw [Function.update_of_ne hut]
      exact inv.writer l u

/-- The lock is taken for writing. -/
theorem wrlock (inv : LocksHeld locks gh) (hfree : (gh t).hold = none)
    (hreaders : (locks l).readers = 0) (hwriter : (locks l).writer = none)
    (hg : g.hold = some (l, .write)) :
    LocksHeld (Function.update locks l { locks l with writer := some t })
      (Function.update gh t g) := by
  refine inv.update (fun m hm => ?_) (fun u => ?_) (fun u => ?_) fun _ => hreaders
  · rw [hg, hfree]
    simp [hm.symm]
  · -- nobody read it before, and a writer is no reader
    show (locks l).readers.count u = _
    rw [inv.readers]
    rcases eq_or_ne u t with rfl | hut
    · rw [Function.update_self, hg, hfree]
      simp
    · rw [Function.update_of_ne hut]
  · rcases eq_or_ne u t with rfl | hut
    · rw [Function.update_self, hg]
      exact iff_of_true rfl rfl
    · -- another thread cannot be the writer of a free lock
      rw [Function.update_of_ne hut, ← inv.writer, hwriter]
      simp [hut.symm]

/-- The lock is released. The writer was alone with it, and a reader leaves the others in. -/
theorem unlock (inv : LocksHeld locks gh) {mode : LockMode} (hhold : (gh t).hold = some (l, mode))
    (hg : g.hold = none) :
    LocksHeld (Function.update locks l ((locks l).unlock t)) (Function.update gh t g) := by
  have hother : ∀ m, m ≠ l → (g.hold = some (m, .read) ↔ (gh t).hold = some (m, .read)) ∧
      (g.hold = some (m, .write) ↔ (gh t).hold = some (m, .write)) := by
    intro m hm
    rw [hg, hhold]
    simp [hm.symm]
  cases mode with
  | write =>
    have hwriter := (inv.writer l t).mpr hhold
    -- the writer was alone with the lock
    have hempty := inv.exclusive l (by rw [hwriter]; nofun)
    have hunlock : (locks l).unlock t = { locks l with writer := none } := if_pos hwriter
    rw [hunlock]
    refine inv.update hother (fun u => ?_) (fun u => ?_) fun h => absurd rfl h
    · -- nobody reads a lock that was held for writing
      show (locks l).readers.count u = _
      rcases eq_or_ne u t with rfl | hut
      · rw [Function.update_self, hg, hempty]
        simp
      · rw [Function.update_of_ne hut]
        exact inv.readers l u
    · -- no other thread was writing, and this one has stopped
      refine iff_of_false nofun fun hu => ?_
      rcases eq_or_ne u t with rfl | hut
      · rw [Function.update_self, hg] at hu
        cases hu
      · rw [Function.update_of_ne hut] at hu
        exact hut (inv.eq_of_write hhold hu)
  | read =>
    -- a reader does not write
    have hwriter : (locks l).writer ≠ some t := by
      rw [Ne, inv.writer, hhold]
      simp
    have hunlock : (locks l).unlock t = { locks l with readers := (locks l).readers.erase t } :=
      if_neg hwriter
    rw [hunlock]
    refine inv.update hother (fun u => ?_) (fun u => ?_) fun h => ?_
    · -- of the readers just this one is gone
      rcases eq_or_ne u t with rfl | hut
      · rw [Function.update_self, Multiset.count_erase_self, inv.readers, hhold, hg]
        simp
      · rw [Function.update_of_ne hut, Multiset.count_erase_of_ne hut]
        exact inv.readers l u
    · show (locks l).writer = some u ↔ _
      rcases eq_or_ne u t with rfl | hut
      · rw [Function.update_self, hg]
        exact iff_of_false hwriter nofun
      · rw [Function.update_of_ne hut]
        exact inv.writer l u
    · -- there is a reader, so nobody writes
      have hmem := inv.mem_readers_iff.mpr hhold
      rw [inv.exclusive l h] at hmem
      exact absurd hmem (Multiset.notMem_zero t)

/-- **The rwlocks follow the protocol**: any allowed operation of any thread. Only taking and
releasing change a lock, and the phase of the thread changes in the same way. -/
theorem step (inv : LocksHeld locks gh) {o : RilOp} {r : o.Res} {s s' : RilState}
    (hs : s.locks = locks) (hs' : s'.locks = locks') (hallow : (gh t).allow cfg errors o)
    (hsem : RilOp.sem cfg t o r s s') :
    LocksHeld locks' (Function.update gh t ((gh t).after o r)) := by
  subst hs hs'
  cases o with
  -- the operations on the rest of the state leave both the locks and the holds as they are
  | pending o =>
    obtain ⟨_, -, rfl⟩ := hsem
    exact inv.keep rfl
  | nitz o =>
    obtain ⟨_, -, rfl⟩ := hsem
    exact inv.keep rfl
  | wake o =>
    obtain ⟨_, -, rfl⟩ := hsem
    exact inv.keep rfl
  | vendor o =>
    obtain rfl : s' = s := hsem
    exact inv.keep rfl
  | mark o =>
    obtain rfl : s' = s := hsem
    cases o with
    | enterCheckReturnStatus slotId message => exact inv.keep rfl
    | enterSendErrorResponse => exact inv.keep rfl
    | leaveSendErrorResponse => exact inv.keep rfl
  -- reading a slot may change what was seen, but never the hold
  | client o =>
    obtain ⟨_, -, rfl⟩ := hsem
    refine inv.keep ?_
    cases o with
    | get slotId field =>
      cases r with
      | none => rfl
      | some c =>
        show (if (gh t).answering then gh t else _ : ServicePhase).hold = _
        split <;> rfl
    | castFrom callback => rfl
    | call slotId callback message => rfl
    | getCounter slotId service => rfl
    | resetIfCurrent slotId service counter => rfl
    | setResponseFunctions slotId response indication => rfl
    | setOemHookFunctions slotId response indication => rfl
  | lock o =>
    -- only these operations touch the locks
    obtain ⟨_, hlock, rfl⟩ := hsem
    cases o with
    | rdlock l =>
      obtain ⟨hwriter, rfl⟩ := hlock
      exact inv.rdlock hallow.hold hwriter rfl
    | wrlock l =>
      obtain ⟨hreaders, hwriter, rfl⟩ := hlock
      exact inv.wrlock hallow.hold hreaders hwriter rfl
    | unlock l =>
      obtain ⟨-, mode, hhold⟩ := hallow
      obtain rfl := hlock
      exact inv.unlock hhold rfl

end LocksHeld

end BlueCommon.Ril
