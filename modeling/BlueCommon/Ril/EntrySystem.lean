import BlueCommon.Ril.EntryPoints
import BlueCommon.Ril.PendingLists

/-!
# What the calls of the entry points do to the pending lists

The request methods and the vendor are threads that call `EntryOp`s in any order. `EntryEffect` says
once, for all of these calls, what they can do to the pending lists: accept a request, answer and
remove one, note an ack, answer one that stays where it is, or nothing. `entryEffect_of_runs`
derives it from the code, with any result of any allocation.
-/

namespace BlueCommon.Ril

open Interaction Program LinkedList

/-- How the calls behave when the thread `t` makes them: as their code runs. -/
def entrySem (cfg : Config) (t : ℕ) : Semantics entrySignature RilState :=
  fun o r s s' => (o.code cfg).Runs (RilOp.sem cfg t) s r s'

/-- What a thread may be given to run: a method of any slot with any arguments, or a call of the
vendor with any token. -/
def MayRun (cfg : Config) (p : Entry Unit) : Prop :=
  (∃ slotId, RequestMethod cfg slotId p) ∨ (∃ rid t e, p = .op (.vendorComplete rid t e) .ret) ∨
    ∃ t, p = .op (.vendorAck t) .ret

/-- The node of a request that the call has accepted. -/
def EntryOp.accepts : (o : EntryOp) → o.Res → Option Addr
  | .addRequestToList .., r => r
  | _, _ => none

/-- The token that the call completes. -/
def EntryOp.completes : EntryOp → Option Addr
  | .onRequestComplete t _ => some t
  | .vendorComplete _ t _ => some t
  | _ => none

/-- The request that the call answers with an error. -/
def EntryOp.refuses : EntryOp → Option Addr
  | .sendErrorResponse t _ => t
  | _ => none

variable {cfg : Config} {p : Pending} {xs : PendingList → List Addr}

/-- What a call with its result can do to the pending lists `xs` in the memory `p`. -/
inductive EntryEffect (cfg : Config) (p : Pending) (xs : PendingList → List Addr) (o : EntryOp)
    (r : o.Res) : Pending → Prop
  /-- Nothing: in particular the token of a completion is in no list. -/
  | nothing (haccepts : o.accepts r = none) (hrefuses : o.refuses = none)
      (hmiss : ∀ a, o.completes = some a → ∀ l, a ∉ xs l) : EntryEffect cfg p xs o r p
  /-- A request is accepted. -/
  | accept {serial slotId request : ℤ} {a : Addr}
      (ho : o = .addRequestToList serial slotId request) (haccepts : o.accepts r = some a)
      (hfresh : p.live a = false) :
      EntryEffect cfg p xs o r (p.accept cfg a serial slotId request)
  /-- A request is answered and leaves its list. -/
  | complete {l : PendingList} {a : Addr} {pp : Link Addr} {type : ResponseType} {e : ℤ}
      (haccepts : o.accepts r = none) (hrefuses : o.refuses = none) (ho : o.completes = some a)
      (hwalk : p.Walks l a (some pp)) : EntryEffect cfg p xs o r (p.complete l a pp type e)
  /-- An ack is noted. -/
  | ack {l : PendingList} {a : Addr} {pp : Link Addr} (ho : o = .vendorAck a)
      (hwalk : p.Walks l a (some pp)) :
      EntryEffect cfg p xs o r ((p.found l a true pp).note
        (.acknowledge (p.owner a) (p.info a).socketId (p.info a).token))
  /-- A request is answered with an error. The lists stay as they are. -/
  | refuse {a : Addr} {info : RequestInfo} {e : ℤ} (ho : o = .sendErrorResponse (some a) e)
      (hload : p.live a = true → info = p.info a) :
      EntryEffect cfg p xs o r
        (p.note (.respond (p.owner a) info.socketId .solicited info.token e))

section Runs

variable {t : ℕ} {s s' : RilState}

/-- A completion, whoever makes it. -/
private theorem completeEffect_of_runs (inv : PendingInv cfg s.pending xs) {o : EntryOp} {r : o.Res}
    {a : Addr} {e : ℤ} (haccepts : o.accepts r = none) (hrefuses : o.refuses = none)
    (ho : o.completes = some a)
    (h : (rilOnRequestComplete cfg (some a) e).Runs (RilOp.sem cfg t) s () s') :
    EntryEffect cfg s.pending xs o r s'.pending := by
  rcases rilOnRequestComplete_runs inv h with ⟨hmiss, rfl⟩ | ⟨b, l, pp, type, hb, hwalk, -, hp⟩
  · refine .nothing haccepts hrefuses fun b hb => hmiss b ?_
    rw [← hb, ho]
  · obtain rfl : a = b := Option.some.inj hb
    rw [hp]
    exact .complete haccepts hrefuses ho hwalk

/-- **The calls of the entry points have the effects of `EntryEffect`, and no others.** Most of them
leave the lists alone; a request is answered from its node, and an acknowledgement finds its node or
does nothing. -/
theorem entryEffect_of_runs (inv : PendingInv cfg s.pending xs) {o : EntryOp} {r : o.Res}
    (h : entrySem cfg t o r s s') : EntryEffect cfg s.pending xs o r s'.pending := by
  cases o with
  | addRequestToList serial slotId request =>
    rcases addRequestToList_runs h with ⟨rfl, rfl⟩ | ⟨a, rfl, hfresh, rfl⟩
    · exact .nothing rfl rfl nofun
    · exact .accept rfl rfl hfresh
  | loadRequestInfo pRI =>
    obtain ⟨_, ⟨-, rfl⟩, rfl⟩ := runs_op_ret.mp h
    exact .nothing rfl rfl nofun
  | calloc =>
    obtain rfl : s' = s := runs_op_ret.mp h
    exact .nothing rfl rfl nofun
  | sendErrorResponse pRI err =>
    -- the request is answered from its node
    obtain ⟨a, info, rfl, hload, hp⟩ := sendErrorResponse_runs h
    rw [hp]
    exact .refuse rfl hload
  | onRequest request data pRI slotId =>
    obtain rfl : s' = s := runs_op_ret.mp h
    exact .nothing rfl rfl nofun
  | onRequestComplete token e => exact completeEffect_of_runs inv rfl rfl rfl h
  | vendorComplete rid token e => exact completeEffect_of_runs inv rfl rfl rfl h
  | vendorAck token =>
    -- an acknowledgement finds the node, or does nothing
    have h : (rilOnRequestAck cfg (some token)).Runs (RilOp.sem cfg t) s () s' := h
    rcases rilOnRequestAck_runs inv h with ⟨-, rfl⟩ | ⟨a, l, pp, ha, hwalk, hp⟩
    · exact .nothing rfl rfl nofun
    · obtain rfl : token = a := Option.some.inj ha
      rw [hp]
      exact .ack rfl hwalk
  | releaseWakeLock =>
    obtain ⟨_, -, rfl⟩ := runs_op_ret.mp h
    exact .nothing rfl rfl nofun
  | abort => exact nomatch r

end Runs

end BlueCommon.Ril
