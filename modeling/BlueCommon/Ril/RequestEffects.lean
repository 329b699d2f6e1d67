import BlueCommon.Ril.EntrySystem

/-!
# What the calls of the entry points do to one request

A request waits at its node for an answer (`RequestOpen`), or it was answered and its node has left
the lists (`RequestClosed`); one that was refused is neither, its node stays. `RequestEffect` says
what a call does to each request, and `ResponseInv.effect` derives it from what the call does to the
lists. `RequestEffect.meant` is the rule for completions: a completion that is meant for a request
and whose address holds no other one closes this request and keeps all others, also when it comes
too late.
-/

namespace BlueCommon.Ril

open Interaction Program LinkedList

/-! ### Events -/

/-- The request that an event is about, if it is about one. -/
def RequestEvent.request : RequestEvent → Option ℕ
  | .accept rid .. => some rid
  | .ack rid => rid
  | .complete rid => rid
  | .respond rid .. => rid
  | .acknowledge rid .. => rid

/-- Whether the event is a response to the request. -/
def RequestEvent.answers (rid : ℕ) : RequestEvent → Bool
  | .respond (some r) .. => r = rid
  | _ => false

/-- The number of responses to a request. -/
def responses (log : List RequestEvent) (rid : ℕ) : ℕ := log.countP (RequestEvent.answers rid)

/-- The events of a step. -/
def newEvents (p p' : Pending) : List RequestEvent := p'.log.take (p'.log.length - p.log.length)

/-! ### One request -/

section Requests

variable {cfg : Config} {p p' : Pending} {xs xs' : PendingList → List Addr} {a b : Addr}
  {l : PendingList} {pp : Link Addr} {rid : ℕ} {ev : RequestEvent} {log : List RequestEvent}

/-- The request waits at its node for an answer. -/
structure RequestOpen (p : Pending) (xs : PendingList → List Addr) (rid : ℕ) (a : Addr) : Prop where
  owner : p.owner a = some rid
  listed : ∃ l, a ∈ xs l
  unanswered : responses p.log rid = 0

/-- The request was answered and its node has left the lists. -/
structure RequestClosed (p : Pending) (xs : PendingList → List Addr) (rid : ℕ) : Prop where
  lt : rid < p.accepted
  unlisted : ∀ l a, a ∈ xs l → p.owner a ≠ some rid
  once : responses p.log rid = 1

/-- A step leaves the request as it is. -/
structure RequestKept (p : Pending) (xs : PendingList → List Addr) (p' : Pending)
    (xs' : PendingList → List Addr) (rid : ℕ) : Prop where
  open_ : ∀ a, RequestOpen p xs rid a → RequestOpen p' xs' rid a
  closed : RequestClosed p xs rid → RequestClosed p' xs' rid
  count : responses p'.log rid = responses p.log rid

theorem responses_cons_of_answers (h : ev.answers rid = true) :
    responses (ev :: log) rid = responses log rid + 1 :=
  List.countP_cons_of_pos h

theorem responses_cons_of_not (h : ev.answers rid = false) :
    responses (ev :: log) rid = responses log rid :=
  List.countP_cons_of_neg (by simp [h])

theorem answers_respond {r : Option ℕ} {slotId serial e : ℤ} {type : ResponseType} :
    (RequestEvent.respond r slotId type serial e).answers rid = decide (r = some rid) := by
  cases r <;> simp [RequestEvent.answers]

/-- A request without a response event has no responses. -/
theorem responses_eq_zero
    (h : ∀ slotId type serial e, .respond (some rid) slotId type serial e ∉ log) :
    responses log rid = 0 := by
  refine List.countP_eq_zero.mpr fun ev hev hans => ?_
  cases ev with
  | respond r slotId type serial e =>
    rw [answers_respond, decide_eq_true_eq] at hans
    subst hans
    exact h _ _ _ _ hev
  | _ => exact Bool.noConfusion hans

/-- The lists and the owners of the nodes are as before, and the request has no new response. -/
theorem RequestKept.of_responses (howner : p'.owner = p.owner)
    (haccepted : p'.accepted = p.accepted) (h : responses p'.log rid = responses p.log rid) :
    RequestKept p xs p' xs rid where
  open_ a ha := {
    owner := by rw [howner, ha.owner]
    listed := ha.listed
    unanswered := by rw [h, ha.unanswered] }
  closed hc := {
    lt := by
      rw [haccepted]
      exact hc.lt
    unlisted := by
      rw [howner]
      exact hc.unlisted
    once := by rw [h, hc.once] }
  count := h

theorem newEvents_of_append {evs : List RequestEvent} (h : p'.log = evs ++ p.log) :
    newEvents p p' = evs := by
  unfold newEvents
  rw [h, List.length_append, Nat.add_sub_cancel, List.take_left]

/-- The lists and the history of the responses. -/
structure ResponseInv (cfg : Config) (p : Pending) (xs : PendingList → List Addr) : Prop where
  lists : PendingInv cfg p xs
  /-- Requests are numbered as they are accepted. -/
  accept_lt : ∀ rid a slotId token, .accept rid a slotId token ∈ p.log → rid < p.accepted
  /-- A response carries the slot and the serial of its request. -/
  serial : ∀ rid slotId type serial e, .respond (some rid) slotId type serial e ∈ p.log →
    ∃ a, .accept rid a slotId serial ∈ p.log

theorem RequestOpen.lt (h : RequestOpen p xs rid a) (inv : PendingInv cfg p xs) :
    rid < p.accepted :=
  inv.owner_lt a rid h.owner

/-- What a call does to the requests. A request whose node it neither completes nor refuses is
kept. -/
structure RequestEffect (p : Pending) (xs : PendingList → List Addr) (o : EntryOp) (r : o.Res)
    (p' : Pending) (xs' : PendingList → List Addr) : Prop where
  le : p.accepted ≤ p'.accepted
  kept : ∀ rid, rid < p.accepted →
    (∀ l a, a ∈ xs l → p.owner a = some rid → o.completes ≠ some a ∧ o.refuses ≠ some a) →
    RequestKept p xs p' xs' rid
  accepted : ∀ a, o.accepts r = some a → RequestOpen p' xs' p.accepted a
  completed : ∀ a rid, o.completes = some a → RequestOpen p xs rid a → RequestClosed p' xs' rid
  missed : ∀ a, o.completes = some a → (∀ l, a ∉ xs l) → p' = p
  refused : ∀ a rid, o.refuses = some a → RequestOpen p xs rid a → responses p'.log rid = 1
  /-- The events of a completion are about the request at the address. -/
  events : ∀ a, o.completes = some a → ∀ ev ∈ newEvents p p', ev.request = p.owner a
  accepts : ∀ rid b slotId token, .accept rid b slotId token ∈ p'.log →
    .accept rid b slotId token ∈ p.log ∨ (rid = p.accepted ∧ (o.accepts r).isSome)

namespace RequestEffect

variable {o : EntryOp} {r : o.Res}

/-- An operation that neither completes nor refuses a request keeps them all. -/
theorem kept_of_none (h : RequestEffect p xs o r p' xs') (hcompletes : o.completes = none)
    (hrefuses : o.refuses = none) (hrid : rid < p.accepted) : RequestKept p xs p' xs' rid := by
  refine h.kept rid hrid fun l a _ _ => ?_
  rw [hcompletes, hrefuses]
  exact ⟨nofun, nofun⟩

/-- An operation that accepts nothing leaves no new request in the log. -/
theorem accept_of_none (h : RequestEffect p xs o r p' xs') (haccepts : o.accepts r = none)
    {b : Addr} {slotId token : ℤ} (hb : .accept rid b slotId token ∈ p'.log) :
    .accept rid b slotId token ∈ p.log := by
  refine (h.accepts rid b slotId token hb).resolve_right fun hnew => ?_
  rw [haccepts] at hnew
  exact Bool.noConfusion hnew.2

end RequestEffect

namespace ResponseInv

/-- A request that was not accepted yet has no responses. -/
theorem responses_of_le (inv : ResponseInv cfg p xs) (h : p.accepted ≤ rid) :
    responses p.log rid = 0 := by
  refine responses_eq_zero fun slotId type serial e hmem => ?_
  obtain ⟨a, haccept⟩ := inv.serial rid slotId type serial e hmem
  exact absurd (inv.accept_lt rid a slotId serial haccept) (Nat.not_lt.mpr h)

/-- A new request is open, the others are kept. It is in its list and has no answer; no closed
request has its node, since the nodes of these were freed. -/
theorem accept (inv : ResponseInv cfg p xs) {serial slotId request : ℤ} {o : EntryOp} {r : o.Res}
    (ho : o = .addRequestToList serial slotId request) (haccepts : o.accepts r = some a)
    (hfresh : p.live a = false) :
    ∃ xs', ResponseInv cfg (p.accept cfg a serial slotId request) xs' ∧
      RequestEffect p xs o r (p.accept cfg a serial slotId request) xs' := by
  have hnew : ∀ m, a ∉ xs m := inv.lists.notMem_of_dead hfresh
  -- accepting is not answering
  have hresponses : ∀ rid, responses (p.accept cfg a serial slotId request).log rid =
      responses p.log rid := by
    intro rid
    rw [accept_log]
    exact responses_cons_of_not rfl
  -- the requests of the lists keep their numbers
  have howner : ∀ m b, b ∈ xs m →
      (p.accept cfg a serial slotId request).owner b = p.owner b := by
    intro m b hb
    exact accept_owner_of_ne fun e => hnew m (e ▸ hb)
  refine ⟨Function.update xs (addHook cfg slotId) (a :: xs (addHook cfg slotId)), ?_, ?_⟩
  · exact {
      lists := inv.lists.accepted hfresh
      accept_lt := accept_lt_accepted inv.accept_lt
      serial := fun rid slotId' type serial' e he => by
        rw [accept_log] at he ⊢
        obtain ⟨b, hb⟩ := inv.serial rid slotId' type serial' e
          ((List.mem_cons.mp he).resolve_left nofun)
        exact ⟨b, List.mem_cons_of_mem _ hb⟩ }
  · subst ho
    -- what the step does, and what it leaves alone
    exact {
      le := Nat.le_succ _
      kept := fun rid hrid _ => {
        open_ := fun b hb => {
          owner := by
            obtain ⟨m, hm⟩ := hb.listed
            rw [howner m b hm, hb.owner]
          listed := by
            obtain ⟨m, hm⟩ := hb.listed
            exact ⟨m, mem_pushed.mpr (.inr hm)⟩
          unanswered := by rw [hresponses, hb.unanswered] }
        -- a closed request has no node, also not the new one
        closed := fun h => {
          lt := Nat.lt_succ_of_lt h.lt
          unlisted := fun m b hb => by
            rcases mem_pushed.mp hb with ⟨-, rfl⟩ | hb
            · rw [accept_owner_self]
              exact fun e => absurd (Option.some.inj e) (Nat.ne_of_gt h.lt)
            · rw [howner m b hb]
              exact h.unlisted m b hb
          once := by rw [hresponses, h.once] }
        count := hresponses rid }
      -- the new request: in its list, and without an answer
      accepted := fun b hb => by
        obtain rfl : a = b := Option.some.inj (haccepts.symm.trans hb)
        refine ⟨accept_owner_self, ⟨addHook cfg slotId, mem_pushed.mpr (.inl ⟨rfl, rfl⟩)⟩, ?_⟩
        rw [hresponses]
        exact inv.responses_of_le le_rfl
      -- the operation completes and refuses nothing
      completed := nofun
      missed := nofun
      refused := nofun
      events := nofun
      accepts := fun rid b slotId' token hb => by
        rw [accept_log] at hb
        rcases List.mem_cons.mp hb with heq | hb
        · injection heq with hrid
          exact .inr ⟨hrid, by rw [haccepts]; rfl⟩
        · exact .inl hb }

section Complete

variable {type : ResponseType} {e : ℤ}

/-- The events of a completion. -/
theorem complete_log (howner : p.owner a = some rid) :
    (p.complete l a pp type e).log =
      [.respond (some rid) (p.info a).socketId type (p.info a).token e, .complete (some rid)] ++
        p.log := by
  rw [← howner]
  rfl

theorem responses_complete_of_ne (howner : p.owner a = some rid) {q : ℕ} (hq : q ≠ rid) :
    responses (p.complete l a pp type e).log q = responses p.log q := by
  rw [complete_log howner]
  exact (responses_cons_of_not (by simpa [answers_respond] using hq.symm)).trans
    (responses_cons_of_not rfl)

theorem responses_complete_self (howner : p.owner a = some rid) :
    responses (p.complete l a pp type e).log rid = responses p.log rid + 1 := by
  rw [complete_log howner]
  refine (responses_cons_of_answers (by simp [answers_respond])).trans ?_
  exact congrArg (· + 1) (responses_cons_of_not rfl)

/-- A completion accepts nothing. -/
theorem accept_mem_complete (howner : p.owner a = some rid) {q : ℕ} {slotId token : ℤ} :
    .accept q b slotId token ∈ (p.complete l a pp type e).log ↔
      .accept q b slotId token ∈ p.log := by
  rw [complete_log howner]
  simp

/-- The history of the responses after a completion. -/
theorem completed (inv : ResponseInv cfg p xs) (hwalk : p.Walks l a (some pp))
    (howner : p.owner a = some rid)
    (haccept : .accept rid a (p.info a).socketId (p.info a).token ∈ p.log) :
    ResponseInv cfg (p.complete l a pp type e) fun m => (xs m).erase a where
  lists := ((inv.lists.dequeued hwalk).2.note _).free fun m => (inv.lists.nodup m).not_mem_erase
  accept_lt q b slotId token hb :=
    inv.accept_lt q b slotId token ((accept_mem_complete howner).mp hb)
  serial q slotId type' serial e' he := by
    rw [complete_log howner] at he
    rcases List.mem_append.mp he with he | he
    · -- the answer was read off the node
      obtain ⟨rfl, rfl, -, rfl, -⟩ : q = rid ∧ slotId = (p.info a).socketId ∧ type' = type ∧
          serial = (p.info a).token ∧ e' = e := by simpa using he
      exact ⟨a, (accept_mem_complete howner).mpr haccept⟩
    · obtain ⟨b, hb⟩ := inv.serial q slotId type' serial e' he
      exact ⟨b, (accept_mem_complete howner).mpr hb⟩

/-- A completion keeps the other requests. -/
theorem kept_of_complete (howner : p.owner a = some rid) {q : ℕ} (hq : q ≠ rid) :
    RequestKept p xs (p.complete l a pp type e) (fun m => (xs m).erase a) q where
  open_ b hb := {
    owner := hb.owner
    listed := by
      obtain ⟨m, hm⟩ := hb.listed
      have hba : b ≠ a := by
        rintro rfl
        exact hq (Option.some.inj (hb.owner.symm.trans howner))
      exact ⟨m, (List.mem_erase_of_ne hba).mpr hm⟩
    unanswered := by rw [responses_complete_of_ne howner hq, hb.unanswered] }
  closed h := {
    lt := h.lt
    unlisted := fun m b hb => h.unlisted m b (List.mem_of_mem_erase hb)
    once := by rw [responses_complete_of_ne howner hq, h.once] }
  count := responses_complete_of_ne howner hq

/-- A completion closes the request. -/
theorem closed_of_complete (inv : ResponseInv cfg p xs) (howner : p.owner a = some rid)
    (hopen : RequestOpen p xs rid a) :
    RequestClosed (p.complete l a pp type e) (fun m => (xs m).erase a) rid where
  lt := hopen.lt inv.lists
  unlisted m b hb hown := by
    -- the only node of the request has left the lists
    have hba : b = a :=
      inv.lists.eq_of_owner (List.mem_of_mem_erase hb) (Eq.trans hown howner.symm)
    exact (inv.lists.nodup m).not_mem_erase (hba ▸ hb)
  once := by rw [responses_complete_self howner, hopen.unanswered]

/-- A completed request is closed, the others are kept. The node that was found is the one of the
request, which leaves its list with one answer; the other requests have other nodes. -/
theorem complete (inv : ResponseInv cfg p xs) {o : EntryOp} {r : o.Res}
    (haccepts : o.accepts r = none) (hrefuses : o.refuses = none)
    (ho : o.completes = some a) (hwalk : p.Walks l a (some pp)) :
    ∃ xs', ResponseInv cfg (p.complete l a pp type e) xs' ∧
      RequestEffect p xs o r (p.complete l a pp type e) xs' := by
  -- the node that was found belongs to a request that was accepted
  obtain ⟨ha, -⟩ := inv.lists.dequeued hwalk
  obtain ⟨rid, howner, haccept⟩ := inv.lists.owned l a ha
  refine ⟨fun m => (xs m).erase a, inv.completed hwalk howner haccept, ?_⟩
  exact {
    le := le_rfl
    -- the other requests have other nodes
    kept := fun q hq htouch => by
      refine kept_of_complete howner ?_
      rintro rfl
      exact (htouch l a ha howner).1 ho
    accepted := fun b hb => absurd (haccepts.symm.trans hb) nofun
    -- completed: the request has left the lists with one answer
    completed := fun b q hb hopen => by
      obtain rfl : a = b := Option.some.inj (ho.symm.trans hb)
      obtain rfl : q = rid := Option.some.inj (hopen.owner.symm.trans howner)
      exact inv.closed_of_complete howner hopen
    -- a token that misses is impossible here, as the walk has found the node
    missed := fun b hb hmiss => by
      obtain rfl : a = b := Option.some.inj (ho.symm.trans hb)
      exact absurd ha (hmiss l)
    refused := fun b q hb => absurd (hrefuses.symm.trans hb) nofun
    -- the events of the step are the answer and the completion, both of this request
    events := fun b hb ev hev => by
      obtain rfl : a = b := Option.some.inj (ho.symm.trans hb)
      rw [newEvents_of_append (complete_log howner)] at hev
      rw [howner]
      rcases List.mem_cons.mp hev with rfl | hev
      · rfl
      · rw [List.mem_singleton.mp hev]
        rfl
    accepts := fun q b slotId token hb => .inl ((accept_mem_complete howner).mp hb) }

end Complete

/-- Nothing happens. -/
theorem nothing (inv : ResponseInv cfg p xs) {o : EntryOp} {r : o.Res}
    (haccepts : o.accepts r = none) (hrefuses : o.refuses = none)
    (hmiss : ∀ a, o.completes = some a → ∀ l, a ∉ xs l) :
    ∃ xs', ResponseInv cfg p xs' ∧ RequestEffect p xs o r p xs' := by
  refine ⟨xs, inv, ?_⟩
  -- nothing happened: every condition is about a change that did not take place
  exact {
    le := le_rfl
    kept := fun _ _ _ => .of_responses rfl rfl rfl
    accepted := fun b hb => absurd (haccepts.symm.trans hb) nofun
    completed := fun b q hb hopen => by
      obtain ⟨m, hm⟩ := hopen.listed
      exact absurd hm (hmiss b hb m)
    missed := fun _ _ _ => rfl
    refused := fun b q hb => absurd (hrefuses.symm.trans hb) nofun
    events := fun b hb ev hev => by
      rw [show newEvents p p = [] from newEvents_of_append rfl] at hev
      exact absurd hev List.not_mem_nil
    accepts := fun q b slotId token hb => .inl hb }

/-- An ack changes no request. It is noted in the node and in the log, and is no answer. -/
theorem ack (inv : ResponseInv cfg p xs) {o : EntryOp} {r : o.Res} (ho : o = .vendorAck a) :
    let p' := (p.found l a true pp).note
      (.acknowledge (p.owner a) (p.info a).socketId (p.info a).token)
    ∃ xs', ResponseInv cfg p' xs' ∧ RequestEffect p xs o r p' xs' := by
  intro p'
  -- an acknowledgement is no answer
  have hresponses : ∀ q, responses p'.log q = responses p.log q := fun q =>
    (responses_cons_of_not rfl).trans (responses_cons_of_not rfl)
  have hlog : p'.log = [.acknowledge (p.owner a) (p.info a).socketId (p.info a).token,
      .ack (p.owner a)] ++ p.log := rfl
  have hold : ∀ {q b slotId token}, .accept q b slotId token ∈ p'.log →
      .accept q b slotId token ∈ p.log := by
    intro q b slotId token hb
    rw [hlog] at hb
    simpa using hb
  refine ⟨xs, ?_, ?_⟩
  · -- the lists are as they were, up to the flag
    exact {
      lists := (inv.lists.acked pp).note _
      accept_lt := fun q b slotId token hb => inv.accept_lt q b slotId token (hold hb)
      serial := fun q slotId type serial e he => by
        rw [hlog] at he ⊢
        obtain ⟨b, hb⟩ := inv.serial q slotId type serial e (by simpa using he)
        exact ⟨b, List.mem_append_right _ hb⟩ }
  · subst ho
    -- and no request has been answered
    exact {
      le := le_rfl
      kept := fun q _ _ => .of_responses rfl rfl (hresponses q)
      accepted := nofun
      completed := nofun
      missed := nofun
      refused := nofun
      events := nofun
      accepts := fun q b slotId token hb => .inl (hold hb) }

/-- A refused request of a list is answered; the others are kept. The node is alive, so the answer
has the serial of the request, and there was no answer before. -/
theorem refuse (inv : ResponseInv cfg p xs) {o : EntryOp} {r : o.Res} {e : ℤ}
    {info : RequestInfo} (ho : o = .sendErrorResponse (some a) e) (ha : a ∈ xs l)
    (hload : p.live a = true → info = p.info a) :
    let p' := p.note (.respond (p.owner a) info.socketId .solicited info.token e)
    ∃ xs', ResponseInv cfg p' xs' ∧ RequestEffect p xs o r p' xs' := by
  intro p'
  obtain ⟨rid, howner, haccept⟩ := inv.lists.owned l a ha
  -- the node is alive, so what is read of it is the request
  obtain rfl : info = p.info a := hload (inv.lists.live l a ha)
  have hlog : p'.log =
      .respond (some rid) (p.info a).socketId .solicited (p.info a).token e :: p.log := by
    rw [← howner]
    rfl
  -- only the refused request has got an answer
  have hother : ∀ q, q ≠ rid → responses p'.log q = responses p.log q := by
    intro q hq
    rw [hlog]
    exact responses_cons_of_not (by simpa [answers_respond] using hq.symm)
  refine ⟨xs, ?_, ?_⟩
  · exact {
      lists := inv.lists.note _
      accept_lt := fun q b slotId token hb => by
        rw [hlog] at hb
        exact inv.accept_lt q b slotId token ((List.mem_cons.mp hb).resolve_left nofun)
      -- the answer has the serial of the request
      serial := fun q slotId type' serial e' he => by
        rw [hlog] at he ⊢
        rcases List.mem_cons.mp he with heq | he
        · injection heq with hq hslot _ hserial
          obtain rfl : q = rid := Option.some.inj hq
          rw [hslot, hserial]
          exact ⟨a, List.mem_cons_of_mem _ haccept⟩
        · obtain ⟨b, hb⟩ := inv.serial q slotId type' serial e' he
          exact ⟨b, List.mem_cons_of_mem _ hb⟩ }
  · subst ho
    exact {
      le := le_rfl
      -- the others are not touched
      kept := fun q _ htouch => by
        have hqr : q ≠ rid := by
          rintro rfl
          exact (htouch l a ha howner).2 rfl
        exact .of_responses rfl rfl (hother q hqr)
      accepted := nofun
      completed := nofun
      missed := nofun
      -- the refused one had no answer before, so this is the first
      refused := fun b q hb hopen => by
        obtain rfl : a = b := Option.some.inj hb
        obtain rfl : q = rid := Option.some.inj (hopen.owner.symm.trans howner)
        rw [hlog, responses_cons_of_answers (by simp [answers_respond]), hopen.unanswered]
      events := nofun
      accepts := fun q b slotId token hb => by
        rw [hlog] at hb
        exact .inl ((List.mem_cons.mp hb).resolve_left nofun) }

/-- **What a call does to the requests**, when it refuses no request that has left the lists. -/
theorem effect (inv : ResponseInv cfg p xs) {o : EntryOp} {r : o.Res}
    (h : EntryEffect cfg p xs o r p') (hrefuse : ∀ a, o.refuses = some a → ∃ l, a ∈ xs l) :
    ∃ xs', ResponseInv cfg p' xs' ∧ RequestEffect p xs o r p' xs' := by
  cases h with
  | nothing haccepts hrefuses hmiss => exact inv.nothing haccepts hrefuses hmiss
  | accept ho haccepts hfresh => exact inv.accept ho haccepts hfresh
  | complete haccepts hrefuses ho hwalk => exact inv.complete haccepts hrefuses ho hwalk
  | ack ho hwalk => exact inv.ack ho
  | @refuse a info e ho hload =>
    obtain ⟨l, ha⟩ := hrefuse a (by rw [ho]; rfl)
    exact inv.refuse ho ha hload

end ResponseInv

/-- A call completes or refuses, not both. -/
theorem EntryOp.refuses_of_completes {o : EntryOp} (h : o.completes = some a) :
    o.refuses = none := by
  cases o with
  | sendErrorResponse => exact absurd h nofun
  | _ => rfl

theorem EntryOp.accepts_of_completes {o : EntryOp} {r : o.Res} (h : o.completes = some a) :
    o.accepts r = none := by
  cases o with
  | addRequestToList => exact absurd h nofun
  | _ => rfl

/-- **A completion that is meant for a request.** If the address holds no other request, then the
request is answered afterwards, all others are kept, and all events are about the request. -/
theorem RequestEffect.meant {o : EntryOp} {r : o.Res} (h : RequestEffect p xs o r p' xs')
    (ho : o.completes = some a) (hholds : ∀ l, a ∈ xs l → p.owner a = some rid)
    (hrid : RequestOpen p xs rid a ∨ RequestClosed p xs rid) :
    RequestClosed p' xs' rid ∧
      (∀ q, q < p.accepted → q ≠ rid → RequestKept p xs p' xs' q) ∧
      ∀ ev ∈ newEvents p p', ev.request = some rid := by
  have hrefuses := EntryOp.refuses_of_completes ho
  refine ⟨?_, fun q hq hne => h.kept q hq fun l b hb hown => ?_, fun ev hev => ?_⟩
  · -- the token is good: the request is open, and this closes it
    rcases hrid with hopen | hclosed
    · exact h.completed a rid ho hopen
    · -- the token is stale: no node of a list belongs to the request
      refine (h.kept rid hclosed.lt fun l b hb hown => ?_).closed hclosed
      exact absurd hown (hclosed.unlisted l b hb)
  · -- another request has another node
    rw [ho, hrefuses]
    refine ⟨fun e => hne ?_, nofun⟩
    obtain rfl : a = b := Option.some.inj e
    exact Option.some.inj (hown.symm.trans (hholds l hb))
  · by_cases hlisted : ∃ l, a ∈ xs l
    · -- what was done was about the node that holds the address
      obtain ⟨l, hl⟩ := hlisted
      rw [h.events a ho ev hev, hholds l hl]
    · -- nothing was found
      have hp : p' = p := h.missed a ho fun l hl => hlisted ⟨l, hl⟩
      rw [show newEvents p p' = [] from newEvents_of_append (by rw [hp]; rfl)] at hev
      exact absurd hev List.not_mem_nil

end Requests

end BlueCommon.Ril
