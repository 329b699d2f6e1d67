import BlueCommon.Ril.EntrySystem

/-!
# The error exits of the entry points

What the pending lists hold in the runs of the entry points and the vendor, from empty lists, with
any arguments, any tokens and any outcome of every allocation. They should hold exactly the requests
that were accepted and not answered. `RIL_onRequestComplete` takes the request out of its list
before it answers; `sendErrorResponse` answers and leaves it where it is.

* `pendingExact_iff_noErrorExit`: the lists are exact throughout a run exactly when the run takes no
  error exit for a request in a list.
* `setIndicationFilter_leaves_answered_request`: a vendor older than version 15 and one call of
  `setIndicationFilter` are enough to break it.

`AnswerInv` connects the lists with the answers of the history. A step that accepts, acknowledges or
completes a request keeps it, and so does a refusal of a request that is in no list
(`AnswerInv.effect`). A refusal of a request in a list adds an answer and takes nothing out, after
which no exact lists exist (`not_pendingExact_of_listed`). `Lts.good_iff_ok` makes the equivalence
over runs out of the two.
-/

namespace BlueCommon.Ril

open Interaction Program LinkedList

/-- The request was answered. -/
def Answered (log : List RequestEvent) (rid : ℕ) : Prop :=
  ∃ slotId type serial e, .respond (some rid) slotId type serial e ∈ log

/-- **The lists are exact**: in the list of a socket are the nodes of the requests that were
accepted for it and not answered, one node for each. -/
structure PendingExact (cfg : Config) (p : Pending) (xs : PendingList → List Addr) : Prop where
  path : ∀ l, Path p.next (p.head l) (xs l) none
  nodup : ∀ l, ((xs l).map p.owner).Nodup
  mem_iff : ∀ l o, o ∈ (xs l).map p.owner ↔ ∃ rid a slotId token, o = some rid ∧
    .accept rid a slotId token ∈ p.log ∧ addHook cfg slotId = l ∧ ¬ Answered p.log rid

/-- The step is not an error exit for a request in a list: no error response is sent for a request
that was accepted and is still pending. -/
def NoErrorExit (s : RilState) : PoolLabel entrySignature → Prop
  | .call .. => True
  | .op _ o _ => ∀ a, o.refuses = some a → ¬ s.pending.Listed a

/-- The runs of the entry points and the vendor: any number of threads, each of which runs one
method after the other, and the steps of which come in any order. -/
def entrySystem (cfg : Config) : Lts (Pool entrySignature RilState) (PoolLabel entrySignature) :=
  pool (fun s => s.pending.Empty) (entrySem cfg) fun _ _ p => MayRun cfg p

variable {cfg : Config} {p p' : Pending} {xs : PendingList → List Addr} {a : Addr}
  {l : PendingList} {pp : Link Addr} {serial slotId request : ℤ}

/-! ### The invariant -/

/-- The lists hold the requests that were accepted and not answered. -/
structure AnswerInv (cfg : Config) (p : Pending) (xs : PendingList → List Addr) : Prop where
  lists : PendingInv cfg p xs
  /-- Requests are numbered as they are accepted, and answered after that. -/
  accept_lt : ∀ rid a slotId token, .accept rid a slotId token ∈ p.log → rid < p.accepted
  answered_lt : ∀ rid, Answered p.log rid → rid < p.accepted
  /-- A request that was accepted and not answered is in the list of its socket. -/
  pending : ∀ rid a slotId token, .accept rid a slotId token ∈ p.log → ¬ Answered p.log rid →
    p.owner a = some rid ∧ a ∈ xs (addHook cfg slotId)
  /-- A request in a list was not answered. -/
  open_ : ∀ l a rid, a ∈ xs l → p.owner a = some rid → ¬ Answered p.log rid

theorem answered_cons {ev : RequestEvent} {log : List RequestEvent} {rid : ℕ} :
    Answered (ev :: log) rid ↔
      (∃ slotId type serial e, ev = .respond (some rid) slotId type serial e) ∨
        Answered log rid := by
  constructor
  · rintro ⟨slotId, type, serial, e, h⟩
    rcases List.mem_cons.mp h with heq | hmem
    · exact .inl ⟨slotId, type, serial, e, heq.symm⟩
    · exact .inr ⟨slotId, type, serial, e, hmem⟩
  · rintro (⟨slotId, type, serial, e, rfl⟩ | ⟨slotId, type, serial, e, hmem⟩)
    · exact ⟨slotId, type, serial, e, List.mem_cons_self⟩
    · exact ⟨slotId, type, serial, e, List.mem_cons_of_mem _ hmem⟩

/-- An event that answers nothing. -/
theorem answered_cons_of_ne {ev : RequestEvent} {log : List RequestEvent} {rid : ℕ}
    (hev : ∀ slotId type serial e, ev ≠ .respond (some rid) slotId type serial e) :
    Answered (ev :: log) rid ↔ Answered log rid := by
  rw [answered_cons]
  refine or_iff_right ?_
  rintro ⟨slotId, type, serial, e, heq⟩
  exact hev slotId type serial e heq

namespace AnswerInv

theorem empty (h : p.Empty) : AnswerInv cfg p fun _ => [] where
  lists := h.lists
  accept_lt rid a slotId token ha := by
    rw [h.log] at ha
    exact absurd ha List.not_mem_nil
  answered_lt rid ha := by
    obtain ⟨slotId, type, serial, e, ha⟩ := ha
    rw [h.log] at ha
    exact absurd ha List.not_mem_nil
  pending rid a slotId token ha := by
    rw [h.log] at ha
    exact absurd ha List.not_mem_nil
  open_ _ a rid ha := absurd ha List.not_mem_nil

/-- The invariant says that the lists are exact. -/
theorem exact (inv : AnswerInv cfg p xs) : PendingExact cfg p xs where
  path := inv.lists.path
  nodup l := by
    refine List.Nodup.map_on (fun a ha b hb hab => ?_) (inv.lists.nodup l)
    exact inv.lists.eq_of_owner ha hab
  mem_iff l o := by
    constructor
    · intro ho
      obtain ⟨a, ha, rfl⟩ := List.mem_map.mp ho
      obtain ⟨rid, howner, haccept⟩ := inv.lists.owned l a ha
      exact ⟨rid, a, _, _, howner, haccept, inv.lists.hook l a ha, inv.open_ l a rid ha howner⟩
    · rintro ⟨rid, a, slotId, token, rfl, haccept, rfl, hopen⟩
      obtain ⟨howner, ha⟩ := inv.pending rid a slotId token haccept hopen
      exact List.mem_map.mpr ⟨a, ha, howner⟩

/-- A request is accepted. Its block is one that is not in use, so it is in no list yet, and its
number is a new one. Accepting answers nothing. -/
theorem accept (inv : AnswerInv cfg p xs) (hfresh : p.live a = false) :
    AnswerInv cfg (p.accept cfg a serial slotId request)
      (Function.update xs (addHook cfg slotId) (a :: xs (addHook cfg slotId))) := by
  -- the block is dead, so no list has it
  have hnew : ∀ m, a ∉ xs m := inv.lists.notMem_of_dead hfresh
  -- accepting answers nothing
  have hanswered : ∀ rid, Answered (p.accept cfg a serial slotId request).log rid ↔
      Answered p.log rid := by
    intro rid
    rw [accept_log]
    exact answered_cons_of_ne nofun
  exact {
    lists := inv.lists.accepted hfresh
    accept_lt := accept_lt_accepted inv.accept_lt
    answered_lt := fun rid hrid => by
      rw [accept_accepted]
      exact Nat.lt_succ_of_lt (inv.answered_lt rid ((hanswered rid).mp hrid))
    -- an accepted request without an answer is in its list: the new one, or an old one
    pending := fun rid b slotId' token hb hopen => by
      rw [hanswered] at hopen
      rw [accept_log] at hb
      rcases List.mem_cons.mp hb with heq | hb
      · injection heq with hrid hba hslot
        subst hrid hba hslot
        exact ⟨accept_owner_self, mem_pushed.mpr (.inl ⟨rfl, rfl⟩)⟩
      · obtain ⟨howner, hin⟩ := inv.pending rid b slotId' token hb hopen
        have hba : b ≠ a := fun e => hnew _ (e ▸ hin)
        exact ⟨by rw [accept_owner_of_ne hba, howner], mem_pushed.mpr (.inr hin)⟩
    -- what is in a list has no answer
    open_ := fun m b rid hb howner => by
      rw [hanswered]
      rcases eq_or_ne b a with rfl | hba
      · -- the number of the new request is above those of the answered ones
        rw [accept_owner_self] at howner
        obtain rfl : p.accepted = rid := Option.some.inj howner
        exact fun h => lt_irrefl _ (inv.answered_lt _ h)
      · rw [accept_owner_of_ne hba] at howner
        exact inv.open_ m b rid ((mem_pushed.mp hb).resolve_left fun h => hba h.2) howner }

/-- An event that neither accepts a request nor answers one of a list. -/
theorem note (inv : AnswerInv cfg p xs) {ev : RequestEvent}
    (haccept : ∀ rid b slotId token, ev ≠ .accept rid b slotId token)
    (hlt : ∀ rid slotId type serial e, ev = .respond (some rid) slotId type serial e →
      rid < p.accepted)
    (hopen : ∀ l b rid, b ∈ xs l → p.owner b = some rid →
      ∀ slotId type serial e, ev ≠ .respond (some rid) slotId type serial e) :
    AnswerInv cfg (p.note ev) xs := by
  -- only an acceptance adds to the accepted requests
  have hold : ∀ {rid b slotId token}, .accept rid b slotId token ∈ (p.note ev).log →
      .accept rid b slotId token ∈ p.log := fun h =>
    (List.mem_cons.mp h).resolve_left fun e => haccept _ _ _ _ e.symm
  exact {
    lists := inv.lists.note ev
    accept_lt := fun rid b slotId token hb => inv.accept_lt rid b slotId token (hold hb)
    -- an answer to an accepted request, either the new event or an old one
    answered_lt := fun rid hrid => by
      rcases answered_cons.mp hrid with ⟨slotId, type, serial, e, heq⟩ | hrid
      · exact hlt rid slotId type serial e heq
      · exact inv.answered_lt rid hrid
    pending := fun rid b slotId token hb hrid =>
      inv.pending rid b slotId token (hold hb) fun h => hrid (answered_cons.mpr (.inr h))
    open_ := fun m b rid hb howner => by
      rw [show (p.note ev).log = ev :: p.log from rfl,
        answered_cons_of_ne (hopen m b rid hb howner)]
      exact inv.open_ m b rid hb howner }

/-- A request is answered and leaves its list. The node that is answered is the one of the request
and no other has the same number, so each of the others is still in its list if it has no answer. -/
theorem complete (inv : AnswerInv cfg p xs) (hwalk : p.Walks l a (some pp)) {type : ResponseType}
    {e : ℤ} : AnswerInv cfg (p.complete l a pp type e) fun m => (xs m).erase a := by
  obtain ⟨ha, hlists⟩ := inv.lists.dequeued hwalk
  obtain ⟨rid, howner, haccept⟩ := inv.lists.owned l a ha
  have hout : ∀ m, a ∉ (xs m).erase a := fun m => (inv.lists.nodup m).not_mem_erase
  have hanswered : ∀ r, Answered (p.complete l a pp type e).log r ↔
      r = rid ∨ Answered p.log r := by
    intro r
    show Answered (.respond (p.owner a) _ type _ e :: .complete (p.owner a) :: p.log) r ↔ _
    have hcomplete : Answered (.complete (p.owner a) :: p.log) r ↔ Answered p.log r :=
      answered_cons_of_ne nofun
    rw [answered_cons, hcomplete, howner]
    refine or_congr_left ⟨?_, ?_⟩
    · rintro ⟨slotId, type, serial, e, heq⟩
      injection heq with heq
      exact (Option.some.inj heq).symm
    · rintro rfl
      exact ⟨_, _, _, _, rfl⟩
  -- the log has no new acceptance
  have hold : ∀ {r b slotId token},
      .accept r b slotId token ∈ (p.complete l a pp type e).log →
      .accept r b slotId token ∈ p.log := by
    intro r b slotId token hb
    rcases List.mem_cons.mp hb with heq | hb
    · exact RequestEvent.noConfusion heq
    rcases List.mem_cons.mp hb with heq | hb
    · exact RequestEvent.noConfusion heq
    · exact hb
  exact {
    lists := (hlists.note _).free hout
    accept_lt := fun r b slotId token hb => inv.accept_lt r b slotId token (hold hb)
    answered_lt := fun r hr => by
      rcases (hanswered r).mp hr with rfl | hr
      · exact inv.accept_lt _ a _ _ haccept
      · exact inv.answered_lt r hr
    pending := fun r b slotId token hb hr => by
      rw [hanswered, not_or] at hr
      obtain ⟨hown, hin⟩ := inv.pending r b slotId token (hold hb) hr.2
      -- the node that is answered is not the one of a pending request
      have hba : b ≠ a := by
        rintro rfl
        exact hr.1 (Option.some.inj (hown.symm.trans howner))
      exact ⟨hown, (List.mem_erase_of_ne hba).mpr hin⟩
    open_ := fun m b r hb hown => by
      have hown : p.owner b = some r := hown
      rw [hanswered, not_or]
      refine ⟨?_, inv.open_ m b r (List.mem_of_mem_erase hb) hown⟩
      -- a second node of the same request would be the node itself
      rintro rfl
      have hba : b = a :=
        inv.lists.eq_of_owner (List.mem_of_mem_erase hb) (hown.trans howner.symm)
      exact hout m (hba ▸ hb) }

/-- An ack is noted. -/
theorem ack (inv : AnswerInv cfg p xs) :
    AnswerInv cfg ((p.found l a true pp).note
      (.acknowledge (p.owner a) (p.info a).socketId (p.info a).token)) xs := by
  have hanswered : ∀ rid, Answered (p.found l a true pp).log rid ↔ Answered p.log rid :=
    fun _ => answered_cons_of_ne (by simp)
  have hfound : AnswerInv cfg (p.found l a true pp) xs := {
    lists := inv.lists.acked pp
    accept_lt := fun rid b slotId token hb => inv.accept_lt rid b slotId token (by
      simpa [Pending.found] using hb)
    answered_lt := fun rid hrid => inv.answered_lt rid ((hanswered rid).mp hrid)
    pending := fun rid b slotId token hb hopen => inv.pending rid b slotId token (by
      simpa [Pending.found] using hb) ((hanswered rid).not.mp hopen)
    open_ := fun m b rid hb howner => (hanswered rid).not.mpr (inv.open_ m b rid hb howner) }
  exact hfound.note (by simp) (by simp) (by simp)

/-- A request that is in no list is answered. -/
theorem refuse (inv : AnswerInv cfg p xs) (hmiss : ∀ l, a ∉ xs l) {type : ResponseType} {e : ℤ} :
    AnswerInv cfg (p.note (.respond (p.owner a) slotId type serial e)) xs := by
  refine inv.note nofun (fun rid _ _ _ _ heq => ?_) fun m b rid hb howner _ _ _ _ heq => ?_
  · injection heq with howner
    exact inv.lists.owner_lt a rid howner
  · injection heq with howner'
    have hba : b = a := inv.lists.eq_of_owner hb (howner.trans howner'.symm)
    exact hmiss m (hba ▸ hb)

end AnswerInv

/-! ### One step -/

/-- A call that is not an error exit for a request in a list keeps the invariant. -/
theorem AnswerInv.effect (inv : AnswerInv cfg p xs) {o : EntryOp} {r : o.Res}
    (h : EntryEffect cfg p xs o r p') (hok : ∀ a, o.refuses = some a → ¬ p.Listed a) :
    ∃ xs', AnswerInv cfg p' xs' := by
  cases h with
  | nothing => exact ⟨xs, inv⟩
  | accept ho haccepts hfresh => exact ⟨_, inv.accept hfresh⟩
  | complete haccepts hrefuses ho hwalk => exact ⟨_, inv.complete hwalk⟩
  | ack ho hwalk => exact ⟨xs, inv.ack⟩
  | @refuse a info e ho hload =>
    refine ⟨xs, inv.refuse fun l hl => ?_⟩
    subst ho
    exact hok a rfl (inv.lists.listed_iff.mpr ⟨l, hl⟩)

/-- Answering a request in a list where it is leaves a list that is not exact. -/
theorem not_pendingExact_of_listed (ha : p.Listed a) {type : ResponseType} {e : ℤ} :
    ¬ ∃ xs, PendingExact cfg (p.note (.respond (p.owner a) slotId type serial e)) xs := by
  rintro ⟨xs, hexact⟩
  obtain ⟨l, ys, hys, ha⟩ := ha
  -- the lists are the old ones
  obtain rfl : ys = xs l := hys.unique (hexact.path l)
  have hmem : p.owner a ∈ (xs l).map p.owner := List.mem_map_of_mem ha
  obtain ⟨rid, _, _, _, howner, -, -, hopen⟩ := (hexact.mem_iff l (p.owner a)).mp hmem
  refine hopen ⟨slotId, type, serial, e, ?_⟩
  rw [← howner]
  exact List.mem_cons_self

/-! ### Runs -/

/-- **Exactness of the pending lists.** In every run of the entry points and the vendor the pending
lists hold exactly the requests that were accepted and not answered, in every state of the run, if
and only if no step of the run is an error exit that answers a request in a list. -/
theorem pendingExact_iff_noErrorExit {P Q : Pool entrySignature RilState}
    {tr : List (Pool entrySignature RilState × PoolLabel entrySignature)}
    (h0 : (entrySystem cfg).init P) (h : (entrySystem cfg).Run P tr Q) :
    (∀ U ∈ Lts.visited tr Q, ∃ xs, PendingExact cfg U.shared.pending xs) ↔
      ∀ step ∈ tr, NoErrorExit step.1.shared step.2 := by
  refine @Lts.good_iff_ok _ _ (entrySystem cfg) (fun U => ∃ xs, AnswerInv cfg U.shared.pending xs)
    (fun U => ∃ xs, PendingExact cfg U.shared.pending xs)
    (fun U label => NoErrorExit U.shared label) ?_ ?_ ?_ ?_ P Q tr h0 h
  · -- nothing is pending at the start
    rintro U ⟨hempty, -⟩
    exact ⟨_, AnswerInv.empty hempty⟩
  · rintro U ⟨xs, inv⟩
    exact ⟨xs, inv.exact⟩
  · -- a step that is no error exit keeps the two views of the list together
    rintro U label V ⟨xs, inv⟩ hstep hok
    refine @PoolStep.shared_invariant _ _ _ _ (fun s => ∃ xs, AnswerInv cfg s.pending xs)
      NoErrorExit ?_ _ _ _ ⟨xs, inv⟩ hstep hok
    rintro s t o r s' ⟨ys, inv⟩ hsem hok
    exact inv.effect (entryEffect_of_runs inv.lists hsem) hok
  · -- a step that is not an error exit is a refusal of a request that is in a list
    rintro U label V ⟨xs, inv⟩ hstep hbad
    cases hstep with
    | call hidle hmay => exact absurd trivial hbad
    -- an error exit answers a request and leaves it in its list
    | @op t o k r s' hprog hsem =>
      obtain ⟨a, hrefuses, hlisted⟩ : ∃ a, o.refuses = some a ∧ U.shared.pending.Listed a := by
        by_contra hnone
        exact hbad fun a ha hl => hnone ⟨a, ha, hl⟩
      show ¬ ∃ xs, PendingExact cfg s'.pending xs
      -- the effects of the step are those of one operation, and only one of them refuses
      have heffect := entryEffect_of_runs inv.lists hsem
      revert heffect
      generalize s'.pending = p'
      intro heffect
      cases heffect with
      | nothing haccepts hnone => exact absurd (hnone.symm.trans hrefuses) nofun
      | accept ho => exact absurd hrefuses (by rw [ho]; exact nofun)
      | complete haccepts hnone => exact absurd (hnone.symm.trans hrefuses) nofun
      | ack ho => exact absurd hrefuses (by rw [ho]; exact nofun)
      | @refuse b info e ho hload =>
        subst ho
        obtain rfl : b = a := Option.some.inj hrefuses
        exact not_pendingExact_of_listed hlisted

/-! ### A vendor that cannot filter indications -/

/-- Two slots, a vendor of version 14. -/
def Config.version14 : Config := { Config.dual with version := 14 }

namespace RefusedFilter

/-- The states: the client calls `setIndicationFilter` with serial 7, the request is accepted at
address 1, the client has the answer. -/
def accepted : RilState :=
  { RilState.oneClient with
    pending := RilState.oneClient.pending.accept .version14 1 7 0
      Request.setUnsolicitedResponseFilter }

def answered : RilState :=
  { accepted with
    pending := accepted.pending.note (.respond (some 0) 0 .solicited 7 Errno.requestNotSupported)
    clients :=
      { accepted.clients with calls := [⟨0, 0, ⟨1, 0⟩, .response .solicited 7, true⟩] } }

def call : Entry Unit := Entry.setIndicationFilter .version14 0 7 1

/-- The pool in which the only thread has still to run `p`. -/
def pool (s : RilState) (p : Entry Unit) : Pool entrySignature RilState := .ofList s [p]

/-- The steps of the run: a method is called, its request is accepted, and it is refused. -/
def run : List (Pool entrySignature RilState × PoolLabel entrySignature) :=
  [(pool .oneClient (.ret ()), .call 0 call),
    (pool .oneClient call,
      .op 0 (.addRequestToList 7 0 Request.setUnsolicitedResponseFilter) (some (1 : Addr))),
    (pool accepted (Entry.sendErrorResponse (some 1) Errno.requestNotSupported),
      .op 0 (.sendErrorResponse (some 1) Errno.requestNotSupported) ())]

theorem init : (entrySystem .version14).init (pool .oneClient (.ret ())) := by
  refine ⟨⟨fun _ => rfl, fun _ => rfl, rfl⟩, Pool.ofList_idle fun p hp => ?_⟩
  exact List.mem_singleton.mp hp

theorem call_eq : call =
    .op (.addRequestToList 7 0 Request.setUnsolicitedResponseFilter) fun pRI =>
      Entry.sendErrorResponse pRI Errno.requestNotSupported := rfl

theorem accepts : entrySem .version14 0
    (.addRequestToList 7 0 Request.setUnsolicitedResponseFilter) (some (1 : Addr))
    RilState.oneClient accepted :=
  ⟨some 1, _, ⟨_, ⟨rfl, rfl⟩, rfl⟩, (), _, ⟨_, rfl, rfl⟩, (), _, ⟨_, rfl, rfl⟩, rfl, rfl⟩

/-- The client takes the call. -/
theorem answers : entrySem .version14 0
    (.sendErrorResponse (some 1) Errno.requestNotSupported) () accepted answered :=
  ⟨(), _, rfl, accepted.pending.info 1, _, ⟨_, ⟨fun _ => rfl, rfl⟩, rfl⟩, (), _, ⟨_, rfl, rfl⟩,
    some ⟨1, 0⟩, _, ⟨_, ⟨rfl, rfl⟩, rfl⟩, some ⟨1, 0⟩, _, ⟨_, ⟨rfl, rfl⟩, rfl⟩, true, _,
    ⟨_, rfl, rfl⟩, (), _, rfl, (), _, rfl, rfl, rfl⟩

theorem runs : (entrySystem .version14).Run (pool .oneClient (.ret ())) run
    (pool answered (.ret ())) := by
  have hcall : (entrySystem .version14).step (pool .oneClient (.ret ())) (.call 0 call)
      (pool .oneClient call) :=
    PoolStep.ofList_call rfl (.inl ⟨0, .setIndicationFilter 7 1⟩)
  have hadd : (entrySystem .version14).step (pool .oneClient call)
      (.op 0 (.addRequestToList 7 0 Request.setUnsolicitedResponseFilter) (some (1 : Addr)))
      (pool accepted (Entry.sendErrorResponse (some 1) Errno.requestNotSupported)) :=
    @PoolStep.ofList_op _ _ _ _ _ _ [call] 0 _ _ _ (congrArg some call_eq) accepts
  have hrefuse : (entrySystem .version14).step
      (pool accepted (Entry.sendErrorResponse (some 1) Errno.requestNotSupported))
      (.op 0 (.sendErrorResponse (some 1) Errno.requestNotSupported) ())
      (pool answered (.ret ())) :=
    PoolStep.ofList_op rfl answers
  exact .snoc (.snoc (.snoc .nil hcall) hadd) hrefuse

end RefusedFilter

/-- The run of `setIndicationFilter`, from the first call to its return, and the condition on it. -/
theorem pendingExact_iff_noErrorExit_setIndicationFilter :
    (∀ U ∈ Lts.visited RefusedFilter.run (RefusedFilter.pool RefusedFilter.answered (.ret ())),
      ∃ xs, PendingExact .version14 U.shared.pending xs) ↔
      ∀ step ∈ RefusedFilter.run, NoErrorExit step.1.shared step.2 :=
  pendingExact_iff_noErrorExit RefusedFilter.init RefusedFilter.runs

/-- **`setIndicationFilter` answers its request and leaves it in the list.** The vendor is older
than version 15; the method has returned, the client has the answer, and the request still pends. -/
theorem setIndicationFilter_leaves_answered_request :
    ∃ P tr Q, (entrySystem .version14).init P ∧ (entrySystem .version14).Run P tr Q ∧
      (∀ t, Q.Idle t) ∧ Answered Q.shared.pending.log 0 ∧
      Q.shared.clients.calls = [⟨0, 0, ⟨1, 0⟩, .response .solicited 7, true⟩] ∧
      Q.shared.pending.Listed 1 ∧ Q.shared.pending.owner 1 = some 0 ∧
      ¬ ∃ xs, PendingExact .version14 Q.shared.pending xs := by
  have hlisted : RefusedFilter.accepted.pending.Listed 1 :=
    ⟨.pendingRequests, [1], ⟨rfl, rfl⟩, List.mem_singleton_self 1⟩
  refine ⟨_, _, _, RefusedFilter.init, RefusedFilter.runs, Pool.ofList_idle fun p hp => ?_,
    ⟨_, _, _, _, List.mem_cons_self⟩, rfl, hlisted, rfl, ?_⟩
  · exact List.mem_singleton.mp hp
  · exact not_pendingExact_of_listed hlisted

end BlueCommon.Ril
