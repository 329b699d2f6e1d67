import BlueCommon.Ril.Requests
import Mathlib.Data.List.Nodup

/-!
# The pending lists

What `addRequestToList`, `RIL_onRequestAck` and `RIL_onRequestComplete` do to the pending lists.

* `PendingInv cfg p xs`: in the memory `p` the lists are `xs`; every node sits in the list that its
  `socket_id` selects, is allocated, and belongs to a request of its own.
* `addRequestToList_runs`, `rilOnRequestAck_runs`, `rilOnRequestComplete_runs`,
  `sendErrorResponse_runs`: all that a call of the function can do to the lists. Tokens are
  arbitrary addresses; one that is in no list changes nothing.
-/

namespace BlueCommon.Ril

open Interaction Program LinkedList

/-- **The invariant of the pending lists.** -/
structure PendingInv (cfg : Config) (p : Pending) (xs : PendingList → List Addr) : Prop where
  /-- The heads and the links make up the lists. -/
  path : ∀ l, Path p.next (p.head l) (xs l) none
  /-- No node occurs twice. -/
  nodup : ∀ l, (xs l).Nodup
  /-- No node of a list has been freed. -/
  live : ∀ l, ∀ a ∈ xs l, p.live a = true
  /-- The `socket_id` of a node selects its list. -/
  hook : ∀ l, ∀ a ∈ xs l, addHook cfg (p.info a).socketId = l
  /-- Nobody cancels a request or makes it local. -/
  plain : ∀ l, ∀ a ∈ xs l, (p.info a).isLocal = 0 ∧ (p.info a).cancelled = 0
  /-- A node of a list belongs to a request that was accepted with its socket and its serial. -/
  owned : ∀ l, ∀ a ∈ xs l, ∃ rid, p.owner a = some rid ∧
    RequestEvent.accept rid a (p.info a).socketId (p.info a).token ∈ p.log
  /-- Requests are numbered as they are accepted. -/
  owner_lt : ∀ a rid, p.owner a = some rid → rid < p.accepted
  /-- A request was accepted once. -/
  owner_inj : ∀ a b rid, p.owner a = some rid → p.owner b = some rid → a = b

variable {cfg : Config} {p p' : Pending} {xs : PendingList → List Addr} {a b : Addr}
  {l : PendingList}

/-- The lists are empty and no request has been accepted. -/
structure Pending.Empty (p : Pending) : Prop where
  head : ∀ l, p.head l = none
  owner : ∀ a, p.owner a = none
  log : p.log = []

theorem Pending.Empty.lists (h : p.Empty) : PendingInv cfg p fun _ => [] where
  path := h.head
  nodup _ := List.nodup_nil
  live _ _ ha := absurd ha List.not_mem_nil
  hook _ _ ha := absurd ha List.not_mem_nil
  plain _ _ ha := absurd ha List.not_mem_nil
  owned _ _ ha := absurd ha List.not_mem_nil
  owner_lt a _ ha := absurd ((h.owner a).symm.trans ha) nofun
  owner_inj a _ _ ha := absurd ((h.owner a).symm.trans ha) nofun

/-- The node is in a pending list. -/
def Pending.Listed (p : Pending) (a : Addr) : Prop :=
  ∃ l xs, Path p.next (p.head l) xs none ∧ a ∈ xs

/-- What is in the lists after a push. -/
theorem mem_pushed {m : PendingList} :
    b ∈ Function.update xs l (a :: xs l) m ↔ (m = l ∧ b = a) ∨ b ∈ xs m := by
  rcases eq_or_ne m l with rfl | hm
  · rw [Function.update_self, List.mem_cons]
    simp
  · rw [Function.update_of_ne hm]
    simp [hm]

namespace PendingInv

/-- A node is in one list only. -/
theorem eq_list (inv : PendingInv cfg p xs) {l' : PendingList} (ha : a ∈ xs l) (ha' : a ∈ xs l') :
    l = l' := by
  rw [← inv.hook l a ha, ← inv.hook l' a ha']

/-- What is listed in the memory is in the lists of the invariant. -/
theorem listed_iff (inv : PendingInv cfg p xs) : p.Listed a ↔ ∃ l, a ∈ xs l := by
  constructor
  · rintro ⟨l, ys, hys, ha⟩
    obtain rfl : ys = xs l := hys.unique (inv.path l)
    exact ⟨l, ha⟩
  · rintro ⟨l, ha⟩
    exact ⟨l, xs l, inv.path l, ha⟩

theorem notMem_of_dead (inv : PendingInv cfg p xs) (ha : p.live a = false) (l : PendingList) :
    a ∉ xs l := by
  intro hm
  rw [inv.live l a hm] at ha
  exact Bool.noConfusion ha

/-- Nodes with one request are one node. -/
theorem eq_of_owner (inv : PendingInv cfg p xs) (ha : a ∈ xs l)
    (h : p.owner a = p.owner b) : a = b := by
  obtain ⟨rid, hrid, -⟩ := inv.owned l a ha
  exact inv.owner_inj a b rid hrid (h ▸ hrid)

/-! ### Walks -/

/-- A walk misses what is in no list. -/
theorem walks_of_notMem (inv : PendingInv cfg p xs) (ha : a ∉ xs l)
    {res : Option (Link Addr)} (h : p.Walks l a res) : res = none := by
  obtain ⟨fuel, hfuel⟩ := h
  have hmiss : find p.next (p.head l) a (max fuel ((xs l).length + 1)) .head = some none :=
    find_of_notMem (inv.path l : Path p.next (Link.head.deref p.next (p.head l)) _ _) ha
      (lt_of_lt_of_le (Nat.lt_succ_self _) (le_max_right _ _))
  have hsame := find_mono hfuel (le_max_left fuel ((xs l).length + 1))
  exact Option.some.inj (hsame.symm.trans hmiss)

/-- A walk stops at the link that points to the node. -/
theorem walks_of_mem (inv : PendingInv cfg p xs) {ys zs : List Addr} (hl : xs l = ys ++ a :: zs)
    {res : Option (Link Addr)} (h : p.Walks l a res) : res = some (lastLink .head ys) := by
  obtain ⟨fuel, hfuel⟩ := h
  have hpath : Path p.next (Link.head.deref p.next (p.head l)) (ys ++ a :: zs) none := by
    rw [← hl]
    exact inv.path l
  have ha : a ∉ ys := by
    have hnd := inv.nodup l
    rw [hl] at hnd
    exact fun hm => (List.nodup_append.mp hnd).2.2 a hm a List.mem_cons_self rfl
  have hhit : find p.next (p.head l) a (max fuel (ys.length + 1)) .head =
      some (some (lastLink .head ys)) :=
    find_of_path hpath ha (lt_of_lt_of_le (Nat.lt_succ_self _) (le_max_right _ _))
  have hsame := find_mono hfuel (le_max_left fuel (ys.length + 1))
  exact Option.some.inj (hsame.symm.trans hhit)

/-! ### Steps on the memory -/

/-- Only history changes. -/
theorem note (inv : PendingInv cfg p xs) (e : RequestEvent) : PendingInv cfg (p.note e) xs where
  path := inv.path
  nodup := inv.nodup
  live := inv.live
  hook := inv.hook
  plain := inv.plain
  owned l a ha := by
    obtain ⟨rid, hrid, hmem⟩ := inv.owned l a ha
    exact ⟨rid, hrid, List.mem_cons_of_mem _ hmem⟩
  owner_lt := inv.owner_lt
  owner_inj := inv.owner_inj

/-- A node that is in no list may be freed. -/
theorem free (inv : PendingInv cfg p xs) (ha : ∀ l, a ∉ xs l) : PendingInv cfg (p.free a) xs where
  path := inv.path
  nodup := inv.nodup
  live l b hb := by
    have hba : b ≠ a := fun e => ha l (e ▸ hb)
    show Function.update p.live a false b = true
    rw [Function.update_of_ne hba]
    exact inv.live l b hb
  hook := inv.hook
  plain := inv.plain
  owned := inv.owned
  owner_lt := inv.owner_lt
  owner_inj := inv.owner_inj

/-- An ack is noted in the node. Only the flag `wasAckSent` of the node changes, so each node is
found where it was, by the same slot and token. -/
theorem acked (inv : PendingInv cfg p xs) (pp : Link Addr) :
    PendingInv cfg (p.found l a true pp) xs := by
  -- only the flag `wasAckSent` of the node changes
  have hinfo : ∀ b, ((p.found l a true pp).info b).socketId = (p.info b).socketId ∧
      ((p.found l a true pp).info b).token = (p.info b).token ∧
      ((p.found l a true pp).info b).isLocal = (p.info b).isLocal ∧
      ((p.found l a true pp).info b).cancelled = (p.info b).cancelled := by
    intro b
    rcases eq_or_ne b a with rfl | hba
    · simp [Pending.found]
    · simp [Pending.found, hba]
  exact {
    -- the links and the owners are those from before
    path := inv.path
    nodup := inv.nodup
    live := inv.live
    -- the slot and the token decide where a node is looked for, and they are the same
    hook := fun m b hb => by
      rw [(hinfo b).1]
      exact inv.hook m b hb
    plain := fun m b hb => by
      rw [(hinfo b).2.2.1, (hinfo b).2.2.2]
      exact inv.plain m b hb
    owned := fun m b hb => by
      obtain ⟨rid, hrid, hmem⟩ := inv.owned m b hb
      rw [(hinfo b).1, (hinfo b).2.1]
      exact ⟨rid, hrid, List.mem_cons_of_mem _ hmem⟩
    owner_lt := inv.owner_lt
    owner_inj := inv.owner_inj }

/-- **The pointer-to-pointer unlink** takes the node out of its list and leaves the others alone.
The walk has stopped at the link before the node, which is the only thing that is written. -/
theorem dequeued (inv : PendingInv cfg p xs) {pp : Link Addr} (h : p.Walks l a (some pp)) :
    a ∈ xs l ∧ PendingInv cfg (p.found l a false pp) (fun m => (xs m).erase a) := by
  -- the walk has found the node, so it is in the list
  have ha : a ∈ xs l := by
    by_contra hn
    cases inv.walks_of_notMem hn h
  refine ⟨ha, ?_⟩
  obtain ⟨ys, zs, hl⟩ := List.append_of_mem ha
  -- it stopped at the link before the node
  obtain rfl : pp = lastLink .head ys := Option.some.inj (inv.walks_of_mem hl h)
  -- the nodes before it are others
  have hnd : (ys ++ a :: zs).Nodup := hl ▸ inv.nodup l
  have hays : a ∉ ys := fun hm => (List.nodup_append.mp hnd).2.2 a hm a List.mem_cons_self rfl
  have hother : ∀ m, m ≠ l → (xs m).erase a = xs m := fun m hm =>
    List.erase_of_not_mem fun hmem => hm (inv.eq_list hmem ha)
  have hmem : ∀ m b, b ∈ (xs m).erase a → b ∈ xs m := fun m b hb => List.mem_of_mem_erase hb
  exact {
    path := fun m => by
      rcases eq_or_ne m l with rfl | hm
      · -- the list of the node
        rw [hl, List.erase_append_right _ hays, List.erase_cons_head]
        have hpath : Path p.next (p.head m) (ys ++ a :: zs) none := hl ▸ inv.path m
        simpa [Pending.found] using hpath.unlink hnd
      · -- the unlink writes the head of `l` or the link of a node of `l`
        rw [hother m hm]
        have hhead : (p.found l a false (lastLink .head ys)).head m = p.head m := by
          simp [Pending.found, hm]
        rw [hhead]
        refine (inv.path m).congr fun b hb => store_lastLink_of_notMem (fun hbys => ?_) _
        have hbl : b ∈ xs l := by
          rw [hl]
          exact List.mem_append_left _ hbys
        exact hm (inv.eq_list hb hbl)
    nodup := fun m => (inv.nodup m).erase a
    -- what is left was there before, and nothing else is written
    live := fun m b hb => inv.live m b (hmem m b hb)
    hook := fun m b hb => inv.hook m b (hmem m b hb)
    plain := fun m b hb => inv.plain m b (hmem m b hb)
    owned := fun m b hb => by
      obtain ⟨rid, hrid, hlog⟩ := inv.owned m b (hmem m b hb)
      exact ⟨rid, hrid, List.mem_cons_of_mem _ hlog⟩
    owner_lt := inv.owner_lt
    owner_inj := inv.owner_inj }

end PendingInv

/-! ### `addRequestToList` -/

/-- What `addRequestToList` does when it accepts a request: it allocates the node, stores the fields
and pushes it on the list. -/
def Pending.accept (cfg : Config) (p : Pending) (a : Addr) (serial slotId request : ℤ) : Pending :=
  Pending.push
    { p.alloc a with
      info := Function.update (p.alloc a).info a (.ofRequest serial slotId request) }
    (addHook cfg slotId) a

section Accept

variable {serial slotId request : ℤ}

@[simp] theorem accept_info_self :
    (p.accept cfg a serial slotId request).info a = .ofRequest serial slotId request := by
  simp [Pending.accept, Pending.push]

theorem accept_info_of_ne (h : b ≠ a) :
    (p.accept cfg a serial slotId request).info b = p.info b := by
  simp [Pending.accept, Pending.push, Pending.alloc, h]

@[simp] theorem accept_owner_self :
    (p.accept cfg a serial slotId request).owner a = some p.accepted := by
  simp [Pending.accept, Pending.push, Pending.alloc]

theorem accept_owner_of_ne (h : b ≠ a) :
    (p.accept cfg a serial slotId request).owner b = p.owner b := by
  simp [Pending.accept, Pending.push, Pending.alloc, h]

@[simp] theorem accept_accepted :
    (p.accept cfg a serial slotId request).accepted = p.accepted + 1 := rfl

@[simp] theorem accept_log : (p.accept cfg a serial slotId request).log =
    .accept p.accepted a slotId serial :: p.log := by
  simp [Pending.accept, Pending.push, Pending.alloc, RequestInfo.ofRequest]

theorem accept_live_self : (p.accept cfg a serial slotId request).live a = true := by
  simp [Pending.accept, Pending.push, Pending.alloc]

theorem accept_live_of_ne (h : b ≠ a) :
    (p.accept cfg a serial slotId request).live b = p.live b := by
  simp [Pending.accept, Pending.push, Pending.alloc, h]

/-- The number of an accepted request is below that of the next one. -/
theorem accept_lt_accepted (hlt : ∀ rid b slotId token, .accept rid b slotId token ∈ p.log →
    rid < p.accepted) :
    ∀ rid b slotId' token, .accept rid b slotId' token ∈
      (p.accept cfg a serial slotId request).log →
      rid < (p.accept cfg a serial slotId request).accepted := by
  intro rid b slotId' token hb
  rw [accept_log] at hb
  rw [accept_accepted]
  rcases List.mem_cons.mp hb with heq | hb
  · injection heq with hrid
    exact hrid ▸ Nat.lt_succ_self _
  · exact Nat.lt_succ_of_lt (hlt rid b slotId' token hb)

/-- An accepted request is in front of the list of its slot. A property of all nodes is checked on
the new one and on the others: it has the slot it was accepted for, and a number above all
others. -/
theorem PendingInv.accepted (inv : PendingInv cfg p xs) (hfresh : p.live a = false) :
    PendingInv cfg (p.accept cfg a serial slotId request)
      (Function.update xs (addHook cfg slotId) (a :: xs (addHook cfg slotId))) := by
  have hnew : ∀ m, a ∉ xs m := inv.notMem_of_dead hfresh
  -- a property of all nodes is checked on the new one and on the others
  have hcases : ∀ {Q : PendingList → Addr → Prop}, Q (addHook cfg slotId) a →
      (∀ m b, b ∈ xs m → b ≠ a → Q m b) → ∀ m, ∀ b ∈ Function.update xs (addHook cfg slotId)
        (a :: xs (addHook cfg slotId)) m, Q m b := by
    intro Q hself hold m b hb
    rcases mem_pushed.mp hb with ⟨rfl, rfl⟩ | hb
    · exact hself
    · exact hold m b hb fun e => hnew m (e ▸ hb)
  -- the new number belongs to the new node alone
  have hown : ∀ b rid, (p.accept cfg a serial slotId request).owner b = some rid →
      (b = a ∧ rid = p.accepted) ∨ (b ≠ a ∧ p.owner b = some rid) := by
    intro b rid hb
    rcases eq_or_ne b a with rfl | hba
    · rw [accept_owner_self] at hb
      exact .inl ⟨rfl, (Option.some.inj hb).symm⟩
    · rw [accept_owner_of_ne hba] at hb
      exact .inr ⟨hba, hb⟩
  exact {
    path := fun m => by
      rcases eq_or_ne m (addHook cfg slotId) with rfl | hm
      · -- the list it is added to gets a new first node
        have hp := (inv.path (addHook cfg slotId)).push (hnew _)
        rw [Function.update_self]
        simpa [Pending.accept, Pending.push, Pending.alloc, Function.update_idem] using hp
      · -- the others start where they did, and their links are not written
        rw [Function.update_of_ne hm]
        have hhead : (p.accept cfg a serial slotId request).head m = p.head m := by
          simp [Pending.accept, Pending.push, Pending.alloc, hm]
        rw [hhead]
        refine (inv.path m).congr fun b hb => ?_
        have hba : b ≠ a := fun e => hnew m (e ▸ hb)
        simp [Pending.accept, Pending.push, Pending.alloc, hba]
    nodup := fun m => by
      rcases eq_or_ne m (addHook cfg slotId) with rfl | hm
      · rw [Function.update_self]
        exact List.nodup_cons.mpr ⟨hnew _, inv.nodup _⟩
      · rw [Function.update_of_ne hm]
        exact inv.nodup m
    live := hcases accept_live_self fun m b hb hba => by
      rw [accept_live_of_ne hba]
      exact inv.live m b hb
    -- a new request has the slot it was accepted for
    hook := hcases (by rw [accept_info_self]; rfl) fun m b hb hba => by
      rw [accept_info_of_ne hba]
      exact inv.hook m b hb
    -- it is neither local nor cancelled
    plain := hcases (by rw [accept_info_self]; exact ⟨rfl, rfl⟩) fun m b hb hba => by
      rw [accept_info_of_ne hba]
      exact inv.plain m b hb
    -- it has the number that was just given out
    owned := hcases
      ⟨p.accepted, accept_owner_self, by
        rw [accept_info_self, accept_log]
        exact List.mem_cons_self⟩ fun m b hb hba => by
      obtain ⟨rid, hrid, hmem⟩ := inv.owned m b hb
      refine ⟨rid, by rw [accept_owner_of_ne hba, hrid], ?_⟩
      rw [accept_info_of_ne hba, accept_log]
      exact List.mem_cons_of_mem _ hmem
    -- all numbers are below the next one
    owner_lt := fun b rid hb => by
      rw [accept_accepted]
      rcases hown b rid hb with ⟨-, rfl⟩ | ⟨-, hb⟩
      · exact Nat.lt_succ_self _
      · exact Nat.lt_succ_of_lt (inv.owner_lt b rid hb)
    owner_inj := fun b c rid hb hc => by
      -- the number of the new request is above those of the others
      rcases hown b rid hb with ⟨hba, hr⟩ | ⟨-, hb'⟩
      · rcases hown c rid hc with ⟨hca, -⟩ | ⟨-, hc'⟩
        · rw [hba, hca]
        · exact absurd (inv.owner_lt c rid hc') (by rw [hr]; exact lt_irrefl _)
      · rcases hown c rid hc with ⟨-, hr⟩ | ⟨-, hc'⟩
        · exact absurd (inv.owner_lt b rid hb') (by rw [hr]; exact lt_irrefl _)
        · exact inv.owner_inj b c rid hb' hc' }

/-- All that a call of `addRequestToList` can do. -/
theorem addRequestToList_runs {t : ℕ} {s s' : RilState} {r : Option Addr}
    (h : (addRequestToList cfg serial slotId request).Runs (RilOp.sem cfg t) s r s') :
    (r = none ∧ s' = s) ∨ ∃ a, r = some a ∧ s.pending.live a = false ∧
      s' = { s with pending := s.pending.accept cfg a serial slotId request } := by
  unfold addRequestToList at h
  split at h
  · -- the request number is out of range
    exact .inl h
  · obtain ⟨alloc, s₁, ⟨p₁, hcalloc, rfl⟩, h⟩ := h
    cases alloc with
    | none =>
      obtain rfl : p₁ = s.pending := hcalloc
      exact .inl h
    | some a =>
      obtain ⟨hfresh, rfl⟩ : s.pending.live a = false ∧ p₁ = s.pending.alloc a := hcalloc
      obtain ⟨_, _, ⟨_, rfl, rfl⟩, _, _, ⟨_, rfl, rfl⟩, hr, rfl⟩ := h
      exact .inr ⟨a, hr, hfresh, rfl⟩

end Accept

/-! ### Messages leave the lists alone -/

/-- The operations that calling a client is made of. -/
def RilOp.IsMessaging : RilOp → Prop
  | .lock _ | .client _ | .vendor _ | .mark _ => True
  | _ => False

section Messaging

variable {slotId serial : ℤ} {type : ResponseType} {service : Service} {callback : Callback}
  {message : ClientMessage} {α : Type}

theorem checkReturnStatus_isMessaging (isOk : Bool) :
    (checkReturnStatus cfg slotId isOk service).Only RilOp.IsMessaging := by
  cases isOk with
  | true => exact trivial
  | false =>
    refine ⟨trivial, fun _ => ⟨trivial, fun _ => ⟨trivial, fun _ => ⟨trivial, fun _ => ?_⟩⟩⟩⟩
    exact ⟨trivial, fun _ => ⟨trivial, fun _ => trivial⟩⟩

theorem callAndCheck_isMessaging :
    (callAndCheck cfg slotId service callback message).Only RilOp.IsMessaging :=
  ⟨trivial, fun isOk => ⟨trivial, fun _ => checkReturnStatus_isMessaging isOk⟩⟩

theorem ifRegistered_isMessaging {field : CallbackField} {absent : Code α}
    {present : Callback → Code α} (habsent : absent.Only RilOp.IsMessaging)
    (hpresent : ∀ c, (present c).Only RilOp.IsMessaging) :
    (ifRegistered slotId field absent present).Only RilOp.IsMessaging := by
  refine ⟨trivial, fun first => ?_⟩
  cases first with
  | none => exact habsent
  | some _ =>
    refine ⟨trivial, fun second => ?_⟩
    cases second with
    | none => exact ⟨trivial, fun r => nomatch r⟩
    | some c => exact hpresent c

theorem acknowledgeRequest_isMessaging :
    (acknowledgeRequest cfg slotId serial).Only RilOp.IsMessaging :=
  ifRegistered_isMessaging trivial fun _ => callAndCheck_isMessaging

/-- A response function only calls the client. -/
theorem responseFunction_isMessaging (f : ResponseFunction) :
    (f.run cfg slotId type serial).Only RilOp.IsMessaging := by
  -- by the kind of response: a look-up of the client, and a call if there is one
  cases f with
  | radio => exact ifRegistered_isMessaging trivial fun _ => callAndCheck_isMessaging
  | radioV1_1 => exact ifRegistered_isMessaging trivial fun _ => callAndCheck_isMessaging
  | setSimCardPower =>
    refine ⟨trivial, fun response => ⟨trivial, fun responseV1_1 => ?_⟩⟩
    cases responseV1_1 with
    | some c => exact callAndCheck_isMessaging
    | none =>
      cases response with
      | some c => exact callAndCheck_isMessaging
      | none => exact trivial
  | oemHook =>
    -- the hook only exists where it is compiled in
    rcases Bool.eq_false_or_eq_true cfg.oemHookEnabled with henabled | henabled
    · simp only [ResponseFunction.run, henabled, if_true]
      exact ifRegistered_isMessaging trivial fun _ => callAndCheck_isMessaging
    · simp only [ResponseFunction.run, henabled]
      exact trivial

/-- Calling a client changes neither the lists nor the NITZ message nor the wake lock. -/
theorem messaging_runs {t : ℕ} {code : Code α} {s s' : RilState} {r : α}
    (hcode : code.Only RilOp.IsMessaging) (h : code.Runs (RilOp.sem cfg t) s r s') :
    s'.pending = s.pending ∧ s'.nitz = s.nitz ∧ s'.wake = s.wake := by
  refine Only.invariant
    (fun u => u.pending = s.pending ∧ u.nitz = s.nitz ∧ u.wake = s.wake) ?_ hcode h ⟨rfl, rfl, rfl⟩
  rintro (o | o | o | o | o | o | o) r u u' ho hsem hu
  · cases ho
  · obtain ⟨_, -, rfl⟩ := hsem
    exact hu
  · obtain ⟨_, -, rfl⟩ := hsem
    exact hu
  · cases ho
  · cases ho
  · obtain rfl : u' = u := hsem
    exact hu
  · obtain rfl : u' = u := hsem
    exact hu

end Messaging

/-! ### `RIL_onRequestAck`, `RIL_onRequestComplete`, `sendErrorResponse` -/

section Tokens

variable {t : ℕ} {s s' : RilState} {e : ℤ}

/-- The walk finds the node exactly if it is in a list; a node that is not found changes nothing,
even if its memory has been freed and holds anything. -/
theorem checkAndDequeueRequestInfoIfAck_runs (inv : PendingInv cfg s.pending xs)
    {isAck found : Bool}
    (h : (checkAndDequeueRequestInfoIfAck cfg a isAck).Runs (RilOp.sem cfg t) s found s') :
    (found = false ∧ (∀ l, a ∉ xs l) ∧ s' = s) ∨
      ∃ l pp, found = true ∧ s.pending.Walks l a (some pp) ∧
        s' = { s with pending := s.pending.found l a isAck pp } := by
  obtain ⟨info, _, ⟨_, ⟨hload, rfl⟩, rfl⟩, h⟩ := runs_op_bind.mp h
  obtain ⟨p', hfind, rfl⟩ := runs_op_ret.mp h
  cases found with
  | false =>
    obtain ⟨hwalk, rfl⟩ : s.pending.Walks (dequeueHook cfg info.socketId) a none ∧ p' = s.pending :=
      -- not found: the walk came to the end of the list without the node
      hfind
    refine .inl ⟨rfl, fun l hl => ?_, rfl⟩
    -- a node of a list is alive, so its own `socket_id` was read
    rw [hload (inv.live l a hl), dequeueHook_eq_addHook, inv.hook l a hl] at hwalk
    obtain ⟨ys, zs, hsplit⟩ := List.append_of_mem hl
    cases inv.walks_of_mem hsplit hwalk
  -- found: the link before the node is known
  | true =>
    obtain ⟨pp, hwalk, rfl⟩ : ∃ pp, s.pending.Walks (dequeueHook cfg info.socketId) a (some pp) ∧
      p' = s.pending.found (dequeueHook cfg info.socketId) a isAck pp := hfind
    exact .inr ⟨_, pp, rfl, hwalk, rfl⟩

/-- The response function is called for the request that the node belongs to. -/
theorem callResponseFunction_runs {info : RequestInfo} {type : ResponseType} {r : Unit}
    (h : (callResponseFunction cfg a info type e).Runs (RilOp.sem cfg t) s r s') :
    s'.pending = s.pending.note
      (.respond (s.pending.owner a) info.socketId type info.token e) := by
  unfold callResponseFunction at h
  split at h
  · obtain ⟨r, -⟩ := h
    exact nomatch r
  · obtain ⟨_, s₁, ⟨_, rfl, rfl⟩, h⟩ := runs_op_bind.mp h
    exact (messaging_runs (responseFunction_isMessaging _) h).1

/-- All that a call of `sendErrorResponse` can do to the lists: nothing but the answer. -/
theorem sendErrorResponse_runs {tok : Option Addr} {r : Unit}
    (h : (sendErrorResponse cfg tok e).Runs (RilOp.sem cfg t) s r s') :
    ∃ a info, tok = some a ∧ (s.pending.live a = true → info = s.pending.info a) ∧
      s'.pending = s.pending.note
        (.respond (s.pending.owner a) info.socketId .solicited info.token e) := by
  cases tok with
  | none =>
    obtain ⟨r, -⟩ := h
    exact nomatch r
  | some a =>
    obtain ⟨_, _, rfl, hload⟩ := runs_op_bind.mp h
    obtain ⟨info, _, ⟨_, ⟨hload, rfl⟩, rfl⟩, hrest⟩ := runs_op_bind.mp hload
    obtain ⟨_, s₁, hcall, hleave⟩ := (runs_bind _ _).mp hrest
    have hleave := runs_op_ret.mp hleave
    obtain rfl : s' = s₁ := hleave
    exact ⟨a, info, rfl, hload, callResponseFunction_runs hcall⟩

/-- The response has the type for acknowledged requests only after an ack. -/
theorem solicitedResponseType_runs {info : RequestInfo} {type : ResponseType}
    (h : (solicitedResponseType cfg info).Runs (RilOp.sem cfg t) s type s') :
    s'.pending = s.pending ∧ (type = .solicitedAckExp → cfg.version ≥ 13 ∧
      info.wasAckSent = 1) := by
  unfold solicitedResponseType at h
  split at h
  · next hack =>
    obtain ⟨_, _, ⟨_, -, rfl⟩, -, rfl⟩ := runs_op_bind.mp h
    exact ⟨rfl, fun _ => hack⟩
  · obtain ⟨rfl, rfl⟩ := h
    exact ⟨rfl, fun hc => ResponseType.noConfusion hc⟩

/-- A lock operation changes the locks only. -/
theorem lock_sem_pending {o : LockOp} {r : Unit} (h : RilOp.sem cfg t (.lock o) r s s') :
    s'.pending = s.pending := by
  obtain ⟨_, -, rfl⟩ := h
  exact rfl

/-- What the lists are after the completion of the request at `a`. -/
def Pending.complete (p : Pending) (l : PendingList) (a : Addr) (pp : Link Addr)
    (type : ResponseType) (e : ℤ) : Pending :=
  ((p.found l a false pp).note
    (.respond (p.owner a) (p.info a).socketId type (p.info a).token e)).free a

/-- The answer of `RIL_onRequestComplete`. -/
theorem answerRequest_runs {info : RequestInfo} {r : Unit}
    (h : (answerRequest cfg a info e).Runs (RilOp.sem cfg t) s r s') :
    ∃ type, (type = .solicitedAckExp → cfg.version ≥ 13 ∧ info.wasAckSent = 1) ∧
      s'.pending = s.pending.note
        (.respond (s.pending.owner a) info.socketId type info.token e) := by
  obtain ⟨type, s₁, htype, h⟩ := (runs_bind _ _).mp h
  obtain ⟨_, s₂, hlock, h⟩ := runs_op_bind.mp h
  obtain ⟨_, s₃, hcall, h⟩ := (runs_bind _ _).mp h
  obtain ⟨hp₁, hack⟩ := solicitedResponseType_runs htype
  refine ⟨type, hack, ?_⟩
  rw [lock_sem_pending (runs_op_ret.mp h), callResponseFunction_runs hcall, lock_sem_pending hlock,
    hp₁]

/-- **All that a call of `RIL_onRequestComplete` can do to the lists.** It finds no node and does
nothing, or it takes the node that was found out of its list, answers its request and frees it. -/
theorem rilOnRequestComplete_runs (inv : PendingInv cfg s.pending xs) {tok : Option Addr} {r : Unit}
    (h : (rilOnRequestComplete cfg tok e).Runs (RilOp.sem cfg t) s r s') :
    ((∀ a, tok = some a → ∀ l, a ∉ xs l) ∧ s' = s) ∨
      ∃ a l pp type, tok = some a ∧ s.pending.Walks l a (some pp) ∧
        (type = .solicitedAckExp → cfg.version ≥ 13 ∧ (s.pending.info a).wasAckSent = 1) ∧
        s'.pending = s.pending.complete l a pp type e := by
  cases tok with
  | none => exact .inl ⟨nofun, h.2⟩
  | some a =>
    obtain ⟨found, s₁, hcheck, hrest⟩ := (runs_bind _ _).mp h
    rcases checkAndDequeueRequestInfoIfAck_runs inv hcheck with ⟨rfl, hmiss, rfl⟩ | hhit
    · refine .inl ⟨fun b hb => ?_, hrest.2⟩
      obtain rfl : a = b := Option.some.inj hb
      exact hmiss
    obtain ⟨l, pp, rfl, hwalk, rfl⟩ := hhit
    have ha : a ∈ xs l := (inv.dequeued hwalk).1
    -- the node is alive, so what `finishRequest` reads is the request
    obtain ⟨info, _, ⟨_, ⟨hload, rfl⟩, rfl⟩, h⟩ := runs_op_bind.mp hrest
    obtain rfl : info = s.pending.info a := hload (inv.live l a ha)
    rw [if_neg (by rw [(inv.plain l a ha).1]; exact lt_irrefl _),
      if_pos (inv.plain l a ha).2] at h
    obtain ⟨_, s₂, hanswer, h⟩ := (runs_bind _ _).mp h
    obtain ⟨_, rfl, rfl⟩ := runs_op_ret.mp h
    -- the response is sent, and the node is freed
    obtain ⟨type, hack, hp₂⟩ := answerRequest_runs hanswer
    refine .inr ⟨a, l, pp, type, rfl, hwalk, hack, ?_⟩
    show s₂.pending.free a = s.pending.complete l a pp type e
    rw [hp₂]
    rfl

/-- **All that a call of `RIL_onRequestAck` can do to the lists.** It finds no node and does
nothing, or it notes the ack in the node, which stays in its list, and tells the client. -/
theorem rilOnRequestAck_runs (inv : PendingInv cfg s.pending xs) {tok : Option Addr} {r : Unit}
    (h : (rilOnRequestAck cfg tok).Runs (RilOp.sem cfg t) s r s') :
    ((∀ a, tok = some a → ∀ l, a ∉ xs l) ∧ s' = s) ∨
      ∃ a l pp, tok = some a ∧ s.pending.Walks l a (some pp) ∧
        s'.pending = (s.pending.found l a true pp).note (.acknowledge (s.pending.owner a)
          (s.pending.info a).socketId (s.pending.info a).token) := by
  cases tok with
  | none => exact .inl ⟨nofun, h.2⟩
  | some a =>
    -- the flag `wasAckSent` is set by the search
    obtain ⟨found, s₁, hcheck, hrest⟩ := (runs_bind _ _).mp h
    -- an acknowledgement for no pending request is dropped
    rcases checkAndDequeueRequestInfoIfAck_runs inv hcheck with ⟨rfl, hmiss, rfl⟩ | hhit
    · refine .inl ⟨fun b hb => ?_, hrest.2⟩
      obtain rfl : a = b := Option.some.inj hb
      exact hmiss
    obtain ⟨l, pp, rfl, hwalk, rfl⟩ := hhit
    -- the node is still in its list, so it can be read
    have ha : a ∈ xs l := (inv.dequeued hwalk).1
    obtain ⟨info, _, ⟨_, ⟨hload, rfl⟩, rfl⟩, h⟩ := runs_op_bind.mp hrest
    have hinfo : info = { s.pending.info a with wasAckSent := 1 } := by
      rw [hload (inv.live l a ha)]
      exact Function.update_self ..
    rw [if_pos (by rw [hinfo]; exact (inv.plain l a ha).2)] at h
    obtain ⟨_, s₂, hlock, h⟩ := runs_op_bind.mp h
    obtain ⟨_, _, ⟨_, rfl, rfl⟩, h⟩ := runs_op_bind.mp h
    -- nothing but the call to the client is left
    obtain ⟨_, s₃, hcall, h⟩ := (runs_bind _ _).mp h
    refine .inr ⟨a, l, pp, rfl, hwalk, ?_⟩
    rw [lock_sem_pending (runs_op_ret.mp h),
      (messaging_runs acknowledgeRequest_isMessaging hcall).1]
    show s₂.pending.note _ = _
    rw [lock_sem_pending hlock, hinfo]
    rfl

end Tokens

end BlueCommon.Ril
