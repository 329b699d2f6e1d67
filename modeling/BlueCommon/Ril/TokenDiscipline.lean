import BlueCommon.Ril.PendingLists

/-!
# Token discipline

The runs of `addRequestToList`, `RIL_onRequestAck` and `RIL_onRequestComplete`, each in one go, with
any tokens: live ones, `NULL`, tokens that were completed long ago. Between these calls anything but
the pending lists may change.

* `EventOk` is the law of the history: what must have happened before a request is acknowledged,
  completed, answered.
* `TokenInv` connects the history with the lists.
* `token_discipline`: in every run each request that was accepted and not completed sits once, in
  the list of its socket; it is answered at most once, with its own serial and slot; an ack removes
  nothing, a completion removes exactly the node it names.

The proof carries `TokenInv` through the runs (`TokenInv.step`, one case for each function). Its two
directions are what makes tokens safe: a request that is accepted and not completed is in its list,
and what is in a list was neither completed nor answered. So a token that is in no list can do
nothing, however old it is, and one that is in a list names a request that still waits for its
answer.
-/

namespace BlueCommon.Ril

open Interaction Program LinkedList

/-! ### The system -/

/-- The steps: a call of one of the three functions by a thread, or a change of anything else. -/
inductive TokenLabel
  | addRequestToList (t : ℕ) (serial slotId request : ℤ)
  | onRequestAck (t : ℕ) (token : Option Addr)
  | onRequestComplete (t : ℕ) (token : Option Addr) (e : ℤ)
  | environment

/-- One step. -/
def TokenStep (cfg : Config) (s : RilState) : TokenLabel → RilState → Prop
  | .addRequestToList t serial slotId request, s' =>
    ∃ r, (addRequestToList cfg serial slotId request).Runs (RilOp.sem cfg t) s r s'
  | .onRequestAck t token, s' => (rilOnRequestAck cfg token).Runs (RilOp.sem cfg t) s () s'
  | .onRequestComplete t token e, s' =>
    (rilOnRequestComplete cfg token e).Runs (RilOp.sem cfg t) s () s'
  | .environment, s' => s'.pending = s.pending

/-- The runs from empty lists, through calls of the three functions with any tokens and through
anything that leaves the lists alone. -/
def tokenSystem (cfg : Config) : Lts RilState TokenLabel where
  init s := s.pending.Empty
  step := TokenStep cfg

/-! ### The law of the history -/

/-- What must have happened before an event; `past` is newest first.

* A request is accepted once.
* Acks, completions and `acknowledgeRequest` are for a request that was accepted and not completed,
  and `acknowledgeRequest` carries its slot and serial.
* A request is answered with its own slot and serial and was not answered before; the response asks
  for an acknowledgement only if the vendor has version 13 and an ack of this request came first. -/
def EventOk (cfg : Config) (past : List RequestEvent) : RequestEvent → Prop
  | .accept rid _ _ _ => ∀ a slotId token, .accept rid a slotId token ∉ past
  | .ack rid => ∃ r a slotId token, rid = some r ∧ .accept r a slotId token ∈ past ∧
      .complete rid ∉ past
  | .complete rid => ∃ r a slotId token, rid = some r ∧ .accept r a slotId token ∈ past ∧
      .complete rid ∉ past
  | .respond rid slotId type serial _ => ∃ r a, rid = some r ∧ .accept r a slotId serial ∈ past ∧
      (∀ slotId type serial e, .respond rid slotId type serial e ∉ past) ∧
      (type = .solicitedAckExp → cfg.version ≥ 13 ∧ .ack rid ∈ past)
  | .acknowledge rid slotId serial => ∃ r a, rid = some r ∧ .accept r a slotId serial ∈ past ∧
      .complete rid ∉ past

/-- Every event of the history was in order when it happened, which is to say after the events
before it. -/
def LogOk (cfg : Config) (log : List RequestEvent) : Prop :=
  ∀ e past, (e :: past) <:+ log → EventOk cfg past e

variable {cfg : Config} {log : List RequestEvent} {ev : RequestEvent}

theorem logOk_nil : LogOk cfg [] := by
  intro e past h
  exact absurd (List.suffix_nil.mp h) (List.cons_ne_nil _ _)

theorem LogOk.cons (h : LogOk cfg log) (hev : EventOk cfg log ev) : LogOk cfg (ev :: log) := by
  intro e past hsuf
  rcases List.suffix_cons_iff.mp hsuf with heq | hsuf
  · obtain ⟨rfl, rfl⟩ := List.cons.inj heq
    exact hev
  · exact h e past hsuf

/-- An event of the history was in order. -/
theorem LogOk.of_mem (h : LogOk cfg log) (hev : ev ∈ log) :
    ∃ past, (∀ e ∈ past, e ∈ log) ∧ EventOk cfg past ev := by
  obtain ⟨newer, past, rfl⟩ := List.append_of_mem hev
  exact ⟨past, fun e he => List.mem_append_right _ (List.mem_cons_of_mem _ he),
    h ev past (List.suffix_append _ _)⟩

/-! ### The invariant -/

/-- **The invariant of the tokens**: the lists hold exactly the requests that the history says are
pending, and none of these has been answered. -/
structure TokenInv (cfg : Config) (p : Pending) (xs : PendingList → List Addr) : Prop where
  lists : PendingInv cfg p xs
  log : LogOk cfg p.log
  /-- Requests are numbered as they are accepted. -/
  accept_lt : ∀ rid a slotId token, .accept rid a slotId token ∈ p.log → rid < p.accepted
  /-- A request that was accepted and not completed is in the list of its socket. -/
  pending : ∀ rid a slotId token, .accept rid a slotId token ∈ p.log →
    .complete (some rid) ∉ p.log →
    p.owner a = some rid ∧ (p.info a).socketId = slotId ∧ a ∈ xs (addHook cfg slotId)
  /-- A request in a list was neither completed nor answered. -/
  open_ : ∀ l a rid, a ∈ xs l → p.owner a = some rid → .complete (some rid) ∉ p.log ∧
    ∀ slotId type serial e, .respond (some rid) slotId type serial e ∉ p.log
  /-- `wasAckSent` records an ack of the request. -/
  acked : ∀ l a rid, a ∈ xs l → p.owner a = some rid → (p.info a).wasAckSent = 1 →
    .ack (some rid) ∈ p.log

section Invariant

variable {p : Pending} {xs : PendingList → List Addr} {a : Addr} {l : PendingList}
  {pp : Link Addr} {serial slotId request : ℤ}

theorem Pending.Empty.inv (h : p.Empty) : TokenInv cfg p fun _ => [] where
  lists := h.lists
  log := by
    rw [h.log]
    exact logOk_nil
  accept_lt rid a slotId token ha := by
    rw [h.log] at ha
    exact absurd ha List.not_mem_nil
  pending rid a slotId token ha := by
    rw [h.log] at ha
    exact absurd ha List.not_mem_nil
  open_ _ a rid ha := absurd ha List.not_mem_nil
  acked _ a rid ha := absurd ha List.not_mem_nil

namespace TokenInv

/-- The number of a request in the history is below the number of the next one. -/
theorem complete_lt (inv : TokenInv cfg p xs) {rid : ℕ} (h : .complete (some rid) ∈ p.log) :
    rid < p.accepted := by
  obtain ⟨past, hpast, r, a, slotId, token, hr, haccept, -⟩ := inv.log.of_mem h
  rw [Option.some.inj hr]
  exact inv.accept_lt r a slotId token (hpast _ haccept)

theorem respond_lt (inv : TokenInv cfg p xs) {rid : ℕ} {type : ResponseType} {e : ℤ}
    (h : .respond (some rid) slotId type serial e ∈ p.log) : rid < p.accepted := by
  obtain ⟨past, hpast, r, a, hr, haccept, -⟩ := inv.log.of_mem h
  rw [Option.some.inj hr]
  exact inv.accept_lt r a slotId serial (hpast _ haccept)

/-- Accepting a request. Its address was free, so it is in no list, and its number is new, so
nothing in the log is about it. -/
theorem accept (inv : TokenInv cfg p xs) (hfresh : p.live a = false) :
    TokenInv cfg (p.accept cfg a serial slotId request)
      (Function.update xs (addHook cfg slotId) (a :: xs (addHook cfg slotId))) := by
  -- the address was free, so it is in no list
  have hnew : ∀ m, a ∉ xs m := inv.lists.notMem_of_dead hfresh
  -- a node of the new lists is the new one or an old one
  have hmem : ∀ m b, b ∈ Function.update xs (addHook cfg slotId)
      (a :: xs (addHook cfg slotId)) m → (b = a ∨ (b ≠ a ∧ b ∈ xs m)) := by
    intro m b hb
    rcases mem_pushed.mp hb with ⟨-, hba⟩ | hb
    · exact .inl hba
    · exact .inr ⟨fun e => hnew m (e ▸ hb), hb⟩
  -- the new request is open, and nothing in the log is about it
  exact {
    lists := inv.lists.accepted hfresh
    log := by
      rw [accept_log]
      exact inv.log.cons fun b slotId token hb => lt_irrefl _ (inv.accept_lt _ b slotId token hb)
    accept_lt := accept_lt_accepted inv.accept_lt
    pending := fun rid b slotId' token hb hopen => by
      rw [accept_log] at hb hopen
      -- a request that is open now was open before
      have hopen' : RequestEvent.complete (some rid) ∉ p.log :=
        fun hc => hopen (List.mem_cons_of_mem _ hc)
      -- the request is the new one, or one of those that were accepted before
      rcases List.mem_cons.mp hb with heq | hb
      · injection heq with hrid hba hslot
        subst hrid hba hslot
        exact ⟨accept_owner_self, by rw [accept_info_self]; rfl, mem_pushed.mpr (.inl ⟨rfl, rfl⟩)⟩
      · obtain ⟨howner, hslot, hin⟩ := inv.pending rid b slotId' token hb hopen'
        have hba : b ≠ a := fun e => hnew _ (e ▸ hin)
        exact ⟨by rw [accept_owner_of_ne hba, howner], by rw [accept_info_of_ne hba, hslot],
          mem_pushed.mpr (.inr hin)⟩
    open_ := fun m b rid hb howner => by
      rw [accept_log]
      rcases hmem m b hb with rfl | ⟨hba, hb⟩
      · -- nothing has happened to the new request
        rw [accept_owner_self] at howner
        obtain rfl : p.accepted = rid := Option.some.inj howner
        refine ⟨fun hc => ?_, fun slot type ser e hr => ?_⟩
        · exact lt_irrefl _ (inv.complete_lt (by simpa using hc))
        · exact lt_irrefl _ (inv.respond_lt (by simpa using hr))
      · rw [accept_owner_of_ne hba] at howner
        obtain ⟨hc, hr⟩ := inv.open_ m b rid hb howner
        exact ⟨fun h => hc (by simpa using h), fun slot type ser e h =>
          hr slot type ser e (by simpa using h)⟩
    acked := fun m b rid hb howner hack => by
      rw [accept_log]
      -- the new request has not been acknowledged
      rcases hmem m b hb with rfl | ⟨hba, hb⟩
      · rw [accept_info_self] at hack
        exact absurd (show (0 : ℤ) = 1 from hack) (by decide)
      · rw [accept_owner_of_ne hba] at howner
        rw [accept_info_of_ne hba] at hack
        exact List.mem_cons_of_mem _ (inv.acked m b rid hb howner hack) }

/-- An event that accepts nothing and neither completes nor answers a request of a list. -/
theorem note (inv : TokenInv cfg p xs) (hev : EventOk cfg p.log ev)
    (haccept : ∀ rid b slotId token, ev ≠ .accept rid b slotId token)
    (hopen : ∀ l b rid, b ∈ xs l → p.owner b = some rid → ev ≠ .complete (some rid) ∧
      ∀ slotId type serial e, ev ≠ .respond (some rid) slotId type serial e) :
    TokenInv cfg (p.note ev) xs := by
  -- the event is no acceptance, so the requests are those of before
  have hold : ∀ {rid b slotId token}, .accept rid b slotId token ∈ (p.note ev).log →
      .accept rid b slotId token ∈ p.log := fun h =>
    (List.mem_cons.mp h).resolve_left fun e => haccept _ _ _ _ e.symm
  -- an event that neither accepts nor ends a request keeps it all
  exact {
    lists := inv.lists.note ev
    log := inv.log.cons hev
    accept_lt := fun rid b slotId token hb => inv.accept_lt rid b slotId token (hold hb)
    pending := fun rid b slotId token hb hc =>
      inv.pending rid b slotId token (hold hb) fun h => hc (List.mem_cons_of_mem _ h)
    -- neither the end nor the answer of a request in a list is recorded
    open_ := fun m b rid hb howner => by
      obtain ⟨hc, hr⟩ := inv.open_ m b rid hb howner
      obtain ⟨hc', hr'⟩ := hopen m b rid hb howner
      exact ⟨fun h => hc ((List.mem_cons.mp h).resolve_left fun e => hc' e.symm),
        fun slot type ser e h =>
          hr slot type ser e ((List.mem_cons.mp h).resolve_left fun e => hr' _ _ _ _ e.symm)⟩
    acked := fun m b rid hb howner hack =>
      List.mem_cons_of_mem _ (inv.acked m b rid hb howner hack) }

/-- A node of a list belongs to a request that was accepted, and neither completed nor answered. -/
theorem open_request (inv : TokenInv cfg p xs) (ha : a ∈ xs l) : ∃ rid, p.owner a = some rid ∧
    .accept rid a (p.info a).socketId (p.info a).token ∈ p.log ∧
    .complete (p.owner a) ∉ p.log ∧
    ∀ slotId type serial e, .respond (p.owner a) slotId type serial e ∉ p.log := by
  obtain ⟨rid, howner, haccept⟩ := inv.lists.owned l a ha
  obtain ⟨hc, hr⟩ := inv.open_ l a rid ha howner
  rw [howner]
  exact ⟨rid, rfl, haccept, hc, hr⟩

/-- An ack that finds its request. A request in a list is open, and it stays in its list; the
acknowledgement is recorded after the flag has changed. -/
theorem ack (inv : TokenInv cfg p xs) (ha : a ∈ xs l) :
    TokenInv cfg ((p.found l a true pp).note
      (.acknowledge (p.owner a) (p.info a).socketId (p.info a).token)) xs := by
  -- a request in the list is open
  obtain ⟨rid, howner, haccept, hc, -⟩ := inv.open_request ha
  -- only the flag `wasAckSent` changes
  have hsocket : ∀ b, ((p.found l a true pp).info b).socketId = (p.info b).socketId := by
    intro b
    rcases eq_or_ne b a with rfl | hba
    · simp [Pending.found]
    · simp [Pending.found, hba]
  have hfound : TokenInv cfg (p.found l a true pp) xs := {
    lists := inv.lists.acked pp
    log := inv.log.cons ⟨rid, a, _, _, howner, haccept, hc⟩
    accept_lt := fun r b slotId token hb => inv.accept_lt r b slotId token (by
      simpa [Pending.found] using hb)
    -- what is accepted and not completed is in its list still
    pending := fun r b slotId token hb hopen => by
      rw [hsocket b]
      refine inv.pending r b slotId token (by simpa [Pending.found] using hb) fun h => hopen ?_
      exact List.mem_cons_of_mem _ h
    open_ := fun m b r hb hown => by
      obtain ⟨hcb, hrb⟩ := inv.open_ m b r hb hown
      exact ⟨fun h => hcb (by simpa [Pending.found] using h),
        fun slot type ser e h => hrb slot type ser e (by simpa [Pending.found] using h)⟩
    acked := fun m b r hb hown hack => by
      have hown : p.owner b = some r := hown
      rcases eq_or_ne b a with rfl | hba
      · -- the ack that has just been recorded
        rw [← hown]
        exact List.mem_cons_self
      · refine List.mem_cons_of_mem _ (inv.acked m b r hb hown ?_)
        simpa [Pending.found, hba] using hack }
  -- the acknowledgement is recorded behind the change of the flag
  refine hfound.note ⟨rid, a, howner, List.mem_cons_of_mem _ haccept, ?_⟩ (by simp) (by simp)
  intro h
  exact hc (by simpa [Pending.found] using h)

/-- A completion that finds its request. The request was open and had no response; its node leaves
the list, and the nodes that are left are those of other requests. -/
theorem complete (inv : TokenInv cfg p xs) (hwalk : p.Walks l a (some pp)) {type : ResponseType}
    {e : ℤ} (htype : type = .solicitedAckExp → cfg.version ≥ 13 ∧ (p.info a).wasAckSent = 1) :
    TokenInv cfg (p.complete l a pp type e) fun m => (xs m).erase a := by
  -- the request that was found is open, and its node leaves the list
  obtain ⟨ha, hlists⟩ := inv.lists.dequeued hwalk
  obtain ⟨rid, howner, haccept, hc, hr⟩ := inv.open_request ha
  have hout : ∀ m, a ∉ (xs m).erase a := fun m => (inv.lists.nodup m).not_mem_erase
  -- the nodes that are left are those of other requests
  have hold : ∀ m b, b ∈ (xs m).erase a → b ∈ xs m ∧ p.owner b ≠ p.owner a := by
    intro m b hb
    refine ⟨List.mem_of_mem_erase hb, fun h => ?_⟩
    have hba : b = a := inv.lists.eq_of_owner (List.mem_of_mem_erase hb) h
    exact hout m (hba ▸ hb)
  have hfound : TokenInv cfg (p.found l a false pp) fun m => (xs m).erase a := {
    lists := hlists
    log := inv.log.cons ⟨rid, a, _, _, howner, haccept, hc⟩
    accept_lt := fun r b slotId token hb => inv.accept_lt r b slotId token (by
      simpa [Pending.found] using hb)
    pending := fun r b slotId token hb hopen => by
      obtain ⟨hown, hslot, hin⟩ := inv.pending r b slotId token (by simpa [Pending.found] using hb)
        fun h => hopen (List.mem_cons_of_mem _ h)
      refine ⟨hown, hslot, (List.mem_erase_of_ne ?_).mpr hin⟩
      rintro rfl
      -- the request of `a` has just been completed
      refine hopen ?_
      rw [← hown]
      exact List.mem_cons_self
    -- of the requests that are left none was ended by this step
    open_ := fun m b r hb hown => by
      have hown : p.owner b = some r := hown
      obtain ⟨hb', hne⟩ := hold m b hb
      obtain ⟨hcb, hrb⟩ := inv.open_ m b r hb' hown
      refine ⟨fun h => ?_, fun slot type ser e h => hrb slot type ser e (by
        simpa [Pending.found] using h)⟩
      rcases List.mem_cons.mp h with h | h
      · injection h with h
        exact hne (hown.trans h)
      · exact hcb h
    acked := fun m b r hb hown hack =>
      List.mem_cons_of_mem _ (inv.acked m b r (hold m b hb).1 hown hack) }
  -- the request had no response before this one
  have hnote : TokenInv cfg ((p.found l a false pp).note
      (.respond (p.owner a) (p.info a).socketId type (p.info a).token e))
      fun m => (xs m).erase a := by
    -- the answer goes to the request that owns the node, and with the type it should have
    refine hfound.note ⟨rid, a, howner, List.mem_cons_of_mem _ haccept, ?_, fun ht => ?_⟩
      (by simp) ?_
    · intro slot ty ser e' h
      exact hr slot ty ser e' (by simpa [Pending.found] using h)
    · -- an answer that asks for an acknowledgement comes after one that was given
      obtain ⟨hversion, hack⟩ := htype ht
      refine ⟨hversion, List.mem_cons_of_mem _ ?_⟩
      rw [howner]
      exact inv.acked l a rid ha howner hack
    · -- the requests that are left are not the one that was answered
      intro m b r hb hown
      refine ⟨by simp, fun slot ty ser e' h => ?_⟩
      injection h with h
      exact (hold m b hb).2 (hown.trans h.symm)
  -- the node is freed, which no list notices
  exact {
    lists := hnote.lists.free hout
    log := hnote.log
    accept_lt := hnote.accept_lt
    pending := hnote.pending
    open_ := hnote.open_
    acked := hnote.acked }

end TokenInv

end Invariant

/-! ### Runs -/

/-- Each request that was accepted and not completed is in exactly one list, the one its `socket_id`
selects, and occurs there once; the lists hold nothing else. -/
structure RequestsListed (cfg : Config) (p : Pending) (xs : PendingList → List Addr) : Prop where
  path : ∀ l, Path p.next (p.head l) (xs l) none
  listed : ∀ rid a slotId token, .accept rid a slotId token ∈ p.log →
    .complete (some rid) ∉ p.log →
    p.owner a = some rid ∧ (p.info a).socketId = slotId ∧ (xs (addHook cfg slotId)).count a = 1 ∧
      ∀ l, l ≠ addHook cfg slotId → a ∉ xs l
  of_mem : ∀ l, ∀ a ∈ xs l, l = addHook cfg (p.info a).socketId ∧ ∃ rid, p.owner a = some rid ∧
    .accept rid a (p.info a).socketId (p.info a).token ∈ p.log ∧ .complete (some rid) ∉ p.log

theorem TokenInv.requestsListed {p : Pending} {xs : PendingList → List Addr}
    (inv : TokenInv cfg p xs) : RequestsListed cfg p xs where
  path := inv.lists.path
  listed rid a slotId token haccept hopen := by
    obtain ⟨howner, hslot, hin⟩ := inv.pending rid a slotId token haccept hopen
    refine ⟨howner, hslot, ?_, fun l hl hm => hl (inv.lists.eq_list hm hin)⟩
    exact List.count_eq_one_of_mem (inv.lists.nodup _) hin
  of_mem l a ha := by
    obtain ⟨rid, howner, haccept, hc, -⟩ := inv.open_request ha
    exact ⟨(inv.lists.hook l a ha).symm, rid, howner, haccept, howner ▸ hc⟩

/-- What a step does to the lists. A token that is in no list changes nothing at all, so that no
message is produced either. -/
def StepOk (cfg : Config) (s s' : RilState) (xs xs' : PendingList → List Addr) :
    TokenLabel → Prop
  | .addRequestToList _ _ slotId _ => xs' = xs ∨ ∃ a, (∀ l, a ∉ xs l) ∧
      xs' = Function.update xs (addHook cfg slotId) (a :: xs (addHook cfg slotId))
  | .onRequestAck _ token => xs' = xs ∧ ((∀ a, token = some a → ∀ l, a ∉ xs l) → s' = s)
  | .onRequestComplete _ token _ =>
    (∀ a, token = some a → ∀ l, xs' l = (xs l).erase a) ∧
      ((∀ a, token = some a → ∀ l, a ∉ xs l) → xs' = xs ∧ s' = s)
  | .environment => xs' = xs

/-- One step keeps the invariant and does to the lists what it should. A token is found in one of
the lists or in none, and in the second case nothing happens. -/
theorem TokenInv.step {s s' : RilState} {xs : PendingList → List Addr} {l : TokenLabel}
    (inv : TokenInv cfg s.pending xs) (hstep : (tokenSystem cfg).step s l s') :
    ∃ xs', TokenInv cfg s'.pending xs' ∧ StepOk cfg s s' xs xs' l := by
  cases l with
  | addRequestToList t serial slotId request =>
    obtain ⟨r, hruns⟩ := hstep
    -- a request that finds no memory leaves everything as it is
    rcases addRequestToList_runs hruns with ⟨-, rfl⟩ | ⟨a, -, hfresh, rfl⟩
    · exact ⟨xs, inv, .inl rfl⟩
    · exact ⟨_, inv.accept hfresh, .inr ⟨a, inv.lists.notMem_of_dead hfresh, rfl⟩⟩
  | onRequestAck t token =>
    -- the token is found in one of the lists or in none
    rcases rilOnRequestAck_runs inv.lists hstep with ⟨-, rfl⟩ | ⟨a, m, pp, rfl, hwalk, hp⟩
    · exact ⟨xs, inv, rfl, fun _ => rfl⟩
    · have ha : a ∈ xs m := (inv.lists.dequeued hwalk).1
      exact ⟨xs, hp ▸ inv.ack ha, rfl, fun hmiss => absurd ha (hmiss a rfl m)⟩
  | onRequestComplete t token e =>
    -- the same for the end of a request
    rcases rilOnRequestComplete_runs inv.lists hstep with ⟨hmiss, rfl⟩ |
      ⟨a, m, pp, type, rfl, hwalk, htype, hp⟩
    · refine ⟨xs, inv, fun a ha l => ?_, fun _ => ⟨rfl, rfl⟩⟩
      exact (List.erase_of_not_mem (hmiss a ha l)).symm
    · have ha : a ∈ xs m := (inv.lists.dequeued hwalk).1
      refine ⟨_, hp ▸ inv.complete hwalk htype, fun b hb l => ?_, fun hmiss => ?_⟩
      · rw [Option.some.inj hb]
      · exact absurd ha (hmiss a rfl m)
  | environment =>
    have hp : s'.pending = s.pending := hstep
    exact ⟨xs, hp ▸ inv, rfl⟩

theorem TokenInv.reachable {s : RilState} (h : (tokenSystem cfg).Reachable s) :
    ∃ xs, TokenInv cfg s.pending xs := by
  refine @Lts.Reachable.invariant _ _ _ (fun s => ∃ xs, TokenInv cfg s.pending xs)
    (fun s hs => ⟨_, Pending.Empty.inv hs⟩) (fun s l s' hs hstep => ?_) s h
  obtain ⟨xs, inv⟩ := hs
  obtain ⟨xs', inv', -⟩ := inv.step hstep
  exact ⟨xs', inv'⟩

/-- **Token discipline of the pending lists.** In every reachable state, whatever the tokens and
their order were, the lists hold each pending request once and in its place, the history is in order
(at most one answer to a request, with its own serial and slot; acknowledgements only of requests in
their lists; `SOLICITED_ACK_EXP` only after an ack), and every step does to the lists what it
should. -/
theorem token_discipline {s : RilState} (h : (tokenSystem cfg).Reachable s) :
    ∃ xs, RequestsListed cfg s.pending xs ∧ LogOk cfg s.pending.log ∧
      ∀ l s', (tokenSystem cfg).step s l s' →
        ∃ xs', RequestsListed cfg s'.pending xs' ∧ LogOk cfg s'.pending.log ∧
          StepOk cfg s s' xs xs' l := by
  obtain ⟨xs, inv⟩ := TokenInv.reachable h
  refine ⟨xs, inv.requestsListed, inv.log, fun l s' hstep => ?_⟩
  obtain ⟨xs', inv', hok⟩ := inv.step hstep
  exact ⟨xs', inv'.requestsListed, inv'.log, hok⟩

/-! ### A first request -/

/-- The state after the second slot has asked for the SIM status with serial 7; the node is at
address 1. -/
def RilState.firstRequest : RilState :=
  { RilState.start with
    pending := RilState.start.pending.accept .dual 1 7 1 Request.getSimStatus }

theorem RilState.firstRequest_reachable :
    (tokenSystem .dual).Reachable RilState.firstRequest := by
  refine @Lts.Reachable.step _ _ _ RilState.start _ (.addRequestToList 0 7 1 Request.getSimStatus)
    (.init ⟨fun _ => rfl, fun _ => rfl, rfl⟩) ⟨some 1, ?_⟩
  exact ⟨some 1, _, ⟨_, ⟨rfl, rfl⟩, rfl⟩, (), _, ⟨_, rfl, rfl⟩, (), _, ⟨_, rfl, rfl⟩, rfl, rfl⟩

theorem token_discipline_firstRequest :
    ∃ xs, RequestsListed .dual RilState.firstRequest.pending xs ∧
      LogOk .dual RilState.firstRequest.pending.log ∧
      ∀ l s', (tokenSystem .dual).step RilState.firstRequest l s' →
        ∃ xs', RequestsListed .dual s'.pending xs' ∧ LogOk .dual s'.pending.log ∧
          StepOk .dual RilState.firstRequest s' xs xs' l :=
  token_discipline RilState.firstRequest_reachable

end BlueCommon.Ril
