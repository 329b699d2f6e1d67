import BlueCommon.Ril.RequestEffects

/-!
# Manual network selection

`dispatchStrings` completes a manual network selection itself, with a success, as soon as
`onRequest` has returned; the vendor has the same token and may complete it too, inside `onRequest`,
later or never. A token is the address of the request's node, and the address of a freed node may be
handed out again. The runs below add to those of the entry points who holds which token, so that one
can say for which request a completion is meant.

* `ManualExact`: a token of a manual selection answers and removes no request but its own, and the
  selection is answered at most once, exactly once when its method is done with it.
* `manualExact_iff_tokenCurrent`: this holds throughout a run exactly when every completion of such
  a token comes while its address does not hold another request.
* `fakeSuccess_answers_other_request`: a vendor that completes inside `onRequest` is enough to break
  it.

`ManualInv` follows each token from the method that made it to the vendor and back: as long as
nothing was answered through it, its address holds its own request. A completion while the address
holds no other request keeps this, one phase of the thread at a time (`ManualPoolInv.step`). A
completion while it holds another one records a response of that one as caused by the token
(`not_manualExact`). `Lts.good_iff_ok` makes the equivalence over runs out of the two.
-/

namespace BlueCommon.Ril

open Interaction Program LinkedList

/-! ### Tokens -/

/-- History of the tokens. `request` is the number of each accepted request in `s_commands`, `own t`
the request that the method of the thread `t` is dealing with, `given` are the tokens that the
vendor has got and not completed, each with the request it got it for, and `caused` is what
completions did: the request of the token and the event. -/
structure Tokens where
  request : ℕ → ℤ
  own : ℕ → Option (ℕ × Addr)
  given : List (ℕ × Addr)
  caused : List (ℕ × RequestEvent)

/-- The request is a manual network selection. -/
def Tokens.Manual (tk : Tokens) (rid : ℕ) : Prop :=
  tk.request rid = Request.setNetworkSelectionManual

instance (tk : Tokens) (rid : ℕ) : Decidable (tk.Manual rid) :=
  inferInstanceAs (Decidable (_ = _))

theorem Tokens.manual_congr {tk tk' : Tokens} {rid : ℕ} (h : tk'.request rid = tk.request rid) :
    tk'.Manual rid ↔ tk.Manual rid := by
  unfold Tokens.Manual
  rw [h]

/-- The completion of a token of the request `rid` has these events. -/
def Tokens.cause (tk : Tokens) (rid : ℕ) (p p' : Pending) : Tokens :=
  { tk with caused := (newEvents p p').map (rid, ·) ++ tk.caused }

/-- The thread is done with its request. -/
def Tokens.drop (tk : Tokens) (t : ℕ) : Tokens := { tk with own := Function.update tk.own t none }

/-- The vendor gets the token of the request of the thread `t`. The method is then done with it,
unless it is a manual selection. -/
def Tokens.give (tk : Tokens) (t : ℕ) (pRI : Addr) : Tokens :=
  match tk.own t with
  | none => tk
  | some (rid, _) =>
    { tk with
      given := (rid, pRI) :: tk.given
      own := if tk.Manual rid then tk.own else Function.update tk.own t none }

/-- The tokens after a call of the thread `t` that has taken the pending lists from `p` to `p'`. -/
def Tokens.after (tk : Tokens) (t : ℕ) (p p' : Pending) : (o : EntryOp) → o.Res → Tokens
  | .addRequestToList _ _ request, some a =>
    { tk with
      request := Function.update tk.request p.accepted request
      own := Function.update tk.own t (some (p.accepted, a)) }
  | .sendErrorResponse .., _ => tk.drop t
  | .onRequest _ _ pRI _, _ => tk.give t pRI
  | .onRequestComplete .., _ =>
    match tk.own t with
    | none => tk
    | some (rid, _) => (tk.cause rid p p').drop t
  | .vendorComplete rid a _, _ => { tk.cause rid p p' with given := tk.given.erase (rid, a) }
  | _, _ => tk

/-- The state of libril with the history of the tokens: to which request a token was given, and
which answer it has caused. -/
structure ManualState where
  ril : RilState
  tokens : Tokens

/-- The calls with the history of the tokens. The vendor completes only tokens that it has got, each
at most once. -/
def manualSem (cfg : Config) (t : ℕ) : Semantics entrySignature ManualState := fun o r s s' =>
  entrySem cfg t o r s.ril s'.ril ∧
    s'.tokens = s.tokens.after t s.ril.pending s'.ril.pending o r ∧
    ∀ rid a e, o = .vendorComplete rid a e → (rid, a) ∈ s.tokens.given

/-- No request has been accepted, and the vendor has no token. -/
structure ManualState.Initial (s : ManualState) : Prop where
  pending : s.ril.pending.Empty
  own : ∀ t, s.tokens.own t = none
  given : s.tokens.given = []
  caused : s.tokens.caused = []

/-- The runs of the entry points and the vendor, in which the vendor may complete any token that it
was given and has not completed. -/
def manualSystem (cfg : Config) :
    Lts (Pool entrySignature ManualState) (PoolLabel entrySignature) :=
  pool ManualState.Initial (manualSem cfg) fun _ _ p => MayRun cfg p

/-! ### The property -/

/-- **Manual selections are answered alone and once.** What a token of a manual selection causes is
about its own request; every answer has the serial of its request; a manual selection has one answer
at most, and has it once nobody holds its token any more. -/
structure ManualExact (s : ManualState) : Prop where
  /-- A token of a manual selection answers and removes no other request. -/
  caused : ∀ rid ev, (rid, ev) ∈ s.tokens.caused → s.tokens.Manual rid → ev.request = some rid
  /-- A response carries the slot and the serial that its request was accepted with. -/
  serial : ∀ rid slotId type serial e,
    .respond (some rid) slotId type serial e ∈ s.ril.pending.log →
    ∃ a, .accept rid a slotId serial ∈ s.ril.pending.log
  /-- A manual selection is answered at most once. -/
  once : ∀ rid a slotId serial, .accept rid a slotId serial ∈ s.ril.pending.log →
    s.tokens.Manual rid → responses s.ril.pending.log rid ≤ 1
  /-- It has been answered when its method is done with it. -/
  answered : ∀ rid a slotId serial, .accept rid a slotId serial ∈ s.ril.pending.log →
    s.tokens.Manual rid → (∀ t b, s.tokens.own t ≠ some (rid, b)) →
    responses s.ril.pending.log rid = 1

/-- The address holds no request of a list but `rid`. -/
def Pending.HoldsOnly (p : Pending) (a : Addr) (rid : ℕ) : Prop :=
  p.Listed a → p.owner a = some rid

/-- The step is not a completion of a token of a manual selection whose address holds another
request. -/
def TokenCurrent (s : ManualState) : PoolLabel entrySignature → Prop
  | .op t (.onRequestComplete a _) _ => ∀ rid b, s.tokens.own t = some (rid, b) →
    s.tokens.Manual rid → s.ril.pending.HoldsOnly a rid
  | .op _ (.vendorComplete rid a _) _ => s.tokens.Manual rid → s.ril.pending.HoldsOnly a rid
  | _ => True

/-! ### The invariant -/

/-- What a thread in a phase knows of its request. -/
def ThreadOk (p : Pending) (xs : PendingList → List Addr) (tk : Tokens) (t : ℕ) :
    RequestPhase → Prop
  | .idle => tk.own t = none
  | .accepted a request => ∃ rid, tk.own t = some (rid, a) ∧ tk.request rid = request ∧
      RequestOpen p xs rid a ∧ ∀ b, (rid, b) ∉ tk.given
  | .handed a => ∃ rid, tk.own t = some (rid, a) ∧ tk.Manual rid ∧
      (RequestOpen p xs rid a ∨ RequestClosed p xs rid)

/-- **The invariant of the tokens.** `gh` are the phases of the threads. -/
structure ManualInv (cfg : Config) (s : ManualState) (gh : ℕ → RequestPhase)
    (xs : PendingList → List Addr) : Prop where
  base : ResponseInv cfg s.ril.pending xs
  thread : ∀ t, ThreadOk s.ril.pending xs s.tokens t (gh t)
  /-- A request belongs to one thread. -/
  own_inj : ∀ t u rid a b, s.tokens.own t = some (rid, a) → s.tokens.own u = some (rid, b) → t = u
  /-- What the vendor has got waits for its answer; only a manual selection may have had it. -/
  given : ∀ rid a, (rid, a) ∈ s.tokens.given → RequestOpen s.ril.pending xs rid a ∨
    (s.tokens.Manual rid ∧ RequestClosed s.ril.pending xs rid)
  given_nodup : (s.tokens.given.map Prod.fst).Nodup
  /-- A manual selection that no thread deals with was answered. -/
  answered : ∀ rid a slotId serial, .accept rid a slotId serial ∈ s.ril.pending.log →
    s.tokens.Manual rid → (∀ t b, s.tokens.own t ≠ some (rid, b)) →
    responses s.ril.pending.log rid = 1
  caused : ∀ rid ev, (rid, ev) ∈ s.tokens.caused → s.tokens.Manual rid → ev.request = some rid
  caused_lt : ∀ rid ev, (rid, ev) ∈ s.tokens.caused → rid < s.ril.pending.accepted

section Invariant

variable {cfg : Config} {p p' : Pending} {xs xs' : PendingList → List Addr} {tk tk' : Tokens}
  {s : ManualState} {gh : ℕ → RequestPhase} {t : ℕ}

/-- A thread whose request is kept. -/
theorem ThreadOk.keep {g : RequestPhase} (h : ThreadOk p xs tk t g)
    (hown : tk'.own t = tk.own t) (hrequest : ∀ rid a, tk.own t = some (rid, a) →
      RequestKept p xs p' xs' rid ∧ tk'.request rid = tk.request rid ∧
      ((∀ b, (rid, b) ∉ tk.given) → ∀ b, (rid, b) ∉ tk'.given)) :
    ThreadOk p' xs' tk' t g := by
  cases g with
  | idle => exact hown.trans h
  | accepted a request =>
    obtain ⟨rid, howner, hnumber, hopen, hgiven⟩ := h
    obtain ⟨hkept, hsame, hfree⟩ := hrequest rid a howner
    exact ⟨rid, hown.trans howner, hsame.trans hnumber, hkept.open_ a hopen, hfree hgiven⟩
  | handed a =>
    obtain ⟨rid, howner, hmanual, hstate⟩ := h
    obtain ⟨hkept, hsame, -⟩ := hrequest rid a howner
    exact ⟨rid, hown.trans howner, hsame.trans hmanual, hstate.imp (hkept.open_ a) hkept.closed⟩

/-- A step is about the request `rid` alone: it keeps the others, and a thread whose request or
phase it changes deals with no other one, before and after. -/
structure AboutRequest (s : ManualState) (gh : ℕ → RequestPhase) (xs : PendingList → List Addr)
    (s' : ManualState) (gh' : ℕ → RequestPhase) (xs' : PendingList → List Addr) (rid : ℕ) :
    Prop where
  le : s.ril.pending.accepted ≤ s'.ril.pending.accepted
  kept : ∀ q, q < s.ril.pending.accepted → q ≠ rid →
    RequestKept s.ril.pending xs s'.ril.pending xs' q
  accept : ∀ q b slotId serial, q ≠ rid → .accept q b slotId serial ∈ s'.ril.pending.log →
    .accept q b slotId serial ∈ s.ril.pending.log
  request : ∀ q, q < s.ril.pending.accepted → s'.tokens.request q = s.tokens.request q
  thread : ∀ u, ((∀ b, s.tokens.own u ≠ some (rid, b)) ∧ s'.tokens.own u = s.tokens.own u ∧
      gh' u = gh u) ∨
    ((∀ q b, s.tokens.own u = some (q, b) → q = rid) ∧
      (∀ q b, s'.tokens.own u = some (q, b) → q = rid) ∧
      ThreadOk s'.ril.pending xs' s'.tokens u (gh' u))
  own_inj : ∀ u v b c, s'.tokens.own u = some (rid, b) → s'.tokens.own v = some (rid, c) → u = v
  given : ∀ q b, (q, b) ∈ s'.tokens.given → (q ≠ rid ∧ (q, b) ∈ s.tokens.given) ∨
    (q = rid ∧ (RequestOpen s'.ril.pending xs' rid b ∨
      (s'.tokens.Manual rid ∧ RequestClosed s'.ril.pending xs' rid)))
  given_nodup : (s'.tokens.given.map Prod.fst).Nodup
  answered : ∀ b slotId serial, .accept rid b slotId serial ∈ s'.ril.pending.log →
    s'.tokens.Manual rid → (∀ t c, s'.tokens.own t ≠ some (rid, c)) →
    responses s'.ril.pending.log rid = 1
  caused : ∀ q ev, (q, ev) ∈ s'.tokens.caused → (q, ev) ∈ s.tokens.caused ∨
    (q = rid ∧ rid < s'.ril.pending.accepted ∧ ev.request = some rid)

namespace ManualInv

/-- The request of a thread. -/
theorem own_state (inv : ManualInv cfg s gh xs) {rid : ℕ} {a : Addr}
    (h : s.tokens.own t = some (rid, a)) :
    RequestOpen s.ril.pending xs rid a ∨
      (s.tokens.Manual rid ∧ RequestClosed s.ril.pending xs rid) := by
  have ht := inv.thread t
  -- by what the thread is doing
  cases hg : gh t with
  | idle =>
    rw [hg] at ht
    exact absurd (h.symm.trans ht) nofun
  -- its request was accepted and is still open
  | accepted b request =>
    rw [hg] at ht
    obtain ⟨q, hq, -, hopen, -⟩ := ht
    obtain ⟨rfl, rfl⟩ : rid = q ∧ a = b := by simpa using h.symm.trans hq
    exact .inl hopen
  -- its request was handed over: open, or closed by the manual selection
  | handed b =>
    rw [hg] at ht
    obtain ⟨q, hq, hmanual, hstate⟩ := ht
    obtain ⟨rfl, rfl⟩ : rid = q ∧ a = b := by simpa using h.symm.trans hq
    exact hstate.imp_right fun hclosed => ⟨hmanual, hclosed⟩

theorem state_lt (inv : ManualInv cfg s gh xs) {rid : ℕ} {a : Addr}
    (h : RequestOpen s.ril.pending xs rid a ∨
      (s.tokens.Manual rid ∧ RequestClosed s.ril.pending xs rid)) :
    rid < s.ril.pending.accepted := by
  rcases h with hopen | ⟨-, hclosed⟩
  · exact hopen.lt inv.base.lists
  · exact hclosed.lt

/-- The invariant implies the property. -/
theorem exact (inv : ManualInv cfg s gh xs) : ManualExact s where
  caused := inv.caused
  serial := inv.base.serial
  answered := inv.answered
  once rid a slotId serial haccept hmanual := by
    by_cases hown : ∃ t b, s.tokens.own t = some (rid, b)
    · obtain ⟨t, b, ht⟩ := hown
      rcases inv.own_state ht with hopen | ⟨-, hclosed⟩
      · rw [hopen.unanswered]
        exact Nat.zero_le 1
      · exact le_of_eq hclosed.once
    · refine le_of_eq (inv.answered rid a slotId serial haccept hmanual fun t b ht => ?_)
      exact hown ⟨t, b, ht⟩

/-- The invariant holds at the beginning. Nothing is pending, and nothing was accepted, given to the
vendor or caused. -/
theorem initial (h : s.Initial) : ManualInv cfg s (fun _ => .idle) fun _ => [] where
  base := {
    -- nothing is pending at the start
    lists := h.pending.lists
    accept_lt := fun rid a slotId token ha => by
      rw [h.pending.log] at ha
      exact absurd ha List.not_mem_nil
    serial := fun rid slotId type serial e he => by
      rw [h.pending.log] at he
      exact absurd he List.not_mem_nil }
  thread := h.own
  -- nothing was accepted, given or caused
  own_inj t _ _ _ _ ht := absurd ((h.own t).symm.trans ht) nofun
  given rid a ha := by
    rw [h.given] at ha
    exact absurd ha List.not_mem_nil
  given_nodup := by
    rw [h.given]
    exact List.nodup_nil
  answered rid a slotId serial ha := by
    rw [h.pending.log] at ha
    exact absurd ha List.not_mem_nil
  caused rid ev hev := by
    rw [h.caused] at hev
    exact absurd hev List.not_mem_nil
  caused_lt rid ev hev := by
    rw [h.caused] at hev
    exact absurd hev List.not_mem_nil

section Steps

variable {s' : ManualState} {o : EntryOp} {r : o.Res}

/-- The request of another thread is another request. -/
theorem own_ne (inv : ManualInv cfg s gh xs) {u : ℕ} (hut : u ≠ t) {rid q : ℕ} {a b : Addr}
    (ht : s.tokens.own t = some (rid, a)) (hu : s.tokens.own u = some (q, b)) : q ≠ rid := by
  rintro rfl
  exact hut (inv.own_inj u t q b a hu ht)

/-- A call that touches no request and no token. What each thread knows of its request is about
counts that did not change, and the blocks that were given out are open or closed as before. -/
theorem quiet (inv : ManualInv cfg s gh xs) (hbase : ResponseInv cfg s'.ril.pending xs')
    (heffect : RequestEffect s.ril.pending xs o r s'.ril.pending xs')
    (haccepts : o.accepts r = none) (hcompletes : o.completes = none) (hrefuses : o.refuses = none)
    (htokens : s'.tokens = s.tokens) : ManualInv cfg s' gh xs' := by
  -- the call neither completes nor refuses a request
  have hkept : ∀ rid, rid < s.ril.pending.accepted →
      RequestKept s.ril.pending xs s'.ril.pending xs' rid :=
    fun _ => heffect.kept_of_none hcompletes hrefuses
  exact {
    base := hbase
    -- what the thread knows of its request is about counts that did not change
    thread := fun u => (inv.thread u).keep (by rw [htokens]) fun rid a hu =>
      ⟨hkept rid (inv.state_lt (inv.own_state hu)), by rw [htokens], by
        rw [htokens]
        exact fun h => h⟩
    own_inj := by
      rw [htokens]
      exact inv.own_inj
    -- the block that was given out is open or closed as before
    given := fun rid a ha => by
      rw [htokens] at ha ⊢
      have hk := hkept rid (inv.state_lt (inv.given rid a ha))
      exact (inv.given rid a ha).imp (hk.open_ a) fun h => ⟨h.1, hk.closed h.2⟩
    given_nodup := by
      rw [htokens]
      exact inv.given_nodup
    -- no answer came or went
    answered := fun rid a slotId serial haccept hmanual hown => by
      rw [htokens] at hmanual hown
      have hold := heffect.accept_of_none haccepts haccept
      rw [(hkept rid (inv.base.accept_lt rid a slotId serial hold)).count]
      exact inv.answered rid a slotId serial hold hmanual hown
    caused := by
      rw [htokens]
      exact inv.caused
    caused_lt := fun rid ev hev => by
      rw [htokens] at hev
      exact lt_of_lt_of_le (inv.caused_lt rid ev hev) heffect.le }

/-- **A step about one request** keeps the invariant. Each thread deals with this request or with
another one, and what concerns the others is kept; an answer was caused by an earlier step or by
this one. -/
theorem about (inv : ManualInv cfg s gh xs) (hbase : ResponseInv cfg s'.ril.pending xs') {rid : ℕ}
    {gh' : ℕ → RequestPhase} (h : AboutRequest s gh xs s' gh' xs' rid) :
    ManualInv cfg s' gh' xs' where
  base := hbase
  -- each thread deals with this request or with another one
  thread u := by
    rcases h.thread u with ⟨hne, hown, hgh⟩ | ⟨-, -, hok⟩
    · rw [hgh]
      refine (inv.thread u).keep hown fun q b hu => ?_
      have hlt := inv.state_lt (inv.own_state hu)
      -- the thread deals with another request, which is kept
      have hq : q ≠ rid := by
        rintro rfl
        exact hne b hu
      refine ⟨h.kept q hlt hq, h.request q hlt, fun hfree c hc => ?_⟩
      rcases h.given q c hc with ⟨-, hold⟩ | ⟨heq, -⟩
      · exact hfree c hold
      · exact hq heq
    · exact hok
  own_inj u v q b c hu hv := by
    rcases eq_or_ne q rid with rfl | hq
    · exact h.own_inj u v b c hu hv
    · -- the threads of the other requests have them from before
      have hold : ∀ {w d}, s'.tokens.own w = some (q, d) → s.tokens.own w = some (q, d) := by
        intro w d hw
        rcases h.thread w with ⟨-, hown, -⟩ | ⟨-, hafter, -⟩
        · rw [← hown, hw]
        · exact absurd (hafter q d hw) hq
      exact inv.own_inj u v q b c (hold hu) (hold hv)
  -- a block given for another request is where it was
  given q b hb := by
    rcases h.given q b hb with ⟨hq, hold⟩ | ⟨rfl, hstate⟩
    · have hlt := inv.state_lt (inv.given q b hold)
      rw [Tokens.manual_congr (h.request q hlt)]
      exact (inv.given q b hold).imp ((h.kept q hlt hq).open_ b) fun hc =>
        ⟨hc.1, (h.kept q hlt hq).closed hc.2⟩
    · -- the block given for this one
      exact hstate
  given_nodup := h.given_nodup
  answered q b slotId serial haccept hman hnone := by
    rcases eq_or_ne q rid with rfl | hq
    · exact h.answered b slotId serial haccept hman hnone
    · -- a thread that dealt with `q` before still does
      have hold := h.accept q b slotId serial hq haccept
      have hlt := inv.base.accept_lt q b slotId serial hold
      rw [(h.kept q hlt hq).count]
      rw [Tokens.manual_congr (h.request q hlt)] at hman
      refine inv.answered q b slotId serial hold hman fun u c hu => ?_
      rcases h.thread u with ⟨-, hown, -⟩ | ⟨hbefore, -, -⟩
      · exact hnone u c (hown.trans hu)
      · exact hq (hbefore q c hu)
  -- an answer was caused by an earlier step, or by this one
  caused q ev hev hman := by
    rcases h.caused q ev hev with hold | ⟨rfl, -, hmeant⟩
    · exact inv.caused q ev hold
        ((Tokens.manual_congr (h.request q (inv.caused_lt q ev hold))).mp hman)
    · exact hmeant
  caused_lt q ev hev := by
    rcases h.caused q ev hev with hold | ⟨rfl, hlt, -⟩
    · exact lt_of_lt_of_le (inv.caused_lt q ev hold) h.le
    · exact hlt

/-- A request is accepted for the thread. Its number is above those of all others, so only this
thread deals with it, and it has not been answered. -/
theorem accepted (inv : ManualInv cfg s gh xs) (hbase : ResponseInv cfg s'.ril.pending xs')
    (heffect : RequestEffect s.ril.pending xs o r s'.ril.pending xs') {request : ℤ} {a : Addr}
    (haccepts : o.accepts r = some a) (hcompletes : o.completes = none)
    (hrefuses : o.refuses = none) (hidle : s.tokens.own t = none)
    (htokens : s'.tokens =
      { s.tokens with
        request := Function.update s.tokens.request s.ril.pending.accepted request
        own := Function.update s.tokens.own t (some (s.ril.pending.accepted, a)) }) :
    ManualInv cfg s' (Function.update gh t (.accepted a request)) xs' := by
  have hself : s'.tokens.own t = some (s.ril.pending.accepted, a) := by
    rw [htokens]
    exact Function.update_self ..
  have hother : ∀ u, u ≠ t → s'.tokens.own u = s.tokens.own u := by
    intro u hut
    rw [htokens]
    exact Function.update_of_ne hut ..
  -- nothing is given before the request is answered
  have hgiven : s'.tokens.given = s.tokens.given := by rw [htokens]
  -- the number of the new request is above those of the others
  have hnew : ∀ u b, s.tokens.own u ≠ some (s.ril.pending.accepted, b) :=
    fun u b hu => lt_irrefl _ (inv.state_lt (inv.own_state hu))
  have hold : ∀ b, (s.ril.pending.accepted, b) ∉ s.tokens.given :=
    fun b hb => lt_irrefl _ (inv.state_lt (inv.given _ b hb))
  -- so only this thread deals with it
  have honly : ∀ u b, s'.tokens.own u = some (s.ril.pending.accepted, b) → u = t := by
    intro u b hu
    by_contra hut
    rw [hother u hut] at hu
    exact hnew u b hu
  refine inv.about hbase (show AboutRequest s gh xs s' _ xs' s.ril.pending.accepted from ?_)
  -- what the step does to its own request, and that the others are kept
  exact {
    le := heffect.le
    kept := fun q hq _ => heffect.kept_of_none hcompletes hrefuses hq
    accept := fun q b slotId serial hq haccept =>
      (heffect.accepts q b slotId serial haccept).resolve_right fun h => hq h.1
    request := fun q hq => by
      rw [htokens]
      exact Function.update_of_ne (Nat.ne_of_lt hq) ..
    thread := fun u => by
      rcases eq_or_ne u t with rfl | hut
      · -- the thread had no request, and now it has this one
        refine .inr ⟨fun q b hu => absurd (hidle.symm.trans hu) nofun, fun q b hu => ?_, ?_⟩
        · exact (congrArg Prod.fst (Option.some.inj (hself.symm.trans hu))).symm
        · rw [Function.update_self]
          refine ⟨s.ril.pending.accepted, hself, ?_, heffect.accepted a haccepts, ?_⟩
          · rw [htokens]
            exact Function.update_self ..
          · rw [hgiven]
            exact hold
      · -- the other threads have theirs
        exact .inl ⟨hnew u, hother u hut, Function.update_of_ne hut ..⟩
    own_inj := fun u v b c hu hv => (honly u b hu).trans (honly v c hv).symm
    given := fun q b hb => by
      rw [hgiven] at hb
      refine .inl ⟨?_, hb⟩
      rintro rfl
      exact hold b hb
    given_nodup := by
      rw [hgiven]
      exact inv.given_nodup
    -- the new request has not been answered
    answered := fun b slotId serial _ _ hnone => absurd hself (hnone t a)
    caused := fun q ev hev => by
      rw [htokens] at hev
      exact .inl hev }

/-- The method of the thread answers its request with an error. The request was open, so this is its
one answer, and no thread deals with it any more. -/
theorem refused (inv : ManualInv cfg s gh xs) (hbase : ResponseInv cfg s'.ril.pending xs')
    (heffect : RequestEffect s.ril.pending xs o r s'.ril.pending xs') {request : ℤ} {a : Addr}
    (ho : o.refuses = some a) (hcompletes : o.completes = none) (haccepts : o.accepts r = none)
    (hphase : gh t = .accepted a request) (htokens : s'.tokens = s.tokens.drop t) :
    ManualInv cfg s' (Function.update gh t .idle) xs' := by
  have ht := inv.thread t
  rw [hphase] at ht
  -- the thread had its request accepted, and it is open
  obtain ⟨rid, hown, -, hopen, hfree⟩ := ht
  have hself : s'.tokens.own t = none := by
    rw [htokens]
    exact Function.update_self ..
  have hother : ∀ u, u ≠ t → s'.tokens.own u = s.tokens.own u := by
    intro u hut
    rw [htokens]
    exact Function.update_of_ne hut ..
  have hgiven : s'.tokens.given = s.tokens.given := by rw [htokens]; rfl
  -- no thread deals with the request any more
  have hnone : ∀ u b, s'.tokens.own u ≠ some (rid, b) := by
    intro u b hu
    rcases eq_or_ne u t with rfl | hut
    · exact absurd (hself.symm.trans hu) nofun
    · rw [hother u hut] at hu
      exact inv.own_ne hut hown hu rfl
  refine inv.about hbase (show AboutRequest s gh xs s' _ xs' rid from ?_)
  exact {
    le := heffect.le
    -- the node that is refused is that of the request
    kept := fun q hq hne => by
      refine heffect.kept q hq fun l b hb hb' => ?_
      rw [hcompletes, ho]
      refine ⟨nofun, fun e => hne ?_⟩
      obtain rfl : a = b := Option.some.inj e
      exact Option.some.inj (hb'.symm.trans hopen.owner)
    accept := fun q b slotId serial _ => heffect.accept_of_none haccepts
    request := fun q _ => by
      rw [htokens]
      rfl
    thread := fun u => by
      rcases eq_or_ne u t with rfl | hut
      · -- the thread is done with the request
        refine .inr ⟨fun q b hu => ?_, fun q b hu => absurd (hself.symm.trans hu) nofun, ?_⟩
        · exact (congrArg Prod.fst (Option.some.inj (hown.symm.trans hu))).symm
        · rw [Function.update_self]
          exact hself
      · -- no other thread had it
        refine .inl ⟨fun b hu => ?_, hother u hut, Function.update_of_ne hut ..⟩
        exact inv.own_ne hut hown hu rfl
    own_inj := fun u _ b _ hu => absurd hu (hnone u b)
    given := fun q b hb => by
      rw [hgiven] at hb
      refine .inl ⟨?_, hb⟩
      rintro rfl
      exact hfree b hb
    given_nodup := by
      rw [hgiven]
      exact inv.given_nodup
    -- the refusal is the one answer of the request
    answered := fun _ _ _ _ _ _ => heffect.refused a rid ho hopen
    caused := fun q ev hev => by
      rw [htokens] at hev
      exact .inl hev }

/-- The tokens after the vendor got one. -/
theorem give_eq {tk : Tokens} {rid : ℕ} {a : Addr} (hown : tk.own t = some (rid, a)) :
    tk.give t a =
      { tk with
        given := (rid, a) :: tk.given
        own := if tk.Manual rid then tk.own else Function.update tk.own t none } := by
  unfold Tokens.give
  rw [hown]

/-- The vendor gets the token of the thread's request. It holds this block now besides those that it
was given before. The method goes on with its copy of the token only for a manual selection. -/
theorem give (inv : ManualInv cfg s gh xs) {request : ℤ} {a : Addr}
    (hphase : gh t = .accepted a request) (hril : s'.ril = s.ril)
    (htokens : s'.tokens = s.tokens.give t a) :
    ManualInv cfg s' (Function.update gh t
      (if request = Request.setNetworkSelectionManual then .handed a else .idle)) xs := by
  have ht := inv.thread t
  rw [hphase] at ht
  obtain ⟨rid, hown, hnumber, hopen, hfree⟩ := ht
  rw [give_eq hown] at htokens
  have hmanual : s'.tokens.Manual rid ↔ s.tokens.Manual rid :=
    Tokens.manual_congr (by rw [htokens])
  have hgiven : s'.tokens.given = (rid, a) :: s.tokens.given := by rw [htokens]
  have hnew : s'.tokens.own = if s.tokens.Manual rid then s.tokens.own
      else Function.update s.tokens.own t none := by rw [htokens]
  -- whether the method keeps the token or not, the others keep theirs
  have hother : ∀ u, u ≠ t → s'.tokens.own u = s.tokens.own u := by
    intro u hut
    rw [hnew]
    split
    · rfl
    · exact Function.update_of_ne hut ..
  have honly : ∀ u b, s'.tokens.own u = some (rid, b) → u = t := by
    intro u b hu
    by_contra hut
    rw [hother u hut] at hu
    exact inv.own_ne hut hown hu rfl
  -- giving a request to the vendor touches no list
  have hbase : ResponseInv cfg s'.ril.pending xs := by
    rw [hril]
    exact inv.base
  refine inv.about hbase (show AboutRequest s gh xs s' _ xs rid from ?_)
  exact {
    le := by rw [hril]
    kept := fun q _ _ => by
      rw [hril]
      exact .of_responses rfl rfl rfl
    accept := fun q b slotId serial _ haccept => by
      rw [hril] at haccept
      exact haccept
    request := fun q _ => by rw [htokens]
    thread := fun u => by
      rcases eq_or_ne u t with rfl | hut
      · -- the thread had this request before, and has it or none afterwards
        refine .inr ⟨fun q b hu => ?_, fun q b hu => ?_, ?_⟩
        · exact (congrArg Prod.fst (Option.some.inj (hown.symm.trans hu))).symm
        · rw [hnew] at hu
          split at hu
          · exact (congrArg Prod.fst (Option.some.inj (hown.symm.trans hu))).symm
          · exact absurd ((Function.update_self ..).symm.trans hu) nofun
        · rw [hril, Function.update_self, ← hnumber]
          by_cases hman : s.tokens.Manual rid
          · -- the method waits to complete it itself
            rw [if_pos (show s.tokens.request rid = _ from hman)]
            refine ⟨rid, ?_, hmanual.mpr hman, .inl hopen⟩
            rw [hnew, if_pos hman, hown]
          · -- the method is done with it
            rw [if_neg (show ¬ s.tokens.request rid = _ from hman)]
            show s'.tokens.own u = none
            rw [hnew, if_neg hman]
            exact Function.update_self ..
      · refine .inl ⟨fun b hu => ?_, hother u hut, Function.update_of_ne hut ..⟩
        exact inv.own_ne hut hown hu rfl
    own_inj := fun u v b c hu hv => (honly u b hu).trans (honly v c hv).symm
    given := fun q b hb => by
      rw [hgiven] at hb
      -- what the vendor holds: this block, or one it was given before
      rcases List.mem_cons.mp hb with heq | hold
      · obtain ⟨rfl, rfl⟩ : q = rid ∧ b = a := by simpa using heq
        rw [hril]
        exact .inr ⟨rfl, .inl hopen⟩
      · refine .inl ⟨?_, hold⟩
        rintro rfl
        exact hfree b hold
    -- no request is given twice
    given_nodup := by
      rw [hgiven, List.map_cons, List.nodup_cons]
      refine ⟨fun hmem => ?_, inv.given_nodup⟩
      obtain ⟨⟨q, b⟩, hb, heq⟩ := List.mem_map.mp hmem
      obtain rfl : q = rid := heq
      exact hfree b hb
    answered := fun b slotId serial _ hman hnone => by
      -- only a request that is no manual selection is dropped
      refine absurd ?_ (hnone t a)
      rw [hnew, if_pos (hmanual.mp hman), hown]
    caused := fun q ev hev => by
      rw [htokens] at hev
      exact .inl hev }

/-- A completion that is meant for the request `rid` and whose address holds no other request. What
is left to check are the threads that deal with `rid`. -/
theorem completed (inv : ManualInv cfg s gh xs) (hbase : ResponseInv cfg s'.ril.pending xs')
    (heffect : RequestEffect s.ril.pending xs o r s'.ril.pending xs') {rid : ℕ} {a : Addr}
    (ho : o.completes = some a) (hholds : ∀ l, a ∈ xs l → s.ril.pending.owner a = some rid)
    (hrid : RequestOpen s.ril.pending xs rid a ∨
      (s.tokens.Manual rid ∧ RequestClosed s.ril.pending xs rid))
    {gh' : ℕ → RequestPhase} (hrequest : s'.tokens.request = s.tokens.request)
    (hcaused : s'.tokens.caused =
      (newEvents s.ril.pending s'.ril.pending).map (rid, ·) ++ s.tokens.caused)
    (hgiven : s'.tokens.given.Sublist s.tokens.given)
    (hleft : ∀ b, (rid, b) ∈ s'.tokens.given → s.tokens.Manual rid)
    (hown : ∀ u, (∀ b, s.tokens.own u ≠ some (rid, b)) →
      s'.tokens.own u = s.tokens.own u ∧ gh' u = gh u)
    (hsub : ∀ u q b, s'.tokens.own u = some (q, b) → s.tokens.own u = some (q, b))
    (hthread : RequestClosed s'.ril.pending xs' rid → ∀ u b, s.tokens.own u = some (rid, b) →
      ThreadOk s'.ril.pending xs' s'.tokens u (gh' u)) : ManualInv cfg s' gh' xs' := by
  -- the completion closes the request, and what it did was meant for it
  obtain ⟨hclosed, hkept, hevents⟩ := heffect.meant ho hholds (hrid.imp_right And.right)
  refine inv.about hbase (show AboutRequest s gh xs s' _ xs' rid from ?_)
  exact {
    le := heffect.le
    kept := hkept
    accept := fun q b slotId serial _ =>
      heffect.accept_of_none (EntryOp.accepts_of_completes ho)
    request := fun q _ => congrFun hrequest q
    thread := fun u => by
      -- the thread deals with this request, or with another one or none
      by_cases hu : ∃ b, s.tokens.own u = some (rid, b)
      · obtain ⟨b, hb⟩ := hu
        have hself : ∀ q c, s.tokens.own u = some (q, c) → q = rid := fun q c hc =>
          (congrArg Prod.fst (Option.some.inj (hb.symm.trans hc))).symm
        exact .inr ⟨hself, fun q c hc => hself q c (hsub u q c hc), hthread hclosed u b hb⟩
      · have hne : ∀ b, s.tokens.own u ≠ some (rid, b) := fun b hb => hu ⟨b, hb⟩
        exact .inl ⟨hne, hown u hne⟩
    own_inj := fun u v b c hu hv => inv.own_inj u v rid b c (hsub u rid b hu) (hsub v rid c hv)
    -- a block of this request that is still out is that of a manual selection
    given := fun q b hb => by
      rcases eq_or_ne q rid with rfl | hq
      · exact .inr ⟨rfl, .inr ⟨(Tokens.manual_congr (congrFun hrequest q)).mpr (hleft b hb),
          hclosed⟩⟩
      · exact .inl ⟨hq, hgiven.subset hb⟩
    given_nodup := inv.given_nodup.sublist (hgiven.map Prod.fst)
    answered := fun _ _ _ _ _ _ => hclosed.once
    caused := fun q ev hev => by
      rw [hcaused] at hev
      -- the new events are the answer and the completion
      -- what the completion did is about the request
      rcases List.mem_append.mp hev with hev | hev
      · obtain ⟨ev', hev', heq⟩ := List.mem_map.mp hev
        obtain ⟨rfl, rfl⟩ : rid = q ∧ ev' = ev := by simpa using heq
        exact .inr ⟨rfl, hclosed.lt, hevents _ hev'⟩
      · exact .inl hev }

/-- The fake success of `dispatchStrings`. The thread completes the token that it has handed over.
If the vendor has completed it already, the block is not pending or belongs to another request. -/
theorem fakeSuccess (inv : ManualInv cfg s gh xs) (hbase : ResponseInv cfg s'.ril.pending xs')
    (heffect : RequestEffect s.ril.pending xs o r s'.ril.pending xs') {a : Addr}
    (ho : o.completes = some a) (hphase : gh t = .handed a)
    (hcurrent : ∀ rid b, s.tokens.own t = some (rid, b) → s.tokens.Manual rid →
      s.ril.pending.HoldsOnly a rid)
    (htokens : ∀ rid b, s.tokens.own t = some (rid, b) →
      s'.tokens = (s.tokens.cause rid s.ril.pending s'.ril.pending).drop t) :
    ManualInv cfg s' (Function.update gh t .idle) xs' := by
  have ht := inv.thread t
  rw [hphase] at ht
  -- the manual selection that the thread handed over itself
  obtain ⟨rid, hown, hmanual, hstate⟩ := ht
  have htokens := htokens rid a hown
  have hnone : s'.tokens.own t = none := by
    rw [htokens]
    exact Function.update_self ..
  have hother : ∀ u, u ≠ t → s'.tokens.own u = s.tokens.own u := by
    intro u hut
    rw [htokens]
    exact Function.update_of_ne hut ..
  refine inv.completed hbase heffect ho
    (fun l hl => ?_) (hstate.imp_right fun h => ⟨hmanual, h⟩)
    (by rw [htokens]; rfl) (by rw [htokens]; rfl) (by rw [htokens]; exact List.Sublist.refl _)
    (fun _ _ => hmanual) (fun u hu => ?_) (fun u q b hu => ?_) fun _ u b hu => ?_
  · -- the node of the request is the only one at that address, by the condition
    exact hcurrent rid a hown hmanual (inv.base.lists.listed_iff.mpr ⟨l, hl⟩)
  · -- a thread without this request keeps what it has
    have hut : u ≠ t := by
      rintro rfl
      exact hu a hown
    exact ⟨hother u hut, Function.update_of_ne hut ..⟩
  · -- the thread itself has nothing left
    have hut : u ≠ t := by
      rintro rfl
      exact absurd (hnone.symm.trans hu) nofun
    rw [← hother u hut, hu]
  · -- no other thread deals with the request
    obtain rfl : u = t := inv.own_inj u t rid b a hu hown
    rw [Function.update_self]
    exact hnone

/-- The vendor completes a token that it has got. It has got one token for each request, so it
cannot do so twice; but the method may still be about to complete the same one. -/
theorem vendorCompleted (inv : ManualInv cfg s gh xs) (hbase : ResponseInv cfg s'.ril.pending xs')
    (heffect : RequestEffect s.ril.pending xs o r s'.ril.pending xs') {rid : ℕ} {a : Addr}
    (ho : o.completes = some a) (hmem : (rid, a) ∈ s.tokens.given)
    (hcurrent : s.tokens.Manual rid → s.ril.pending.HoldsOnly a rid)
    (htokens : s'.tokens = { s.tokens.cause rid s.ril.pending s'.ril.pending with
      given := s.tokens.given.erase (rid, a) }) : ManualInv cfg s' gh xs' := by
  have hrequest : s'.tokens.request = s.tokens.request := by
    rw [htokens]
    rfl
  have hown : s'.tokens.own = s.tokens.own := by
    rw [htokens]
    rfl
  have hgiven : s'.tokens.given = s.tokens.given.erase (rid, a) := by rw [htokens]
  -- the vendor has got one token for each request
  have hleft : ∀ b, (rid, b) ∉ s'.tokens.given := by
    intro b hb
    rw [hgiven] at hb
    have hperm := (List.perm_cons_erase hmem).map Prod.fst
    have hnodup := hperm.nodup_iff.mp inv.given_nodup
    exact (List.nodup_cons.mp hnodup).1 (List.mem_map.mpr ⟨(rid, b), hb, rfl⟩)
  refine inv.completed hbase heffect ho (fun l hl => ?_)
    (inv.given rid a hmem) hrequest (by rw [htokens]; rfl)
    (by rw [hgiven]; exact List.erase_sublist) (fun b hb => absurd hb (hleft b))
    (fun u _ => ⟨by rw [hown], rfl⟩) (fun u q b hu => by rw [← hown, hu])
    fun hclosed u b hu => ?_
  · rcases inv.given rid a hmem with hopen | ⟨hmanual, -⟩
    · exact hopen.owner
    · exact hcurrent hmanual (inv.base.lists.listed_iff.mpr ⟨l, hl⟩)
  · have ht := inv.thread u
    cases hg : gh u with
    | idle =>
      rw [hg] at ht
      exact absurd (hu.symm.trans ht) nofun
    | accepted c request =>
      -- its token would still be with the method
      rw [hg] at ht
      obtain ⟨q, hq, -, -, hfree⟩ := ht
      obtain ⟨rfl, -⟩ : rid = q ∧ b = c := by simpa using hu.symm.trans hq
      exact absurd hmem (hfree a)
    | handed c =>
      -- the method has still to complete it, which will do nothing
      rw [hg] at ht
      obtain ⟨q, hq, hmanual, -⟩ := ht
      obtain ⟨rfl, rfl⟩ : rid = q ∧ b = c := by simpa using hu.symm.trans hq
      exact ⟨rid, by rw [hown, hu], (Tokens.manual_congr (congrFun hrequest rid)).mpr hmanual,
        .inr hclosed⟩

end Steps

/-- **One call of a thread** keeps the invariant, whatever the call gives, unless it completes a
token of a manual selection whose address holds another request. -/
theorem step (inv : ManualInv cfg s gh xs) {s' : ManualState} {o : EntryOp} {r : o.Res}
    (hallow : (gh t).allow o) (hsem : manualSem cfg t o r s s')
    (hcurrent : TokenCurrent s (.op t o r)) :
    ∃ xs', ManualInv cfg s' (Function.update gh t ((gh t).after o r)) xs' := by
  obtain ⟨hruns, htokens, hgiven⟩ := hsem
  have ht := inv.thread t
  -- what is refused waits in a list
  have hrefuse : ∀ a, o.refuses = some a → ∃ l, a ∈ xs l := by
    intro a ha
    cases o with
    | sendErrorResponse pRI err =>
      obtain rfl : pRI = some a := ha
      obtain ⟨request, hg⟩ := RequestPhase.accepted_of_sendErrorResponse hallow
      rw [hg] at ht
      obtain ⟨rid, -, -, hopen, -⟩ := ht
      exact hopen.listed
    | _ => exact absurd ha nofun
  obtain ⟨xs', hbase, heffect⟩ :=
    inv.base.effect (entryEffect_of_runs inv.base.lists hruns) hrefuse
  refine ⟨xs', ?_⟩
  -- most calls touch no request and no token
  have hquiet : o.accepts r = none → o.completes = none → o.refuses = none →
      (gh t).after o r = gh t → s'.tokens = s.tokens →
      ManualInv cfg s' (Function.update gh t ((gh t).after o r)) xs' := by
    intro haccepts hcompletes hrefuses hphase htk
    rw [hphase, Function.update_eq_self]
    exact inv.quiet hbase heffect haccepts hcompletes hrefuses htk
  cases o with
  -- a request is accepted, or there is no memory for it
  | addRequestToList serial slotId request =>
    have hg := RequestPhase.idle_of_addRequestToList hallow
    cases r with
    | none => exact hquiet rfl rfl rfl (by rw [hg]; rfl) htokens
    | some a =>
      rw [hg] at ht ⊢
      exact inv.accepted hbase heffect rfl rfl rfl ht htokens
  -- these calls say nothing about a request
  | loadRequestInfo pRI => exact hquiet rfl rfl rfl (by cases gh t <;> rfl) htokens
  | calloc => exact hquiet rfl rfl rfl (by cases gh t <;> rfl) htokens
  | vendorAck token => exact hquiet rfl rfl rfl (by cases gh t <;> rfl) htokens
  | releaseWakeLock => exact hquiet rfl rfl rfl (by cases gh t <;> rfl) htokens
  -- refused by the service: the request gets an error
  | sendErrorResponse pRI err =>
    cases pRI with
    | none =>
      have hruns : (sendErrorResponse cfg none err).Runs (RilOp.sem cfg t) s.ril () s'.ril := hruns
      obtain ⟨a, _, ha, -⟩ := sendErrorResponse_runs hruns
      exact absurd ha nofun
    | some a =>
      obtain ⟨request, hg⟩ := RequestPhase.accepted_of_sendErrorResponse hallow
      rw [hg]
      exact inv.refused hbase heffect rfl rfl rfl hg htokens
  | onRequest number data pRI slotId =>
    obtain ⟨request, hg⟩ := RequestPhase.accepted_of_onRequest hallow
    -- the lists stay as they are, and then the token changes hands
    have hlists : ManualInv cfg ⟨s'.ril, s.tokens⟩ gh xs' :=
      inv.quiet hbase heffect rfl rfl rfl rfl
    rw [hg]
    exact hlists.give hg rfl htokens
  -- the fake success after the manual selection was handed over
  | onRequestComplete token e =>
    have hg := RequestPhase.handed_of_onRequestComplete hallow
    rw [hg]
    refine inv.fakeSuccess hbase heffect rfl hg hcurrent fun rid b hb => ?_
    rw [htokens]
    unfold Tokens.after
    rw [hb]
  -- the vendor completes a request it was given
  | vendorComplete rid token e =>
    have hg := RequestPhase.idle_of_vendorComplete hallow
    have hafter : (gh t).after (.vendorComplete rid token e) r = gh t := by
      rw [hg]
      rfl
    rw [hafter, Function.update_eq_self]
    exact inv.vendorCompleted hbase heffect rfl (hgiven rid token e rfl) hcurrent htokens
  | abort => exact nomatch r

end ManualInv

end Invariant

/-! ### Runs -/

section Runs

variable {cfg : Config}

/-- The invariant of the pool: the methods obey their protocol, and the phases satisfy the
invariant. -/
def ManualPoolInv (cfg : Config) (Q : Pool entrySignature ManualState) : Prop :=
  Q.Obeying (fun _ => requestProtocol) RequestPhase.Done fun s gh => ∃ xs, ManualInv cfg s gh xs

theorem ManualPoolInv.initial {Q : Pool entrySignature ManualState}
    (h : (manualSystem cfg).init Q) : ManualPoolInv cfg Q :=
  .start (fun _ h0 => ⟨fun _ => .idle, ⟨_, .initial h0⟩, fun _ => rfl⟩) h

/-- What a thread may be given to run obeys the protocol. -/
theorem MayRun.follows {p : Entry Unit} (h : MayRun cfg p) : p.Follows .idle := by
  rcases h with ⟨slotId, hmethod⟩ | ⟨rid, t, e, rfl⟩ | ⟨t, rfl⟩
  · exact hmethod.follows
  · exact ⟨trivial, fun _ _ hg => hg⟩
  · exact ⟨trivial, fun _ _ hg => hg⟩

theorem ManualPoolInv.step {Q Q' : Pool entrySignature ManualState} {l : PoolLabel entrySignature}
    (hQ : ManualPoolInv cfg Q) (hstep : (manualSystem cfg).step Q l Q')
    (hok : TokenCurrent Q.shared l) : ManualPoolInv cfg Q' := by
  refine @Pool.Obeying.step _ _ _ _ _ _ _ _ TokenCurrent ?_ ?_ _ _ _ hQ hstep hok
  · rintro s gh t p ⟨xs, inv⟩ hdone hmay
    refine ⟨.idle, ⟨xs, ?_⟩, MayRun.follows hmay⟩
    rw [show RequestPhase.idle = gh t from Eq.symm hdone, Function.update_eq_self]
    exact inv
  · rintro s gh t o r s' ⟨xs, inv⟩ hallow hsem hok
    exact ⟨(gh t).after o r, rfl, inv.step hallow hsem hok⟩

/-- A completion of a token of a manual selection whose address holds another request answers that
one. -/
theorem not_manualExact {s s' : ManualState} {xs : PendingList → List Addr} {t : ℕ} {o : EntryOp}
    {r : o.Res} {rid : ℕ} {a : Addr} (inv : ResponseInv cfg s.ril.pending xs)
    (hruns : entrySem cfg t o r s.ril s'.ril) (ho : o.completes = some a)
    (hmanual : s'.tokens.Manual rid) (hholds : ¬ s.ril.pending.HoldsOnly a rid)
    (hcaused : ∀ ev ∈ newEvents s.ril.pending s'.ril.pending, (rid, ev) ∈ s'.tokens.caused) :
    ¬ ManualExact s' := by
  intro hexact
  -- the address is in a list, but as the node of another request
  obtain ⟨hlisted, hother⟩ : s.ril.pending.Listed a ∧ s.ril.pending.owner a ≠ some rid := by
    unfold Pending.HoldsOnly at hholds
    by_contra hnone
    exact hholds fun hl => by
      by_contra hne
      exact hnone ⟨hl, hne⟩
  obtain ⟨l, hl⟩ := inv.lists.listed_iff.mp hlisted
  have heffect := entryEffect_of_runs inv.lists hruns
  revert heffect hcaused
  generalize s'.ril.pending = p'
  intro hcaused heffect
  cases heffect with
  -- by what the operation did to the lists: it must be a completion that found a node
  | nothing haccepts hrefuses hmiss => exact hmiss a ho l hl
  | accept h => exact absurd ho (by rw [h]; exact nofun)
  | ack h => exact absurd ho (by rw [h]; exact nofun)
  | refuse h => exact absurd ho (by rw [h]; exact nofun)
  | @complete m b pp type e haccepts hrefuses h hwalk =>
    obtain rfl : a = b := Option.some.inj (ho.symm.trans h)
    -- the completion answers the request that holds the address
    have hnew : newEvents s.ril.pending (s.ril.pending.complete m a pp type e) =
        [.respond (s.ril.pending.owner a) (s.ril.pending.info a).socketId type
          (s.ril.pending.info a).token e, .complete (s.ril.pending.owner a)] :=
      newEvents_of_append rfl
    -- so the answer of the other request was caused by this one
    have hev := hcaused (.complete (s.ril.pending.owner a)) (by rw [hnew]; simp)
    exact hother (hexact.caused rid _ hev hmanual)

/-- **Manual network selections.** In every run of the entry points and the vendor, whatever
addresses the allocator hands out again and whenever the vendor completes its tokens, every manual
selection is answered alone and once in every state of the run, if and only if no step of the run
completes the token of a manual selection, by the fake success or by the vendor, while its address
holds another pending request. -/
theorem manualExact_iff_tokenCurrent {P Q : Pool entrySignature ManualState}
    {tr : List (Pool entrySignature ManualState × PoolLabel entrySignature)}
    (h0 : (manualSystem cfg).init P) (h : (manualSystem cfg).Run P tr Q) :
    (∀ U ∈ Lts.visited tr Q, ManualExact U.shared) ↔
      ∀ step ∈ tr, TokenCurrent step.1.shared step.2 := by
  refine @Lts.good_iff_ok _ _ (manualSystem cfg) (ManualPoolInv cfg)
    (fun U => ManualExact U.shared) (fun U l => TokenCurrent U.shared l)
    (fun _ h0 => .initial h0) ?_ (fun _ _ _ hU hstep hok => hU.step hstep hok) ?_ P Q tr h0 h
  · rintro U ⟨gh, ⟨xs, inv⟩, -⟩
    exact inv.exact
  · -- the step completes through an address that is another request's by now
    rintro U l V ⟨gh, ⟨xs, inv⟩, hobeys⟩ hstep hbad
    -- starting a call does no such thing
    cases hstep with
    | call hidle hmay => exact absurd trivial hbad
    | @op t o k r s' hprog hsem =>
      obtain ⟨hruns, htokens, hgiven⟩ := hsem
      cases o with
      | onRequestComplete a e =>
        -- the fake success of a request that the thread knows
        obtain ⟨rid, hrid⟩ := not_forall.mp hbad
        obtain ⟨b, hb⟩ := not_forall.mp hrid
        have hown : U.shared.tokens.own t = some (rid, b) := by
          by_contra hne
          exact hb fun h => absurd h hne
        have hmanual : U.shared.tokens.Manual rid := by
          by_contra hne
          exact hb fun _ h => absurd h hne
        have htk : s'.tokens =
            (U.shared.tokens.cause rid U.shared.ril.pending s'.ril.pending).drop t := by
          rw [htokens]
          unfold Tokens.after
          rw [hown]
        refine not_manualExact inv.base hruns rfl (by rw [htk]; exact hmanual)
          (fun h => hb fun _ _ => h) fun ev hev => ?_
        rw [htk]
        exact List.mem_append_left _ (List.mem_map_of_mem hev)
      | vendorComplete rid a e =>
        -- a completion by the vendor of a token it was given
        have hmanual : U.shared.tokens.Manual rid := by
          by_contra hne
          exact hbad fun h => absurd h hne
        have htk : s'.tokens =
            { U.shared.tokens.cause rid U.shared.ril.pending s'.ril.pending with
              given := U.shared.tokens.given.erase (rid, a) } := htokens
        refine not_manualExact inv.base hruns rfl (by rw [htk]; exact hmanual)
          (fun h => hbad fun _ => h) fun ev hev => ?_
        rw [htk]
        exact List.mem_append_left _ (List.mem_map_of_mem hev)
      -- the other operations complete nothing
      | _ => exact absurd trivial hbad

end Runs

/-! ### A vendor that completes inside `onRequest` -/

namespace LateFakeSuccess

/-- The client has asked for a manual network selection with serial 7; the node is at address 1. -/
def accepted : RilState :=
  { RilState.oneClient with
    pending := RilState.oneClient.pending.accept .dual 1 7 0 Request.setNetworkSelectionManual }

/-- The vendor completes the token. -/
theorem vendorCompletes : ∃ s, entrySem .dual 1 (.vendorComplete 0 1 0) () accepted s ∧
    s.pending = accepted.pending.complete .pendingRequests 1 .head .solicited 0 ∧
    (s.locks .radioServiceRwlock).writer = none ∧
    s.clients.slot = RilState.oneClient.clients.slot :=
  ⟨_, ⟨accepted.pending.info 1, _, ⟨_, ⟨fun _ => rfl, rfl⟩, rfl⟩, true, _,
    ⟨_, ⟨.head, ⟨1, rfl⟩, rfl⟩, rfl⟩, accepted.pending.info 1, _, ⟨_, ⟨fun _ => rfl, rfl⟩, rfl⟩,
    (), _, ⟨_, ⟨rfl, rfl⟩, rfl⟩, (), _, ⟨_, rfl, rfl⟩, some ⟨1, 0⟩, _, ⟨_, ⟨rfl, rfl⟩, rfl⟩,
    some ⟨1, 0⟩, _, ⟨_, ⟨rfl, rfl⟩, rfl⟩, true, _, ⟨_, rfl, rfl⟩, (), _, rfl, (), _,
    ⟨_, rfl, rfl⟩, (), _, ⟨_, rfl, rfl⟩, rfl, rfl⟩, rfl, rfl, rfl⟩

/-- The node is free, and its address is handed out for the SIM status with serial 8. -/
def reused (s : RilState) : RilState :=
  { s with pending := s.pending.accept .dual 1 8 0 Request.getSimStatus }

/-- The fake success, from any state with the second request at the address of the first. -/
theorem fakeSuccess {s : RilState}
    (hpending : s.pending = accepted.pending.complete .pendingRequests 1 .head .solicited 0)
    (hlock : (s.locks .radioServiceRwlock).writer = none)
    (hslot : s.clients.slot = RilState.oneClient.clients.slot) :
    ∃ s', entrySem .dual 0 (.onRequestComplete 1 0) () (reused s) s' ∧
      s'.pending = (reused s).pending.complete .pendingRequests 1 .head .solicited 0 := by
  obtain ⟨pending, locks, ⟨slot, registrations, calls, resets⟩, nitz, wake⟩ := s
  obtain rfl : pending = _ := hpending
  obtain rfl : slot = _ := hslot
  exact ⟨_, ⟨(reused _).pending.info 1, _, ⟨_, ⟨fun _ => rfl, rfl⟩, rfl⟩, true, _,
    ⟨_, ⟨.head, ⟨1, rfl⟩, rfl⟩, rfl⟩, (reused _).pending.info 1, _, ⟨_, ⟨fun _ => rfl, rfl⟩, rfl⟩,
    (), _, ⟨_, ⟨hlock, rfl⟩, rfl⟩, (), _, ⟨_, rfl, rfl⟩, some ⟨1, 0⟩, _, ⟨_, ⟨rfl, rfl⟩, rfl⟩,
    some ⟨1, 0⟩, _, ⟨_, ⟨rfl, rfl⟩, rfl⟩, true, _, ⟨_, rfl, rfl⟩, (), _, rfl, (), _,
    ⟨_, rfl, rfl⟩, (), _, ⟨_, rfl, rfl⟩, rfl, rfl⟩, rfl⟩

/-- The two threads. -/
def threads (s : RilState) (tk : Tokens) (p q : Entry Unit) : Pool entrySignature ManualState :=
  .ofList ⟨s, tk⟩ [p, q]

theorem call₀ {s : RilState} {tk : Tokens} {p q : Entry Unit} (h : MayRun .dual p) :
    (manualSystem .dual).step (threads s tk (.ret ()) q) (.call 0 p) (threads s tk p q) :=
  PoolStep.ofList_call rfl h

theorem call₁ {s : RilState} {tk : Tokens} {p q : Entry Unit} (h : MayRun .dual q) :
    (manualSystem .dual).step (threads s tk p (.ret ())) (.call 1 q) (threads s tk p q) :=
  PoolStep.ofList_call rfl h

theorem op₀ {s s' : RilState} {tk : Tokens} {q : Entry Unit} (o : EntryOp)
    (k : o.Res → Entry Unit) (r : o.Res) (h : entrySem .dual 0 o r s s')
    (ho : ∀ rid a e, o = .vendorComplete rid a e → (rid, a) ∈ tk.given) :
    (manualSystem .dual).step (threads s tk (.op o k) q) (.op 0 o r)
      (threads s' (tk.after 0 s.pending s'.pending o r) (k r) q) :=
  @PoolStep.ofList_op _ _ (manualSem .dual) _ _ _ [.op o k, q] 0 o k r rfl ⟨h, rfl, ho⟩

theorem op₁ {s s' : RilState} {tk : Tokens} {p : Entry Unit} (o : EntryOp)
    (k : o.Res → Entry Unit) (r : o.Res) (h : entrySem .dual 1 o r s s')
    (ho : ∀ rid a e, o = .vendorComplete rid a e → (rid, a) ∈ tk.given) :
    (manualSystem .dual).step (threads s tk p (.op o k)) (.op 1 o r)
      (threads s' (tk.after 1 s.pending s'.pending o r) p (k r)) :=
  @PoolStep.ofList_op _ _ (manualSem .dual) _ _ _ [p, .op o k] 1 o k r rfl ⟨h, rfl, ho⟩

/-- A new node at address 1. -/
theorem accepts {s : RilState} {t : ℕ} {serial request : ℤ} (hdead : s.pending.live 1 = false)
    (hrequest : ¬ request ≥ numCommands) :
    entrySem .dual t (.addRequestToList serial 0 request) (some (1 : Addr)) s
      { s with pending := s.pending.accept .dual 1 serial 0 request } := by
  show (addRequestToList .dual serial 0 request).Runs _ _ _ _
  unfold addRequestToList
  rw [if_neg hrequest]
  exact ⟨some 1, _, ⟨_, ⟨hdead, rfl⟩, rfl⟩, (), _, ⟨_, rfl, rfl⟩, (), _, ⟨_, rfl, rfl⟩, rfl, rfl⟩

/-- Before the run. -/
def tokens : Tokens := ⟨fun _ => 0, fun _ => none, [], []⟩

/-- A run in which the block is used again. The vendor completes the token before `onRequest`
returns, a second request gets the node, and the method then answers that one. -/
theorem runs : ∃ tr Q,
    (manualSystem .dual).Run (threads .oneClient tokens (.ret ()) (.ret ())) tr Q ∧
      Q.shared.tokens.Manual 0 ∧ .accept 1 1 0 8 ∈ Q.shared.ril.pending.log ∧
      (0, .respond (some 1) 0 .solicited 8 0) ∈ Q.shared.tokens.caused := by
  obtain ⟨⟨pending, locks, clients, nitz, wake⟩, hvendor, hpending, hlock, hslot⟩ :=
    vendorCompletes
  obtain ⟨⟨pending₄, locks₄, clients₄, nitz₄, wake₄⟩, hfake, hpending₄⟩ :=
    fakeSuccess hpending hlock hslot
  obtain rfl : pending = _ := hpending
  obtain rfl : pending₄ = _ := hpending₄
  have h₁ := Lts.Run.nil.snoc (@call₀ .oneClient tokens _ (.ret ())
    (.inl ⟨0, .setNetworkSelectionModeManual 7 []⟩))
  have h₂ := h₁.snoc (op₀ (.addRequestToList 7 0 Request.setNetworkSelectionManual) _
    (some (1 : Addr)) (accepts rfl (by decide)) nofun)
  have h₃ := h₂.snoc (op₀ .calloc _ true ⟨_, _, rfl, rfl, rfl⟩ nofun)
  have h₄ := h₃.snoc (op₀ .calloc _ true ⟨_, _, rfl, rfl, rfl⟩ nofun)
  have h₅ := h₄.snoc (op₀ (.onRequest Request.setNetworkSelectionManual (.strings [some []]) 1 0) _
    () ⟨_, _, rfl, rfl, rfl⟩ nofun)
  -- the vendor completes the token before `onRequest` returns
  have h₆ := h₅.snoc (call₁ (.inr (.inl ⟨0, 1, 0, rfl⟩)))
  have h₇ := h₆.snoc (op₁ (.vendorComplete 0 1 0) .ret () hvendor fun rid a e he => by
    cases he
    exact List.mem_cons_self)
  -- the second request gets the node
  have h₈ := h₇.snoc (call₁ (.inl ⟨0, .getIccCardStatus 8⟩))
  have h₉ := h₈.snoc (op₁ (.addRequestToList 8 0 Request.getSimStatus) _ (some (1 : Addr))
    (accepts rfl (by decide)) nofun)
  have h₁₀ := h₉.snoc (op₀ (.onRequestComplete 1 Errno.success) _ () hfake nofun)
  refine ⟨_, _, h₁₀, rfl, ?_, ?_⟩
  · exact List.mem_cons_of_mem _ (List.mem_cons_of_mem _ List.mem_cons_self)
  · exact List.mem_cons_self

theorem init : (manualSystem .dual).init (threads .oneClient tokens (.ret ()) (.ret ())) := by
  refine ⟨⟨⟨fun _ => rfl, fun _ => rfl, rfl⟩, fun _ => rfl, rfl, rfl⟩, Pool.ofList_idle ?_⟩
  intro p hp
  simpa using hp

end LateFakeSuccess

/-- The run above and the condition on it. -/
theorem manualExact_iff_tokenCurrent_reusedNode :
    ∃ P tr Q, (manualSystem .dual).init P ∧ (manualSystem .dual).Run P tr Q ∧
      ((∀ U ∈ Lts.visited tr Q, ManualExact U.shared) ↔
        ∀ step ∈ tr, TokenCurrent step.1.shared step.2) := by
  obtain ⟨tr, Q, hrun, -⟩ := LateFakeSuccess.runs
  exact ⟨_, tr, Q, LateFakeSuccess.init, hrun,
    manualExact_iff_tokenCurrent LateFakeSuccess.init hrun⟩

/-- **The fake success answers another request.** The vendor completes the manual selection (serial
7) inside `onRequest`, another thread gets the freed node for a request with serial 8, and the fake
success makes libril answer the latter. As it comes without a payload, the client is told that the
response is invalid. -/
theorem fakeSuccess_answers_other_request :
    ∃ P tr Q, (manualSystem .dual).init P ∧ (manualSystem .dual).Run P tr Q ∧
      Q.shared.tokens.Manual 0 ∧ .accept 1 1 0 8 ∈ Q.shared.ril.pending.log ∧
      (0, .respond (some 1) 0 .solicited 8 0) ∈ Q.shared.tokens.caused ∧
      ¬ ∀ U ∈ Lts.visited tr Q, ManualExact U.shared := by
  obtain ⟨tr, Q, hrun, hmanual, haccept, hcaused⟩ := LateFakeSuccess.runs
  refine ⟨_, tr, Q, LateFakeSuccess.init, hrun, hmanual, haccept, hcaused, fun h => ?_⟩
  have hQ := h Q (List.mem_append_right _ (List.mem_singleton_self Q))
  have hother : (some 1 : Option ℕ) = some 0 := hQ.caused 0 _ hcaused hmanual
  exact absurd hother (by decide)

end BlueCommon.Ril
