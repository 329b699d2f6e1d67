import BlueCommon.Sap.Hands

/-!
# Who releases the objects of a request

Any number of threads call the request methods, and the vendor completes the requests that it has,
in any order. `Owned` ties the hands of the threads to the heap: an object that is live is in the
hand of one thread, or belongs to a request in the queue.

* `Orderly`: the steps that release nothing too early.
* `objects_released`: in every run of such steps no released object is used, and what is live has
  somebody who is to release it.
* `header_freed_before_payload`: without memory for the request the header is released twice.

`Owned.step` is the heart of the proof: what the hand of a thread permits and what is orderly keeps
the invariant, with one lemma for each command about what it does to the heap. That the methods and
the completions do only what their hands permit is known from the code of each thread alone
(`MayCall.obeys`), so no interleaving needs to be looked at; `pool_invariant` puts the two together.
At its end a thread has only the copy of a command in its hand, which is why nothing else is left to
be released.
-/

namespace BlueCommon

namespace Sap

open Interaction Program

/-! ### Threads -/

/-- The threads call the request methods, and the vendor completes requests. -/
def MayCall (pb : Nanopb) (_ : SapState) (_ : ℕ) (code : Code Unit) : Prop :=
  RequestMethod pb code ∨ ∃ q response, code = sOnRequestComplete pb q response

/-- Nothing has been allocated yet. -/
structure SapState.Fresh (s : SapState) : Prop where
  live : ∀ p, s.live p = false
  queue : s.pendingResponseQueue = []
  given : ∀ q, s.given q = false
  faulty : s.faulty = false

/-- The threads of the service: each may call a method of the client or complete a request of the
vendor, and their operations come in any order. -/
def sapService (pb : Nanopb) : Lts (Pool sapSignature SapState) (PoolLabel sapSignature) :=
  pool SapState.Fresh anySem (MayCall pb)

/-- **No released object has been used or released again, and nothing is lost**: each object that is
live, but for the copies of APDU commands, is to be released by a thread that is still running, or
belongs to a request that has not been completed. -/
structure Safe (Q : Pool sapSignature SapState) : Prop where
  faulty : Q.shared.faulty = false
  released : ∀ p, Q.shared.live p = true → Q.shared.kind p ≠ .command →
    (∃ t, Q.shared.owner p = some t ∧ ¬ Q.Idle t) ∨
      ∃ q ∈ Q.shared.pendingResponseQueue, p = q ∨ p = (Q.shared.requests q).curr

/-- There is memory for the requests, the vendor does not complete a request before `onRequest`
returns, a header is released after its payload, and the first request with the pair that a
completion looks for is the completed one. -/
def Orderly (s : SapState) : PoolLabel sapSignature → Prop
  | .op _ (.allocate .request) r => ∃ q, r = some q
  | .op _ (.onRequest ..) r => r = none
  | .op _ (.free p) _ => s.kind p = .header → ∀ payload, (s.headers p).payload = some payload →
      s.live payload = false
  | .op _ (.checkAndDequeue id token q) _ =>
    (s.pendingResponseQueue.find? fun q' => decide (HasPair s id token q')) = some q
  | _ => True

/-! ### The invariant -/

/-- The requests in the queue and their headers. -/
structure HeapInv (s : SapState) : Prop where
  faulty : s.faulty = false
  fresh : ∀ p, s.next ≤ p → s.live p = false
  socket : s.pendingResponseQueue ≠ [] → s.socket = true
  nodup : s.pendingResponseQueue.Nodup
  live : ∀ q ∈ s.pendingResponseQueue, s.live q = true ∧ s.live (s.requests q).curr = true
  owner : ∀ q ∈ s.pendingResponseQueue, s.owner q = none ∧ s.owner (s.requests q).curr = none
  curr_inj : ∀ q ∈ s.pendingResponseQueue, ∀ q' ∈ s.pendingResponseQueue,
    (s.requests q).curr = (s.requests q').curr → q = q'
  curr_ne : ∀ q ∈ s.pendingResponseQueue, ∀ q' ∈ s.pendingResponseQueue, (s.requests q).curr ≠ q'
  given : ∀ q, s.given q = true → q ∈ s.pendingResponseQueue

/-- The thread has seen the object. -/
def Hand.Mentions (g : Hand) (p : Ptr) : Prop :=
  g.command = some p ∨ g.blank = some p ∨ (∃ payload, g.msg = some (p, payload)) ∨
    (∃ h, g.msg = some (h, some p)) ∨ ∃ h, g.filled = some (p, h)

/-- What the hand of the thread `t` says of the heap is right. -/
structure Holds (s : SapState) (t : ℕ) (g : Hand) : Prop where
  live : ∀ p ∈ g.own, s.live p = true
  owner : ∀ p ∈ g.own, s.owner p = some t
  command : ∀ p ∈ g.own, g.command = some p → s.kind p = .command
  blank : ∀ p ∈ g.own, g.blank = some p → s.kind p = .header
  socket : g.socket = true → s.socket = true
  reads : ∀ h payload, g.Reads h payload → s.live h = true ∧ s.kind h = .header ∧
    (s.headers h).payload = payload ∧ h ∉ s.pendingResponseQueue
  filled : ∀ q ∈ g.own, ∀ h, g.filled = some (q, h) → (s.requests q).curr = h
  requested : ∀ q, g.requested = some q → q ∈ s.pendingResponseQueue ∧ s.given q = false
  completing : ∀ q h, g.completing = some (q, h) → q ∈ s.pendingResponseQueue ∧ s.given q = false ∧
    ∀ h', h = some h' → (s.requests q).curr = h'
  mentions : ∀ p, g.Mentions p → p < s.next

/-- The thread has the request in hand, which is not with the vendor. -/
def Hand.Busy (g : Hand) (q : Ptr) : Prop := g.requested = some q ∨ ∃ h, g.completing = some (q, h)

/-- Two threads have no request in common, and only a completion has a header that another reads. -/
structure Apart (g g' : Hand) : Prop where
  reads : ∀ h payload, g.Reads h payload → h ∈ g'.own → g'.dequeued = some h
  busy : ∀ q, g.Busy q → ¬ g'.Busy q

/-- **The invariant**: the heap and the hands of the threads fit together. Every live object is in
the hands of one thread or belongs to a request in the queue, but for the copy of a command, which
nobody frees. -/
structure Owned (s : SapState) (gh : ℕ → Hand) : Prop where
  heap : HeapInv s
  hands : ∀ t, Holds s t (gh t)
  apart : ∀ t u, t ≠ u → Apart (gh t) (gh u)
  cover : ∀ p, s.live p = true → s.kind p ≠ .command → (∃ t, p ∈ (gh t).own) ∨
    ∃ q ∈ s.pendingResponseQueue, p = q ∨ p = (s.requests q).curr

/-- The invariant holds at the beginning. There is no block, the queue is empty, and no thread has
anything in its hands. -/
theorem SapState.Fresh.owned {s : SapState} (h : s.Fresh) : Owned s fun _ => Hand.empty where
  heap :=
    { faulty := h.faulty
      -- no block is there, and no thread has one
      fresh := fun p _ => h.live p
      -- the queue is empty, and the remaining conditions are about its members
      socket := fun hne => absurd h.queue hne
      nodup := by
        rw [h.queue]
        exact List.nodup_nil
      live := fun q hq => by
        rw [h.queue] at hq
        cases hq
      owner := fun q hq => by
        rw [h.queue] at hq
        cases hq
      curr_inj := fun q hq => by
        rw [h.queue] at hq
        cases hq
      curr_ne := fun q hq => by
        rw [h.queue] at hq
        cases hq
      given := fun q hq => by
        rw [h.given] at hq
        cases hq }
  hands t :=
    { live := nofun
      owner := nofun
      command := nofun
      blank := nofun
      socket := nofun
      reads := nofun
      filled := nofun
      requested := nofun
      completing := nofun
      -- no thread has anything in its hands
      mentions := nofun }
  apart t u _ := ⟨nofun, nofun⟩
  cover p hp := by
    rw [h.live] at hp
    cases hp

/-! ### Changing one hand -/

section Steps

variable {s s' : SapState} {gh : ℕ → Hand} {t u : ℕ} {g' : Hand} {p q : Ptr}

/-- The thread `t` takes a step: the others keep their hands. What has to be shown is about the heap
and the new hand, that the hands are still apart, and that every block is still in one of them or in
the queue. -/
theorem Owned.update (inv : Owned s gh) (hheap : HeapInv s') (hhand : Holds s' t g')
    (hothers : ∀ u, u ≠ t → Holds s' u (gh u))
    (hapart : ∀ u, u ≠ t → Apart g' (gh u) ∧ Apart (gh u) g')
    (hcover : ∀ p, s'.live p = true → s'.kind p ≠ .command →
      (p ∈ g'.own ∨ ∃ u, u ≠ t ∧ p ∈ (gh u).own) ∨
        ∃ q ∈ s'.pendingResponseQueue, p = q ∨ p = (s'.requests q).curr) :
    Owned s' (Function.update gh t g') where
  heap := hheap
  -- only the hand of the thread is new
  hands u := by
    by_cases hu : u = t
    · rw [hu, Function.update_self]
      exact hhand
    · rw [Function.update_of_ne hu]
      exact hothers u hu
  -- hands are apart, also from the new one
  apart u v huv := by
    by_cases hu : u = t
    · have hv : v ≠ t := fun hv => huv (hu.trans hv.symm)
      rw [hu, Function.update_self, Function.update_of_ne hv]
      exact (hapart v hv).1
    · rw [Function.update_of_ne hu]
      by_cases hv : v = t
      · rw [hv, Function.update_self]
        exact (hapart u hu).2
      · rw [Function.update_of_ne hv]
        exact inv.apart u v huv
  -- what a hand covered is covered, by the new one or by those of the others
  cover p hp hkind := by
    refine (hcover p hp hkind).imp_left ?_
    rintro (hown | ⟨u, hu, hown⟩)
    · exact ⟨t, by rwa [Function.update_self]⟩
    · exact ⟨u, by rwa [Function.update_of_ne hu]⟩

/-- The objects that the threads hold are not those of the queue. -/
theorem Owned.own_ne (inv : Owned s gh) (hp : p ∈ (gh t).own) (hq : q ∈ s.pendingResponseQueue) :
    p ≠ q ∧ p ≠ (s.requests q).curr := by
  have howner := (inv.hands t).owner p hp
  constructor
  · rintro rfl
    rw [(inv.heap.owner _ hq).1] at howner
    cases howner
  · rintro rfl
    rw [(inv.heap.owner _ hq).2] at howner
    cases howner

/-- Two threads hold different objects. -/
theorem Owned.own_disjoint (inv : Owned s gh) (htu : t ≠ u) (hp : p ∈ (gh t).own)
    (hq : q ∈ (gh u).own) : p ≠ q := by
  rintro rfl
  have howner := (inv.hands t).owner p hp
  rw [(inv.hands u).owner p hq] at howner
  exact htu (Option.some.inj howner).symm

theorem Owned.cover_of (inv : Owned s gh) (t : ℕ) (hp : s.live p = true)
    (hkind : s.kind p ≠ .command) :
    (p ∈ (gh t).own ∨ ∃ u, u ≠ t ∧ p ∈ (gh u).own) ∨
      ∃ q ∈ s.pendingResponseQueue, p = q ∨ p = (s.requests q).curr := by
  refine (inv.cover p hp hkind).imp_left ?_
  rintro ⟨u, hu⟩
  by_cases hut : u = t
  · rw [hut] at hu
    exact .inl hu
  · exact .inr ⟨u, hut, hu⟩

theorem SapState.touch_of_live (hp : s.live p = true) : s.touch p = s := by
  unfold SapState.touch
  rw [hp, Bool.not_true, Bool.or_false]

/-! ### Reading -/

/-- A completion reads its request. -/
theorem Owned.getRequest (inv : Owned s gh) {h : Option Ptr}
    (hq : (gh t).completing = some (q, h)) :
    Owned s (Function.update gh t
      { gh t with completing := some (q, some (s.requests q).curr) }) := by
  have hhand := inv.hands t
  -- the thread was completing this request already
  obtain ⟨hmem, hgiven, -⟩ := hhand.completing q h hq
  have hbusy : ∀ q', Hand.Busy { gh t with completing := some (q, some (s.requests q).curr) } q' →
      (gh t).Busy q' := by
    rintro q' (h' | ⟨_, h'⟩)
    · exact .inl h'
    · cases h'
      exact .inr ⟨h, hq⟩
  refine inv.update inv.heap ?_ (fun u _ => inv.hands u) (fun u hu => ⟨?_, ?_⟩)
    fun p hp hkind => inv.cover_of t hp hkind
  · -- what it learns is the message of the request
    refine { hhand with completing := fun q' h' hq' => ?_ }
    cases hq'
    refine ⟨hmem, hgiven, fun h' hh' => ?_⟩
    cases hh'
    rfl
  · -- the other threads complete other requests
    exact ⟨(inv.apart t u (Ne.symm hu)).reads,
      fun q' hq' => (inv.apart t u (Ne.symm hu)).busy q' (hbusy q' hq')⟩
  · exact ⟨(inv.apart u t hu).reads, fun q' hq' hq'' =>
      (inv.apart u t hu).busy q' hq' (hbusy q' hq'')⟩

/-! ### Allocation -/

theorem Hand.Reads.of_insert {g : Hand} {x h : Ptr} {payload : Option Ptr} {c b : Option Ptr}
    (hx : ¬ g.Mentions x)
    (hreads : Hand.Reads { g with own := insert x g.own, command := c, blank := b } h payload) :
    g.Reads h payload := by
  obtain ⟨hmsg, hown | ⟨p, hp, hpayload⟩⟩ := hreads
  · refine ⟨hmsg, .inl ⟨(Finset.mem_insert.mp hown.1).resolve_left ?_, hown.2⟩⟩
    rintro rfl
    exact hx (.inr (.inr (.inl ⟨payload, hmsg⟩)))
  · refine ⟨hmsg, .inr ⟨p, (Finset.mem_insert.mp hp).resolve_left ?_, hpayload⟩⟩
    rintro rfl
    rw [hpayload] at hmsg
    exact hx (.inr (.inr (.inr (.inl ⟨h, hmsg⟩))))

/-- A new object does not change what is known of the others. -/
theorem Holds.allocated {g : Hand} (h : Holds s u g) (hheap : HeapInv s) (kind : Kind) :
    Holds (s.allocated t kind) u g := by
  -- a live block is not the one at the next address
  have hne : ∀ p, s.live p = true → p ≠ s.next := by
    rintro p hp rfl
    rw [hheap.fresh _ (Nat.le_refl _)] at hp
    cases hp
  -- what is said of live blocks stays, because only the new one is written
  refine { h with live := ?_, owner := ?_, command := ?_, blank := ?_, reads := ?_, mentions := ?_ }
  · exact fun p hp => s.live_allocated t kind (h.live p hp)
  · intro p hp
    rw [SapState.allocated_owner, Function.update_of_ne (hne p (h.live p hp))]
    exact h.owner p hp
  · intro p hp hcommand
    rw [SapState.allocated_kind, Function.update_of_ne (hne p (h.live p hp))]
    exact h.command p hp hcommand
  · intro p hp hblank
    rw [SapState.allocated_kind, Function.update_of_ne (hne p (h.live p hp))]
    exact h.blank p hp hblank
  · intro p payload hreads
    obtain ⟨hlive, hkind, hpayload⟩ := h.reads p payload hreads
    refine ⟨s.live_allocated t kind hlive, ?_, hpayload⟩
    rw [SapState.allocated_kind, Function.update_of_ne (hne p hlive)]
    exact hkind
  · exact fun p hp => Nat.lt_succ_of_lt (h.mentions p hp)

theorem HeapInv.allocated (h : HeapInv s) (t : ℕ) (kind : Kind) : HeapInv (s.allocated t kind) := by
  have hne : ∀ p, s.live p = true → p ≠ s.next := by
    rintro p hp rfl
    rw [h.fresh _ (Nat.le_refl _)] at hp
    cases hp
  refine { h with fresh := ?_, live := ?_, owner := ?_ }
  · -- above the next address nothing is live, as before
    intro p hp
    have hp' : s.next < p := Nat.lt_of_succ_le hp
    rw [SapState.allocated_live, Function.update_of_ne (Nat.ne_of_gt hp')]
    exact h.fresh p (Nat.le_of_lt hp')
  · -- the requests in the queue are live blocks
    intro q hq
    exact ⟨s.live_allocated t kind (h.live q hq).1, s.live_allocated t kind (h.live q hq).2⟩
  · intro q hq
    obtain ⟨hlive, hcurr⟩ := h.live q hq
    refine ⟨?_, ?_⟩
    · rw [SapState.allocated_owner, Function.update_of_ne (hne q hlive)]
      exact (h.owner q hq).1
    · show (s.allocated t kind).owner (s.requests q).curr = none
      rw [SapState.allocated_owner, Function.update_of_ne (hne _ hcurr)]
      exact (h.owner q hq).2

/-- The thread that allocates holds the new object. Its address is above all that were handed out,
so nobody has it. -/
theorem Owned.allocated (inv : Owned s gh) (t : ℕ) (kind : Kind) :
    Owned (s.allocated t kind)
      (Function.update gh t ((gh t).after (.allocate kind) (some s.next))) := by
  have hhand := inv.hands t
  -- the new address is above all that were handed out
  have hnew : ∀ u, ¬ (gh u).Mentions s.next :=
    fun u hu => Nat.lt_irrefl _ ((inv.hands u).mentions _ hu)
  have hfree : ∀ u, s.next ∉ (gh u).own := by
    intro u hu
    have hlive := (inv.hands u).live _ hu
    rw [inv.heap.fresh _ (Nat.le_refl _)] at hlive
    cases hlive
  have hall : Holds (s.allocated t kind) t (gh t) := hhand.allocated inv.heap kind
  have hreads : ∀ h payload, ((gh t).after (.allocate kind) (some s.next)).Reads h payload →
      (gh t).Reads h payload := fun h payload hr => Hand.Reads.of_insert (hnew t) hr
  refine inv.update (inv.heap.allocated t kind) ?_
    (fun u _ => (inv.hands u).allocated inv.heap kind) (fun u hu => ⟨?_, ?_⟩) ?_
  · refine { hall with
      live := ?_, owner := ?_, command := ?_, blank := ?_, reads := ?_, filled :=
      ?_, mentions := ?_ }
    · -- what the thread has is live: the new block, and those before
      intro p hp
      rcases Finset.mem_insert.mp hp with rfl | hp
      · exact s.live_allocated_next t kind
      · exact hall.live p hp
    · intro p hp
      rcases Finset.mem_insert.mp hp with rfl | hp
      · rw [SapState.allocated_owner, Function.update_self]
      · exact hall.owner p hp
    · -- a command that is allocated is the new object
      intro p hp hcommand
      by_cases hkind : kind = .command
      · rw [show p = s.next from (Option.some.inj ((if_pos hkind).symm.trans hcommand)).symm,
          SapState.allocated_kind, Function.update_self]
        exact hkind
      · replace hcommand : (gh t).command = some p := (if_neg hkind).symm.trans hcommand
        rcases Finset.mem_insert.mp hp with rfl | hp
        · exact absurd (.inl hcommand) (hnew t)
        · exact hall.command p hp hcommand
    · -- so is a blank header
      intro p hp hblank
      by_cases hkind : kind = .header
      · rw [show p = s.next from (Option.some.inj ((if_pos hkind).symm.trans hblank)).symm,
          SapState.allocated_kind, Function.update_self]
        exact hkind
      · replace hblank : (gh t).blank = some p := (if_neg hkind).symm.trans hblank
        rcases Finset.mem_insert.mp hp with rfl | hp
        · exact absurd (.inr (.inl hblank)) (hnew t)
        · exact hall.blank p hp hblank
    · -- what the thread may read are old blocks
      exact fun h payload hr => hall.reads h payload (hreads h payload hr)
    · -- a filled request is an old block too
      intro q hq h hfilled
      rcases Finset.mem_insert.mp hq with rfl | hq
      · exact absurd (.inr (.inr (.inr (.inr ⟨h, hfilled⟩)))) (hnew t)
      · exact hall.filled q hq h hfilled
    · -- the new address is below the next one
      rintro p (hcommand | hblank | hrest)
      · by_cases hkind : kind = .command
        · rw [show p = s.next from (Option.some.inj ((if_pos hkind).symm.trans hcommand)).symm]
          exact Nat.lt_succ_self _
        · exact hall.mentions p (.inl ((if_neg hkind).symm.trans hcommand))
      · by_cases hkind : kind = .header
        · rw [show p = s.next from (Option.some.inj ((if_pos hkind).symm.trans hblank)).symm]
          exact Nat.lt_succ_self _
        · exact hall.mentions p (.inr (.inl ((if_neg hkind).symm.trans hblank)))
      · exact hall.mentions p (.inr (.inr hrest))
  · -- no other thread has the new block or reads it
    exact ⟨fun h payload hr => (inv.apart t u hu.symm).reads h payload (hreads h payload hr),
      (inv.apart t u hu.symm).busy⟩
  · refine ⟨fun h payload hr hmem => ?_, (inv.apart u t hu).busy⟩
    rcases Finset.mem_insert.mp hmem with rfl | hmem
    · have hlive := ((inv.hands u).reads _ _ hr).1
      rw [inv.heap.fresh _ (Nat.le_refl _)] at hlive
      cases hlive
    · exact (inv.apart u t hu).reads h payload hr hmem
  · -- the new object belongs to the thread
    intro p hp hkind
    by_cases hnext : p = s.next
    · rw [hnext]
      exact .inl (.inl (Finset.mem_insert_self _ _))
    · rw [SapState.allocated_live, Function.update_of_ne hnext] at hp
      rw [SapState.allocated_kind, Function.update_of_ne hnext] at hkind
      exact (inv.cover_of t hp hkind).imp_left (Or.imp_left (Finset.mem_insert_of_mem))

/-! ### Writing -/

/-- The contents of the payloads and the callback do not matter. -/
theorem Owned.withData (inv : Owned s gh) (data : Ptr → PbBytesArray) (sapCallback : Bool)
    (log : List SapEvent) :
    Owned { s with data := data, sapCallback := sapCallback, log := log } gh where
  heap := { inv.heap with }
  hands t := { inv.hands t with }
  apart := inv.apart
  cover := inv.cover

/-- The thread writes the header of its message. It is the thread's own, so no header of a request
in the queue is changed. -/
theorem Owned.writeHeader (inv : Owned s gh) (msg : MsgHeader) (b : Option Ptr)
    (hp : p ∈ (gh t).own) (hdequeued : (gh t).dequeued ≠ some p) (hkind : s.kind p = .header)
    (hpayload : ∀ payload, msg.payload = some payload → payload < s.next)
    (hb : ∀ x, b = some x → (gh t).blank = some x) :
    Owned (s.writeHeader p msg)
      (Function.update gh t { gh t with msg := some (p, msg.payload), blank := b }) := by
  -- the header is the thread's own
  have hhand := inv.hands t
  have hlive := hhand.live p hp
  have hfaulty : (s.writeHeader p msg).faulty = false := by
    rw [SapState.writeHeader_faulty, SapState.touch_of_live hlive]
    exact inv.heap.faulty
  refine inv.update { inv.heap with faulty := hfaulty } ?_ (fun u hu => ?_)
    (fun u hu => ⟨?_, ?_⟩) ?_
  · refine { hhand with blank := ?_, reads := ?_, mentions := ?_ }
    · -- what the thread knows of its other blocks is not about this header
      exact fun x hx hblank => hhand.blank x hx (hb x hblank)
    · -- the message it may read is now this header, with the payload just written
      rintro h payload ⟨hmsg, -⟩
      cases hmsg
      refine ⟨hlive, hkind, ?_, fun hmem => (inv.own_ne hp hmem).1 rfl⟩
      rw [SapState.writeHeader_headers, Function.update_self]
    · -- every address it mentions is below the next one
      rintro x (h | h | ⟨payload, h⟩ | ⟨h', h⟩ | h)
      · exact hhand.mentions x (.inl h)
      · exact hhand.mentions x (.inr (.inl (hb x h)))
      · cases h
        rcases Nat.lt_or_ge p s.next with hlt | hge
        · exact hlt
        · rw [inv.heap.fresh p hge] at hlive
          cases hlive
      · exact hpayload x (congrArg Prod.snd (Option.some.inj h))
      · exact hhand.mentions x (.inr (.inr (.inr (.inr h))))
  · -- the header is not one that another thread reads
    refine { inv.hands u with reads := fun h payload hr => ?_ }
    have hne : h ≠ p := by
      rintro rfl
      exact hdequeued ((inv.apart u t hu).reads _ _ hr hp)
    obtain ⟨hlive', hkind', hpayload', hqueue⟩ := (inv.hands u).reads h payload hr
    refine ⟨hlive', hkind', ?_, hqueue⟩
    rw [SapState.writeHeader_headers, Function.update_of_ne hne]
    exact hpayload'
  · -- no other thread has the header
    refine ⟨fun h payload hr hmem => ?_, (inv.apart t u hu.symm).busy⟩
    obtain ⟨hmsg, -⟩ := hr
    cases hmsg
    exact absurd rfl (inv.own_disjoint hu.symm hp hmem)
  · exact ⟨(inv.apart u t hu).reads, (inv.apart u t hu).busy⟩
  · exact fun x hx hkind => inv.cover_of t hx hkind

/-- The thread fills in a request, which it has in its hand. The requests in the queue are
others. -/
theorem Owned.writeRequest (inv : Owned s gh) (request : SapSocketRequest) (hq : q ∈ (gh t).own) :
    Owned (s.writeRequest q request)
      (Function.update gh t { gh t with filled := some (q, request.curr) }) := by
  have hhand := inv.hands t
  have hlive := hhand.live q hq
  have hfaulty : (s.writeRequest q request).faulty = false := by
    rw [SapState.writeRequest_faulty, SapState.touch_of_live hlive]
    exact inv.heap.faulty
  -- the requests in the queue are others
  have hqueue : ∀ q' ∈ s.pendingResponseQueue, (s.writeRequest q request).requests q' =
      s.requests q' := by
    intro q' hq'
    rw [SapState.writeRequest_requests, Function.update_of_ne (inv.own_ne hq hq').1.symm]
  have hcompleting : ∀ u q' h, (gh u).completing = some (q', h) →
      q' ∈ s.pendingResponseQueue ∧ s.given q' = false ∧
        ∀ h', h = some h' → ((s.writeRequest q request).requests q').curr = h' := by
    intro u q' h hcompleting
    obtain ⟨hmem, hgiven, hcurr⟩ := (inv.hands u).completing q' h hcompleting
    refine ⟨hmem, hgiven, fun h' hh' => ?_⟩
    rw [hqueue q' hmem]
    exact hcurr h' hh'
  refine inv.update ?_ ?_ (fun u hu => ?_) (fun u hu => ⟨?_, ?_⟩) ?_
  · -- the requests in the queue are untouched, and so is all that the heap invariant says of them
    refine { inv.heap with
      faulty := hfaulty, live := ?_, owner := ?_, curr_inj := ?_, curr_ne := ?_ }
    · intro q' hq'
      rw [hqueue q' hq']
      exact inv.heap.live q' hq'
    · intro q' hq'
      rw [hqueue q' hq']
      exact inv.heap.owner q' hq'
    · intro q₁ h₁ q₂ h₂ heq
      rw [hqueue q₁ h₁, hqueue q₂ h₂] at heq
      exact inv.heap.curr_inj q₁ h₁ q₂ h₂ heq
    · intro q₁ h₁ q₂ h₂
      rw [hqueue q₁ h₁]
      exact inv.heap.curr_ne q₁ h₁ q₂ h₂
  · -- the thread's request is filled now
    refine { hhand with filled := ?_, completing := hcompleting t, mentions := ?_ }
    · intro q' _ h hfilled
      cases hfilled
      rw [SapState.writeRequest_requests, Function.update_self]
    · -- the request that is mentioned now is one of the thread's objects
      rintro x (h | h | h | h | ⟨h', h⟩)
      · exact hhand.mentions x (.inl h)
      · exact hhand.mentions x (.inr (.inl h))
      · exact hhand.mentions x (.inr (.inr (.inl h)))
      · exact hhand.mentions x (.inr (.inr (.inr (.inl h))))
      · cases h
        rcases Nat.lt_or_ge q s.next with hlt | hge
        · exact hlt
        · rw [inv.heap.fresh q hge] at hlive
          cases hlive
  · -- the requests of the other threads are others
    refine { inv.hands u with filled := fun q' hq' h hfilled => ?_, completing := hcompleting u }
    rw [SapState.writeRequest_requests, Function.update_of_ne (inv.own_disjoint hu hq' hq)]
    exact (inv.hands u).filled q' hq' h hfilled
  · -- reading and being busy are not about requests that are filled
    exact ⟨(inv.apart t u hu.symm).reads, (inv.apart t u hu.symm).busy⟩
  · exact ⟨(inv.apart u t hu).reads, (inv.apart u t hu).busy⟩
  · -- a block is owned, or hangs on a request in the queue, as before
    intro x hx hkind
    refine (inv.cover_of t hx hkind).imp_right ?_
    rintro ⟨q', hq', h⟩
    refine ⟨q', hq', ?_⟩
    rw [hqueue q' hq']
    exact h

/-! ### Releasing -/

theorem SapState.release_live_of_ne {x : Ptr} (hx : x ≠ p) :
    (s.release p).live x = s.live x := by
  rw [SapState.release_live, Function.update_of_ne hx]

theorem Owned.heap_release (inv : Owned s gh) (hp : p ∈ (gh t).own) : HeapInv (s.release p) := by
  have hfaulty : (s.release p).faulty = false := by
    rw [SapState.release_faulty, SapState.touch_of_live ((inv.hands t).live p hp)]
    exact inv.heap.faulty
  refine { inv.heap with faulty := hfaulty, fresh := ?_, live := ?_ }
  · -- the freed block is not live any more, which the invariant allows for every address
    intro x hx
    by_cases hxp : x = p
    · rw [hxp, SapState.release_live, Function.update_self]
    · rw [SapState.release_live_of_ne hxp]
      exact inv.heap.fresh x hx
  · -- what is in the queue belongs to no thread
    intro q hq
    obtain ⟨hne, hne'⟩ := inv.own_ne hp hq
    refine ⟨?_, ?_⟩
    · rw [SapState.release_live_of_ne hne.symm]
      exact (inv.heap.live q hq).1
    · show (s.release p).live (s.requests q).curr = true
      rw [SapState.release_live_of_ne hne'.symm]
      exact (inv.heap.live q hq).2

/-- A header whose payload a thread has is not released. -/
theorem Owned.ne_of_reads (inv : Owned s gh)
    (hpayload : s.kind p = .header → ∀ payload, (s.headers p).payload = some payload →
      s.live payload = false)
    {h x : Ptr} (hr : (gh t).Reads h (some x)) (hx : x ∈ (gh t).own) : h ≠ p := by
  rintro rfl
  obtain ⟨-, hkind, hheader, -⟩ := (inv.hands t).reads _ _ hr
  have hdead := hpayload hkind x hheader
  rw [(inv.hands t).live x hx] at hdead
  cases hdead

/-- The thread that releases has one object less. What is left in its hand are other blocks, and
they are as they were. -/
theorem Owned.hand_release (inv : Owned s gh)
    (hpayload : s.kind p = .header → ∀ payload, (s.headers p).payload = some payload →
      s.live payload = false) :
    Holds (s.release p) t { gh t with own := (gh t).own.erase p } := by
  have hhand := inv.hands t
  have hmem : ∀ x ∈ (gh t).own.erase p, x ≠ p ∧ x ∈ (gh t).own :=
    fun x hx => Finset.mem_erase.mp hx
  -- what is left in the hand are other blocks, and they are as they were
  refine { hhand with
    live := ?_, owner := ?_, command := ?_, blank := ?_, reads := ?_, filled := ?_ }
  · intro x hx
    rw [SapState.release_live_of_ne (hmem x hx).1]
    exact hhand.live x (hmem x hx).2
  · exact fun x hx => hhand.owner x (hmem x hx).2
  · exact fun x hx => hhand.command x (hmem x hx).2
  · exact fun x hx => hhand.blank x (hmem x hx).2
  · rintro h payload ⟨hmsg, ⟨hh, hdequeued⟩ | ⟨x, hx, rfl⟩⟩
    · -- the header is the thread's own
      obtain ⟨hlive', hrest⟩ := hhand.reads h payload ⟨hmsg, .inl ⟨(hmem h hh).2, hdequeued⟩⟩
      refine ⟨?_, hrest⟩
      rw [SapState.release_live_of_ne (hmem h hh).1]
      exact hlive'
    · -- its payload is
      have hr : (gh t).Reads h (some x) := ⟨hmsg, .inr ⟨x, (hmem x hx).2, rfl⟩⟩
      obtain ⟨hlive', hrest⟩ := hhand.reads h _ hr
      refine ⟨?_, hrest⟩
      rw [SapState.release_live_of_ne (inv.ne_of_reads hpayload hr (hmem x hx).2)]
      exact hlive'
  · -- a filled request that is left is another one
    exact fun q hq => hhand.filled q (hmem q hq).2

/-- What the other threads have and read is not released. -/
theorem Owned.other_release (inv : Owned s gh) (hp : p ∈ (gh t).own)
    (hpayload : s.kind p = .header → ∀ payload, (s.headers p).payload = some payload →
      s.live payload = false) (hu : u ≠ t) : Holds (s.release p) u (gh u) := by
  refine { inv.hands u with live := fun x hx => ?_, reads := fun h payload hr => ?_ }
  · rw [SapState.release_live_of_ne (inv.own_disjoint hu hx hp)]
    exact (inv.hands u).live x hx
  · obtain ⟨hlive', hrest⟩ := (inv.hands u).reads h payload hr
    refine ⟨?_, hrest⟩
    rcases hr with ⟨hmsg, ⟨hh, hdequeued⟩ | ⟨x, hx, rfl⟩⟩
    · rw [SapState.release_live_of_ne (inv.own_disjoint hu hh hp)]
      exact hlive'
    · rw [SapState.release_live_of_ne (inv.ne_of_reads hpayload ⟨hmsg, .inr ⟨x, hx, rfl⟩⟩ hx)]
      exact hlive'

/-- **A thread releases what it holds**, a header after its payload. -/
theorem Owned.release (inv : Owned s gh) (hp : p ∈ (gh t).own)
    (hpayload : s.kind p = .header → ∀ payload, (s.headers p).payload = some payload →
      s.live payload = false) :
    Owned (s.release p) (Function.update gh t { gh t with own := (gh t).own.erase p }) := by
  refine inv.update (inv.heap_release hp) (inv.hand_release hpayload)
    (fun u hu => inv.other_release hp hpayload hu) (fun u hu => ⟨?_, ?_⟩) ?_
  · -- no other thread reads what was freed
    refine ⟨?_, (inv.apart t u hu.symm).busy⟩
    rintro h payload ⟨hmsg, ⟨hh, hdequeued⟩ | ⟨x, hx, rfl⟩⟩ hmem
    · exact absurd rfl (inv.own_disjoint hu.symm (Finset.mem_of_mem_erase hh) hmem)
    · exact (inv.apart t u hu.symm).reads h _ ⟨hmsg, .inr ⟨x, Finset.mem_of_mem_erase hx, rfl⟩⟩ hmem
  · -- nor did the thread own what the others read
    exact ⟨fun h payload hr hmem => (inv.apart u t hu).reads h payload hr
      (Finset.mem_of_mem_erase hmem), (inv.apart u t hu).busy⟩
  · -- all that is left alive has who it belongs to
    intro x hx hkind
    have hne : x ≠ p := by
      rintro rfl
      rw [SapState.release_live, Function.update_self] at hx
      cases hx
    rw [SapState.release_live_of_ne hne] at hx
    refine (inv.cover_of t hx hkind).imp_left (Or.imp_left fun hown => ?_)
    exact Finset.mem_erase.mpr ⟨hne, hown⟩

/-! ### The queue -/

theorem Owned.busy_mem (inv : Owned s gh) (hq : (gh u).Busy q) :
    q ∈ s.pendingResponseQueue ∧ s.given q = false := by
  rcases hq with hrequested | ⟨h, hcompleting⟩
  · exact (inv.hands u).requested q hrequested
  · obtain ⟨hmem, hgiven, -⟩ := (inv.hands u).completing q h hcompleting
    exact ⟨hmem, hgiven⟩

theorem SapState.mem_enqueue {q' : Ptr} :
    q' ∈ (s.enqueue q).pendingResponseQueue ↔ q' = q ∨ q' ∈ s.pendingResponseQueue :=
  List.mem_cons

/-- Only the request and its header change their owner. -/
theorem SapState.enqueue_owner_of_ne {x : Ptr} (hxq : x ≠ q) (hxh : x ≠ (s.requests q).curr) :
    (s.enqueue q).owner x = s.owner x := by
  rw [SapState.enqueue_owner, Function.update_of_ne hxq, Function.update_of_ne hxh]

theorem SapState.enqueue_owner_eq_none {x : Ptr}
    (hx : x = q ∨ x = (s.requests q).curr ∨ s.owner x = none) : (s.enqueue q).owner x = none := by
  by_cases hxq : x = q
  · rw [hxq, SapState.enqueue_owner, Function.update_self]
  · by_cases hxh : x = (s.requests q).curr
    · rw [SapState.enqueue_owner, Function.update_of_ne hxq, hxh, Function.update_self]
    · rw [enqueue_owner_of_ne hxq hxh]
      exact (hx.resolve_left hxq).resolve_left hxh

/-- What the thread still holds when the request and its header are in the queue. -/
theorem mem_erase_erase {own : Finset Ptr} {x h : Ptr} (hx : x ∈ (own.erase q).erase h) :
    x ≠ q ∧ x ≠ h ∧ x ∈ own := by
  obtain ⟨hxh, hx⟩ := Finset.mem_erase.mp hx
  obtain ⟨hxq, hx⟩ := Finset.mem_erase.mp hx
  exact ⟨hxq, hxh, hx⟩

theorem Owned.notMem_queue (inv : Owned s gh) (hq : q ∈ (gh t).own) : q ∉ s.pendingResponseQueue :=
  fun hmem => (inv.own_ne hq hmem).1 rfl

/-- The queue with the new request in it. The socket is there, and the request was not in the queue
before, as the thread had it; the same is true of its header. -/
theorem Owned.heap_enqueue (inv : Owned s gh) {h : Ptr} (hsocket : s.socket = true)
    (hcurr : (s.requests q).curr = h) (hq : q ∈ (gh t).own) (hh : h ∈ (gh t).own) (hne : q ≠ h) :
    HeapInv (s.enqueue q) := by
  have hfaulty : (s.enqueue q).faulty = false := by
    rw [SapState.enqueue_faulty, SapState.touch_of_live ((inv.hands t).live q hq)]
    exact inv.heap.faulty
  -- the socket is there, and the request was not in the queue before
  refine { inv.heap with
    faulty := hfaulty, socket := fun _ => hsocket, nodup :=
      List.nodup_cons.mpr ⟨inv.notMem_queue hq, inv.heap.nodup⟩
    live := ?_, owner := ?_, curr_inj := ?_, curr_ne := ?_, given := ?_ }
  · -- the new request and its header were the thread's
    intro q' hq'
    rcases SapState.mem_enqueue.mp hq' with rfl | hq'
    · refine ⟨(inv.hands t).live _ hq, ?_⟩
      rw [show ((s.enqueue q').requests q').curr = h from hcurr]
      exact (inv.hands t).live h hh
    · exact inv.heap.live q' hq'
  · -- now they belong to no thread
    intro q' hq'
    rcases SapState.mem_enqueue.mp hq' with rfl | hq'
    · exact ⟨SapState.enqueue_owner_eq_none (.inl rfl),
        SapState.enqueue_owner_eq_none (.inr (.inl rfl))⟩
    · obtain ⟨h₁, h₂⟩ := inv.heap.owner q' hq'
      exact ⟨SapState.enqueue_owner_eq_none (.inr (.inr h₁)),
        SapState.enqueue_owner_eq_none (.inr (.inr h₂))⟩
  · -- the header of the new request is that of no other one
    intro q₁ hq₁ q₂ hq₂ heq
    rcases SapState.mem_enqueue.mp hq₁ with rfl | h₁ <;>
      rcases SapState.mem_enqueue.mp hq₂ with rfl | h₂
    · rfl
    · exact absurd (hcurr.symm.trans heq) (inv.own_ne hh h₂).2
    · exact absurd (hcurr.symm.trans heq.symm) (inv.own_ne hh h₁).2
    · exact inv.heap.curr_inj q₁ h₁ q₂ h₂ heq
  · -- a request is not its own header, neither the new one nor the old ones
    intro q₁ hq₁ q₂ hq₂
    rcases SapState.mem_enqueue.mp hq₁ with rfl | h₁ <;>
      rcases SapState.mem_enqueue.mp hq₂ with rfl | h₂
    · exact fun heq => hne (heq.symm.trans hcurr)
    · exact fun heq => (inv.own_ne hh h₂).1 (hcurr.symm.trans heq)
    · exact fun heq => (inv.own_ne hq h₁).2 heq.symm
    · exact inv.heap.curr_ne q₁ h₁ q₂ h₂
  · -- what the vendor has is still in the queue
    exact fun q' hq' => SapState.mem_enqueue.mpr (.inr (inv.heap.given q' hq'))

/-- The hand of the thread without the request and its header. -/
def Hand.enqueued (g : Hand) (q h : Ptr) : Hand :=
  { g with own := (g.own.erase q).erase h, requested := some q }

theorem Hand.Reads.of_enqueued {g : Hand} {h h' : Ptr} {payload : Option Ptr}
    (hreads : (g.enqueued q h).Reads h' payload) : g.Reads h' payload := by
  obtain ⟨hmsg, ⟨hown, hd⟩ | ⟨x, hx, hpayload⟩⟩ := hreads
  · exact ⟨hmsg, .inl ⟨(mem_erase_erase hown).2.2, hd⟩⟩
  · exact ⟨hmsg, .inr ⟨x, (mem_erase_erase hx).2.2, hpayload⟩⟩

theorem Hand.Busy.of_enqueued {g : Hand} {h q' : Ptr} (hbusy : (g.enqueued q h).Busy q') :
    q' = q ∨ g.Busy q' := by
  rcases hbusy with hrequested | hcompleting
  · exact .inl (Option.some.inj hrequested).symm
  · exact .inr (.inr hcompleting)

/-- What the thread holds is what it held, without the two objects. They belong to the queue from
now on. -/
theorem Owned.hand_enqueue (inv : Owned s gh) {h : Ptr} {payload : Option Ptr}
    (hcurr : (s.requests q).curr = h) (hmsg : (gh t).msg = some (h, payload))
    (hq : q ∈ (gh t).own) (hne : q ≠ h) : Holds (s.enqueue q) t ((gh t).enqueued q h) := by
  have hhand := inv.hands t
  refine { hhand with
    live := ?_, owner := ?_, command := ?_, blank := ?_, reads := ?_, filled := ?_, requested := ?_,
    completing := ?_ }
  · -- the request and its header leave the hand, the other blocks are as they were
    exact fun x hx => hhand.live x (mem_erase_erase hx).2.2
  · intro x hx
    obtain ⟨hxq, hxh, hx⟩ := mem_erase_erase hx
    rw [SapState.enqueue_owner_of_ne hxq (hcurr ▸ hxh)]
    exact hhand.owner x hx
  · exact fun x hx => hhand.command x (mem_erase_erase hx).2.2
  · exact fun x hx => hhand.blank x (mem_erase_erase hx).2.2
  · -- the message is read at the other header, which is not queued
    intro h' payload hr
    obtain ⟨hlive, hkind, hpayload, hqueue⟩ := hhand.reads h' payload hr.of_enqueued
    refine ⟨hlive, hkind, hpayload, fun hmem => ?_⟩
    rcases SapState.mem_enqueue.mp hmem with rfl | hmem
    · exact hne (congrArg Prod.fst (Option.some.inj (hr.1.symm.trans hmsg)))
    · exact hqueue hmem
  · -- no request but the queued one was filled
    exact fun q' hq' => hhand.filled q' (mem_erase_erase hq').2.2
  · -- the new request is in the queue and was not given to the vendor
    intro q' hq'
    cases hq'
    refine ⟨SapState.mem_enqueue.mpr (.inl rfl), ?_⟩
    by_contra hgiven
    exact inv.notMem_queue hq (inv.heap.given q (by simpa using hgiven))
  · -- a request that the thread completes is still in the queue
    intro q' h' hq'
    obtain ⟨hmem, hrest⟩ := hhand.completing q' h' hq'
    exact ⟨SapState.mem_enqueue.mpr (.inr hmem), hrest⟩

/-- The other threads hold neither of the two objects. -/
theorem Owned.other_enqueue (inv : Owned s gh) {h : Ptr} (hcurr : (s.requests q).curr = h)
    (hq : q ∈ (gh t).own) (hh : h ∈ (gh t).own) (hdequeued : (gh t).dequeued = none) (hu : u ≠ t) :
    Holds (s.enqueue q) u (gh u) := by
  have hhand := inv.hands u
  refine { hhand with owner := ?_, reads := ?_, requested := ?_, completing := ?_ }
  · -- the owners of other blocks do not change
    intro x hx
    rw [SapState.enqueue_owner_of_ne (inv.own_disjoint hu hx hq)
      (hcurr ▸ inv.own_disjoint hu hx hh)]
    exact hhand.owner x hx
  · -- a header that another thread reads is not the one that was queued
    intro h' payload hr
    obtain ⟨hlive, hkind, hpayload, hqueue⟩ := hhand.reads h' payload hr
    refine ⟨hlive, hkind, hpayload, fun hmem => ?_⟩
    rcases SapState.mem_enqueue.mp hmem with rfl | hmem
    · have hd := (inv.apart u t hu).reads _ _ hr hq
      rw [hdequeued] at hd
      cases hd
    · exact hqueue hmem
  · -- what the others are busy with stays in the queue
    intro q' hq'
    obtain ⟨hmem, hrest⟩ := hhand.requested q' hq'
    exact ⟨SapState.mem_enqueue.mpr (.inr hmem), hrest⟩
  · intro q' h' hq'
    obtain ⟨hmem, hrest⟩ := hhand.completing q' h' hq'
    exact ⟨SapState.mem_enqueue.mpr (.inr hmem), hrest⟩

/-- **The request and its header enter the queue.** The two leave the hand of the thread together,
so every block is still with a thread or in the queue. -/
theorem Owned.enqueue (inv : Owned s gh) {h : Ptr} (hsocket : s.socket = true)
    {payload : Option Ptr} (hfilled : (gh t).filled = some (q, h))
    (hmsg : (gh t).msg = some (h, payload)) (hq : q ∈ (gh t).own) (hh : h ∈ (gh t).own)
    (hne : q ≠ h) (hdequeued : (gh t).dequeued = none) :
    Owned (s.enqueue q) (Function.update gh t ((gh t).enqueued q h)) := by
  -- the request was filled with the header
  have hcurr : (s.requests q).curr = h := (inv.hands t).filled q hq h hfilled
  have hnew := inv.notMem_queue hq
  refine inv.update (inv.heap_enqueue hsocket hcurr hq hh hne) (inv.hand_enqueue hcurr hmsg hq hne)
    (fun u hu => inv.other_enqueue hcurr hq hh hdequeued hu) (fun u hu => ⟨?_, ?_⟩) ?_
  · -- the new request was in no queue, so nobody else is busy with it
    refine ⟨fun h' payload hr => (inv.apart t u hu.symm).reads h' payload hr.of_enqueued, ?_⟩
    intro q' hq' hu'
    rcases hq'.of_enqueued with rfl | hq'
    · exact hnew (inv.busy_mem hu').1
    · exact (inv.apart t u hu.symm).busy q' hq' hu'
  · -- and the other way round
    refine ⟨fun h' payload hr hx => (inv.apart u t hu).reads h' payload hr
      (mem_erase_erase hx).2.2, ?_⟩
    intro q' hu' hq'
    rcases hq'.of_enqueued with rfl | hq'
    · exact hnew (inv.busy_mem hu').1
    · exact (inv.apart u t hu).busy q' hu' hq'
  · -- the two objects belong to the queue now
    intro x hx hkind
    rcases inv.cover_of t hx hkind with (hown | hown) | ⟨q', hq', hx'⟩
    · by_cases hxq : x = q
      · exact .inr ⟨q, SapState.mem_enqueue.mpr (.inl rfl), .inl hxq⟩
      · by_cases hxh : x = h
        · exact .inr ⟨q, SapState.mem_enqueue.mpr (.inl rfl), .inr (hxh.trans hcurr.symm)⟩
        · exact .inl (.inl (Finset.mem_erase.mpr ⟨hxh, Finset.mem_erase.mpr ⟨hxq, hown⟩⟩))
    · exact .inl (.inr hown)
    · exact .inr ⟨q', SapState.mem_enqueue.mpr (.inr hq'), hx'⟩

/-- The vendor gets the request. No other thread is busy with it, so only the flag of the request is
changed. -/
theorem Owned.handedOver (inv : Owned s gh) (hq : (gh t).requested = some q)
    (hcompleting : (gh t).completing = none) (id : MsgId) (data : List UInt8) (size : ℕ) :
    Owned (s.handedOver id data size q) (Function.update gh t { gh t with requested := none }) := by
  have hhand := inv.hands t
  obtain ⟨hmem, -⟩ := hhand.requested q hq
  have hgiven : ∀ q', q' ≠ q → (s.handedOver id data size q).given q' = s.given q' := by
    intro q' hq'
    rw [SapState.handedOver_given, Function.update_of_ne hq']
  -- no other thread is busy with the request
  have hother : ∀ u q', u ≠ t → (gh u).Busy q' → q' ≠ q := by
    rintro u q' hu hbusy rfl
    exact (inv.apart t u hu.symm).busy q' (.inl hq) hbusy
  refine inv.update { inv.heap with given := ?_ } ?_ (fun u hu => ?_) (fun u hu => ⟨?_, ?_⟩) ?_
  · -- the vendor has the new request, which is in the queue
    intro q' hq'
    by_cases heq : q' = q
    · rw [heq]
      exact hmem
    · rw [hgiven q' heq] at hq'
      exact inv.heap.given q' hq'
  · -- the thread is not completing anything
    refine { hhand with requested := nofun, completing := ?_ }
    intro q' h hq'
    rw [hcompleting] at hq'
    cases hq'
  · -- the requests of the other threads are not the one handed over
    refine { inv.hands u with requested := ?_, completing := ?_ }
    · intro q' hq'
      rw [hgiven q' (hother u q' hu (.inl hq'))]
      exact (inv.hands u).requested q' hq'
    · intro q' h hq'
      rw [hgiven q' (hother u q' hu (.inr ⟨h, hq'⟩))]
      exact (inv.hands u).completing q' h hq'
  · -- the thread is busy with less than before
    exact ⟨(inv.apart t u hu.symm).reads, fun q' hq' =>
      (inv.apart t u hu.symm).busy q' (hq'.imp_left nofun)⟩
  · exact ⟨(inv.apart u t hu).reads,
      fun q' hu' hq' => (inv.apart u t hu).busy q' hu' (hq'.imp_left nofun)⟩
  · -- the owners are the same
    exact fun x hx hkind => inv.cover_of t hx hkind

/-- The vendor begins to complete a request that it has. No other thread does so, since a thread is
busy only with what the vendor has not got. -/
theorem Owned.begun (inv : Owned s gh) (hq : s.given q = true) (t : ℕ) :
    Owned (s.begun q) (Function.update gh t { gh t with completing := some (q, none) }) := by
  have hhand := inv.hands t
  -- a thread is busy only with what the vendor has not got
  have hne : ∀ u q', (gh u).Busy q' → q' ≠ q := by
    rintro u q' hbusy rfl
    rw [(inv.busy_mem hbusy).2] at hq
    cases hq
  have hgiven : ∀ q', s.given q' = false → (s.begun q).given q' = false := by
    intro q' hq'
    by_cases heq : q' = q
    · rw [heq, SapState.begun_given, Function.update_self]
    · rw [SapState.begun_given, Function.update_of_ne heq]
      exact hq'
  have hbusy : ∀ q', Hand.Busy { gh t with completing := some (q, none) } q' →
      q' = q ∨ (gh t).Busy q' := by
    rintro q' (hrequested | ⟨h, hcompleting⟩)
    · exact .inr (.inl hrequested)
    · cases hcompleting
      exact .inl rfl
  have hself : (s.begun q).given q = false := by
    rw [SapState.begun_given, Function.update_self]
  refine inv.update { inv.heap with given := ?_ } ?_ (fun u hu => ?_) (fun u hu => ⟨?_, ?_⟩) ?_
  · -- what the vendor still has is in the queue
    intro q' hq'
    by_cases heq : q' = q
    · rw [heq, hself] at hq'
      cases hq'
    · rw [SapState.begun_given, Function.update_of_ne heq] at hq'
      exact inv.heap.given q' hq'
  · -- the thread has begun to complete `q`, and `q` is back from the vendor
    refine { hhand with requested := ?_, completing := ?_ }
    · intro q' hq'
      obtain ⟨hmem, hgiven'⟩ := hhand.requested q' hq'
      exact ⟨hmem, hgiven q' hgiven'⟩
    · intro q' h hq'
      cases hq'
      exact ⟨inv.heap.given q hq, hself, nofun⟩
  · -- what the other threads are busy with was not the vendor's
    refine { inv.hands u with requested := ?_, completing := ?_ }
    · intro q' hq'
      obtain ⟨hmem, hgiven'⟩ := (inv.hands u).requested q' hq'
      exact ⟨hmem, hgiven q' hgiven'⟩
    · intro q' h hq'
      obtain ⟨hmem, hgiven', hcurr⟩ := (inv.hands u).completing q' h hq'
      exact ⟨hmem, hgiven q' hgiven', hcurr⟩
  · -- the two are not busy with one request
    refine ⟨(inv.apart t u hu.symm).reads, fun q' hq' hu' => ?_⟩
    rcases hbusy q' hq' with rfl | hq'
    · exact hne u _ hu' rfl
    · exact (inv.apart t u hu.symm).busy q' hq' hu'
  · refine ⟨(inv.apart u t hu).reads, fun q' hu' hq' => ?_⟩
    rcases hbusy q' hq' with rfl | hq'
    · exact hne u _ hu' rfl
    · exact (inv.apart u t hu).busy q' hu' hq'
  · exact fun x hx hkind => inv.cover_of t hx hkind

/-- The loop of `checkAndDequeue` changes nothing as long as the requests are live. -/
theorem SapState.checkAndDequeueLoop_live {rest : List Ptr} (id : MsgId) (token : ℤ)
    (hlive : ∀ q ∈ rest, s.live q = true ∧ s.live (s.requests q).curr = true) :
    (SapState.checkAndDequeueLoop id token rest s).2 = s := by
  induction rest with
  | nil => rfl
  | cons cur rest ih =>
    have hrest := ih fun q hq => hlive q (List.mem_cons_of_mem _ hq)
    obtain ⟨hcur, hcurr⟩ := hlive cur List.mem_cons_self
    unfold SapState.checkAndDequeueLoop
    dsimp only
    rw [SapState.touch_of_live hcur, SapState.touch_of_live hcurr]
    split
    · split
      · rfl
      · exact hrest
    · exact hrest

/-- The request `q` has left the queue, and its header is in the hand of the thread `t`. -/
structure Dequeued (s : SapState) (t : ℕ) (q : Ptr) (s' : SapState) : Prop where
  faulty : s'.faulty = s.faulty
  next : s'.next = s.next
  socket : s'.socket = s.socket
  queue : s'.pendingResponseQueue = s.pendingResponseQueue.erase q
  live : s'.live = Function.update s.live q false
  owner : s'.owner = Function.update s.owner (s.requests q).curr (some t)
  kind : s'.kind = s.kind
  headers : s'.headers = s.headers
  requests : s'.requests = s.requests
  given : s'.given = s.given

theorem HeapInv.dequeued (inv : HeapInv s) {id : MsgId} {token : ℤ}
    (hfind : (s.pendingResponseQueue.find? fun q' => decide (HasPair s id token q')) = some q)
    (t : ℕ) :
    Dequeued s t q ((s.checkAndDequeue id token).2.completed t q) := by
  have hlive := (inv.live q (List.mem_of_find?_eq_some hfind)).1
  have hloop : SapState.checkAndDequeueLoop id token s.pendingResponseQueue s = (some q, s) :=
    Prod.ext ((checkAndDequeueLoop_fst _ s).trans hfind)
      (SapState.checkAndDequeueLoop_live id token inv.live)
  have hdequeue : (s.checkAndDequeue id token).2 =
      { s with pendingResponseQueue := s.pendingResponseQueue.erase q }.release q := by
    unfold SapState.checkAndDequeue
    rw [hloop]
  rw [hdequeue]
  refine ⟨?_, rfl, rfl, rfl, rfl, rfl, rfl, rfl, rfl, rfl⟩
  show (s.faulty || !s.live q) = s.faulty
  rw [hlive, Bool.not_true, Bool.or_false]

section Dequeued

variable {h : Ptr}

theorem Dequeued.mem_queue (hs' : Dequeued s t q s') (inv : HeapInv s) {q' : Ptr} :
    q' ∈ s'.pendingResponseQueue ↔ q' ≠ q ∧ q' ∈ s.pendingResponseQueue := by
  rw [hs'.queue, inv.nodup.mem_erase_iff]

theorem Dequeued.live_of_ne (hs' : Dequeued s t q s') {x : Ptr} (hx : x ≠ q) :
    s'.live x = s.live x := by
  rw [hs'.live, Function.update_of_ne hx]

theorem Dequeued.owner_of_ne (hs' : Dequeued s t q s') (hcurr : (s.requests q).curr = h) {x : Ptr}
    (hx : x ≠ h) : s'.owner x = s.owner x := by
  rw [hs'.owner, hcurr, Function.update_of_ne hx]

/-- The queue without the request. Each request in the queue has a header of its own, so the headers
of the others are still there. -/
theorem Dequeued.heap (hs' : Dequeued s t q s') (inv : HeapInv s)
    (hq : q ∈ s.pendingResponseQueue) (hgiven : s.given q = false)
    (hcurr : (s.requests q).curr = h) : HeapInv s' := by
  -- each request in the queue has a header of its own
  have hcurr_ne : ∀ q' ∈ s'.pendingResponseQueue, (s.requests q').curr ≠ h := by
    intro q' hq' heq
    obtain ⟨hne, hmem⟩ := (hs'.mem_queue inv).mp hq'
    exact hne (inv.curr_inj q' hmem q hq (heq.trans hcurr.symm))
  refine
    { faulty := hs'.faulty.trans inv.faulty, fresh := ?_, socket := ?_, nodup := ?_,
      live := ?_, owner := ?_, curr_inj := ?_, curr_ne := ?_, given := ?_ }
  · -- the freed request is below the next address
    intro x hx
    rw [hs'.next] at hx
    by_cases hxq : x = q
    · rw [hs'.live, hxq, Function.update_self]
    · rw [hs'.live_of_ne hxq]
      exact inv.fresh x hx
  · -- the socket is there, as the queue was not empty
    intro _
    rw [hs'.socket]
    exact inv.socket (List.ne_nil_of_mem hq)
  · -- one request less, and the others are still different
    rw [hs'.queue]
    exact inv.nodup.erase q
  · -- the other requests and their headers are live
    intro q' hq'
    obtain ⟨hne, hmem⟩ := (hs'.mem_queue inv).mp hq'
    rw [hs'.requests, hs'.live_of_ne hne, hs'.live_of_ne (inv.curr_ne q' hmem q hq)]
    exact inv.live q' hmem
  · -- the header that has got an owner is that of no request in the queue
    intro q' hq'
    have hh := hcurr_ne q' hq'
    obtain ⟨-, hmem⟩ := (hs'.mem_queue inv).mp hq'
    have hne : q' ≠ h := by
      rw [← hcurr]
      exact (inv.curr_ne q hq q' hmem).symm
    rw [hs'.requests, hs'.owner_of_ne hcurr hne, hs'.owner_of_ne hcurr hh]
    exact inv.owner q' hmem
  · -- they still have headers of their own
    intro q₁ h₁ q₂ h₂ heq
    rw [hs'.requests] at heq
    exact inv.curr_inj q₁ ((hs'.mem_queue inv).mp h₁).2 q₂ ((hs'.mem_queue inv).mp h₂).2 heq
  · intro q₁ h₁ q₂ h₂
    rw [hs'.requests]
    exact inv.curr_ne q₁ ((hs'.mem_queue inv).mp h₁).2 q₂ ((hs'.mem_queue inv).mp h₂).2
  · -- the vendor has another request
    intro q' hq'
    rw [hs'.given] at hq'
    refine (hs'.mem_queue inv).mpr ⟨?_, inv.given q' hq'⟩
    rintro rfl
    rw [hgiven] at hq'
    cases hq'

/-- The completion holds the header and nothing else. -/
theorem Dequeued.hand (hs' : Dequeued s t q s') (inv : HeapInv s)
    (hq : q ∈ s.pendingResponseQueue) (hcurr : (s.requests q).curr = h) :
    Holds s' t
      { Hand.completionOf q h with own := {h}, dequeued := some h, completing := none } := by
  have hne : h ≠ q := by
    rw [← hcurr]
    exact inv.curr_ne q hq q hq
  have hsocket : s.socket = true := inv.socket (List.ne_nil_of_mem hq)
  have hown : ∀ x ∈ ({h} : Finset Ptr), x = h := fun x => Finset.mem_singleton.mp
  refine
    { live := ?_, owner := ?_, command := nofun, blank := nofun, reads := nofun, filled := nofun,
      requested := nofun, completing := nofun, mentions := nofun
      socket := fun _ => hs'.socket.trans hsocket }
  · -- the header was alive in the queue, and it was not freed
    intro x hx
    rw [hown x hx, hs'.live_of_ne hne, ← hcurr]
    exact (inv.live q hq).2
  · -- its new owner is the thread
    intro x hx
    rw [hown x hx, hs'.owner, hcurr, Function.update_self]

/-- The other threads hold neither the request nor the header, since what a thread has is in no
queue. -/
theorem Dequeued.other (hs' : Dequeued s t q s') (inv : Owned s gh)
    (hq : q ∈ s.pendingResponseQueue) (hcurr : (s.requests q).curr = h)
    (hbusy : ∀ q', (gh u).Busy q' → q' ≠ q) : Holds s' u (gh u) := by
  have hhand := inv.hands u
  -- what another thread has is in no queue
  have hother : ∀ x ∈ (gh u).own, x ≠ q ∧ x ≠ h := by
    intro x hx
    obtain ⟨h₁, h₂⟩ := inv.own_ne hx hq
    rw [hcurr] at h₂
    exact ⟨h₁, h₂⟩
  refine
    { live := ?_, owner := ?_, command := ?_, blank := ?_, socket := ?_, reads := ?_,
      filled := ?_, requested := ?_, completing := ?_, mentions := ?_ }
  · -- the dequeued request was nobody's, so each part of the hand is as before
    intro x hx
    rw [hs'.live_of_ne (hother x hx).1]
    exact hhand.live x hx
  · intro x hx
    rw [hs'.owner_of_ne hcurr (hother x hx).2]
    exact hhand.owner x hx
  · rw [hs'.kind]
    exact hhand.command
  · rw [hs'.kind]
    exact hhand.blank
  · rw [hs'.socket]
    exact hhand.socket
  · -- a header that is read is not a request of the queue
    intro h' payload hr
    obtain ⟨hlive, hkind, hpayload, hqueue⟩ := hhand.reads h' payload hr
    have hne : h' ≠ q := by
      rintro rfl
      exact hqueue hq
    rw [hs'.live_of_ne hne, hs'.kind, hs'.headers]
    exact ⟨hlive, hkind, hpayload, fun hmem => hqueue ((hs'.mem_queue inv.heap).mp hmem).2⟩
  · rw [hs'.requests]
    exact hhand.filled
  · -- the requests that the thread is busy with are others, and stay in the queue
    intro q' hq'
    obtain ⟨hmem, hgiven⟩ := hhand.requested q' hq'
    rw [hs'.given]
    exact ⟨(hs'.mem_queue inv.heap).mpr ⟨hbusy q' (.inl hq'), hmem⟩, hgiven⟩
  · intro q' h' hq'
    obtain ⟨hmem, hrest⟩ := hhand.completing q' h' hq'
    rw [hs'.given, hs'.requests]
    exact ⟨(hs'.mem_queue inv.heap).mpr ⟨hbusy q' (.inr ⟨h', hq'⟩), hmem⟩, hrest⟩
  · rw [hs'.next]
    exact hhand.mentions

/-- **A completion dequeues its request**, and is left with the header. The request was in the queue
and back from the vendor, and no other thread completes it. -/
theorem Owned.dequeued (inv : Owned s gh) (hhand : gh t = Hand.completionOf q h)
    (hs' : Dequeued s t q s') :
    Owned s' (Function.update gh t
      { Hand.completionOf q h with own := {h}, dequeued := some h, completing := none }) := by
  have hcompleting : (gh t).completing = some (q, some h) := by
    rw [hhand]
    rfl
  -- the request was in the queue and back from the vendor
  obtain ⟨hq, hgiven, hcurr'⟩ := (inv.hands t).completing q (some h) hcompleting
  have hcurr := hcurr' h rfl
  -- no other thread completes it
  have hbusy : ∀ u, u ≠ t → ∀ q', (gh u).Busy q' → q' ≠ q := by
    rintro u hu q' hbusy rfl
    exact (inv.apart t u hu.symm).busy _ (.inr ⟨some h, hcompleting⟩) hbusy
  refine inv.update (hs'.heap inv.heap hq hgiven hcurr) (hs'.hand inv.heap hq hcurr)
    (fun u hu => hs'.other inv hq hcurr (hbusy u hu))
    (fun u hu => ⟨⟨nofun, nofun⟩, fun h' payload _ hmem => ?_, fun q' _ => nofun⟩) ?_
  · rw [Finset.mem_singleton.mp hmem]
  · -- what belonged to the request is the header, and the thread has that
    intro x hx hkind
    have hxq : x ≠ q := by
      rintro rfl
      rw [hs'.live, Function.update_self] at hx
      cases hx
    rw [hs'.live_of_ne hxq] at hx
    rw [hs'.kind] at hkind
    rcases inv.cover_of t hx hkind with (hown | hown) | ⟨q', hq', hx'⟩
    · rw [hhand] at hown
      exact absurd hown (Finset.notMem_empty x)
    · exact .inl (.inr hown)
    · by_cases hq'q : q' = q
      · rw [hq'q, hcurr] at hx'
        exact .inl (.inl (Finset.mem_singleton.mpr (hx'.resolve_left hxq)))
      · rw [hs'.requests]
        exact .inr ⟨q', (hs'.mem_queue inv.heap).mpr ⟨hq'q, hq'⟩, hx'⟩

end Dequeued

/-- An operation that changes neither the hand nor the heap. -/
theorem Owned.same (inv : Owned s gh) (t : ℕ) : Owned s (Function.update gh t (gh t)) := by
  rw [Function.update_eq_self]
  exact inv

/-- Nothing is lost when a thread returns. -/
theorem Owned.emptied (inv : Owned s gh) (hdone : (gh t).Done) :
    Owned s (Function.update gh t Hand.empty) := by
  refine inv.update inv.heap ?_ (fun u _ => inv.hands u) (fun u hu => ⟨⟨nofun, nofun⟩, ?_⟩) ?_
  · -- an empty hand satisfies every condition
    exact
      { live := nofun
        owner := nofun
        command := nofun
        blank := nofun
        socket := nofun
        reads := nofun
        filled := nofun
        requested := nofun
        completing := nofun
        mentions := nofun }
  · exact ⟨nofun, fun _ _ => nofun⟩
  · -- what was left in the hand is a copy of the command, which is not counted
    intro p hp hkind
    refine (inv.cover_of t hp hkind).imp_left (Or.imp_left fun hown => ?_)
    exact absurd ((inv.hands t).command p hown (hdone p hown)) hkind

theorem Owned.next_notMem (inv : Owned s gh) (t : ℕ) : s.next ∉ (gh t).own := by
  intro hmem
  have hlive := (inv.hands t).live _ hmem
  rw [inv.heap.fresh _ (Nat.le_refl _)] at hlive
  cases hlive

theorem Owned.lt_next (inv : Owned s gh) (hp : s.live p = true) : p < s.next := by
  rcases Nat.lt_or_ge p s.next with hlt | hge
  · exact hlt
  · rw [inv.heap.fresh p hge] at hp
    cases hp

/-- The headers that the hand permits to read are live. -/
theorem Owned.header_live (inv : Owned s gh) (hp : (gh t).Permits (.getHeader p)) :
    s.live p = true := by
  rcases hp with ⟨payload, hreads⟩ | ⟨q, hcompleting⟩
  · exact ((inv.hands t).reads p payload hreads).1
  · obtain ⟨hq, -, hcurr⟩ := (inv.hands t).completing q (some p) hcompleting
    rw [← hcurr p rfl]
    exact (inv.heap.live q hq).2

/-- The thread learns whether there is a socket. -/
theorem Owned.getSocketById (inv : Owned s gh) (t : ℕ) :
    Owned s (Function.update gh t { gh t with socket := s.socket }) := by
  refine inv.update inv.heap { inv.hands t with socket := fun h => h } (fun u _ => inv.hands u)
    (fun u hu => ⟨?_, ?_⟩) fun p hp hkind => inv.cover_of t hp hkind
  · exact ⟨(inv.apart t u hu.symm).reads, (inv.apart t u hu.symm).busy⟩
  · exact ⟨(inv.apart u t hu).reads, (inv.apart u t hu).busy⟩

/-- What the hand says of the result is right. A new object is not one of the thread's, and what was
written to a header is what is read from it. -/
theorem Owned.fits {o : SapOp} {r : o.Res} (inv : Owned s gh) (hallow : (gh t).Permits o)
    (hsem : anySem t o r s s') (hok : Orderly s (.op t o r)) : (gh t).Fits o r := by
  cases o with
  | allocate kind =>
    -- the new object is not one of the thread's
    have hnew : ∀ p, r = some p → p ∉ (gh t).own := by
      intro p hp
      rcases hsem with ⟨-, hr, -⟩ | ⟨-, hr, -⟩
      · rw [hr] at hp
        cases hp
      · rw [hr] at hp
        cases hp
        exact inv.next_notMem t
    cases kind with
    | request =>
      obtain ⟨q, hq⟩ := hok
      exact ⟨q, hq, hnew q hq⟩
    | _ => exact hnew
  | getHeader p =>
    -- what the message was decoded with is read back
    obtain ⟨hr, -⟩ := hsem
    intro payload hreads
    rw [hr (inv.header_live hallow)]
    exact ((inv.hands t).reads p payload hreads).2.2.1
  | getSocketById =>
    -- there is a request in the queue, so the socket is there
    obtain ⟨hr, -⟩ := hsem
    intro hcompleting
    obtain ⟨⟨q, h⟩, hcompleting⟩ := Option.ne_none_iff_exists'.mp hcompleting
    have hq := ((inv.hands t).completing q h hcompleting).1
    exact hr.trans (inv.heap.socket (List.ne_nil_of_mem hq))
  | onRequest id data size q => exact hok
  | _ => trivial

/-- **What the hand of a thread permits, and what is orderly, keeps the invariant.** One case for
each command, each by the lemma about what it does to the heap. -/
theorem Owned.step {o : SapOp} {r : o.Res} (inv : Owned s gh) (hallow : (gh t).Permits o)
    (hsem : anySem t o r s s') (hok : Orderly s (.op t o r)) :
    ∃ g, ((gh t).Fits o r ∧ g = (gh t).after o r) ∧ Owned s' (Function.update gh t g) := by
  have hhand := inv.hands t
  refine ⟨_, ⟨inv.fits hallow hsem hok, rfl⟩, ?_⟩
  -- one case for each command, each by the lemma about what it does to the heap
  cases o with
  -- refused memory changes nothing, a new block goes into the hand
  | allocate kind =>
    rcases hsem with ⟨-, rfl, rfl⟩ | ⟨-, rfl, rfl⟩
    · exact inv.same t
    · exact inv.allocated t kind
  -- the block is the thread's own, so it is freed once
  | free p =>
    obtain rfl := hsem
    exact inv.release hallow hok
  | getHeader p =>
    -- what is read is alive
    obtain ⟨-, rfl⟩ := hsem
    rw [SapState.touch_of_live (inv.header_live hallow)]
    exact inv.same t
  | setHeader p msg =>
    obtain rfl := hsem
    -- a header is first written without a payload
    obtain ⟨hown, hdequeued, hblank, hpayload⟩ := hallow
    refine inv.writeHeader msg none hown hdequeued (hhand.blank p hown hblank)
      (fun x hx => ?_) nofun
    rw [hpayload] at hx
    cases hx
  | setPayload p payload =>
    -- the header has been written before
    obtain rfl := hsem
    obtain ⟨hown, hdequeued, ⟨old, hmsg⟩, hpayload⟩ := hallow
    obtain ⟨-, hkind, -⟩ := hhand.reads p old ⟨hmsg, .inl ⟨hown, hdequeued⟩⟩
    refine inv.writeHeader _ (gh t).blank hown hdequeued hkind (fun x hx => ?_) fun _ h => h
    cases hx
    exact inv.lt_next (hhand.live payload hpayload)
  -- what is read is the thread's
  | getData p =>
    obtain ⟨-, rfl⟩ := hsem
    rw [SapState.touch_of_live (hhand.live p hallow)]
    exact inv.same t
  -- and so is what is written
  | setData p data =>
    obtain rfl := hsem
    unfold SapState.writeData
    rw [SapState.touch_of_live (hhand.live p hallow)]
    exact (inv.withData _ s.sapCallback s.log).same t
  | getRequest q =>
    -- the completed request is in the queue
    obtain ⟨hr, rfl⟩ := hsem
    obtain ⟨h, hcompleting⟩ := hallow
    have hlive := (inv.heap.live q (hhand.completing q h hcompleting).1).1
    obtain rfl := hr hlive
    rw [SapState.touch_of_live hlive]
    exact inv.getRequest hcompleting
  -- only a request that the thread still has is filled
  | setRequest q request =>
    obtain rfl := hsem
    exact inv.writeRequest request hallow
  | getSocketById =>
    obtain ⟨rfl, rfl⟩ := hsem
    exact inv.getSocketById t
  | getUimFuncs =>
    obtain ⟨-, rfl⟩ := hsem
    exact inv.same t
  -- the request is filled, its header is the thread's, and both go into the queue
  | enqueue q =>
    obtain rfl := hsem
    obtain ⟨h, p, hfilled, hmsg, hq, hh, -, hne, hdequeued, hsocket⟩ := hallow
    have hafter : (gh t).after (.enqueue q) r =
        { gh t with own := ((gh t).own.erase q).erase h, requested := some q } := by
      simp only [Hand.after, hfilled]
    rw [hafter]
    exact inv.enqueue (hhand.socket hsocket) hfilled hmsg hq hh hne hdequeued
  -- the request that is found is the one completed, as the run is orderly
  | checkAndDequeue id token q =>
    obtain ⟨-, rfl⟩ := hsem
    obtain ⟨h, hcompletion⟩ := hallow
    have hafter : (gh t).after (.checkAndDequeue id token q) r =
        { Hand.completionOf q h with own := {h}, dequeued := some h, completing := none } := by
      rw [hcompletion]
      rfl
    rw [hafter]
    exact inv.dequeued hcompletion (inv.heap.dequeued hok t)
  -- the vendor is given the request that was queued
  | onRequest id data size q =>
    obtain rfl := hsem
    exact inv.handedOver hallow.1 hallow.2 id data size
  -- the vendor is done with one of the requests it has
  | beginCompletion q =>
    obtain ⟨hgiven, rfl⟩ := hsem
    exact inv.begun hgiven t
  -- the callback is not an object of the heap
  | getSapCallback =>
    obtain ⟨-, rfl⟩ := hsem
    exact inv.same t
  | call e =>
    obtain rfl := hsem
    exact (inv.withData s.data s.sapCallback _).same t
  | resetSapCallback =>
    obtain rfl := hsem
    exact (inv.withData s.data false s.log).same t

end Steps

/-! ### Runs of the service -/

/-- A called method or completion starts from an empty hand. -/
theorem MayCall.obeys {pb : Nanopb} {s : SapState} {t : ℕ} {code : Code Unit}
    (h : MayCall pb s t code) : code.Obeys handProtocol (fun _ => Hand.Done) Hand.empty := by
  rcases h with hmethod | ⟨q, response, rfl⟩
  · exact hmethod.obeys
  · exact sOnRequestComplete_obeys q response

/-- An object that a thread holds is released by it before it returns. -/
theorem Owned.safe {Q : Pool sapSignature SapState} {gh : ℕ → Hand} (inv : Owned Q.shared gh)
    (hobeys : ∀ t, (Q.prog t).Obeys handProtocol (fun _ => Hand.Done) (gh t)) : Safe Q where
  faulty := inv.heap.faulty
  released p hp hkind := by
    refine (inv.cover p hp hkind).imp_left ?_
    rintro ⟨t, hown⟩
    refine ⟨t, (inv.hands t).owner p hown, fun hidle => ?_⟩
    have hdone := hobeys t
    rw [show Q.prog t = .ret () from hidle] at hdone
    exact hkind ((inv.hands t).command p hown (hdone p hown))

/-- **The objects of the requests are released exactly once and not used afterwards** in every run
of orderly steps, whatever the threads call and whenever the vendor completes the requests. The
steps are orderly when there is memory for the requests, no request is completed before `onRequest`
returns, a header is freed after its payload, and a completion finds its own request. -/
theorem objects_released (pb : Nanopb) {Q : Pool sapSignature SapState}
    (h : (sapService pb).ReachableUnder (fun Q label => Orderly Q.shared label) Q) : Safe Q := by
  obtain ⟨gh, inv, hobeys⟩ :=
    @pool_invariant sapSignature SapState Hand SapState.Fresh anySem (MayCall pb)
    (fun _ => handProtocol) Hand.Done Owned Orderly
    (fun s h0 => ⟨_, h0.owned, fun _ => nofun⟩)
    (fun s gh t p inv hdone hmay => ⟨Hand.empty, inv.emptied hdone, hmay.obeys⟩)
    (fun s gh t o r s' inv hallow hsem hok => inv.step hallow hsem hok) Q h
  exact inv.safe hobeys

/-! ### Without memory for the request -/

/-- A library whose messages are empty, as that of a DISCONNECT request is. -/
def emptyNanopb : Nanopb where
  getEncodedSize _ := some 0
  encode _ _ := some []
  decodesResponse _ _ := true

theorem init_start : (sapService emptyNanopb).init (Pool.quiet SapState.start) :=
  ⟨⟨fun _ => rfl, rfl, fun _ => rfl, rfl⟩, fun _ => rfl⟩

section OutOfMemory

variable {s s₁ : SapState}

/-- The code can end with a released object in use. -/
def Fails (code : Code Unit) (s : SapState) : Prop :=
  ∃ s', code.Runs (anySem 0) s () s' ∧ s'.faulty = true

theorem Fails.op {o : SapOp} {r : o.Res} {f : o.Res → Code Unit} (hsem : anySem 0 o r s s₁)
    (h : Fails (f r) s₁) : Fails (.op o .ret >>= f) s := by
  obtain ⟨s', hruns, hfaulty⟩ := h
  exact ⟨s', runs_op_bind.mpr ⟨r, s₁, hsem, hruns⟩, hfaulty⟩

theorem release_faulty_of (p : Ptr) (h : s.faulty = true) : (s.release p).faulty = true := by
  show (s.faulty || !s.live p) = true
  rw [h, Bool.true_or]

/-- The payload of a released message is looked for. -/
theorem fails_after_release {msg buffer : Ptr} (hmsg : s.live msg = false) :
    Fails (do
      let header ← getHeader msg
      freePointer header.payload
      free buffer) s := by
  have hfaulty : (s.touch msg).faulty = true := by
    show (s.faulty || !s.live msg) = true
    rw [hmsg, Bool.not_false, Bool.or_true]
  refine Fails.op ⟨fun _ => rfl, rfl⟩ ?_
  cases (s.headers msg).payload with
  | none => exact ⟨_, ⟨(), _, rfl, rfl, rfl⟩, release_faulty_of buffer hfaulty⟩
  | some p =>
    exact ⟨_, ⟨(), _, rfl, (), _, rfl, rfl, rfl⟩,
      release_faulty_of buffer (release_faulty_of p hfaulty)⟩

/-- `dispatchRequest` has no memory for the request and releases the header. -/
theorem dispatchRequest_outOfMemory {msg buffer : Ptr} : Fails (do
      dispatchRequest emptyNanopb msg
      let header ← getHeader msg
      freePointer header.payload
      free buffer) s := by
  have hmsg : (s.release msg).live msg = false := by
    rw [SapState.release_live, Function.update_self]
  obtain ⟨s', hruns, hfaulty⟩ := @fails_after_release (s.release msg) msg buffer hmsg
  exact ⟨s', (runs_bind _ _).mpr ⟨(), _, ⟨none, s, .inl ⟨trivial, rfl, rfl⟩, (), _, rfl, rfl, rfl⟩,
    hruns⟩, hfaulty⟩

/-- A request fails so if there is a socket. -/
theorem disconnectReq_fails (hsocket : s.socket = true) (token : ℤ) :
    Fails (disconnectReq emptyNanopb token) s := by
  -- memory for the header, the buffer and the payload
  refine Fails.op (.inr ⟨trivial, rfl, rfl⟩) ?_
  refine @Fails.op _ _ (.setHeader _ _) () _ rfl ?_
  refine Fails.op (.inr ⟨trivial, rfl, rfl⟩) ?_
  refine @Fails.op _ _ (.setData _ _) () _ rfl ?_
  refine Fails.op (.inr ⟨trivial, rfl, rfl⟩) ?_
  refine @Fails.op _ _ (.setPayload _ _) () _ rfl ?_
  refine Fails.op ⟨fun _ => rfl, rfl⟩ ?_
  refine @Fails.op _ _ (.setData _ _) () _ rfl ?_
  refine @Fails.op _ _ .getSocketById true _ ⟨?_, rfl⟩ ?_
  · show (true : Bool) = SapState.socket _
    simp [hsocket]
  · exact dispatchRequest_outOfMemory

end OutOfMemory

section OrderlyRun

/-- The operations of an orderly run. -/
abbrev orderlySem (t : ℕ) : Semantics sapSignature SapState := Meeting anySem Orderly t

/-- A whole orderly run. The thread 3 requests a disconnection: its message is the object 0, with
the payload 2, and its request the object 3, which is in the queue at the end. Then the thread 5
completes it, and nothing is live any more. -/
theorem orderly_run : ∃ s₁ s₂ : SapState,
    (disconnectReq emptyNanopb 7).Runs (orderlySem 3) SapState.start () s₁ ∧
      (sOnRequestComplete emptyNanopb 3 []).Runs (orderlySem 5) s₁ () s₂ ∧
      (s₁.pendingResponseQueue = [3] ∧ s₁.live 3 = true ∧ s₁.live 0 = true) ∧
      s₂.log = [.responded .disconnect 7, .dispatched .disconnect [] 0 3] ∧
      s₂.next = 5 ∧ ∀ p < 5, s₂.live p = false := by
  refine ⟨_, _,
    -- the message and its buffer
    ⟨some 0, _, ⟨.inr ⟨trivial, rfl, rfl⟩, trivial⟩, (), _, ⟨rfl, trivial⟩,
    some 1, _, ⟨.inr ⟨trivial, rfl, rfl⟩, trivial⟩, (), _, ⟨rfl, trivial⟩,
    -- the payload
    some 2, _, ⟨.inr ⟨trivial, rfl, rfl⟩, trivial⟩, (), _, ⟨rfl, trivial⟩,
    _, _, ⟨⟨fun _ => rfl, rfl⟩, trivial⟩, (), _, ⟨rfl, trivial⟩,
    true, _, ⟨⟨rfl, rfl⟩, trivial⟩,
    -- the request, which the vendor takes
    some 3, _, ⟨.inr ⟨trivial, rfl, rfl⟩, ⟨3, rfl⟩⟩, _, _, ⟨⟨fun _ => rfl, rfl⟩, trivial⟩,
    (), _, ⟨rfl, trivial⟩, (), _, ⟨rfl, trivial⟩, true, _, ⟨⟨rfl, rfl⟩, trivial⟩,
    _, _, ⟨⟨fun _ => rfl, rfl⟩, trivial⟩, _, _, ⟨⟨fun _ => rfl, rfl⟩, trivial⟩,
    none, _, ⟨rfl, rfl⟩,
    -- the payload and the buffer are released
    _, _, ⟨⟨fun _ => rfl, rfl⟩, trivial⟩,
    (), _, ⟨rfl, fun hkind => absurd hkind (by decide)⟩,
    (), _, ⟨rfl, fun hkind => absurd hkind (by decide)⟩, rfl, rfl⟩,
    -- the response
    ⟨(), _, ⟨⟨rfl, rfl⟩, trivial⟩, true, _, ⟨⟨rfl, rfl⟩, trivial⟩,
    _, _, ⟨⟨fun _ => rfl, rfl⟩, trivial⟩, _, _, ⟨⟨fun _ => rfl, rfl⟩, trivial⟩,
    some 4, _, ⟨.inr ⟨trivial, rfl, rfl⟩, trivial⟩, (), _, ⟨rfl, trivial⟩,
    true, _, ⟨⟨rfl, rfl⟩, trivial⟩, true, _, ⟨rfl, trivial⟩,
    (), _, ⟨rfl, fun hkind => absurd hkind (by decide)⟩,
    -- the request and its message are released
    _, _, ⟨⟨fun _ => rfl, rfl⟩, trivial⟩, _, _, ⟨⟨rfl, rfl⟩, rfl⟩,
    (), _, ⟨rfl, fun _ payload hpayload => by cases hpayload; rfl⟩, rfl, rfl⟩,
    ⟨rfl, rfl, rfl⟩, rfl, rfl, by decide⟩

theorem orderly_reachable : ∃ Q Q' : Pool sapSignature SapState,
    (sapService emptyNanopb).ReachableUnder (fun Q label => Orderly Q.shared label) Q ∧
      (sapService emptyNanopb).ReachableUnder (fun Q label => Orderly Q.shared label) Q' ∧
      (Q.shared.pendingResponseQueue = [3] ∧ Q.shared.live 3 = true ∧ Q.shared.live 0 = true) ∧
      Q'.shared.log = [.responded .disconnect 7, .dispatched .disconnect [] 0 3] ∧
      Q'.shared.next = 5 ∧ ∀ p < 5, Q'.shared.live p = false := by
  obtain ⟨s₁, s₂, hrequest, hcomplete, hs₁, hs₂⟩ := orderly_run
  have h₁ := Pool.reachableUnder_call hrequest (.inl (.disconnectReq 7)) trivial (.init init_start)
  have h₂ := Pool.reachableUnder_call hcomplete (.inr ⟨3, [], rfl⟩) trivial h₁
  exact ⟨_, _, h₁, h₂, hs₁, hs₂⟩

end OrderlyRun

theorem objects_released_disconnect : ∃ Q Q' : Pool sapSignature SapState,
    (Q.shared.pendingResponseQueue = [3] ∧ Q.shared.live 3 = true ∧ Q.shared.live 0 = true ∧
      Safe Q) ∧
    Q'.shared.log = [.responded .disconnect 7, .dispatched .disconnect [] 0 3] ∧
      (∀ p < Q'.shared.next, Q'.shared.live p = false) ∧ Safe Q' := by
  obtain ⟨Q, Q', hQ, hQ', ⟨hqueue, hrequest, hheader⟩, hlog, hnext, hlive⟩ := orderly_reachable
  refine ⟨Q, Q', ⟨hqueue, hrequest, hheader, objects_released emptyNanopb hQ⟩, hlog, ?_,
    objects_released emptyNanopb hQ'⟩
  rw [hnext]
  exact hlive

/-- **Without memory for the request the header is used after its release**: `dispatchRequest` frees
it, and the method goes on to read the payload from it. -/
theorem header_freed_before_payload :
    ∃ pb Q, (sapService pb).Reachable Q ∧ ¬ Safe Q := by
  obtain ⟨s', hruns, hfaulty⟩ := @disconnectReq_fails SapState.start rfl 7
  obtain ⟨tr, hrun⟩ :=
    @Pool.run_call sapSignature SapState SapState.Fresh anySem (MayCall emptyNanopb)
    (Pool.quiet SapState.start) 0 _ _ _ hruns (.inl (.disconnectReq 7)) ⟨[], .nil⟩
  refine ⟨emptyNanopb, Pool.quiet s', hrun.reachable init_start, fun hsafe => ?_⟩
  have hfalse := hsafe.faulty
  rw [show (Pool.quiet s' : Pool sapSignature SapState).shared = s' from rfl, hfaulty] at hfalse
  cases hfalse

end Sap

end BlueCommon
