import BlueCommon.Ril.NitzDelivery

/-!
# NITZ messages over runs

The vendor passes on NITZ messages for the slots while clients connect to them and die, one call of
libril after the other. A message is pending until the client of its slot has accepted it.

* `nitzSystem`: the runs, in any environment.
* `BufferSuffices`: the calls that make do with one buffer for all slots.
* `nitz_retained_and_delivered`: in runs of these calls a pending message is kept for the client of
  its own slot and delivered when that connects.

`NitzInv` says that what is pending is stored and has no client to go to, and that the buffer is in
use only for a pending message. A call that makes do with one buffer finds no other slot waiting
where it stores a message or connects a client, so that nothing of another slot is overwritten or
goes to the wrong client. Each call is followed through what it sends and stores (`NitzInv.arrives`,
`NitzInv.connects`, `NitzInv.quiet`), and gives what is delivered along with the invariant
(`NitzInv.step`).
-/

namespace BlueCommon.Ril

open Interaction Program

/-! ### Pending messages -/

/-- A NITZ message: its text and the time at which it was received. -/
structure NitzMessage where
  string : List UInt8
  receivedTime : ℤ
  deriving DecidableEq

/-- libril and, for each slot, its last NITZ message while no client of the slot has accepted it. -/
structure NitzState where
  ril : RilState
  pending : ℤ → Option NitzMessage

/-- The vendor passes on a NITZ message. -/
abbrev RilCall.nitzTime (string : List UInt8) (datalen : ℕ) (socketId : ℤ) : RilCall :=
  .rilOnUnsolicitedResponse Unsol.nitzTimeReceived (some ⟨string, true⟩) datalen socketId

/-- The NITZ message for the slot that the call brings. Before `RIL_register` libril ignores it. -/
def RilCall.brings (cfg : Config) (s' : RilState) (slotId : ℤ) : RilCall → Option NitzMessage
  | .rilOnUnsolicitedResponse unsolResponse (some buf) _ socketId =>
    if cfg.registerCalled = true ∧ unsolResponse = Unsol.nitzTimeReceived ∧
        indicationSlot cfg socketId = slotId then
      some ⟨buf.bytes, s'.nitz.nitzTimeReceived slotId⟩
    else none
  | _ => none

/-- The last message for the slot when the call has ended. -/
def NitzState.latest (cfg : Config) (σ : NitzState) (call : RilCall) (s' : RilState) (slotId : ℤ) :
    Option NitzMessage :=
  (call.brings cfg s' slotId).or (σ.pending slotId)

/-- The call to the client carries the message. -/
def ClientCall.Carries (call : ClientCall) (m : NitzMessage) : Prop :=
  ∃ type, call.message = .nitzTimeReceived type m.string m.receivedTime

/-- The message was accepted by the client of the slot in one of the calls: the call carried it and
went well. -/
def Accepted (calls : List ClientCall) (slotId : ℤ) (m : NitzMessage) : Prop :=
  ∃ call ∈ calls, call.slotId = slotId ∧ call.isOk = true ∧ call.Carries m

/-- A call of libril runs to its end. -/
structure NitzStep (env : Environment) (cfg : Config) (t : ℕ) (call : RilCall)
    (σ σ' : NitzState) : Prop where
  runs : (call.code cfg).Runs (RilOp.semIn env cfg t) σ.ril () σ'.ril
  pending : ∀ slotId m, σ'.pending slotId = some m ↔
    σ.latest cfg call σ'.ril slotId = some m ∧ ¬Accepted (newCalls σ.ril σ'.ril) slotId m

/-- The runs of the calls that satisfy a condition, one after the other, in an environment. The
condition may be about the states before and after a call. -/
def nitzSystem (env : Environment) (ok : Config → NitzState → RilCall → NitzState → Prop)
    (cfg : Config) :
    Lts NitzState (ℕ × RilCall) where
  init σ := σ.ril.Initial ∧ σ.pending = fun _ => none
  step σ l σ' := NitzStep env cfg l.1 l.2 σ σ' ∧ ok cfg σ l.2 σ'

/-- Whatever the rest of the process does. -/
def Anything : Environment := fun _ _ => True

/-- Whatever is called. -/
def AnyCall (_ : Config) (_ : NitzState) (_ : RilCall) (_ : NitzState) : Prop := True

/-- No other slot has a pending message. -/
def NitzState.Alone (σ : NitzState) (slotId : ℤ) : Prop := ∀ i ≠ slotId, σ.pending i = none

/-- **One buffer is enough.** A message is a string of which `datalen` counts a part, and its NUL
too if it must be stored; a message that must be stored, and a client that stays connected, find no
other slot waiting. -/
def BufferSuffices (cfg : Config) (σ : NitzState) (call : RilCall) (σ' : NitzState) : Prop :=
  match call with
  | .rilOnUnsolicitedResponse unsolResponse data datalen socketId =>
    cfg.registerCalled = true → unsolResponse = Unsol.nitzTimeReceived →
      ∃ string, data = some ⟨string, true⟩ ∧ 0 < datalen ∧
        (σ.ril.client (indicationSlot cfg socketId) = none →
          string.length < datalen ∧ σ.Alone (indicationSlot cfg socketId))
  | .setResponseFunctions slotId _ _ => σ'.ril.client slotId ≠ none → σ.Alone slotId
  | _ => True

/-- Every pending message is stored, with its reception time. There is one buffer for all slots, and
a time for each. -/
def NitzState.Retained (σ : NitzState) : Prop :=
  ∀ slotId m, σ.pending slotId = some m → σ.ril.nitz.lastNITZTimeData = some ⟨m.string, true⟩ ∧
    σ.ril.nitz.nitzTimeReceived slotId = m.receivedTime

/-- What a call does with the messages: those it sends are the last ones for their slots and go to
the clients of these slots; a client that has connected is sent the pending message of its slot. -/
structure Delivers (cfg : Config) (call : RilCall) (σ σ' : NitzState) : Prop where
  own : ∀ c ∈ newCalls σ.ril σ'.ril, c.message.IsNitz → ∃ m,
    σ.latest cfg call σ'.ril c.slotId = some m ∧ c.Carries m ∧
    σ'.ril.client c.slotId = some c.callback
  connected : ∀ slotId response indication m,
      call = .setResponseFunctions slotId response indication →
    σ'.ril.client slotId ≠ none → σ.pending slotId = some m →
      Accepted (newCalls σ.ril σ'.ril) slotId m ∧
        σ'.ril.client slotId = σ.ril.clients.callbackOf indication

/-! ### One call -/

variable {cfg : Config} {env : Environment} {t : ℕ} {call : RilCall} {σ σ' : NitzState}

/-- The invariant of these runs: what is pending is stored and its slot has no client, and what is
stored is pending. -/
structure NitzInv (σ : NitzState) : Prop where
  stored : σ.Retained
  absent : ∀ slotId, σ.pending slotId ≠ none → σ.ril.client slotId = none
  owned : σ.ril.nitz.lastNITZTimeData ≠ none →
    0 < σ.ril.nitz.lastNITZTimeDataSize ∧ ∃ slotId, σ.pending slotId ≠ none

theorem NitzStep.pending_eq (h : NitzStep env cfg t call σ σ') {slotId : ℤ}
    (hnone : ∀ m, ¬Accepted (newCalls σ.ril σ'.ril) slotId m) :
    σ'.pending slotId = σ.latest cfg call σ'.ril slotId := by
  refine Option.ext fun m => ?_
  rw [h.pending]
  exact and_iff_left (hnone m)

theorem NitzStep.pending_eq_none (h : NitzStep env cfg t call σ σ') {slotId : ℤ}
    (haccepted : ∀ m, σ.latest cfg call σ'.ril slotId = some m →
      Accepted (newCalls σ.ril σ'.ril) slotId m) :
    σ'.pending slotId = none := by
  refine Option.eq_none_iff_forall_ne_some.mpr fun m hm => ?_
  obtain ⟨hlatest, hnot⟩ := (h.pending slotId m).mp hm
  exact hnot (haccepted m hlatest)

theorem NitzState.latest_of_brings {slotId : ℤ} {s' : RilState}
    (h : call.brings cfg s' slotId = none) :
    σ.latest cfg call s' slotId = σ.pending slotId := by
  rw [NitzState.latest, h, Option.none_or]

/-- Only a call that carries a NITZ message can deliver one. -/
theorem Accepted.exists_nitz {calls : List ClientCall} {slotId : ℤ} {m : NitzMessage}
    (h : Accepted calls slotId m) : ∃ c ∈ calls, c.slotId = slotId ∧ c.message.IsNitz := by
  obtain ⟨c, hmem, hslot, -, type, hcarries⟩ := h
  refine ⟨c, hmem, hslot, ?_⟩
  rw [hcarries]
  exact trivial

/-- A call that has nothing to do with NITZ messages and connects no client. Its calls of clients
bring no NITZ time, so what waits is the same as before. -/
theorem NitzInv.quiet (hi : NitzInv σ) (h : NitzStep env cfg t call σ σ')
    (hquiet : Quiet σ.ril σ'.ril) (hbrings : ∀ i, call.brings cfg σ'.ril i = none)
    (hconnects : ∀ slotId response indication,
      call ≠ .setResponseFunctions slotId response indication) :
    NitzInv σ' ∧ Delivers cfg call σ σ' := by
  -- the calls since then bring no NITZ time
  obtain ⟨new, hcalls, hnew⟩ := hquiet.calls
  have hnew : ∀ c ∈ newCalls σ.ril σ'.ril, ¬c.message.IsNitz := by
    rw [newCalls_of_append hcalls]
    exact hnew
  -- nothing was brought and nothing was delivered, so what waits is the same
  have hpending : σ'.pending = σ.pending := by
    funext i
    rw [h.pending_eq fun m haccepted => ?_, NitzState.latest_of_brings (hbrings i)]
    obtain ⟨c, hmem, -, hnitz⟩ := haccepted.exists_nitz
    exact hnew c hmem hnitz
  refine ⟨⟨?_, ?_, ?_⟩, fun c hmem hnitz => absurd hnitz (hnew c hmem),
    fun slotId response indication _ heq => absurd heq (hconnects slotId response indication)⟩
  · -- what waits is still stored
    intro slotId m hm
    rw [hquiet.nitz]
    exact hi.stored slotId m (hpending ▸ hm)
  · -- a client that is replaced is replaced by none
    intro slotId hne
    rw [hpending] at hne
    rcases hquiet.client slotId with heq | hnone
    · exact heq.trans (hi.absent slotId hne)
    · exact hnone
  · -- what is stored still belongs to somebody
    rw [hquiet.nitz, hpending]
    exact hi.owned

/-- The last message for a slot when one has arrived. -/
theorem NitzState.latest_arrival {string : List UInt8} {datalen : ℕ} {socketId slot i : ℤ}
    {s' : RilState}
    (hregister : cfg.registerCalled = true) (hslot : indicationSlot cfg socketId = slot) :
    σ.latest cfg (.nitzTime string datalen socketId) s' i =
      if i = slot then some ⟨string, s'.nitz.nitzTimeReceived slot⟩ else σ.pending i := by
  show (if cfg.registerCalled = true ∧ Unsol.nitzTimeReceived = Unsol.nitzTimeReceived ∧
      indicationSlot cfg socketId = i then some (NitzMessage.mk string (s'.nitz.nitzTimeReceived i))
    else none).or (σ.pending i) = _
  by_cases hi : i = slot
  · rw [if_pos ⟨hregister, rfl, hslot.trans hi.symm⟩, if_pos hi, hi, Option.some_or]
  · rw [if_neg fun h => hi (h.2.2.symm.trans hslot), if_neg hi, Option.none_or]

section Arrival

variable {string : List UInt8} {datalen : ℕ} {socketId slot time : ℤ}

/-- A NITZ message has arrived at a slot without a client and was stored. No other slot waits, by
assumption, so the one buffer is for this slot; and the string fits, so all of it is kept. -/
theorem NitzInv.stores (hregister : cfg.registerCalled = true)
    (hslot : indicationSlot cfg socketId = slot)
    (hlen : 0 < datalen) (hfits : string.length < datalen) (halone : σ.Alone slot)
    (h : NitzStep env cfg t (.nitzTime string datalen socketId) σ σ')
    (hnone : σ.ril.client slot = none) (hclients : σ'.ril.clients = σ.ril.clients)
    (hnitz : σ'.ril.nitz = ⟨some (CharBuffer.take ⟨string, true⟩ datalen), datalen,
      Function.update σ.ril.nitz.nitzTimeReceived slot time⟩) :
    NitzInv σ' ∧ Delivers cfg (.nitzTime string datalen socketId) σ σ' := by
  have hlatest :=
    fun i => @NitzState.latest_arrival cfg σ string datalen socketId slot i σ'.ril hregister hslot
  -- there is no client, so nothing is delivered
  have hnew : newCalls σ.ril σ'.ril = [] := newCalls_of_append (by rw [hclients]; rfl)
  have hpending : ∀ i, σ'.pending i =
      if i = slot then some ⟨string, σ'.ril.nitz.nitzTimeReceived slot⟩ else σ.pending i := by
    intro i
    rw [h.pending_eq, hlatest]
    rintro m ⟨c, hmem, -⟩
    rw [hnew] at hmem
    exact absurd hmem List.not_mem_nil
  have htime : σ'.ril.nitz.nitzTimeReceived slot = time := by
    rw [hnitz]
    exact Function.update_self ..
  -- the string fits, so all of it is kept
  have hlast : σ'.ril.nitz.lastNITZTimeData = some ⟨string, true⟩ := by
    rw [hnitz, CharBuffer.take, List.take_of_length_le hfits.le, decide_eq_true hfits]
    rfl
  -- no other slot waits, so the one buffer is for this slot
  have hother : ∀ i ≠ slot, σ'.pending i = none :=
    fun i hne => by rw [hpending, if_neg hne, halone i hne]
  refine ⟨⟨fun i m hm => ?_, fun i hne => ?_, fun _ => ⟨?_, slot, ?_⟩⟩, fun c hmem => ?_, nofun⟩
  · rcases eq_or_ne i slot with rfl | hne
    · rw [hpending, if_pos rfl, Option.some.injEq] at hm
      exact hm ▸ ⟨hlast, rfl⟩
    · rw [hother i hne] at hm
      cases hm
  · rcases eq_or_ne i slot with rfl | hother'
    · rw [RilState.client, hclients]
      exact hnone
    · exact absurd (hother i hother') hne
  · rw [hnitz]
    exact hlen
  · rw [hpending, if_pos rfl]
    exact Option.some_ne_none _
  · rw [hnew] at hmem
    exact absurd hmem List.not_mem_nil

/-- A NITZ message has arrived at a slot, whose client has taken it. The messages of the other slots
wait as before, since what is stored is for a slot without a client. -/
theorem NitzInv.takes (hi : NitzInv σ) (hregister : cfg.registerCalled = true)
    (hslot : indicationSlot cfg socketId = slot)
    (h : NitzStep env cfg t (.nitzTime string datalen socketId) σ σ')
    {callback : Callback} {type : ResponseType} (hsome : σ.ril.client slot = some callback)
    (hclients : σ'.ril.clients = (σ.ril.sent t slot callback type string time).clients)
    (hnitz : σ'.ril.nitz =
      { σ.ril.nitz with
        nitzTimeReceived := Function.update σ.ril.nitz.nitzTimeReceived slot time }) :
    NitzInv σ' ∧ Delivers cfg (.nitzTime string datalen socketId) σ σ' := by
  have hlatest :=
    fun i => @NitzState.latest_arrival cfg σ string datalen socketId slot i σ'.ril hregister hslot
  have hnew :
    newCalls σ.ril σ'.ril = [⟨t, slot, callback, .nitzTimeReceived type string time, true⟩] :=
    newCalls_of_append (by rw [hclients]; rfl)
  have htime : σ'.ril.nitz.nitzTimeReceived slot = time := by
    rw [hnitz]
    exact Function.update_self ..
  have hclient : ∀ i, σ'.ril.client i = σ.ril.client i :=
    fun i => by rw [RilState.client, hclients]; rfl
  -- the message that was brought is delivered at once
  have hslotPending : σ'.pending slot = none := by
    refine h.pending_eq_none fun m hm => ?_
    rw [hlatest, if_pos rfl, htime, Option.some.injEq] at hm
    rw [hnew, ← hm]
    exact ⟨_, List.mem_singleton_self _, rfl, rfl, type, rfl⟩
  -- the messages of the other slots wait as before
  have hother : ∀ i ≠ slot, σ'.pending i = σ.pending i := by
    intro i hne
    rw [h.pending_eq, hlatest, if_neg hne]
    rintro m ⟨c, hmem, hcslot, -⟩
    rw [hnew] at hmem
    obtain rfl := List.mem_singleton.mp hmem
    exact hne hcslot.symm
  refine ⟨⟨fun i m hm => ?_, fun i hne => ?_, fun hlast => ?_⟩, fun c hmem _ => ?_, by simp⟩
  · rcases eq_or_ne i slot with rfl | hne
    · rw [hslotPending] at hm
      cases hm
    · rw [hother i hne] at hm
      obtain ⟨hstored, hreceived⟩ := hi.stored i m hm
      rw [hnitz]
      exact ⟨hstored, (Function.update_of_ne hne ..).trans hreceived⟩
  · rcases eq_or_ne i slot with rfl | hne'
    · exact absurd hslotPending hne
    · rw [hclient]
      exact hi.absent i (hother i hne' ▸ hne)
  · rw [hnitz] at hlast ⊢
    obtain ⟨hsize, i, hne⟩ := hi.owned hlast
    refine ⟨hsize, i, ?_⟩
    -- the slot of the stored message is another one, since this one has a client
    have hslot' : i ≠ slot := by
      rintro rfl
      exact Option.some_ne_none _ (hsome.symm.trans (hi.absent i hne))
    rw [hother i hslot']
    exact hne
  · rw [hnew] at hmem
    obtain rfl := List.mem_singleton.mp hmem
    exact ⟨⟨string, time⟩,
      by rw [hlatest, if_pos rfl, htime], ⟨type, rfl⟩, (hclient slot).trans hsome⟩

/-- A NITZ message arrives at a slot. -/
theorem NitzInv.arrives (hi : NitzInv σ) (hregister : cfg.registerCalled = true)
    (hlen : 0 < datalen) (halone : σ.ril.client (indicationSlot cfg socketId) = none →
      string.length < datalen ∧ σ.Alone (indicationSlot cfg socketId))
    (h : NitzStep Reliable cfg t (.nitzTime string datalen socketId) σ σ') :
    NitzInv σ' ∧ Delivers cfg (.nitzTime string datalen socketId) σ σ' := by
  obtain ⟨time, ⟨hnone, hclients, hnitz⟩ | ⟨callback, type, read, hsome, hreads,
    hclients, hnitz⟩⟩ :=
    nitz_arrives hregister hlen rfl h.runs
  · obtain ⟨hfits, halone⟩ := halone hnone
    exact NitzInv.stores hregister rfl hlen hfits halone h hnone hclients hnitz
  · obtain rfl : read = string := hreads.2 rfl
    exact hi.takes hregister rfl h hsome hclients hnitz

end Arrival

section Connection

variable {slot : ℤ} {response indication : Option ℕ} {s₂ : RilState} {new : List ClientCall}

/-- A client has connected to a slot and was sent no message. Had one been waiting it would have
been kept, so it is the client that was missing by then. -/
theorem NitzInv.connects_unsent (hi : NitzInv σ)
    (h : NitzStep env cfg t (.setResponseFunctions slot response indication) σ σ')
    (hcalls₂ : s₂.clients.calls = new ++ σ.ril.clients.calls) (hnew : ∀ c ∈ new, ¬c.message.IsNitz)
    (hnitz₂ : s₂.nitz = σ.ril.nitz)
    (hothers₂ : ∀ i ≠ slot, σ.ril.client i = none → s₂.client i = none)
    (hgreeted : s₂.nitz.lastNITZTimeData = none ∨ s₂.client slot = none)
    (hclients : σ'.ril.clients = s₂.clients)
    (hnitz : σ'.ril.nitz = s₂.nitz) :
    NitzInv σ' ∧ Delivers cfg (.setResponseFunctions slot response indication) σ σ' := by
  -- a registration brings no message
  have hlatest : ∀ i, σ.latest cfg (.setResponseFunctions slot response indication) σ'.ril i =
    σ.pending i :=
    fun i => NitzState.latest_of_brings rfl
  have hclient : ∀ i, σ'.ril.client i = s₂.client i :=
    fun i => by rw [RilState.client, hclients]; rfl
  have hnewCalls : newCalls σ.ril σ'.ril = new := newCalls_of_append (by rw [hclients, hcalls₂])
  -- none of the new calls brings a NITZ time
  have hpending : ∀ i, σ'.pending i = σ.pending i := by
    intro i
    rw [h.pending_eq fun m haccepted => ?_, hlatest]
    obtain ⟨c, hmem, -, hcnitz⟩ := haccepted.exists_nitz
    exact hnew c (hnewCalls ▸ hmem) hcnitz
  -- a message that waits was kept, so it was the client that was missing
  have hlost : ∀ {i m}, σ.pending i = some m → s₂.client slot = none := by
    intro i m hm
    refine hgreeted.resolve_left fun hnone => ?_
    rw [hnitz₂, (hi.stored i m hm).1] at hnone
    cases hnone
  refine ⟨⟨fun i m hm => ?_, fun i hne => ?_, ?_⟩, fun c hmem hcnitz =>
    absurd hcnitz (hnew c (hnewCalls ▸ hmem)),
    fun slotId response' indication' m heq hpresent hm => ?_⟩
  · -- what waits is stored, as nothing was written
    rw [hpending] at hm
    rw [hnitz, hnitz₂]
    exact hi.stored i m hm
  · -- the slots with something waiting have no client yet
    rw [hpending] at hne
    rw [hclient]
    rcases eq_or_ne i slot with rfl | hother
    · obtain ⟨m, hm⟩ := Option.ne_none_iff_exists'.mp hne
      exact hlost hm
    · exact hothers₂ i hother (hi.absent i hne)
  · -- the copy still has its owner
    rw [hnitz, hnitz₂]
    intro hlast
    obtain ⟨hsize, i, hne⟩ := hi.owned hlast
    exact ⟨hsize, i, hpending i ▸ hne⟩
  · -- a client that is present would have been sent the message
    obtain ⟨rfl, -, -⟩ := RilCall.setResponseFunctions.inj heq
    rw [hclient] at hpresent
    exact absurd (hlost hm) hpresent

/-- A client has connected to a slot and was sent the stored message: it is that of the slot, as no
other slot has one. -/
theorem NitzInv.connects_sent (hi : NitzInv σ)
    (h : NitzStep env cfg t (.setResponseFunctions slot response indication) σ σ')
    (halone : σ'.ril.client slot ≠ none → σ.Alone slot)
    (hcalls₂ : s₂.clients.calls = new ++ σ.ril.clients.calls) (hnew : ∀ c ∈ new, ¬c.message.IsNitz)
    (hnitz₂ : s₂.nitz = σ.ril.nitz)
    (hregistered : s₂.client slot = σ.ril.clients.callbackOf indication ∨ s₂.client slot = none)
    {buf : CharBuffer} (hsent : Resent t slot buf s₂ σ'.ril) :
    NitzInv σ' ∧ Delivers cfg (.setResponseFunctions slot response indication) σ σ' := by
  obtain ⟨hstored, ⟨callback, type, string, hsome, hreads, hclients⟩, hnitz⟩ := hsent
  have hlatest : ∀ i, σ.latest cfg (.setResponseFunctions slot response indication) σ'.ril i =
    σ.pending i :=
    fun i => NitzState.latest_of_brings rfl
  have hclient : ∀ i, σ'.ril.client i = s₂.client i :=
    fun i => by rw [RilState.client, hclients]; rfl
  have halone : σ.Alone slot := halone (by rw [hclient, hsome]; exact Option.some_ne_none _)
  rw [hnitz₂] at hstored
  -- the copy belongs to the one slot in which a message waits
  obtain ⟨-, i, hne⟩ := hi.owned (Option.ne_none_iff_exists'.mpr ⟨buf, hstored⟩)
  obtain rfl : i = slot := by
    by_contra hother
    exact hne (halone i hother)
  obtain ⟨m, hm⟩ := Option.ne_none_iff_exists'.mp hne
  obtain ⟨hbuf, hreceived⟩ := hi.stored i m hm
  obtain rfl : buf = ⟨m.string, true⟩ := Option.some.inj (hstored.symm.trans hbuf)
  obtain rfl : string = m.string := hreads.2 rfl
  rw [hnitz₂, hreceived] at hclients
  -- the new calls: the message that waited, in front of the others
  have hnewCalls : newCalls σ.ril σ'.ril =
      ⟨t, i, callback, .nitzTimeReceived type m.string m.receivedTime, true⟩ :: new := by
    refine newCalls_of_append ?_
    rw [hclients, List.cons_append, ← hcalls₂]
    rfl
  have haccepted : Accepted (newCalls σ.ril σ'.ril) i m := by
    rw [hnewCalls]
    exact ⟨_, List.mem_cons_self, rfl, rfl, type, rfl⟩
  -- after that nothing waits anywhere
  have hpending : ∀ j, σ'.pending j = none := by
    refine fun j => h.pending_eq_none fun m' hm' => ?_
    rw [hlatest] at hm'
    rcases eq_or_ne j i with rfl | hother
    · exact Option.some.inj (hm.symm.trans hm') ▸ haccepted
    · exact absurd (halone j hother) (Option.ne_none_iff_exists'.mpr ⟨m', hm'⟩)
  refine ⟨⟨fun j m' hm' => ?_, fun j hne => absurd (hpending j) hne, fun hlast => ?_⟩,
    fun c hmem hcnitz => ?_, fun slotId response' indication' m' heq hpresent hm' => ?_⟩
  · -- so there is nothing to be stored
    rw [hpending] at hm'
    cases hm'
  · rw [hnitz] at hlast
    exact absurd rfl hlast
  · -- the one NITZ call is the message that waited
    rw [hnewCalls] at hmem
    rcases List.mem_cons.mp hmem with rfl | hmem
    · exact ⟨m, (hlatest i).trans hm, ⟨type, rfl⟩, (hclient i).trans hsome⟩
    · exact absurd hcnitz (hnew c hmem)
  · -- and the client that got it is the one that was registered
    obtain ⟨rfl, -, rfl⟩ := RilCall.setResponseFunctions.inj heq
    refine ⟨Option.some.inj (hm.symm.trans hm') ▸ haccepted, ?_⟩
    rw [hclient] at hpresent ⊢
    exact hregistered.resolve_right hpresent

/-- A client connects to a slot. -/
theorem NitzInv.connects (hi : NitzInv σ) (halone : σ'.ril.client slot ≠ none → σ.Alone slot)
    (h : NitzStep Reliable cfg t (.setResponseFunctions slot response indication) σ σ') :
    NitzInv σ' ∧ Delivers cfg (.setResponseFunctions slot response indication) σ σ' := by
  obtain ⟨s₁, s₂, hnitz₁, hcalls₁, hclient₁, hothers₁, hquiet, hgreeted⟩ :=
    client_connects (fun hlast => (hi.owned hlast).1) h.runs
  obtain ⟨new, hcalls₂, hnew⟩ := hquiet.calls
  have hnitz₂ : s₂.nitz = σ.ril.nitz := hquiet.nitz.trans hnitz₁
  rw [hcalls₁] at hcalls₂
  rcases hgreeted with ⟨hgreeted, hclients, hnitz⟩ | ⟨buf, hsent⟩
  · refine hi.connects_unsent h hcalls₂ hnew hnitz₂ (fun i hne hnone => ?_) hgreeted hclients hnitz
    -- the clients of the other slots are lost at most
    rcases hquiet.client i with heq | hlost
    · rw [heq, hothers₁ i hne, hnone]
    · exact hlost
  · exact hi.connects_sent h halone hcalls₂ hnew hnitz₂ (hclient₁ ▸ hquiet.client slot) hsent

end Connection

/-- What a call does, whichever it is. The arrival of a message and the registration of a client are
the two that matter; the others are quiet. -/
theorem NitzInv.step (hi : NitzInv σ) (h : NitzStep Reliable cfg t call σ σ')
    (hok : BufferSuffices cfg σ call σ') :
    NitzInv σ' ∧ Delivers cfg call σ σ' := by
  cases call with
  -- the calls that bring no NITZ time and register no radio client
  | addRequestToList serial slotId request =>
    have hcode : (RilCall.addRequestToList serial slotId request).code cfg =
        (addRequestToList cfg serial slotId request >>= fun _ => pure ()) := rfl
    refine hi.quiet h (quiet_runs ?_ h.runs) (fun _ => rfl) nofun
    rw [hcode]
    exact Only.bind addRequestToList_isQuiet fun _ => trivial
  | rilOnRequestAck token =>
    exact hi.quiet h (quiet_runs (rilOnRequestAck_isQuiet token) h.runs) (fun _ => rfl) nofun
  | rilOnRequestComplete token e =>
    exact hi.quiet h (quiet_runs (rilOnRequestComplete_isQuiet token e) h.runs) (fun _ => rfl) nofun
  | setOemHookFunctions slotId response indication =>
    refine hi.quiet h
      (@quiet_runs _ _ _ _ _ _ (setOemHookFunctions cfg slotId response indication) () ?_ h.runs)
      (fun _ => rfl) nofun
    exact ⟨trivial, fun _ => ⟨trivial, fun _ => ⟨trivial, fun _ => trivial⟩⟩⟩
  -- a client is registered, and may be sent what waits
  | setResponseFunctions slotId response indication => exact hi.connects hok h
  | rilOnUnsolicitedResponse unsolResponse data datalen socketId =>
    by_cases hcode : unsolResponse = Unsol.nitzTimeReceived
    · subst hcode
      rcases Bool.eq_false_or_eq_true cfg.registerCalled with hregister | hregister
      · obtain ⟨string, rfl, hlen, halone⟩ := hok hregister rfl
        exact hi.arrives hregister hlen halone h
      · -- libril ignores the message
        have hruns :
            (rilOnUnsolicitedResponse cfg Unsol.nitzTimeReceived data datalen socketId).Runs
            (RilOp.semIn Reliable cfg t) σ.ril () σ'.ril := h.runs
        unfold rilOnUnsolicitedResponse at hruns
        rw [if_pos hregister] at hruns
        obtain ⟨-, hsame⟩ := hruns
        refine hi.quiet h (hsame ▸ .refl) (fun i => ?_) nofun
        cases data with
        | none => rfl
        | some buf => exact if_neg fun hand => Bool.false_ne_true (hregister.symm.trans hand.1)
    · -- another indication than the NITZ time
      refine hi.quiet h (quiet_runs (rilOnUnsolicitedResponse_isQuiet hcode) h.runs)
        (fun i => ?_) nofun
      cases data with
      | none => rfl
      | some buf => exact if_neg fun hand => hcode hand.2.1

/-! ### Runs -/

/-- The calls of these runs are calls of libril, whatever the environment. -/
theorem nitzSystem_step {ok : Config → NitzState → RilCall → NitzState → Prop} {l : ℕ × RilCall}
    (h : (nitzSystem env ok cfg).step σ l σ') : (nitzSystem Anything AnyCall cfg).step σ l σ' :=
  ⟨⟨h.1.runs.mono fun _ _ _ _ hsem => ⟨trivial, hsem.2⟩, h.1.pending⟩, trivial⟩

/-- **NITZ messages are neither lost nor misdelivered while one buffer suffices.** In runs of such
calls, in which no allocation for a message and no call that carries one fails, every pending
message is stored with its reception time, what a call sends goes to the client of the slot that it
was received on, and a client that connects and is not lost at once gets the pending message of its
slot. -/
theorem nitz_retained_and_delivered (h : Lts.Reachable (nitzSystem Reliable BufferSuffices cfg) σ) :
    σ.Retained ∧ ∀ t call σ', (nitzSystem Reliable BufferSuffices cfg).step σ (t, call) σ' →
      Delivers cfg call σ σ' := by
  have hinv : NitzInv σ := by
    refine @Lts.Reachable.invariant _ _ (nitzSystem Reliable BufferSuffices cfg) NitzInv ?_ ?_ _ h
    · rintro τ ⟨hinitial, hpending⟩
      refine ⟨fun i m hm => ?_, fun i _ => hinitial.callback i _, fun hlast =>
        absurd hinitial.nitz hlast⟩
      rw [hpending] at hm
      cases hm
    · exact fun _ _ _ hi hstep => (hi.step hstep.1 hstep.2).1
  exact ⟨hinv.stored, fun t call σ' hstep => (hinv.step hstep.1 hstep.2).2⟩

/-! ### Two slots -/

namespace TwoSlots

/-- A message is stored. -/
theorem keeps {s : RilState} {buf : CharBuffer} {datalen : ℕ} :
    (keepNITZTimeData (some buf) datalen).Runs (RilOp.semIn Reliable cfg t) s true
      { s with nitz := ⟨some (buf.take datalen), datalen, s.nitz.nitzTimeReceived⟩ } := by
  have hfree : ∃ data, (if s.nitz.lastNITZTimeData.isSome then freeLastNITZTimeData
      else pure ()).Runs
      (RilOp.semIn Reliable cfg t) s () { s with
        nitz := { s.nitz with lastNITZTimeData := data } } := by
    split
    · exact ⟨none, (), _, ⟨trivial, _, rfl, rfl⟩, rfl, rfl⟩
    · exact ⟨s.nitz.lastNITZTimeData, rfl, rfl⟩
  obtain ⟨data, hfree⟩ := hfree
  refine runs_op_bind.mpr ⟨_, s, ⟨trivial, _, ⟨rfl, rfl⟩, rfl⟩,
    (runs_bind _ _).mpr ⟨(), _, hfree, ?_⟩⟩
  refine runs_op_bind.mpr ⟨true, _, ⟨rfl, _, rfl, rfl⟩, ?_⟩
  exact ⟨(), _, ⟨trivial, _, rfl, rfl⟩, rfl, rfl⟩

/-- A message for a slot without a client arrives. The run of the function is given step by step:
the wake lock, the lock of the slot, the reception time, no client, and the copy. -/
theorem arrives {s : RilState} {slot time : ℤ} {string : List UInt8} {wake : WakeState}
    (hlock : s.locks (getRadioServiceRwlock .dual slot) = ⟨0, none⟩)
    (hclient : s.client slot = none)
    (hwake : (WakeOp.grabPartialWakeLock).sem 15 () s.wake wake) :
    ∃ s', (rilOnUnsolicitedResponse .dual Unsol.nitzTimeReceived (some ⟨string, true⟩)
      (string.length + 1)
        slot).Runs (RilOp.semIn Reliable .dual t) s () s' ∧
      s'.locks (getRadioServiceRwlock .dual slot) = ⟨0, none⟩ ∧ s'.clients = s.clients ∧
      s'.wake = wake ∧
      s'.nitz = ⟨some ⟨string, true⟩, string.length + 1,
        Function.update s.nitz.nitzTimeReceived slot time⟩ := by
  generalize hl : getRadioServiceRwlock .dual slot = l at hlock
  let written : RadioRwlock → Rwlock := Function.update s.locks l ⟨0, some t⟩
  let locked : RilState := { s with
    wake := wake
    locks := written
    nitz := { s.nitz with nitzTimeReceived := Function.update s.nitz.nitzTimeReceived slot time } }
  let unlocked : RilState := { locked with locks := Function.update written l ⟨0, none⟩ }
  have hwritten : written l = ⟨0, some t⟩ := Function.update_self l _ _
  have hwrite : written = Function.update s.locks l { s.locks l with writer := some t } := by
    rw [hlock]
  have hrelease : unlocked.locks = Function.update written l ((written l).unlock t) := by
    rw [hwritten]
    exact congrArg (Function.update written l) (if_pos rfl).symm
  refine ⟨{ unlocked with nitz := ⟨some ⟨string, true⟩, string.length + 1,
    Function.update s.nitz.nitzTimeReceived slot time⟩ }, ?_, Function.update_self l _ _,
    rfl, rfl, rfl⟩
  show (passIndicationOn .dual Unsol.nitzTimeReceived _ _ slot).Runs _ _ _ _
  unfold passIndicationOn
  rw [hl]
  -- the wake lock, the lock of the slot and the reception time
  refine (runs_bind _ _).mpr ⟨(), { s with wake := wake },
    ⟨(), _, ⟨trivial, _, hwake, rfl⟩, rfl, rfl⟩, ?_⟩
  refine (runs_bind _ _).mpr ⟨(), locked, ?_, ?_⟩
  · show Program.Runs _ (do
      pthreadRwlockWrlock (getRadioServiceRwlock .dual slot)
      let time ← elapsedRealtime
      setNitzTimeReceived slot time) _ _ _
    rw [hl]
    exact ⟨(), { s with wake := wake, locks := written },
      ⟨trivial, _, ⟨congrArg Rwlock.readers hlock, congrArg Rwlock.writer hlock, hwrite⟩, rfl⟩,
      time, _, ⟨trivial, _, rfl, rfl⟩, (), _, ⟨trivial, _, rfl, rfl⟩, rfl, rfl⟩
  -- there is no client
  refine (runs_bind _ _).mpr ⟨(-1 : ℤ), locked,
    ⟨none, _, ⟨trivial, _, ⟨hclient.symm, rfl⟩, rfl⟩, rfl, rfl⟩, ?_⟩
  refine runs_op_bind.mpr ⟨(), unlocked, ⟨trivial, _, hrelease, rfl⟩, ?_⟩
  -- so that the message is stored
  have htake : CharBuffer.take ⟨string, true⟩ (string.length + 1) = ⟨string, true⟩ := by
    rw [CharBuffer.take, List.take_of_length_le (Nat.le_succ _),
      decide_eq_true (Nat.lt_succ_self _)]
    rfl
  have hkeeps := @keeps .dual t unlocked ⟨string, true⟩ (string.length + 1)
  rw [htake] at hkeeps
  exact (runs_bind _ _).mpr ⟨true, _, (runs_bind _ _).mpr ⟨true, unlocked, ⟨rfl, rfl⟩, hkeeps⟩, rfl,
    rfl⟩

/-- The state in which the process starts, with no message and no client. -/
def start : NitzState := ⟨.start, fun _ => none⟩

/-- A message arrives at a slot without a client. No client was called, so the message waits from
now on. -/
theorem step {σ : NitzState} {slot time : ℤ} {string : List UInt8} {wake : WakeState}
    (hlock : σ.ril.locks (getRadioServiceRwlock .dual slot) = ⟨0, none⟩)
    (hclient : σ.ril.client slot = none)
    (hwake : (WakeOp.grabPartialWakeLock).sem 15 () σ.ril.wake wake) :
    ∃ σ', NitzStep Reliable .dual t
        (.nitzTime string (string.length + 1) slot) σ σ' ∧
      σ'.ril.locks (getRadioServiceRwlock .dual slot) = ⟨0, none⟩ ∧ σ'.ril.clients = σ.ril.clients ∧
      σ'.ril.wake = wake ∧ σ'.ril.nitz.lastNITZTimeData = some ⟨string, true⟩ ∧
      σ'.pending = Function.update σ.pending slot (some ⟨string, time⟩) := by
  obtain ⟨s', hruns, hlock', hclients, hwake', hnitz⟩ :=
    -- the message arrives at a slot without a client
    @arrives t σ.ril slot time string wake hlock hclient hwake
  refine ⟨⟨s', Function.update σ.pending slot (some ⟨string, time⟩)⟩, ⟨hruns, fun i m => ?_⟩,
    hlock', hclients, hwake', by rw [hnitz], rfl⟩
  -- no client was called, so the message waits
  have hnew : newCalls σ.ril s' = [] := newCalls_of_append (by rw [hclients]; rfl)
  have hnone : ¬Accepted (newCalls σ.ril s') i m := by
    rintro ⟨c, hmem, -⟩
    rw [hnew] at hmem
    exact List.not_mem_nil hmem
  have hlatest :=
    @NitzState.latest_arrival .dual σ string (string.length + 1) slot slot i s' rfl rfl
  have htime : s'.nitz.nitzTimeReceived slot = time := by
    rw [hnitz]
    exact Function.update_self ..
  rw [and_iff_left hnone, hlatest, htime]
  show Function.update σ.pending slot (some ⟨string, time⟩) i = _ ↔ _
  -- it is the slot of the message, or another one
  rcases eq_or_ne i slot with rfl | hne
  · rw [Function.update_self, if_pos rfl]
  · rw [Function.update_of_ne hne, if_neg hne]

/-- A message has arrived at the first slot. -/
structure First (σ : NitzState) : Prop where
  step : NitzStep Reliable .dual 0 (.nitzTime [49] 2 0) start σ
  lock : σ.ril.locks .radioServiceRwlock = ⟨0, none⟩
  clients : σ.ril.clients = RilState.start.clients
  wake : σ.ril.wake = WakeState.start.granted 1
  pending : σ.pending = Function.update (fun _ => none) 0 (some ⟨[49], 100⟩)

theorem exists_first : ∃ σ, First σ := by
  have hwake : (WakeOp.grabPartialWakeLock).sem 15 () RilState.start.wake
    (WakeState.start.granted 1) :=
    ⟨some 1, fun _ _ => rfl, rfl⟩
  obtain ⟨σ, hstep, hlock, hclients, hwake, -, hpending⟩ := @step 0 start 0 100 [49] _ rfl rfl hwake
  exact ⟨σ, hstep, hlock, hclients, hwake, hpending⟩

theorem start_init {ok : Config → NitzState → RilCall → NitzState → Prop} :
    (nitzSystem env ok .dual).init start :=
  ⟨RilState.start_initial, rfl⟩

end TwoSlots

/-- A message for the second slot takes the place of a message for the first one. Both slots wait,
and there is one buffer. -/
theorem second_slot_overwrites : ∃ σ, Lts.Reachable (nitzSystem Anything AnyCall .dual) σ ∧
    ¬σ.Retained := by
  obtain ⟨σ₁, hfirst⟩ := TwoSlots.exists_first
  have hwake :
      (WakeOp.grabPartialWakeLock).sem 15 () σ₁.ril.wake
        ((WakeState.start.granted 1).granted 2) := by
    rw [hfirst.wake]
    refine ⟨some 2, fun a ha => ?_, rfl⟩
    obtain rfl := Option.some.inj ha
    rfl
  have hclient : σ₁.ril.client 1 = none := by
    rw [RilState.client, hfirst.clients]
    rfl
  -- the second message, for slot 1, takes the buffer of the first one
  obtain ⟨σ₂, hstep, -, -, -, hlast, hpending⟩ :=
    @TwoSlots.step 0 σ₁ 1 200 [50] _ hfirst.lock hclient hwake
  have hcall₁ : (nitzSystem Reliable AnyCall .dual).step TwoSlots.start (0, _) σ₁ :=
    ⟨hfirst.step, trivial⟩
  have hcall₂ : (nitzSystem Reliable AnyCall .dual).step σ₁ (0, _) σ₂ := ⟨hstep, trivial⟩
  have hreach : Lts.Reachable (nitzSystem Anything AnyCall .dual) σ₂ :=
    .step (.step (.init TwoSlots.start_init) (nitzSystem_step hcall₁)) (nitzSystem_step hcall₂)
  refine ⟨σ₂, hreach, fun hretained => ?_⟩
  have hpending : σ₂.pending 0 = some ⟨[49], 100⟩ := by
    rw [hpending, hfirst.pending]
    rfl
  -- the message of slot 0 still waits, but is not the one that is kept
  have hstored := (hretained 0 _ hpending).1
  rw [hlast] at hstored
  exact absurd hstored (by decide)

theorem nitz_retained_and_delivered_first : ∃ σ : NitzState, σ.pending 0 = some ⟨[49], 100⟩ ∧
    σ.Retained ∧
    ∀ t call σ', (nitzSystem Reliable BufferSuffices .dual).step σ (t, call) σ' →
    Delivers .dual call σ σ' := by
  obtain ⟨σ, hfirst⟩ := TwoSlots.exists_first
  have hok : BufferSuffices .dual TwoSlots.start
      (.nitzTime [49] 2 0) σ :=
    fun _ _ => ⟨[49], rfl, by decide, fun _ => ⟨by decide, fun _ _ => rfl⟩⟩
  have hreach : Lts.Reachable (nitzSystem Reliable BufferSuffices .dual) σ :=
    .step (l := (0, _)) (.init TwoSlots.start_init) ⟨hfirst.step, hok⟩
  refine ⟨σ, ?_, nitz_retained_and_delivered hreach⟩
  rw [hfirst.pending]
  rfl

end BlueCommon.Ril
