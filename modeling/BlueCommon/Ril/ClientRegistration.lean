import BlueCommon.Ril.ServiceLocks

/-!
# Registrations of clients

Any number of threads answer requests, acknowledge them and pass on indications, as
`RIL_onRequestComplete`, `RIL_onRequestAck` and `RIL_onUnsolicitedResponse` do, while clients
register with `setResponseFunctions`, all interleaved operation by operation. A call to a client may
fail at any time, also after a newer client has registered; `checkReturnStatus` drops the read lock
before it takes the write lock and resets the callbacks.

* `failure_resets_own_client`: what `checkReturnStatus` resets is the registration on which its own
  call failed, and the callbacks of version 1.1 are always those of version 1.0 or `NULL`.

The counter carries the proof: it was sampled under the read lock, when the callback of the failed
call was still installed, and every registration and every reset changes it.
-/

namespace BlueCommon.Ril

open Interaction Program

/-- What a thread may be given to run: the acceptance of a request, what the vendor calls, and the
registrations of clients. -/
inductive ClientThread (cfg : Config) : Code Unit → Prop
  | addRequestToList (serial slotId request : ℤ) :
      ClientThread cfg (addRequestToList cfg serial slotId request >>= fun _ => pure ())
  | rilOnRequestAck (t : Option Addr) : ClientThread cfg (rilOnRequestAck cfg t)
  | rilOnRequestComplete (t : Option Addr) (e : ℤ) :
      ClientThread cfg (rilOnRequestComplete cfg t e)
  | rilOnUnsolicitedResponse (unsolResponse : ℤ) (data : Option CharBuffer) (datalen : ℕ)
      (socketId : ℤ) :
      ClientThread cfg (rilOnUnsolicitedResponse cfg unsolResponse data datalen socketId)
  | setResponseFunctions (slotId : ℤ) (radioResponse radioIndication : Option ℕ) :
      ClientThread cfg (setResponseFunctions cfg slotId radioResponse radioIndication)
  | setOemHookFunctions (slotId : ℤ) (oemHookResponse oemHookIndication : Option ℕ) :
      ClientThread cfg (setOemHookFunctions cfg slotId oemHookResponse oemHookIndication)

/-- The locks are free and no client is registered. -/
structure NoClients (s : RilState) : Prop where
  locks : ∀ l, s.locks l = ⟨0, none⟩
  callback : ∀ slotId field, (s.clients.slot slotId).callback field = none
  resets : s.clients.resets = []

/-- The runs of the threads, each of which may run any function that calls a client or registers
one, at any time. -/
def clientSystem (cfg : Config) : Lts (Pool rilSignature RilState) (PoolLabel rilSignature) :=
  pool NoClients (RilOp.sem cfg) fun _ _ p => ClientThread cfg p

/-- The reset cleared callbacks of one registration, that of the callback on which the thread's call
had failed. -/
def ClientReset.Own (reset : ClientReset) : Prop :=
  ∃ callback, reset.failed = some callback ∧ callback ∈ reset.cleared ∧
    ∀ c ∈ reset.cleared, c.registration = callback.registration

/-- The callbacks of version 1.1 are both `NULL`, or both the installed callbacks of version 1.0.
They are cast from these when the client is registered. -/
def ClientSlot.Paired (slot : ClientSlot) : Prop :=
  (slot.callback .mRadioResponseV1_1 = none ∧ slot.callback .mRadioIndicationV1_1 = none) ∨
    ∃ response indication, slot.callback .mRadioResponse = some response ∧
      slot.callback .mRadioIndication = some indication ∧
      slot.callback .mRadioResponseV1_1 = some response ∧
      slot.callback .mRadioIndicationV1_1 = some indication

/-- Only the callbacks of the radio service matter. -/
theorem ClientSlot.Paired.congr {slot slot' : ClientSlot} (h : slot.Paired)
    (heq : ∀ f : CallbackField, f.service = .radio → slot'.callback f = slot.callback f) :
    slot'.Paired := by
  unfold ClientSlot.Paired at h ⊢
  rw [heq _ rfl, heq _ rfl, heq .mRadioResponse rfl, heq .mRadioIndication rfl]
  exact h

variable {cfg : Config}

/-! ### Callbacks that are installed -/

namespace Clients

variable {c : Clients} {slotId : ℤ} {service : Service} {callback : Callback}
  {callbacks : CallbackField → Option Callback}

theorem mem_installed : callback ∈ c.installed slotId service ↔
    ∃ field : CallbackField, field.service = service ∧
      (c.slot slotId).callback field = some callback := by
  constructor
  · intro h
    -- the list has the fields of the service that are not null
    cases service with
    | radio =>
      obtain ⟨field, hfield, heq⟩ := List.mem_filterMap.mp h
      refine ⟨field, ?_, heq⟩
      simp only [List.mem_cons, List.not_mem_nil, or_false] at hfield
      rcases hfield with rfl | rfl | rfl | rfl <;> rfl
    | oemHook =>
      obtain ⟨field, hfield, heq⟩ := List.mem_filterMap.mp h
      refine ⟨field, ?_, heq⟩
      simp only [List.mem_cons, List.not_mem_nil, or_false] at hfield
      rcases hfield with rfl | rfl <;> rfl
  · -- every field is in the list of its service
    rintro ⟨field, rfl, heq⟩
    cases field <;> exact List.mem_filterMap.mpr ⟨_, by decide, heq⟩

theorem replace_callback_self {field : CallbackField} (h : field.service = service) :
    ((c.replace slotId service callbacks).slot slotId).callback field = callbacks field := by
  simp [replace, h]

theorem replace_callback_of_ne {slotId' : ℤ} {field : CallbackField}
    (h : slotId' ≠ slotId ∨ field.service ≠ service) :
    ((c.replace slotId service callbacks).slot slotId').callback field =
      (c.slot slotId').callback field := by
  by_cases hslot : slotId' = slotId
  · subst hslot
    have hservice := h.resolve_left fun hne => hne rfl
    simp [replace, hservice]
  · simp [replace, hslot]

theorem replace_counter_self :
    ((c.replace slotId service callbacks).slot slotId).counter service =
      (c.slot slotId).counter service + 1 := by
  simp [replace]

theorem replace_counter_of_ne {slotId' : ℤ} {service' : Service}
    (h : slotId' ≠ slotId ∨ service' ≠ service) :
    ((c.replace slotId service callbacks).slot slotId').counter service' =
      (c.slot slotId').counter service' := by
  by_cases hslot : slotId' = slotId
  · subst hslot
    have hservice := h.resolve_left fun hne => hne rfl
    simp [replace, hservice]
  · simp [replace, hslot]

end Clients

/-! ### The invariant -/

/-- **The invariant of the registrations.** What a thread has seen under its lock is installed;
while a sampled counter is current, the callback of the failed call is installed; the callbacks of a
service belong to one registration. -/
structure ClientInv (cfg : Config) (c : Clients) (gh : ℕ → ServicePhase) : Prop where
  answering : ∀ t, (gh t).answering = false
  seen : ∀ t slotId service callback, (slotId, service, callback) ∈ (gh t).seen →
    (∃ mode, (gh t).Holds cfg slotId mode) ∧ callback ∈ c.installed slotId service
  failed : ∀ t slotId callback, (gh t).failed = some (slotId, callback) →
    c.lastFailed t = some callback
  sampled : ∀ t slotId service counter, (gh t).sampled = some (slotId, service, counter) →
    counter ≤ (c.slot slotId).counter service ∧ ∃ callback,
      (gh t).failed = some (slotId, callback) ∧
      (counter = (c.slot slotId).counter service → callback ∈ c.installed slotId service)
  uniform : ∀ slotId service, ∀ a ∈ c.installed slotId service, ∀ b ∈ c.installed slotId service,
    a.registration = b.registration
  paired : ∀ slotId, (c.slot slotId).Paired
  resets : ∀ reset ∈ c.resets, reset.Own

/-- The invariant of the rwlocks and the registrations. -/
def RegistrationInv (cfg : Config) (s : RilState) (gh : ℕ → ServicePhase) : Prop :=
  LocksHeld s.locks gh ∧ ClientInv cfg s.clients gh

theorem NoClients.inv {s : RilState} (h : NoClients s) :
    RegistrationInv cfg s fun _ => .start := by
  -- without clients no field is set
  have hempty : ∀ slotId service callback, callback ∉ s.clients.installed slotId service := by
    intro slotId service callback hmem
    obtain ⟨field, -, heq⟩ := Clients.mem_installed.mp hmem
    rw [h.callback] at heq
    cases heq
  refine ⟨.free h.locks fun _ => rfl, ?_⟩
  exact {
    answering := fun _ => rfl
    seen := fun _ _ _ _ hmem => absurd hmem List.not_mem_nil
    failed := fun _ _ _ => nofun
    sampled := fun _ _ _ _ => nofun
    uniform := fun slotId service a ha => absurd ha (hempty slotId service a)
    paired := fun slotId => .inl ⟨h.callback slotId _, h.callback slotId _⟩
    resets := fun reset hreset => by
      rw [h.resets] at hreset
      exact absurd hreset List.not_mem_nil }

namespace ClientInv

variable {c c' : Clients} {gh : ℕ → ServicePhase} {g : ServicePhase} {t : ℕ} {slotId : ℤ}
  {service : Service} {callbacks : CallbackField → Option Callback}

/-- What the invariant says of one thread. -/
structure ThreadInv (cfg : Config) (c : Clients) (t : ℕ) (g : ServicePhase) : Prop where
  answering : g.answering = false
  seen : ∀ slotId service callback, (slotId, service, callback) ∈ g.seen →
    (∃ mode, g.Holds cfg slotId mode) ∧ callback ∈ c.installed slotId service
  failed : ∀ slotId callback, g.failed = some (slotId, callback) → c.lastFailed t = some callback
  sampled : ∀ slotId service counter, g.sampled = some (slotId, service, counter) →
    counter ≤ (c.slot slotId).counter service ∧ ∃ callback,
      g.failed = some (slotId, callback) ∧
      (counter = (c.slot slotId).counter service → callback ∈ c.installed slotId service)

theorem thread (inv : ClientInv cfg c gh) (u : ℕ) : ThreadInv cfg c u (gh u) :=
  ⟨inv.answering u, inv.seen u, inv.failed u, inv.sampled u⟩

/-- One thread goes on. -/
theorem update (ht : ThreadInv cfg c t g) (hothers : ∀ u, u ≠ t → ThreadInv cfg c u (gh u))
    (huniform : ∀ slotId service, ∀ a ∈ c.installed slotId service,
      ∀ b ∈ c.installed slotId service, a.registration = b.registration)
    (hpaired : ∀ slotId, (c.slot slotId).Paired) (hresets : ∀ reset ∈ c.resets, reset.Own) :
    ClientInv cfg c (Function.update gh t g) := by
  have h : ∀ u, ThreadInv cfg c u (Function.update gh t g u) :=
    (Function.forall_update_iff gh (ThreadInv cfg c)).mpr ⟨ht, hothers⟩
  exact ⟨fun u => (h u).answering, fun u => (h u).seen, fun u => (h u).failed,
    fun u => (h u).sampled, huniform, hpaired, hresets⟩

/-- A step that changes neither the callbacks nor what the thread has called. -/
theorem keep (inv : ClientInv cfg c gh) (hanswering : g.answering = false)
    (hseen : ∀ slotId service callback, (slotId, service, callback) ∈ g.seen →
      (∃ mode, g.Holds cfg slotId mode) ∧ callback ∈ c.installed slotId service)
    (hfailed : g.failed = (gh t).failed) (hsampled : ∀ slotId service counter,
      g.sampled = some (slotId, service, counter) →
        counter ≤ (c.slot slotId).counter service ∧ ∃ callback,
          (gh t).failed = some (slotId, callback) ∧
          (counter = (c.slot slotId).counter service → callback ∈ c.installed slotId service)) :
    ClientInv cfg c (Function.update gh t g) := by
  refine update ⟨hanswering, hseen, ?_, ?_⟩ (fun u _ => inv.thread u) inv.uniform inv.paired
    inv.resets
  · rw [hfailed]
    exact inv.failed t
  · rw [hfailed]
    exact hsampled

/-- A lock is taken or released: what was seen is forgotten. -/
theorem forget (inv : ClientInv cfg c gh) {hold : Option (RadioRwlock × LockMode)} :
    ClientInv cfg c (Function.update gh t { gh t with hold := hold, seen := [] }) :=
  inv.keep (inv.answering t) (fun _ _ _ hmem => absurd hmem List.not_mem_nil) rfl (inv.sampled t)

/-- The call of a client: if it fails, it is the thread's last failed call. -/
theorem called (inv : ClientInv cfg c gh) {callback : Callback} {message : ClientMessage}
    {isOk : Bool} :
    ClientInv cfg { c with calls := ⟨t, slotId, callback, message, isOk⟩ :: c.calls }
      (Function.update gh t ((gh t).afterCall slotId callback message isOk)) := by
  refine update ⟨inv.answering t, inv.seen t, ?_, fun _ _ _ => nofun⟩ (fun u hut => ?_) inv.uniform
    inv.paired inv.resets
  · intro slotId' callback'
    cases isOk with
    | true =>
      -- a call that succeeds leaves the last failed one as it was
      intro h
      rw [← inv.failed t slotId' callback' h]
      simp [Clients.lastFailed]
    | false =>
      rintro ⟨⟩
      simp [Clients.lastFailed]
  · refine ⟨inv.answering u, inv.seen u, fun slotId' callback' h => ?_, inv.sampled u⟩
    rw [← inv.failed u slotId' callback' h]
    simp [Clients.lastFailed, hut.symm]

/-- The thread that holds the slot's lock for writing replaces the callbacks of a service. The new
ones belong to one registration, and what the other threads have seen is not touched. -/
theorem replaced (inv : ClientInv cfg c gh) {locks : RadioRwlock → Rwlock}
    (held : LocksHeld locks gh) (hwrite : (gh t).Holds cfg slotId .write)
    (hslot : c'.slot = (c.replace slotId service callbacks).slot) (hcalls : c'.calls = c.calls)
    (huniform : ∀ f₁ f₂ a b, callbacks f₁ = some a → callbacks f₂ = some b →
      a.registration = b.registration)
    (hpaired : service = .radio → ClientSlot.Paired ⟨callbacks, fun _ => 0⟩)
    (hresets : ∀ reset ∈ c'.resets, reset.Own) :
    ClientInv cfg c' (Function.update gh t { gh t with seen := [], sampled := none }) := by
  -- the calls are not touched, so each thread's last failure is the same
  have hfailed : ∀ u slotId' callback, (gh u).failed = some (slotId', callback) →
      c'.lastFailed u = some callback := by
    intro u slotId' callback h
    unfold Clients.lastFailed
    rw [hcalls]
    exact inv.failed u slotId' callback h
  refine update ⟨inv.answering t, fun _ _ _ hmem => absurd hmem List.not_mem_nil, hfailed t,
    fun _ _ _ => nofun⟩ (fun u hut => ⟨inv.answering u, ?_, hfailed u, ?_⟩) ?_ ?_ hresets
  · -- what another thread has seen is still installed
    intro slotId' service' callback hmem
    obtain ⟨⟨mode, hhold⟩, hinstalled⟩ := inv.seen u slotId' service' callback hmem
    -- the other thread holds another lock, so it has seen callbacks of another slot
    have hne : slotId' ≠ slotId := by
      rintro rfl
      exact hut (held.eq_of_write hwrite hhold)
    refine ⟨⟨mode, hhold⟩, ?_⟩
    rw [Clients.mem_installed] at hinstalled ⊢
    obtain ⟨field, hfield, heq⟩ := hinstalled
    refine ⟨field, hfield, ?_⟩
    rw [hslot, Clients.replace_callback_of_ne (.inl hne), heq]
  · -- what another thread has sampled is either old or of another slot
    intro slotId' service' counter hsampled
    obtain ⟨hle, callback, hfailed, hcurrent⟩ := inv.sampled u slotId' service' counter hsampled
    by_cases hsame : slotId' = slotId ∧ service' = service
    · -- the counter has moved on
      obtain ⟨rfl, rfl⟩ := hsame
      rw [hslot, Clients.replace_counter_self]
      exact ⟨by omega, callback, hfailed, fun h => by omega⟩
    · have hne : slotId' ≠ slotId ∨ service' ≠ service := not_and_or.mp hsame
      rw [hslot, Clients.replace_counter_of_ne hne]
      refine ⟨hle, callback, hfailed, fun h => ?_⟩
      have hmem := hcurrent h
      rw [Clients.mem_installed] at hmem ⊢
      obtain ⟨field, rfl, heq⟩ := hmem
      exact ⟨field, rfl, by rw [hslot, Clients.replace_callback_of_ne hne, heq]⟩
  · -- the new callbacks are of one registration, those of the other services as before
    intro slotId' service' a ha b hb
    rw [Clients.mem_installed, hslot] at ha hb
    obtain ⟨f₁, rfl, ha⟩ := ha
    obtain ⟨f₂, hf₂, hb⟩ := hb
    -- the two callbacks are both of the slot and service replaced, or neither is
    by_cases hsame : slotId' = slotId ∧ f₁.service = service
    · obtain ⟨rfl, rfl⟩ := hsame
      rw [Clients.replace_callback_self rfl] at ha
      rw [Clients.replace_callback_self hf₂] at hb
      exact huniform f₁ f₂ a b ha hb
    · have hne : slotId' ≠ slotId ∨ f₁.service ≠ service := not_and_or.mp hsame
      rw [Clients.replace_callback_of_ne hne] at ha
      rw [Clients.replace_callback_of_ne (hf₂.symm ▸ hne)] at hb
      exact inv.uniform slotId' f₁.service a (Clients.mem_installed.mpr ⟨f₁, rfl, ha⟩) b
        (Clients.mem_installed.mpr ⟨f₂, hf₂, hb⟩)
  · -- the two interfaces of the radio service are set and cleared together
    intro slotId'
    rw [hslot]
    by_cases hsame : slotId' = slotId ∧ service = .radio
    · obtain ⟨rfl, rfl⟩ := hsame
      exact (hpaired rfl).congr fun f hf => Clients.replace_callback_self hf
    · refine (inv.paired slotId').congr fun f hf => Clients.replace_callback_of_ne ?_
      rw [hf]
      exact (not_and_or.mp hsame).imp_right Ne.symm

/-- `checkReturnStatus` resets the callbacks. -/
theorem reset (inv : ClientInv cfg c gh) {locks : RadioRwlock → Rwlock}
    (held : LocksHeld locks gh) (hwrite : (gh t).Holds cfg slotId .write)
    (hsampled : (gh t).sampled = some (slotId, service, (c.slot slotId).counter service)) :
    ClientInv cfg (c.reset t slotId service)
      (Function.update gh t { gh t with seen := [], sampled := none }) := by
  refine inv.replaced held hwrite rfl rfl (fun _ _ _ _ h => nomatch h)
    (fun _ => .inl ⟨rfl, rfl⟩) fun reset hreset => ?_
  rcases List.mem_cons.mp hreset with rfl | hreset
  · -- the counter is the sampled one, so the callback of the failed call is still installed
    obtain ⟨-, callback, hfailed, hcurrent⟩ := inv.sampled t slotId service _ hsampled
    have hinstalled := hcurrent rfl
    exact ⟨callback, inv.failed t slotId callback hfailed, hinstalled,
      fun a ha => inv.uniform slotId service a ha callback hinstalled⟩
  · exact inv.resets reset hreset

/-- `RadioImpl::setResponseFunctions` installs the callbacks of a new registration. All that are set
come from this one, under the write lock; those of version 1.1 are set only if both objects have
that version. -/
theorem registered (inv : ClientInv cfg c gh) {locks : RadioRwlock → Rwlock}
    (held : LocksHeld locks gh) (hwrite : (gh t).Holds cfg slotId .write)
    {response indication : Option ℕ} {v1_1 : Bool × Bool} :
    ClientInv cfg
      { c.replace slotId .radio
        (Clients.registered (c.callbackOf response) (c.callbackOf indication) v1_1) with
        registrations := c.registrations + 1 }
      (Function.update gh t { gh t with seen := [], sampled := none }) := by
  -- all callbacks that are set come from this registration
  have hnew : ∀ f a, Clients.registered (c.callbackOf response) (c.callbackOf indication) v1_1 f =
      some a → a.registration = c.registrations := by
    have hof : ∀ object a, c.callbackOf object = some a → a.registration = c.registrations := by
      rintro (_ | object) a ⟨⟩
      rfl
    intro f a ha
    cases f with
    | mRadioResponse => exact hof _ a ha
    | mRadioIndication => exact hof _ a ha
    | mRadioResponseV1_1 => exact hof response a (Option.ite_none_right_eq_some.mp ha).2
    | mRadioIndicationV1_1 => exact hof indication a (Option.ite_none_right_eq_some.mp ha).2
    | mOemHookResponse => cases ha
    | mOemHookIndication => cases ha
  refine inv.replaced held hwrite rfl rfl
    (fun f₁ f₂ a b ha hb => (hnew f₁ a ha).trans (hnew f₂ b hb).symm) (fun _ => ?_) inv.resets
  -- the callbacks of version 1.1 are set only if both objects exist
  by_cases hboth : (v1_1.1 && (c.callbackOf response).isSome &&
      (v1_1.2 && (c.callbackOf indication).isSome)) = true
  · obtain ⟨⟨-, hr⟩, -, hi⟩ : (v1_1.1 = true ∧ (c.callbackOf response).isSome = true) ∧
        v1_1.2 = true ∧ (c.callbackOf indication).isSome = true := by
      simpa only [Bool.and_eq_true] using hboth
    obtain ⟨r, hr⟩ := Option.isSome_iff_exists.mp hr
    obtain ⟨i, hi⟩ := Option.isSome_iff_exists.mp hi
    exact .inr ⟨r, i, hr, hi, (if_pos hboth).trans hr, (if_pos hboth).trans hi⟩
  · exact .inl ⟨if_neg hboth, if_neg hboth⟩

/-- `OemHookImpl::setResponseFunctions` installs the callbacks of a new registration. -/
theorem registeredOemHook (inv : ClientInv cfg c gh) {locks : RadioRwlock → Rwlock}
    (held : LocksHeld locks gh) (hwrite : (gh t).Holds cfg slotId .write)
    {response indication : Option ℕ} :
    ClientInv cfg
      { c.replace slotId .oemHook
        (Clients.registeredOemHook (c.callbackOf response) (c.callbackOf indication)) with
        registrations := c.registrations + 1 }
      (Function.update gh t { gh t with seen := [], sampled := none }) := by
  -- every callback of the hook carries the number of this registration
  have hnew : ∀ f a, Clients.registeredOemHook (c.callbackOf response) (c.callbackOf indication) f =
      some a → a.registration = c.registrations := by
    rintro (_ | _ | _ | _ | _ | _) a ha
    · cases ha
    · cases ha
    · cases ha
    · cases ha
    · obtain ⟨object, -, rfl⟩ := Option.map_eq_some_iff.mp ha
      rfl
    · obtain ⟨object, -, rfl⟩ := Option.map_eq_some_iff.mp ha
      rfl
  exact inv.replaced held hwrite rfl rfl
    (fun f₁ f₂ a b ha hb => (hnew f₁ a ha).trans (hnew f₂ b hb).symm) nofun inv.resets

/-- **One operation on the callbacks.** What a thread sees it notes, under the lock it holds, and it
may call only what it has seen. A registration replaces the callbacks and is made with the write
lock, so nobody else has seen any of them then. -/
theorem client (inv : ClientInv cfg c gh) {locks : RadioRwlock → Rwlock}
    (held : LocksHeld locks gh) {o : ClientOp} {r : o.Res}
    (hallow : (gh t).allowClient cfg o) (hsem : o.sem t r c c') :
    (gh t).can (.client o) r ∧
      ClientInv cfg c' (Function.update gh t ((gh t).after (.client o) r)) := by
  have hsame : ClientInv cfg c (Function.update gh t (gh t)) := by
    rw [Function.update_eq_self]
    exact inv
  -- by the command on the clients
  cases o with
  -- a callback that is read is noted as seen, under the lock that is held
  | get slotId field =>
    obtain ⟨rfl, rfl⟩ := hsem
    refine ⟨trivial, ?_⟩
    rcases hfield : (c'.slot slotId).callback field with _ | callback
    · exact hsame
    · -- in an answer to a failure nothing is noted
      have hafter : (gh t).after (.client (.get slotId field)) (some callback) =
          { gh t with seen := (slotId, field.service, callback) :: (gh t).seen } :=
        if_neg (ne_true_of_eq_false (inv.answering t))
      rw [hafter]
      refine inv.keep (inv.answering t) (fun slotId' service' callback' hmem => ?_) rfl
        (inv.sampled t)
      rcases List.mem_cons.mp hmem with heq | hmem
      · cases heq
        refine ⟨hallow.resolve_left ?_, Clients.mem_installed.mpr ⟨field, rfl, hfield⟩⟩
        exact ne_true_of_eq_false (inv.answering t)
      · exact inv.seen t slotId' service' callback' hmem
  -- a cast gives null or the same object again
  | castFrom callback =>
    obtain ⟨hr, rfl⟩ := hsem
    refine ⟨?_, hsame⟩
    rintro d rfl
    rcases hr with hr | hr | hr
    · cases hr
    · cases hr
    · exact Option.some.inj (Option.some.inj hr)
  | call slotId callback message =>
    -- the call is noted, whether it fails or not
    obtain rfl := hsem
    exact ⟨trivial, inv.called⟩
  | getCounter slotId service =>
    obtain ⟨rfl, rfl⟩ := hsem
    refine ⟨trivial, inv.keep (inv.answering t) (inv.seen t) rfl ?_⟩
    rintro slotId' service' counter ⟨⟩
    -- the callback of the failed call was seen under the lock that is still held
    obtain ⟨callback, hfailed, hseen⟩ := hallow
    exact ⟨le_rfl, callback, hfailed, fun _ => (inv.seen t slotId service callback hseen).2⟩
  | resetIfCurrent slotId service counter =>
    obtain ⟨hwrite, hsampled⟩ := hallow
    refine ⟨trivial, ?_⟩
    have hsem : if counter = (c.slot slotId).counter service then
        (c.slot slotId).counter service ≠ intMax ∧ c' = c.reset t slotId service
      else c' = c := hsem
    split at hsem
    · -- the counter is the one that was sampled, so the callbacks are reset
      next hcurrent =>
      obtain ⟨-, rfl⟩ := hsem
      exact inv.reset held hwrite (hcurrent ▸ hsampled)
    · -- the counter has moved on: another thread has reset them, and nothing is done
      obtain rfl := hsem
      exact inv.keep (inv.answering t) (fun _ _ _ hmem => absurd hmem List.not_mem_nil) rfl
        fun _ _ _ => nofun
  -- a registration replaces the callbacks of the radio service
  | setResponseFunctions slotId response indication =>
    obtain ⟨-, v1_1, rfl⟩ := hsem
    exact ⟨trivial, inv.registered held hallow⟩
  | setOemHookFunctions slotId response indication =>
    obtain ⟨-, rfl⟩ := hsem
    exact ⟨trivial, inv.registeredOemHook held hallow⟩

end ClientInv

/-- One operation of a thread that never enters `sendErrorResponse`. A command on another part of
the state leaves the clients alone, and what a thread knows of the clients it knows under a lock
that is held. -/
theorem RegistrationInv.step {s s' : RilState} {gh : ℕ → ServicePhase} {t : ℕ} {o : RilOp}
    {r : o.Res} (inv : RegistrationInv cfg s gh) (hallow : (gh t).allow cfg False o)
    (hsem : RilOp.sem cfg t o r s s') :
    ∃ g, (serviceProtocol cfg False).next (gh t) o r g ∧
      RegistrationInv cfg s' (Function.update gh t g) := by
  obtain ⟨held, clients⟩ := inv
  suffices h :
      (gh t).can o r ∧ ClientInv cfg s'.clients (Function.update gh t ((gh t).after o r)) from
    ⟨_, ⟨h.1, rfl⟩, held.step rfl rfl hallow hsem, h.2⟩
  -- a command on another part of the state leaves the clients alone
  have hsame : ClientInv cfg s.clients (Function.update gh t (gh t)) := by
    rw [Function.update_eq_self]
    exact clients
  -- by the part of the state that the command is about
  cases o with
  | pending o =>
    obtain ⟨_, -, rfl⟩ := hsem
    exact ⟨trivial, hsame⟩
  | nitz o =>
    obtain ⟨_, -, rfl⟩ := hsem
    exact ⟨trivial, hsame⟩
  | wake o =>
    obtain ⟨_, -, rfl⟩ := hsem
    exact ⟨trivial, hsame⟩
  | vendor o =>
    obtain rfl : s' = s := hsem
    exact ⟨trivial, hsame⟩
  -- what a thread knows of the clients it knows under a lock
  | lock o =>
    obtain ⟨_, -, rfl⟩ := hsem
    refine ⟨trivial, ?_⟩
    cases o with
    | rdlock l => exact clients.forget
    | wrlock l => exact clients.forget
    | unlock l => exact clients.forget
  -- the commands on the clients themselves
  | client o =>
    obtain ⟨_, hclient, rfl⟩ := hsem
    exact clients.client held hallow.2 hclient
  | mark o =>
    obtain rfl : s' = s := hsem
    cases o with
    | enterCheckReturnStatus slotId message =>
      -- the marks of `sendErrorResponse` do not occur here
      exact ⟨clients.answering t, clients.keep (clients.answering t) (clients.seen t) rfl
        (clients.sampled t)⟩
    | enterSendErrorResponse => exact absurd hallow.1 id
    | leaveSendErrorResponse =>
      exact absurd hallow.2 (ne_true_of_eq_false (clients.answering t))

/-- Every thread obeys the protocol. -/
theorem ClientThread.leads {p : Code Unit} (h : ClientThread cfg p) :
    Code.Leads cfg False ServicePhase.Free p ServicePhase.Free := by
  cases h with
  | addRequestToList serial slotId request =>
    exact Program.Leads.bind (Code.Leads.neutral addRequestToList_neutral fun g hg => hg.called)
      fun _ _ => id
  | rilOnRequestAck t => exact rilOnRequestAck_leads t
  | rilOnRequestComplete t e => exact rilOnRequestComplete_leads t e
  | rilOnUnsolicitedResponse unsolResponse data datalen socketId =>
    exact rilOnUnsolicitedResponse_leads unsolResponse data datalen socketId
  | setResponseFunctions slotId radioResponse radioIndication =>
    exact setResponseFunctions_leads radioResponse radioIndication
  | setOemHookFunctions slotId oemHookResponse oemHookIndication =>
    exact setOemHookFunctions_leads oemHookResponse oemHookIndication

/-- The invariant holds in every reachable state. -/
theorem RegistrationInv.reachable {Q : Pool rilSignature RilState}
    (h : Lts.Reachable (clientSystem cfg) Q) :
    Q.Obeying (fun _ => serviceProtocol cfg False) ServicePhase.Free (RegistrationInv cfg) := by
  refine @Lts.Reachable.invariant _ _ _
    (fun U => U.Obeying (fun _ => serviceProtocol cfg False) ServicePhase.Free
      (RegistrationInv cfg)) ?_ ?_ Q h
  · refine fun U hinit => Pool.Obeying.start ?_ hinit
    exact fun s hs => ⟨_, hs.inv, fun _ => ⟨rfl, rfl, rfl⟩⟩
  · intro U label V hU hstep
    refine @Pool.Obeying.step _ _ _ _ _ _ _ _ (fun _ _ => True) ?_ ?_ _ _ _ hU hstep trivial
    · intro s gh t p inv hpost hmay
      refine ⟨gh t, ?_, hmay.leads (gh t) hpost⟩
      rw [Function.update_eq_self]
      exact inv
    · exact fun s gh t o r s' inv hallow hsem _ => inv.step hallow hsem

/-- **A stale failure never disconnects a newer client.** In every state of every run, each reset
that `checkReturnStatus` has made cleared the callbacks of the registration on which its own call
had failed, and the callbacks of version 1.1 of every slot are both `NULL` or both the installed
callbacks of version 1.0. -/
theorem failure_resets_own_client {Q : Pool rilSignature RilState}
    (h : Lts.Reachable (clientSystem cfg) Q) :
    (∀ reset ∈ Q.shared.clients.resets, reset.Own) ∧
      ∀ slotId, (Q.shared.clients.slot slotId).Paired := by
  obtain ⟨gh, ⟨-, inv⟩, -⟩ := RegistrationInv.reachable h
  exact ⟨inv.resets, inv.paired⟩

namespace DeadClient

/-- The threads run these programs, and nothing but the locks and the callbacks has changed since
the start. -/
def poolOf (locks : RadioRwlock → Rwlock) (clients : Clients) (prog : ℕ → Code Unit) :
    Pool rilSignature RilState :=
  ⟨{ RilState.start with locks := locks, clients := clients }, prog⟩

/-- Threads come to run these programs. -/
def Reaches (locks : RadioRwlock → Rwlock) (clients : Clients) (prog : ℕ → Code Unit) : Prop :=
  (clientSystem .dual).Reachable (poolOf locks clients prog)

namespace Reaches

variable {locks locks' : RadioRwlock → Rwlock} {clients clients' : Clients}
  {prog : ℕ → Code Unit}

theorem call {p : Code Unit} (t : ℕ) (h : Reaches locks clients prog)
    (hp : ClientThread .dual p) (hidle : prog t = .ret ()) :
    Reaches locks clients (Function.update prog t p) :=
  Lts.Reachable.step h (.call hidle hp)

/-- A thread uses a lock. -/
theorem lock {o : LockOp} {k : Unit → Code Unit} (t : ℕ) (h : Reaches locks clients prog)
    (hprog : prog t = .op (.lock o) k) (hsem : o.sem t () locks locks') :
    Reaches locks' clients (Function.update prog t (k ())) :=
  Lts.Reachable.step h (@PoolStep.op _ _ (RilOp.sem .dual) _ (poolOf locks clients prog) t
    (.lock o) k () _ hprog ⟨locks', hsem, rfl⟩)

/-- A thread uses the callbacks. -/
theorem client {o : ClientOp} {k : o.Res → Code Unit} (t : ℕ) (h : Reaches locks clients prog)
    (hprog : prog t = .op (.client o) k) (r : o.Res) (hsem : o.sem t r clients clients') :
    Reaches locks clients' (Function.update prog t (k r)) :=
  Lts.Reachable.step h (@PoolStep.op _ _ (RilOp.sem .dual) _ (poolOf locks clients prog) t
    (.client o) k r _ hprog ⟨clients', hsem, rfl⟩)

/-- `checkReturnStatus` finds another counter. -/
theorem stays {slotId counter : ℤ} {service : Service} {k : Unit → Code Unit} (t : ℕ)
    (h : Reaches locks clients prog)
    (hprog : prog t = .op (.client (.resetIfCurrent slotId service counter)) k)
    (hne : counter ≠ (clients.slot slotId).counter service) :
    Reaches locks clients (Function.update prog t (k ())) := by
  refine h.client t hprog () ?_
  show if _ then _ else _
  rw [if_neg hne]

/-- `checkReturnStatus` finds its counter, and resets the callbacks. -/
theorem resets {slotId counter : ℤ} {service : Service} {k : Unit → Code Unit} (t : ℕ)
    (h : Reaches locks clients prog)
    (hprog : prog t = .op (.client (.resetIfCurrent slotId service counter)) k)
    (heq : counter = (clients.slot slotId).counter service) (hmax : counter ≠ intMax) :
    Reaches locks (clients.reset t slotId service) (Function.update prog t (k ())) := by
  refine h.client t hprog () ?_
  show if _ then _ else _
  rw [if_pos heq]
  exact ⟨heq ▸ hmax, rfl⟩

/-- The payload of an indication passes the check. -/
theorem payloadOk {k : Bool → Code Unit} (t : ℕ) (h : Reaches locks clients prog)
    (hprog : prog t = .op (.vendor .payloadOk) k) :
    Reaches locks clients (Function.update prog t (k true)) :=
  Lts.Reachable.step h (@PoolStep.op _ _ (RilOp.sem .dual) _ (poolOf locks clients prog) t
    (.vendor .payloadOk) k true _ hprog rfl)

theorem mark {o : MarkOp} {k : Unit → Code Unit} (t : ℕ) (h : Reaches locks clients prog)
    (hprog : prog t = .op (.mark o) k) :
    Reaches locks clients (Function.update prog t (k ())) :=
  Lts.Reachable.step h (@PoolStep.op _ _ (RilOp.sem .dual) _ (poolOf locks clients prog) t
    (.mark o) k () _ hprog rfl)

end Reaches

theorem noClients : NoClients RilState.start := ⟨fun _ => rfl, fun _ _ => rfl, rfl⟩

/-- A failure that has become stale, and one that has not. The thread 1 passes an indication on to
the client of the thread 0, and the call fails. Before it has the lock for writing, the thread 2
registers another client, whose objects implement version 1.1 as well; nothing is reset. The call of
the next indication fails too, and its client is disconnected. -/
theorem staleFailure : ∃ Q Q', (clientSystem .dual).Reachable Q ∧
    (clientSystem .dual).Reachable Q' ∧
    (Q.shared.clients.calls =
        [⟨1, 0, ⟨2, 0⟩, .indication Unsol.signalStrength .unsolicited, false⟩] ∧
      Q.shared.clients.resets = [] ∧
      (Q.shared.clients.slot 0).callback .mRadioIndicationV1_1 = some ⟨4, 1⟩) ∧
    Q'.shared.clients.resets =
        [⟨1, 0, .radio, some ⟨4, 1⟩, [⟨3, 1⟩, ⟨4, 1⟩, ⟨3, 1⟩, ⟨4, 1⟩]⟩] ∧
      (Q'.shared.clients.slot 0).callback .mRadioIndicationV1_1 = none := by
  have h₀ : Reaches RilState.start.locks RilState.start.clients fun _ => .ret () :=
    .init ⟨noClients, fun _ => rfl⟩
  have h₁ := h₀.call 0 (.setResponseFunctions 0 (some 1) (some 2)) rfl
  have h₂ := h₁.lock 0 rfl ⟨rfl, rfl, rfl⟩
  have h₃ := h₂.client 0 rfl () ⟨show (0 : ℤ) ≠ intMax by decide, (true, true), rfl⟩
  have h₄ := h₃.lock 0 rfl rfl
  -- the indication, up to the point where the lock is free
  have h₅ := h₄.call 1 (.rilOnUnsolicitedResponse Unsol.signalStrength none 0 0) rfl
  have h₆ := h₅.lock 1 rfl ⟨rfl, rfl⟩
  have h₇ := h₆.client 1 rfl (some ⟨2, 0⟩) ⟨rfl, rfl⟩
  have h₈ := h₇.client 1 rfl (some ⟨2, 0⟩) ⟨rfl, rfl⟩
  have h₉ := h₈.payloadOk 1 rfl
  have h₁₀ := h₉.client 1 rfl false rfl
  have h₁₁ := h₁₀.mark 1 rfl
  have h₁₂ := h₁₁.client 1 rfl (1 : ℤ) ⟨rfl, rfl⟩
  have h₁₃ := h₁₂.lock 1 rfl rfl
  -- the other client
  have h₁₄ := h₁₃.call 2 (.setResponseFunctions 0 (some 3) (some 4)) rfl
  have h₁₅ := h₁₄.lock 2 rfl ⟨rfl, rfl, rfl⟩
  have h₁₆ := h₁₅.client 2 rfl () ⟨show (1 : ℤ) ≠ intMax by decide, (true, true), rfl⟩
  have h₁₇ := h₁₆.lock 2 rfl rfl
  -- the counter has changed
  have h₁₈ := h₁₇.lock 1 rfl ⟨rfl, rfl, rfl⟩
  have h₁₉ := h₁₈.stays 1 rfl (show (1 : ℤ) ≠ 2 by decide)
  have h₂₀ := h₁₉.lock 1 rfl rfl
  have h₂₁ := h₂₀.lock 1 rfl ⟨rfl, rfl⟩
  have h₂₂ := h₂₁.lock 1 rfl rfl
  -- the next indication
  have h₂₃ := h₂₂.call 1 (.rilOnUnsolicitedResponse Unsol.signalStrength none 0 0) rfl
  have h₂₄ := h₂₃.lock 1 rfl ⟨rfl, rfl⟩
  have h₂₅ := h₂₄.client 1 rfl (some ⟨4, 1⟩) ⟨rfl, rfl⟩
  have h₂₆ := h₂₅.client 1 rfl (some ⟨4, 1⟩) ⟨rfl, rfl⟩
  have h₂₇ := h₂₆.payloadOk 1 rfl
  have h₂₈ := h₂₇.client 1 rfl false rfl
  have h₂₉ := h₂₈.mark 1 rfl
  have h₃₀ := h₂₉.client 1 rfl (2 : ℤ) ⟨rfl, rfl⟩
  have h₃₁ := h₃₀.lock 1 rfl rfl
  have h₃₂ := h₃₁.lock 1 rfl ⟨rfl, rfl, rfl⟩
  have h₃₃ := h₃₂.resets 1 rfl rfl (show (2 : ℤ) ≠ intMax by decide)
  exact ⟨_, _, h₂₂, h₃₃, ⟨rfl, rfl, rfl⟩, rfl, rfl⟩

end DeadClient

theorem failure_resets_own_client_staleFailure : ∃ Q Q' : Pool rilSignature RilState,
    (Q.shared.clients.resets = [] ∧
      (Q.shared.clients.slot 0).callback .mRadioIndicationV1_1 = some ⟨4, 1⟩ ∧
      ∀ slotId, (Q.shared.clients.slot slotId).Paired) ∧
    Q'.shared.clients.resets =
        [⟨1, 0, .radio, some ⟨4, 1⟩, [⟨3, 1⟩, ⟨4, 1⟩, ⟨3, 1⟩, ⟨4, 1⟩]⟩] ∧
      (∀ reset ∈ Q'.shared.clients.resets, reset.Own) ∧
      ∀ slotId, (Q'.shared.clients.slot slotId).Paired := by
  obtain ⟨Q, Q', hQ, hQ', ⟨-, hnone, hcallback⟩, hreset, -⟩ := DeadClient.staleFailure
  exact ⟨Q, Q', ⟨hnone, hcallback, (failure_resets_own_client hQ).2⟩, hreset,
    failure_resets_own_client hQ'⟩

end BlueCommon.Ril
