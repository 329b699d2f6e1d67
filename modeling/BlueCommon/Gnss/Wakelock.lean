import BlueCommon.Lib.Lts
import Mathlib.Data.List.Chain

/-!
# The wake lock of the GNSS service

`Gnss` forwards the wake-lock requests of two HALs, the GNSS one and the fused-location one, to the
client that has called `setCallback`. It asks for the wake lock while either of them holds it, and
does not ask twice: what it has asked for last is kept in a static of `updateWakelock`.

* `Gnss`: the statics of the service and its clients. History: what each client has received.
* `Gnss.updateWakelock`, `Gnss.setCallback`, `Gnss.handleHidlDeath`: the functions.
* `gnssRuns`: the runs of the service.
* `wakelock_truthful_iff`: what the client was asked for last is what the HALs want, as long as the
  static agrees with what a new client has received.

The static is not reset when the client changes. Of `setCallback` and `handleHidlDeath`, the death
links and the commands to the HAL are left out; what the HAL calls back meanwhile is an event of its
own.
-/

namespace BlueCommon

namespace Gnss

/-- The calls of `IGnssCallback` the functions below make. -/
inductive GnssCallback
  | gnssSetCapabilitesCb (capabilities : UInt32)
  | gnssSetSystemInfoCb (yearOfHw : UInt16)
  | gnssAcquireWakelockCb
  | gnssReleaseWakelockCb
  deriving DecidableEq

/-- The service, with its clients: the statics of `Gnss.cpp`, what each client has received, and
which clients are alive. History: whether a wake lock was asked for since the present client is
set. -/
structure Service (Client : Type) where
  mGnssIface : Bool
  sGnssCbIface : Option Client
  sWakelockHeldGnss : Bool
  sWakelockHeldFused : Bool
  /-- The static of `updateWakelock`. -/
  sWakelockHeld : Bool
  sCapabilitiesCached : UInt32
  sYearOfHwCached : UInt16
  /-- The processes of the clients that run. -/
  alive : Client → Bool
  /-- History: what each client has received, the last call first. -/
  received : Client → List GnssCallback
  /-- History: a wake-lock request has been processed since the callback was set. -/
  asked : Bool

variable {Client : Type} [DecidableEq Client]

namespace Service

/-- A call of a client. The call of a dead client fails. -/
def invoke (g : Service Client) (c : Client) (call : GnssCallback) : Service Client :=
  if g.alive c then { g with received := Function.update g.received c (call :: g.received c) }
    else g

def updateWakelock (g : Service Client) : Service Client :=
  match g.sGnssCbIface with
  | none => g
  | some c =>
    let g := { g with asked := true }
    if g.sWakelockHeldGnss || g.sWakelockHeldFused then
      if !g.sWakelockHeld then
        { g with sWakelockHeld := true }.invoke c .gnssAcquireWakelockCb
      else g
    else
      -- also when `sWakelockHeld` is false: a duplicate request
      { g with sWakelockHeld := false }.invoke c .gnssReleaseWakelockCb

def acquireWakelockGnss (g : Service Client) : Service Client :=
  { g with sWakelockHeldGnss := true }.updateWakelock

def releaseWakelockGnss (g : Service Client) : Service Client :=
  { g with sWakelockHeldGnss := false }.updateWakelock

def acquireWakelockFused (g : Service Client) : Service Client :=
  { g with sWakelockHeldFused := true }.updateWakelock

def releaseWakelockFused (g : Service Client) : Service Client :=
  { g with sWakelockHeldFused := false }.updateWakelock

def setCapabilitiesCb (g : Service Client) (capabilities : UInt32) : Service Client :=
  match g.sGnssCbIface with
  | none => g
  | some c =>
    { g.invoke c (.gnssSetCapabilitesCb capabilities) with sCapabilitiesCached := capabilities }

def setSystemInfoCb (g : Service Client) (info : Option UInt16) : Service Client :=
  match g.sGnssCbIface, info with
  | some c, some yearOfHw =>
    { g.invoke c (.gnssSetSystemInfoCb yearOfHw) with sYearOfHwCached := yearOfHw }
  | _, _ => g

/-- If this was received in the past, it is sent up again. -/
def resendCapabilities (g : Service Client) : Service Client :=
  if g.sCapabilitiesCached ≠ 0 then g.setCapabilitiesCb g.sCapabilitiesCached else g

/-- If this was received in the past, it is sent up again. -/
def resendSystemInfo (g : Service Client) : Service Client :=
  if g.sYearOfHwCached ≠ 0 then g.setSystemInfoCb (some g.sYearOfHwCached) else g

/-- The HAL answers `init` with the number `init`. -/
def setCallback (g : Service Client) (callback : Option Client)
    (init : Int) : Bool × Service Client :=
  if g.mGnssIface = false then (false, g)
  else match callback with
    | none => (false, g)
    | some c =>
      let g := { g with sGnssCbIface := some c, asked := false }
      (init == 0, g.resendCapabilities.resendSystemInfo)

def handleHidlDeath (g : Service Client) : Service Client :=
  { g with sGnssCbIface := none }

end Service

/-- The wake-lock callbacks given to the HALs: of `Gnss`, and of `GnssBatching`. -/
inductive WakelockCb
  | acquireWakelockCb
  | releaseWakelockCb
  | batchingAcquireWakelockCb
  | batchingReleaseWakelockCb

/-- What happens to the service: callbacks of the HAL, calls of `setCallback`, and the death of
clients and the notification of it. -/
inductive Event (Client : Type)
  | wakelock (cb : WakelockCb)
  | setCapabilitiesCb (capabilities : UInt32)
  | setSystemInfoCb (info : Option UInt16)
  | setCallback (callback : Option Client) (init : Int)
  | clientDies (c : Client)
  | handleHidlDeath

namespace Service

def wakelockCb (g : Service Client) : WakelockCb → Service Client
  | .acquireWakelockCb => g.acquireWakelockGnss
  | .releaseWakelockCb => g.releaseWakelockGnss
  | .batchingAcquireWakelockCb => g.acquireWakelockFused
  | .batchingReleaseWakelockCb => g.releaseWakelockFused

def handle (g : Service Client) : Event Client → Service Client
  | .wakelock cb => g.wakelockCb cb
  | .setCapabilitiesCb capabilities => g.setCapabilitiesCb capabilities
  | .setSystemInfoCb info => g.setSystemInfoCb info
  | .setCallback callback init => (g.setCallback callback init).2
  | .clientDies c => { g with alive := Function.update g.alive c false }
  | .handleHidlDeath => g.handleHidlDeath

/-- The service when it starts, with or without a HAL. No client is set, and no wake lock is
held. -/
def start (mGnssIface : Bool) : Service Client where
  mGnssIface := mGnssIface
  sGnssCbIface := none
  sWakelockHeldGnss := false
  sWakelockHeldFused := false
  sWakelockHeld := false
  sCapabilitiesCached := 0
  sYearOfHwCached := 0
  alive := fun _ => true
  received := fun _ => []
  asked := false

end Service

/-- The runs of the service. A death may be noticed at any time, also late, of a client that has
been replaced since. -/
def gnssRuns (Client : Type) [DecidableEq Client] : Lts (Service Client) (Event Client) where
  init g := ∃ mGnssIface, g = Service.start mGnssIface
  step g e g' := g' = g.handle e

/-! ### What the clients have been asked for -/

/-- The wake-lock request of a call: to acquire or to release. -/
def GnssCallback.wakelock : GnssCallback → Option Bool
  | .gnssAcquireWakelockCb => some true
  | .gnssReleaseWakelockCb => some false
  | _ => none

namespace Service

/-- The wake-lock requests a client has received, the last one first. -/
def wakelocks (g : Service Client) (c : Client) : List Bool :=
  (g.received c).filterMap GnssCallback.wakelock

/-- The last wake-lock request a client has received. -/
def lastWakelock (g : Service Client) (c : Client) : Option Bool := (g.wakelocks c).head?

/-- One of the two HALs holds the wake lock. -/
def held (g : Service Client) : Bool := g.sWakelockHeldGnss || g.sWakelockHeldFused

/-- The callback is set, and the client lives. -/
def Connected (g : Service Client) (c : Client) : Prop := g.sGnssCbIface = some c ∧ g.alive c = true

end Service

/-- No request to acquire follows another one. -/
def NoDoubleAcquire (requests : List Bool) : Prop :=
  requests.IsChain fun later earlier => ¬ (later = true ∧ earlier = true)

/-- After a wake-lock request, the connected client has been asked for what the HALs want. No client
is asked twice to acquire. -/
structure Truthful (g : Service Client) (e : Event Client) : Prop where
  last : ∀ cb, e = .wakelock cb → ∀ c, (g.handle e).Connected c →
    (g.handle e).lastWakelock c = some (g.handle e).held
  alternates : ∀ c, NoDoubleAcquire ((g.handle e).wakelocks c)

/-- What one of the HALs still holds once a wake-lock callback is recorded. -/
def Service.heldAfter (g : Service Client) : Event Client → Bool
  | .wakelock .acquireWakelockCb | .wakelock .batchingAcquireWakelockCb => true
  | .wakelock .releaseWakelockCb => g.sWakelockHeldFused
  | .wakelock .batchingReleaseWakelockCb => g.sWakelockHeldGnss
  | _ => false

/-- The static of `updateWakelock` says whether the client was last asked to acquire. -/
def Service.Agrees (g : Service Client) (c : Client) : Prop :=
  g.sWakelockHeld = true ↔ g.lastWakelock c = some true

/-- When the first request processed for a new client leaves the wake lock held, the static agrees
with what that client has received. -/
def AgreesAtFirst (g : Service Client) (e : Event Client) : Prop :=
  g.asked = false → g.heldAfter e = true → ∀ c, g.Connected c → g.Agrees c

/-! ### What an event sends -/

namespace Service

/-- The requests `updateWakelock` makes of the client. -/
def toSend (g : Service Client) : List Bool :=
  if g.held then (if g.sWakelockHeld then [] else [true]) else [false]

theorem wakelocks_invoke (g : Service Client) (c : Client) (call : GnssCallback)
    (h : g.alive c = true) :
    (g.invoke c call).wakelocks c = call.wakelock.toList ++ g.wakelocks c := by
  unfold invoke wakelocks
  rw [if_pos h]
  cases hcall : call.wakelock <;> simp [hcall]

theorem wakelocks_invoke_other (g : Service Client) {c d : Client} (call : GnssCallback)
    (h : d ≠ c) :
    (g.invoke c call).wakelocks d = g.wakelocks d := by
  unfold invoke wakelocks
  split
  · dsimp only
    rw [Function.update_of_ne h]
  · rfl

theorem invoke_dead (g : Service Client) {c : Client} (call : GnssCallback)
    (h : g.alive c = false) :
    g.invoke c call = g := by
  unfold invoke
  rw [if_neg (by simp [h])]

@[simp] theorem invoke_sWakelockHeld (g : Service Client) (c : Client) (call : GnssCallback) :
    (g.invoke c call).sWakelockHeld = g.sWakelockHeld := by
  unfold invoke; split <;> rfl

@[simp] theorem invoke_sGnssCbIface (g : Service Client) (c : Client) (call : GnssCallback) :
    (g.invoke c call).sGnssCbIface = g.sGnssCbIface := by
  unfold invoke; split <;> rfl

@[simp] theorem invoke_alive (g : Service Client) (c : Client) (call : GnssCallback) :
    (g.invoke c call).alive = g.alive := by
  unfold invoke; split <;> rfl

@[simp] theorem invoke_asked (g : Service Client) (c : Client) (call : GnssCallback) :
    (g.invoke c call).asked = g.asked := by
  unfold invoke; split <;> rfl

@[simp] theorem invoke_held (g : Service Client) (c : Client) (call : GnssCallback) :
    (g.invoke c call).held = g.held := by
  unfold invoke; split <;> rfl

/-- The static, the callback and the clients after `updateWakelock`. -/
theorem updateWakelock_fields (g : Service Client) {c : Client} (h : g.sGnssCbIface = some c) :
    g.updateWakelock.sWakelockHeld = g.held ∧ g.updateWakelock.sGnssCbIface = some c ∧
      g.updateWakelock.alive = g.alive ∧ g.updateWakelock.held = g.held := by
  have hheld : g.held = (g.sWakelockHeldGnss || g.sWakelockHeldFused) := rfl
  unfold updateWakelock
  simp only [h]
  split
  case isTrue hwant =>
    split
    case isTrue =>
      rw [invoke_sWakelockHeld, invoke_sGnssCbIface, invoke_alive, invoke_held, hheld, hwant]
      exact ⟨rfl, rfl, rfl, hwant⟩
    case isFalse hlast => exact ⟨by simpa [hheld, hwant] using hlast, rfl, rfl, rfl⟩
  case isFalse hwant =>
    rw [invoke_sWakelockHeld, invoke_sGnssCbIface, invoke_alive, invoke_held, hheld,
      Bool.not_eq_true _ |>.mp hwant]
    exact ⟨rfl, rfl, rfl, Bool.not_eq_true _ |>.mp hwant⟩

/-- The connected client receives `toSend`. -/
theorem updateWakelock_wakelocks (g : Service Client) {c : Client} (h : g.Connected c) :
    g.updateWakelock.wakelocks c = g.toSend ++ g.wakelocks c := by
  obtain ⟨hcb, hlive⟩ := h
  have hheld : g.held = (g.sWakelockHeldGnss || g.sWakelockHeldFused) := rfl
  unfold updateWakelock toSend
  simp only [hcb, hheld]
  split
  case isTrue hwant =>
    split
    case isTrue hlast =>
      rw [if_neg (by simpa using hlast)]
      exact wakelocks_invoke _ _ _ hlive
    case isFalse hlast =>
      rw [if_pos (by simpa using hlast)]
      rfl
  case isFalse hwant => exact wakelocks_invoke _ _ _ hlive

/-- A client that is not connected receives nothing. -/
theorem updateWakelock_wakelocks_other (g : Service Client) {d : Client} (h : ¬ g.Connected d) :
    g.updateWakelock.wakelocks d = g.wakelocks d := by
  unfold updateWakelock
  cases hcb : g.sGnssCbIface with
  -- without a client nobody is called
  | none => rfl
  -- the callback of the service belongs to some client
  | some c =>
    -- the call goes to another client, or fails
    have hmiss : ∀ (g' : Service Client) (call : GnssCallback), g'.alive = g.alive →
        (g'.invoke c call).wakelocks d = g'.wakelocks d := by
      intro g' call hlive
      -- that one is dead, since this one is not connected
      by_cases hcd : d = c
      · subst hcd
        have hdead : g.alive d = false := by simpa [Connected, hcb] using h
        rw [invoke_dead _ _ (by rw [hlive, hdead])]
      · -- a call to it is not heard by any other
        exact wakelocks_invoke_other _ _ hcd
    -- whatever is called goes to it
    dsimp only
    split
    · split
      · exact hmiss _ _ rfl
      · rfl
    · exact hmiss _ _ rfl

/-- The flag of a callback is recorded: there is one for each of the two HALs, and the wake lock is
held as long as one of them is set. -/
def record (g : Service Client) : WakelockCb → Service Client
  | .acquireWakelockCb => { g with sWakelockHeldGnss := true }
  | .releaseWakelockCb => { g with sWakelockHeldGnss := false }
  | .batchingAcquireWakelockCb => { g with sWakelockHeldFused := true }
  | .batchingReleaseWakelockCb => { g with sWakelockHeldFused := false }

theorem wakelockCb_eq (g : Service Client) (cb : WakelockCb) :
    g.wakelockCb cb = (g.record cb).updateWakelock := by
  cases cb <;> rfl

omit [DecidableEq Client] in
theorem record_held (g : Service Client) (cb : WakelockCb) :
    (g.record cb).held = g.heldAfter (.wakelock cb) := by
  cases cb <;> simp [record, held, heldAfter]

omit [DecidableEq Client] in
/-- Nothing else changes when a flag is recorded. -/
theorem record_fields (g : Service Client) (cb : WakelockCb) :
    (g.record cb).sGnssCbIface = g.sGnssCbIface ∧ (g.record cb).alive = g.alive ∧
      (g.record cb).sWakelockHeld = g.sWakelockHeld ∧ (g.record cb).received = g.received := by
  cases cb <;> exact ⟨rfl, rfl, rfl, rfl⟩

omit [DecidableEq Client] in
theorem record_connected (g : Service Client) (cb : WakelockCb) (c : Client) :
    (g.record cb).Connected c ↔ g.Connected c := by
  obtain ⟨hcb, hlive, -, -⟩ := g.record_fields cb
  unfold Connected
  rw [hcb, hlive]

/-- What a wake-lock callback sends to the connected client. -/
def toSendAfter (g : Service Client) (cb : WakelockCb) : List Bool :=
  if g.heldAfter (.wakelock cb) then (if g.sWakelockHeld then [] else [true]) else [false]

/-- **What a wake-lock callback does to the connected client.** -/
theorem wakelockCb_connected (g : Service Client) (cb : WakelockCb) {c : Client}
    (h : g.Connected c) :
    (g.wakelockCb cb).wakelocks c = g.toSendAfter cb ++ g.wakelocks c ∧
      (g.wakelockCb cb).sWakelockHeld = g.heldAfter (.wakelock cb) ∧
      (g.wakelockCb cb).held = g.heldAfter (.wakelock cb) := by
  have hrec := (g.record_connected cb c).mpr h
  obtain ⟨-, -, hstatic, hreceived⟩ := g.record_fields cb
  obtain ⟨hlast, -, -, hheld⟩ := (g.record cb).updateWakelock_fields hrec.1
  refine ⟨?_, ?_, ?_⟩
  · rw [wakelockCb_eq, updateWakelock_wakelocks _ hrec]
    unfold toSend toSendAfter wakelocks
    rw [record_held, hstatic, hreceived]
  · rw [wakelockCb_eq, hlast, record_held]
  · rw [wakelockCb_eq, hheld, record_held]

theorem wakelockCb_other (g : Service Client) (cb : WakelockCb) {d : Client} (h : ¬ g.Connected d) :
    (g.wakelockCb cb).wakelocks d = g.wakelocks d := by
  have hrec : ¬ (g.record cb).Connected d := fun hc => h ((g.record_connected cb d).mp hc)
  rw [wakelockCb_eq, updateWakelock_wakelocks_other _ hrec]
  unfold wakelocks
  rw [(g.record_fields cb).2.2.2]

/-- A wake-lock callback does not change who is connected. -/
theorem wakelockCb_connected_iff (g : Service Client) (cb : WakelockCb) (c : Client) :
    (g.wakelockCb cb).Connected c ↔ g.Connected c := by
  rw [wakelockCb_eq, ← g.record_connected cb c]
  cases hcb : (g.record cb).sGnssCbIface with
  | none =>
    have hsame : (g.record cb).updateWakelock = g.record cb := by
      unfold updateWakelock
      rw [hcb]
    rw [hsame]
  | some d =>
    obtain ⟨-, hiface, hlive, -⟩ := (g.record cb).updateWakelock_fields hcb
    unfold Connected
    rw [hiface, hlive, hcb]

end Service

/-! ### The other events -/

/-- A step that sends no wake-lock request and leaves the static alone. A client connected after it
is one that was connected before it, or new. -/
structure Quiet (g g' : Service Client) : Prop where
  wakelocks : ∀ c, g'.wakelocks c = g.wakelocks c
  sWakelockHeld : g'.sWakelockHeld = g.sWakelockHeld
  asked : g'.asked = true → g.asked = true ∧ ∀ c, g'.Connected c → g.Connected c

omit [DecidableEq Client] in
theorem Quiet.refl (g : Service Client) : Quiet g g :=
  ⟨fun _ => rfl, rfl, fun h => ⟨h, fun _ hc => hc⟩⟩

omit [DecidableEq Client] in
theorem Quiet.trans {g g' g'' : Service Client} (h : Quiet g g')
    (h' : Quiet g' g'') : Quiet g g'' where
  wakelocks c := (h'.wakelocks c).trans (h.wakelocks c)
  sWakelockHeld := h'.sWakelockHeld.trans h.sWakelockHeld
  asked hasked :=
    have ⟨hasked', hc'⟩ := h'.asked hasked
    have ⟨hasked'', hc⟩ := h.asked hasked'
    ⟨hasked'', fun c hconn => hc c (hc' c hconn)⟩

/-- A call that is not about the wake lock. -/
theorem Quiet.invoke (g : Service Client) (c : Client) {call : GnssCallback}
    (h : call.wakelock = none) :
    Quiet g (g.invoke c call) where
  wakelocks d := by
    by_cases hlive : g.alive c = true
    · by_cases hcd : d = c
      · subst hcd
        rw [Service.wakelocks_invoke _ _ _ hlive, h]
        rfl
      · exact Service.wakelocks_invoke_other _ _ hcd
    · rw [Service.invoke_dead _ _ (by simpa using hlive)]
  sWakelockHeld := Service.invoke_sWakelockHeld g c call
  asked hasked := by
    refine ⟨by simpa using hasked, fun d hconn => ?_⟩
    simpa [Service.Connected] using hconn

theorem Quiet.setCapabilitiesCb (g : Service Client) (capabilities : UInt32) :
    Quiet g (g.setCapabilitiesCb capabilities) := by
  unfold Service.setCapabilitiesCb
  split
  · exact Quiet.refl g
  · have hq := @Quiet.invoke _ _ g ‹Client› (.gnssSetCapabilitesCb capabilities) rfl
    exact ⟨hq.wakelocks, hq.sWakelockHeld, hq.asked⟩

theorem Quiet.setSystemInfoCb (g : Service Client) (info : Option UInt16) :
    Quiet g (g.setSystemInfoCb info) := by
  unfold Service.setSystemInfoCb
  split
  · rename_i c yearOfHw _
    have hq := @Quiet.invoke _ _ g c (.gnssSetSystemInfoCb yearOfHw) rfl
    exact ⟨hq.wakelocks, hq.sWakelockHeld, hq.asked⟩
  · exact Quiet.refl g

theorem Quiet.resendCapabilities (g : Service Client) : Quiet g g.resendCapabilities := by
  unfold Service.resendCapabilities
  split
  · exact Quiet.setCapabilitiesCb _ _
  · exact Quiet.refl g

theorem Quiet.resendSystemInfo (g : Service Client) : Quiet g g.resendSystemInfo := by
  unfold Service.resendSystemInfo
  split
  · exact Quiet.setSystemInfoCb _ _
  · exact Quiet.refl g

theorem Quiet.setCallback (g : Service Client) (callback : Option Client) (init : Int) :
    Quiet g (g.setCallback callback init).2 := by
  unfold Service.setCallback
  split
  · exact Quiet.refl g
  · split
    · exact Quiet.refl g
    · rename_i c
      -- the new client has not been asked yet
      have hnew : Quiet g { g with sGnssCbIface := some c, asked := false } :=
        ⟨fun _ => rfl, rfl, fun hasked => absurd hasked (by simp)⟩
      exact hnew.trans ((Quiet.resendCapabilities _).trans (Quiet.resendSystemInfo _))

/-- Only the wake-lock callbacks send wake-lock requests. -/
theorem Quiet.handle (g : Service Client) (e : Event Client) (h : ∀ cb, e ≠ .wakelock cb) :
    Quiet g (g.handle e) := by
  cases e with
  | wakelock cb => exact absurd rfl (h cb)
  | setCapabilitiesCb capabilities => exact Quiet.setCapabilitiesCb g capabilities
  | setSystemInfoCb info => exact Quiet.setSystemInfoCb g info
  | setCallback callback init => exact Quiet.setCallback g callback init
  | clientDies c =>
    refine ⟨fun _ => rfl, rfl, fun hasked => ⟨hasked, fun d hconn => ⟨hconn.1, ?_⟩⟩⟩
    -- who lives after the death has lived before it
    have hlive : Function.update g.alive c false d = true := hconn.2
    by_cases hcd : d = c
    · subst hcd
      simp at hlive
    · rwa [Function.update_of_ne hcd] at hlive
  | handleHidlDeath =>
    refine ⟨fun _ => rfl, rfl, fun hasked => ⟨hasked, fun d hconn => ?_⟩⟩
    simp [Service.Connected, Service.handle, Service.handleHidlDeath] at hconn

/-! ### The runs -/

/-- No client has been asked twice to acquire, and the static agrees with what a client has received
that has been asked since its callback was set. -/
structure ForwardInv (g : Service Client) : Prop where
  alternates : ∀ c, NoDoubleAcquire (g.wakelocks c)
  agrees : g.asked = true → ∀ c, g.Connected c → g.Agrees c

omit [DecidableEq Client] in
theorem ForwardInv.quiet {g g' : Service Client} (hinv : ForwardInv g)
    (h : Quiet g g') : ForwardInv g' where
  alternates c := by
    rw [h.wakelocks]
    exact hinv.alternates c
  agrees hasked c hconn := by
    have ⟨hasked', hc⟩ := h.asked hasked
    unfold Service.Agrees Service.lastWakelock
    rw [h.sWakelockHeld, h.wakelocks]
    exact hinv.agrees hasked' c (hc c hconn)

omit [DecidableEq Client] in
/-- A request is sent at most once while the static agrees with the client. -/
theorem NoDoubleAcquire.toSendAfter {g : Service Client} {c : Client} (cb : WakelockCb)
    (h : NoDoubleAcquire (g.wakelocks c))
    (hagree : g.heldAfter (.wakelock cb) = true → g.Agrees c) :
    NoDoubleAcquire (g.toSendAfter cb ++ g.wakelocks c) := by
  unfold Service.toSendAfter
  by_cases hheld : g.heldAfter (.wakelock cb) = true
  · rw [if_pos hheld]
    by_cases hlast : g.sWakelockHeld = true
    · rw [if_pos hlast]
      exact h
    · rw [if_neg hlast]
      -- the client was not asked to acquire last
      have hne : g.lastWakelock c ≠ some true := fun hl => hlast ((hagree hheld).mpr hl)
      refine List.isChain_cons.mpr ⟨fun earlier hmem hboth => hne ?_, h⟩
      rw [← hboth.2]
      exact hmem
  · rw [if_neg hheld]
    exact List.isChain_cons.mpr ⟨fun earlier _ hboth => absurd hboth.1 (by simp), h⟩

omit [DecidableEq Client] in
/-- The last request of the connected client is what the HALs want. -/
theorem lastWakelock_toSendAfter {g : Service Client} {c : Client} (cb : WakelockCb)
    (hagree : g.heldAfter (.wakelock cb) = true → g.Agrees c) :
    (g.toSendAfter cb ++ g.wakelocks c).head? = some (g.heldAfter (.wakelock cb)) := by
  unfold Service.toSendAfter
  by_cases hheld : g.heldAfter (.wakelock cb) = true
  · rw [if_pos hheld, hheld]
    by_cases hlast : g.sWakelockHeld = true
    · rw [if_pos hlast]
      exact (hagree hheld).mp hlast
    · rw [if_neg hlast]
      rfl
  · rw [if_neg hheld, Bool.not_eq_true _ |>.mp hheld]
    rfl

/-- **One request.** Where the static agrees with the client it keeps agreeing, and the request is
truthful. -/
theorem truthful_wakelock {g : Service Client} {cb : WakelockCb} (hinv : ForwardInv g)
    (hok : AgreesAtFirst g (.wakelock cb)) :
    ForwardInv (g.handle (.wakelock cb)) ∧ Truthful g (.wakelock cb) := by
  -- the static agrees with what the client heard, if it is asked for again
  have hagree : ∀ c, g.Connected c → g.heldAfter (.wakelock cb) = true → g.Agrees c := by
    intro c hconn hheld
    cases hasked : g.asked with
    | true => exact hinv.agrees hasked c hconn
    | false => exact hok hasked hheld c hconn
  -- neither kind of client hears a second acquire without a release between
  have halt : ∀ c, NoDoubleAcquire ((g.wakelockCb cb).wakelocks c) := by
    intro c
    by_cases hconn : g.Connected c
    · rw [(g.wakelockCb_connected cb hconn).1]
      -- what the client hears is the next call, if it is another one than the last
      exact (hinv.alternates c).toSendAfter cb (hagree c hconn)
    · rw [g.wakelockCb_other cb hconn]
      exact hinv.alternates c
  -- after the callback the client has heard what is held
  have hlast : ∀ c, (g.wakelockCb cb).Connected c →
      (g.wakelockCb cb).lastWakelock c = some (g.heldAfter (.wakelock cb)) ∧
      (g.wakelockCb cb).sWakelockHeld = g.heldAfter (.wakelock cb) ∧
      (g.wakelockCb cb).held = g.heldAfter (.wakelock cb) := by
    intro c hconn'
    have hconn := (g.wakelockCb_connected_iff cb c).mp hconn'
    obtain ⟨hsent, hstatic, hheld⟩ := g.wakelockCb_connected cb hconn
    refine ⟨?_, hstatic, hheld⟩
    unfold Service.lastWakelock
    rw [hsent]
    exact lastWakelock_toSendAfter cb (hagree c hconn)
  -- the static says what was asked for last, and the client has heard it
  refine ⟨⟨halt, fun _ c hconn => ?_⟩, ⟨fun cb' _ c hconn => ?_, halt⟩⟩
  · obtain ⟨hl, hstatic, -⟩ := hlast c hconn
    show (g.wakelockCb cb).sWakelockHeld = true ↔ (g.wakelockCb cb).lastWakelock c = some true
    rw [hl, hstatic, Option.some.injEq]
  · obtain ⟨hl, -, hheld⟩ := hlast c hconn
    show (g.wakelockCb cb).lastWakelock c = some (g.wakelockCb cb).held
    rw [hl, hheld]

/-- **One event.** -/
theorem truthful_handle {g : Service Client} {e : Event Client} (hinv : ForwardInv g)
    (hok : AgreesAtFirst g e) : ForwardInv (g.handle e) ∧ Truthful g e := by
  by_cases hw : ∃ cb, e = .wakelock cb
  · obtain ⟨cb, rfl⟩ := hw
    exact truthful_wakelock hinv hok
  · have hne : ∀ cb, e ≠ .wakelock cb := fun cb h => hw ⟨cb, h⟩
    have hinv' := hinv.quiet (Quiet.handle g e hne)
    exact ⟨hinv', fun cb h => absurd h (hne cb), hinv'.alternates⟩

/-- Where the static does not agree with a new client, its first request to hold the wake lock is
not forwarded, or forwarded a second time. -/
theorem not_truthful {g : Service Client} {e : Event Client} (hbad : ¬ AgreesAtFirst g e) :
    ¬ Truthful g e := by
  intro htrue
  refine hbad fun _ hheld c hconn => ?_
  -- the other events leave a wakelock that the service does not hold
  cases e with
  | wakelock cb =>
    obtain ⟨hsent, -, hheld'⟩ := g.wakelockCb_connected cb hconn
    have hlast : (g.wakelockCb cb).lastWakelock c = some (g.wakelockCb cb).held :=
      htrue.last cb rfl c ((g.wakelockCb_connected_iff cb c).mpr hconn)
    have halt : NoDoubleAcquire ((g.wakelockCb cb).wakelocks c) := htrue.alternates c
    unfold Service.lastWakelock at hlast
    rw [hheld', hheld, hsent] at hlast
    rw [hsent] at halt
    unfold Service.toSendAfter at hlast halt
    rw [if_pos hheld] at hlast halt
    -- a truthful callback ends with the state of the wakelock, and repeats none
    unfold Service.Agrees
    by_cases hstatic : g.sWakelockHeld = true
    · rw [if_pos hstatic] at hlast
      exact ⟨fun _ => hlast, fun _ => hstatic⟩
    · rw [if_neg hstatic] at halt
      refine ⟨fun h => absurd h hstatic, fun hl => ?_⟩
      exact absurd ⟨rfl, rfl⟩ ((List.isChain_cons.mp halt).1 true hl)
  | _ => exact absurd hheld (by simp [Service.heldAfter])

omit [DecidableEq Client] in
theorem ForwardInv.start (mGnssIface : Bool) :
    ForwardInv (Service.start mGnssIface : Service Client) where
  alternates _ := List.IsChain.nil
  agrees hasked := absurd hasked (by simp [Service.start])

/-- **Wake-lock forwarding.** In a run, every wake-lock request is answered truthfully exactly when
the static agrees with every new client by the time of its first request to hold the wake lock. The
static is not set back when a client goes, so that a new one may not hear of a lock that was held
before. -/
theorem wakelock_truthful_iff {g g' : Service Client} {tr : List (Service Client × Event Client)}
    (h0 : (gnssRuns Client).init g) (h : Lts.Run (gnssRuns Client) g tr g') :
    (∀ p ∈ tr, Truthful p.1 p.2) ↔ ∀ p ∈ tr, AgreesAtFirst p.1 p.2 := by
  refine @Lts.steps_good_iff_ok _ _ _ ForwardInv Truthful AgreesAtFirst ?_ ?_ ?_ _ _ _ h0 h
  · rintro s ⟨mGnssIface, rfl⟩
    exact ForwardInv.start mGnssIface
  · rintro s e t hinv rfl hok
    exact truthful_handle hinv hok
  · intro s e t _ _ hbad
    exact not_truthful hbad

/-- A client connects and the GNSS HAL acquires the wake lock. -/
theorem wakelock_truthful_iff_acquired :
    Truthful ((Service.start true : Service Bool).handle (.setCallback (some true) 0))
      (.wakelock .acquireWakelockCb) := by
  have hrun : Lts.Run (gnssRuns Bool) (Service.start true) _ _ :=
    (Lts.Run.nil.snoc (l := .setCallback (some true) 0) rfl).snoc (l :=
      .wakelock .acquireWakelockCb) rfl
  refine (wakelock_truthful_iff ⟨true, rfl⟩ hrun).mpr (fun p hp => ?_) (_, _)
    (List.mem_append_right _
    (List.mem_singleton_self _))
  rcases List.mem_append.mp hp with hp | hp
  · obtain rfl : p = _ := by simpa using hp
    exact fun _ hheld => absurd hheld (by simp [Service.heldAfter])
  · obtain rfl : p = _ := by simpa using hp
    intro _ _ c hconn
    -- nothing has been received yet
    have hc : c = true := (Option.some.inj hconn.1).symm
    subst hc
    exact ⟨fun h => absurd h (by decide), fun h => absurd h (by decide)⟩

/-- The client dies while the wake lock is held for it. The next client is not asked to acquire. -/
theorem acquire_not_forwarded :
    ∃ (g g' : Service Bool) (tr : List (Service Bool × Event Bool)), (gnssRuns Bool).init g ∧
      Lts.Run (gnssRuns Bool) g tr g' ∧ ¬ ∀ p ∈ tr, Truthful p.1 p.2 := by
  refine ⟨Service.start true, _, _, ⟨true, rfl⟩,
    (((((Lts.Run.nil.snoc (l := .setCallback (some true) 0) rfl).snoc
      (l := .wakelock .acquireWakelockCb) rfl).snoc
      (l := .clientDies true) rfl).snoc
      (l := .handleHidlDeath) rfl).snoc
      (l := .setCallback (some false) 0) rfl).snoc
      (l := .wakelock .acquireWakelockCb) rfl, fun h => ?_⟩
  have hlast := (h (_, _) (List.mem_append_right _ (List.mem_singleton_self _))).last _ rfl false
    ⟨rfl, rfl⟩
  exact absurd hlast (by decide)

end Gnss

end BlueCommon
