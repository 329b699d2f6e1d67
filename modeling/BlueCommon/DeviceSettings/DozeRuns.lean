import BlueCommon.DeviceSettings.DozeEffects
import BlueCommon.Lib.Lts

/-!
# The runs of the doze service

A run of the service is a sequence of screen broadcasts, service starts, sensor events and changes
of the settings. A sensor delivers events only while it is enabled.

* `SensorInv`: which sensors are enabled. Each event keeps it.
* `LogInv`: what has been launched, and when.
* `Settling`: with the pick-up gesture, from `onDisplayOff` on one of two sensors is enabled
  whenever the proximity sensor is uncovered.
* `doze_service_correct`: the three together.

`EventSpec` says once what an event may do to the service, and `Service.handle_spec` proves it for
all events; from then on no handler is unfolded. `RunInv` puts the sensors and the log together, and
each part of it that is about the log has its own lemma about one event. The pulses are counted from
the last `onDisplayOff`, as that is where the service forgets the last time stamp.
-/

namespace BlueCommon

namespace DeviceSettings

open Service

/-- An event and what it has launched. -/
structure Record where
  event : DozeEvent
  launches : List Launch

/-- The service, between two events. History: the events with what each of them launched, the last
one first. -/
structure DozeRun where
  service : Service
  log : List Record

/-- A sensor delivers events only while it is enabled: its listener is registered when it is enabled
and unregistered when it is disabled. -/
def Service.Delivers (s : Service) : DozeEvent → Prop
  | .proximity .. => s.mProximitySensor.mEnabled = true
  | .orientation .. => s.mOrientationSensor.mEnabled = true
  | .pickUp .. => s.mPickUpSensor.mEnabled = true
  | _ => True

/-- The service takes an event, and what the event launches is recorded with it. -/
def DozeRun.take (s : DozeRun) (e : DozeEvent) : DozeRun :=
  let service := ({ s.service with launched := [] }).handle e
  ⟨service, ⟨e, service.launched⟩ :: s.log⟩

/-- The runs of the service: from `onCreate` with any settings, through events that can be
delivered, in any order. -/
def dozeRuns : Lts DozeRun DozeEvent where
  init s := ∃ handWave pickUp pocket proximityWake dozeSetting,
    s = ⟨Service.onCreate handWave pickUp pocket proximityWake dozeSetting, []⟩
  step s e s' := s.service.Delivers e ∧ s' = s.take e

/-! ### What a log says -/

/-- The event calls `onDisplayOn`. -/
def DozeEvent.isDisplayOn : DozeEvent → Bool
  | .screenOn => true
  | _ => false

/-- The event calls `onDisplayOff`. -/
def DozeEvent.isDisplayOff : DozeEvent → Bool
  | .screenOff => true
  | .startCommand isInteractive => !isInteractive
  | _ => false

/-- The event neither changes a setting nor turns the display on. -/
def DozeEvent.keepsSettings : DozeEvent → Bool
  | .screenOn | .preference .. | .dozeSetting _ => false
  | _ => true

/-- The report of the proximity sensor. -/
def DozeEvent.report : DozeEvent → Option Bool
  | .proximity isNear _ => some isNear
  | _ => none

/-- The last report of the proximity sensor. -/
def lastReport : List Record → Option Bool
  | [] => none
  | r :: earlier => r.event.report.or (lastReport earlier)

/-- The display has been turned on, and not off since. -/
def displayOn : List Record → Bool
  | [] => false
  | r :: earlier => r.event.isDisplayOn || (!r.event.isDisplayOff && displayOn earlier)

/-- The events since the last `onDisplayOff`. -/
def sinceDisplayOff : List Record → Option (List Record)
  | [] => none
  | r :: earlier => if r.event.isDisplayOff then some [] else (sinceDisplayOff earlier).map (r :: ·)

/-- The time of a pulse. -/
def Launch.pulseTime : Launch → Option ℤ
  | .dozePulse time => some time
  | .deviceWake => none

/-- The pulses of an event. -/
def Record.pulses (r : Record) : List ℤ := r.launches.filterMap Launch.pulseTime

/-- The pulses since the last `onDisplayOff`. -/
def pulsesSinceOff : List Record → List ℤ
  | [] => []
  | r :: earlier => if r.event.isDisplayOff then [] else r.pulses ++ pulsesSinceOff earlier

/-- Each event launches at most one pulse or wake, and none while the proximity sensor is covered or
after the display was turned on, be it before the event or by the event. -/
def LaunchesSafe : List Record → Prop
  | [] => True
  | r :: earlier =>
    r.launches.length ≤ 1 ∧
    (r.launches ≠ [] → (lastReport earlier ≠ some true ∧ displayOn earlier = false) ∧
      lastReport (r :: earlier) ≠ some true ∧ displayOn (r :: earlier) = false) ∧
    LaunchesSafe earlier

/-- Two pulses without an `onDisplayOff` between them are at least 5000 ms apart. `onDisplayOff`
sets the timestamp of the last pulse back, so that nothing is asked of pulses before it. -/
def PulsesApart : List Record → Prop
  | [] => True
  | r :: earlier =>
    (∀ time ∈ r.pulses, ∀ time' ∈ pulsesSinceOff earlier, pulseMinIntervalMs ≤ time - time') ∧
    PulsesApart earlier

/-- Since the last `onDisplayOff` the settings have not changed and the display has stayed off, and
the last report of the proximity sensor was far. -/
def SettledFar (log : List Record) : Prop :=
  ∃ recent, sinceDisplayOff log = some recent ∧ (∀ r ∈ recent, r.event.keepsSettings = true) ∧
    lastReport recent = some false

/-! ### Enabled sensors -/

/-- Which sensors are enabled. -/
structure SensorInv (s : Service) : Prop where
  orientation : s.mOrientationSensor.mEnabled = true →
    s.mPickUpSensor.mEnabled = false ∧ s.mProximityNear = false
  pickUp : s.mPickUpSensor.mEnabled = true →
    s.mOrientationSensor.mEnabled = false ∧ s.mProximityNear = false ∧ NoOtherGesture s
  ready : s.mProximitySensor.mReady = true →
    s.mProximitySensor.mEnabled = true ∧ s.mProximitySensor.mState = s.mProximityNear
  unready : s.mProximitySensor.mReady = false →
    s.mOrientationSensor.mEnabled = false ∧ s.mPickUpSensor.mEnabled = false

section Sensors

variable {s s' t : Service}

/-- While the orientation sensor is enabled the proximity sensor is ready. -/
theorem SensorInv.ready_of_orientation (h : SensorInv s)
    (ho : s.mOrientationSensor.mEnabled = true) :
    s.mProximitySensor.mReady = true := by
  by_contra hnot
  rw [Bool.not_eq_true] at hnot
  have hoff := (h.unready hnot).1
  rw [ho] at hoff
  cases hoff

/-- While the pick-up sensor is enabled the proximity sensor is ready. -/
theorem SensorInv.ready_of_pickUp (h : SensorInv s) (hp : s.mPickUpSensor.mEnabled = true) :
    s.mProximitySensor.mReady = true := by
  by_contra hnot
  rw [Bool.not_eq_true] at hnot
  have hoff := (h.unready hnot).2
  rw [hp] at hoff
  cases hoff

/-- While the proximity sensor is covered the others are disabled. -/
theorem SensorInv.disabled_of_near (h : SensorInv s) (hnear : s.mProximityNear = true) :
    s.mOrientationSensor.mEnabled = false ∧ s.mPickUpSensor.mEnabled = false := by
  constructor
  · by_contra ho
    rw [Bool.not_eq_false] at ho
    rw [(h.orientation ho).2] at hnear
    cases hnear
  · by_contra hp
    rw [Bool.not_eq_false] at hp
    rw [(h.pickUp hp).2.1] at hnear
    cases hnear

/-- All sensors but the proximity sensor are disabled. -/
theorem SensorInv.of_disabled (ho : s.mOrientationSensor.mEnabled = false)
    (hp : s.mPickUpSensor.mEnabled = false)
    (hready : s.mProximitySensor.mReady = true →
      s.mProximitySensor.mEnabled = true ∧ s.mProximitySensor.mState = s.mProximityNear) :
    SensorInv s where
  orientation := by
    intro h
    rw [ho] at h
    cases h
  pickUp := by
    intro h
    rw [hp] at h
    cases h
  ready := hready
  unready _ := ⟨ho, hp⟩

/-- With the proximity sensor ready and uncovered, one of the others may be enabled. -/
theorem SensorInv.of_far (hready : s.mProximitySensor.mReady = true)
    (henabled : s.mProximitySensor.mEnabled = true) (hstate : s.mProximitySensor.mState = false)
    (hnear : s.mProximityNear = false)
    (hexclusive : s.mOrientationSensor.mEnabled = true → s.mPickUpSensor.mEnabled = false)
    (hgesture : s.mPickUpSensor.mEnabled = true → NoOtherGesture s) : SensorInv s where
  orientation ho := ⟨hexclusive ho, hnear⟩
  pickUp := by
    intro hp
    refine ⟨?_, hnear, hgesture hp⟩
    by_contra ho
    rw [Bool.not_eq_false] at ho
    rw [hexclusive ho] at hp
    cases hp
  ready _ := ⟨henabled, hstate.trans hnear.symm⟩
  unready h := by
    rw [hready] at h
    cases h

/-- After the analysis of a gesture. -/
theorem SensorInv.of_analysed (h : Analysed t s') (hready : t.mProximitySensor.mReady = true)
    (henabled : t.mProximitySensor.mEnabled = true) (hstate : t.mProximitySensor.mState = false)
    (hnear : t.mProximityNear = false)
    (hexclusive : t.mOrientationSensor.mEnabled = true → t.mPickUpSensor.mEnabled = false) :
    SensorInv s' := by
  -- what the analysis keeps is the state of the proximity sensor
  apply SensorInv.of_far
  · rw [h.proximity, hready]
  · rw [h.proximity, henabled]
  · rw [h.proximity, hstate]
  · rw [h.near, hnear]
  · -- the analysis puts the sensors back if the gesture is enabled, or leaves them alone
    by_cases hrestore : t.mProximityNear = false ∧ t.mPickUpGestureEnabled = true ∧
      t.dozeSetting = true
    · obtain ⟨ho, -⟩ := h.restored hrestore.1 hrestore.2.1 hrestore.2.2
      intro ho'
      rw [ho] at ho'
      cases ho'
    · obtain ⟨ho, hp⟩ := h.kept hrestore
      rw [ho, hp]
      exact hexclusive
  · exact fun _ => h.gestures

end Sensors

/-! ### One event -/

/-- The pick-up gesture is enabled, and the settings are those of the last `onDisplayOff`: before
the first report of the proximity sensor no gesture is pending, and when it is uncovered exactly one
of the other two sensors is enabled. -/
structure Settling (s : Service) (report : Option Bool) : Prop where
  doze : s.mDozeEnabled = true
  enabled : s.mProximitySensor.mEnabled = true
  waiting : report = none → s.mProximitySensor.mReady = false ∧ s.isEventPending = false
  reported : ∀ isNear, report = some isNear →
    s.mProximitySensor.mReady = true ∧ s.mProximityNear = isNear
  far : report = some false → s.mOrientationSensor.mEnabled = !s.mPickUpSensor.mEnabled

/-- What an event does to the service. -/
structure EventSpec (s : Service) (e : DozeEvent) (s' : Service) : Prop where
  inv : SensorInv s'
  near : s'.mProximityNear = e.report.getD s.mProximityNear
  launches : e.isDisplayOff = false →
    Launches s.mLastPulseTimestamp s.launched s'.mLastPulseTimestamp s'.launched
  uncovered : s'.launched ≠ s.launched →
    (s.mProximityNear = false ∧ s.mProximitySensor.mEnabled = true) ∧
      e.report = none ∧ e.isDisplayOn = false
  off : e.isDisplayOff = true → s'.launched = s.launched ∧ s'.mLastPulseTimestamp = 0
  display : e.isDisplayOff = false → e.isDisplayOn = true ∨ s.mProximitySensor.mEnabled = false →
    s'.mProximitySensor.mEnabled = false
  settings : e.keepsSettings = true →
    s'.mPickUpGestureEnabled = s.mPickUpGestureEnabled ∧ s'.dozeSetting = s.dozeSetting
  settled : e.isDisplayOff = true → s.mPickUpGestureEnabled = true → s.dozeSetting = true →
      Settling s' none
  settling : e.isDisplayOff = false → e.keepsSettings = true → s.mPickUpGestureEnabled = true →
    s.dozeSetting = true → ∀ report, Settling s report → Settling s' (e.report.or report)

section Events

variable {s s' : Service}

/-- Turning the display on disables all sensors. -/
theorem onDisplayOn_spec : EventSpec s .screenOn s.onDisplayOn := by
  have hx : s.onDisplayOn.mProximitySensor.mEnabled = false := ProximitySensor.mEnabled_disable _
  refine ⟨?_, rfl, fun _ => .none, fun hne => absurd rfl hne, nofun, fun _ _ => hx, nofun,
    nofun, nofun⟩
  apply SensorInv.of_disabled
  · exact OrientationSensor.mEnabled_disable _
  · exact PickUpSensor.mEnabled_disable _
  · intro hready
    have hunready : s.onDisplayOn.mProximitySensor.mReady = false :=
      ProximitySensor.mReady_disable _
    rw [hunready] at hready
    cases hready

/-- Turning the display off with a gesture enabled resets the sensors and enables the proximity
sensor. Without a gesture it leaves the sensors as they are. -/
theorem onDisplayOff_spec (h : SensorInv s) (e : DozeEvent) (he : e.isDisplayOff = true) :
    EventSpec s e s.onDisplayOff := by
  -- the event is neither a report nor does it turn the display on
  have hreport : e.report = none := by cases e <;> first | rfl | cases he
  have hkeep : e.keepsSettings = true := by cases e <;> first | rfl | cases he
  have hnot : e.isDisplayOff ≠ false := by
    rw [he]
    exact nofun
  unfold onDisplayOff
  dsimp only
  -- without a gesture nothing is enabled
  split
  · have hready : ∀ x : ProximitySensor, x.reset.enable.mReady = false := fun x =>
      ProximitySensor.mReady_enable _
    -- the timestamp is set back, so nothing was launched and nothing pulses since
    refine ⟨?_, ?_, fun h => absurd h hnot, fun hne => absurd rfl hne, fun _ => ⟨rfl, rfl⟩,
      fun h => absurd h hnot, fun _ => ⟨rfl, rfl⟩, ?_, fun h => absurd h hnot⟩
    · -- the two sensors are off, and the proximity sensor waits for its first report
      apply SensorInv.of_disabled
      · exact OrientationSensor.mEnabled_disable _
      · exact PickUpSensor.mEnabled_disable _
      · exact fun h => absurd ((hready s.mProximitySensor).symm.trans h) Bool.false_ne_true
    · rw [hreport]
      rfl
    · -- the enabled sensor has not reported
      intro _ _ hdoze
      refine ⟨hdoze, ProximitySensor.mEnabled_enable _, fun _ => ⟨hready _, rfl⟩, nofun, nofun⟩
  · -- no gesture at all: the service does nothing
    rename_i hgesture
    refine ⟨⟨h.orientation, h.pickUp, h.ready, h.unready⟩, ?_, fun h => absurd h hnot,
      fun hne => absurd rfl hne, fun _ => ⟨rfl, rfl⟩, fun h => absurd h hnot,
      fun _ => ⟨rfl, rfl⟩, ?_, fun h => absurd h hnot⟩
    · rw [hreport]
      rfl
    · intro _ hpickUp hdoze
      -- the pick-up gesture is a gesture
      apply absurd _ hgesture
      rw [Bool.or_eq_true, Bool.or_eq_true, Bool.or_eq_true]
      refine Or.inl (Or.inl (Or.inr ?_))
      unfold isPickUpEnabled
      rw [Bool.and_eq_true]
      exact ⟨hpickUp, hdoze⟩

/-- The report of before. -/
theorem sameReport_spec (h : SensorInv s) (hready : s.mProximitySensor.mReady = true)
    {isNear : Bool} (hstate : s.mProximitySensor.mState = isNear) (timestamp : ℤ) :
    EventSpec s (.proximity isNear timestamp) s := by
  -- a report that says what was known changes nothing
  have hnear : s.mProximityNear = isNear := (h.ready hready).2.symm.trans hstate
  refine ⟨h, hnear, fun _ => .none, fun hne => absurd rfl hne, nofun,
    fun _ hx => hx.resolve_left nofun, fun _ => ⟨rfl, rfl⟩, nofun, ?_⟩
  -- the new report has to say the same as the last one
  intro _ _ _ _ report hs
  refine ⟨hs.doze, hs.enabled, nofun, ?_, ?_⟩
  · intro isNear' hreport
    exact ⟨hready, hnear.trans (Option.some.inj hreport)⟩
  · intro hreport
    -- far: then one of the two sensors was enabled before
    have hfar : isNear = false := Option.some.inj hreport
    cases report with
    | none =>
      rw [(hs.waiting rfl).1] at hready
      cases hready
    | some near =>
      apply hs.far
      rw [← (hs.reported near rfl).2, hnear, hfar]

/-- The proximity sensor is covered. Near is noted and the sensors of the gestures are disabled, so
nothing is analysed and nothing is launched. -/
theorem covered_spec (henabled : s.mProximitySensor.mEnabled = true)
    (hready : s.mProximitySensor.mReady = true) (timestamp : ℤ) :
    EventSpec s (.proximity true timestamp)
      (({ s with mProximitySensor := { s.mProximitySensor with mState := true } }).proximityOnEvent
        true timestamp) := by
  -- near: the sensors are disabled and nothing is analysed
  have hout := @handleProximity_near { s with
    mProximitySensor := { s.mProximitySensor with mState := true }, mProximityNear :=
      true } timestamp rfl
  unfold proximityOnEvent
  refine ⟨?_, hout.near, fun _ => ?_, fun hne => absurd hout.launched hne, nofun, ?_,
    fun _ => ⟨hout.pickUpGesture, hout.dozeSetting⟩, nofun, ?_⟩
  · -- both sensors are off, which is what near asks for
    apply SensorInv.of_disabled hout.orientation hout.pickUp
    rw [hout.proximity, hout.near]
    exact fun _ => ⟨henabled, rfl⟩
  · -- nothing pulses while the sensor is covered
    rw [hout.last, hout.launched]
    exact .none
  · -- the display is not turned on by a report, and the sensor was enabled
    rintro _ (hon | hoff)
    · cases hon
    · rw [hoff] at henabled
      cases henabled
  · -- the last report is this one, and it is not far
    intro _ _ _ hdoze report hs
    refine ⟨hout.doze.trans hdoze, ?_, nofun, ?_, nofun⟩
    · rw [hout.proximity]
      exact henabled
    · intro isNear hreport
      rw [hout.proximity]
      exact ⟨hready, hout.near.trans (Option.some.inj hreport)⟩

/-- The proximity sensor is uncovered. The other two were disabled while it was covered, so what is
enabled afterwards was enabled by this event. -/
theorem uncovered_spec (h : SensorInv s) (henabled : s.mProximitySensor.mEnabled = true)
    (hready : s.mProximitySensor.mReady = true) (hstate : s.mProximitySensor.mState = true)
    (timestamp : ℤ) :
    EventSpec s (.proximity false timestamp)
      (({ s with mProximitySensor := { s.mProximitySensor with mState := false } }).proximityOnEvent
        false timestamp) := by
  have hout := @handleProximity_far { s with
    mProximitySensor := { s.mProximitySensor with mState := false }, mProximityNear :=
      false } timestamp rfl
  -- both sensors were off, since the last report was near
  obtain ⟨ho, hp⟩ := h.disabled_of_near ((h.ready hready).2.symm.trans hstate)
  unfold proximityOnEvent
  refine ⟨?_, hout.near, fun _ => ?_, fun hne => absurd hout.launched hne, nofun, ?_,
    fun _ => ⟨hout.pickUpGesture, hout.dozeSetting⟩, nofun, ?_⟩
  · -- far: the state asks for one sensor at most, and for the pick-up sensor only by its gesture
    apply SensorInv.of_far
    · rw [hout.proximity]
      exact hready
    · rw [hout.proximity]
      exact henabled
    · rw [hout.proximity]
    · exact hout.near
    · -- at most one of the two is enabled: before the report neither was
      intro ho'
      obtain ⟨-, hp'⟩ | ⟨-, ho'', -⟩ | ⟨-, ho'', -, -⟩ := hout.sensors
      · exact hp'
      · rw [ho''] at ho'
        cases ho'
      · rw [ho'', show _ = false from ho] at ho'
        cases ho'
    · -- the pick-up sensor is enabled only for its gesture
      intro hp'
      obtain ⟨-, hp''⟩ | ⟨hgesture, -⟩ | ⟨hgesture, -⟩ := hout.sensors
      · rw [hp''] at hp'
        cases hp'
      · exact hgesture
      · exact hgesture
  · -- a pulse is not sent by a report alone
    rw [hout.last, hout.launched]
    exact .none
  · -- the display is not turned on by a report, and the sensor was enabled
    rintro _ (hon | hoff)
    · cases hon
    · rw [hoff] at henabled
      cases henabled
  · -- the last report is this one, and it is far
    intro _ _ hpickUp hdoze report hs
    refine ⟨hout.doze.trans hdoze, ?_, nofun, ?_, ?_⟩
    · rw [hout.proximity]
      exact henabled
    · intro isNear hreport
      rw [hout.proximity]
      exact ⟨hready, hout.near.trans (Option.some.inj hreport)⟩
    · -- with the pick-up gesture enabled, one of them is
      intro _
      obtain ⟨ho', hp'⟩ | ⟨-, ho', hp'⟩ | ⟨-, -, -, hnot⟩ := hout.sensors
      · rw [ho', hp']
        rfl
      · rw [ho', hp']
        rfl
      · exact absurd ⟨hpickUp, hdoze⟩ hnot

/-- The first report of the proximity sensor. The other two are disabled before it, and no gesture
is pending. The report makes the sensor ready, and far may start the pick-up sensor. -/
theorem firstReport_spec (h : SensorInv s) (henabled : s.mProximitySensor.mEnabled = true)
    (hready : s.mProximitySensor.mReady = false) {isNear : Bool} (timestamp : ℤ)
    (hsensor : s'.mProximitySensor = { s.mProximitySensor with mState := isNear, mReady := true })
    (hinit : Initialised s isNear s') : EventSpec s (.proximity isNear timestamp) s' := by
  -- before the first report both sensors are off
  obtain ⟨ho, hp⟩ := h.unready hready
  -- the first report makes the sensor ready and leaves it enabled
  have hready' : s'.mProximitySensor.mReady = true := by rw [hsensor]
  have henabled' : s'.mProximitySensor.mEnabled = true := by
    rw [hsensor]
    exact henabled
  refine ⟨?_, hinit.near, fun _ => ?_, fun hne => absurd hinit.launched hne, nofun, ?_,
    fun _ => ⟨hinit.pickUpGesture, hinit.dozeSetting⟩, nofun, ?_⟩
  · -- the first report enables the pick-up sensor, or leaves both as they were
    obtain ⟨rfl, hgesture, ho', hp'⟩ | ⟨-, ho', hp'⟩ := hinit.sensors
    · apply SensorInv.of_far hready' henabled' _ hinit.near
      · exact fun h => absurd (ho'.symm.trans h) Bool.false_ne_true
      · exact fun _ => hgesture
      · rw [hsensor]
    · apply SensorInv.of_disabled (ho'.trans ho) (hp'.trans hp)
      rw [hsensor, hinit.near]
      exact fun _ => ⟨henabled, rfl⟩
  · -- the first report launches nothing
    rw [hinit.last, hinit.launched]
    exact .none
  · -- the display is not turned on by a report, and the sensor was enabled
    rintro _ (hon | hoff)
    · cases hon
    · rw [hoff] at henabled
      cases henabled
  · -- the last report is this one, whether it is near or far
    intro _ _ hpickUp hdoze report hs
    refine ⟨hinit.doze.trans hs.doze, henabled', nofun, ?_, ?_⟩
    · intro isNear' hreport
      exact ⟨hready', hinit.near.trans (Option.some.inj hreport)⟩
    · intro hreport
      have hfar : isNear = false := Option.some.inj hreport
      -- no gesture is pending before the first report
      have hpending : s.isEventPending = false := by
        cases report with
        | none => exact (hs.waiting rfl).2
        | some near =>
          rw [(hs.reported near rfl).1] at hready
          cases hready
      -- the pick-up sensor is enabled then
      obtain ⟨-, -, ho', hp'⟩ | ⟨hnot, -, -⟩ := hinit.sensors
      · rw [ho', hp']
        rfl
      · -- the conditions were met, so it cannot have been left
        apply absurd _ hnot
        refine ⟨hpending, hfar, ?_⟩
        unfold isPickUpEnabled
        rw [Bool.and_eq_true]
        exact ⟨hpickUp, hs.doze⟩

/-- **The reports of the proximity sensor.** -/
theorem proximityChanged_spec (h : SensorInv s) (henabled : s.mProximitySensor.mEnabled = true)
    (isNear : Bool) (timestamp : ℤ) :
    EventSpec s (.proximity isNear timestamp) (s.proximityChanged isNear timestamp) := by
  obtain ⟨hready, hstate, heq⟩ | ⟨hready, hstate, heq⟩ | ⟨hready, hsensor, hinit⟩ :=
    @proximityChanged_cases s isNear timestamp
  · rw [heq]
    exact sameReport_spec h hready hstate timestamp
  · rw [heq]
    cases isNear with
    | true => exact covered_spec henabled hready timestamp
    | false => exact uncovered_spec h henabled hready ((Bool.not_eq_false _).mp hstate) timestamp
  · exact firstReport_spec h henabled hready timestamp hsensor hinit

/-- While one of the other sensors is enabled, the last report was far. -/
theorem Settling.report_eq {report : Option Bool} (hs : Settling s report)
    (hready : s.mProximitySensor.mReady = true) (hnear : s.mProximityNear = false) :
    report = some false := by
  cases report with
  | none =>
    rw [(hs.waiting rfl).1] at hready
    cases hready
  | some near => rw [← (hs.reported near rfl).2, hnear]

/-- After a far report the service stays settled while the proximity sensor does not change. -/
theorem Settling.keep {report : Option Bool} (hs : Settling s report)
    (hready : s.mProximitySensor.mReady = true)
    (hproximity : s'.mProximitySensor = s.mProximitySensor) (hnear : s'.mProximityNear = false)
    (hdoze : s'.mDozeEnabled = true)
    (hfar : s'.mOrientationSensor.mEnabled = !s'.mPickUpSensor.mEnabled) :
    Settling s' (some false) := by
  refine ⟨hdoze, ?_, nofun, ?_, fun _ => hfar⟩
  · rw [hproximity]
    exact hs.enabled
  · intro isNear heq
    rw [hproximity]
    exact ⟨hready, hnear.trans (Option.some.inj heq)⟩

/-- What is left to show of an event that is not a report and does not turn the display on or
off, if it leaves the proximity sensor as it is. -/
theorem EventSpec.of_plain {e : DozeEvent}
    (he : e.report = none ∧ e.isDisplayOff = false ∧ e.isDisplayOn = false)
    (hinv : SensorInv s') (hproximity : s'.mProximitySensor = s.mProximitySensor)
    (hnear : s'.mProximityNear = s.mProximityNear)
    (hlaunches : Launches s.mLastPulseTimestamp s.launched s'.mLastPulseTimestamp s'.launched)
    (huncovered : s'.launched ≠ s.launched → s.mProximityNear = false ∧
      s.mProximitySensor.mEnabled = true)
    (hsettings : e.keepsSettings = true →
      s'.mPickUpGestureEnabled = s.mPickUpGestureEnabled ∧ s'.dozeSetting = s.dozeSetting)
    (hsettling : e.keepsSettings = true → s.mPickUpGestureEnabled = true → s.dozeSetting = true →
      ∀ report, Settling s report → Settling s' report) : EventSpec s e s' := by
  -- an event of this kind is neither a report nor does it concern the display
  refine ⟨hinv, ?_, fun _ => hlaunches, fun hne => ⟨huncovered hne, he.1, he.2.2⟩, ?_, ?_,
    hsettings, ?_, ?_⟩
  · -- the last report is the same
    rw [he.1]
    exact hnear
  · -- the event neither turns the display off nor on
    intro h
    rw [he.2.1] at h
    cases h
  · -- the display is off, or it stays on
    intro _ hx
    rw [he.2.2] at hx
    rw [hproximity]
    exact hx.resolve_left Bool.false_ne_true
  · intro h
    rw [he.2.1] at h
    cases h
  · -- the settings of the sensors are as settled as before
    intro _
    rw [he.1]
    exact hsettling

/-- An event of another sensor that leaves the sensors enabled as they are. -/
theorem unchanged_spec {e : DozeEvent}
    (he : e.report = none ∧ e.isDisplayOff = false ∧ e.isDisplayOn = false)
    (hready : s.mProximitySensor.mReady = true) (hnear : s.mProximityNear = false)
    (hinv : SensorInv s') (hframe : Frame s s')
    (hlast : s'.mLastPulseTimestamp = s.mLastPulseTimestamp) (hlaunched : s'.launched = s.launched)
    (hdoze : s'.mDozeEnabled = s.mDozeEnabled ∨ s'.mDozeEnabled = s.dozeSetting)
    (ho : s'.mOrientationSensor.mEnabled = s.mOrientationSensor.mEnabled)
    (hp : s'.mPickUpSensor.mEnabled = s.mPickUpSensor.mEnabled) : EventSpec s e s' := by
  -- nothing is launched, and the sensors are those of before
  refine .of_plain he hinv hframe.proximity hframe.near ?_ (fun hne => absurd hlaunched hne)
    (fun _ => ⟨hframe.pickUpGesture, hframe.dozeSetting⟩) fun _ _ hsetting report hs => ?_
  · rw [hlast, hlaunched]
    exact .none
  · -- the sensor that delivers the event is enabled, so the last report was far
    have hreport := hs.report_eq hready hnear
    rw [hreport]
    apply hs.keep hready hframe.proximity (hframe.near.trans hnear)
    · exact hdoze.elim (fun h => h.trans hs.doze) fun h => h.trans hsetting
    · rw [ho, hp]
      exact hs.far hreport

/-- An event of another sensor that looks for a gesture. The state before the analysis differs from
the one before the event in the sensors only, so what is known of the pulses is still known. -/
theorem analysed_spec {e : DozeEvent} {t : Service}
    (he : e.report = none ∧ e.isDisplayOff = false ∧ e.isDisplayOn = false)
    (h : SensorInv s) (hready : s.mProximitySensor.mReady = true) (hnear : s.mProximityNear = false)
    (hframe : Frame s t) (hlast : t.mLastPulseTimestamp = s.mLastPulseTimestamp)
    (hlaunched : t.launched = s.launched)
    (hexclusive : t.mOrientationSensor.mEnabled = true → t.mPickUpSensor.mEnabled = false)
    (hout : Analysed t s') : EventSpec s e s' := by
  -- the sensor has reported, and it was far
  obtain ⟨henabled, hstate⟩ := h.ready hready
  have hframe' : Frame s s' := hframe.trans hout.toFrame
  -- the state before the analysis differs from the first one in the sensors only
  refine .of_plain he ?_ hframe'.proximity hframe'.near ?_ (fun _ => ⟨hnear, henabled⟩)
    (fun _ => ⟨hframe'.pickUpGesture, hframe'.dozeSetting⟩) fun _ hpickUp hdoze report hs => ?_
  · -- the analysis keeps what the sensors need
    apply SensorInv.of_analysed hout _ _ _ (hframe.near.trans hnear) hexclusive
    · rw [hframe.proximity]
      exact hready
    · rw [hframe.proximity]
      exact henabled
    · rw [hframe.proximity]
      exact hstate.trans hnear
  · -- what was launched before the analysis is what was launched at the start
    rw [← hlast, ← hlaunched]
    exact hout.launches
  · -- the last report was far, and it stays the last
    rw [hs.report_eq hready hnear]
    apply hs.keep hready hframe'.proximity (hframe'.near.trans hnear)
    · rw [hout.doze, hframe.dozeSetting]
      exact hdoze
    · -- after the analysis one of the sensors is enabled again
      obtain ⟨ho, hp⟩ := hout.restored (hframe.near.trans hnear)
        (hframe.pickUpGesture.trans hpickUp) (hframe.dozeSetting.trans hdoze)
      rw [ho, hp]
      rfl

/-- **The values of the orientation sensor.** -/
theorem orientationChanged_spec (h : SensorInv s) (ho : s.mOrientationSensor.mEnabled = true)
    (magnetic : Bool) (orientation : Option Orientation) (clock : Clock) :
    EventSpec s (.orientation magnetic orientation clock)
      (s.orientationChanged magnetic orientation clock) := by
  -- an enabled orientation sensor says that the last report was far
  have hready := h.ready_of_orientation ho
  obtain ⟨hp, hnear⟩ := h.orientation ho
  obtain ⟨sensor, hsensor, heq⟩ | ⟨sensor, hsensor, hout⟩ :=
    @orientationChanged_cases s clock hnear magnetic orientation
  · -- the sensor only became ready
    rw [heq]
    refine unchanged_spec ⟨rfl, rfl, rfl⟩ hready hnear ?_ ⟨rfl, rfl, rfl, rfl⟩ rfl rfl
      (Or.inl rfl) hsensor rfl
    obtain ⟨henabled, hstate⟩ := h.ready hready
    refine SensorInv.of_far hready henabled (hstate.trans hnear) hnear ?_ ?_
    · exact fun _ => hp
    · exact fun hp' => absurd (hp.symm.trans hp') Bool.false_ne_true
  · -- the gesture is over: the sensor is disabled before the analysis
    apply analysed_spec ⟨rfl, rfl, rfl⟩ h hready hnear _ _ _ _ hout
    · exact ⟨rfl, rfl, rfl, rfl⟩
    · rfl
    · rfl
    · exact fun ho' => absurd (hsensor.symm.trans ho') Bool.false_ne_true

/-- **The values of the pick-up sensor.** Either only the state of the sensor changes, or a pulse is
due and the event is analysed as one that looks for a gesture. -/
theorem pickUpChanged_eventSpec (h : SensorInv s) (hp : s.mPickUpSensor.mEnabled = true)
    (reading : PickUpReading) (clock : Clock) :
    EventSpec s (.pickUp reading clock) (s.pickUpChanged reading clock) := by
  have hready := h.ready_of_pickUp hp
  obtain ⟨ho, hnear, hgesture⟩ := h.pickUp hp
  obtain ⟨henabled, hstate⟩ := h.ready hready
  cases @pickUpChanged_spec s clock reading with
  | quiet hsensor heq =>
    rw [heq]
    refine unchanged_spec ⟨rfl, rfl, rfl⟩ hready hnear ?_ ⟨rfl, rfl, rfl, rfl⟩ rfl rfl
      (Or.inl rfl) rfl hsensor
    refine SensorInv.of_far hready henabled (hstate.trans hnear) hnear ?_ ?_
    · exact fun ho' => absurd (ho.symm.trans ho') Bool.false_ne_true
    · exact fun _ => hgesture
  | layedDown hsensor heq =>
    -- only the state of the sensor changes
    rw [heq]
    refine unchanged_spec ⟨rfl, rfl, rfl⟩ hready hnear ?_ ⟨rfl, rfl, rfl, rfl⟩ rfl rfl
      (Or.inr rfl) rfl hsensor
    refine SensorInv.of_far hready henabled (hstate.trans hnear) hnear ?_ ?_
    · exact fun ho' => absurd (ho.symm.trans ho') Bool.false_ne_true
    · exact fun _ => hgesture
  | pickedUp hsensor hout =>
    -- a pulse is due, so the event is analysed
    refine analysed_spec ⟨rfl, rfl, rfl⟩ h hready hnear ?_ ?_ ?_ ?_ hout
    · exact ⟨rfl, rfl, rfl, rfl⟩
    · rfl
    · rfl
    · exact fun ho' => absurd (ho.symm.trans ho') Bool.false_ne_true

/-- A change of the settings. -/
theorem settings_spec {e : DozeEvent}
    (he : e.report = none ∧ e.isDisplayOff = false ∧ e.isDisplayOn = false)
    (hsettings : e.keepsSettings = false)
    (hinv : SensorInv s') (hproximity : s'.mProximitySensor = s.mProximitySensor)
    (hnear : s'.mProximityNear = s.mProximityNear)
    (hlast : s'.mLastPulseTimestamp = s.mLastPulseTimestamp)
    (hlaunched : s'.launched = s.launched) :
    EventSpec s e s' := by
  have hchanges : e.keepsSettings ≠ true := by
    rw [hsettings]
    exact nofun
  refine .of_plain he hinv hproximity hnear ?_ (fun hne => absurd hlaunched hne)
    (fun h => absurd h hchanges) fun h => absurd h hchanges
  rw [hlast, hlaunched]
  exact .none

/-- **What each event does.** Each kind of event has its own lemma; what they have in common is that
a sensor reports only while it is enabled. -/
theorem Service.handle_spec (h : SensorInv s) {e : DozeEvent} (hdelivers : s.Delivers e) :
    EventSpec s e (s.handle e) := by
  cases e with
  | screenOn => exact onDisplayOn_spec
  | screenOff => exact onDisplayOff_spec h _ rfl
  | startCommand isInteractive =>
    cases isInteractive with
    | false => exact onDisplayOff_spec h _ rfl
    | true =>
      -- nothing happens
      refine ⟨h, rfl, fun _ => .none, fun hne => absurd rfl hne, nofun,
        fun _ hx => hx.resolve_left nofun, fun _ => ⟨rfl, rfl⟩, nofun, ?_⟩
      exact fun _ _ _ _ _ => id
  | proximity isNear timestamp => exact proximityChanged_spec h hdelivers isNear timestamp
  | orientation magnetic orientation clock =>
    exact orientationChanged_spec h hdelivers magnetic orientation clock
  | pickUp reading clock => exact pickUpChanged_eventSpec h hdelivers reading clock
  | preference key value =>
    -- a preference changes no sensor
    have hinv : SensorInv (s.onSharedPreferenceChanged key value) := by
      cases key <;> exact ⟨h.orientation, h.pickUp, h.ready, h.unready⟩
    apply settings_spec ⟨rfl, rfl, rfl⟩ rfl hinv
    · cases key <;> rfl
    · cases key <;> rfl
    · cases key <;> rfl
    · cases key <;> rfl
  | dozeSetting value =>
    exact settings_spec ⟨rfl, rfl, rfl⟩ rfl ⟨h.orientation, h.pickUp, h.ready,
      h.unready⟩ rfl rfl rfl rfl

end Events

/-! ### Runs -/

/-- What holds throughout a run. -/
structure RunInv (s : DozeRun) : Prop where
  sensors : SensorInv s.service
  report : ∀ isNear, lastReport s.log = some isNear → s.service.mProximityNear = isNear
  display : displayOn s.log = true → s.service.mProximitySensor.mEnabled = false
  pulses : ∀ time ∈ pulsesSinceOff s.log,
    s.service.mLastPulseTimestamp ≠ 0 ∧ time ≤ s.service.mLastPulseTimestamp
  safe : LaunchesSafe s.log
  apart : PulsesApart s.log
  settled : ∀ recent, sinceDisplayOff s.log = some recent →
      (∀ r ∈ recent, r.event.keepsSettings = true) →
    s.service.mPickUpGestureEnabled = true → s.service.dozeSetting = true →
    Settling s.service (lastReport recent)

section Runs

variable {s : DozeRun} {e : DozeEvent} {last last' : ℤ} {launches : List Launch}

/-- An event has no pulse, or one at the time of the new timestamp. -/
theorem Service.Launches.pulses (h : Launches last [] last' launches) :
    launches.filterMap Launch.pulseTime = [] ∧ last' = last ∨
    launches.filterMap Launch.pulseTime = [last'] ∧ 0 < last' ∧
      (last ≠ 0 → pulseMinIntervalMs ≤ last' - last) := by
  cases h with
  | none => exact Or.inl ⟨rfl, rfl⟩
  | wake => exact Or.inl ⟨rfl, rfl⟩
  | pulse hpos hlong => exact Or.inr ⟨rfl, hpos, hlong⟩

theorem Service.Launches.length_le (h : Launches last [] last' launches) : launches.length ≤ 1 := by
  cases h with
  | none => exact Nat.zero_le 1
  | wake => exact Nat.le_refl 1
  | pulse => exact Nat.le_refl 1

variable {s' : Service} (hspec : EventSpec { s.service with launched := [] } e s')
include hspec

theorem RunInv.take_report (h : RunInv s) {isNear : Bool}
    (hreport : e.report.or (lastReport s.log) = some isNear) : s'.mProximityNear = isNear := by
  rw [hspec.near]
  cases hr : e.report with
  | none =>
    rw [hr] at hreport
    exact h.report isNear hreport
  | some near =>
    rw [hr] at hreport
    exact Option.some.inj hreport

theorem RunInv.take_display (h : RunInv s) (hon : displayOn (⟨e, s'.launched⟩ :: s.log) = true) :
    s'.mProximitySensor.mEnabled = false := by
  change (e.isDisplayOn || (!e.isDisplayOff && displayOn s.log)) = true at hon
  rw [Bool.or_eq_true, Bool.and_eq_true, Bool.not_eq_true'] at hon
  obtain hon | ⟨hoff, hon⟩ := hon
  · have hoff : e.isDisplayOff = false := by cases e <;> first | rfl | cases hon
    exact hspec.display hoff (Or.inl hon)
  · exact hspec.display hoff (Or.inr (h.display hon))

/-- The timestamp is that of the last pulse, or a later one. The list of pulses begins anew when the
display is turned off, and the timestamp does not. -/
theorem RunInv.take_pulses (h : RunInv s) {time : ℤ}
    (htime : time ∈ pulsesSinceOff (⟨e, s'.launched⟩ :: s.log)) :
    s'.mLastPulseTimestamp ≠ 0 ∧ time ≤ s'.mLastPulseTimestamp := by
  -- the list of pulses begins anew when the display is turned off
  change time ∈ (if e.isDisplayOff then [] else
    s'.launched.filterMap Launch.pulseTime ++ pulsesSinceOff s.log) at htime
  cases hoff : e.isDisplayOff with
  | true =>
    rw [hoff] at htime
    cases htime
  | false =>
    rw [hoff, if_neg Bool.false_ne_true, List.mem_append] at htime
    obtain ⟨hpulses, hlast⟩ | ⟨hpulses, hpos, hlong⟩ := (hspec.launches hoff).pulses
    · -- no pulse was sent, so it is an older one
      rw [hpulses] at htime
      rw [hlast]
      exact h.pulses time (htime.resolve_left List.not_mem_nil)
    · -- the new pulse sets the timestamp, and it is past the old one
      refine ⟨Int.ne_of_gt hpos, ?_⟩
      rw [hpulses, List.mem_singleton] at htime
      obtain rfl | htime := htime
      · exact Int.le_refl _
      · -- an older pulse is at least the interval before
        obtain ⟨hne, hle⟩ := h.pulses time htime
        have hnonneg : (0 : ℤ) ≤ pulseMinIntervalMs := by decide
        calc time ≤ s.service.mLastPulseTimestamp := hle
          _ ≤ s'.mLastPulseTimestamp := Int.sub_nonneg.mp (Int.le_trans hnonneg (hlong hne))

/-- A launch is safe. Something is launched only by an enabled sensor, and then the display is off
and the last report of the proximity sensor was not near. -/
theorem RunInv.take_safe (h : RunInv s) : LaunchesSafe (⟨e, s'.launched⟩ :: s.log) := by
  refine ⟨?_, ?_, h.safe⟩
  · -- the start of the doze launches nothing
    cases hoff : e.isDisplayOff with
    | true =>
      show s'.launched.length ≤ 1
      rw [(hspec.off hoff).1]
      exact Nat.zero_le 1
    | false => exact (hspec.launches hoff).length_le
  · intro hne
    obtain ⟨⟨hnear, henabled⟩, hnoReport, hnotOn⟩ := hspec.uncovered hne
    -- something was launched, so the last report was not near
    have hreport : lastReport s.log ≠ some true := by
      intro hreport
      have hcovered := h.report true hreport
      exact Bool.false_ne_true (hnear.symm.trans hcovered)
    -- and the display is off, since the sensor is enabled
    have hoff : displayOn s.log = false := by
      by_contra hon
      rw [Bool.not_eq_false] at hon
      have hdisabled := h.display hon
      exact Bool.false_ne_true (hdisabled.symm.trans henabled)
    refine ⟨⟨hreport, hoff⟩, ?_, ?_⟩
    · -- the event is no report
      show e.report.or (lastReport s.log) ≠ some true
      rw [hnoReport]
      exact hreport
    · -- and does not turn the display on
      show (e.isDisplayOn || (!e.isDisplayOff && displayOn s.log)) = false
      rw [hnotOn, hoff, Bool.and_false, Bool.or_false]

theorem RunInv.take_apart (h : RunInv s) : PulsesApart (⟨e, s'.launched⟩ :: s.log) := by
  refine ⟨?_, h.apart⟩
  -- the two pulses are the new one and one since the display was turned off
  intro time htime time' htime'
  change time ∈ s'.launched.filterMap Launch.pulseTime at htime
  cases hoff : e.isDisplayOff with
  | true =>
    rw [(hspec.off hoff).1] at htime
    cases htime
  | false =>
    obtain ⟨hpulses, -⟩ | ⟨hpulses, -, hlong⟩ := (hspec.launches hoff).pulses
    · rw [hpulses] at htime
      cases htime
    · rw [hpulses, List.mem_singleton] at htime
      -- the older one is not after the timestamp
      obtain ⟨hne, hle⟩ := h.pulses time' htime'
      calc pulseMinIntervalMs ≤ s'.mLastPulseTimestamp - s.service.mLastPulseTimestamp := hlong hne
        _ ≤ time - time' := by
          rw [htime]
          exact Int.sub_le_sub_left hle _

/-- As long as no event changes a setting since the display went off, the sensors are on their way
to what the settings and the last report ask for. The event that turns the display off begins the
list. -/
theorem RunInv.take_settled (h : RunInv s) {recent : List Record}
    (hrecent : sinceDisplayOff (⟨e, s'.launched⟩ :: s.log) = some recent)
    (hkeeps : ∀ r ∈ recent, r.event.keepsSettings = true)
    (hpickUp : s'.mPickUpGestureEnabled = true) (hdoze : s'.dozeSetting = true) :
    Settling s' (lastReport recent) := by
  change (if e.isDisplayOff then some [] else (sinceDisplayOff s.log).map
    ((⟨e, s'.launched⟩ : Record) :: ·)) = some recent at hrecent
  cases hoff : e.isDisplayOff with
  | true =>
    -- the event turns the display off
    rw [hoff] at hrecent
    obtain rfl : [] = recent := Option.some.inj hrecent
    have hkeep : e.keepsSettings = true := by cases e <;> first | rfl | cases hoff
    obtain ⟨hpickUp', hdoze'⟩ := hspec.settings hkeep
    exact hspec.settled hoff (hpickUp'.symm.trans hpickUp) (hdoze'.symm.trans hdoze)
  | false =>
    rw [hoff, if_neg Bool.false_ne_true, Option.map_eq_some_iff] at hrecent
    obtain ⟨before, hbefore, rfl⟩ := hrecent
    have hkeep : e.keepsSettings = true := hkeeps _ List.mem_cons_self
    obtain ⟨hpickUp', hdoze'⟩ := hspec.settings hkeep
    have hpickUp₀ := hpickUp'.symm.trans hpickUp
    have hdoze₀ := hdoze'.symm.trans hdoze
    -- the events since the display went off are those of before, and this one
    have hbefore' :=
      h.settled before hbefore (fun r hr => hkeeps r (List.mem_cons_of_mem _ hr)) hpickUp₀ hdoze₀
    exact hspec.settling hoff hkeep hpickUp₀ hdoze₀ _ ⟨hbefore'.doze, hbefore'.enabled,
      hbefore'.waiting, hbefore'.reported, hbefore'.far⟩

omit hspec

/-- **One event.** -/
theorem RunInv.take (h : RunInv s) (hdelivers : s.service.Delivers e) : RunInv (s.take e) := by
  have hsensors : SensorInv { s.service with launched := [] } :=
    ⟨h.sensors.orientation, h.sensors.pickUp, h.sensors.ready, h.sensors.unready⟩
  have hdelivers' : Service.Delivers { s.service with launched := [] } e := by
    cases e <;> exact hdelivers
  have hspec := Service.handle_spec hsensors hdelivers'
  exact ⟨hspec.inv, fun _ => h.take_report hspec, h.take_display hspec,
    fun _ => h.take_pulses hspec, h.take_safe hspec, h.take_apart hspec,
    fun _ => h.take_settled hspec⟩

/-- The service after `onCreate`. -/
theorem RunInv.init (h : dozeRuns.init s) : RunInv s := by
  obtain ⟨handWave, pickUp, pocket, proximityWake, dozeSetting, rfl⟩ := h
  exact ⟨SensorInv.of_disabled rfl rfl nofun, nofun, nofun, nofun, trivial, trivial, nofun⟩

theorem RunInv.of_reachable (h : dozeRuns.Reachable s) : RunInv s := by
  refine @Lts.Reachable.invariant _ _ dozeRuns RunInv (fun _ => RunInv.init) ?_ s h
  rintro s e _ hs ⟨hdelivers, rfl⟩
  exact hs.take hdelivers

end Runs

/-- **The doze service.** In every run the orientation and the pick-up sensor are never both
enabled, either is enabled only while the proximity sensor is enabled and uncovered, and the pick-up
sensor only without another gesture pending. Each event launches at most one pulse or wake, none
while the proximity sensor is covered or after the display was turned on, and two pulses without an
`onDisplayOff` between them are at least 5000 ms apart. With the doze and the pick-up gesture
enabled and the settings as they were at `onDisplayOff`, exactly one of the two sensors is enabled
when the last report since then was far. -/
theorem doze_service_correct {s : DozeRun} (h : dozeRuns.Reachable s) :
    ¬ (s.service.mOrientationSensor.mEnabled = true ∧ s.service.mPickUpSensor.mEnabled = true) ∧
    (s.service.mOrientationSensor.mEnabled = true ∨ s.service.mPickUpSensor.mEnabled = true →
      s.service.mProximitySensor.mEnabled = true ∧ s.service.mProximityNear = false) ∧
    (s.service.mPickUpSensor.mEnabled = true → s.service.mHandwaveDoze = false ∧
      s.service.mPocketDoze = false ∧ s.service.mProximityWake = false) ∧
    LaunchesSafe s.log ∧ PulsesApart s.log ∧
    (SettledFar s.log → s.service.dozeSetting = true → s.service.mPickUpGestureEnabled = true →
      s.service.mOrientationSensor.mEnabled = !s.service.mPickUpSensor.mEnabled) := by
  have hinv := RunInv.of_reachable h
  -- the parts are read off the invariant, which holds at the end of every run
  refine ⟨?_, ?_, ?_, hinv.safe, hinv.apart, ?_⟩
  · -- the orientation sensor excludes the pick-up sensor
    rintro ⟨ho, hp⟩
    have hoff := (hinv.sensors.orientation ho).1
    exact Bool.false_ne_true (hoff.symm.trans hp)
  · rintro (ho | hp)
    · exact ⟨(hinv.sensors.ready (hinv.sensors.ready_of_orientation ho)).1,
        (hinv.sensors.orientation ho).2⟩
    · exact ⟨(hinv.sensors.ready (hinv.sensors.ready_of_pickUp hp)).1, (hinv.sensors.pickUp hp).2.1⟩
  · exact fun hp => (hinv.sensors.pickUp hp).2.2
  · -- the last report is far and the settings were kept since, so the sensors have settled
    rintro ⟨recent, hrecent, hkeeps, hreport⟩ hdoze hpickUp
    exact (hinv.settled recent hrecent hkeeps hpickUp hdoze).far hreport

/-- The display is turned off, and the device is picked up. -/
def pickedUpRun : DozeRun :=
  let clock : Clock := ⟨1, 1, by decide, by decide⟩
  ((((⟨Service.onCreate false true false false true, []⟩ : DozeRun).take .screenOff).take
    (.proximity false 1)).take (.pickUp .layedDown clock)).take (.pickUp .aboveThreshold clock)

theorem DozeRun.reachable_take {s : DozeRun} {e : DozeEvent} (h : dozeRuns.Reachable s)
    (hdelivers : s.service.Delivers e) : dozeRuns.Reachable (s.take e) := .step h ⟨hdelivers, rfl⟩

theorem pickedUpRun_reachable : dozeRuns.Reachable pickedUpRun := by
  have hcreated : dozeRuns.Reachable ⟨Service.onCreate false true false false true, []⟩ :=
    .init ⟨false, true, false, false, true, rfl⟩
  have hoff := @DozeRun.reachable_take _ .screenOff hcreated trivial
  have hfar := @DozeRun.reachable_take _ (.proximity false 1) hoff rfl
  have hinit := @DozeRun.reachable_take _ (.pickUp .layedDown ⟨1, 1, by decide, by decide⟩) hfar rfl
  exact @DozeRun.reachable_take _ (.pickUp .aboveThreshold ⟨1, 1, by decide, by decide⟩) hinit rfl

example : pickedUpRun.log.map Record.launches = [[.dozePulse 1], [], [], []] := by decide

theorem doze_service_correct_pickedUp :
    LaunchesSafe pickedUpRun.log ∧ PulsesApart pickedUpRun.log ∧
      pickedUpRun.service.mOrientationSensor.mEnabled =
        !pickedUpRun.service.mPickUpSensor.mEnabled :=
  have h := doze_service_correct pickedUpRun_reachable
  ⟨h.2.2.2.1, h.2.2.2.2.1, h.2.2.2.2.2 ⟨_, rfl, by decide, rfl⟩ rfl rfl⟩

end DeviceSettings

end BlueCommon
