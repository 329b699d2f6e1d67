import BlueCommon.DeviceSettings.DozeService
import Mathlib.Logic.Basic
import Mathlib.Tactic.Basic

/-!
# What the handlers of the doze service do

One lemma for each handler: which sensors it leaves enabled, which gestures pending, and what it
launches.

* `analyseDoze_spec`: at most one launch, and the pick-up sensor is restored.
* `handleProximity_far`, `handleProximity_near`: the two kinds of proximity events.
* `proximityChanged_cases`: the reports of the proximity sensor.
-/

namespace BlueCommon

namespace DeviceSettings

/-! ### Enabling and disabling -/

section Sensors

variable (o : OrientationSensor) (p : PickUpSensor) (x : ProximitySensor)

@[simp] theorem OrientationSensor.mEnabled_enable : o.enable.mEnabled = true := by
  unfold OrientationSensor.enable
  cases h : o.mEnabled
  · rfl
  · exact h

@[simp] theorem OrientationSensor.mEnabled_disable : o.disable.mEnabled = false := by
  unfold OrientationSensor.disable
  cases h : o.mEnabled
  · exact h
  · rfl

@[simp] theorem PickUpSensor.mEnabled_enable : p.enable.mEnabled = true := by
  unfold PickUpSensor.enable
  cases h : p.mEnabled
  · rfl
  · exact h

@[simp] theorem PickUpSensor.mEnabled_disable : p.disable.mEnabled = false := by
  unfold PickUpSensor.disable
  cases h : p.mEnabled
  · exact h
  · rfl

@[simp] theorem ProximitySensor.mEnabled_enable : x.enable.mEnabled = true := by
  unfold ProximitySensor.enable
  cases h : x.mEnabled
  · rfl
  · exact h

@[simp] theorem ProximitySensor.mEnabled_disable : x.disable.mEnabled = false := by
  unfold ProximitySensor.disable
  cases h : x.mEnabled
  · exact h
  · rfl

@[simp] theorem ProximitySensor.mReady_enable : x.enable.mReady = x.mReady := by
  unfold ProximitySensor.enable
  split <;> rfl

@[simp] theorem ProximitySensor.mReady_disable : x.disable.mReady = x.mReady := by
  unfold ProximitySensor.disable
  split <;> rfl

end Sensors

namespace Service

/-- No gesture is pending but, perhaps, the pick-up. -/
def NoOtherGesture (s : Service) : Prop :=
  s.mHandwaveDoze = false ∧ s.mPocketDoze = false ∧ s.mProximityWake = false

/-- What a handler of a sensor event leaves as it is. -/
structure Frame (s s' : Service) : Prop where
  proximity : s'.mProximitySensor = s.mProximitySensor
  near : s'.mProximityNear = s.mProximityNear
  pickUpGesture : s'.mPickUpGestureEnabled = s.mPickUpGestureEnabled
  dozeSetting : s'.dozeSetting = s.dozeSetting

theorem Frame.trans {s s' s'' : Service} (h : Frame s s') (h' : Frame s' s'') : Frame s s'' where
  proximity := h'.proximity.trans h.proximity
  near := h'.near.trans h.near
  pickUpGesture := h'.pickUpGesture.trans h.pickUpGesture
  dozeSetting := h'.dozeSetting.trans h.dozeSetting

/-- What an event launches, with the timestamp of the last pulse before and after: nothing, the
device, or a pulse at least 5000 ms after the last one. -/
inductive Launches (last : ℤ) (launched : List Launch) : ℤ → List Launch → Prop
  | none : Launches last launched last launched
  | wake : Launches last launched last (.deviceWake :: launched)
  | pulse {time : ℤ} : 0 < time → (last ≠ 0 → pulseMinIntervalMs ≤ time - last) →
      Launches last launched time (.dozePulse time :: launched)

section Handlers

variable {s : Service} {clock : Clock}

/-! ### The analysis of a gesture -/

theorem launchDozePulse_spec :
    s.launchDozePulse clock = s ∨ ∃ time, 0 < time ∧
      (s.mLastPulseTimestamp ≠ 0 → pulseMinIntervalMs ≤ time - s.mLastPulseTimestamp) ∧
      s.launchDozePulse clock =
        { s with mLastPulseTimestamp := time, launched := .dozePulse time :: s.launched } := by
  have hdelta : s.mLastPulseTimestamp ≠ 0 → (if s.mLastPulseTimestamp ≠ 0 then
      clock.first - s.mLastPulseTimestamp else pulseMinIntervalMs) =
        clock.first - s.mLastPulseTimestamp :=
    fun h => if_pos h
  -- the time since the last pulse counts only if there was one
  unfold launchDozePulse
  dsimp only
  generalize (if s.mLastPulseTimestamp ≠ 0 then _ else pulseMinIntervalMs) = delta at hdelta ⊢
  split
  · -- long enough ago: the pulse is sent, and its time is that of the second reading of the clock
    rename_i hlong
    -- the second reading is not before the first
    refine Or.inr ⟨clock.second, Int.lt_of_lt_of_le clock.pos clock.le, ?_, rfl⟩
    intro hlast
    rw [hdelta hlast] at hlong
    calc pulseMinIntervalMs ≤ clock.first - s.mLastPulseTimestamp := hlong
      _ ≤ clock.second - s.mLastPulseTimestamp := Int.sub_le_sub_right clock.le _
  · exact Or.inl rfl

/-- The launches leave the rest of the service as it is. -/
theorem launchDoze_spec :
    ∃ last launched, s.launchDoze clock = { s with
      mLastPulseTimestamp := last, launched := launched } ∧
      Launches s.mLastPulseTimestamp s.launched last launched := by
  have hpulse : ∃ last launched,
      s.launchDozePulse clock = { s with mLastPulseTimestamp := last, launched := launched } ∧
        Launches s.mLastPulseTimestamp s.launched last launched := by
    -- a pulse is sent or not
    obtain heq | ⟨time, hpos, hlast, heq⟩ := @launchDozePulse_spec s clock
    · rw [heq]
      exact ⟨_, _, rfl, .none⟩
    · exact ⟨_, _, heq, .pulse hpos hlast⟩
  unfold launchDoze
  split
  · -- the tests come in the order of the settings: only the last of them wakes the device
    exact hpulse
  split
  · exact hpulse
  split
  · exact hpulse
  split
  · exact ⟨_, _, rfl, .wake⟩
  · exact ⟨_, _, rfl, .none⟩

/-- The outcome of `analyseDoze`. -/
structure Analysed (s s' : Service) : Prop extends Frame s s' where
  gestures : NoOtherGesture s'
  launches : Launches s.mLastPulseTimestamp s.launched s'.mLastPulseTimestamp s'.launched
  doze : s'.mDozeEnabled = s.dozeSetting
  pickUpDoze : s'.mPickUpDoze = false
  restored : s.mProximityNear = false → s.mPickUpGestureEnabled = true → s.dozeSetting = true →
    s'.mOrientationSensor.mEnabled = false ∧ s'.mPickUpSensor.mEnabled = true
  kept : ¬ (s.mProximityNear = false ∧ s.mPickUpGestureEnabled = true ∧ s.dozeSetting = true) →
    s'.mOrientationSensor.mEnabled = s.mOrientationSensor.mEnabled ∧
      s'.mPickUpSensor.mEnabled = s.mPickUpSensor.mEnabled

/-- The pick-up sensor is enabled in place of the orientation sensor. -/
theorem setPickUpSensor_true_false :
    s.setPickUpSensor true false =
      { s with
        mOrientationSensor := s.mOrientationSensor.disable
        mPickUpSensor := s.mPickUpSensor.enable } := rfl

/-- The orientation sensor is enabled in place of the pick-up sensor. -/
theorem setOrientationSensor_true_false :
    s.setOrientationSensor true false =
      { s with
        mOrientationSensor := s.mOrientationSensor.enable
        mPickUpSensor := s.mPickUpSensor.disable } := rfl

theorem analyseDoze_spec : Analysed s (s.analyseDoze clock) := by
  obtain ⟨last, launched, hlaunch, hlaunches⟩ := @launchDoze_spec s.getDozeEnabled clock
  unfold analyseDoze
  rw [hlaunch]
  unfold isPickUpEnabled
  dsimp only [getDozeEnabled]
  split
  · rename_i hrestore
    rw [Bool.and_eq_true, Bool.and_eq_true, Bool.not_eq_true'] at hrestore
    rw [setPickUpSensor_true_false]
    refine ⟨⟨rfl, rfl, rfl, rfl⟩, ⟨rfl, rfl, rfl⟩, hlaunches, rfl, rfl, ?_, ?_⟩
    · exact fun _ _ _ => ⟨OrientationSensor.mEnabled_disable _, PickUpSensor.mEnabled_enable _⟩
    · exact fun h => absurd hrestore h
  · rename_i hkeep
    rw [Bool.and_eq_true, Bool.and_eq_true, Bool.not_eq_true'] at hkeep
    refine ⟨⟨rfl, rfl, rfl, rfl⟩, ⟨rfl, rfl, rfl⟩, hlaunches, rfl, rfl, ?_, fun _ => ⟨rfl, rfl⟩⟩
    exact fun h h' h'' => absurd ⟨h, h', h''⟩ hkeep

/-! ### Proximity events -/

/-- The outcome of a proximity event with the sensor uncovered: the orientation sensor looks for a
gesture, the pick-up sensor waits for one, or there is nothing to do. -/
structure Released (s s' : Service) : Prop extends Frame s s' where
  doze : s'.mDozeEnabled = s.dozeSetting
  last : s'.mLastPulseTimestamp = s.mLastPulseTimestamp
  launched : s'.launched = s.launched
  sensors :
    s'.mOrientationSensor.mEnabled = true ∧ s'.mPickUpSensor.mEnabled = false ∨
    NoOtherGesture s' ∧ s'.mOrientationSensor.mEnabled = false ∧ s'.mPickUpSensor.mEnabled = true ∨
    NoOtherGesture s' ∧ s'.mOrientationSensor.mEnabled = s.mOrientationSensor.mEnabled ∧
      s'.mPickUpSensor.mEnabled = s.mPickUpSensor.mEnabled ∧
      ¬ (s.mPickUpGestureEnabled = true ∧ s.dozeSetting = true)

/-- What follows when the sensor is uncovered: the orientation sensor looks for a gesture, the
pick-up sensor waits for one, or there is nothing to do. The four branches that wait for the
orientation end alike. -/
theorem handleProximity_far {timestamp : ℤ} (hfar : s.mProximityNear = false) :
    Released s (s.handleProximity timestamp) := by
  -- the four branches that wait for the orientation end alike
  have horientation : ∀ handwave pickUp pocket wake : Bool,
      Released s (({ s.getDozeEnabled with
        mHandwaveDoze := handwave, mPickUpDoze := pickUp, mPocketDoze :=
          pocket, mProximityWake := wake
        }).setOrientationSensor true false) := by
    intro handwave pickUp pocket wake
    rw [setOrientationSensor_true_false]
    refine ⟨⟨rfl, rfl, rfl, rfl⟩, rfl, rfl, rfl, Or.inl ⟨?_, ?_⟩⟩
    · exact OrientationSensor.mEnabled_enable _
    · exact PickUpSensor.mEnabled_disable _
  unfold handleProximity
  dsimp only
  have hgetDoze : (!s.getDozeEnabled.mProximityNear) = true := by
    rw [Bool.not_eq_true']
    exact hfar
  rw [if_pos hgetDoze]
  -- the branches of `handleProximity` in the order of the source
  split
  · exact horientation _ _ _ _
  split
  · exact horientation _ _ _ _
  split
  · exact horientation _ _ _ _
  split
  · exact horientation _ _ _ _
  split
  · rw [setPickUpSensor_true_false]
    refine ⟨⟨rfl, rfl, rfl, rfl⟩, rfl, rfl, rfl, Or.inr (Or.inl ⟨⟨rfl, rfl, rfl⟩, ?_, ?_⟩)⟩
    · exact OrientationSensor.mEnabled_disable _
    · exact PickUpSensor.mEnabled_enable _
  · rename_i hnot
    refine ⟨⟨rfl, rfl, rfl, rfl⟩, rfl, rfl, rfl, Or.inr (Or.inr ⟨⟨rfl, rfl, rfl⟩, rfl, rfl, ?_⟩)⟩
    rintro ⟨hgesture, hdoze⟩
    apply hnot
    unfold isPickUpEnabled
    rw [Bool.and_eq_true]
    exact ⟨hgesture, hdoze⟩

/-- The outcome of a proximity event with the sensor covered. -/
structure Stowed (s s' : Service) : Prop extends Frame s s' where
  doze : s'.mDozeEnabled = s.dozeSetting
  last : s'.mLastPulseTimestamp = s.mLastPulseTimestamp
  launched : s'.launched = s.launched
  orientation : s'.mOrientationSensor.mEnabled = false
  pickUp : s'.mPickUpSensor.mEnabled = false

theorem handleProximity_near {timestamp : ℤ} (hnear : s.mProximityNear = true) :
    Stowed s (s.handleProximity timestamp) := by
  unfold handleProximity
  dsimp only
  have hgetDoze : ¬ (!s.getDozeEnabled.mProximityNear) = true := by
    rw [Bool.not_eq_true', Bool.not_eq_false]
    exact hnear
  rw [if_neg hgetDoze]
  refine ⟨⟨rfl, rfl, rfl, rfl⟩, rfl, rfl, rfl, ?_, ?_⟩
  · exact OrientationSensor.mEnabled_disable _
  · exact PickUpSensor.mEnabled_disable _

/-- An event of the proximity sensor leaves the sensor as it is. -/
theorem mProximitySensor_proximityOnEvent (isNear : Bool) (timestamp : ℤ) :
    (s.proximityOnEvent isNear timestamp).mProximitySensor = s.mProximitySensor := by
  unfold proximityOnEvent
  cases isNear with
  | true => exact (handleProximity_near rfl).proximity
  | false => exact (handleProximity_far rfl).proximity

/-- The outcome of the first report of the proximity sensor: uncovered, it starts the pick-up
sensor. -/
structure Initialised (s : Service) (isNear : Bool) (s' : Service) : Prop where
  near : s'.mProximityNear = isNear
  pickUpGesture : s'.mPickUpGestureEnabled = s.mPickUpGestureEnabled
  dozeSetting : s'.dozeSetting = s.dozeSetting
  doze : s'.mDozeEnabled = s.mDozeEnabled
  last : s'.mLastPulseTimestamp = s.mLastPulseTimestamp
  launched : s'.launched = s.launched
  sensors :
    isNear = false ∧ NoOtherGesture s' ∧ s'.mOrientationSensor.mEnabled = false ∧
      s'.mPickUpSensor.mEnabled = true ∨
    ¬ (s.isEventPending = false ∧ isNear = false ∧ s.isPickUpEnabled = true) ∧
      s'.mOrientationSensor.mEnabled = s.mOrientationSensor.mEnabled ∧
      s'.mPickUpSensor.mEnabled = s.mPickUpSensor.mEnabled

theorem noOtherGesture_of_isEventPending (h : s.isEventPending = false) : NoOtherGesture s := by
  unfold isEventPending at h
  rw [Bool.or_eq_false_iff, Bool.or_eq_false_iff, Bool.or_eq_false_iff] at h
  exact ⟨h.1.1.1, h.1.2, h.2⟩

theorem proximityOnInit_spec (isNear : Bool) (timestamp : ℤ) :
    (s.proximityOnInit isNear timestamp).mProximitySensor = s.mProximitySensor ∧
      Initialised s isNear (s.proximityOnInit isNear timestamp) := by
  unfold proximityOnInit
  dsimp only
  split
  · -- far, and for the pick-up gesture alone: the sensor is enabled
    rename_i h
    rw [Bool.and_eq_true, Bool.and_eq_true, Bool.not_eq_true', Bool.not_eq_true'] at h
    have hpending : s.isEventPending = false := h.1.1
    have hgesture := noOtherGesture_of_isEventPending hpending
    rw [setPickUpSensor_true_false]
    refine ⟨rfl, rfl, rfl, rfl, rfl, rfl, rfl, Or.inl ⟨h.1.2, ?_, ?_, ?_⟩⟩
    · exact hgesture
    · exact OrientationSensor.mEnabled_disable _
    · exact PickUpSensor.mEnabled_enable _
  · -- otherwise the sensors stay as they are
    rename_i h
    rw [Bool.and_eq_true, Bool.and_eq_true, Bool.not_eq_true', Bool.not_eq_true'] at h
    exact ⟨rfl, rfl, rfl, rfl, rfl, rfl, rfl,
      Or.inr ⟨fun h' => h ⟨⟨h'.1, h'.2.1⟩, h'.2.2⟩, rfl, rfl⟩⟩

/-- **The reports of the proximity sensor**: no change, an event, or the first report after a
reset. -/
theorem proximityChanged_cases (isNear : Bool) (timestamp : ℤ) :
    (s.mProximitySensor.mReady = true ∧ s.mProximitySensor.mState = isNear ∧
      s.proximityChanged isNear timestamp = s) ∨
    (s.mProximitySensor.mReady = true ∧ s.mProximitySensor.mState ≠ isNear ∧
      s.proximityChanged isNear timestamp =
        ({ s with
          mProximitySensor := { s.mProximitySensor with mState := isNear } }).proximityOnEvent
          isNear timestamp) ∨
    (s.mProximitySensor.mReady = false ∧
      (s.proximityChanged isNear timestamp).mProximitySensor =
        { s.mProximitySensor with mState := isNear, mReady := true } ∧
      Initialised s isNear (s.proximityChanged isNear timestamp)) := by
  by_cases hready : s.mProximitySensor.mReady = true
  · by_cases hstate : s.mProximitySensor.mState = isNear
    · refine Or.inl ⟨hready, hstate, ?_⟩
      -- the report of before calls no listener
      unfold proximityChanged
      dsimp only
      rw [if_neg (not_not.mpr hstate), hready]
      rfl
    · refine Or.inr (Or.inl ⟨hready, hstate, ?_⟩)
      -- a new report calls `onEvent`
      unfold proximityChanged
      dsimp only
      rw [if_pos hstate, if_pos hready, mProximitySensor_proximityOnEvent]
      dsimp only
      rw [hready]
      rfl
  · rw [Bool.not_eq_true] at hready
    refine Or.inr (Or.inr ⟨hready, ?_⟩)
    -- the sensor has the new state, and there is no event without a first report
    have hstate : s.proximityChanged isNear timestamp =
        (let s₁ := { s with mProximitySensor := { s.mProximitySensor with mState := isNear } }
         let s₂ := s₁.proximityOnInit isNear timestamp
         { s₂ with mProximitySensor := { s₂.mProximitySensor with mReady := true } }) := by
      unfold proximityChanged
      dsimp only
      by_cases hstate : s.mProximitySensor.mState = isNear
      · have hself :
          ({ s with mProximitySensor := { s.mProximitySensor with mState := isNear } } : Service) =
            s := by
          rw [← hstate]
        rw [if_neg (not_not.mpr hstate), if_pos (by rw [hready]; rfl), hself, hstate]
      · rw [if_pos hstate, hready, if_neg Bool.false_ne_true]
        rfl
    obtain ⟨hsensor, hinit⟩ := @proximityOnInit_spec
      { s with mProximitySensor := { s.mProximitySensor with mState := isNear } } isNear timestamp
    rw [hstate]
    dsimp only
    rw [hsensor]
    exact ⟨rfl, hinit.near, hinit.pickUpGesture, hinit.dozeSetting, hinit.doze, hinit.last,
      hinit.launched, hinit.sensors⟩

/-! ### Orientation and pick-up events -/

/-- **The values of the orientation sensor**: no event, or an event that disables the sensor and
looks for a gesture. -/
theorem orientationChanged_cases (hnear : s.mProximityNear = false) (magnetic : Bool)
    (orientation : Option Orientation) :
    (∃ sensor : OrientationSensor, sensor.mEnabled = s.mOrientationSensor.mEnabled ∧
      s.orientationChanged magnetic orientation clock = { s with mOrientationSensor := sensor }) ∨
    (∃ sensor : OrientationSensor, sensor.mEnabled = false ∧
      Analysed { s with mOrientationSensor := sensor }
        (s.orientationChanged magnetic orientation clock)) := by
  -- the sensor may have become ready, which does not enable it
  unfold orientationChanged
  dsimp only
  generalize hsensor : (if magnetic = true then { s.mOrientationSensor with mMagnetic := true }
    else { s.mOrientationSensor with mGravity := true }) = sensor
  have henabled : sensor.mEnabled = s.mOrientationSensor.mEnabled := by
    rw [← hsensor]
    split <;> rfl
  -- the sensor is ready once both of its parts have reported
  split
  · cases orientation with
    | none => exact Or.inl ⟨sensor, henabled, rfl⟩
    | some state =>
      refine Or.inr ⟨({ sensor with mState := state, mReady := true } : OrientationSensor).disable,
        OrientationSensor.mEnabled_disable _, ?_⟩
      dsimp only
      unfold orientationOnEvent handleOrientation
      have hfar : (!(setOrientationSensor false false
          { s with mOrientationSensor := { sensor with
            mState := state, mReady := true } }).mProximityNear) =
          true := by
        rw [Bool.not_eq_true']
        exact hnear
      rw [if_pos hfar]
      exact analyseDoze_spec
  · exact Or.inl ⟨sensor, henabled, rfl⟩

/-- The three outcomes of a change of the pick-up sensor, with the sensor itself left open: no
event, the device is laid down, or it is picked up and a gesture is looked for. -/
inductive PickUpOutcome (s s' : Service) : Prop
  | quiet {sensor : PickUpSensor} {picked : Bool} : sensor.mEnabled = s.mPickUpSensor.mEnabled →
      s' = { s with mPickUpSensor := sensor, mPickUpState := picked } → PickUpOutcome s s'
  | layedDown {sensor : PickUpSensor} {picked : Bool} : sensor.mEnabled = s.mPickUpSensor.mEnabled →
      s' = { s with
        mPickUpSensor := sensor, mPickUpState := picked, mDozeEnabled :=
          s.dozeSetting, mPickUpDoze := false } →
      PickUpOutcome s s'
  | pickedUp {sensor : PickUpSensor} {picked : Bool} : sensor.mEnabled = s.mPickUpSensor.mEnabled →
      Analysed { s with
        mPickUpSensor := sensor, mPickUpState := picked, mDozeEnabled :=
          s.dozeSetting, mPickUpDoze := true } s' →
      PickUpOutcome s s'

/-- The outcome does not depend on whether the sensor is ready. -/
theorem PickUpOutcome.setSensor {s' : Service} (h : PickUpOutcome s s') {sensor : PickUpSensor}
    {picked : Bool} (hsensor : sensor.mEnabled = s'.mPickUpSensor.mEnabled) :
    PickUpOutcome s { s' with mPickUpSensor := sensor, mPickUpState := picked } := by
  cases h with
  | quiet henabled heq =>
    rw [heq] at hsensor ⊢
    exact .quiet (hsensor.trans henabled) rfl
  | layedDown henabled heq =>
    rw [heq] at hsensor ⊢
    exact .layedDown (hsensor.trans henabled) rfl
  | pickedUp henabled h =>
    refine .pickedUp henabled ⟨⟨h.proximity, h.near, h.pickUpGesture, h.dozeSetting⟩, h.gestures,
      h.launches, h.doze, h.pickUpDoze, fun h₁ h₂ h₃ => ⟨(h.restored h₁ h₂ h₃).1, ?_⟩,
      fun hnot => ⟨(h.kept hnot).1, ?_⟩⟩
    · exact hsensor.trans (h.restored h₁ h₂ h₃).2
    · exact hsensor.trans (h.kept hnot).2

/-- A new state of the pick-up sensor. -/
theorem pickUpState_spec (state : PickUp) : PickUpOutcome s (s.pickUpState state clock) := by
  unfold pickUpState
  dsimp only
  split
  · split
    · -- an event
      unfold pickUpOnEvent handlePickUp
      dsimp only
      split
      · exact @PickUpOutcome.pickedUp s _ { s.mPickUpSensor with mState := state }
          ({ s.mPickUpSensor with mState := state } : PickUpSensor).isPickedUp rfl analyseDoze_spec
      · exact @PickUpOutcome.layedDown s _ { s.mPickUpSensor with mState := state }
          ({ s.mPickUpSensor with mState := state } : PickUpSensor).isPickedUp rfl rfl
    · exact @PickUpOutcome.quiet s _ { s.mPickUpSensor with mState := state } s.mPickUpState rfl rfl
  · exact @PickUpOutcome.quiet s _ s.mPickUpSensor s.mPickUpState rfl rfl

/-- **The values of the pick-up sensor.** -/
theorem pickUpChanged_spec (reading : PickUpReading) :
    PickUpOutcome s (s.pickUpChanged reading clock) := by
  have hinit : ∀ s' : Service, PickUpOutcome s s' → PickUpOutcome s
      (if !s'.mPickUpSensor.mReady then
        ({ s' with mPickUpSensor := { s'.mPickUpSensor with mReady := true } }).pickUpOnInit
      else s') := by
    intro s' hs
    split
    · exact @PickUpOutcome.setSensor s s' hs { s'.mPickUpSensor with mReady := true }
        ({ s'.mPickUpSensor with mReady := true } : PickUpSensor).isPickedUp rfl
    · exact hs
  cases reading with
  | aboveThreshold => exact hinit _ (pickUpState_spec _)
  | aboveSafezone =>
    exact hinit _ (@PickUpOutcome.quiet s _ s.mPickUpSensor s.mPickUpState rfl rfl)
  | layedDown => exact hinit _ (pickUpState_spec _)

end Handlers

end Service

end DeviceSettings

end BlueCommon
