import Mathlib.Data.Int.Notation
import Mathlib.Order.Defs.LinearOrder

/-!
# The doze service

`SensorsDozeService` of the device settings, on a device with all three sensors. While the display
is off the proximity sensor is enabled. When it is uncovered, the service enables the orientation
sensor to find out which gesture was made, or the pick-up sensor to wait for the next one.

* `ProximitySensor`, `OrientationSensor`, `PickUpSensor`: the sensors. What they compute from the
  values of the hardware is given.
* `Service`: the fields of the service. History: what the handling of the current event has
  launched.
* `Service.handle`: the handling of an event on the main thread.

The wake lock for the sensors and the vibration are left out.
-/

namespace BlueCommon

namespace DeviceSettings

/-! ### The sensors -/

/-- `ProximitySensor`: whether it is enabled, whether it has reported since then, and whether its
last report was near. -/
structure ProximitySensor where
  mEnabled : Bool
  mReady : Bool
  mState : Bool

def ProximitySensor.enable (p : ProximitySensor) : ProximitySensor :=
  if !p.mEnabled then { p with mEnabled := true } else p

def ProximitySensor.reset (p : ProximitySensor) : ProximitySensor :=
  { p with mReady := false, mState := false }

def ProximitySensor.disable (p : ProximitySensor) : ProximitySensor :=
  if p.mEnabled then { p with mEnabled := false } else p

/-- The values of `OrientationSensor.mState`. -/
inductive Orientation
  | unknown
  | faceDown
  | faceUp
  | vertical
  deriving DecidableEq

/-- `OrientationSensor`. Of the last values of the two hardware sensors, whether there are any. -/
structure OrientationSensor where
  mEnabled : Bool
  mReady : Bool
  mState : Orientation
  mGravity : Bool
  mMagnetic : Bool

def OrientationSensor.isFaceDown (o : OrientationSensor) : Bool := o.mReady && o.mState = .faceDown

def OrientationSensor.isVertical (o : OrientationSensor) : Bool := o.mReady && o.mState = .vertical

def OrientationSensor.reset (o : OrientationSensor) : OrientationSensor :=
  { o with mGravity := false, mMagnetic := false, mReady := false }

def OrientationSensor.enable (o : OrientationSensor) : OrientationSensor :=
  if !o.mEnabled then { o.reset with mState := .unknown, mEnabled := true } else o

def OrientationSensor.disable (o : OrientationSensor) : OrientationSensor :=
  if o.mEnabled then { o with mEnabled := false } else o

/-- The values of `PickUpSensor.mState`. -/
inductive PickUp
  | unknown
  | pickUpFalse
  | pickUpTrue
  deriving DecidableEq

/-- `PickUpSensor`: whether it is enabled, whether it has reported since then, and what its last
reading was. -/
structure PickUpSensor where
  mEnabled : Bool
  mReady : Bool
  mState : PickUp

def PickUpSensor.isPickedUp (p : PickUpSensor) : Bool := p.mReady && p.mState = .pickUpTrue

def PickUpSensor.reset (p : PickUpSensor) : PickUpSensor :=
  { p with mReady := false, mState := .unknown }

def PickUpSensor.enable (p : PickUpSensor) : PickUpSensor :=
  if !p.mEnabled then { p.reset with mEnabled := true } else p

def PickUpSensor.disable (p : PickUpSensor) : PickUpSensor :=
  if p.mEnabled then { p with mEnabled := false } else p

/-- The values of the accelerometer: above `PICK_UP_THRESHOLD`, above `PICK_UP_SAFEZONE` only, or
below both. -/
inductive PickUpReading
  | aboveThreshold
  | aboveSafezone
  | layedDown

/-! ### The service -/

def handwaveDeltaNs : ℤ := 1000 * 1000 * 1000

def pulseMinIntervalMs : ℤ := 5000

/-- Two successive results of `SystemClock.elapsedRealtime()`, in milliseconds since the boot. -/
structure Clock where
  first : ℤ
  second : ℤ
  pos : 0 < first
  le : first ≤ second

/-- What the service launches. A pulse has the time that the service takes it for. -/
inductive Launch
  | dozePulse (time : ℤ)
  | deviceWake
  deriving DecidableEq

/-- `SensorsDozeService`, with the setting `Settings.Secure.DOZE_ENABLED`, which it reads when a
display turns off and when it analyses a gesture. History: what it has launched, the last one
first. -/
structure Service where
  mOrientationSensor : OrientationSensor
  mPickUpSensor : PickUpSensor
  mProximitySensor : ProximitySensor
  mDozeEnabled : Bool
  mHandwaveDoze : Bool
  mHandwaveGestureEnabled : Bool
  mPickUpDoze : Bool
  mPickUpGestureEnabled : Bool
  mPickUpState : Bool
  mPocketDoze : Bool
  mPocketGestureEnabled : Bool
  mProximityNear : Bool
  mProximityWake : Bool
  mProximityWakeEnabled : Bool
  mLastPulseTimestamp : ℤ
  mLastStowedTimestamp : ℤ
  dozeSetting : Bool
  launched : List Launch

namespace Service

def getDozeEnabled (s : Service) : Service := { s with mDozeEnabled := s.dozeSetting }

def isHandwaveEnabled (s : Service) : Bool := s.mHandwaveGestureEnabled && s.mDozeEnabled

def isPickUpEnabled (s : Service) : Bool := s.mPickUpGestureEnabled && s.mDozeEnabled

def isPocketEnabled (s : Service) : Bool := s.mPocketGestureEnabled && s.mDozeEnabled

def isProximityWakeEnabled (s : Service) : Bool := s.mProximityWakeEnabled

def isEventPending (s : Service) : Bool :=
  s.mHandwaveDoze || s.mPickUpDoze || s.mPocketDoze || s.mProximityWake

def resetValues (s : Service) : Service :=
  { s with
    mHandwaveDoze := false, mPickUpDoze := false, mPocketDoze := false, mProximityWake := false }

/-- `setPickUpSensor(false, reset)`: the sensor is set back if asked for, and its listener is
unregistered. -/
def disablePickUpSensor (reset : Bool) (s : Service) : Service :=
  let sensor := if reset then s.mPickUpSensor.reset else s.mPickUpSensor
  { s with mPickUpSensor := sensor.disable }

/-- `setOrientationSensor`. To enable it is to disable the pick-up sensor. -/
def setOrientationSensor (enabled reset : Bool) (s : Service) : Service :=
  let s := if reset then { s with mOrientationSensor := s.mOrientationSensor.reset } else s
  if enabled then
    let s := s.disablePickUpSensor false
    { s with mOrientationSensor := s.mOrientationSensor.enable }
  else
    { s with mOrientationSensor := s.mOrientationSensor.disable }

/-- `setPickUpSensor`. To enable it is to disable the orientation sensor. -/
def setPickUpSensor (enabled reset : Bool) (s : Service) : Service :=
  if enabled then
    let s := if reset then { s with mPickUpSensor := s.mPickUpSensor.reset } else s
    let s := s.setOrientationSensor false false
    { s with mPickUpSensor := s.mPickUpSensor.enable }
  else
    s.disablePickUpSensor reset

/-- `setProximitySensor`: the sensor is set back if asked for, and then enabled or disabled. An
enabled sensor is not ready before its first report. -/
def setProximitySensor (enabled reset : Bool) (s : Service) : Service :=
  let sensor := if reset then s.mProximitySensor.reset else s.mProximitySensor
  { s with mProximitySensor := if enabled then sensor.enable else sensor.disable }

def launchDozePulse (clock : Clock) (s : Service) : Service :=
  let delta := if s.mLastPulseTimestamp ≠ 0 then clock.first - s.mLastPulseTimestamp
    else pulseMinIntervalMs
  if delta ≥ pulseMinIntervalMs then
    { s with
      mLastPulseTimestamp := clock.second
      launched := .dozePulse clock.second :: s.launched }
  else
    s

def launchDeviceWake (s : Service) : Service := { s with launched := .deviceWake :: s.launched }

/-- The launches of `analyseDoze`. -/
def launchDoze (clock : Clock) (s : Service) : Service :=
  if s.mHandwaveDoze && !s.mOrientationSensor.isFaceDown then
    s.launchDozePulse clock
  else if s.mPickUpDoze && ((s.mPickUpState && !s.mProximityNear) ||
      (!s.mPickUpState && s.mOrientationSensor.isFaceDown)) then
    s.launchDozePulse clock
  else if s.mPocketDoze && s.mOrientationSensor.isVertical then
    s.launchDozePulse clock
  else if s.mProximityWake && !s.mOrientationSensor.isFaceDown then
    s.launchDeviceWake
  else
    s

def analyseDoze (clock : Clock) (s : Service) : Service :=
  let s := s.getDozeEnabled.launchDoze clock
  -- restore the pick-up sensor
  let s := if !s.mProximityNear && s.isPickUpEnabled then s.setPickUpSensor true false else s
  s.resetValues

def handleProximity (timestamp : ℤ) (s : Service) : Service :=
  let quickWave : Bool := timestamp - s.mLastStowedTimestamp < handwaveDeltaNs
  let s := s.getDozeEnabled
  if !s.mProximityNear then
    let s := s.resetValues
    if s.isHandwaveEnabled && s.isPickUpEnabled && s.isPocketEnabled then
      let s :=
        { s with mHandwaveDoze := quickWave, mPickUpDoze := !quickWave, mPocketDoze := !quickWave }
      s.setOrientationSensor true false
    else if s.isProximityWakeEnabled && quickWave then
      let s := { s with mProximityWake := true }
      s.setOrientationSensor true false
    else if s.isHandwaveEnabled && quickWave then
      let s := { s with mHandwaveDoze := true }
      s.setOrientationSensor true false
    else if (s.isPickUpEnabled || s.isPocketEnabled) && !quickWave then
      let s := { s with mPickUpDoze := s.isPickUpEnabled, mPocketDoze := s.isPocketEnabled }
      s.setOrientationSensor true false
    else if s.isPickUpEnabled then
      s.setPickUpSensor true false
    else
      s
  else
    let s := { s with mLastStowedTimestamp := timestamp }
    (s.setOrientationSensor false false).setPickUpSensor false false

def handleOrientation (clock : Clock) (s : Service) : Service :=
  if !s.mProximityNear then s.analyseDoze clock else s

def handlePickUp (clock : Clock) (s : Service) : Service :=
  let s := s.getDozeEnabled
  if s.mPickUpState && s.isPickUpEnabled then
    ({ s with mPickUpDoze := true }).analyseDoze clock
  else
    { s with mPickUpDoze := false }

/-! ### The listeners -/

/-- `mProximityListener.onEvent`: a report after the first one. It is remembered, and the gestures
that it belongs to are handled. -/
def proximityOnEvent (isNear : Bool) (timestamp : ℤ) (s : Service) : Service :=
  ({ s with mProximityNear := isNear }).handleProximity timestamp

/-- `mProximityListener.onInit`: the first report after the sensor was enabled. It launches nothing,
and enables the pick-up sensor if no gesture is pending. -/
def proximityOnInit (isNear : Bool) (timestamp : ℤ) (s : Service) : Service :=
  let s := { s with mLastStowedTimestamp := timestamp, mProximityNear := isNear }
  if !s.isEventPending && !isNear && s.isPickUpEnabled then s.setPickUpSensor true false else s

/-- `mOrientationListener.onEvent`: the sensor has done its work and is disabled before its value is
handled. -/
def orientationOnEvent (clock : Clock) (s : Service) : Service :=
  (s.setOrientationSensor false false).handleOrientation clock

/-- `mPickUpListener.onEvent`: the reading is remembered, and handled as a gesture. -/
def pickUpOnEvent (clock : Clock) (s : Service) : Service :=
  ({ s with mPickUpState := s.mPickUpSensor.isPickedUp }).handlePickUp clock

/-- `mPickUpListener.onInit`: the first reading is only remembered. -/
def pickUpOnInit (s : Service) : Service := { s with mPickUpState := s.mPickUpSensor.isPickedUp }

/-- `ProximitySensor.onSensorChanged`, a report of the sensor. -/
def proximityChanged (isNear : Bool) (timestamp : ℤ) (s : Service) : Service :=
  let s :=
    if s.mProximitySensor.mState ≠ isNear then
      let s := { s with mProximitySensor := { s.mProximitySensor with mState := isNear } }
      if s.mProximitySensor.mReady then s.proximityOnEvent isNear timestamp else s
    else s
  if !s.mProximitySensor.mReady then
    let s := s.proximityOnInit s.mProximitySensor.mState timestamp
    { s with mProximitySensor := { s.mProximitySensor with mReady := true } }
  else s

/-- `OrientationSensor.onSensorChanged`: new values of one of its hardware sensors, and the
orientation that they make together. There is none without a rotation matrix. -/
def orientationChanged (magnetic : Bool) (orientation : Option Orientation) (clock : Clock)
    (s : Service) : Service :=
  let sensor := s.mOrientationSensor
  let sensor := if magnetic then { sensor with mMagnetic := true }
    else { sensor with mGravity := true }
  let s := { s with mOrientationSensor := sensor }
  if sensor.mGravity && sensor.mMagnetic then
    match orientation with
    | some state =>
      ({ s with
        mOrientationSensor := { sensor with mState := state, mReady := true } }).orientationOnEvent
        clock
    | none => s
  else s

/-- The new state of the pick-up sensor and its event. -/
def pickUpState (state : PickUp) (clock : Clock) (s : Service) : Service :=
  if s.mPickUpSensor.mState ≠ state then
    let s := { s with mPickUpSensor := { s.mPickUpSensor with mState := state } }
    if s.mPickUpSensor.mReady then s.pickUpOnEvent clock else s
  else s

/-- `PickUpSensor.onSensorChanged`. A reading between the two thresholds says nothing, and the first
one of all is handled and then reported as the initial one. -/
def pickUpChanged (reading : PickUpReading) (clock : Clock) (s : Service) : Service :=
  let s :=
    match reading with
    | .aboveThreshold => s.pickUpState .pickUpTrue clock
    | .aboveSafezone => s
    | .layedDown => s.pickUpState .pickUpFalse clock
  if !s.mPickUpSensor.mReady then
    let s := { s with mPickUpSensor := { s.mPickUpSensor with mReady := true } }
    s.pickUpOnInit
  else s

/-! ### The display and the settings -/

def onDisplayOn (s : Service) : Service :=
  ((s.setOrientationSensor false true).setPickUpSensor false true).setProximitySensor false true

def onDisplayOff (s : Service) : Service :=
  let s := { s.getDozeEnabled with mLastPulseTimestamp := 0 }
  if s.isHandwaveEnabled || s.isPickUpEnabled || s.isPocketEnabled || s.isProximityWakeEnabled then
    ((s.resetValues.setOrientationSensor false true).setPickUpSensor false true).setProximitySensor
      true true
  else s

/-- `onStartCommand`: a service that is started while the display is off behaves as if it had just
been turned off. -/
def onStartCommand (isInteractive : Bool) (s : Service) : Service :=
  if !isInteractive then s.onDisplayOff else s

end Service

/-- The keys of the preferences. -/
inductive PreferenceKey
  | gestureHandWave
  | gesturePickUp
  | gesturePocket
  | proximityWakeEnable

/-- `mPrefListener.onSharedPreferenceChanged`: the preference that has changed is read again. The
sensors stay as they are until the next event. -/
def Service.onSharedPreferenceChanged (key : PreferenceKey) (value : Bool)
    (s : Service) : Service :=
  match key with
  | .gestureHandWave => { s with mHandwaveGestureEnabled := value }
  | .gesturePickUp => { s with mPickUpGestureEnabled := value }
  | .gesturePocket => { s with mPocketGestureEnabled := value }
  | .proximityWakeEnable => { s with mProximityWakeEnabled := value }

/-- What happens to the service. -/
inductive DozeEvent
  | screenOn
  | screenOff
  | startCommand (isInteractive : Bool)
  | proximity (isNear : Bool) (timestamp : ℤ)
  | orientation (magnetic : Bool) (orientation : Option Orientation) (clock : Clock)
  | pickUp (reading : PickUpReading) (clock : Clock)
  | preference (key : PreferenceKey) (value : Bool)
  | dozeSetting (value : Bool)

/-- The handling of an event: of the broadcasts about the display, of the start of the service, of
the three sensors, of the preferences and of the doze setting. -/
def Service.handle (s : Service) : DozeEvent → Service
  | .screenOn => s.onDisplayOn
  | .screenOff => s.onDisplayOff
  | .startCommand isInteractive => s.onStartCommand isInteractive
  | .proximity isNear timestamp => s.proximityChanged isNear timestamp
  | .orientation magnetic orientation clock => s.orientationChanged magnetic orientation clock
  | .pickUp reading clock => s.pickUpChanged reading clock
  | .preference key value => s.onSharedPreferenceChanged key value
  | .dozeSetting value => { s with dozeSetting := value }

/-- The service after `onCreate`, with the preferences and the doze setting. -/
def Service.onCreate (handWave pickUp pocket proximityWake dozeSetting : Bool) : Service where
  mOrientationSensor := ⟨false, false, .unknown, false, false⟩
  mPickUpSensor := ⟨false, false, .unknown⟩
  mProximitySensor := ⟨false, false, false⟩
  mDozeEnabled := false
  mHandwaveDoze := false
  mHandwaveGestureEnabled := handWave
  mPickUpDoze := false
  mPickUpGestureEnabled := pickUp
  mPickUpState := false
  mPocketDoze := false
  mPocketGestureEnabled := pocket
  mProximityNear := false
  mProximityWake := false
  mProximityWakeEnabled := proximityWake
  mLastPulseTimestamp := 0
  mLastStowedTimestamp := 0
  dozeSetting := dozeSetting
  launched := []

end DeviceSettings

end BlueCommon
