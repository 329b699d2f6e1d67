import BlueCommon.Lib.Overwrite
import Mathlib.Data.Int.Notation

/-!
# The lights HAL

`lights.cpp`: the three entry points, which run under one lock, and the sysfs files that they write.
The device header chooses whether the device is a `DEVICE_HAYABUSA`, the smallest brightness of the
display and the gamma correction; they are parameters (`Device`). The header also names the files of
the display and the logo, which are taken to be different.

The C `int`s of the light states wrap around. A file holds the text last written to it; a file that
cannot be opened keeps its text.
-/

namespace BlueCommon

namespace Lights

open Overwrite

/-- The files that the HAL writes. -/
inductive File
  | pwrRedUsePattern
  | pwrGreenUsePattern
  | pwrBlueUsePattern
  | pwrRedBrightness
  | pwrGreenBrightness
  | pwrBlueBrightness
  | patternData
  | patternUseSoftdim
  | patternDurationSecs
  | patternDelay
  | dimTime
  | lcdBacklight
  | lcdBacklight2
  | logoBacklight
  | logoBacklight2
  | logoBacklightPattern
  | logoBacklight2Pattern
  deriving DecidableEq

/-- `light_state_t`, without `brightnessMode`, which the HAL never looks at. -/
structure LightState where
  color : UInt32
  flashMode : Int32
  flashOnMS : Int32
  flashOffMS : Int32
  deriving DecidableEq

/-- `LIGHT_FLASH_TIMED`, the one flash mode that lets the LEDs flash by the phases of the
request. -/
def lightFlashTimed : Int32 := 1

/-- `LIGHT_FLASH_NONE`, the mode of a light that is on all the time. -/
def lightFlashNone : Int32 := 0

/-- What the HAL is built for. `gammaCorrection` is `brightness_apply_gamma`, or the identity
without `ENABLE_GAMMA_CORRECTION`. -/
structure Device where
  hayabusa : Bool
  gammaCorrection : ℤ → ℤ
  lcdBrightnessMin : ℤ

/-- The files, the bytes of the max brightness file, and the variables of the module. Which files
can be opened for writing does not change. -/
structure State where
  contents : File → String
  writable : File → Bool
  maxBrightness : Option (List Char)
  notification : LightState
  battery : LightState
  lastScreenBrightness : ℤ

/-! ### Writing -/

/-- `write_int`: the number in decimal and a line feed. The file is only written if it can be
opened. -/
def writeInt (path : File) (value : ℤ) : File × String := (path, toString value ++ "\n")

/-- `write_string`: the text and a line feed. -/
def writeString (path : File) (value : String) : File × String := (path, value ++ "\n")

/-- The writes, in order. -/
def State.perform (s : State) (writes : List (File × String)) : State :=
  { s with contents := store (writes.filter fun w => s.writable w.1) s.contents }

/-- Whether a write fails. -/
def State.fails (s : State) (w : File × String) : Bool := !s.writable w.1

/-! ### Brightness -/

/-- `is_lit`: some colour is not zero. The highest byte is no colour. -/
def isLit (state : LightState) : Bool := state.color &&& 0x00ffffff != 0

def red (state : LightState) : ℕ := ((state.color >>> 16) &&& 0xFF).toNat

def green (state : LightState) : ℕ := ((state.color >>> 8) &&& 0xFF).toNat

def blue (state : LightState) : ℕ := (state.color &&& 0xFF).toNat

/-- `rgb_to_brightness`: the brightness of the colour as the eye sees it, from 0 to 255. -/
def rgbToBrightness (state : LightState) : ℕ :=
  (77 * red state + 150 * green state + 29 * blue state) >>> 8

/-- The value of decimal digits, up to the first character that is none. -/
def digitsValue (digits : List Char) : ℕ :=
  (digits.takeWhile Char.isDigit).foldl (fun n c => 10 * n + (c.toNat - '0'.toNat)) 0

/-- `isspace`. -/
def isSpace (c : Char) : Bool := c.isWhitespace || c == '\x0b' || c == '\x0c'

/-- `strtol`, base 10, for a text that is too short to overflow. -/
def strtol (text : List Char) : ℤ :=
  match text.dropWhile isSpace with
  | '-' :: digits => -digitsValue digits
  | '+' :: digits => digitsValue digits
  | digits => digitsValue digits

/-- `get_light_lcd_max_backlight`: the number in the file, of which six characters are read, or 255
if the file cannot be read or has one character at most. -/
def getLightLcdMaxBacklight (file : Option (List Char)) : ℤ :=
  match file with
  | none => 255
  | some bytes =>
    let value := bytes.take 6
    if value.length ≤ 1 then 255 else strtol value

/-- The brightness that `set_light_lcd_backlight` gives the display. -/
def lcdBrightness (dev : Device) (maxBrightness : ℤ) (state : LightState) : ℤ :=
  let brightness : ℤ := rgbToBrightness state
  if 0 < brightness then
    let brightness := (maxBrightness * dev.gammaCorrection brightness).tdiv 255
    if brightness < dev.lcdBrightnessMin then dev.lcdBrightnessMin else brightness
  else brightness

/-- `set_light_lcd_backlight`, with whether it reports an error. -/
def setLightLcdBacklight (dev : Device) (state : LightState) (s : State) : Bool × State :=
  let maxBrightness := getLightLcdMaxBacklight s.maxBrightness
  let brightness := lcdBrightness dev maxBrightness state
  let lcd := [writeInt .lcdBacklight brightness, writeInt .lcdBacklight2 brightness]
  let err := lcd.any s.fails
  let s := s.perform lcd
  if dev.hayabusa then
    let logo := if brightness = 0 ∧ isLit s.notification then maxBrightness else brightness
    let s := s.perform [writeInt .logoBacklight logo, writeInt .logoBacklight2 logo]
    (err, { s with lastScreenBrightness := brightness })
  else (err, s)

/-! ### LEDs -/

/-- `clear_lights_locked`: the pattern and the three colours are switched off, and the logo of the
devices that have one follows the screen again. -/
def clearLightsLocked (dev : Device) (s : State) : State :=
  let s := s.perform
    [writeString .patternData "0",
      writeInt .patternUseSoftdim 0,
      writeInt .patternDurationSecs 1,
      writeInt .patternDelay 1,
      writeInt .dimTime 500,
      writeInt .pwrRedBrightness 0,
      writeInt .pwrRedUsePattern 0,
      writeInt .pwrGreenBrightness 0,
      writeInt .pwrGreenUsePattern 0,
      writeInt .pwrBlueBrightness 0,
      writeInt .pwrBlueUsePattern 0]
  if dev.hayabusa then
    s.perform
      [writeInt .logoBacklight s.lastScreenBrightness,
        writeInt .logoBacklight2 s.lastScreenBrightness,
        writeInt .logoBacklightPattern 0,
        writeInt .logoBacklight2Pattern 0]
  else s

/-- `get_light_leds_dim_time`: the greatest of the four dim times that is shorter than the phase, or
the shortest one. -/
def getLightLedsDimTime (offMS : Int32) : Int32 :=
  if offMS > 500 then 500
  else if offMS > 190 then 190
  else if offMS > 95 then 95
  else if offMS > 50 then 50
  else 50

/-- The number of on and off phases that `pattern_data_on_bit` draws: the `int` of
`duration / totalMS + 0.5`, and at least one when that is zero. -/
def patternCycles (duration totalMS : ℤ) : ℤ :=
  let cycle := (2 * duration + totalMS).tdiv (2 * totalMS)
  if cycle = 0 then 1 else cycle

/-- The `int` of `duration / 32 * bit - now_cycle * totalMS`. -/
def patternOffset (duration totalMS : ℤ) (bit nowCycle : ℕ) : ℤ :=
  (duration * bit - 32 * (nowCycle * totalMS)).tdiv 32

/-- `pattern_data_on_bit`. The `double`s of the source are exact. -/
def patternDataOnBit (duration : ℤ) (onMS offMS : Int32) (data : UInt32) : UInt32 :=
  let totalMS := (onMS + offMS).toInt
  let cycle := patternCycles duration totalMS
  (List.range 32).foldl (fun data bit =>
    (List.range cycle.toNat).foldl (fun data nowCycle =>
      let s := patternOffset duration totalMS bit nowCycle
      if s ≥ 0 ∧ s < onMS.toInt then data ||| (1 <<< UInt32.ofNat bit) else data) data) data

/-- What `set_light_leds_locked` writes to the pattern files. -/
structure Pattern where
  data : UInt32 := 0
  useSoftdim : Int32 := 0
  duration : Int32 := 1
  delay : Int32 := 0
  dimTime : Int32 := 50

/-- The flash mode that counts: a light without an off phase is always on. -/
def effectiveFlashMode (state : LightState) : Int32 :=
  if state.flashOffMS = 0 then lightFlashNone else state.flashMode

/-- The on and off phases after the switch over the flash mode. -/
def flashPhases (state : LightState) : Int32 × Int32 :=
  if effectiveFlashMode state = lightFlashTimed then (state.flashOnMS, state.flashOffMS) else (0, 0)

/-- The phases, at most 15 s in total: the light phase is cut to eight seconds, and the dark one to
what is left. -/
def clampPhases (onMS offMS : Int32) : Int32 × Int32 :=
  if onMS + offMS > 15000 then
    let onMS := if onMS > 8000 then 8000 else onMS
    let offMS := if offMS > 15000 - onMS then 15000 - onMS else offMS
    (onMS, offMS)
  else (onMS, offMS)

/-- The pattern for positive phases. -/
def timedPattern (onMS offMS : Int32) : Pattern :=
  let phases := clampPhases onMS offMS
  let onMS := phases.1
  let offMS := phases.2
  let totalMS := onMS + offMS
  let dimTime := getLightLedsDimTime (if offMS > onMS then onMS else offMS)
  if totalMS < 8000 ∧ onMS < 1000 then
    { data := patternDataOnBit 1000 onMS offMS 0
      duration := 1
      delay := if totalMS - 1000 < 1000 then (if offMS > 3 * onMS then 1 else 0)
        else (totalMS - 1000) / 1000
      dimTime := dimTime }
  else
    { data := patternDataOnBit 8000 onMS offMS 0
      duration := 8
      delay := if totalMS - 8000 < 8000 then 0 else (totalMS - 8000) / 1000
      dimTime := dimTime }

/-- The values that `set_light_leds_locked` computes before it writes. Phases that are not both
positive leave the defaults. -/
def ledsPattern (state : LightState) : Pattern :=
  let phases := flashPhases state
  let useSoftdim := if effectiveFlashMode state = lightFlashTimed then 1 else 0
  if phases.1 > 0 ∧ phases.2 > 0 then
    { timedPattern phases.1 phases.2 with useSoftdim := useSoftdim }
  else { useSoftdim := useSoftdim }

/-- `"0x%X"`, the number in upper case without leading zeros. -/
def formatHex (value : UInt32) : String :=
  "0x" ++ String.ofList ((Nat.toDigits 16 value.toNat).map Char.toUpper)

/-- `set_light_leds_locked`: the lights are cleared, and then either the pattern is written with the
colours, and the logo flashes too, or the colours alone. -/
def setLightLedsLocked (dev : Device) (state : LightState) (s : State) : State :=
  let pattern := ledsPattern state
  let s := clearLightsLocked dev s
  if pattern.useSoftdim ≠ 0 then
    let s := s.perform
      [writeString .patternData (formatHex pattern.data),
        writeInt .patternUseSoftdim pattern.useSoftdim.toInt,
        writeInt .patternDurationSecs pattern.duration.toInt,
        writeInt .patternDelay pattern.delay.toInt,
        writeInt .dimTime pattern.dimTime.toInt,
        writeInt .pwrRedBrightness (red state),
        writeInt .pwrRedUsePattern 1,
        writeInt .pwrGreenBrightness (green state),
        writeInt .pwrGreenUsePattern 1,
        writeInt .pwrBlueBrightness (blue state),
        writeInt .pwrBlueUsePattern 1]
    if dev.hayabusa then
      s.perform
        [writeInt .logoBacklight 255,
          writeInt .logoBacklight2 255,
          writeInt .logoBacklightPattern 1,
          writeInt .logoBacklight2Pattern 1]
    else s
  else
    s.perform
      [writeInt .pwrRedBrightness (red state),
        writeInt .pwrGreenBrightness (green state),
        writeInt .pwrBlueBrightness (blue state)]

/-- `handle_leds_battery_locked`: a notification is shown before the battery. -/
def handleLedsBatteryLocked (dev : Device) (s : State) : State :=
  if isLit s.notification then setLightLedsLocked dev s.notification s
  else if isLit s.battery then setLightLedsLocked dev s.battery s
  else clearLightsLocked dev s

/-- `set_light_leds_notifications`: the state is remembered, and the lights are set anew. -/
def setLightLedsNotifications (dev : Device) (state : LightState) (s : State) : State :=
  handleLedsBatteryLocked dev { s with notification := state }

/-- `set_light_leds_battery`: the state is remembered, and the lights are set anew. -/
def setLightLedsBattery (dev : Device) (state : LightState) (s : State) : State :=
  handleLedsBatteryLocked dev { s with battery := state }

end Lights

end BlueCommon
