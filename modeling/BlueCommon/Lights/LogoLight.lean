import BlueCommon.Lights.LedFiles
import Mathlib

/-!
# The logo light

On `DEVICE_HAYABUSA` two entry points write the files of the logo. `set_light_lcd_backlight` lights
the logo with the max brightness when it turns the display off and a notification is lit. The
rendering of the LEDs gives the logo the brightness of the display, or 255 when the LEDs flash.

* `commute_iff`: when the order of the two calls does not matter.
* `notification_after_display_off`: a steady notification that arrives when the display is off.
-/

namespace BlueCommon

namespace Lights

open Overwrite

/-- What `set_light_lcd_backlight` gives the logo. -/
def logoOfBacklight (maxBrightness brightness : ℤ) (notification : LightState) : ℤ :=
  if brightness = 0 ∧ isLit notification then maxBrightness else brightness

/-- The LEDs flash, in which case the logo flashes with them. -/
def flashes : Option LightState → Bool
  | some state => effectiveFlashMode state = lightFlashTimed
  | none => false

/-- What the rendering of the LEDs gives the logo. -/
def logoOfLeds (what : Option LightState) (lastScreenBrightness : ℤ) : ℤ :=
  if flashes what then 255 else lastScreenBrightness

/-- What the rendering of the LEDs writes to a file of the logo. -/
def logoValue (what : Option LightState) (lastScreenBrightness : ℤ) : File → ℤ
  | .logoBacklightPattern | .logoBacklight2Pattern => if flashes what then 1 else 0
  | _ => logoOfLeds what lastScreenBrightness

/-- The files of the display. -/
def lcdFiles : List File := [.lcdBacklight, .lcdBacklight2]

section Logo

variable {dev : Device} {s s' : State} {f : File} {what : Option LightState}

/-! ### Rendering -/

theorem SameLeds.clearLightsLocked (h : SameLeds s s') :
    SameLeds (Lights.clearLightsLocked dev s) (Lights.clearLightsLocked dev s') := by
  unfold Lights.clearLightsLocked
  dsimp only
  split
  · exact (h.perform _).performLogo rfl rfl
  · exact h.perform _

/-- Equal LED files stay equal, also those that cannot be written. -/
theorem SameLeds.render (h : SameLeds s s') (what : Option LightState) :
    SameLeds (Lights.render dev what s) (Lights.render dev what s') := by
  cases what with
  | none => exact h.clearLightsLocked
  | some state =>
    have hcleared := @SameLeds.clearLightsLocked dev s s' h
    unfold Lights.render setLightLedsLocked
    dsimp only
    split
    · split
      · exact (hcleared.perform _).perform _
      · exact hcleared.perform _
    · exact hcleared.perform _

theorem useSoftdim_ne_zero {state : LightState} :
    (ledsPattern state).useSoftdim ≠ 0 ↔ effectiveFlashMode state = lightFlashTimed := by
  unfold ledsPattern
  dsimp only
  split <;> split <;> simp_all

/-- Clearing and rendering write the files of the LEDs and the logo only. Both go through the same
files, so another file is as it was after each of the two. -/
theorem render_of_notMem (hled : f ∉ ledFiles) (hlogo : f ∉ logoFiles) :
    (render dev what s).contents f = s.contents f := by
  have hrgb : [File.pwrRedBrightness, .pwrGreenBrightness, .pwrBlueBrightness] ⊆ ledFiles := by
    decide
  -- the lights are cleared first, which is done through the same files
  have hcleared : (clearLightsLocked dev s).contents f = s.contents f := by
    unfold clearLightsLocked
    dsimp only
    split
    · rw [perform_of_notMem, perform_of_notMem]
      · exact hled
      · exact hlogo
    · rw [perform_of_notMem]
      exact hled
  -- without a light to show this is all
  cases what with
  | none => exact hcleared
  | some state =>
    unfold render setLightLedsLocked
    dsimp only
    split
    · -- the soft-dimming branch also writes the files of the logo, if there is one
      split
      · rw [perform_of_notMem, perform_of_notMem, hcleared]
        · exact hled
        · exact hlogo
      · rw [perform_of_notMem, hcleared]
        exact hled
    · -- the other branch writes the three colours only
      rw [perform_of_notMem, hcleared]
      exact fun hmem => hled (hrgb hmem)

/-- Clearing gives the logo the brightness of the display. -/
theorem clearLightsLocked_logo (hdev : dev.hayabusa = true) (hf : f ∈ logoFiles) :
    (clearLightsLocked dev s).contents f =
      if s.writable f then (writeInt f (logoValue none s.lastScreenBrightness f)).2
      else s.contents f := by
  have hled : ∀ f ∈ logoFiles, f ∉ ledFiles := by decide
  unfold clearLightsLocked
  dsimp only
  rw [if_pos hdev, perform_contents, perform_of_notMem (hled f hf)]
  simp only [logoFiles, List.mem_cons, List.not_mem_nil, or_false] at hf
  rcases hf with rfl | rfl | rfl | rfl <;> rfl

/-- **What the rendering leaves in the files of the logo.** They are cleared first; without a light
to show they stay like this, and a timed light writes its own value to each of them. -/
theorem render_logo (hdev : dev.hayabusa = true) (hf : f ∈ logoFiles) :
    (render dev what s).contents f =
      if s.writable f then (writeInt f (logoValue what s.lastScreenBrightness f)).2
      else s.contents f := by
  have hcleared := @clearLightsLocked_logo dev s f hdev hf
  have hled : ∀ f ∈ logoFiles, f ∉ ledFiles := by decide
  -- without a light to show the logo is cleared
  cases what with
  | none => exact hcleared
  | some state =>
    unfold render setLightLedsLocked
    dsimp only
    -- only a timed light writes the files of the logo again
    by_cases hflash : effectiveFlashMode state = lightFlashTimed
    · have hflashes : flashes (some state) = true := decide_eq_true hflash
      rw [if_pos (useSoftdim_ne_zero.mpr hflash), if_pos hdev, perform_contents,
        perform_of_notMem (hled f hf), hcleared, perform_writable, clearLightsLocked_writable]
      simp only [logoFiles, List.mem_cons, List.not_mem_nil, or_false] at hf
      unfold logoValue logoOfLeds
      rw [hflashes]
      -- each file of the logo gets its own value
      rcases hf with rfl | rfl | rfl | rfl
      · split <;> rfl
      · split <;> rfl
      · split <;> rfl
      · split <;> rfl
    · -- any other light leaves the logo as it was cleared
      have hflashes : flashes (some state) = false := decide_eq_false hflash
      have hrgb : [File.pwrRedBrightness, .pwrGreenBrightness, .pwrBlueBrightness] ⊆ ledFiles := by
        decide
      have hvalue : logoValue (some state) s.lastScreenBrightness f =
          logoValue none s.lastScreenBrightness f := by
        unfold logoValue logoOfLeds
        rw [hflashes]
        rfl
      rw [if_neg (mt useSoftdim_ne_zero.mp hflash), perform_of_notMem, hcleared, hvalue]
      exact fun hmem => hled f hf (hrgb hmem)

/-! ### The display -/

/-- The brightness that the display gets, from the greatest one that its file names. -/
abbrev brightnessOf (dev : Device) (s : State) (b : LightState) : ℤ :=
  lcdBrightness dev (getLightLcdMaxBacklight s.maxBrightness) b

/-- What `set_light_lcd_backlight` does on `DEVICE_HAYABUSA`. -/
theorem setLightLcdBacklight_eq (hdev : dev.hayabusa = true) (b : LightState) :
    (setLightLcdBacklight dev b s).2 =
      let logo := logoOfBacklight (getLightLcdMaxBacklight s.maxBrightness) (brightnessOf dev s b)
        s.notification
      { (s.perform [writeInt .lcdBacklight (brightnessOf dev s b),
          writeInt .lcdBacklight2 (brightnessOf dev s b)]).perform
            [writeInt .logoBacklight logo, writeInt .logoBacklight2 logo] with
        lastScreenBrightness := brightnessOf dev s b } := by
  unfold setLightLcdBacklight
  dsimp only
  rw [if_pos hdev]
  rfl

theorem setLightLcdBacklight_lcd (hdev : dev.hayabusa = true) (b : LightState) (hf : f ∈ lcdFiles) :
    (setLightLcdBacklight dev b s).2.contents f =
      if s.writable f then (writeInt f (brightnessOf dev s b)).2 else s.contents f := by
  have hlogo : ∀ f ∈ lcdFiles, f ∉ [File.logoBacklight, .logoBacklight2] := by decide
  rw [setLightLcdBacklight_eq hdev]
  dsimp only
  rw [perform_of_notMem (hlogo f hf), perform_contents]
  simp only [lcdFiles, List.mem_cons, List.not_mem_nil, or_false] at hf
  rcases hf with rfl | rfl <;> rfl

theorem setLightLcdBacklight_logo (hdev : dev.hayabusa = true) (b : LightState)
    (hf : f ∈ [File.logoBacklight, .logoBacklight2]) :
    (setLightLcdBacklight dev b s).2.contents f =
      if s.writable f then (writeInt f (logoOfBacklight (getLightLcdMaxBacklight s.maxBrightness)
        (brightnessOf dev s b) s.notification)).2
      else s.contents f := by
  have hlcd : ∀ f ∈ [File.logoBacklight, .logoBacklight2], f ∉ lcdFiles := by decide
  rw [setLightLcdBacklight_eq hdev]
  dsimp only
  rw [perform_contents, perform_of_notMem (hlcd f hf)]
  simp only [List.mem_cons, List.not_mem_nil, or_false] at hf
  rcases hf with rfl | rfl <;> rfl

theorem setLightLcdBacklight_other (hdev : dev.hayabusa = true) (b : LightState)
    (hlcd : f ∉ lcdFiles) (hlogo : f ∉ [File.logoBacklight, .logoBacklight2]) :
    (setLightLcdBacklight dev b s).2.contents f = s.contents f := by
  rw [setLightLcdBacklight_eq hdev]
  dsimp only
  rw [perform_of_notMem hlogo, perform_of_notMem hlcd]

/-! ### Both orders -/

theorem writeInt_inj {x y : ℤ} : (writeInt f x).2 = (writeInt f y).2 ↔ x = y := by
  constructor
  · intro h
    exact Int.repr_injective ((String.append_left_inj "\n").mp h)
  · rintro rfl
    rfl

/-- The display is set first, and the notification after it. -/
def displayFirst (dev : Device) (b n : LightState) (s : State) : State :=
  setLightLedsNotifications dev n (setLightLcdBacklight dev b s).2

/-- The notification is set first, and the display after it. -/
def notificationFirst (dev : Device) (b n : LightState) (s : State) : State :=
  (setLightLcdBacklight dev b (setLightLedsNotifications dev n s)).2

theorem setLightLedsNotifications_eq (n : LightState) :
    setLightLedsNotifications dev n s = render dev (shown n s.battery)
      { s with notification := n } :=
  handleLedsBatteryLocked_eq dev _

theorem setLightLcdBacklight_variables (hdev : dev.hayabusa = true) (b : LightState) :
    (setLightLcdBacklight dev b s).2.writable = s.writable ∧
      (setLightLcdBacklight dev b s).2.battery = s.battery ∧
      (setLightLcdBacklight dev b s).2.lastScreenBrightness = brightnessOf dev s b := by
  rw [setLightLcdBacklight_eq hdev]
  exact ⟨rfl, rfl, rfl⟩

/-- The display is set, and then the notification rendered. -/
theorem displayFirst_eq (hdev : dev.hayabusa = true) (b n : LightState) :
    displayFirst dev b n s = render dev (shown n s.battery)
      { (setLightLcdBacklight dev b s).2 with notification := n } := by
  obtain ⟨-, hbattery, -⟩ := @setLightLcdBacklight_variables dev s hdev b
  exact (setLightLedsNotifications_eq n).trans
    (congrArg (fun battery => render dev (shown n battery)
    { (setLightLcdBacklight dev b s).2 with notification := n }) hbattery)

/-- The notification is rendered, and then the display set. -/
theorem notificationFirst_variables (n : LightState) :
    (setLightLedsNotifications dev n s).writable = s.writable ∧
      (setLightLedsNotifications dev n s).notification = n ∧
      (setLightLedsNotifications dev n s).maxBrightness = s.maxBrightness := by
  obtain ⟨hwritable, hnotification, -, hmax⟩ :=
    @render_variables dev { s with notification := n } (shown n s.battery)
  rw [setLightLedsNotifications_eq]
  exact ⟨hwritable, hnotification, hmax⟩

/-- The files that both orders leave the same in any case. Each file belongs to the display, to the
LEDs or to the logo; the order matters only for the two files of the logo that the display writes as
well. -/
theorem orders_agree (hdev : dev.hayabusa = true) (b n : LightState)
    (hf : f ∉ [File.logoBacklight, .logoBacklight2]) :
    (displayFirst dev b n s).contents f = (notificationFirst dev b n s).contents f := by
  obtain ⟨hwritable, -, -⟩ := @setLightLcdBacklight_variables dev s hdev b
  obtain ⟨hwritable', -, hmax⟩ := @notificationFirst_variables dev s n
  -- the brightness is that of the display alone
  have hbrightness : brightnessOf dev (setLightLedsNotifications dev n s) b =
      brightnessOf dev s b := by
    unfold brightnessOf
    rw [hmax]
  rw [displayFirst_eq hdev]
  unfold notificationFirst
  -- every file belongs to the display, to the LEDs or to the logo
  have hcases : ∀ f, f ∈ lcdFiles ∨ f ∈ ledFiles ∨ f ∈ logoFiles := by
    intro f
    cases f <;> decide
  have hother : ∀ f ∈ lcdFiles, f ∉ ledFiles ∧ f ∉ logoFiles := by decide
  rcases hcases f with hlcd | hled | hlogo
  · -- the LEDs leave the display alone
    rw [render_of_notMem (hother f hlcd).1 (hother f hlcd).2, setLightLcdBacklight_lcd hdev b hlcd,
      setLightLcdBacklight_lcd hdev b hlcd, hbrightness, hwritable', setLightLedsNotifications_eq,
      render_of_notMem (hother f hlcd).1 (hother f hlcd).2]
  · -- the display leaves the LEDs alone
    have hlcd : ∀ f ∈ ledFiles, f ∉ lcdFiles ∧ f ∉ [File.logoBacklight, .logoBacklight2] := by
      decide
    rw [setLightLcdBacklight_other hdev b (hlcd f hled).1 hf, setLightLedsNotifications_eq]
    -- the notification is drawn over LEDs that nobody has touched since
    have hsame : SameLeds { (setLightLcdBacklight dev b s).2 with notification := n }
        { s with notification := n } :=
      ⟨hwritable, fun f hf => setLightLcdBacklight_other hdev b (hlcd f hf).1 (hlcd f hf).2⟩
    exact (hsame.render _).contents f hled
  · -- the patterns of the logo depend on what is shown only
    have hpattern : ∀ f ∈ logoFiles, f ∉ lcdFiles := by decide
    rw [setLightLcdBacklight_other hdev b (hpattern f hlogo) hf, setLightLedsNotifications_eq,
      render_logo hdev hlogo, render_logo hdev hlogo]
    show (if (setLightLcdBacklight dev b s).2.writable f then _ else
      (setLightLcdBacklight dev b s).2.contents f) = _
    rw [hwritable, setLightLcdBacklight_other hdev b (hpattern f hlogo) hf]
    -- the two files of the logo that the display writes are excluded
    simp only [logoFiles, List.mem_cons, List.not_mem_nil, or_false] at hlogo hf
    rcases hlogo with rfl | rfl | rfl | rfl
    · exact absurd (.inl rfl) hf
    · exact absurd (.inr rfl) hf
    · rfl
    · rfl

/-- The logo when the display is set first. -/
theorem displayFirst_logo (hdev : dev.hayabusa = true) (b n : LightState)
    (hf : f ∈ [File.logoBacklight, .logoBacklight2]) :
    (displayFirst dev b n s).contents f =
      if s.writable f then (writeInt f (logoOfLeds (shown n s.battery) (brightnessOf dev s b))).2
      else s.contents f := by
  have hlogo : ∀ f ∈ [File.logoBacklight, .logoBacklight2], f ∈ logoFiles := by decide
  obtain ⟨hwritable, -, hlast⟩ := @setLightLcdBacklight_variables dev s hdev b
  rw [displayFirst_eq hdev, render_logo hdev (hlogo f hf)]
  show (if (setLightLcdBacklight dev b s).2.writable f then
    (writeInt f (logoValue _ (setLightLcdBacklight dev b s).2.lastScreenBrightness f)).2
    else (setLightLcdBacklight dev b s).2.contents f) = _
  rw [hwritable, hlast]
  split
  · simp only [List.mem_cons, List.not_mem_nil, or_false] at hf
    rcases hf with rfl | rfl <;> rfl
  · next hw => rw [setLightLcdBacklight_logo hdev b hf, if_neg hw]

/-- The logo when the notification is set first. -/
theorem notificationFirst_logo (hdev : dev.hayabusa = true) (b n : LightState)
    (hf : f ∈ [File.logoBacklight, .logoBacklight2]) :
    (notificationFirst dev b n s).contents f =
      if s.writable f then (writeInt f (logoOfBacklight (getLightLcdMaxBacklight s.maxBrightness)
        (brightnessOf dev s b) n)).2
      else s.contents f := by
  have hlogo : ∀ f ∈ [File.logoBacklight, .logoBacklight2], f ∈ logoFiles := by decide
  obtain ⟨hwritable, hnotification, hmax⟩ := @notificationFirst_variables dev s n
  unfold notificationFirst
  rw [setLightLcdBacklight_logo hdev b hf, hwritable, hnotification, hmax]
  unfold brightnessOf
  rw [hmax]
  split
  · rfl
  · next hw =>
    rw [setLightLedsNotifications_eq, render_logo hdev (hlogo f hf)]
    exact if_neg hw

/-- The two orders leave the logo with the same brightness. -/
theorem logo_eq_iff {maxBrightness brightness : ℤ} {n : LightState} :
    logoOfLeds what brightness = logoOfBacklight maxBrightness brightness n ↔
      (flashes what = true ∧ (if brightness = 0 ∧ isLit n then maxBrightness = 255
        else brightness = 255)) ∨
        (flashes what = false ∧ (brightness = 0 → isLit n = true → maxBrightness = 0)) := by
  unfold logoOfLeds logoOfBacklight
  -- in each case one of the two sides of the disjunction is out of the question
  cases flashes what with
  | true =>
    rw [if_pos rfl]
    -- the logo is lit by the display or by the notification
    split
    · exact ⟨fun h => .inl ⟨rfl, h.symm⟩, fun h => (h.resolve_right nofun).2.symm⟩
    · exact ⟨fun h => .inl ⟨rfl, h.symm⟩, fun h => (h.resolve_right nofun).2.symm⟩
  | false =>
    rw [if_neg nofun]
    -- a dark logo differs only where the display would light it
    split
    · next hoff =>
      rw [hoff.1]
      exact ⟨fun h => .inr ⟨rfl, fun _ _ => h.symm⟩,
        fun h => ((h.resolve_left nofun).2 rfl hoff.2).symm⟩
    · next hoff => exact ⟨fun _ => .inr ⟨rfl, fun h hn => absurd ⟨h, hn⟩ hoff⟩, fun _ => rfl⟩

end Logo

/-- **When the order does not matter.** Setting the display to `b` and the notification to `n`
leaves all files the same in both orders if and only if the logo cannot be written, or

* the LEDs flash, and the max brightness is 255 if the display is turned off and `n` is lit, the
  brightness of the display is 255 if not; or
* the LEDs do not flash, and the max brightness is 0 if the display is turned off and `n` is lit. -/
theorem commute_iff (dev : Device) (hdev : dev.hayabusa = true) (s : State) (b n : LightState) :
    (∀ f, (displayFirst dev b n s).contents f = (notificationFirst dev b n s).contents f) ↔
      (s.writable .logoBacklight = false ∧ s.writable .logoBacklight2 = false) ∨
        (flashes (shown n s.battery) = true ∧
          if brightnessOf dev s b = 0 ∧ isLit n then getLightLcdMaxBacklight s.maxBrightness = 255
          else brightnessOf dev s b = 255) ∨
        (flashes (shown n s.battery) = false ∧
          (brightnessOf dev s b = 0 → isLit n = true →
            getLightLcdMaxBacklight s.maxBrightness = 0)) := by
  rw [← logo_eq_iff]
  -- one of the two files of the logo
  have hfile : ∀ f ∈ [File.logoBacklight, .logoBacklight2],
      ((displayFirst dev b n s).contents f = (notificationFirst dev b n s).contents f ↔
        s.writable f = false ∨ logoOfLeds (shown n s.battery) (brightnessOf dev s b) =
          logoOfBacklight (getLightLcdMaxBacklight s.maxBrightness) (brightnessOf dev s b) n) := by
    -- both orders write the file, or neither can
    intro f hf
    rw [displayFirst_logo hdev b n hf, notificationFirst_logo hdev b n hf]
    by_cases hw : s.writable f = true
    · rw [if_pos hw, if_pos hw, writeInt_inj, hw]
      exact ⟨.inr, fun h => h.resolve_left nofun⟩
    · rw [if_neg hw, if_neg hw]
      exact ⟨fun _ => .inl (Bool.eq_false_iff.mpr hw), fun _ => rfl⟩
  -- both files must agree, and the last condition is the same for both
  constructor
  · intro hall
    rcases (hfile .logoBacklight (by decide)).mp (hall _) with hw | heq
    · rcases (hfile .logoBacklight2 (by decide)).mp (hall _) with hw' | heq
      · exact .inl ⟨hw, hw'⟩
      · exact .inr heq
    · exact .inr heq
  · -- the other files agree anyway
    intro h f
    by_cases hf : f ∈ [File.logoBacklight, .logoBacklight2]
    · refine (hfile f hf).mpr ?_
      rcases h with ⟨hw, hw'⟩ | heq
      · rcases List.mem_cons.mp hf with rfl | hf
        · exact .inl hw
        · rw [List.mem_singleton.mp hf]
          exact .inl hw'
      · exact .inr heq
    · exact orders_agree hdev b n hf

/-- A device with a logo. -/
def Device.withLogo : Device := ⟨true, id, 1⟩

/-- The display is on, the notification is steady. -/
theorem commute_iff_display_on : Device.withLogo.hayabusa = true ∧ ∀ f,
    (displayFirst .withLogo ⟨0xffffff, 0, 0, 0⟩ ⟨0xffffff, 0, 0, 0⟩ .start).contents f =
      (notificationFirst .withLogo ⟨0xffffff, 0, 0, 0⟩ ⟨0xffffff, 0, 0, 0⟩ .start).contents f :=
  ⟨rfl, (commute_iff .withLogo rfl .start ⟨0xffffff, 0, 0, 0⟩ ⟨0xffffff, 0, 0, 0⟩).mpr
    (.inr (.inr ⟨by decide, fun h => absurd h (by decide)⟩))⟩

/-- **A steady notification that arrives when the display is off** leaves the logo dark; if the
display is turned off afterwards, the logo gets the max brightness. -/
theorem notification_after_display_off : ∃ dev b n, dev.hayabusa = true ∧
    (displayFirst dev b n .start).contents .logoBacklight ≠
      (notificationFirst dev b n .start).contents .logoBacklight := by
  refine ⟨.withLogo, ⟨0, 0, 0, 0⟩, ⟨0xffffff, 0, 0, 0⟩, rfl, fun h => ?_⟩
  have hw : State.start.writable .logoBacklight = true := rfl
  rw [displayFirst_logo rfl _ _ (by decide), notificationFirst_logo rfl _ _ (by decide), if_pos hw,
    if_pos hw, writeInt_inj] at h
  exact absurd h (by decide)

end Lights

end BlueCommon
