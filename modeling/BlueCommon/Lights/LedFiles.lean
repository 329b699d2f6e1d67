import BlueCommon.Lights.Rendering

/-!
# What the LEDs show

Whichever entry point is called last, the LEDs show the notification if it is lit, and else the
battery. Nothing of what they showed before is left in their files.

* `shown`, `render`: what the LEDs are to show, and how the HAL shows it.
* `leds_of_last`: the files of the LEDs after any calls.
-/

namespace BlueCommon

namespace Lights

open Overwrite

/-- The sysfs files of the LEDs. All of them are written when the lights are cleared, so that their
contents do not depend on what was shown before. -/
def ledFiles : List File :=
  [.patternData, .patternUseSoftdim, .patternDurationSecs, .patternDelay, .dimTime,
    .pwrRedBrightness,
    .pwrRedUsePattern, .pwrGreenBrightness, .pwrGreenUsePattern, .pwrBlueBrightness,
    .pwrBlueUsePattern]

/-- The sysfs files of the logo. -/
def logoFiles : List File :=
  [.logoBacklight, .logoBacklight2, .logoBacklightPattern, .logoBacklight2Pattern]

/-- What the LEDs are to show: the notification if it is lit, else the battery if that is lit, else
nothing. -/
def shown (notification battery : LightState) : Option LightState :=
  if isLit notification then some notification
  else if isLit battery then some battery
  else none

/-- How the HAL shows it: the lights are set, or they are cleared. -/
def render (dev : Device) : Option LightState → State → State
  | some state => setLightLedsLocked dev state
  | none => clearLightsLocked dev

/-! ### Performing writes -/

section Perform

variable {s s' : State} {writes writes' : List (File × String)} {f : File}

@[simp] theorem perform_writable : (s.perform writes).writable = s.writable := rfl

@[simp] theorem perform_notification : (s.perform writes).notification = s.notification := rfl

@[simp] theorem perform_battery : (s.perform writes).battery = s.battery := rfl

@[simp] theorem perform_lastScreenBrightness :
    (s.perform writes).lastScreenBrightness = s.lastScreenBrightness := rfl

@[simp] theorem perform_maxBrightness : (s.perform writes).maxBrightness = s.maxBrightness := rfl

theorem mem_filter_keys {writable : File → Bool} :
    f ∈ (writes.filter fun w => writable w.1).map Prod.fst ↔
      f ∈ writes.map Prod.fst ∧ writable f = true := by
  rw [List.mem_map, List.mem_map]
  constructor
  · rintro ⟨w, hw, rfl⟩
    obtain ⟨hmem, hwritable⟩ := List.mem_filter.mp hw
    exact ⟨⟨w, hmem, rfl⟩, hwritable⟩
  · rintro ⟨⟨w, hmem, rfl⟩, hwritable⟩
    exact ⟨w, List.mem_filter.mpr ⟨hmem, hwritable⟩, rfl⟩

/-- Writes to other files. -/
theorem perform_of_notMem (hf : f ∉ writes.map Prod.fst) :
    (s.perform writes).contents f = s.contents f :=
  store_of_notMem fun hmem => hf (mem_filter_keys.mp hmem).1

/-- What a file holds after the writes. -/
theorem perform_contents : (s.perform writes).contents f =
    if s.writable f then (lastWrite f writes).getD (s.contents f) else s.contents f := by
  show store (writes.filter _) _ f = _
  rw [store_apply, lastWrite_filter]
  split <;> rfl

/-- A file that is written to has the same contents whatever it held. -/
theorem perform_congr (hf : f ∈ writes.map Prod.fst) (hwritable : s.writable f = true)
    (hs : s.writable = s'.writable) : (s.perform writes).contents f =
      (s'.perform writes).contents f := by
  show store (writes.filter _) _ f = store (writes.filter _) _ f
  rw [← hs]
  exact store_congr (mem_filter_keys.mpr ⟨hf, hwritable⟩)

/-- Equal contents stay equal under the same writes. -/
theorem perform_eq (hs : s.writable = s'.writable) (hf : s.contents f = s'.contents f) :
    (s.perform writes).contents f = (s'.perform writes).contents f := by
  show store (writes.filter _) _ f = store (writes.filter _) _ f
  rw [← hs, store_apply, store_apply, hf]

end Perform

/-! ### Rendering -/

section Render

variable {dev : Device} {s s' : State}

/-- The files of the LEDs hold the same. -/
structure SameLeds (s s' : State) : Prop where
  writable : s.writable = s'.writable
  contents : ∀ f ∈ ledFiles, s.contents f = s'.contents f

theorem SameLeds.perform (h : SameLeds s s') (writes : List (File × String)) :
    SameLeds (s.perform writes) (s'.perform writes) :=
  ⟨h.writable, fun f hf => perform_eq h.writable (h.contents f hf)⟩

/-- Writes to the files of the logo. -/
theorem SameLeds.performLogo (h : SameLeds s s') {writes writes' : List (File × String)}
    (hwrites : writes.map Prod.fst = logoFiles) (hwrites' : writes'.map Prod.fst = logoFiles) :
    SameLeds (s.perform writes) (s'.perform writes') := by
  have hlogo : ∀ f ∈ ledFiles, f ∉ logoFiles := by decide
  refine ⟨h.writable, fun f hf => ?_⟩
  rw [perform_of_notMem (by rw [hwrites]; exact hlogo f hf),
    perform_of_notMem (by rw [hwrites']; exact hlogo f hf)]
  exact h.contents f hf

/-- **Clearing leaves nothing of what the LEDs showed.** -/
theorem clearLightsLocked_sameLeds (hwritable : ∀ f ∈ ledFiles, s.writable f = true)
    (hs : s.writable = s'.writable) :
    SameLeds (clearLightsLocked dev s) (clearLightsLocked dev s') := by
  unfold clearLightsLocked
  have hcleared : ∀ writes : List (File × String), writes.map Prod.fst = ledFiles →
      SameLeds (s.perform writes) (s'.perform writes) := by
    intro writes hwrites
    refine ⟨hs, fun f hf => perform_congr ?_ (hwritable f hf) hs⟩
    rw [hwrites]
    exact hf
  dsimp only
  split
  · exact (hcleared _ rfl).performLogo rfl rfl
  · exact hcleared _ rfl

theorem setLightLedsLocked_sameLeds (hwritable : ∀ f ∈ ledFiles, s.writable f = true)
    (hs : s.writable = s'.writable) (state : LightState) :
    SameLeds (setLightLedsLocked dev state s) (setLightLedsLocked dev state s') := by
  have hcleared := @clearLightsLocked_sameLeds dev s s' hwritable hs
  unfold setLightLedsLocked
  dsimp only
  split
  · split
    · exact (hcleared.perform _).perform _
    · exact hcleared.perform _
  · exact hcleared.perform _

/-- What is shown does not depend on what was shown. -/
theorem render_sameLeds (hwritable : ∀ f ∈ ledFiles, s.writable f = true)
    (hs : s.writable = s'.writable) (what : Option LightState) :
    SameLeds (render dev what s) (render dev what s') := by
  cases what with
  | none => exact clearLightsLocked_sameLeds hwritable hs
  | some state => exact setLightLedsLocked_sameLeds hwritable hs state

theorem handleLedsBatteryLocked_eq (dev : Device) (s : State) :
    handleLedsBatteryLocked dev s = render dev (shown s.notification s.battery) s := by
  unfold handleLedsBatteryLocked shown
  split
  · rfl
  · split <;> rfl

@[simp] theorem clearLightsLocked_writable : (clearLightsLocked dev s).writable = s.writable := by
  unfold clearLightsLocked
  dsimp only
  split <;> rfl

@[simp] theorem clearLightsLocked_notification :
    (clearLightsLocked dev s).notification = s.notification := by
  unfold clearLightsLocked
  dsimp only
  split <;> rfl

@[simp] theorem clearLightsLocked_battery : (clearLightsLocked dev s).battery = s.battery := by
  unfold clearLightsLocked
  dsimp only
  split <;> rfl

@[simp] theorem clearLightsLocked_maxBrightness :
    (clearLightsLocked dev s).maxBrightness = s.maxBrightness := by
  unfold clearLightsLocked
  dsimp only
  split <;> rfl

/-- Rendering changes the files only. -/
theorem render_variables (what : Option LightState) : (render dev what s).writable = s.writable ∧
    (render dev what s).notification = s.notification ∧ (render dev what s).battery = s.battery ∧
    (render dev what s).maxBrightness = s.maxBrightness := by
  cases what with
  | none =>
    exact ⟨clearLightsLocked_writable, clearLightsLocked_notification, clearLightsLocked_battery,
      clearLightsLocked_maxBrightness⟩
  | some state =>
    unfold render setLightLedsLocked
    dsimp only
    split
    · split <;> simp
    · simp

end Render

/-! ### Any calls -/

/-- A call of an entry point of the LEDs, with the state that the framework asks for. -/
inductive LedCall
  | notifications (state : LightState)
  | battery (state : LightState)

/-- `set_light_leds_notifications` or `set_light_leds_battery`. -/
def LedCall.perform (dev : Device) (s : State) : LedCall → State
  | .notifications state => setLightLedsNotifications dev state s
  | .battery state => setLightLedsBattery dev state s

/-- The calls, one after the other. The HAL holds its lock during each of them. -/
def performCalls (dev : Device) (calls : List LedCall) (s : State) : State :=
  calls.foldl (LedCall.perform dev) s

/-- The last notification state among the calls, or `state` if there is none. -/
def lastNotification (state : LightState) (calls : List LedCall) : LightState :=
  calls.foldl (fun state call =>
    match call with
    | .notifications state => state
    | .battery _ => state) state

/-- The last battery state among the calls, or `state` if there is none. -/
def lastBattery (state : LightState) (calls : List LedCall) : LightState :=
  calls.foldl (fun state call =>
    match call with
    | .notifications _ => state
    | .battery state => state) state

section Calls

variable {dev : Device} {s : State}

/-- One call shows what is to be shown then. -/
theorem LedCall.perform_eq (call : LedCall) : ∃ s', s'.writable = s.writable ∧
    s'.notification = lastNotification s.notification [call] ∧
    s'.battery = lastBattery s.battery [call] ∧
    call.perform dev s = render dev (shown s'.notification s'.battery) s' := by
  cases call with
  | notifications state =>
    exact ⟨{ s with notification := state }, rfl, rfl, rfl, handleLedsBatteryLocked_eq dev _⟩
  | battery state =>
    exact ⟨{ s with battery := state }, rfl, rfl, rfl, handleLedsBatteryLocked_eq dev _⟩

/-- The variables after any calls. -/
theorem performCalls_variables (calls : List LedCall) :
    (performCalls dev calls s).writable = s.writable ∧
      (performCalls dev calls s).notification = lastNotification s.notification calls ∧
      (performCalls dev calls s).battery = lastBattery s.battery calls := by
  induction calls generalizing s with
  | nil => exact ⟨rfl, rfl, rfl⟩
  | cons call calls ih =>
    obtain ⟨s', hwritable, hnotification, hbattery, hcall⟩ := @LedCall.perform_eq dev s call
    obtain ⟨h₁, h₂, h₃, -⟩ := @render_variables dev s' (shown s'.notification s'.battery)
    rw [← hcall] at h₁ h₂ h₃
    obtain ⟨ih₁, ih₂, ih₃⟩ := @ih (call.perform dev s)
    refine ⟨ih₁.trans (h₁.trans hwritable), ih₂.trans ?_, ih₃.trans ?_⟩
    · rw [h₂, hnotification]
      rfl
    · rw [h₃, hbattery]
      rfl

/-- **The LEDs show what the last states demand**, whatever was shown before and whichever entry
point is called last. -/
theorem performCalls_sameLeds {calls : List LedCall} (hcalls : calls ≠ [])
    (hwritable : ∀ f ∈ ledFiles, s.writable f = true) {prior : State}
    (hprior : prior.writable = s.writable) :
    SameLeds (performCalls dev calls s)
      (render dev (shown (lastNotification s.notification calls) (lastBattery s.battery calls))
        prior) := by
  -- only the last call matters
  obtain ⟨before, call, hsplit⟩ := (List.eq_nil_or_concat calls).resolve_left hcalls
  rw [List.concat_eq_append] at hsplit
  obtain ⟨hw, hn, hb⟩ := @performCalls_variables dev s before
  obtain ⟨s', hwritable', hnotification, hbattery, hcall⟩ :=
    @LedCall.perform_eq dev (performCalls dev before s) call
  have hlast : performCalls dev calls s = render dev (shown s'.notification s'.battery) s' := by
    rw [← hcall, hsplit]
    exact List.foldl_append
  -- what is remembered after the last call is what the list gives
  have hn' : s'.notification = lastNotification s.notification calls := by
    rw [hnotification, hn, hsplit]
    exact List.foldl_append.symm
  have hb' : s'.battery = lastBattery s.battery calls := by
    rw [hbattery, hb, hsplit]
    exact List.foldl_append.symm
  -- no call changes which files can be written
  have hs' : s'.writable = s.writable := hwritable'.trans hw
  rw [hlast, hn', hb']
  -- so both states are drawn with the same light, over files that can be written
  refine render_sameLeds (fun f hf => ?_) (hs'.trans hprior.symm) _
  rw [hs']
  exact hwritable f hf

end Calls

/-- **The LED state is a function of the current requests.** After any calls, the files of the LEDs
are those of rendering what the last notification state and the last battery state demand, from any
prior contents. So two histories with the same last states leave the same files. -/
theorem leds_of_last (dev : Device) {s : State} {calls : List LedCall} (hcalls : calls ≠ [])
    (hwritable : ∀ f ∈ ledFiles, s.writable f = true) :
    (∀ contents, ∀ f ∈ ledFiles, (performCalls dev calls s).contents f =
      (render dev (shown (lastNotification s.notification calls) (lastBattery s.battery calls))
        { s with contents := contents }).contents f) ∧
    ∀ (s' : State) (calls' : List LedCall), calls' ≠ [] → s'.writable = s.writable →
      lastNotification s'.notification calls' = lastNotification s.notification calls →
      lastBattery s'.battery calls' = lastBattery s.battery calls →
      ∀ f ∈ ledFiles, (performCalls dev calls s).contents f =
        (performCalls dev calls' s').contents f := by
  -- the second part compares both runs with the same drawing
  refine ⟨fun contents => ?_, fun s' calls' hcalls' hs' hn hb f hf => ?_⟩
  · exact (@performCalls_sameLeds dev s calls hcalls hwritable { s with
      contents := contents } rfl).contents
  · have hleft := @performCalls_sameLeds dev s calls hcalls hwritable s rfl
    have hright :=
      @performCalls_sameLeds dev s' calls' hcalls' (by rw [hs']; exact hwritable) s hs'.symm
    rw [hn, hb] at hright
    exact (hleft.contents f hf).trans (hright.contents f hf).symm

/-- A state in which all files can be written, nothing is lit and nothing has been written, of a
display with the usual 256 steps. -/
def State.start : State where
  contents _ := ""
  writable _ := true
  maxBrightness := some ['2', '5', '5', '\n']
  notification := ⟨0, 0, 0, 0⟩
  battery := ⟨0, 0, 0, 0⟩
  lastScreenBrightness := 0

/-- A device without logo and gamma correction. -/
def Device.plain : Device := ⟨false, id, 1⟩

/-- A red notification is shown in whichever order the battery turns green. -/
theorem leds_of_last_red :
    (∀ contents, ∀ f ∈ ledFiles,
      (performCalls .plain [.notifications ⟨0xff0000, 0, 0, 0⟩, .battery ⟨0xff00, 0, 0, 0⟩]
        .start).contents f =
        (render .plain (some ⟨0xff0000, 0, 0, 0⟩)
          { State.start with contents := contents }).contents f) ∧
    ∀ f ∈ ledFiles,
      (performCalls .plain [.notifications ⟨0xff0000, 0, 0, 0⟩, .battery ⟨0xff00, 0, 0, 0⟩]
        .start).contents f =
        (performCalls .plain [.battery ⟨0xff00, 0, 0, 0⟩, .notifications ⟨0xff0000, 0, 0, 0⟩]
          .start).contents f := by
  obtain ⟨hshown, horders⟩ := @leds_of_last .plain .start
    [.notifications ⟨0xff0000, 0, 0, 0⟩, .battery ⟨0xff00, 0, 0, 0⟩]
      (List.cons_ne_nil _ _) fun _ _ => rfl
  exact ⟨hshown, horders .start _ (List.cons_ne_nil _ _) rfl rfl rfl⟩

end Lights

end BlueCommon
