import BlueCommon.Camera.Parameters
import Mathlib.Data.Int.Notation
import Mathlib.Data.List.Infix

/-!
# The camera wrapper

The wrapper stands between the applications and the camera HAL of the vendor. It rewrites the
parameters in both directions: `cameraFixupSetparams` on the way to the vendor, and
`camera_fixup_getparams` on the way back. The ISO and shutter-speed settings of an application
become one AE mode of the vendor, and the scene mode "hdr" becomes an image stabiliser mode.

* `cameraFixupSetparams`: the function, one definition for each block. The result is `none` where
  the source reads through a null pointer or behind the end of a string.
* `getparamsValues`: what `camera_fixup_getparams` makes of the map if all its arrays are long
  enough. The function with its arrays is `cameraFixupGetparamsBuffers`; without a fault it
  returns the same (`getparamsBuffers_eq_some_iff`).
* `setparams_sent`, `getparams_settings`: the settings of an application as the vendor is sent them,
  and what comes back of those.
-/

namespace BlueCommon

namespace Camera

/-! ### The names of the parameters -/

def keySupportedIsoModes : String := "iso-values"
def keyIsoMode : String := "iso"
def keyShutterSpeed : String := "shutter-speed"
def keySceneMode : String := "scene-mode"
def keySupportedSceneModes : String := "scene-mode-values"
def keyPreferredPreviewSizeForVideo : String := "preferred-preview-size-for-video"
def keyRecordingHint : String := "recording-hint"
def keyVideoHdr : String := "video-hdr"
def keyVideoHdrValues : String := "video-hdr-values"
def keySonyImageStabiliserValues : String := "sony-is-values"
def keySonyImageStabiliser : String := "sony-is"
def keySonyVideoStabiliser : String := "sony-vs"
def keySonyVideoStabiliserValues : String := "sony-vs-values"
def keySonyVideoHdr : String := "sony-video-hdr"
def keySonyVideoHdrValues : String := "sony-video-hdr-values"
def keySonyIsoAvailModes : String := "sony-iso-values"
def keySonyIsoMode : String := "sony-iso"
def keySonyAeModeValues : String := "sony-ae-mode-values"
def keySonyAeMode : String := "sony-ae-mode"
def keySonyShutterSpeed : String := "sony-shutter-speed"

def valueSonyOn : String := "on"
def valueSonyOff : String := "off"
def valueSonyStillHdr : String := "on-still-hdr"
def valueSonyIntelligentActive : String := "on-intelligent-active"

/-- `strstr` finds the second string in the first. -/
def strstr (s sub : String) : Prop := sub.toList <:+: s.toList

instance (s sub : String) : Decidable (strstr s sub) := inferInstanceAs (Decidable (_ <:+: _))

/-! ### The functions -/

section Functions

variable {Params : Type} (api : CameraParameters Params)

def cameraFixupCapability (params : Params) : Params :=
  match api.get params keySonyImageStabiliserValues with
  | none => params
  | some supportedIsModes =>
    if strstr supportedIsModes valueSonyStillHdr then
      -- a null pointer is formatted as "(null)"
      let supportedSceneModes := (api.get params keySupportedSceneModes).getD "(null)"
      api.set params keySupportedSceneModes (supportedSceneModes ++ ",hdr")
    else params

/-- Sets the preferred video preview size. -/
def fixupPreviewSize (id : ℤ) (params : Params) : Params :=
  if id = 0 then api.set params keyPreferredPreviewSizeForVideo "1280x720"
  else api.set params keyPreferredPreviewSizeForVideo "640x480"

/-- The list of the ISO modes of the vendor, with "ISO" before each. -/
def isoModes (isoModeList : String) : String :=
  "ISO" ++ String.ofList (isoModeList.toList.flatMap fun c => if c ≠ ',' then
    [c] else [',', 'I', 'S', 'O']) ++
    ",auto"

/-- Fixes up the ISO mode list with those that are in the list of the vendor. -/
def fixupIsoModes (params : Params) : Params :=
  match api.get params keySonyIsoAvailModes with
  | none => params
  | some isoModeList => api.set params keySupportedIsoModes (isoModes isoModeList)

/-- The scene mode is "hdr" when the image stabiliser is in its HDR mode. -/
def fixupSceneMode (params : Params) : Params :=
  match api.get params keySonyImageStabiliser with
  | none => params
  | some sonyIs => if sonyIs = valueSonyStillHdr then api.set params keySceneMode "hdr" else params

def fixupVideoHdr (params : Params) : Params :=
  match api.get params keySonyVideoHdr, api.get params keySonyVideoHdrValues with
  | some videoHdr, some videoHdrValues =>
    api.set (api.set params keyVideoHdrValues videoHdrValues) keyVideoHdr videoHdr
  | _, _ => params

/-- The shutter speed of the vendor, if there is one. -/
def copyShutterSpeed (params : Params) : Params :=
  match api.get params keySonyShutterSpeed with
  | none => params
  | some shutterSpeed => api.set params keyShutterSpeed shutterSpeed

/-- The ISO mode of the vendor, with "ISO" before it. -/
def copyIsoMode (params : Params) : Option Params := do
  let sonyIso ← api.get params keySonyIsoMode
  return api.set params keyIsoMode ("ISO" ++ sonyIso)

/-- The ISO and shutter-speed settings of the AE mode. -/
def fixupAeMode (params : Params) : Option Params :=
  if (api.get params keySonyIsoMode).isSome then
    if (api.get params keySonyAeModeValues).isSome then do
      let aeMode ← api.get params keySonyAeMode
      if aeMode = "auto" then
        return api.set (api.set params keyIsoMode "auto") keyShutterSpeed "auto"
      else if aeMode = "iso-prio" then do
        let params ← copyIsoMode api params
        return api.set params keyShutterSpeed "auto"
      else if aeMode = "shutter-prio" then
        return copyShutterSpeed api (api.set params keyIsoMode "auto")
      else if aeMode = "manual" then
        copyIsoMode api (copyShutterSpeed api params)
      else
        return api.set (api.set params keyIsoMode "auto") keyShutterSpeed "auto"
    else return params
  else return params

/-- `camera_fixup_getparams` over strings instead of arrays of characters. -/
def getparamsValues (id : ℤ) (settings : String) : Option String := do
  let params := api.unflatten settings
  let params := cameraFixupCapability api params
  let params := fixupPreviewSize api id params
  let params := fixupIsoModes api params
  let params := fixupSceneMode api params
  let params := fixupVideoHdr api params
  let params ← fixupAeMode api params
  return api.flatten params

/-- A shutter speed selects the AE mode "shutter-prio", and "auto" the AE mode "auto" if there is
one. -/
def setShutterSpeed (params : Params) : Option Params :=
  match api.get params keyShutterSpeed with
  | none => some params
  | some shutterSpeed =>
    if shutterSpeed ≠ "auto" then
      some (api.set (api.set params keySonyShutterSpeed shutterSpeed) keySonyAeMode "shutter-prio")
    else do
      let aeModes ← api.get params keySonyAeModeValues
      if strstr aeModes "auto" then return api.set params keySonyAeMode "auto" else return params

/-- `isoMode + 3`, the characters behind "ISO". For a text of less than three characters the pointer
is past its end. -/
def skipIso (isoMode : String) : Option String :=
  if 3 ≤ isoMode.length then some (String.ofList (isoMode.toList.drop 3)) else none

/-- The AE mode of an ISO setting, given the one of the shutter speed. -/
def setAeMode (isoMode aeModes : String) (params : Params) : Option Params :=
  if isoMode = "auto" then
    if strstr aeModes "auto" then do
      let aeMode ← api.get params keySonyAeMode
      if aeMode ≠ "shutter-prio" then return api.set params keySonyAeMode "auto" else return params
    else return params
  else if strstr aeModes "iso-prio" then do
    let aeMode ← api.get params keySonyAeMode
    if aeMode = "shutter-prio" then return api.set params keySonyAeMode "manual"
    else return api.set params keySonyAeMode "iso-prio"
  else return params

/-- The ISO mode without the "ISO" before it, and the AE mode that goes with it. -/
def setIsoMode (params : Params) : Option Params :=
  match api.get params keyIsoMode with
  | none => some params
  | some isoMode => do
    let params ← if isoMode ≠ "auto" then do
        let sonyIso ← skipIso isoMode
        pure (api.set params keySonyIsoMode sonyIso)
      else pure params
    match api.get params keySonyAeModeValues with
    | none => return params
    | some aeModes => setAeMode api isoMode aeModes params

/-- The scene mode "hdr" is the HDR mode of the image stabiliser. -/
def setSceneMode (params : Params) : Params :=
  match api.get params keySceneMode with
  | none => params
  | some sceneMode =>
    if sceneMode = "hdr" then
      api.set (api.set params keySonyImageStabiliser valueSonyStillHdr) keySceneMode "auto"
    else api.set params keySonyImageStabiliser valueSonyOn

def setVideoHdr (params : Params) : Params :=
  match api.get params keySonyVideoHdr, api.get params keyVideoHdr with
  | some _, some videoHdr => api.set params keySonyVideoHdr videoHdr
  | _, _ => params

/-- While recording, the video stabiliser is used instead of the image stabiliser. -/
def setStabiliser (params : Params) : Params :=
  if api.get params keyRecordingHint = some "true" then
    let sonyVs := match api.get params keySonyVideoStabiliserValues with
      | some values =>
        if strstr values valueSonyIntelligentActive then valueSonyIntelligentActive
        else valueSonyOff
      | none => valueSonyOff
    api.set (api.set params keySonyVideoStabiliser sonyVs) keySonyImageStabiliser valueSonyOff
  else params

def cameraFixupSetparams (_id : ℤ) (settings : String) : Option String := do
  let params := api.unflatten settings
  let params ← setShutterSpeed api params
  let params ← setIsoMode api params
  let params := setSceneMode api params
  let params := setVideoHdr api params
  let params := setStabiliser api params
  return api.flatten params

end Functions

/-! ### What each block does to the settings -/

section Blocks

variable {Params : Type} {api : CameraParameters Params}

/-- Only the parameters with these keys differ. -/
def SameExcept (api : CameraParameters Params) (keys : List String) (p p' : Params) : Prop :=
  ∀ key, key ∉ keys → api.get p' key = api.get p key

theorem SameExcept.refl (keys : List String) (p : Params) : SameExcept api keys p p :=
  fun _ _ => rfl

theorem SameExcept.trans {keys keys' : List String} {p p' p'' : Params}
    (h : SameExcept api keys p p')
    (h' : SameExcept api keys' p' p'') : SameExcept api (keys ++ keys') p p'' := by
  intro key hkey
  rw [List.mem_append, not_or] at hkey
  rw [h' key hkey.2, h key hkey.1]

theorem SameExcept.mono {keys keys' : List String} {p p' : Params} (h : SameExcept api keys p p')
    (hsub : keys ⊆ keys') : SameExcept api keys' p p' :=
  fun key hkey => h key fun hmem => hkey (hsub hmem)

namespace CameraParameters.Lawful

variable (hapi : api.Lawful)
include hapi

theorem sameExcept_set (p : Params) (key value : String) :
    SameExcept api [key] p (api.set p key value) :=
  fun other hother => hapi.get_set_of_ne p key value other fun h =>
    hother (List.mem_singleton.mpr h)

/-! #### On the way back -/

theorem capability_same (p : Params) :
    SameExcept api [keySupportedSceneModes] p (cameraFixupCapability api p) := by
  unfold cameraFixupCapability
  split
  · exact .refl _ _
  · split
    · exact hapi.sameExcept_set _ _ _
    · exact .refl _ _

theorem previewSize_same (id : ℤ) (p : Params) :
    SameExcept api [keyPreferredPreviewSizeForVideo] p (fixupPreviewSize api id p) := by
  unfold fixupPreviewSize
  split
  · exact hapi.sameExcept_set _ _ _
  · exact hapi.sameExcept_set _ _ _

theorem isoModes_same (p : Params) :
    SameExcept api [keySupportedIsoModes] p (fixupIsoModes api p) := by
  unfold fixupIsoModes
  split
  · exact .refl _ _
  · exact hapi.sameExcept_set _ _ _

theorem fixupSceneMode_same (p : Params) :
    SameExcept api [keySceneMode] p (fixupSceneMode api p) := by
  unfold fixupSceneMode
  split
  · exact .refl _ _
  · split
    · exact hapi.sameExcept_set _ _ _
    · exact .refl _ _

theorem fixupVideoHdr_same (p : Params) :
    SameExcept api [keyVideoHdrValues, keyVideoHdr] p (fixupVideoHdr api p) := by
  unfold fixupVideoHdr
  split
  · exact (hapi.sameExcept_set _ _ _).trans (hapi.sameExcept_set _ _ _)
  · exact .refl _ _

/-- The scene mode that the image stabiliser stands for. -/
theorem fixupSceneMode_get {p : Params} {sonyIs sceneMode : String}
    (his : api.get p keySonyImageStabiliser = some sonyIs)
    (hscene : api.get p keySceneMode = some sceneMode) :
    api.get (fixupSceneMode api p) keySceneMode =
      some (if sonyIs = valueSonyStillHdr then "hdr" else sceneMode) := by
  unfold fixupSceneMode
  rw [his]
  dsimp only
  split
  · exact hapi.get_set p keySceneMode "hdr" (by decide) (by decide) (by decide)
  · exact hscene

end CameraParameters.Lawful

/-- The AE mode of the vendor for the two settings of the application. -/
def aeModeOf (iso shutterSpeed : String) : String :=
  if iso = "auto" then (if shutterSpeed = "auto" then "auto" else "shutter-prio")
  else (if shutterSpeed = "auto" then "iso-prio" else "manual")

/-- What the vendor is sent for the settings of the application. -/
structure Sent (api : CameraParameters Params) (iso shutterSpeed sceneMode : String)
    (p : Params) : Prop where
  aeModes : (api.get p keySonyAeModeValues).isSome
  aeMode : api.get p keySonyAeMode = some (aeModeOf iso shutterSpeed)
  sonyIso : ∃ sonyIso, api.get p keySonyIsoMode = some sonyIso ∧ Plain sonyIso ∧
    (iso ≠ "auto" → iso = "ISO" ++ sonyIso)
  sonyShutterSpeed : shutterSpeed ≠ "auto" →
    api.get p keySonyShutterSpeed = some shutterSpeed ∧ Plain shutterSpeed
  scene : ∃ sonyIs scene, api.get p keySonyImageStabiliser = some sonyIs ∧
    api.get p keySceneMode = some scene ∧
    (if sonyIs = valueSonyStillHdr then "hdr" else scene) = sceneMode

/-- The parameters that `Sent` is about. -/
def sentKeys : List String :=
  [keySonyAeModeValues, keySonyAeMode, keySonyIsoMode, keySonyShutterSpeed, keySonyImageStabiliser,
    keySceneMode]

/-- The scene mode may change if it still stands for the one of the application. -/
theorem Sent.congr_scene {p p' : Params} {keys : List String} {iso shutterSpeed sceneMode : String}
    (h : Sent api iso shutterSpeed sceneMode p) (hsame : SameExcept api keys p p')
    (hkeys : ∀ key ∈ sentKeys, key ∈ keys → key = keySceneMode)
    (hscene : ∃ sonyIs scene, api.get p' keySonyImageStabiliser = some sonyIs ∧
      api.get p' keySceneMode = some scene ∧
      (if sonyIs = valueSonyStillHdr then "hdr" else scene) = sceneMode) :
    Sent api iso shutterSpeed sceneMode p' := by
  have heq : ∀ key ∈ sentKeys, key ≠ keySceneMode → api.get p' key = api.get p key :=
    fun key hmem hne => hsame key fun hkey => hne (hkeys key hmem hkey)
  -- all but the scene mode is as it was sent
  refine ⟨?_, ?_, ?_, fun hspeed => ?_, hscene⟩
  · rw [heq _ (by simp [sentKeys]) (by decide)]
    exact h.aeModes
  · rw [heq _ (by simp [sentKeys]) (by decide)]
    exact h.aeMode
  · rw [heq _ (by simp [sentKeys]) (by decide)]
    exact h.sonyIso
  · rw [heq _ (by simp [sentKeys]) (by decide)]
    exact h.sonyShutterSpeed hspeed

theorem Sent.congr {p p' : Params} {keys : List String} {iso shutterSpeed sceneMode : String}
    (h : Sent api iso shutterSpeed sceneMode p) (hsame : SameExcept api keys p p')
    (hkeys : ∀ key ∈ sentKeys, key ∉ keys) : Sent api iso shutterSpeed sceneMode p' := by
  obtain ⟨sonyIs, scene, his, hscene, hif⟩ := h.scene
  refine h.congr_scene hsame (fun key hmem hkey => absurd hkey (hkeys key hmem))
    ⟨sonyIs, scene, ?_, ?_, hif⟩
  · rw [hsame _ (hkeys _ (by simp [sentKeys])), his]
  · rw [hsame _ (hkeys _ (by simp [sentKeys])), hscene]

/-- `Sent` depends only on what is found in the map. -/
theorem Sent.of_get_eq {p p' : Params} {iso shutterSpeed sceneMode : String}
    (h : Sent api iso shutterSpeed sceneMode p) (heq : ∀ key, api.get p' key = api.get p key) :
    Sent api iso shutterSpeed sceneMode p' :=
  @Sent.congr _ _ p p' [] _ _ _ h (fun key _ => heq key) (fun _ _ => List.not_mem_nil)

/-- The settings of the application: its ISO mode, its shutter speed and its scene mode, as they
stand in the map under the keys of the framework. -/
structure Settings (api : CameraParameters Params) (iso shutterSpeed sceneMode : String)
    (p : Params) :
    Prop where
  iso : api.get p keyIsoMode = some iso
  shutterSpeed : api.get p keyShutterSpeed = some shutterSpeed
  sceneMode : api.get p keySceneMode = some sceneMode

namespace CameraParameters.Lawful

variable (hapi : api.Lawful)
include hapi

/-- The ISO mode of the vendor comes back with "ISO" before it. -/
theorem copyIsoMode_get {p : Params} {sonyIso : String}
    (h : api.get p keySonyIsoMode = some sonyIso) (hplain : Plain sonyIso) :
    ∃ p', copyIsoMode api p = some p' ∧ api.get p' keyIsoMode = some ("ISO" ++ sonyIso) ∧
      SameExcept api [keyIsoMode] p p' := by
  refine ⟨api.set p keyIsoMode ("ISO" ++ sonyIso), ?_, ?_, hapi.sameExcept_set _ _ _⟩
  · unfold copyIsoMode
    rw [h]
    rfl
  · have hiso : Plain ("ISO" ++ sonyIso) := Plain.append (by decide) hplain
    exact hapi.get_set _ _ _ (by decide) hiso (by simp)

theorem copyShutterSpeed_get {p : Params} {shutterSpeed : String}
    (h : api.get p keySonyShutterSpeed = some shutterSpeed) (hplain : Plain shutterSpeed) :
    api.get (copyShutterSpeed api p) keyShutterSpeed = some shutterSpeed ∧
      SameExcept api [keyShutterSpeed] p (copyShutterSpeed api p) := by
  unfold copyShutterSpeed
  rw [h]
  exact ⟨hapi.get_set _ _ _ (by decide) hplain (hapi.get_ne_empty _ _ _ h),
    hapi.sameExcept_set _ _ _⟩

/-- **The AE mode of the vendor says which settings there were.** Each of the four AE modes stands
for one combination of an ISO mode and a shutter speed that are "auto" or not, and reading it sets
these two back. -/
theorem fixupAeMode_get {p : Params} {iso shutterSpeed sceneMode : String}
    (h : Sent api iso shutterSpeed sceneMode p) :
    ∃ p', fixupAeMode api p = some p' ∧ api.get p' keyIsoMode = some iso ∧
      api.get p' keyShutterSpeed = some shutterSpeed ∧
      SameExcept api [keyIsoMode, keyShutterSpeed] p p' := by
  obtain ⟨sonyIso, hsony, hplain, hiso⟩ := h.sonyIso
  have hsome : (api.get p keySonyIsoMode).isSome = true := by rw [hsony]; rfl
  have hauto : Plain "auto" := by decide
  have hswap : [keyShutterSpeed, keyIsoMode] ⊆ [keyIsoMode, keyShutterSpeed] := by simp
  -- both parameters are there, so the AE mode is read
  unfold fixupAeMode
  rw [if_pos hsome, if_pos h.aeModes, h.aeMode]
  unfold aeModeOf
  -- one case for each of the four AE modes
  by_cases hisoAuto : iso = "auto"
  · by_cases hspeedAuto : shutterSpeed = "auto"
    · subst hisoAuto hspeedAuto
      refine ⟨api.set (api.set p keyIsoMode "auto") keyShutterSpeed "auto", by simp, ?_, ?_, ?_⟩
      · rw [hapi.get_set_of_ne _ _ _ _ (by decide)]
        exact hapi.get_set _ _ _ (by decide) hauto (by decide)
      · exact hapi.get_set _ _ _ (by decide) hauto (by decide)
      · exact (hapi.sameExcept_set _ _ _).trans (hapi.sameExcept_set _ _ _)
    · -- the shutter speed is copied, which is where it was sent to
      obtain ⟨hspeed, hspeedPlain⟩ := h.sonyShutterSpeed hspeedAuto
      subst hisoAuto
      have hspeed' : api.get (api.set p keyIsoMode "auto") keySonyShutterSpeed =
          some shutterSpeed := by
        rw [hapi.get_set_of_ne _ _ _ _ (by decide)]
        exact hspeed
      obtain ⟨hget, hsame⟩ := hapi.copyShutterSpeed_get hspeed' hspeedPlain
      refine ⟨copyShutterSpeed api (api.set p keyIsoMode "auto"),
        by simp [hspeedAuto], ?_, hget, ?_⟩
      · rw [hsame keyIsoMode (by decide)]
        exact hapi.get_set _ _ _ (by decide) hauto (by decide)
      · exact (hapi.sameExcept_set _ _ _).trans hsame
  · -- with an ISO mode the one of the vendor is copied back, and the prefix put in front
    have hisoEq := hiso hisoAuto
    by_cases hspeedAuto : shutterSpeed = "auto"
    · subst hspeedAuto
      obtain ⟨p', hcopy, hget, hsame⟩ := hapi.copyIsoMode_get hsony hplain
      refine ⟨api.set p' keyShutterSpeed "auto", by simp [hisoAuto, hcopy], ?_, ?_, ?_⟩
      · rw [hapi.get_set_of_ne _ _ _ _ (by decide), hget, ← hisoEq]
      · exact hapi.get_set _ _ _ (by decide) hauto (by decide)
      · exact hsame.trans (hapi.sameExcept_set _ _ _)
    · -- both are copied, the shutter speed first
      obtain ⟨hspeed, hspeedPlain⟩ := h.sonyShutterSpeed hspeedAuto
      obtain ⟨hgetSpeed, hsameSpeed⟩ := hapi.copyShutterSpeed_get hspeed hspeedPlain
      have hsony' : api.get (copyShutterSpeed api p) keySonyIsoMode = some sonyIso := by
        rw [hsameSpeed keySonyIsoMode (by decide)]
        exact hsony
      obtain ⟨p', hcopy, hget, hsame⟩ := hapi.copyIsoMode_get hsony' hplain
      refine ⟨p', by simp [hisoAuto, hspeedAuto, hcopy], ?_, ?_, ?_⟩
      · rw [hget, ← hisoEq]
      · rw [hsame keyShutterSpeed (by decide), hgetSpeed]
      · exact (hsameSpeed.trans hsame).mono hswap

/-- The image stabiliser restores the scene mode. -/
theorem fixupSceneMode_sent {p : Params} {iso shutterSpeed sceneMode : String}
    (h : Sent api iso shutterSpeed sceneMode p) :
    Sent api iso shutterSpeed sceneMode (fixupSceneMode api p) ∧
      api.get (fixupSceneMode api p) keySceneMode = some sceneMode := by
  obtain ⟨sonyIs, scene, his, hscene, hif⟩ := h.scene
  have hget := hapi.fixupSceneMode_get his hscene
  rw [hif] at hget
  have hsame := hapi.fixupSceneMode_same p
  refine ⟨h.congr_scene hsame (fun key _ => List.mem_singleton.mp)
    ⟨sonyIs, sceneMode, ?_, hget, ?_⟩, hget⟩
  · rw [hsame _ (by decide)]
    exact his
  · rw [← hif]
    split <;> rfl

/-- The blocks before the AE mode keep what the vendor was sent, and restore the scene mode. -/
theorem blocks_sent {p : Params} {iso shutterSpeed sceneMode : String}
    (h : Sent api iso shutterSpeed sceneMode p) (id : ℤ) :
    let p' := fixupVideoHdr api (fixupSceneMode api (fixupIsoModes api (fixupPreviewSize api id
      (cameraFixupCapability api p))))
    Sent api iso shutterSpeed sceneMode p' ∧ api.get p' keySceneMode = some sceneMode := by
  intro p'
  have hlists :=
    ((hapi.capability_same p).trans (hapi.previewSize_same id _)).trans (hapi.isoModes_same _)
  -- the first three blocks only write lists, the last one only the video HDR mode
  obtain ⟨hsent, hscene⟩ := hapi.fixupSceneMode_sent (h.congr hlists (by decide))
  have hhdr :=
    hapi.fixupVideoHdr_same (fixupSceneMode api (fixupIsoModes api (fixupPreviewSize api id
    (cameraFixupCapability api p))))
  refine ⟨hsent.congr hhdr (by decide), ?_⟩
  rw [hhdr _ (by decide)]
  exact hscene

/-- **The way back.** What was sent to the vendor comes back as the settings of the application. -/
theorem getparams_settings (id : ℤ) {stored : String} {iso shutterSpeed sceneMode : String}
    (h : Sent api iso shutterSpeed sceneMode (api.unflatten stored)) :
    ∃ returned, getparamsValues api id stored = some returned ∧
      Settings api iso shutterSpeed sceneMode (api.unflatten returned) := by
  obtain ⟨hsent, hscene⟩ := hapi.blocks_sent h id
  obtain ⟨p', hae, hiso, hspeed, hsame⟩ := hapi.fixupAeMode_get hsent
  refine ⟨api.flatten p', ?_, ?_, ?_, ?_⟩
  · unfold getparamsValues
    simp only [Option.bind_eq_bind, hae]
    rfl
  · rw [hapi.get_unflatten, hiso]
  · rw [hapi.get_unflatten, hspeed]
  · rw [hapi.get_unflatten, hsame _ (by decide), hscene]

/-! #### On the way to the vendor -/

/-- The AE mode after the shutter speed: "shutter-prio", or "auto". -/
theorem setShutterSpeed_get {p : Params} {shutterSpeed aeModes : String}
    (h : api.get p keyShutterSpeed = some shutterSpeed) (hplain : Plain shutterSpeed)
    (hmodes : api.get p keySonyAeModeValues = some aeModes) (hauto : strstr aeModes "auto") :
    ∃ p', setShutterSpeed api p = some p' ∧
      api.get p' keySonyAeMode = some (if shutterSpeed = "auto" then "auto" else "shutter-prio") ∧
      (shutterSpeed ≠ "auto" → api.get p' keySonyShutterSpeed = some shutterSpeed) ∧
      SameExcept api [keySonyShutterSpeed, keySonyAeMode] p p' := by
  -- "auto" leaves the old shutter speed where it is: the AE mode says not to use it
  unfold setShutterSpeed
  rw [h]
  -- for "auto" only the AE mode is set
  by_cases hspeed : shutterSpeed = "auto"
  · refine ⟨api.set p keySonyAeMode "auto",
      by simp [hspeed, hmodes, hauto], ?_, fun hne => absurd hspeed hne, ?_⟩
    · rw [if_pos hspeed]
      exact hapi.get_set _ _ _ (by decide) (by decide) (by decide)
    · exact (hapi.sameExcept_set _ _ _).mono (by simp)
  · -- any other shutter speed is sent too
    refine ⟨api.set (api.set p keySonyShutterSpeed shutterSpeed) keySonyAeMode "shutter-prio",
      by simp [hspeed], ?_, fun _ => ?_, ?_⟩
    · rw [if_neg hspeed]
      exact hapi.get_set _ _ _ (by decide) (by decide) (by decide)
    · rw [hapi.get_set_of_ne _ _ _ _ (by decide)]
      exact hapi.get_set _ _ _ (by decide) hplain (hapi.get_ne_empty _ _ _ h)
    · exact (hapi.sameExcept_set _ _ _).trans (hapi.sameExcept_set _ _ _)

/-- The AE mode after the ISO mode. It was set for the shutter speed before, and now becomes the one
of the four that stands for both settings. -/
theorem setAeMode_get {p : Params} {iso shutterSpeed aeModes : String}
    (hae : api.get p keySonyAeMode = some (if shutterSpeed = "auto" then "auto"
      else "shutter-prio"))
    (hauto : strstr aeModes "auto") (hprio : strstr aeModes "iso-prio") :
    ∃ p', setAeMode api iso aeModes p = some p' ∧
      api.get p' keySonyAeMode = some (aeModeOf iso shutterSpeed) ∧
      SameExcept api [keySonyAeMode] p p' := by
  have hset : ∀ value, Plain value → value ≠ "" →
      api.get (api.set p keySonyAeMode value) keySonyAeMode = some value := by
    intro value hplain hne
    exact hapi.get_set _ _ _ (by decide) hplain hne
  have hsame : ∀ value, SameExcept api [keySonyAeMode] p (api.set p keySonyAeMode value) :=
    fun value => hapi.sameExcept_set _ _ _
  -- the two settings give the four AE modes
  unfold setAeMode aeModeOf
  by_cases hiso : iso = "auto"
  · by_cases hspeed : shutterSpeed = "auto"
    · -- both are "auto"
      rw [if_pos hspeed] at hae
      exact ⟨api.set p keySonyAeMode "auto", by simp [hiso, hauto, hae],
        by simpa [hiso, hspeed] using hset "auto" (by decide) (by decide), hsame _⟩
    · -- a shutter speed was set, and its mode stays
      rw [if_neg hspeed] at hae
      exact ⟨p, by simp [hiso, hauto, hae], by simpa [hiso, hspeed] using hae, .refl _ _⟩
  · by_cases hspeed : shutterSpeed = "auto"
    · -- an ISO mode without a shutter speed
      rw [if_pos hspeed] at hae
      exact ⟨api.set p keySonyAeMode "iso-prio", by simp [hiso, hprio, hae],
        by simpa [hiso, hspeed] using hset "iso-prio" (by decide) (by decide), hsame _⟩
    · -- an ISO mode and a shutter speed
      rw [if_neg hspeed] at hae
      exact ⟨api.set p keySonyAeMode "manual", by simp [hiso, hprio, hae],
        by simpa [hiso, hspeed] using hset "manual" (by decide) (by decide), hsame _⟩

omit hapi in
theorem skipIso_append (v : String) : skipIso ("ISO" ++ v) = some v := by
  have hlen : "ISO".length = 3 := by decide
  unfold skipIso
  rw [String.length_append, hlen, if_pos (Nat.le_add_right 3 v.length)]
  simp

/-- The ISO mode of the vendor and the AE mode after the ISO mode of the application. With "auto"
the ISO mode of the vendor stays; otherwise it is the setting without its first three letters. -/
theorem setIsoMode_get {p : Params} {iso shutterSpeed aeModes sonyIso : String}
    (h : api.get p keyIsoMode = some iso) (hiso : iso = "auto" ∨ ∃ v, v ≠ "" ∧ iso = "ISO" ++ v)
    (hplain : Plain iso) (hsony : api.get p keySonyIsoMode = some sonyIso)
    (hsonyPlain : Plain sonyIso)
    (hmodes : api.get p keySonyAeModeValues = some aeModes)
    (hae : api.get p keySonyAeMode = some (if shutterSpeed = "auto" then "auto"
      else "shutter-prio"))
    (hauto : strstr aeModes "auto") (hprio : strstr aeModes "iso-prio") :
    ∃ p', setIsoMode api p = some p' ∧ api.get p' keySonyAeMode = some (aeModeOf iso shutterSpeed) ∧
      (∃ sonyIso, api.get p' keySonyIsoMode = some sonyIso ∧ Plain sonyIso ∧
        (iso ≠ "auto" → iso = "ISO" ++ sonyIso)) ∧
      SameExcept api [keySonyIsoMode, keySonyAeMode] p p' := by
  -- with "auto" the ISO mode of the vendor stays; else it is the setting without "ISO"
  by_cases hisoAuto : iso = "auto"
  · obtain ⟨p', hset, hget, hsame⟩ := @setAeMode_get _ _ hapi p iso _ _ hae hauto hprio
    refine ⟨p', ?_, hget, ⟨sonyIso, ?_, hsonyPlain, fun hne => absurd hisoAuto hne⟩,
      hsame.mono (by simp)⟩
    · unfold setIsoMode
      rw [h]
      simp [hisoAuto, hmodes, ← hset]
    · rw [hsame _ (by decide), hsony]
  · -- the setting begins with "ISO", and what is behind it is sent
    obtain ⟨v, hv, rfl⟩ := hiso.resolve_left hisoAuto
    have hvPlain := hplain.of_append
    have hskip := skipIso_append v
    have hsame₁ := hapi.sameExcept_set p keySonyIsoMode v
    have hae₁ := (hsame₁ keySonyAeMode (by decide)).trans hae
    have hmodes₁ := (hsame₁ keySonyAeModeValues (by decide)).trans hmodes
    -- the AE mode is set after the ISO mode, which it does not concern
    obtain ⟨p', hset, hget, hsame⟩ := @setAeMode_get _ _ hapi _ ("ISO" ++ v) _ _ hae₁ hauto hprio
    refine ⟨p', ?_, hget, ⟨v, ?_, hvPlain, fun _ => rfl⟩, hsame₁.trans hsame⟩
    · unfold setIsoMode
      rw [h]
      simp [hisoAuto, hskip, hmodes₁, hset]
    · rw [hsame _ (by decide)]
      exact hapi.get_set _ _ _ (by decide) hvPlain hv

/-- The image stabiliser stands for the scene mode. -/
theorem setSceneMode_get {p : Params} {sceneMode : String}
    (h : api.get p keySceneMode = some sceneMode) :
    (∃ sonyIs scene, api.get (setSceneMode api p) keySonyImageStabiliser = some sonyIs ∧
      api.get (setSceneMode api p) keySceneMode = some scene ∧
      (if sonyIs = valueSonyStillHdr then "hdr" else scene) = sceneMode) ∧
    SameExcept api [keySonyImageStabiliser, keySceneMode] p (setSceneMode api p) := by
  unfold setSceneMode
  rw [h]
  dsimp only
  -- "hdr" is a mode of the stabiliser of the vendor
  by_cases hhdr : sceneMode = "hdr"
  · rw [if_pos hhdr]
    refine ⟨⟨valueSonyStillHdr, "auto", ?_, ?_, ?_⟩,
      (hapi.sameExcept_set _ _ _).trans (hapi.sameExcept_set _ _ _)⟩
    · rw [hapi.get_set_of_ne _ _ _ _ (by decide)]
      exact hapi.get_set _ _ _ (by decide) (by decide) (by decide)
    · exact hapi.get_set _ _ _ (by decide) (by decide) (by decide)
    · rw [if_pos rfl, hhdr]
  · -- any other scene mode stays, and the stabiliser is on
    rw [if_neg hhdr]
    refine ⟨⟨valueSonyOn, sceneMode, ?_, ?_, ?_⟩, (hapi.sameExcept_set _ _ _).mono (by simp)⟩
    · exact hapi.get_set _ _ _ (by decide) (by decide) (by decide)
    · rw [hapi.get_set_of_ne _ _ _ _ (by decide)]
      exact h
    · exact if_neg (by decide)

theorem setVideoHdr_same (p : Params) : SameExcept api [keySonyVideoHdr] p (setVideoHdr api p) := by
  unfold setVideoHdr
  split
  · exact hapi.sameExcept_set _ _ _
  · exact .refl _ _

/-- **The way to the vendor.** The blocks are followed in their order: each finds what it reads
where the blocks before it left it, and the last ones do not concern the exposure. At the end the
map is flattened, which changes no value. -/
theorem setparams_sent (id : ℤ) {settings : String}
    {iso shutterSpeed sceneMode aeModes sonyIso : String}
    (h : Settings api iso shutterSpeed sceneMode (api.unflatten settings))
    (hplain : ∀ key value, api.get (api.unflatten settings) key = some value → Plain value)
    (hiso : iso = "auto" ∨ ∃ v, v ≠ "" ∧ iso = "ISO" ++ v)
    (hmodes : api.get (api.unflatten settings) keySonyAeModeValues = some aeModes)
    (hauto : strstr aeModes "auto") (hprio : strstr aeModes "iso-prio")
    (hsony : api.get (api.unflatten settings) keySonyIsoMode = some sonyIso)
    (hrecording : api.get (api.unflatten settings) keyRecordingHint ≠ some "true") :
    ∃ sent, cameraFixupSetparams api id settings = some sent ∧
      Sent api iso shutterSpeed sceneMode (api.unflatten sent) := by
  -- the blocks in order: each finds what it reads where the blocks before it left it
  have hspeedPlain := hplain _ _ h.shutterSpeed
  obtain ⟨p₁, hset₁, hae₁, hspeed₁, hsame₁⟩ :=
    hapi.setShutterSpeed_get h.shutterSpeed hspeedPlain hmodes hauto
  obtain ⟨p₂, hset₂, hae₂, hsony₂, hsame₂⟩ := hapi.setIsoMode_get
    ((hsame₁ keyIsoMode (by decide)).trans h.iso) hiso (hplain _ _ h.iso)
    ((hsame₁ keySonyIsoMode (by decide)).trans hsony) (hplain _ _ hsony)
    ((hsame₁ keySonyAeModeValues (by decide)).trans hmodes) hae₁ hauto hprio
  -- the two blocks before leave the scene mode
  have hscene₂ : api.get p₂ keySceneMode = some sceneMode := by
    rw [hsame₂ _ (by decide), hsame₁ _ (by decide), h.sceneMode]
  obtain ⟨hscene₃, hsame₃⟩ := hapi.setSceneMode_get hscene₂
  have hsent₃ : Sent api iso shutterSpeed sceneMode (setSceneMode api p₂) := by
    -- all five values are there after the third block
    refine ⟨?_, ?_, ?_, fun hspeed => ⟨?_, hspeedPlain⟩, hscene₃⟩
    · rw [hsame₃ _ (by decide), hsame₂ _ (by decide), hsame₁ _ (by decide), hmodes]
      rfl
    · rw [hsame₃ _ (by decide), hae₂]
    · rw [hsame₃ _ (by decide)]
      exact hsony₂
    · rw [hsame₃ _ (by decide), hsame₂ _ (by decide), hspeed₁ hspeed]
  -- the two blocks that are left do not concern them
  have hsame₄ := hapi.setVideoHdr_same (setSceneMode api p₂)
  have hsent₄ := hsent₃.congr hsame₄ (by decide)
  -- the recording hint is still not "true"
  have hhint : api.get (setVideoHdr api (setSceneMode api p₂)) keyRecordingHint ≠ some "true" := by
    rw [hsame₄ _ (by decide), hsame₃ _ (by decide), hsame₂ _ (by decide), hsame₁ _ (by decide)]
    exact hrecording
  have hstab : setStabiliser api (setVideoHdr api (setSceneMode api p₂)) =
      setVideoHdr api (setSceneMode api p₂) := by
    unfold setStabiliser
    rw [if_neg hhint]
  -- the map is flattened at the end, which changes no value
  refine ⟨api.flatten (setVideoHdr api (setSceneMode api p₂)), ?_, ?_⟩
  · unfold cameraFixupSetparams
    simp only [Option.bind_eq_bind, hset₁, Option.bind_some, hset₂, hstab]
    rfl
  · exact hsent₄.of_get_eq fun key => hapi.get_unflatten _ key

end CameraParameters.Lawful

end Blocks

end Camera

end BlueCommon
