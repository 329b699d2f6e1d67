import BlueCommon.Camera.Exposure

/-!
# Settings that are set and read back

An application sets the ISO mode, the shutter speed and the scene mode, and reads them back from a
vendor that stores what it is sent.

* `SetByApplication`: the settings, in a map with the four AE modes of the vendor.
* `exposure_round_trip_iff`: they come back if and only if the ISO mode is "auto" and the lists of
  the map fit in their arrays. With another ISO mode the vendor's one is copied, into an array that
  is always too short for it.
-/

namespace BlueCommon

namespace Camera

section RoundTrip

variable {Params : Type} {api : CameraParameters Params}
  {memory : (size : ℕ) → Vector Char size} {iso shutterSpeed sceneMode : String}

/-- The settings of an application in the map of a vendor with its four AE modes. Nothing is being
recorded. -/
structure SetByApplication (api : CameraParameters Params) (iso shutterSpeed sceneMode : String)
    (p : Params) : Prop where
  settings : Settings api iso shutterSpeed sceneMode p
  iso : iso = "auto" ∨ ∃ v, v ≠ "" ∧ iso = "ISO" ++ v
  plain : ∀ key value, api.get p key = some value → Plain value
  strings : CStrings api p
  aeModes : ∃ aeModes, api.get p keySonyAeModeValues = some aeModes ∧
    ∀ aeMode ∈ ["auto", "iso-prio", "shutter-prio", "manual"], strstr aeModes aeMode
  aeMode : (api.get p keySonyAeMode).isSome
  sonyIso : (api.get p keySonyIsoMode).isSome
  notRecording : api.get p keyRecordingHint ≠ some "true"

/-- The vendor's ISO mode is not copied for "auto", and for nothing else. -/
theorem noIsoCopy_sent_iff {p : Params} (h : Sent api iso shutterSpeed sceneMode p) :
    NoIsoCopy (api.get p keySonyIsoMode) (api.get p keySonyAeModeValues)
      (api.get p keySonyAeMode) ↔ iso = "auto" := by
  obtain ⟨sonyIso, hsony, -⟩ := h.sonyIso
  unfold NoIsoCopy
  -- the two parameters are there, so the condition is about the AE mode
  rw [h.aeMode, hsony, forall_prop_of_true (Option.isSome_some), forall_prop_of_true h.aeModes]
  unfold aeModeOf
  by_cases hiso : iso = "auto"
  · -- the two AE modes of "auto" copy nothing
    rw [if_pos hiso]
    refine iff_of_true ?_ hiso
    split
    · exact ⟨by decide, by decide⟩
    · exact ⟨by decide, by decide⟩
  · -- both AE modes of another ISO mode copy it
    rw [if_neg hiso]
    refine iff_of_false (fun hboth => ?_) hiso
    split at hboth
    · exact hboth.1 rfl
    · exact hboth.2 rfl

/-- What the vendor is sent, and when it can be read back. -/
theorem SetByApplication.sent (hapi : api.Refuses) (id : ℤ) {settings : String}
    (h : SetByApplication api iso shutterSpeed sceneMode (api.unflatten settings)) :
    ∃ sent, cameraFixupSetparams api id settings = some sent ∧
      Sent api iso shutterSpeed sceneMode (api.unflatten sent) ∧
      ∀ memory stored returned,
        (∀ key, api.get (api.unflatten stored) key = api.get (api.unflatten sent) key) →
        (cameraFixupGetparamsBuffers api memory id stored = some returned ↔
          (lists api (api.unflatten settings)).Fit ∧ iso = "auto" ∧
            getparamsValues api id stored = some returned) := by
  -- the vendor offers all of the AE modes, and has an ISO mode
  obtain ⟨aeModes, hmodes, hlisted⟩ := h.aeModes
  obtain ⟨sonyIso, hsony⟩ := Option.isSome_iff_exists.mp h.sonyIso
  obtain ⟨sent, hset, hsent⟩ := hapi.setparams_sent id h.settings h.plain h.iso hmodes
    (hlisted "auto" (by simp)) (hlisted "iso-prio" (by simp)) hsony h.notRecording
  refine ⟨sent, hset, hsent, fun memory stored returned hstored => ?_⟩
  -- the lists are stored as the application found them
  have hlists : lists api (api.unflatten stored) = lists api (api.unflatten settings) := by
    have hsame := hapi.setparams_same hset
    unfold lists
    rw [hstored, hstored, hstored, hstored, hsame _ (by decide), hsame _ (by decide),
      hsame _ (by decide), hsame _ (by decide)]
  have hstrings : (lists api (api.unflatten stored)).Strings := hlists ▸ h.strings.lists
  -- the three conditions are put in the order of the statement
  rw [getparamsBuffers_eq_some_iff hapi hstrings, noIsoCopy_sent_iff (hsent.of_get_eq hstored),
    ← and_assoc, ← hlists]
  rfl

/-- **When the exposure settings survive the wrapper.** The vendor stores the map it is sent; it may
write the map in another way. The settings come back exactly if the ISO is `auto` and both lists fit
the arrays of the wrapper: for every other ISO the copy of the mode is written beyond its block. -/
theorem exposure_round_trip_iff (hapi : api.Refuses) (id : ℤ) {settings : String}
    (h : SetByApplication api iso shutterSpeed sceneMode (api.unflatten settings)) :
    (∃ sent, cameraFixupSetparams api id settings = some sent ∧
      ∀ stored, (∀ key, api.get (api.unflatten stored) key = api.get (api.unflatten sent) key) →
        ∃ returned, cameraFixupGetparamsBuffers api memory id stored = some returned ∧
          Settings api iso shutterSpeed sceneMode (api.unflatten returned)) ↔
      iso = "auto" ∧
        IsoModesFit (api.get (api.unflatten settings) keySonyIsoAvailModes) ∧
        SceneModesFit (api.get (api.unflatten settings) keySonyImageStabiliserValues)
          (api.get (api.unflatten settings) keySupportedSceneModes) := by
  obtain ⟨sent, hset, hsent, hread⟩ := h.sent hapi id
  constructor
  · -- the parameters that come back were read, so the arrays were large enough
    rintro ⟨sent', hset', hback⟩
    obtain rfl := Option.some.inj (hset.symm.trans hset')
    obtain ⟨returned, hreturned, -⟩ := hback sent fun _ => rfl
    obtain ⟨⟨hscenes, hisoModes⟩, hauto, -⟩ :=
      (hread memory sent returned fun _ => rfl).mp hreturned
    exact ⟨hauto, hisoModes, hscenes⟩
  · -- the other way the call returns, and gives what the strings give
    rintro ⟨hauto, hisoModes, hscenes⟩
    refine ⟨sent, hset, fun stored hstored => ?_⟩
    -- over strings the settings always come back
    obtain ⟨returned, hvalues, hsettings⟩ :=
      hapi.getparams_settings id (hsent.of_get_eq hstored)
    exact ⟨returned, (hread memory stored returned hstored).mpr
      ⟨⟨hscenes, hisoModes⟩, hauto, hvalues⟩, hsettings⟩

end RoundTrip

/-- A picture with a shutter speed of 1/30, of a vendor with an HDR mode and two ISO modes. -/
def picture (iso : String) : ParameterMap :=
  { entries :=
      [("scene-mode", "hdr"), ("scene-mode-values", "auto,night"), ("shutter-speed", "1/30"),
        ("sony-ae-mode", "auto"), ("sony-ae-mode-values", "auto,iso-prio,shutter-prio,manual"),
        ("sony-is-values", "on,on-still-hdr"), ("sony-iso", "100"), ("sony-iso-values", "100,800")]
    sorted := by
      unfold KeyValues.Sorted
      decide
    plain := by decide : ParameterMap }.set keyIsoMode iso

/-- What is looked up in the picture, for an ISO mode that can be set. The map that is read back
from the flat text has the same values, as no value has a separator in it. -/
theorem setByApplication_picture {iso : String}
    (hiso : iso = "auto" ∨ ∃ v, v ≠ "" ∧ iso = "ISO" ++ v)
    (hget : (picture iso).get keyIsoMode = some iso ∧
      (picture iso).get keyShutterSpeed = some "1/30" ∧
      (picture iso).get keySceneMode = some "hdr" ∧
      (picture iso).get keySonyAeModeValues = some "auto,iso-prio,shutter-prio,manual" ∧
      (picture iso).get keySonyAeMode = some "auto" ∧
      (picture iso).get keySonyIsoMode = some "100" ∧
      (picture iso).get keyRecordingHint = none)
    (hentries : ∀ e ∈ (picture iso).entries, Plain e.2 ∧ nul ∉ e.2.toList) :
    SetByApplication parameterMap iso "1/30" "hdr"
      (parameterMap.unflatten (parameterMap.flatten (picture iso))) := by
  obtain ⟨hisoMode, hspeed, hscene, hmodes, hmode, hsony, hrecording⟩ := hget
  -- what is read back from the flat text is the picture
  have hread := parameterMap_lawful.get_unflatten (picture iso)
  refine ⟨⟨?_, ?_, ?_⟩, hiso, fun key v hv => ?_, ?_, ⟨_, (hread _).trans hmodes, by decide⟩,
    ?_, ?_, ?_⟩
  · exact (hread _).trans hisoMode
  · exact (hread _).trans hspeed
  · exact (hread _).trans hscene
  · -- every value can be written in the flat text
    rw [hread] at hv
    obtain ⟨e, he, rfl⟩ := ParameterMap.exists_entry_of_get hv
    exact (hentries e he).1
  · exact cStrings_of_entries fun e he => (hentries e he).2
  · exact Option.isSome_of_eq_some ((hread _).trans hmode)
  · exact Option.isSome_of_eq_some ((hread _).trans hsony)
  · rw [hread]
    exact fun h => nomatch hrecording.symm.trans h

theorem exposure_round_trip_iff_auto :
    ∃ sent, cameraFixupSetparams parameterMap 0 (parameterMap.flatten (picture "auto")) =
        some sent ∧
      ∀ stored, (∀ key, parameterMap.get (parameterMap.unflatten stored) key =
          parameterMap.get (parameterMap.unflatten sent) key) →
        ∃ returned, cameraFixupGetparamsBuffers parameterMap cleared 0 stored = some returned ∧
          Settings parameterMap "auto" "1/30" "hdr" (parameterMap.unflatten returned) := by
  have hread := parameterMap_lawful.get_unflatten (picture "auto")
  have hset := @setByApplication_picture "auto" (.inl rfl) (by decide) (by decide)
  refine (exposure_round_trip_iff parameterMap_refuses 0 hset).mpr
    ⟨rfl, fun v hv => ?_, fun _ => ?_⟩
  · -- the ISO modes of the picture fit
    have hisoModes : parameterMap.get (picture "auto") keySonyIsoAvailModes = some "100,800" := by
      decide
    rw [← Option.some.inj (((hread _).trans hisoModes).symm.trans hv)]
    decide
  · -- and so do its scene modes
    have hscenes : parameterMap.get (picture "auto") keySupportedSceneModes =
        some "auto,night" := by
      decide
    rw [(hread _).trans hscenes]
    decide

/-- With ISO 800 the settings are sent, and reading them back overruns an array. -/
theorem exposure_lost :
    SetByApplication parameterMap "ISO800" "1/30" "hdr"
        (parameterMap.unflatten (parameterMap.flatten (picture "ISO800"))) ∧
      ∃ sent, cameraFixupSetparams parameterMap 0 (parameterMap.flatten (picture "ISO800")) =
          some sent ∧
        ∀ memory, cameraFixupGetparamsBuffers parameterMap memory 0 sent = none := by
  have hset := @setByApplication_picture "ISO800" (.inr ⟨"800", by decide, by decide⟩) (by decide)
    (by decide)
  obtain ⟨sent, hsent, -, hread⟩ := hset.sent parameterMap_refuses 0
  refine ⟨hset, sent, hsent, fun memory => ?_⟩
  refine Option.eq_none_iff_forall_ne_some.mpr fun returned hreturned => ?_
  obtain ⟨-, hauto, -⟩ := (hread memory sent returned fun _ => rfl).mp hreturned
  exact absurd hauto (by decide)

end Camera

end BlueCommon
