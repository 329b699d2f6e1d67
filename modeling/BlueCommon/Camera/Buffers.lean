import BlueCommon.Camera.Lists
import BlueCommon.Lib.CharBuffers

/-!
# The buffers of the camera wrapper

`camera_fixup_getparams` formats the lists and the ISO mode in arrays of 512, of 255 and of
allocated characters. Here these arrays are there: a character is a byte, and a function is `none`
where the source accesses memory outside an array or through a null pointer.

* `cameraFixupGetparamsBuffers`: the function with its arrays.
* `isoBuffer_eq`: what the loop of the ISO modes leaves in its array.
* `copyIsoModeBuffer_eq_none`: the allocated array is always one character too short.
* `getparamsBuffers_eq_some_iff`: without a fault the arrays do not matter.
* `camera_lists_fit_iff`: when there is no fault and the lists are right.
-/

namespace BlueCommon

namespace Camera

open CharBuffers

def nul : Char := Char.ofNat 0

/-- `sprintf` of a string. -/
def sprintf (buffer : List Char) (s : String) : Option (List Char) :=
  write buffer 0 (s.toList ++ [nul])

/-- The string in an array. -/
def bufferString (buffer : List Char) : String := String.ofList (contents nul buffer)

/-- A round of the loop over the ISO modes: the array and `bufferPos`. -/
def isoStep (state : List Char × ℕ) (c : Char) : Option (List Char × ℕ) :=
  if c ≠ ',' then do
    let buffer ← put state.1 state.2 c
    return (buffer, state.2 + 1)
  else do
    let buffer ← strcat nul state.1 [',', 'I', 'S', 'O']
    return (buffer, state.2 + 4)

/-- The loop over the ISO modes and the `strcat` behind it. -/
def isoBuffer (isoModeList : String) : Option (List Char) := do
  let state ← isoModeList.toList.foldlM isoStep (filled nul 255 ['I', 'S', 'O'], 3)
  strcat nul state.1 [',', 'a', 'u', 't', 'o']

section Functions

variable {Params : Type} (api : CameraParameters Params) (memory : (size : ℕ) → Vector Char size)

/-- `camera_fixup_capability`. What is in the array before is in `memory`. -/
def capabilityBuffer (params : Params) : Option Params :=
  match api.get params keySonyImageStabiliserValues with
  | none => some params
  | some supportedIsModes =>
    if strstr supportedIsModes valueSonyStillHdr then do
      let supportedSceneModes := (api.get params keySupportedSceneModes).getD "(null)"
      let buffer ← sprintf (memory 512).toList (supportedSceneModes ++ ",hdr")
      return api.set params keySupportedSceneModes (bufferString buffer)
    else some params

/-- Fixes up the ISO mode list. -/
def isoModesBuffer (params : Params) : Option Params :=
  match api.get params keySonyIsoAvailModes with
  | none => some params
  | some isoModeList => do
    let buffer ← isoBuffer isoModeList
    return api.set params keySupportedIsoModes (bufferString buffer)

/-- The ISO mode of the vendor, in an array that is allocated for it. -/
def copyIsoModeBuffer (params : Params) : Option Params := do
  let sonyIso ← api.get params keySonyIsoMode
  let isoVal ← sprintf (memory (3 + sonyIso.length)).toList ("ISO" ++ sonyIso)
  return api.set params keyIsoMode (bufferString isoVal)

/-- The ISO and shutter-speed settings of the AE mode. -/
def aeModeBuffers (params : Params) : Option Params :=
  if (api.get params keySonyIsoMode).isSome then
    if (api.get params keySonyAeModeValues).isSome then do
      let aeMode ← api.get params keySonyAeMode
      if aeMode = "auto" then
        return api.set (api.set params keyIsoMode "auto") keyShutterSpeed "auto"
      else if aeMode = "iso-prio" then do
        let params ← copyIsoModeBuffer api memory params
        return api.set params keyShutterSpeed "auto"
      else if aeMode = "shutter-prio" then
        return copyShutterSpeed api (api.set params keyIsoMode "auto")
      else if aeMode = "manual" then
        copyIsoModeBuffer api memory (copyShutterSpeed api params)
      else
        return api.set (api.set params keyIsoMode "auto") keyShutterSpeed "auto"
    else return params
  else return params

/-- `camera_fixup_getparams`, with the arrays of the source: 512 bytes for the scene modes, 255 for
the ISO modes, and for a copied ISO mode the block of `malloc`, which is too small. The result is
`none` if the call writes outside of one of them or goes through a null pointer. -/
def cameraFixupGetparamsBuffers (id : ℤ) (settings : String) : Option String := do
  let params := api.unflatten settings
  let params ← capabilityBuffer api memory params
  let params := fixupPreviewSize api id params
  let params ← isoModesBuffer api params
  let params := fixupSceneMode api params
  let params := fixupVideoHdr api params
  let params ← aeModeBuffers api memory params
  return api.flatten params

end Functions

/-! ### The arrays -/

theorem length_isoChar (c : Char) : (isoChar c).length = if c ≠ ',' then 1 else 4 := by
  unfold isoChar
  split
  · rfl
  · rfl

theorem nul_notMem_isoChar {c : Char} (hc : nul ≠ c) : nul ∉ isoChar c := by
  unfold isoChar
  split
  · exact fun h => hc (List.mem_singleton.mp h)
  · decide

/-- **A round of the loop.** The array holds what has been written and is cleared behind it, and
`bufferPos` is the length of the string in it. A comma needs room for a terminator, too. -/
theorem isoStep_eq {size : ℕ} {s : List Char} (hs : nul ∉ s) (hsize : s.length ≤ size) (c : Char) :
    isoStep (filled nul size s, s.length) c =
      if (if c ≠ ',' then s.length else s.length + 4) < size then
        some (filled nul size (s ++ isoChar c), (s ++ isoChar c).length)
      else none := by
  rw [List.length_append, length_isoChar]
  unfold isoStep isoChar
  by_cases hc : c ≠ ','
  · simp only [if_pos hc, put_filled hsize]
    split <;> rfl
  · simp only [if_neg hc, strcat_filled hs hsize]
    split
    · rw [if_pos ‹_›]; rfl
    · rw [if_neg ‹_›]; rfl

/-- **The loop of the ISO modes and the `strcat` behind it.** In the array there is the list as far
as it was written, with terminators behind it. The writes stay in the array exactly if the whole
list with its last name is shorter than the array. -/
theorem isoLoop_eq {size : ℕ} {list s : List Char} (hlist : nul ∉ list) (hs : nul ∉ s)
    (hsize : s.length ≤ size) :
    ((list.foldlM isoStep (filled nul size s, s.length)).bind
        fun state => strcat nul state.1 [',', 'a', 'u', 't', 'o']) =
      if (s ++ list.flatMap isoChar ++ [',', 'a', 'u', 't', 'o']).length < size then
        some (filled nul size (s ++ list.flatMap isoChar ++ [',', 'a', 'u', 't', 'o']))
      else none := by
  -- induction on the list to be written
  induction list generalizing s with
  | nil =>
    -- the list is at its end, and the last name is put behind it
    show strcat nul (filled nul size s) _ = _
    rw [strcat_filled hs hsize, List.flatMap_nil, List.append_nil, List.length_append]
  | cons c list ih =>
    -- no character of the list is the one that ends a string
    obtain ⟨hc, hlist⟩ := not_or.mp (mt List.mem_cons.mpr hlist)
    have hs' : nul ∉ s ++ isoChar c :=
      fun h => (List.mem_append.mp h).elim hs (nul_notMem_isoChar hc)
    rw [List.foldlM_cons, isoStep_eq hs hsize, List.flatMap_cons, ← List.append_assoc s]
    by_cases hfits : (if c ≠ ',' then s.length else s.length + 4) < size
    · -- what has been written still fits
      have hsize' : (s ++ isoChar c).length ≤ size := by
        rw [List.length_append, length_isoChar]
        split at hfits
        case isTrue h => rw [if_pos h]; exact hfits
        case isFalse h => rw [if_neg h]; exact Nat.le_of_lt hfits
      rw [if_pos hfits]
      exact ih hlist hs' hsize'
    · -- then the whole list does not fit
      have hfull : size ≤ (s ++ isoChar c).length := by
        rw [List.length_append, length_isoChar]
        split at hfits
        case isTrue h => rw [if_pos h]; exact Nat.le_succ_of_le (Nat.not_lt.mp hfits)
        case isFalse h => rw [if_neg h]; exact Nat.not_lt.mp hfits
      rw [if_neg hfits, if_neg]
      · rfl
      · rw [List.length_append, List.length_append]
        omega

theorem isoBuffer_eq {v : String} (h : nul ∉ v.toList) :
    isoBuffer v = if (isoModes v).length < 255 then some (filled nul 255 (isoModes v).toList)
      else none := by
  have hloop := @isoLoop_eq 255 v.toList ['I', 'S', 'O'] h (by decide) (by decide)
  rw [← toList_isoModes, String.length_toList] at hloop
  exact hloop

theorem nul_notMem_isoModes {v : String} (h : nul ∉ v.toList) : nul ∉ (isoModes v).toList := by
  rw [toList_isoModes]
  simp only [List.mem_append, not_or, List.mem_flatMap]
  refine ⟨⟨by decide, ?_⟩, by decide⟩
  rintro ⟨c, hc, hnul⟩
  exact nul_notMem_isoChar (fun heq => h (heq ▸ hc)) hnul

theorem sprintf_eq_none {size : ℕ} {array : Vector Char size} {s : String} (h : size ≤ s.length) :
    sprintf array.toList s = none := by
  refine write_eq_none_of_le ?_
  rwa [Vector.length_toList, String.length_toList]

/-- A string that has been formatted is the one in the array, if it fits. -/
theorem sprintf_of_lt {size : ℕ} {array : Vector Char size} {s : String} (h : nul ∉ s.toList)
    (hfits : s.length < size) :
    ∃ buffer, sprintf array.toList s = some buffer ∧ bufferString buffer = s := by
  have hlength : s.toList.length < array.toList.length := by
    rwa [Vector.length_toList, String.length_toList]
  obtain ⟨buffer, hwrite, hcontents⟩ := contents_of_write h hlength
  exact ⟨buffer, hwrite, by rw [bufferString, hcontents, String.ofList_toList]⟩

/-! ### The blocks -/

section Blocks

variable {Params : Type} {api : CameraParameters Params}
  {memory : (size : ℕ) → Vector Char size} {p p' : Params}

/-- The values of the map are C strings: none has the terminator in it, as each was read from the
text that the vendor has returned. -/
def CStrings (api : CameraParameters Params) (p : Params) : Prop :=
  ∀ key v, api.get p key = some v → nul ∉ v.toList

/-- The lists that the arrays are for are C strings. -/
structure Lists.Strings (l : Lists) : Prop where
  sceneModes : ∀ v, l.sceneModes = some v → nul ∉ v.toList
  sonyIsoValues : ∀ v, l.sonyIsoValues = some v → nul ∉ v.toList

theorem CStrings.lists (hp : CStrings api p) : (Camera.lists api p).Strings :=
  ⟨hp keySupportedSceneModes, hp keySonyIsoAvailModes⟩

/-- The list of scene modes, with the one that is added to it, fits in its array with its
terminator. It is only written when the image stabiliser offers an HDR mode. -/
def SceneModesFit (sonyIsValues sceneModes : Option String) : Prop :=
  HasStillHdr sonyIsValues → (withHdr sceneModes).length < 512

/-- The list of ISO modes fits in its array with its terminator, after each of them was given its
prefix and "auto" was put behind them. -/
def IsoModesFit (sonyIsoValues : Option String) : Prop :=
  ∀ v, sonyIsoValues = some v → (isoModes v).length < 255

/-- Both lists fit. -/
def Lists.Fit (l : Lists) : Prop :=
  SceneModesFit l.sonyIsValues l.sceneModes ∧ IsoModesFit l.sonyIsoValues

/-- The ISO mode of the vendor is not copied. -/
def NoIsoCopy (sonyIso aeModeValues aeMode : Option String) : Prop :=
  sonyIso.isSome → aeModeValues.isSome → aeMode ≠ some "iso-prio" ∧ aeMode ≠ some "manual"

theorem nul_notMem_withHdr {sceneModes : Option String}
    (h : ∀ v, sceneModes = some v → nul ∉ v.toList) : nul ∉ (withHdr sceneModes).toList := by
  unfold withHdr
  rw [String.toList_append, List.mem_append, not_or]
  refine ⟨?_, by decide⟩
  cases sceneModes with
  | none => decide
  | some v => exact h v rfl

/-- The lists that are returned are C strings, too. -/
theorem Lists.Strings.fixedUp {l : Lists} (h : l.Strings) : l.fixedUp.Strings := by
  refine ⟨fun v hv => ?_, h.sonyIsoValues⟩
  change sceneModesAfter l.sonyIsValues l.sceneModes = some v at hv
  unfold sceneModesAfter at hv
  split at hv
  · exact Option.some.inj hv ▸ nul_notMem_withHdr h.sceneModes
  · exact h.sceneModes v hv

/-- The block of the scene modes returns exactly if the list fits the array, and then the map is the
one that is made without an array. Only the list of a vendor with still HDR is written to the
array. -/
theorem capabilityBuffer_eq_some_iff (hp : (lists api p).Strings) :
    capabilityBuffer api memory p = some p' ↔
      SceneModesFit (api.get p keySonyImageStabiliserValues) (api.get p keySupportedSceneModes) ∧
        cameraFixupCapability api p = p' := by
  unfold capabilityBuffer cameraFixupCapability SceneModesFit
  cases hm : api.get p keySonyImageStabiliserValues with
  -- without this parameter no list is written
  | none =>
    rw [and_iff_right fun h => absurd h not_hasStillHdr_none]
    exact Option.some_inj
  | some m =>
    dsimp only
    by_cases hstill : strstr m valueSonyStillHdr
    · rw [if_pos hstill, if_pos hstill]
      show ((sprintf (memory 512).toList (withHdr (api.get p keySupportedSceneModes))).bind
          fun buffer => some (api.set p keySupportedSceneModes (bufferString buffer))) = some p' ↔
        _ ∧ api.set p keySupportedSceneModes (withHdr (api.get p keySupportedSceneModes)) = p'
      by_cases hfits : (withHdr (api.get p keySupportedSceneModes)).length < 512
      · -- the array holds the list
        have hnul : nul ∉ (withHdr (api.get p keySupportedSceneModes)).toList :=
          nul_notMem_withHdr hp.sceneModes
        obtain ⟨buffer, hprint, hstring⟩ := @sprintf_of_lt 512 (memory 512) _ hnul hfits
        rw [hprint, Option.bind_some, hstring, and_iff_right fun _ => hfits]
        exact Option.some_inj
      · -- the array does not hold the list
        rw [sprintf_eq_none (Nat.not_lt.mp hfits)]
        exact iff_of_false (Option.some_ne_none p').symm fun h => hfits (h.1 ⟨m, rfl, hstill⟩)
    · -- the parameter does not name the mode
      rw [if_neg hstill, if_neg hstill]
      rw [and_iff_right fun h => absurd (hasStillHdr_some.mp h) hstill]
      exact Option.some_inj

theorem isoModesBuffer_eq_some_iff
    (hp : ∀ v, api.get p keySonyIsoAvailModes = some v → nul ∉ v.toList) :
    isoModesBuffer api p = some p' ↔
      IsoModesFit (api.get p keySonyIsoAvailModes) ∧ fixupIsoModes api p = p' := by
  unfold isoModesBuffer fixupIsoModes IsoModesFit
  cases hv : api.get p keySonyIsoAvailModes with
  -- without the parameter nothing is written
  | none => exact Option.some_inj.trans (and_iff_right nofun).symm
  | some v =>
    have hnul := hp v hv
    dsimp only
    -- the loop ends well if and only if the list fits
    rw [isoBuffer_eq hnul]
    by_cases hfits : (isoModes v).length < 255
    · have hstring : bufferString (filled nul 255 (isoModes v).toList) = isoModes v := by
        rw [bufferString, contents_filled (nul_notMem_isoModes hnul)
          (String.length_toList ▸ hfits), String.ofList_toList]
      rw [if_pos hfits, Option.bind_eq_bind, Option.bind_some, hstring,
        and_iff_right fun u hu => Option.some.inj hu ▸ hfits]
      exact Option.some_inj
    · -- it does not
      rw [if_neg hfits]
      exact iff_of_false nofun fun h => hfits (h.1 v rfl)

/-- **The array for the ISO mode has no room for the terminator.** -/
theorem copyIsoModeBuffer_eq_none : copyIsoModeBuffer api memory p = none := by
  unfold copyIsoModeBuffer
  cases api.get p keySonyIsoMode with
  | none => rfl
  | some sonyIso =>
    have hlength : 3 + sonyIso.length ≤ ("ISO" ++ sonyIso).length := by
      rw [String.length_append]
      exact Nat.le_refl _
    rw [Option.bind_eq_bind, Option.bind_some, sprintf_eq_none hlength]
    rfl

/-- The block of the AE mode returns exactly if the mode is not one of the two that copy the ISO
mode, and the mode can be read at all. The array of the copy is one byte too small for any ISO
mode. -/
theorem aeModeBuffers_eq_some_iff :
    aeModeBuffers api memory p = some p' ↔
      NoIsoCopy (api.get p keySonyIsoMode) (api.get p keySonyAeModeValues)
        (api.get p keySonyAeMode) ∧ fixupAeMode api p = some p' := by
  unfold aeModeBuffers fixupAeMode NoIsoCopy
  -- the two parameters are needed for the block to be entered
  by_cases hiso : (api.get p keySonyIsoMode).isSome
  case neg =>
    rw [if_neg hiso, if_neg hiso, and_iff_right fun h => absurd h hiso]
  case pos =>
  rw [if_pos hiso, if_pos hiso]
  by_cases hmodes : (api.get p keySonyAeModeValues).isSome
  case neg =>
    rw [if_neg hmodes, if_neg hmodes, and_iff_right fun _ h => absurd h hmodes]
  case pos =>
  rw [if_pos hmodes, if_pos hmodes]
  -- the mode is read without a test
  cases haeMode : api.get p keySonyAeMode with
  | none => exact iff_of_false nofun fun h => nomatch h.2
  | some aeMode =>
    simp only [Option.bind_eq_bind, Option.bind_some, copyIsoModeBuffer_eq_none, Option.bind_none]
    -- both were found, so the condition is about the mode alone
    have hcopy : ((api.get p keySonyIsoMode).isSome = true →
        (api.get p keySonyAeModeValues).isSome = true →
          some aeMode ≠ some "iso-prio" ∧ some aeMode ≠ some "manual") ↔
        aeMode ≠ "iso-prio" ∧ aeMode ≠ "manual" := by
      simp [hiso, hmodes]
    rw [hcopy]
    -- of the four modes two copy the ISO mode into an array that is too small for it
    by_cases hauto : aeMode = "auto"
    · rw [if_pos hauto, if_pos hauto, hauto, and_iff_right ⟨by decide, by decide⟩]
    rw [if_neg hauto, if_neg hauto]
    -- the array of the ISO mode is not there in the two modes that copy it
    by_cases hprio : aeMode = "iso-prio"
    · rw [if_pos hprio]
      exact iff_of_false nofun fun h => h.1.1 hprio
    rw [if_neg hprio, if_neg hprio]
    by_cases hshutter : aeMode = "shutter-prio"
    · rw [if_pos hshutter, if_pos hshutter, hshutter, and_iff_right ⟨by decide, by decide⟩]
    rw [if_neg hshutter, if_neg hshutter]
    by_cases hmanual : aeMode = "manual"
    · rw [if_pos hmanual]
      exact iff_of_false nofun fun h => h.1.2 hmanual
    · rw [if_neg hmanual, if_neg hmanual, and_iff_right ⟨hprio, hmanual⟩]

/-- **Without a fault the arrays do not matter**: the map is the one that is made of values. Three
of the blocks have an array, and what they ask of the parameters is asked of the map of the vendor,
since no block before them changes what they read. -/
theorem getparamsBuffers_eq_some_iff (hapi : api.Refuses) {id : ℤ} {settings returned : String}
    (hp : (lists api (api.unflatten settings)).Strings) :
    cameraFixupGetparamsBuffers api memory id settings = some returned ↔
      SceneModesFit (api.get (api.unflatten settings) keySonyImageStabiliserValues)
          (api.get (api.unflatten settings) keySupportedSceneModes) ∧
        IsoModesFit (api.get (api.unflatten settings) keySonyIsoAvailModes) ∧
        NoIsoCopy (api.get (api.unflatten settings) keySonyIsoMode)
          (api.get (api.unflatten settings) keySonyAeModeValues)
          (api.get (api.unflatten settings) keySonyAeMode) ∧
        getparamsValues api id settings = some returned := by
  -- the call is a chain of blocks, of which three have an array
  rw [getparams_eq, Option.map_eq_some_iff]
  generalize hsettings : api.unflatten settings = p at hp ⊢
  -- what the blocks with arrays read is in the map of the vendor
  have hcapability := hapi.capability_same p
  have hpreview := hapi.previewSize_same id (cameraFixupCapability api p)
  have hbefore := hapi.beforeAeMode_same id p
  have havail : api.get (fixupPreviewSize api id (cameraFixupCapability api p))
      keySonyIsoAvailModes = api.get p keySonyIsoAvailModes :=
    (hpreview _ (by decide)).trans (hcapability _ (by decide))
  have hiso : ∀ {q}, isoModesBuffer api (fixupPreviewSize api id (cameraFixupCapability api p)) =
      some q ↔ IsoModesFit (api.get p keySonyIsoAvailModes) ∧
        fixupIsoModes api (fixupPreviewSize api id (cameraFixupCapability api p)) = q := by
    intro q
    rw [isoModesBuffer_eq_some_iff fun v hv => hp.sonyIsoValues v (havail.symm.trans hv), havail]
  have hae : ∀ {q}, aeModeBuffers api memory (beforeAeMode api id p) = some q ↔
      NoIsoCopy (api.get p keySonyIsoMode) (api.get p keySonyAeModeValues)
        (api.get p keySonyAeMode) ∧ fixupAeMode api (beforeAeMode api id p) = some q := by
    intro q
    rw [aeModeBuffers_eq_some_iff, hbefore _ (by decide), hbefore _ (by decide),
      hbefore _ (by decide)]
  -- the chain returns when each of its blocks does
  unfold cameraFixupGetparamsBuffers
  rw [hsettings]
  simp only [Option.bind_eq_bind, Option.bind_eq_some_iff]
  constructor
  · -- each block with an array returns when its array is large enough
    rintro ⟨p₁, hcapability₁, p₂, hiso₂, p₃, hae₃, hreturned⟩
    obtain ⟨hscenes, rfl⟩ := (capabilityBuffer_eq_some_iff hp).mp hcapability₁
    obtain ⟨hlist, rfl⟩ := hiso.mp hiso₂
    obtain ⟨hcopy, hmode⟩ := hae.mp hae₃
    exact ⟨hscenes, hlist, hcopy, p₃, hmode, Option.some.inj hreturned⟩
  · -- the other way the three arrays are large enough, so the blocks do what they do over strings
    rintro ⟨hscenes, hlist, hcopy, p₃, hmode, rfl⟩
    exact ⟨_, (capabilityBuffer_eq_some_iff hp).mpr ⟨hscenes, rfl⟩, _, hiso.mpr ⟨hlist, rfl⟩, p₃,
      hae.mpr ⟨hcopy, hmode⟩, rfl⟩

/-! ### The lists that should be built -/

/-- The lists and the ISO mode are made from those of the vendor: each ISO mode has "ISO" before it
and "auto" comes last, the current one has the prefix too in the two modes that use it, and "hdr"
follows the scene modes where the image stabiliser has an HDR mode. -/
structure FixedUp (api : CameraParameters Params) (p p' : Params) : Prop where
  isoModes : ∀ vs, vs ≠ [] → (∀ v ∈ vs, ',' ∉ v.toList) →
    api.get p keySonyIsoAvailModes = some (commaList vs) →
      api.get p' keySupportedIsoModes = some (commaList (vs.map ("ISO" ++ ·) ++ ["auto"]))
  iso : ∀ v, api.get p keySonyIsoMode = some v →
    api.get p keySonyAeMode = some "iso-prio" ∨ api.get p keySonyAeMode = some "manual" →
      api.get p' keyIsoMode = some ("ISO" ++ v)
  sceneModes : HasStillHdr (api.get p keySonyImageStabiliserValues) →
    api.get p' keySupportedSceneModes = some (appendHdr (api.get p keySupportedSceneModes))

/-- The map of the vendor needs no array that is too short, and what is written can be set. The
values must be plain, as the map takes no others, unless it already has what would be written; and
the mode must not be one in which the ISO mode is copied. -/
structure NeedsNoMore (api : CameraParameters Params) (p : Params) : Prop where
  isoModes : ∀ v, api.get p keySonyIsoAvailModes = some v → (Camera.isoModes v).length < 255 ∧
    (Plain v ∨ api.get p keySupportedIsoModes = some (Camera.isoModes v))
  sceneModes : HasStillHdr (api.get p keySonyImageStabiliserValues) →
    ∃ old, api.get p keySupportedSceneModes = some old ∧ Plain old ∧ (old ++ ",hdr").length < 512
  aeMode : (api.get p keySonyIsoMode).isSome → (api.get p keySonyAeModeValues).isSome →
    ∃ aeMode, api.get p keySonyAeMode = some aeMode ∧ aeMode ≠ "iso-prio" ∧ aeMode ≠ "manual"
  noAeModes : ∀ v, api.get p keySonyIsoMode = some v → api.get p keySonyAeModeValues = none →
    api.get p keySonyAeMode = some "iso-prio" ∨ api.get p keySonyAeMode = some "manual" →
      api.get p keyIsoMode = some ("ISO" ++ v)

theorem isoMode_of_aeMode {p₃ : Params} (hapi : api.Refuses) {id : ℤ}
    (hmodes : api.get p keySonyAeModeValues = none)
    (h : fixupAeMode api (beforeAeMode api id p) = some p₃) :
    api.get p₃ keyIsoMode = api.get p keyIsoMode := by
  have hbefore := hapi.beforeAeMode_same id p
  have hnone : api.get (beforeAeMode api id p) keySonyAeModeValues = none := by
    rw [hbefore _ (by decide), hmodes]
  rw [fixupAeMode_of_none (.inr hnone)] at h
  rw [← Option.some.inj h, hbefore _ (by decide)]

/-- The block of the AE mode returns if the AE mode is there where it is read. -/
theorem aeMode_returns_iff (hapi : api.Refuses) {id : ℤ} :
    (∃ p₃, fixupAeMode api (beforeAeMode api id p) = some p₃) ↔
      ((api.get p keySonyIsoMode).isSome → (api.get p keySonyAeModeValues).isSome →
        (api.get p keySonyAeMode).isSome) := by
  have hbefore := hapi.beforeAeMode_same id p
  rw [hapi.fixupAeMode_isSome_iff, hbefore _ (by decide), hbefore _ (by decide),
    hbefore _ (by decide)]

/-- The ISO modes are those of the vendor if their list can be set, or is there already. -/
theorem isoModes_built_iff (hapi : api.Refuses) {id : ℤ} {settings returned : String}
    (hget : getparamsValues api id settings = some returned) :
    (∀ vs, vs ≠ [] → (∀ v ∈ vs, ',' ∉ v.toList) →
        api.get (api.unflatten settings) keySonyIsoAvailModes = some (commaList vs) →
          api.get (api.unflatten returned) keySupportedIsoModes =
            some (commaList (vs.map ("ISO" ++ ·) ++ ["auto"]))) ↔
      ∀ v, api.get (api.unflatten settings) keySonyIsoAvailModes = some v →
        Plain v ∨ api.get (api.unflatten settings) keySupportedIsoModes = some (isoModes v) := by
  have hisoValues := (hapi.getparams_lists hget).1
  constructor
  · intro h v hv
    -- the value is a list with commas
    obtain ⟨vs, hne, hcomma, rfl⟩ := exists_commaList v
    refine isoValuesAfter_eq_iff.mp ?_
    rw [← hv, ← hisoValues, h vs hne hcomma hv, isoModes_commaList hne hcomma]
  · intro h vs hne hcomma hv
    rw [hisoValues, hv, isoValuesAfter_eq_iff.mpr (h _ hv), isoModes_commaList hne hcomma]

/-- The list of scene modes has "hdr" behind it if it is there and the longer one can be set. -/
theorem sceneModes_built_iff (hapi : api.Refuses) {id : ℤ} {settings returned : String}
    (hget : getparamsValues api id settings = some returned)
    (hstill : HasStillHdr (api.get (api.unflatten settings) keySonyImageStabiliserValues)) :
    api.get (api.unflatten returned) keySupportedSceneModes =
        some (appendHdr (api.get (api.unflatten settings) keySupportedSceneModes)) ↔
      ∃ old, api.get (api.unflatten settings) keySupportedSceneModes = some old ∧ Plain old := by
  rw [(hapi.getparams_lists hget).2, sceneModesAfter_eq_iff hstill]

/-- **When the arrays are long enough and the lists are right.** The call returns with the lists
that it is to make exactly if the map that it reads needs no longer array, has an AE mode where one
is looked at, and no ISO mode has to be copied: the block for the copy is too small for any. -/
theorem camera_lists_fit_iff (hapi : api.Refuses) (id : ℤ) {settings : String}
    (hp : CStrings api (api.unflatten settings)) :
    (∃ returned, cameraFixupGetparamsBuffers api memory id settings = some returned ∧
        FixedUp api (api.unflatten settings) (api.unflatten returned)) ↔
      NeedsNoMore api (api.unflatten settings) := by
  -- that the call returns is a matter of the arrays, and what it returns of the strings
  simp only [getparamsBuffers_eq_some_iff hapi hp.lists]
  constructor
  · rintro ⟨returned, ⟨hscenes, hisoFits, hcopy, hget⟩, hfixed⟩
    have hisoModes := (isoModes_built_iff hapi hget).mp hfixed.isoModes
    have hsceneModes (hstill : HasStillHdr _) :=
      (sceneModes_built_iff hapi hget hstill).mp (hfixed.sceneModes hstill)
    -- the ISO mode is that of the vendor, which the block of the AE mode may have replaced
    rw [getparams_eq] at hget
    obtain ⟨p₃, hae, rfl⟩ := Option.map_eq_some_iff.mp hget
    constructor
    · -- the list of the ISO modes fits and is built
      exact fun v hv => ⟨hisoFits v hv, hisoModes v hv⟩
    · -- the list of the scene modes is built, so there was one
      intro hstill
      obtain ⟨old, hold, hplain⟩ := hsceneModes hstill
      have hlength := hscenes hstill
      rw [hold] at hlength
      exact ⟨old, hold, hplain, hlength⟩
    · -- the block of the AE mode has returned, so there was an AE mode
      intro hiso hmodes
      have haeMode := (aeMode_returns_iff hapi).mp ⟨p₃, hae⟩ hiso hmodes
      obtain ⟨aeMode, haeMode⟩ := Option.isSome_iff_exists.mp haeMode
      obtain ⟨hprio, hmanual⟩ := hcopy hiso hmodes
      exact ⟨aeMode, haeMode, fun heq => hprio (heq ▸ haeMode), fun heq => hmanual (heq ▸ haeMode)⟩
    · -- without the list of AE modes the ISO mode is not copied
      intro v hv hmodes haeMode
      have hiso := hfixed.iso v hv haeMode
      rwa [hapi.get_unflatten, isoMode_of_aeMode hapi hmodes hae] at hiso
  · intro h
    -- the AE mode is there whenever it is read
    have haeMode : (api.get (api.unflatten settings) keySonyIsoMode).isSome →
        (api.get (api.unflatten settings) keySonyAeModeValues).isSome →
          (api.get (api.unflatten settings) keySonyAeMode).isSome := by
      intro hiso hmodes
      obtain ⟨aeMode, haeMode, -⟩ := h.aeMode hiso hmodes
      exact Option.isSome_of_eq_some haeMode
    obtain ⟨p₃, hae⟩ := (aeMode_returns_iff hapi).mpr haeMode
    have hget : getparamsValues api id settings = some (api.flatten p₃) := by
      rw [getparams_eq, hae]
      rfl
    -- the three arrays are large enough, and the three values are the right ones
    refine ⟨api.flatten p₃, ⟨fun hstill => ?_, fun v hv => (h.isoModes v hv).1,
      fun hiso hmodes => ?_, hget⟩, ?_, ?_, ?_⟩
    · obtain ⟨old, hold, -, hlength⟩ := h.sceneModes hstill
      rw [hold]
      exact hlength
    · obtain ⟨aeMode, haeMode, hprio, hmanual⟩ := h.aeMode hiso hmodes
      rw [haeMode]
      exact ⟨fun heq => hprio (Option.some.inj heq), fun heq => hmanual (Option.some.inj heq)⟩
    · exact (isoModes_built_iff hapi hget).mpr fun v hv => (h.isoModes v hv).2
    · intro v hv hmode
      -- the block of the AE mode is not entered
      cases hmodes : api.get (api.unflatten settings) keySonyAeModeValues with
      | none =>
        rw [hapi.get_unflatten, isoMode_of_aeMode hapi hmodes hae]
        exact h.noAeModes v hv hmodes hmode
      | some aeModes =>
        -- in these modes the ISO mode would have to be copied
        obtain ⟨aeMode, haeMode, hprio, hmanual⟩ :=
          h.aeMode (Option.isSome_of_eq_some hv) (Option.isSome_of_eq_some hmodes)
        rw [haeMode] at hmode
        rcases hmode with heq | heq
        · exact absurd (Option.some.inj heq) hprio
        · exact absurd (Option.some.inj heq) hmanual
    · intro hstill
      obtain ⟨old, hold, hplain, -⟩ := h.sceneModes hstill
      exact (sceneModes_built_iff hapi hget hstill).mpr ⟨old, hold, hplain⟩

end Blocks

/-- The arrays have been cleared. -/
def cleared (size : ℕ) : Vector Char size := Vector.replicate size nul

/-- The values of a map of which all values are C strings. -/
theorem cStrings_of_entries {m : ParameterMap} (h : ∀ e ∈ m.entries, nul ∉ e.2.toList) :
    CStrings parameterMap (parameterMap.unflatten (parameterMap.flatten m)) := by
  intro key v hv
  rw [parameterMap_lawful.get_unflatten] at hv
  obtain ⟨e, he, rfl⟩ := ParameterMap.exists_entry_of_get hv
  exact h e he

/-- Two ISO modes, scene modes to which "hdr" is added, and an AE mode without a copy. -/
def vendorMap : ParameterMap where
  entries :=
    [("scene-mode-values", "auto,night"), ("sony-ae-mode", "shutter-prio"),
      ("sony-ae-mode-values", "auto,shutter-prio"), ("sony-is-values", "on,on-still-hdr"),
      ("sony-iso", "100"), ("sony-iso-values", "100,200")]
  sorted := by
    unfold KeyValues.Sorted
    decide
  plain := by decide

/-- The map of a vendor that offers the still HDR mode and runs in the mode of the shutter speed:
both lists are short enough, and all that is promised of the map is there. -/
theorem camera_lists_fit_iff_vendorMap :
    ∃ returned, cameraFixupGetparamsBuffers parameterMap cleared 0
        (parameterMap.flatten vendorMap) = some returned ∧
      FixedUp parameterMap (parameterMap.unflatten (parameterMap.flatten vendorMap))
        (parameterMap.unflatten returned) := by
  -- the vendor offers the still HDR mode, and runs in the mode of the shutter speed
  refine (camera_lists_fit_iff parameterMap_refuses 0 (cStrings_of_entries (by decide))).mpr ?_
  have hget := parameterMap_lawful.get_unflatten vendorMap
  have hisoModes : parameterMap.get vendorMap keySonyIsoAvailModes = some "100,200" := by decide
  have hscenes : parameterMap.get vendorMap keySupportedSceneModes = some "auto,night" := by decide
  have hmodes : parameterMap.get vendorMap keySonyAeModeValues = some "auto,shutter-prio" := by
    decide
  have hmode : parameterMap.get vendorMap keySonyAeMode = some "shutter-prio" := by decide
  constructor
  · -- the list of two ISO modes is short
    intro v hv
    rw [hget, hisoModes] at hv
    obtain rfl := Option.some.inj hv
    exact ⟨by decide, .inl (by decide)⟩
  · -- so is the list of two scene modes
    intro _
    exact ⟨"auto,night", (hget _).trans hscenes, by decide, by decide⟩
  · -- the mode of the shutter speed copies no ISO mode
    intro _ _
    exact ⟨"shutter-prio", (hget _).trans hmode, by decide, by decide⟩
  · -- there is a list of AE modes
    intro v _ hnone
    rw [hget, hmodes] at hnone
    cases hnone

/-- ISO 100 with the AE mode "manual". -/
def manualIso : ParameterMap :=
  (((ParameterMap.unflatten "").set keySonyAeModeValues "auto,manual").set keySonyIsoMode
    "100").set keySonyAeMode "manual"

/-- In the AE mode "manual" the array of the ISO mode is overrun. -/
theorem camera_iso_overrun : ¬ ∀ m : ParameterMap, (∀ e ∈ m.entries, nul ∉ e.2.toList) →
    ∃ returned, cameraFixupGetparamsBuffers parameterMap cleared 0
        (parameterMap.flatten m) = some returned ∧
      FixedUp parameterMap (parameterMap.unflatten (parameterMap.flatten m))
        (parameterMap.unflatten returned) := by
  intro h
  have hstrings : ∀ e ∈ manualIso.entries, nul ∉ e.2.toList := by decide
  obtain ⟨returned, hreturned, -⟩ := h manualIso hstrings
  obtain ⟨-, -, hcopy, -⟩ :=
    (getparamsBuffers_eq_some_iff parameterMap_refuses
      (cStrings_of_entries hstrings).lists).mp hreturned
  have hget := parameterMap_lawful.get_unflatten manualIso
  rw [hget, hget, hget] at hcopy
  have hmanual : parameterMap.get manualIso keySonyAeMode = some "manual" := by decide
  exact (hcopy (by decide) (by decide)).2 hmanual

end Camera

end BlueCommon
