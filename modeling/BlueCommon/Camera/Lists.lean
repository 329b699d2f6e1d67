import BlueCommon.Camera.Wrapper

/-!
# The lists of the camera wrapper

What `getparamsValues` makes of the list of ISO modes and of the list of scene modes, as a
function of what it finds in the map of the vendor.

* `isoModes_commaList`: the ISO modes of a list with commas. `plain_isoModes`: they can be set.
* `isoValuesAfter`, `sceneModesAfter`: the lists afterwards.
* `fixupAeMode_same`: the AE mode block writes neither.
* `getparams_lists`: the lists in the map that is returned.
-/

namespace BlueCommon

namespace Camera

/-! ### ISO modes -/

/-- A list of values as it stands in a parameter. -/
def commaList (values : List String) : String :=
  String.ofList ([','].intercalate (values.map String.toList))

/-- What the loop of the ISO modes makes of a character. -/
def isoChar (c : Char) : List Char := if c ≠ ',' then [c] else [',', 'I', 'S', 'O']

theorem toList_isoModes (v : String) :
    (isoModes v).toList =
      ['I', 'S', 'O'] ++ v.toList.flatMap isoChar ++ [',', 'a', 'u', 't', 'o'] := by
  simp only [isoModes, String.toList_append, String.toList_ofList]
  rfl

theorem flatMap_isoChar {word : List Char} (h : ',' ∉ word) : word.flatMap isoChar = word := by
  induction word with
  | nil => rfl
  | cons c word ih =>
    obtain ⟨hc, hword⟩ := not_or.mp (mt List.mem_cons.mpr h)
    rw [List.flatMap_cons, ih hword, isoChar, if_pos (Ne.symm hc)]
    rfl

theorem flatMap_intercalate {word : List Char} {words : List (List Char)}
    (h : ∀ w ∈ word :: words, ',' ∉ w) :
    ['I', 'S', 'O'] ++ ([','].intercalate (word :: words)).flatMap isoChar ++
        [',', 'a', 'u', 't', 'o'] =
      [','].intercalate ((word :: words).map (['I', 'S', 'O'] ++ ·) ++ [['a', 'u', 't', 'o']]) := by
  -- induction on the words behind the first one
  induction words generalizing word with
  | nil =>
    -- a single word has no comma
    obtain ⟨hword, -⟩ := List.forall_mem_cons.mp h
    rw [List.intercalate_singleton, flatMap_isoChar hword]
    simp only [List.map_cons, List.map_nil, List.cons_append, List.nil_append,
      List.intercalate_cons_cons, List.intercalate_singleton, List.append_assoc]
  | cons word' words ih =>
    obtain ⟨hword, hwords⟩ := List.forall_mem_cons.mp h
    -- the comma between the words becomes one with "ISO" behind it
    have hcomma : [','].flatMap isoChar = [','] ++ ['I', 'S', 'O'] := by decide
    have hright : [','].intercalate ((word :: word' :: words).map (['I', 'S', 'O'] ++ ·) ++
        [['a', 'u', 't', 'o']]) = (['I', 'S', 'O'] ++ word) ++ [','] ++
          [','].intercalate ((word' :: words).map (['I', 'S', 'O'] ++ ·) ++
            [['a', 'u', 't', 'o']]) :=
      List.intercalate_cons_of_ne_nil (List.append_ne_nil_of_right_ne_nil _ (List.cons_ne_nil _ _))
    -- the word is copied, the comma takes its prefix along, and the rest is the hypothesis
    rw [hright, ← ih hwords, List.intercalate_cons_cons, List.flatMap_append, List.flatMap_append,
      hcomma, flatMap_isoChar hword]
    simp only [List.append_assoc]

/-- **The ISO modes of a list**: "ISO" before each, and "auto". -/
theorem isoModes_commaList {vs : List String} (hne : vs ≠ []) (hcomma : ∀ v ∈ vs, ',' ∉ v.toList) :
    isoModes (commaList vs) = commaList (vs.map ("ISO" ++ ·) ++ ["auto"]) := by
  cases vs with
  | nil => exact absurd rfl hne
  | cons v vs =>
    -- no word has a comma in it
    have hwords : ∀ w ∈ v.toList :: vs.map String.toList, ',' ∉ w := by
      rw [← List.map_cons]
      intro w hw
      obtain ⟨u, hu, rfl⟩ := List.mem_map.mp hw
      exact hcomma u hu
    have htoList : ((v :: vs).map ("ISO" ++ ·) ++ ["auto"]).map String.toList =
        (v.toList :: vs.map String.toList).map (['I', 'S', 'O'] ++ ·) ++
          [['a', 'u', 't', 'o']] := by
      simp only [List.map_append, List.map_cons, List.map_map, Function.comp_def,
        String.toList_append]
      rfl
    -- both sides are the same list of characters
    rw [← String.toList_inj, toList_isoModes, commaList, commaList, String.toList_ofList,
      String.toList_ofList, htoList, ← flatMap_intercalate hwords, List.map_cons]

theorem exists_intercalate (s : List Char) :
    ∃ words, words ≠ [] ∧ (∀ w ∈ words, ',' ∉ w) ∧ s = [','].intercalate words := by
  induction s with
  | nil =>
    -- the empty text is the list of one empty word
    exact ⟨[[]], List.cons_ne_nil _ _, fun w hw => List.mem_singleton.mp hw ▸ List.not_mem_nil, rfl⟩
  | cons c s ih =>
    obtain ⟨words, hne, hwords, rfl⟩ := ih
    match words, hne with
    | word :: words, _ =>
      obtain ⟨hword, hrest⟩ := List.forall_mem_cons.mp hwords
      by_cases hc : c = ','
      · -- a comma begins another word
        refine ⟨[] :: word :: words, List.cons_ne_nil _ _,
          List.forall_mem_cons.mpr ⟨List.not_mem_nil, hwords⟩, ?_⟩
        rw [List.intercalate_cons_cons, hc]
        rfl
      · -- any other character is put in front of the first word
        refine ⟨(c :: word) :: words, List.cons_ne_nil _ _, List.forall_mem_cons.mpr ⟨?_, hrest⟩,
          List.intercalate_cons_cons_left.symm⟩
        exact fun hmem => (List.mem_cons.mp hmem).elim (fun heq => hc heq.symm) hword

/-- Every string is such a list. -/
theorem exists_commaList (v : String) :
    ∃ vs, vs ≠ [] ∧ (∀ u ∈ vs, ',' ∉ u.toList) ∧ v = commaList vs := by
  obtain ⟨words, hne, hwords, hv⟩ := exists_intercalate v.toList
  refine ⟨words.map String.ofList, fun hnil => hne (List.map_eq_nil_iff.mp hnil), ?_, ?_⟩
  · intro u hu
    obtain ⟨w, hw, rfl⟩ := List.mem_map.mp hu
    rw [String.toList_ofList]
    exact hwords w hw
  · have hwords' : (words.map String.ofList).map String.toList = words := by
      rw [List.map_map]
      exact (List.map_congr_left fun w _ => String.toList_ofList).trans (List.map_id words)
    rw [commaList, hwords', ← hv, String.ofList_toList]

/-- The list of ISO modes has a separator where that of the vendor has one. -/
theorem plain_isoModes {v : String} : Plain (isoModes v) ↔ Plain v := by
  have hmem {c : Char} (h : c ∉ ['I', 'S', 'O', ',', 'a', 'u', 't', 'o']) :
      c ∈ (isoModes v).toList ↔ c ∈ v.toList := by
    simp only [List.mem_cons, List.not_mem_nil, or_false, not_or] at h
    have hchar (d : Char) : c ∈ isoChar d ↔ c = d ∧ d ≠ ',' := by
      unfold isoChar
      split <;> simp_all
    rw [toList_isoModes, List.mem_append, List.mem_append, List.mem_flatMap]
    simp [h, hchar]
  unfold Plain
  rw [hmem (by decide), hmem (by decide)]

/-! ### The lists afterwards -/

/-- The list of ISO modes, given that of the vendor and the one before. -/
def isoValuesAfter (sonyIsoValues isoValues : Option String) : Option String :=
  match sonyIsoValues with
  | none => isoValues
  | some v => if Plain v then some (isoModes v) else isoValues

/-- The image stabiliser has an HDR mode: the list of its modes is there and names it. -/
def HasStillHdr (sonyIsValues : Option String) : Prop :=
  ∃ m, sonyIsValues = some m ∧ strstr m valueSonyStillHdr

/-- The list of scene modes with "hdr" behind it. Where there is no list, `sprintf` writes "(null)"
for it. -/
def withHdr (sceneModes : Option String) : String := sceneModes.getD "(null)" ++ ",hdr"

instance (sonyIsValues : Option String) : Decidable (HasStillHdr sonyIsValues) :=
  match sonyIsValues with
  | none => isFalse fun ⟨_, h, _⟩ => nomatch h
  | some m => decidable_of_iff (strstr m valueSonyStillHdr)
      ⟨fun h => ⟨m, rfl, h⟩, fun ⟨_, heq, h⟩ => Option.some.inj heq ▸ h⟩

theorem not_hasStillHdr_none : ¬ HasStillHdr none := by
  rintro ⟨m, hm, -⟩
  cases hm

theorem hasStillHdr_some {m : String} : HasStillHdr (some m) ↔ strstr m valueSonyStillHdr := by
  constructor
  · rintro ⟨m', hm', h⟩
    rwa [Option.some.inj hm']
  · exact fun h => ⟨m, rfl, h⟩

/-- The list of scene modes, given the modes of the image stabiliser and the list before. -/
def sceneModesAfter (sonyIsValues sceneModes : Option String) : Option String :=
  if HasStillHdr sonyIsValues ∧ Plain (withHdr sceneModes) then some (withHdr sceneModes)
  else sceneModes

theorem plain_withHdr_some {old : String} : Plain (withHdr (some old)) ↔ Plain old := by
  constructor
  · rintro ⟨hkey, hvalue⟩
    unfold withHdr at hkey hvalue
    rw [String.toList_append, List.mem_append, not_or] at hkey hvalue
    exact ⟨hkey.1, hvalue.1⟩
  · exact fun h => h.append (by decide)

/-- A list is not the list with "hdr" behind it. -/
theorem withHdr_some_ne {old : String} : withHdr (some old) ≠ old := by
  intro heq
  have hlength := congrArg String.length heq
  unfold withHdr at hlength
  rw [String.length_append, Option.getD_some, show ",hdr".length = 4 by decide] at hlength
  omega

theorem withHdr_ne_empty (sceneModes : Option String) : withHdr sceneModes ≠ "" := by
  intro hempty
  have hlist := congrArg String.toList hempty
  unfold withHdr at hlist
  rw [String.toList_append] at hlist
  exact List.append_ne_nil_of_right_ne_nil _ (by decide) hlist

/-- The list of scene modes with "hdr", alone if there is no list. -/
def appendHdr : Option String → String
  | none => "hdr"
  | some sceneModes => sceneModes ++ ",hdr"

theorem isoValuesAfter_eq_iff {v : String} {isoValues : Option String} :
    isoValuesAfter (some v) isoValues = some (isoModes v) ↔
      Plain v ∨ isoValues = some (isoModes v) := by
  unfold isoValuesAfter
  by_cases hplain : Plain v
  · exact iff_of_true (if_pos hplain) (.inl hplain)
  · dsimp only
    rw [if_neg hplain, or_iff_right hplain]

theorem sceneModesAfter_eq_iff {sonyIsValues sceneModes : Option String}
    (h : HasStillHdr sonyIsValues) :
    sceneModesAfter sonyIsValues sceneModes = some (appendHdr sceneModes) ↔
      ∃ old, sceneModes = some old ∧ Plain old := by
  unfold sceneModesAfter
  cases sceneModes with
  -- there is no list, and the map takes the shorter one
  | none =>
    refine iff_of_false (fun heq => ?_) ?_
    · -- without a list the new one would have "hdr" behind an empty text
      rw [if_pos ⟨h, by decide⟩] at heq
      exact absurd (Option.some.inj heq) (by decide)
    · rintro ⟨old, hold, -⟩
      cases hold
  | some old =>
    -- the map takes the longer list only if it is plain
    by_cases hplain : Plain old
    · exact iff_of_true (if_pos ⟨h, plain_withHdr_some.mpr hplain⟩) ⟨old, rfl, hplain⟩
    · rw [if_neg fun hboth => hplain (plain_withHdr_some.mp hboth.2)]
      -- else the old list stays, which is another one
      refine iff_of_false (fun heq => ?_) fun ⟨_, hold, hp⟩ => hplain (Option.some.inj hold ▸ hp)
      exact withHdr_some_ne (Option.some.inj heq).symm

section Lists

variable {Params : Type} {api : CameraParameters Params}

namespace CameraParameters.Refuses

variable (hapi : api.Refuses)
include hapi

theorem fixupIsoModes_get (p : Params) :
    api.get (fixupIsoModes api p) keySupportedIsoModes =
      isoValuesAfter (api.get p keySonyIsoAvailModes) (api.get p keySupportedIsoModes) := by
  unfold fixupIsoModes isoValuesAfter
  cases api.get p keySonyIsoAvailModes with
  | none => rfl
  | some v =>
    have hne : isoModes v ≠ "" := by
      intro hempty
      have hlist := congrArg String.toList hempty
      rw [toList_isoModes] at hlist
      exact List.cons_ne_nil _ _ hlist
    dsimp only
    rw [hapi.get_set_self p (by decide), if_neg hne]
    simp only [plain_isoModes]

theorem capability_get (p : Params) :
    api.get (cameraFixupCapability api p) keySupportedSceneModes =
      sceneModesAfter (api.get p keySonyImageStabiliserValues)
        (api.get p keySupportedSceneModes) := by
  unfold cameraFixupCapability sceneModesAfter
  cases api.get p keySonyImageStabiliserValues with
  | none => exact (if_neg fun h => not_hasStillHdr_none h.1).symm
  | some m =>
    dsimp only
    by_cases h : strstr m valueSonyStillHdr
    · have hkey : Plain keySupportedSceneModes := by decide
      have hget := hapi.get_set_self p hkey (withHdr (api.get p keySupportedSceneModes))
      rw [if_neg (withHdr_ne_empty _)] at hget
      rw [if_pos h]
      simp only [hasStillHdr_some, h, true_and]
      exact hget
    · rw [if_neg h, if_neg fun hboth => h (hasStillHdr_some.mp hboth.1)]

end CameraParameters.Refuses

/-- The lists of a map: of the ISO modes and of the stabiliser modes of the vendor, from which the
lists of the ISO modes and of the scene modes for the application are made. -/
structure Lists where
  sonyIsoValues : Option String
  isoValues : Option String
  sonyIsValues : Option String
  sceneModes : Option String

def lists (api : CameraParameters Params) (p : Params) : Lists where
  sonyIsoValues := api.get p keySonyIsoAvailModes
  isoValues := api.get p keySupportedIsoModes
  sonyIsValues := api.get p keySonyImageStabiliserValues
  sceneModes := api.get p keySupportedSceneModes

/-- The lists that are returned. -/
def Lists.fixedUp (l : Lists) : Lists :=
  { l with
    isoValues := isoValuesAfter l.sonyIsoValues l.isoValues
    sceneModes := sceneModesAfter l.sonyIsValues l.sceneModes }

/-- The blocks before that of the AE mode. -/
def beforeAeMode (api : CameraParameters Params) (id : ℤ) (params : Params) : Params :=
  fixupVideoHdr api (fixupSceneMode api (fixupIsoModes api (fixupPreviewSize api id
    (cameraFixupCapability api params))))

theorem getparams_eq (api : CameraParameters Params) (id : ℤ) (settings : String) :
    getparamsValues api id settings =
      (fixupAeMode api (beforeAeMode api id (api.unflatten settings))).map api.flatten := by
  rw [Option.map_eq_bind]
  rfl

/-- Without AE modes of the vendor, or without an ISO mode, there is nothing to do. -/
theorem fixupAeMode_of_none {p : Params}
    (h : api.get p keySonyIsoMode = none ∨ api.get p keySonyAeModeValues = none) :
    fixupAeMode api p = some p := by
  unfold fixupAeMode
  rcases h with hiso | hmodes
  · rw [hiso]
    rfl
  · rw [hmodes]
    exact ite_self (some p)

/-- The keys that the blocks before that of the AE mode write. -/
def beforeAeModeKeys : List String :=
  [keySupportedSceneModes, keyPreferredPreviewSizeForVideo, keySupportedIsoModes, keySceneMode,
    keyVideoHdrValues, keyVideoHdr]

namespace CameraParameters.Refuses

variable (hapi : api.Refuses)
include hapi

theorem beforeAeMode_same (id : ℤ) (p : Params) :
    SameExcept api beforeAeModeKeys p (beforeAeMode api id p) :=
  ((((hapi.capability_same p).trans (hapi.previewSize_same id _)).trans
    (hapi.isoModes_same _)).trans (hapi.fixupSceneMode_same _)).trans (hapi.fixupVideoHdr_same _)

/-- The lists are those of their blocks. -/
theorem beforeAeMode_lists (id : ℤ) (p : Params) :
    api.get (beforeAeMode api id p) keySupportedIsoModes =
        isoValuesAfter (api.get p keySonyIsoAvailModes) (api.get p keySupportedIsoModes) ∧
      api.get (beforeAeMode api id p) keySupportedSceneModes =
        sceneModesAfter (api.get p keySonyImageStabiliserValues)
          (api.get p keySupportedSceneModes) := by
  -- each of the blocks leaves the parameters of the others alone
  have hcapability := hapi.capability_same p
  have hpreview := hapi.previewSize_same id (cameraFixupCapability api p)
  have hiso := hapi.isoModes_same (fixupPreviewSize api id (cameraFixupCapability api p))
  have hscene := hapi.fixupSceneMode_same
    (fixupIsoModes api (fixupPreviewSize api id (cameraFixupCapability api p)))
  have hvideo := hapi.fixupVideoHdr_same
    (fixupSceneMode api (fixupIsoModes api (fixupPreviewSize api id (cameraFixupCapability api p))))
  unfold beforeAeMode
  constructor
  · -- the list of ISO modes is written by its own block and by none after it
    rw [hvideo _ (by decide), hscene _ (by decide), hapi.fixupIsoModes_get, hpreview _ (by decide),
      hpreview _ (by decide), hcapability _ (by decide), hcapability _ (by decide)]
  · -- so is that of the scene modes, which is written first
    rw [hvideo _ (by decide), hscene _ (by decide), hiso _ (by decide), hpreview _ (by decide),
      hapi.capability_get]

theorem copyShutterSpeed_same (p : Params) :
    SameExcept api [keyShutterSpeed] p (copyShutterSpeed api p) := by
  unfold copyShutterSpeed
  split
  · exact .refl _ _
  · exact hapi.sameExcept_set _ _ _

theorem copyIsoMode_same {p p' : Params} (h : copyIsoMode api p = some p') :
    SameExcept api [keyIsoMode] p p' := by
  obtain ⟨sonyIso, -, hset⟩ := Option.bind_eq_some_iff.mp h
  obtain rfl := Option.some.inj hset
  exact hapi.sameExcept_set _ _ _

/-- The block of the AE mode writes the ISO mode and the shutter speed. -/
theorem fixupAeMode_same {p p' : Params} (h : fixupAeMode api p = some p') :
    SameExcept api [keyIsoMode, keyShutterSpeed] p p' := by
  have hauto : SameExcept api [keyIsoMode, keyShutterSpeed] p
      (api.set (api.set p keyIsoMode "auto") keyShutterSpeed "auto") :=
    (hapi.sameExcept_set _ _ _).trans (hapi.sameExcept_set _ _ _)
  unfold fixupAeMode at h
  -- without the two parameters the block is skipped
  split at h
  case isFalse => exact Option.some.inj h ▸ .refl _ _
  split at h
  case isFalse => exact Option.some.inj h ▸ .refl _ _
  -- each of the five branches writes these two parameters and no other
  obtain ⟨aeMode, -, h⟩ := Option.bind_eq_some_iff.mp h
  split at h
  case isTrue => exact Option.some.inj h ▸ hauto
  split at h
  case isTrue =>
    obtain ⟨p₁, hcopy, hset⟩ := Option.bind_eq_some_iff.mp h
    exact Option.some.inj hset ▸ (hapi.copyIsoMode_same hcopy).trans (hapi.sameExcept_set _ _ _)
  split at h
  case isTrue =>
    exact Option.some.inj h ▸ (hapi.sameExcept_set _ _ _).trans (hapi.copyShutterSpeed_same _)
  split at h
  case isTrue =>
    exact ((hapi.copyShutterSpeed_same p).trans (hapi.copyIsoMode_same h)).mono (by simp)
  case isFalse => exact Option.some.inj h ▸ hauto

/-- The AE mode is read through a null pointer when there is none. The source asks for the ISO mode
of the vendor and the list of AE modes only, and takes the AE mode to be there with them. -/
theorem fixupAeMode_isSome_iff {p : Params} :
    (∃ p', fixupAeMode api p = some p') ↔
      ((api.get p keySonyIsoMode).isSome → (api.get p keySonyAeModeValues).isSome →
        (api.get p keySonyAeMode).isSome) := by
  -- the AE mode is read only if the other two parameters are there
  cases hiso : api.get p keySonyIsoMode with
  | none => exact iff_of_true ⟨p, fixupAeMode_of_none (.inl hiso)⟩ nofun
  | some sonyIso =>
    cases hmodes : api.get p keySonyAeModeValues with
    | none => exact iff_of_true ⟨p, fixupAeMode_of_none (.inr hmodes)⟩ fun _ => nofun
    | some aeModes =>
      -- the ISO mode that is copied is there
      have hcopy (q : Params) (hq : api.get q keySonyIsoMode = some sonyIso) :
          copyIsoMode api q = some (api.set q keyIsoMode ("ISO" ++ sonyIso)) := by
        unfold copyIsoMode
        rw [hq]
        rfl
      have hspeed : api.get (copyShutterSpeed api p) keySonyIsoMode = some sonyIso := by
        rw [hapi.copyShutterSpeed_same p _ (by decide), hiso]
      unfold fixupAeMode
      rw [hiso, hmodes]
      -- with an AE mode each of the five branches returns
      cases api.get p keySonyAeMode with
      | none => simp
      | some aeMode =>
        simp only [Option.isSome_some, if_true, Option.bind_eq_bind, Option.bind_some,
          hcopy p hiso, hcopy _ hspeed, forall_const, iff_true]
        split_ifs
        all_goals exact ⟨_, rfl⟩

/-- **The lists in the map that is returned.** -/
theorem getparams_lists {id : ℤ} {settings returned : String}
    (h : getparamsValues api id settings = some returned) :
    api.get (api.unflatten returned) keySupportedIsoModes =
        isoValuesAfter (api.get (api.unflatten settings) keySonyIsoAvailModes)
          (api.get (api.unflatten settings) keySupportedIsoModes) ∧
      api.get (api.unflatten returned) keySupportedSceneModes =
        sceneModesAfter (api.get (api.unflatten settings) keySonyImageStabiliserValues)
          (api.get (api.unflatten settings) keySupportedSceneModes) := by
  rw [getparams_eq] at h
  obtain ⟨p', hae, rfl⟩ := Option.map_eq_some_iff.mp h
  have hsame := hapi.fixupAeMode_same hae
  rw [hapi.get_unflatten, hapi.get_unflatten, hsame _ (by decide), hsame _ (by decide)]
  exact hapi.beforeAeMode_lists id _

end CameraParameters.Refuses

end Lists

end Camera

end BlueCommon
