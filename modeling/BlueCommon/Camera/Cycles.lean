import BlueCommon.Camera.Exposure
import Mathlib.Logic.Function.Iterate

/-!
# Parameters that are read and written back

An application reads the parameters and sets what it has read, again and again.
`cameraGetParameters` and `cameraSetParameters` are the two calls, with a vendor that stores what it
is given. Each reading has its own arrays, and what is in these before does not matter.

* `cycles_lists`: the lists after any number of cycles. `Lists.fixedUp_self_iff`: when they stay as
  they are.
* `cycles_return`: any number of cycles returns if the parameters are safe, the lists fit and they
  stay as they are. `safe_of_two_cycles`: nothing less is enough.
* `lists_stable_iff`: when the lists of the ISO modes and of the scene modes stay as they were read
  first.

The two questions are separate. Whether the calls return is decided by the exposure and by the
lengths of the lists: a cycle keeps the exposure safe, and the lengths too where the lists stay as
they are. What the lists become is the iteration of one function, `Lists.fixedUp`. They stay as they
were read first exactly if that is a fixed point, and the second cycle already shows whether it is.
-/

namespace BlueCommon

namespace Camera

/-! ### The calls -/

/-- A vendor that stores the parameters it is given, and returns them as they are. Nothing else of
the device is of interest here. -/
structure VendorDevice where
  parameters : String

section Calls

variable {Params : Type} (api : CameraParameters Params)

def cameraGetParameters (memory : (size : ℕ) → Vector Char size) (id : ℤ)
    (vendor : VendorDevice) : Option String :=
  cameraFixupGetparamsBuffers api memory id vendor.parameters

def cameraSetParameters (id : ℤ) (vendor : VendorDevice) (params : String) :
    Option VendorDevice := do
  let tmp ← cameraFixupSetparams api id params
  return { vendor with parameters := tmp }

/-- The parameters are read and set as they were read. -/
def cycle (memory : (size : ℕ) → Vector Char size) (id : ℤ) (vendor : VendorDevice) :
    Option VendorDevice := do
  let params ← cameraGetParameters api memory id vendor
  cameraSetParameters api id vendor params

/-- The first cycles, up to number `n`: each of them reads the parameters through the wrapper and
sets them as they were read. What the arrays hold before may be different each time. -/
def cycles (memory : ℕ → (size : ℕ) → Vector Char size) (id : ℤ) :
    ℕ → VendorDevice → Option VendorDevice
  | 0, vendor => some vendor
  | n + 1, vendor => (cycles memory id n vendor).bind (cycle api (memory n) id)

end Calls

/-! ### The lists -/

section Maps

variable {Params : Type} {api : CameraParameters Params}

theorem isoValuesAfter_self (sonyIsoValues isoValues : Option String) :
    isoValuesAfter sonyIsoValues (isoValuesAfter sonyIsoValues isoValues) =
      isoValuesAfter sonyIsoValues isoValues := by
  unfold isoValuesAfter
  cases sonyIsoValues with
  | none => rfl
  | some v =>
    dsimp only
    split <;> rfl

/-- "hdr" is added unless it cannot be. -/
theorem sceneModesAfter_eq_self_iff {sonyIsValues sceneModes : Option String} :
    sceneModesAfter sonyIsValues sceneModes = sceneModes ↔
      ¬ (HasStillHdr sonyIsValues ∧ Plain (withHdr sceneModes)) := by
  unfold sceneModesAfter
  split
  case isTrue h =>
    refine iff_of_false (fun heq => ?_) (not_not_intro h)
    cases sceneModes with
    | none => cases heq
    | some old => exact withHdr_some_ne (Option.some.inj heq)
  case isFalse h => exact iff_of_true rfl h

theorem sceneModesAfter_self_iff {sonyIsValues sceneModes : Option String} :
    sceneModesAfter sonyIsValues (sceneModesAfter sonyIsValues sceneModes) =
        sceneModesAfter sonyIsValues sceneModes ↔
      (HasStillHdr sonyIsValues → ∃ old, sceneModes = some old ∧ ¬ Plain old) := by
  -- the list is as plain with one "hdr" more as it was before
  have hplain : Plain (withHdr (sceneModesAfter sonyIsValues sceneModes)) ↔
      Plain (withHdr sceneModes) := by
    unfold sceneModesAfter
    split
    case isTrue h => exact iff_of_true (plain_withHdr_some.mpr h.2) h.2
    case isFalse => rfl
  rw [sceneModesAfter_eq_self_iff, hplain, not_and]
  refine imp_congr_right fun _ => ?_
  -- "(null)" has no separator, so a list that is missing is not one that is refused
  cases sceneModes with
  | none =>
    refine iff_of_false (not_not_intro (by decide)) ?_
    rintro ⟨old, h, -⟩
    cases h
  | some old =>
    rw [plain_withHdr_some]
    refine ⟨fun h => ⟨old, rfl, h⟩, ?_⟩
    rintro ⟨old', hold', h⟩
    rwa [Option.some.inj hold']

/-- "hdr" is not to be added to the list of scene modes, or it is refused there. -/
def Lists.Settled (l : Lists) : Prop :=
  HasStillHdr l.sonyIsValues → ∃ old, l.sceneModes = some old ∧ ¬ Plain old

/-- The lists stay as they are once they have been returned. -/
theorem Lists.fixedUp_self_iff {l : Lists} : l.fixedUp.fixedUp = l.fixedUp ↔ l.Settled := by
  rw [Settled, ← sceneModesAfter_self_iff]
  constructor
  · exact fun h => congrArg Lists.sceneModes h
  · intro h
    unfold fixedUp
    rw [isoValuesAfter_self, h]

theorem Lists.Settled.sceneModes_fixedUp {l : Lists} (h : l.Settled) :
    l.fixedUp.sceneModes = l.sceneModes := by
  refine sceneModesAfter_eq_self_iff.mpr ?_
  rintro ⟨hstill, hplain⟩
  obtain ⟨old, hold, hrefused⟩ := h hstill
  rw [hold, plain_withHdr_some] at hplain
  exact hrefused hplain

theorem Lists.Settled.fixedUp {l : Lists} (h : l.Settled) : l.fixedUp.Settled := by
  unfold Settled
  rw [h.sceneModes_fixedUp]
  exact h

/-- If they stay as they are, they fit again. -/
theorem Lists.Fit.fixedUp {l : Lists} (h : l.Fit) (hsettled : l.Settled) : l.fixedUp.Fit := by
  refine ⟨?_, h.2⟩
  rw [hsettled.sceneModes_fixedUp]
  exact h.1

/-! ### Cycles -/

theorem cycle_eq_some_iff {memory : (size : ℕ) → Vector Char size} {id : ℤ}
    {vendor vendor' : VendorDevice} :
    cycle api memory id vendor = some vendor' ↔
      ∃ params, cameraGetParameters api memory id vendor = some params ∧
        cameraFixupSetparams api id params = some vendor'.parameters := by
  refine Option.bind_eq_some_iff.trans (exists_congr fun params => and_congr_right fun _ => ?_)
  refine Option.bind_eq_some_iff.trans ⟨?_, fun h => ⟨vendor'.parameters, h, rfl⟩⟩
  rintro ⟨sent, hset, hstored⟩
  obtain rfl := Option.some.inj hstored
  exact hset

theorem cycles_zero {memory : ℕ → (size : ℕ) → Vector Char size} {id : ℤ}
    {vendor : VendorDevice} : cycles api memory id 0 vendor = some vendor := rfl

theorem cycles_succ {memory : ℕ → (size : ℕ) → Vector Char size} {id : ℤ} {n : ℕ}
    {vendor : VendorDevice} :
    cycles api memory id (n + 1) vendor =
      (cycles api memory id n vendor).bind (cycle api (memory n) id) := rfl

/-- The lists of the vendor. -/
def VendorDevice.lists (api : CameraParameters Params) (vendor : VendorDevice) : Lists :=
  Camera.lists api (api.unflatten vendor.parameters)

/-- What the vendor stores can be read and written back without a fault, and the lists stay as they
are read. -/
structure VendorDevice.Ready (api : CameraParameters Params) (vendor : VendorDevice) : Prop where
  strings : (vendor.lists api).Strings
  fit : (vendor.lists api).Fit
  settled : (vendor.lists api).Settled
  safe : (exposure api (api.unflatten vendor.parameters)).Safe

namespace CameraParameters.Refuses

variable (hapi : api.Refuses)
include hapi

theorem getparams_fixedUp {memory : (size : ℕ) → Vector Char size} {id : ℤ}
    {vendor : VendorDevice} {returned : String} (hp : (vendor.lists api).Strings)
    (h : cameraGetParameters api memory id vendor = some returned) :
    lists api (api.unflatten returned) = (vendor.lists api).fixedUp := by
  obtain ⟨-, -, -, hvalues⟩ := (getparamsBuffers_eq_some_iff hapi hp).mp h
  obtain ⟨hiso, hscene⟩ := hapi.getparams_lists hvalues
  rw [getparams_eq] at hvalues
  obtain ⟨p, hae, rfl⟩ := Option.map_eq_some_iff.mp hvalues
  have hbefore := hapi.beforeAeMode_same id (api.unflatten vendor.parameters)
  have hsame := hapi.fixupAeMode_same hae
  -- the lists of the vendor are not written
  unfold VendorDevice.lists lists Lists.fixedUp
  rw [hiso, hscene, hapi.get_unflatten, hapi.get_unflatten, hsame _ (by decide),
    hsame _ (by decide), hbefore _ (by decide), hbefore _ (by decide)]

/-- **The lists after a cycle.** -/
theorem cycle_lists {memory : (size : ℕ) → Vector Char size} {id : ℤ}
    {vendor vendor' : VendorDevice} (hp : (vendor.lists api).Strings)
    (h : cycle api memory id vendor = some vendor') :
    vendor'.lists api = (vendor.lists api).fixedUp := by
  obtain ⟨params, hget, hset⟩ := cycle_eq_some_iff.mp h
  have hsame := hapi.setparams_same hset
  rw [← hapi.getparams_fixedUp hp hget]
  unfold VendorDevice.lists lists
  rw [hsame _ (by decide), hsame _ (by decide), hsame _ (by decide), hsame _ (by decide)]

/-- The lists after any number of cycles. -/
theorem cycles_lists {memory : ℕ → (size : ℕ) → Vector Char size} {id : ℤ} {n : ℕ}
    {vendor vendor' : VendorDevice} (hp : (vendor.lists api).Strings)
    (h : cycles api memory id n vendor = some vendor') :
    vendor'.lists api = Lists.fixedUp^[n] (vendor.lists api) ∧ (vendor'.lists api).Strings := by
  induction n generalizing vendor' with
  | zero =>
    obtain rfl := Option.some.inj h
    exact ⟨rfl, hp⟩
  | succ n ih =>
    obtain ⟨vendor₁, hfirst, hlast⟩ := Option.bind_eq_some_iff.mp h
    obtain ⟨hlists, hstrings⟩ := ih hfirst
    have hcycle := hapi.cycle_lists hstrings hlast
    refine ⟨?_, hcycle ▸ hstrings.fixedUp⟩
    rw [hcycle, hlists, Function.iterate_succ_apply']

/-- The parameters can be read, and set as they were read. -/
theorem cycle_returns (memory : (size : ℕ) → Vector Char size) (id : ℤ) {vendor : VendorDevice}
    (hp : (vendor.lists api).Strings) (hfit : (vendor.lists api).Fit)
    (hsafe : (exposure api (api.unflatten vendor.parameters)).Safe) :
    ∃ params vendor', cameraGetParameters api memory id vendor = some params ∧
      cycle api memory id vendor = some vendor' ∧
        (exposure api (api.unflatten vendor'.parameters)).Safe := by
  -- reading leaves what can be set, and setting what is safe
  obtain ⟨hreadable, hgot⟩ := hapi.getparams_exposure memory id hp
  obtain ⟨params, hget⟩ := hreadable.mp ⟨hfit, hsafe.readable⟩
  obtain ⟨hwritable, hput⟩ := hapi.setparams_exposure id params
  obtain ⟨sent, hset⟩ := hwritable.mp (hsafe.writable (hgot params hget))
  exact ⟨params, ⟨sent⟩, hget, cycle_eq_some_iff.mpr ⟨params, hget, hset⟩,
    hsafe.cycle (hgot params hget) (hput sent hset)⟩

/-- **Any number of cycles returns.** -/
theorem cycles_return (memory : ℕ → (size : ℕ) → Vector Char size) (id : ℤ)
    {vendor : VendorDevice} (h : vendor.Ready api) (n : ℕ) :
    ∃ vendor', cycles api memory id n vendor = some vendor' ∧ vendor'.Ready api := by
  -- a cycle keeps the parameters ready, so the next one returns as well
  induction n with
  | zero => exact ⟨vendor, rfl, h⟩
  | succ n ih =>
    obtain ⟨vendor₁, hfirst, hready⟩ := ih
    obtain ⟨-, vendor₂, -, hlast, hsafe⟩ :=
      hapi.cycle_returns (memory n) id hready.strings hready.fit hready.safe
    have hlists := hapi.cycle_lists hready.strings hlast
    refine ⟨vendor₂, ?_, hlists ▸ hready.strings.fixedUp, ?_, ?_, hsafe⟩
    · rw [cycles_succ, hfirst]
      exact hlast
    · exact hlists ▸ hready.fit.fixedUp hready.settled
    · exact hlists ▸ hready.settled.fixedUp

/-- Two cycles that return show that the parameters are safe and the lists fit. -/
theorem safe_of_two_cycles {memory : ℕ → (size : ℕ) → Vector Char size} {id : ℤ}
    {vendor vendor' : VendorDevice} (hp : (vendor.lists api).Strings)
    (h : cycles api memory id 2 vendor = some vendor') :
    (exposure api (api.unflatten vendor.parameters)).Safe ∧ (vendor.lists api).Fit := by
  obtain ⟨vendor₁, hfirst, hsecond⟩ := Option.bind_eq_some_iff.mp h
  obtain ⟨params, hget, hset⟩ := cycle_eq_some_iff.mp hfirst
  -- of the second cycle the reading is enough
  obtain ⟨params₁, hget₁, -⟩ := cycle_eq_some_iff.mp hsecond
  have hp₁ : (vendor₁.lists api).Strings := hapi.cycle_lists hp hfirst ▸ hp.fixedUp
  obtain ⟨hreadable, hgot⟩ := hapi.getparams_exposure (memory 0) id hp
  obtain ⟨hreadable₁, -⟩ := hapi.getparams_exposure (memory 1) id hp₁
  obtain ⟨hwritable, hput⟩ := hapi.setparams_exposure id params
  obtain ⟨hfit, hfirstReadable⟩ := hreadable.mpr ⟨params, hget⟩
  refine ⟨Exposure.safe_of_cycle hfirstReadable (hgot params hget)
    (hwritable.mpr ⟨_, hset⟩) (hput _ hset) (hreadable₁.mpr ⟨params₁, hget₁⟩).2, hfit⟩

end CameraParameters.Refuses

/-- The lists of the scene modes and of the ISO modes are the same in both maps. These are the lists
that the wrapper writes when the parameters are read. -/
def SameLists (api : CameraParameters Params) (p p' : Params) : Prop :=
  api.get p' keySupportedSceneModes = api.get p keySupportedSceneModes ∧
    api.get p' keySupportedIsoModes = api.get p keySupportedIsoModes

/-- **The lists stay as they are.** However often what is read is set again, the lists are those
that were read first, if and only if no call goes through a null pointer or copies the ISO mode of
the vendor, both lists fit in their arrays, and "hdr" cannot be added to the list of scene modes. -/
theorem lists_stable_iff (hapi : api.Refuses) (memory : ℕ → (size : ℕ) → Vector Char size) (id : ℤ)
    {vendor : VendorDevice} (hp : CStrings api (api.unflatten vendor.parameters)) :
    (∃ first, cameraGetParameters api (memory 0) id vendor = some first ∧
        ∀ n, 1 ≤ n → ∃ vendor', cycles api memory id n vendor = some vendor' ∧
          SameLists api (api.unflatten first) (api.unflatten vendor'.parameters)) ↔
      (exposure api (api.unflatten vendor.parameters)).Safe ∧
        IsoModesFit (api.get (api.unflatten vendor.parameters) keySonyIsoAvailModes) ∧
        (HasStillHdr (api.get (api.unflatten vendor.parameters) keySonyImageStabiliserValues) →
          ∃ old, api.get (api.unflatten vendor.parameters) keySupportedSceneModes = some old ∧
            ¬ Plain old ∧ (old ++ ",hdr").length < 512) := by
  have hstrings : (vendor.lists api).Strings := hp.lists
  constructor
  · -- two cycles show all of it: that the calls return, and that the lists stay
    rintro ⟨first, hfirst, hsame⟩
    obtain ⟨vendor', hcycles, hscene, hiso⟩ := hsame 2 (by decide)
    obtain ⟨hsafe, hscenes, hisoModes⟩ := hapi.safe_of_two_cycles hstrings hcycles
    obtain ⟨htwice, -⟩ := hapi.cycles_lists hstrings hcycles
    have honce := hapi.getparams_fixedUp hstrings hfirst
    -- the second cycle changes nothing, so the lists are fixed points
    have hsettled : (vendor.lists api).Settled := by
      refine Lists.fixedUp_self_iff.mp ?_
      calc (vendor.lists api).fixedUp.fixedUp
          = lists api (api.unflatten vendor'.parameters) := htwice.symm
        _ = lists api (api.unflatten first) := ?_
        _ = (vendor.lists api).fixedUp := honce
      -- the lists of the vendor are never written
      have hall := htwice.trans (congrArg Lists.fixedUp honce.symm)
      have hsonyIso := congrArg Lists.sonyIsoValues hall
      have hsonyIs := congrArg Lists.sonyIsValues hall
      unfold lists
      rw [Lists.mk.injEq]
      exact ⟨hsonyIso, hiso, hsonyIs, hscene⟩
    -- the conditions of the first cycle are those on the map of the vendor
    refine ⟨hsafe, hisoModes, fun hstill => ?_⟩
    obtain ⟨old, hold, hplain⟩ := hsettled hstill
    have hlength := hscenes hstill
    rw [hold] at hlength
    exact ⟨old, hold, hplain, hlength⟩
  · -- the other way every cycle returns
    rintro ⟨hsafe, hisoModes, hhdr⟩
    have hready : vendor.Ready api := by
      refine ⟨hstrings, ⟨fun hstill => ?_, hisoModes⟩, fun hstill => ?_, hsafe⟩
      · obtain ⟨old, hold, -, hlength⟩ := hhdr hstill
        show (withHdr (api.get _ keySupportedSceneModes)).length < 512
        rw [hold]
        exact hlength
      · obtain ⟨old, hold, hplain, -⟩ := hhdr hstill
        exact ⟨old, hold, hplain⟩
    obtain ⟨first, -, hfirst, -, -⟩ :=
      hapi.cycle_returns (memory 0) id hready.strings hready.fit hready.safe
    refine ⟨first, hfirst, fun n hn => ?_⟩
    -- after the first cycle the lists are a fixed point
    obtain ⟨vendor', hcycles, -⟩ := hapi.cycles_return memory id hready n
    obtain ⟨hlists, -⟩ := hapi.cycles_lists hstrings hcycles
    -- from the first reading on the lists are iterates of a fixed point
    have hsame : vendor'.lists api = lists api (api.unflatten first) := by
      obtain ⟨k, rfl⟩ := Nat.exists_eq_add_of_le' hn
      rw [hlists, hapi.getparams_fixedUp hstrings hfirst, Function.iterate_succ_apply]
      exact Function.iterate_fixed (Lists.fixedUp_self_iff.mpr hready.settled) k
    exact ⟨vendor', hcycles, congrArg Lists.sceneModes hsame, congrArg Lists.isoValues hsame⟩

end Maps

/-- Two ISO modes of the vendor, an AE mode without a copy, and a list of scene modes that cannot be
set again. -/
def settledScenes : ParameterMap where
  entries :=
    [("scene-mode-values", "auto=1,night"), ("sony-ae-mode", "auto"),
      ("sony-ae-mode-values", "auto,manual"), ("sony-is-values", "on-still-hdr"),
      ("sony-iso", "100"), ("sony-iso-values", "100,200")]
  sorted := by
    unfold KeyValues.Sorted
    decide
  plain := by decide

/-- A vendor whose list of scene modes has an equal sign in it: the map refuses the longer list, so
the lists stay as they are from the first reading on. -/
theorem lists_stable_iff_settledScenes :
    ∃ first, cameraGetParameters parameterMap cleared 0 ⟨parameterMap.flatten settledScenes⟩ =
        some first ∧
      ∀ n, 1 ≤ n → ∃ vendor',
        cycles parameterMap (fun _ => cleared) 0 n ⟨parameterMap.flatten settledScenes⟩ =
          some vendor' ∧
        SameLists parameterMap (parameterMap.unflatten first)
          (parameterMap.unflatten vendor'.parameters) := by
  -- the list of scene modes has an equal sign in it, so the map refuses the longer list
  have hget := parameterMap_lawful.get_unflatten settledScenes
  have hmodes : parameterMap.get settledScenes keySonyAeModeValues = some "auto,manual" := by decide
  have hmode : parameterMap.get settledScenes keySonyAeMode = some "auto" := by decide
  have hsony : parameterMap.get settledScenes keySonyIsoMode = some "100" := by decide
  have hisoModes : parameterMap.get settledScenes keySonyIsoAvailModes = some "100,200" := by decide
  have hscenes : parameterMap.get settledScenes keySupportedSceneModes = some "auto=1,night" := by
    decide
  refine (@lists_stable_iff _ _ parameterMap_refuses (fun _ => cleared) 0
    ⟨parameterMap.flatten settledScenes⟩ (cStrings_of_entries (by decide))).mpr
    ⟨?_, fun v hv => ?_, fun _ => ⟨"auto=1,night", (hget _).trans hscenes, by decide, by decide⟩⟩
  · -- the mode "auto" is read, and copies nothing
    rw [parameterMap_refuses.exposure_unflatten]
    refine ⟨fun hnone => ?_, fun _ _ => ?_, fun m _ hnone => ?_⟩
    · exact absurd (hmodes.symm.trans hnone) (Option.some_ne_none _)
    · show (parameterMap.get settledScenes keySonyAeMode).isSome ∧
        ¬ CopiesIso (parameterMap.get settledScenes keySonyAeMode)
      rw [hmode]
      exact ⟨rfl, by simp [CopiesIso]⟩
    · exact absurd (hsony.symm.trans hnone) (Option.some_ne_none _)
  · -- the list of two ISO modes fits
    rw [hget, hisoModes] at hv
    rw [← Option.some.inj hv]
    decide

/-- A camera with an HDR mode. -/
def stillHdr : ParameterMap :=
  ((ParameterMap.unflatten "").set keySonyImageStabiliserValues "on-still-hdr").set
    keySupportedSceneModes "auto"

/-- Each cycle adds "hdr" once more. The name is put behind the list without a look at whether it is
there, and the vendor has stored the list of the cycle before. -/
theorem scene_modes_grow :
    ∃ first vendor', cameraGetParameters parameterMap cleared 0 ⟨parameterMap.flatten stillHdr⟩ =
        some first ∧
      cycles parameterMap (fun _ => cleared) 0 2 ⟨parameterMap.flatten stillHdr⟩ = some vendor' ∧
      parameterMap.get (parameterMap.unflatten first) keySupportedSceneModes =
        some "auto,hdr" ∧
      parameterMap.get (parameterMap.unflatten vendor'.parameters) keySupportedSceneModes =
        some "auto,hdr,hdr" := by
  -- no ISO mode and no AE mode, and one scene mode
  have hstrings : (VendorDevice.lists parameterMap ⟨parameterMap.flatten stillHdr⟩).Strings :=
    (cStrings_of_entries (by decide)).lists
  have hsafe : (exposure parameterMap
      (parameterMap.unflatten (parameterMap.flatten stillHdr))).Safe := by
    rw [parameterMap_refuses.exposure_unflatten]
    exact Exposure.safe_of_none (by decide) (by decide) (by decide)
  have hlists : VendorDevice.lists parameterMap ⟨parameterMap.flatten stillHdr⟩ =
      ⟨none, none, some "on-still-hdr", some "auto"⟩ := by
    unfold VendorDevice.lists lists
    simp only [parameterMap_lawful.get_unflatten, Lists.mk.injEq]
    decide
  -- both lists fit in the two cycles
  obtain ⟨first, vendor₁, hfirst, hcycle, hsafe₁⟩ := parameterMap_refuses.cycle_returns cleared 0
    hstrings (hlists ▸ ⟨fun _ => by decide, nofun⟩) hsafe
  have hlists₁ := parameterMap_refuses.cycle_lists hstrings hcycle
  obtain ⟨-, vendor₂, -, hcycle₂, -⟩ := parameterMap_refuses.cycle_returns cleared 0
    (hlists₁ ▸ hstrings.fixedUp) (hlists₁ ▸ hlists ▸ ⟨fun _ => by decide, nofun⟩) hsafe₁
  have hlists₂ := parameterMap_refuses.cycle_lists (hlists₁ ▸ hstrings.fixedUp) hcycle₂
  -- the first reading gives the list with one more name, and two cycles give it two
  have honce := parameterMap_refuses.getparams_fixedUp hstrings hfirst
  rw [hlists₁, hlists] at hlists₂
  rw [hlists] at honce
  -- the two cycles are one after the other
  refine ⟨first, vendor₂, hfirst, ?_, ?_, ?_⟩
  · rw [cycles_succ, cycles_succ, cycles_zero, Option.bind_some, hcycle, Option.bind_some]
    exact hcycle₂
  · exact (congrArg Lists.sceneModes honce).trans (by decide)
  · exact (congrArg Lists.sceneModes hlists₂).trans (by decide)

end Camera

end BlueCommon
