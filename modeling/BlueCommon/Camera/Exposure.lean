import BlueCommon.Camera.Buffers

/-!
# The exposure of the camera wrapper

Both functions of the wrapper compare the AE mode of the vendor and the ISO mode of the application
without a check that they are there, or that the ISO mode begins with "ISO". In two of the AE modes
the ISO mode of the vendor is copied into an array that is too short for it.

* `Exposure`: the parameters that decide whether a call faults there. `Readable` and `Writable`:
  when it does not. `Got`, `Put`: what the two functions make of these parameters.
* `Exposure.Safe`: parameters that can be read and written back any number of times. `Safe.cycle`: a
  cycle keeps this; `safe_of_cycle`: nothing less is enough.
* `getparams_exposure`, `setparams_exposure`: the functions and the exposure.
-/

namespace BlueCommon

namespace Camera

/-! ### The exposure -/

/-- The parameters of the exposure. -/
structure Exposure where
  aeModes : Option String
  aeMode : Option String
  sonyIso : Option String
  iso : Option String
  shutterSpeed : Option String

/-- `isoMode + 3` is behind the end of the ISO mode. -/
def ShortIso (iso : Option String) : Prop := ∃ i, iso = some i ∧ i ≠ "auto" ∧ i.length < 3

theorem not_shortIso_none : ¬ ShortIso none := by simp [ShortIso]

theorem shortIso_some {i : String} : ShortIso (some i) ↔ i ≠ "auto" ∧ i.length < 3 := by
  simp [ShortIso]

/-- The shutter speed sets the AE mode. -/
def SelectsAeMode (aeModes : String) (shutterSpeed : Option String) : Prop :=
  ∃ s, shutterSpeed = some s ∧ (s ≠ "auto" ∨ strstr aeModes "auto")

theorem not_selectsAeMode_none {m : String} : ¬ SelectsAeMode m none := by simp [SelectsAeMode]

theorem selectsAeMode_some {m s : String} :
    SelectsAeMode m (some s) ↔ s ≠ "auto" ∨ strstr m "auto" := by
  simp [SelectsAeMode]

/-- The AE mode is read for the ISO mode. -/
def ReadsAeMode (aeModes : String) (iso : Option String) : Prop :=
  ∃ i, iso = some i ∧ strstr aeModes (if i = "auto" then "auto" else "iso-prio")

theorem not_readsAeMode_none {m : String} : ¬ ReadsAeMode m none := by simp [ReadsAeMode]

theorem readsAeMode_some {m i : String} :
    ReadsAeMode m (some i) ↔ strstr m (if i = "auto" then "auto" else "iso-prio") := by
  simp [ReadsAeMode]

/-- The ISO mode without "ISO". -/
def withoutIso (i : String) : String := String.ofList (i.toList.drop 3)

/-- An ISO mode of the vendor is set for the ISO mode. -/
def SetsSonyIso (iso : Option String) : Prop :=
  ∃ i, iso = some i ∧ i ≠ "auto" ∧ Plain (withoutIso i) ∧ withoutIso i ≠ ""

theorem not_setsSonyIso_none : ¬ SetsSonyIso none := by simp [SetsSonyIso]

theorem setsSonyIso_some {i : String} :
    SetsSonyIso (some i) ↔ i ≠ "auto" ∧ Plain (withoutIso i) ∧ withoutIso i ≠ "" := by
  simp [SetsSonyIso]

/-- With these AE modes the ISO mode of the vendor is copied. -/
def CopiesIso (aeMode : Option String) : Prop := aeMode = some "iso-prio" ∨ aeMode = some "manual"

/-- The ISO mode sets an AE mode with which it is copied. -/
def SetsCopyMode (aeModes : String) (iso : Option String) : Prop :=
  ∃ i, iso = some i ∧ i ≠ "auto" ∧ strstr aeModes "iso-prio"

theorem not_setsCopyMode_none {m : String} : ¬ SetsCopyMode m none := by simp [SetsCopyMode]

theorem setsCopyMode_some {m i : String} :
    SetsCopyMode m (some i) ↔ i ≠ "auto" ∧ strstr m "iso-prio" := by
  simp [SetsCopyMode]

namespace Exposure

/-- The parameters can be read. -/
def Readable (x : Exposure) : Prop :=
  x.sonyIso.isSome → x.aeModes.isSome → x.aeMode.isSome ∧ ¬ CopiesIso x.aeMode

/-- What is read. -/
structure Got (x y : Exposure) : Prop where
  aeModes : y.aeModes = x.aeModes
  aeMode : y.aeMode = x.aeMode
  sonyIso : y.sonyIso = x.sonyIso
  unchanged : x.sonyIso = none ∨ x.aeModes = none → y = x
  iso : x.sonyIso.isSome → x.aeModes.isSome → y.iso = some "auto"

/-- The parameters can be set. -/
structure Writable (y : Exposure) : Prop where
  shutterSpeed : y.shutterSpeed = some "auto" → y.aeModes.isSome
  iso : ¬ ShortIso y.iso
  aeMode : ∀ m, y.aeModes = some m → ReadsAeMode m y.iso →
    y.aeMode.isSome ∨ SelectsAeMode m y.shutterSpeed

/-- What is stored. -/
structure Put (y z : Exposure) : Prop where
  aeModes : z.aeModes = y.aeModes
  iso : z.iso = y.iso
  shutterSpeed : z.shutterSpeed = y.shutterSpeed
  aeMode : ∀ m, y.aeModes = some m →
    (z.aeMode.isSome ↔ y.aeMode.isSome ∨ SelectsAeMode m y.shutterSpeed)
  copies : ∀ m, y.aeModes = some m →
    (CopiesIso z.aeMode ↔ SetsCopyMode m y.iso ∨
      CopiesIso y.aeMode ∧ ¬ SelectsAeMode m y.shutterSpeed ∧ ¬ ReadsAeMode m y.iso)
  sonyIso : y.sonyIso = none → (z.sonyIso.isSome ↔ SetsSonyIso y.iso)

/-- No call faults, however often the parameters are read and written back. The conditions are on
the first map alone; the last of them is about an ISO mode of the vendor that the first writing back
may have put there. -/
structure Safe (x : Exposure) : Prop where
  noAeModes : x.aeModes = none → x.shutterSpeed ≠ some "auto" ∧ ¬ ShortIso x.iso
  readable : x.Readable
  noSonyIso : ∀ m, x.aeModes = some m → x.sonyIso = none →
    ¬ ShortIso x.iso ∧
      (ReadsAeMode m x.iso → x.aeMode.isSome ∨ SelectsAeMode m x.shutterSpeed) ∧
      (SetsSonyIso x.iso → ¬ strstr m "iso-prio" ∧
        (SelectsAeMode m x.shutterSpeed ∨ x.aeMode.isSome ∧ ¬ CopiesIso x.aeMode))

variable {x y z : Exposure}

/-- Parameters that are safe can be written back once they have been read. By what was read: nothing
without AE modes or without an ISO mode of the vendor, and otherwise the ISO mode "auto". -/
theorem Safe.writable (h : x.Safe) (hgot : Got x y) : y.Writable := by
  cases hmodes : x.aeModes with
  | none =>
    -- without AE modes nothing has been read
    obtain ⟨hspeed, hiso⟩ := h.noAeModes hmodes
    obtain rfl := hgot.unchanged (.inr hmodes)
    refine ⟨fun hauto => absurd hauto hspeed, hiso, fun m hm => ?_⟩
    rw [hmodes] at hm
    cases hm
  | some m =>
    have hsome : x.aeModes.isSome := Option.isSome_of_eq_some hmodes
    have hspeed : y.shutterSpeed = some "auto" → y.aeModes.isSome := by
      intro _
      rw [hgot.aeModes]
      exact hsome
    cases hsony : x.sonyIso with
    | none =>
      obtain rfl := hgot.unchanged (.inl hsony)
      obtain ⟨hiso, hreads, -⟩ := h.noSonyIso m hmodes hsony
      refine ⟨hspeed, hiso, fun m' hm' => ?_⟩
      obtain rfl := Option.some.inj (hmodes.symm.trans hm')
      exact hreads
    | some sonyIso =>
      -- the ISO mode that has been read is "auto"
      have hsony' := Option.isSome_of_eq_some hsony
      refine ⟨hspeed, ?_, fun _ _ _ => .inl ?_⟩
      · rw [hgot.iso hsony' hsome]
        exact fun hshort => (shortIso_some.mp hshort).1 rfl
      · rw [hgot.aeMode]
        exact (h.readable hsony' hsome).1

/-- **A cycle keeps the parameters safe.** Either the ISO mode that is read is "auto", which selects
no AE mode with a copy; or the vendor had none and may now have that of the application, which is
what the last condition is about. -/
theorem Safe.cycle (h : x.Safe) (hgot : Got x y) (hput : Put y z) : z.Safe := by
  have hmodes : z.aeModes = x.aeModes := hput.aeModes.trans hgot.aeModes
  refine ⟨fun hnone => ?_, fun hzsony hzmodes => ?_, fun m hm hzsony => ?_⟩
  · -- nothing has been read, and what is set here is not what is asked for
    rw [hmodes] at hnone
    obtain rfl := hgot.unchanged (.inr hnone)
    rw [hput.shutterSpeed, hput.iso]
    exact h.noAeModes hnone
  · rw [hmodes] at hzmodes
    obtain ⟨m, hm⟩ := Option.isSome_iff_exists.mp hzmodes
    have hmy : y.aeModes = some m := hgot.aeModes.trans hm
    rw [hput.aeMode m hmy, hput.copies m hmy]
    cases hsony : x.sonyIso with
    | some sonyIso =>
      -- the AE mode is one without a copy, and the ISO mode "auto" selects no other
      have hsony' := Option.isSome_of_eq_some hsony
      obtain ⟨hmode, hcopies⟩ := h.readable hsony' hzmodes
      rw [hgot.iso hsony' hzmodes, hgot.aeMode]
      refine ⟨.inl hmode, ?_⟩
      rintro (hsets | ⟨hcopies', -⟩)
      · exact (setsCopyMode_some.mp hsets).1 rfl
      · exact hcopies hcopies'
    | none =>
      -- the ISO mode of the vendor has been set from that of the application
      obtain rfl := hgot.unchanged (.inl hsony)
      obtain ⟨-, -, hsets⟩ := h.noSonyIso m hm hsony
      obtain ⟨hprio, hmode⟩ := hsets ((hput.sonyIso hsony).mp hzsony)
      refine ⟨hmode.elim .inr fun hboth => .inl hboth.1, ?_⟩
      rintro (⟨i, -, -, hin⟩ | ⟨hcopies, hselects, -⟩)
      · exact hprio hin
      · exact hmode.elim hselects fun hboth => hboth.2 hcopies
  · have hmx : x.aeModes = some m := hmodes.symm.trans hm
    have hmy : y.aeModes = some m := hput.aeModes.symm.trans hm
    rw [hput.iso, hput.shutterSpeed, hput.aeMode m hmy]
    cases hsony : x.sonyIso with
    | some sonyIso =>
      have hsony' := Option.isSome_of_eq_some hsony
      have hmodes' := Option.isSome_of_eq_some hmx
      rw [hgot.iso hsony' hmodes', hgot.aeMode]
      refine ⟨fun hshort => (shortIso_some.mp hshort).1 rfl, fun _ => ?_, fun hsets => ?_⟩
      · exact .inl (.inl (h.readable hsony' hmodes').1)
      · exact absurd rfl (setsSonyIso_some.mp hsets).1
    | none =>
      obtain rfl := hgot.unchanged (.inl hsony)
      obtain ⟨hiso, hreads, -⟩ := h.noSonyIso m hmx hsony
      refine ⟨hiso, fun hread => .inl (hreads hread), fun hsets => ?_⟩
      -- then there would be an ISO mode of the vendor now
      have hsome := (hput.sonyIso hsony).mpr hsets
      rw [hzsony] at hsome
      exact absurd hsome Bool.false_ne_true

theorem safe_of_none (hmodes : x.aeModes = none) (hspeed : x.shutterSpeed = none)
    (hiso : x.iso = none) : x.Safe := by
  refine ⟨fun _ => ⟨?_, ?_⟩, fun _ h => ?_, fun _ h => ?_⟩
  · rw [hspeed]
    exact (Option.some_ne_none "auto").symm
  · rw [hiso]
    exact not_shortIso_none
  · rw [hmodes] at h
    exact absurd h Bool.false_ne_true
  · rw [hmodes] at h
    cases h

/-- Parameters that can be read, set and read again are safe. -/
theorem safe_of_cycle (hx : x.Readable) (hgot : Got x y) (hy : y.Writable) (hput : Put y z)
    (hz : z.Readable) : x.Safe := by
  refine ⟨fun hnone => ?_, hx, fun m hm hsony => ?_⟩
  · -- without AE modes the first reading changes nothing
    obtain rfl := hgot.unchanged (.inr hnone)
    refine ⟨fun hauto => ?_, hy.iso⟩
    have hsome := hy.shutterSpeed hauto
    rw [hnone] at hsome
    exact Bool.false_ne_true hsome
  · -- without an ISO mode of the vendor it changes nothing either
    obtain rfl := hgot.unchanged (.inl hsony)
    refine ⟨hy.iso, hy.aeMode m hm, fun hsets => ?_⟩
    -- the second reading finds an ISO mode of the vendor, and must not copy it
    obtain ⟨hmode, hcopies⟩ := hz ((hput.sonyIso hsony).mpr hsets)
      (Option.isSome_of_eq_some (hput.aeModes.trans hm))
    rw [hput.aeMode m hm] at hmode
    rw [hput.copies m hm] at hcopies
    obtain ⟨i, hi, hauto, -⟩ := hsets
    -- so the mode that would copy it is not offered
    have hprio : ¬ strstr m "iso-prio" := fun hin => hcopies (.inl ⟨i, hi, hauto, hin⟩)
    have hreads : ¬ ReadsAeMode m y.iso := by
      rw [hi, readsAeMode_some, if_neg hauto]
      exact hprio
    -- what is left is the mode that was there before
    refine ⟨hprio, or_iff_not_imp_left.mpr fun hselects => ⟨hmode.resolve_right hselects, ?_⟩⟩
    exact fun hcopies' => hcopies (.inr ⟨hcopies', hselects, hreads⟩)

end Exposure

/-! ### What the calls do to the exposure -/

section Maps

variable {Params : Type} {api : CameraParameters Params}

/-- The exposure of a map: the five parameters that decide whether the two functions go through a
null pointer or copy an ISO mode. -/
def exposure (api : CameraParameters Params) (p : Params) : Exposure where
  aeModes := api.get p keySonyAeModeValues
  aeMode := api.get p keySonyAeMode
  sonyIso := api.get p keySonyIsoMode
  iso := api.get p keyIsoMode
  shutterSpeed := api.get p keyShutterSpeed

def exposureKeys : List String :=
  [keySonyAeModeValues, keySonyAeMode, keySonyIsoMode, keyIsoMode, keyShutterSpeed]

theorem exposure_of_same {keys : List String} {p p' : Params} (h : SameExcept api keys p p')
    (hkeys : ∀ key ∈ exposureKeys, key ∉ keys) : exposure api p' = exposure api p := by
  simp only [exposureKeys, List.forall_mem_cons] at hkeys
  obtain ⟨hmodes, hmode, hsony, hiso, hspeed, -⟩ := hkeys
  unfold exposure
  rw [h _ hmodes, h _ hmode, h _ hsony, h _ hiso, h _ hspeed]

namespace CameraParameters.Refuses

variable (hapi : api.Refuses)
include hapi

theorem exposure_unflatten (p : Params) :
    exposure api (api.unflatten (api.flatten p)) = exposure api p := by
  unfold exposure
  simp only [hapi.get_unflatten]

/-! #### Reading -/

/-- Without a copy the ISO mode is "auto". Two of the five branches copy the ISO mode of the vendor,
and the other three set the value that the map takes. -/
theorem fixupAeMode_iso {p p' : Params} (h : fixupAeMode api p = some p')
    (hsony : (api.get p keySonyIsoMode).isSome) (hmodes : (api.get p keySonyAeModeValues).isSome)
    (hcopies : ¬ CopiesIso (api.get p keySonyAeMode)) :
    api.get p' keyIsoMode = some "auto" := by
  -- the value "auto" is one that the map takes
  have hauto (q : Params) : api.get (api.set q keyIsoMode "auto") keyIsoMode = some "auto" :=
    hapi.get_set q keyIsoMode "auto" (by decide) (by decide) (by decide)
  unfold fixupAeMode at h
  -- both parameters are there, so the AE mode is read
  rw [if_pos hsony, if_pos hmodes] at h
  obtain ⟨aeMode, hmode, h⟩ := Option.bind_eq_some_iff.mp h
  rw [hmode] at hcopies
  -- of the five branches two are excluded
  split at h
  -- the mode "auto"
  case isTrue =>
    obtain rfl := Option.some.inj h
    rw [hapi.get_set_of_ne _ _ _ _ (by decide), hauto]
  split at h
  case isTrue heq => exact absurd (.inl (congrArg some heq)) hcopies
  split at h
  -- the mode of the shutter speed, which sets the ISO mode and copies the other
  case isTrue =>
    obtain rfl := Option.some.inj h
    rw [hapi.copyShutterSpeed_same _ _ (by decide), hauto]
  split at h
  case isTrue heq => exact absurd (.inr (congrArg some heq)) hcopies
  -- any other mode is treated as "auto"
  case isFalse =>
    obtain rfl := Option.some.inj h
    rw [hapi.get_set_of_ne _ _ _ _ (by decide), hauto]

theorem fixupAeMode_got {p p' : Params} (h : fixupAeMode api p = some p')
    (hcopies : NoIsoCopy (api.get p keySonyIsoMode) (api.get p keySonyAeModeValues)
      (api.get p keySonyAeMode)) :
    (exposure api p).Got (exposure api p') := by
  have hsame := hapi.fixupAeMode_same h
  refine ⟨hsame _ (by decide), hsame _ (by decide), hsame _ (by decide), fun hnone => ?_,
    fun hsony hmodes => hapi.fixupAeMode_iso h hsony hmodes (not_or.mpr (hcopies hsony hmodes))⟩
  obtain rfl := Option.some.inj ((fixupAeMode_of_none hnone).symm.trans h)
  rfl

/-- **Reading.** The call returns exactly if the lists fit and the exposure can be read, and then
the exposure has become what `Got` says. The blocks before that of the AE mode do not touch it. -/
theorem getparams_exposure (memory : (size : ℕ) → Vector Char size) (id : ℤ) {settings : String}
    (hp : (lists api (api.unflatten settings)).Strings) :
    ((lists api (api.unflatten settings)).Fit ∧ (exposure api (api.unflatten settings)).Readable ↔
        ∃ returned, cameraFixupGetparamsBuffers api memory id settings = some returned) ∧
      ∀ returned, cameraFixupGetparamsBuffers api memory id settings = some returned →
        (exposure api (api.unflatten settings)).Got (exposure api (api.unflatten returned)) := by
  -- the blocks before do not touch the exposure
  have hbefore : exposure api (beforeAeMode api id (api.unflatten settings)) =
      exposure api (api.unflatten settings) :=
    exposure_of_same (hapi.beforeAeMode_same id _) (by decide)
  simp only [getparamsBuffers_eq_some_iff hapi hp, getparams_eq]
  constructor
  · constructor
    · -- the arrays are large enough and the AE mode is there: the call returns
      rintro ⟨⟨hscenes, hiso⟩, hreadable⟩
      obtain ⟨p, hae⟩ := (aeMode_returns_iff hapi).mpr fun hsony hmodes =>
        (hreadable hsony hmodes).1
      refine ⟨api.flatten p, hscenes, hiso, fun hsony hmodes => ?_, ?_⟩
      · exact not_or.mp (hreadable hsony hmodes).2
      · rw [hae]
        rfl
    · -- the call has returned, so each of its blocks has
      rintro ⟨returned, hscenes, hiso, hcopies, hmap⟩
      obtain ⟨p, hae, -⟩ := Option.map_eq_some_iff.mp hmap
      refine ⟨⟨hscenes, hiso⟩, fun hsony hmodes => ⟨?_, not_or.mpr (hcopies hsony hmodes)⟩⟩
      exact (aeMode_returns_iff hapi).mp ⟨p, hae⟩ hsony hmodes
  · -- what it returned is what the block of the AE mode gives
    rintro returned ⟨-, -, hcopies, hmap⟩
    obtain ⟨p, hae, rfl⟩ := Option.map_eq_some_iff.mp hmap
    rw [hapi.exposure_unflatten, ← hbefore]
    refine hapi.fixupAeMode_got hae ?_
    have hsame := hapi.beforeAeMode_same id (api.unflatten settings)
    rwa [hsame _ (by decide), hsame _ (by decide), hsame _ (by decide)]

end CameraParameters.Refuses

/-! #### Setting -/

theorem setShutterSpeed_of_none {p : Params} (h : api.get p keyShutterSpeed = none) :
    setShutterSpeed api p = some p := by
  unfold setShutterSpeed
  rw [h]

theorem setShutterSpeed_of_ne {p : Params} {s : String} (h : api.get p keyShutterSpeed = some s)
    (hne : s ≠ "auto") :
    setShutterSpeed api p =
      some (api.set (api.set p keySonyShutterSpeed s) keySonyAeMode "shutter-prio") := by
  unfold setShutterSpeed
  rw [h]
  exact if_pos hne

/-- With "auto" the AE modes are read without a check. -/
theorem setShutterSpeed_of_auto {p : Params} (h : api.get p keyShutterSpeed = some "auto") :
    setShutterSpeed api p = (api.get p keySonyAeModeValues).map fun m =>
      if strstr m "auto" then api.set p keySonyAeMode "auto" else p := by
  unfold setShutterSpeed
  rw [h, Option.map_eq_bind]
  simp only [Function.comp_def, apply_ite some]
  rfl

theorem setShutterSpeed_isSome_iff {p : Params} :
    (∃ p', setShutterSpeed api p = some p') ↔
      (api.get p keyShutterSpeed = some "auto" → (api.get p keySonyAeModeValues).isSome) := by
  cases hspeed : api.get p keyShutterSpeed with
  | none =>
    exact iff_of_true ⟨p, setShutterSpeed_of_none hspeed⟩ fun h =>
      absurd h (Option.some_ne_none "auto").symm
  | some s =>
    by_cases hauto : s = "auto"
    · subst hauto
      rw [setShutterSpeed_of_auto hspeed, ← Option.isSome_iff_exists, Option.isSome_map,
        imp_iff_right rfl]
    · exact iff_of_true ⟨_, setShutterSpeed_of_ne hspeed hauto⟩ fun heq =>
        absurd (Option.some.inj heq) hauto

/-- The AE mode is read where the modes of the vendor have the one that the ISO mode stands for. -/
theorem setAeMode_eq {p : Params} {i m : String} :
    setAeMode api i m p =
      if strstr m (if i = "auto" then "auto" else "iso-prio") then
        (api.get p keySonyAeMode).map fun aeMode =>
          if i = "auto" then if aeMode ≠ "shutter-prio" then api.set p keySonyAeMode "auto" else p
          else if aeMode = "shutter-prio" then api.set p keySonyAeMode "manual"
            else api.set p keySonyAeMode "iso-prio"
      else some p := by
  -- the AE mode is read without a test, so the result is that of the null pointer or a map
  have hmap (f : String → Params) :
      (api.get p keySonyAeMode).map f =
        (api.get p keySonyAeMode).bind fun aeMode => some (f aeMode) :=
    Option.map_eq_bind
  unfold setAeMode
  -- which of the two modes is looked for depends on the ISO mode
  by_cases hauto : i = "auto"
  · simp only [if_pos hauto, hmap, apply_ite some]
    rfl
  · simp only [if_neg hauto, hmap, apply_ite some]
    rfl

theorem setAeMode_isSome_iff {p : Params} {i m : String} :
    (∃ p', setAeMode api i m p = some p') ↔
      (strstr m (if i = "auto" then "auto" else "iso-prio") →
        (api.get p keySonyAeMode).isSome) := by
  rw [setAeMode_eq, ← Option.isSome_iff_exists]
  by_cases hin : strstr m (if i = "auto" then "auto" else "iso-prio")
  · rw [if_pos hin, Option.isSome_map, imp_iff_right hin]
  · rw [if_neg hin]
    exact iff_of_true rfl fun h => absurd h hin

/-- The ISO mode of the vendor that an ISO mode sets. -/
def setSonyIso (api : CameraParameters Params) (i : String) (p : Params) : Params :=
  if i = "auto" then p else api.set p keySonyIsoMode (withoutIso i)

theorem setIsoMode_of_none {p : Params} (h : api.get p keyIsoMode = none) :
    setIsoMode api p = some p := by
  unfold setIsoMode
  rw [h]

theorem setIsoMode_of_short {p : Params} (h : ShortIso (api.get p keyIsoMode)) :
    setIsoMode api p = none := by
  obtain ⟨i, hi, hauto, hlength⟩ := h
  unfold setIsoMode skipIso
  rw [hi]
  simp [hauto, Nat.not_le.mpr hlength]

theorem setIsoMode_of_some {p : Params} {i : String} (h : api.get p keyIsoMode = some i)
    (hlong : ¬ ShortIso (some i)) :
    setIsoMode api p = match api.get (setSonyIso api i p) keySonyAeModeValues with
      | none => some (setSonyIso api i p)
      | some aeModes => setAeMode api i aeModes (setSonyIso api i p) := by
  unfold setIsoMode setSonyIso
  rw [h]
  by_cases hauto : i = "auto"
  · simp only [hauto, ne_eq, not_true_eq_false, if_false, if_true]
    rfl
  · have hlength : 3 ≤ i.length := Nat.not_lt.mp fun hlt => hlong (shortIso_some.mpr ⟨hauto, hlt⟩)
    simp only [ne_eq, hauto, not_false_eq_true, if_true, if_false, skipIso, hlength]
    rfl

namespace CameraParameters.Refuses

variable (hapi : api.Refuses)
include hapi

/-- The shutter speed may set the AE mode, to one without a copy, and removes none. Whether it does
depends on the list of AE modes and on the shutter speed that the application has set. -/
theorem setShutterSpeed_spec {p p' : Params} (h : setShutterSpeed api p = some p') :
    SameExcept api [keySonyShutterSpeed, keySonyAeMode] p p' ∧
      ∀ m, api.get p keySonyAeModeValues = some m →
        ((api.get p' keySonyAeMode).isSome ↔
          (api.get p keySonyAeMode).isSome ∨ SelectsAeMode m (api.get p keyShutterSpeed)) ∧
        (CopiesIso (api.get p' keySonyAeMode) ↔
          CopiesIso (api.get p keySonyAeMode) ∧ ¬ SelectsAeMode m (api.get p keyShutterSpeed)) := by
  have hset (q : Params) {value : String} (hplain : Plain value) (hne : value ≠ "") :
      api.get (api.set q keySonyAeMode value) keySonyAeMode = some value :=
    hapi.get_set q keySonyAeMode value (by decide) hplain hne
  -- where the mode is selected, and where it is not
  have hselected {m : String} {speed : Option String} {q : Params} {value : String}
      (hplain : Plain value) (hne : value ≠ "") (hcopies : ¬ CopiesIso (some value))
      (hselects : SelectsAeMode m speed) :
      ((api.get (api.set q keySonyAeMode value) keySonyAeMode).isSome ↔
        (api.get p keySonyAeMode).isSome ∨ SelectsAeMode m speed) ∧
      (CopiesIso (api.get (api.set q keySonyAeMode value) keySonyAeMode) ↔
        CopiesIso (api.get p keySonyAeMode) ∧ ¬ SelectsAeMode m speed) := by
    rw [hset q hplain hne]
    exact ⟨iff_of_true rfl (.inr hselects), iff_of_false hcopies fun hboth => hboth.2 hselects⟩
  -- where the mode is not selected the AE mode is that of before
  have hunselected {m : String} {speed : Option String} (hselects : ¬ SelectsAeMode m speed) :
      ((api.get p keySonyAeMode).isSome ↔
        (api.get p keySonyAeMode).isSome ∨ SelectsAeMode m speed) ∧
      (CopiesIso (api.get p keySonyAeMode) ↔
        CopiesIso (api.get p keySonyAeMode) ∧ ¬ SelectsAeMode m speed) :=
    ⟨(or_iff_left hselects).symm, (and_iff_left hselects).symm⟩
  cases hspeed : api.get p keyShutterSpeed with
  -- without a shutter speed nothing is set
  | none =>
    obtain rfl := Option.some.inj ((setShutterSpeed_of_none hspeed).symm.trans h)
    exact ⟨.refl _ _, fun m _ => hunselected not_selectsAeMode_none⟩
  | some s =>
    -- for "auto" the mode is looked for in the list, which is read without a test
    by_cases hauto : s = "auto"
    · subst hauto
      rw [setShutterSpeed_of_auto hspeed] at h
      obtain ⟨m, hm, hset'⟩ := Option.map_eq_some_iff.mp h
      -- these are the AE modes that the statement names
      have hselects {m' : String} (hm' : api.get p keySonyAeModeValues = some m') :
          SelectsAeMode m' (some "auto") ↔ strstr m "auto" := by
        rw [selectsAeMode_some, or_iff_right (not_not_intro rfl),
          Option.some.inj (hm'.symm.trans hm)]
      rw [← hset']
      split
      case isTrue hin =>
        refine ⟨(hapi.sameExcept_set _ _ _).mono (by simp), fun m' hm' => ?_⟩
        exact hselected (by decide) (by decide) (by simp [CopiesIso]) ((hselects hm').mpr hin)
      case isFalse hnot =>
        exact ⟨.refl _ _, fun m' hm' => hunselected (mt (hselects hm').mp hnot)⟩
    · -- any other shutter speed is set, and its mode with it
      rw [setShutterSpeed_of_ne hspeed hauto] at h
      obtain rfl := Option.some.inj h
      refine ⟨(hapi.sameExcept_set _ _ _).trans (hapi.sameExcept_set _ _ _), fun m _ => ?_⟩
      exact hselected (by decide) (by decide) (by simp [CopiesIso])
        (selectsAeMode_some.mpr (.inl hauto))

/-- The ISO mode may change the AE mode if there is one: to one with a copy, unless the ISO mode is
"auto". -/
theorem setAeMode_spec {p p' : Params} {i m : String} (h : setAeMode api i m p = some p') :
    SameExcept api [keySonyAeMode] p p' ∧
      ((api.get p' keySonyAeMode).isSome ↔ (api.get p keySonyAeMode).isSome) ∧
        (CopiesIso (api.get p' keySonyAeMode) ↔ SetsCopyMode m (some i) ∨
          CopiesIso (api.get p keySonyAeMode) ∧ ¬ ReadsAeMode m (some i)) := by
  rw [setAeMode_eq] at h
  rw [setsCopyMode_some, readsAeMode_some]
  -- the mode of the ISO value is in the list, so the AE mode is read
  by_cases hin : strstr m (if i = "auto" then "auto" else "iso-prio")
  · rw [if_pos hin] at h
    obtain ⟨aeMode, hmode, hset⟩ := Option.map_eq_some_iff.mp h
    -- whichever mode is set, it is the only parameter that changes
    have hvalue {value : String} (hplain : Plain value) (hne : value ≠ "") :
        SameExcept api [keySonyAeMode] p (api.set p keySonyAeMode value) ∧
          api.get (api.set p keySonyAeMode value) keySonyAeMode = some value :=
      ⟨hapi.sameExcept_set _ _ _, hapi.get_set p keySonyAeMode value (by decide) hplain hne⟩
    have hread : ¬ (CopiesIso (api.get p keySonyAeMode) ∧
        ¬ strstr m (if i = "auto" then "auto" else "iso-prio")) := fun hboth => hboth.2 hin
    rw [or_iff_left hread, hmode, ← hset]
    split
    case isTrue hauto =>
      -- with "auto" a mode of the shutter speed stays
      have hcopy : ¬ (i ≠ "auto" ∧ strstr m "iso-prio") := fun hboth => hboth.1 hauto
      split
      · -- the new mode is "auto"
        obtain ⟨hsame, hget⟩ := @hvalue "auto" (by decide) (by decide)
        rw [hget]
        exact ⟨hsame, Iff.rfl, iff_of_false (by simp [CopiesIso]) hcopy⟩
      case isFalse hspeed =>
        rw [hmode, not_not.mp hspeed]
        exact ⟨.refl _ _, Iff.rfl, iff_of_false (by simp [CopiesIso]) hcopy⟩
    -- with an ISO mode of the application the new mode copies it
    case isFalse hauto =>
      rw [if_neg hauto] at hin
      split
      · obtain ⟨hsame, hget⟩ := @hvalue "manual" (by decide) (by decide)
        rw [hget]
        exact ⟨hsame, Iff.rfl, iff_of_true (.inr rfl) ⟨hauto, hin⟩⟩
      · obtain ⟨hsame, hget⟩ := @hvalue "iso-prio" (by decide) (by decide)
        rw [hget]
        exact ⟨hsame, Iff.rfl, iff_of_true (.inl rfl) ⟨hauto, hin⟩⟩
  · -- the mode is not in the list, and nothing is set
    rw [if_neg hin] at h
    obtain rfl := Option.some.inj h
    have hcopy : ¬ (i ≠ "auto" ∧ strstr m "iso-prio") := by
      rintro ⟨hauto, hprio⟩
      rw [if_neg hauto] at hin
      exact hin hprio
    exact ⟨.refl _ _, Iff.rfl, by rw [or_iff_right hcopy, and_iff_left hin]⟩

theorem setSonyIso_same (i : String) (p : Params) :
    SameExcept api [keySonyIsoMode] p (setSonyIso api i p) := by
  unfold setSonyIso
  split
  · exact .refl _ _
  · exact hapi.sameExcept_set _ _ _

theorem setSonyIso_isSome_iff {i : String} {p : Params} (h : api.get p keySonyIsoMode = none) :
    (api.get (setSonyIso api i p) keySonyIsoMode).isSome ↔ SetsSonyIso (some i) := by
  rw [setsSonyIso_some]
  unfold setSonyIso
  by_cases hauto : i = "auto"
  · rw [if_pos hauto, h]
    exact iff_of_false Bool.false_ne_true fun hboth => hboth.1 hauto
  · rw [if_neg hauto, hapi.get_set_self p (by decide), h]
    by_cases hplain : Plain (withoutIso i)
    · by_cases hempty : withoutIso i = ""
      · simp [hempty]
      · simp [hauto, hplain, hempty]
    · simp [hplain]

/-- The block of the ISO mode returns unless three letters are skipped in an ISO mode that is
shorter, or an AE mode is read that is not there. The AE mode is read only where the list has the
one that the ISO mode asks for. -/
theorem setIsoMode_isSome_iff {p : Params} :
    (∃ p', setIsoMode api p = some p') ↔
      ¬ ShortIso (api.get p keyIsoMode) ∧
        ∀ m, api.get p keySonyAeModeValues = some m → ReadsAeMode m (api.get p keyIsoMode) →
          (api.get p keySonyAeMode).isSome := by
  -- without an ISO mode the block does nothing
  cases hiso : api.get p keyIsoMode with
  | none =>
    exact iff_of_true ⟨p, setIsoMode_of_none hiso⟩
      ⟨not_shortIso_none, fun _ _ h => absurd h not_readsAeMode_none⟩
  | some i =>
    by_cases hshort : ShortIso (some i)
    · have hnone := setIsoMode_of_short (hiso ▸ hshort)
      refine iff_of_false ?_ fun hboth => hboth.1 hshort
      rintro ⟨p', h⟩
      rw [hnone] at h
      cases h
    · have hsame := hapi.setSonyIso_same i p
      rw [setIsoMode_of_some hiso hshort, hsame _ (by decide)]
      -- without a list of AE modes only the ISO mode is set
      cases api.get p keySonyAeModeValues with
      | none =>
        exact iff_of_true ⟨_, rfl⟩ ⟨hshort, fun m h => absurd h (Option.some_ne_none m).symm⟩
      | some m =>
        dsimp only
        rw [setAeMode_isSome_iff, hsame _ (by decide), ← readsAeMode_some]
        refine ⟨fun h => ⟨hshort, fun m' hm' => ?_⟩, fun h => h.2 m rfl⟩
        obtain rfl := Option.some.inj hm'
        exact h

/-- The ISO mode sets that of the vendor, may set an AE mode with a copy, and removes none. The ISO
mode of the vendor is set from that of the application alone, and the AE mode after it. -/
theorem setIsoMode_spec {p p' : Params} (h : setIsoMode api p = some p') :
    SameExcept api [keySonyIsoMode, keySonyAeMode] p p' ∧
      ((api.get p' keySonyAeMode).isSome ↔ (api.get p keySonyAeMode).isSome) ∧
        (∀ m, api.get p keySonyAeModeValues = some m →
          (CopiesIso (api.get p' keySonyAeMode) ↔ SetsCopyMode m (api.get p keyIsoMode) ∨
            CopiesIso (api.get p keySonyAeMode) ∧ ¬ ReadsAeMode m (api.get p keyIsoMode))) ∧
        (api.get p keySonyIsoMode = none →
          ((api.get p' keySonyIsoMode).isSome ↔ SetsSonyIso (api.get p keyIsoMode))) := by
  -- the block has returned, so the ISO mode was long enough
  have hshort := (hapi.setIsoMode_isSome_iff.mp ⟨p', h⟩).1
  cases hiso : api.get p keyIsoMode with
  | none =>
    -- without an ISO mode nothing is set
    obtain rfl := Option.some.inj ((setIsoMode_of_none hiso).symm.trans h)
    refine ⟨.refl _ _, Iff.rfl, fun m _ => ?_, fun hsony => ?_⟩
    · rw [or_iff_right not_setsCopyMode_none, and_iff_left not_readsAeMode_none]
    · rw [hsony]
      exact iff_of_false Bool.false_ne_true not_setsSonyIso_none
  | some i =>
    rw [hiso] at hshort
    have hsame := hapi.setSonyIso_same i p
    -- whether an ISO mode is set depends on the one of the application alone
    have hsets (hsony : api.get p keySonyIsoMode = none) :=
      @setSonyIso_isSome_iff _ _ hapi i _ hsony
    rw [setIsoMode_of_some hiso hshort] at h
    split at h
    -- without a list of AE modes only the ISO mode is set
    case h_1 hnone =>
      obtain rfl := Option.some.inj h
      rw [hsame _ (by decide)] at hnone
      refine ⟨hsame.mono (by simp), ?_, fun m hm => ?_, hsets⟩
      · rw [hsame _ (by decide)]
      · rw [hnone] at hm
        cases hm
    -- with a list the AE mode is set after it
    case h_2 m hm =>
      obtain ⟨hsame', hmode, hcopies⟩ := hapi.setAeMode_spec h
      rw [hsame _ (by decide)] at hm hmode hcopies
      refine ⟨hsame.trans hsame', hmode, fun m' hm' => ?_, fun hsony => ?_⟩
      · obtain rfl := Option.some.inj (hm.symm.trans hm')
        exact hcopies
      · rw [hsame' _ (by decide)]
        exact hsets hsony

end CameraParameters.Refuses

/-- The blocks after that of the ISO mode. -/
def afterIsoMode (api : CameraParameters Params) (p : Params) : Params :=
  setStabiliser api (setVideoHdr api (setSceneMode api p))

theorem setparams_eq (id : ℤ) (settings : String) :
    cameraFixupSetparams api id settings =
      ((setShutterSpeed api (api.unflatten settings)).bind (setIsoMode api)).map
        fun p => api.flatten (afterIsoMode api p) := by
  rw [Option.map_eq_bind, Option.bind_assoc]
  rfl

/-- The keys that are written on the way to the vendor. -/
def setparamsKeys : List String :=
  [keySonyShutterSpeed, keySonyAeMode, keySonyIsoMode, keySonyImageStabiliser, keySceneMode,
    keySonyVideoHdr, keySonyVideoStabiliser]

namespace CameraParameters.Refuses

variable (hapi : api.Refuses)
include hapi

theorem setSceneMode_same (p : Params) :
    SameExcept api [keySonyImageStabiliser, keySceneMode] p (setSceneMode api p) := by
  unfold setSceneMode
  split
  · exact .refl _ _
  · split
    · exact (hapi.sameExcept_set _ _ _).trans (hapi.sameExcept_set _ _ _)
    · exact (hapi.sameExcept_set _ _ _).mono (by simp)

theorem setStabiliser_same (p : Params) :
    SameExcept api [keySonyVideoStabiliser, keySonyImageStabiliser] p (setStabiliser api p) := by
  unfold setStabiliser
  split
  · exact (hapi.sameExcept_set _ _ _).trans (hapi.sameExcept_set _ _ _)
  · exact .refl _ _

theorem afterIsoMode_same (p : Params) :
    SameExcept api [keySonyImageStabiliser, keySceneMode, keySonyVideoHdr, keySonyVideoStabiliser]
      p (afterIsoMode api p) :=
  (((hapi.setSceneMode_same p).trans (hapi.setVideoHdr_same _)).trans
    (hapi.setStabiliser_same _)).mono (by decide)

theorem setparams_same {id : ℤ} {settings sent : String}
    (h : cameraFixupSetparams api id settings = some sent) :
    SameExcept api setparamsKeys (api.unflatten settings) (api.unflatten sent) := by
  rw [setparams_eq] at h
  obtain ⟨p₂, hboth, rfl⟩ := Option.map_eq_some_iff.mp h
  obtain ⟨p₁, hspeed, hiso⟩ := Option.bind_eq_some_iff.mp hboth
  have hsame := (((hapi.setShutterSpeed_spec hspeed).1.trans (hapi.setIsoMode_spec hiso).1).trans
    (hapi.afterIsoMode_same p₂)).mono (show _ ⊆ setparamsKeys by decide)
  intro key hkey
  rw [hapi.get_unflatten, hsame key hkey]

/-- **Setting.** The call returns exactly if the exposure can be written, and then it has become
what `Put` says. The block of the ISO mode reads the AE mode as the block of the shutter speed has
left it. -/
theorem setparams_exposure (id : ℤ) (settings : String) :
    ((exposure api (api.unflatten settings)).Writable ↔
        ∃ sent, cameraFixupSetparams api id settings = some sent) ∧
      ∀ sent, cameraFixupSetparams api id settings = some sent →
        (exposure api (api.unflatten settings)).Put (exposure api (api.unflatten sent)) := by
  -- what the block of the ISO mode finds after that of the shutter speed
  have hreads {p : Params} (hspeed : setShutterSpeed api (api.unflatten settings) = some p) :
      (∃ p', setIsoMode api p = some p') ↔
        ¬ ShortIso (api.get (api.unflatten settings) keyIsoMode) ∧
        ∀ m, api.get (api.unflatten settings) keySonyAeModeValues = some m →
          ReadsAeMode m (api.get (api.unflatten settings) keyIsoMode) →
            (api.get (api.unflatten settings) keySonyAeMode).isSome ∨
              SelectsAeMode m (api.get (api.unflatten settings) keyShutterSpeed) := by
    obtain ⟨hsame, hmode⟩ := hapi.setShutterSpeed_spec hspeed
    rw [hapi.setIsoMode_isSome_iff, hsame _ (by decide), hsame _ (by decide)]
    -- the mode that is read is the one of before, or the one that was just selected
    refine and_congr_right fun _ => forall₂_congr fun m hm => ?_
    rw [(hmode m hm).1]
  constructor
  · constructor
    · -- the three conditions are those of the two blocks in their order
      intro h
      obtain ⟨p₁, hspeed⟩ := setShutterSpeed_isSome_iff.mpr h.shutterSpeed
      obtain ⟨p₂, hiso⟩ := (hreads hspeed).mpr ⟨h.iso, h.aeMode⟩
      refine ⟨api.flatten (afterIsoMode api p₂), ?_⟩
      rw [setparams_eq, hspeed, Option.bind_some, hiso]
      rfl
    · -- the call has returned, so both blocks have
      rintro ⟨sent, h⟩
      rw [setparams_eq] at h
      obtain ⟨p₂, hboth, -⟩ := Option.map_eq_some_iff.mp h
      obtain ⟨p₁, hspeed, hiso⟩ := Option.bind_eq_some_iff.mp hboth
      obtain ⟨hlong, hmode⟩ := (hreads hspeed).mp ⟨p₂, hiso⟩
      exact ⟨setShutterSpeed_isSome_iff.mp ⟨p₁, hspeed⟩, hlong, hmode⟩
  · intro sent h
    have hsame := hapi.setparams_same h
    rw [setparams_eq] at h
    obtain ⟨p₂, hboth, rfl⟩ := Option.map_eq_some_iff.mp h
    obtain ⟨p₁, hspeed, hiso⟩ := Option.bind_eq_some_iff.mp hboth
    obtain ⟨hsame₁, hmode₁⟩ := hapi.setShutterSpeed_spec hspeed
    obtain ⟨hsame₂, hmode₂, hcopies₂, hsony₂⟩ := hapi.setIsoMode_spec hiso
    have hiso₁ := hsame₁ keyIsoMode (by decide)
    -- the blocks after these do not touch the exposure
    have hafter : exposure api (api.unflatten (api.flatten (afterIsoMode api p₂))) =
        exposure api p₂ :=
      (hapi.exposure_unflatten _).trans (exposure_of_same (hapi.afterIsoMode_same p₂) (by decide))
    refine ⟨hsame _ (by decide), hsame _ (by decide), hsame _ (by decide), fun m hm => ?_,
      fun m hm => ?_, fun hnone => ?_⟩
    · -- the AE mode is there if it was, or if the shutter speed has selected one
      rw [hafter]
      exact hmode₂.trans (hmode₁ m hm).1
    · -- first the shutter speed and then the ISO mode
      rw [hafter]
      refine (hcopies₂ m ((hsame₁ _ (by decide)).trans hm)).trans ?_
      rw [hiso₁, (hmode₁ m hm).2, and_assoc]
      rfl
    · -- only the block of the ISO mode sets the ISO mode of the vendor
      rw [hafter]
      have hsony := hsony₂ ((hsame₁ _ (by decide)).trans hnone)
      rw [hsame₁ _ (by decide)] at hsony
      exact hsony

end CameraParameters.Refuses

end Maps

end Camera

end BlueCommon
