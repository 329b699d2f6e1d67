import BlueCommon.Lib.Numerals
import Mathlib.Algebra.Order.Ring.Int
import Mathlib.Data.List.Count

/-!
# The camera devices

`camera_device_open` acquires three things: the memory of the wrapper, the device of the vendor, and
the memory of the operations. `camera_device_close` gives them back. A device is released by
`camera_release` or, if that has not been called, when it is closed.

* `cameraDeviceOpen`, `cameraRelease`, `cameraDeviceClose`: the functions, with the events in the
  order in which they occur.
* `openDevices`, `allocated`: what the events leave open or allocated.
* `open_outcome`: the outcomes of `camera_device_open`.
* `closesOnce`: what closing does after any number of releases.
* `camera_open_atomic_iff`: when an open is atomic and checks the number of the camera.
-/

namespace BlueCommon

namespace Camera

open Numerals

/-! ### Devices -/

/-- What the wrapper asks the vendor and the allocator for. -/
inductive DeviceEvent
  | mallocDevice
  | mallocOps
  | freeDevice
  | freeOps
  | vendorOpen (name : List UInt8) (rv : Int32)
  | vendorRelease
  | vendorClose
  deriving DecidableEq

/-- `wrapper_camera_device_t`, with the device of the vendor open. -/
structure WrapperDevice where
  camera_released : Bool
  id : Int32

/-- What `*device` can be after the call: `NULL`, a device of this module, or what the caller has
left there, which is what it stays when the function returns before it writes anything. -/
inductive DevicePtr
  | null
  | wrapper (device : WrapperDevice)
  | leftover (addr : ℕ)

/-- How the calls of `camera_device_open` end: whether the module of the vendor and the sensor
manager are there, how many cameras there are, whether memory is found, and what the vendor
answers. -/
structure Surroundings where
  vendorModuleLoaded : Bool
  getModuleByClass : Int32
  sensorManager : Bool
  numberOfCameras : Int32
  mallocDevice : Bool
  vendorOpen : Int32
  mallocOps : Bool

def einval : Int32 := 22
def enomem : Int32 := 12
def noInit : Int32 := -19

/-! ### Functions -/

/-- `atoi`, on a platform with a `long` of 32 bits. -/
def atoi (s : List UInt8) : Int32 := Int32.ofInt (strtol (-2 ^ 31) (2 ^ 31 - 1) 10 s)

def checkVendorModule (env : Surroundings) : Int32 :=
  if env.vendorModuleLoaded then 0 else env.getModuleByClass

/-- What `camera_device_open` returns, writes to `*device` and does. -/
structure Opened where
  rv : Int32
  device : DevicePtr
  events : List DeviceEvent

/-- The label `fail`. Memory is freed if there is any. -/
def fail (rv : Int32) (cameraDevice cameraOps : Bool) (events : List DeviceEvent) : Opened where
  rv
  device := .null
  events := events ++ (if cameraDevice then [.freeDevice] else []) ++
    if cameraOps then [.freeOps] else []

/-- `camera_device_open`, where `*device` is `device`. -/
def cameraDeviceOpen (env : Surroundings) (name : Option (List UInt8)) (device : DevicePtr) :
    Opened :=
  match name with
  | none => ⟨-einval, device, []⟩
  | some name =>
    if checkVendorModule env ≠ 0 then ⟨-einval, device, []⟩
    else if !env.sensorManager then ⟨noInit, device, []⟩
    else
      let cameraid := atoi name
      if cameraid > env.numberOfCameras then fail (-einval) false false []
      else if !env.mallocDevice then fail (-enomem) false false []
      else
        let events := [.mallocDevice, .vendorOpen name env.vendorOpen]
        if env.vendorOpen ≠ 0 then fail env.vendorOpen true false events
        -- the device of the vendor stays open
        else if !env.mallocOps then fail (-enomem) true false events
        else ⟨env.vendorOpen, .wrapper ⟨false, cameraid⟩, events ++ [.mallocOps]⟩

/-- `camera_release`: the device afterwards, and the events. -/
def cameraRelease : Option WrapperDevice → Option WrapperDevice × List DeviceEvent
  | none => (none, [])
  | some device => (some { device with camera_released := true }, [.vendorRelease])

/-- `camera_device_close`. A device has its operations. -/
def cameraDeviceClose : Option WrapperDevice → Int32 × List DeviceEvent
  | none => (-einval, [])
  | some device =>
    (0, (if device.camera_released then [] else [.vendorRelease]) ++
      [.vendorClose, .freeOps, .freeDevice])

/-- As many calls of `camera_release`. -/
def releases : ℕ → Option WrapperDevice → Option WrapperDevice × List DeviceEvent
  | 0, device => (device, [])
  | k + 1, device =>
    let (device₁, events) := cameraRelease device
    let (device₂, events') := releases k device₁
    (device₂, events ++ events')

/-! ### Balances -/

/-- What an event adds to the devices of the vendor that are open: one for an open that succeeds,
and one less for a close. -/
def DeviceEvent.opens : DeviceEvent → ℤ
  | .vendorOpen _ rv => if rv = 0 then 1 else 0
  | .vendorClose => -1
  | _ => 0

/-- Memory is allocated, or freed. -/
def DeviceEvent.allocates : DeviceEvent → ℤ
  | .mallocDevice | .mallocOps => 1
  | .freeDevice | .freeOps => -1
  | _ => 0

/-- The devices of the vendor that are open after the events. -/
def openDevices (events : List DeviceEvent) : ℤ := (events.map DeviceEvent.opens).sum

/-- The blocks of memory that are allocated after the events and not freed. A block that is freed
twice would be counted twice, so that the number is negative then. -/
def allocated (events : List DeviceEvent) : ℤ := (events.map DeviceEvent.allocates).sum

/-- The vendor is asked to open a device. -/
def Asks (events : List DeviceEvent) : Prop := ∃ name rv, .vendorOpen name rv ∈ events

section Device

variable {events events' : List DeviceEvent}

theorem openDevices_append :
    openDevices (events ++ events') = openDevices events + openDevices events' := by
  unfold openDevices
  rw [List.map_append, List.sum_append]

theorem allocated_append :
    allocated (events ++ events') = allocated events + allocated events' := by
  unfold allocated
  rw [List.map_append, List.sum_append]

/-! ### Opening -/

/-- `camera_device_open` returns before its cleanup can be reached. -/
def ReturnsEarly (env : Surroundings) (name : Option (List UInt8)) : Prop :=
  name = none ∨ checkVendorModule env ≠ 0 ∨ env.sensorManager = false

/-- The outcomes of `camera_device_open`. -/
inductive OpenOutcome (env : Surroundings) (device : DevicePtr) :
    Option (List UInt8) → Opened → Prop
  | early {name : Option (List UInt8)} {rv : Int32} (hearly : ReturnsEarly env name)
    (hrv : rv ≠ 0) : OpenOutcome env device name ⟨rv, device, []⟩
  | outOfBounds {name : List UInt8} (hearly : ¬ ReturnsEarly env (some name))
    (hid : env.numberOfCameras < atoi name) :
    OpenOutcome env device (some name) ⟨-einval, .null, []⟩
  | noDevice {name : List UInt8} (hearly : ¬ ReturnsEarly env (some name))
    (hid : atoi name ≤ env.numberOfCameras) (hmalloc : env.mallocDevice = false) :
    OpenOutcome env device (some name) ⟨-enomem, .null, []⟩
  | vendorFailed {name : List UInt8} (hearly : ¬ ReturnsEarly env (some name))
    (hid : atoi name ≤ env.numberOfCameras) (hmalloc : env.mallocDevice = true)
    (hopen : env.vendorOpen ≠ 0) :
    OpenOutcome env device (some name)
      ⟨env.vendorOpen, .null, [.mallocDevice, .vendorOpen name env.vendorOpen, .freeDevice]⟩
  | noOps {name : List UInt8} (hearly : ¬ ReturnsEarly env (some name))
    (hid : atoi name ≤ env.numberOfCameras) (hmalloc : env.mallocDevice = true)
    (hopen : env.vendorOpen = 0) (hops : env.mallocOps = false) :
    OpenOutcome env device (some name)
      ⟨-enomem, .null, [.mallocDevice, .vendorOpen name 0, .freeDevice]⟩
  | opened {name : List UInt8} (hearly : ¬ ReturnsEarly env (some name))
    (hid : atoi name ≤ env.numberOfCameras) (hmalloc : env.mallocDevice = true)
    (hopen : env.vendorOpen = 0) (hops : env.mallocOps = true) :
    OpenOutcome env device (some name)
      ⟨0, .wrapper ⟨false, atoi name⟩, [.mallocDevice, .vendorOpen name 0, .mallocOps]⟩

/-- The function ends in one of these ways. They are the branches of the source: two early returns,
a number that is too large, the two allocations and the answer of the vendor. -/
theorem open_outcome (env : Surroundings) (device : DevicePtr) (name : Option (List UInt8)) :
    OpenOutcome env device name (cameraDeviceOpen env name device) := by
  unfold cameraDeviceOpen
  cases name with
  -- without a name the function returns before it asks the vendor
  | none => exact .early (.inl rfl) (by decide)
  | some name =>
    dsimp only
    split
    -- the module of the vendor could not be loaded
    case isTrue hmodule => exact .early (.inr (.inl hmodule)) (by decide)
    case isFalse hmodule =>
    split
    case isTrue hsensor =>
      rw [Bool.not_eq_true'] at hsensor
      exact .early (.inr (.inr hsensor)) (by decide)
    case isFalse hsensor =>
    -- none of the three early returns was taken
    have hearly : ¬ ReturnsEarly env (some name) := by
      rw [Bool.not_eq_true', Bool.not_eq_false] at hsensor
      rintro (hname | hrv | hfalse)
      · exact nomatch hname
      · exact hmodule hrv
      · exact Bool.false_ne_true (hfalse.symm.trans hsensor)
    split
    -- the number of the camera is too large
    case isTrue hid => exact .outOfBounds hearly hid
    case isFalse hid =>
    -- from here on the name stands for one of the cameras
    have hid := Int32.not_lt.mp hid
    cases hmalloc : env.mallocDevice with
    -- without memory for the device the vendor is not asked
    | false => exact .noDevice hearly hid hmalloc
    | true =>
      by_cases hopen : env.vendorOpen = 0
      -- the vendor refuses, and the device is freed
      case neg =>
        rw [if_neg (by decide), if_pos hopen]
        exact .vendorFailed hearly hid hmalloc hopen
      case pos =>
        rw [if_neg (by decide), if_neg (not_not.mpr hopen), hopen]
        -- the vendor has opened the camera; the table of operations may still find no memory
        cases hops : env.mallocOps with
        | false => exact .noOps hearly hid hmalloc hopen hops
        | true => exact .opened hearly hid hmalloc hopen hops

/-! ### Closing -/

theorem releases_some (k : ℕ) (d : WrapperDevice) :
    releases k (some d) = (some { d with camera_released := d.camera_released || decide (0 < k) },
      List.replicate k .vendorRelease) := by
  induction k generalizing d with
  | zero => rw [releases, decide_eq_false (Nat.lt_irrefl 0), Bool.or_false]; rfl
  | succ k ih =>
    rw [releases, cameraRelease]
    dsimp only
    rw [ih, decide_eq_true (Nat.succ_pos k), Bool.true_or, Bool.or_true]
    rfl

/-- The events of so many calls of `camera_release` and the close after them, for a device that has
been opened. -/
def session (k : ℕ) (d : WrapperDevice) : List DeviceEvent :=
  (releases k (some d)).2 ++ (cameraDeviceClose (releases k (some d)).1).2

/-- The device that the events have opened is released and closed as it should be, after so many
calls of `camera_release`. -/
structure ClosesOnce (events : List DeviceEvent) (d : WrapperDevice) (k : ℕ) : Prop where
  released : 1 ≤ (session k d).count .vendorRelease
  closed : (session k d).count .vendorClose = 1
  noSecond : 0 < k → .vendorRelease ∉ (cameraDeviceClose (releases k (some d)).1).2
  openDevices : openDevices (events ++ session k d) = 0
  allocated : allocated (events ++ session k d) = 0

/-- After an explicit release the flag is set. -/
theorem close_of_released {k : ℕ} (hk : 0 < k) (d : WrapperDevice) :
    (cameraDeviceClose (releases k (some d)).1).2 = [.vendorClose, .freeOps, .freeDevice] := by
  rw [releases_some, decide_eq_true hk, Bool.or_true]
  rfl

theorem session_eq {d : WrapperDevice} (hd : d.camera_released = false) (k : ℕ) :
    session k d =
      List.replicate (max k 1) .vendorRelease ++ [.vendorClose, .freeOps, .freeDevice] := by
  unfold session
  cases k with
  | zero =>
    -- the close itself releases the device
    rw [releases, cameraDeviceClose, hd]
    rfl
  | succ k =>
    rw [close_of_released (Nat.succ_pos k), releases_some, Nat.max_eq_left (Nat.succ_pos k)]

theorem openDevices_releases (k : ℕ) : openDevices (List.replicate k .vendorRelease) = 0 := by
  rw [openDevices, List.map_replicate, List.sum_replicate]
  exact nsmul_zero k

theorem allocated_releases (k : ℕ) : allocated (List.replicate k .vendorRelease) = 0 := by
  rw [allocated, List.map_replicate, List.sum_replicate]
  exact nsmul_zero k

/-- **Closing.** Whatever has been opened is closed, and all memory is freed. -/
theorem closesOnce {d : WrapperDevice} (hd : d.camera_released = false)
    (hopen : openDevices events = 1) (hmalloc : allocated events = 2) (k : ℕ) :
    ClosesOnce events d k where
  released := by
    -- every close but none of the releases gives the device back
    rw [session_eq hd, List.count_append, List.count_replicate_self]
    exact Nat.le_add_right_of_le (Nat.le_max_right k 1)
  closed := by
    rw [session_eq hd, List.count_append, List.count_replicate, if_neg (by decide)]
    decide
  -- a device that was given back is not closed again
  noSecond hk := by
    rw [close_of_released hk]
    decide
  -- the camera was opened once and is closed once
  openDevices := by
    rw [session_eq hd, openDevices_append, openDevices_append, openDevices_releases, hopen]
    decide
  allocated := by
    rw [session_eq hd, allocated_append, allocated_append, allocated_releases, hmalloc]
    decide

/-! ### Atomicity -/

/-- Opening is atomic and checks the number of the camera: the vendor is asked only for a camera
that exists; after an error the pointer is null and nothing is open; and after a success one device
is open, which a close gives back once, however often it was released before. -/
structure OpensAtomically (env : Surroundings) (name : Option (List UInt8)) (device : DevicePtr) :
    Prop where
  bounds : Asks (cameraDeviceOpen env name device).events →
    ∃ n, name = some n ∧ 0 ≤ atoi n ∧ atoi n < env.numberOfCameras
  error : (cameraDeviceOpen env name device).rv ≠ 0 →
    (cameraDeviceOpen env name device).device = .null ∧
      openDevices (cameraDeviceOpen env name device).events = 0
  success : (cameraDeviceOpen env name device).rv = 0 →
    openDevices (cameraDeviceOpen env name device).events = 1 ∧
      ∃ d, (cameraDeviceOpen env name device).device = .wrapper d ∧
        ∀ k, ClosesOnce (cameraDeviceOpen env name device).events d k

/-- What is left to the surroundings: `*device` is `NULL` where the call returns early, the vendor
is not asked for a camera that it does not have, and the second allocation succeeds. -/
structure OpensSafely (env : Surroundings) (name : Option (List UInt8)) (device : DevicePtr) :
    Prop where
  early : ReturnsEarly env name → device = .null
  number : ∀ n, name = some n → ¬ ReturnsEarly env name → env.mallocDevice = true →
    0 ≤ atoi n ∧ atoi n ≠ env.numberOfCameras ∨ env.numberOfCameras < atoi n
  ops : ∀ n, name = some n → ¬ ReturnsEarly env name → atoi n ≤ env.numberOfCameras →
    env.mallocDevice = true → env.vendorOpen = 0 → env.mallocOps = true

theorem asks_cons {name : List UInt8} {rv : Int32} {rest : List DeviceEvent} :
    Asks (.mallocDevice :: .vendorOpen name rv :: rest) :=
  ⟨name, rv, List.mem_cons_of_mem _ List.mem_cons_self⟩

/-- The device of the vendor is left open if the vendor has opened it. -/
theorem openDevices_failed (name : List UInt8) (rv : Int32) :
    openDevices [.mallocDevice, .vendorOpen name rv, .freeDevice] = if rv = 0 then 1 else 0 := by
  show 0 + ((if rv = 0 then 1 else 0) + (0 + 0)) = _
  rw [Int.zero_add, Int.add_zero, Int.add_zero]

theorem not_asks_nil : ¬ Asks [] := by
  rintro ⟨name, rv, h⟩
  exact List.not_mem_nil h

/-- The vendor is asked unless the number is too large, or the function has returned before, or
there is no memory for the device. What the vendor answers comes after that. -/
theorem asks_iff {env : Surroundings} {name : Option (List UInt8)} {device : DevicePtr} :
    Asks (cameraDeviceOpen env name device).events ↔
      ∃ n, name = some n ∧ ¬ ReturnsEarly env name ∧ atoi n ≤ env.numberOfCameras ∧
        env.mallocDevice = true := by
  -- one case for each of the ways to return
  have houtcome := open_outcome env device name
  generalize cameraDeviceOpen env name device = opened at houtcome ⊢
  -- the vendor was not asked, since the function returned before
  cases houtcome with
  | early hearly =>
    refine iff_of_false not_asks_nil ?_
    rintro ⟨_, -, hnot, -⟩
    exact hnot hearly
  -- nor was it for a number that is too large
  | outOfBounds _ hid =>
    refine iff_of_false not_asks_nil ?_
    rintro ⟨n, hn, -, hle, -⟩
    obtain rfl := Option.some.inj hn
    exact absurd hle (Int32.not_le.mpr hid)
  -- nor without memory
  | noDevice _ _ hfalse =>
    refine iff_of_false not_asks_nil ?_
    rintro ⟨_, -, -, -, hmalloc⟩
    exact absurd (hmalloc.symm.trans hfalse) (by decide)
  -- in the other cases it was asked, whatever it said
  | vendorFailed hearly hid hmalloc => exact iff_of_true asks_cons ⟨_, rfl, hearly, hid, hmalloc⟩
  | noOps hearly hid hmalloc => exact iff_of_true asks_cons ⟨_, rfl, hearly, hid, hmalloc⟩
  | opened hearly hid hmalloc => exact iff_of_true asks_cons ⟨_, rfl, hearly, hid, hmalloc⟩

/-- The vendor has the camera that it is asked for, unless the number is one too large or
negative. -/
theorem bounds_iff {env : Surroundings} {name : Option (List UInt8)} {device : DevicePtr} :
    (Asks (cameraDeviceOpen env name device).events →
        ∃ n, name = some n ∧ 0 ≤ atoi n ∧ atoi n < env.numberOfCameras) ↔
      ∀ n, name = some n → ¬ ReturnsEarly env name → env.mallocDevice = true →
        0 ≤ atoi n ∧ atoi n ≠ env.numberOfCameras ∨ env.numberOfCameras < atoi n := by
  constructor
  · intro h n hn hearly hmalloc
    by_cases hid : atoi n ≤ env.numberOfCameras
    · obtain ⟨n', hn', hlow, hhigh⟩ := h (asks_iff.mpr ⟨n, hn, hearly, hid, hmalloc⟩)
      obtain rfl := Option.some.inj (hn.symm.trans hn')
      exact .inl ⟨hlow, fun heq => Int32.lt_irrefl (heq ▸ hhigh)⟩
    · exact .inr (Int32.not_le.mp hid)
  · intro h hasks
    obtain ⟨n, hn, hearly, hid, hmalloc⟩ := asks_iff.mp hasks
    rcases h n hn hearly hmalloc with ⟨hlow, hne⟩ | hlarge
    · exact ⟨n, hn, hlow, Int32.lt_of_le_of_ne hid hne⟩
    · exact absurd hid (Int32.not_le.mpr hlarge)

/-- An error leaves no device, unless the call returns early or the second allocation fails. In the
first case the device is what the caller had there; in the second one the device of the vendor stays
open. -/
theorem error_iff {env : Surroundings} {name : Option (List UInt8)} {device : DevicePtr} :
    ((cameraDeviceOpen env name device).rv ≠ 0 →
        (cameraDeviceOpen env name device).device = .null ∧
          openDevices (cameraDeviceOpen env name device).events = 0) ↔
      (ReturnsEarly env name → device = .null) ∧
        ∀ n, name = some n → ¬ ReturnsEarly env name → atoi n ≤ env.numberOfCameras →
          env.mallocDevice = true → env.vendorOpen = 0 → env.mallocOps = true := by
  have houtcome := open_outcome env device name
  generalize cameraDeviceOpen env name device = opened at houtcome ⊢
  cases houtcome with
  | early hearly hrv =>
    -- the device is what the caller had there
    refine ⟨fun h => ⟨fun _ => (h hrv).1, fun _ _ hnot => absurd hearly hnot⟩, fun h _ => ?_⟩
    exact ⟨h.1 hearly, rfl⟩
  | outOfBounds hearly hid =>
    refine iff_of_true (fun _ => ⟨rfl, rfl⟩) ⟨fun h => absurd h hearly, fun n hn _ hle => ?_⟩
    obtain rfl := Option.some.inj hn
    exact absurd hle (Int32.not_le.mpr hid)
  | noDevice hearly _ hfalse =>
    refine iff_of_true (fun _ => ⟨rfl, rfl⟩) ⟨fun h => absurd h hearly, fun _ _ _ _ hmalloc => ?_⟩
    exact absurd (hmalloc.symm.trans hfalse) (by decide)
  | vendorFailed hearly _ _ hfailed =>
    refine iff_of_true (fun _ => ⟨rfl, ?_⟩)
      ⟨fun h => absurd h hearly, fun _ _ _ _ _ hopen => absurd hopen hfailed⟩
    rw [openDevices_failed, if_neg hfailed]
  | noOps hearly hid hmalloc hopen hfalse =>
    -- the cleanup frees the wrapper, and the device of the vendor stays open
    refine iff_of_false (fun h => ?_) fun h => ?_
    · have hclosed := (h (show -enomem ≠ 0 by decide)).2
      rw [openDevices_failed] at hclosed
      exact absurd hclosed (by decide)
    · exact absurd ((h.2 _ rfl hearly hid hmalloc hopen).symm.trans hfalse) (by decide)
  | opened hearly _ _ _ hops =>
    exact iff_of_true (fun h => absurd rfl h) ⟨fun h => absurd h hearly, fun _ _ _ _ _ _ => hops⟩

/-- A device that has been opened can be closed. -/
theorem closesOnce_of_success {env : Surroundings} {name : Option (List UInt8)} {device : DevicePtr}
    (hrv : (cameraDeviceOpen env name device).rv = 0) :
    openDevices (cameraDeviceOpen env name device).events = 1 ∧
      ∃ d, (cameraDeviceOpen env name device).device = .wrapper d ∧
        ∀ k, ClosesOnce (cameraDeviceOpen env name device).events d k := by
  have houtcome := open_outcome env device name
  generalize cameraDeviceOpen env name device = opened at houtcome hrv ⊢
  cases houtcome with
  | early _ hne => exact absurd hrv hne
  | outOfBounds => exact absurd hrv (show -einval ≠ 0 by decide)
  | noDevice => exact absurd hrv (show -enomem ≠ 0 by decide)
  | vendorFailed _ _ _ hne => exact absurd hrv hne
  | noOps => exact absurd hrv (show -enomem ≠ 0 by decide)
  | opened => exact ⟨rfl, _, rfl, closesOnce rfl rfl rfl⟩

/-- **When opening a camera is atomic.** The function stores nothing when it returns early, lets a
number pass that is negative or equal to the number of cameras, and leaves the device of the vendor
open when the table of operations finds no memory. Away from these it is atomic. -/
theorem camera_open_atomic_iff (env : Surroundings) (name : Option (List UInt8))
    (device : DevicePtr) : OpensAtomically env name device ↔ OpensSafely env name device := by
  constructor
  · rintro ⟨hbounds, herror, -⟩
    obtain ⟨hearly, hops⟩ := error_iff.mp herror
    exact ⟨hearly, bounds_iff.mp hbounds, hops⟩
  · rintro ⟨hearly, hnumber, hops⟩
    exact ⟨bounds_iff.mpr hnumber, error_iff.mpr ⟨hearly, hops⟩, closesOnce_of_success⟩

/-- A vendor with one camera is asked for the camera 1. -/
theorem camera_open_out_of_bounds : ¬ ∀ env name device, OpensAtomically env name device := by
  intro h
  obtain ⟨n, hn, -, hlt⟩ :=
    (h ⟨true, 0, true, 1, true, 0, true⟩ (some [49]) .null).bounds asks_cons
  obtain rfl := Option.some.inj hn
  exact absurd hlt (by decide)

end Device

end Camera

end BlueCommon
