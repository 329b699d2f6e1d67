import BlueCommon.Lib.Outlines
import Mathlib.Data.Int.Notation

/-!
# The sensor manager and the threads that use it

`libshims/gui/SensorManager.cpp`: the connection to the sensor service, the list of sensors that is
made when the connection is, and the notification that the service died. Threads call
`getSensorList`, `getDefaultSensor` and `createEventQueue`, which hold `mLock`; a binder thread
calls `sensorManagerDied`, which holds it too; the constructor holds nothing. Every statement that
reads or writes a field is a step of its own.

* `manager_consistent`: when nothing is in the way of the constructor, no run dereferences `NULL`,
  frees a block twice or loses one, whatever the threads and the service do, the fields agree with
  each other whenever nobody works on them, and what a call returns is right.

The proof is an outline of the program with an assertion at each location: `In` for those at which a
thread has the fields for itself, `Out` for the others. `at_step` has one case for each step of the
program and leads from the assertion of a location to that of the next; `in_dies` and `out_dies` say
that a service may die anywhere in between. That the threads take turns, so that no step of one
breaks the assertion of another, is a rule of `Outlines` (`owned`).
-/

namespace BlueCommon
namespace Shims
namespace SensorManager

open Outlines

/-! ### The manager -/

/-- `status_t`: 0 is success, and errors are negative. -/
abbrev Status := ℤ

def NO_ERROR : Status := 0
def NAME_NOT_FOUND : Status := -2

/-- A `Sensor`, as far as the manager looks at it. `getDefaultSensor` asks for the type and whether
it wakes up the device. -/
structure Sensor where
  getType : ℤ
  isWakeUpSensor : Bool
  deriving DecidableEq

/-- A `Sensor const*` into the array of `mSensors`: which array, and the place in it. The array is
numbered, so a pointer into an array that was replaced can be told. -/
structure SensorPtr where
  array : ℕ
  index : ℕ
  deriving DecidableEq

/-- A `Vector<Sensor>`: its array and what is in it. -/
structure Sensors where
  array : ℕ
  items : List Sensor

/-- The registration of `mDeathObserver`: at which service, and the binder thread that delivers the
notification when it is on its way. -/
structure Link where
  server : ℕ
  notifier : Option ℕ
  deriving DecidableEq

/-- The constructor is running in a thread, or the singleton is there to be used. No call can be
made while it is being constructed. -/
inductive Phase
  | constructing (t : ℕ)
  | constructed
  deriving DecidableEq

/-- The fields, the blocks that `malloc` gave out and were not freed, and which services are dead.
-/
structure Manager where
  mLock : Option ℕ
  mSensorServer : Option ℕ
  mSensorList : Option ℕ
  mSensors : Sensors
  mDeathObserver : Option Link
  phase : Phase
  blocks : ℕ → Option (List (Option SensorPtr))
  next : ℕ
  dead : ℕ → Bool

/-- `mSensorList[i]`, `none` when that is not inside a live block. -/
def Manager.load (m : Manager) (i : ℕ) : Option (Option SensorPtr) :=
  (m.mSensorList.bind m.blocks).bind fun entries => entries[i]?

/-- `mSensorList[i] = p`, `none` when that is not inside a live block. -/
def Manager.store (m : Manager) (i : ℕ) (p : SensorPtr) : Option Manager :=
  m.mSensorList.bind fun l => (m.blocks l).bind fun entries =>
    if i < entries.length then
      some { m with blocks := Function.update m.blocks l (some (entries.set i (some p))) }
    else none

/-- What a pointer points to: an element of the array that `mSensors` has now. -/
def Manager.deref (m : Manager) (p : SensorPtr) : Option Sensor :=
  if p.array = m.mSensors.array then m.mSensors.items[p.index]? else none

/-- `free(mSensorList)`, `none` when that is not a live block. -/
def Manager.freeList (m : Manager) : Option Manager :=
  match m.mSensorList with
  | none => some m
  | some l => if (m.blocks l).isSome then
      some { m with blocks := Function.update m.blocks l none }
    else none

/-! ### The code -/

/-- Who runs `assertStateLocked`, and goes on when it returns. The constructor runs it without the
lock. -/
inductive Caller
  | constructor
  | getSensorList
  | getDefaultSensor (type : ℤ)
  | createEventQueue
  deriving DecidableEq

/-- What a call returns. It is kept until the lock is left, so that it can be compared with the
fields. -/
inductive Result
  | constructed
  | failed (err : Status)
  | sensorList (list : Option ℕ) (size : ℕ)
  | defaultSensor (type : ℤ) (p : Option SensorPtr)
  | queue (connection : Option ℕ)
  | notified
  deriving DecidableEq

/-- Where a thread is. Each location is a place in the source between two accesses to the fields or
two calls of other processes; `crashed` is reached through a null pointer, or one to memory that is
not there. -/
inductive Loc
  | idle
  | lock (c : Caller)
  | assertState (c : Caller)
  | getService (c : Caller) (i : ℕ)
  | linkToDeath (c : Caller)
  | getSensors (c : Caller)
  | malloc (c : Caller)
  | fill (c : Caller) (count i : ℕ)
  | asserted (c : Caller) (err : Status)
  | search (type : ℤ) (i : ℕ)
  | connect
  | unlock (r : Result)
  | died (server : ℕ)
  | clearServer (server : ℕ)
  | freeList
  | nullList
  | clearSensors
  | unlockDied
  | aborted
  | crashed
  deriving DecidableEq

/-- What a step shows: what the service manager, the service and `malloc` answer, the calls, and
what they return. -/
inductive Action
  | call (c : Caller)
  | obituary (server : ℕ)
  | acquire
  | internal
  | service (err : Status) (server : Option ℕ)
  | linked (ok : Bool)
  | sensors (items : List Sensor)
  | allocated (ok : Bool)
  | connection (c : Option ℕ)
  | ret (r : Result)
  | dies (server : ℕ)

/-- The end of a round of the loop around `getService`: tries are made again while the name is not
found, four at most. -/
def afterService (c : Caller) (i : ℕ) (err : Status) : Loc :=
  if err = NAME_NOT_FOUND ∧ i + 1 < 4 then .getService c (i + 1)
  else if err = NO_ERROR then .linkToDeath c
  else .asserted c err

/-- The types whose default sensor is the wake-up one: proximity, significant motion, tilt detector,
wake gesture, glance gesture and pick-up gesture. -/
def wakeUpSensor (type : ℤ) : Bool :=
  decide (type ∈ [8, 17, 22, 23, 24, 25])

/-- What `getDefaultSensor` looks for. -/
def isDefault (type : ℤ) (s : Sensor) : Bool :=
  decide (s.getType = type) && s.isWakeUpSensor == wakeUpSensor type

/-- What a caller does with the result of `assertStateLocked`. -/
def afterAssert (m : Manager) (err : Status) : Caller → Loc
  | .constructor => .idle
  | .getSensorList => .unlock <|
      if err < 0 then .failed err else .sensorList m.mSensorList m.mSensors.items.length
  | .getDefaultSensor type =>
      if err = NO_ERROR then .search type 0 else .unlock (.defaultSensor type none)
  | .createEventQueue => if err = NO_ERROR then .connect else .unlock (.queue none)

/-- A round of the loop of `getDefaultSensor`. -/
def searchStep (m : Manager) (type : ℤ) (i : ℕ) : Loc :=
  if i < m.mSensors.items.length then
    match m.load i with
    | some (some p) => match m.deref p with
      | some s =>
          if isDefault type s then .unlock (.defaultSensor type (some p)) else .search type (i + 1)
      | none => .crashed
    | _ => .crashed
  else .unlock (.defaultSensor type none)

/-- The steps of the thread `t`. What the sensor service answers is left open, and so is how often
`getService` has to be tried. -/
inductive Step (t : ℕ) : Loc → Manager → Action → Loc → Manager → Prop
  /-- The singleton is there to be used. -/
  | call {m : Manager} {c : Caller} (hc : c ≠ .constructor) (hphase : m.phase = .constructed) :
      Step t .idle m (.call c) (.lock c) m
  /-- The binder library delivers the notification it was asked for, once. -/
  | obituary {m : Manager} {x : ℕ} (hlink : m.mDeathObserver = some ⟨x, none⟩)
      (hdead : m.dead x = true) :
      Step t .idle m (.obituary x) (.died x) { m with mDeathObserver := some ⟨x, some t⟩ }
  | acquire {m : Manager} {c : Caller} (hfree : m.mLock = none) :
      Step t (.lock c) m .acquire (.assertState c) { m with mLock := some t }
  | connected {m : Manager} {c : Caller} {x : ℕ} (hserver : m.mSensorServer = some x) :
      Step t (.assertState c) m .internal (.asserted c NO_ERROR) m
  | disconnected {m : Manager} {c : Caller} (hserver : m.mSensorServer = none) :
      Step t (.assertState c) m .internal (.getService c 0) m
  /-- `getService` leaves a pointer only when it succeeds. -/
  | getService {m : Manager} {c : Caller} {i : ℕ} {err : Status} {server : Option ℕ}
      (hfailed : err ≠ NO_ERROR → server = none) :
      Step t (.getService c i) m (.service err server) (afterService c i err)
        { m with mSensorServer := server }
  | getServiceNull {m : Manager} {c : Caller} (hserver : m.mSensorServer = none) :
      Step t (.linkToDeath c) m .internal .aborted m
  /-- Whether the observer could be registered is not looked at. -/
  | linkToDeath {m : Manager} {c : Caller} {x : ℕ} {ok : Bool}
      (hserver : m.mSensorServer = some x) :
      Step t (.linkToDeath c) m (.linked ok) (.getSensors c)
        { m with mDeathObserver := if ok then some ⟨x, none⟩ else none }
  | getSensorsNull {m : Manager} {c : Caller} (hserver : m.mSensorServer = none) :
      Step t (.getSensors c) m .internal .crashed m
  | getSensors {m : Manager} {c : Caller} {x : ℕ} {items : List Sensor}
      (hserver : m.mSensorServer = some x) :
      Step t (.getSensors c) m (.sensors items) (.malloc c)
        { m with mSensors := ⟨m.next, items⟩, next := m.next + 1 }
  | mallocFailed {m : Manager} {c : Caller} :
      Step t (.malloc c) m (.allocated false) .aborted { m with mSensorList := none }
  | malloc {m : Manager} {c : Caller} :
      Step t (.malloc c) m (.allocated true) (.fill c m.mSensors.items.length 0)
        { m with
          mSensorList := some m.next
          blocks := Function.update m.blocks m.next
            (some (List.replicate m.mSensors.items.length none))
          next := m.next + 1 }
  | fill {m m' : Manager} {c : Caller} {count i : ℕ} (hi : i < count)
      (hstore : m.store i ⟨m.mSensors.array, i⟩ = some m') :
      Step t (.fill c count i) m .internal (.fill c count (i + 1)) m'
  | fillCrash {m : Manager} {c : Caller} {count i : ℕ} (hi : i < count)
      (hstore : m.store i ⟨m.mSensors.array, i⟩ = none) :
      Step t (.fill c count i) m .internal .crashed m
  | filled {m : Manager} {c : Caller} {count i : ℕ} (hi : count ≤ i) :
      Step t (.fill c count i) m .internal (.asserted c NO_ERROR) m
  | constructed {m : Manager} {err : Status} :
      Step t (.asserted .constructor err) m (.ret .constructed) .idle
        { m with phase := .constructed }
  | asserted {m : Manager} {c : Caller} {err : Status} (hc : c ≠ .constructor) :
      Step t (.asserted c err) m .internal (afterAssert m err c) m
  | search {m : Manager} {type : ℤ} {i : ℕ} :
      Step t (.search type i) m .internal (searchStep m type i) m
  | connectNull {m : Manager} (hserver : m.mSensorServer = none) :
      Step t .connect m .internal .crashed m
  /-- A service that is dead gives out no connection. The `NULL` is logged, and the loop goes on. -/
  | noConnection {m : Manager} {x : ℕ} (hserver : m.mSensorServer = some x) :
      Step t .connect m (.connection none) (.assertState .createEventQueue) m
  | connection {m : Manager} {x q : ℕ} (hserver : m.mSensorServer = some x)
      (halive : m.dead x = false) :
      Step t .connect m (.connection (some q)) (.unlock (.queue (some q))) m
  | unlock {m : Manager} {r : Result} :
      Step t (.unlock r) m (.ret r) .idle { m with mLock := none }
  | acquireDied {m : Manager} {x : ℕ} (hfree : m.mLock = none) :
      Step t (.died x) m .acquire (.clearServer x) { m with mLock := some t }
  | clearServer {m : Manager} {x : ℕ} :
      Step t (.clearServer x) m .internal .freeList { m with mSensorServer := none }
  | freeList {m m' : Manager} (hfree : m.freeList = some m') :
      Step t .freeList m .internal .nullList m'
  | freeCrash {m : Manager} (hfree : m.freeList = none) :
      Step t .freeList m .internal .crashed m
  | nullList {m : Manager} :
      Step t .nullList m .internal .clearSensors { m with mSensorList := none }
  | clearSensors {m : Manager} :
      Step t .clearSensors m .internal .unlockDied
        { m with mSensors := ⟨m.next, []⟩, next := m.next + 1 }
  | unlockDied {m : Manager} :
      Step t .unlockDied m (.ret .notified) .idle
        { m with mLock := none, mDeathObserver := none }

/-- A service dies. Whoever listens for its death may be notified from then on. -/
inductive EnvStep : Manager → Action → Manager → Prop
  | dies {m : Manager} (x : ℕ) :
      EnvStep m (.dies x) { m with dead := Function.update m.dead x true }

/-- The manager before the constructor runs in the thread `t`. No service is known, and no block was
allocated. -/
def Manager.initial (t : ℕ) : Manager where
  mLock := none
  mSensorServer := none
  mSensorList := none
  mSensors := ⟨0, []⟩
  mDeathObserver := none
  phase := .constructing t
  blocks := fun _ => none
  next := 1
  dead := fun _ => false

/-- The manager is constructed by one thread, and then used by all. The notification of a death runs
in any thread of the binder. -/
def code : Code Manager Loc Action where
  init c := ∃ t, c = ⟨.initial t, Function.update (fun _ => .idle) t (.assertState .constructor)⟩
  step := Step
  env := EnvStep

/-- The notification does not get in while the constructor, which holds no lock, is at work. This is
an assumption: the source does not prevent it. -/
def Undisturbed (_ : ℕ) (l : Loc) (m : Manager) (a : Action) : Prop :=
  ∀ x, l = .died x → a = .acquire → m.phase = .constructed

/-! ### What the fields say -/

/-- The pointers to the first `i` elements of the array, in a block for `count`. -/
def filled (array count i : ℕ) : List (Option SensorPtr) :=
  (List.range count).map fun j => if j < i then some ⟨array, j⟩ else none

/-- The pointers to all sensors. -/
def Manager.entries (m : Manager) : List (Option SensorPtr) :=
  filled m.mSensors.array m.mSensors.items.length m.mSensors.items.length

/-- `mSensorList` is the one live block. All others were freed, so nothing was leaked. -/
def Manager.HasBlock (m : Manager) (entries : List (Option SensorPtr)) : Prop :=
  ∃ l, m.mSensorList = some l ∧ m.blocks = Function.update (fun _ => none) l (some entries)

/-- There is no list, and no live block. -/
def Manager.NoBlock (m : Manager) : Prop :=
  m.mSensorList = none ∧ m.blocks = fun _ => none

/-- Nothing is known of the service, as it is at the beginning and after its death was notified. -/
structure Manager.Cleared (m : Manager) : Prop where
  server : m.mSensorServer = none
  block : m.NoBlock
  items : m.mSensors.items = []
  observer : m.mDeathObserver = none

/-- The service is known, and its death, and no other, is or was listened for. The notification may
be on its way. -/
def Manager.Connected (m : Manager) : Prop :=
  ∃ x, m.mSensorServer = some x ∧ ∀ k, m.mDeathObserver = some k → k.server = x

/-- The service is known, and its sensors are listed, with a pointer to each of them in the
block. -/
structure Manager.Ready (m : Manager) : Prop where
  connected : m.Connected
  block : m.HasBlock m.entries

/-- The fields agree with each other: either nothing is known of the service, or it is known with
all its sensors. It is what the lock protects. -/
def Manager.Consistent (m : Manager) : Prop :=
  m.Cleared ∨ m.Ready

/-- Who may work on the fields: the constructor while it runs, and then who holds `mLock`. With
`none` the fields are to be consistent. -/
def Manager.owner (m : Manager) : Option ℕ :=
  match m.phase with
  | .constructing t => some t
  | .constructed => m.mLock

/-- Who listens without having been notified listens to the service that is connected. -/
def Manager.Listening (m : Manager) : Prop :=
  ∀ x, m.mDeathObserver = some ⟨x, none⟩ → m.mSensorServer = some x

/-- What a call returns, from the fields it is read from. A list is that of all sensors, and a
default sensor is the first one of its type that wakes up the device exactly if sensors of that type
are to. -/
def Right (m : Manager) : Result → Prop
  | .constructed => True
  | .failed err => err < 0 ∧ m.Cleared
  | .sensorList l n => n = m.mSensors.items.length ∧
      (l = none ∧ n = 0 ∨ ∃ b, l = some b ∧ m.blocks b = some m.entries)
  | .defaultSensor type p =>
      p = (m.mSensors.items.findIdx? (isDefault type)).map (SensorPtr.mk m.mSensors.array)
  | .queue none => m.Cleared
  | .queue (some _) => m.Ready
  | .notified => m.Cleared

/-- The constructor runs without the lock, the calls run when it is done. -/
def Caller.Holds (c : Caller) (t : ℕ) (m : Manager) : Prop :=
  match c with
  | .constructor => m.phase = .constructing t ∧ m.mLock = none
  | _ => m.phase = .constructed

/-! ### The proof outline -/

/-- The locations between taking and leaving the lock, and those of the constructor. -/
def inside : Loc → Bool
  | .idle | .lock _ | .died _ => false
  | _ => true

/-- What holds at a location inside. The thread has the fields for itself there, and each location
says how far it has brought them. -/
def In (t : ℕ) (l : Loc) (m : Manager) : Prop :=
  match l with
  | .assertState c => c.Holds t m ∧ m.Consistent
  | .getService c _ => c.Holds t m ∧ m.Cleared
  | .linkToDeath c => c.Holds t m ∧ m.NoBlock ∧ m.mDeathObserver = none
  | .getSensors c => c.Holds t m ∧ m.Connected ∧ m.NoBlock
  | .malloc c => c.Holds t m ∧ m.Connected ∧ m.NoBlock
  | .fill c count i => c.Holds t m ∧ m.Connected ∧ count = m.mSensors.items.length ∧
      m.HasBlock (filled m.mSensors.array count i)
  | .asserted c err => c.Holds t m ∧ (err = NO_ERROR → m.Ready) ∧ (err ≠ NO_ERROR → m.Cleared)
  | .search type i => m.phase = .constructed ∧ m.Ready ∧
      ∀ s ∈ m.mSensors.items.take i, isDefault type s = false
  | .connect => m.phase = .constructed ∧ m.Ready
  | .unlock r => m.phase = .constructed ∧ m.Consistent ∧ Right m r
  | .clearServer x => m.phase = .constructed ∧ m.Ready ∧
      m.mSensorServer = some x ∧ m.mDeathObserver = some ⟨x, some t⟩ ∧ m.dead x = true
  | .freeList => m.phase = .constructed ∧ m.HasBlock m.entries ∧
      m.mSensorServer = none ∧ ∃ x, m.mDeathObserver = some ⟨x, some t⟩
  | .nullList => m.phase = .constructed ∧ m.blocks = (fun _ => none) ∧
      m.mSensorServer = none ∧ ∃ x, m.mDeathObserver = some ⟨x, some t⟩
  | .clearSensors => m.phase = .constructed ∧ m.NoBlock ∧
      m.mSensorServer = none ∧ ∃ x, m.mDeathObserver = some ⟨x, some t⟩
  | .unlockDied => m.phase = .constructed ∧ m.NoBlock ∧ m.mSensors.items = [] ∧
      m.mSensorServer = none ∧ ∃ x, m.mDeathObserver = some ⟨x, some t⟩
  | .crashed => False
  | _ => m.Listening

/-- What holds at a location outside. A notification on its way is about the service that is
connected. -/
def Out (t : ℕ) (l : Loc) (m : Manager) : Prop :=
  m.Listening ∧ match l with
  | .lock c => c ≠ .constructor ∧ m.phase = .constructed
  | .died x => m.mSensorServer = some x ∧ m.mDeathObserver = some ⟨x, some t⟩ ∧ m.dead x = true
  | _ => True

/-! ### Blocks -/

@[simp] theorem length_filled {array count i : ℕ} : (filled array count i).length = count := by
  rw [filled, List.length_map, List.length_range]

theorem filled_zero {array count : ℕ} : filled array count 0 = List.replicate count none := by
  refine List.ext_getElem (by simp) fun j _ _ => ?_
  simp [filled]

/-- One more pointer is written. -/
theorem filled_set {array count i : ℕ} :
    (filled array count i).set i (some ⟨array, i⟩) = filled array count (i + 1) := by
  refine List.ext_getElem (by simp) fun j _ _ => ?_
  rw [List.getElem_set]
  split
  · next hij => simp [filled, ← hij]
  · next hij =>
    -- the other pointers are as before
    have hlt : j < i + 1 ↔ j < i := by omega
    simp only [filled, List.getElem_map, List.getElem_range, hlt]

/-- All pointers are written. -/
theorem filled_of_le {array count i : ℕ} (hi : count ≤ i) :
    filled array count i = filled array count count := by
  refine List.map_congr_left fun j hj => ?_
  have hlt : j < count := List.mem_range.mp hj
  rw [if_pos (Nat.lt_of_lt_of_le hlt hi), if_pos hlt]

theorem getElem?_entries {m : Manager} {i : ℕ} (hi : i < m.mSensors.items.length) :
    m.entries[i]? = some (some ⟨m.mSensors.array, i⟩) := by
  simp [Manager.entries, filled, hi]

section Block

variable {m : Manager} {entries : List (Option SensorPtr)}

theorem load_eq (h : m.HasBlock entries) (i : ℕ) : m.load i = entries[i]? := by
  obtain ⟨l, hl, hblocks⟩ := h
  simp [Manager.load, hl, hblocks]

theorem store_eq {i : ℕ} {p : SensorPtr} (h : m.HasBlock entries) (hi : i < entries.length) :
    ∃ blocks, m.store i p = some { m with blocks } ∧
      { m with blocks }.HasBlock (entries.set i (some p)) := by
  obtain ⟨l, hl, hblocks⟩ := h
  refine ⟨Function.update (fun _ => none) l (some (entries.set i (some p))), ?_, l, hl, rfl⟩
  simp [Manager.store, hl, hblocks, hi]

theorem freeList_eq (h : m.HasBlock entries) :
    m.freeList = some { m with blocks := fun _ => none } := by
  obtain ⟨l, hl, hblocks⟩ := h
  simp [Manager.freeList, hl, hblocks]

end Block

/-! ### The steps of the thread that is inside -/

/-- A round of the search finds a sensor, or goes on, or comes to the end. The pointers it reads are
all there, as the fields are ready. -/
theorem searchStep_cases {m : Manager} {type : ℤ} {i : ℕ} (hready : m.Ready)
    (hnot : ∀ s ∈ m.mSensors.items.take i, isDefault type s = false) :
    (searchStep m type i = .search type (i + 1) ∧
      ∀ s ∈ m.mSensors.items.take (i + 1), isDefault type s = false) ∨
    ∃ p, searchStep m type i = .unlock (.defaultSensor type p) ∧
      Right m (.defaultSensor type p) := by
  rcases Nat.lt_or_ge i m.mSensors.items.length with hi | hi
  · -- the pointer is to the sensor at `i`
    -- the array was filled from the list, so the load does not fault
    have hload : m.load i = some (some ⟨m.mSensors.array, i⟩) := by
      rw [load_eq hready.block, getElem?_entries hi]
    have hderef : m.deref ⟨m.mSensors.array, i⟩ = some m.mSensors.items[i] := by
      simp [Manager.deref, hi]
    -- one comparison, then either the answer or the next index
    have hstep : searchStep m type i = if isDefault type m.mSensors.items[i] then
        .unlock (.defaultSensor type (some ⟨m.mSensors.array, i⟩)) else .search type (i + 1) := by
      rw [searchStep, if_pos hi, hload]
      simp only [hderef]
    cases hdef : isDefault type m.mSensors.items[i] with
    | true =>
      refine .inr ⟨some ⟨m.mSensors.array, i⟩, by rw [hstep, hdef]; rfl, ?_⟩
      -- it is the first one that fits
      have hfind : m.mSensors.items.findIdx? (isDefault type) = some i := by
        rw [List.findIdx?_eq_some_iff_getElem]
        -- no sensor before it is the default one
        refine ⟨hi, hdef, fun j hj => ?_⟩
        have hmem : m.mSensors.items[j] ∈ m.mSensors.items.take i := by
          rw [List.mem_take_iff_getElem]
          exact ⟨j, by omega, rfl⟩
        rw [hnot _ hmem]
        exact Bool.false_ne_true
      rw [Right, hfind]
      rfl
    -- not this one: what was looked at grows by one
    | false =>
      refine .inl ⟨by rw [hstep, hdef]; rfl, fun s hs => ?_⟩
      rw [List.take_succ_eq_append_getElem hi, List.mem_append, List.mem_singleton] at hs
      rcases hs with hs | rfl
      · exact hnot s hs
      · exact hdef
  · -- all sensors have been looked at
    refine .inr ⟨none, by rw [searchStep, if_neg (by omega)], ?_⟩
    rw [List.take_of_length_le hi] at hnot
    have hfind : m.mSensors.items.findIdx? (isDefault type) = none := by
      rw [List.findIdx?_eq_none_iff]
      exact hnot
    rw [Right, hfind]
    rfl

/-- A try of `getService` leads on as the fields say. -/
theorem in_afterService {t : ℕ} {m : Manager} {c : Caller} {i : ℕ} {err : Status}
    {server : Option ℕ} (hholds : c.Holds t m) (hm : m.Cleared)
    (hfailed : err ≠ NO_ERROR → server = none) :
    inside (afterService c i err) = true ∧
      In t (afterService c i err) { m with mSensorServer := server } := by
  have hcleared : err ≠ NO_ERROR → Manager.Cleared { m with mSensorServer := server } := by
    intro herr
    exact ⟨hfailed herr, hm.block, hm.items, hm.observer⟩
  -- the callers do not look at the server
  have hholds' : c.Holds t { m with mSensorServer := server } := by cases c <;> exact hholds
  rw [afterService]
  split
  · -- no service yet: the constructor or a method tries again after a second
    next hagain =>
    refine ⟨rfl, hholds', hcleared ?_⟩
    rw [hagain.1]
    decide
  · split
    · -- the service is there: what is left is to link, in a cleared manager
      exact ⟨rfl, hholds', hm.block, hm.observer⟩
    · -- any other status ends the attempt, and the manager stays cleared
      next herr => exact ⟨rfl, hholds', fun h => absurd h herr, hcleared⟩

/-- What the calls do with the result of `assertStateLocked`. With a service the manager is ready,
and without one it is cleared; each call has its own answer to both. -/
theorem in_afterAssert {t : ℕ} {m : Manager} {c : Caller} {err : Status} (hc : c ≠ .constructor)
    (hholds : c.Holds t m) (hready : err = NO_ERROR → m.Ready)
    (hcleared : err ≠ NO_ERROR → m.Cleared) :
    inside (afterAssert m err c) = true ∧ In t (afterAssert m err c) m := by
  -- either the assertion succeeded or the service is away, and the manager is consistent both ways
  have hconsistent : m.Consistent := by
    by_cases herr : err = NO_ERROR
    · exact .inr (hready herr)
    · exact .inl (hcleared herr)
  cases c with
  | constructor => exact absurd rfl hc
  | getSensorList =>
    -- the list is handed out with its count, or the error with none
    refine ⟨rfl, hholds, hconsistent, ?_⟩
    split
    · next hneg =>
      refine ⟨hneg, hcleared ?_⟩
      rintro rfl
      exact absurd hneg (by decide)
    · refine ⟨rfl, ?_⟩
      -- the pointer given out is null for an empty list, and else the one to the array
      rcases hconsistent with hm | hm
      · exact .inl ⟨hm.block.1, by rw [hm.items]; rfl⟩
      · obtain ⟨b, hb, hblocks⟩ := hm.block
        exact .inr ⟨b, hb, by rw [hblocks, Function.update_self]⟩
  -- the search starts at the first sensor, and finds nothing when there is no service
  | getDefaultSensor type =>
    by_cases herr : err = NO_ERROR
    · rw [afterAssert, if_pos herr]
      exact ⟨rfl, hholds, hready herr, by simp⟩
    · rw [afterAssert, if_neg herr]
      refine ⟨rfl, hholds, hconsistent, ?_⟩
      rw [Right, (hcleared herr).items]
      rfl
  -- only with a service is a connection asked for
  | createEventQueue =>
    by_cases herr : err = NO_ERROR
    · rw [afterAssert, if_pos herr]
      exact ⟨rfl, hholds, hready herr⟩
    · rw [afterAssert, if_neg herr]
      exact ⟨rfl, hholds, hconsistent, hcleared herr⟩

/-- The assertions of the manager's threads. -/
abbrev At (t : ℕ) (l : Loc) (m : Manager) : Prop :=
  turn Manager.owner inside Manager.Consistent In Out t l m

theorem owner_of_constructed {m : Manager} (h : m.phase = .constructed) : m.owner = m.mLock := by
  rw [Manager.owner, h]

theorem listening_of_none {m : Manager} (h : m.mDeathObserver = none) : m.Listening := by
  intro x hx
  rw [h] at hx
  exact absurd hx (Option.some_ne_none _).symm

theorem listening_of_notifier {m : Manager} {x t : ℕ} (h : m.mDeathObserver = some ⟨x, some t⟩) :
    m.Listening := by
  intro y hy
  rw [h] at hy
  simp at hy

theorem Manager.Connected.listening {m : Manager} (h : m.Connected) : m.Listening := by
  obtain ⟨x, hserver, hlink⟩ := h
  intro y hy
  rw [hserver, ← hlink _ hy]

theorem Manager.Consistent.listening {m : Manager} (h : m.Consistent) : m.Listening := by
  rcases h with h | h
  · exact listening_of_none h.observer
  · exact h.connected.listening

/-- At every location the registration that has not been used is for the connection. Outside this is
part of what the other threads leave; inside, the phase of the call says so. -/
theorem listening_of_at {t : ℕ} {l : Loc} {m : Manager} (hat : At t l m) : m.Listening := by
  cases hl : inside l with
  | false => exact ((turn_outside hl).mp hat).2.1
  | true =>
    obtain ⟨-, hin⟩ := (turn_inside hl).mp hat
    cases l with
    -- these three are outside
    | idle | lock _ | died _ => exact absurd hl Bool.false_ne_true
    -- inside, what the phase of the call says about the registration
    | assertState c => exact hin.2.listening
    | getService c i => exact listening_of_none hin.2.observer
    | linkToDeath c => exact listening_of_none hin.2.2
    | getSensors c | malloc c | fill c count i => exact hin.2.1.listening
    | asserted c err =>
      -- with a service connected there is a registration, without one there is none
      by_cases herr : err = NO_ERROR
      · exact (hin.2.1 herr).connected.listening
      · exact listening_of_none (hin.2.2 herr).observer
    | search type i | clearServer x => exact hin.2.1.connected.listening
    | connect => exact hin.2.connected.listening
    | unlock r => exact hin.2.1.listening
    | freeList | nullList | clearSensors =>
      -- in the notification the registration belongs to this very thread
      obtain ⟨-, -, -, x, hx⟩ := hin
      exact listening_of_notifier hx
    | unlockDied =>
      obtain ⟨-, -, -, -, x, hx⟩ := hin
      exact listening_of_notifier hx
    | aborted => exact hin
    | crashed => exact hin.elim

theorem owner_locked {m : Manager} {t : ℕ} (h : m.phase = .constructed) :
    Manager.owner { m with mLock := some t } = some t := by
  rw [Manager.owner]
  show (match m.phase with | .constructing t => some t | .constructed => some t) = some t
  rw [h]

theorem Manager.Consistent.lock {m : Manager} {o : Option ℕ} (h : m.Consistent) :
    Manager.Consistent { m with mLock := o } :=
  h.imp (fun hm => ⟨hm.server, hm.block, hm.items, hm.observer⟩)
    fun hm => ⟨hm.connected, hm.block⟩

/-- Taking the lock, when nobody has it and the constructor is not at work. -/
theorem consistent_of_free {t : ℕ} {l : Loc} {m : Manager} (hat : At t l m)
    (hphase : m.phase = .constructed) (hfree : m.mLock = none) : m.Consistent :=
  turn_resource hat (by rw [owner_of_constructed hphase, hfree])

/-- A step of a thread leads to the assertion of its next location. One case for each step of the
program, in the order of the source: where the thread comes to, and what the manager is there. -/
theorem at_step {t : ℕ} {l l' : Loc} {m m' : Manager} {a : Action} (hat : At t l m)
    (hstep : Step t l m a l' m') (hok : Undisturbed t l m a) :
    if inside l' then m'.owner = some t ∧ In t l' m' else Out t l' m' := by
  have hlisten := listening_of_at hat
  -- one case for each step of the program: where the thread comes to, and what the manager is there
  cases hstep with
  -- a method begins: the thread is outside and claims nothing but that the manager is built
  | call hc hphase => exact ⟨hlisten, hc, hphase⟩
  -- the service that died is the one the registration names, and so the one connected
  | @obituary _ x hlink hdead =>
    exact ⟨listening_of_notifier rfl, hlisten x hlink, rfl, hdead⟩
  -- the lock was free, so the manager is consistent when the thread gets it
  | @acquire _ c hfree =>
    obtain ⟨-, -, hc, hphase⟩ := (turn_outside rfl).mp hat
    refine ⟨owner_locked hphase, ?_, (consistent_of_free hat hphase hfree).lock⟩
    -- the constructor takes no lock
    cases c with
    | constructor => exact absurd rfl hc
    | getSensorList | getDefaultSensor _ | createEventQueue => exact hphase
  | @acquireDied _ x hfree =>
    -- the notification gets the lock while the registration is its own
    obtain ⟨-, -, hserver, hlink, hdead⟩ := (turn_outside rfl).mp hat
    have hphase := hok x rfl rfl
    refine ⟨owner_locked hphase, hphase, ?_, hserver, hlink, hdead⟩
    -- the service is still connected
    rcases consistent_of_free hat hphase hfree with hm | hm
    · rw [hm.server] at hserver
      exact absurd hserver (Option.some_ne_none x).symm
    · exact ⟨hm.connected, hm.block⟩
  -- the server is set, so the manager is not a cleared one
  | @connected _ c x hserver =>
    obtain ⟨hown, hholds, hm⟩ := (turn_inside rfl).mp hat
    refine ⟨hown, hholds, fun _ => hm.resolve_left fun hcleared => ?_, fun h => absurd rfl h⟩
    rw [hcleared.server] at hserver
    exact Option.some_ne_none x hserver.symm
  -- the server is null, so the manager is a cleared one
  | disconnected hserver =>
    obtain ⟨hown, hholds, hm⟩ := (turn_inside rfl).mp hat
    refine ⟨hown, hholds, hm.resolve_right fun hready => ?_⟩
    obtain ⟨x, hx, -⟩ := hready.connected
    rw [hx] at hserver
    exact Option.some_ne_none x hserver
  -- `getService` answered, and what follows depends on its status only
  | getService hfailed =>
    obtain ⟨hown, hholds, hm⟩ := (turn_inside rfl).mp hat
    obtain ⟨hinside, hin⟩ := in_afterService hholds hm hfailed
    rw [if_pos hinside]
    exact ⟨hown, hin⟩
  -- `checkService` gave null with `NO_ERROR`: the assertion of the source aborts
  | getServiceNull hserver =>
    obtain ⟨hown, -⟩ := (turn_inside rfl).mp hat
    exact ⟨hown, hlisten⟩
  -- the registration is made before the answer is looked at
  | @linkToDeath _ c x ok hserver =>
    obtain ⟨hown, hholds, hblock, -⟩ := (turn_inside rfl).mp hat
    refine ⟨hown, by cases c <;> exact hholds, ⟨x, hserver, fun k hk => ?_⟩, hblock⟩
    -- registered at `x`, or not at all
    cases ok with
    | true =>
      obtain rfl := Option.some.inj hk
      rfl
    | false => exact absurd hk (Option.some_ne_none k).symm
  -- the server was connected a step ago, and nobody could clear it in between
  | getSensorsNull hserver =>
    obtain ⟨-, -, ⟨x, hx, -⟩, -⟩ := (turn_inside rfl).mp hat
    rw [hx] at hserver
    exact absurd hserver (Option.some_ne_none x)
  -- the list has arrived and nothing else has changed
  | @getSensors _ c x items hserver =>
    obtain ⟨hown, hholds, hconn, hblock⟩ := (turn_inside rfl).mp hat
    exact ⟨hown, by cases c <;> exact hholds, hconn, hblock⟩
  -- `LOG_ALWAYS_FATAL_IF`: the memory for the array has run out
  | mallocFailed =>
    obtain ⟨hown, -⟩ := (turn_inside rfl).mp hat
    exact ⟨hown, hlisten⟩
  -- a new block of as many null pointers as there are sensors
  | @malloc _ c =>
    obtain ⟨hown, hholds, hconn, -, hblocks⟩ := (turn_inside rfl).mp hat
    refine ⟨hown, by cases c <;> exact hholds, hconn, rfl, m.next, rfl, ?_⟩
    show Function.update m.blocks m.next _ = _
    rw [hblocks, filled_zero]
  -- the next pointer of the array, which lies within the block
  | @fill _ _ c count i hi hstore =>
    obtain ⟨hown, hholds, hconn, hcount, hblock⟩ := (turn_inside rfl).mp hat
    obtain ⟨blocks, hstore', hblock'⟩ := store_eq hblock (i := i) (p := ⟨m.mSensors.array, i⟩)
      (by rwa [length_filled])
    rw [hstore] at hstore'
    obtain rfl := Option.some.inj hstore'
    rw [filled_set] at hblock'
    exact ⟨hown, by cases c <;> exact hholds, hconn, hcount, hblock'⟩
  -- a store outside the block is impossible, as the index is below the length
  | fillCrash hi hstore =>
    obtain ⟨-, -, -, -, hblock⟩ := (turn_inside rfl).mp hat
    obtain ⟨blocks, hstore', -⟩ := store_eq hblock (by rwa [length_filled])
    rw [hstore] at hstore'
    exact absurd hstore' (Option.some_ne_none _).symm
  -- the array is filled, and the manager is ready
  | filled hi =>
    obtain ⟨hown, hholds, hconn, rfl, hblock⟩ := (turn_inside rfl).mp hat
    rw [filled_of_le hi] at hblock
    exact ⟨hown, hholds, fun _ => ⟨hconn, hblock⟩, fun h => absurd rfl h⟩
  -- the constructor is done, and the thread goes back outside
  | constructed => exact ⟨hlisten, trivial⟩
  -- the caller goes on with what it asked for
  | asserted hc =>
    obtain ⟨hown, hholds, hready, hcleared⟩ := (turn_inside rfl).mp hat
    obtain ⟨hinside, hin⟩ := in_afterAssert hc hholds hready hcleared
    rw [if_pos hinside]
    exact ⟨hown, hin⟩
  -- the search goes on, or has its answer
  | search =>
    obtain ⟨hown, hphase, hready, hnot⟩ := (turn_inside rfl).mp hat
    rcases searchStep_cases hready hnot with ⟨hstep, hnot'⟩ | ⟨p, hstep, hright⟩
    · rw [hstep]
      exact ⟨hown, hphase, hready, hnot'⟩
    · rw [hstep]
      exact ⟨hown, hphase, .inr hready, hright⟩
  -- `mSensorServer` is not null inside `createEventQueue`
  | connectNull hserver =>
    obtain ⟨-, -, hready⟩ := (turn_inside rfl).mp hat
    obtain ⟨x, hx, -⟩ := hready.connected
    rw [hx] at hserver
    exact absurd hserver (Option.some_ne_none x)
  -- a dead service makes no connection, and the loop goes round once more
  | noConnection hserver =>
    obtain ⟨hown, hphase, hready⟩ := (turn_inside rfl).mp hat
    exact ⟨hown, hphase, .inr hready⟩
  -- a live one makes one
  | connection hserver halive =>
    obtain ⟨hown, hphase, hready⟩ := (turn_inside rfl).mp hat
    exact ⟨hown, hphase, .inr hready, hready⟩
  -- the method returns, and the lock is free again
  | unlock => exact ⟨hlisten, trivial⟩
  -- first line of `sensorManagerDied`: the list of sensors is still there
  | clearServer =>
    obtain ⟨hown, hphase, hready, -, hlink, -⟩ := (turn_inside rfl).mp hat
    exact ⟨hown, hphase, hready.block, rfl, _, hlink⟩
  -- then the array is freed, which was allocated once
  | freeList hfree =>
    obtain ⟨hown, hphase, hblock, hserver, hlink⟩ := (turn_inside rfl).mp hat
    rw [freeList_eq hblock] at hfree
    obtain rfl := Option.some.inj hfree
    exact ⟨hown, hphase, rfl, hserver, hlink⟩
  -- freeing it cannot fail
  | freeCrash hfree =>
    obtain ⟨-, -, hblock, -⟩ := (turn_inside rfl).mp hat
    rw [freeList_eq hblock] at hfree
    exact absurd hfree (Option.some_ne_none _)
  -- its pointer is cleared
  | nullList =>
    obtain ⟨hown, hphase, hblocks, hserver, hlink⟩ := (turn_inside rfl).mp hat
    exact ⟨hown, hphase, ⟨rfl, hblocks⟩, hserver, hlink⟩
  -- and the list itself
  | clearSensors =>
    obtain ⟨hown, hphase, hblock, hserver, hlink⟩ := (turn_inside rfl).mp hat
    exact ⟨hown, hphase, hblock, rfl, hserver, hlink⟩
  -- with the registration gone the manager is a cleared one
  | unlockDied => exact ⟨listening_of_none rfl, trivial⟩

/-- A step that leaves the fields to nobody leaves them consistent. These are the end of the
constructor, the end of a call and the end of a notification; all other steps stay inside or were
taken outside. -/
theorem consistent_step {t : ℕ} {l l' : Loc} {m m' : Manager} {a : Action} (hat : At t l m)
    (hstep : Step t l m a l' m') (hok : Undisturbed t l m a) (hnone : m'.owner = none) :
    m'.Consistent := by
  -- a thread that is still inside owns the manager, so the lock is not free
  cases hl' : inside l' with
  | true =>
    -- the thread itself owns them
    have hown := at_step hat hstep hok
    rw [if_pos hl', hnone] at hown
    exact absurd hown.1 (Option.some_ne_none t).symm
  | false =>
    cases hstep with
    -- before a call nothing has changed
    | call hc hphase => exact turn_resource hat hnone
    | obituary hlink hdead =>
      -- a registration was there, and is there
      rcases turn_resource hat hnone with hm | hm
      · rw [hm.observer] at hlink
        exact absurd hlink (Option.some_ne_none _).symm
      · obtain ⟨x, hserver, hk⟩ := hm.connected
        refine .inr ⟨⟨x, hserver, fun k hk' => ?_⟩, hm.block⟩
        obtain rfl := Option.some.inj hk'
        exact hk ⟨_, none⟩ hlink
    -- the constructor leaves either a ready manager or a cleared one
    | @constructed _ err =>
      obtain ⟨-, -, hready, hcleared⟩ := (turn_inside rfl).mp hat
      by_cases herr : err = NO_ERROR
      · exact .inr ⟨(hready herr).connected, (hready herr).block⟩
      · exact .inl ⟨(hcleared herr).server, (hcleared herr).block, (hcleared herr).items,
          (hcleared herr).observer⟩
    -- what a method leaves behind is consistent by its invariant
    | unlock =>
      obtain ⟨-, -, hm, -⟩ := (turn_inside rfl).mp hat
      exact hm.lock
    -- what the notification leaves behind is cleared
    | unlockDied =>
      obtain ⟨-, -, hblock, hitems, hserver, -⟩ := (turn_inside rfl).mp hat
      exact .inl ⟨hserver, hblock, hitems, rfl⟩
    -- the remaining steps stay inside
    | getService hfailed =>
      obtain ⟨-, hholds, hm⟩ := (turn_inside rfl).mp hat
      rw [(in_afterService hholds hm hfailed).1] at hl'
      exact absurd hl' Bool.false_ne_true.symm
    | asserted hc =>
      obtain ⟨-, hholds, hready, hcleared⟩ := (turn_inside rfl).mp hat
      rw [(in_afterAssert hc hholds hready hcleared).1] at hl'
      exact absurd hl' Bool.false_ne_true.symm
    | search =>
      obtain ⟨-, -, hready, hnot⟩ := (turn_inside rfl).mp hat
      rcases searchStep_cases hready hnot with ⟨hstep, -⟩ | ⟨p, hstep, -⟩
      · rw [hstep] at hl'
        exact absurd hl' Bool.false_ne_true.symm
      · rw [hstep] at hl'
        exact absurd hl' Bool.false_ne_true.symm
    | _ => exact absurd hl' Bool.false_ne_true.symm

/-! ### The other threads -/

section Obituary

variable {m : Manager} {x t : ℕ} (hlink : m.mDeathObserver = some ⟨x, none⟩)
include hlink

theorem not_none_of_listening : m.mDeathObserver ≠ none := by
  rw [hlink]
  exact Option.some_ne_none _

theorem not_notifier_of_listening {y u : ℕ} : m.mDeathObserver ≠ some ⟨y, some u⟩ := by
  rw [hlink]
  intro h
  simp at h

theorem Manager.Connected.obituary (h : m.Connected) :
    Manager.Connected { m with mDeathObserver := some ⟨x, some t⟩ } := by
  obtain ⟨y, hserver, hk⟩ := h
  refine ⟨y, hserver, fun k hk' => ?_⟩
  obtain rfl := Option.some.inj hk'
  exact hk ⟨x, none⟩ hlink

theorem Manager.Ready.obituary (h : m.Ready) :
    Manager.Ready { m with mDeathObserver := some ⟨x, some t⟩ } :=
  ⟨h.connected.obituary hlink, h.block⟩

/-- While a service is listened for, the fields are consistent only when they are ready. -/
theorem Manager.Consistent.obituary (h : m.Consistent) :
    Manager.Consistent { m with mDeathObserver := some ⟨x, some t⟩ } :=
  .inr ((h.resolve_left fun hm => not_none_of_listening hlink hm.observer).obituary hlink)

theorem right_obituary {r : Result} (h : Right m r) :
    Right { m with mDeathObserver := some ⟨x, some t⟩ } r := by
  cases r with
  | constructed => trivial
  | failed err => exact absurd h.2.observer (not_none_of_listening hlink)
  | sensorList l n => exact h
  | defaultSensor type p => exact h
  | queue c =>
    cases c with
    | none => exact absurd h.observer (not_none_of_listening hlink)
    | some q => exact h.obituary hlink
  | notified => exact absurd h.observer (not_none_of_listening hlink)

/-- A notification that gets going does not disturb the thread inside. It only marks the
registration as used, which the calls do not look at. -/
theorem in_obituary {u : ℕ} {k : Loc} (hin : In u k m) :
    In u k { m with mDeathObserver := some ⟨x, some t⟩ } := by
  -- the registration is not looked at by the callers
  have hholds : ∀ {c : Caller}, c.Holds u m →
      c.Holds u { m with mDeathObserver := some ⟨x, some t⟩ } := fun {c} h => by
    cases c <;> exact h
  cases k with
  | idle | lock _ | died _ | aborted => exact listening_of_notifier rfl
  | assertState c => exact ⟨hholds hin.1, hin.2.obituary hlink⟩
  -- before a registration there is nobody to notify
  | getService c i => exact absurd hin.2.observer (not_none_of_listening hlink)
  | linkToDeath c => exact absurd hin.2.2 (not_none_of_listening hlink)
  | getSensors c | malloc c => exact ⟨hholds hin.1, hin.2.1.obituary hlink, hin.2.2⟩
  | fill c count i => exact ⟨hholds hin.1, hin.2.1.obituary hlink, hin.2.2⟩
  | asserted c err =>
    exact ⟨hholds hin.1, fun herr => (hin.2.1 herr).obituary hlink,
      fun herr => absurd (hin.2.2 herr).observer (not_none_of_listening hlink)⟩
  | search type i => exact ⟨hin.1, hin.2.1.obituary hlink, hin.2.2⟩
  | connect => exact ⟨hin.1, hin.2.obituary hlink⟩
  -- an answer given out earlier stays right
  | unlock r => exact ⟨hin.1, hin.2.1.obituary hlink, right_obituary hlink hin.2.2⟩
  -- two notifications at once: there is one registration, and it has been used
  | clearServer y => exact absurd hin.2.2.2.1 (not_notifier_of_listening hlink)
  | freeList | nullList | clearSensors =>
    obtain ⟨-, -, -, y, hy⟩ := hin
    exact absurd hy (not_notifier_of_listening hlink)
  | unlockDied =>
    obtain ⟨-, -, -, -, y, hy⟩ := hin
    exact absurd hy (not_notifier_of_listening hlink)
  | crashed => exact hin

end Obituary

/-- Which services are dead is of no account to the fields. A service that is dead stays so, which
is all that a notification relies on. -/
theorem in_dies {u x : ℕ} {k : Loc} {m : Manager} (hin : In u k m) :
    In u k { m with dead := Function.update m.dead x true } := by
  -- a service that dies changes neither the server nor the list
  have hcleared : m.Cleared → Manager.Cleared { m with dead := Function.update m.dead x true } :=
    fun h => ⟨h.server, h.block, h.items, h.observer⟩
  have hready : m.Ready → Manager.Ready { m with dead := Function.update m.dead x true } :=
    fun h => ⟨h.connected, h.block⟩
  have hholds : ∀ {c : Caller}, c.Holds u m →
      c.Holds u { m with dead := Function.update m.dead x true } := fun {c} h => by
    cases c <;> exact h
  cases k with
  | idle | lock _ | died _ | aborted => exact hin
  | assertState c => exact ⟨hholds hin.1, hin.2.imp hcleared hready⟩
  | getService c i => exact ⟨hholds hin.1, hcleared hin.2⟩
  | linkToDeath c | getSensors c | malloc c | fill c count i => exact ⟨hholds hin.1, hin.2⟩
  | asserted c err =>
    exact ⟨hholds hin.1, fun herr => hready (hin.2.1 herr), fun herr => hcleared (hin.2.2 herr)⟩
  | search type i => exact ⟨hin.1, hready hin.2.1, hin.2.2⟩
  | connect => exact ⟨hin.1, hready hin.2⟩
  | unlock r =>
    refine ⟨hin.1, hin.2.1.imp hcleared hready, ?_⟩
    have hright := hin.2.2
    cases r with
    | constructed | sensorList _ _ | defaultSensor _ _ => exact hright
    | failed err => exact ⟨hright.1, hcleared hright.2⟩
    | queue c =>
      cases c with
      | none => exact hcleared hright
      | some q => exact hready hright
    | notified => exact hcleared hright
  -- the service whose notification runs is dead, and stays so
  | clearServer y =>
    obtain ⟨hphase, hm, hserver, hlink, hdead⟩ := hin
    refine ⟨hphase, hready hm, hserver, hlink, ?_⟩
    show Function.update m.dead x true y = true
    rw [Function.update_apply, hdead, ite_self]
  | freeList | nullList | clearSensors | unlockDied => exact hin
  | crashed => exact hin

theorem out_dies {u x : ℕ} {k : Loc} {m : Manager} (hout : Out u k m) :
    Out u k { m with dead := Function.update m.dead x true } := by
  refine ⟨hout.1, ?_⟩
  cases k with
  | died y =>
    obtain ⟨-, hserver, hlink, hdead⟩ := hout
    refine ⟨hserver, hlink, ?_⟩
    show Function.update m.dead x true y = true
    rw [Function.update_apply, hdead, ite_self]
  | lock c => exact hout.2
  | _ => trivial

/-- Writing a pointer changes a block. -/
theorem store_some {m m' : Manager} {i : ℕ} {p : SensorPtr} (h : m.store i p = some m') :
    ∃ blocks, m' = { m with blocks } := by
  rw [Manager.store, Option.bind_eq_some_iff] at h
  obtain ⟨l, -, h⟩ := h
  rw [Option.bind_eq_some_iff] at h
  obtain ⟨entries, -, h⟩ := h
  split at h
  · exact ⟨_, (Option.some.inj h).symm⟩
  · exact absurd h (Option.some_ne_none _).symm

theorem freeList_some {m m' : Manager} (h : m.freeList = some m') :
    ∃ blocks, m' = { m with blocks } := by
  rw [Manager.freeList] at h
  split at h
  · exact ⟨m.blocks, (Option.some.inj h).symm⟩
  · split at h
    · exact ⟨_, (Option.some.inj h).symm⟩
    · exact absurd h (Option.some_ne_none _).symm

/-- The singleton is not destroyed. -/
theorem phase_step {t : ℕ} {l l' : Loc} {m m' : Manager} {a : Action}
    (hstep : Step t l m a l' m') (h : m.phase = .constructed) : m'.phase = .constructed := by
  cases hstep with
  | fill hi hstore =>
    obtain ⟨blocks, rfl⟩ := store_some hstore
    exact h
  | freeList hfree =>
    obtain ⟨blocks, rfl⟩ := freeList_some hfree
    exact h
  | constructed => rfl
  | _ => exact h

/-- A step of a thread keeps its assertion going. -/
theorem at_next {t : ℕ} {l l' : Loc} {m m' : Manager} {a : Action} (hat : At t l m)
    (hstep : Step t l m a l' m') (hok : Undisturbed t l m a) : At t l' m' := by
  have hnew := at_step hat hstep hok
  rw [At, turn]
  split
  · rwa [if_pos ‹_›] at hnew
  · rw [if_neg ‹_›] at hnew
    exact ⟨consistent_step hat hstep hok, hnew⟩

/-- A notification on its way is for the connection until it has run. A new service is asked for
only when none is connected, and only then is there a new registration. -/
theorem died_step {t u x : ℕ} {l l' : Loc} {m m' : Manager} {a : Action} (hut : u ≠ t)
    (hat : At t l m) (hserver : m.mSensorServer = some x)
    (hlink : m.mDeathObserver = some ⟨x, some u⟩) (hdead : m.dead x = true)
    (hstep : Step t l m a l' m') :
    m'.mSensorServer = some x ∧ m'.mDeathObserver = some ⟨x, some u⟩ ∧ m'.dead x = true := by
  -- no thread but `u` runs the notification
  -- the steps that write the three fields are those of an attempt to connect, and of `u` itself
  have hmine : ∀ {y}, m.mDeathObserver ≠ some ⟨y, some t⟩ := by
    intro y hy
    rw [hlink] at hy
    simp only [Option.some.injEq, Link.mk.injEq] at hy
    exact hut hy.2
  cases hstep with
  -- the registration was used by `u` already
  | obituary hnone => exact absurd hlink (not_notifier_of_listening hnone)
  -- a new service is asked for only when none is connected
  | getService hfailed =>
    obtain ⟨-, -, hm⟩ := (turn_inside rfl).mp hat
    rw [hm.server] at hserver
    exact absurd hserver (Option.some_ne_none x).symm
  -- and a new registration made only when there is none
  | linkToDeath hserver' =>
    obtain ⟨-, -, -, hnone⟩ := (turn_inside rfl).mp hat
    rw [hnone] at hlink
    exact absurd hlink (Option.some_ne_none _).symm
  -- no other thread runs the notification
  | clearServer =>
    obtain ⟨-, -, -, -, hlink', -⟩ := (turn_inside rfl).mp hat
    exact absurd hlink' hmine
  | unlockDied =>
    obtain ⟨-, -, -, -, -, y, hlink'⟩ := (turn_inside rfl).mp hat
    exact absurd hlink' hmine
  -- the array and its block are other fields
  | fill hi hstore =>
    obtain ⟨blocks, rfl⟩ := store_some hstore
    exact ⟨hserver, hlink, hdead⟩
  | freeList hfree =>
    obtain ⟨blocks, rfl⟩ := freeList_some hfree
    exact ⟨hserver, hlink, hdead⟩
  | _ => exact ⟨hserver, hlink, hdead⟩

/-- No step invalidates the assertion of another thread outside. -/
theorem out_step {t u : ℕ} {l l' k : Loc} {m m' : Manager} {a : Action} (hut : u ≠ t)
    (hat : At t l m) (hout : Out u k m) (hstep : Step t l m a l' m')
    (hok : Undisturbed t l m a) : Out u k m' := by
  refine ⟨listening_of_at (at_next hat hstep hok), ?_⟩
  cases k with
  | lock c => exact ⟨hout.2.1, phase_step hstep hout.2.2⟩
  | died x =>
    obtain ⟨-, hserver, hlink, hdead⟩ := hout
    exact died_step hut hat hserver hlink hdead hstep
  | _ => trivial

/-- A step from outside leaves the fields to the thread inside. -/
theorem in_enter {t u : ℕ} {l l' k : Loc} {m m' : Manager} {a : Action}
    (hl : inside l = false) (hat : At t l m) (hown : m.owner = some u) (hin : In u k m)
    (hstep : Step t l m a l' m') (hok : Undisturbed t l m a) : m'.owner = some u ∧ In u k m' := by
  -- the lock is not free while the singleton is used by `u`
  have hlocked : m.phase = .constructed → m.mLock ≠ none := by
    intro hphase hfree
    rw [owner_of_constructed hphase, hfree] at hown
    exact absurd hown (Option.some_ne_none u).symm
  cases hstep with
  | call hc hphase => exact ⟨hown, hin⟩
  | obituary hlink hdead => exact ⟨hown, in_obituary hlink hin⟩
  | acquire hfree =>
    obtain ⟨-, -, -, hphase⟩ := (turn_outside rfl).mp hat
    exact absurd hfree (hlocked hphase)
  | @acquireDied _ x hfree => exact absurd hfree (hlocked (hok x rfl rfl))
  | _ => exact absurd hl Bool.false_ne_true.symm

theorem at_initial {c : Threaded Manager Loc} (hc : code.init c) (t : ℕ) :
    At t (c.loc t) c.shared := by
  obtain ⟨u, rfl⟩ := hc
  have hcleared : (Manager.initial u).Cleared := ⟨rfl, ⟨rfl, rfl⟩, rfl, rfl⟩
  show At t (Function.update (fun _ => Loc.idle) u (.assertState .constructor) t) (.initial u)
  rcases eq_or_ne t u with rfl | htu
  · rw [Function.update_self]
    exact (turn_inside rfl).mpr ⟨rfl, ⟨rfl, rfl⟩, .inl hcleared⟩
  · rw [Function.update_of_ne htu]
    exact (turn_outside rfl).mpr ⟨fun _ => .inl hcleared, listening_of_none rfl, trivial⟩

/-- **The threads of the manager take turns.** The locations inside have their own assertions about
the fields, and those outside rely on the fields being consistent whenever nobody works on them. -/
theorem owned : Owned code Undisturbed Manager.owner inside Manager.Consistent In Out where
  init := at_initial
  step := at_step
  res := consistent_step
  enter _ hl hat hown _ hin hstep hok := in_enter hl hat hown hin hstep hok
  out hut _ hat hout hstep hok := out_step hut hat hout hstep hok
  -- services die at any time, inside a critical section or outside
  env := by
    intro t l m a m' hat henv
    cases henv with
    | dies x =>
      cases hl : inside l with
      | true =>
        obtain ⟨hown, hin⟩ := (turn_inside hl).mp hat
        exact (turn_inside hl).mpr ⟨hown, in_dies hin⟩
      | false =>
        -- outside, a free lock keeps what it guards consistent
        obtain ⟨hres, hout⟩ := (turn_outside hl).mp hat
        refine (turn_outside hl).mpr ⟨fun hnone => ?_, out_dies hout⟩
        exact (hres hnone).imp (fun h => ⟨h.server, h.block, h.items, h.observer⟩)
          fun h => ⟨h.connected, h.block⟩

/-! ### The runs -/

/-- The runs in which the constructor is left alone. The threads come in any order otherwise, and
services die at any time. -/
abbrev Reachable (c : Threaded Manager Loc) : Prop :=
  code.lts.ReachableUnder (whenever Undisturbed) c

theorem at_reachable {c : Threaded Manager Loc} (h : Reachable c) (t : ℕ) :
    At t (c.loc t) c.shared :=
  owned.outlined.reachable h t

theorem inside_reachable {c : Threaded Manager Loc} (h : Reachable c) {t : ℕ}
    (hl : inside (c.loc t) = true) : c.shared.owner = some t ∧ In t (c.loc t) c.shared :=
  (turn_inside hl).mp (at_reachable h t)

/-- **The manager is consistent.** In every run in which the constructor is left alone no thread
crashes, and at most one of them works on the fields; when nobody does, the fields agree with each
other. A notification clears the service that died and no other, and every call returns what the
fields say. -/
theorem manager_consistent {c : Threaded Manager Loc} (h : Reachable c) :
    (∀ t, c.loc t ≠ .crashed) ∧
    (∀ t u, inside (c.loc t) = true → inside (c.loc u) = true → u = t) ∧
    (c.shared.owner = none → c.shared.Consistent) ∧
    (∀ t x, c.loc t = .clearServer x → c.shared.mSensorServer = some x ∧ c.shared.dead x = true) ∧
    ∀ t r, c.loc t = .unlock r → Right c.shared r := by
  refine ⟨fun t hloc => ?_, fun t u ht hu => ?_, turn_resource (at_reachable h 0),
    fun t x hloc => ?_, fun t r hloc => ?_⟩
  · -- `crashed` is impossible by the invariant
    have hin := (inside_reachable h (t := t) (by rw [hloc]; rfl)).2
    rw [hloc] at hin
    exact hin
  · exact turn_unique (at_reachable h t) (at_reachable h u) ht hu
  · -- the registration and the dead service come from the phase of the notification
    have hin := (inside_reachable h (t := t) (by rw [hloc]; rfl)).2
    rw [hloc] at hin
    exact ⟨hin.2.2.1, hin.2.2.2.2⟩
  · -- an answer is right when the lock is given back
    have hin := (inside_reachable h (t := t) (by rw [hloc]; rfl)).2
    rw [hloc] at hin
    exact hin.2.2

theorem undisturbed_of_ne {c : Threaded Manager Loc} {w : Option ℕ} {a : Action}
    (ha : a ≠ .acquire) : whenever Undisturbed c (w, a) :=
  fun _ _ _ _ hacquire => absurd hacquire ha

theorem undisturbed_of_constructed {c : Threaded Manager Loc} {p : Option ℕ × Action}
    (h : c.shared.phase = .constructed) : whenever Undisturbed c p :=
  fun _ _ _ _ _ => h

/-- One step of a thread, other than a notification that takes the lock. -/
theorem reachable_step {c : Threaded Manager Loc} (h : Reachable c) {t : ℕ} {l l' : Loc}
    {a : Action} {m' : Manager} (hl : c.loc t = l) (hstep : Step t l c.shared a l' m')
    (hok : a ≠ .acquire ∨ c.shared.phase = .constructed) :
    Reachable ⟨m', Function.update c.loc t l'⟩ :=
  .step h (Code.step_at hl hstep) (hok.elim undisturbed_of_ne undisturbed_of_constructed)

/-- The constructor finds a service with one sensor. -/
theorem reachable_constructed : ∃ c, Reachable c ∧ c.loc 0 = .idle ∧ c.loc 1 = .idle ∧
    c.shared.phase = .constructed ∧ c.shared.mLock = none ∧ c.shared.mSensorServer = some 7 := by
  have h₀ : Reachable _ := .init ⟨0, rfl⟩
  have h₁ := reachable_step h₀ (t := 0) rfl (.disconnected rfl) (.inl Action.noConfusion)
  have h₂ := reachable_step h₁ (t := 0) rfl
    (@Step.getService 0 _ _ _ NO_ERROR (some 7) fun h => absurd rfl h) (.inl Action.noConfusion)
  have h₃ := reachable_step h₂ (t := 0) rfl (@Step.linkToDeath 0 _ _ 7 true rfl)
    (.inl Action.noConfusion)
  have h₄ := reachable_step h₃ (t := 0) rfl (@Step.getSensors 0 _ _ 7 [⟨8, true⟩] rfl)
    (.inl Action.noConfusion)
  have h₅ := reachable_step h₄ (t := 0) rfl .malloc (.inl Action.noConfusion)
  have h₆ := reachable_step h₅ (t := 0) rfl (.fill Nat.zero_lt_one rfl) (.inl Action.noConfusion)
  have h₇ := reachable_step h₆ (t := 0) rfl (.filled (Nat.le_refl 1)) (.inl Action.noConfusion)
  have h₈ := reachable_step h₇ (t := 0) rfl .constructed (.inl Action.noConfusion)
  exact ⟨_, h₈, rfl, rfl, rfl, rfl, rfl⟩

theorem manager_consistent_constructed : ∃ c, Reachable c ∧ c.shared.mSensorServer = some 7 ∧
    c.shared.Consistent ∧ ∀ t, c.loc t ≠ .crashed := by
  obtain ⟨c, h, -, -, hphase, hfree, hserver⟩ := reachable_constructed
  obtain ⟨hcrash, -, hconsistent, -⟩ := manager_consistent h
  exact ⟨c, h, hserver, hconsistent (by rw [owner_of_constructed hphase, hfree]), hcrash⟩

end SensorManager
end Shims
end BlueCommon
