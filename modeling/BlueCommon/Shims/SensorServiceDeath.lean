import BlueCommon.Shims.SensorManager

/-!
# A sensor service that dies

What the death of the service does to the sensor manager, in all runs: also in those in which the
notification gets in the way of the constructor, where the fields need not agree with each other.
What is left of the proof outline there is who has `mLock`.

* `locked_reachable`: a call works with `mLock` held, and while the constructor runs nobody but the
  notification has it.
* `constructor_may_crash`: a notification that comes while the constructor is at work can make it
  dereference `NULL`.
* `createEventQueue_stuck`: once the service is dead, a thread in the loop of `createEventQueue`
  runs around it for ever, with `mLock` held, so that the notification never gets to clear the
  connection.
-/

namespace BlueCommon
namespace Shims
namespace SensorManager

open Outlines

/-! ### The lock, in all runs -/

/-- While the constructor runs, nobody but the notification takes the lock. -/
def Manager.Notifying (m : Manager) : Prop :=
  ∀ v, m.phase ≠ .constructed → m.mLock = some v → ∃ x, m.mDeathObserver = some ⟨x, some v⟩

/-- The constructor works while it runs, a call with the lock when it is done. -/
def Caller.Works (c : Caller) (t : ℕ) (m : Manager) : Prop :=
  match c with
  | .constructor => m.phase = .constructing t ∧ m.mLock ≠ some t
  | _ => m.phase = .constructed ∧ m.mLock = some t

/-- Who has the lock at a location, whether the constructor is left alone or not. -/
def Locked (t : ℕ) (l : Loc) (m : Manager) : Prop :=
  m.Notifying ∧ match l with
  | .idle => m.mLock ≠ some t
  | .lock c => m.mLock ≠ some t ∧ c ≠ .constructor ∧ m.phase = .constructed
  | .assertState c | .getService c _ | .linkToDeath c =>
      c.Works t m ∧ (c = .constructor → m.mDeathObserver = none)
  | .getSensors c | .malloc c | .fill c _ _ | .asserted c _ => c.Works t m
  | .search _ _ | .connect | .unlock _ => m.phase = .constructed ∧ m.mLock = some t
  | .died x => m.mLock ≠ some t ∧
      (m.phase ≠ .constructed → m.mDeathObserver = some ⟨x, some t⟩)
  | .clearServer _ | .freeList | .nullList | .clearSensors | .unlockDied => m.mLock = some t
  | .aborted | .crashed => m.phase = .constructing t ∨ m.mLock = some t

/-- Whoever works does it in the constructor, or with the lock. -/
theorem Caller.Works.turn {c : Caller} {t : ℕ} {m : Manager} (h : c.Works t m) :
    m.phase = .constructing t ∨ m.mLock = some t := by
  cases c with
  | constructor => exact .inl h.1
  | getSensorList | getDefaultSensor _ | createEventQueue => exact .inr h.2

/-- What a step does to the lock, the phase and the registration. A lock is taken and left by its
thread, the construction ends once, and a registration is used, made by a thread that connects, or
dropped at the end of a notification. -/
theorem locked_fields {t : ℕ} {l l' : Loc} {m m' : Manager} {a : Action} (hat : Locked t l m)
    (hstep : Step t l m a l' m') :
    (m'.mLock = m.mLock ∨ m.mLock = none ∧ m'.mLock = some t ∨
      m.mLock = some t ∧ m'.mLock = none) ∧
    (m'.phase = m.phase ∨ m.phase = .constructing t ∧ m'.phase = .constructed) ∧
    (m'.mDeathObserver = m.mDeathObserver ∨
      (∃ x, m.mDeathObserver = some ⟨x, none⟩ ∧ m'.mDeathObserver = some ⟨x, some t⟩) ∨
      m.mDeathObserver = none ∧ m.phase = .constructing t ∨ m.phase = .constructed ∨
      m.mLock = some t ∧ m'.mLock = none ∧ m'.mDeathObserver = none) := by
  -- what each step writes of the three fields, the others leave all three alone
  cases hstep with
  | obituary hlink hdead => exact ⟨.inl rfl, .inl rfl, .inr (.inl ⟨_, hlink, rfl⟩)⟩
  | acquire hfree | acquireDied hfree => exact ⟨.inr (.inl ⟨hfree, rfl⟩), .inl rfl, .inl rfl⟩
  -- only a thread that connects makes a registration: the constructor, or a method once it is built
  | @linkToDeath _ c x ok hserver =>
    refine ⟨.inl rfl, .inl rfl, ?_⟩
    obtain ⟨-, hworks, hnone⟩ := hat
    cases c with
    | constructor => exact .inr (.inr (.inl ⟨hnone rfl, hworks.1⟩))
    | getSensorList | getDefaultSensor _ | createEventQueue =>
      exact .inr (.inr (.inr (.inl hworks.1)))
  | fill hi hstore =>
    obtain ⟨blocks, rfl⟩ := store_some hstore
    exact ⟨.inl rfl, .inl rfl, .inl rfl⟩
  | freeList hfree =>
    obtain ⟨blocks, rfl⟩ := freeList_some hfree
    exact ⟨.inl rfl, .inl rfl, .inl rfl⟩
  | constructed => exact ⟨.inl rfl, .inr ⟨hat.2.1, rfl⟩, .inl rfl⟩
  | unlock => exact ⟨.inr (.inr ⟨hat.2.2, rfl⟩), .inl rfl, .inl rfl⟩
  -- the end of a notification: the lock and the registration go together
  | unlockDied =>
    exact ⟨.inr (.inr ⟨hat.2, rfl⟩), .inl rfl, .inr (.inr (.inr (.inr ⟨hat.2, rfl, rfl⟩)))⟩
  | _ => exact ⟨.inl rfl, .inl rfl, .inl rfl⟩

/-- The notification is what takes the lock while the constructor runs, after a step as well. The
constructor takes no lock, and the calls wait for it to end. -/
theorem notifying_step {t : ℕ} {l l' : Loc} {m m' : Manager} {a : Action} (hat : Locked t l m)
    (hstep : Step t l m a l' m') : m'.Notifying := by
  obtain ⟨hnot, hloc⟩ := hat
  -- nobody holds the lock while the constructor runs, except a notification
  intro v hphase hlock
  cases hstep with
  -- the registration is used, but the lock is not taken yet
  | @obituary _ x hlink hdead =>
    -- a registration that is not used yet leaves the lock free
    obtain ⟨y, hy⟩ := hnot v hphase hlock
    exact absurd hy (not_notifier_of_listening hlink)
  | acquire hfree => exact absurd hloc.2.2 hphase
  -- now the notification has it, and the registration is its own
  | @acquireDied _ x hfree =>
    obtain rfl := Option.some.inj hlock
    exact ⟨x, hloc.2 hphase⟩
  -- in the constructor a registration is made only when there is none
  | @linkToDeath _ c x ok hserver =>
    obtain ⟨hworks, hnone⟩ := hloc
    cases c with
    | constructor =>
      obtain ⟨y, hy⟩ := hnot v hphase hlock
      rw [hnone rfl] at hy
      exact absurd hy (Option.some_ne_none _).symm
    | getSensorList | getDefaultSensor _ | createEventQueue => exact absurd hworks.1 hphase
  | fill hi hstore =>
    obtain ⟨blocks, rfl⟩ := store_some hstore
    exact hnot v hphase hlock
  | freeList hfree =>
    obtain ⟨blocks, rfl⟩ := freeList_some hfree
    exact hnot v hphase hlock
  | constructed => exact absurd rfl hphase
  | unlock | unlockDied => exact absurd hlock (Option.some_ne_none v).symm
  | _ => exact hnot v hphase hlock

/-- A try of `getService` leads to a location of the same caller. -/
theorem locked_afterService {t i : ℕ} {m : Manager} {c : Caller} {err : Status}
    (hnot : m.Notifying) (hworks : c.Works t m)
    (hnone : c = .constructor → m.mDeathObserver = none) : Locked t (afterService c i err) m := by
  rw [afterService]
  split
  · exact ⟨hnot, hworks, hnone⟩
  · split
    · exact ⟨hnot, hworks, hnone⟩
    · exact ⟨hnot, hworks⟩

theorem locked_afterAssert {t : ℕ} {m : Manager} {c : Caller} {err : Status}
    (hc : c ≠ .constructor) (hnot : m.Notifying) (hworks : c.Works t m) :
    Locked t (afterAssert m err c) m := by
  cases c with
  | constructor => exact absurd rfl hc
  | getSensorList => exact ⟨hnot, hworks⟩
  | getDefaultSensor type | createEventQueue =>
    rw [afterAssert]
    split
    · exact ⟨hnot, hworks⟩
    · exact ⟨hnot, hworks⟩

theorem locked_searchStep {t i : ℕ} {m : Manager} {type : ℤ} (hnot : m.Notifying)
    (hphase : m.phase = .constructed) (hlock : m.mLock = some t) :
    Locked t (searchStep m type i) m := by
  rw [searchStep]
  split
  · split
    · split
      · split
        · exact ⟨hnot, hphase, hlock⟩
        · exact ⟨hnot, hphase, hlock⟩
      · exact ⟨hnot, .inr hlock⟩
    · exact ⟨hnot, .inr hlock⟩
  · exact ⟨hnot, hphase, hlock⟩

/-- A step of a thread leads to what holds at its next location. An abort or a crash keeps the turn
of the thread, so nobody else can go on in its place. -/
theorem locked_step {t : ℕ} {l l' : Loc} {m m' : Manager} {a : Action} (hat : Locked t l m)
    (hstep : Step t l m a l' m') : Locked t l' m' := by
  have hnot' := notifying_step hat hstep
  obtain ⟨hnot, hloc⟩ := hat
  -- the caller's part does not look at the fields that the step writes
  have hworks : ∀ {c : Caller} {m' : Manager}, m'.phase = m.phase → m'.mLock = m.mLock →
      c.Works t m → c.Works t m' := by
    intro c m' hphase hlock h
    cases c with
    | constructor => exact ⟨hphase.trans h.1, by rw [hlock]; exact h.2⟩
    | getSensorList | getDefaultSensor _ | createEventQueue =>
      exact ⟨hphase.trans h.1, hlock.trans h.2⟩
  cases hstep with
  -- a call: where the thread was, it still is
  | call hc hphase => exact ⟨hnot', hloc, hc, hphase⟩
  | obituary hlink hdead => exact ⟨hnot', hloc, fun _ => rfl⟩
  -- the methods wait for the constructor, the constructor takes no lock
  | @acquire _ c hfree =>
    obtain ⟨-, hc, hphase⟩ := hloc
    refine ⟨hnot', ?_, fun hctor => absurd hctor hc⟩
    cases c with
    | constructor => exact absurd rfl hc
    | getSensorList | getDefaultSensor _ | createEventQueue => exact ⟨hphase, rfl⟩
  | acquireDied hfree => exact ⟨hnot', rfl⟩
  | connected hserver => exact ⟨hnot', hloc.1⟩
  | disconnected hserver => exact ⟨hnot', hloc⟩
  | @getService _ c i err server hfailed =>
    exact locked_afterService hnot' (hworks rfl rfl hloc.1) hloc.2
  -- an abort or a crash keeps the turn of the thread, so nobody else can end it
  | getServiceNull hserver => exact ⟨hnot', hloc.1.turn⟩
  | linkToDeath hserver => exact ⟨hnot', hworks rfl rfl hloc.1⟩
  | getSensorsNull hserver => exact ⟨hnot', hloc.turn⟩
  | getSensors hserver | malloc => exact ⟨hnot', hworks rfl rfl hloc⟩
  | mallocFailed => exact ⟨hnot', (hworks rfl rfl hloc).turn⟩
  -- the stores into the array leave lock and phase
  | fill hi hstore =>
    obtain ⟨blocks, rfl⟩ := store_some hstore
    exact ⟨hnot', hworks rfl rfl hloc⟩
  | fillCrash hi hstore => exact ⟨hnot', hloc.turn⟩
  | filled hi => exact ⟨hnot', hloc⟩
  | constructed => exact ⟨hnot', hloc.2⟩
  | asserted hc => exact locked_afterAssert hc hnot hloc
  | search => exact locked_searchStep hnot hloc.1 hloc.2
  | connectNull hserver => exact ⟨hnot', .inr hloc.2⟩
  | noConnection hserver => exact ⟨hnot', hloc, fun h => absurd h Caller.noConfusion⟩
  | connection hserver halive => exact ⟨hnot', hloc⟩
  -- outside again, without the lock
  | unlock | unlockDied => exact ⟨hnot', (Option.some_ne_none t).symm⟩
  | clearServer | nullList | clearSensors => exact ⟨hnot', hloc⟩
  | freeList hfree =>
    obtain ⟨blocks, rfl⟩ := freeList_some hfree
    exact ⟨hnot', hloc⟩
  | freeCrash hfree => exact ⟨hnot', .inr hloc⟩

/-- No step takes the lock, or the construction, away from another thread. The phase never goes
back, and nobody makes a registration while another thread constructs. -/
theorem locked_free {t u : ℕ} {l l' k : Loc} {m m' : Manager} {a : Action} (hut : u ≠ t)
    (hat : Locked t l m) (hu : Locked u k m) (hstep : Step t l m a l' m') : Locked u k m' := by
  have hnot' := notifying_step hat hstep
  obtain ⟨hlock, hphase, hlink⟩ := locked_fields hat hstep
  -- what `u` has, and what it has not, stays so
  have hkeep : m.mLock = some u → m'.mLock = some u := by
    intro h
    rcases hlock with h' | ⟨h', -⟩ | ⟨h', -⟩
    · exact h'.trans h
    · exact absurd (h'.symm.trans h) (Option.some_ne_none u).symm
    · exact absurd (Option.some.inj (h.symm.trans h')) hut
  have hlack : m.mLock ≠ some u → m'.mLock ≠ some u := by
    intro h
    rcases hlock with h' | ⟨-, h'⟩ | ⟨-, h'⟩
    · rwa [h']
    · rw [h']
      exact fun h => hut (Option.some.inj h).symm
    · rw [h']
      exact (Option.some_ne_none u).symm
  -- the same thread goes on constructing
  have hbuild : m.phase = .constructing u → m'.phase = .constructing u := by
    intro h
    rcases hphase with h' | ⟨h', -⟩
    · exact h'.trans h
    · exact absurd (Phase.constructing.inj (h.symm.trans h')) hut
  -- the phase never goes back
  have hbuilt : m.phase = .constructed → m'.phase = .constructed := by
    intro h
    rcases hphase with h' | ⟨-, h'⟩
    · exact h'.trans h
    · exact h'
  have hworks : ∀ {c : Caller}, c.Works u m → c.Works u m' := by
    intro c h
    cases c with
    | constructor => exact ⟨hbuild h.1, hlack h.2⟩
    | getSensorList | getDefaultSensor _ | createEventQueue => exact ⟨hbuilt h.1, hkeep h.2⟩
  -- nobody makes a registration while `u` constructs
  have hquiet : m.phase = .constructing u → m.mDeathObserver = none →
      m'.mDeathObserver = none := by
    intro hc h
    rcases hlink with h' | ⟨x, h', -⟩ | ⟨-, h'⟩ | h' | ⟨-, -, h'⟩
    · exact h'.trans h
    · rw [h] at h'
      exact absurd h' (Option.some_ne_none _).symm
    · exact absurd (Phase.constructing.inj (hc.symm.trans h')) hut
    · exact Phase.noConfusion (hc.symm.trans h')
    · exact h'
  obtain ⟨hnot, hloc⟩ := hu
  refine ⟨hnot', ?_⟩
  -- where `u` is, and which of these facts it needs there
  cases k with
  | idle => exact hlack hloc
  | lock c => exact ⟨hlack hloc.1, hloc.2.1, hbuilt hloc.2.2⟩
  | assertState c | getService c _ | linkToDeath c =>
    refine ⟨hworks hloc.1, ?_⟩
    rintro rfl
    exact hquiet hloc.1.1 (hloc.2 rfl)
  | getSensors c | malloc c | fill c _ _ | asserted c _ => exact hworks hloc
  | search _ _ | connect | unlock _ => exact ⟨hbuilt hloc.1, hkeep hloc.2⟩
  -- a notification that waits: its registration is not taken away
  | died x =>
    refine ⟨hlack hloc.1, fun hphase' => ?_⟩
    have hphase₀ : m.phase ≠ .constructed := fun h => hphase' (hbuilt h)
    have hmine := hloc.2 hphase₀
    rcases hlink with h' | ⟨y, h', -⟩ | ⟨h', -⟩ | h' | ⟨h', -⟩
    · exact h'.trans hmine
    · exact absurd hmine (not_notifier_of_listening h')
    · rw [h'] at hmine
      exact absurd hmine (Option.some_ne_none _).symm
    · exact absurd h' hphase₀
    · -- a notification that ends was the one registered, and that is in `u`
      obtain ⟨y, hy⟩ := hnot t hphase₀ h'
      rw [hmine] at hy
      simp only [Option.some.injEq, Link.mk.injEq] at hy
      exact absurd hy.2 hut
  | clearServer _ | freeList | nullList | clearSensors | unlockDied => exact hkeep hloc
  | aborted | crashed => exact hloc.imp hbuild hkeep

theorem locked_initial {c : Threaded Manager Loc} (hc : code.init c) (t : ℕ) :
    Locked t (c.loc t) c.shared := by
  obtain ⟨u, rfl⟩ := hc
  have hnot : (Manager.initial u).Notifying := fun v _ h => absurd h (Option.some_ne_none v).symm
  show Locked t (Function.update (fun _ => Loc.idle) u (.assertState .constructor) t) (.initial u)
  rcases eq_or_ne t u with rfl | htu
  · rw [Function.update_self]
    exact ⟨hnot, ⟨rfl, (Option.some_ne_none t).symm⟩, fun _ => rfl⟩
  · rw [Function.update_of_ne htu]
    exact ⟨hnot, (Option.some_ne_none t).symm⟩

/-- **The lock is respected in all runs.** -/
theorem locked_outlined : Outlined code (fun _ _ _ _ => True) Locked where
  init := locked_initial
  step hat hstep _ := locked_step hat hstep
  free hut hat hu hstep _ := locked_free hut hat hu hstep
  env := by
    intro t l m a m' hat henv
    cases henv with
    | dies x => exact hat

theorem locked_reachable {c : Threaded Manager Loc} (h : code.lts.Reachable c) (t : ℕ) :
    Locked t (c.loc t) c.shared :=
  locked_outlined.reachable (h.under fun _ _ _ _ => trivial) t

/-- Nobody else is inside while a call has the lock. -/
theorem outside_of_locked {t u : ℕ} {k : Loc} {m : Manager} (hut : u ≠ t) (hu : Locked u k m)
    (hphase : m.phase = .constructed) (hlock : m.mLock = some t) : inside k = false := by
  have hlack : m.mLock ≠ some u := by
    rw [hlock]
    exact fun h => hut (Option.some.inj h).symm
  have hbuilt : m.phase ≠ .constructing u := by
    rw [hphase]
    exact Phase.noConfusion
  have hturn : ¬ (m.phase = .constructing u ∨ m.mLock = some u) := not_or_intro hbuilt hlack
  obtain ⟨-, hloc⟩ := hu
  cases k with
  | idle | lock c | died x => rfl
  | assertState c | getService c _ | linkToDeath c => exact absurd hloc.1.turn hturn
  | getSensors c | malloc c | fill c _ _ | asserted c _ => exact absurd hloc.turn hturn
  | search _ _ | connect | unlock _ => exact absurd hloc.2 hlack
  | clearServer _ | freeList | nullList | clearSensors | unlockDied => exact absurd hloc hlack
  | aborted | crashed => exact absurd hloc hturn

/-! ### A notification during the construction -/

/-- A notification that `x` died is to come in a thread that is idle, or it is there and waits for
the lock, or it has the lock and has not cleared the connection. -/
def Notice (x : ℕ) (l : Loc) (m : Manager) : Prop :=
  l = .idle ∧ m.mDeathObserver = some ⟨x, none⟩ ∨ l = .died x ∨ l = .clearServer x

/-- While the constructor runs, the notification finds the lock free. -/
theorem free_of_died {c : Threaded Manager Loc} (h : code.lts.Reachable c) {t u x : ℕ}
    (hphase : c.shared.phase = .constructing t) (hu : c.loc u = .died x) :
    c.shared.mLock = none := by
  obtain ⟨hnot, hloc⟩ := locked_reachable h u
  rw [hu] at hloc
  have hphase' : c.shared.phase ≠ .constructed := by
    rw [hphase]
    exact Phase.noConfusion
  cases hlock : c.shared.mLock with
  | none => rfl
  | some v =>
    -- whoever has it runs the notification that was registered, which is in `u`
    obtain ⟨y, hy⟩ := hnot v hphase' hlock
    rw [hloc.2 hphase'] at hy
    simp only [Option.some.injEq, Link.mk.injEq] at hy
    rw [← hy.2] at hlock
    exact absurd hlock hloc.1

/-- The constructor has asked to be notified, but has not yet asked for the sensors: when the
service dies now, the notification can take the lock, which the constructor does not hold, and clear
the connection before the constructor uses it. -/
theorem constructor_may_crash {c : Threaded Manager Loc} (h : code.lts.Reachable c) {t u x : ℕ}
    (hloc : c.loc t = .getSensors .constructor) (hnotice : Notice x (c.loc u) c.shared) :
    ∃ tr c', code.lts.Run c tr c' ∧ c'.loc t = .crashed := by
  have hphase : c.shared.phase = .constructing t := by
    obtain ⟨-, hworks⟩ := locked_reachable h t
    rw [hloc] at hworks
    exact hworks.1
  have htu : t ≠ u := by
    rintro rfl
    rw [hloc] at hnotice
    rcases hnotice with ⟨hl, -⟩ | hl | hl
    · exact Loc.noConfusion hl
    · exact Loc.noConfusion hl
    · exact Loc.noConfusion hl
  -- the constructor stays where it is while `u` takes a step
  have hstay : ∀ {d : Threaded Manager Loc} {l' : Loc}, d.loc t = .getSensors .constructor →
      Function.update d.loc u l' t = .getSensors .constructor := by
    intro d l' hd
    rw [Function.update_of_ne htu]
    exact hd
  -- the service dies, and the notification comes
  have hdied : ∃ tr c₁, code.lts.Run c tr c₁ ∧ c₁.loc t = .getSensors .constructor ∧
      c₁.shared.phase = .constructing t ∧ (c₁.loc u = .died x ∨ c₁.loc u = .clearServer x) := by
    rcases hnotice with ⟨hidle, hlink⟩ | hl
    · have hstep₁ : code.lts.step c (none, .dies x) _ := .env (.dies x)
      exact ⟨_, _, .snoc (.snoc .nil hstep₁)
        (Code.step_at hidle (.obituary hlink (Function.update_self _ _ _))), hstay hloc, hphase,
        .inl (Function.update_self _ _ _)⟩
    · exact ⟨[], c, .nil, hloc, hphase, hl⟩
  -- it takes the lock
  have hclear : ∃ tr c₂, code.lts.Run c tr c₂ ∧ c₂.loc t = .getSensors .constructor ∧
      c₂.loc u = .clearServer x := by
    obtain ⟨tr, c₁, hrun, hloc₁, hphase₁, hl | hl⟩ := hdied
    · have hfree := free_of_died (hrun.reachable_of h) hphase₁ hl
      exact ⟨_, _, .snoc hrun (Code.step_at hl (.acquireDied hfree)), hstay hloc₁,
        Function.update_self _ _ _⟩
    · exact ⟨tr, c₁, hrun, hloc₁, hl⟩
  -- it clears the connection, and the constructor asks `NULL` for the sensors
  obtain ⟨tr, c₂, hrun, hloc₂, hl⟩ := hclear
  have hrun₃ := Lts.Run.snoc hrun (Code.step_at hl .clearServer)
  exact ⟨_, _, .snoc hrun₃ (Code.step_at (hstay hloc₂) (.getSensorsNull rfl)),
    Function.update_self _ _ _⟩

/-- The constructor finds a service and asks to be notified. -/
theorem reachable_linked : ∃ c, Reachable c ∧ c.loc 0 = .getSensors .constructor ∧
    c.loc 1 = .idle ∧ c.shared.mDeathObserver = some ⟨7, none⟩ := by
  have h₀ : Reachable _ := .init ⟨0, rfl⟩
  have h₁ := reachable_step h₀ (t := 0) rfl (.disconnected rfl) (.inl Action.noConfusion)
  have h₂ := reachable_step h₁ (t := 0) rfl
    (@Step.getService 0 _ _ _ NO_ERROR (some 7) fun h => absurd rfl h) (.inl Action.noConfusion)
  have h₃ := reachable_step h₂ (t := 0) rfl (@Step.linkToDeath 0 _ _ 7 true rfl)
    (.inl Action.noConfusion)
  exact ⟨_, h₃, rfl, rfl, rfl⟩

theorem constructor_may_crash_linked : ∃ c tr c', code.lts.Reachable c ∧ code.lts.Run c tr c' ∧
    c.loc 0 = .getSensors .constructor ∧ c'.loc 0 = .crashed := by
  obtain ⟨c, h, hloc, hidle, hlink⟩ := reachable_linked
  obtain ⟨tr, c', hrun, hcrash⟩ := constructor_may_crash h.reachable hloc (.inl ⟨hidle, hlink⟩)
  exact ⟨c, tr, c', h.reachable, hrun, hloc, hcrash⟩

/-! ### A dead service and `createEventQueue` -/

/-- The locations of the loop of `createEventQueue` while there is a connection. -/
def InLoop (l : Loc) : Prop :=
  l = .connect ∨ l = .assertState .createEventQueue ∨ l = .asserted .createEventQueue NO_ERROR

/-- The thread `t` is in the loop with the lock, the service it is connected to is dead, and the
others are outside. -/
structure Stuck (t x : ℕ) (c : Threaded Manager Loc) : Prop where
  loop : InLoop (c.loc t)
  lock : c.shared.mLock = some t
  server : c.shared.mSensorServer = some x
  dead : c.shared.dead x = true
  others : ∀ u, u ≠ t → inside (c.loc u) = false

/-- The thread in the loop stays in it. -/
theorem inLoop_step {t x : ℕ} {l l' : Loc} {m m' : Manager} {a : Action} (hl : InLoop l)
    (hserver : m.mSensorServer = some x) (hdead : m.dead x = true) (hstep : Step t l m a l' m') :
    InLoop l' ∧ m' = m ∧ ∀ r, a ≠ .ret r := by
  -- the loop of `createEventQueue` has three places: `connect`, the assertion, and its answer
  rcases hl with rfl | rfl | rfl
  · cases hstep with
    | connectNull hnone =>
      rw [hnone] at hserver
      exact absurd hserver (Option.some_ne_none x).symm
    | noConnection => exact ⟨.inr (.inl rfl), rfl, fun r => Action.noConfusion⟩
    | @connection _ y q hserver' halive =>
      -- a dead service gives out no connection
      obtain rfl : y = x := Option.some.inj (hserver'.symm.trans hserver)
      rw [hdead] at halive
      exact absurd halive Bool.false_ne_true.symm
  · cases hstep with
    -- the assertion finds the server set and answers `NO_ERROR`
    | connected _ => exact ⟨.inr (.inr rfl), rfl, fun r => Action.noConfusion⟩
    | disconnected hnone =>
      rw [hnone] at hserver
      exact absurd hserver (Option.some_ne_none x).symm
  · -- which sends the thread back to `connect`
    cases hstep with
    | asserted _ => exact ⟨.inl rfl, rfl, fun r => Action.noConfusion⟩

/-- A thread outside that finds the lock taken stays outside, and leaves the connection alone. -/
theorem outside_step {t u : ℕ} {l l' : Loc} {m m' : Manager} {a : Action} (hl : inside l = false)
    (hlock : m.mLock = some t) (hstep : Step u l m a l' m') :
    inside l' = false ∧ m'.mLock = some t ∧ m'.mSensorServer = m.mSensorServer ∧ m'.dead = m.dead ∧
      ∀ r, a ≠ .ret r := by
  cases hstep with
  | call | obituary => exact ⟨rfl, hlock, rfl, rfl, fun r => Action.noConfusion⟩
  | acquire hfree | acquireDied hfree =>
    rw [hfree] at hlock
    exact absurd hlock (Option.some_ne_none t).symm
  | _ => exact absurd hl Bool.false_ne_true.symm

/-- Every step, of whatever thread, leaves the thread in the loop. The others wait for the lock that
it holds, and a service that is dead does not come back. -/
theorem Stuck.step {t x : ℕ} {c c' : Threaded Manager Loc} {p : Option ℕ × Action}
    (h : Stuck t x c) (hstep : code.lts.step c p c') :
    Stuck t x c' ∧ ∀ r, p.2 ≠ .ret r := by
  cases hstep with
  | @thread u a l' m' hstep =>
    -- a step of the thread in the loop, or of another one that waits for the lock
    rcases eq_or_ne u t with rfl | hut
    · obtain ⟨hloop, rfl, hret⟩ := inLoop_step h.loop h.server h.dead hstep
      refine ⟨⟨?_, h.lock, h.server, h.dead, fun v hv => ?_⟩, hret⟩
      · show InLoop (Function.update c.loc u l' u)
        rwa [Function.update_self]
      · show inside (Function.update c.loc u l' v) = false
        rw [Function.update_of_ne hv]
        exact h.others v hv
    · -- the others are outside, and without the lock they change nothing of this
      obtain ⟨hl', hlock, hserver, hdead, hret⟩ := outside_step (h.others u hut) h.lock hstep
      refine ⟨⟨?_, hlock, hserver.trans h.server, ?_, fun v hv => ?_⟩, hret⟩
      · show InLoop (Function.update c.loc u l' t)
        rw [Function.update_of_ne hut.symm]
        exact h.loop
      · show m'.dead x = true
        rw [hdead]
        exact h.dead
      · show inside (Function.update c.loc u l' v) = false
        rcases eq_or_ne v u with rfl | hvu
        · rwa [Function.update_self]
        · rw [Function.update_of_ne hvu]
          exact h.others v hv
  -- a service that dies does not come back
  | env henv =>
    cases henv with
    | dies y =>
      refine ⟨⟨h.loop, h.lock, h.server, ?_, h.others⟩, fun r => Action.noConfusion⟩
      show Function.update c.shared.dead y true x = true
      rw [Function.update_apply, h.dead, ite_self]

/-- The thread in the loop is never kept waiting. -/
theorem Stuck.goes_on {t x : ℕ} {c : Threaded Manager Loc} (h : Stuck t x c) :
    ∃ a c', code.lts.step c (some t, a) c' := by
  rcases h.loop with hl | hl | hl
  · exact ⟨_, _, Code.step_at hl (.noConnection h.server)⟩
  · exact ⟨_, _, Code.step_at hl (.connected h.server)⟩
  · exact ⟨_, _, Code.step_at hl (.asserted Caller.noConfusion)⟩

/-- A thread asks a dead service for a connection. From then on it runs around the loop for ever,
and no call of any thread returns; the notification, which would clear the connection and end the
loop, waits for the lock. -/
theorem createEventQueue_stuck {c : Threaded Manager Loc} (h : code.lts.Reachable c) {t x : ℕ}
    (hloc : c.loc t = .connect) (hserver : c.shared.mSensorServer = some x)
    (hdead : c.shared.dead x = true) {tr : List (Threaded Manager Loc × (Option ℕ × Action))}
    {c' : Threaded Manager Loc} (hrun : code.lts.Run c tr c') :
    Stuck t x c' ∧ (∀ p ∈ tr, ∀ r, p.2.2 ≠ .ret r) ∧
      ∃ a c'', code.lts.step c' (some t, a) c'' := by
  obtain ⟨-, hat⟩ := locked_reachable h t
  rw [hloc] at hat
  obtain ⟨hphase, hlock⟩ := hat
  have hstuck : Stuck t x c :=
    ⟨.inl hloc, hlock, hserver, hdead, fun u hut =>
      outside_of_locked hut (locked_reachable h u) hphase hlock⟩
  -- induction on the run
  suffices hmain : Stuck t x c' ∧ ∀ p ∈ tr, ∀ r, p.2.2 ≠ .ret r from
    ⟨hmain.1, hmain.2, hmain.1.goes_on⟩
  induction hrun with
  | nil => exact ⟨hstuck, fun p hp => absurd hp List.not_mem_nil⟩
  | @snoc tr d e l _ hstep ih =>
    obtain ⟨hd, hret⟩ := ih
    obtain ⟨he, hl⟩ := hd.step hstep
    refine ⟨he, fun p hp => ?_⟩
    rcases List.mem_append.mp hp with hp | hp
    · exact hret p hp
    · obtain rfl := List.mem_singleton.mp hp
      exact hl

/-- A thread is in `createEventQueue` when the service dies. -/
theorem reachable_connect : ∃ c, Reachable c ∧ c.loc 1 = .connect ∧
    c.shared.mSensorServer = some 7 ∧ c.shared.dead 7 = true := by
  obtain ⟨c, h, -, hidle, hphase, hfree, hserver⟩ := reachable_constructed
  have h₁ := reachable_step h hidle (@Step.call 1 _ .createEventQueue Caller.noConfusion hphase)
    (.inr hphase)
  have h₂ := reachable_step h₁ (Function.update_self _ _ _) (.acquire hfree) (.inr hphase)
  have h₃ := reachable_step h₂ (Function.update_self _ _ _) (.connected hserver) (.inr hphase)
  have hasserted : ∀ m, Step 1 (.asserted .createEventQueue NO_ERROR) m .internal .connect m := by
    intro m
    have hstep := @Step.asserted 1 m .createEventQueue NO_ERROR Caller.noConfusion
    rwa [afterAssert, if_pos rfl] at hstep
  have h₄ := reachable_step h₃ (Function.update_self _ _ _) (hasserted _) (.inr hphase)
  exact ⟨_, .step h₄ (.env (.dies 7)) (undisturbed_of_constructed hphase), rfl, hserver, rfl⟩

theorem createEventQueue_stuck_connect : ∃ c, code.lts.Reachable c ∧ ∀ tr c',
    code.lts.Run c tr c' → Stuck 1 7 c' ∧ (∀ p ∈ tr, ∀ r, p.2.2 ≠ .ret r) := by
  obtain ⟨c, h, hloc, hserver, hdead⟩ := reachable_connect
  refine ⟨c, h.reachable, fun tr c' hrun => ?_⟩
  have hstuck := createEventQueue_stuck h.reachable hloc hserver hdead hrun
  exact ⟨hstuck.1, hstuck.2.1⟩

end SensorManager
end Shims
end BlueCommon
