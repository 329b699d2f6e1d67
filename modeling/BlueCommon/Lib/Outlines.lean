import BlueCommon.Lib.Lts
import Mathlib.Data.Nat.Notation

/-!
# Proof outlines of threads

Any number of threads share a state, and each of them is at a location of its code. A thread takes a
step from its location to another one, or the environment changes the shared state.

* `Code.lts`: the labelled transition system of the threads;
* `Outlined.reachable`: the rule of proof outlines. An assertion is attached to each location; a
  step of a thread leads to the assertion of the location it reaches, and no step of a thread or of
  the environment invalidates the assertion another thread is at;
* `Owned.outlined`: the outlines of threads that take turns. A thread inside owns the shared state,
  the state nobody owns satisfies a resource invariant, and only the assertions outside are to be
  checked against interference.

A run of threads whose loops have no bound is out of reach of `Interaction.pool`, where programs are
finite trees.
-/

namespace Outlines

/-- What the threads share, and where each of them is. A thread is a number, and there may be any
number of them. -/
structure Threaded (σ L : Type) where
  shared : σ
  loc : ℕ → L

/-- The code of the threads: what the thread `t` does at a location, and what the environment does.
Both show an action. -/
structure Code (σ L A : Type) where
  init : Threaded σ L → Prop
  step : ℕ → L → σ → A → L → σ → Prop
  env : σ → A → σ → Prop

variable {σ L A : Type} {C : Code σ L A}

/-- One step of the threads, with the thread that takes it. -/
inductive Code.Step (C : Code σ L A) : Threaded σ L → Option ℕ × A → Threaded σ L → Prop
  | thread {c : Threaded σ L} {t : ℕ} {a : A} {l' : L} {s' : σ}
      (h : C.step t (c.loc t) c.shared a l' s') :
      Code.Step C c (some t, a) ⟨s', Function.update c.loc t l'⟩
  | env {c : Threaded σ L} {a : A} {s' : σ} (h : C.env c.shared a s') :
      Code.Step C c (none, a) ⟨s', c.loc⟩

/-- The runs of the threads, in which the steps of any of them and of the surroundings come in any
order. -/
def Code.lts (C : Code σ L A) : Lts (Threaded σ L) (Option ℕ × A) where
  init := C.init
  step := C.Step

/-- The step of a thread whose location is known. -/
theorem Code.step_at {c : Threaded σ L} {t : ℕ} {l l' : L} {a : A} {s' : σ} (hl : c.loc t = l)
    (h : C.step t l c.shared a l' s') :
    C.lts.step c (some t, a) ⟨s', Function.update c.loc t l'⟩ := by
  subst hl
  exact .thread h

/-- A side condition on the steps of threads, read as one on the steps of a run. -/
def whenever (ok : ℕ → L → σ → A → Prop) (c : Threaded σ L) (p : Option ℕ × A) : Prop :=
  ∀ t, p.1 = some t → ok t (c.loc t) c.shared p.2

/-- `At t l s` holds when the thread `t` is at `l`. It holds initially, is established by the step
that leads to `l`, and is not invalidated by the steps of other threads and of the environment. -/
structure Outlined (C : Code σ L A) (ok : ℕ → L → σ → A → Prop) (At : ℕ → L → σ → Prop) : Prop where
  init : ∀ {c}, C.init c → ∀ t, At t (c.loc t) c.shared
  step : ∀ {t l s a l' s'}, At t l s → C.step t l s a l' s' → ok t l s a → At t l' s'
  free : ∀ {t u l k s a l' s'}, u ≠ t → At t l s → At u k s → C.step t l s a l' s' →
    ok t l s a → At u k s'
  env : ∀ {t l s a s'}, At t l s → C.env s a s' → At t l s'

/-- **The rule of proof outlines.** In every state of a run whose steps satisfy the side condition,
the assertion of each thread's location holds. -/
theorem Outlined.reachable {ok : ℕ → L → σ → A → Prop} {At : ℕ → L → σ → Prop}
    (ho : Outlined C ok At) {c : Threaded σ L} (h : C.lts.ReachableUnder (whenever ok) c) (t : ℕ) :
    At t (c.loc t) c.shared := by
  -- what holds of every thread is kept by every step
  refine @Lts.ReachableUnder.invariant _ _ _ _ (fun c => ∀ t, At t (c.loc t) c.shared)
    (fun _ h0 => ho.init h0) ?_ c h t
  -- of each thread the step is its own, one of another, or one of the surroundings
  intro c p c' hc hstep hok u
  cases hstep with
  | @thread t a l' s' hstep =>
    have hok' := hok t rfl
    rcases eq_or_ne u t with rfl | hut
    · -- the thread that takes the step
      have hat := ho.step (hc u) hstep hok'
      show At u (Function.update c.loc u l' u) s'
      rwa [Function.update_self]
    · -- another thread has taken the step
      have hat := ho.free hut (hc t) (hc u) hstep hok'
      show At u (Function.update c.loc t l' u) s'
      rwa [Function.update_of_ne hut]
  | env henv => exact ho.env (hc u) henv

/-! ### Taking turns -/

section Owned

variable {owner : σ → Option ℕ} {inside : L → Bool} {Res : σ → Prop} {In Out : ℕ → L → σ → Prop}
  {ok : ℕ → L → σ → A → Prop}

/-- A thread inside owns the shared state. One outside knows that the shared state is as `Res` says
while nobody owns it. -/
def turn (owner : σ → Option ℕ) (inside : L → Bool) (Res : σ → Prop) (In Out : ℕ → L → σ → Prop)
    (t : ℕ) (l : L) (s : σ) : Prop :=
  if inside l then owner s = some t ∧ In t l s else (owner s = none → Res s) ∧ Out t l s

theorem turn_inside {t : ℕ} {l : L} {s : σ} (hl : inside l = true) :
    turn owner inside Res In Out t l s ↔ owner s = some t ∧ In t l s := by
  rw [turn, if_pos hl]

theorem turn_outside {t : ℕ} {l : L} {s : σ} (hl : inside l = false) :
    turn owner inside Res In Out t l s ↔ (owner s = none → Res s) ∧ Out t l s := by
  rw [turn, if_neg (by rw [hl]; exact Bool.false_ne_true)]

/-- Two threads are not inside at once. -/
theorem turn_unique {t u : ℕ} {l k : L} {s : σ} (ht : turn owner inside Res In Out t l s)
    (hu : turn owner inside Res In Out u k s) (hl : inside l = true) (hk : inside k = true) :
    u = t := by
  have htown := ((turn_inside hl).mp ht).1
  have huown := ((turn_inside hk).mp hu).1
  exact Option.some.inj (huown.symm.trans htown)

/-- What nobody owns is as `Res` says, whatever thread one looks at. -/
theorem turn_resource {t : ℕ} {l : L} {s : σ} (ht : turn owner inside Res In Out t l s)
    (hnone : owner s = none) : Res s := by
  cases hl : inside l with
  | true =>
    have howner := ((turn_inside hl).mp ht).1
    rw [hnone] at howner
    exact absurd howner (Option.some_ne_none t).symm
  | false => exact ((turn_outside hl).mp ht).1 hnone

/-- What is to be checked of threads that take turns. `step` and `res` are about the thread that
takes the step; `enter` says that a thread outside does not disturb the owner, and `out` that the
assertions outside are not invalidated. -/
structure Owned (C : Code σ L A) (ok : ℕ → L → σ → A → Prop) (owner : σ → Option ℕ)
    (inside : L → Bool) (Res : σ → Prop) (In Out : ℕ → L → σ → Prop) : Prop where
  init : ∀ {c}, C.init c → ∀ t, turn owner inside Res In Out t (c.loc t) c.shared
  step : ∀ {t l s a l' s'}, turn owner inside Res In Out t l s → C.step t l s a l' s' →
    ok t l s a → if inside l' then owner s' = some t ∧ In t l' s' else Out t l' s'
  res : ∀ {t l s a l' s'}, turn owner inside Res In Out t l s → C.step t l s a l' s' →
    ok t l s a → owner s' = none → Res s'
  enter : ∀ {t u l k s a l' s'}, u ≠ t → inside l = false → turn owner inside Res In Out t l s →
    owner s = some u → inside k = true → In u k s → C.step t l s a l' s' → ok t l s a →
      owner s' = some u ∧ In u k s'
  out : ∀ {t u l k s a l' s'}, u ≠ t → inside k = false → turn owner inside Res In Out t l s →
    Out u k s → C.step t l s a l' s' → ok t l s a → Out u k s'
  env : ∀ {t l s a s'}, turn owner inside Res In Out t l s → C.env s a s' →
    turn owner inside Res In Out t l s'

/-- **Threads that take turns** have a proof outline. A step of the thread leads to the assertion of
its next location, and a step of another thread is harmless: to a thread outside the resource does
not matter, and while a thread is inside the others are outside. -/
theorem Owned.outlined (h : Owned C ok owner inside Res In Out) :
    Outlined C ok (turn owner inside Res In Out) where
  init := h.init
  step := by
    -- a step of the thread: it is inside afterwards or it is not
    intro t l s a l' s' ht hstep hok
    have hnew := h.step ht hstep hok
    rw [turn]
    split
    · rwa [if_pos ‹_›] at hnew
    · rw [if_neg ‹_›] at hnew
      exact ⟨h.res ht hstep hok, hnew⟩
  env := h.env
  -- a step of another thread
  free := by
    intro t u l k s a l' s' hut ht hu hstep hok
    cases hk : inside k with
    | true =>
      rw [turn_inside hk] at hu ⊢
      -- the thread that takes the step is outside, since the other one is inside
      have hl : inside l = false := by
        cases hl : inside l with
        | false => rfl
        | true => exact absurd (turn_unique ht ((turn_inside hk).mpr hu) hl hk) hut
      exact h.enter hut hl ht hu.1 hk hu.2 hstep hok
    -- outside the resource is not the concern of the thread
    | false =>
      rw [turn_outside hk] at hu ⊢
      exact ⟨h.res ht hstep hok, h.out hut hk ht hu.2 hstep hok⟩

end Owned

end Outlines
