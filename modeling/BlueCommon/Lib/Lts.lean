import Mathlib.Logic.Function.Basic
import Mathlib.Tactic.Basic

/-!
# Labelled transition systems and their runs

The system model every development below runs in. A system is an initial predicate and a labelled
step relation; a run records, for each step, the state the step was taken from and its label, so
that a side condition on a step ("the allocator did not reuse the address", "the client was alive")
can be read off the run.

* `Lts.Reachable` is the set of states of all runs, `Lts.ReachableUnder ok` the set of states of the
  runs whose steps all satisfy `ok`.
* `Lts.Reachable.invariant` and `Lts.ReachableUnder.invariant` are the induction rules: an invariant
  is checked on the initial states and on one step.
* `Lts.good_iff_ok` is the rule for an exact condition: when the steps that satisfy `ok` keep an
  invariant and the others break `Good` at once, a run is good throughout exactly when all its steps
  satisfy `ok`. `Lts.steps_good_iff_ok` is the same rule for a property of steps.
-/

/-- A labelled transition system: the initial states and the steps. A label says who takes a step
and with which arguments, so that a condition on a run can speak of its steps. -/
structure Lts (State Label : Type) where
  init : State → Prop
  step : State → Label → State → Prop

namespace Lts

variable {State Label : Type} {sys : Lts State Label}

/-- A finite run from `s` to `t`, with the pre-state and the label of each step in order. A run
grows at its end, since the invariants are those of its last state. -/
inductive Run (sys : Lts State Label) (s : State) : List (State × Label) → State → Prop
  | nil : Run sys s [] s
  | snoc {tr : List (State × Label)} {t u : State} {l : Label} :
      Run sys s tr t → sys.step t l u → Run sys s (tr ++ [(t, l)]) u

/-- The states of a run, from the first to the last: those before each step, and the one at the
end. -/
def visited (tr : List (State × Label)) (t : State) : List State :=
  tr.map Prod.fst ++ [t]

/-- The states of the runs from an initial state. A safety property holds of each of them when it
holds at the start and is kept by every step. -/
inductive Reachable (sys : Lts State Label) : State → Prop
  | init {s : State} : sys.init s → Reachable sys s
  | step {s t : State} {l : Label} : Reachable sys s → sys.step s l t → Reachable sys t

/-- The states of the runs from an initial state whose steps all satisfy `ok`. It is a condition on
the step with the state before it, not on what the step makes. -/
inductive ReachableUnder (sys : Lts State Label) (ok : State → Label → Prop) : State → Prop
  | init {s : State} : sys.init s → ReachableUnder sys ok s
  | step {s t : State} {l : Label} :
      ReachableUnder sys ok s → sys.step s l t → ok s l → ReachableUnder sys ok t

/-- **The invariant rule.** What holds initially and is kept by every step holds of every
reachable state. -/
theorem Reachable.invariant {Inv : State → Prop} (hinit : ∀ s, sys.init s → Inv s)
    (hstep : ∀ s l t, Inv s → sys.step s l t → Inv t) {s : State} (h : Reachable sys s) :
    Inv s := by
  induction h with
  | init h0 => exact hinit _ h0
  | step _ hs ih => exact hstep _ _ _ ih hs

/-- **The invariant rule under a side condition** on the steps of the run. -/
theorem ReachableUnder.invariant {ok : State → Label → Prop} {Inv : State → Prop}
    (hinit : ∀ s, sys.init s → Inv s)
    (hstep : ∀ s l t, Inv s → sys.step s l t → ok s l → Inv t) {s : State}
    (h : ReachableUnder sys ok s) : Inv s := by
  induction h with
  | init h0 => exact hinit _ h0
  | step _ hs hok ih => exact hstep _ _ _ ih hs hok

/-- A condition that every step satisfies is none. -/
theorem Reachable.under {ok : State → Label → Prop} (hok : ∀ s l, ok s l) {s : State}
    (h : Reachable sys s) : ReachableUnder sys ok s := by
  induction h with
  | init h0 => exact .init h0
  | step _ hs ih => exact .step ih hs (hok _ _)

/-- A run is a run, whatever its steps satisfy. -/
theorem ReachableUnder.reachable {ok : State → Label → Prop} {s : State}
    (h : ReachableUnder sys ok s) : Reachable sys s := by
  induction h with
  | init h0 => exact .init h0
  | step _ hs _ ih => exact .step ih hs

/-- What every step keeps holds at the end of a run when it holds at the beginning. -/
theorem Run.keeps {P : State → Prop} (hstep : ∀ s l t, P s → sys.step s l t → P t) {s t : State}
    {tr : List (State × Label)} (h : Run sys s tr t) (hs : P s) : P t := by
  induction h with
  | nil => exact hs
  | snoc _ hu ih => exact hstep _ _ _ ih hu

/-- The last state of a run from a reachable state is reachable. -/
theorem Run.reachable_of {s t : State} {tr : List (State × Label)} (h : Run sys s tr t)
    (hs : Reachable sys s) : Reachable sys t :=
  h.keeps (fun _ _ _ => .step) hs

/-- The last state of a run from an initial state is reachable. -/
theorem Run.reachable {s t : State} {tr : List (State × Label)} (h : Run sys s tr t)
    (h0 : sys.init s) : Reachable sys t :=
  h.reachable_of (.init h0)

/-- The states of a run extended by one step are the old ones and the new last state. -/
theorem visited_snoc (tr : List (State × Label)) (t u : State) (l : Label) :
    visited (tr ++ [(t, l)]) u = visited tr t ++ [u] := by
  simp [visited]

/-- **The exactness rule.** If the steps that satisfy `ok` keep `Inv`, `Inv` implies `Good`, and a
step that violates `ok` ends in a state that is not `Good`, then all states of a run are `Good`
exactly when all its steps satisfy `ok`. -/
theorem good_iff_ok {Inv Good : State → Prop} {ok : State → Label → Prop}
    (hinit : ∀ s, sys.init s → Inv s) (hgood : ∀ s, Inv s → Good s)
    (hok : ∀ s l t, Inv s → sys.step s l t → ok s l → Inv t)
    (hbad : ∀ s l t, Inv s → sys.step s l t → ¬ ok s l → ¬ Good t)
    {s t : State} {tr : List (State × Label)} (h0 : sys.init s) (h : Run sys s tr t) :
    (∀ u ∈ visited tr t, Good u) ↔ ∀ p ∈ tr, ok p.1 p.2 := by
  -- induction on the run; while all steps so far were `ok` the last state satisfies `Inv`
  suffices hmain : ((∀ u ∈ visited tr t, Good u) ↔ ∀ p ∈ tr, ok p.1 p.2) ∧
      ((∀ p ∈ tr, ok p.1 p.2) → Inv t) from hmain.1
  induction h with
  | nil =>
    -- no step has been taken
    refine ⟨⟨fun _ p hp => absurd hp List.not_mem_nil, fun _ u hu => ?_⟩, fun _ => hinit _ h0⟩
    obtain rfl : u = s := by simpa [visited] using hu
    exact hgood _ (hinit _ h0)
  | @snoc tr t u l _ hs ih =>
    obtain ⟨hiff, hinv⟩ := ih
    -- the steps and states of the longer run are those of the shorter one and one more
    have hsplit : (∀ p ∈ tr ++ [(t, l)], ok p.1 p.2) ↔ (∀ p ∈ tr, ok p.1 p.2) ∧ ok t l := by
      simp [or_imp, forall_and]
    have hvis : (∀ w ∈ visited (tr ++ [(t, l)]) u, Good w) ↔
        (∀ w ∈ visited tr t, Good w) ∧ Good u := by
      rw [visited_snoc]
      simp [or_imp, forall_and]
    rw [hsplit, hvis, hiff]
    refine ⟨and_congr_right fun hall => ⟨fun hu => ?_, fun hl => ?_⟩, fun hall => ?_⟩
    · by_contra hl
      exact hbad _ _ _ (hinv hall) hs hl hu
    · exact hgood _ (hok _ _ _ (hinv hall) hs hl)
    · exact hok _ _ _ (hinv hall.1) hs hall.2

/-- **The exactness rule for steps.** If a step that satisfies `ok` is `Good` and keeps `Inv`, and a
step that violates `ok` is not `Good`, then all steps of a run are `Good` exactly when they all
satisfy `ok`. -/
theorem steps_good_iff_ok {Inv : State → Prop} {Good ok : State → Label → Prop}
    (hinit : ∀ s, sys.init s → Inv s)
    (hok : ∀ s l t, Inv s → sys.step s l t → ok s l → Inv t ∧ Good s l)
    (hbad : ∀ s l t, Inv s → sys.step s l t → ¬ ok s l → ¬ Good s l)
    {s t : State} {tr : List (State × Label)} (h0 : sys.init s) (h : Run sys s tr t) :
    (∀ p ∈ tr, Good p.1 p.2) ↔ ∀ p ∈ tr, ok p.1 p.2 := by
  -- induction on the run; while all steps so far were `ok` the last state satisfies `Inv`
  suffices hmain : ((∀ p ∈ tr, Good p.1 p.2) ↔ ∀ p ∈ tr, ok p.1 p.2) ∧
      ((∀ p ∈ tr, ok p.1 p.2) → Inv t) from hmain.1
  induction h with
  -- before the first step nothing has to be good
  | nil => exact ⟨⟨fun _ p hp => absurd hp List.not_mem_nil,
      fun _ p hp => absurd hp List.not_mem_nil⟩, fun _ => hinit _ h0⟩
  | @snoc tr t u l _ hs ih =>
    obtain ⟨hiff, hinv⟩ := ih
    -- the run is one step longer, and so are both of the conditions
    have hsplit : ∀ P : State → Label → Prop, (∀ p ∈ tr ++ [(t, l)], P p.1 p.2) ↔
        (∀ p ∈ tr, P p.1 p.2) ∧ P t l := by
      intro P
      simp [or_imp, forall_and]
    rw [hsplit, hsplit, hiff]
    refine ⟨and_congr_right fun hall => ⟨fun hg => ?_, fun hl => ?_⟩, fun hall => ?_⟩
    · -- a step that is not `ok` cannot be good, since the steps before it were
      by_contra hl
      exact hbad _ _ _ (hinv hall) hs hl hg
    · -- a step that is `ok` is good and keeps the invariant
      exact (hok _ _ _ (hinv hall) hs hl).2
    · exact (hok _ _ _ (hinv hall.1) hs hall.2).1

end Lts
