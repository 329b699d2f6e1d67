import BlueCommon.Lib.Program
import Mathlib.Data.Nat.Notation

/-!
# Threads that run programs

Any number of threads share a state. An idle thread may start a program that the environment allows;
a thread that runs performs the next operation of its program as one atomic step.

* `pool init sem may`: the labelled transition system of the threads;
* `PoolStep.shared_invariant`: the rule for invariants of the shared state alone;
* `pool_invariant`: the rule for invariants that involve where the threads are. Each thread has a
  protocol state; the programs are checked against the protocol one at a time (`Program.Obeys`), and
  the invariant of the shared state and the protocol states is checked on one operation.
-/

namespace Interaction

/-- The shared state and, for each thread, what it has still to run. A thread that has nothing to
run is idle and may be given another program. -/
structure Pool (S : Signature) (σ : Type) where
  shared : σ
  prog : ℕ → Program S Unit

/-- The steps of a pool: a thread starts a program, or performs an operation with a result. The
label has both, so that a condition on runs can speak of them. -/
inductive PoolLabel (S : Signature) : Type
  | call (t : ℕ) (p : Program S Unit)
  | op (t : ℕ) (o : S.Op) (r : S.Res o)

variable {S : Signature} {σ γ : Type}

/-- A thread is idle when its program has returned. -/
def Pool.Idle (P : Pool S σ) (t : ℕ) : Prop := P.prog t = .ret ()

/-- One step of a pool. `sem t` is how the operations behave when the thread `t` performs them, and
`may s t p` says that in the shared state `s` the thread `t` may be given the program `p`. -/
inductive PoolStep (sem : ℕ → Semantics S σ) (may : σ → ℕ → Program S Unit → Prop) :
    Pool S σ → PoolLabel S → Pool S σ → Prop
  | call {P : Pool S σ} {t : ℕ} {p : Program S Unit} (hidle : P.Idle t)
      (hmay : may P.shared t p) :
      PoolStep sem may P (.call t p) { P with prog := Function.update P.prog t p }
  | op {P : Pool S σ} {t : ℕ} {o : S.Op} {k : S.Res o → Program S Unit} {r : S.Res o} {s' : σ}
      (hprog : P.prog t = .op o k) (hsem : sem t o r P.shared s') :
      PoolStep sem may P (.op t o r) ⟨s', Function.update P.prog t (k r)⟩

/-- The runs of the threads from a state in which all are idle. -/
def pool (init : σ → Prop) (sem : ℕ → Semantics S σ) (may : σ → ℕ → Program S Unit → Prop) :
    Lts (Pool S σ) (PoolLabel S) where
  init P := init P.shared ∧ ∀ t, P.Idle t
  step := PoolStep sem may

variable {init : σ → Prop} {sem : ℕ → Semantics S σ} {may : σ → ℕ → Program S Unit → Prop}

/-- What every operation keeps, a step of a pool keeps, whatever its threads run. -/
theorem PoolStep.shared_invariant {Inv : σ → Prop} {ok : σ → PoolLabel S → Prop}
    (hop : ∀ s t o r s', Inv s → sem t o r s s' → ok s (.op t o r) → Inv s')
    {Q Q' : Pool S σ} {l : PoolLabel S} (hQ : Inv Q.shared) (hstep : PoolStep sem may Q l Q')
    (hok : ok Q.shared l) : Inv Q'.shared := by
  cases hstep with
  | call hidle hmay => exact hQ
  | op hprog hsem => exact hop _ _ _ _ _ hQ hsem hok

/-- Some protocol states of the threads satisfy `Inv` together with the shared state, and from them
the rest of every program obeys its protocol. -/
def Pool.Obeying (P : ℕ → Protocol S γ) (post : γ → Prop) (Inv : σ → (ℕ → γ) → Prop)
    (Q : Pool S σ) : Prop :=
  ∃ gh, Inv Q.shared gh ∧ ∀ t, (Q.prog t).Obeys (P t) (fun _ => post) (gh t)

section Invariant

variable {P : ℕ → Protocol S γ} {post : γ → Prop} {Inv : σ → (ℕ → γ) → Prop}
  {ok : σ → PoolLabel S → Prop}

theorem Pool.Obeying.start (hinit : ∀ s, init s → ∃ gh, Inv s gh ∧ ∀ t, post (gh t)) {Q : Pool S σ}
    (h : (pool init sem may).init Q) : Q.Obeying P post Inv := by
  obtain ⟨h0, hidle⟩ := h
  obtain ⟨gh, hinv, hpost⟩ := hinit _ h0
  refine ⟨gh, hinv, fun t => ?_⟩
  rw [show Q.prog t = .ret () from hidle t]
  exact hpost t

/-- One step. Only the thread that takes it changes its protocol state. A call must be allowed by
the final state of the protocol, and an operation is followed by the protocol as by the thread; the
invariant is kept by assumption. -/
theorem Pool.Obeying.step
    (hcall : ∀ s gh t p, Inv s gh → post (gh t) → may s t p →
      ∃ g, Inv s (Function.update gh t g) ∧ p.Obeys (P t) (fun _ => post) g)
    (hop : ∀ s gh t o r s', Inv s gh → (P t).allow (gh t) o → sem t o r s s' →
      ok s (.op t o r) → ∃ g, (P t).next (gh t) o r g ∧ Inv s' (Function.update gh t g))
    {Q Q' : Pool S σ} {l : PoolLabel S} (hQ : Q.Obeying P post Inv)
    (hstep : PoolStep sem may Q l Q') (hok : ok Q.shared l) : Q'.Obeying P post Inv := by
  obtain ⟨gh, hinv, hobeys⟩ := hQ
  cases hstep with
  | @call t p hidle hmay =>
    -- the thread has nothing left to do, so that it is in a final state of its protocol
    have hpost : post (gh t) := by
      have ht := hobeys t
      rw [show Q.prog t = .ret () from hidle] at ht
      exact ht
    obtain ⟨g, hinv', hp⟩ := hcall _ gh t p hinv hpost hmay
    refine ⟨Function.update gh t g, hinv', fun u => ?_⟩
    -- the other threads go on as before
    rcases eq_or_ne u t with rfl | hut
    · simpa using hp
    · simpa [Function.update_of_ne hut] using hobeys u
  | @op t o k r s' hprog hsem =>
    have ht := hobeys t
    -- the protocol allows the operation, and goes on as the thread does
    rw [hprog] at ht
    obtain ⟨g, hnext, hinv'⟩ := hop _ gh t o r s' hinv ht.1 hsem hok
    refine ⟨Function.update gh t g, hinv', fun u => ?_⟩
    rcases eq_or_ne u t with rfl | hut
    · simpa using ht.2 r g hnext
    · simpa [Function.update_of_ne hut] using hobeys u

/-- **The invariant rule of a pool.** Let `Inv` relate the shared state to a protocol state of each
thread. If idle threads start in protocol states from which their programs obey the protocol, and
every allowed operation has a next protocol state for which `Inv` holds again, then in every
reachable state there are protocol states for which `Inv` holds and from which the rest of every
program obeys the protocol. -/
theorem pool_invariant
    (hinit : ∀ s, init s → ∃ gh, Inv s gh ∧ ∀ t, post (gh t))
    (hcall : ∀ s gh t p, Inv s gh → post (gh t) → may s t p →
      ∃ g, Inv s (Function.update gh t g) ∧ p.Obeys (P t) (fun _ => post) g)
    (hop : ∀ s gh t o r s', Inv s gh → (P t).allow (gh t) o → sem t o r s s' →
      ok s (.op t o r) → ∃ g, (P t).next (gh t) o r g ∧ Inv s' (Function.update gh t g))
    {Q : Pool S σ}
    (h : Lts.ReachableUnder (pool init sem may) (fun Q l => ok Q.shared l) Q) :
    Q.Obeying P post Inv :=
  @Lts.ReachableUnder.invariant _ _ _ _ (fun Q => Q.Obeying P post Inv)
    (fun _ h0 => .start hinit h0) (fun _ _ _ hQ hstep hok => hQ.step hcall hop hstep hok) Q h

end Invariant

/-! ### Calls one after the other -/

/-- The pool in which all threads are idle. -/
def Pool.quiet (s : σ) : Pool S σ := ⟨s, fun _ => .ret ()⟩

/-- One thread goes on with its program to the end while the others are idle. -/
theorem Pool.run_rest {Q₀ : Pool S σ} {t : ℕ} {p : Program S Unit} {s s' : σ}
    (h : p.Runs (sem t) s () s')
    (hrun : ∃ tr, (pool init sem may).Run Q₀ tr ⟨s, Function.update (fun _ => .ret ()) t p⟩) :
    ∃ tr, (pool init sem may).Run Q₀ tr (Pool.quiet s') := by
  induction p generalizing s with
  | ret a =>
    obtain ⟨-, rfl⟩ := h
    -- the thread has returned, and the pool is quiet
    have hidle : Function.update (fun _ => .ret ()) t (.ret a) =
        fun _ : ℕ => (Program.ret () : Program S Unit) :=
      Function.update_eq_self t fun _ : ℕ => (Program.ret () : Program S Unit)
    rw [hidle] at hrun
    exact hrun
  | op o k ih =>
    obtain ⟨r, s₁, ho, hk⟩ := h
    obtain ⟨tr, hrun⟩ := hrun
    -- the continuation takes the place of the program
    have hprog : (⟨s, Function.update (fun _ => .ret ()) t (.op o k)⟩ : Pool S σ).prog t =
        .op o k := by
      simp only [Function.update_self]
    have hop := @PoolStep.op _ _ sem may _ t o k r s₁ hprog ho
    rw [Function.update_idem] at hop
    exact ih r hk ⟨_, .snoc hrun hop⟩

/-- An idle thread calls a program and runs it to the end while the others are idle. -/
theorem Pool.run_call {Q₀ : Pool S σ} {t : ℕ} {p : Program S Unit} {s s' : σ}
    (h : p.Runs (sem t) s () s') (hmay : may s t p)
    (hrun : ∃ tr, (pool init sem may).Run Q₀ tr (Pool.quiet s)) :
    ∃ tr, (pool init sem may).Run Q₀ tr (Pool.quiet s') := by
  obtain ⟨tr, hrun⟩ := hrun
  exact Pool.run_rest h ⟨_, .snoc hrun (.call rfl hmay)⟩

section Under

variable {ok : σ → PoolLabel S → Prop}

/-- The operations of the thread `t` that meet a side condition. -/
def Meeting (sem : ℕ → Semantics S σ) (ok : σ → PoolLabel S → Prop) (t : ℕ) : Semantics S σ :=
  fun o r s s' => sem t o r s s' ∧ ok s (.op t o r)

/-- As `Pool.run_rest`, where all operations of the thread meet a side condition. -/
theorem Pool.reachableUnder_rest {t : ℕ} {p : Program S Unit} {s s' : σ}
    (h : p.Runs (Meeting sem ok t) s () s')
    (hreach : (pool init sem may).ReachableUnder (fun Q l => ok Q.shared l)
      ⟨s, Function.update (fun _ => .ret ()) t p⟩) :
    (pool init sem may).ReachableUnder (fun Q l => ok Q.shared l) (Pool.quiet s') := by
  -- induction on the program that is left
  induction p generalizing s with
  | ret a =>
    -- it has ended, and no thread has anything to do
    obtain ⟨-, rfl⟩ := h
    have hidle : Function.update (fun _ => .ret ()) t (.ret a) =
        fun _ : ℕ => (Program.ret () : Program S Unit) :=
      Function.update_eq_self t fun _ : ℕ => (Program.ret () : Program S Unit)
    rw [hidle] at hreach
    exact hreach
  -- it does its next operation, which is a step of the pool
  | op o k ih =>
    obtain ⟨r, s₁, ⟨ho, hok⟩, hk⟩ := h
    have hprog : (⟨s, Function.update (fun _ => .ret ()) t (.op o k)⟩ : Pool S σ).prog t =
        .op o k := by
      simp only [Function.update_self]
    have hop := @PoolStep.op _ _ sem may _ t o k r s₁ hprog ho
    rw [Function.update_idem] at hop
    exact ih r hk (hreach.step hop hok)

/-- As `Pool.run_call`, where all operations of the thread meet a side condition. -/
theorem Pool.reachableUnder_call {t : ℕ} {p : Program S Unit} {s s' : σ}
    (h : p.Runs (Meeting sem ok t) s () s') (hmay : may s t p) (hcall : ok s (.call t p))
    (hreach : (pool init sem may).ReachableUnder (fun Q l => ok Q.shared l) (Pool.quiet s)) :
    (pool init sem may).ReachableUnder (fun Q l => ok Q.shared l) (Pool.quiet s') :=
  Pool.reachableUnder_rest h (hreach.step (.call rfl hmay) hcall)

end Under

/-! ### Finitely many threads -/

/-- The pool whose first threads run the programs of a list; the others are idle. -/
def Pool.ofList (s : σ) (ps : List (Program S Unit)) : Pool S σ where
  shared := s
  prog t := ps.getD t (.ret ())

/-- A thread of the list takes on another program. -/
theorem Pool.update_ofList {s s' : σ} {ps : List (Program S Unit)} {t : ℕ} {p : Program S Unit}
    (ht : t < ps.length) :
    ⟨s', Function.update (Pool.ofList s ps).prog t p⟩ = Pool.ofList s' (ps.set t p) := by
  refine congrArg (Pool.mk s') (funext fun u => ?_)
  rcases eq_or_ne u t with rfl | hut
  · rw [Function.update_self]
    simp [ht]
  · rw [Function.update_of_ne hut]
    simp [Pool.ofList, List.getElem?_set_ne hut.symm]

theorem Pool.ofList_idle {s : σ} {ps : List (Program S Unit)} (h : ∀ p ∈ ps, p = .ret ()) (t : ℕ) :
    (Pool.ofList s ps).Idle t := by
  show ps.getD t (.ret ()) = .ret ()
  rw [List.getD_eq_getElem?_getD]
  cases hp : ps[t]? with
  | none => rfl
  | some p => exact h p (List.mem_of_getElem? hp)

/-- A thread of the list starts a program. -/
theorem PoolStep.ofList_call {s : σ} {ps : List (Program S Unit)} {t : ℕ} {p : Program S Unit}
    (ht : ps[t]? = some (.ret ())) (hmay : may s t p) :
    PoolStep sem may (Pool.ofList s ps) (.call t p) (Pool.ofList s (ps.set t p)) := by
  rw [← Pool.update_ofList (List.getElem?_eq_some_iff.mp ht).1]
  refine .call ?_ hmay
  show ps.getD t (.ret ()) = .ret ()
  rw [List.getD_eq_getElem?_getD, ht]
  rfl

/-- A thread of the list performs its next operation. -/
theorem PoolStep.ofList_op {s s' : σ} {ps : List (Program S Unit)} {t : ℕ} {o : S.Op}
    {k : S.Res o → Program S Unit} {r : S.Res o} (ht : ps[t]? = some (.op o k))
    (hsem : sem t o r s s') :
    PoolStep sem may (Pool.ofList s ps) (.op t o r) (Pool.ofList s' (ps.set t (k r))) := by
  rw [← Pool.update_ofList (List.getElem?_eq_some_iff.mp ht).1]
  refine .op ?_ hsem
  show ps.getD t (.ret ()) = .op o k
  rw [List.getD_eq_getElem?_getD, ht]
  rfl

end Interaction
