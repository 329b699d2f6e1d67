import BlueCommon.Lib.Program

/-!
# Programs that may exit

A program of type `ExceptT ε (Program S) α` performs operations of the signature `S` and ends with a
value or, at any point, with an exit code. A triple says where it may end.

* `Exits sem I p E J`: every run of `p` from a state where `I` holds exits where `E` holds of the
  code or returns where `J` holds of the value. `Exits.bind` is the rule for sequences.
* `Only`: the rules for the operations of such a program, and `Exits.only`: what these keep.
* `Program.exec`: the run in which a function answers the operations.
-/

namespace Interaction

variable {S : Signature} {σ ε α β : Type}

/-- Without operations: a step that is followed by another one succeeds if both do. -/
theorem bind_eq_ok {x : Except ε α} {f : α → Except ε β} {b : β} :
    x >>= f = .ok b ↔ ∃ a, x = .ok a ∧ f a = .ok b := by
  cases x with
  | error e =>
    exact ⟨fun h => absurd h (by simp [bind, Except.bind]), fun ⟨_, h, _⟩ => absurd h (by simp)⟩
  | ok a => exact ⟨fun h => ⟨a, rfl, h⟩, fun ⟨_, h, hf⟩ => by rw [Except.ok.inj h]; exact hf⟩

/-- What each step of a loop keeps holds after the loop, if no step fails. -/
theorem foldlM_ok_invariant {P : β → Prop} {f : β → α → Except ε β} {as : List α} {b b' : β}
    (hb : P b) (hstep : ∀ b a b', a ∈ as → P b → f b a = .ok b' → P b')
    (h : as.foldlM f b = .ok b') : P b' := by
  induction as generalizing b with
  | nil =>
    obtain rfl := Except.ok.inj h
    exact hb
  | cons a as ih =>
    rw [List.foldlM_cons] at h
    obtain ⟨b₁, hfirst, hrest⟩ := bind_eq_ok.mp h
    have hb₁ := hstep b a b₁ List.mem_cons_self hb hfirst
    exact ih hb₁ (fun b a b' ha => hstep b a b' (List.mem_cons_of_mem _ ha)) hrest

/-- Perform one operation. -/
def perform (o : S.Op) : ExceptT ε (Program S) (S.Res o) := ExceptT.lift (.op o .ret)

/-- From a state where `I` holds, `p` exits where `E` holds or returns where `J` holds. -/
def Exits (sem : Semantics S σ) (I : σ → Prop) (p : ExceptT ε (Program S) α) (E : ε → σ → Prop)
    (J : α → σ → Prop) : Prop :=
  ∀ s, I s → ∀ r s', p.run.Runs sem s r s' →
    match r with
    | .ok a => J a s'
    | .error e => E e s'

namespace Exits

variable {sem : Semantics S σ} {I I' : σ → Prop} {E : ε → σ → Prop} {J J' : α → σ → Prop}
  {p : ExceptT ε (Program S) α}

theorem pure {a : α} (h : ∀ s, I s → J a s) :
    Exits sem I (pure a : ExceptT ε (Program S) α) E J := by
  intro s hs r s' hrun
  obtain ⟨rfl, rfl⟩ := hrun
  exact h s' hs

theorem throw {e : ε} (h : ∀ s, I s → E e s) :
    Exits sem I (throw e : ExceptT ε (Program S) α) E J := by
  intro s hs r s' hrun
  obtain ⟨rfl, rfl⟩ := hrun
  exact h s' hs

/-- One operation. -/
theorem perform {o : S.Op} {J : S.Res o → σ → Prop}
    (h : ∀ s r s', I s → sem o r s s' → J r s') : Exits sem I (perform o) E J := by
  intro s hs r s' hrun
  obtain ⟨r₀, s₁, hsem, hret⟩ := hrun
  obtain ⟨rfl, rfl⟩ := hret
  exact h s r₀ s' hs hsem

/-- The sequencing rule. An exit of the first program is one of the sequence. -/
theorem bind {f : α → ExceptT ε (Program S) β} {K : β → σ → Prop} (hp : Exits sem I p E J)
    (hf : ∀ a, Exits sem (J a) (f a) E K) : Exits sem I (p >>= f) E K := by
  intro s hs r s' hrun
  obtain ⟨x, s₁, hx, hrest⟩ := (Program.runs_bind p.run (ExceptT.bindCont f)).mp hrun
  have hfirst := hp s hs x s₁ hx
  cases x with
  | ok a => exact hf a s₁ hfirst r s' hrest
  | error e =>
    obtain ⟨rfl, rfl⟩ := hrest
    exact hfirst

/-- The consequence rule. -/
theorem mono {E' : ε → σ → Prop} (h : Exits sem I p E J) (hI : ∀ s, I' s → I s)
    (hE : ∀ e s, E e s → E' e s) (hJ : ∀ a s, J a s → J' a s) : Exits sem I' p E' J' := by
  intro s hs r s' hrun
  have hend := h s (hI s hs) r s' hrun
  cases r with
  | ok a => exact hJ a s' hend
  | error e => exact hE e s' hend

/-- A condition that names no state. -/
theorem pure_pre {φ : Prop} (h : φ → Exits sem I p E J) : Exits sem (fun s => I s ∧ φ) p E J :=
  fun s hs => h hs.2 s hs.1

/-- A value that the state determines. -/
theorem exists_pre {γ : Type} {I : γ → σ → Prop} (h : ∀ c, Exits sem (I c) p E J) :
    Exits sem (fun s => ∃ c, I c s) p E J :=
  fun s ⟨c, hs⟩ => h c s hs

/-- A test and its branches. -/
theorem ite {c : Prop} [Decidable c] {q : ExceptT ε (Program S) α} (hp : c → Exits sem I p E J)
    (hq : ¬ c → Exits sem I q E J) : Exits sem I (if c then p else q) E J := by
  split
  · exact hp ‹_›
  · exact hq ‹_›

/-- What the operations of one kind keep holds where a program of these operations exits or
returns. -/
theorem only {A : S.Op → Prop} (hop : ∀ o r s s', A o → sem o r s s' → I s → I s')
    (hp : p.run.Only A) : Exits sem I p (fun _ => I) fun _ => I := by
  intro s hs r s' hrun
  have hend : I s' := Program.Only.invariant I hop hp hrun hs
  cases r with
  | ok a => exact hend
  | error e => exact hend

end Exits

/-! ### The operations of a program that may exit -/

section Only

variable {A : S.Op → Prop} {p : ExceptT ε (Program S) α}

theorem only_pure {a : α} : (pure a : ExceptT ε (Program S) α).run.Only A := trivial

theorem only_throw {e : ε} : (throw e : ExceptT ε (Program S) α).run.Only A := trivial

theorem only_perform {o : S.Op} (h : A o) :
    (perform o : ExceptT ε (Program S) (S.Res o)).run.Only A := ⟨h, fun _ => trivial⟩

theorem only_bind {f : α → ExceptT ε (Program S) β} (hp : p.run.Only A)
    (hf : ∀ a, (f a).run.Only A) : (p >>= f).run.Only A := by
  apply Program.Only.bind hp
  intro x
  cases x with
  | ok a => exact hf a
  | error e => trivial

theorem only_ite {c : Prop} [Decidable c] {q : ExceptT ε (Program S) α} (hp : p.run.Only A)
    (hq : q.run.Only A) : (if c then p else q).run.Only A := by
  split
  · exact hp
  · exact hq

end Only

/-! ### Answered runs -/

namespace Program

/-- The run in which `answer` gives the results of the operations and the states after them. -/
def exec (answer : (o : S.Op) → σ → S.Res o × σ) : Program S α → σ → α × σ
  | .ret a, s => (a, s)
  | .op o k, s => (k (answer o s).1).exec answer (answer o s).2

/-- An answered run is a run when the semantics allows the answers. -/
theorem runs_exec {sem : Semantics S σ} {answer : (o : S.Op) → σ → S.Res o × σ}
    (h : ∀ o s, sem o (answer o s).1 s (answer o s).2) (p : Program S α) (s : σ) :
    p.Runs sem s (p.exec answer s).1 (p.exec answer s).2 := by
  induction p generalizing s with
  | ret a => exact ⟨rfl, rfl⟩
  | op o k ih => exact ⟨(answer o s).1, (answer o s).2, h o s, ih _ _⟩

end Program

end Interaction
