import BlueCommon.Lib.Lts

/-!
# Programs over a signature of operations

A program is a tree of primitive operations: it performs an operation, receives a result and
continues with the subtree for that result. The operations are left uninterpreted, so one program
text serves a run taken in one go, a run interleaved with other threads and a check of the order in
which it performs its operations:

* `Runs sem p s a s'`: under the semantics `sem` of the operations, `p` can run from `s` to `s'` and
  return `a`;
* `handle`: every operation is replaced by a program over a lower signature;
* `Only`: the program performs operations of one kind only, so that what these keep, its runs keep;
* `Obeys`: whatever results its operations give, the program performs only the operations that a
  protocol allows and ends in a final protocol state. `Leads` is the same from all protocol states
  that satisfy a precondition, with the rules for sequences and handlers.
-/

namespace Interaction

/-- A signature: the operations, each with the type of its results. -/
structure Signature where
  Op : Type
  Res : Op → Type

/-- The programs over a signature that return a value of type `α`. -/
inductive Program (S : Signature) (α : Type) : Type
  | ret (a : α) : Program S α
  | op (o : S.Op) (k : S.Res o → Program S α) : Program S α

/-- A semantics of the operations: `sem o r s s'` when the operation `o` can return `r` and take the
state from `s` to `s'`. -/
abbrev Semantics (S : Signature) (σ : Type) : Type :=
  (o : S.Op) → S.Res o → σ → σ → Prop

namespace Program

variable {S T : Signature} {σ γ α β : Type}

/-- Sequencing: graft `f a` onto every leaf `ret a`. -/
protected def bind : Program S α → (α → Program S β) → Program S β
  | .ret a, f => f a
  | .op o k, f => .op o fun r => (k r).bind f

instance : Monad (Program S) where
  pure := .ret
  bind := Program.bind

@[simp] theorem pure_eq_ret (a : α) : (pure a : Program S α) = .ret a := rfl

@[simp] theorem ret_bind (a : α) (f : α → Program S β) :
    (Program.ret a >>= f) = f a := rfl

@[simp] theorem op_bind (o : S.Op) (k : S.Res o → Program S α) (f : α → Program S β) :
    (Program.op o k >>= f) = .op o fun r => k r >>= f := rfl

/-- Replace every operation by a program over the signature `T`, and what the program returns is the
result of the operation. -/
def handle (h : (o : S.Op) → Program T (S.Res o)) : Program S α → Program T α
  | .ret a => .ret a
  | .op o k => h o >>= fun r => (k r).handle h

/-! ### Uninterrupted runs -/

/-- `p` can run from `s` to `s'` and return `b`, its operations behaving as in `sem`. Operations may
have many results, and then the program has many runs. -/
def Runs (sem : Semantics S σ) : Program S α → σ → α → σ → Prop
  | .ret a, s, b, s' => b = a ∧ s' = s
  | .op o k, s, b, s' => ∃ r s₁, sem o r s s₁ ∧ (k r).Runs sem s₁ b s'

@[simp] theorem runs_ret {sem : Semantics S σ} {a b : α} {s s' : σ} :
    (Program.ret a : Program S α).Runs sem s b s' ↔ b = a ∧ s' = s := Iff.rfl

@[simp] theorem runs_op {sem : Semantics S σ} {o : S.Op} {k : S.Res o → Program S α}
    {b : α} {s s' : σ} :
    (Program.op o k).Runs sem s b s' ↔ ∃ r s₁, sem o r s s₁ ∧ (k r).Runs sem s₁ b s' := Iff.rfl

/-- A sequence runs through an intermediate state. -/
theorem runs_bind {sem : Semantics S σ} (p : Program S α) (f : α → Program S β)
    {s s' : σ} {b : β} :
    (p >>= f).Runs sem s b s' ↔ ∃ a s₁, p.Runs sem s a s₁ ∧ (f a).Runs sem s₁ b s' := by
  -- induction on the first program: its operations come first in the sequence
  induction p generalizing s with
  | ret a =>
    constructor
    · intro h
      exact ⟨a, s, ⟨rfl, rfl⟩, h⟩
    · rintro ⟨_, _, ⟨rfl, rfl⟩, h⟩
      exact h
  | op o k ih =>
    constructor
    · rintro ⟨r, s₁, ho, h⟩
      obtain ⟨a, s₂, hk, hf⟩ := (ih r).mp h
      exact ⟨a, s₂, ⟨r, s₁, ho, hk⟩, hf⟩
    · rintro ⟨a, s₂, ⟨r, s₁, ho, hk⟩, hf⟩
      exact ⟨r, s₁, ho, (ih r).mpr ⟨a, s₂, hk, hf⟩⟩

/-- The program that performs one operation and returns its result. -/
@[simp] theorem runs_op_ret {sem : Semantics S σ} {o : S.Op} {r : S.Res o} {s s' : σ} :
    (Program.op o .ret).Runs sem s r s' ↔ sem o r s s' := by
  constructor
  · rintro ⟨r', s₁, ho, rfl, rfl⟩
    exact ho
  · intro ho
    exact ⟨r, s', ho, rfl, rfl⟩

/-- One operation, and then the rest. -/
theorem runs_op_bind {sem : Semantics S σ} {o : S.Op} {f : S.Res o → Program S α} {s s' : σ}
    {b : α} :
    (Program.op o .ret >>= f).Runs sem s b s' ↔
      ∃ r s₁, sem o r s s₁ ∧ (f r).Runs sem s₁ b s' := Iff.rfl

/-- A run under a semantics is a run under a more liberal one. -/
theorem Runs.mono {sem sem' : Semantics S σ} (hsem : ∀ o r s s', sem o r s s' → sem' o r s s')
    {p : Program S α} {s s' : σ} {a : α} (h : p.Runs sem s a s') : p.Runs sem' s a s' := by
  induction p generalizing s with
  | ret b => exact h
  | op o k ih =>
    obtain ⟨r, s₁, ho, hk⟩ := h
    exact ⟨r, s₁, hsem o r s s₁ ho, ih r hk⟩

/-! ### The operations of a program -/

/-- Every operation of the program satisfies `A`, whatever the results of those before it. -/
def Only (A : S.Op → Prop) : Program S α → Prop
  | .ret _ => True
  | .op o k => A o ∧ ∀ r, (k r).Only A

@[simp] theorem only_ret {A : S.Op → Prop} {a : α} : (Program.ret a : Program S α).Only A := trivial

@[simp] theorem only_op {A : S.Op → Prop} {o : S.Op} {k : S.Res o → Program S α} :
    (Program.op o k).Only A ↔ A o ∧ ∀ r, (k r).Only A := Iff.rfl

theorem Only.mono {A B : S.Op → Prop} {p : Program S α} (h : p.Only A) (hAB : ∀ o, A o → B o) :
    p.Only B := by
  induction p with
  | ret a => trivial
  | op o k ih => exact ⟨hAB o h.1, fun r => ih r (h.2 r)⟩

theorem Only.bind {A : S.Op → Prop} {p : Program S α} {f : α → Program S β} (hp : p.Only A)
    (hf : ∀ a, (f a).Only A) : (p >>= f).Only A := by
  induction p with
  | ret a => exact hf a
  | op o k ih => exact ⟨hp.1, fun r => ih r (hp.2 r)⟩

theorem Only.ite {A : S.Op → Prop} {c : Prop} [Decidable c] {p q : Program S α} (hp : p.Only A)
    (hq : q.Only A) : (if c then p else q).Only A := by
  split
  · exact hp
  · exact hq

/-- One operation, and then the rest. -/
theorem Only.op_bind {A : S.Op → Prop} {o : S.Op} {f : S.Res o → Program S α} (ho : A o)
    (hf : ∀ r, (f r).Only A) : (Program.op o .ret >>= f).Only A := ⟨ho, hf⟩

/-- What the operations of one kind keep, the programs that perform only these keep. -/
theorem Only.invariant {sem : Semantics S σ} {A : S.Op → Prop} (Inv : σ → Prop)
    (hop : ∀ o r s s', A o → sem o r s s' → Inv s → Inv s') {p : Program S α} {s s' : σ} {a : α}
    (hp : p.Only A) (h : p.Runs sem s a s') (hs : Inv s) : Inv s' := by
  induction p generalizing s with
  | ret b =>
    obtain ⟨_, rfl⟩ := h
    exact hs
  | op o k ih =>
    obtain ⟨r, s₁, ho, hk⟩ := h
    exact ih r (hp.2 r) hk (hop o r s s₁ hp.1 ho hs)

/-- Programs over operations that always have a result can run to their end. -/
theorem Only.exists_runs {sem : Semantics S σ} {A : S.Op → Prop}
    (hop : ∀ o s, A o → ∃ r s', sem o r s s') {p : Program S α} (hp : p.Only A) (s : σ) :
    ∃ a s', p.Runs sem s a s' := by
  induction p generalizing s with
  | ret b => exact ⟨b, s, rfl, rfl⟩
  | op o k ih =>
    obtain ⟨r, s₁, ho⟩ := hop o s hp.1
    obtain ⟨a, s', hk⟩ := ih r (hp.2 r) s₁
    exact ⟨a, s', r, s₁, ho, hk⟩

end Program

/-! ### Protocols -/

/-- A protocol over protocol states `γ`: the operations allowed in a state, and the states that may
follow when an operation has given a result. -/
structure Protocol (S : Signature) (γ : Type) where
  allow : γ → S.Op → Prop
  next : γ → (o : S.Op) → S.Res o → γ → Prop

namespace Program

variable {S : Signature} {γ α β : Type}

/-- From the protocol state `g` the program performs allowed operations only, whatever their
results, and where it returns `a` the protocol state satisfies `post a`. -/
def Obeys (P : Protocol S γ) (post : α → γ → Prop) : Program S α → γ → Prop
  | .ret a, g => post a g
  | .op o k, g => P.allow g o ∧ ∀ r g', P.next g o r g' → (k r).Obeys P post g'

variable {P : Protocol S γ}

@[simp] theorem obeys_ret {post : α → γ → Prop} {a : α} {g : γ} :
    (Program.ret a : Program S α).Obeys P post g ↔ post a g := Iff.rfl

@[simp] theorem obeys_op {post : α → γ → Prop} {o : S.Op} {k : S.Res o → Program S α} {g : γ} :
    (Program.op o k).Obeys P post g ↔
      P.allow g o ∧ ∀ r g', P.next g o r g' → (k r).Obeys P post g' := Iff.rfl

/-- One operation, and then the rest. -/
theorem obeys_op_bind {post : α → γ → Prop} {o : S.Op} {f : S.Res o → Program S α} {g : γ} :
    (Program.op o .ret >>= f).Obeys P post g ↔
      P.allow g o ∧ ∀ r g', P.next g o r g' → (f r).Obeys P post g' := Iff.rfl

/-- The sequencing rule: the first program ends where the second may start. -/
theorem obeys_bind (p : Program S α) (f : α → Program S β) {post : β → γ → Prop} {g : γ} :
    (p >>= f).Obeys P post g ↔ p.Obeys P (fun a g' => (f a).Obeys P post g') g := by
  induction p generalizing g with
  | ret a => exact Iff.rfl
  | op o k ih => simp only [op_bind, obeys_op, ih]

/-- The consequence rule. -/
theorem Obeys.mono {post post' : α → γ → Prop} {p : Program S α} {g : γ}
    (h : p.Obeys P post g) (hpost : ∀ a g', post a g' → post' a g') : p.Obeys P post' g := by
  induction p generalizing g with
  | ret a => exact hpost a g h
  | op o k ih => exact ⟨h.1, fun r g' hn => ih r (h.2 r g' hn)⟩

/-! ### Pre- and postconditions -/

/-- From every protocol state in which `I` holds, the program performs allowed operations only and
ends where `J` holds of its result. -/
def Leads (P : Protocol S γ) (I : γ → Prop) (p : Program S α) (J : α → γ → Prop) : Prop :=
  ∀ g, I g → p.Obeys P J g

namespace Leads

variable {I I' : γ → Prop} {J J' : α → γ → Prop} {p : Program S α}

/-- One operation. -/
theorem op {o : S.Op} {J : S.Res o → γ → Prop}
    (h : ∀ g, I g → P.allow g o ∧ ∀ r g', P.next g o r g' → J r g') :
    Leads P I (.op o .ret) J := h

/-- The sequencing rule. -/
theorem bind {f : α → Program S β} {K : β → γ → Prop} (hp : Leads P I p J)
    (hf : ∀ a, Leads P (J a) (f a) K) : Leads P I (p >>= f) K := by
  intro g hg
  rw [obeys_bind]
  exact (hp g hg).mono fun a g' hJ => hf a g' hJ

/-- The consequence rule. -/
theorem mono (h : Leads P I p J) (hI : ∀ g, I' g → I g) (hJ : ∀ a g, J a g → J' a g) :
    Leads P I' p J' :=
  fun g hg => (h g (hI g hg)).mono hJ

/-- Operations that are always allowed and never change the protocol state keep every condition. -/
theorem of_only {A : S.Op → Prop} (hp : p.Only A)
    (hA : ∀ g o, I g → A o → P.allow g o ∧ ∀ r g', P.next g o r g' → g' = g) :
    Leads P I p fun _ => I := by
  intro g hg
  induction p with
  | ret a => exact hg
  | op o k ih =>
    obtain ⟨hallow, hnext⟩ := hA g o hg hp.1
    refine ⟨hallow, fun r g' hg' => ?_⟩
    rw [hnext r g' hg']
    exact ih r (hp.2 r)

/-- Handlers that keep a condition make every handled program keep it. -/
theorem handle {T : Signature} {P : Protocol T γ} {h : (o : S.Op) → Program T (S.Res o)}
    (hh : ∀ o, Leads P I (h o) fun _ => I) (p : Program S α) :
    Leads P I (p.handle h) fun _ => I := by
  induction p with
  | ret a => exact fun _ hg => hg
  | op o k ih => exact bind (hh o) ih

end Leads

end Program

end Interaction
