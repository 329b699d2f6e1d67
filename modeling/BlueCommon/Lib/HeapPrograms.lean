import BlueCommon.Lib.Program
import Mathlib.Data.Finset.Lattice.Lemmas
import Mathlib.Data.Fintype.EquivFin

/-!
# Programs that allocate and free

A program over a signature, with the memory that it allocates and frees on the way. The memory
operations come on top of the signature, so that the same program can be looked at with them and
without them.

* `HeapProgram S`: the calls of `S`, each with the blocks that are handed to it, and `alloc`, `new`
  and `free`.
* `heap`: the discipline. What is freed or handed over is live, and what is allocated is new.
* `Held`: the blocks that are held on top of those that were live before; the rules `leads_alloc`,
  `leads_free`, `leads_freeAll` say how each operation changes them. `Balanced`: a program that
  keeps to the discipline and frees exactly what it allocated.
* `Erases`: what is left of a program without its memory. `runs_of_erases`: each of the runs that
  are left is one of the program with its memory, and keeps to the discipline.
-/

namespace Interaction

/-- The calls of a signature, and the operations on memory. -/
inductive HeapOp (S : Signature)
  /-- A call, to which blocks are handed. -/
  | call (o : S.Op) (uses : List ℕ)
  /-- An allocation that may fail. -/
  | alloc
  /-- An allocation that does not fail. -/
  | new
  | free (b : ℕ)

def HeapOp.Res {S : Signature} : HeapOp S → Type
  | .call o _ => S.Res o
  | .alloc => Option ℕ
  | .new => ℕ
  | .free _ => Unit

abbrev heapSignature (S : Signature) : Signature := ⟨HeapOp S, HeapOp.Res⟩

/-- A program with its memory. -/
abbrev HeapProgram (S : Signature) (α : Type) : Type := Program (heapSignature S) α

variable {S : Signature} {α β γ δ : Type}

/-- What is freed or handed over is live, and what is allocated was not. The protocol state is the
set of the blocks that are live. -/
def heap : Protocol (heapSignature S) (Finset ℕ) where
  allow live
    | .call _ uses => ∀ b ∈ uses, b ∈ live
    | .free b => b ∈ live
    | _ => True
  next
    | live, .call _ _, _, live' => live' = live
    | live, .alloc, none, live' => live' = live
    | live, .alloc, some b, live' => b ∉ live ∧ live' = insert b live
    | live, .new, b, live' => b ∉ live ∧ live' = insert b live
    | live, .free b, _, live' => live' = live.erase b

/-- The program keeps to the discipline, and frees exactly what it allocated. -/
def Balanced (p : HeapProgram S α) : Prop := ∀ live, p.Obeys heap (fun _ live' => live' = live) live

namespace HeapProgram

abbrev call (o : S.Op) (uses : List ℕ) : HeapProgram S (S.Res o) := .op (.call o uses) .ret

abbrev alloc : HeapProgram S (Option ℕ) := .op .alloc .ret

abbrev new : HeapProgram S ℕ := .op .new .ret

abbrev free (b : ℕ) : HeapProgram S Unit := .op (.free b) .ret

/-- The blocks are freed one after the other. -/
def freeAll : List ℕ → HeapProgram S Unit
  | [] => pure ()
  | b :: bs => do
    free b
    freeAll bs

/-- A program that uses no memory. -/
def lift : Program S α → HeapProgram S α
  | .ret a => .ret a
  | .op o k => .op (.call o []) fun r => lift (k r)

end HeapProgram

open HeapProgram Program

/-! ### What is held -/

/-- The blocks `bs` are live on top of those of `base`. -/
structure Held (base : Finset ℕ) (bs : List ℕ) (live : Finset ℕ) : Prop where
  nodup : bs.Nodup
  fresh : ∀ b ∈ bs, b ∉ base
  mem_iff : ∀ b, b ∈ live ↔ b ∈ base ∨ b ∈ bs

section Held

variable {base live : Finset ℕ} {b : ℕ} {bs bs' : List ℕ}

theorem held_nil : Held base [] base where
  nodup := List.nodup_nil
  fresh _ h := absurd h List.not_mem_nil
  mem_iff _ := (or_iff_left List.not_mem_nil).symm

theorem Held.eq_base (h : Held base [] live) : live = base := by
  ext b
  rw [h.mem_iff, or_iff_left List.not_mem_nil]

theorem Held.mem (h : Held base bs live) (hb : b ∈ bs) : b ∈ live := (h.mem_iff b).mpr (.inr hb)

/-- The order does not matter. -/
theorem Held.perm (h : Held base bs live) (hperm : bs.Perm bs') : Held base bs' live where
  nodup := hperm.nodup_iff.mp h.nodup
  fresh b hb := h.fresh b (hperm.mem_iff.mpr hb)
  mem_iff b := (h.mem_iff b).trans (or_congr_right hperm.mem_iff)

theorem Held.insert (h : Held base bs live) (hb : b ∉ live) :
    Held base (b :: bs) (insert b live) where
  nodup := List.nodup_cons.mpr ⟨fun hmem => hb (h.mem hmem), h.nodup⟩
  fresh c hc := by
    cases List.mem_cons.mp hc with
    | inl heq => exact heq ▸ fun hbase => hb ((h.mem_iff b).mpr (.inl hbase))
    | inr hmem => exact h.fresh c hmem
  mem_iff c := by
    rw [Finset.mem_insert, List.mem_cons, h.mem_iff, or_left_comm]

theorem Held.erase (h : Held base (b :: bs) live) : Held base bs (live.erase b) where
  nodup := (List.nodup_cons.mp h.nodup).2
  fresh c hc := h.fresh c (List.mem_cons_of_mem _ hc)
  mem_iff c := by
    rw [Finset.mem_erase, h.mem_iff, List.mem_cons]
    constructor
    · rintro ⟨hne, hbase | heq | hmem⟩
      · exact .inl hbase
      · exact absurd heq hne
      · exact .inr hmem
    · rintro (hbase | hmem)
      · exact ⟨fun heq => h.fresh b List.mem_cons_self (heq ▸ hbase), .inl hbase⟩
      · exact ⟨fun heq => (List.nodup_cons.mp h.nodup).1 (heq ▸ hmem), .inr (.inr hmem)⟩

/-- As many more blocks are live as are held. -/
theorem Held.card_eq (h : Held base bs live) :
    base ⊆ live ∧ live.card = base.card + bs.length := by
  have hunion : live = base ∪ bs.toFinset := by
    ext b
    rw [h.mem_iff, Finset.mem_union, List.mem_toFinset]
  have hdisjoint : Disjoint base bs.toFinset :=
    Finset.disjoint_right.mpr fun b hb => h.fresh b (List.mem_toFinset.mp hb)
  subst hunion
  refine ⟨Finset.subset_union_left, ?_⟩
  rw [Finset.card_union_of_disjoint hdisjoint, List.toFinset_card_of_nodup h.nodup]

/-! ### The rules -/

theorem leads_ret {a : α} : Leads (S := heapSignature S) heap (Held base bs) (.ret a)
    fun _ => Held base bs := fun _ h => h

/-- What is handed over is held. -/
theorem leads_call {o : S.Op} {uses : List ℕ} (h : ∀ b ∈ uses, b ∈ bs) :
    Leads heap (Held base bs) (call o uses) fun _ => Held base bs := by
  intro live hheld
  refine ⟨fun b hb => hheld.mem (h b hb), fun r live' hnext => ?_⟩
  obtain rfl : live' = live := hnext
  exact hheld

theorem leads_alloc : Leads (S := heapSignature S) heap (Held base bs) alloc
    fun r => Held base (r.toList ++ bs) := by
  intro live hheld
  refine ⟨trivial, fun r live' hnext => ?_⟩
  cases r with
  | none =>
    obtain rfl : live' = live := hnext
    exact hheld
  | some b =>
    obtain ⟨hnew, rfl⟩ : b ∉ live ∧ live' = insert b live := hnext
    exact hheld.insert hnew

/-- A block that is held can be freed. -/
theorem leads_free : Leads (S := heapSignature S) heap (Held base (b :: bs)) (free b)
    fun _ => Held base bs := by
  intro live hheld
  refine ⟨hheld.mem List.mem_cons_self, fun r live' hnext => ?_⟩
  obtain rfl : live' = live.erase b := hnext
  exact hheld.erase

theorem leads_freeAll : Leads (S := heapSignature S) heap (Held base (bs ++ bs')) (freeAll bs)
    fun _ => Held base bs' := by
  induction bs with
  | nil => exact leads_ret
  | cons b bs ih => exact leads_free.bind fun _ => ih

/-- Blocks that are held can be freed in any order. -/
theorem leads_freeAll_perm {cs : List ℕ} (hperm : cs.Perm (bs ++ bs')) :
    Leads (S := heapSignature S) heap (Held base cs) (freeAll bs) fun _ => Held base bs' :=
  leads_freeAll.mono (fun _ h => h.perm hperm) fun _ _ h => h

theorem balanced_of_leads {p : HeapProgram S α}
    (h : ∀ base, Leads heap (Held base []) p fun _ => Held base []) : Balanced p :=
  fun live => (h live live held_nil).mono fun _ _ hheld => hheld.eq_base

theorem leads_lift {p : Program S α} :
    Leads heap (Held base bs) (lift p) fun _ => Held base bs := by
  induction p with
  | ret a => exact leads_ret
  | op o k ih => exact (leads_call (fun b hb => absurd hb List.not_mem_nil)).bind ih

end Held

/-! ### Whether something was called -/

/-- Two postconditions hold together. -/
theorem obeys_and {T : Signature} {P : Protocol T γ} {p : Program T α} {post post' : α → γ → Prop}
    {g : γ} (h : p.Obeys P post g) (h' : p.Obeys P post' g) :
    p.Obeys P (fun a g' => post a g' ∧ post' a g') g := by
  induction p generalizing g with
  | ret a => exact ⟨h, h'⟩
  | op o k ih => exact ⟨h.1, fun r g' hnext => ih r (h.2 r g' hnext) (h'.2 r g' hnext)⟩

/-- The discipline of `P`, and whether a call of a kind was made so far. What is allowed stays the
same, so that every program that obeys `P` obeys this one too. -/
def Protocol.watch {T : Signature} (P : Protocol T γ) (event : T.Op → Bool) :
    Protocol T (γ × Bool) where
  allow g o := P.allow g.1 o
  next g o r g' := P.next g.1 o r g'.1 ∧ g'.2 = (g.2 || event o)

/-- A program that makes no such call. -/
theorem obeys_watch {T : Signature} {P : Protocol T γ} {event : T.Op → Bool} {p : Program T α}
    (honly : p.Only fun o => event o = false) {post : α → γ → Prop} {g : γ} {made : Bool}
    (h : p.Obeys P post g) :
    p.Obeys (P.watch event) (fun a g' => post a g'.1 ∧ g'.2 = made) (g, made) := by
  induction p generalizing g with
  | ret a => exact ⟨h, rfl⟩
  | op o k ih =>
    refine ⟨h.1, fun r ⟨g', made'⟩ ⟨hnext, hmade⟩ => ?_⟩
    rw [honly.1, Bool.or_false] at hmade
    obtain rfl : made' = made := hmade
    exact ih r (honly.2 r) (h.2 r g' hnext)

/-! ### Without the memory -/

/-- What is left of a program without its memory: the calls, and of each `alloc` the call `c` of the
signature, with `ok` as its result. -/
inductive Erases (c : S.Op) (ok : Bool → S.Res c) (R : α → β → Prop) :
    HeapProgram S α → Program S β → Prop
  | ret {a : α} {b : β} : R a b → Erases c ok R (.ret a) (.ret b)
  | call {o : S.Op} {uses : List ℕ} {k : S.Res o → HeapProgram S α} {k' : S.Res o → Program S β} :
      (∀ r, Erases c ok R (k r) (k' r)) → Erases c ok R (.op (.call o uses) k) (.op o k')
  | alloc {k : Option ℕ → HeapProgram S α} {k' : S.Res c → Program S β} :
      (∀ b, Erases c ok R (k (some b)) (k' (ok true))) → Erases c ok R (k none) (k' (ok false)) →
      Erases c ok R (.op .alloc k) (.op c k')
  | new {k : ℕ → HeapProgram S α} {q : Program S β} :
      (∀ b, Erases c ok R (k b) q) → Erases c ok R (.op .new k) q
  | free {b : ℕ} {k : Unit → HeapProgram S α} {q : Program S β} :
      Erases c ok R (k ()) q → Erases c ok R (.op (.free b) k) q

section Erases

variable {c : S.Op} {ok : Bool → S.Res c} {R : α → β → Prop} {R' : γ → δ → Prop}
  {p : HeapProgram S α} {q : Program S β}

/-- The sequencing rule. -/
theorem Erases.bind {f : α → HeapProgram S γ} {f' : β → Program S δ} (h : Erases c ok R p q)
    (hf : ∀ a b, R a b → Erases c ok R' (f a) (f' b)) : Erases c ok R' (p >>= f) (q >>= f') := by
  induction h with
  | ret hR => exact hf _ _ hR
  | call _ ih => exact .call ih
  | alloc _ _ ih ih' => exact .alloc ih ih'
  | new _ ih => exact .new ih
  | free _ ih => exact .free ih

/-- What is returned without the memory is changed in the end. -/
theorem Erases.map_right {g : β → δ} {R' : α → δ → Prop} (h : Erases c ok R p q)
    (hR : ∀ a b, R a b → R' a (g b)) : Erases c ok R' p (q >>= fun b => pure (g b)) := by
  induction h with
  | ret h => exact .ret (hR _ _ h)
  | call _ ih => exact .call ih
  | alloc _ _ ih ih' => exact .alloc ih ih'
  | new _ ih => exact .new ih
  | free _ ih => exact .free ih

/-- What is freed leaves nothing. -/
theorem Erases.freeAll_bind {bs : List ℕ} {f : Unit → HeapProgram S α}
    (h : Erases c ok R (f ()) q) : Erases c ok R (freeAll bs >>= f) q := by
  induction bs with
  | nil => exact h
  | cons b bs ih => exact .free ih

theorem erases_lift (p : Program S α) : Erases c ok Eq (lift p) p := by
  induction p with
  | ret a => exact .ret rfl
  | op o k ih => exact .call ih

/-- The operations with memory behave like those without it, and the set of live blocks changes as
the discipline says. -/
def withHeap {σ : Type} (c : S.Op) (ok : Bool → S.Res c) (sem : Semantics S σ) :
    Semantics (heapSignature S) (σ × Finset ℕ) :=
  fun o r s s' => heap.allow s.2 o ∧ heap.next s.2 o r s'.2 ∧
    match o, r with
    | .call o _, r => sem o r s.1 s'.1
    | .alloc, r => sem c (ok r.isSome) s.1 s'.1
    | .new, _ => s'.1 = s.1
    | .free _, _ => s'.1 = s.1

/-- **Each run without the memory is one with it.** The program that obeys the discipline can make
the same calls, with the same results, and frees and hands over only what is live. -/
theorem runs_of_erases {σ : Type} {sem : Semantics S σ} (hok : ∀ r, ∃ x, ok x = r)
    (h : Erases c ok R p q) {post : α → Finset ℕ → Prop} {live : Finset ℕ}
    (hobeys : p.Obeys heap post live) {s s' : σ} {b : β} (hrun : q.Runs sem s b s') :
    ∃ a live', R a b ∧ post a live' ∧ p.Runs (withHeap c ok sem) (s, live) a (s', live') := by
  -- induction on the relation of the two programs
  induction h generalizing live s with
  | ret hR =>
    obtain ⟨rfl, rfl⟩ := hrun
    exact ⟨_, live, hR, hobeys, rfl, rfl⟩
  -- the operations that both have go the same way
  | call _ ih =>
    obtain ⟨r, s₁, hsem, hrun⟩ := hrun
    obtain ⟨a, live', hR, hpost, hruns⟩ := ih r (hobeys.2 r live rfl) hrun
    exact ⟨a, live', hR, hpost, r, (s₁, live), ⟨hobeys.1, rfl, hsem⟩, hruns⟩
  -- an allocation of the first one is answered by the choice of the second
  | alloc _ _ ih ih' =>
    obtain ⟨r, s₁, hsem, hrun⟩ := hrun
    obtain ⟨x, rfl⟩ := hok r
    cases x with
    | false =>
      obtain ⟨a, live', hR, hpost, hruns⟩ := ih' (hobeys.2 none live rfl) hrun
      exact ⟨a, live', hR, hpost, none, (s₁, live), ⟨trivial, rfl, hsem⟩, hruns⟩
    | true =>
      -- some block is not live
      obtain ⟨b, hb⟩ := Infinite.exists_notMem_finset live
      obtain ⟨a, live', hR, hpost, hruns⟩ := ih b (hobeys.2 (some b) _ ⟨hb, rfl⟩) hrun
      exact ⟨a, live', hR, hpost, some b, (s₁, insert b live), ⟨trivial, ⟨hb, rfl⟩, hsem⟩, hruns⟩
  -- an allocation that cannot fail is not in the second one
  | new _ ih =>
    obtain ⟨b, hb⟩ := Infinite.exists_notMem_finset live
    obtain ⟨a, live', hR, hpost, hruns⟩ := ih b (hobeys.2 b _ ⟨hb, rfl⟩) hrun
    exact ⟨a, live', hR, hpost, b, (s, insert b live), ⟨trivial, ⟨hb, rfl⟩, rfl⟩, hruns⟩
  -- neither is a free, which its contract allows
  | free _ ih =>
    obtain ⟨a, live', hR, hpost, hruns⟩ := ih (hobeys.2 () _ rfl) hrun
    exact ⟨a, live', hR, hpost, (), (s, _), ⟨hobeys.1, rfl, rfl⟩, hruns⟩

end Erases

end Interaction
