import Mathlib.Logic.Function.Basic

/-!
# Who owns what

Resources that are live or not, and slots each of which owns at most one of them. A program that
manages resources releases what a slot owns, forgets it, lets a slot acquire a new one or moves
ownership from one slot to another.

* `Table`, `Change`: the slots with the live resources, and what can happen to them.
* `Sound`: what is owned is live, and has one owner. `Sound.apply`: every valid change keeps it, so
  that nothing is released twice.
* `Covered`: what is live is owned. `Leaked.run`: what is once without an owner stays so, and stays
  live. `covered_run_iff`: everything that is live has an owner exactly if nothing was forgotten.
-/

namespace Owners

variable {ι ρ : Type} [DecidableEq ι]

/-- What the slots own, and which resources are live. -/
@[ext]
structure Table (ι ρ : Type) where
  slot : ι → Option ρ
  live : ρ → Prop

/-- What happens to a slot. -/
inductive Change (ι ρ : Type)
  /-- What the slot owns, if anything, is released. -/
  | release (i : ι)
  /-- What the slot owns, if anything, is forgotten. -/
  | forget (i : ι)
  /-- The slot owns a new resource. -/
  | acquire (i : ι) (r : ρ)
  /-- What the first slot owns, if anything, belongs to the second one. -/
  | move (i j : ι)

namespace Change

/-- The table after the change. Whatever is not mentioned keeps its slot, and a resource that is
forgotten stays live without one. -/
def apply : Change ι ρ → Table ι ρ → Table ι ρ
  | .release i, t => ⟨Function.update t.slot i none, fun r => t.live r ∧ t.slot i ≠ some r⟩
  | .forget i, t => ⟨Function.update t.slot i none, t.live⟩
  | .acquire i r, t => ⟨Function.update t.slot i (some r), fun s => t.live s ∨ s = r⟩
  | .move i j, t => ⟨Function.update (Function.update t.slot j (t.slot i)) i none, t.live⟩

/-- A slot that acquires something has nothing yet, and what it acquires is new. -/
def Valid : Change ι ρ → Table ι ρ → Prop
  | .release _, _ => True
  | .forget _, _ => True
  | .acquire i r, t => t.slot i = none ∧ ¬t.live r
  | .move i j, t => t.slot j = none ∧ i ≠ j

/-- Nothing is forgotten: only a change that empties a slot without releasing what is in it can lose
a resource, and only if there was one. -/
def Keeps : Change ι ρ → Table ι ρ → Prop
  | .forget i, t => t.slot i = none
  | _, _ => True

end Change

namespace Table

/-- What is owned is live and has one owner. Nothing is said of resources without an owner. -/
structure Sound (t : Table ι ρ) : Prop where
  live : ∀ {i r}, t.slot i = some r → t.live r
  one : ∀ {i j r}, t.slot i = some r → t.slot j = some r → i = j

/-- What is live has an owner. -/
def Covered (t : Table ι ρ) : Prop := ∀ r, t.live r → ∃ i, t.slot i = some r

/-- The resource is live and nobody owns it. -/
def Leaked (t : Table ι ρ) (r : ρ) : Prop := t.live r ∧ ∀ i, t.slot i ≠ some r

/-- The table after the changes, one after the other. The changes are given by their names, so that
they can be asked for what they lose. -/
def run : List (Change ι ρ) → Table ι ρ → Table ι ρ
  | [], t => t
  | c :: cs, t => run cs (c.apply t)

/-- Each change is valid when it happens. -/
def ValidRun : List (Change ι ρ) → Table ι ρ → Prop
  | [], _ => True
  | c :: cs, t => c.Valid t ∧ ValidRun cs (c.apply t)

/-- No change forgets anything. -/
def KeepsRun : List (Change ι ρ) → Table ι ρ → Prop
  | [], _ => True
  | c :: cs, t => c.Keeps t ∧ KeepsRun cs (c.apply t)

variable {t : Table ι ρ} {c : Change ι ρ} {cs : List (Change ι ρ)} {r : ρ} {i j k : ι}

omit [DecidableEq ι] in
theorem covered_iff : t.Covered ↔ ∀ r, ¬t.Leaked r := by
  constructor
  · rintro hcov r ⟨hlive, hnone⟩
    obtain ⟨i, hi⟩ := hcov r hlive
    exact hnone i hi
  · intro hnone r hlive
    by_contra h
    exact hnone r ⟨hlive, fun i hi => h ⟨i, hi⟩⟩

/-- What a slot has when another one was emptied. -/
theorem slot_emptied (h : Function.update t.slot i none j = some r) :
    j ≠ i ∧ t.slot j = some r := by
  by_cases hij : j = i
  · subst hij
    rw [Function.update_self] at h
    cases h
  · rw [Function.update_of_ne hij] at h
    exact ⟨hij, h⟩

/-- What a slot has when another one was filled. -/
theorem slot_filled {v : Option ρ} (h : Function.update t.slot i v j = some r) :
    (j = i ∧ v = some r) ∨ (j ≠ i ∧ t.slot j = some r) := by
  by_cases hij : j = i
  · subst hij
    rw [Function.update_self] at h
    exact .inl ⟨rfl, h⟩
  · rw [Function.update_of_ne hij] at h
    exact .inr ⟨hij, h⟩

/-- **A valid change keeps what is owned live, with one owner.** What is new was not live before, so
it is in no other slot, and a slot is empty before it is filled. -/
theorem Sound.apply (ht : t.Sound) (hc : c.Valid t) : (c.apply t).Sound := by
  cases c with
  -- given back or forgotten, the slot is empty and the others are as they were
  | release i =>
    constructor
    · intro j r hj
      obtain ⟨hne, hj⟩ := slot_emptied hj
      exact ⟨ht.live hj, fun hi => hne (ht.one hj hi)⟩
    · intro j k r hj hk
      exact ht.one (slot_emptied hj).2 (slot_emptied hk).2
  | forget i =>
    constructor
    · intro j r hj
      exact ht.live (slot_emptied hj).2
    · intro j k r hj hk
      exact ht.one (slot_emptied hj).2 (slot_emptied hk).2
  -- a new one fills the slot
  | acquire i r =>
    obtain ⟨-, hnew⟩ := hc
    constructor
    · intro j s hj
      -- it is live from now on
      obtain ⟨-, heq⟩ | ⟨-, hj⟩ := slot_filled hj
      · exact .inr (Option.some.inj heq).symm
      · exact .inl (ht.live hj)
    · intro j k s hj hk
      -- the new resource is in no other slot, since it was not live
      obtain ⟨hji, hj'⟩ | ⟨-, hj'⟩ := slot_filled hj <;>
        obtain ⟨hki, hk'⟩ | ⟨-, hk'⟩ := slot_filled hk
      · exact hji.trans hki.symm
      · exact absurd (ht.live hk') (Option.some.inj hj' ▸ hnew)
      · exact absurd (ht.live hj') (Option.some.inj hk' ▸ hnew)
      · exact ht.one hj' hk'
  -- a move is a fill and an emptying
  | move i j =>
    obtain ⟨hempty, -⟩ := hc
    constructor
    · intro k r hk
      obtain ⟨-, hk⟩ := slot_emptied (t := ⟨Function.update t.slot j (t.slot i), t.live⟩) hk
      obtain ⟨-, hk⟩ | ⟨-, hk⟩ := slot_filled hk
      · exact ht.live hk
      · exact ht.live hk
    · -- two slots with the same resource, either of them the new one or not
      intro k l r hk hl
      obtain ⟨hki, hk⟩ := slot_emptied (t := ⟨Function.update t.slot j (t.slot i), t.live⟩) hk
      obtain ⟨hli, hl⟩ := slot_emptied (t := ⟨Function.update t.slot j (t.slot i), t.live⟩) hl
      obtain ⟨hkj, hk'⟩ | ⟨-, hk'⟩ := slot_filled hk <;>
        obtain ⟨hlj, hl'⟩ | ⟨-, hl'⟩ := slot_filled hl
      · exact hkj.trans hlj.symm
      · exact absurd (ht.one hl' hk') hli
      · exact absurd (ht.one hk' hl') hki
      · exact ht.one hk' hl'

/-- **What nobody owns stays so.** -/
theorem Leaked.apply (hr : t.Leaked r) (hc : c.Valid t) : (c.apply t).Leaked r := by
  obtain ⟨hlive, hnone⟩ := hr
  cases c with
  | release i => exact ⟨⟨hlive, hnone i⟩, fun j hj => hnone j (slot_emptied hj).2⟩
  | forget i => exact ⟨hlive, fun j hj => hnone j (slot_emptied hj).2⟩
  | acquire i s =>
    refine ⟨.inl hlive, fun j hj => ?_⟩
    obtain ⟨-, heq⟩ | ⟨-, hj⟩ := slot_filled hj
    · exact hc.2 (Option.some.inj heq ▸ hlive)
    · exact hnone j hj
  | move i j =>
    refine ⟨hlive, fun k hk => ?_⟩
    obtain ⟨-, hk⟩ := slot_emptied (t := ⟨Function.update t.slot j (t.slot i), t.live⟩) hk
    obtain ⟨-, hk⟩ | ⟨-, hk⟩ := slot_filled hk
    · exact hnone i hk
    · exact hnone k hk

/-- **Only what is forgotten is left without an owner.** One case for each change: what is given
back is not live any more, what is new or moved has a slot, and what is forgotten had only the
one. -/
theorem covered_apply_iff (ht : t.Sound) (hcov : t.Covered) (hc : c.Valid t) :
    (c.apply t).Covered ↔ c.Keeps t := by
  cases c with
  -- what is given back is no longer live, and the rest is in other slots
  | release i =>
    refine iff_of_true (fun r hr => ?_) trivial
    obtain ⟨j, hj⟩ := hcov r hr.1
    have hne : j ≠ i := fun heq => hr.2 (heq ▸ hj)
    exact ⟨j, (Function.update_of_ne hne _ _).trans hj⟩
  | forget i =>
    -- forgotten: the slot must have been empty
    constructor
    · intro hcov'
      by_contra hsome
      obtain ⟨r, hr⟩ := Option.ne_none_iff_exists'.mp hsome
      obtain ⟨j, hj⟩ := hcov' r (ht.live hr)
      -- the only owner has forgotten it
      obtain ⟨hne, hj⟩ := slot_emptied hj
      exact hne (ht.one hj hr)
    · -- an empty slot owns nothing, so all others are still owned
      intro hnone r hr
      obtain ⟨j, hj⟩ := hcov r hr
      have hne : j ≠ i := by
        rintro rfl
        exact absurd (hnone.symm.trans hj) (Option.some_ne_none r).symm
      exact ⟨j, (Function.update_of_ne hne _ _).trans hj⟩
  | acquire i r =>
    obtain ⟨hempty, -⟩ := hc
    -- the new one is in its slot, and the slot was empty before
    refine iff_of_true (fun s hs => ?_) trivial
    obtain hs | rfl := hs
    · obtain ⟨j, hj⟩ := hcov s hs
      have hne : j ≠ i := by
        rintro rfl
        exact absurd (hempty.symm.trans hj) (Option.some_ne_none s).symm
      exact ⟨j, (Function.update_of_ne hne _ _).trans hj⟩
    · exact ⟨i, Function.update_self _ _ _⟩
  -- what was in the one slot is in the other one
  | move i j =>
    obtain ⟨hempty, hij⟩ := hc
    refine iff_of_true (fun r hr => ?_) trivial
    obtain ⟨k, hk⟩ := hcov r hr
    -- the resource is the one that was moved, or it is in a third slot
    by_cases hki : k = i
    · subst hki
      refine ⟨j, (Function.update_of_ne (Ne.symm hij) _ _).trans ?_⟩
      exact (Function.update_self _ _ _).trans hk
    · have hkj : k ≠ j := by
        rintro rfl
        exact absurd (hempty.symm.trans hk) (Option.some_ne_none r).symm
      exact ⟨k, (Function.update_of_ne hki _ _).trans ((Function.update_of_ne hkj _ _).trans hk)⟩

theorem run_append {cs' : List (Change ι ρ)} : run (cs ++ cs') t = run cs' (run cs t) := by
  induction cs generalizing t with
  | nil => rfl
  | cons c cs ih => exact ih

theorem validRun_append {cs' : List (Change ι ρ)} :
    ValidRun (cs ++ cs') t ↔ ValidRun cs t ∧ ValidRun cs' (run cs t) := by
  induction cs generalizing t with
  | nil => exact (and_iff_right trivial).symm
  | cons c cs ih => exact (and_congr_right fun _ => ih).trans (and_assoc (a := c.Valid t)).symm

theorem keepsRun_append {cs' : List (Change ι ρ)} :
    KeepsRun (cs ++ cs') t ↔ KeepsRun cs t ∧ KeepsRun cs' (run cs t) := by
  induction cs generalizing t with
  | nil => exact (and_iff_right trivial).symm
  | cons c cs ih => exact (and_congr_right fun _ => ih).trans (and_assoc (a := c.Keeps t)).symm

/-- No valid changes give an owner to what is live without one. -/
theorem Leaked.run (hr : t.Leaked r) (hcs : ValidRun cs t) : (run cs t).Leaked r := by
  induction cs generalizing t with
  | nil => exact hr
  | cons c cs ih => exact ih (hr.apply hcs.1) hcs.2

/-- **After the changes everything has an owner exactly if it had one before and nothing was
forgotten.** -/
theorem covered_run_iff (ht : t.Sound) (hcs : ValidRun cs t) :
    (run cs t).Covered ↔ t.Covered ∧ KeepsRun cs t := by
  induction cs generalizing t with
  | nil => exact (and_iff_left trivial).symm
  | cons c cs ih =>
    rw [run, ih (ht.apply hcs.1) hcs.2, KeepsRun]
    by_cases hcov : t.Covered
    · rw [covered_apply_iff ht hcov hcs.1]
      exact (and_iff_right hcov).symm
    · -- what was without an owner still is
      refine iff_of_false (fun h => ?_) fun h => hcov h.1
      exact hcov (covered_iff.mpr fun r hr => covered_iff.mp h.1 r (hr.apply hcs.1))

end Table

end Owners
