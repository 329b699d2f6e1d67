import BlueCommon.Releasetools.UserdataScripts

/-!
# What a run of a script can do

A run of `unify_userdata` or `restore_sdcard` ends in one of three ways: it leaves the flag files
and the partition table as they are, it exits after a warning and leaves the flag file of that
warning, or it changes the partitions. In the third case the flag of each loss that it found was
there before.

* `Reading`: what holds in a run until it changes something.
* `Check.ask_spec`: a check exits with its warning, or the loss has been accepted.
* `ScriptName.main_spec`: the three outcomes.
-/

namespace BlueCommon

namespace Releasetools

open Interaction

/-- The scripts. -/
inductive ScriptName
  | unifyUserdata
  | restoreSdcard
  deriving DecidableEq

def ScriptName.main : ScriptName → Script Empty
  | .unifyUserdata => Releasetools.unifyUserdata
  | .restoreSdcard => Releasetools.restoreSdcard

/-- The losses a script asks about. -/
def ScriptName.checks : ScriptName → List Check
  | .unifyUserdata => [zipCheck, sdcardMountCheck, sdcardFilesCheck, unifyDataFilesCheck]
  | .restoreSdcard => [zipCheck, dataMountCheck, restoreDataFilesCheck]

/-- The script has something to do: `unify_userdata` with an SDCard partition, `restore_sdcard`
without. -/
def ScriptName.Applies (table : List Partition) : ScriptName → Prop
  | .unifyUserdata => ∃ p ∈ table, p.name = .sdcard
  | .restoreSdcard => ¬ ∃ p ∈ table, p.name = .sdcard

/-! ### What the commands of a run show -/

/-- The condition that a command looks for. -/
def ShellOp.looksFor : ShellOp → Option Condition
  | .grepZip _ => some .zipInternal
  | .partMount .sdcardLegacy _ _ => some .sdcardNotMountable
  | .partMount .data _ _ => some .dataNotMountable
  | .isDirectory .sdcardLegacy | .findFiles .sdcardLegacy => some .sdcardFiles
  | .isDirectory .data | .findFiles .data => some .dataFiles
  | _ => none

/-- The result says that the condition is true. -/
def ShellOp.positive : (o : ShellOp) → o.Res → Bool
  | .grepZip _, found => found
  | .partMount .., mounted => !mounted
  | .isDirectory _, directory => !directory
  | .findFiles _, files => !List.isEmpty files
  | _, _ => false

/-- The condition that an event finds true. -/
def finds (e : Event) : Option Condition := if e.1.positive e.2 then e.1.looksFor else none

/-- The event is an `sgdisk` command that changes the table. -/
def changes : Event → Bool
  | ⟨.sgdisk _, _⟩ => true
  | _ => false

/-- The lines of an event. -/
def lines : Event → List String
  | ⟨.uiPrint text, _⟩ => text
  | _ => []

/-- The lines that a run has printed. -/
def printed : List Event → List String
  | [] => []
  | e :: earlier => printed earlier ++ lines e

/-- A command that looks for none of the conditions and leaves the flag files and the table
alone. -/
def ShellOp.isQuiet : ShellOp → Bool
  | .echo _ (.flag _) | .rm (.flag _) | .sgdisk _ => false
  | o => o.looksFor.isNone

/-- All commands of the script are quiet. -/
abbrev Quiet {α : Type} (p : Script α) : Prop :=
  p.run.Only fun o => ShellOp.isQuiet o = true

/-! ### Quiet commands -/

section Quiet

variable {o : ShellOp} {m : Machine} {e : Event} {α : Type}

theorem tmpAfter_of_isQuiet (tmp : Flag → Bool) (h : o.isQuiet = true) : tmpAfter tmp o = tmp := by
  unfold tmpAfter
  split
  · exact absurd h Bool.false_ne_true
  · exact absurd h Bool.false_ne_true
  · rfl

theorem tableAfter_of_isQuiet {tool : SgdiskTool} {table table' : List Partition} {r : o.Res}
    (h : o.isQuiet = true) (hafter : TableAfter tool table o r table') : table' = table := by
  unfold TableAfter at hafter
  split at hafter
  · exact absurd h Bool.false_ne_true
  · exact hafter

theorem changes_of_isQuiet {r : o.Res} (h : o.isQuiet = true) : changes ⟨o, r⟩ = false := by
  cases o
  case sgdisk => exact absurd h Bool.false_ne_true
  all_goals rfl

theorem looksFor_of_isQuiet (h : o.isQuiet = true) : o.looksFor = none := by
  unfold ShellOp.isQuiet at h
  split at h
  · rfl
  · rfl
  · rfl
  · exact Option.isNone_iff_eq_none.mp h

theorem finds_of_isQuiet {r : o.Res} (h : o.isQuiet = true) : finds ⟨o, r⟩ = none := by
  unfold finds
  rw [looksFor_of_isQuiet h]
  split
  · rfl
  · rfl

theorem finds_sgdisk {change : Sgdisk} {r : Bool} : finds ⟨.sgdisk change, r⟩ = none := rfl

end Quiet

/-! ### The states of a run -/

section States

variable (script : ScriptName) (m₀ : Machine)

/-- The loss was asked about in an earlier run: its flag file was there at the start, and the script
is one that looks at this file. -/
def Accepted (c : Condition) : Prop :=
  script.Applies m₀.table ∧ ∃ check ∈ script.checks, check.condition = c ∧ m₀.tmp check.flag = true

/-- The run has changed nothing. -/
structure Untouched (m : Machine) : Prop where
  tmp : m.tmp = m₀.tmp
  table : m.table = m₀.table
  unchanged : ∀ e ∈ m.trace, changes e = false

/-- The run has changed nothing, and the losses that it has found have been accepted, but for the
pending one. -/
structure Reading (pending : Option Condition) (m : Machine) : Prop extends Untouched m₀ m where
  accepted : ∀ e ∈ m.trace, ∀ c, finds e = some c → Accepted script m₀ c ∨ pending = some c

/-- The run has begun to change the partitions. -/
structure Changing (m : Machine) : Prop where
  first : m₀.tmp .partitionsChanged = false
  tmp : m.tmp = Function.update m₀.tmp .partitionsChanged true
  accepted : ∀ e ∈ m.trace, ∀ c, finds e = some c → Accepted script m₀ c

/-- The run exits after the warning of the check. -/
structure Warned (check : Check) (e : ExitCode) (m : Machine) : Prop where
  mem : check ∈ script.checks
  applies : script.Applies m₀.table
  exit : e = execFailed
  tmp : m.tmp = Function.update m₀.tmp check.flag true
  table : m.table = m₀.table
  unchanged : ∀ e ∈ m.trace, changes e = false
  warning : check.announce ++ check.warning <:+ printed m.trace

/-- The outcomes of a run. -/
inductive Outcome (e : ExitCode) (m : Machine) : Prop
  | untouched : Untouched m₀ m → Outcome e m
  | warned (check : Check) : Warned script m₀ check e m → Outcome e m
  | changed : Changing script m₀ m → Outcome e m

end States

section Run

variable {tool : SgdiskTool} {script : ScriptName} {m₀ m : Machine} {pending : Option Condition}
  {α : Type} {p : Script α} {o : ShellOp}

/-! ### Reading commands -/

/-- A command that reads leaves the run reading. If it finds a condition, that one is pending. -/
theorem Reading.after_of_finds {r : o.Res} {pending' : Option Condition}
    (h : Reading script m₀ pending m) (htmp : tmpAfter m.tmp o = m.tmp)
    (hchanges : changes ⟨o, r⟩ = false)
    (hpending : ∀ c, pending = some c → pending' = some c)
    (hfinds : ∀ c, finds ⟨o, r⟩ = some c → pending' = some c) :
    Reading script m₀ pending' (m.after o r m.table) where
  tmp := by rw [Machine.after_tmp, htmp, h.tmp]
  table := h.table
  -- the command itself changes nothing, and neither did those before it
  unchanged := by
    intro e he
    rw [Machine.after_trace] at he
    cases he with
    | head => exact hchanges
    | tail _ he => exact h.unchanged e he
  -- what was found earlier has been accepted or is still to be asked for
  accepted := by
    intro e he c hc
    rw [Machine.after_trace] at he
    cases he with
    | head => exact Or.inr (hfinds c hc)
    | tail _ he => exact (h.accepted e he c hc).imp_right (hpending c)

theorem Reading.after_of_isQuiet {r : o.Res} (h : Reading script m₀ pending m)
    (ho : o.isQuiet = true) : Reading script m₀ pending (m.after o r m.table) := by
  apply h.after_of_finds
  · exact tmpAfter_of_isQuiet _ ho
  · exact changes_of_isQuiet ho
  · exact fun _ => id
  · intro c hc
    rw [finds_of_isQuiet ho] at hc
    cases hc

/-- Quiet parts of a script keep the run reading. -/
theorem Quiet.reading (h : Quiet p) :
    Exits (shell tool) (Reading script m₀ pending) p (Outcome script m₀) fun _ =>
    Reading script m₀ pending := by
  apply (Exits.only _ h).mono
  · exact fun _ => id
  · exact fun _ _ hm => .untouched hm.toUntouched
  · exact fun _ _ => id
  · rintro o r m m' ho ⟨-, table, htable, rfl⟩ hm
    rw [tableAfter_of_isQuiet ho htable]
    exact hm.after_of_isQuiet ho

/-- What the answer of a quiet command says of the machine at the start. -/
theorem reading_answer {φ : o.Res → Prop} (ho : o.isQuiet = true)
    (hφ : ∀ m r, Untouched m₀ m → m.answers o r → φ r) :
    Exits (shell tool) (Reading script m₀ pending) (command o) (Outcome script m₀)
      fun r m => Reading script m₀ pending m ∧ φ r := by
  apply Exits.perform
  rintro m r m' hm ⟨hanswer, table, htable, rfl⟩
  rw [tableAfter_of_isQuiet ho htable]
  exact ⟨hm.after_of_isQuiet ho, hφ m r hm.toUntouched hanswer⟩

/-- A flag file of the session, and a node of the partition table, are there or not throughout the
reading part. -/
theorem fileExists_flag {flag : Flag} :
    Exits (shell tool) (Reading script m₀ pending) (fileExists (.flag flag)) (Outcome script m₀)
      fun found m => Reading script m₀ pending m ∧ found = m₀.tmp flag := by
  refine reading_answer rfl fun m found hm hanswer => ?_
  rw [← hm.tmp]
  exact hanswer

theorem fileExists_partsByName {name : PartName} :
    Exits (shell tool) (Reading script m₀ pending) (fileExists (.partsByName name))
      (Outcome script m₀) fun found m =>
        Reading script m₀ pending m ∧ found = m₀.table.any fun p => p.name = name := by
  refine reading_answer rfl fun m found hm hanswer => ?_
  rw [← hm.table]
  exact hanswer

/-- A command that looks for a condition. -/
theorem reading_command {c : Condition} (hlooks : o.looksFor = some c)
    (htmp : ∀ tmp, tmpAfter tmp o = tmp)
    (htable : ∀ table r table', TableAfter tool table o r table' → table' = table)
    (hchanges : ∀ r, changes ⟨o, r⟩ = false) :
    Exits (shell tool) (Reading script m₀ none) (command o) (Outcome script m₀)
      fun r => Reading script m₀ (if o.positive r then some c else none) := by
  apply Exits.perform
  rintro m r m' hm ⟨-, table, hafter, rfl⟩
  rw [htable _ _ _ hafter]
  apply hm.after_of_finds (htmp _) (hchanges _)
  · intro c' hc'
    cases hc'
  · intro c' hc'
    unfold finds at hc'
    rw [hlooks] at hc'
    exact hc'

/-! ### Checks -/

/-- **A check.** A loss that is pending is accepted when its flag file was there, and otherwise the
run exits with the warning. -/
theorem Check.ask_spec {check : Check} (hmem : check ∈ script.checks)
    (happlies : script.Applies m₀.table) :
    Exits (shell tool) (Reading script m₀ (some check.condition)) check.ask (Outcome script m₀)
      fun _ => Reading script m₀ none := by
  unfold Check.ask
  -- the announcement
  apply Exits.bind (J := fun _ m =>
    Reading script m₀ (some check.condition) m ∧ check.announce <:+ printed m.trace)
  · -- quiet: only the text is added to the trace
    apply Exits.perform
    rintro m r m' hm ⟨-, _, rfl, rfl⟩
    exact ⟨hm.after_of_isQuiet rfl, List.suffix_append _ _⟩
  intro _
  -- the flag file is as it was at the start
  apply Exits.bind (J := fun missing m =>
    (Reading script m₀ (some check.condition) m ∧ check.announce <:+ printed m.trace) ∧
      missing = !m₀.tmp check.flag)
  · apply Exits.bind (J := fun found m =>
      (Reading script m₀ (some check.condition) m ∧ check.announce <:+ printed m.trace) ∧
        found = m₀.tmp check.flag)
    · -- the test reads the flag file and prints nothing
      apply Exits.perform
      rintro m r m' ⟨hm, hprinted⟩ ⟨hanswer, _, rfl, rfl⟩
      refine ⟨⟨hm.after_of_isQuiet rfl, ?_⟩, ?_⟩
      · rw [Machine.after_trace]
        show check.announce <:+ printed m.trace ++ []
        rw [List.append_nil]
        exact hprinted
      · rw [← hm.tmp]
        exact hanswer
    · intro found
      exact Exits.pure fun m hm => ⟨hm.1, congrArg not hm.2⟩
  intro missing
  apply Exits.pure_pre
  intro hmissing
  dsimp only
  apply Exits.ite
  · -- without the flag: the warning and its flag file
    intro hwarn
    apply Exits.bind (J := fun _ m => Reading script m₀ (some check.condition) m ∧
      check.announce ++ check.warning <:+ printed m.trace)
    · -- the warning follows the announcement directly
      apply Exits.perform
      rintro m r m' ⟨hm, before, hprinted⟩ ⟨-, _, rfl, rfl⟩
      refine ⟨hm.after_of_isQuiet rfl, before, ?_⟩
      rw [← List.append_assoc, hprinted]
      rfl
    intro _
    apply Exits.bind (J := fun _ m => Warned script m₀ check execFailed m)
    · -- `touch` puts the flag up, and nothing has been changed up to here
      apply Exits.perform
      rintro m r m' ⟨hm, hprinted⟩ ⟨-, _, rfl, rfl⟩
      refine ⟨hmem, happlies, rfl, ?_, hm.table, ?_, ?_⟩
      · rw [← hm.tmp]
        rfl
      · intro e he
        rw [Machine.after_trace] at he
        cases he with
        | head => rfl
        | tail _ he => exact hm.unchanged e he
      · show _ <:+ printed m.trace ++ []
        rw [List.append_nil]
        exact hprinted
    intro _
    -- the script exits, so nothing follows
    apply Exits.bind (J := fun _ _ => False)
    · exact Exits.throw fun m hm => .warned check hm
    · intro _ m hm
      exact hm.elim
  · -- with the flag the loss has been accepted
    intro hagree
    have hflag : m₀.tmp check.flag = true := by
      rw [hmissing, Bool.not_eq_true, Bool.not_eq_false'] at hagree
      exact hagree
    apply Exits.perform
    rintro m r m' ⟨hm, -⟩ ⟨-, _, rfl, rfl⟩
    refine ⟨(hm.after_of_isQuiet rfl).toUntouched, ?_⟩
    intro e he c hc
    rw [Machine.after_trace] at he
    -- nothing is found by printing
    cases he with
    | head => cases hc
    -- what was found before has its flag, and that was just read
    | tail _ he =>
      apply Or.inl
      apply (hm.accepted e he c hc).elim id
      intro hpending
      exact ⟨happlies, check, hmem, Option.some.inj hpending, hflag⟩

/-- Files of a mount point that stands for a condition. -/
theorem containsFiles_spec {point : Mount} {c : Condition}
    (hdirectory : (ShellOp.isDirectory point).looksFor = some c)
    (hfiles : (ShellOp.findFiles point).looksFor = some c) :
    Exits (shell tool) (Reading script m₀ none) (containsFiles point) (Outcome script m₀)
      fun found => Reading script m₀ (if found then some c else none) := by
  unfold containsFiles
  -- the mount point may not be a directory
  apply Exits.bind
  · exact reading_command hdirectory (fun _ => rfl) (fun _ _ _ => id) fun _ => rfl
  intro directory
  apply Exits.ite
  · intro hd
    cases hd
    -- files are looked for only inside a directory
    apply Exits.bind
    · exact reading_command hfiles (fun _ => rfl) (fun _ _ _ => id) fun _ => rfl
    · intro files
      exact Exits.pure fun _ => id
  · intro hd
    -- no directory, no files
    rw [Bool.not_eq_true] at hd
    cases hd
    exact Exits.pure fun _ => id

theorem askFiles_spec {point : Mount} {check : Check} {text : String}
    (hdirectory : (ShellOp.isDirectory point).looksFor = some check.condition)
    (hfiles : (ShellOp.findFiles point).looksFor = some check.condition)
    (hmem : check ∈ script.checks) (happlies : script.Applies m₀.table) :
    Exits (shell tool) (Reading script m₀ none) (askFiles point check text) (Outcome script m₀)
      fun _ => Reading script m₀ none := by
  unfold askFiles
  apply Exits.bind (containsFiles_spec hdirectory hfiles)
  intro found
  apply Exits.ite
  · intro hfound
    rw [if_pos hfound]
    exact Check.ask_spec hmem happlies
  · intro hfound
    rw [if_neg hfound]
    exact Quiet.reading (only_perform rfl)

theorem checkFlashableZip_spec {path : List Char} (hmem : zipCheck ∈ script.checks)
    (happlies : script.Applies m₀.table) :
    Exits (shell tool) (Reading script m₀ none) (checkFlashableZip path) (Outcome script m₀)
      fun _ => Reading script m₀ none := by
  unfold checkFlashableZip
  apply Exits.bind
  · exact reading_command (c := .zipInternal) rfl (fun _ => rfl) (fun _ _ _ => id) fun _ => rfl
  intro found
  apply Exits.ite
  · intro hfound
    cases hfound
    exact Check.ask_spec hmem happlies
  · intro hfound
    rw [Bool.not_eq_true] at hfound
    cases hfound
    exact Exits.pure fun _ => id

/-! ### Quiet blocks -/

theorem quiet_command {o : ShellOp} (h : o.isQuiet = true) : Quiet (command o) := only_perform h

theorem quiet_fileExists {path : Path} : Quiet (fileExists path) := quiet_command rfl

theorem quiet_fileMissing {path : Path} : Quiet (fileMissing path) :=
  only_bind (quiet_command rfl) fun _ => only_pure

theorem quiet_orElse {a b : Script Bool} (ha : Quiet a) (hb : Quiet b) : Quiet (orElse a b) :=
  only_bind ha fun _ => only_ite only_pure hb

theorem quiet_partExists {name : PartName} {num : ℕ} : Quiet (partExists name num) :=
  only_bind (quiet_command rfl) fun _ => only_pure

theorem quiet_partGetStart {name : PartName} : Quiet (partGetStart name) :=
  only_bind (quiet_command rfl) fun _ => only_pure

theorem quiet_partGetEnd {name : PartName} : Quiet (partGetEnd name) :=
  only_bind (quiet_command rfl) fun _ => only_pure

/-- Print and exit. -/
theorem quiet_abort {text : List String} {code : ExitCode} {α : Type} :
    Quiet (do uiPrint text; throw code : Script α) :=
  only_bind (quiet_command rfl) fun _ => only_throw

theorem quiet_rebootRecovery : Quiet rebootRecovery :=
  only_bind (quiet_command rfl) fun _ => only_throw

theorem quiet_unmountData : Quiet unmountData :=
  only_bind (quiet_command rfl) fun _ => only_bind (quiet_command rfl) fun _ =>
    only_bind (quiet_command rfl) fun _ => quiet_command rfl

theorem quiet_abortIfMissing {name : PartName} {num : ℕ} {text : String} :
    Quiet (abortIfMissing name num text) :=
  only_bind (quiet_orElse quiet_fileMissing (quiet_orElse quiet_fileMissing quiet_partExists))
    fun _ => only_ite quiet_abort only_pure

theorem quiet_mountCache : Quiet mountCache :=
  only_bind (quiet_command rfl) fun _ => only_ite only_pure quiet_abort

theorem quiet_ignoreMultirom : Quiet ignoreMultirom :=
  only_bind (quiet_command rfl) fun _ => only_ite quiet_abort only_pure

theorem quiet_abortOnOldTwrp : Quiet abortOnOldTwrp :=
  only_bind (quiet_orElse (quiet_command rfl) (quiet_command rfl)) fun _ =>
    only_ite (only_bind (quiet_command rfl) fun _ => only_ite quiet_abort only_pure) only_pure

theorem quiet_prepareResize : Quiet prepareResize := by
  -- the reboot that ends the script
  have hreboot : Quiet (do
      uiPrint ["Rebooting to recovery automatically", " "]
      rebootRecovery) :=
    only_bind (quiet_command rfl) fun _ => quiet_rebootRecovery
  apply only_bind (quiet_command rfl)
  intro _
  apply only_bind (quiet_command rfl)
  intro _
  apply only_bind (quiet_command rfl)
  intro _
  apply only_bind (quiet_command rfl)
  intro _
  -- when one of the two files is missing the script fails after its message
  refine only_bind (quiet_orElse quiet_fileMissing quiet_fileMissing) fun missing =>
    only_ite ?_ hreboot
  apply only_bind (quiet_command rfl)
  intro _
  apply only_bind (quiet_command rfl)
  intro _
  apply only_bind (quiet_command rfl)
  intro _
  exact only_bind only_throw fun _ => hreboot

theorem quiet_startProgrammedResize : Quiet startProgrammedResize :=
  only_bind quiet_fileExists fun _ =>
    only_ite (only_bind quiet_prepareResize fun exited => nomatch exited) only_pure

theorem quiet_reportSgdisk {failure : Option String} : Quiet (reportSgdisk failure) := by
  cases failure with
  | none => exact quiet_command rfl
  | some state => exact quiet_abort

/-! ### The partition changes -/

/-- Quiet commands and `sgdisk` commands. -/
def ShellOp.isWork (o : ShellOp) : Prop := o.isQuiet = true ∨ ∃ change, o = .sgdisk change

theorem Quiet.work (h : Quiet p) : p.run.Only ShellOp.isWork := h.mono fun _ => Or.inl

/-- Once a run has left the flag file of the partition changes, its other commands add nothing. -/
theorem changing_of_work (h : p.run.Only ShellOp.isWork) :
    Exits (shell tool) (Changing script m₀) p (Outcome script m₀) fun _ => Changing script m₀ := by
  -- each command of the work is quiet or an `sgdisk`
  apply (Exits.only _ h).mono
  · exact fun _ => id
  · exact fun _ _ hm => .changed hm
  · exact fun _ _ => id
  · rintro o r m m' ho ⟨-, table, -, rfl⟩ hm
    have hquiet : tmpAfter m.tmp o = m.tmp ∧ finds ⟨o, r⟩ = none := by
      obtain ho | ⟨change, rfl⟩ := ho
      · exact ⟨tmpAfter_of_isQuiet _ ho, finds_of_isQuiet ho⟩
      · exact ⟨rfl, finds_sgdisk⟩
    -- neither puts a flag up or finds anything to be asked for
    refine ⟨hm.first, ?_, ?_⟩
    · rw [Machine.after_tmp, hquiet.1, hm.tmp]
    · intro e he c hc
      rw [Machine.after_trace] at he
      cases he with
      | head =>
        rw [hquiet.2] at hc
        cases hc
      | tail _ he => exact hm.accepted e he c hc

/-- The flag file of the partition changes. -/
theorem echoPartitionsChanged_spec (hfirst : m₀.tmp .partitionsChanged = false) :
    Exits (shell tool) (Reading script m₀ none) (echo "1" (.flag .partitionsChanged))
      (Outcome script m₀) fun _ => Changing script m₀ := by
  apply Exits.perform
  rintro m r m' hm ⟨-, _, rfl, rfl⟩
  refine ⟨hfirst, ?_, ?_⟩
  · rw [← hm.tmp]
    rfl
  · intro e he c hc
    rw [Machine.after_trace] at he
    cases he with
    | head => cases hc
    | tail _ he => exact (hm.accepted e he c hc).resolve_right (Option.some_ne_none c ·.symm)

theorem work_sgdiskAll (chain : List (String × Sgdisk)) :
    (sgdiskAll chain).run.Only ShellOp.isWork := by
  induction chain with
  | nil => exact only_pure
  | cons head rest ih =>
    exact only_bind (only_perform (Or.inr ⟨_, rfl⟩)) fun _ => only_ite ih only_pure

theorem work_sgdisk {chain : List (String × Sgdisk)} :
    (do let failure ← sgdiskAll chain; reportSgdisk failure : Script Unit).run.Only
      ShellOp.isWork :=
  only_bind (work_sgdiskAll chain) fun _ => quiet_reportSgdisk.work

theorem failDimensions_spec :
    Exits (shell tool) (Reading script m₀ none) failDimensions (Outcome script m₀) fun _ =>
    Changing script m₀ := by
  apply Exits.bind (Quiet.reading (quiet_command rfl))
  exact fun _ => Exits.throw fun m hm => .untouched hm.toUntouched

theorem unifyPartitions_spec (hfirst : m₀.tmp .partitionsChanged = false) :
    Exits (shell tool) (Reading script m₀ none) unifyPartitions (Outcome script m₀)
      fun _ => Changing script m₀ := by
  apply Exits.bind (Quiet.reading quiet_partGetStart)
  intro partDataStart
  apply Exits.bind (Quiet.reading quiet_partGetEnd)
  intro partDataEnd
  apply Exits.ite
  · intro _
    apply Exits.bind (echoPartitionsChanged_spec hfirst)
    intro _
    apply changing_of_work
    apply only_bind (quiet_command rfl).work
    intro _
    exact only_bind (quiet_command rfl).work fun _ => work_sgdisk
  · exact fun _ => failDimensions_spec

theorem restorePartitions_spec (hfirst : m₀.tmp .partitionsChanged = false) :
    Exits (shell tool) (Reading script m₀ none) restorePartitions (Outcome script m₀)
      fun _ => Changing script m₀ := by
  apply Exits.bind (Quiet.reading quiet_partGetStart)
  intro partDataStart
  apply Exits.bind (Quiet.reading quiet_partGetEnd)
  intro partSdcardEnd
  apply Exits.ite
  · intro _
    apply Exits.bind (echoPartitionsChanged_spec hfirst)
    intro _
    apply changing_of_work
    exact only_bind (quiet_command rfl).work fun _ => work_sgdisk
  · exact fun _ => failDimensions_spec

/-! ### The blocks of the scripts -/

/-- The first command of the scripts. -/
theorem getFlashableZip_spec :
    Exits (shell tool) (fun m => m = ⟨m₀.tmp, m₀.table, []⟩) getFlashableZip (Outcome script m₀)
      fun _ => Reading script m₀ none := by
  have hstart : Reading script m₀ none ⟨m₀.tmp, m₀.table, []⟩ :=
    ⟨⟨rfl, rfl, fun _ he => nomatch he⟩, fun _ he => nomatch he⟩
  apply Exits.perform
  rintro _ r m' rfl ⟨-, _, rfl, rfl⟩
  exact hstart.after_of_isQuiet rfl

/-- A script continues in a session that has changed no partitions. -/
theorem abortIfPartitionsChanged_spec :
    Exits (shell tool) (Reading script m₀ none) abortIfPartitionsChanged (Outcome script m₀)
      fun _ m => Reading script m₀ none m ∧ m₀.tmp .partitionsChanged = false := by
  apply Exits.bind fileExists_flag
  intro found
  apply Exits.pure_pre
  intro hfound
  apply Exits.ite
  · intro _
    apply Exits.bind (Quiet.reading (quiet_command rfl))
    exact fun _ => Exits.throw fun m hm => .untouched hm.toUntouched
  · intro hnot
    rw [hfound, Bool.not_eq_true] at hnot
    exact Exits.pure fun m hm => ⟨hm, hnot⟩

theorem resetStorages_spec :
    Exits (shell tool) (Reading script m₀ none) resetStorages (Outcome script m₀)
      fun _ => Untouched m₀ := by
  unfold resetStorages
  apply Exits.bind
  · exact reading_command (c := .dataNotMountable) rfl (fun _ => rfl) (fun _ _ _ => id) fun _ => rfl
  intro mounted
  apply Exits.mono (Quiet.reading _) (fun _ => id) (fun _ _ => id) fun _ _ hm => hm.toUntouched
  refine only_ite ?_ quiet_abort
  refine only_bind (quiet_command rfl) fun found => only_ite ?_ only_pure
  exact only_bind (quiet_command rfl) fun _ => quiet_command rfl

/-- `unify_userdata` continues with an SDCard partition only. Without it there is nothing to unify,
and the script cleans up and exits. -/
theorem finishWithoutSdcard_spec :
    Exits (shell tool) (Reading script m₀ none) finishWithoutSdcard (Outcome script m₀)
      fun _ m => Reading script m₀ none m ∧ ScriptName.unifyUserdata.Applies m₀.table := by
  -- without the partition the script cleans up and exits
  have hfinish : Exits (shell tool) (Reading script m₀ none) (do
      partUnmount .data
      partUnmount .sdcard
      resetStorages
      throw execSuccess : Script Unit) (Outcome script m₀)
      fun _ m => Reading script m₀ none m ∧ ScriptName.unifyUserdata.Applies m₀.table := by
    apply Exits.bind (Quiet.reading (quiet_command rfl))
    intro _
    apply Exits.bind (Quiet.reading (quiet_command rfl))
    intro _
    apply Exits.bind resetStorages_spec
    exact fun _ => Exits.throw fun m hm => .untouched hm
  apply Exits.bind (J := fun missing m => Reading script m₀ none m ∧
    missing = !m₀.table.any fun p => p.name = .sdcard)
  · -- whether the node of the partition is there, as the first test reads it
    apply Exits.bind fileExists_partsByName
    intro found
    exact Exits.pure fun m hm => ⟨hm.1, congrArg not hm.2⟩
  intro missing
  apply Exits.pure_pre
  intro hmissing
  apply Exits.ite
  · -- it is missing: a file that was left behind is removed, and the script ends
    intro _
    apply Exits.bind (Quiet.reading quiet_fileExists)
    intro left
    apply Exits.ite
    · intro _
      exact Exits.bind (Quiet.reading (quiet_command rfl)) fun _ => hfinish
    · exact fun _ => hfinish
  · -- with it, the table has an entry
    intro hnot
    apply Exits.pure
    refine fun m hm => ⟨hm, ?_⟩
    rw [hmissing, Bool.not_eq_true, Bool.not_eq_false', List.any_eq_true] at hnot
    obtain ⟨p, hp, hname⟩ := hnot
    exact ⟨p, hp, of_decide_eq_true hname⟩

/-- `restore_sdcard` continues without an SDCard partition only. The test fails only when the node
of the partition is missing, and otherwise there is nothing to restore. -/
theorem finishWithSdcard_spec :
    Exits (shell tool) (Reading script m₀ none) finishWithSdcard (Outcome script m₀)
      fun _ m => Reading script m₀ none m ∧ ScriptName.restoreSdcard.Applies m₀.table := by
  have hothers : Quiet (orElse (fileExists (.mmcBlock partSdcardNum))
      (not <$> partExists .sdcard partSdcardNum)) :=
    quiet_orElse (quiet_command rfl) (only_bind quiet_partExists fun _ => only_pure)
  -- the test is false only when the node of the partition is missing
  apply Exits.bind (J := fun found m => Reading script m₀ none m ∧
    (found = false → ¬ ∃ p ∈ m₀.table, p.name = .sdcard))
  · apply Exits.bind fileExists_partsByName
    intro found
    apply Exits.pure_pre
    intro hfound
    apply Exits.ite
    · -- found: there is nothing to prove about the table
      intro _
      exact Exits.pure fun m hm => ⟨hm, nofun⟩
    · -- not found there: the other two tests may still find it, and read only
      intro hnot
      apply (Quiet.reading hothers).mono (fun _ => id) (fun _ _ => id)
      intro _ m hm
      refine ⟨hm, fun _ => ?_⟩
      rintro ⟨p, hp, hname⟩
      apply hnot
      rw [hfound, List.any_eq_true]
      exact ⟨p, hp, decide_eq_true hname⟩
  intro found
  apply Exits.pure_pre
  intro hfound
  apply Exits.ite
  · -- the sdcard is there: the script ends with nothing done
    exact fun _ => Exits.throw fun m hm => .untouched hm.toUntouched
  · intro hnot
    exact Exits.pure fun m hm => ⟨hm, hfound ((Bool.not_eq_true _).mp hnot)⟩

/-- The formatting puts the flag `partitionsChanged` up, which a run finds down here. What follows
unmounts, formats and removes what was left in the cache, with no `sgdisk`. -/
theorem formatPartitions_spec (hfirst : m₀.tmp .partitionsChanged = false) :
    Exits (shell tool) (Reading script m₀ none) formatPartitions (Outcome script m₀)
      fun _ => Changing script m₀ := by
  -- from here on the flag `partitionsChanged` is up
  apply Exits.bind (echoPartitionsChanged_spec hfirst)
  intro _
  apply changing_of_work
  -- unmounting, formatting and removing what was left in the cache: no `sgdisk`
  apply Quiet.work
  apply only_bind (quiet_command rfl)
  intro _
  apply only_bind (quiet_command rfl)
  intro _
  apply only_bind (quiet_command rfl)
  intro _
  apply only_bind (quiet_command rfl)
  intro _
  apply only_bind (quiet_command rfl)
  intro _
  apply only_bind (quiet_command rfl)
  intro _
  apply only_bind (quiet_command rfl)
  intro _
  apply only_bind (quiet_command rfl)
  intro _
  apply only_bind (quiet_command rfl)
  intro _
  apply only_bind (quiet_command rfl)
  intro _
  exact only_bind (quiet_command rfl) fun _ => quiet_rebootRecovery

theorem startProgrammedFormat_spec (hfirst : m₀.tmp .partitionsChanged = false) :
    Exits (shell tool) (Reading script m₀ none) startProgrammedFormat (Outcome script m₀)
      fun _ => Reading script m₀ none := by
  apply Exits.bind (Quiet.reading quiet_fileExists)
  intro format
  apply Exits.ite
  · intro _
    exact Exits.bind (formatPartitions_spec hfirst) fun exited => nomatch exited
  · exact fun _ => Exits.pure fun _ => id

/-- A partition that stands for a condition is mounted, and its files are asked about. -/
theorem partMount_spec {point : Mount} {device : ℕ} {types : List String} {c : Condition}
    (hlooks : (ShellOp.partMount point device types).looksFor = some c) :
    Exits (shell tool) (Reading script m₀ none) (partMount point device types) (Outcome script m₀)
      fun mounted => Reading script m₀ (if mounted then none else some c) := by
  apply Exits.mono (reading_command hlooks (fun _ => rfl) (fun _ _ _ => id) fun _ => rfl)
    (fun _ => id) (fun _ _ => id)
  intro mounted m hm
  cases mounted with
  | true => exact hm
  | false => exact hm

theorem unifyCheckSdcard_spec (happlies : ScriptName.unifyUserdata.Applies m₀.table) :
    Exits (shell tool) (Reading .unifyUserdata m₀ none) unifyCheckSdcard (Outcome .unifyUserdata m₀)
      fun _ => Reading .unifyUserdata m₀ none := by
  have hfiles : sdcardFilesCheck ∈ ScriptName.unifyUserdata.checks := by simp [ScriptName.checks]
  have hmount : sdcardMountCheck ∈ ScriptName.unifyUserdata.checks := by simp [ScriptName.checks]
  apply Exits.bind (partMount_spec (c := .sdcardNotMountable) rfl)
  intro mounted
  apply Exits.ite
  · intro hmounted
    rw [if_pos hmounted]
    apply Exits.bind (askFiles_spec rfl rfl hfiles happlies)
    exact fun _ => Quiet.reading (quiet_command rfl)
  · intro hnot
    rw [if_neg hnot]
    exact Check.ask_spec hmount happlies

theorem unifyCheckData_spec (happlies : ScriptName.unifyUserdata.Applies m₀.table) :
    Exits (shell tool) (Reading .unifyUserdata m₀ none) unifyCheckData (Outcome .unifyUserdata m₀)
      fun _ => Reading .unifyUserdata m₀ none := by
  have hmem : unifyDataFilesCheck ∈ ScriptName.unifyUserdata.checks := by simp [ScriptName.checks]
  apply Exits.bind (partMount_spec (c := .dataNotMountable) rfl)
  intro mounted
  apply Exits.ite
  · intro hmounted
    rw [if_pos hmounted]
    exact askFiles_spec rfl rfl hmem happlies
  · intro _
    apply Exits.bind (Quiet.reading (quiet_command rfl))
    exact fun _ => Exits.throw fun m hm => .untouched hm.toUntouched

theorem restoreCheckData_spec (happlies : ScriptName.restoreSdcard.Applies m₀.table) :
    Exits (shell tool) (Reading .restoreSdcard m₀ none) restoreCheckData (Outcome .restoreSdcard m₀)
      fun _ => Reading .restoreSdcard m₀ none := by
  have hfiles : restoreDataFilesCheck ∈ ScriptName.restoreSdcard.checks := by
    simp [ScriptName.checks]
  have hmount : dataMountCheck ∈ ScriptName.restoreSdcard.checks := by simp [ScriptName.checks]
  apply Exits.bind (partMount_spec (c := .dataNotMountable) rfl)
  intro mounted
  apply Exits.ite
  · intro hmounted
    rw [if_pos hmounted]
    exact askFiles_spec rfl rfl hfiles happlies
  · intro hnot
    rw [if_neg hnot]
    exact Check.ask_spec hmount happlies

/-! ### The ends of the scripts -/

/-- The scheduling of the resize touches no partition and no flag of a check. It copies what the
next boot needs, and fails with a message when a file is missing there. -/
theorem quiet_unifyScheduleResize : Quiet unifyScheduleResize := by
  have hreboot : Quiet (do
      uiPrint ["Rebooting to recovery automatically,", "then resizing UserData partition...", " "]
      echo "--update_package=/cache/recovery/resize_userdata.zip" .cacheRecoveryCommand
      rebootRecovery) :=
    only_bind (quiet_command rfl) fun _ => only_bind (quiet_command rfl) fun _ =>
      quiet_rebootRecovery
  -- what is copied to the cache, and the command for the recovery
  apply only_bind (quiet_command rfl)
  intro _
  apply only_bind (quiet_command rfl)
  intro _
  apply only_bind (quiet_command rfl)
  intro _
  apply only_bind (quiet_command rfl)
  intro _
  apply only_bind (quiet_command rfl)
  intro _
  refine only_bind (quiet_orElse quiet_fileMissing quiet_fileMissing) fun missing =>
    -- when a file is missing there the script fails after its message
    only_ite ?_ hreboot
  apply only_bind (quiet_command rfl)
  intro _
  apply only_bind (quiet_command rfl)
  intro _
  apply only_bind (quiet_command rfl)
  intro _
  exact only_bind only_throw fun _ => hreboot

/-- The scheduling of the format touches no partition and no flag of a check. It needs three files
at the next boot, and writes the command for the recovery. -/
theorem quiet_restoreScheduleFormat {path : List Char} : Quiet (restoreScheduleFormat path) := by
  have hreboot : Quiet (do
      uiPrint ["Rebooting to recovery automatically,", "then resizing UserData partition...", " "]
      echo "--update_package=/cache/recovery/restore_sdcard.zip" .cacheRecoveryCommand
      rebootRecovery) :=
    only_bind (quiet_command rfl) fun _ => only_bind (quiet_command rfl) fun _ =>
      quiet_rebootRecovery
  -- three files are needed by the next boot
  have hmissing : Quiet (orElse (fileMissing .cacheRecoveryCommand)
      (orElse (fileMissing .cacheFlagFormatUserdataSdcard) (fileMissing .cacheRestoreSdcardZip))) :=
    quiet_orElse quiet_fileMissing (quiet_orElse quiet_fileMissing quiet_fileMissing)
  -- what is copied to the cache, and the command for the recovery
  apply only_bind (quiet_command rfl)
  intro _
  apply only_bind (quiet_command rfl)
  intro _
  apply only_bind (quiet_command rfl)
  intro _
  apply only_bind (quiet_command rfl)
  intro _
  apply only_bind (quiet_command rfl)
  intro _
  apply only_bind (quiet_command rfl)
  intro _
  refine only_bind hmissing fun missing => only_ite ?_ hreboot
  apply only_bind (quiet_command rfl)
  intro _
  apply only_bind (quiet_command rfl)
  intro _
  apply only_bind (quiet_command rfl)
  intro _
  apply only_bind (quiet_command rfl)
  intro _
  exact only_bind only_throw fun _ => hreboot

/-! ### The scripts -/

/-- **A run of `unify_userdata`.** The tests are followed in the order of the script: those that may
end it, the partitions that have to be there, and the checks that warn and ask. Only behind all of
them may the table be changed. -/
theorem unifyUserdata_spec :
    Exits (shell tool) (fun m => m = ⟨m₀.tmp, m₀.table, []⟩) Releasetools.unifyUserdata
      (Outcome .unifyUserdata m₀)
      fun _ => Changing .unifyUserdata m₀ := by
  have hzip : zipCheck ∈ ScriptName.unifyUserdata.checks := List.mem_cons_self
  -- the trace is empty at the start, so nothing is left to be asked for
  apply Exits.bind getFlashableZip_spec
  intro flashableZip
  apply Exits.bind abortIfPartitionsChanged_spec
  intro _
  apply Exits.pure_pre
  -- the flag of an earlier run would have ended this one
  intro hfirst
  -- multirom, the age of the recovery, and a resize that was asked for earlier
  apply Exits.bind (Quiet.reading quiet_ignoreMultirom)
  intro _
  apply Exits.bind (Quiet.reading quiet_abortOnOldTwrp)
  intro _
  apply Exits.bind (Quiet.reading quiet_startProgrammedResize)
  intro _
  apply Exits.bind finishWithoutSdcard_spec
  intro _
  apply Exits.pure_pre
  intro happlies
  -- from here on the partition table has an SDCard
  apply Exits.bind (Quiet.reading (quiet_command rfl))
  intro _
  -- the first check that may ask is that of the zip file
  apply Exits.bind (checkFlashableZip_spec hzip happlies)
  intro _
  -- then the partitions that have to be there, and the cache is mounted
  apply Exits.bind (Quiet.reading quiet_unmountData)
  intro _
  apply Exits.bind (Quiet.reading quiet_abortIfMissing)
  intro _
  apply Exits.bind (Quiet.reading quiet_abortIfMissing)
  intro _
  apply Exits.bind (Quiet.reading quiet_abortIfMissing)
  intro _
  apply Exits.bind (Quiet.reading quiet_mountCache)
  intro _
  -- each check that found something has asked, or the run is over
  apply Exits.bind (unifyCheckSdcard_spec happlies)
  intro _
  apply Exits.bind (unifyCheckData_spec happlies)
  intro _
  apply Exits.bind (Quiet.reading (quiet_command rfl))
  intro _
  apply Exits.bind (Quiet.reading (quiet_command rfl))
  intro _
  -- only now may the table be changed
  apply Exits.bind (unifyPartitions_spec hfirst)
  intro _
  exact changing_of_work quiet_unifyScheduleResize.work

/-- **A run of `restore_sdcard`.** As in the other script, with `startProgrammedFormat` in between
and one check that asks besides that of the zip file. Only behind all of them may the table be
changed. -/
theorem restoreSdcard_spec :
    Exits (shell tool) (fun m => m = ⟨m₀.tmp, m₀.table, []⟩) Releasetools.restoreSdcard
      (Outcome .restoreSdcard m₀)
      fun _ => Changing .restoreSdcard m₀ := by
  have hzip : zipCheck ∈ ScriptName.restoreSdcard.checks := List.mem_cons_self
  -- as in the other script, and here `startProgrammedFormat` may come in between
  apply Exits.bind getFlashableZip_spec
  intro flashableZip
  apply Exits.bind abortIfPartitionsChanged_spec
  intro _
  apply Exits.pure_pre
  intro hfirst
  apply Exits.bind (Quiet.reading (quiet_command rfl))
  intro _
  apply Exits.bind (startProgrammedFormat_spec hfirst)
  intro _
  apply Exits.bind finishWithSdcard_spec
  intro _
  apply Exits.pure_pre
  intro happlies
  -- from here on the partition table has no SDCard
  apply Exits.bind (checkFlashableZip_spec hzip happlies)
  intro _
  -- the partitions that have to be there, and the cache
  apply Exits.bind (Quiet.reading quiet_unmountData)
  intro _
  apply Exits.bind (Quiet.reading quiet_abortIfMissing)
  intro _
  apply Exits.bind (Quiet.reading quiet_abortIfMissing)
  intro _
  apply Exits.bind (Quiet.reading quiet_mountCache)
  intro _
  -- the only check of this script besides the zip
  apply Exits.bind (restoreCheckData_spec happlies)
  intro _
  apply Exits.bind (Quiet.reading (quiet_command rfl))
  intro _
  apply Exits.bind (Quiet.reading (quiet_command rfl))
  intro _
  -- only now may the table be changed
  apply Exits.bind (restorePartitions_spec hfirst)
  intro _
  exact changing_of_work quiet_restoreScheduleFormat.work

/-- **The outcomes of a run** of one of the scripts. -/
theorem ScriptName.main_spec {code : ExitCode}
    (hrun : script.main.run.Runs (shell tool) ⟨m₀.tmp, m₀.table, []⟩ (.error code) m) :
    Outcome script m₀ code m := by
  cases script with
  | unifyUserdata => exact unifyUserdata_spec _ rfl _ _ hrun
  | restoreSdcard => exact restoreSdcard_spec _ rfl _ _ hrun

end Run

end Releasetools

end BlueCommon
