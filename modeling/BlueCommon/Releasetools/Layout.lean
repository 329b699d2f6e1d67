import BlueCommon.Lib.Lts
import BlueCommon.Releasetools.Consent
import Mathlib.Data.List.Perm.Basic

/-!
# The partition table over the sessions of the recovery

`unify_userdata` and `restore_sdcard` change the partition table by a chain of `sgdisk` commands
that stops at the first failure. Nothing puts back what the commands before it have done. Of
`sgdisk` only what is documented is used.

* `plan`: the chain of a script, computed from the table it finds. `main_ranTo`: a run executes a
  part of it, up to a failure, or does not get to it.
* `others_kept`: no run touches a partition other than UserData and the SDCard, and neither of these
  leaves the sectors of the user storage.
* `layout_intact_iff`: the user storage keeps its first and its last sector and the names of its
  partitions, over any number of sessions and runs, if and only if in no run a command fails after
  another one has succeeded.
* `sdcard_space_lost`: where `unify_userdata` fails at its second command, the space of the SDCard
  belongs to no partition, and no run of either script changes that.

One step of the recovery either leaves the table as it was, or executes a first part of a chain. A
chain that runs to its end leads from one intact layout to another; one that stops in between leaves
the storage `Torn`: no partition is the SDCard any more, and UserData, if it is there, ends too
early (`Intact.afterChain`). On such a table the plan of either script is empty (`Torn.plan_nil`),
which is why nothing is repaired. The aligned first sector is needed because the chain creates
UserData again where it was.
-/

namespace BlueCommon

namespace Releasetools

open Interaction

/-! ### The commands of a run -/

/-- The `sgdisk` commands of a run and whether they succeeded, in the order of the run. -/
def sgdisks : List Event → List (Sgdisk × Bool)
  | [] => []
  | ⟨.sgdisk change, succeeded⟩ :: earlier =>
    sgdisks earlier ++ ([(change, succeeded)] : List (Sgdisk × Bool))
  | _ :: earlier => sgdisks earlier

/-- The tables before and after some commands, each of which does what `R` says. -/
def Steps (R : Sgdisk → List Partition → List Partition → Prop) :
    List Sgdisk → List Partition → List Partition → Prop
  | [], table, table' => table' = table
  | change :: chain, table, table' => ∃ next, R change table next ∧ Steps R chain next table'

/-- A command that succeeds. -/
def SgdiskTool.Succeeds (tool : SgdiskTool) (change : Sgdisk) (table table' : List Partition) :
    Prop :=
  tool change table true table'

/-- What a chain has done when `k` commands have succeeded: then one has failed, or the chain is at
its end. -/
def ranTo (chain : List Sgdisk) (k : ℕ) : List (Sgdisk × Bool) :=
  (chain.take k).map (·, true) ++ ((chain.drop k).take 1).map (·, false)

/-- The starts, or the ends, of the partitions of a name. -/
def starts (table : List Partition) (name : PartName) : List ℕ :=
  (table.filter fun p => p.name = name).map Partition.start

def stops (table : List Partition) (name : PartName) : List ℕ :=
  (table.filter fun p => p.name = name).map Partition.stop

/-- The chain of `unify_userdata`. -/
def unifyChain (partDataStart partDataEnd : ℕ) : List Sgdisk :=
  [.delete partSdcardNum, .delete partDataNum, .new partDataNum partDataStart partDataEnd,
    .changeName partDataNum .userdata]

/-- The chain of `restore_sdcard`. -/
def restoreChain (partDataStart partSdcardEnd : ℕ) : List Sgdisk :=
  [.delete partDataNum, .new partDataNum partDataStart partDataEnd,
    .new partSdcardNum partDataEnd partSdcardEnd, .changeName partDataNum .userdata,
    .changeName partSdcardNum .sdcard]

/-- The chain of a script, for the table it finds. -/
def plan (table : List Partition) : ScriptName → List Sgdisk
  | .unifyUserdata =>
    if lessThan (starts table .userdata) (stops table .sdcard) then
      unifyChain (starts table .userdata).head! (stops table .sdcard).head!
    else []
  | .restoreSdcard =>
    if (table.any fun p => p.name = .sdcard) = false ∧
        lessThan (starts table .userdata) [partDataEnd] ∧
        lessThan [partDataEnd] (stops table .userdata) then
      restoreChain (starts table .userdata).head! (stops table .userdata).head!
    else []

/-! ### What a script does to the table -/

/-- Commands that are not `sgdisk` commands. -/
def ShellOp.isSteady : ShellOp → Bool
  | .sgdisk _ => false
  | _ => true

abbrev Steady {α : Type} (p : Script α) : Prop :=
  p.run.Only fun o => ShellOp.isSteady o = true

/-- The run has changed nothing in the table. -/
def Still (table : List Partition) (m : Machine) : Prop :=
  m.table = table ∧ sgdisks m.trace = []

/-- The run has executed the chain up to a failure or to its end. -/
def RanTo (tool : SgdiskTool) (table : List Partition) (chain : List Sgdisk) (m : Machine) : Prop :=
  ∃ k ≤ chain.length,
    Steps tool.Succeeds (chain.take k) table m.table ∧ sgdisks m.trace = ranTo chain k

/-- The outcomes of a run: it has left the table as it was, or it has gone through its chain of
commands, or through a first part of it. -/
def Outcomes (tool : SgdiskTool) (table : List Partition) (script : ScriptName) (m : Machine) :
    Prop :=
  Still table m ∨ RanTo tool table (plan table script) m

section Steady

variable {tool : SgdiskTool} {o : ShellOp} {α : Type} {p : Script α} {table : List Partition}
  {script : ScriptName}

theorem sgdisks_cons_of_isSteady {r : o.Res} {trace : List Event} (ho : o.isSteady = true) :
    sgdisks (⟨o, r⟩ :: trace) = sgdisks trace := by
  cases o
  case sgdisk => exact absurd ho Bool.false_ne_true
  all_goals rfl

theorem tableAfter_of_isSteady {r : o.Res} {table' : List Partition} (ho : o.isSteady = true)
    (h : TableAfter tool table o r table') : table' = table := by
  cases o
  case sgdisk => exact absurd ho Bool.false_ne_true
  all_goals exact h

/-- What does not depend on the rest of the state is kept by other commands. -/
theorem Steady.keeps {P : List Partition → List (Sgdisk × Bool) → Prop} (h : Steady p) :
    Exits (shell tool) (fun m => P m.table (sgdisks m.trace)) p
      (fun _ m => P m.table (sgdisks m.trace)) fun _ m => P m.table (sgdisks m.trace) := by
  apply Exits.only _ h
  rintro o r m m' ho ⟨-, table, htable, rfl⟩ hm
  rw [Machine.after_table, Machine.after_trace, tableAfter_of_isSteady ho htable,
    sgdisks_cons_of_isSteady ho]
  exact hm

/-- Before the chain, and in a script that does not get to it. -/
theorem Steady.still (h : Steady p) :
    Exits (shell tool) (Still table) p (fun _ => Outcomes tool table script) fun _ => Still table :=
  (Steady.keeps (P := fun T L => T = table ∧ L = []) h).mono (fun _ => id) (fun _ _ => Or.inl)
    fun _ _ => id

end Steady

section Blocks

variable {α β : Type} {table : List Partition} {script : ScriptName}

theorem steady_command {o : ShellOp} (h : o.isSteady = true) : Steady (command o) := only_perform h

/-- A quiet command changes neither the flag files nor the table. -/
theorem Quiet.steady {p : Script α} (h : Quiet p) : Steady p :=
  h.mono fun o ho => by
    cases o
    case sgdisk => exact absurd ho Bool.false_ne_true
    all_goals rfl

theorem steady_uiPrint {lines : List String} : Steady (uiPrint lines) := steady_command rfl

theorem steady_echo {text : String} {path : Path} : Steady (echo text path) := steady_command rfl

theorem steady_ask {check : Check} : Steady check.ask := by
  refine only_bind steady_uiPrint fun _ => only_bind quiet_fileMissing.steady fun _ => ?_
  refine only_ite ?_ steady_uiPrint
  exact only_bind steady_uiPrint fun _ => only_bind steady_echo fun _ =>
    only_bind only_throw fun _ => steady_uiPrint

theorem steady_containsFiles {point : Mount} : Steady (containsFiles point) :=
  only_bind (steady_command rfl) fun _ =>
    only_ite (only_bind (steady_command rfl) fun _ => only_pure) only_pure

theorem steady_askFiles {point : Mount} {check : Check} {text : String} :
    Steady (askFiles point check text) :=
  only_bind steady_containsFiles fun _ => only_ite steady_ask steady_uiPrint

theorem steady_checkFlashableZip {path : List Char} : Steady (checkFlashableZip path) :=
  only_bind (steady_command rfl) fun _ => only_ite steady_ask only_pure

theorem steady_abortIfPartitionsChanged : Steady abortIfPartitionsChanged :=
  only_bind quiet_fileExists.steady fun _ =>
    only_ite (only_bind steady_uiPrint fun _ => only_throw) only_pure

theorem steady_resetStorages : Steady resetStorages :=
  only_bind (steady_command rfl) fun _ =>
    only_ite (only_bind (steady_command rfl) fun _ =>
      only_ite (only_bind steady_uiPrint fun _ => steady_command rfl) only_pure)
      (only_bind steady_uiPrint fun _ => only_throw)

theorem steady_finishWithoutSdcard : Steady finishWithoutSdcard := by
  have hfinish : Steady (do
      partUnmount .data
      partUnmount .sdcard
      resetStorages
      throw execSuccess : Script Unit) :=
    only_bind (steady_command rfl) fun _ => only_bind (steady_command rfl) fun _ =>
      only_bind steady_resetStorages fun _ => only_throw
  refine only_bind quiet_fileMissing.steady fun _ => only_ite ?_ only_pure
  exact only_bind quiet_fileExists.steady fun _ =>
    only_ite (only_bind (steady_command rfl) fun _ => hfinish) hfinish

theorem steady_unifyCheckSdcard : Steady unifyCheckSdcard :=
  only_bind (steady_command rfl) fun _ =>
    only_ite (only_bind steady_askFiles fun _ => steady_command rfl) steady_ask

theorem steady_unifyCheckData : Steady unifyCheckData :=
  only_bind (steady_command rfl) fun _ =>
    only_ite steady_askFiles (only_bind steady_uiPrint fun _ => only_throw)

theorem steady_restoreCheckData : Steady restoreCheckData :=
  only_bind (steady_command rfl) fun _ => only_ite steady_askFiles steady_ask

theorem steady_formatPartitions : Steady formatPartitions := by
  refine only_bind steady_echo fun _ => only_bind steady_uiPrint fun _ =>
    only_bind (steady_command rfl) fun _ => only_bind (steady_command rfl) fun _ =>
    only_bind steady_uiPrint fun _ => only_bind (steady_command rfl) fun _ =>
    only_bind steady_uiPrint fun _ => only_bind (steady_command rfl) fun _ =>
    only_bind (steady_command rfl) fun _ => only_bind (steady_command rfl) fun _ =>
    only_bind (steady_command rfl) fun _ => only_bind steady_uiPrint fun _ => ?_
  exact quiet_rebootRecovery.steady

theorem steady_startProgrammedFormat : Steady startProgrammedFormat :=
  only_bind quiet_fileExists.steady fun _ =>
    only_ite (only_bind steady_formatPartitions fun exited => nomatch exited) only_pure

end Blocks

/-! ### The chains -/

section Chains

variable {tool : SgdiskTool} {α β : Type} {table : List Partition} {script : ScriptName}

/-- The state in which a part of a run starts. -/
def At (table : List Partition) (done : List (Sgdisk × Bool)) (m : Machine) : Prop :=
  m.table = table ∧ sgdisks m.trace = done

theorem ranTo_cons {change : Sgdisk} {chain : List Sgdisk} {k : ℕ} :
    ranTo (change :: chain) (k + 1) = (change, true) :: ranTo chain k := rfl

/-- A chain of commands runs up to a failure or to its end. A command that fails leaves the table as
it is. -/
theorem sgdiskAll_spec {E : ExitCode → Machine → Prop}
    (hfailed : ∀ {change table table'}, tool change table false table' → table' = table)
    (chain : List (String × Sgdisk)) (done : List (Sgdisk × Bool)) :
    Exits (shell tool) (At table done) (sgdiskAll chain) E fun _ m => ∃ k ≤ chain.length,
      Steps tool.Succeeds ((chain.map Prod.snd).take k) table m.table ∧
        sgdisks m.trace = done ++ ranTo (chain.map Prod.snd) k := by
  induction chain generalizing table done with
  -- no command left: all of them have been run
  | nil =>
    refine Exits.pure fun m hm => ⟨0, Nat.le_refl 0, hm.1, ?_⟩
    rw [hm.2]
    exact (List.append_nil done).symm
  | cons head rest ih =>
    obtain ⟨text, change⟩ := head
    -- one command, which succeeds or not
    have hfirst : Exits (shell tool) (At table done) (sgdisk change) E fun succeeded m =>
        ∃ next, At next (done ++ [(change, succeeded)]) m ∧ tool change table succeeded next := by
      refine Exits.perform ?_
      rintro m r m' ⟨htable, hdone⟩ ⟨-, next, hnext, rfl⟩
      refine ⟨next, ⟨rfl, ?_⟩, htable ▸ hnext⟩
      rw [Machine.after_trace, ← hdone]
      rfl
    apply Exits.bind hfirst
    -- by its answer: the rest of the chain, or the end
    intro succeeded
    refine Exits.exists_pre fun next => Exits.pure_pre fun hnext => ?_
    cases succeeded with
    -- it succeeded, so the rest starts from the table it left
    | true =>
      refine (ih _).mono (fun m hm => hm) (fun _ _ => id) ?_
      rintro failure m ⟨k, hk, hsteps, hdone⟩
      refine ⟨k + 1, Nat.succ_le_succ hk, ⟨next, hnext, hsteps⟩, ?_⟩
      rw [hdone, List.map_cons, ranTo_cons, List.append_assoc, List.singleton_append]
    | false =>
      -- it failed, and by the hypothesis the table is what it was
      refine Exits.pure fun m hm => ⟨0, Nat.zero_le _, ?_, hm.2⟩
      exact hm.1.trans (hfailed hnext)

/-- What `sgdisk --print` shows. -/
theorem sgdiskPrint_spec :
    Exits (shell tool) (Still table) sgdiskPrint (fun _ => Outcomes tool table script)
      fun found m => Still table m ∧ found = table := by
  refine Exits.perform ?_
  rintro m r m' ⟨htable, hdone⟩ ⟨hanswer, _, rfl, rfl⟩
  exact ⟨⟨htable, hdone⟩, hanswer.trans htable⟩

theorem partGetStart_spec {name : PartName} :
    Exits (shell tool) (Still table) (partGetStart name) (fun _ => Outcomes tool table script)
      fun found m => Still table m ∧ found = starts table name := by
  refine Exits.bind sgdiskPrint_spec fun found => Exits.pure fun m hm => ⟨hm.1, ?_⟩
  rw [hm.2]
  rfl

theorem partGetEnd_spec {name : PartName} :
    Exits (shell tool) (Still table) (partGetEnd name) (fun _ => Outcomes tool table script)
      fun found m => Still table m ∧ found = stops table name := by
  refine Exits.bind sgdiskPrint_spec fun found => Exits.pure fun m hm => ⟨hm.1, ?_⟩
  rw [hm.2]
  rfl

variable (hfailed : ∀ {change table table'}, tool change table false table' → table' = table)
include hfailed

/-- The chain of a script and what comes after it. -/
theorem chain_spec {chain : List (String × Sgdisk)}
    (hchain : chain.map Prod.snd = plan table script) :
    Exits (shell tool) (Still table) (do let failure ← sgdiskAll chain; reportSgdisk failure)
      (fun _ => Outcomes tool table script) fun _ => RanTo tool table (plan table script) := by
  refine Exits.bind (@sgdiskAll_spec tool table _ hfailed chain []) fun failure => ?_
  have hreport : Steady (reportSgdisk failure) := quiet_reportSgdisk.steady
  refine (Steady.keeps (P := fun T L => ∃ k ≤ (plan table script).length,
    Steps tool.Succeeds ((plan table script).take k) table T ∧ L = ranTo (plan table script) k)
    hreport).mono ?_ (fun _ _ => Or.inr) fun _ _ => id
  rintro m ⟨k, hk, hsteps, hdone⟩
  rw [hchain] at hsteps hdone
  refine ⟨k, ?_, hsteps, hdone⟩
  rwa [← hchain, List.length_map]

theorem unifyPartitions_ranTo :
    Exits (shell tool) (Still table) unifyPartitions (fun _ => Outcomes tool table .unifyUserdata)
      fun _ => RanTo tool table (plan table .unifyUserdata) := by
  -- the two numbers that are read from the table before anything is changed
  apply Exits.bind partGetStart_spec
  intro partDataStart
  refine Exits.pure_pre ?_
  rintro rfl
  apply Exits.bind partGetEnd_spec
  intro partDataEnd
  refine Exits.pure_pre ?_
  rintro rfl
  apply Exits.ite
  · -- the whole space is in order: the four commands of `unifyChain`
    intro hless
    refine Exits.bind steady_echo.still fun _ => ?_
    refine Exits.bind (Steady.still (steady_command rfl)) fun _ => ?_
    refine Exits.bind (Steady.still (steady_command rfl)) fun _ => ?_
    refine chain_spec hfailed ?_
    rw [plan, if_pos hless]
    rfl
  · -- the ends are the wrong way round: the script reports it and exits
    intro _
    refine Exits.bind steady_uiPrint.still fun _ => ?_
    exact Exits.throw fun m hm => .inl hm

theorem restorePartitions_ranTo (hsdcard : (table.any fun p => p.name = .sdcard) = false) :
    Exits (shell tool) (Still table) restorePartitions (fun _ => Outcomes tool table .restoreSdcard)
      fun _ => RanTo tool table (plan table .restoreSdcard) := by
  -- here the end is that of the sdcard's place
  apply Exits.bind partGetStart_spec
  intro partDataStart
  refine Exits.pure_pre ?_
  rintro rfl
  apply Exits.bind partGetEnd_spec
  intro partSdcardEnd
  refine Exits.pure_pre ?_
  rintro rfl
  apply Exits.ite
  · -- room for both partitions: the five commands of `restoreChain`
    intro hless
    rw [Bool.and_eq_true] at hless
    refine Exits.bind steady_echo.still fun _ => ?_
    refine Exits.bind (Steady.still (steady_command rfl)) fun _ => ?_
    refine chain_spec hfailed ?_
    rw [plan, if_pos ⟨hsdcard, hless⟩]
    rfl
  · -- no room: the script reports it and exits
    intro _
    refine Exits.bind steady_uiPrint.still fun _ => ?_
    exact Exits.throw fun m hm => .inl hm

end Chains

/-! ### The scripts -/

section Scripts

variable {tool : SgdiskTool} {α : Type} {table : List Partition} {script : ScriptName}

/-- `restore_sdcard` continues without an SDCard only. It continues when all three tests have said
that the partition is missing, and the first of them looks at the table. -/
theorem finishWithSdcard_still :
    Exits (shell tool) (Still table) finishWithSdcard (fun _ => Outcomes tool table script)
      fun _ m => Still table m ∧ (table.any fun p => p.name = .sdcard) = false := by
  have hlook : Exits (shell tool) (Still table) (fileExists (.partsByName .sdcard))
      (fun _ => Outcomes tool table script)
      fun found m => Still table m ∧ found = table.any fun p => p.name = .sdcard := by
    refine Exits.perform ?_
    rintro m r m' ⟨htable, hdone⟩ ⟨hanswer, _, rfl, rfl⟩
    refine ⟨⟨htable, hdone⟩, ?_⟩
    rw [← htable]
    exact hanswer
  -- this holds for an answer of `false` only, where all three tests have been made
  -- the first of the three tests says so, and the others only add reasons to exit
  have htests : Exits (shell tool) (Still table) (orElse (fileExists (.partsByName .sdcard))
      (orElse (fileExists (.mmcBlock partSdcardNum))
        (not <$> partExists .sdcard partSdcardNum))) (fun _ => Outcomes tool table script)
      fun found m => Still table m ∧
        (found = false → (table.any fun p => p.name = .sdcard) = false) := by
    refine Exits.bind hlook fun found => Exits.pure_pre fun hfound => ?_
    apply Exits.ite
    · -- the first test found the sdcard, and the script ends
      intro _
      exact Exits.pure fun m hm => ⟨hm, fun h => absurd h Bool.false_ne_true.symm⟩
    · -- the other two tests change nothing
      intro hnot
      have hrest : Steady (orElse (fileExists (.mmcBlock partSdcardNum))
          (not <$> partExists .sdcard partSdcardNum)) :=
        (quiet_orElse quiet_fileExists (only_bind quiet_partExists fun _ => only_pure)).steady
      rw [Bool.not_eq_true] at hnot
      exact hrest.still.mono (fun _ => id) (fun _ _ => id)
        fun _ m hm => ⟨hm, fun _ => hfound.symm.trans hnot⟩
  refine Exits.bind htests fun found => ?_
  apply Exits.ite
  · -- one of them found something to keep: the script ends without a change
    intro _
    exact Exits.throw fun m hm => .inl hm.1
  · intro hnot
    rw [Bool.not_eq_true] at hnot
    exact Exits.pure fun m hm => ⟨hm.1, hm.2 hnot⟩

/-- After the chain. -/
theorem Steady.afterChain {p : Script α} (h : Steady p) :
    Exits (shell tool) (RanTo tool table (plan table script)) p
      (fun _ => Outcomes tool table script) fun _ => RanTo tool table (plan table script) :=
  (Steady.keeps (P := fun T L => ∃ k ≤ (plan table script).length,
    Steps tool.Succeeds ((plan table script).take k) table T ∧
      L = ranTo (plan table script) k) h).mono
    (fun _ => id) (fun _ _ => Or.inr) fun _ _ => id

variable (hfailed : ∀ {change table table'}, tool change table false table' → table' = table)
include hfailed

theorem unifyUserdata_ranTo :
    Exits (shell tool) (Still table) unifyUserdata (fun _ => Outcomes tool table .unifyUserdata)
      fun _ => RanTo tool table (plan table .unifyUserdata) := by
  -- what comes before the chain reads, mounts and prints, and leaves the table alone
  refine Exits.bind (Steady.still (steady_command rfl)) fun flashableZip => ?_
  refine Exits.bind steady_abortIfPartitionsChanged.still fun _ => ?_
  refine Exits.bind quiet_ignoreMultirom.steady.still fun _ => ?_
  refine Exits.bind quiet_abortOnOldTwrp.steady.still fun _ => ?_
  refine Exits.bind quiet_startProgrammedResize.steady.still fun _ => ?_
  refine Exits.bind steady_finishWithoutSdcard.still fun _ => ?_
  refine Exits.bind steady_uiPrint.still fun _ => ?_
  refine Exits.bind steady_checkFlashableZip.still fun _ => ?_
  refine Exits.bind quiet_unmountData.steady.still fun _ => ?_
  refine Exits.bind quiet_abortIfMissing.steady.still fun _ => ?_
  refine Exits.bind quiet_abortIfMissing.steady.still fun _ => ?_
  refine Exits.bind quiet_abortIfMissing.steady.still fun _ => ?_
  refine Exits.bind quiet_mountCache.steady.still fun _ => ?_
  refine Exits.bind steady_unifyCheckSdcard.still fun _ => ?_
  refine Exits.bind steady_unifyCheckData.still fun _ => ?_
  refine Exits.bind (Steady.still (steady_command rfl)) fun _ => ?_
  refine Exits.bind steady_uiPrint.still fun _ => ?_
  -- the chain itself
  refine Exits.bind (unifyPartitions_ranTo hfailed) fun _ => ?_
  -- and what comes after it leaves the table alone
  exact quiet_unifyScheduleResize.steady.afterChain

theorem restoreSdcard_ranTo :
    Exits (shell tool) (Still table) restoreSdcard (fun _ => Outcomes tool table .restoreSdcard)
      fun _ => RanTo tool table (plan table .restoreSdcard) := by
  -- as above: reading, mounting and printing
  refine Exits.bind (Steady.still (steady_command rfl)) fun flashableZip => ?_
  refine Exits.bind steady_abortIfPartitionsChanged.still fun _ => ?_
  refine Exits.bind steady_uiPrint.still fun _ => ?_
  refine Exits.bind steady_startProgrammedFormat.still fun _ => ?_
  -- from here on there is no partition of that name
  refine Exits.bind finishWithSdcard_still fun _ => ?_
  refine Exits.pure_pre fun hsdcard => ?_
  refine Exits.bind steady_checkFlashableZip.still fun _ => ?_
  refine Exits.bind quiet_unmountData.steady.still fun _ => ?_
  refine Exits.bind quiet_abortIfMissing.steady.still fun _ => ?_
  refine Exits.bind quiet_abortIfMissing.steady.still fun _ => ?_
  refine Exits.bind quiet_mountCache.steady.still fun _ => ?_
  refine Exits.bind steady_restoreCheckData.still fun _ => ?_
  refine Exits.bind (Steady.still (steady_command rfl)) fun _ => ?_
  refine Exits.bind steady_uiPrint.still fun _ => ?_
  -- the chain itself, for a table without one
  refine Exits.bind (restorePartitions_ranTo hfailed hsdcard) fun _ => ?_
  exact quiet_restoreScheduleFormat.steady.afterChain

/-- **What a run of a script does to the table.** -/
theorem main_ranTo {tmp : Flag → Bool} {code : ExitCode} {m : Machine}
    (hrun : script.main.run.Runs (shell tool) ⟨tmp, table, []⟩ (.error code) m) :
    Outcomes tool table script m := by
  cases script with
  | unifyUserdata => exact unifyUserdata_ranTo hfailed _ ⟨rfl, rfl⟩ _ _ hrun
  | restoreSdcard => exact restoreSdcard_ranTo hfailed _ ⟨rfl, rfl⟩ _ _ hrun

end Scripts

/-! ### The table as the chains see it -/

section Tables

variable {tool : SgdiskTool} {alignment : ℕ} {table table' rest users : List Partition}
  {change : Sgdisk} {chain : List Sgdisk}

/-- The number of the partition that a command is about. Each command names one partition. -/
def Sgdisk.num : Sgdisk → ℕ
  | .delete num | .new num _ _ | .changeName num _ => num

/-- The user storage. -/
def userNums : List ℕ := [partDataNum, partSdcardNum]

theorem partDataNum_mem : partDataNum ∈ userNums := List.mem_cons_self

theorem partSdcardNum_mem : partSdcardNum ∈ userNums := List.mem_cons_of_mem _ List.mem_cons_self

/-- The chains are about UserData and the SDCard. -/
theorem plan_userNums {script : ScriptName} :
    ∀ change ∈ plan table script, change.num ∈ userNums := by
  intro change h
  -- each chain names the numbers of userdata and sdcard only
  cases script with
  | unifyUserdata =>
    rw [plan] at h
    split at h
    · simp only [unifyChain, List.mem_cons, List.not_mem_nil, or_false] at h
      obtain rfl | rfl | rfl | rfl := h
      · exact partSdcardNum_mem
      all_goals exact partDataNum_mem
    · exact absurd h List.not_mem_nil
  | restoreSdcard =>
    rw [plan] at h
    split at h
    · simp only [restoreChain, List.mem_cons, List.not_mem_nil, or_false] at h
      obtain rfl | rfl | rfl | rfl | rfl := h
      · exact partDataNum_mem
      · exact partDataNum_mem
      · exact partSdcardNum_mem
      · exact partDataNum_mem
      · exact partSdcardNum_mem
    · exact absurd h List.not_mem_nil

theorem Sgdisk.Effect.delete_eq {num : ℕ}
    (h : (Sgdisk.delete num).Effect alignment table table') :
    table' = table.filter fun p => p.num ≠ num := by
  cases h
  rfl

theorem Sgdisk.Effect.new_eq {num start stop : ℕ}
    (h : (Sgdisk.new num start stop).Effect alignment table table') :
    ∃ aligned name, (alignment ∣ start → aligned = start) ∧ aligned ≤ stop ∧
      (∀ p ∈ table, p.num ≠ num ∧ (p.stop < aligned ∨ stop < p.start)) ∧
      table' = table ++ [⟨num, aligned, stop, .other name⟩] := by
  cases h with
  | @new _ _ _ aligned name _ haligned hle hfree => exact ⟨aligned, name, haligned, hle, hfree, rfl⟩

theorem Sgdisk.Effect.changeName_eq {num : ℕ} {name : PartName}
    (h : (Sgdisk.changeName num name).Effect alignment table table') :
    table' = table.map fun p => if p.num = num then { p with name } else p := by
  cases h
  rfl

/-- The order of the partitions does not matter. -/
theorem Sgdisk.Effect.perm {changed : List Partition}
    (h : change.Effect alignment table changed) (hperm : table.Perm table') :
    ∃ changed', change.Effect alignment table' changed' ∧ changed.Perm changed' := by
  cases h with
  | delete => exact ⟨_, .delete, hperm.filter _⟩
  | new haligned hle hfree =>
    exact ⟨_, .new haligned hle fun p hp => hfree p (hperm.mem_iff.mpr hp), hperm.append_right _⟩
  | changeName => exact ⟨_, .changeName, hperm.map _⟩

/-- Commands that succeed have their effects, up to the order of the partitions. -/
theorem effects_of_succeeds (htool : tool.Documented alignment)
    (h : Steps tool.Succeeds chain table table') (hperm : table.Perm users) :
    ∃ users', Steps (Sgdisk.Effect alignment) chain users users' ∧ table'.Perm users' := by
  induction chain generalizing table users with
  | nil =>
    obtain rfl : table' = table := h
    exact ⟨users, rfl, hperm⟩
  | cons change chain ih =>
    obtain ⟨next, hnext, hrest⟩ := h
    obtain ⟨changed, heffect, hnextPerm⟩ := htool.succeeded hnext
    obtain ⟨users₁, heffect₁, hperm₁⟩ := heffect.perm hperm
    obtain ⟨users', hsteps, hperm'⟩ := ih hrest (hnextPerm.trans hperm₁)
    exact ⟨users', ⟨users₁, heffect₁, hsteps⟩, hperm'⟩

/-- A command passes over the partitions of other numbers. -/
theorem Sgdisk.Effect.of_append (hrest : ∀ p ∈ rest, p.num ≠ change.num)
    (h : change.Effect alignment (rest ++ users) table') :
    ∃ users', change.Effect alignment users users' ∧ table' = rest ++ users' := by
  -- by the command: what it does to the partitions of its own number
  cases h with
  -- deleting takes nothing away from the others
  | @delete num _ =>
    have hsame : rest.filter (fun p => p.num ≠ num) = rest :=
      List.filter_eq_self.mpr fun p hp => decide_eq_true (hrest p hp)
    refine ⟨_, .delete, ?_⟩
    rw [List.filter_append, hsame]
  -- a new partition is put at the end, and it overlaps with none
  | new haligned hle hfree =>
    exact ⟨_, .new haligned hle fun p hp => hfree p (List.mem_append_right _ hp),
      List.append_assoc _ _ _⟩
  -- and a name is given to one number
  | @changeName num name _ =>
    have hsame : rest.map (fun p => if p.num = num then { p with name } else p) = rest := by
      refine (List.map_congr_left fun p hp => if_neg (hrest p hp)).trans ?_
      exact List.map_id' rest
    refine ⟨_, .changeName, ?_⟩
    rw [List.map_append, hsame]

theorem effects_of_append (hrest : ∀ p ∈ rest, p.num ∉ userNums)
    (hchain : ∀ change ∈ chain, change.num ∈ userNums)
    (h : Steps (Sgdisk.Effect alignment) chain (rest ++ users) table') :
    ∃ users', Steps (Sgdisk.Effect alignment) chain users users' ∧ table' = rest ++ users' := by
  induction chain generalizing users with
  | nil => exact ⟨users, rfl, h⟩
  | cons change chain ih =>
    obtain ⟨next, heffect, hsteps⟩ := h
    have hne : ∀ p ∈ rest, p.num ≠ change.num := by
      intro p hp heq
      refine hrest p hp ?_
      rw [heq]
      exact hchain change List.mem_cons_self
    obtain ⟨users₁, heffect₁, rfl⟩ := heffect.of_append hne
    obtain ⟨users', hsteps', rfl⟩ := ih (fun c hc => hchain c (List.mem_cons_of_mem _ hc)) hsteps
    exact ⟨users', ⟨users₁, heffect₁, hsteps'⟩, rfl⟩

/-- The partitions that are not of the user storage, by their numbers. -/
def others (table : List Partition) : List Partition := table.filter fun p => p.num ∉ userNums

/-- No command about the user storage touches another partition. By the effects that are documented:
a deletion takes the partition of its number, a new partition has its number, and a name is given to
the partition of the number. -/
theorem Sgdisk.Effect.others (h : change.Effect alignment table table')
    (hnum : change.num ∈ userNums) :
    Releasetools.others table' = Releasetools.others table := by
  cases h with
  -- the partitions in question have other numbers than the one deleted
  | @delete num _ =>
    rw [Releasetools.others, List.filter_filter]
    refine List.filter_congr fun p _ => ?_
    by_cases hp : p.num ∈ userNums
    · simp [hp]
    · have hne : p.num ≠ num := fun heq => hp (heq ▸ hnum)
      simp [hp, hne]
  -- the new partition is one of the two
  | @new num _ _ _ _ _ _ _ _ =>
    have hnew : num ∈ userNums := hnum
    rw [Releasetools.others, List.filter_append]
    simp [hnew, Releasetools.others]
  | @changeName num _ _ =>
    have hnew : num ∈ userNums := hnum
    -- on the table: a partition that is renamed is one of the two before and after
    induction table with
    | nil => rfl
    | cons p table ih =>
      simp only [Releasetools.others, List.map_cons] at ih ⊢
      by_cases hp : p.num = num
      · simpa [hp, hnew] using ih
      · rw [if_neg hp, List.filter_cons, List.filter_cons, ih]

theorem others_of_effects (h : Steps (Sgdisk.Effect alignment) chain table table')
    (hchain : ∀ change ∈ chain, change.num ∈ userNums) : others table' = others table := by
  induction chain generalizing table with
  | nil =>
    obtain rfl : table' = table := h
    rfl
  | cons change chain ih =>
    obtain ⟨next, heffect, hsteps⟩ := h
    calc others table' = others next := ih hsteps fun c hc => hchain c (List.mem_cons_of_mem _ hc)
      _ = others table := heffect.others (hchain change List.mem_cons_self)

end Tables

/-! ### The layouts -/

/-- UserData and the SDCard, divided at some sector, or UserData alone. -/
inductive Layout
  | split (dataStop sdcardStart : ℕ)
  | unified

/-- The partitions of the user storage from the sector `first` to the sector `last`: UserData and
the SDCard, or UserData alone. -/
def Layout.users (first last : ℕ) : Layout → List Partition
  | .split dataStop sdcardStart =>
    [⟨partDataNum, first, dataStop, .userdata⟩, ⟨partSdcardNum, sdcardStart, last, .sdcard⟩]
  | .unified => [⟨partDataNum, first, last, .userdata⟩]

/-- The SDCard is after UserData, and ends where the user storage ends. -/
def Layout.Proper (last : ℕ) : Layout → Prop
  | .split dataStop sdcardStart => dataStop < sdcardStart ∧ sdcardStart ≤ last
  | .unified => True

/-- A partition that is none of the user storage, by its number and by its name. The scripts look
for partitions by either. -/
def Partition.IsOther (p : Partition) : Prop :=
  p.num ∉ userNums ∧ p.name ≠ .userdata ∧ p.name ≠ .sdcard

/-- What `restore_sdcard` makes. Where the SDCard starts depends on the alignment. -/
def restored (sdcardStart : ℕ) : Layout := .split partDataEnd sdcardStart

section Layouts

variable {table table' rest : List Partition} {first last : ℕ} {layout start : Layout}

theorem starts_perm (h : table.Perm table') (name : PartName) :
    (starts table name).Perm (starts table' name) :=
  (h.filter _).map _

theorem stops_perm (h : table.Perm table') (name : PartName) :
    (stops table name).Perm (stops table' name) :=
  (h.filter _).map _

variable (hrest : ∀ p ∈ rest, p.IsOther)
include hrest

/-- The other partitions have other names. -/
theorem filter_name {users : List Partition} {name : PartName}
    (hname : name = .userdata ∨ name = .sdcard) :
    (rest ++ users).filter (fun p => p.name = name) = users.filter fun p => p.name = name := by
  have hnone : rest.filter (fun p => p.name = name) = [] := by
    refine List.filter_eq_nil_iff.mpr fun p hp => ?_
    rw [decide_eq_true_eq]
    obtain rfl | rfl := hname
    · exact (hrest p hp).2.1
    · exact (hrest p hp).2.2
  rw [List.filter_append, hnone, List.nil_append]

theorem starts_userdata (h : table.Perm (rest ++ layout.users first last)) :
    starts table .userdata = [first] := by
  have hperm := starts_perm h .userdata
  rw [starts, starts, filter_name hrest (.inl rfl)] at hperm
  cases layout with
  | split a b => exact List.perm_singleton.mp hperm
  | unified => exact List.perm_singleton.mp hperm

theorem stops_sdcard_split {a b : ℕ}
    (h : table.Perm (rest ++ (Layout.split a b).users first last)) :
    stops table .sdcard = [last] := by
  have hperm := stops_perm h .sdcard
  rw [stops, stops, filter_name hrest (.inr rfl)] at hperm
  exact List.perm_singleton.mp hperm

theorem stops_unified (h : table.Perm (rest ++ Layout.unified.users first last)) :
    stops table .sdcard = [] ∧ stops table .userdata = [last] := by
  have hsdcard := stops_perm h .sdcard
  have hdata := stops_perm h .userdata
  rw [stops, stops, filter_name hrest (.inr rfl)] at hsdcard
  rw [stops, stops, filter_name hrest (.inl rfl)] at hdata
  exact ⟨List.perm_nil.mp hsdcard, List.perm_singleton.mp hdata⟩

/-- The plans for a divided user storage. -/
theorem plan_split {a b : ℕ} (h : table.Perm (rest ++ (Layout.split a b).users first last))
    (script : ScriptName) :
    plan table script = [] ∨
      script = .unifyUserdata ∧ plan table script = unifyChain first last := by
  cases script with
  | unifyUserdata =>
    rw [plan, starts_userdata hrest h, stops_sdcard_split hrest h]
    split
    · exact .inr ⟨rfl, rfl⟩
    · exact .inl rfl
  | restoreSdcard =>
    -- the SDCard is there
    have hsdcard : (table.any fun p => p.name = .sdcard) = true := by
      rw [List.any_eq_true]
      refine ⟨⟨partSdcardNum, b, last, .sdcard⟩, h.mem_iff.mpr ?_, decide_eq_true rfl⟩
      exact List.mem_append_right _ (List.mem_cons_of_mem _ List.mem_cons_self)
    refine .inl ?_
    rw [plan, hsdcard, if_neg fun hand => absurd hand.1 Bool.false_ne_true.symm]

/-- The plans for a unified user storage. -/
theorem plan_unified (h : table.Perm (rest ++ Layout.unified.users first last))
    (script : ScriptName) :
    plan table script = [] ∨ script = .restoreSdcard ∧ (first < partDataEnd ∧ partDataEnd < last) ∧
      plan table script = restoreChain first last := by
  cases script with
  | unifyUserdata =>
    refine .inl ?_
    rw [plan, (stops_unified hrest h).1, starts_userdata hrest h]
    rfl
  | restoreSdcard =>
    rw [plan, starts_userdata hrest h, (stops_unified hrest h).2]
    split
    · next hand =>
      exact .inr ⟨rfl, ⟨of_decide_eq_true hand.2.1, of_decide_eq_true hand.2.2⟩, rfl⟩
    · exact .inl rfl

end Layouts

/-! ### The sectors of the user storage -/

/-- UserData starts at `first`, the SDCard does not start before it, and neither goes beyond `last`.
No other partition has one of the two names. -/
structure Within (first last : ℕ) (table : List Partition) : Prop where
  data : ∀ p ∈ table, p.num = partDataNum → p.start = first ∧ p.stop ≤ last
  sdcard : ∀ p ∈ table, p.num = partSdcardNum → first ≤ p.start ∧ p.stop ≤ last
  dataName : ∀ p ∈ table, p.name = .userdata → p.num = partDataNum
  sdcardName : ∀ p ∈ table, p.name = .sdcard → p.num = partSdcardNum

/-- A command that keeps the user storage within its sectors by itself: a new partition starts where
UserData did, and the names are those that belong to the numbers. -/
def Sgdisk.Fits (first last : ℕ) : Sgdisk → Prop
  | .delete _ => True
  | .new num start stop => num = partDataNum ∧ start = first ∧ stop ≤ last
  | .changeName num name =>
    (num = partDataNum ∧ name = .userdata) ∨ (num = partSdcardNum ∧ name = .sdcard)

section Within

variable {tool : SgdiskTool} {alignment first last : ℕ} {table table' : List Partition}
  {change : Sgdisk} {chain : List Sgdisk} {name : PartName}

theorem Within.perm (h : Within first last table) (hperm : table'.Perm table) :
    Within first last table' where
  data p hp := h.data p (hperm.mem_iff.mp hp)
  sdcard p hp := h.sdcard p (hperm.mem_iff.mp hp)
  dataName p hp := h.dataName p (hperm.mem_iff.mp hp)
  sdcardName p hp := h.sdcardName p (hperm.mem_iff.mp hp)

/-- One partition more, without a name of the user storage. -/
theorem Within.append {p : Partition} (h : Within first last table)
    (hdata : p.num = partDataNum → p.start = first ∧ p.stop ≤ last)
    (hsdcard : p.num = partSdcardNum → first ≤ p.start ∧ p.stop ≤ last)
    (hname : p.name ≠ .userdata ∧ p.name ≠ .sdcard) : Within first last (table ++ [p]) := by
  have hmem : ∀ q ∈ table ++ [p], q ∈ table ∨ q = p := fun q hq =>
    (List.mem_append.mp hq).imp_right List.mem_singleton.mp
  constructor
  · -- the partitions that were there keep their places, the new one is where it was put
    intro q hq
    obtain hq | rfl := hmem q hq
    · exact h.data q hq
    · exact hdata
  · intro q hq
    obtain hq | rfl := hmem q hq
    · exact h.sdcard q hq
    · exact hsdcard
  · -- it has no name yet
    intro q hq
    obtain hq | rfl := hmem q hq
    · exact h.dataName q hq
    · exact fun heq => absurd heq hname.1
  · intro q hq
    obtain hq | rfl := hmem q hq
    · exact h.sdcardName q hq
    · exact fun heq => absurd heq hname.2

/-- A partition gets the name of its number. Its sectors and its number are those of before, so
whatever bounds them still holds. -/
theorem Within.rename {num : ℕ} (h : Within first last table)
    (hname : (num = partDataNum ∧ name = .userdata) ∨ (num = partSdcardNum ∧ name = .sdcard)) :
    Within first last (table.map fun p => if p.num = num then { p with name } else p) := by
  -- a partition of the new table has the number and the sectors of one of the old table
  have hmem : ∀ q ∈ table.map fun p => if p.num = num then { p with name } else p,
      ∃ p ∈ table, q.num = p.num ∧ q.start = p.start ∧ q.stop = p.stop ∧
        (q.name = p.name ∨ q.num = num ∧ q.name = name) := by
    intro q hq
    obtain ⟨p, hp, rfl⟩ := List.mem_map.mp hq
    refine ⟨p, hp, ?_⟩
    by_cases hnum : p.num = num
    · rw [if_pos hnum]
      exact ⟨rfl, rfl, rfl, .inr ⟨hnum, rfl⟩⟩
    · rw [if_neg hnum]
      exact ⟨rfl, rfl, rfl, .inl rfl⟩
  -- sectors and numbers are those of the old table, so what bounds them still holds
  constructor
  · intro q hq hnum
    obtain ⟨p, hp, heq, hstart, hstop, -⟩ := hmem q hq
    rw [hstart, hstop]
    exact h.data p hp (heq.symm.trans hnum)
  · intro q hq hnum
    obtain ⟨p, hp, heq, hstart, hstop, -⟩ := hmem q hq
    rw [hstart, hstop]
    exact h.sdcard p hp (heq.symm.trans hnum)
  · -- a partition called userdata had the name before or was given it by its number
    intro q hq hdata
    obtain ⟨p, hp, heq, -, -, hold | ⟨hnum, hnew⟩⟩ := hmem q hq
    · exact heq.trans (h.dataName p hp (hold.symm.trans hdata))
    · obtain ⟨rfl, -⟩ | ⟨-, rfl⟩ := hname
      · exact hnum
      · exact nomatch hnew.symm.trans hdata
  · -- and likewise for sdcard
    intro q hq hsdcard
    obtain ⟨p, hp, heq, -, -, hold | ⟨hnum, hnew⟩⟩ := hmem q hq
    · exact heq.trans (h.sdcardName p hp (hold.symm.trans hsdcard))
    · obtain ⟨-, rfl⟩ | ⟨rfl, -⟩ := hname
      · exact nomatch hnew.symm.trans hsdcard
      · exact hnum

/-- One command keeps the user storage within its sectors, if what it asks for fits there. -/
theorem Within.effect (hfirst : alignment ∣ first) (h : Within first last table)
    (hfits : change.Fits first last) (heffect : change.Effect alignment table table') :
    Within first last table' := by
  cases change with
  -- what is left was there before
  | delete num =>
    obtain rfl := heffect.delete_eq
    have hmem : ∀ p ∈ table.filter fun p => p.num ≠ num, p ∈ table :=
      fun p hp => List.mem_of_mem_filter hp
    exact ⟨fun p hp => h.data p (hmem p hp), fun p hp => h.sdcard p (hmem p hp),
      fun p hp => h.dataName p (hmem p hp), fun p hp => h.sdcardName p (hmem p hp)⟩
  -- the new UserData starts at an aligned sector, so where it was put
  | new num start stop =>
    obtain ⟨rfl, rfl, hstop⟩ := hfits
    obtain ⟨aligned, name, haligned, -, -, rfl⟩ := heffect.new_eq
    have hne : partDataNum ≠ partSdcardNum := by decide
    exact h.append (fun _ => ⟨haligned hfirst, hstop⟩) (fun heq => absurd heq hne)
      ⟨nofun, nofun⟩
  -- a name is given to the number it belongs to
  | changeName num name =>
    obtain rfl := heffect.changeName_eq
    exact h.rename hfits

theorem Within.effects (hfirst : alignment ∣ first) (h : Within first last table)
    (hfits : ∀ change ∈ chain, change.Fits first last)
    (heffects : Steps (Sgdisk.Effect alignment) chain table table') :
    Within first last table' := by
  induction chain generalizing table with
  | nil =>
    obtain rfl : table' = table := heffects
    exact h
  | cons change chain ih =>
    obtain ⟨next, heffect, hrest⟩ := heffects
    exact ih (h.effect hfirst (hfits change List.mem_cons_self) heffect)
      (fun c hc => hfits c (List.mem_cons_of_mem _ hc)) hrest

theorem lessThan_eq_true {before behind : List ℕ} (h : lessThan before behind = true) :
    ∃ a b, before = [a] ∧ behind = [b] ∧ a < b := by
  match before, behind, h with
  | [a], [b], h => exact ⟨a, b, rfl, rfl, of_decide_eq_true h⟩

theorem Within.starts_userdata (h : Within first last table) {a : ℕ}
    (hstarts : starts table .userdata = [a]) : a = first := by
  have hmem : a ∈ starts table .userdata := hstarts ▸ List.mem_cons_self
  obtain ⟨p, hp, rfl⟩ := List.mem_map.mp hmem
  obtain ⟨hp, hname⟩ := List.mem_filter.mp hp
  exact (h.data p hp (h.dataName p hp (of_decide_eq_true hname))).1

theorem Within.stops_le (h : Within first last table) (hname : name = .userdata ∨ name = .sdcard)
    {b : ℕ} (hstops : stops table name = [b]) : b ≤ last := by
  have hmem : b ∈ stops table name := hstops ▸ List.mem_cons_self
  obtain ⟨p, hp, rfl⟩ := List.mem_map.mp hmem
  obtain ⟨hmem, hfound⟩ := List.mem_filter.mp hp
  have hpname : p.name = name := of_decide_eq_true hfound
  obtain hdata | hsdcard := hname
  · exact (h.data p hmem (h.dataName p hmem (hpname.trans hdata))).2
  · exact (h.sdcard p hmem (h.sdcardName p hmem (hpname.trans hsdcard))).2

/-- A part of the chain of `restore_sdcard`. By how far the chain came: the new UserData ends at a
fixed sector, and the SDCard starts behind it, where the sectors are free, and ends where the old
UserData did. -/
theorem Within.restore (hfirst : alignment ∣ first) (h : Within first last table) {stop k : ℕ}
    (hbefore : first < partDataEnd) (hbehind : partDataEnd < stop) (hstop : stop ≤ last)
    (heffects : Steps (Sgdisk.Effect alignment) ((restoreChain first stop).take k) table table') :
    Within first last table' := by
  -- the new UserData ends at a fixed sector, and the SDCard where the old UserData did
  have hle : partDataEnd ≤ last := Nat.le_trans (Nat.le_of_lt hbehind) hstop
  have hdelete : (Sgdisk.delete partDataNum).Fits first last := trivial
  have hnew : (Sgdisk.new partDataNum first partDataEnd).Fits first last := ⟨rfl, rfl, hle⟩
  -- by how far the chain came: the first two commands need no more than their bounds
  obtain _ | _ | _ | k := k
  · exact h.effects hfirst (List.forall_mem_nil _) heffects
  · exact h.effects hfirst (List.forall_mem_singleton.mpr hdelete) heffects
  · exact h.effects hfirst (List.forall_mem_cons.mpr ⟨hdelete, List.forall_mem_singleton.mpr hnew⟩)
      heffects
  · -- from the third on the SDCard is there, whose start is chosen by the tool
    obtain ⟨_, hdeleted, _, hdata, _, hsdcard, hnames⟩ := heffects
    have hwithin := (h.effect hfirst hdelete hdeleted).effect hfirst hnew hdata
    obtain ⟨aligned, name, haligned, -, -, rfl⟩ := hdata.new_eq
    obtain rfl := (haligned hfirst).symm
    obtain ⟨sdcardStart, name', -, -, hfree, rfl⟩ := hsdcard.new_eq
    -- the sectors of the new UserData are not free, so the SDCard starts behind them
    obtain ⟨-, hdisjoint⟩ := hfree _ (List.mem_append_right _ List.mem_cons_self)
    have hstart : partDataEnd < sdcardStart := hdisjoint.resolve_right fun hlast =>
      Nat.lt_asymm hlast (Nat.lt_trans hbefore hbehind)
    have hne : partSdcardNum ≠ partDataNum := by decide
    have hsdcardStart : first ≤ sdcardStart := Nat.le_of_lt (Nat.lt_trans hbefore hstart)
    have hboth := @Within.append _ _ _ ⟨partSdcardNum, sdcardStart, stop, .other name'⟩ hwithin
      (fun heq => absurd heq hne) (fun _ => ⟨hsdcardStart, hstop⟩) ⟨nofun, nofun⟩
    -- what remains is to give the names
    refine hboth.effects hfirst ?_ hnames
    intro change hchange
    have hmem := List.mem_of_mem_take hchange
    simp only [List.mem_cons, List.not_mem_nil, or_false] at hmem
    obtain rfl | rfl := hmem
    · exact .inl ⟨rfl, rfl⟩
    · exact .inr ⟨rfl, rfl⟩

/-- **A run keeps the user storage within its sectors**, wherever its chain stops. The commands that
succeeded have the effects that are documented, and the order of the partitions in the table does
not matter to them. -/
theorem Within.afterChain (htool : tool.Documented alignment) (hfirst : alignment ∣ first)
    (h : Within first last table) {script : ScriptName} {k : ℕ}
    (hsteps : Steps tool.Succeeds ((plan table script).take k) table table') :
    Within first last table' := by
  -- the order of the table does not matter, so the effects are enough
  obtain ⟨changed, heffects, hperm⟩ := effects_of_succeeds htool hsteps (.refl table)
  refine Within.perm ?_ hperm
  cases script with
  | unifyUserdata =>
    rw [plan] at heffects
    split at heffects
    · -- the whole chain: the sdcard and userdata go, and userdata comes back over both
      next hless =>
      obtain ⟨a, b, hstarts, hstops, -⟩ := lessThan_eq_true hless
      obtain rfl := h.starts_userdata hstarts
      rw [hstarts, hstops] at heffects
      refine h.effects hfirst (fun change hchange => ?_) heffects
      have hmem := List.mem_of_mem_take hchange
      simp only [unifyChain, List.head!, List.mem_cons, List.not_mem_nil, or_false] at hmem
      obtain rfl | rfl | rfl | rfl := hmem
      · trivial
      · trivial
      · exact ⟨rfl, rfl, h.stops_le (.inr rfl) hstops⟩
      · exact .inl ⟨rfl, rfl⟩
    · -- the script found nothing to do
      rw [List.take_nil] at heffects
      exact h.effects hfirst (List.forall_mem_nil _) heffects
  | restoreSdcard =>
    rw [plan] at heffects
    split at heffects
    · -- userdata is cut at the fixed sector, and the sdcard fills the rest
      next hless =>
      obtain ⟨-, hbefore, hbehind⟩ := hless
      obtain ⟨a, c, hstarts, hc, hbefore⟩ := lessThan_eq_true hbefore
      obtain ⟨d, b, hd, hstops, hbehind⟩ := lessThan_eq_true hbehind
      obtain rfl := (List.cons.inj hc).1
      obtain rfl := (List.cons.inj hd).1
      obtain rfl := h.starts_userdata hstarts
      rw [hstarts, hstops] at heffects
      exact h.restore hfirst hbefore hbehind (h.stops_le (.inl rfl) hstops) heffects
    · rw [List.take_nil] at heffects
      exact h.effects hfirst (List.forall_mem_nil _) heffects

end Within

/-! ### Intact user storage -/

/-- The user storage goes from `first` to `last`, under its names, and it is divided as at the
start, as `restore_sdcard` does it, or not at all. -/
def Intact (rest : List Partition) (first last : ℕ) (start : Layout) (table : List Partition) :
    Prop :=
  ∃ layout : Layout, layout.Proper last ∧
    (layout = start ∨ layout = .unified ∨ ∃ sdcardStart, layout = restored sdcardStart) ∧
    table.Perm (rest ++ layout.users first last)

section Intact

variable {tool : SgdiskTool} {alignment : ℕ} {table table' rest users users' : List Partition}
  {first last : ℕ} {start : Layout} {chain : List Sgdisk}

/-- A part of a chain, up to the order of the partitions. -/
theorem effects_take (htool : tool.Documented alignment) (hrest : ∀ p ∈ rest, p.IsOther)
    (hperm : table.Perm (rest ++ users)) (hchain : ∀ change ∈ chain, change.num ∈ userNums) {k : ℕ}
    (h : Steps tool.Succeeds (chain.take k) table table') :
    ∃ users', Steps (Sgdisk.Effect alignment) (chain.take k) users users' ∧
      table'.Perm (rest ++ users') := by
  obtain ⟨changed, hsteps, hchanged⟩ := effects_of_succeeds htool h hperm
  obtain ⟨users', hsteps', rfl⟩ := effects_of_append (fun p hp => (hrest p hp).1)
    (fun change hc => hchain change (List.mem_of_mem_take hc)) hsteps
  exact ⟨users', hsteps', hchanged⟩

/-- A chain has stopped between two commands: no partition is the SDCard, and UserData, if it is
there, ends at the sector `bound` or before it. -/
def Torn (bound : ℕ) (users : List Partition) : Prop :=
  ∀ p ∈ users, p.name ≠ .sdcard ∧ (p.name = .userdata → p.stop ≤ bound)

theorem Torn.nil {bound : ℕ} : Torn bound [] := fun _ hp => absurd hp List.not_mem_nil

theorem Torn.cons {bound : ℕ} {p : Partition} (hsdcard : p.name ≠ .sdcard)
    (hdata : p.name = .userdata → p.stop ≤ bound) (h : Torn bound users) :
    Torn bound (p :: users) :=
  List.forall_mem_cons.mpr ⟨⟨hsdcard, hdata⟩, h⟩

/-- `unify_userdata` between two commands. -/
theorem torn_unify {a b k : ℕ} (hpos : 0 < k) (hk : k < (unifyChain first last).length)
    (h : Steps (Sgdisk.Effect alignment) ((unifyChain first last).take k)
      ((Layout.split a b).users first last) users') :
    Torn a users' := by
  obtain _ | _ | _ | _ | k := k
  · exact absurd hpos (Nat.lt_irrefl 0)
  · -- the SDCard is gone
    obtain ⟨_, hsdcard, rfl⟩ := h
    obtain rfl := hsdcard.delete_eq
    exact .cons nofun (fun _ => Nat.le_refl a) .nil
  · -- and UserData
    obtain ⟨_, hsdcard, _, hdata, rfl⟩ := h
    obtain rfl := hsdcard.delete_eq
    obtain rfl := hdata.delete_eq
    exact .nil
  · -- the new UserData has no name yet
    obtain ⟨_, hsdcard, _, hdata, _, hnew, rfl⟩ := h
    obtain rfl := hsdcard.delete_eq
    obtain rfl := hdata.delete_eq
    obtain ⟨aligned, name, -, -, -, rfl⟩ := hnew.new_eq
    exact .cons nofun nofun .nil
  · -- with all four the chain was complete
    exact absurd hk (Nat.not_lt.mpr (Nat.le_add_left 4 k))

/-- `unify_userdata` at its end. -/
theorem users_unify {a b : ℕ} (hfirst : alignment ∣ first)
    (h : Steps (Sgdisk.Effect alignment) (unifyChain first last)
      ((Layout.split a b).users first last) users') :
    users' = Layout.unified.users first last := by
  obtain ⟨_, hsdcard, _, hdata, _, hnew, _, hname, rfl⟩ := h
  obtain rfl := hsdcard.delete_eq
  obtain rfl := hdata.delete_eq
  obtain ⟨aligned, name, haligned, -, -, rfl⟩ := hnew.new_eq
  rw [hname.changeName_eq, haligned hfirst]
  rfl

/-- `restore_sdcard` between two commands: UserData is missing, or is back without a name, or only
the SDCard has no name yet. The names are given last. -/
theorem torn_restore {k : ℕ} (hpos : 0 < k) (hk : k < (restoreChain first last).length)
    (h : Steps (Sgdisk.Effect alignment) ((restoreChain first last).take k)
      (Layout.unified.users first last) users') :
    Torn partDataEnd users' := by
  obtain _ | _ | _ | _ | _ | k := k
  · -- no command: nothing is torn
    exact absurd hpos (Nat.lt_irrefl 0)
  · -- UserData is gone, and there never was an SDCard
    obtain ⟨_, hdata, rfl⟩ := h
    obtain rfl := hdata.delete_eq
    exact .nil
  · -- UserData is back without a name
    obtain ⟨_, hdata, _, hnewData, rfl⟩ := h
    obtain rfl := hdata.delete_eq
    obtain ⟨aligned, name, -, -, -, rfl⟩ := hnewData.new_eq
    exact .cons nofun nofun .nil
  · -- both are there, and neither has a name
    obtain ⟨_, hdata, _, hnewData, _, hnewSdcard, rfl⟩ := h
    obtain rfl := hdata.delete_eq
    obtain ⟨aligned, name, -, -, -, rfl⟩ := hnewData.new_eq
    obtain ⟨aligned', name', -, -, -, rfl⟩ := hnewSdcard.new_eq
    exact .cons nofun nofun (.cons nofun nofun .nil)
  · -- only the SDCard has no name yet
    obtain ⟨_, hdata, _, hnewData, _, hnewSdcard, _, hname, rfl⟩ := h
    obtain rfl := hdata.delete_eq
    obtain ⟨aligned, name, -, -, -, rfl⟩ := hnewData.new_eq
    obtain ⟨aligned', name', -, -, -, rfl⟩ := hnewSdcard.new_eq
    obtain rfl := hname.changeName_eq
    exact .cons nofun (fun _ => Nat.le_refl _) (.cons nofun nofun .nil)
  · -- with all five the chain was complete
    exact absurd hk (Nat.not_lt.mpr (Nat.le_add_left 5 k))

/-- `restore_sdcard` at its end. The SDCard is in free sectors, so it starts behind UserData. -/
theorem users_restore (hfirst : alignment ∣ first) (hbefore : first < partDataEnd)
    (hbehind : partDataEnd < last)
    (h : Steps (Sgdisk.Effect alignment) (restoreChain first last)
      (Layout.unified.users first last) users') :
    ∃ sdcardStart, (restored sdcardStart).Proper last ∧
      users' = (restored sdcardStart).users first last := by
  obtain ⟨_, hdata, _, hnewData, _, hnewSdcard, _, hdataName, _, hsdcardName, rfl⟩ := h
  obtain rfl := hdata.delete_eq
  obtain ⟨aligned, name, haligned, -, -, rfl⟩ := hnewData.new_eq
  obtain ⟨sdcardStart, name', -, hle, hfree, rfl⟩ := hnewSdcard.new_eq
  obtain rfl := haligned hfirst
  obtain ⟨-, hdisjoint⟩ := hfree _ List.mem_cons_self
  refine ⟨sdcardStart, ⟨hdisjoint.resolve_right fun hlast => ?_, hle⟩, ?_⟩
  · exact Nat.lt_asymm hlast (Nat.lt_trans hbefore hbehind)
  · rw [hsdcardName.changeName_eq, hdataName.changeName_eq]
    rfl

/-- A torn user storage has no SDCard and no UserData up to the last sector. -/
theorem Torn.not_intact {bound : ℕ} (htorn : Torn bound users) (hbound : bound < last)
    (h : table.Perm (rest ++ users)) : ¬ Intact rest first last start table := by
  rintro ⟨layout, -, -, hlayout⟩
  have husers := (List.perm_append_left_iff rest).mp (h.symm.trans hlayout)
  cases layout with
  | split a b =>
    have hmem : (⟨partSdcardNum, b, last, .sdcard⟩ : Partition) ∈ users :=
      husers.mem_iff.mpr (List.mem_cons_of_mem _ List.mem_cons_self)
    exact (htorn _ hmem).1 rfl
  | unified =>
    have hmem : (⟨partDataNum, first, last, .userdata⟩ : Partition) ∈ users :=
      husers.mem_iff.mpr List.mem_cons_self
    exact Nat.not_lt.mpr ((htorn _ hmem).2 rfl) hbound

/-- No script does anything about a torn user storage. The unify script finds no partition with the
name sdcard, and the restore script no UserData that goes beyond the place of the SDCard. -/
theorem Torn.plan_nil {bound : ℕ} (htorn : Torn bound users) (hbound : bound ≤ partDataEnd)
    (hrest : ∀ p ∈ rest, p.IsOther) (h : table.Perm (rest ++ users)) (script : ScriptName) :
    plan table script = [] := by
  cases script with
  -- no partition is called sdcard, so the unify script has nothing to unify
  | unifyUserdata =>
    have hnone : stops table .sdcard = [] := by
      have hperm := stops_perm h .sdcard
      rw [stops, stops, filter_name hrest (.inr rfl)] at hperm
      have hfilter : users.filter (fun p => p.name = .sdcard) = [] :=
        List.filter_eq_nil_iff.mpr fun p hp heq => (htorn p hp).1 (of_decide_eq_true heq)
      rw [hfilter] at hperm
      exact List.perm_nil.mp hperm
    -- a comparison with no number at all is false
    have hless : lessThan (starts table .userdata) [] = false := by
      cases starts table .userdata with
      | nil => rfl
      | cons _ tail => cases tail <;> rfl
    rw [plan, hnone, hless, if_neg Bool.false_ne_true]
  | restoreSdcard =>
    -- UserData does not go beyond the place of the SDCard
    have hless : lessThan [partDataEnd] (stops table .userdata) = false := by
      have hstops : ∀ stop ∈ stops table .userdata, stop ≤ partDataEnd := by
        intro stop hstop
        have hperm := stops_perm h .userdata
        rw [stops, stops, filter_name hrest (.inl rfl)] at hperm
        obtain ⟨p, hp, rfl⟩ := List.mem_map.mp (hperm.mem_iff.mp hstop)
        obtain ⟨hp, hname⟩ := List.mem_filter.mp hp
        exact Nat.le_trans ((htorn p hp).2 (of_decide_eq_true hname)) hbound
      -- no UserData, one of them, or several: the comparison is false in each case
      match hfound : stops table .userdata with
      | [] => rfl
      | [stop] =>
        have hle : stop ≤ partDataEnd := hstops stop (by rw [hfound]; exact List.mem_cons_self)
        exact decide_eq_false (Nat.not_lt.mpr hle)
      | _ :: _ :: _ => rfl
    rw [plan, hless, if_neg fun hand => Bool.false_ne_true hand.2.2]

/-- A chain that has run to its end leaves the user storage intact, one that has stopped after some
commands leaves it torn. -/
theorem Intact.afterChain (htool : tool.Documented alignment) (hfirst : alignment ∣ first)
    (hrest : ∀ p ∈ rest, p.IsOther) (h : Intact rest first last start table) {script : ScriptName}
    {k : ℕ} (hk : k ≤ (plan table script).length)
    (hsteps : Steps tool.Succeeds ((plan table script).take k) table table') :
    Intact rest first last start table' ∧ (k = 0 ∨ k = (plan table script).length) ∨
      (0 < k ∧ k < (plan table script).length) ∧ ∃ bound users', bound < last ∧
        (bound = partDataEnd ∨ ∃ b, start = .split bound b) ∧ Torn bound users' ∧
        table'.Perm (rest ++ users') := by
  -- no command succeeded, so the table is the same
  obtain rfl | hpos := Nat.eq_zero_or_pos k
  · obtain rfl : table' = table := hsteps
    exact .inl ⟨h, .inl rfl⟩
  -- the partitions of the user storage change, the others are where they were
  obtain ⟨layout, hproper, hlayout, hperm⟩ := h
  have hnums : ∀ change ∈ plan table script, change.num ∈ userNums := plan_userNums
  obtain ⟨users', heffects, hperm'⟩ := effects_take htool hrest hperm hnums hsteps
  cases layout with
  -- two partitions: only the unify script does something
  | split a b =>
    obtain hnil | ⟨-, hchain⟩ := plan_split hrest hperm script
    · -- the script has nothing to do
      rw [hnil] at hk
      exact absurd hk (Nat.not_le.mpr hpos)
    · rw [hchain] at hk heffects ⊢
      obtain rfl | hlt := Nat.eq_or_lt_of_le hk
      · -- it ran to its end: the unified layout
        rw [List.take_length] at heffects
        obtain rfl := users_unify hfirst heffects
        exact .inl ⟨⟨.unified, trivial, .inr (.inl rfl), hperm'⟩, .inr rfl⟩
      · -- it stopped in between
        refine .inr ⟨⟨hpos, hlt⟩, a, users', Nat.lt_of_lt_of_le hproper.1 hproper.2, ?_,
          torn_unify hpos hlt heffects, hperm'⟩
        -- the split layout was the first one, or one that the restore script made
        obtain rfl | hunified | ⟨c, hrestored⟩ := hlayout
        · exact .inr ⟨b, rfl⟩
        · exact nomatch hunified
        · cases hrestored
          exact .inl rfl
  -- one partition: only the restore script does something
  | unified =>
    obtain hnil | ⟨-, ⟨hbefore, hbehind⟩, hchain⟩ := plan_unified hrest hperm script
    · rw [hnil] at hk
      exact absurd hk (Nat.not_le.mpr hpos)
    · rw [hchain] at hk heffects ⊢
      obtain rfl | hlt := Nat.eq_or_lt_of_le hk
      · -- it ran to its end: split again, at a sector of the tool's choice
        rw [List.take_length] at heffects
        obtain ⟨sdcardStart, hproper', rfl⟩ := users_restore hfirst hbefore hbehind heffects
        exact .inl ⟨⟨restored sdcardStart, hproper', .inr (.inr ⟨_, rfl⟩), hperm'⟩, .inr rfl⟩
      · -- it stopped in between
        exact .inr ⟨⟨hpos, hlt⟩, partDataEnd, users', hbehind, .inl rfl,
          torn_restore hpos hlt heffects, hperm'⟩

end Intact

/-! ### The sessions -/

/-- The recovery between two runs: the flag files of the session and the partition table. The table
stays when the recovery is booted again, the flag files do not. -/
structure Recovery where
  tmp : Flag → Bool
  table : List Partition

/-- A run of a script, with its commands, or a new session, for which the recovery is booted
again. -/
inductive RecoveryStep
  | run (script : ScriptName) (trace : List Event)
  | reboot

/-- A reboot clears `/tmp`. -/
def Recovery.Step (tool : SgdiskTool) (s : Recovery) : RecoveryStep → Recovery → Prop
  | .run script trace, s' => ∃ code,
      script.main.run.Runs (shell tool) ⟨s.tmp, s.table, []⟩ (.error code) ⟨s'.tmp, s'.table, trace⟩
  | .reboot, s' => s' = { s with tmp := fun _ => false }

/-- The recovery on a device with the partition table `initial`, over any number of sessions and
runs. -/
def recovery (tool : SgdiskTool) (initial : List Partition) : Lts Recovery RecoveryStep where
  init s := s = ⟨fun _ => false, initial⟩
  step := Recovery.Step tool

/-- No `sgdisk` command of the run has failed after another one has succeeded. A chain whose first
command fails has done nothing. -/
def RecoveryStep.Clean : RecoveryStep → Prop
  | .run _ trace => ∀ change, (change, false) ∈ sgdisks trace → sgdisks trace = [(change, false)]
  | .reboot => True

/-! ### Some runs -/

/-- The commands of a run in these surroundings, as the label of a step. -/
def Surroundings.label (w : Surroundings) (script : ScriptName) (s : Recovery) : RecoveryStep :=
  .run script (w.exec script s.tmp s.table).2.trace

def Surroundings.next (w : Surroundings) (script : ScriptName) (s : Recovery) : Recovery :=
  ⟨(w.exec script s.tmp s.table).2.tmp, (w.exec script s.tmp s.table).2.table⟩

theorem Surroundings.next_step {initial : List Partition} (w : Surroundings)
    (script : ScriptName) (s : Recovery) :
    (recovery alignedSgdisk initial).step s (w.label script s) (w.next script s) := by
  have hruns := w.exec_runs script s.tmp s.table
  cases hcode : (w.exec script s.tmp s.table).1 with
  | ok e => nomatch e
  | error code =>
    rw [hcode] at hruns
    exact ⟨code, hruns⟩

/-- UserData and the SDCard are empty, and all commands succeed. -/
def emptyStorages : Surroundings := ⟨['/', 'u', 's', 'b'], true, [], fun _ => false⟩

/-- UserData cannot be deleted. -/
def dataUndeletable : Surroundings :=
  { emptyStorages with sgdiskFails := fun
      | .delete num => num == partDataNum
      | _ => false }

/-- A divided user storage and the partition `cache`. -/
def dividedStorage : Recovery := ⟨fun _ => false, splitSession.table⟩

/-- `unify_userdata` has unified the user storage. -/
def unifiedStorage : Recovery := emptyStorages.next .unifyUserdata dividedStorage

/-- Then the recovery was started again. -/
def unifiedRebooted : Recovery := { unifiedStorage with tmp := fun _ => false }

/-- `restore_sdcard` has divided it again. -/
def restoredStorage : Recovery := emptyStorages.next .restoreSdcard unifiedRebooted

theorem unifiedStorage_reboot :
    (recovery alignedSgdisk splitSession.table).step unifiedStorage .reboot unifiedRebooted := rfl

/-- From the divided user storage to a unified one, and back in the next session. -/
theorem run_restored : (recovery alignedSgdisk splitSession.table).Run dividedStorage
    [(dividedStorage, emptyStorages.label .unifyUserdata dividedStorage), (unifiedStorage, .reboot),
      (unifiedRebooted, emptyStorages.label .restoreSdcard unifiedRebooted)] restoredStorage :=
  .snoc (.snoc (.snoc .nil (emptyStorages.next_step _ dividedStorage)) unifiedStorage_reboot)
    (emptyStorages.next_step _ unifiedRebooted)

/-- The next session tries to unify it once more, and fails at the second command. -/
def restoredRebooted : Recovery := { restoredStorage with tmp := fun _ => false }

def unifyFailed : Recovery := dataUndeletable.next .unifyUserdata restoredRebooted

theorem restoredStorage_reboot :
    (recovery alignedSgdisk splitSession.table).step restoredStorage .reboot restoredRebooted := rfl

theorem run_unifyFailed : (recovery alignedSgdisk splitSession.table).Run dividedStorage
    [(dividedStorage, emptyStorages.label .unifyUserdata dividedStorage), (unifiedStorage, .reboot),
      (unifiedRebooted, emptyStorages.label .restoreSdcard unifiedRebooted),
      (restoredStorage, .reboot),
      (restoredRebooted, dataUndeletable.label .unifyUserdata restoredRebooted)] unifyFailed :=
  .snoc (.snoc run_restored restoredStorage_reboot)
    (dataUndeletable.next_step _ restoredRebooted)

theorem unifyFailed_reachable :
    (recovery alignedSgdisk splitSession.table).Reachable unifyFailed :=
  run_unifyFailed.reachable rfl

section Sessions

variable {tool : SgdiskTool} {alignment : ℕ} {initial rest : List Partition} {first last : ℕ}
  {start : Layout} {s t : Recovery} {l : RecoveryStep}

/-- The failures of a part of a chain. A failed command is the only one exactly if it was the first,
and there is none exactly if the chain ran to its end. -/
theorem ranTo_clean {chain : List Sgdisk} {k : ℕ} (hk : k ≤ chain.length) :
    (∀ change, (change, false) ∈ ranTo chain k → ranTo chain k = [(change, false)]) ↔
      k = 0 ∨ k = chain.length := by
  obtain rfl | hlt := Nat.eq_or_lt_of_le hk
  · -- no command has failed
    refine iff_of_true (fun change h => ?_) (.inr rfl)
    rw [ranTo, List.drop_length, List.take_nil, List.map_nil, List.append_nil] at h
    obtain ⟨_, -, heq⟩ := List.mem_map.mp h
    exact absurd (congrArg Prod.snd heq) Bool.false_ne_true.symm
  · -- the command after the `k` that succeeded has failed
    have hfailed : ((chain.drop k).take 1).map (·, false) = [(chain[k], false)] := by
      rw [List.drop_eq_getElem_cons hlt]
      rfl
    cases k with
    -- the first one failed, so nothing had been changed
    | zero =>
      refine iff_of_true (fun change h => ?_) (.inl rfl)
      rw [ranTo, List.take_zero, List.map_nil, List.nil_append, hfailed] at h ⊢
      rw [List.mem_singleton.mp h]
    -- some were done before it, and then the list of commands has more than that one
    | succ k =>
      refine iff_of_false (fun hclean => ?_) (by omega)
      have hmem : (chain[k + 1], false) ∈ ranTo chain (k + 1) := by
        rw [ranTo, hfailed]
        exact List.mem_append_right _ (List.mem_singleton.mpr rfl)
      have hlength := congrArg List.length (hclean _ hmem)
      rw [ranTo, hfailed, List.length_append, List.length_map, List.length_take,
        Nat.min_eq_left hk] at hlength
      exact absurd hlength (by simp)

/-- What a step does to the table. -/
theorem Recovery.Step.table (htool : tool.Documented alignment) (h : s.Step tool l t) :
    (t.table = s.table ∧ l.Clean) ∨ ∃ script, ∃ k ≤ (plan s.table script).length,
      Steps tool.Succeeds ((plan s.table script).take k) s.table t.table ∧
        (l.Clean ↔ k = 0 ∨ k = (plan s.table script).length) := by
  cases l with
  -- a reboot forgets the flags and keeps the table
  | reboot =>
    obtain rfl : t = { s with tmp := fun _ => false } := h
    exact .inl ⟨rfl, trivial⟩
  | run script trace =>
    obtain ⟨code, hrun⟩ := h
    obtain ⟨htable, hnone⟩ | ⟨k, hk, hsteps, hran⟩ := main_ranTo htool.failed hrun
    · -- no `sgdisk` was run: nothing changed, and nothing failed
      refine .inl ⟨htable, fun change hmem => ?_⟩
      change sgdisks trace = [] at hnone
      rw [hnone] at hmem
      exact absurd hmem List.not_mem_nil
    · -- the chain of the script ran to its `k`-th command
      refine .inr ⟨script, k, hk, hsteps, ?_⟩
      change sgdisks trace = _ at hran
      rw [RecoveryStep.Clean, hran]
      exact ranTo_clean hk

/-- The other partition of the runs above. -/
theorem cache_isOther : ∀ p ∈ [(⟨13, 4096, 6143, .cache⟩ : Partition)], p.IsOther := by
  intro p hp
  obtain rfl := List.mem_singleton.mp hp
  exact ⟨show 13 ∉ userNums by decide, nofun, nofun⟩

theorem dividedLayout_proper : (Layout.split 7360511 7360512).Proper 30777343 :=
  ⟨by decide, by decide⟩

/-- **The sessions keep the other partitions, and the user storage stays in its sectors**, whatever
fails. Every command of the scripts names a partition of the user storage, and no command reaches
out of the sectors that UserData and the SDCard had. -/
theorem others_kept (htool : tool.Documented alignment)
    (h : (recovery tool initial).Reachable s) :
    (others s.table).Perm (others initial) ∧
      ∀ first last, alignment ∣ first → Within first last initial → Within first last s.table := by
  have hinit : ∀ s, (recovery tool initial).init s → (others s.table).Perm (others initial) ∧
      ∀ first last, alignment ∣ first → Within first last initial →
        Within first last s.table := by
    rintro _ rfl
    exact ⟨.refl _, fun _ _ _ h => h⟩
  -- the invariant: the other partitions up to order, and any bounds that held at first
  refine h.invariant hinit ?_
  intro s l t ⟨hothers, hwithin⟩ hstep
  -- a step leaves the table, or runs part of a chain
  obtain ⟨htable, -⟩ | ⟨script, k, -, hsteps, -⟩ := Recovery.Step.table htool hstep
  · rw [htable]
    exact ⟨hothers, hwithin⟩
  · refine ⟨?_, fun first last hfirst hinitial => ?_⟩
    · -- up to the order, the commands have their effects, which are about the user storage
      obtain ⟨changed, heffects, hperm⟩ := effects_of_succeeds htool hsteps (.refl s.table)
      have hsame : others changed = others s.table :=
        others_of_effects heffects fun change hc => plan_userNums change (List.mem_of_mem_take hc)
      have hchanged : (others t.table).Perm (others changed) := hperm.filter _
      rw [hsame] at hchanged
      exact hchanged.trans hothers
    · exact (hwithin first last hfirst hinitial).afterChain htool hfirst hsteps

theorem dividedStorage_within : Within 6144 30777343 splitSession.table := by
  constructor <;> decide

theorem others_kept_failed :
    (others unifyFailed.table).Perm (others splitSession.table) ∧
      Within 6144 30777343 unifyFailed.table := by
  have h := others_kept alignedSgdisk_documented unifyFailed_reachable
  exact ⟨h.1, h.2 6144 30777343 (by decide) dividedStorage_within⟩

/-- A step from an intact user storage. -/
theorem Intact.afterStep (htool : tool.Documented alignment) (hfirst : alignment ∣ first)
    (hrest : ∀ p ∈ rest, p.IsOther) (h : Intact rest first last start s.table)
    (hstep : s.Step tool l t) :
    Intact rest first last start t.table ∧ l.Clean ∨
      ¬ l.Clean ∧ ∃ bound users, bound < last ∧
        (bound = partDataEnd ∨ ∃ b, start = .split bound b) ∧ Torn bound users ∧
        t.table.Perm (rest ++ users) := by
  obtain ⟨htable, hclean⟩ | ⟨script, k, hk, hsteps, hclean⟩ := hstep.table htool
  · refine .inl ⟨?_, hclean⟩
    rwa [htable]
  · obtain ⟨hintact, hend⟩ | ⟨⟨hpos, hlt⟩, htorn⟩ := h.afterChain htool hfirst hrest hk hsteps
    · exact .inl ⟨hintact, hclean.mpr hend⟩
    · refine .inr ⟨fun h => ?_, htorn⟩
      obtain h | h := hclean.mp h
      · exact Nat.ne_of_gt hpos h
      · exact Nat.ne_of_lt hlt h

/-- **Over any number of sessions and runs, the user storage stays intact if and only if in no run a
command fails after another one has succeeded.** The chain of commands is not undone when it breaks
off: UserData is gone then, or without its name, or the SDCard is. -/
theorem layout_intact_iff (htool : tool.Documented alignment) (hfirst : alignment ∣ first)
    (hrest : ∀ p ∈ rest, p.IsOther) (hstart : start.Proper last)
    (hinitial : initial.Perm (rest ++ start.users first last))
    {steps : List (Recovery × RecoveryStep)} (h0 : (recovery tool initial).init s)
    (hrun : (recovery tool initial).Run s steps t) :
    (∀ u ∈ Lts.visited steps t, Intact rest first last start u.table) ↔
      ∀ step ∈ steps, step.2.Clean := by
  have hinit : ∀ s, (recovery tool initial).init s → Intact rest first last start s.table := by
    rintro _ rfl
    exact ⟨start, hstart, .inl rfl, hinitial⟩
  -- a clean step keeps the layout intact
  have hclean : ∀ s l t, Intact rest first last start s.table → (recovery tool initial).step s l t →
      l.Clean → Intact rest first last start t.table := by
    intro s l t h hstep hl
    obtain ⟨hintact, -⟩ | ⟨hnot, -⟩ := h.afterStep htool hfirst hrest hstep
    · exact hintact
    · exact absurd hl hnot
  -- a step with a failed command does not, and nothing after it does
  have hfailed : ∀ s l t, Intact rest first last start s.table →
      (recovery tool initial).step s l t → ¬ l.Clean →
        ¬ Intact rest first last start t.table := by
    intro s l t h hstep hl
    obtain ⟨-, hnot⟩ | ⟨-, bound, users, hbound, -, htorn, hperm⟩ :=
      h.afterStep htool hfirst hrest hstep
    · exact absurd hnot hl
    · exact htorn.not_intact hbound hperm
  -- by induction on the run, in the general form for systems of this kind
  exact Lts.good_iff_ok hinit (fun _ => id) hclean hfailed h0 hrun

theorem layout_intact_iff_failed :
    (∀ u ∈ Lts.visited
        [(dividedStorage, emptyStorages.label .unifyUserdata dividedStorage),
          (unifiedStorage, .reboot),
          (unifiedRebooted, emptyStorages.label .restoreSdcard unifiedRebooted),
          (restoredStorage, .reboot),
          (restoredRebooted, dataUndeletable.label .unifyUserdata restoredRebooted)] unifyFailed,
        Intact [⟨13, 4096, 6143, .cache⟩] 6144 30777343 (.split 7360511 7360512) u.table) ↔
      ∀ step ∈ [(dividedStorage, emptyStorages.label .unifyUserdata dividedStorage),
        (unifiedStorage, .reboot),
        (unifiedRebooted, emptyStorages.label .restoreSdcard unifiedRebooted),
        (restoredStorage, .reboot),
        (restoredRebooted, dataUndeletable.label .unifyUserdata restoredRebooted)], step.2.Clean :=
  layout_intact_iff alignedSgdisk_documented (show 2048 ∣ 6144 by decide) cache_isOther
    dividedLayout_proper (.refl _) rfl run_unifyFailed

/-- A user storage that no script changes any more, beside the other partitions. -/
def Lost (rest table : List Partition) : Prop :=
  ∃ users, Torn partDataEnd users ∧ table.Perm (rest ++ users)

theorem Lost.afterStep (htool : tool.Documented alignment) (hrest : ∀ p ∈ rest, p.IsOther)
    (h : Lost rest s.table) (hstep : s.Step tool l t) : t.table = s.table := by
  obtain ⟨users, htorn, hperm⟩ := h
  obtain ⟨htable, -⟩ | ⟨script, k, -, hsteps, -⟩ := hstep.table htool
  · exact htable
  · rw [htorn.plan_nil (Nat.le_refl _) hrest hperm script, List.take_nil] at hsteps
    exact hsteps

/-- **No session repairs the user storage.** Where UserData ends before the place of the SDCard at
the start, as `restore_sdcard` does it, or there is UserData only, a user storage that is not intact
any more stays as it is. -/
theorem sdcard_space_lost (htool : tool.Documented alignment) (hfirst : alignment ∣ first)
    (hrest : ∀ p ∈ rest, p.IsOther) (hstart : start.Proper last)
    (hdata : ∀ dataStop b, start = .split dataStop b → dataStop ≤ partDataEnd)
    (hinitial : initial.Perm (rest ++ start.users first last))
    (hreach : (recovery tool initial).Reachable s)
    (hlost : ¬ Intact rest first last start s.table)
    {steps : List (Recovery × RecoveryStep)} (hrun : (recovery tool initial).Run s steps t) :
    t.table = s.table := by
  -- a state that is reached is intact or has lost the space
  have hinv : Intact rest first last start s.table ∨ Lost rest s.table := by
    have hinit : ∀ s, (recovery tool initial).init s →
        Intact rest first last start s.table ∨ Lost rest s.table := by
      rintro _ rfl
      exact .inl ⟨start, hstart, .inl rfl, hinitial⟩
    have hstep : ∀ s l t, Intact rest first last start s.table ∨ Lost rest s.table →
        (recovery tool initial).step s l t →
        Intact rest first last start t.table ∨ Lost rest t.table := by
      rintro s l t (h | h) hstep
      · -- from an intact state the chain runs through, or stops in between
        obtain ⟨hintact, -⟩ | ⟨-, bound, users, -, hbound, htorn, hperm⟩ :=
          h.afterStep htool hfirst hrest hstep
        · exact .inl hintact
        · -- the chain has stopped in between
          have hle : bound ≤ partDataEnd := by
            obtain rfl | ⟨b, hsplit⟩ := hbound
            · exact Nat.le_refl _
            · exact hdata bound b hsplit
          refine .inr ⟨users, fun p hp => ⟨(htorn p hp).1, fun hname => ?_⟩, hperm⟩
          exact Nat.le_trans ((htorn p hp).2 hname) hle
      · -- from a lost one no script does anything
        refine .inr ?_
        rwa [h.afterStep htool hrest hstep]
    exact hreach.invariant hinit hstep
  replace hinv : Lost rest s.table := hinv.resolve_left hlost
  -- induction on the run; no step changes what is lost
  induction hrun with
  | nil => rfl
  | @snoc _ t _ _ _ hstep ih =>
    have hlater : Lost rest t.table := by rwa [ih]
    exact (hlater.afterStep htool hrest hstep).trans ih

theorem sdcard_space_lost_restore :
    (emptyStorages.next .restoreSdcard unifyFailed).table = unifyFailed.table := by
  have htorn : Torn 7360511 [⟨14, 6144, 7360511, .userdata⟩] :=
    .cons nofun (fun _ => Nat.le_refl _) .nil
  have hlost : ¬ Intact [⟨13, 4096, 6143, .cache⟩] 6144 30777343 (.split 7360511 7360512)
      unifyFailed.table :=
    htorn.not_intact (show 7360511 < 30777343 by decide) (.refl _)
  refine sdcard_space_lost alignedSgdisk_documented (show 2048 ∣ 6144 by decide) cache_isOther
    dividedLayout_proper ?_ (.refl _) unifyFailed_reachable hlost
    (.snoc .nil (emptyStorages.next_step .restoreSdcard unifyFailed))
  rintro dataStop b heq
  cases heq
  decide

end Sessions

end Releasetools

end BlueCommon
