import BlueCommon.Releasetools.RunEffects

/-!
# Consent to the losses of a session

A recovery session is a sequence of runs of the two scripts. The flag files of a run are there in
the later ones. A flag file stands for the user's consent, but two warnings about one partition
leave the same flag file.

* `consent_before_sgdisk`: a run changes the partitions only after warnings about the losses it
  finds, and at most one run of a session does.
* `warned_of_other_condition`: the warning may have been about the other condition of the partition.
-/

namespace BlueCommon

namespace Releasetools

open Interaction

/-- A run of a script: how it has ended, and its commands with their results, the last one first. -/
structure ScriptRun where
  script : ScriptName
  exit : ExitCode
  trace : List Event

/-- The run has found the condition true. -/
def ScriptRun.Finds (run : ScriptRun) (c : Condition) : Prop := ∃ e ∈ run.trace, finds e = some c

/-- The run has reached its `sgdisk` commands that change the partition table, whether they
succeeded or not. -/
def ScriptRun.reachesSgdisk (run : ScriptRun) : Bool := run.trace.any changes

/-- The run has exited after printing the warning for the condition. -/
def ScriptRun.Warns (run : ScriptRun) (c : Condition) : Prop :=
  run.exit = execFailed ∧ ∃ check ∈ run.script.checks, check.condition = c ∧
    check.announce ++ check.warning <:+ printed run.trace

/-- The state between two runs: the flag files, which are in `/tmp`, and the partition table.
History: the runs, the last one first. -/
structure Session where
  tmp : Flag → Bool
  table : List Partition
  log : List ScriptRun

/-- The sessions: the flag files and the partition table of a run are those of the next one. A
session starts with no flag file, after a boot of the recovery. -/
def session (tool : SgdiskTool) : Lts Session ScriptName where
  init s := (∀ f, s.tmp f = false) ∧ s.log = []
  step s script s' := ∃ code m,
    script.main.run.Runs (shell tool) ⟨s.tmp, s.table, []⟩ (.error code) m ∧
      s' = ⟨m.tmp, m.table, ⟨script, code, m.trace⟩ :: s.log⟩

/-- A run reaches its `sgdisk` commands only if, for each condition that it finds true, an earlier
run has exited after the warning for a condition that stands for it. -/
def WarnedBeforeSgdisk (standsFor : ScriptName → Condition → List Condition) :
    List ScriptRun → Prop
  | [] => True
  | run :: earlier =>
    (run.reachesSgdisk = true → ∀ c, run.Finds c →
      ∃ run' ∈ earlier, ∃ c' ∈ standsFor run.script c, run'.Warns c') ∧
    WarnedBeforeSgdisk standsFor earlier

/-- Each condition stands for itself only. -/
def sameCondition : ScriptName → Condition → List Condition
  | _, c => [c]

/-- The two conditions of the SDCard in `unify_userdata` stand for each other, as do the two of
UserData in `restore_sdcard`. -/
def samePartition : ScriptName → Condition → List Condition
  | .unifyUserdata, .sdcardNotMountable | .unifyUserdata, .sdcardFiles =>
    [.sdcardNotMountable, .sdcardFiles]
  | .restoreSdcard, .dataNotMountable | .restoreSdcard, .dataFiles =>
    [.dataNotMountable, .dataFiles]
  | _, c => [c]

section Sessions

variable {tool : SgdiskTool} {s s' : Session} {script : ScriptName} {code : ExitCode}
  {m m₀ : Machine} {check check' : Check}

/-- Conditions with one flag file stand for each other. -/
theorem samePartition_of_flag (h : check ∈ script.checks) (h' : check' ∈ script.checks)
    (hflag : check'.flag = check.flag) :
    check'.condition ∈ samePartition script check.condition := by
  cases script with
  | unifyUserdata =>
    simp only [ScriptName.checks, List.mem_cons, List.not_mem_nil, or_false] at h h'
    obtain rfl | rfl | rfl | rfl := h <;> obtain rfl | rfl | rfl | rfl := h' <;>
      first | exact absurd hflag (by decide) | decide
  | restoreSdcard =>
    simp only [ScriptName.checks, List.mem_cons, List.not_mem_nil, or_false] at h h'
    obtain rfl | rfl | rfl := h <;> obtain rfl | rfl | rfl := h' <;>
      first | exact absurd hflag (by decide) | decide

/-- Only one of the scripts has something to do. -/
theorem ScriptName.Applies.unique {table : List Partition} {script script' : ScriptName}
    (h : script.Applies table) (h' : script'.Applies table) : script' = script := by
  cases script with
  | unifyUserdata =>
    cases script' with
    | unifyUserdata => rfl
    | restoreSdcard => exact absurd h h'
  | restoreSdcard =>
    cases script' with
    | unifyUserdata => exact absurd h' h
    | restoreSdcard => rfl

theorem flag_ne_partitionsChanged (h : check ∈ script.checks) :
    check.flag ≠ .partitionsChanged := by
  cases script with
  | unifyUserdata =>
    simp only [ScriptName.checks, List.mem_cons, List.not_mem_nil, or_false] at h
    obtain rfl | rfl | rfl | rfl := h <;> decide
  | restoreSdcard =>
    simp only [ScriptName.checks, List.mem_cons, List.not_mem_nil, or_false] at h
    obtain rfl | rfl | rfl := h <;> decide

/-- What holds between the runs: until the partitions are changed, each flag file comes from a
warning of the script that has something to do. -/
structure SessionInv (s : Session) : Prop where
  flags : s.tmp .partitionsChanged = false → ∀ f, s.tmp f = true →
    ∃ run ∈ s.log, ∃ check ∈ run.script.checks, check.flag = f ∧ run.script.Applies s.table ∧
      run.Warns check.condition
  once : (s.log.filter ScriptRun.reachesSgdisk).length ≤ (s.tmp .partitionsChanged).toNat
  asked : WarnedBeforeSgdisk samePartition s.log

theorem SessionInv.init (h : (session tool).init s) : SessionInv s where
  flags := by
    intro _ f hf
    rw [h.1 f] at hf
    cases hf
  once := by
    rw [h.2]
    exact Nat.zero_le _
  asked := by
    rw [h.2]
    trivial

theorem reachesSgdisk_eq_false {trace : List Event} (h : ∀ e ∈ trace, changes e = false) :
    ScriptRun.reachesSgdisk ⟨script, code, trace⟩ = false := by
  apply List.any_eq_false.mpr
  intro e he
  rw [h e he]
  exact Bool.false_ne_true

/-- A run that changes nothing adds nothing to ask about. A flag that is up was there before or was
put up by this run, which has warned then; and no run of this kind reaches `sgdisk`. -/
theorem SessionInv.unchanged (hs : SessionInv s)
    (htmp : m.tmp .partitionsChanged = s.tmp .partitionsChanged)
    (htable : m.table = s.table) (hunchanged : ∀ e ∈ m.trace, changes e = false)
    (hflags : ∀ f, m.tmp f = true → s.tmp f = true ∨ ∃ check, check.flag = f ∧
      check ∈ script.checks ∧ script.Applies s.table ∧
      ScriptRun.Warns ⟨script, code, m.trace⟩ check.condition) :
    SessionInv ⟨m.tmp, m.table, ⟨script, code, m.trace⟩ :: s.log⟩ where
  -- a flag that is up was there before or was put up by this run
  flags := by
    intro hfirst f hf
    rw [htable]
    -- an old flag: the run that warned is further back in the log
    obtain hold | ⟨check, hflag, hmem, happlies, hwarns⟩ := hflags f hf
    · obtain ⟨run, hrun, hrest⟩ := hs.flags (htmp ▸ hfirst) f hold
      exact ⟨run, List.mem_cons_of_mem _ hrun, hrest⟩
    · -- a new flag: this run is the one that warned
      exact ⟨_, List.mem_cons_self, check, hmem, hflag, happlies, hwarns⟩
  -- at most one run reaches `sgdisk`, and this one does not
  once := by
    have hrun := @reachesSgdisk_eq_false script code m.trace hunchanged
    show _ ≤ (m.tmp .partitionsChanged).toNat
    rw [htmp, List.filter_cons_of_neg (by rw [hrun]; exact Bool.false_ne_true)]
    exact hs.once
  -- so nothing has to be asked for it
  asked := by
    refine ⟨?_, hs.asked⟩
    rw [reachesSgdisk_eq_false hunchanged]
    exact fun h => absurd h Bool.false_ne_true

/-- A run that changes the partitions is the first one, and the flag files it found come from
warnings. -/
theorem SessionInv.changed (hs : SessionInv s) (h : Changing script ⟨s.tmp, s.table, []⟩ m) :
    SessionInv ⟨m.tmp, m.table, ⟨script, code, m.trace⟩ :: s.log⟩ where
  flags := by
    intro hfirst
    have hset : m.tmp .partitionsChanged = true := by rw [h.tmp, Function.update_self]
    cases hset.symm.trans hfirst
  once := by
    -- no earlier run got there, since the flag was not set
    have hnone : (s.log.filter ScriptRun.reachesSgdisk).length ≤ 0 := by
      calc _ ≤ (s.tmp .partitionsChanged).toNat := hs.once
        _ = 0 := congrArg Bool.toNat h.first
    show _ ≤ (m.tmp .partitionsChanged).toNat
    rw [h.tmp, Function.update_self]
    calc _ ≤ (s.log.filter ScriptRun.reachesSgdisk).length + 1 := by
          rw [List.filter_cons]
          split
          · exact Nat.le_refl _
          · exact Nat.le_succ _
      _ ≤ 1 := Nat.add_le_add_right hnone 1
  asked := by
    refine ⟨fun _ c ⟨e, he, hc⟩ => ?_, hs.asked⟩
    obtain ⟨happlies, check, hmem, rfl, hflag⟩ := h.accepted e he c hc
    -- the flag of the check was set by a run of the same script that warned
    obtain ⟨run, hrun, check', hmem', hsame, happlies', hwarns⟩ := hs.flags h.first check.flag hflag
    rw [happlies.unique happlies'] at hmem'
    exact ⟨run, hrun, check'.condition, samePartition_of_flag hmem hmem' hsame, hwarns⟩

theorem SessionInv.step (hs : SessionInv s) (h : (session tool).step s script s') :
    SessionInv s' := by
  obtain ⟨code, m, hrun, rfl⟩ := h
  -- how a run of the script ends: nothing done, one warning, or the partitions changed
  cases @ScriptName.main_spec tool script ⟨s.tmp, s.table, []⟩ m code hrun with
  | untouched h =>
    apply hs.unchanged (congrFun h.tmp _) h.table h.unchanged
    intro f hf
    rw [h.tmp] at hf
    -- no flag went up
    exact Or.inl hf
  | warned check h =>
    apply hs.unchanged _ h.table h.unchanged
    · -- the flag that went up is that of the check that warned
      intro f hf
      by_cases hflag : check.flag = f
      · exact Or.inr ⟨check, hflag, h.mem, h.applies, h.exit, check, h.mem, rfl, h.warning⟩
      · -- the other flags are as before
        rw [h.tmp, Function.update_of_ne (Ne.symm hflag)] at hf
        exact Or.inl hf
    · rw [h.tmp, Function.update_of_ne (flag_ne_partitionsChanged h.mem).symm]
  | changed h => exact hs.changed h

end Sessions

/-- **No loss without a warning.** In every session a run reaches its `sgdisk` commands only if, for
each condition that it finds true, an earlier run has exited after the warning for it or, where both
are about the partition that the script merges or splits, for the other one. At most one run of a
session reaches them. This is so whatever `sgdisk` does. -/
theorem consent_before_sgdisk {tool : SgdiskTool} {s : Session} (h : (session tool).Reachable s) :
    WarnedBeforeSgdisk samePartition s.log ∧ (s.log.filter ScriptRun.reachesSgdisk).length ≤ 1 := by
  have hinv : SessionInv s :=
    @Lts.Reachable.invariant _ _ (session tool) SessionInv (fun _ => SessionInv.init)
      (fun _ _ _ hs hstep => hs.step hstep) s h
  refine ⟨hinv.asked, ?_⟩
  calc _ ≤ (s.tmp .partitionsChanged).toNat := hinv.once
    _ ≤ 1 := Bool.toNat_le _

/-! ### Runs in given surroundings -/

/-- Where a new partition starts: at the multiple of 2048 sectors before or behind the sector that
is asked for, if the sectors between are free. -/
def alignedStart (table : List Partition) (start : ℕ) : ℕ :=
  let earlier := start / 2048 * 2048
  let later := earlier + 2048
  if start % 2048 = 0 then start
  else if table.all fun p => p.stop < earlier || start ≤ p.start then earlier
  else if table.all fun p => p.stop ≤ start || later < p.start then later
  else start

/-- What a command makes of the table, `none` if it refuses. -/
def Sgdisk.carryOut : Sgdisk → List Partition → Option (List Partition)
  | .delete num, table =>
    if ∃ p ∈ table, p.num = num then some (table.filter fun p => p.num ≠ num) else none
  | .new num start stop, table =>
    if alignedStart table start ≤ stop ∧
        ∀ p ∈ table, p.num ≠ num ∧ (p.stop < alignedStart table start ∨ stop < p.start) then
      some (table ++ [⟨num, alignedStart table start, stop, .other 0⟩])
    else none
  | .changeName num name, table =>
    if ∃ p ∈ table, p.num = num then
      some (table.map fun p => if p.num = num then { p with name } else p)
    else none

/-- The table after a command. -/
def Sgdisk.tableAfter (command : Sgdisk) (table : List Partition) : Bool → List Partition
  | true => (command.carryOut table).getD table
  | false => table

/-- An `sgdisk` that does this, or fails for another reason. -/
def alignedSgdisk : SgdiskTool := fun command table succeeded table' =>
  (succeeded = true → (command.carryOut table).isSome) ∧
    table' = command.tableAfter table succeeded

theorem alignedSgdisk_documented : alignedSgdisk.Documented 2048 where
  failed h := h.2
  succeeded := by
    rintro command table table' ⟨hsome, rfl⟩
    obtain ⟨changed, hchanged⟩ := Option.isSome_iff_exists.mp (hsome rfl)
    refine ⟨changed, ?_, by rw [Sgdisk.tableAfter, hchanged]; exact .refl _⟩
    cases command with
    | delete num =>
      obtain ⟨-, hchanged⟩ := Option.ite_none_right_eq_some.mp hchanged
      exact Option.some.inj hchanged ▸ .delete
    | new num start stop =>
      obtain ⟨⟨hle, hfree⟩, hchanged⟩ := Option.ite_none_right_eq_some.mp hchanged
      refine Option.some.inj hchanged ▸ .new (fun haligned => ?_) hle hfree
      rw [alignedStart, if_pos (Nat.mod_eq_zero_of_dvd haligned)]
    | changeName num name =>
      obtain ⟨-, hchanged⟩ := Option.ite_none_right_eq_some.mp hchanged
      exact Option.some.inj hchanged ▸ .changeName

/-- What a run learns from its surroundings, and which `sgdisk` commands fail in them. With these
every run is determined, so that it can be computed. -/
structure Surroundings where
  flashableZip : List Char
  sdcardMounts : Bool
  sdcardFiles : List (List Char)
  sgdiskFails : Sgdisk → Bool

/-- The results of the commands. UserData mounts and is empty, and the SDCard and the `sgdisk`
commands are as the surroundings say. -/
def Surroundings.result (w : Surroundings) (m : Machine) : (o : ShellOp) → o.Res
  | .flashableZip => w.flashableZip
  | .grepZip path => zipInternal path
  | .fileExists (.flag f) => m.tmp f
  | .fileExists (.partsByName name) => m.table.any fun p => p.name = name
  | .fileExists (.mmcBlock num) => m.table.any fun p => p.num = num
  | .fileExists _ => false
  | .propDefaultDateTimestamp => (0 : ℤ)
  | .grepPrimaryPhysical _ => false
  | .partMount point _ _ => if point = .sdcardLegacy then w.sdcardMounts else true
  | .isDirectory _ => true
  | .findFiles point => if point = .sdcardLegacy then w.sdcardFiles else []
  | .sgdiskPrint => m.table
  | .sgdisk command => !w.sgdiskFails command && (command.carryOut m.table).isSome
  | .uiPrint _ | .echo .. | .rm _ | .cp .. | .mkdir _ | .partUnmount _ | .makeExt4fs
      .. | .rebootRecovery => ()

theorem Surroundings.result_answers (w : Surroundings) (m : Machine) (o : ShellOp) :
    m.answers o (w.result m o) := by
  cases o
  case fileExists path => cases path <;> first | rfl | trivial
  all_goals first | rfl | trivial

/-- The table after a command. -/
def Surroundings.tableAfter (w : Surroundings) (m : Machine) : ShellOp → List Partition
  | .sgdisk command => command.tableAfter m.table (w.result m (.sgdisk command))
  | _ => m.table

theorem Surroundings.tableAfter_spec (w : Surroundings) (m : Machine) (o : ShellOp) :
    TableAfter alignedSgdisk m.table o (w.result m o) (w.tableAfter m o) := by
  cases o
  case sgdisk command => exact ⟨fun h => ((Bool.and_eq_true _ _).mp h).2, rfl⟩
  all_goals rfl

/-- The end of a run of a script in these surroundings. -/
def Surroundings.exec (w : Surroundings) (script : ScriptName) (tmp : Flag → Bool)
    (table : List Partition) : Except ExitCode Empty × Machine :=
  script.main.run.exec (fun o m => (w.result m o, m.after o (w.result m o) (w.tableAfter m o)))
    ⟨tmp, table, []⟩

theorem Surroundings.exec_runs (w : Surroundings) (script : ScriptName) (tmp : Flag → Bool)
    (table : List Partition) :
    script.main.run.Runs (shell alignedSgdisk) ⟨tmp, table, []⟩ (w.exec script tmp table).1
      (w.exec script tmp table).2 := by
  refine @Program.runs_exec _ _ _ (shell alignedSgdisk)
    (fun o m => (w.result m o, m.after o (w.result m o) (w.tableAfter m o))) (fun o m => ?_)
    script.main.run ⟨tmp, table, []⟩
  exact ⟨w.result_answers m o, w.tableAfter m o, w.tableAfter_spec m o, rfl⟩

/-- A run of a script in these surroundings, from one state between two runs to the next. -/
def Surroundings.run (w : Surroundings) (script : ScriptName) (s : Session) : Session :=
  match w.exec script s.tmp s.table with
  | (.error code, m) => ⟨m.tmp, m.table, ⟨script, code, m.trace⟩ :: s.log⟩

theorem Surroundings.run_step (w : Surroundings) (script : ScriptName) (s : Session) :
    (session alignedSgdisk).step s script (w.run script s) := by
  have hruns := w.exec_runs script s.tmp s.table
  unfold Surroundings.run
  generalize w.exec script s.tmp s.table = x at hruns ⊢
  obtain ⟨r, m⟩ := x
  cases r with
  | ok e => nomatch e
  | error code => exact ⟨code, m, hruns, rfl⟩

/-- A session before its first run, with an SDCard partition. -/
def splitSession : Session where
  tmp _ := false
  table :=
    [⟨13, 4096, 6143, .cache⟩, ⟨14, 6144, 7360511, .userdata⟩,
      ⟨15, 7360512, 30777343, .sdcard⟩]
  log := []

/-- The SDCard does not mount. -/
def sdcardUnmountable : Surroundings := ⟨['/', 'u', 's', 'b'], false, [], fun _ => false⟩

/-- The SDCard mounts, and there is a file on it. -/
def sdcardWithFile : Surroundings := ⟨['/', 'u', 's', 'b'], true, [['a']], fun _ => false⟩

/-- Two runs of `unify_userdata`. -/
theorem twoRuns_reachable (w w' : Surroundings) :
    (session alignedSgdisk).Reachable (w'.run .unifyUserdata (w.run .unifyUserdata splitSession)) :=
  .step (.step (.init ⟨fun _ => rfl, rfl⟩) (w.run_step _ _)) (w'.run_step _ _)

theorem consent_before_sgdisk_warned :
    WarnedBeforeSgdisk samePartition
        (sdcardWithFile.run .unifyUserdata (sdcardWithFile.run .unifyUserdata splitSession)).log ∧
      ((sdcardWithFile.run .unifyUserdata
        (sdcardWithFile.run .unifyUserdata splitSession)).log.filter
        ScriptRun.reachesSgdisk).length ≤ 1 :=
  consent_before_sgdisk (twoRuns_reachable _ _)

/-- The SDCard does not mount in the first run, which warns of that. In the second run it mounts,
and the partitions are changed without a warning about its files. -/
theorem warned_of_other_condition :
    ∃ s, (session alignedSgdisk).Reachable s ∧ ¬ WarnedBeforeSgdisk sameCondition s.log := by
  -- the first run cannot mount the sdcard, the second one can and finds a file on it
  refine ⟨_, twoRuns_reachable sdcardUnmountable sdcardWithFile, ?_⟩
  have hlog : ∃ first second,
      (sdcardWithFile.run .unifyUserdata (sdcardUnmountable.run .unifyUserdata splitSession)).log =
        [second, first] ∧ second.reachesSgdisk = true ∧ second.Finds .sdcardFiles ∧
      first.script = .unifyUserdata ∧ printed first.trace = [" ",
        "       =========================", "       | UserData Unifier Tool |",
        "       =========================", " ", "Starting the partitions verifications...", " ",
        "SDCard could not be mounted (ext4/exfat ?)", "Please verify your partition file system",
        " ", "If you are sure you want to format SDCard, ",
          "and accept the losses, flash this zip again"] :=
    ⟨_, _, rfl, by decide, by unfold ScriptRun.Finds; decide, rfl, rfl⟩
  obtain ⟨first, second, hlog, hreaches, hfinds, hscript, hprinted⟩ := hlog
  rw [hlog]
  intro hall
  -- a warning of the first run about the condition that the second one found
  obtain ⟨run, hrun, c, hc, -, check, hcheck, hcondition, hwarning⟩ :=
    hall.1 hreaches .sdcardFiles hfinds
  rw [List.mem_singleton.mp hrun] at hcheck hwarning
  rw [hscript] at hcheck
  rw [List.mem_singleton.mp hc] at hcondition
  -- the warning would be that of the files, which was not printed
  obtain rfl : check = sdcardFilesCheck := by
    simp only [ScriptName.checks, List.mem_cons, List.not_mem_nil, or_false] at hcheck
    obtain rfl | rfl | rfl | rfl := hcheck
    · cases hcondition
    · cases hcondition
    · rfl
    · cases hcondition
  rw [hprinted, ← List.reverse_prefix] at hwarning
  simp [sdcardFilesCheck] at hwarning

end Releasetools

end BlueCommon
