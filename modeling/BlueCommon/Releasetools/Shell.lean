import BlueCommon.Lib.Exits
import Mathlib.Data.Int.Notation
import Mathlib.Data.List.Perm.Basic
import Mathlib.Data.Nat.Notation
import Mathlib.Logic.Function.Basic

/-!
# The shell of the recovery

`unify_userdata/main.sh` and `restore_sdcard/main.sh` are programs over the commands below. The
files in `/tmp`, the device nodes and what `sgdisk` prints follow from the state. Everything else
that a script learns from its surroundings is arbitrary: whether a partition mounts, what it
contains, where the zip is.

* `Machine`: the flag files, the partition table and the commands of the current run.
* `SgdiskTool`: `sgdisk` itself, which is not part of the repository, as a parameter, and
  `SgdiskTool.Documented`: what its documentation says.
* `shell`: what a command can answer and what it changes.
* `partExists`, `partGetStart`, `partGetEnd`, `sgdiskAll`: the helpers of `part_tools.sh` and the
  chain of `sgdisk` commands.
-/

namespace BlueCommon

namespace Releasetools

open Interaction

/-- The flag files of `variables.sh`, in `/tmp`. -/
inductive Flag
  | flashableInternal
  | partitionsChanged
  | wipeDataAttempt
  | wipeSdcardAttempt
  deriving DecidableEq

/-- The names of partitions. No `other` partition has one of the three names in its own. -/
inductive PartName
  | cache
  | userdata
  | sdcard
  | other (name : ℕ)
  deriving DecidableEq

/-- The paths that the scripts test, write, copy or remove. -/
inductive Path
  | flag (flag : Flag)
  | partsByName (name : PartName)
  | mmcBlock (num : ℕ)
  | mromFakebootpart
  | twresTwrp
  | resTwrp
  | cacheRecovery
  | cacheRecoveryCommand
  | cacheFlagFormatUserdataSdcard
  | cacheFlagResizeUserdata
  | cacheResizeUserdataZip
  | cacheRestoreSdcardZip
  | tmpResizeUserdataZip
  | dataStorageXml
  | zip (path : List Char)

/-- What is mounted and unmounted: mount points and devices. -/
inductive Mount
  | cache
  | data
  | sdcard
  | sdcardLegacy
  | mmcBlock (num : ℕ)
  deriving DecidableEq

/-- A line of `sgdisk --print`. -/
structure Partition where
  num : ℕ
  start : ℕ
  stop : ℕ
  name : PartName

/-- The `sgdisk` commands that change the partition table. -/
inductive Sgdisk
  | delete (num : ℕ)
  | new (num start stop : ℕ)
  | changeName (num : ℕ) (name : PartName)

/-- `sgdisk`: for a command and a table, whether it may succeed or fail, and what the table may be
then. -/
abbrev SgdiskTool : Type := Sgdisk → List Partition → Bool → List Partition → Prop

/-- What a successful command does. -/
inductive Sgdisk.Effect (alignment : ℕ) : Sgdisk → List Partition → List Partition → Prop
  /-- `--delete` deletes the partition of that number. -/
  | delete {num : ℕ} {table : List Partition} :
    Effect alignment (.delete num) table (table.filter fun p => p.num ≠ num)
  /-- `--new` creates a partition with a free number in free sectors, under a default name. A start
  that is not aligned may be moved to one that is. -/
  | new {num start stop aligned name : ℕ} {table : List Partition}
    (haligned : alignment ∣ start → aligned = start) (hle : aligned ≤ stop)
    (hfree : ∀ p ∈ table, p.num ≠ num ∧ (p.stop < aligned ∨ stop < p.start)) :
    Effect alignment (.new num start stop) table (table ++ [⟨num, aligned, stop, .other name⟩])
  /-- `--change-name` renames the partition of that number. -/
  | changeName {num : ℕ} {name : PartName} {table : List Partition} :
    Effect alignment (.changeName num name) table
      (table.map fun p => if p.num = num then { p with name } else p)

/-- What is documented of `sgdisk`, on a device that can be written. -/
structure SgdiskTool.Documented (tool : SgdiskTool) (alignment : ℕ) : Prop where
  /-- A command that fails does not save anything. -/
  failed : ∀ {command : Sgdisk} {table table' : List Partition},
    tool command table false table' → table' = table
  /-- One that succeeds has its effect. The table may be listed in another order. -/
  succeeded : ∀ {command : Sgdisk} {table table' : List Partition},
    tool command table true table' →
      ∃ changed, command.Effect alignment table changed ∧ table'.Perm changed

/-- The commands. Consecutive lines of `ui_print` are one command. -/
inductive ShellOp
  | flashableZip
  | grepZip (path : List Char)
  | fileExists (path : Path)
  | uiPrint (lines : List String)
  | propDefaultDateTimestamp
  | echo (text : String) (path : Path)
  | rm (path : Path)
  | cp (source target : Path)
  | mkdir (path : Path)
  | grepPrimaryPhysical (path : Path)
  | partMount (point : Mount) (device : ℕ) (types : List String)
  | partUnmount (point : Mount)
  | isDirectory (point : Mount)
  | findFiles (point : Mount)
  | sgdiskPrint
  | sgdisk (command : Sgdisk)
  | makeExt4fs (lengthSub : Option ℕ) (device : PartName)
  | rebootRecovery

/-- The results of the commands: an output, or whether the exit status is 0. -/
def ShellOp.Res : ShellOp → Type
  | .flashableZip => List Char
  | .propDefaultDateTimestamp => ℤ
  | .findFiles _ => List (List Char)
  | .sgdiskPrint => List Partition
  | .grepZip _ | .fileExists _ | .grepPrimaryPhysical _ | .partMount .. | .isDirectory
      _ | .sgdisk _ => Bool
  | _ => Unit

/-- The signature of the shell. -/
abbrev shellSignature : Signature := ⟨ShellOp, ShellOp.Res⟩

/-- An `exit` status. -/
abbrev ExitCode : Type := ℕ

def execFailed : ExitCode := 78

def execSuccess : ExitCode := 89

/-- A script or a part of one. -/
abbrev Script (α : Type) : Type := ExceptT ExitCode (Program shellSignature) α

/-- A command of a run and its result. The history of a run is made of these. -/
abbrev Event : Type := (o : ShellOp) × o.Res

/-- The state of the recovery. History: the commands of the current run, the last one first. -/
structure Machine where
  tmp : Flag → Bool
  table : List Partition
  trace : List Event

/-- The path contains the directory. -/
def Contains (path directory : List Char) : Prop := directory <:+: path

instance (path directory : List Char) : Decidable (Contains path directory) :=
  inferInstanceAs (Decidable (_ <:+: _))

/-- `grep -E '/data/|/sdcard/|/sdcard_legacy/'`: the package lies on a partition that is about to be
changed. -/
def zipInternal (path : List Char) : Bool :=
  Contains path ['/', 'd', 'a', 't', 'a', '/'] ||
  Contains path ['/', 's', 'd', 'c', 'a', 'r', 'd', '/'] ||
  Contains path ['/', 's', 'd', 'c', 'a', 'r', 'd', '_', 'l', 'e', 'g', 'a', 'c', 'y', '/']

/-- What a command can answer. -/
def Machine.answers (m : Machine) : (o : ShellOp) → o.Res → Prop
  | .fileExists (.flag f), r => r = m.tmp f
  | .fileExists (.partsByName name), r => r = m.table.any fun p => p.name = name
  | .fileExists (.mmcBlock num), r => r = m.table.any fun p => p.num = num
  | .grepZip path, r => r = zipInternal path
  | .sgdiskPrint, r => r = m.table
  | _, _ => True

/-- The flag files after a command. -/
def tmpAfter (tmp : Flag → Bool) : ShellOp → Flag → Bool
  | .echo _ (.flag f) => Function.update tmp f true
  | .rm (.flag f) => Function.update tmp f false
  | _ => tmp

/-- The partition tables that a command may leave. -/
def TableAfter (tool : SgdiskTool) (table : List Partition) :
    (o : ShellOp) → o.Res → List Partition → Prop
  | .sgdisk command, succeeded, table' => tool command table succeeded table'
  | _, _, table' => table' = table

/-- The state after a command that leaves this table. -/
def Machine.after (m : Machine) (o : ShellOp) (r : o.Res) (table : List Partition) : Machine where
  tmp := tmpAfter m.tmp o
  table := table
  trace := ⟨o, r⟩ :: m.trace

section After

variable {m : Machine} {o : ShellOp} {r : o.Res} {table : List Partition}

@[simp] theorem Machine.after_tmp : (m.after o r table).tmp = tmpAfter m.tmp o := rfl

@[simp] theorem Machine.after_table : (m.after o r table).table = table := rfl

@[simp] theorem Machine.after_trace : (m.after o r table).trace = ⟨o, r⟩ :: m.trace := rfl

end After

/-- The semantics of the commands. -/
def shell (tool : SgdiskTool) : Semantics shellSignature Machine := fun o r m m' =>
  m.answers o r ∧ ∃ table, TableAfter tool m.table o r table ∧ m' = m.after o r table

/-! ### Commands -/

def command (o : ShellOp) : Script o.Res := @perform shellSignature ExitCode o

def getFlashableZip : Script (List Char) := command .flashableZip

def grepZip (path : List Char) : Script Bool := command (.grepZip path)

def fileExists (path : Path) : Script Bool := command (.fileExists path)

def uiPrint (lines : List String) : Script Unit := command (.uiPrint lines)

def echo (text : String) (path : Path) : Script Unit := command (.echo text path)

def rm (path : Path) : Script Unit := command (.rm path)

def cp (source target : Path) : Script Unit := command (.cp source target)

def propDefaultDateTimestamp : Script ℤ := command .propDefaultDateTimestamp

def grepPrimaryPhysical (path : Path) : Script Bool := command (.grepPrimaryPhysical path)

def isDirectory (point : Mount) : Script Bool := command (.isDirectory point)

def findFiles (point : Mount) : Script (List (List Char)) := command (.findFiles point)

def partMount (point : Mount) (device : ℕ) (types : List String) : Script Bool :=
  command (.partMount point device types)

def partUnmount (point : Mount) : Script Unit := command (.partUnmount point)

def sgdiskPrint : Script (List Partition) := command .sgdiskPrint

def sgdisk (change : Sgdisk) : Script Bool := command (.sgdisk change)

/-- `a || b`: the second command is run only if the first one fails. -/
def orElse (a b : Script Bool) : Script Bool := do
  if ← a then
    return true
  else
    b

/-- `[ ! -e path ]`, which succeeds if there is no such file. -/
def fileMissing (path : Path) : Script Bool := do
  let found ← fileExists path
  return !found

/-! ### `part_tools.sh` -/

/-- `part_exists`. Its status is 1, a failure, when the partition exists. -/
def partExists (name : PartName) (num : ℕ) : Script Bool := do
  let table ← sgdiskPrint
  return !table.any fun p => p.name = name && p.num = num

/-- `part_get_start`: the words it prints, one for each partition of that name. -/
def partGetStart (name : PartName) : Script (List ℕ) := do
  let table ← sgdiskPrint
  return (table.filter fun p => p.name = name).map Partition.start

/-- `part_get_end`: the last sector of the partition of a name. More than one partition may have it,
and then the answer has more than one line. -/
def partGetEnd (name : PartName) : Script (List ℕ) := do
  let table ← sgdiskPrint
  return (table.filter fun p => p.name = name).map Partition.stop

/-- A chain of `sgdisk` commands, each after its `part_unify_state`. It stops at the first failure,
and gives the state it stopped in. -/
def sgdiskAll : List (String × Sgdisk) → Script (Option String)
  | [] => return none
  | (partUnifyState, change) :: rest => do
    if ← sgdisk change then
      sgdiskAll rest
    else
      return some partUnifyState

/-- `[ a -lt b ]`. It fails without words and with several words. -/
def lessThan : List ℕ → List ℕ → Bool
  | [a], [b] => a < b
  | _, _ => false

end Releasetools

end BlueCommon
