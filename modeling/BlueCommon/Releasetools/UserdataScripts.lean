import BlueCommon.Releasetools.Shell

/-!
# The scripts that unify and split the user data

`unify_userdata/main.sh` replaces the `Userdata` and `SDCard` partitions by one,
`restore_sdcard/main.sh` splits it again. Before that they ask about each loss that they find: the
first time a script exits with a warning and leaves a flag file, when it is flashed again it
continues.

* `Check`: a loss that a script asks about, with its texts and its flag file.
* `unifyUserdata`, `restoreSdcard`: the scripts, their blocks in the order of the files.
-/

namespace BlueCommon

namespace Releasetools

open Interaction

/-! ### Constants of `variables.sh` -/

def partCacheNum : ℕ := 13

def partDataNum : ℕ := 14

def partSdcardNum : ℕ := 15

/-- `part_data_end` of `restore_sdcard`: the sector at which UserData ends when the SDCard is
restored, whatever the device. -/
def partDataEnd : ℕ := 7360511

def partDataLengthSub : ℕ := 16384

def twrpTimestampSafe : ℤ := 1470268800

/-! ### The losses -/

/-- What a script finds before it changes the partitions. -/
inductive Condition
  | zipInternal
  | sdcardNotMountable
  | sdcardFiles
  | dataNotMountable
  | dataFiles
  deriving DecidableEq

/-- A loss that a script asks about: the line that announces it, the flag file and the lines printed
without and with the flag. -/
structure Check where
  condition : Condition
  announce : List String
  flag : Flag
  warning : List String
  agree : List String

/-- Without the flag file, warn, leave the flag file and exit. With it, continue. -/
def Check.ask (check : Check) : Script Unit := do
  uiPrint check.announce
  if ← fileMissing (.flag check.flag) then
    uiPrint check.warning
    echo "1" (.flag check.flag)
    throw execFailed
  uiPrint check.agree

/-- The zip is stored on a partition that is going to be formatted, in both scripts. -/
def zipCheck : Check where
  condition := .zipInternal
  announce :=
    ["The flashable zip is stored on a partition", "that will be lost by the operation..."]
  flag := .flashableInternal
  warning :=
    [" ", "You could save the zip on a MicroSD", "or use \"adb sideload pathtofile.zip\"", " ",
    "Otherwise, if you really want to use", "the current zip, flash it again"]
  agree := ["You are agreeing to use the zip", " "]

/-- `unify_userdata`: the SDCard cannot be mounted. -/
def sdcardMountCheck : Check where
  condition := .sdcardNotMountable
  announce := ["SDCard could not be mounted (ext4/exfat ?)"]
  flag := .wipeSdcardAttempt
  warning := ["Please verify your partition file system", " ",
    "If you are sure you want to format SDCard, ", "and accept the losses, flash this zip again"]
  agree := ["You are agreeing to format your SDCard..."]

/-- `unify_userdata`: the SDCard contains files. -/
def sdcardFilesCheck : Check where
  condition := .sdcardFiles
  announce := ["SDCard partition still contains files"]
  flag := .wipeSdcardAttempt
  warning :=
    ["Please copy your data from internal SDCard", "Do not format the partition yourself", " ",
    "If you are sure you want to remove SDCard,", "and accept the losses, flash this zip again"]
  agree := ["You are agreeing to remove internal SDCard...", " "]

/-- `unify_userdata`: UserData contains files. -/
def unifyDataFilesCheck : Check where
  condition := .dataFiles
  announce := ["UserData partition still contains files"]
  flag := .wipeDataAttempt
  warning :=
    [" ", "Please backup your data to avoid losses", "UserData will try to be kept but be safe",
    " ", "If you are sure you want to keep UserData,", "and accept the risks, flash this zip again"]
  agree := ["You are agreeing to risk your UserData..."]

/-- `restore_sdcard`: UserData cannot be mounted. -/
def dataMountCheck : Check where
  condition := .dataNotMountable
  announce := ["UserData could not be mounted (ext4 ?)"]
  flag := .wipeDataAttempt
  warning := ["Please verify your partition file system", " ",
    "If you are sure you want to format UserData, ", "and accept the losses, flash this zip again"]
  agree := ["You are agreeing to format your UserData..."]

/-- `restore_sdcard`: UserData contains files. -/
def restoreDataFilesCheck : Check where
  condition := .dataFiles
  announce := ["UserData partition still contains files"]
  flag := .wipeDataAttempt
  warning := ["Please backup your data and Factory Reset", " ",
    "If you are sure you want to format UserData, ", "and accept the losses, flash this zip again"]
  agree := ["You are agreeing to format your UserData..."]

/-! ### Blocks of both scripts -/

def abortIfPartitionsChanged : Script Unit := do
  if ← fileExists (.flag .partitionsChanged) then
    uiPrint [" ", "You already performed a partition change",
      "Reboot to recovery before continuing..."]
    throw execFailed

def checkFlashableZip (flashableZip : List Char) : Script Unit := do
  if ← grepZip flashableZip then
    zipCheck.ask

def unmountData : Script Unit := do
  uiPrint ["Starting the partitions verifications...", " "]
  partUnmount .data
  partUnmount .sdcardLegacy
  partUnmount .sdcard

/-- The identifiers of a partition. -/
def abortIfMissing (name : PartName) (num : ℕ) (text : String) : Script Unit := do
  if ← orElse (fileMissing (.partsByName name))
    (orElse (fileMissing (.mmcBlock num)) (partExists name num)) then
    uiPrint [text, "Please search for help on forums..."]
    throw execFailed

def mountCache : Script Unit := do
  if ← partMount .cache partCacheNum ["ext4", "f2fs"] then
    return ()
  else
    uiPrint ["Cache could not be mounted (ext4/f2fs ?)"]
    throw execFailed

/-- `[ ! -d point ] || [ -n "$(find point -type f)" ]`: a directory that is not there counts as one
with files in it. -/
def containsFiles (point : Mount) : Script Bool := do
  if ← isDirectory point then
    let files ← findFiles point
    return !files.isEmpty
  else
    return true

/-- Whether a partition contains files, and if so the question. -/
def askFiles (point : Mount) (check : Check) (text : String) : Script Unit := do
  if ← containsFiles point then
    check.ask
  else
    uiPrint [text]

/-- The end of a chain of `sgdisk` commands. -/
def reportSgdisk : Option String → Script Unit
  | none => uiPrint ["Partitions modifications done"]
  | some partUnifyState => do
    uiPrint ["Failure during the modifications", "Error on: " ++ partUnifyState,
      "Search for help on the ROM forums..."]
    throw execFailed

def failDimensions : Script Unit := do
  uiPrint ["Failure during the dimensioning", "Search for help on the ROM forums..."]
  throw execFailed

def rebootRecovery : Script Empty := do
  let _ ← command .rebootRecovery
  throw execFailed

/-! ### `unify_userdata/main.sh` -/

def ignoreMultirom : Script Unit := do
  if ← fileExists .mromFakebootpart then
    uiPrint [" ", "Installation as a MultiROM detected", "Unified partitions layout validated", " "]
    throw execSuccess

def abortOnOldTwrp : Script Unit := do
  if ← orElse (fileExists .twresTwrp) (fileExists .resTwrp) then
    let timestamp ← propDefaultDateTimestamp
    if timestamp < twrpTimestampSafe then
      uiPrint [" ", "The TWRP version you are using is outdated,",
        "and may introduce a lot of problems...", "Please update to latest TWRP Recovery"]
      throw execFailed

/-- Extract `resize_userdata.zip` and reboot on it. -/
def prepareResize : Script Empty := do
  rm .cacheFlagResizeUserdata
  uiPrint [" ", "Prepare the UserData resizing..."]
  cp .tmpResizeUserdataZip .cacheResizeUserdataZip
  echo "--update_package=/cache/recovery/resize_userdata.zip" .cacheRecoveryCommand
  if ← orElse (fileMissing .cacheRecoveryCommand) (fileMissing .cacheResizeUserdataZip) then
    uiPrint [" ", "Failed starting a recovery script", "Search for help on the ROM forums..."]
    rm .cacheRecoveryCommand
    rm .cacheResizeUserdataZip
    throw execFailed
  uiPrint ["Rebooting to recovery automatically", " "]
  rebootRecovery

/-- The UserData resizing that the user has programmed. -/
def startProgrammedResize : Script Unit := do
  if ← fileExists .cacheFlagResizeUserdata then
    let exited ← prepareResize
    nomatch exited

/-- UserData has to be mountable, and its `storage.xml` is reset. -/
def resetStorages : Script Unit := do
  if ← partMount .data partDataNum ["ext4", "f2fs"] then
    if ← grepPrimaryPhysical .dataStorageXml then
      uiPrint [" ", "Finalize the migration, reset storages", "Deleting /data/system/storage.xml",
        " "]
      rm .dataStorageXml
  else
    uiPrint [" ", "UserData could not be mounted (ext4/f2fs ?)",
      "Please do a Factory Reset before continuing"]
    throw execFailed

/-- Without an SDCard partition the ROM can be flashed. -/
def finishWithoutSdcard : Script Unit := do
  if ← fileMissing (.partsByName .sdcard) then
    if ← fileExists .cacheResizeUserdataZip then
      rm .cacheResizeUserdataZip
    partUnmount .data
    partUnmount .sdcard
    resetStorages
    throw execSuccess

def unifyCheckSdcard : Script Unit := do
  if ← partMount .sdcardLegacy partSdcardNum ["ext4", "exfat"] then
    askFiles .sdcardLegacy sdcardFilesCheck "SDCard partition is empty"
    partUnmount .sdcardLegacy
  else
    sdcardMountCheck.ask

def unifyCheckData : Script Unit := do
  if ← partMount .data partDataNum ["ext4"] then
    askFiles .data unifyDataFilesCheck "UserData partition is empty"
  else
    uiPrint [" ", "UserData could not be mounted (ext4 ?)",
      "Please verify your partition file system", " ",
      "UserData needs to be using ext4,", "so please perform a Factory Reset"]
    throw execFailed

/-- The partition from the start of UserData to the end of the SDCard. -/
def unifyPartitions : Script Unit := do
  let partDataStart ← partGetStart .userdata
  let partDataEnd ← partGetEnd .sdcard
  if lessThan partDataStart partDataEnd then
    echo "1" (.flag .partitionsChanged)
    partUnmount (.mmcBlock partDataNum)
    partUnmount (.mmcBlock partSdcardNum)
    let failure ← sgdiskAll [
      ("Deleting SDCard", .delete partSdcardNum),
      ("Deleting UserData", .delete partDataNum),
      ("Creating new UserData", .new partDataNum partDataStart.head! partDataEnd.head!),
      ("Renaming new UserData", .changeName partDataNum .userdata)]
    reportSgdisk failure
  else
    failDimensions

def unifyScheduleResize : Script Empty := do
  uiPrint ["UserData unified successfully", " "]
  let _ ← command (.mkdir .cacheRecovery)
  echo "" .cacheRecoveryCommand
  cp .tmpResizeUserdataZip .cacheResizeUserdataZip
  rm .cacheFlagFormatUserdataSdcard
  if ← orElse (fileMissing .cacheRecoveryCommand) (fileMissing .cacheResizeUserdataZip) then
    uiPrint ["Failed starting a recovery script", "Search for help on the ROM forums...", " ",
      "Reboot to recovery and manually flash", "the resize_userdata.zip file", ""]
    rm .cacheRecoveryCommand
    rm .cacheResizeUserdataZip
    throw execFailed
  uiPrint ["Rebooting to recovery automatically,", "then resizing UserData partition...", " "]
  echo "--update_package=/cache/recovery/resize_userdata.zip" .cacheRecoveryCommand
  rebootRecovery

def unifyIntroduction : Script Unit :=
  uiPrint [" ", "       =========================", "       | UserData Unifier Tool |",
    "       =========================", " "]

/-- `unify_userdata/main.sh`: after the questions and the checks the SDCard is deleted and UserData
made anew, up to the end of the SDCard, and a resize is scheduled for the next run. -/
def unifyUserdata : Script Empty := do
  let flashableZip ← getFlashableZip
  abortIfPartitionsChanged
  ignoreMultirom
  abortOnOldTwrp
  startProgrammedResize
  finishWithoutSdcard
  unifyIntroduction
  checkFlashableZip flashableZip
  unmountData
  abortIfMissing .cache partCacheNum "Device has issues with Cache partition"
  abortIfMissing .sdcard partSdcardNum "Device has issues with SDCard partition"
  abortIfMissing .userdata partDataNum "Device has issues with UserData partition"
  mountCache
  unifyCheckSdcard
  unifyCheckData
  partUnmount .data
  uiPrint [" ", "Starting the UserData unification..."]
  unifyPartitions
  unifyScheduleResize

/-! ### `restore_sdcard/main.sh` -/

def restoreIntroduction : Script Unit :=
  uiPrint [" ", "        =======================", "        | SDCard Restore Tool |",
    "        =======================", " "]

/-- Format the UserData and SDCard partitions. -/
def formatPartitions : Script Empty := do
  echo "1" (.flag .partitionsChanged)
  uiPrint ["Preparing the partitions"]
  partUnmount (.mmcBlock partDataNum)
  partUnmount (.mmcBlock partSdcardNum)
  uiPrint ["Formatting the UserData partition"]
  let _ ← command (.makeExt4fs (some partDataLengthSub) .userdata)
  uiPrint ["Formatting the SDCard partition"]
  let _ ← command (.makeExt4fs none .sdcard)
  rm .cacheFlagFormatUserdataSdcard
  rm .cacheRecoveryCommand
  rm .cacheRestoreSdcardZip
  uiPrint ["Done with the partitions modifications", " ", "Rebooting to recovery automatically",
    " "]
  rebootRecovery

/-- The formats that the script has programmed for its second run. -/
def startProgrammedFormat : Script Unit := do
  if ← fileExists .cacheFlagFormatUserdataSdcard then
    let exited ← formatPartitions
    nomatch exited

def finishWithSdcard : Script Unit := do
  if ← orElse (fileExists (.partsByName .sdcard)) (orElse (fileExists (.mmcBlock partSdcardNum))
      (not <$> partExists .sdcard partSdcardNum)) then
    throw execSuccess

def restoreCheckData : Script Unit := do
  if ← partMount .data partDataNum ["ext4"] then
    askFiles .data restoreDataFilesCheck "UserData partition is empty"
  else
    dataMountCheck.ask

/-- UserData up to `part_data_end`, and the SDCard from there. -/
def restorePartitions : Script Unit := do
  let partDataStart ← partGetStart .userdata
  let partSdcardEnd ← partGetEnd .userdata
  if lessThan partDataStart [partDataEnd] && lessThan [partDataEnd] partSdcardEnd then
    echo "1" (.flag .partitionsChanged)
    partUnmount (.mmcBlock partDataNum)
    let failure ← sgdiskAll [
      ("Deleting UserData", .delete partDataNum),
      ("Creating new UserData", .new partDataNum partDataStart.head! partDataEnd),
      ("Creating new SDCard", .new partSdcardNum partDataEnd partSdcardEnd.head!),
      ("Renaming new UserData", .changeName partDataNum .userdata),
      ("Renaming new SDCard", .changeName partSdcardNum .sdcard)]
    reportSgdisk failure
  else
    failDimensions

def restoreScheduleFormat (flashableZip : List Char) : Script Empty := do
  uiPrint ["SDCard restored successfully", " "]
  let _ ← command (.mkdir .cacheRecovery)
  echo "" .cacheRecoveryCommand
  echo "1" .cacheFlagFormatUserdataSdcard
  cp (.zip flashableZip) .cacheRestoreSdcardZip
  rm .cacheFlagResizeUserdata
  if ← orElse (fileMissing .cacheRecoveryCommand)
    (orElse (fileMissing .cacheFlagFormatUserdataSdcard)
      (fileMissing .cacheRestoreSdcardZip)) then
    uiPrint ["Failed starting a recovery script", "Search for help on the ROM forums..."]
    rm .cacheRecoveryCommand
    rm .cacheFlagFormatUserdataSdcard
    rm .cacheRestoreSdcardZip
    throw execFailed
  uiPrint ["Rebooting to recovery automatically,", "then resizing UserData partition...", " "]
  echo "--update_package=/cache/recovery/restore_sdcard.zip" .cacheRecoveryCommand
  rebootRecovery

/-- `restore_sdcard/main.sh`: after the questions and the checks UserData is made anew, shorter than
before, and the SDCard behind it, and a format is scheduled for the next run. -/
def restoreSdcard : Script Empty := do
  let flashableZip ← getFlashableZip
  abortIfPartitionsChanged
  restoreIntroduction
  startProgrammedFormat
  finishWithSdcard
  checkFlashableZip flashableZip
  unmountData
  abortIfMissing .cache partCacheNum "Device has issues with Cache partition"
  abortIfMissing .userdata partDataNum "Device has issues with UserData partition"
  mountCache
  restoreCheckData
  partUnmount .data
  uiPrint [" ", "Starting the SDCard restore..."]
  restorePartitions
  restoreScheduleFormat flashableZip

end Releasetools

end BlueCommon
