import BlueCommon.Lib.Lts
import BlueCommon.Macaddrsetup.ReadMac

/-!
# The partition that is remembered

Reads follow one another, each of which may need another partition. The old one is closed before the
new one is tried, and what is remembered changes only when that succeeds; so after giving up, a
partition is remembered that is not open.

* `taSystem`: reads in any order, with any outcomes.
* `openPartition_truthful_iff`: when what is remembered is true after one attempt to change it.
* `handle_truthful_iff`: when it is true throughout a run, and how often a partition is tried.

What a read does to the handle is decided in `openPartition`: the old partition is closed first and
its number stays remembered through the close (`openPartition_opened`). So a read keeps the truth
exactly if it need not change the partition, or if the new one opens and its id fits into a byte, or
if it does not open and nothing was remembered before (`truthful_run_iff`); over runs this is
`Lts.good_iff_ok`.
-/

namespace BlueCommon.Macaddrsetup

/-! ### Reads in sequence -/

/-- A read of a partition, whose id is not zero: zero stands for no partition in `ta_opened`. -/
structure ReadCall where
  taId : ℕ
  valAddr : ℕ
  valFile : String
  valSize : ℕ
  outcomes : Outcomes
  taId_ne : taId ≠ 0

def ReadCall.run (call : ReadCall) (w : World) : World × ℕ :=
  readMac call.taId call.valAddr call.valFile call.valSize call.outcomes w

/-- Any reads, one after the other, from the start of the program, when nothing is open. -/
def taSystem : Lts World ReadCall where
  init w := w.taOpened = 0 ∧ w.opened = none ∧ w.calls = []
  step w call w' := w' = (call.run w).1

/-- The two reads for the WLAN, both of partition 2: its serial number and its address. -/
def readWlan (serial mac : Outcomes) (w : World) : World × ℕ :=
  let (w, err) :=
    readMac 2 4900 "/sys/devices/platform/wcnss_wlan.0/serial_number" typeSerial serial w
  let (w, err') := readMac 2 2560 "/sys/devices/platform/wcnss_wlan.0/wcnss_mac_addr" typeMac mac w
  (w, err ||| err')

/-- All reads: the two for the WLAN, and the address of the Bluetooth, which is in partition 1. -/
def readAll (serial mac bluetooth : Outcomes) (w : World) : World × ℕ :=
  let (w, err) := readWlan serial mac w
  let (w, err') := readMac 1 447 "/data/misc/bluetooth/bdaddr" typeMac bluetooth w
  (w, err ||| err')

/-- `main`: with arguments it does nothing; else it does all reads and closes the partition that is
remembered. -/
def main (argc : ℕ) (serial mac bluetooth : Outcomes) (w : World) : World × ℕ :=
  if argc > 1 then (w, 1)
  else
    let (w, err) := readAll serial mac bluetooth w
    (if w.taOpened ≠ 0 then w.taClose else w, err)

/-! ### What should hold -/

/-- What is remembered is the partition that is open, or zero when none is. -/
def World.Truthful (w : World) : Prop := w.opened = if w.taOpened = 0 then none else some w.taOpened

/-- Where `main` would close a partition, there is one open. It closes whenever `ta_opened` is not
zero. -/
def World.ClosesOpen (w : World) : Prop := w.taOpened ≠ 0 → w.opened ≠ none

/-- What is remembered is true, every object was read from the partition that was meant, and only an
open partition would be closed. -/
structure World.Sound (w : World) : Prop where
  truthful : w.Truthful
  reads : ∀ id taId opened, TaCall.taRead id taId opened ∈ w.calls → opened = some taId
  closesOpen : w.ClosesOpen

/-- Either the partition is the one that is remembered; or no attempt to open it succeeds, and none
is remembered; or one does, and the id fits into a byte. -/
def StepOk (w : World) (call : ReadCall) : Prop :=
  call.taId = w.taOpened ∨
    (NeverOpens call.outcomes.opens ∧ w.taOpened = 0 ∨ ¬NeverOpens call.outcomes.opens ∧
      call.taId < 256)

def TaCall.isOpen : TaCall → Bool
  | .taOpen .. => true
  | _ => false

def TaCall.isRead : TaCall → Bool
  | .taRead .. => true
  | _ => false

/-- The attempts to open a partition so far, whether they succeeded or not. -/
def World.attempts (w : World) : ℕ := w.calls.countP TaCall.isOpen

/-! ### One read -/

section Reads

variable {taId valAddr valSize i : ℕ} {valFile : String} {opens : ℕ → Bool} {o : Outcomes}
  {w : World}

/-- The calls of the loop. -/
theorem openLoop_calls (taId : ℕ) (opens : ℕ → Bool) (w : World)
    (hi : i ≤ 101) : ∃ calls, (openLoop taId opens i w).1.calls = w.calls ++ calls ∧
    (∀ c ∈ calls, c.isRead = false) ∧ calls.countP TaCall.isOpen ≤ 102 - i := by
  -- each attempt is one call to open, and an attempt that fails is followed by a close
  fun_induction openLoop taId opens i w with
  -- the first attempt succeeds
  | case1 i w _ h =>
    refine ⟨[.taOpen (taId % 256) (opens i)], rfl, by simp [TaCall.isRead], ?_⟩
    show 1 ≤ 102 - i
    omega
  -- it fails, and there are no more to come
  | case2 i w _ h hlast =>
    refine ⟨[.taOpen (taId % 256) (opens i)], rfl, by simp [TaCall.isRead], ?_⟩
    show 1 ≤ 102 - i
    omega
  -- it fails, and the loop goes on after a close
  | case3 i w v h hlast ih =>
    obtain ⟨calls, hcalls, hreads, hopens⟩ := ih (by omega)
    refine ⟨.taOpen (taId % 256) (opens i) :: .taClose v.opened :: calls, ?_, ?_, ?_⟩
    · rw [hcalls]
      show (w.calls ++ [_]) ++ [_] ++ calls = _
      simp [v]
    · simpa [TaCall.isRead] using hreads
    · -- only the attempts are counted
      rw [List.countP_cons_of_pos rfl, List.countP_cons_of_neg (by simp [TaCall.isOpen])]
      omega

theorem openPartition_calls (taId : ℕ) (opens : ℕ → Bool)
    (w : World) : ∃ calls, (openPartition taId opens w).1.calls = w.calls ++ calls ∧
    (∀ c ∈ calls, c.isRead = false) ∧ calls.countP TaCall.isOpen ≤ 102 := by
  unfold openPartition
  -- nothing is called if the partition is remembered
  by_cases hsame : taId = w.taOpened
  · rw [if_neg (not_not.mpr hsame)]
    exact ⟨[], (List.append_nil _).symm, by simp, Nat.zero_le _⟩
  · rw [if_pos hsame]
    obtain ⟨calls, hcalls, hreads, hopens⟩ :=
      openLoop_calls taId opens (if w.taOpened ≠ 0 then w.taClose else w) (Nat.zero_le 101)
    by_cases hnone : w.taOpened = 0
    · rw [if_neg (not_not.mpr hnone)] at hcalls ⊢
      exact ⟨calls, hcalls, hreads, hopens⟩
    · rw [if_pos hnone] at hcalls ⊢
      refine ⟨.taClose w.opened :: calls, ?_, by simpa [TaCall.isRead] using hreads, ?_⟩
      · rw [hcalls]
        exact List.append_assoc _ _ _
      · rw [List.countP_cons_of_neg (by simp [TaCall.isOpen])]
        exact hopens

/-- The size query and the read of the object, if they are made. -/
def TaCall.queries (valAddr taId : ℕ) (opened : Option ℕ) : List (List TaCall) :=
  [[], [.taGetsize valAddr opened], [.taGetsize valAddr opened, .taRead valAddr taId opened]]

/-- With the partition open, the read changes neither what is remembered nor what is open, and it
reads from what is open then. -/
theorem readMac_handle (taId valAddr : ℕ) (valFile : String) (valSize : ℕ) (o : Outcomes)
    (w : World) :
    (readMac taId valAddr valFile valSize o w).1.taOpened =
      (openPartition taId o.opens w).1.taOpened ∧
    (readMac taId valAddr valFile valSize o w).1.opened = (openPartition taId o.opens w).1.opened ∧
    ∃ calls ∈ TaCall.queries valAddr taId (openPartition taId o.opens w).1.opened,
      (readMac taId valAddr valFile valSize o w).1.calls =
        (openPartition taId o.opens w).1.calls ++ calls ∧
        (calls ≠ [] → ¬GivesUp taId o w) := by
  -- an open that gives up and a file that cannot be opened end before the queries
  by_cases hclosed : GivesUp taId o w ∨ o.fopen = false
  · rw [readMac_of_closed valAddr valSize valFile hclosed]
    exact ⟨rfl, rfl, [], by simp [TaCall.queries], (List.append_nil _).symm, fun h => absurd rfl h⟩
  · obtain ⟨hgives, hfopen⟩ := not_or.mp hclosed
    -- the file is open, so the size is asked for
    rw [readMac_of_opened valAddr valSize valFile hgives (Bool.eq_true_of_not_eq_false hfopen)]
    -- printing changes the file only
    have hread : ∀ v : World, v.taOpened = (openPartition taId o.opens w).1.taOpened →
        v.opened = (openPartition taId o.opens w).1.opened →
        v.calls = (openPartition taId o.opens w).1.calls ++
          [.taGetsize valAddr (openPartition taId o.opens w).1.opened,
          .taRead valAddr taId (openPartition taId o.opens w).1.opened] →
        v.taOpened = (openPartition taId o.opens w).1.taOpened ∧
        v.opened = (openPartition taId o.opens w).1.opened ∧
        ∃ calls ∈ TaCall.queries valAddr taId (openPartition taId o.opens w).1.opened,
          v.calls = (openPartition taId o.opens w).1.calls ++ calls ∧
          (calls ≠ [] → ¬GivesUp taId o w) :=
      fun v hremembered hopened hcalls =>
        ⟨hremembered, hopened, _, by simp [TaCall.queries], hcalls, fun _ => hgives⟩
    have happend := List.append_assoc (openPartition taId o.opens w).1.calls
      [.taGetsize valAddr (openPartition taId o.opens w).1.opened]
      [.taRead valAddr taId (openPartition taId o.opens w).1.opened]
    -- the size is right, and the object is asked for
    by_cases hmatch : o.size = valSize
    · simp only [hmatch, ne_eq, not_true_eq_false, if_false]
      cases o.read with
      | none => exact hread _ rfl rfl happend
      | some buf =>
        -- whether it matches or not, the handle stays as it is
        split_ifs
        · unfold printAndClose
          cases o.fprintf <;> exact hread _ rfl rfl happend
        · unfold printAndClose
          cases o.fprintf <;> exact hread _ rfl rfl happend
        · exact hread _ rfl rfl happend
    · -- a wrong size ends the queries
      simp only [hmatch, ne_eq, not_false_eq_true, if_true]
      exact ⟨rfl, rfl, [.taGetsize valAddr _],
        by simp [TaCall.queries, World.write], rfl, fun _ => hgives⟩

end Reads

section Steps

variable {call : ReadCall} {w : World}

/-- **A partition is tried at most 102 times** in a read. -/
theorem attempts_run_le (call : ReadCall) (w : World) :
    (call.run w).1.attempts ≤ w.attempts + 102 := by
  obtain ⟨calls, hcalls, -, hopens⟩ := openPartition_calls call.taId call.outcomes.opens w
  obtain ⟨-, -, calls', hmem, hcalls', -⟩ :=
    readMac_handle call.taId call.valAddr call.valFile call.valSize call.outcomes w
  have hnone : calls'.countP TaCall.isOpen = 0 := by
    simp only [TaCall.queries, List.mem_cons, List.not_mem_nil, or_false] at hmem
    rcases hmem with rfl | rfl | rfl <;> rfl
  show (readMac _ _ _ _ _ w).1.calls.countP _ ≤ w.calls.countP _ + 102
  rw [hcalls', hcalls, List.countP_append, List.countP_append, hnone]
  omega

/-- What is open and remembered once the partition has been tried. Whatever was open before has been
closed, and its number is remembered through the close, so it is still there if none of the attempts
succeeds. -/
theorem openPartition_opened (h : w.Truthful) (hne : call.taId ≠ w.taOpened) :
    if NeverOpens call.outcomes.opens then
      (openPartition call.taId call.outcomes.opens w).1.taOpened = w.taOpened ∧
        (openPartition call.taId call.outcomes.opens w).1.opened = none
    else
      (openPartition call.taId call.outcomes.opens w).1.taOpened = call.taId ∧
        (openPartition call.taId call.outcomes.opens w).1.opened = some (call.taId % 256) := by
  -- whatever was remembered has been closed before the first attempt
  have hclosed : (if w.taOpened ≠ 0 then w.taClose else w).opened = none := by
    by_cases hnone : w.taOpened = 0
    · rw [if_neg (not_not.mpr hnone), h, if_pos hnone]
    · rw [if_pos hnone]
      rfl
  -- the number is remembered through the close
  have hremembered : (if w.taOpened ≠ 0 then w.taClose else w).taOpened = w.taOpened := by
    split <;> rfl
  have hloop := @openLoop_opened call.taId 0 call.outcomes.opens _ hclosed
  have hnever := @openPartition_eq_false_iff call.taId call.outcomes.opens w
  rw [and_iff_right hne] at hnever
  -- another number was remembered, so the loop is entered
  unfold openPartition at hnever ⊢
  rw [if_pos hne] at hnever ⊢
  rw [hremembered] at hloop
  by_cases hopens : NeverOpens call.outcomes.opens
  · -- no attempt has succeeded
    rw [if_neg (Bool.eq_false_iff.mp (hnever.mpr hopens))] at hloop
    rw [if_pos hopens]
    exact hloop
  · -- one of the attempts has succeeded, and its number is remembered
    rw [if_pos (Bool.eq_true_of_not_eq_false fun hfalse => hopens (hnever.mp hfalse))] at hloop
    rw [if_neg hopens]
    exact hloop

/-- **After a read the truth is remembered just when the step is fine**, if it was before. -/
theorem truthful_run_iff (h : w.Truthful) : (call.run w).1.Truthful ↔ StepOk w call := by
  obtain ⟨hremembered, hopened, -⟩ :=
    readMac_handle call.taId call.valAddr call.valFile call.valSize call.outcomes w
  unfold World.Truthful ReadCall.run StepOk
  rw [hremembered, hopened]
  -- a partition that is remembered stays open
  by_cases hsame : call.taId = w.taOpened
  · refine iff_of_true ?_ (.inl hsame)
    unfold openPartition
    rw [if_neg (not_not.mpr hsame)]
    exact h
  · have hpartition := openPartition_opened h hsame
    rw [or_iff_right hsame]
    split_ifs at hpartition with hnever
    · rw [hpartition.1, hpartition.2]
      simp [hnever]
    · have hid := call.taId_ne
      rw [hpartition.1, hpartition.2, if_neg hid, Option.some.injEq]
      simp only [hnever, false_and, not_false_eq_true, true_and, false_or]
      omega

/-- A fine step reads from the partition that is meant. -/
theorem opened_of_stepOk (h : w.Truthful) (hok : StepOk w call)
    (hgives : ¬GivesUp call.taId call.outcomes w) :
    (openPartition call.taId call.outcomes.opens w).1.opened = some call.taId := by
  have hid := call.taId_ne
  by_cases hsame : call.taId = w.taOpened
  · -- the partition was open before
    unfold openPartition
    rw [if_neg (not_not.mpr hsame)]
    show w.opened = _
    rw [h, ← hsame, if_neg hid]
  · have hnever : ¬NeverOpens call.outcomes.opens := fun hnever => hgives ⟨hsame, hnever⟩
    have hpartition := openPartition_opened h hsame
    rw [if_neg hnever] at hpartition
    -- an attempt has succeeded, and the id has not been cut
    obtain ⟨hnever', -⟩ | ⟨-, hlt⟩ := hok.resolve_left hsame
    · exact absurd hnever' hnever
    · rw [hpartition.2, Nat.mod_eq_of_lt hlt]

theorem World.Truthful.closesOpen (h : w.Truthful) : w.ClosesOpen := by
  intro hne
  rw [h, if_neg hne]
  simp

/-- A fine step keeps everything sound. -/
theorem sound_run (h : w.Sound) (hok : StepOk w call) : (call.run w).1.Sound := by
  have htruthful := (truthful_run_iff h.truthful).mpr hok
  refine ⟨htruthful, fun id taId opened hmem => ?_, htruthful.closesOpen⟩
  obtain ⟨calls, hcalls, hnoReads, -⟩ :=
    openPartition_calls call.taId call.outcomes.opens w
  obtain ⟨-, -, calls', hqueries, hcalls', hgives⟩ :=
    readMac_handle call.taId call.valAddr call.valFile call.valSize call.outcomes w
  have hmem : TaCall.taRead id taId opened ∈ (readMac _ _ _ _ call.outcomes w).1.calls := hmem
  rw [hcalls', hcalls, List.append_assoc, List.mem_append, List.mem_append] at hmem
  -- a read was there before, is in the loop, or is the one of this call
  obtain hbefore | hloop | hread := hmem
  · exact h.reads id taId opened hbefore
  · cases hnoReads _ hloop
  · have hopened := opened_of_stepOk h.truthful hok (hgives (List.ne_nil_of_mem hread))
    simp only [TaCall.queries, List.mem_cons, List.not_mem_nil, or_false] at hqueries
    rcases hqueries with rfl | rfl | rfl <;> simp at hread
    obtain ⟨-, rfl, rfl⟩ := hread
    exact hopened

/-- What is remembered after a read. -/
theorem taOpened_run (h : w.Truthful) :
    (call.run w).1.taOpened = w.taOpened ∨ (call.run w).1.taOpened = call.taId := by
  obtain ⟨hremembered, -⟩ :=
    readMac_handle call.taId call.valAddr call.valFile call.valSize call.outcomes w
  unfold ReadCall.run
  rw [hremembered]
  by_cases hsame : call.taId = w.taOpened
  · unfold openPartition
    rw [if_neg (not_not.mpr hsame)]
    exact .inl rfl
  · have hpartition := openPartition_opened h hsame
    split_ifs at hpartition
    · exact .inl hpartition.1
    · exact .inr hpartition.1

/-- Giving up leaves a partition to close that is not open, unless none is remembered. -/
theorem closesOpen_run_iff (h : w.Truthful) (hne : call.taId ≠ w.taOpened) :
    (call.run w).1.ClosesOpen ↔ ¬(NeverOpens call.outcomes.opens ∧ w.taOpened ≠ 0) := by
  obtain ⟨hremembered, hopened, -⟩ :=
    readMac_handle call.taId call.valAddr call.valFile call.valSize call.outcomes w
  have hpartition := openPartition_opened h hne
  unfold World.ClosesOpen ReadCall.run
  rw [hremembered, hopened]
  split_ifs at hpartition with hnever
  · rw [hpartition.1, hpartition.2]
    simp [hnever]
  · rw [hpartition.1, hpartition.2]
    simp [hnever]

end Steps

/-! ### The program -/

section Main

variable {w : World}

theorem truthful_of_init (h : taSystem.init w) : w.Truthful := by
  unfold World.Truthful
  rw [h.1, h.2.1, if_pos rfl]

theorem sound_of_init (h : taSystem.init w) : w.Sound := by
  refine ⟨truthful_of_init h, fun id taId opened hmem => ?_, fun hne => absurd h.1 hne⟩
  rw [h.2.2] at hmem
  cases hmem

/-- The reads of `main`. -/
def serialCall (o : Outcomes) : ReadCall :=
  ⟨2, 4900, "/sys/devices/platform/wcnss_wlan.0/serial_number", typeSerial, o, by decide⟩

def macCall (o : Outcomes) : ReadCall :=
  ⟨2, 2560, "/sys/devices/platform/wcnss_wlan.0/wcnss_mac_addr", typeMac, o, by decide⟩

def bluetoothCall (o : Outcomes) : ReadCall :=
  ⟨1, 447, "/data/misc/bluetooth/bdaddr", typeMac, o, by decide⟩

/-- The reads for the WLAN go well, as they need the same partition. -/
theorem readWlan_truthful (serial mac : Outcomes) (h : taSystem.init w) :
    (readWlan serial mac w).1.Truthful ∧
      ((readWlan serial mac w).1.taOpened = 0 ∨ (readWlan serial mac w).1.taOpened = 2) := by
  have hsmall : ∀ {call : ReadCall} {v : World}, call.taId = 2 → v.taOpened = 0 ∨ v.taOpened = 2 →
      v.Truthful →
      (call.run v).1.Truthful ∧ ((call.run v).1.taOpened = 0 ∨ (call.run v).1.taOpened = 2) := by
    intro call v hid hv htruthful
    -- partition 2 is remembered afterwards, or none as before
    refine ⟨(truthful_run_iff htruthful).mpr ?_, ?_⟩
    · rcases hv with hzero | htwo
      · by_cases hnever : NeverOpens call.outcomes.opens
        · exact .inr (.inl ⟨hnever, hzero⟩)
        · exact .inr (.inr ⟨hnever, by omega⟩)
      · exact .inl (hid.trans htwo.symm)
    · rcases @taOpened_run call v htruthful with hkept | hopened
      · rwa [hkept]
      · exact .inr (hopened.trans hid)
  obtain ⟨hserial, hremembered⟩ := @hsmall (serialCall serial) w rfl (.inl h.1) (truthful_of_init h)
  exact @hsmall (macCall mac) _ rfl hremembered hserial

/-- `main` closes what is remembered, after the reads. -/
theorem main_calls {argc : ℕ} (hargc : argc ≤ 1) (serial mac bluetooth : Outcomes) :
    (main argc serial mac bluetooth w).1.calls = (readAll serial mac bluetooth w).1.calls ++
      if (readAll serial mac bluetooth w).1.taOpened = 0 then []
      else [.taClose (readAll serial mac bluetooth w).1.opened] := by
  unfold main
  rw [if_neg (Nat.not_lt.mpr hargc)]
  dsimp only
  by_cases hnone : (readAll serial mac bluetooth w).1.taOpened = 0
  · rw [if_neg (not_not.mpr hnone), if_pos hnone, List.append_nil]
  · rw [if_pos hnone, if_neg hnone]
    rfl

/-- The call with which `main` ends closes an open partition just when one is open where it would
close one. -/
theorem closes_iff_closesOpen {argc : ℕ} (hargc : argc ≤ 1) (serial mac bluetooth : Outcomes) :
    (∀ opened, (main argc serial mac bluetooth w).1.calls =
        (readAll serial mac bluetooth w).1.calls ++ [.taClose opened] → opened ≠ none) ↔
      (readAll serial mac bluetooth w).1.ClosesOpen := by
  rw [World.ClosesOpen, main_calls hargc]
  by_cases hnone : (readAll serial mac bluetooth w).1.taOpened = 0
  · -- nothing is closed
    rw [if_pos hnone]
    refine iff_of_true (fun opened h => ?_) fun hne => absurd hnone hne
    exact absurd (List.append_cancel_left h).symm (List.cons_ne_nil _ _)
  · rw [if_neg hnone]
    constructor
    · intro h _
      exact h _ rfl
    · rintro h opened heq
      obtain rfl := TaCall.taClose.inj (List.singleton_inj.mp (List.append_cancel_left heq))
      exact h hnone

end Main

/-- **What is remembered is true throughout a run just when** no step gives up while a partition is
remembered, and none opens a partition whose id does not fit into a byte. A read tries to open a
partition at most 102 times. The call with which `main` ends closes an open partition unless the one
for Bluetooth could not be opened after the other one. -/
theorem handle_truthful_iff {w : World} (h0 : taSystem.init w) :
    (∀ t tr, Lts.Run taSystem w tr t → ((∀ u ∈ Lts.visited tr t, u.Sound) ↔
      ∀ p ∈ tr, StepOk p.1 p.2)) ∧
    (∀ call s, (ReadCall.run call s).1.attempts ≤ s.attempts + 102) ∧
    ∀ serial mac bluetooth, ((readAll serial mac bluetooth w).1.ClosesOpen ↔
      ¬(NeverOpens bluetooth.opens ∧ (readWlan serial mac w).1.taOpened ≠ 0)) ∧
      ∀ argc ≤ 1, ((∀ opened, (main argc serial mac bluetooth w).1.calls =
          (readAll serial mac bluetooth w).1.calls ++ [.taClose opened] → opened ≠ none) ↔
        ¬(NeverOpens bluetooth.opens ∧ (readWlan serial mac w).1.taOpened ≠ 0)) := by
  refine ⟨fun t tr hrun => ?_, attempts_run_le, fun serial mac bluetooth => ?_⟩
  · -- run by run: a step of that kind keeps the remembered number right, any other one does not
    refine Lts.good_iff_ok (fun s => sound_of_init) (fun s h => h) ?_ ?_ h0 hrun
    · rintro s call _ hsound rfl hok
      exact sound_run hsound hok
    · rintro s call _ hsound rfl hnot hsound'
      exact hnot ((truthful_run_iff hsound.truthful).mp hsound'.truthful)
  · -- the last object read is that of the bluetooth address, over another partition
    obtain ⟨htruthful, hremembered⟩ := readWlan_truthful serial mac h0
    have hne : (bluetoothCall bluetooth).taId ≠ (readWlan serial mac w).1.taOpened := by
      show 1 ≠ _
      omega
    -- so the last close has a handle unless the partition never opens
    have hcloses : (readAll serial mac bluetooth w).1.ClosesOpen ↔
        ¬(NeverOpens bluetooth.opens ∧ (readWlan serial mac w).1.taOpened ≠ 0) :=
      closesOpen_run_iff htruthful hne
    -- `main` adds nothing to the calls but the last close
    exact ⟨hcloses, fun argc hargc =>
      (closes_iff_closesOpen hargc serial mac bluetooth).trans hcloses⟩

/-! ### Three reads -/

/-- Everything succeeds but opening the partition. -/
def Outcomes.neverOpens : Outcomes := { Outcomes.macObject with opens := fun _ => false }

/-- Before the first read: nothing is remembered, nothing is open, and there is no file. -/
def World.start : World := ⟨0, none, fun _ => none, []⟩

theorem start_init : taSystem.init .start := ⟨rfl, rfl, rfl⟩

theorem handle_truthful_iff_one_read :
    (∃ t tr, Lts.Run taSystem .start tr t ∧ (∀ u ∈ Lts.visited tr t, u.Sound)) ∧
    ((macCall .macObject).run .start).1.attempts ≤ World.start.attempts + 102 ∧
    (readAll .macObject .macObject .macObject .start).1.ClosesOpen ∧
    ∀ opened, (main 1 .macObject .macObject .macObject .start).1.calls =
      (readAll .macObject .macObject .macObject .start).1.calls ++ [.taClose opened] →
        opened ≠ none := by
  -- a single read, at which every open succeeds
  have hrun : Lts.Run taSystem .start ([] ++ [(.start, macCall .macObject)])
    ((macCall .macObject).run .start).1 :=
    .snoc .nil rfl
  have hopens : ¬NeverOpens Outcomes.macObject.opens :=
    fun h => Bool.noConfusion (h 0 (Nat.zero_le _))
  obtain ⟨hsound, hattempts, hcloses⟩ := handle_truthful_iff start_init
  obtain ⟨hreads, hmain⟩ := hcloses .macObject .macObject .macObject
  refine ⟨⟨_, _, hrun, (hsound _ _ hrun).mpr ?_⟩, hattempts _ _, hreads.mpr fun h => hopens h.1,
    (hmain 1 (Nat.le_refl 1)).mpr fun h => hopens h.1⟩
  rintro p hp
  obtain rfl := List.mem_singleton.mp hp
  exact .inr (.inr ⟨hopens, by decide⟩)

/-- **After giving up, a partition is remembered that is not open**, `main` would close it, and the
next read for it reads without an open partition. -/
theorem handle_stale : ∃ w t u tr, taSystem.init w ∧ Lts.Run taSystem w tr t ∧ t.taOpened = 2 ∧
    t.opened = none ∧
    ¬t.ClosesOpen ∧ taSystem.step t (macCall .macObject) u ∧ .taRead 2560 2 none ∈ u.calls := by
  have hopens : ¬NeverOpens (macCall .macObject).outcomes.opens :=
    fun h => Bool.noConfusion (h 0 (Nat.zero_le _))
  have hnever : NeverOpens (bluetoothCall .neverOpens).outcomes.opens := fun _ _ => rfl
  -- the first read opens partition 2
  have hfirst := readMac_handle 2 2560 (macCall .macObject).valFile typeMac .macObject .start
  have hfirst' := @openPartition_opened (macCall .macObject) _ (truthful_of_init start_init)
    (by decide)
  rw [if_neg hopens] at hfirst'
  have htruthful := (@truthful_run_iff (macCall .macObject) _ (truthful_of_init start_init)).mpr
    (.inr (.inr ⟨hopens, by decide⟩))
  have htwo : ((macCall .macObject).run .start).1.taOpened = 2 := hfirst.1.trans hfirst'.1
  -- the second one gives up partition 1, after it has closed the other one
  obtain ⟨t, ht⟩ :
    ∃ t, t = ((bluetoothCall .neverOpens).run ((macCall .macObject).run .start).1).1 := ⟨_, rfl⟩
  have hsecond := readMac_handle 1 447 (bluetoothCall .neverOpens).valFile typeMac .neverOpens
    ((macCall .macObject).run .start).1
  have hsecond' :=
    @openPartition_opened (bluetoothCall .neverOpens) _ htruthful (by rw [htwo]; decide)
  rw [if_pos hnever] at hsecond'
  have hremembered : t.taOpened = 2 := by
    rw [ht]
    exact (hsecond.1.trans hsecond'.1).trans htwo
  have hclosed : t.opened = none := by
    rw [ht]
    exact hsecond.2.1.trans hsecond'.2
  -- the third one needs partition 2 again
  have hgives : ¬GivesUp 2 .macObject t := fun h => h.1 hremembered.symm
  have hthird := readMac_of_opened 2560 typeMac (macCall .macObject).valFile hgives rfl
  have hpartition : openPartition 2 Outcomes.macObject.opens t = (t, true) :=
    if_neg (not_not.mpr hremembered.symm)
  refine ⟨.start, t, _, ([] ++ [(_, macCall .macObject)]) ++ [(_, bluetoothCall .neverOpens)],
    start_init, .snoc (.snoc .nil rfl) ht, hremembered, hclosed, fun h =>
      h (by rw [hremembered]; decide) hclosed, rfl, ?_⟩
  show _ ∈ (readMac 2 2560 (macCall .macObject).valFile typeMac .macObject t).1.calls
  rw [hthird, hpartition]
  show _ ∈ (t.calls ++ [.taGetsize 2560 t.opened]) ++ [.taRead 2560 2 t.opened]
  rw [hclosed]
  exact List.mem_append_right _ (List.mem_singleton_self _)

end BlueCommon.Macaddrsetup
