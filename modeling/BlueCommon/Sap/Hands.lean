import BlueCommon.Sap.PendingQueue
import Mathlib.Data.Finset.Basic
import Mathlib.Data.List.ReduceOption

/-!
# What the threads of the SAP service may touch

Each thread has a `Hand`: the objects that it is to release, and what it knows of the message, the
request or the completion that it is at. `handProtocol` says which operations a hand permits. The
request methods and the completions keep to it, one thread at a time, and leave nothing to be
released but the copy of the command.
-/

namespace BlueCommon

namespace Sap

open Interaction Program

/-- * `own`: the objects that the thread is to release;
* `socket`: the thread has found the socket;
* `command`: the copy of the command of an APDU request;
* `blank`: a header that has not been filled in;
* `msg`: the header of the message, with its payload;
* `filled`: the request that has been filled in, with its header;
* `requested`: the request that is in the queue and not yet with the vendor;
* `completing`: the request that the thread completes, with its header once it has been read;
* `dequeued`: the header of the request that the thread has dequeued. -/
structure Hand where
  own : Finset Ptr
  socket : Bool
  command : Option Ptr
  blank : Option Ptr
  msg : Option (Ptr × Option Ptr)
  filled : Option (Ptr × Ptr)
  requested : Option Ptr
  completing : Option (Ptr × Option Ptr)
  dequeued : Option Ptr

namespace Hand

/-- The hand of an idle thread. -/
def empty : Hand := ⟨∅, false, none, none, none, none, none, none, none⟩

/-- The hand of a thread that completes the request and has read its header. -/
def completionOf (q h : Ptr) : Hand :=
  { empty with socket := true, completing := some (q, some h) }

/-- The thread reads the header of its message: the header is its own, or it has the payload that is
to be released before the header. -/
def Reads (g : Hand) (h : Ptr) (payload : Option Ptr) : Prop :=
  g.msg = some (h, payload) ∧
    ((h ∈ g.own ∧ g.dequeued ≠ some h) ∨ ∃ p ∈ g.own, payload = some p)

/-- The operations that the hand permits. -/
def Permits (g : Hand) : SapOp → Prop
  | .free p => p ∈ g.own
  | .getHeader p => (∃ payload, g.Reads p payload) ∨ ∃ q, g.completing = some (q, some p)
  | .setHeader p msg => p ∈ g.own ∧ g.dequeued ≠ some p ∧ g.blank = some p ∧ msg.payload = none
  | .setPayload p payload =>
    p ∈ g.own ∧ g.dequeued ≠ some p ∧ (∃ old, g.msg = some (p, old)) ∧ payload ∈ g.own
  | .getData p => p ∈ g.own
  | .setData p _ => p ∈ g.own
  | .getRequest q => ∃ h, g.completing = some (q, h)
  | .setRequest q _ => q ∈ g.own
  | .enqueue q => ∃ h p, g.filled = some (q, h) ∧ g.msg = some (h, some p) ∧ q ∈ g.own ∧ h ∈ g.own ∧
      p ∈ g.own ∧ q ≠ h ∧ g.dequeued = none ∧ g.socket = true
  | .checkAndDequeue _ _ q => ∃ h, g = completionOf q h
  | .onRequest _ _ _ q => g.requested = some q ∧ g.completing = none
  | .beginCompletion _ => g.completing = none
  | _ => True

/-- What is known of the result of an operation: memory that is found was not in the hands of the
thread, and a header is read as the thread has written it. -/
def Fits (g : Hand) : (o : SapOp) → o.Res → Prop
  | .allocate .request, r => ∃ q, r = some q ∧ q ∉ g.own
  | .allocate _, r => ∀ p, r = some p → p ∉ g.own
  | .getHeader p, r => ∀ payload, g.Reads p payload → r.payload = payload
  | .getSocketById, r => g.completing ≠ none → r = true
  | .onRequest .., r => r = none
  | _, _ => True

/-- The hand after an operation. -/
def after (g : Hand) : (o : SapOp) → o.Res → Hand
  | .allocate kind, some p =>
    { g with
      own := insert p g.own
      command := if kind = .command then some p else g.command
      blank := if kind = .header then some p else g.blank }
  | .free p, _ => { g with own := g.own.erase p }
  | .setHeader p msg, _ => { g with msg := some (p, msg.payload), blank := none }
  | .setPayload p payload, _ => { g with msg := some (p, some payload) }
  | .getRequest q, r => { g with completing := some (q, some r.curr) }
  | .getSocketById, r => { g with socket := r }
  | .setRequest q request, _ => { g with filled := some (q, request.curr) }
  | .enqueue q, _ =>
    match g.filled with
    | some (_, h) => { g with own := (g.own.erase q).erase h, requested := some q }
    | none => g
  | .checkAndDequeue .., _ =>
    match g.completing with
    | some (_, some h) =>
      { g with own := insert h g.own, dequeued := some h, completing := none }
    | _ => g
  | .onRequest .., _ => { g with requested := none }
  | .beginCompletion q, _ => { g with completing := some (q, none) }
  | _, _ => g

/-- Nothing is left to be released but the copy of the command. -/
def Done (g : Hand) : Prop := ∀ p ∈ g.own, g.command = some p

end Hand

/-- The protocol of the threads. -/
def handProtocol : Protocol sapSignature Hand where
  allow := Hand.Permits
  next g o r g' := g.Fits o r ∧ g' = g.after o r

/-! ### Messages to the client -/

section Programs

variable {pb : Nanopb} {g : Hand}

theorem messaging_obeys {code : Code Unit} (hcode : code.Only SapOp.IsMessaging)
    {post : Unit → Hand → Prop} (hpost : post () g) : code.Obeys handProtocol post g := by
  have hkeep : Leads handProtocol (fun g' => g' = g) code fun _ g' => g' = g := by
    refine Leads.of_only hcode fun g' o _ ho => ?_
    cases o with
    | getSapCallback => exact ⟨trivial, fun _ _ h => h.2⟩
    | call e => exact ⟨trivial, fun _ _ h => h.2⟩
    | resetSapCallback => exact ⟨trivial, fun _ _ h => h.2⟩
    | _ => exact ho.elim
  refine (hkeep g rfl).mono fun a g' hg' => ?_
  rw [hg']
  exact hpost

/-! ### Failed requests -/

/-- The loop of `sendFailedResponse` releases its pointers. The induction is on the list, null
pointers included: a pointer is given up, and it is not in the rest of the list. -/
theorem freePointers_obeys {ptrs : List (Option Ptr)} {post : Unit → Hand → Prop}
    (hown : ∀ p, some p ∈ ptrs → p ∈ g.own) (hnodup : ptrs.reduceOption.Nodup)
    (hpost : post () { g with own := g.own \ ptrs.reduceOption.toFinset }) :
    (freePointers ptrs).Obeys handProtocol post g := by
  -- on the list of pointers, null pointers included
  induction ptrs generalizing g with
  | nil =>
    have hg : { g with own := g.own \ ([] : List (Option Ptr)).reduceOption.toFinset } = g := by
      simp [List.reduceOption_nil]
    rw [hg] at hpost
    exact hpost
  | cons ptr ptrs ih =>
    have hrest : ∀ p, some p ∈ ptrs → p ∈ g.own := fun p hp => hown p (List.mem_cons_of_mem _ hp)
    -- `free` of a null pointer does nothing
    cases ptr with
    | none =>
      rw [List.reduceOption_cons_of_none] at hnodup hpost
      exact ih hrest hnodup hpost
    | some p =>
      rw [List.reduceOption_cons_of_some] at hnodup hpost
      -- the pointer is given up, and it is not in the rest of the list
      obtain ⟨hnew, hnodup⟩ := List.nodup_cons.mp hnodup
      refine obeys_op_bind.mpr ⟨hown p List.mem_cons_self, ?_⟩
      rintro r g' ⟨-, rfl⟩
      refine ih (fun p' hp' => ?_) hnodup ?_
      · refine Finset.mem_erase.mpr ⟨?_, hrest p' hp'⟩
        rintro rfl
        exact hnew (List.reduceOption_mem_iff.mpr hp')
      · show post () { g with own := g.own.erase p \ ptrs.reduceOption.toFinset }
        rw [List.toFinset_cons, Finset.sdiff_insert, ← Finset.erase_sdiff_comm] at hpost
        exact hpost

/-- `sendFailedResponse` gets all objects of the thread. -/
theorem sendFailedResponse_obeys {msgId : MsgId} {token : ℤ} {ptrs : List (Option Ptr)}
    (hown : ∀ p, some p ∈ ptrs → p ∈ g.own) (hnodup : ptrs.reduceOption.Nodup)
    (hall : ∀ p ∈ g.own, some p ∈ ptrs ∨ g.command = some p) :
    (sendFailedResponse msgId token ptrs).Obeys handProtocol (fun _ => Hand.Done) g := by
  refine (obeys_bind _ _).mpr (freePointers_obeys hown hnodup ?_)
  have hdone : Hand.Done { g with own := g.own \ ptrs.reduceOption.toFinset } := by
    intro p hp
    obtain ⟨hp, hnot⟩ := Finset.mem_sdiff.mp hp
    refine (hall p hp).resolve_left fun hmem => hnot ?_
    exact List.mem_toFinset.mpr (List.reduceOption_mem_iff.mpr hmem)
  have hcall : (call (.failed msgId token) >>= checkReturnStatus : Code Unit).Only
      SapOp.IsMessaging := ⟨trivial, fun isOk => checkReturnStatus_isMessaging isOk⟩
  cases msgId with
  | other value => exact hdone
  | _ => exact messaging_obeys hcall hdone

/-! ### Requests -/

/-- The message and the encoded request are there, and nothing else but the copy of the command. -/
structure Encoded (g : Hand) (msg buffer : Ptr) : Prop where
  message : g.msg = some (msg, none)
  dequeued : g.dequeued = none
  completing : g.completing = none
  msg_mem : msg ∈ g.own
  buffer_mem : buffer ∈ g.own
  ne : buffer ≠ msg
  own : ∀ p ∈ g.own, p = msg ∨ p = buffer ∨ g.command = some p

/-- The message has its payload. -/
structure Loaded (g : Hand) (msg buffer payload : Ptr) : Prop where
  message : g.msg = some (msg, some payload)
  dequeued : g.dequeued = none
  completing : g.completing = none
  msg_mem : msg ∈ g.own
  buffer_mem : buffer ∈ g.own
  payload_mem : payload ∈ g.own
  ne : buffer ≠ msg
  payload_ne_msg : payload ≠ msg
  payload_ne_buffer : payload ≠ buffer
  own : ∀ p ∈ g.own, p = msg ∨ p = buffer ∨ p = payload ∨ g.command = some p

/-- The message is in the queue, and the thread still reads it. -/
structure Lent (g : Hand) (msg buffer payload : Ptr) : Prop where
  message : g.msg = some (msg, some payload)
  buffer_mem : buffer ∈ g.own
  payload_mem : payload ∈ g.own
  payload_ne_buffer : payload ≠ buffer
  own : ∀ p ∈ g.own, p = buffer ∨ p = payload ∨ g.command = some p

theorem Lent.reads {msg buffer payload : Ptr} (h : Lent g msg buffer payload) :
    g.Reads msg (some payload) := ⟨h.message, .inr ⟨payload, h.payload_mem, rfl⟩⟩

/-- What the thread has once its request is in the queue. -/
theorem Loaded.enqueued {msg buffer payload q : Ptr} (hg : Loaded g msg buffer payload)
    (hq : q ∉ g.own) {g' : Hand} (hmessage : g'.msg = g.msg) (hcommand : g'.command = g.command)
    (hown : g'.own = ((insert q g.own).erase q).erase msg) : Lent g' msg buffer payload := by
  rw [Finset.erase_insert hq] at hown
  refine ⟨hmessage.trans hg.message, ?_, ?_, hg.payload_ne_buffer, fun p hp => ?_⟩
  · rw [hown]
    exact Finset.mem_erase.mpr ⟨hg.ne, hg.buffer_mem⟩
  · rw [hown]
    exact Finset.mem_erase.mpr ⟨hg.payload_ne_msg, hg.payload_mem⟩
  · rw [hown] at hp
    obtain ⟨hne, hp⟩ := Finset.mem_erase.mp hp
    rw [hcommand]
    exact (hg.own p hp).resolve_left hne

/-- **Dispatch** puts the request and its header into the queue. The request is a new object, and it
is filled before it is queued; after that the thread may hand it to the vendor, but does not have it
any more. -/
theorem dispatchRequest_obeys {msg buffer payload : Ptr} (hg : Loaded g msg buffer payload)
    (hsocket : g.socket = true) :
    (dispatchRequest pb msg).Obeys handProtocol (fun _ g' => Lent g' msg buffer payload) g := by
  refine obeys_op_bind.mpr ⟨trivial, ?_⟩
  -- the request is allocated: the thread has it besides what it had
  rintro r g' ⟨⟨q, rfl, hq⟩, rfl⟩
  -- the request is a new object
  have hmsg : q ≠ msg := by
    rintro rfl
    exact hq hg.msg_mem
  have hown : payload ∈ insert q g.own := Finset.mem_insert_of_mem hg.payload_mem
  -- each access is to a block that the thread may read or write
  refine obeys_op_bind.mpr ⟨.inl ⟨some payload, hg.message, .inr ⟨payload, hown, rfl⟩⟩, ?_⟩
  rintro header g' ⟨-, rfl⟩
  refine obeys_op_bind.mpr ⟨Finset.mem_insert_self _ _, ?_⟩
  rintro _ g' ⟨-, rfl⟩
  -- the request goes into the queue, and the message with it
  refine obeys_op_bind.mpr ⟨⟨msg, payload, rfl, hg.message, Finset.mem_insert_self _ _,
    Finset.mem_insert_of_mem hg.msg_mem, hown, hmsg, hg.dequeued, hsocket⟩, ?_⟩
  rintro _ g' ⟨-, hg'⟩
  have hlent : Lent g' msg buffer payload := by
    refine hg.enqueued hq ?_ ?_ ?_ <;> rw [hg'] <;> rfl
  have hrequested : g'.requested = some q := by
    rw [hg']
    rfl
  have hcompleting : g'.completing = none := by
    rw [hg', ← hg.completing]
    rfl
  refine obeys_op_bind.mpr ⟨trivial, ?_⟩
  rintro uimFuncs g'' ⟨-, rfl⟩
  split
  · -- the header may still be read while nobody has completed the request
    refine obeys_op_bind.mpr ⟨.inl ⟨_, hlent.reads⟩, ?_⟩
    rintro header' g'' ⟨hheader, rfl⟩
    rw [hheader _ hlent.reads]
    refine obeys_op_bind.mpr ⟨hlent.payload_mem, ?_⟩
    rintro data g'' ⟨-, rfl⟩
    -- the vendor is called with the request that was queued
    refine obeys_op_bind.mpr ⟨⟨hrequested, hcompleting⟩, ?_⟩
    rintro r g'' ⟨hr, rfl⟩
    rw [show r = none from hr]
    exact { hlent with }
  · -- without the functions the message stays lent to the queue
    exact hlent

/-- The objects of a failed message are released together. -/
theorem failed_obeys {msgId : MsgId} {token : ℤ} {owned : List (Option Ptr)} {xs : List Ptr}
    (hown : ∀ p ∈ owned.reduceOption ++ xs, p ∈ g.own) (hnodup : (owned.reduceOption ++ xs).Nodup)
    (hall : ∀ p ∈ g.own, p ∈ xs ∨ g.command = some p) :
    (sendFailedResponse msgId token (owned ++ xs.map some)).Obeys handProtocol
      (fun _ => Hand.Done) g := by
  have hreduce : (owned ++ xs.map some).reduceOption = owned.reduceOption ++ xs := by
    rw [List.reduceOption_append]
    unfold List.reduceOption
    rw [List.filterMap_map]
    exact congrArg (owned.filterMap id ++ ·) List.filterMap_some
  refine sendFailedResponse_obeys (fun p hp => ?_) ?_ fun p hp => ?_
  · rw [← List.reduceOption_mem_iff, hreduce] at hp
    exact hown p hp
  · rw [hreduce]
    exact hnodup
  · exact (hall p hp).imp_left fun h => List.mem_append_right _ (List.mem_map_of_mem h)

/-- The method once its message has been queued. -/
theorem lent_obeys {msg buffer payload : Ptr} (hg : Lent g msg buffer payload) :
    (do
      let header ← getHeader msg
      freePointer header.payload
      free buffer : Code Unit).Obeys handProtocol (fun _ => Hand.Done) g := by
  refine obeys_op_bind.mpr ⟨.inl ⟨_, hg.reads⟩, ?_⟩
  rintro header g' ⟨hheader, rfl⟩
  rw [hheader _ hg.reads]
  refine obeys_op_bind.mpr ⟨hg.payload_mem, ?_⟩
  rintro _ g' ⟨-, rfl⟩
  refine ⟨Finset.mem_erase.mpr ⟨hg.payload_ne_buffer.symm, hg.buffer_mem⟩, ?_⟩
  rintro _ g' ⟨-, rfl⟩ p hp
  obtain ⟨hbuffer, hp⟩ := Finset.mem_erase.mp hp
  obtain ⟨hpayload, hp⟩ := Finset.mem_erase.mp hp
  exact ((hg.own p hp).resolve_left hbuffer).resolve_left hpayload

/-- The method from the payload on. Without a payload everything the thread has is freed after the
response; otherwise the payload belongs to the message, which is dispatched with a socket and freed
without one. -/
theorem addPayloadAndDispatchRequest_obeys {msg buffer : Ptr} {reqLen : ℕ}
    (hg : Encoded g msg buffer) :
    (addPayloadAndDispatchRequest pb msg reqLen buffer).Obeys handProtocol
      (fun _ => Hand.Done) g := by
  refine obeys_op_bind.mpr ⟨trivial, ?_⟩
  rintro r g' ⟨hr, rfl⟩
  -- no payload: everything the thread has is freed after the response
  cases r with
  | none =>
    have hreads : g.Reads msg none := ⟨hg.message, .inl ⟨hg.msg_mem, by rw [hg.dequeued]; nofun⟩⟩
    refine obeys_op_bind.mpr ⟨.inl ⟨_, hreads⟩, ?_⟩
    rintro header g' ⟨-, rfl⟩
    refine @failed_obeys _ _ _ [] [buffer, msg] ?_ ?_ fun p hp => ?_
    · rintro p hp
      rcases List.mem_cons.mp hp with rfl | hp
      · exact hg.buffer_mem
      · rw [List.mem_singleton.mp hp]
        exact hg.msg_mem
    · exact List.nodup_cons.mpr ⟨by simpa using hg.ne, List.nodup_singleton _⟩
    · -- nothing but the message and the buffer is left
      rcases hg.own p hp with rfl | rfl | hcommand
      · exact .inl (by simp)
      · exact .inl (by simp)
      · exact .inr hcommand
  -- the payload is a new block, so it is none of those the thread has
  | some payload =>
    have hpayload : payload ∉ g.own := hr payload rfl
    have hmsg : payload ≠ msg := by
      rintro rfl
      exact hpayload hg.msg_mem
    have hbuffer : payload ≠ buffer := by
      rintro rfl
      exact hpayload hg.buffer_mem
    refine obeys_op_bind.mpr ⟨⟨Finset.mem_insert_of_mem hg.msg_mem, ?_, ⟨none, hg.message⟩,
      Finset.mem_insert_self _ _⟩, ?_⟩
    · show g.dequeued ≠ some msg
      rw [hg.dequeued]
      nofun
    -- the payload now belongs to the message
    rintro _ g' ⟨-, hg'⟩
    have hloaded : Loaded g' msg buffer payload := by
      rw [hg']
      refine ⟨rfl, hg.dequeued, hg.completing, Finset.mem_insert_of_mem hg.msg_mem,
        Finset.mem_insert_of_mem hg.buffer_mem, Finset.mem_insert_self _ _, hg.ne, hmsg,
        hbuffer, ?_⟩
      intro p hp
      rcases Finset.mem_insert.mp hp with rfl | hp
      · exact .inr (.inr (.inl rfl))
      · rcases hg.own p hp with h | h | h
        · exact .inl h
        · exact .inr (.inl h)
        · exact .inr (.inr (.inr h))
    -- the buffer is read, the payload is written
    refine obeys_op_bind.mpr ⟨hloaded.buffer_mem, ?_⟩
    rintro req g'' ⟨-, rfl⟩
    refine obeys_op_bind.mpr ⟨hloaded.payload_mem, ?_⟩
    rintro _ g'' ⟨-, rfl⟩
    refine obeys_op_bind.mpr ⟨trivial, ?_⟩
    rintro sapSocket g'' ⟨-, hg''⟩
    have hsocket : g''.socket = sapSocket := by
      rw [hg'']
      rfl
    replace hloaded : Loaded g'' msg buffer payload := by
      rw [hg'']
      exact { hloaded with }
    -- with a socket the message is dispatched, and freed with its parts
    split
    · next hfound =>
      refine (obeys_bind _ _).mpr ((dispatchRequest_obeys hloaded (hsocket.trans hfound)).mono ?_)
      exact fun _ _ hlent => lent_obeys hlent
    · -- without one a failure is sent, and all three blocks are freed
      refine obeys_op_bind.mpr ⟨.inl ⟨some payload, hloaded.message,
        .inr ⟨payload, hloaded.payload_mem, rfl⟩⟩, ?_⟩
      rintro header g'' ⟨-, rfl⟩
      refine @failed_obeys _ _ _ [] [payload, buffer, msg] ?_ ?_ fun p hp => ?_
      · intro p hp
        simp only [List.reduceOption_nil, List.nil_append, List.mem_cons, List.not_mem_nil,
          or_false] at hp
        rcases hp with rfl | rfl | rfl
        · exact hloaded.payload_mem
        · exact hloaded.buffer_mem
        · exact hloaded.msg_mem
      · -- the three are different blocks
        simp [hmsg, hbuffer, hg.ne]
      · rcases hloaded.own p hp with rfl | rfl | rfl | hcommand
        · exact .inl (by simp)
        · exact .inl (by simp)
        · exact .inl (by simp)
        · exact .inr hcommand

/-- The message is there, and nothing else but the copy of the command, if it is still to be
freed. -/
structure Created (g : Hand) (owned : List (Option Ptr)) (msg : Ptr) : Prop where
  message : g.msg = some (msg, none)
  dequeued : g.dequeued = none
  completing : g.completing = none
  msg_mem : msg ∈ g.own
  own : ∀ p ∈ g.own, p = msg ∨ g.command = some p
  owned_mem : ∀ p ∈ owned.reduceOption, p ∈ g.own ∧ p ≠ msg
  nodup : owned.reduceOption.Nodup

/-- A method from `pb_get_encoded_size` on. Each failure frees what the thread has by then: the
message and the command, and the buffer once there is one. -/
theorem encodeAndDispatch_obeys {msgId : MsgId} {token : ℤ} {req : SapRequest}
    {owned : List (Option Ptr)} {msg : Ptr} (hg : Created g owned msg) :
    (encodeAndDispatch pb msgId token req owned msg).Obeys handProtocol (fun _ => Hand.Done) g := by
  -- the failures before there is a buffer
  have hfailed : (sendFailedResponse msgId token (owned ++ [some msg])).Obeys handProtocol
      (fun _ => Hand.Done) g := by
    refine @failed_obeys g _ _ owned [msg] (fun p hp => ?_) ?_ fun p hp => ?_
    · rcases List.mem_append.mp hp with hp | hp
      · exact (hg.owned_mem p hp).1
      · rw [List.mem_singleton.mp hp]
        exact hg.msg_mem
    · refine List.nodup_append.mpr ⟨hg.nodup, List.nodup_singleton _, fun p hp p' hp' => ?_⟩
      rw [List.mem_singleton.mp hp']
      exact (hg.owned_mem p hp).2
    · exact (hg.own p hp).imp_left List.mem_singleton.mpr
  unfold encodeAndDispatch
  split
  · -- the size could not be computed
    exact hfailed
  · refine obeys_op_bind.mpr ⟨trivial, ?_⟩
    rintro r g' ⟨hr, hg'⟩
    cases r with
    | none =>
      rw [hg']
      exact hfailed
    -- the buffer is a new block
    | some buffer =>
      have hbuffer : buffer ∉ g.own := hr buffer rfl
      have hne : buffer ≠ msg := by
        rintro rfl
        exact hbuffer hg.msg_mem
      have hown' : g'.own = insert buffer g.own := by rw [hg']; rfl
      have hcommand' : g'.command = g.command := by rw [hg']; rfl
      have hall : ∀ p ∈ g'.own, p = buffer ∨ p = msg ∨ g'.command = some p := by
        intro p hp
        rw [hown'] at hp
        rw [hcommand']
        exact (Finset.mem_insert.mp hp).imp_right (hg.own p)
      have hmsg : msg ∈ g'.own := by
        rw [hown']
        exact Finset.mem_insert_of_mem hg.msg_mem
      have hmem : buffer ∈ g'.own := by
        rw [hown']
        exact Finset.mem_insert_self _ _
      dsimp only
      -- the encoding fails: buffer, command and message are freed
      split
      · refine @failed_obeys g' _ _ owned [buffer, msg] (fun p hp => ?_) ?_ fun p hp => ?_
        · rcases List.mem_append.mp hp with hp | hp
          · rw [hown']
            exact Finset.mem_insert_of_mem (hg.owned_mem p hp).1
          · rcases List.mem_cons.mp hp with rfl | hp
            · exact hmem
            · rw [List.mem_singleton.mp hp]
              exact hmsg
        · refine List.nodup_append.mpr ⟨hg.nodup, by simpa using hne, fun p hp p' hp' => ?_⟩
          rcases List.mem_cons.mp hp' with rfl | hp'
          · rintro rfl
            exact hbuffer (hg.owned_mem p hp).1
          · rw [List.mem_singleton.mp hp']
            exact (hg.owned_mem p hp).2
        · rcases hall p hp with rfl | rfl | hcommand
          · exact .inl List.mem_cons_self
          · exact .inl (List.mem_cons_of_mem _ (List.mem_singleton_self _))
          · exact .inr hcommand
      · -- it succeeds, and the command has been freed when the next function is called
        refine obeys_op_bind.mpr ⟨hmem, ?_⟩
        rintro _ g'' ⟨-, hg''⟩
        rw [hg'']
        refine addPayloadAndDispatchRequest_obeys ⟨?_, ?_, ?_, hmsg, hmem, hne, fun p hp => ?_⟩
        · rw [← hg.message, hg']
          rfl
        · rw [← hg.dequeued, hg']
          rfl
        · rw [← hg.completing, hg']
          rfl
        · rcases hall p hp with h | h | h
          · exact .inr (.inl h)
          · exact .inl h
          · exact .inr (.inr h)

/-- The header of a message is made first. -/
theorem createMsgHeader_obeys {msgId : MsgId} {token : ℤ} {f : Option Ptr → Code Unit}
    {post : Unit → Hand → Prop} (hnone : (f none).Obeys handProtocol post Hand.empty)
    (hsome : ∀ msg g, g.msg = some (msg, none) → g.own = {msg} → g.dequeued = none →
      g.completing = none → (f (some msg)).Obeys handProtocol post g) :
    (createMsgHeader msgId token >>= f).Obeys handProtocol post Hand.empty := by
  refine (obeys_bind _ _).mpr (obeys_op_bind.mpr ⟨trivial, ?_⟩)
  rintro r g' ⟨-, rfl⟩
  cases r with
  | none => exact hnone
  | some msg =>
    refine obeys_op_bind.mpr ⟨⟨Finset.mem_insert_self _ _, nofun, rfl, rfl⟩, ?_⟩
    rintro _ g' ⟨-, rfl⟩
    exact hsome msg _ rfl rfl rfl rfl

theorem sapRequest_obeys (msgId : MsgId) (token : ℤ) (req : SapRequest) :
    (sapRequest pb msgId token req).Obeys handProtocol (fun _ => Hand.Done) Hand.empty := by
  refine createMsgHeader_obeys ?_ fun msg g hmessage hown hdequeued hcompleting => ?_
  · exact @failed_obeys _ _ _ [] [] nofun List.nodup_nil nofun
  · refine encodeAndDispatch_obeys ⟨hmessage, hdequeued, hcompleting, ?_, fun p hp => ?_, nofun,
      List.nodup_nil⟩
    · rw [hown]
      exact Finset.mem_singleton_self _
    · rw [hown] at hp
      exact .inl (Finset.mem_singleton.mp hp)

/-- The APDU method keeps to the protocol. The copy of the command is a block of its own, and
without memory for it the header is freed. -/
theorem apduReq_obeys (token type : ℤ) (command : List UInt8) :
    (apduReq pb token type command).Obeys handProtocol (fun _ => Hand.Done) Hand.empty := by
  refine createMsgHeader_obeys ?_ fun msg g hmessage hown hdequeued hcompleting => ?_
  · -- no header, so nothing to free
    exact @failed_obeys _ _ _ [] [] nofun List.nodup_nil nofun
  · have hmsg : msg ∈ g.own := by
      rw [hown]
      exact Finset.mem_singleton_self _
    -- the thread has the header and nothing else
    have hall : ∀ p ∈ g.own, p = msg := by
      intro p hp
      rw [hown] at hp
      exact Finset.mem_singleton.mp hp
    dsimp only
    split
    · refine obeys_op_bind.mpr ⟨trivial, ?_⟩
      rintro r g' ⟨hr, hg'⟩
      cases r with
      -- no memory for the copy of the command: the header is freed
      | none =>
        rw [hg']
        exact @failed_obeys g _ _ [] [msg] (by simpa using hmsg) (List.nodup_singleton _)
          fun p hp => .inl (List.mem_singleton.mpr (hall p hp))
      -- the copy is a block of its own
      | some reqCommand =>
        have hne : reqCommand ≠ msg := by
          rintro rfl
          exact hr reqCommand rfl hmsg
        rw [hg']
        refine obeys_op_bind.mpr ⟨Finset.mem_insert_self _ _, ?_⟩
        rintro _ g'' ⟨-, rfl⟩
        refine encodeAndDispatch_obeys ⟨hmessage, hdequeued, hcompleting,
          Finset.mem_insert_of_mem hmsg, fun p hp => ?_, fun p hp => ?_, List.nodup_singleton _⟩
        · rcases Finset.mem_insert.mp hp with rfl | hp
          · exact .inr rfl
          · exact .inl (hall p hp)
        · -- the copy is what has to be freed after the encoding
          obtain rfl : p = reqCommand := List.mem_singleton.mp hp
          exact ⟨Finset.mem_insert_self _ _, hne⟩
    · -- an empty command: there is nothing besides the header
      exact encodeAndDispatch_obeys ⟨hmessage, hdequeued, hcompleting, hmsg, fun p hp =>
        .inl (hall p hp), nofun, List.nodup_nil⟩

/-- **The request methods keep to the protocol.** -/
theorem RequestMethod.obeys {method : Code Unit} (h : RequestMethod pb method) :
    method.Obeys handProtocol (fun _ => Hand.Done) Hand.empty := by
  cases h with
  | apduReq token type command => exact apduReq_obeys token type command
  | _ => exact sapRequest_obeys _ _ _

/-! ### Completions -/

theorem sendResponse_obeys {header : MsgHeader} {response : List UInt8} {q h : Ptr} :
    (sendResponse pb header response).Obeys handProtocol (fun _ g' => g' = Hand.completionOf q h)
      (Hand.completionOf q h) := by
  refine obeys_op_bind.mpr ⟨trivial, ?_⟩
  rintro r g' ⟨-, hg'⟩
  -- the response may be refused its memory, and then the thread is as before
  cases r with
  | none => exact hg'
  | some payload =>
    have hmem : payload ∈ g'.own := by
      rw [hg']
      exact Finset.mem_insert_self _ _
    refine obeys_op_bind.mpr ⟨hmem, ?_⟩
    -- the message is sent between the allocation and the end
    rintro _ _ ⟨-, rfl⟩
    refine (obeys_bind _ _).mpr (messaging_obeys (processResponse_isMessaging _ _ _) ?_)
    refine ⟨hmem, ?_⟩
    rintro _ g₂ ⟨-, hg₂⟩
    -- the response is freed again
    have hfreed : g₂ = { Hand.completionOf q h with
        own := (insert payload ∅ : Finset Ptr).erase payload } := by
      rw [hg₂, hg']
      rfl
    rw [Finset.erase_insert (Finset.notMem_empty _)] at hfreed
    exact hfreed

/-- **A completion keeps to the protocol.** The request is read, and with it the header; then the
request is dequeued, which frees it, and the thread is left with the header, which it frees at the
end. -/
theorem sOnRequestComplete_obeys (q : Ptr) (response : List UInt8) :
    (sOnRequestComplete pb q response).Obeys handProtocol (fun _ => Hand.Done) Hand.empty := by
  refine obeys_op_bind.mpr ⟨rfl, ?_⟩
  rintro _ g' ⟨-, rfl⟩
  refine obeys_op_bind.mpr ⟨trivial, ?_⟩
  rintro sapSocket g' ⟨hsocket, rfl⟩
  -- the socket is there, since a request is pending
  obtain rfl : sapSocket = true := hsocket nofun
  rw [if_pos rfl]
  -- the request is read, and with it the header that is answered and freed at the end
  refine obeys_op_bind.mpr ⟨⟨none, rfl⟩, ?_⟩
  rintro request g' ⟨-, hg'⟩
  replace hg' : g' = Hand.completionOf q request.curr := hg'
  rw [hg']
  refine obeys_op_bind.mpr ⟨.inr ⟨q, rfl⟩, ?_⟩
  rintro header g₁ ⟨-, hg₁⟩
  rw [hg₁]
  refine (obeys_bind _ _).mpr (sendResponse_obeys.mono fun _ g₂ hg₂ => ?_)
  rw [hg₂]
  -- the header is read again for its id and token
  refine obeys_op_bind.mpr ⟨.inr ⟨q, rfl⟩, ?_⟩
  rintro header' g₃ ⟨-, hg₃⟩
  rw [hg₃]
  -- the request is dequeued, which frees it
  refine obeys_op_bind.mpr ⟨⟨_, rfl⟩, ?_⟩
  rintro found g₄ ⟨-, hg₄⟩
  -- the thread has nothing but the header
  have hown : g₄.own = {request.curr} := by
    rw [hg₄]
    rfl
  refine ⟨?_, ?_⟩
  · show request.curr ∈ g₄.own
    rw [hown]
    exact Finset.mem_singleton_self _
  · -- and the last step frees the header
    rintro _ g₅ ⟨-, rfl⟩ p hp
    have hp' : p ∈ g₄.own.erase request.curr := hp
    rw [hown, Finset.erase_singleton] at hp'
    exact absurd hp' (Finset.notMem_empty _)

end Programs

end Sap

end BlueCommon
