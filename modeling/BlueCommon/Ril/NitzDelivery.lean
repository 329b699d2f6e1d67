import BlueCommon.Ril.ClientRegistration
import BlueCommon.Ril.PendingLists

/-!
# What libril does with a NITZ message

What the calls of libril do to the stored NITZ message and to the clients, when no allocation for a
message and no call that carries one fails.

* `nitz_arrives`: a message is sent to the client of its slot, or stored if there is none.
* `client_connects`: a new client gets the stored message.
* `Quiet`: all that the other calls do.
-/

namespace BlueCommon.Ril

open Interaction Program

/-! ### Calls -/

/-- A call of libril, by the vendor or by a client. -/
inductive RilCall
  | addRequestToList (serial slotId request : ℤ)
  | rilOnRequestAck (t : Option Addr)
  | rilOnRequestComplete (t : Option Addr) (e : ℤ)
  | rilOnUnsolicitedResponse (unsolResponse : ℤ) (data : Option CharBuffer) (datalen : ℕ)
      (socketId : ℤ)
  | setResponseFunctions (slotId : ℤ) (radioResponse radioIndication : Option ℕ)
  | setOemHookFunctions (slotId : ℤ) (oemHookResponse oemHookIndication : Option ℕ)

/-- What the call runs: a function of libril that the vendor calls, or a method by which a client is
registered. -/
def RilCall.code (cfg : Config) : RilCall → Code Unit
  | .addRequestToList serial slotId request =>
    Ril.addRequestToList cfg serial slotId request >>= fun _ => pure ()
  | .rilOnRequestAck t => Ril.rilOnRequestAck cfg t
  | .rilOnRequestComplete t e => Ril.rilOnRequestComplete cfg t e
  | .rilOnUnsolicitedResponse unsolResponse data datalen socketId =>
    Ril.rilOnUnsolicitedResponse cfg unsolResponse data datalen socketId
  | .setResponseFunctions slotId radioResponse radioIndication =>
    Ril.setResponseFunctions cfg slotId radioResponse radioIndication
  | .setOemHookFunctions slotId oemHookResponse oemHookIndication =>
    Ril.setOemHookFunctions cfg slotId oemHookResponse oemHookIndication

/-- Which results the rest of the process may give. -/
abbrev Environment : Type := (o : RilOp) → o.Res → Prop

/-- How the operations behave in an environment. -/
def RilOp.semIn (env : Environment) (cfg : Config) (t : ℕ) : Semantics rilSignature RilState :=
  fun o r s s' => env o r ∧ RilOp.sem cfg t o r s s'

/-- The calls that carry a NITZ message succeed, and so do the allocations for it. What else fails
does not matter. -/
def Reliable : Environment
  | .client (.call _ _ (.nitzTimeReceived ..)), isOk => isOk = true
  | .nitz (.calloc _), allocated => allocated = true
  | .wake .scheduleWakeTimeout, scheduled => scheduled = true
  | _, _ => True

/-- The client of the slot that takes indications, if there is one. -/
def RilState.client (s : RilState) (slotId : ℤ) : Option Callback :=
  (s.clients.slot slotId).callback .mRadioIndication

/-- The calls to clients between two states. -/
def newCalls (s s' : RilState) : List ClientCall :=
  s'.clients.calls.take (s'.clients.calls.length - s.clients.calls.length)

variable {cfg : Config} {env : Environment} {t : ℕ} {s s' s₁ s₂ : RilState} {α : Type}

theorem newCalls_of_append {new : List ClientCall} (h : s'.clients.calls = new ++ s.clients.calls) :
    newCalls s s' = new := by
  unfold newCalls
  rw [h, List.length_append, Nat.add_sub_cancel, List.take_left]

/-! ### Quiet calls -/

section Quiet

/-- The operations that have nothing to do with NITZ messages and connect no client. -/
def RilOp.IsQuiet : RilOp → Prop
  | .nitz _ => False
  | .client (.call _ _ message) => ¬message.IsNitz
  | .client (.setResponseFunctions ..) => False
  | _ => True

/-- No NITZ message is stored or sent, and clients are lost at most. -/
structure Quiet (s s' : RilState) : Prop where
  nitz : s'.nitz = s.nitz
  client : ∀ slotId, s'.client slotId = s.client slotId ∨ s'.client slotId = none
  calls : ∃ new, s'.clients.calls = new ++ s.clients.calls ∧ ∀ call ∈ new, ¬call.message.IsNitz

theorem Quiet.refl : Quiet s s :=
  ⟨rfl, fun _ => .inl rfl, [], rfl, fun _ hmem => absurd hmem List.not_mem_nil⟩

theorem Quiet.trans (h : Quiet s s₁) (h' : Quiet s₁ s₂) : Quiet s s₂ := by
  obtain ⟨new, hcalls, hnew⟩ := h.calls
  obtain ⟨new', hcalls', hnew'⟩ := h'.calls
  refine ⟨h'.nitz.trans h.nitz, fun slotId => ?_, new' ++ new, ?_, fun call hmem => ?_⟩
  · rcases h'.client slotId with heq | hnone
    · rw [heq]
      exact h.client slotId
    · exact .inr hnone
  · rw [hcalls', hcalls, List.append_assoc]
  · exact (List.mem_append.mp hmem).elim (hnew' call) (hnew call)

theorem Quiet.of_same (hnitz : s'.nitz = s.nitz) (hclients : s'.clients = s.clients) : Quiet s s' :=
  ⟨hnitz, fun _ => by rw [RilState.client, hclients]; exact .inl rfl, [], by rw [hclients]; rfl,
    fun _ hmem => absurd hmem List.not_mem_nil⟩

/-- A quiet operation on the clients. The call that is new brings no NITZ time, and an operation on
another service leaves the callback of the radio service as it is. -/
theorem ClientOp.quiet {o : ClientOp} {r : o.Res} {c : Clients} (ho : (RilOp.client o).IsQuiet)
    (hsem : o.sem t r s.clients c) : Quiet s { s with clients := c } := by
  cases o with
  | get slotId field =>
    obtain ⟨-, rfl⟩ := hsem
    exact .refl
  | castFrom callback =>
    obtain ⟨-, rfl⟩ := hsem
    exact .refl
  | call slotId callback message =>
    obtain rfl := hsem
    refine ⟨rfl, fun _ => .inl rfl, [⟨t, slotId, callback, message, r⟩], rfl, fun call hmem => ?_⟩
    -- the call that is new brings no NITZ time
    obtain rfl := List.mem_singleton.mp hmem
    exact ho
  | getCounter slotId service =>
    obtain ⟨-, rfl⟩ := hsem
    exact .refl
  | resetIfCurrent slotId service counter =>
    have hsem : if counter = (s.clients.slot slotId).counter service then
        (s.clients.slot slotId).counter service ≠ intMax ∧ c = s.clients.reset t slotId service
      else c = s.clients := hsem
    split at hsem
    · obtain ⟨-, rfl⟩ := hsem
      refine ⟨rfl, fun slotId' => ?_, [], rfl, fun _ hmem => absurd hmem List.not_mem_nil⟩
      -- only the radio service has the callback that is asked for
      by_cases hsame : slotId' = slotId ∧ service = .radio
      · obtain ⟨rfl, rfl⟩ := hsame
        exact .inr (Clients.replace_callback_self rfl)
      · refine .inl (Clients.replace_callback_of_ne ?_)
        exact (not_and_or.mp hsame).imp_right fun hne heq => hne heq.symm
    · obtain rfl := hsem
      exact .refl
  | setResponseFunctions slotId response indication => exact absurd ho id
  | setOemHookFunctions slotId response indication =>
    obtain ⟨-, rfl⟩ := hsem
    refine ⟨rfl, fun slotId' => .inl ?_, [], rfl, fun _ hmem => absurd hmem List.not_mem_nil⟩
    exact Clients.replace_callback_of_ne (.inr (by decide))

/-- A quiet operation. -/
theorem RilOp.quiet {o : RilOp} {r : o.Res} (ho : o.IsQuiet) (hsem : RilOp.sem cfg t o r s s') :
    Quiet s s' := by
  -- what a command does to the clients or to the NITZ time, and most do neither
  cases o with
  | pending o =>
    obtain ⟨_, -, rfl⟩ := hsem
    exact .of_same rfl rfl
  | lock o =>
    obtain ⟨_, -, rfl⟩ := hsem
    exact .of_same rfl rfl
  | client o =>
    obtain ⟨_, hsem, rfl⟩ := hsem
    exact ClientOp.quiet ho hsem
  | nitz o => exact absurd ho id
  | wake o =>
    obtain ⟨_, -, rfl⟩ := hsem
    exact .of_same rfl rfl
  | vendor o =>
    obtain rfl : s' = s := hsem
    exact .refl
  | mark o =>
    obtain rfl : s' = s := hsem
    exact .refl

theorem quiet_runs {p : Code α} {a : α} (hp : p.Only RilOp.IsQuiet)
    (h : p.Runs (RilOp.semIn env cfg t) s a s') :
    Quiet s s' :=
  Only.invariant (Quiet s) (fun _ _ _ _ ho hsem hquiet =>
    hquiet.trans (RilOp.quiet ho hsem.2)) hp h .refl

variable {slotId serial : ℤ} {type : ResponseType} {service : Service} {callback : Callback}
  {message : ClientMessage}

theorem checkReturnStatus_isQuiet (isOk : Bool) :
    (checkReturnStatus cfg slotId isOk service).Only RilOp.IsQuiet := by
  cases isOk with
  | true => exact trivial
  | false =>
    refine ⟨trivial, fun _ => ⟨trivial, fun _ => ⟨trivial, fun _ => ⟨trivial, fun _ => ?_⟩⟩⟩⟩
    exact ⟨trivial, fun _ => ⟨trivial, fun _ => trivial⟩⟩

theorem callAndCheck_isQuiet (hmessage : ¬message.IsNitz) :
    (callAndCheck cfg slotId service callback message).Only RilOp.IsQuiet :=
  ⟨hmessage, fun isOk => ⟨trivial, fun _ => checkReturnStatus_isQuiet isOk⟩⟩

theorem ifRegistered_isQuiet {field : CallbackField} {absent : Code α} {present : Callback → Code α}
    (habsent : absent.Only RilOp.IsQuiet) (hpresent : ∀ c, (present c).Only RilOp.IsQuiet) :
    (ifRegistered slotId field absent present).Only RilOp.IsQuiet := by
  refine ⟨trivial, fun first => ?_⟩
  cases first with
  | none => exact habsent
  | some _ =>
    refine ⟨trivial, fun second => ?_⟩
    cases second with
    | none => exact ⟨trivial, fun r => nomatch r⟩
    | some c => exact hpresent c

theorem acknowledgeRequest_isQuiet : (acknowledgeRequest cfg slotId serial).Only RilOp.IsQuiet :=
  ifRegistered_isQuiet trivial fun _ => callAndCheck_isQuiet id

theorem responseFunction_isQuiet (f : ResponseFunction) :
    (f.run cfg slotId type serial).Only RilOp.IsQuiet := by
  -- by the kind of response, each with its own clients to look for
  cases f with
  | radio => exact ifRegistered_isQuiet trivial fun _ => callAndCheck_isQuiet id
  | radioV1_1 => exact ifRegistered_isQuiet trivial fun _ => callAndCheck_isQuiet id
  -- the newer client is asked first, then the older one
  | setSimCardPower =>
    refine ⟨trivial, fun response => ⟨trivial, fun responseV1_1 => ?_⟩⟩
    cases responseV1_1 with
    | some c => exact callAndCheck_isQuiet id
    | none =>
      cases response with
      | some c => exact callAndCheck_isQuiet id
      | none => exact trivial
  | oemHook =>
    show Only _ (if cfg.oemHookEnabled then _ else _)
    split
    · exact ifRegistered_isQuiet trivial fun _ => callAndCheck_isQuiet id
    · exact trivial

theorem sendIndication_isQuiet {field : CallbackField} {unsolResponse : ℤ} :
    (sendIndication cfg slotId field unsolResponse type).Only RilOp.IsQuiet := by
  refine ifRegistered_isQuiet trivial fun callback => Only.op_bind trivial fun ok => ?_
  split
  · exact Only.bind (callAndCheck_isQuiet id) fun _ => trivial
  · exact trivial

theorem keepaliveStatusInd_isQuiet : (keepaliveStatusInd cfg slotId type).Only RilOp.IsQuiet := by
  refine ifRegistered_isQuiet trivial fun callback => Only.op_bind trivial fun cast => ?_
  cases cast with
  | none => exact trivial
  | some radioIndicationV1_1 =>
    refine Only.op_bind trivial fun ok => ?_
    split
    · cases radioIndicationV1_1 with
      | none => exact ⟨trivial, fun r => nomatch r⟩
      | some callback => exact Only.bind (callAndCheck_isQuiet id) fun _ => trivial
    · exact trivial

theorem indicationFunction_isQuiet {f : IndicationFunction} (hf : f ≠ .nitzTimeReceived)
    {unsolResponse : ℤ} {data : Option CharBuffer} {datalen : ℕ} :
    (f.run cfg slotId unsolResponse type data datalen).Only RilOp.IsQuiet := by
  cases f with
  | radio => exact sendIndication_isQuiet
  | radioV1_1 => exact sendIndication_isQuiet
  | keepaliveStatus => exact keepaliveStatusInd_isQuiet
  | oemHook =>
    show Only _ (if cfg.oemHookEnabled then _ else _)
    split
    · exact sendIndication_isQuiet
    · exact trivial
  | nitzTimeReceived => exact absurd rfl hf

/-- Only the NITZ message has the function for NITZ messages. -/
theorem indicationFunction_ne_nitz {unsolResponse : ℤ}
    (hcode : unsolResponse ≠ Unsol.nitzTimeReceived)
    {f : IndicationFunction} (hf : indicationFunction unsolResponse = some f) :
    f ≠ .nitzTimeReceived := by
  rintro rfl
  unfold indicationFunction at hf
  rw [if_neg hcode] at hf
  split at hf
  · exact nomatch hf
  · split at hf
    · exact nomatch hf
    · split at hf
      · exact nomatch hf
      · split at hf <;> exact nomatch hf

/-- An indication that is no NITZ message. Its function is any but that of the NITZ time, and what
follows the call, the wake lock and its timeout, takes no part in the delivery. -/
theorem rilOnUnsolicitedResponse_isQuiet {unsolResponse : ℤ}
    (hcode : unsolResponse ≠ Unsol.nitzTimeReceived)
    {data : Option CharBuffer} {datalen : ℕ} {socketId : ℤ} :
    (rilOnUnsolicitedResponse cfg unsolResponse data datalen socketId).Only RilOp.IsQuiet := by
  unfold rilOnUnsolicitedResponse
  split
  · exact trivial
  split
  · exact trivial
  unfold passIndicationOn lockForIndication afterIndication
  rw [if_neg hcode]
  -- the wake lock and the rwlock
  -- the indication function is any but that of the NITZ time
  refine Only.bind ?_ fun _ => Only.op_bind trivial fun _ => ?_
  · split
    · exact ⟨trivial, fun _ => trivial⟩
    · exact trivial
  refine Only.bind ?_ fun ret => Only.op_bind trivial fun _ => ?_
  · -- another indication than the NITZ time
    unfold callIndicationFunction
    split
    next f hf => exact indicationFunction_isQuiet (indicationFunction_ne_nitz hcode hf)
    next => exact trivial
  -- what follows takes no part in the delivery
  refine Only.bind (Only.bind ?_ fun scheduled => ?_) fun ok => ?_
  · split
    · exact ⟨trivial, fun _ => trivial⟩
    · exact trivial
  · split
    · -- nothing is kept, since the code is another one
      rw [if_neg fun h => hcode h.2]
      exact trivial
    · exact trivial
  · split
    · exact ⟨trivial, fun _ => trivial⟩
    · exact trivial

theorem addRequestToList_isQuiet {request : ℤ} :
    (addRequestToList cfg serial slotId request).Only RilOp.IsQuiet := by
  unfold addRequestToList
  split
  · exact trivial
  · refine ⟨trivial, fun pRI => ?_⟩
    cases pRI with
    | none => exact trivial
    | some a => exact ⟨trivial, fun _ => ⟨trivial, fun _ => trivial⟩⟩

theorem callResponseFunction_isQuiet {pRI : Addr} {info : RequestInfo} {e : ℤ} :
    (callResponseFunction cfg pRI info type e).Only RilOp.IsQuiet := by
  unfold callResponseFunction
  split
  · exact ⟨trivial, fun r => nomatch r⟩
  · exact ⟨trivial, fun _ => responseFunction_isQuiet _⟩

theorem rilOnRequestAck_isQuiet (token : Option Addr) :
    (rilOnRequestAck cfg token).Only RilOp.IsQuiet := by
  cases token with
  | none => exact trivial
  | some pRI =>
    refine Only.bind ⟨trivial, fun _ => ⟨trivial, fun _ => trivial⟩⟩ fun found => ?_
    cases found with
    | false => exact trivial
    | true =>
      refine ⟨trivial, fun info => ?_⟩
      show Only _ (if info.cancelled = 0 then _ else _)
      split
      · refine Only.op_bind trivial fun _ => Only.op_bind trivial fun _ => ?_
        exact Only.bind acknowledgeRequest_isQuiet fun _ => ⟨trivial, fun _ => trivial⟩
      · exact trivial

/-- The completion of a request takes no part in the delivery of NITZ times. A null token and one
that is not pending are ignored, a local request has no response, and the others have one that is no
NITZ time. -/
theorem rilOnRequestComplete_isQuiet (token : Option Addr) (e : ℤ) :
    (rilOnRequestComplete cfg token e).Only RilOp.IsQuiet := by
  have hfree : ∀ pRI, (freeRequestInfo pRI).Only RilOp.IsQuiet :=
    fun _ => ⟨trivial, fun _ => trivial⟩
  -- a null token is ignored
  cases token with
  | none => exact trivial
  | some pRI =>
    refine Only.bind ⟨trivial, fun _ => ⟨trivial, fun _ => trivial⟩⟩ fun found => ?_
    -- a request that is not pending is ignored as well
    cases found with
    | false => exact trivial
    | true =>
      refine ⟨trivial, fun info => ?_⟩
      show Only _ (if info.isLocal > 0 then _ else _)
      -- a local request has no response to send
      split
      · exact hfree pRI
      · refine Only.bind ?_ fun _ => hfree pRI
        split
        · -- the answer goes to a function of the request, which is no indication
          refine Only.bind ?_ fun type => Only.op_bind trivial fun _ => ?_
          · unfold solicitedResponseType
            split
            · exact ⟨trivial, fun _ => trivial⟩
            · exact trivial
          · exact Only.bind callResponseFunction_isQuiet fun _ => ⟨trivial, fun _ => trivial⟩
        · exact trivial

end Quiet

/-! ### A message arrives -/

section Arrival

variable {slotId : ℤ} {type : ResponseType} {buf : CharBuffer} {datalen : ℕ}

/-- The state after a NITZ message was sent to the client of the slot: the call is recorded as one
that went well. -/
def RilState.sent (s : RilState) (t : ℕ) (slotId : ℤ) (callback : Callback) (type : ResponseType)
    (string : List UInt8) (time : ℤ) : RilState :=
  { s with
    clients := { s.clients with
      calls :=
        ⟨t, slotId, callback, .nitzTimeReceived type string time, true⟩ :: s.clients.calls } }

theorem sent_clients {callback : Callback} {string : List UInt8} {time : ℤ}
    (h : s'.clients = s.clients) :
    (s'.sent t slotId callback type string time).clients =
      (s.sent t slotId callback type string time).clients := by
  unfold RilState.sent
  rw [h]

/-- A message is sent to the client of the slot, if there is one. -/
theorem nitzTimeReceivedInd_runs {r : ℤ} (hlen : 0 < datalen)
    (h : (nitzTimeReceivedInd cfg slotId type (some buf) datalen).Runs
      (RilOp.semIn Reliable cfg t) s r s') :
    (s.client slotId = none ∧ r = -1 ∧ s' = s) ∨
      ∃ callback string, s.client slotId = some callback ∧ buf.Reads string ∧ r = 0 ∧
        s' = s.sent t slotId callback type string (s.nitz.nitzTimeReceived slotId) := by
  obtain ⟨first, _, ⟨-, _, ⟨hfirst, rfl⟩, rfl⟩, h⟩ := h
  cases first with
  -- no client: the message is not delivered
  | none =>
    obtain ⟨rfl, rfl⟩ := h
    exact .inl ⟨hfirst.symm, rfl, rfl⟩
  | some callback =>
    -- the client is looked up twice, under the same lock
    obtain ⟨second, _, ⟨-, _, ⟨hsecond, rfl⟩, rfl⟩, h⟩ := h
    obtain rfl : second = some callback := hsecond.trans hfirst.symm
    -- the length was checked by the caller, and the text is read
    change Program.Runs _ (if datalen = 0 then _ else _) _ _ _ at h
    rw [if_neg hlen.ne'] at h
    obtain ⟨string, _, ⟨-, _, ⟨hreads, rfl⟩, rfl⟩, time, _, ⟨-, _, ⟨rfl, rfl⟩, rfl⟩, h⟩ := h
    -- the call succeeds, so that its status needs no attention
    obtain ⟨isOk, _, ⟨hok, _, rfl, rfl⟩, _, _, ⟨-, rfl⟩, h⟩ := h
    obtain rfl : isOk = true := hok
    obtain ⟨rfl, rfl⟩ := h
    exact .inr ⟨callback, string, hfirst.symm, hreads, rfl, rfl⟩

/-- A message that no client took is stored. -/
theorem keepNITZTimeData_runs {stored : Bool}
    (h : (keepNITZTimeData (some buf) datalen).Runs (RilOp.semIn Reliable cfg t) s stored s') :
    stored = true ∧ s' = { s with nitz := { s.nitz with
      lastNITZTimeData := some (buf.take datalen), lastNITZTimeDataSize := datalen } } := by
  unfold keepNITZTimeData at h
  obtain ⟨last, _, ⟨-, _, ⟨-, rfl⟩, rfl⟩, h⟩ := runs_op_bind.mp h
  obtain ⟨_, s₁, hfree, h⟩ := (runs_bind _ _).mp h
  -- the old copy is freed, whether there was one or not
  have hfreed : ∃ data, s₁ = { s with nitz := { s.nitz with lastNITZTimeData := data } } := by
    split at hfree
    · obtain ⟨-, _, rfl, rfl⟩ := runs_op_ret.mp hfree
      exact ⟨_, rfl⟩
    · obtain ⟨-, rfl⟩ := hfree
      exact ⟨_, rfl⟩
  obtain ⟨data, rfl⟩ := hfreed
  -- with memory for the new one the call keeps it
  obtain ⟨allocated, _, ⟨hallocated, _, hcalloc, rfl⟩, h⟩ := runs_op_bind.mp h
  obtain rfl : allocated = true := hallocated
  obtain rfl := hcalloc
  obtain ⟨_, _, ⟨-, _, rfl, rfl⟩, rfl, rfl⟩ := h
  exact ⟨rfl, rfl⟩

/-- The reception time of the message is noted. -/
theorem lockForIndication_runs (h : (lockForIndication cfg slotId Unsol.nitzTimeReceived).Runs
      (RilOp.semIn Reliable cfg t) s () s') :
    ∃ time, s'.clients = s.clients ∧
      s'.nitz =
        { s.nitz with
          nitzTimeReceived := Function.update s.nitz.nitzTimeReceived slotId time } := by
  unfold lockForIndication at h
  rw [if_pos rfl] at h
  obtain ⟨_, _, ⟨-, _, -, rfl⟩, time, _, ⟨-, _, rfl, rfl⟩, h⟩ := h
  obtain ⟨-, _, rfl, rfl⟩ := runs_op_ret.mp h
  exact ⟨time, rfl, rfl⟩

/-- Operations that have nothing to do with clients or NITZ messages. -/
def RilOp.IsElsewhere : RilOp → Prop
  | .pending _ | .lock _ | .wake _ | .vendor _ | .mark _ => True
  | _ => False

theorem elsewhere_runs {p : Code α} {a : α} (h : p.Runs (RilOp.semIn env cfg t) s a s')
    (hp : p.Only RilOp.IsElsewhere) : s'.clients = s.clients ∧ s'.nitz = s.nitz := by
  refine Only.invariant (fun u => u.clients = s.clients ∧ u.nitz = s.nitz) ?_ hp h ⟨rfl, rfl⟩
  rintro (o | o | o | o | o | o | o) r u u' ho ⟨-, hsem⟩ hu
  · obtain ⟨_, -, rfl⟩ := hsem
    exact hu
  · obtain ⟨_, -, rfl⟩ := hsem
    exact hu
  · exact absurd ho id
  · exact absurd ho id
  · obtain ⟨_, -, rfl⟩ := hsem
    exact hu
  · obtain rfl : u' = u := hsem
    exact hu
  · obtain rfl : u' = u := hsem
    exact hu

/-- What follows on the arrival of a message: it is stored if no client took it. The copy is as long
as the length says, with whatever was in the buffer. -/
theorem afterIndication_runs {ret : ℤ} {ok : Bool}
    (h : (afterIndication cfg Unsol.nitzTimeReceived ret (some buf) datalen).Runs
      (RilOp.semIn Reliable cfg t) s ok s') :
    s'.clients = s.clients ∧ s'.nitz = if ret = 0 then s.nitz else
      { s.nitz with
        lastNITZTimeData := some (buf.take datalen), lastNITZTimeDataSize := datalen } := by
  unfold afterIndication at h
  obtain ⟨scheduled, s₁, hschedule, h⟩ := (runs_bind _ _).mp h
  -- scheduling the timeout leaves the clients and the NITZ data
  have hscheduled : scheduled = true ∧ s₁.clients = s.clients ∧ s₁.nitz = s.nitz := by
    split at hschedule
    · obtain ⟨hscheduled, _, -, rfl⟩ := runs_op_ret.mp hschedule
      exact ⟨hscheduled, rfl, rfl⟩
    · obtain ⟨rfl, rfl⟩ := hschedule
      exact ⟨rfl, rfl, rfl⟩
  obtain ⟨rfl, hclients, hnitz⟩ := hscheduled
  rw [if_pos rfl] at h
  -- the data is kept when the client did not get it
  by_cases hret : ret = 0
  · rw [if_neg fun hand => hand.1 hret] at h
    obtain ⟨-, rfl⟩ := h
    rw [if_pos hret]
    exact ⟨hclients, hnitz⟩
  · rw [if_pos ⟨hret, rfl⟩] at h
    obtain ⟨-, rfl⟩ := keepNITZTimeData_runs h
    rw [if_neg hret, ← hnitz]
    exact ⟨hclients, rfl⟩

/-- **A NITZ message arrives**: it is sent to the client of its slot, or stored if there is none.
The parts of the function are followed in their order; the wake lock and the rwlock of the slot make
no difference to it. -/
theorem nitz_arrives {socketId : ℤ} (hregister : cfg.registerCalled = true) (hlen : 0 < datalen)
    (hslot : indicationSlot cfg socketId = slotId)
    (h : (rilOnUnsolicitedResponse cfg Unsol.nitzTimeReceived (some buf) datalen socketId).Runs
      (RilOp.semIn Reliable cfg t) s () s') :
    ∃ time, (s.client slotId = none ∧ s'.clients = s.clients ∧
      s'.nitz = ⟨some (buf.take datalen), datalen,
        Function.update s.nitz.nitzTimeReceived slotId time⟩) ∨
      ∃ callback type string, s.client slotId = some callback ∧ buf.Reads string ∧
        s'.clients = (s.sent t slotId callback type string time).clients ∧
        s'.nitz =
          { s.nitz with
            nitzTimeReceived := Function.update s.nitz.nitzTimeReceived slotId time } := by
  -- `RIL_register` has run, so the message is taken
  have hregistered : ¬cfg.registerCalled = false := by
    rw [hregister]
    decide
  unfold rilOnUnsolicitedResponse at h
  rw [if_neg hregistered, if_neg (by decide), hslot] at h
  unfold passIndicationOn at h
  -- the five parts of the function, in their order
  obtain ⟨_, s₁, hgrab, h⟩ := (runs_bind _ _).mp h
  obtain ⟨_, s₂, hlock, h⟩ := (runs_bind _ _).mp h
  obtain ⟨ret, s₃, hcall, h⟩ := (runs_bind _ _).mp h
  obtain ⟨_, s₄, hunlock, h⟩ := (runs_bind _ _).mp h
  obtain ⟨ok, s₅, hafter, hrelease⟩ := (runs_bind _ _).mp h
  -- the wake lock and the rwlock of the slot make no difference
  obtain ⟨hclients₁, hnitz₁⟩ := elsewhere_runs hgrab (Only.ite ⟨trivial, fun _ => trivial⟩ trivial)
  obtain ⟨hclients₄, hnitz₄⟩ := elsewhere_runs hunlock ⟨trivial, fun _ => trivial⟩
  obtain ⟨hclients₆, hnitz₆⟩ :=
    elsewhere_runs hrelease (Only.ite ⟨trivial, fun _ => trivial⟩ trivial)
  obtain ⟨time, hclients₂, hnitz₂⟩ := lockForIndication_runs hlock
  obtain ⟨hclients₅, hnitz₅⟩ := afterIndication_runs hafter
  have hclient : s₂.client slotId = s.client slotId := by
    rw [RilState.client, hclients₂, hclients₁]
    rfl
  refine ⟨time, ?_⟩
  rw [hclients₆, hclients₅, hclients₄, hnitz₆, hnitz₅, hnitz₄, ← hclient]
  -- the client of the slot has got it, or there is none
  rcases nitzTimeReceivedInd_runs hlen hcall with
    ⟨hnone, rfl, rfl⟩ | ⟨callback, string, hsome, hreads, rfl, rfl⟩
  · -- nobody there: the message is kept with its time
    refine .inl ⟨hnone, hclients₂.trans hclients₁, ?_⟩
    rw [if_neg (by decide), hnitz₂, hnitz₁]
  · -- the time that is sent is the one just noted
    have htime : s₂.nitz.nitzTimeReceived slotId = time := by
      rw [hnitz₂]
      exact Function.update_self ..
    refine .inr ⟨callback, unsolicitedResponseType cfg Unsol.nitzTimeReceived, string, hsome,
      hreads, ?_, ?_⟩
    · rw [htime]
      exact sent_clients (hclients₂.trans hclients₁)
    · rw [if_pos rfl, ← hnitz₁]
      exact hnitz₂

end Arrival

/-! ### A client connects -/

section Connection

variable {slotId : ℤ} {buf : CharBuffer}

/-- The stored message, if there is one, goes to the client of the slot, if there is one. -/
structure Resent (t : ℕ) (slotId : ℤ) (buf : CharBuffer) (s s' : RilState) : Prop where
  stored : s.nitz.lastNITZTimeData = some buf
  sent : ∃ callback type string, s.client slotId = some callback ∧ buf.Reads string ∧
    s'.clients = (s.sent t slotId callback type string (s.nitz.nitzTimeReceived slotId)).clients
  nitz : s'.nitz = { s.nitz with lastNITZTimeData := none }

theorem resendLastNITZTimeData_runs (hlast : s.nitz.lastNITZTimeData = some buf)
    (hsize : 0 < s.nitz.lastNITZTimeDataSize)
    (h : (resendLastNITZTimeData cfg slotId).Runs (RilOp.semIn Reliable cfg t) s () s') :
    (s.client slotId = none ∧ s'.clients = s.clients ∧ s'.nitz = s.nitz) ∨
    Resent t slotId buf s s' := by
  unfold resendLastNITZTimeData at h
  -- there is a message to send again, and its size is not zero
  obtain ⟨last, _, ⟨-, _, ⟨rfl, rfl⟩, rfl⟩, h⟩ := runs_op_bind.mp h
  rw [if_pos (Option.isSome_of_eq_some hlast)] at h
  obtain ⟨_, _, ⟨-, locks, -, rfl⟩, h⟩ := runs_op_bind.mp h
  obtain ⟨data, _, ⟨-, _, ⟨hdata, rfl⟩, rfl⟩, h⟩ := runs_op_bind.mp h
  obtain rfl : data = some buf := hdata.trans hlast
  obtain ⟨size, _, ⟨-, _, ⟨rfl, rfl⟩, rfl⟩, h⟩ := runs_op_bind.mp h
  obtain ⟨ret, s₁, hcall, h⟩ := (runs_bind _ _).mp h
  obtain ⟨_, s₂, hfree, hunlock⟩ := (runs_bind _ _).mp h
  obtain ⟨hclients, hnitz⟩ := elsewhere_runs hunlock ⟨trivial, fun _ => trivial⟩
  -- the client was there, or it was not
  rcases nitzTimeReceivedInd_runs hsize hcall with
    ⟨hnone, rfl, rfl⟩ | ⟨callback, string, hsome, hreads, rfl, rfl⟩
  · -- not delivered: the copy is kept
    rw [if_neg (by decide)] at hfree
    obtain ⟨-, rfl⟩ := hfree
    exact .inl ⟨hnone, hclients, hnitz⟩
  · rw [if_pos rfl] at hfree
    obtain ⟨-, _, rfl, rfl⟩ := runs_op_ret.mp hfree
    exact .inr ⟨hlast, ⟨callback, _, string, hsome, hreads, hclients⟩, hnitz⟩

/-- What a client finds that has connected: the stored message is sent to it, unless it is lost at
once. -/
def Greeted (t : ℕ) (slotId : ℤ) (s s' : RilState) : Prop :=
  ((s.nitz.lastNITZTimeData = none ∨ s.client slotId = none) ∧ s'.clients = s.clients ∧
    s'.nitz = s.nitz) ∨
    ∃ buf, Resent t slotId buf s s'

/-- A new client gets two indications that carry no NITZ time, and then the message that was kept,
unless it is gone by then. -/
theorem onNewCommandConnect_runs
    (hsize : s.nitz.lastNITZTimeData ≠ none → 0 < s.nitz.lastNITZTimeDataSize)
    (h : (onNewCommandConnect cfg slotId).Runs (RilOp.semIn Reliable cfg t) s () s') :
    ∃ s₁, Quiet s s₁ ∧ Greeted t slotId s₁ s' := by
  unfold onNewCommandConnect at h
  obtain ⟨_, s₁, hconnected, h⟩ := (runs_bind _ _).mp h
  obtain ⟨_, s₂, hchanged, h⟩ := (runs_bind _ _).mp h
  -- the two indications before carry no NITZ time
  have hquiet : Quiet s s₂ :=
    (quiet_runs (rilOnUnsolicitedResponse_isQuiet (by decide)) hconnected).trans
    (quiet_runs (rilOnUnsolicitedResponse_isQuiet (by decide)) hchanged)
  obtain ⟨last, _, ⟨-, _, ⟨rfl, rfl⟩, rfl⟩, h⟩ := runs_op_bind.mp h
  refine ⟨s₂, hquiet, ?_⟩
  cases hlast : s₂.nitz.lastNITZTimeData with
  | none =>
    rw [if_neg (by rw [hlast]; decide)] at h
    obtain ⟨-, rfl⟩ := h
    exact .inl ⟨.inl hlast, rfl, rfl⟩
  | some buf =>
    rw [if_pos (Option.isSome_of_eq_some hlast)] at h
    have hsize : 0 < s₂.nitz.lastNITZTimeDataSize := by
      rw [hquiet.nitz] at hlast ⊢
      exact hsize (Option.ne_none_iff_exists'.mpr ⟨buf, hlast⟩)
    -- what was kept is sent again, unless the client is gone
    rcases resendLastNITZTimeData_runs hlast hsize h with ⟨hnone, hsame⟩ | hresent
    · exact .inl ⟨.inr hnone, hsame⟩
    · exact .inr ⟨buf, hresent⟩

/-- **A client connects**: it gets the stored message, whichever slot this was for. -/
theorem client_connects {response indication : Option ℕ}
    (hsize : s.nitz.lastNITZTimeData ≠ none → 0 < s.nitz.lastNITZTimeDataSize)
    (h : (setResponseFunctions cfg slotId response indication).Runs (RilOp.semIn Reliable cfg t) s
      () s') :
    ∃ s₁ s₂, s₁.nitz = s.nitz ∧ s₁.clients.calls = s.clients.calls ∧
      s₁.client slotId = s.clients.callbackOf indication ∧
      (∀ i ≠ slotId, s₁.client i = s.client i) ∧
      Quiet s₁ s₂ ∧ Greeted t slotId s₂ s' := by
  unfold setResponseFunctions at h
  -- the new client is installed under the lock, before it is greeted
  obtain ⟨_, _, ⟨-, _, -, rfl⟩, h⟩ := runs_op_bind.mp h
  obtain ⟨_, _, ⟨-, _, ⟨-, v1_1, rfl⟩, rfl⟩, h⟩ := runs_op_bind.mp h
  obtain ⟨_, s₁, ⟨-, _, -, hs₁⟩, h⟩ := runs_op_bind.mp h
  have hnitz : s₁.nitz = s.nitz := by rw [hs₁]
  obtain ⟨s₂, hquiet, hgreeted⟩ := onNewCommandConnect_runs (by rwa [hnitz]) h
  refine ⟨s₁, s₂, hnitz, by rw [hs₁]; rfl, ?_, fun i hi => ?_, hquiet, hgreeted⟩
  · rw [hs₁]
    exact Clients.replace_callback_self rfl
  · rw [hs₁]
    exact Clients.replace_callback_of_ne (.inl hi)

end Connection

end BlueCommon.Ril
