import BlueCommon.Lib.Lts
import Mathlib.Data.Int.Notation
import Mathlib.Data.List.Perm.Basic
import Mathlib.Logic.Function.Basic

/-!
# The messages of the looper

`Looper` with one thread that polls and any number of threads that send and remove messages. A
sender that has put a message at the head of the queue wakes the polling thread through a pipe, once
it has released the lock. While the polling thread calls a handler, the senders leave that out.

* `Looper`: the queue, the flag, the pipe and where the threads are. History: the messages that were
  handed to their handlers, and those that were removed.
* `Looper.dispatch`: the loop that hands over messages, from taking the lock to releasing it.
* `looperRuns`: the runs. One step is what a thread does between two operations on the lock,
  `epoll_wait` or the call of a handler.

The file descriptors are left out: `epoll_wait` may return at any time, with or without an event of
the pipe. Messages that a handler or a callback sends are messages of another thread here.
-/

namespace BlueCommon

namespace Shims

/-- `MessageEnvelope`. `seq` is not in the source: it numbers the messages in the order in which
they are sent, so that two equal ones are told apart. -/
structure Envelope (Handler : Type) where
  uptime : ℤ
  handler : Handler
  /-- `message.what`. -/
  what : ℤ
  /-- History: how many envelopes were sent before. -/
  seq : ℕ

/-- Where the polling thread is. It has the lock only within a step, and gives it up while it waits
in `epoll_wait` and while a handler runs. -/
inductive Poller (Handler : Type)
  | idle
  /-- Blocked in `epoll_wait` with a timeout, negative for none, since a time. -/
  | polling (timeoutMillis since : ℤ)
  /-- `epoll_wait` has returned, with an event of the wake pipe or not. -/
  | polled (woken : Bool)
  /-- The lock is released, and the handler not yet called. -/
  | sending (envelope : Envelope Handler)
  /-- In `handleMessage`. -/
  | handling (envelope : Envelope Handler)
  /-- The lock is released after the last message. -/
  | responding

/-- `LLONG_MAX`, which stands for a time that never comes. -/
def llongMax : ℤ := 9223372036854775807

/-- The looper and its threads. `wakePipe` counts the wake-ups in the pipe, and `waking` says which
threads have sent a message and are about to call `wake`; the last three fields are the record of
what happened. -/
structure Looper (Handler : Type) where
  mMessageEnvelopes : List (Envelope Handler)
  mSendingMessage : Bool
  mNextMessageUptime : ℤ
  /-- The bytes in the wake pipe. -/
  wakePipe : ℕ
  /-- `systemTime(SYSTEM_TIME_MONOTONIC)`. -/
  clock : ℤ
  poller : Poller Handler
  /-- The threads that have inserted an envelope at the head and not yet executed `wake`. -/
  waking : ℕ → Bool
  /-- History: how many envelopes were sent. -/
  sent : ℕ
  /-- History: the envelopes that were handed to their handlers, with the time. -/
  delivered : List (Envelope Handler × ℤ)
  /-- History: the envelopes that `removeMessages` has removed. -/
  removed : List (Envelope Handler)

/-- The whole milliseconds to a time, rounded up. -/
def roundedDelay (now uptime : ℤ) : ℤ :=
  if uptime ≤ now then 0 else (uptime - now + 999999) / 1000000

/-- `toMillisecondTimeoutDelay` rounds a delay up, if the delay is below its cap. The function is in
`libutils`, and this is what the looper relies on. -/
def RoundsUp (toMillisecondTimeoutDelay : ℤ → ℤ → ℤ) (cap : ℤ) : Prop :=
  ∀ now uptime, uptime - now ≤ cap → toMillisecondTimeoutDelay now uptime = roundedDelay now uptime

/-! ### The functions -/

variable {Handler : Type}

/-- The place of an envelope: after those that are not later. So messages for the same time stay in
the order in which they were sent. -/
def insertionIndex (uptime : ℤ) : List (Envelope Handler) → ℕ
  | [] => 0
  | e :: rest => if e.uptime ≤ uptime then insertionIndex uptime rest + 1 else 0

/-- The loop of `removeMessages`, from the end on. An envelope that is removed does not move those
that are still to be looked at. -/
def removeLoop (p : Envelope Handler → Bool) : ℕ → List (Envelope Handler) → List (Envelope Handler)
  | 0, envelopes => envelopes
  | i + 1, envelopes =>
    removeLoop p i (if (envelopes[i]?).any p then envelopes.eraseIdx i else envelopes)

/-- `awoken`: reads 16 bytes, as long as there are so many. The result is what is left in the
pipe. -/
def awoken (wakePipe : ℕ) : ℕ := if 16 ≤ wakePipe then awoken (wakePipe - 16) else 0

namespace Looper

/-- The timeout of `pollInner`, adjusted based on when the next message is due. A timeout that ends
earlier is kept, and a negative one is none. -/
def adjustTimeout (toMillisecondTimeoutDelay : ℤ → ℤ → ℤ) (s : Looper Handler)
    (timeoutMillis : ℤ) : ℤ :=
  if timeoutMillis ≠ 0 ∧ s.mNextMessageUptime ≠ llongMax then
    let messageTimeoutMillis := toMillisecondTimeoutDelay s.clock s.mNextMessageUptime
    if 0 ≤ messageTimeoutMillis ∧ (timeoutMillis < 0 ∨ messageTimeoutMillis < timeoutMillis) then
      messageTimeoutMillis
    else timeoutMillis
  else timeoutMillis

/-- `pollInner` up to `epoll_wait`. The time of the next message is read without the lock, as it was
left by the last poll. -/
def pollInner (toMillisecondTimeoutDelay : ℤ → ℤ → ℤ) (s : Looper Handler) (timeoutMillis : ℤ) :
    Looper Handler :=
  { s with poller := .polling (s.adjustTimeout toMillisecondTimeoutDelay timeoutMillis) s.clock }

/-- The loop over the pending messages, up to the next release of the lock. The first message is
taken out when it is due; otherwise its time is noted for the next poll. -/
def dispatch (s : Looper Handler) : Looper Handler :=
  match s.mMessageEnvelopes with
  | [] => { s with poller := .responding }
  | e :: rest =>
    if e.uptime ≤ s.clock then
      { s with mMessageEnvelopes := rest, mSendingMessage := true, poller := .sending e }
    else { s with mNextMessageUptime := e.uptime, poller := .responding }

/-- `pollInner` after `epoll_wait`, with the lock. When it was woken the pipe is emptied, however
many wake-ups are in it. -/
def handlePolled (s : Looper Handler) (woken : Bool) : Looper Handler :=
  let s := if woken then { s with wakePipe := awoken s.wakePipe } else s
  { s with mNextMessageUptime := llongMax }.dispatch

/-- `handler->handleMessage(message)`. The lock is not held meanwhile, so other threads may send and
remove messages. -/
def handleMessage (s : Looper Handler) (e : Envelope Handler) : Looper Handler :=
  { s with poller := .handling e, delivered := (e, s.clock) :: s.delivered }

/-- `pollInner` after the handler, with the lock. -/
def handled (s : Looper Handler) : Looper Handler :=
  { s with mSendingMessage := false }.dispatch

/-- `sendMessageAtTime` of a thread, up to the call of `wake`. That is only called for a message at
the head of the queue, and not while the queue will be read again anyway. -/
def sendMessageAtTime (s : Looper Handler) (thread : ℕ) (uptime : ℤ) (handler : Handler)
    (what : ℤ) :
    Looper Handler :=
  let i := insertionIndex uptime s.mMessageEnvelopes
  let envelope : Envelope Handler := ⟨uptime, handler, what, s.sent⟩
  let s :=
    { s with mMessageEnvelopes := s.mMessageEnvelopes.insertIdx i envelope, sent := s.sent + 1 }
  if s.mSendingMessage then s
  else if i = 0 then { s with waking := Function.update s.waking thread true }
  else s

/-- `wake`. When the pipe is full, it is not empty, and a write that fails for that reason does not
matter. -/
def wake (s : Looper Handler) (thread : ℕ) : Looper Handler :=
  { s with wakePipe := s.wakePipe + 1, waking := Function.update s.waking thread false }

/-- Both functions `removeMessages`: of a handler, or of a handler and a message. The time of the
next wake-up is not changed, so it may be too early. -/
def removeMessages (s : Looper Handler) (p : Envelope Handler → Bool) : Looper Handler :=
  { s with
    mMessageEnvelopes := removeLoop p s.mMessageEnvelopes.length s.mMessageEnvelopes
    removed := s.mMessageEnvelopes.filter p ++ s.removed }

end Looper

/-! ### The runs -/

/-- What the threads do. The clock goes on by itself, and any thread may send or remove messages
between two steps of the polling thread. -/
inductive Step (Handler : Type)
  | tick (d : ℕ)
  | pollInner (timeoutMillis : ℤ)
  | epollReturns (woken : Bool)
  | lockPolled
  | handleMessage
  | lockHandled
  | pollReturns
  | sendMessageAtTime (thread : ℕ) (uptime : ℤ) (handler : Handler) (what : ℤ)
  | wake (thread : ℕ)
  | removeMessages (handler : Handler)
  | removeMessagesWhat (handler : Handler) (what : ℤ)

variable [DecidableEq Handler]

/-- One step. A thread that has still to wake the looper sends nothing. The delays are below the
cap, and an uptime of `LLONG_MAX` stands for no message. -/
inductive Steps (toMillisecondTimeoutDelay : ℤ → ℤ → ℤ) (cap : ℤ) :
    Looper Handler → Step Handler → Looper Handler → Prop
  | tick (s : Looper Handler) (d : ℕ) :
      Steps toMillisecondTimeoutDelay cap s (.tick d) { s with clock := s.clock + d }
  | pollInner (s : Looper Handler) (timeoutMillis : ℤ) (h : s.poller = .idle) :
      Steps toMillisecondTimeoutDelay cap s (.pollInner timeoutMillis)
        (s.pollInner toMillisecondTimeoutDelay timeoutMillis)
  | epollReturns (s : Looper Handler) (woken : Bool) {timeoutMillis since : ℤ}
      (h : s.poller = .polling timeoutMillis since) (hwoken : woken = true → 0 < s.wakePipe) :
      Steps toMillisecondTimeoutDelay cap s (.epollReturns woken) { s with poller := .polled woken }
  | lockPolled (s : Looper Handler) {woken : Bool} (h : s.poller = .polled woken) :
      Steps toMillisecondTimeoutDelay cap s .lockPolled (s.handlePolled woken)
  | handleMessage (s : Looper Handler) {e : Envelope Handler} (h : s.poller = .sending e) :
      Steps toMillisecondTimeoutDelay cap s .handleMessage (s.handleMessage e)
  | lockHandled (s : Looper Handler) {e : Envelope Handler} (h : s.poller = .handling e) :
      Steps toMillisecondTimeoutDelay cap s .lockHandled s.handled
  | pollReturns (s : Looper Handler) (h : s.poller = .responding) :
      Steps toMillisecondTimeoutDelay cap s .pollReturns { s with poller := .idle }
  | sendMessageAtTime (s : Looper Handler) (thread : ℕ) (uptime : ℤ) (handler : Handler) (what : ℤ)
      (h : s.waking thread = false) (hcap : uptime - s.clock ≤ cap) (hmax : uptime < llongMax) :
      Steps toMillisecondTimeoutDelay cap s (.sendMessageAtTime thread uptime handler what)
        (s.sendMessageAtTime thread uptime handler what)
  | wake (s : Looper Handler) (thread : ℕ) (h : s.waking thread = true) :
      Steps toMillisecondTimeoutDelay cap s (.wake thread) (s.wake thread)
  | removeMessages (s : Looper Handler) (handler : Handler) :
      Steps toMillisecondTimeoutDelay cap s (.removeMessages handler)
        (s.removeMessages fun e => e.handler == handler)
  | removeMessagesWhat (s : Looper Handler) (handler : Handler) (what : ℤ) :
      Steps toMillisecondTimeoutDelay cap s (.removeMessagesWhat handler what)
        (s.removeMessages fun e => e.handler == handler && e.what == what)

/-- A looper after its constructor. -/
def Looper.start (clock : ℤ) : Looper Handler where
  mMessageEnvelopes := []
  mSendingMessage := false
  mNextMessageUptime := llongMax
  wakePipe := 0
  clock := clock
  poller := .idle
  waking := fun _ => false
  sent := 0
  delivered := []
  removed := []

/-- The runs of a looper. The clock starts anywhere, and the steps of the threads come in any
order. -/
def looperRuns (Handler : Type) [DecidableEq Handler] (toMillisecondTimeoutDelay : ℤ → ℤ → ℤ)
    (cap : ℤ) :
    Lts (Looper Handler) (Step Handler) where
  init s := ∃ clock, s = Looper.start clock
  step := Steps toMillisecondTimeoutDelay cap

end Shims

end BlueCommon
