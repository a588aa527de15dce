import AceSamples.AceMessageQueue
import AceSamples.WhileLoop
import Mathlib.Data.Nat.Digits.Defs

/-!
# The handler `Client` of Client5-ace

Every two seconds `handle_timeout` enqueues a short text, and from the fifth expiry on it closes the writing
side of the connection instead.  The queue has a notification strategy, so every insertion queues one
notification, which the reactor turns into a call of `handle_output`.  `handle_output` sends until the queue
is empty or a message is not taken whole; then it puts the rest back, which is an insertion too, and waits to
be dispatched for `WRITE_MASK`.

* `Client` — the handler with its registration, its pending notifications and what has become of its bytes;
* `openClient`, `handleInput`, `handleOutput`, `handleTimeout` — the member functions;
* `SvcHandler` — `handle_close`, which is inherited from the library: a parameter, with what is relied on;
* `step` — one dispatch by the reactor.

`m_numIterations` is an `int` and is modelled with wrap-around; the text printed for it fits the block of
`128` bytes for every value (`iterationText_length_le`).  An insertion is decided by the total allocated size
of the queued blocks at that moment.  Log output is left out.
-/

set_option autoImplicit false

namespace AceSamples.Client5

open AceSamples.AceSocket AceSamples.AceMessageQueue AceSamples.WhileLoop

/-! ### The messages -/

/-- What `%d` prints. -/
def printInt : ℤ → List Char
  | .ofNat n => Nat.toDigits 10 n
  | .negSucc n => '-' :: Nat.toDigits 10 (n + 1)

/-- The text of the format string before `%d`. -/
def iterationWord : List Char := ['I', 't', 'e', 'r', 'a', 't', 'i', 'o', 'n', ' ']

/-- `sprintf("Iteration %d\n", numIterations)` -/
def iterationText (numIterations : Int32) : List Char :=
  iterationWord ++ printInt numIterations.toInt ++ ['\n']

/-- `ACE_Message_Block(128)` -/
def blockSize : ℕ := 128

theorem printInt_length_le (n : Int32) : (printInt n.toInt).length ≤ 11 := by
  have hlt := Int32.toInt_lt n
  have hle := Int32.le_toInt n
  cases hn : n.toInt with
  | ofNat m =>
    rw [hn, Int.ofNat_eq_natCast] at hlt
    have hlen : (Nat.toDigits 10 m).length ≤ 10 :=
      (Nat.length_toDigits_le_iff (by decide) (by decide)).mpr (by omega)
    exact Nat.le_succ_of_le hlen
  | negSucc m =>
    have hlen : (Nat.toDigits 10 (m + 1)).length ≤ 10 :=
      (Nat.length_toDigits_le_iff (by decide) (by decide)).mpr (by omega)
    exact Nat.succ_le_succ hlen

/-- `sprintf` stays inside the block, whatever the counter. -/
theorem iterationText_length_le (n : Int32) : (iterationText n).length ≤ blockSize := by
  have h := printInt_length_le n
  have hword : iterationWord.length = 10 := rfl
  have hlen : (iterationText n).length = iterationWord.length + (printInt n.toInt).length + 1 := by
    simp [iterationText, Nat.add_assoc]
  show (iterationText n).length ≤ 128
  omega

theorem iterationText_ne_nil (n : Int32) : iterationText n ≠ [] := by
  simp [iterationText]

/-- The block that `handle_timeout` builds. -/
def iterationMessage (numIterations : Int32) : MessageBlock Char :=
  ⟨blockSize, iterationText numIterations, iterationText_length_le numIterations⟩

/-! ### The handler -/

/-- `Client::MaxIterations` -/
def maxIterations : Int32 := 5

/-- What there is to be seen when the writer is closed. -/
structure Closing where
  queue : MessageQueue Char
  sent : List Char
  enqueued : List Char

/-- A `Client`: its counter, its message queue, the events the reactor has it registered for, whether its timer is
scheduled, and the number of notifications pending for it.  `sent` is what the socket has accepted, `built` the text
of all messages that `handle_timeout` has built, `enqueued` the text of those that `putq` accepted, `rejected` counts
the insertions that the queue refused, and `closings` has one entry for each `close_writer`.  `closed` is set when the
reactor has called `handle_close`. -/
structure Client where
  numIterations : Int32
  queue : MessageQueue Char
  mask : Mask
  timer : Bool
  notifications : ℕ
  sent : List Char
  built : List Char
  enqueued : List Char
  rejected : ℕ
  closings : List Closing
  closed : Bool
  loopEnded : Bool
  misused : Bool

namespace Client

/-- `Client::Client` -/
def fresh : Client := ⟨0, [], .null, false, 0, [], [], [], 0, [], false, false, false⟩

/-- `++m_numIterations` -/
def tick (s : Client) : Client := { s with numIterations := s.numIterations + 1 }

/-- `peer().close_writer()` -/
def closeWriter (s : Client) : Client :=
  { s with closings := s.closings ++ [⟨s.queue, s.sent, s.enqueued⟩] }

/-- `handle_timeout` has built a message. -/
def build (text : List Char) (s : Client) : Client := { s with built := s.built ++ text }

/-- `putq` has accepted a message. -/
def countEnqueued (text : List Char) (s : Client) : Client := { s with enqueued := s.enqueued ++ text }

/-- The queue as a removal has left it. -/
def setQueue (q : MessageQueue Char) (s : Client) : Client := { s with queue := q }

/-- The queue as a successful insertion has left it; its strategy notifies the reactor. -/
def insert (q : MessageQueue Char) (s : Client) : Client :=
  { s with queue := q, notifications := s.notifications + 1 }

/-- One more insertion that the queue refused. -/
def countRejected (s : Client) : Client := { s with rejected := s.rejected + 1 }

/-- The socket has taken `bytes`. -/
def deliver (bytes : List Char) (s : Client) : Client := { s with sent := s.sent ++ bytes }

/-- `peer().send(bytes)`: the socket takes a prefix. -/
def transmit (r : SendResult) (bytes : List Char) (s : Client) : Client :=
  s.deliver (bytes.take (r.accepted bytes.length))

/-- `reactor()->schedule_wakeup(this, mask)` -/
def scheduleWakeup (m : Mask) (s : Client) : Client := { s with mask := s.mask.union m }

/-- `reactor()->cancel_wakeup(this, mask)` -/
def cancelWakeup (m : Mask) (s : Client) : Client := { s with mask := s.mask.remove m }

/-- `reactor()->schedule_timer(this, 0, ACE_Time_Value::zero, delay)` -/
def scheduleTimer (s : Client) : Client := { s with timer := true }

/-- The timer expires no more. -/
def cancelTimer (s : Client) : Client := { s with timer := false }

/-- A pending notification is taken from the reactor. -/
def takeNotification (s : Client) : Client := { s with notifications := s.notifications - 1 }

/-- `reactor()->end_reactor_event_loop()` -/
def endEventLoop (s : Client) : Client := { s with loopEnded := true }

/-- `handle_close` has been called. -/
def close (s : Client) : Client := { s with closed := true }

/-- Something the language leaves undefined has happened. -/
def misuse (s : Client) : Client := { s with misused := true }

end Client

/-- The base class `ACE_Svc_Handler<ACE_SOCK_STREAM, ACE_NULL_SYNCH>`, as far as `Client` does not override it: its
`handle_close`.  What is relied on is that it registers the handler for nothing, and that it leaves everything but the
registrations and the timer alone: the object is a local of `main`, so that it is not deleted. -/
structure SvcHandler where
  handleClose : Client → Client
  registersNothing : ∀ s : Client, s.mask.union (handleClose s).mask = s.mask
  frame : ∀ s : Client, handleClose s = { s with mask := (handleClose s).mask, timer := (handleClose s).timer }

/-- What `handle_close` is documented to do, also in a comment of `Program.cpp`: it unregisters the handler and
cancels all its timers. -/
structure SvcHandler.Unregisters (super : SvcHandler) : Prop where
  mask : ∀ s, (super.handleClose s).mask = .null
  timer : ∀ s, (super.handleClose s).timer = false

/-- A base class whose `handle_close` does this, and nothing else. -/
def svcHandler : SvcHandler where
  handleClose s := { s with mask := .null, timer := false }
  registersNothing s := by simp [Mask.union, Mask.null]
  frame _ := rfl

theorem svcHandler_unregisters : svcHandler.Unregisters := ⟨fun _ => rfl, fun _ => rfl⟩

/-- `Client::open`: whether `super::open` can register the handler for READ events, and whether the timer can
be scheduled.  When it returns `-1` the connector closes the handler. -/
def openClient (registered scheduled : Bool) (s : Client) : ℤ × Client :=
  if registered = false then (-1, s)
  else
    let s := s.scheduleWakeup .readMask
    if scheduled = false then (-1, s) else (0, s.scheduleTimer)

/-- The results of the `recv` in one `handle_input`, with the error code it leaves. -/
structure InputResults where
  recv : RecvResult Char 63
  lastError : Errno

/-- `Client::handle_input` -/
def handleInput (env : InputResults) (s : Client) : ℤ × Client :=
  let received := env.recv.returned
  if received > 0 then (0, s)
  else if received = 0 ∨ env.lastError ≠ .ewouldblock then (-1, s.endEventLoop)
  else (0, s)

/-- The results of the calls that one `handle_output` makes: its sends in order (a socket from which no more
results are listed is full) and the decision of the queue on the put-back. -/
structure OutputResults where
  sends : List SendResult
  accepts : ℕ → Bool

/-- One trip to the condition of the loop in `handle_output`. -/
def outputPass (accepts : ℕ → Bool) :
    Client × List SendResult → Pass (Client × List SendResult) Client
  | (s, sends) =>
    let (rc, message, queue) := s.queue.getq
    let s := s.setQueue queue
    if rc = -1 then .leave s
    else
      match message with
      | none => .leave s.misuse
      | some message =>
        let r := sends.headD .wouldBlock
        let s := s.transmit r message.unread
        let message := sendMessage r message
        if message.length > 0 then
          let (rc, queue) := s.queue.ungetq message (accepts s.queue.totalSize)
          -- the returned integer is not looked at
          .leave (if rc = -1 then s.countRejected else s.insert queue)
        else .again (s, sends.tail)

/-- The end of `handle_output`: wait for `WRITE_MASK` while there is something to send. -/
def adjustWakeup (s : Client) : Client :=
  if s.queue.isEmpty then s.cancelWakeup .writeMask else s.scheduleWakeup .writeMask

/-- `Client::handle_output`.  Every trip but the last takes a message for good. -/
def handleOutput (env : OutputResults) (s : Client) : ℤ × Client :=
  match iterate (outputPass env.accepts) (s.queue.length + 1) (s, env.sends) with
  | none => (0, s.misuse)
  | some s => (0, adjustWakeup s)

/-- The results of the calls that one `handle_timeout` makes: the allocation of the message block and the
decision of the queue on it. -/
structure TimeoutResults where
  allocated : Bool
  accepts : ℕ → Bool

/-- `Client::handle_timeout` -/
def handleTimeout (env : TimeoutResults) (s : Client) : ℤ × Client :=
  let s := s.tick
  if s.numIterations ≥ maxIterations then (0, s.closeWriter)
  else if env.allocated = false then (-1, s)
  else
    let message := iterationMessage s.numIterations
    let s := s.build message.unread
    let (rc, queue) := s.queue.putq message (env.accepts s.queue.totalSize)
    -- the returned integer is not looked at
    if rc = -1 then (0, s.countRejected) else (0, (s.insert queue).countEnqueued message.unread)

/-! ### Dispatching -/

/-- A dispatch by the reactor: the timer expires, a notification is taken, or the socket is ready. -/
inductive Dispatch where
  | timeout (env : TimeoutResults)
  | notified (env : OutputResults)
  | writable (env : OutputResults)
  | readable (env : InputResults)

/-- A callback that returns `-1` makes the reactor remove the handler for the event, and call `handle_close`. -/
def closeOnError (super : SvcHandler) (remove : Client → Client) : ℤ × Client → Client
  | (rc, s) => if rc = -1 then (super.handleClose (remove s)).close else s

/-- One dispatch; `none` when there is nothing to dispatch. -/
def step (super : SvcHandler) (s : Client) : Dispatch → Option Client
  | .timeout env =>
    if !s.timer || s.loopEnded then none else some (closeOnError super .cancelTimer (handleTimeout env s))
  | .notified env =>
    if s.notifications = 0 || s.loopEnded then none
    else some (closeOnError super (.cancelWakeup .writeMask) (handleOutput env s.takeNotification))
  | .writable env =>
    if !s.mask.write || s.loopEnded then none
    else some (closeOnError super (.cancelWakeup .writeMask) (handleOutput env s))
  | .readable env =>
    if !s.mask.read || s.loopEnded then none
    else some (closeOnError super (.cancelWakeup .readMask) (handleInput env s))

/-- A handler whose `open` has succeeded. -/
def opened : Client := (openClient true true .fresh).2

end AceSamples.Client5
