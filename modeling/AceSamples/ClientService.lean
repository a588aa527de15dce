import AceSamples.AceMessageQueue
import AceSamples.WhileLoop

/-!
# The connection handler `ClientService` of Server3-ace and Server4-ace

A `ClientService` echoes one connection.  `handle_input` reads a chunk and tries to send it back at once; what
the socket does not take is queued, and the handler registers for `WRITE_MASK` when the queue was empty.
`handle_output` drains the queue and returns `-1`, which makes the reactor remove `WRITE_MASK`, when nothing
is left.  The two servers differ in the calls by which the queue is reached (`ACE_Message_Queue` directly, or
`ACE_Task::putq`, `getq`, `ungetq`), in `open` and in `handle_close`; the bodies of the two callbacks are the
same.

* `Service` — the handler with the reactor's registration for it and what has become of its resources;
* `handleInput`, `handleOutput`, `openService`, `handleClose` — the member functions;
* `step` — one dispatch by the reactor: only registered events are dispatched, and a return value of `-1`
  removes the registration for that event and calls `handle_close` with its mask.

Log output is left out.  Calls that the language leaves undefined (the loop body of `handle_output` on a
message pointer that was never set, a callback on a deleted handler) set the field `misused`.
-/

set_option autoImplicit false

namespace AceSamples.ClientService

open AceSamples.AceSocket AceSamples.AceMessageQueue AceSamples.WhileLoop

variable {β : Type*}

/-! ### The two servers -/

/-- The samples that have a class `ClientService`. -/
inductive Server where
  | server3
  | server4
  deriving DecidableEq, Repr

namespace Server

/-- `m_queue.enqueue_tail(message, &nowait)` or `this->putq(message, &nowait)`. -/
def enqueueTail : Server → MessageQueue β → MessageBlock β → Bool → ℤ × MessageQueue β
  | .server3 => MessageQueue.enqueueTail
  | .server4 => MessageQueue.putq

/-- `m_queue.dequeue_head(message, &nowait)` or `this->getq(message, &nowait)`. -/
def dequeueHead : Server → MessageQueue β → ℤ × Option (MessageBlock β) × MessageQueue β
  | .server3 => MessageQueue.dequeueHead
  | .server4 => MessageQueue.getq

/-- `m_queue.enqueue_head(message)` or `this->ungetq(message)`. -/
def enqueueHead : Server → MessageQueue β → MessageBlock β → Bool → ℤ × MessageQueue β
  | .server3 => MessageQueue.enqueueHead
  | .server4 => MessageQueue.ungetq

@[simp] theorem enqueueTail_eq (srv : Server) :
    srv.enqueueTail (β := β) = MessageQueue.enqueueTail := by cases srv <;> rfl

@[simp] theorem dequeueHead_eq (srv : Server) :
    srv.dequeueHead (β := β) = MessageQueue.dequeueHead := by cases srv <;> rfl

@[simp] theorem enqueueHead_eq (srv : Server) :
    srv.enqueueHead (β := β) = MessageQueue.enqueueHead := by cases srv <;> rfl

end Server

/-! ### The handler and its resources -/

/-- What is left of a handler at the moment it is destroyed. -/
structure Remains (β : Type*) where
  closes : ℕ
  queue : MessageQueue β
  mask : Mask

/-- A `ClientService`: its message queue, the events the reactor has it registered for, its socket, and the
bytes that the socket has accepted from it.  `closes` counts the closings of its socket, `flushed` collects
the bytes dropped by emptying its queue, `refused` counts the put-backs that the queue refused, and
`remains` has one entry for each time the handler was destroyed. -/
structure Service (β : Type*) where
  queue : MessageQueue β
  mask : Mask
  socketOpen : Bool
  sent : List β
  closes : ℕ
  flushed : List β
  refused : ℕ
  remains : List (Remains β)
  misused : Bool

namespace Service

/-- `new ClientService` -/
def fresh : Service β := ⟨[], .null, false, [], 0, [], 0, [], false⟩

/-- Not destroyed so far. -/
def live (s : Service β) : Bool := s.remains.isEmpty

/-- A successful `m_acceptor.accept(client->peer())`. -/
def acceptPeer (s : Service β) : Service β := { s with socketOpen := true }

/-- `reactor()->register_handler(this, mask)`; `ok` says whether the reactor could do it. -/
def registerHandler (ok : Bool) (m : Mask) (s : Service β) : ℤ × Service β :=
  if ok then (0, { s with mask := s.mask.union m }) else (-1, s)

/-- `reactor()->remove_handler(this, mask)` with `DONT_CALL` in the mask, or the reactor's own removal. -/
def removeHandler (m : Mask) (s : Service β) : Service β := { s with mask := s.mask.remove m }

/-- Closing the socket; a socket that is not open is left alone. -/
def closeSocket (s : Service β) : Service β :=
  if s.socketOpen then { s with socketOpen := false, closes := s.closes + 1 } else s

/-- Emptying the message queue. -/
def flushQueue (s : Service β) : Service β :=
  { s with queue := [], flushed := s.flushed ++ s.queue.unread }

/-- The end of the object. -/
def delete (s : Service β) : Service β :=
  { s with remains := s.remains ++ [⟨s.closes, s.queue, s.mask⟩] }

/-- The socket has taken `bytes`. -/
def deliver (bytes : List β) (s : Service β) : Service β := { s with sent := s.sent ++ bytes }

/-- `send(bytes)` on the socket: it takes a prefix. -/
def transmit (r : SendResult) (bytes : List β) (s : Service β) : Service β :=
  s.deliver (bytes.take (r.accepted bytes.length))

/-- The queue as an insertion or a removal has left it. -/
def setQueue (q : MessageQueue β) (s : Service β) : Service β := { s with queue := q }

/-- One more put-back that the queue refused. -/
def countRefused (s : Service β) : Service β := { s with refused := s.refused + 1 }

/-- Something the language leaves undefined has happened. -/
def misuse (s : Service β) : Service β := { s with misused := true }

end Service

/-! ### `open` and `handle_close` -/

/-- `ClientService::open`: `registered` says whether `register_handler` succeeds.  In Server4-ace the
registration is made by `ACE_Svc_Handler::open`. -/
def openService (srv : Server) (registered : Bool) (s : Service β) : ℤ × Service β :=
  match srv with
  | .server3 => s.registerHandler registered .readMask
  | .server4 =>
    let (hr, s) := s.registerHandler registered .readMask
    if hr = -1 then (-1, s) else (0, s)

/-- `ACE_Svc_Handler::handle_close`: destroying the handler removes its registrations, closes its peer and
drops its queue. -/
def svcHandlerClose (s : Service β) : Service β :=
  ((s.removeHandler (Mask.allEventsMask.union .dontCallMask)).closeSocket).flushQueue.delete

/-- `ClientService::handle_close`, which returns `0` on every path. -/
def handleClose (srv : Server) (mask : Mask) (s : Service β) : Service β :=
  if mask = .writeMask then s
  else
    match srv with
    | .server3 =>
      let mask := Mask.allEventsMask.union .dontCallMask
      let s := s.removeHandler mask
      let s := s.closeSocket
      let s := s.flushQueue
      s.delete
    | .server4 => svcHandlerClose s

/-! ### `handle_input` -/

/-- `inputSize` of `handle_input`. -/
def inputSize : ℕ := 4096

/-- The results of the calls that one `handle_input` makes: `recv`, `send`, the allocation of a message
block, the decision of the queue on inserting it, and the registration for `WRITE_MASK`. -/
structure InputResults (β : Type*) where
  recv : RecvResult β inputSize
  send : SendResult
  allocated : Bool
  accepts : MessageQueue β → Bool
  registered : Bool

/-- `ClientService::handle_input` -/
def handleInput (srv : Server) (env : InputResults β) (s : Service β) : ℤ × Service β :=
  let receivedBytes := env.recv.returned
  let buffer := env.recv.bytes
  if receivedBytes ≤ 0 then (-1, s)
  else
    let sentBytes := env.send.returned buffer.length
    let s := s.transmit env.send buffer
    if sentBytes = receivedBytes then (0, s)
    else if sentBytes = -1 ∧ env.send.lastError ≠ .ewouldblock then (0, s)
    else
      let sentBytes := if sentBytes = -1 then 0 else sentBytes
      let remaining := (receivedBytes - sentBytes).toNat
      if env.allocated = false then (-1, s)
      else
        let message := (MessageBlock.create remaining).copy ((buffer.drop sentBytes.toNat).take remaining)
        let isEmpty := s.queue.isEmpty
        let (rc, queue) := srv.enqueueTail s.queue message (env.accepts s.queue)
        -- a refused message is released
        if rc = -1 then (0, s)
        else
          let s := s.setQueue queue
          if isEmpty then s.registerHandler env.registered .writeMask else (0, s)

/-! ### `handle_output` -/

/-- Why a call of `handle_output` has no result that the language defines. -/
inductive Fault where
  | staleMessage
  | unfinished
  deriving DecidableEq, Repr

/-- The results of the calls that one `handle_output` makes: its sends in order (a socket from which no more
results are listed is full) and the decision of the queue on the put-back. -/
structure OutputResults (β : Type*) where
  sends : List SendResult
  accepts : MessageQueue β → Bool

/-- One trip to the condition of the loop in `handle_output`, with the results of the sends still to be made.
The condition is the returned integer itself, so the trip on which it is `0` drops the dequeued message, and
the body runs for `-1` with a pointer that the call has not set. -/
def outputPass (srv : Server) (accepts : MessageQueue β → Bool) :
    Service β × List SendResult → Pass (Service β × List SendResult) (Except Fault (Service β))
  | (s, sends) =>
    let (rc, message, queue) := srv.dequeueHead s.queue
    let s := s.setQueue queue
    if rc = 0 then .leave (.ok s)
    else
      match message with
      | none => .leave (.error .staleMessage)
      | some message =>
        let r := sends.headD .wouldBlock
        let s := s.transmit r message.unread
        let message := sendMessage r message
        if message.length > 0 then
          let (rc, queue) := srv.enqueueHead s.queue message (accepts s.queue)
          let s := s.setQueue queue
          -- the returned integer is not looked at
          .leave (.ok (if rc = -1 then s.countRefused else s))
        else .again (s, sends.tail)

/-- `ClientService::handle_output`.  Every trip to the loop's condition takes a message, so one trip more
than there are messages is as many as the loop can use. -/
def handleOutput (srv : Server) (env : OutputResults β) (s : Service β) :
    Except Fault (ℤ × Service β) :=
  match iterate (outputPass srv env.accepts) (s.queue.length + 1) (s, env.sends) with
  | none => .error .unfinished
  | some (.error f) => .error f
  | some (.ok s) => .ok (if s.queue.isEmpty then -1 else 0, s)

/-! ### Dispatching -/

/-- A dispatch by the reactor, with the results of the calls made in the callback. -/
inductive Dispatch (β : Type*) where
  | input (env : InputResults β)
  | output (env : OutputResults β)

/-- `handle_input` is called for `READ_MASK`. -/
def dispatchInput (srv : Server) (env : InputResults β) (s : Service β) : Service β :=
  let (rc, s) := handleInput srv env s
  if rc = -1 then handleClose srv .readMask (s.removeHandler .readMask) else s

/-- `handle_output` is called for `WRITE_MASK`. -/
def dispatchOutput (srv : Server) (env : OutputResults β) (s : Service β) : Service β :=
  match handleOutput srv env s with
  | .ok (rc, s) => if rc = -1 then handleClose srv .writeMask (s.removeHandler .writeMask) else s
  | .error _ => s.misuse

/-- One dispatch; `none` when the handler is not registered for the event. -/
def step (srv : Server) (s : Service β) : Dispatch β → Option (Service β)
  | .input env =>
    if s.mask.read then some (if s.live then dispatchInput srv env s else s.misuse)
    else none
  | .output env =>
    if s.mask.write then some (if s.live then dispatchOutput srv env s else s.misuse)
    else none

/-- A handler whose peer has been accepted and whose `open` has succeeded. -/
def opened (srv : Server) : Service β := (openService srv true Service.fresh.acceptPeer).2

end AceSamples.ClientService
