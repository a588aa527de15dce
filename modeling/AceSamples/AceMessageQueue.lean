import AceSamples.AceSocket

/-!
# Message blocks and the FIFO message queue

`ACE_Message_Block` owns `size` allocated bytes, of which those between the read and the write pointer are
still to be sent; the field `fits` keeps the two in step, so that a block with more bytes than room cannot be
built.  `ACE_Message_Queue` is a first-in first-out list of blocks:

* `enqueueTail` / `enqueueHead` insert at either end and return the new number of messages, or `-1` when the
  insertion is refused.  Whether it is refused is decided from the queue at that moment; `belowMark` is the
  decision of a queue with a high-water mark, other decisions stand for other reasons to refuse;
* `dequeueHead` takes the first block and returns the number of messages left — `0` after the last one — or
  `-1` with no block when there is none.

`ACE_Task` reaches the same three operations under the names `putq`, `ungetq` and `getq`.
-/

set_option autoImplicit false

namespace AceSamples.AceMessageQueue

open AceSamples.AceSocket

variable {β : Type*}

/-! ### Message blocks -/

/-- A message block: its allocated size and the bytes between its read and its write pointer. -/
structure MessageBlock (β : Type*) where
  size : ℕ
  unread : List β
  fits : unread.length ≤ size

namespace MessageBlock

/-- `new ACE_Message_Block(size)`. -/
def create (size : ℕ) : MessageBlock β := ⟨size, [], Nat.zero_le size⟩

/-- `message->copy(data, n)`: append, when there is room. -/
def copy (m : MessageBlock β) (data : List β) : MessageBlock β :=
  if h : (m.unread ++ data).length ≤ m.size then ⟨m.size, m.unread ++ data, h⟩ else m

/-- `message->length()` -/
def length (m : MessageBlock β) : ℕ := m.unread.length

/-- `message->rd_ptr(n)`: advance the read pointer. -/
def rdPtr (m : MessageBlock β) (n : ℕ) : MessageBlock β :=
  ⟨m.size, m.unread.drop n, by
    have := m.fits
    rw [List.length_drop]
    omega⟩

@[simp] theorem rdPtr_unread (m : MessageBlock β) (n : ℕ) : (m.rdPtr n).unread = m.unread.drop n := rfl

@[simp] theorem rdPtr_zero (m : MessageBlock β) : m.rdPtr 0 = m := rfl

theorem length_rdPtr (m : MessageBlock β) (n : ℕ) : (m.rdPtr n).length = m.length - n := by
  simp only [length, rdPtr_unread, List.length_drop]

/-- A block filled at once with data of the size it was created for. -/
theorem copy_create (data : List β) {n : ℕ} (h : data.length = n) :
    (create n : MessageBlock β).copy data = ⟨n, data, Nat.le_of_eq h⟩ := by
  simp [copy, create, h]

end MessageBlock

/-- Offer a dequeued message to the socket and advance its read pointer by what the socket took.  Every
handler that drains a queue does it in these words. -/
def sendMessage (r : SendResult) (message : MessageBlock β) : MessageBlock β :=
  let sentBytes := r.returned message.length
  if sentBytes = -1 then message else message.rdPtr sentBytes.toNat

/-- The message after its bytes have been offered to the socket. -/
theorem sendMessage_eq (r : SendResult) (m : MessageBlock β) :
    sendMessage r m = m.rdPtr (r.accepted m.length) := by
  unfold sendMessage
  rcases SendResult.returned_cases r m.length with h | ⟨h, h0⟩
  · rw [if_neg (by omega), h, Int.toNat_natCast]
  · rw [if_pos h, h0, MessageBlock.rdPtr_zero]

/-- A message whose send was not whole still has bytes to send. -/
theorem rdPtr_accepted_ne_nil {r : SendResult} (hr : r ≠ .all) {m : MessageBlock β} (hm : m.unread ≠ []) :
    (m.rdPtr (r.accepted m.length)).unread ≠ [] := by
  have hlt := SendResult.accepted_lt hr (List.length_pos_iff.mpr hm)
  simp only [MessageBlock.rdPtr_unread, ne_eq, List.drop_eq_nil_iff, MessageBlock.length]
  omega

/-! ### The queue -/

/-- The blocks of a message queue, the first to be dequeued first. -/
abbrev MessageQueue (β : Type*) := List (MessageBlock β)

namespace MessageQueue

/-- The bytes waiting in the queue, in the order in which they would be dequeued. -/
def unread (q : MessageQueue β) : List β := q.flatMap MessageBlock.unread

/-- The total allocated size of the queued blocks. -/
def totalSize : MessageQueue β → ℕ
  | [] => 0
  | m :: q => m.size + totalSize q

/-- Flow control: an insertion is accepted while the total is below the high-water mark. -/
def belowMark (highWaterMark : ℕ) (q : MessageQueue β) : Bool := decide (q.totalSize < highWaterMark)

/-- `enqueue_tail(message, &nowait)` -/
def enqueueTail (q : MessageQueue β) (m : MessageBlock β) (accepts : Bool) : ℤ × MessageQueue β :=
  if accepts then (q.length + 1, q ++ [m]) else (-1, q)

/-- `enqueue_head(message)` -/
def enqueueHead (q : MessageQueue β) (m : MessageBlock β) (accepts : Bool) : ℤ × MessageQueue β :=
  if accepts then (q.length + 1, m :: q) else (-1, q)

/-- `dequeue_head(message, &nowait)`: the returned integer, what `message` is set to (`none` when it is left
alone), and the queue afterwards. -/
def dequeueHead : MessageQueue β → ℤ × Option (MessageBlock β) × MessageQueue β
  | [] => (-1, none, [])
  | m :: q => (q.length, some m, q)

/-- `ACE_Task::putq` -/
def putq (q : MessageQueue β) (m : MessageBlock β) (accepts : Bool) : ℤ × MessageQueue β :=
  enqueueTail q m accepts

/-- `ACE_Task::ungetq` -/
def ungetq (q : MessageQueue β) (m : MessageBlock β) (accepts : Bool) : ℤ × MessageQueue β :=
  enqueueHead q m accepts

/-- `ACE_Task::getq` -/
def getq (q : MessageQueue β) : ℤ × Option (MessageBlock β) × MessageQueue β := dequeueHead q

@[simp] theorem unread_nil : unread ([] : MessageQueue β) = [] := rfl

@[simp] theorem unread_cons (m : MessageBlock β) (q : MessageQueue β) :
    unread (m :: q) = m.unread ++ unread q := List.flatMap_cons

@[simp] theorem unread_append (q q' : MessageQueue β) : unread (q ++ q') = unread q ++ unread q' :=
  List.flatMap_append

@[simp] theorem totalSize_cons (m : MessageBlock β) (q : MessageQueue β) :
    totalSize (m :: q) = m.size + totalSize q := rfl

theorem totalSize_append (q q' : MessageQueue β) : totalSize (q ++ q') = totalSize q + totalSize q' := by
  induction q with
  | nil => exact (Nat.zero_add _).symm
  | cons m q ih =>
    show m.size + totalSize (q ++ q') = m.size + totalSize q + totalSize q'
    rw [ih]
    omega

/-- The bytes of a queue, cut inside one of its messages. -/
theorem unread_split (front : MessageQueue β) (m : MessageBlock β) (rest : MessageQueue β) (k : ℕ) :
    unread (front ++ m :: rest) = unread front ++ m.unread.take k ++ unread (m.rdPtr k :: rest) := by
  rw [unread_append, unread_cons, unread_cons, MessageBlock.rdPtr_unread, List.append_assoc,
    ← List.append_assoc (m.unread.take k), List.take_append_drop]

/-- An accepted insertion does not return `-1`. -/
theorem enqueueTail_accepted (q : MessageQueue β) (m : MessageBlock β) :
    (enqueueTail q m true).1 ≠ -1 ∧ (enqueueTail q m true).2 = q ++ [m] := by
  refine ⟨?_, rfl⟩
  simp only [enqueueTail, if_true]
  omega

theorem enqueueTail_refused (q : MessageQueue β) (m : MessageBlock β) :
    enqueueTail q m false = (-1, q) := rfl

/-- Every block of the queue still has bytes to send. -/
def NoneEmpty (q : MessageQueue β) : Prop := ∀ m ∈ q, m.unread ≠ []

/-- In a queue without empty blocks, no bytes waiting means no blocks waiting. -/
theorem NoneEmpty.unread_eq_nil {q : MessageQueue β} (h : NoneEmpty q) : unread q = [] ↔ q = [] := by
  cases q with
  | nil => simp
  | cons m q =>
    have hm := h m List.mem_cons_self
    simp [hm]

end MessageQueue

end AceSamples.AceMessageQueue
