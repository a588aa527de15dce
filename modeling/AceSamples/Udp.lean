import AceSamples.AceSocket
import AceSamples.ByteBuffer

/-!
# The datagrams of UdpReceiver1-ace and UdpSender1-ace

`EchoDatagram` receives a datagram into a buffer on its stack and sends the buffer back.  What it passes to
`send` is the size of the buffer, not the number of bytes received, so that the reply carries whatever the
stack held before.

* `echoDatagram`, `sendDatagram` — the two functions; the old contents of their buffers are arguments;
* `exchange` — the two programs over a channel that delivers datagrams unchanged;
* `echoDatagram_eq_iff` — what a reply tells about the old contents of the buffer;
* `reply_is_request_iff` — the reply is the request, whatever the buffer held, exactly when the request fills
  the buffer.

`bufsiz` stands for the macro `BUFSIZ` of the C library.
-/

set_option autoImplicit false

namespace AceSamples.Udp

open AceSamples.AceSocket AceSamples.ByteBuffer

variable {bufsiz : ℕ}

/-! ### The programs -/

/-- `EchoDatagram`: the datagram it passes to `udp.send`, if any, when `udp.recv` comes to `r` and the buffer
held `buffer` before. -/
def echoDatagram (buffer : Buffer UInt8 bufsiz) (r : RecvResult UInt8 bufsiz) : Option (List UInt8) :=
  let size := bufsiz
  let buffer := buffer.fill r.bytes r.bytes_length_le
  let received := r.returned
  if received > 0 then some (buffer.front size) else none

/-- `strlen(message)` -/
def strlen (message : List UInt8) : ℕ := (message.takeWhile (· ≠ 0)).length

/-- The datagram that `SendDatagram` sends. -/
def request (message : List UInt8) : List UInt8 := message.take (strlen message + 1)

/-- `SendDatagram`, from its `udp.recv` on: what it returns, and the bytes it has received.  `sent` is what
its `udp.send` returned. -/
def sendDatagram (buffer : Buffer UInt8 bufsiz) (sent : ℤ) (r : RecvResult UInt8 bufsiz) :
    ℤ × List UInt8 :=
  let buffer := buffer.fill r.bytes r.bytes_length_le
  let received := r.returned
  (if sent = -1 then -1 else 0, buffer.front received.toNat)

/-- The text in `SendDatagram`, with its terminating zero. -/
def message : List UInt8 :=
  [116, 104, 105, 115, 32, 105, 115, 32, 97, 32, 109, 101, 115, 115, 97, 103, 101, 33, 10, 0]

/-- What `recv` comes to when a datagram arrives: a datagram larger than the buffer is an error. -/
def deliver (datagram : List UInt8) : RecvResult UInt8 bufsiz :=
  if h : 0 < datagram.length ∧ datagram.length ≤ bufsiz then .data ⟨datagram, h.1, h.2⟩
  else if datagram.length = 0 then .closed
  else .failed

/-- `SendDatagram` sends `message` and waits for the reply of `EchoDatagram`; `none` if there is none. -/
def exchange (listener sender : Buffer UInt8 bufsiz) (message : List UInt8) : Option (ℤ × List UInt8) :=
  (echoDatagram listener (deliver (request message))).map fun reply =>
    sendDatagram sender (request message).length (deliver reply)

/-! ### The reply -/

theorem deliver_chunk (m : Chunk UInt8 bufsiz) : deliver m.bytes = .data m := dif_pos ⟨m.pos, m.le⟩

/-- The reply is the whole buffer. -/
theorem echoDatagram_data (buffer : Buffer UInt8 bufsiz) (m : Chunk UInt8 bufsiz) :
    echoDatagram buffer (.data m) = some ((buffer.fill m.bytes m.le).front bufsiz) :=
  if_pos (RecvResult.returned_data_pos m)

/-- The replies of two runs are equal exactly when the old contents were equal behind the request. -/
theorem echoDatagram_eq_iff (buffer buffer' : Buffer UInt8 bufsiz) (m : Chunk UInt8 bufsiz) :
    echoDatagram buffer (.data m) = echoDatagram buffer' (.data m)
      ↔ buffer.bytes.drop m.bytes.length = buffer'.bytes.drop m.bytes.length := by
  rw [echoDatagram_data, echoDatagram_data, Option.some.injEq, Buffer.front_size, Buffer.front_size]
  exact List.append_right_inj m.bytes

theorem echoDatagram_eq_some_iff (buffer : Buffer UInt8 bufsiz) (m : Chunk UInt8 bufsiz) :
    echoDatagram buffer (.data m) = some m.bytes ↔ m.bytes.length = bufsiz := by
  rw [echoDatagram_data, Option.some.injEq, Buffer.front_fill_eq_iff buffer m.le (Nat.le_refl _)]
  exact eq_comm

/-- `SendDatagram` gets the datagram that arrives. -/
theorem sendDatagram_data (buffer : Buffer UInt8 bufsiz) {sent : ℤ} (hsent : sent ≠ -1)
    (m : Chunk UInt8 bufsiz) : sendDatagram buffer sent (.data m) = (0, m.bytes) := by
  have hfront : (buffer.fill m.bytes m.le).front m.bytes.length = m.bytes :=
    (Buffer.front_fill_eq_iff buffer m.le m.le).mpr rfl
  show (if sent = -1 then -1 else 0, (buffer.fill m.bytes m.le).front m.bytes.length) = (0, m.bytes)
  rw [if_neg hsent, hfront]

/-- What `SendDatagram` receives is the reply of `EchoDatagram`. -/
theorem exchange_eq (listener sender : Buffer UInt8 bufsiz) {message : List UInt8} {m : Chunk UInt8 bufsiz}
    (hm : request message = m.bytes) :
    exchange listener sender message = (echoDatagram listener (.data m)).map fun reply => (0, reply) := by
  have hsent : (m.bytes.length : ℤ) ≠ -1 := by omega
  have hlen := Buffer.front_length (listener.fill m.bytes m.le) (Nat.le_refl bufsiz)
  have hpos := m.pos
  have hle := m.le
  have hreply : 0 < ((listener.fill m.bytes m.le).front bufsiz).length
      ∧ ((listener.fill m.bytes m.le).front bufsiz).length ≤ bufsiz := by
    rw [hlen]
    omega
  rw [exchange, hm, deliver_chunk, echoDatagram_data, Option.map_some, Option.map_some]
  rw [deliver_chunk ⟨_, hreply.1, hreply.2⟩, sendDatagram_data sender hsent]

/-- **When a UDP echo carries nothing but the request.**  For every request and any two old contents of the
buffer, the replies of the two runs are the same and equal to the request if and only if the request fills the
buffer; and `SendDatagram`, whatever it sends, receives exactly the bytes it has sent if and only if they do. -/
theorem reply_is_request_iff (m : Chunk UInt8 bufsiz) (buffer buffer' sender : Buffer UInt8 bufsiz) :
    (echoDatagram buffer (.data m) = echoDatagram buffer' (.data m)
        ∧ echoDatagram buffer (.data m) = some m.bytes ↔ m.bytes.length = bufsiz)
      ∧ ∀ message, request message = m.bytes →
        (exchange buffer sender message = some (0, m.bytes) ↔ m.bytes.length = bufsiz) := by
  constructor
  · constructor
    · intro hboth
      obtain ⟨_, h⟩ := hboth
      exact (echoDatagram_eq_some_iff buffer m).mp h
    · intro hlen
      have h := (echoDatagram_eq_some_iff buffer m).mpr hlen
      have h' := (echoDatagram_eq_some_iff buffer' m).mpr hlen
      exact ⟨h.trans h'.symm, h⟩
  · intro message hm
    rw [exchange_eq buffer sender hm, ← echoDatagram_eq_some_iff buffer m, echoDatagram_data,
      Option.map_some, Option.some.injEq, Option.some.injEq, Prod.mk.injEq, and_iff_right rfl]

/-- The datagram that `SendDatagram` sends, received into a buffer of just its size. -/
def fillingMessage : Chunk UInt8 20 := ⟨request message, by decide, by decide⟩

theorem reply_is_request_fillingMessage :
    (echoDatagram (.replicate 20 0) (.data fillingMessage)
          = echoDatagram (.replicate 20 170) (.data fillingMessage)
        ∧ echoDatagram (.replicate 20 0) (.data fillingMessage) = some fillingMessage.bytes)
      ∧ exchange (.replicate 20 0 : Buffer UInt8 20) (.replicate 20 0) message
        = some (0, fillingMessage.bytes) := by
  obtain ⟨hreply, hexchange⟩ :=
    reply_is_request_iff fillingMessage (.replicate 20 0) (.replicate 20 170) (.replicate 20 0)
  exact ⟨hreply.mpr rfl, (hexchange message rfl).mpr rfl⟩

/-- The datagram that `SendDatagram` sends, received into a buffer of `512` bytes. -/
def sentMessage : Chunk UInt8 512 := ⟨request message, by decide, by decide⟩

/-- With `BUFSIZ` equal to `512`: the text of `SendDatagram` comes back with `492` bytes of the receiver's
stack. -/
theorem reply_leaks :
    echoDatagram (.replicate 512 0) (.data sentMessage) ≠ echoDatagram (.replicate 512 170) (.data sentMessage)
      ∧ echoDatagram (.replicate 512 170) (.data sentMessage)
        = some (request message ++ List.replicate 492 170)
      ∧ exchange (.replicate 512 170) (.replicate 512 0) message ≠ some (0, request message) := by
  decide +kernel

end AceSamples.Udp
