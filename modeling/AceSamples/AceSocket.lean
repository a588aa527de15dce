import Mathlib.Data.List.Basic
import Mathlib.Data.Nat.Notation
import Mathlib.Data.Int.Notation

/-!
# Sockets and reactor masks as the handlers see them

The calls that the handlers make on `ACE_SOCK_Stream` and on the reactor answer with an integer, an error
code and, for `recv`, the bytes put into the caller's buffer.  What they answer is not up to the program, so
it is data of the model:

* `RecvResult` — a chunk of between `1` and `cap` bytes, the end of the stream, or an error;
* `SendResult` — all bytes of the buffer, a proper prefix of it, `-1` with `EWOULDBLOCK`, `-1` with another
  error.  `part k` stands for a proper prefix of `k` bytes (of all bytes but one, where `k` is too large), so
  that every value of the type is an answer a socket can give to every non-empty buffer;
* `arrives` — which results of `recv` a stream allows;
* `Mask` — the bits of `ACE_Reactor_Mask` that the samples use.
-/

set_option autoImplicit false

namespace AceSamples.AceSocket

/-! ### Receiving -/

/-- What `recv` puts into a buffer of `cap` bytes when it succeeds. -/
structure Chunk (β : Type*) (cap : ℕ) where
  bytes : List β
  pos : 0 < bytes.length
  le : bytes.length ≤ cap

/-- The result of `recv` into a buffer of `cap` bytes. -/
inductive RecvResult (β : Type*) (cap : ℕ) where
  | data : Chunk β cap → RecvResult β cap
  | closed : RecvResult β cap
  | failed : RecvResult β cap

namespace RecvResult

variable {β : Type*} {cap : ℕ}

/-- The bytes at the front of the caller's buffer. -/
def bytes : RecvResult β cap → List β
  | .data c => c.bytes
  | .closed => []
  | .failed => []

theorem bytes_length_le (r : RecvResult β cap) : r.bytes.length ≤ cap := by
  cases r with
  | data c => exact c.le
  | closed => exact Nat.zero_le cap
  | failed => exact Nat.zero_le cap

/-- The integer that `recv` returns. -/
def returned : RecvResult β cap → ℤ
  | .data c => c.bytes.length
  | .closed => 0
  | .failed => -1

theorem returned_data_pos (c : Chunk β cap) : 0 < (RecvResult.data c).returned := by
  have := c.pos
  simp only [returned]
  omega

end RecvResult

/-! ### Streams -/

section Streams

variable {β : Type*} [DecidableEq β] {cap : ℕ}

/-- Whether `recv` can give a result, when the other side's socket has accepted `given`, of which `taken` has been
received, and when the other side has or has not closed. -/
def arrives (given taken : List β) (closed : Bool) : RecvResult β cap → Bool
  | .data c => (taken ++ c.bytes).isPrefixOf given
  | .closed => closed && decide (taken = given)
  | .failed => true

/-- What `recv` delivers is the next piece of the stream. -/
theorem arrives_prefix {given taken : List β} {closed : Bool} {r : RecvResult β cap}
    (h : arrives given taken closed r = true) (htaken : taken <+: given) : taken ++ r.bytes <+: given := by
  cases r with
  | data c => exact List.isPrefixOf_iff_prefix.mp h
  | closed =>
    rw [show (RecvResult.closed : RecvResult β cap).bytes = [] from rfl, List.append_nil]
    exact htaken
  | failed =>
    rw [show (RecvResult.failed : RecvResult β cap).bytes = [] from rfl, List.append_nil]
    exact htaken

theorem arrives_closed {given taken : List β} {closed : Bool}
    (h : arrives given taken closed (.closed : RecvResult β cap) = true) : closed = true ∧ taken = given := by
  simp only [arrives, Bool.and_eq_true, decide_eq_true_eq] at h
  exact h

end Streams

/-! ### Sending -/

/-- The error codes that the handlers tell apart. -/
inductive Errno where
  | ewouldblock
  | other
  deriving DecidableEq, Repr

/-- The result of `send`. -/
inductive SendResult where
  | all
  | part (k : ℕ)
  | wouldBlock
  | failed
  deriving DecidableEq, Repr

namespace SendResult

/-- How many bytes of a buffer of `len` bytes the socket has taken. -/
def accepted : SendResult → ℕ → ℕ
  | .all, len => len
  | .part k, len => min k (len - 1)
  | .wouldBlock, _ => 0
  | .failed, _ => 0

/-- The integer that `send` returns. -/
def returned : SendResult → ℕ → ℤ
  | .wouldBlock, _ => -1
  | .failed, _ => -1
  | r, len => r.accepted len

/-- `ACE_OS::last_error()` after the call; the callers read it only when `send` returned `-1`. -/
def lastError : SendResult → Errno
  | .wouldBlock => .ewouldblock
  | _ => .other

theorem accepted_le (r : SendResult) (len : ℕ) : r.accepted len ≤ len := by
  cases r <;> simp only [accepted] <;> omega

/-- A send that is not whole leaves something of a non-empty buffer. -/
theorem accepted_lt {r : SendResult} (hr : r ≠ .all) {len : ℕ} (hlen : 0 < len) :
    r.accepted len < len := by
  cases r with
  | all => exact absurd rfl hr
  | part k => simp only [accepted]; omega
  | wouldBlock => exact hlen
  | failed => exact hlen

/-- A send that leaves nothing of a non-empty buffer was whole. -/
theorem eq_all_of_none_left {r : SendResult} {len : ℕ} (hlen : 0 < len)
    (h : ¬len - r.accepted len > 0) : r = .all := by
  by_contra hr
  have := accepted_lt hr hlen
  omega

@[simp] theorem accepted_all (len : ℕ) : SendResult.all.accepted len = len := rfl

/-- A send that leaves something was not whole. -/
theorem ne_all_of_left {r : SendResult} {len : ℕ} (h : len - r.accepted len > 0) : r ≠ .all := by
  rintro rfl
  rw [accepted_all] at h
  omega

@[simp] theorem accepted_failed (len : ℕ) : SendResult.failed.accepted len = 0 := rfl

@[simp] theorem returned_all (len : ℕ) : SendResult.all.returned len = len := rfl

/-- `send` returns the number of bytes it took, or `-1` having taken none. -/
theorem returned_cases (r : SendResult) (len : ℕ) :
    r.returned len = r.accepted len ∨ r.returned len = -1 ∧ r.accepted len = 0 := by
  cases r with
  | all => exact Or.inl rfl
  | part k => exact Or.inl rfl
  | wouldBlock => exact Or.inr ⟨rfl, rfl⟩
  | failed => exact Or.inr ⟨rfl, rfl⟩

/-- `-1` normalised to `0` is the number of bytes taken. -/
theorem returned_normalised (r : SendResult) (len : ℕ) :
    (if r.returned len = -1 then 0 else r.returned len) = (r.accepted len : ℤ) := by
  rcases returned_cases r len with h | ⟨h, h0⟩
  · rw [h, if_neg (by omega)]
  · rw [if_pos h, h0]; rfl

/-- Only a whole send returns the length of a non-empty buffer. -/
theorem returned_eq_length {r : SendResult} {len : ℕ} (hlen : 0 < len) :
    r.returned len = len ↔ r = .all := by
  constructor
  · intro h
    by_contra hr
    have hlt := accepted_lt hr hlen
    rcases returned_cases r len with h' | ⟨h', _⟩ <;> omega
  · rintro rfl
    rfl

/-- `-1` with another error than `EWOULDBLOCK` is the result `failed`. -/
theorem failed_iff (r : SendResult) (len : ℕ) :
    r.returned len = -1 ∧ r.lastError ≠ .ewouldblock ↔ r = .failed := by
  cases r <;> simp [returned, lastError]

end SendResult

/-- The number of sends at the head of a list of results that were whole. -/
def wholeSends (sends : List SendResult) : ℕ := (sends.takeWhile (· = .all)).length

@[simp] theorem wholeSends_all (sends : List SendResult) :
    wholeSends (.all :: sends) = wholeSends sends + 1 := by simp [wholeSends]

theorem wholeSends_short {r : SendResult} (hr : r ≠ .all) (sends : List SendResult) :
    wholeSends (r :: sends) = 0 := by simp [wholeSends, hr]

theorem wholeSends_replicate (n : ℕ) (sends : List SendResult) :
    wholeSends (List.replicate n .all ++ sends) = n + wholeSends sends := by
  induction n with
  | zero => simp
  | succ n ih =>
    rw [List.replicate_succ, List.cons_append, wholeSends_all, ih]
    omega

theorem wholeSends_headD {sends : List SendResult} (h : sends.headD .wouldBlock ≠ .all) :
    wholeSends sends = 0 := by
  cases sends with
  | nil => rfl
  | cons r sends => exact wholeSends_short h sends

/-- One more whole send. -/
theorem replicate_all_snoc {sends rest : List SendResult} {n : ℕ}
    (hs : sends = List.replicate n .all ++ rest) (hall : rest.headD .wouldBlock = .all) :
    sends = List.replicate (n + 1) .all ++ rest.tail := by
  cases rest with
  | nil => cases hall
  | cons r rest =>
    obtain rfl : r = .all := hall
    rw [hs, List.replicate_add, List.append_assoc]
    rfl

/-! ### Reactor masks -/

/-- The bits of an `ACE_Reactor_Mask` that the samples use. -/
@[ext] structure Mask where
  read : Bool
  write : Bool
  accept : Bool
  dontCall : Bool
  deriving DecidableEq, Repr

namespace Mask

/-- The mask `0`. -/
def null : Mask := ⟨false, false, false, false⟩

def readMask : Mask := ⟨true, false, false, false⟩

def writeMask : Mask := ⟨false, true, false, false⟩

def acceptMask : Mask := ⟨false, false, true, false⟩

def allEventsMask : Mask := ⟨true, true, true, false⟩

def dontCallMask : Mask := ⟨false, false, false, true⟩

/-- `a | b` -/
def union (a b : Mask) : Mask :=
  ⟨a.read || b.read, a.write || b.write, a.accept || b.accept, a.dontCall || b.dontCall⟩

/-- `a & ~b` -/
def remove (a b : Mask) : Mask :=
  ⟨a.read && !b.read, a.write && !b.write, a.accept && !b.accept, a.dontCall && !b.dontCall⟩

/-- Removing all events and the `DONT_CALL` bit leaves nothing. -/
@[simp] theorem remove_all (a : Mask) : a.remove (allEventsMask.union dontCallMask) = null := by
  simp [remove, union, allEventsMask, dontCallMask, null]

end Mask

end AceSamples.AceSocket
