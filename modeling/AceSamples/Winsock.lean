import AceSamples.AceSocket
import Mathlib.Tactic.Basic

/-!
# Programs over a Winsock connection

The Winsock samples are straight-line programs with a receive loop.  Such a program is given by the points at
which it makes a call: `request` is the call it makes there, `resume` the point it goes to with the answer.
What the calls do to a connection is described once, for every program:

* `Stream` — the bytes in flight in one direction, and whether the sender has shut down;
* `move` — one call of a program that reads from one stream and writes to another, on a connection on which no
  call fails and every `send` hands over all its bytes;
* `move_effect` — the inversion lemma of `move`.

`recv` delivers the first `n` bytes in flight, for an `n` that the network chooses, and `0` only when the
sender has shut down and all its bytes have been delivered; otherwise it waits, and so does the program.
Closing a socket leaves the streams alone: the samples shut down before they close.
-/

set_option autoImplicit false

namespace AceSamples.Winsock

open AceSamples.AceSocket

/-- `bufferSize` of the samples. -/
def bufferSize : ℕ := 512

/-- `E_FAIL`, as the `int` that `main` returns. -/
def eFail : ℤ := -2147467259

theorem eFail_ne_zero : eFail ≠ 0 := by decide

/-- Of two return values it is `0` exactly when it is not `E_FAIL`. -/
theorem return_zero_iff {hr : ℤ} {P : Prop} (hd : hr = 0 ∨ hr = eFail) (hfails : hr = eFail ↔ ¬P) : hr = 0 ↔ P := by
  obtain rfl | rfl := hd
  · exact iff_of_true rfl (not_not.mp fun h => eFail_ne_zero (hfails.mpr h).symm)
  · exact iff_of_false eFail_ne_zero (hfails.mp rfl)

/-- A call that a program makes. -/
inductive Request where
  | recv
  | send (buffer : List UInt8)
  | shutdown
  | other
  deriving DecidableEq, Repr

/-- What a call answers. -/
inductive Answer where
  | ok
  | error
  | received (r : RecvResult UInt8 bufferSize)
  | sent (r : SendResult)

/-- The answers to a call on a connection on which no call fails and every `send` hands over all its bytes. -/
inductive Succeeds : Request → Answer → Prop
  | recv (r : RecvResult UInt8 bufferSize) : Succeeds .recv (.received r)
  | send (buffer : List UInt8) : Succeeds (.send buffer) (.sent .all)
  | shutdown : Succeeds .shutdown .ok
  | other : Succeeds .other .ok

/-- A program: the call it makes at each of its points (`none` where it has returned), and where it goes with
the answer (`none` for an answer that the call cannot give).  It has a way to go on with every answer to a
call that succeeds. -/
structure Program (π : Type) where
  request : π → Option Request
  resume : π → Answer → Option π
  total : ∀ {p : π} {req : Request} {a : Answer}, request p = some req → Succeeds req a →
    ∃ p', resume p a = some p'

/-! ### Streams -/

/-- One direction of a connection. -/
structure Stream where
  bytes : List UInt8
  ended : Bool
  deriving DecidableEq, Repr

namespace Stream

def empty : Stream := ⟨[], false⟩

/-- `send` -/
def write (data : List UInt8) (s : Stream) : Stream := { s with bytes := s.bytes ++ data }

/-- `shutdown(SD_SEND)` -/
def finish (s : Stream) : Stream := { s with ended := true }

/-- `recv` into a buffer of `bufferSize` bytes: the first `n` bytes, or the end of the stream. -/
def recv (n : ℕ) (s : Stream) : Option (RecvResult UInt8 bufferSize × Stream) :=
  if h : 0 < n ∧ n ≤ bufferSize ∧ n ≤ s.bytes.length then
    some (.data ⟨s.bytes.take n, by rw [List.length_take]; omega, by rw [List.length_take]; omega⟩,
      { s with bytes := s.bytes.drop n })
  else if s.bytes.isEmpty && s.ended then some (.closed, s)
  else none

/-- Everything has been delivered, and nothing will follow. -/
def Drained (s : Stream) : Prop := s.bytes = [] ∧ s.ended = true

/-- `recv` delivers a non-empty piece from the front, or the end of a drained stream. -/
theorem recv_eq_some {n : ℕ} {s s' : Stream} {r : RecvResult UInt8 bufferSize}
    (h : s.recv n = some (r, s')) :
    (∃ c, r = .data c ∧ s.bytes = c.bytes ++ s'.bytes ∧ s'.ended = s.ended) ∨
      (r = .closed ∧ s' = s ∧ s.Drained) := by
  unfold recv at h
  split at h
  · rename_i hn
    rw [Option.some.injEq, Prod.mk.injEq] at h
    obtain ⟨rfl, rfl⟩ := h
    exact Or.inl ⟨_, rfl, (List.take_append_drop n s.bytes).symm, rfl⟩
  · split at h
    · rename_i hend
      rw [Option.some.injEq, Prod.mk.injEq] at h
      obtain ⟨rfl, rfl⟩ := h
      rw [Bool.and_eq_true, List.isEmpty_iff] at hend
      exact Or.inr ⟨rfl, rfl, hend⟩
    · cases h

/-- `recv` waits only for a sender that has not shut down, with nothing in flight. -/
theorem exists_recv {s : Stream} (h : s.bytes ≠ [] ∨ s.ended = true) :
    ∃ n r s', s.recv n = some (r, s') := by
  cases hb : s.bytes with
  | cons b bs =>
    have hn : 0 < 1 ∧ 1 ≤ bufferSize ∧ 1 ≤ s.bytes.length := by
      refine ⟨Nat.one_pos, by decide, ?_⟩
      rw [hb]
      exact Nat.succ_le_succ (Nat.zero_le _)
    refine ⟨1, ?_⟩
    unfold recv
    rw [dif_pos hn]
    exact ⟨_, _, rfl⟩
  | nil =>
    have hended : s.ended = true := h.resolve_left fun hne => hne hb
    refine ⟨0, .closed, s, ?_⟩
    unfold recv
    rw [dif_neg (fun hn => Nat.lt_irrefl 0 hn.1), hb, hended]
    rfl

end Stream

/-! ### One call -/

/-- A program at `point` that reads from `input` and writes to `output`, with the bytes it has just got and
put. -/
structure Moved (π : Type) where
  point : π
  input : Stream
  output : Stream
  got : List UInt8
  put : List UInt8

variable {π : Type}

/-- One call of the program; `none` when it has returned or has to wait. -/
def move (P : Program π) (n : ℕ) (p : π) (input output : Stream) : Option (Moved π) :=
  match P.request p with
  | none => none
  | some .recv =>
    match input.recv n with
    | none => none
    | some (r, input) => (P.resume p (.received r)).map fun p => ⟨p, input, output, r.bytes, []⟩
  | some (.send buffer) =>
    (P.resume p (.sent .all)).map fun p => ⟨p, input, output.write buffer, [], buffer⟩
  | some .shutdown => (P.resume p .ok).map fun p => ⟨p, input, output.finish, [], []⟩
  | some .other => (P.resume p .ok).map fun p => ⟨p, input, output, [], []⟩

/-- The effects of a call. -/
inductive MoveEffect (P : Program π) (p : π) (input output : Stream) : Moved π → Prop
  | data (c : Chunk UInt8 bufferSize) (p' : π) (input' : Stream) (hreq : P.request p = some .recv)
      (hp : P.resume p (.received (.data c)) = some p') (hbytes : input.bytes = c.bytes ++ input'.bytes)
      (hended : input'.ended = input.ended) : MoveEffect P p input output ⟨p', input', output, c.bytes, []⟩
  | closed (p' : π) (hreq : P.request p = some .recv) (hp : P.resume p (.received .closed) = some p')
      (hdrained : input.Drained) : MoveEffect P p input output ⟨p', input, output, [], []⟩
  | send (buffer : List UInt8) (p' : π) (hreq : P.request p = some (.send buffer))
      (hp : P.resume p (.sent .all) = some p') :
      MoveEffect P p input output ⟨p', input, output.write buffer, [], buffer⟩
  | shutdown (p' : π) (hreq : P.request p = some .shutdown) (hp : P.resume p .ok = some p') :
      MoveEffect P p input output ⟨p', input, output.finish, [], []⟩
  | other (p' : π) (hreq : P.request p = some .other) (hp : P.resume p .ok = some p') :
      MoveEffect P p input output ⟨p', input, output, [], []⟩

/-- **Inversion of a call.** -/
theorem move_effect {P : Program π} {n : ℕ} {p : π} {input output : Stream} {m : Moved π}
    (h : move P n p input output = some m) : MoveEffect P p input output m := by
  unfold move at h
  split at h
  · cases h
  · rename_i hreq
    split at h
    · cases h
    · rename_i r input' hrecv
      obtain ⟨p', hp, rfl⟩ := Option.map_eq_some_iff.mp h
      rcases Stream.recv_eq_some hrecv with ⟨c, rfl, hbytes, hended⟩ | ⟨rfl, rfl, hdrained⟩
      · exact .data c p' input' hreq hp hbytes hended
      · exact .closed p' hreq hp hdrained
  · rename_i buffer hreq
    obtain ⟨p', hp, rfl⟩ := Option.map_eq_some_iff.mp h
    exact .send buffer p' hreq hp
  · rename_i hreq
    obtain ⟨p', hp, rfl⟩ := Option.map_eq_some_iff.mp h
    exact .shutdown p' hreq hp
  · rename_i hreq
    obtain ⟨p', hp, rfl⟩ := Option.map_eq_some_iff.mp h
    exact .other p' hreq hp

section effects

variable {P : Program π} {p : π} {input output : Stream} {m : Moved π}

/-- What a call gets is taken from the front of the input. -/
theorem MoveEffect.got_append (h : MoveEffect P p input output m) :
    m.got ++ m.input.bytes = input.bytes := by
  cases h with
  | data c p' input' _ _ hbytes _ => exact hbytes.symm
  | closed _ _ _ _ => rfl
  | send _ _ _ _ => rfl
  | shutdown _ _ _ => rfl
  | other _ _ _ => rfl

/-- What a call puts is added at the end of the output. -/
theorem MoveEffect.append_put (h : MoveEffect P p input output m) :
    m.output.bytes = output.bytes ++ m.put := by
  cases h with
  | send _ _ _ _ => rfl
  | data _ _ _ _ _ _ _ => exact (List.append_nil _).symm
  | closed _ _ _ _ => exact (List.append_nil _).symm
  | shutdown _ _ _ => exact (List.append_nil _).symm
  | other _ _ _ => exact (List.append_nil _).symm

/-- A call does not touch the end mark of its input. -/
theorem MoveEffect.input_ended (h : MoveEffect P p input output m) :
    m.input.ended = input.ended := by
  cases h with
  | data _ _ _ _ _ _ hended => exact hended
  | closed _ _ _ _ => rfl
  | send _ _ _ _ => rfl
  | shutdown _ _ _ => rfl
  | other _ _ _ => rfl

end effects

/-- A program that has not returned can make its call, unless it waits for its input. -/
theorem exists_move (P : Program π) {p : π} {req : Request} {input : Stream} (output : Stream)
    (hreq : P.request p = some req)
    (hinput : req = .recv → input.bytes ≠ [] ∨ input.ended = true) :
    ∃ n m, move P n p input output = some m := by
  cases req with
  | recv =>
    obtain ⟨n, r, input', hrecv⟩ := Stream.exists_recv (hinput rfl)
    obtain ⟨p', hp⟩ := P.total hreq (.recv r)
    refine ⟨n, ⟨p', input', output, r.bytes, []⟩, ?_⟩
    simp only [move, hreq, hrecv, hp, Option.map_some]
  | send b =>
    obtain ⟨p', hp⟩ := P.total hreq (.send b)
    refine ⟨0, ⟨p', input, output.write b, [], b⟩, ?_⟩
    simp only [move, hreq, hp, Option.map_some]
  | shutdown =>
    obtain ⟨p', hp⟩ := P.total hreq .shutdown
    refine ⟨0, ⟨p', input, output.finish, [], []⟩, ?_⟩
    simp only [move, hreq, hp, Option.map_some]
  | other =>
    obtain ⟨p', hp⟩ := P.total hreq .other
    refine ⟨0, ⟨p', input, output, [], []⟩, ?_⟩
    simp only [move, hreq, hp, Option.map_some]

end AceSamples.Winsock
