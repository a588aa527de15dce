import AceSamples.ByteBuffer
import AceSamples.ScriptedRun
import AceSamples.Server1

/-!
# The echo loop of Server1-msdn under short sends

`send` may take fewer bytes than it is given, and returns how many it has taken.  The loop checks the returned
number for an error only and goes on with the next `recv`.

* `Traffic`, `step` — a point of the program with the bytes received and accepted so far;
* `Round`, `script` — the calls of a whole loop: chunks with the results of sending them, and then the end of
  the stream;
* `run_script` — the loop ends normally, having sent of each chunk what its one `send` took;
* `echo_whole_iff` — that is the received stream exactly when every `send` took all its bytes.
-/

set_option autoImplicit false

namespace AceSamples.Server1

open AceSamples.AceSocket AceSamples.ByteBuffer AceSamples.ScriptedRun AceSamples.Winsock

/-- A point of `main`, with the bytes that have been received and the bytes that `send` has accepted. -/
structure Traffic where
  point : Point
  received : List UInt8
  accepted : List UInt8

/-- The bytes that an answer delivers. -/
def delivered : Answer → List UInt8
  | .received r => r.bytes
  | _ => []

/-- The bytes that `send` has accepted with its answer. -/
def acceptedBy : Point → Answer → List UInt8
  | .send buffer, .sent r => buffer.take (r.accepted buffer.length)
  | _, _ => []

/-- `main` goes on with the answer to its call. -/
def step (t : Traffic) (a : Answer) : Option Traffic :=
  (resume t.point a).map fun p => ⟨p, t.received ++ delivered a, t.accepted ++ acceptedBy t.point a⟩

/-- A chunk with the result of sending it. -/
abbrev Round := Chunk UInt8 bufferSize × SendResult

/-- The answers that a whole loop gets. -/
def script (rounds : List Round) : List Answer :=
  (rounds.flatMap fun round => [.received (.data round.1), .sent round.2]) ++ [.received .closed]

/-- The entry of the loop. -/
def entered : Traffic := ⟨.recv, [], []⟩

/-- A `send` that returns a positive number lets the loop go on. -/
theorem resume_accepted {r : SendResult} {buffer : List UInt8} (hr : 0 < r.accepted buffer.length) :
    resume (.send buffer) (.sent r) = some .recv := by
  have hne : r.returned buffer.length ≠ -1 := by
    obtain h | ⟨_, h⟩ := SendResult.returned_cases r buffer.length
    · omega
    · omega
  simp only [resume, if_neg hne]

/-- One trip round the loop. -/
theorem run_round (round : Round) (hr : 0 < round.2.accepted round.1.bytes.length) (got sent : List UInt8) :
    run step ⟨.recv, got, sent⟩ [.received (.data round.1), .sent round.2]
      = some ⟨.recv, got ++ round.1.bytes,
        sent ++ round.1.bytes.take (round.2.accepted round.1.bytes.length)⟩ := by
  have hrecv : step ⟨.recv, got, sent⟩ (.received (.data round.1))
      = some ⟨.send round.1.bytes, got ++ round.1.bytes, sent⟩ := by
    simp only [step, resume_data, Option.map_some, delivered, RecvResult.bytes, acceptedBy, List.append_nil]
  have hsend : step ⟨.send round.1.bytes, got ++ round.1.bytes, sent⟩ (.sent round.2)
      = some ⟨.recv, got ++ round.1.bytes,
        sent ++ round.1.bytes.take (round.2.accepted round.1.bytes.length)⟩ := by
    simp only [step, resume_accepted hr, Option.map_some, delivered, acceptedBy, List.append_nil]
  rw [run_cons, hrecv, Option.bind_some, run_cons, hsend]
  rfl

/-- **The whole loop** ends normally; of each chunk it has sent what the one `send` took. -/
theorem run_script (rounds : List Round)
    (hpermitted : ∀ round ∈ rounds, 0 < round.2.accepted round.1.bytes.length) (got sent : List UInt8) :
    run step ⟨.recv, got, sent⟩ (script rounds)
      = some ⟨.shutdown, got ++ rounds.flatMap fun round => round.1.bytes,
        sent ++ rounds.flatMap fun round => round.1.bytes.take (round.2.accepted round.1.bytes.length)⟩ := by
  induction rounds generalizing got sent with
  | nil =>
    show run step ⟨.recv, got, sent⟩ [.received .closed] = _
    rw [run_cons]
    rfl
  | cons round rounds ih =>
    obtain ⟨hr, hrest⟩ := List.forall_mem_cons.mp hpermitted
    have hsplit : script (round :: rounds)
        = [.received (.data round.1), .sent round.2] ++ script rounds := rfl
    rw [hsplit, run_append (run_round round hr got sent), ih hrest]
    simp only [List.flatMap_cons, List.append_assoc]

/-- **When the echo loop returns the whole stream.**  For every sequence of chunks and every positive number of
bytes that each `send` takes, the loop ends normally, and what `send` has accepted is what has been received if
and only if every `send` has taken its whole chunk. -/
theorem echo_whole_iff (rounds : List Round)
    (hpermitted : ∀ round ∈ rounds, 0 < round.2.accepted round.1.bytes.length) :
    ∃ t, run step entered (script rounds) = some t ∧ t.point = .shutdown
      ∧ t.received = (rounds.flatMap fun round => round.1.bytes)
      ∧ (t.accepted = t.received
        ↔ ∀ round ∈ rounds, round.2.accepted round.1.bytes.length = round.1.bytes.length) := by
  refine ⟨_, run_script rounds hpermitted [] [], rfl, rfl, ?_⟩
  show (rounds.flatMap fun round => round.1.bytes.take (round.2.accepted round.1.bytes.length))
    = (rounds.flatMap fun round => round.1.bytes) ↔ _
  rw [flatMap_take_eq_iff (fun round : Round => round.1.bytes)
    (fun round => round.2.accepted round.1.bytes.length)]
  refine forall₂_congr fun round _ => ?_
  have hle := round.2.accepted_le round.1.bytes.length
  omega

/-- Two bytes, of which `send` takes one. -/
def shortRound : Round := (⟨[1, 2], by decide, by decide⟩, .part 1)

theorem echo_whole_shortRound :
    ∃ t, run step entered (script [shortRound]) = some t ∧ t.point = .shutdown
      ∧ t.received = ([shortRound].flatMap fun round => round.1.bytes)
      ∧ (t.accepted = t.received
        ↔ ∀ round ∈ [shortRound], round.2.accepted round.1.bytes.length = round.1.bytes.length) :=
  echo_whole_iff [shortRound] (by decide)

/-- The byte that `send` has not taken is never sent. -/
theorem echo_loses_remainder :
    ∃ t, run step entered (script [shortRound]) = some t ∧ t.point = .shutdown
      ∧ t.received = [1, 2] ∧ t.accepted = [1] ∧ t.accepted ≠ t.received :=
  ⟨_, rfl, rfl, rfl, rfl, by decide⟩

end AceSamples.Server1
