import AceSamples.Server1
import AceSamples.Client4
import AceSamples.ScriptedRun

/-!
# Client4-msdn-client against Server1-msdn

The two programs run on one connection, in any interleaving, and the network delivers pieces of any size from
`1` to `512` bytes.  A byte is in one of five places: not sent yet, in flight to the server, in the server's
buffer, in flight to the client, or received.

* `Balanced` — **the invariant**: the four later places hold what has been sent, in order; and the two end
  marks agree with the points at which the programs are;
* `step_balanced`, `run_balanced` — every call of either program keeps it;
* `Balanced.progress` — unless both programs have returned, one of them has a call that does not wait: the
  client waits for bytes or for the server's end mark, the server only for the client, which has set its own
  mark before it starts to wait;
* `echo_session` — the three together.
-/

set_option autoImplicit false

namespace AceSamples.EchoSession

open AceSamples.AceSocket AceSamples.Winsock AceSamples.ScriptedRun

/-! ### The session -/

/-- The two programs and their connection; `sent` and `received` are the bytes that the client has sent and
received. -/
structure Session where
  client : Client4.Point
  server : Server1.Point
  toServer : Stream
  toClient : Stream
  sent : List UInt8
  received : List UInt8
  deriving DecidableEq, Repr

/-- The connection has just been established: the client is past `connect`, the server past `accept`. -/
def connected : Session := ⟨.send, .recv, .empty, .empty, [], []⟩

/-- One of the programs makes its call; a `recv` delivers `n` bytes. -/
inductive Turn where
  | client (n : ℕ)
  | server (n : ℕ)
  deriving DecidableEq, Repr

/-- The session after a call of the client. -/
def Session.moveClient (s : Session) (m : Moved Client4.Point) : Session :=
  { s with client := m.point, toClient := m.input, toServer := m.output,
           sent := s.sent ++ m.put, received := s.received ++ m.got }

/-- The session after a call of the server. -/
def Session.moveServer (s : Session) (m : Moved Server1.Point) : Session :=
  { s with server := m.point, toServer := m.input, toClient := m.output }

/-- One call; `none` when the program has returned or has to wait. -/
def step (data : List UInt8) (s : Session) : Turn → Option Session
  | .client n => (move (Client4.program data) n s.client s.toClient s.toServer).map s.moveClient
  | .server n => (move Server1.program n s.server s.toServer s.toClient).map s.moveServer

/-! ### The invariant -/

/-- What has happened on the connection when the client is at a point. -/
def ClientAt (data : List UInt8) (s : Session) : Client4.Point → Prop
  | .send => s.sent = [] ∧ s.toServer.ended = false
  | .shutdown => s.sent = Client4.payload data ∧ s.toServer.ended = false
  | .recv => s.sent = Client4.payload data ∧ s.toServer.ended = true
  | .shutdownAgain => s.sent = Client4.payload data ∧ s.toServer.ended = true ∧ s.toClient.Drained
  | .exiting _ _ => s.sent = Client4.payload data ∧ s.toServer.ended = true ∧ s.toClient.Drained
  | _ => False

/-- What has happened on the connection when the server is at a point. -/
def ServerAt (s : Session) : Server1.Point → Prop
  | .recv => s.toClient.ended = false
  | .send _ => s.toClient.ended = false
  | .shutdown => s.toClient.ended = false ∧ s.toServer.Drained
  | .exiting _ _ => s.toClient.ended = true ∧ s.toServer.Drained
  | _ => False

/-- **The invariant.** -/
structure Balanced (data : List UInt8) (s : Session) : Prop where
  conserved :
    s.received ++ s.toClient.bytes ++ Server1.waiting s.server ++ s.toServer.bytes = s.sent
  client : ClientAt data s s.client
  server : ServerAt s s.server

theorem connected_balanced (data : List UInt8) : Balanced data connected :=
  ⟨rfl, ⟨rfl, rfl⟩, rfl⟩

/-! ### A call of the client -/

/-- The server's part of the invariant depends on the client's end mark and on a drained stream only. -/
theorem ServerAt.frame {s s' : Session} {p : Server1.Point} (h : ServerAt s p)
    (hclient : s'.toClient.ended = s.toClient.ended)
    (hserver : s.toServer.Drained → s'.toServer.Drained) : ServerAt s' p := by
  cases p with
  | recv => exact hclient.trans h
  | send _ => exact hclient.trans h
  | shutdown => exact ⟨hclient.trans h.1, hserver h.2⟩
  | exiting _ _ => exact ⟨hclient.trans h.1, hserver h.2⟩
  | _ => exact h

section client

variable {data : List UInt8} {s : Session} {m : Moved Client4.Point}

theorem moveClient_conserved (hs : Balanced data s)
    (h : MoveEffect (Client4.program data) s.client s.toClient s.toServer m) :
    (s.received ++ m.got) ++ m.input.bytes ++ Server1.waiting s.server ++ m.output.bytes
      = s.sent ++ m.put := by
  rw [h.append_put, ← hs.conserved, ← h.got_append]
  simp only [List.append_assoc]

/-- The client's part of the invariant after its call. -/
theorem moveClient_clientAt (hs : Balanced data s)
    (h : MoveEffect (Client4.program data) s.client s.toClient s.toServer m) :
    ClientAt data (s.moveClient m) m.point := by
  have hclient := hs.client
  have hput : ∀ bs, bs = [] → s.sent ++ bs = s.sent := by
    rintro bs rfl
    exact List.append_nil _
  cases h with
  | data c p' input' hreq hp _ _ =>
    rw [Client4.eq_recv hreq] at hclient hp
    obtain rfl : .recv = p' := Option.some.inj ((Client4.resume_data data c).symm.trans hp)
    exact ⟨(hput [] rfl).trans hclient.1, hclient.2⟩
  | closed p' hreq hp hdrained =>
    rw [Client4.eq_recv hreq] at hclient hp
    cases hp
    exact ⟨(hput [] rfl).trans hclient.1, hclient.2, hdrained⟩
  | send buffer p' hreq hp =>
    obtain ⟨hpoint, rfl⟩ := Client4.eq_send hreq
    rw [hpoint] at hclient hp
    obtain rfl : .shutdown = p' := Option.some.inj ((Client4.resume_sent data).symm.trans hp)
    refine ⟨?_, hclient.2⟩
    show s.sent ++ Client4.payload data = Client4.payload data
    rw [hclient.1, List.nil_append]
  | shutdown p' hreq hp =>
    rcases Client4.eq_shutdown hreq with hpoint | hpoint
    · rw [hpoint] at hclient hp
      cases hp
      exact ⟨(hput [] rfl).trans hclient.1, rfl⟩
    · rw [hpoint] at hclient hp
      cases hp
      exact ⟨(hput [] rfl).trans hclient.1, rfl, hclient.2.2⟩
  | other p' hreq hp =>
    cases hc : s.client with
    | exiting todo hr =>
      rw [hc] at hclient hreq hp
      cases todo with
      | nil => cases hreq
      | cons r todo =>
        cases hp
        exact ⟨(hput [] rfl).trans hclient.1, hclient.2⟩
    | send => rw [hc] at hreq; cases hreq
    | shutdown => rw [hc] at hreq; cases hreq
    | recv => rw [hc] at hreq; cases hreq
    | shutdownAgain => rw [hc] at hreq; cases hreq
    | _ => rw [hc] at hclient; exact hclient.elim

/-- The server does not notice the call: the client sends nothing after its shutdown. -/
theorem moveClient_serverAt (hs : Balanced data s)
    (h : MoveEffect (Client4.program data) s.client s.toClient s.toServer m) :
    ServerAt (s.moveClient m) s.server := by
  refine hs.server.frame h.input_ended ?_
  show s.toServer.Drained → m.output.Drained
  intro hd
  cases h with
  | send buffer p' hreq hp =>
    have hclient := hs.client
    rw [(Client4.eq_send hreq).1] at hclient
    have hended : s.toServer.ended = false := hclient.2
    rw [hd.2] at hended
    cases hended
  | shutdown _ _ _ => exact ⟨hd.1, rfl⟩
  | data _ _ _ _ _ _ _ => exact hd
  | closed _ _ _ _ => exact hd
  | other _ _ _ => exact hd

theorem moveClient_balanced (hs : Balanced data s)
    (h : MoveEffect (Client4.program data) s.client s.toClient s.toServer m) :
    Balanced data (s.moveClient m) :=
  ⟨moveClient_conserved hs h, moveClient_clientAt hs h, moveClient_serverAt hs h⟩

end client

/-! ### A call of the server -/

/-- The client's part of the invariant depends on the server's end mark and on a drained stream only. -/
theorem ClientAt.frame {data : List UInt8} {s s' : Session} {p : Client4.Point} (h : ClientAt data s p)
    (hsent : s'.sent = s.sent) (hserver : s'.toServer.ended = s.toServer.ended)
    (hclient : s.toClient.Drained → s'.toClient.Drained) : ClientAt data s' p := by
  cases p with
  | send => exact ⟨hsent.trans h.1, hserver.trans h.2⟩
  | shutdown => exact ⟨hsent.trans h.1, hserver.trans h.2⟩
  | recv => exact ⟨hsent.trans h.1, hserver.trans h.2⟩
  | shutdownAgain => exact ⟨hsent.trans h.1, hserver.trans h.2.1, hclient h.2.2⟩
  | exiting _ _ => exact ⟨hsent.trans h.1, hserver.trans h.2.1, hclient h.2.2⟩
  | _ => exact h

section server

variable {data : List UInt8} {s : Session} {m : Moved Server1.Point}

theorem moveServer_conserved (hs : Balanced data s)
    (h : MoveEffect Server1.program s.server s.toServer s.toClient m) :
    s.received ++ m.output.bytes ++ Server1.waiting m.point ++ m.input.bytes = s.sent := by
  calc s.received ++ m.output.bytes ++ Server1.waiting m.point ++ m.input.bytes
      = s.received ++ s.toClient.bytes ++ (m.put ++ Server1.waiting m.point) ++ m.input.bytes := by
        rw [h.append_put]
        simp only [List.append_assoc]
    _ = s.received ++ s.toClient.bytes ++ Server1.waiting s.server ++ (m.got ++ m.input.bytes) := by
        rw [Server1.put_append_waiting h]
        simp only [List.append_assoc]
    _ = s.sent := by rw [h.got_append, hs.conserved]

/-- The server's part of the invariant after its call. -/
theorem moveServer_serverAt (hs : Balanced data s)
    (h : MoveEffect Server1.program s.server s.toServer s.toClient m) :
    ServerAt (s.moveServer m) m.point := by
  have hserver := hs.server
  cases h with
  | data c p' input' hreq hp _ _ =>
    rw [Server1.eq_recv hreq] at hserver hp
    obtain rfl : .send c.bytes = p' := Option.some.inj ((Server1.resume_data c).symm.trans hp)
    exact hserver
  | closed p' hreq hp hdrained =>
    rw [Server1.eq_recv hreq] at hserver hp
    cases hp
    exact ⟨hserver, hdrained⟩
  | send buffer p' hreq hp =>
    rw [Server1.eq_send hreq] at hserver hp
    obtain rfl : .recv = p' := Option.some.inj ((Server1.resume_sent buffer).symm.trans hp)
    exact hserver
  | shutdown p' hreq hp =>
    rw [Server1.eq_shutdown hreq] at hserver hp
    cases hp
    exact ⟨rfl, hserver.2⟩
  | other p' hreq hp =>
    cases hc : s.server with
    | exiting todo hr =>
      rw [hc] at hserver hreq hp
      cases todo with
      | nil => cases hreq
      | cons r todo =>
        cases hp
        exact hserver
    | recv => rw [hc] at hreq; cases hreq
    | send _ => rw [hc] at hreq; cases hreq
    | shutdown => rw [hc] at hreq; cases hreq
    | _ => rw [hc] at hserver; exact hserver.elim

/-- The client does not notice the call: the server sends nothing after its shutdown. -/
theorem moveServer_clientAt (hs : Balanced data s)
    (h : MoveEffect Server1.program s.server s.toServer s.toClient m) :
    ClientAt data (s.moveServer m) s.client := by
  refine hs.client.frame rfl h.input_ended ?_
  show s.toClient.Drained → m.output.Drained
  intro hd
  cases h with
  | send buffer p' hreq hp =>
    have hserver := hs.server
    rw [Server1.eq_send hreq] at hserver
    have hended : s.toClient.ended = false := hserver
    rw [hd.2] at hended
    cases hended
  | shutdown _ _ _ => exact ⟨hd.1, rfl⟩
  | data _ _ _ _ _ _ _ => exact hd
  | closed _ _ _ _ => exact hd
  | other _ _ _ => exact hd

theorem moveServer_balanced (hs : Balanced data s)
    (h : MoveEffect Server1.program s.server s.toServer s.toClient m) :
    Balanced data (s.moveServer m) :=
  have hconserved := moveServer_conserved hs h
  ⟨hconserved, moveServer_clientAt hs h, moveServer_serverAt hs h⟩

end server

/-! ### Whole runs -/

/-- **The step lemma.** -/
theorem step_balanced {data : List UInt8} {s s' : Session} {t : Turn} (hs : Balanced data s)
    (h : step data s t = some s') : Balanced data s' := by
  cases t with
  | client n =>
    obtain ⟨m, hm, rfl⟩ := Option.map_eq_some_iff.mp h
    exact moveClient_balanced hs (move_effect hm)
  | server n =>
    obtain ⟨m, hm, rfl⟩ := Option.map_eq_some_iff.mp h
    exact moveServer_balanced hs (move_effect hm)

/-- **The run lemma.** -/
theorem run_balanced {data : List UInt8} {ts : List Turn} {s : Session}
    (hrun : run (step data) connected ts = some s) : Balanced data s :=
  run_invariant (I := Balanced data) (fun _ _ _ hs h => step_balanced hs h) (connected_balanced data) hrun

/-! ### What the invariant says -/

/-- A client that has left its receive loop has everything. -/
theorem Balanced.received_eq {data : List UInt8} {s : Session} (hs : Balanced data s)
    (hended : Client4.loopEnded s.client = true) : s.received = Client4.payload data := by
  have hclient : s.sent = Client4.payload data ∧ s.toClient.Drained := by
    have h := hs.client
    cases hc : s.client with
    | shutdownAgain => rw [hc] at h; exact ⟨h.1, h.2.2⟩
    | exiting todo hr => rw [hc] at h; exact ⟨h.1, h.2.2⟩
    | _ => rw [hc] at hended; cases hended
  -- the server has set its end mark, so nothing is left with it or on the way to it
  have hserver : Server1.waiting s.server = [] ∧ s.toServer.bytes = [] := by
    have h := hs.server
    have hmark := hclient.2.2
    cases hc : s.server with
    | exiting todo hr => rw [hc] at h; exact ⟨rfl, h.2.1⟩
    | shutdown => rw [hc] at h; rw [h.1] at hmark; cases hmark
    | recv => rw [hc] at h; rw [show s.toClient.ended = false from h] at hmark; cases hmark
    | send _ => rw [hc] at h; rw [show s.toClient.ended = false from h] at hmark; cases hmark
    | _ => rw [hc] at h; exact h.elim
  have hconserved := hs.conserved
  rw [hclient.2.1, hserver.1, hserver.2, hclient.1] at hconserved
  simpa only [List.append_nil] using hconserved

/-- The server can make its call, unless it has returned or waits for a client that has not shut down. -/
theorem Balanced.server_moves {data : List UInt8} {s : Session} {req : Request}
    (hreq : Server1.request s.server = some req) (hended : s.toServer.ended = true) :
    ∃ t s', step data s t = some s' := by
  obtain ⟨n, m, hm⟩ := exists_move Server1.program s.toClient hreq fun _ => Or.inr hended
  exact ⟨.server n, s.moveServer m, by simp only [step, hm, Option.map_some]⟩

/-- The client can make its call, unless it has returned or waits for the server. -/
theorem Balanced.client_moves {data : List UInt8} {s : Session} {req : Request}
    (hreq : Client4.request data s.client = some req)
    (hinput : req = .recv → s.toClient.bytes ≠ [] ∨ s.toClient.ended = true) :
    ∃ t s', step data s t = some s' := by
  obtain ⟨n, m, hm⟩ := exists_move (Client4.program data) s.toServer hreq hinput
  exact ⟨.client n, s.moveClient m, by simp only [step, hm, Option.map_some]⟩

/-- **No deadlock.** -/
theorem Balanced.progress {data : List UInt8} {s : Session} (hs : Balanced data s)
    (hfin : ¬(Client4.request data s.client = none ∧ Server1.request s.server = none)) :
    ∃ t s', step data s t = some s' := by
  have hclient := hs.client
  cases hreq : Client4.request data s.client with
  | none =>
    -- the client has returned, hence shut down, and the server has not returned
    have hserver : Server1.request s.server ≠ none := fun h => hfin ⟨hreq, h⟩
    obtain ⟨req, hreq'⟩ := Option.ne_none_iff_exists'.mp hserver
    refine Balanced.server_moves hreq' ?_
    cases hc : s.client with
    | exiting todo hr => rw [hc] at hclient; exact hclient.2.1
    | _ => rw [hc] at hreq; cases hreq
  | some req =>
    by_cases hwait : req = .recv ∧ s.toClient.bytes = [] ∧ s.toClient.ended = false
    · obtain ⟨rfl, _, hmark⟩ := hwait
      -- the client waits: it has shut down, and the server has not
      rw [Client4.eq_recv hreq] at hclient
      have hserver := hs.server
      cases hc : s.server with
      | exiting todo hr =>
        rw [hc] at hserver
        rw [hserver.1] at hmark
        cases hmark
      | recv => exact Balanced.server_moves (by rw [hc]; rfl) hclient.2
      | send buffer => exact Balanced.server_moves (by rw [hc]; rfl) hclient.2
      | shutdown => exact Balanced.server_moves (by rw [hc]; rfl) hclient.2
      | _ => rw [hc] at hserver; exact hserver.elim
    · refine Balanced.client_moves hreq fun hrecv => ?_
      by_contra hno
      rw [not_or, not_not, Bool.not_eq_true] at hno
      exact hwait ⟨hrecv, hno⟩

/-- **The echo session.**  For every text and in every state that an interleaving of the two programs reaches
with pieces of any size,

* what the client has received, what is in flight to it, what waits in the server's buffer and what is in
  flight to the server make up what the client has sent so far;
* a client that has left its receive loop has received exactly the payload: of an argument with a text of at
  most `bufferSize` bytes before its zero, that text;
* unless both programs have returned, one of them can make its call. -/
theorem echo_session (data : List UInt8) (ts : List Turn) (s : Session)
    (hrun : run (step data) connected ts = some s) :
    s.received ++ s.toClient.bytes ++ Server1.waiting s.server ++ s.toServer.bytes = s.sent ∧
      (Client4.loopEnded s.client = true →
        s.received = Client4.payload data ∧
          ∀ text rest, data = text ++ 0 :: rest → 0 ∉ text → text.length ≤ bufferSize →
            s.received = text) ∧
      (¬(Client4.request data s.client = none ∧ Server1.request s.server = none) →
        ∃ t s', step data s t = some s') := by
  have hs := run_balanced hrun
  refine ⟨hs.conserved, fun hended => ⟨hs.received_eq hended, ?_⟩, hs.progress⟩
  intro text rest hdata hzero hlen
  rw [hs.received_eq hended, hdata, Client4.payload_terminated hzero hlen]

/-- The text `hi`. -/
def greeting : List UInt8 := [104, 105, 0]

/-- The server echoes the two bytes one at a time, and the client receives both at once. -/
def turns : List Turn :=
  [.client 0, .server 1, .client 0, .server 0, .server 1, .server 0, .server 0, .server 0, .client 2,
    .client 0]

theorem echo_session_greeting :
    ∃ s, run (step greeting) connected turns = some s ∧ Client4.loopEnded s.client = true ∧
      s.received ++ s.toClient.bytes ++ Server1.waiting s.server ++ s.toServer.bytes = s.sent ∧
      s.received = [104, 105] ∧
      (¬(Client4.request greeting s.client = none ∧ Server1.request s.server = none) →
        ∃ t s', step greeting s t = some s') := by
  obtain ⟨hconserved, hreceived, hprogress⟩ := echo_session greeting turns _ rfl
  refine ⟨_, rfl, rfl, hconserved, ?_, hprogress⟩
  exact (hreceived rfl).2 [104, 105] [] rfl (by decide) (by decide)

end AceSamples.EchoSession
