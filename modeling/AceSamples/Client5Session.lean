import AceSamples.Client5Conservation
import AceSamples.Client5Lifecycle
import AceSamples.ClientServiceTally
import AceSamples.Relay

/-!
# Client5-ace against Server3-ace or Server4-ace

The handler `Client` and a handler `ClientService` run on one connection, in any interleaving, with any results of
their calls that the connection allows: a `recv` delivers any piece from the front of what the other side's socket
has accepted, it reports the end of the stream only when the other side has closed and everything has been delivered,
and it may fail at any time; a `send` takes any part of its bytes, and none once the writer has been closed.

Both handlers are relays in the sense of `Relay`, and so is the session: a byte that the client has built is queued
at the client, on the wire to the server, queued at the server, on the wire back, or received.

* `Linked` — **the invariant**: a session is a run of either handler, and what has arrived at one side is a prefix
  of what the other side's socket has accepted;
* `Linked.client_moves`, `Linked.server_moves`, `run_linked` — every dispatch of either handler keeps it;
* `Linked.compares`, `session_pipeline` — hence what is in the five places, in this order, compares with what the
  client has built as well as the server's handler does: nothing is invented or duplicated in any run, the order is
  kept without overtaking, and nothing is lost in a faithful one;
* `Closing`, `run_complete`, `session_complete` — a client that has seen the end of the stream in a faithful session
  has everything back that it has sent.
-/

set_option autoImplicit false

namespace AceSamples.Client5Session

open AceSamples.AceSocket AceSamples.AceMessageQueue AceSamples.ScriptedRun AceSamples.Relay
open AceSamples.Client5 (Client EndsLoop FlowControlled SvcHandler svcHandler ticks)
open AceSamples.ClientService (Server Service Serving Gone Lossless NoOvertaking received receivedBy)

variable {super : SvcHandler} {srv : Server}

/-! ### The session -/

/-- The two handlers, and the bytes that each of them has received. -/
structure Session where
  client : Client
  server : Service Char
  atServer : List Char
  atClient : List Char

/-- Both handlers have been opened on the connection. -/
def connected (srv : Server) : Session := ⟨Client5.opened, ClientService.opened srv, [], []⟩

/-- One of the handlers is dispatched. -/
inductive Turn where
  | client (d : Client5.Dispatch)
  | server (d : ClientService.Dispatch Char)

/-- The client's side of the connection is closed for sending: by `close_writer`, or because `main` has returned. -/
def writerClosed (c : Client) : Bool := !c.closings.isEmpty || c.loopEnded

/-- Whether the connection allows what a dispatch of the client receives. -/
def clientRecvMay (s : Session) : Client5.Dispatch → Bool
  | .readable env => arrives s.server.sent s.atClient (!s.server.socketOpen) env.recv
  | _ => true

/-- Whether the connection allows the results of a dispatch that turns the client into `c`. -/
def clientMay (s : Session) (d : Client5.Dispatch) (c : Client) : Bool :=
  clientRecvMay s d && (!writerClosed s.client || decide (c.sent = s.client.sent))

/-- Whether the connection allows the results of a dispatch of the server's handler. -/
def serverMay (s : Session) : ClientService.Dispatch Char → Bool
  | .input env => arrives s.client.sent s.atServer (writerClosed s.client) env.recv
  | .output _ => true

/-- The bytes that a dispatch of the client reads. -/
def readBy : Client5.Dispatch → List Char
  | .readable env => env.recv.bytes
  | _ => []

/-- One dispatch; `none` when it cannot happen. -/
def step (super : SvcHandler) (srv : Server) (s : Session) : Turn → Option Session
  | .client d =>
    match Client5.step super s.client d with
    | none => none
    | some c => if clientMay s d c then some { s with client := c, atClient := s.atClient ++ readBy d } else none
  | .server d =>
    match ClientService.step srv s.server d with
    | none => none
    | some v => if serverMay s d then some { s with server := v, atServer := s.atServer ++ receivedBy d } else none

/-- The dispatches of the client. -/
def clientPart (ts : List Turn) : List Client5.Dispatch :=
  ts.filterMap fun | .client d => some d | .server _ => none

/-- The dispatches of the server's handler. -/
def serverPart (ts : List Turn) : List (ClientService.Dispatch Char) :=
  ts.filterMap fun | .client _ => none | .server d => some d

theorem clientPart_client (ts : List Turn) (d : Client5.Dispatch) :
    clientPart (ts ++ [.client d]) = clientPart ts ++ [d] := List.filterMap_append

theorem clientPart_server (ts : List Turn) (d : ClientService.Dispatch Char) :
    clientPart (ts ++ [.server d]) = clientPart ts := by
  simp [clientPart]

theorem serverPart_client (ts : List Turn) (d : Client5.Dispatch) :
    serverPart (ts ++ [.client d]) = serverPart ts := by
  simp [serverPart]

theorem serverPart_server (ts : List Turn) (d : ClientService.Dispatch Char) :
    serverPart (ts ++ [.server d]) = serverPart ts ++ [d] := List.filterMap_append

theorem step_client {s s' : Session} {d : Client5.Dispatch} (h : step super srv s (.client d) = some s') :
    ∃ c, Client5.step super s.client d = some c ∧ clientMay s d c = true ∧
      s' = { s with client := c, atClient := s.atClient ++ readBy d } := by
  simp only [step] at h
  split at h
  · cases h
  · rename_i c hc
    split at h
    · rename_i hmay
      exact ⟨c, hc, hmay, (Option.some.inj h).symm⟩
    · cases h

theorem step_server {s s' : Session} {d : ClientService.Dispatch Char} (h : step super srv s (.server d) = some s') :
    ∃ v, ClientService.step srv s.server d = some v ∧ serverMay s d = true ∧
      s' = { s with server := v, atServer := s.atServer ++ receivedBy d } := by
  simp only [step] at h
  split at h
  · cases h
  · rename_i v hv
    split at h
    · rename_i hmay
      exact ⟨v, hv, hmay, (Option.some.inj h).symm⟩
    · cases h

/-! ### The invariant -/

/-- **The invariant.** -/
structure Linked (super : SvcHandler) (srv : Server) (ts : List Turn) (s : Session) : Prop where
  client : run (Client5.step super) Client5.opened (clientPart ts) = some s.client
  server : run (ClientService.step srv) (ClientService.opened srv) (serverPart ts) = some s.server
  received : s.atServer = received (serverPart ts)
  toServer : s.atServer <+: s.client.sent
  toClient : s.atClient <+: s.server.sent

theorem connected_linked : Linked super srv [] (connected srv) :=
  ⟨rfl, rfl, rfl, List.prefix_rfl, List.nil_prefix⟩

/-- A handler that can be dispatched is being served. -/
theorem Linked.serving {ts : List Turn} {s : Session} (hs : Linked super srv ts s) {d : ClientService.Dispatch Char}
    {v : Service Char} (h : ClientService.step srv s.server d = some v) : Serving s.server := by
  obtain hserving | hgone := ClientService.run_serving_or_gone hs.server
  · exact hserving
  · rw [ClientService.step_gone hgone d] at h
    cases h

/-- The client is dispatched, and what it reads is the next piece of what it has been sent. -/
theorem Linked.client_moves {ts : List Turn} {s : Session} (hs : Linked super srv ts s) {d : Client5.Dispatch}
    {c : Client} (hc : Client5.step super s.client d = some c) (hread : s.atClient ++ readBy d <+: s.server.sent) :
    Linked super srv (ts ++ [.client d]) { s with client := c, atClient := s.atClient ++ readBy d } := by
  have hsent := Client5.step_sent_prefix (Client5.run_wellFormed hs.client) hc
  refine ⟨?_, ?_, ?_, hs.toServer.trans hsent, hread⟩
  · rw [clientPart_client]
    exact run_snoc hs.client hc
  · rw [serverPart_client]
    exact hs.server
  · rw [serverPart_client]
    exact hs.received

/-- The server's handler is dispatched, and what it receives is the next piece of what the client has sent. -/
theorem Linked.server_moves {ts : List Turn} {s : Session} (hs : Linked super srv ts s)
    {d : ClientService.Dispatch Char} {v : Service Char} (hv : ClientService.step srv s.server d = some v)
    (hread : s.atServer ++ receivedBy d <+: s.client.sent) :
    Linked super srv (ts ++ [.server d]) { s with server := v, atServer := s.atServer ++ receivedBy d } := by
  have hsent := ClientService.step_sent_prefix (hs.serving hv) hv
  refine ⟨?_, ?_, ?_, hread, hs.toClient.trans hsent⟩
  · rw [clientPart_server]
    exact hs.client
  · rw [serverPart_server]
    exact run_snoc hs.server hv
  · rw [serverPart_server, ClientService.received_snoc, ← hs.received]

/-- Only `handle_input` of the client reads. -/
theorem readBy_prefix {given taken : List Char} {d : Client5.Dispatch} (htaken : taken <+: given)
    (hread : ∀ env, d = .readable env → taken ++ env.recv.bytes <+: given) : taken ++ readBy d <+: given := by
  cases d with
  | readable env => exact hread env rfl
  | _ =>
    rw [show taken ++ readBy _ = taken from List.append_nil _]
    exact htaken

/-- Only `handle_input` of the server's handler reads. -/
theorem receivedBy_prefix {given taken : List Char} {d : ClientService.Dispatch Char} (htaken : taken <+: given)
    (hread : ∀ env, d = .input env → taken ++ env.recv.bytes <+: given) : taken ++ receivedBy d <+: given := by
  cases d with
  | input env => exact hread env rfl
  | output env =>
    rw [show taken ++ receivedBy _ = taken from List.append_nil _]
    exact htaken

/-- **The step lemma.** -/
theorem step_linked {ts : List Turn} {s s' : Session} {t : Turn} (hs : Linked super srv ts s)
    (h : step super srv s t = some s') : Linked super srv (ts ++ [t]) s' := by
  cases t with
  | client d =>
    obtain ⟨c, hc, hmay, rfl⟩ := step_client h
    rw [clientMay, Bool.and_eq_true] at hmay
    apply hs.client_moves hc
    apply readBy_prefix hs.toClient
    intro env henv
    subst henv
    exact arrives_prefix hmay.1 hs.toClient
  | server d =>
    obtain ⟨v, hv, hmay, rfl⟩ := step_server h
    apply hs.server_moves hv
    apply receivedBy_prefix hs.toServer
    intro env henv
    subst henv
    exact arrives_prefix hmay hs.toServer

/-- **The run lemma.** -/
theorem run_linked {ts : List Turn} {s : Session} (hrun : run (step super srv) (connected srv) ts = some s) :
    Linked super srv ts s :=
  run_history (I := Linked super srv) connected_linked (fun _ _ _ _ hs h => step_linked hs h) hrun

/-! ### The handlers as relays -/

/-- The client takes in what it builds. -/
def clientEnds (c : Client) : Ends Char := ⟨c.built, c.queue.unread, c.sent⟩

/-- The server's handler takes in what it receives. -/
def serverEnds (s : Session) : Ends Char := ⟨s.atServer, s.server.queue.unread, s.server.sent⟩

/-- The five places where a byte can be, from the client's receiving end to its queue. -/
def pipeline (s : Session) : List Char :=
  s.atClient ++ ((serverEnds s).wire (.sink s.atClient) ++
    (s.server.queue.unread ++ ((clientEnds s.client).wire (serverEnds s) ++ s.client.queue.unread)))

/-- What the two handlers keep, the session keeps. -/
theorem Linked.keeps {R : List Char → List Char → Prop} (hR : Grade R) {ts : List Turn} {s : Session}
    (hs : Linked super srv ts s) (hclient : Keeps R (clientEnds s.client)) (hserver : Keeps R (serverEnds s)) :
    R (pipeline s) s.client.built := by
  have hpair : Keeps R ((clientEnds s.client).andThen (serverEnds s)) := hclient.andThen hR hserver hs.toServer
  exact hpair.andThen hR (keeps_sink hR s.atClient) hs.toClient

/-- No handler is thrown away with bytes in its queue, no byte is lost or overtaken, and the client's queue rejects
nothing below its mark. -/
def Faithful (srv : Server) (ts : List Turn) (s : Session) : Prop :=
  (Along (ClientService.step srv) Lossless (ClientService.opened srv) (serverPart ts) ∧
    Along (ClientService.step srv) NoOvertaking (ClientService.opened srv) (serverPart ts) ∧
      s.server.flushed = []) ∧
    (∀ d ∈ clientPart ts, FlowControlled d) ∧ ticks (clientPart ts) < 2 ^ 31

theorem Linked.server_exact {ts : List Turn} {s : Session} (hs : Linked super srv ts s) (hf : Faithful srv ts s) :
    s.server.sent ++ s.server.queue.unread = s.atServer := by
  rw [hs.received]
  exact ClientService.outgoing_of_faithful hs.server hf.1.1 hf.1.2.1 hf.1.2.2

theorem Linked.client_exact {ts : List Turn} {s : Session} (hs : Linked super srv ts s) (hf : Faithful srv ts s) :
    s.client.sent ++ s.client.queue.unread = s.client.built :=
  (Client5.run_bounded hf.2.1 hf.2.2 hs.client).text

/-- What the two handlers are known to keep, the session keeps. -/
theorem Linked.compares {ts : List Turn} {s : Session} (hs : Linked super srv ts s) :
    (pipeline s).Subperm s.client.built ∧
      (Along (ClientService.step srv) NoOvertaking (ClientService.opened srv) (serverPart ts) →
        (pipeline s).Sublist s.client.built) ∧
      (Faithful srv ts s → pipeline s = s.client.built) := by
  have hclient : (s.client.sent ++ s.client.queue.unread).Sublist s.client.built :=
    Client5.run_outgoing_sublist hs.client
  refine ⟨?_, ?_, ?_⟩
  · refine hs.keeps grade_subperm hclient.subperm ?_
    obtain ⟨lost, hbalance, _⟩ := ClientService.run_conserves_bytes hs.server
    rw [← hs.received, ClientService.stock, Multiset.coe_add, add_assoc] at hbalance
    exact Multiset.coe_le.mp (Multiset.le_iff_exists_add.mpr ⟨_, hbalance.symm⟩)
  · intro hno
    refine hs.keeps grade_sublist hclient ?_
    have hserver := ClientService.run_sublist hno hs.server
    rw [← hs.received] at hserver
    exact hserver
  · intro hf
    exact hs.keeps grade_eq (hs.client_exact hf) (hs.server_exact hf)

/-- **The pipeline.**  In every state of every session, the bytes received by the client, those on the wire back,
those queued at the server, those on the wire to the server and those queued at the client, in this order, compare
with the text that the client has built as follows:

* none of them is invented or duplicated;
* where no direct send of the server has overtaken its queue, they are in order;
* in a faithful session they are the text, byte for byte. -/
theorem session_pipeline (super : SvcHandler) (srv : Server) (ts : List Turn) (s : Session)
    (hrun : run (step super srv) (connected srv) ts = some s) :
    (pipeline s).Subperm s.client.built ∧
      (Along (ClientService.step srv) NoOvertaking (ClientService.opened srv) (serverPart ts) →
        (pipeline s).Sublist s.client.built) ∧
      (Faithful srv ts s → pipeline s = s.client.built) :=
  (run_linked hrun).compares

/-- A text that comes back in two pieces, the second of which the server has to queue. -/
def echoedText : List Turn :=
  [.client (.timeout ⟨true, fun _ => true⟩), .client (.notified ⟨[.all], fun _ => true⟩),
    .server (.input ⟨.data ⟨['I', 't', 'e'], by decide, by decide⟩, .all, true, fun _ => true, true⟩),
    .server (.input ⟨.data ⟨['r', 'a', 't'], by decide, by decide⟩, .part 1, true, fun _ => true, true⟩),
    .client (.readable ⟨.data ⟨['I', 't'], by decide, by decide⟩, .other⟩)]

theorem session_pipeline_echoedText :
    ∃ s, run (step svcHandler .server4) (connected .server4) echoedText = some s ∧ s.atClient = ['I', 't'] ∧
      (pipeline s).Subperm s.client.built ∧
      (Along (ClientService.step .server4) NoOvertaking (ClientService.opened .server4) (serverPart echoedText) →
        (pipeline s).Sublist s.client.built) ∧
      (Faithful .server4 echoedText s → pipeline s = s.client.built) :=
  ⟨_, rfl, rfl, session_pipeline svcHandler .server4 echoedText _ rfl⟩

/-! ### The end of the session -/

/-- No `recv` of either side has failed. -/
def NoRecvFails (ts : List Turn) : Prop :=
  (∀ env, Client5.Dispatch.readable env ∈ clientPart ts → env.recv ≠ .failed) ∧
    ∀ env, ClientService.Dispatch.input env ∈ serverPart ts → env.recv ≠ .failed

/-- What is known when one side has closed: a server's handler that is gone has received everything, and a client
whose loop has ended has received everything and finds the server's handler gone. -/
structure Closing (srv : Server) (ts : List Turn) (s : Session) : Prop where
  server : Gone s.server → s.server.flushed = [] →
    Along (ClientService.step srv) Lossless (ClientService.opened srv) (serverPart ts) → NoRecvFails ts →
      writerClosed s.client = true ∧ s.atServer = s.client.sent
  client : s.client.loopEnded = true → NoRecvFails ts → Gone s.server ∧ s.atClient = s.server.sent

theorem NoRecvFails.of_snoc {ts : List Turn} {t : Turn} (h : NoRecvFails (ts ++ [t])) : NoRecvFails ts := by
  cases t with
  | client d =>
    rw [NoRecvFails, clientPart_client, serverPart_client] at h
    exact ⟨fun env henv => h.1 env (List.mem_append_left _ henv), h.2⟩
  | server d =>
    rw [NoRecvFails, clientPart_server, serverPart_server] at h
    exact ⟨h.1, fun env henv => h.2 env (List.mem_append_left _ henv)⟩

/-- A client whose writer is closed does not open it again. -/
theorem step_writerClosed {c c' : Client} {d : Client5.Dispatch} (hwf : Client5.WellFormed c)
    (h : Client5.step super c d = some c') (hclosed : writerClosed c = true) : writerClosed c' = true := by
  have hkeep : ∀ c'' : Client, c''.closings = c.closings → c''.loopEnded = c.loopEnded →
      writerClosed c'' = true := by
    intro c'' hclosings hloop
    rw [writerClosed, hclosings, hloop]
    exact hclosed
  cases Client5.step_effect hwf.noneEmpty h with
  | writerClosed env hi =>
    rw [writerClosed, Bool.or_eq_true, Bool.not_eq_true']
    exact Or.inl (by simp [Client.closeWriter])
  | ended env _ => exact Bool.or_true _
  | output d env s₀ t hcall ht =>
    rw [Client5.adjustWakeup_eq]
    apply hkeep
    · cases hcall <;> cases ht <;> rfl
    · cases hcall <;> cases ht <;> rfl
  | _ => exact hkeep _ rfl rfl

/-- A dispatch that ends the client's loop has read the end of the stream. -/
theorem step_loopEnded {c c' : Client} {d : Client5.Dispatch} (hwf : Client5.WellFormed c)
    (h : Client5.step super c d = some c') (hended : c'.loopEnded = true) : EndsLoop d := by
  obtain hbefore | hends := (Client5.step_flags hwf h).2.mp hended
  · rw [Client5.step_running h] at hbefore
    cases hbefore
  · exact hends

/-- **The step lemma for the end.** -/
theorem step_closing {ts : List Turn} {s s' : Session} {t : Turn} (hl : Linked super srv ts s)
    (hs : Closing srv ts s) (h : step super srv s t = some s') : Closing srv (ts ++ [t]) s' := by
  cases t with
  | client d =>
    obtain ⟨c, hc, hmay, rfl⟩ := step_client h
    rw [clientMay, Bool.and_eq_true] at hmay
    constructor
    · intro hgone hflushed hlossless hno
      rw [serverPart_client] at hlossless
      obtain ⟨hclosed, hall⟩ := hs.server hgone hflushed hlossless hno.of_snoc
      refine ⟨step_writerClosed (Client5.run_wellFormed hl.client) hc hclosed, ?_⟩
      -- nothing is accepted from a closed writer
      have hsame := hmay.2
      rw [hclosed, Bool.not_true, Bool.false_or, decide_eq_true_eq] at hsame
      exact hall.trans hsame.symm
    · intro hended hno
      have hends := step_loopEnded (Client5.run_wellFormed hl.client) hc hended
      cases d with
      | readable env =>
        have hmem : Client5.Dispatch.readable env ∈ clientPart (ts ++ [.client (.readable env)]) := by
          rw [clientPart_client]
          exact List.mem_append_right _ List.mem_cons_self
        have hfails := hno.1 env hmem
        have harrives : arrives s.server.sent s.atClient (!s.server.socketOpen) env.recv = true := hmay.1
        cases hr : env.recv with
        | data c =>
          have hle : env.recv.returned ≤ 0 := hends.1
          rw [hr] at hle
          have hpos := RecvResult.returned_data_pos c
          omega
        | failed => exact absurd hr hfails
        | closed =>
          rw [hr] at harrives
          obtain ⟨hclosed, hall⟩ := arrives_closed harrives
          have hgone : Gone s.server := by
            obtain hserving | hgone := ClientService.run_serving_or_gone hl.server
            · rw [hserving.socketOpen] at hclosed
              cases hclosed
            · exact hgone
          refine ⟨hgone, ?_⟩
          show s.atClient ++ env.recv.bytes = s.server.sent
          rw [hr, ← hall]
          exact List.append_nil _
      | timeout env => exact hends.elim
      | notified env => exact hends.elim
      | writable env => exact hends.elim
  | server d =>
    obtain ⟨v, hv, hmay, rfl⟩ := step_server h
    have hserving := hl.serving hv
    constructor
    · intro hgone hflushed hlossless hno
      rw [serverPart_server, along_snoc hl.server] at hlossless
      cases d with
      | output env =>
        obtain ⟨hw, hv'⟩ := ClientService.step_output hserving hv
        have hserved : Serving (ClientService.dispatchOutput srv env _) :=
          ClientService.dispatchOutput_serving env hserving hw
        have hlive := hserved.live
        rw [← hv', Gone.not_live hgone] at hlive
        cases hlive
      | input env =>
        have hmem : ClientService.Dispatch.input env ∈ serverPart (ts ++ [.server (.input env)]) := by
          rw [serverPart_server]
          exact List.mem_append_right _ List.mem_cons_self
        have hfails := hno.2 env hmem
        have hnone := ClientService.gone_without_chunk hserving hv hgone hflushed hlossless.2
        cases hr : env.recv with
        | data c => exact absurd hr (hnone c)
        | failed => exact absurd hr hfails
        | closed =>
          rw [serverMay, hr] at hmay
          obtain ⟨hclosed, hall⟩ := arrives_closed hmay
          refine ⟨hclosed, ?_⟩
          show s.atServer ++ env.recv.bytes = s.client.sent
          rw [hr, ← hall]
          exact List.append_nil _
    · intro hended hno
      obtain ⟨hgone, _⟩ := hs.client hended hno.of_snoc
      rw [ClientService.step_gone hgone d] at hv
      cases hv

/-- **The run lemma for the end.** -/
theorem run_closing {ts : List Turn} {s : Session} (hrun : run (step super srv) (connected srv) ts = some s) :
    Closing srv ts s := by
  have hstart : Closing srv [] (connected srv) := by
    constructor
    · intro hgone
      have hserved : Serving (connected srv).server := ClientService.opened_serving
      have hlive := hserved.live
      rw [Gone.not_live hgone] at hlive
      cases hlive
    · intro hended
      cases hended
  exact run_history_reached (I := Closing srv) hstart
    (fun _ _ _ _ hrun hs h => step_closing (run_linked hrun) hs h) hrun

/-- A client that has seen the end of the stream has everything back. -/
theorem run_complete {ts : List Turn} {s : Session} (hrun : run (step super srv) (connected srv) ts = some s)
    (hf : Faithful srv ts s) (hno : NoRecvFails ts) (hended : s.client.loopEnded = true) :
    s.atClient = s.client.sent ∧ s.client.sent ++ s.client.queue.unread = s.client.built := by
  have hs := run_linked hrun
  have hclosing := run_closing hrun
  obtain ⟨hgone, hclient⟩ := hclosing.client hended hno
  obtain ⟨_, hserver⟩ := hclosing.server hgone hf.1.2.2 hf.1.1 hno
  have hexact := hs.server_exact hf
  rw [hgone.queue, MessageQueue.unread_nil, List.append_nil] at hexact
  exact ⟨hclient.trans (hexact.trans hserver), hs.client_exact hf⟩

/-- **The end of the session.**  In every faithful session without a failed `recv` in which the client's event loop
has ended, the client has received back exactly what it has sent, and what it has sent is the text it has built, less
what is still in its own queue. -/
theorem session_complete (super : SvcHandler) (srv : Server) (ts : List Turn) (s : Session)
    (hrun : run (step super srv) (connected srv) ts = some s) (hf : Faithful srv ts s) (hno : NoRecvFails ts)
    (hended : s.client.loopEnded = true) :
    s.atClient = s.client.sent ∧ s.client.sent ++ s.client.queue.unread = s.client.built :=
  run_complete hrun hf hno hended

/-- The four messages of a client whose timer expires five times. -/
def wholeText : List Char :=
  Client5.iterationText 1 ++ Client5.iterationText 2 ++ Client5.iterationText 3 ++ Client5.iterationText 4

/-- The expiry of the timer, with a queue that rejects nothing below its mark. -/
def expiry : Turn := .client (.timeout ⟨true, (· < Client5.highWaterMark)⟩)

/-- Four messages are sent at once, the writer is closed, the server echoes and closes, and the client reads. -/
def wholeSession : List Turn :=
  [expiry, expiry, expiry, expiry, .client (.notified ⟨[.all, .all, .all, .all], (· < Client5.highWaterMark)⟩),
    expiry, .server (.input ⟨.data ⟨wholeText, by decide, by decide⟩, .all, true, fun _ => true, true⟩),
    .server (.input ⟨.closed, .all, true, fun _ => true, true⟩),
    .client (.readable ⟨.data ⟨wholeText, by decide, by decide⟩, .other⟩), .client (.readable ⟨.closed, .other⟩)]

/-- Nothing goes wrong in it. -/
theorem wholeSession_orderly :
    (∀ d ∈ clientPart wholeSession, FlowControlled d) ∧
      Along (ClientService.step .server3) Lossless (ClientService.opened .server3) (serverPart wholeSession) ∧
      Along (ClientService.step .server3) NoOvertaking (ClientService.opened .server3) (serverPart wholeSession) ∧
      NoRecvFails wholeSession := by
  refine ⟨?_, ?_, ?_, ?_⟩
  · simp [clientPart, wholeSession, expiry, FlowControlled]
  · exact ⟨fun _ _ => Or.inl rfl, fun _ _ => ⟨fun _ _ => Or.inl rfl, fun _ _ => trivial⟩⟩
  · exact ⟨Or.inl rfl, fun _ _ => ⟨Or.inr rfl, fun _ _ => trivial⟩⟩
  · simp [NoRecvFails, clientPart, serverPart, wholeSession, expiry]

theorem session_complete_wholeSession :
    ∃ s, run (step svcHandler .server3) (connected .server3) wholeSession = some s ∧ s.client.loopEnded = true ∧
      s.atClient = s.client.sent ∧ s.client.sent ++ s.client.queue.unread = s.client.built := by
  obtain ⟨hflow, hlossless, hno, hrecv⟩ := wholeSession_orderly
  exact ⟨_, rfl, rfl, session_complete svcHandler .server3 wholeSession _ rfl
    ⟨⟨hlossless, hno, rfl⟩, hflow, by decide⟩ hrecv rfl⟩

end AceSamples.Client5Session
