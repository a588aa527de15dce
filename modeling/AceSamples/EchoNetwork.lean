import AceSamples.Client5Session
import AceSamples.ClientAcceptorIsolation

/-!
# Any number of Client5-ace processes against one Server3-ace

A client connects, which the operating system completes without the server; some time later the server accepts the
connection, or it fails to open its handler for it.  From then on the reactor of the server dispatches the handlers
of all connections in any order, while the clients run on their own.

* `Peer`, `Network`, `step` — the clients, each with its connection, and the server of `ClientAcceptor`;
* `serverSide` — the server's handler for a connection;
* `Wired` — **the invariant**: no two connections share a handler, every connection is `Linked`, and while the event
  loop of the server runs, every connection is a run of the session of `Client5Session`;
* `step_wired`, `run_wired` — every event keeps it;
* `Wiring` — hence what a client receives has been sent by its own handler, which has received nothing but what this
  client has sent;
* `network_pipeline`, `network_complete` — and what has been proved of one session holds of each of them, whatever
  happens on the others.
-/

set_option autoImplicit false

namespace AceSamples.EchoNetwork

open AceSamples.AceSocket AceSamples.ScriptedRun AceSamples.Client5Session
open AceSamples.Client5 (Client SvcHandler svcHandler)
open AceSamples.ClientAcceptor (AcceptResults System)
open AceSamples.ClientService (Service NoOvertaking received receivedBy)

variable {super : SvcHandler}

/-! ### The network -/

/-- A client with its connection: the place of the handler among those that the acceptor has allocated, once the
connection has been accepted; the bytes received at either end; and the dispatches of either handler so far. -/
structure Peer where
  client : Client
  servedAs : Option ℕ
  atServer : List Char
  atClient : List Char
  turns : List Turn

/-- A client that has connected. -/
def launched : Peer := ⟨Client5.opened, none, [], [], []⟩

namespace Peer

/-- The connection is accepted for the `i`-th handler of the acceptor. -/
def accepted (p : Peer) (i : ℕ) : Peer := { p with servedAs := some i }

/-- A dispatch turns the client into `c`. -/
def clientTurn (p : Peer) (d : Client5.Dispatch) (c : Client) : Peer :=
  { p with client := c, atClient := p.atClient ++ readBy d, turns := p.turns ++ [.client d] }

/-- The server's handler is dispatched. -/
def serverTurn (p : Peer) (d : ClientService.Dispatch Char) : Peer :=
  { p with atServer := p.atServer ++ receivedBy d, turns := p.turns ++ [.server d] }

end Peer

/-- The server and the clients. -/
structure Network where
  server : System Char
  peers : List Peer

/-- The acceptor of the server has been opened. -/
def start : Network := ⟨ClientAcceptor.started, []⟩

/-- What happens next. -/
inductive Event where
  | connect
  | accept (env : AcceptResults) (j : ℕ)
  | client (j : ℕ) (d : Client5.Dispatch)
  | serve (j : ℕ) (d : ClientService.Dispatch Char)
  | endLoop

/-- The server's handler for a connection; `none` when it could not be opened.  A connection that waits to be
accepted is as it will be then, since nothing is sent or received on it. -/
def serverSide (sys : System Char) (p : Peer) : Option (Service Char) :=
  match p.servedAs with
  | none => some (ClientService.opened .server3)
  | some i =>
    match sys.clients[i]? with
    | none => none
    | some c => if c.openFailed then none else some c.service

/-- Whether the connection allows what a dispatch of the client receives.  The end of the stream is reported when the
server's handler has closed its socket, and when the process of the server has ended. -/
def clientRecvMay (sys : System Char) (p : Peer) : Client5.Dispatch → Bool
  | .readable env =>
    match serverSide sys p with
    | none => arrives [] p.atClient true env.recv
    | some v => arrives v.sent p.atClient (!v.socketOpen || !sys.running) env.recv
  | _ => true

/-- Whether the connection allows the results of a dispatch that turns the client into `c`. -/
def clientMay (sys : System Char) (p : Peer) (d : Client5.Dispatch) (c : Client) : Bool :=
  clientRecvMay sys p d && (!writerClosed p.client || decide (c.sent = p.client.sent))

/-- Whether the connection allows the results of a dispatch of the server's handler. -/
def serverMay (p : Peer) : ClientService.Dispatch Char → Bool
  | .input env => arrives p.client.sent p.atServer (writerClosed p.client) env.recv
  | .output _ => true

/-- One event; `none` when it cannot happen.  `accept env j` takes the connection of the `j`-th client, if there is
one to take. -/
def step (super : SvcHandler) (net : Network) : Event → Option Network
  | .connect =>
    if net.server.acceptor.listening then some { net with peers := net.peers ++ [launched] } else none
  | .accept env j => do
    let sys ← ClientAcceptor.step net.server (.accept env)
    if env.allocated && env.accepted then
      let p ← net.peers[j]?
      if p.servedAs = none then
        some ⟨sys, net.peers.set j (p.accepted net.server.clients.length)⟩
      else none
    else some ⟨sys, net.peers⟩
  | .client j d => do
    let p ← net.peers[j]?
    let c ← Client5.step super p.client d
    if clientMay net.server p d c then some { net with peers := net.peers.set j (p.clientTurn d c) } else none
  | .serve j d => do
    let p ← net.peers[j]?
    let i ← p.servedAs
    let sys ← ClientAcceptor.step net.server (.client i d)
    if serverMay p d then some ⟨sys, net.peers.set j (p.serverTurn d)⟩ else none
  | .endLoop => do
    let sys ← ClientAcceptor.step net.server .endLoop
    some ⟨sys, net.peers⟩

/-! ### What an event does -/

theorem step_connect {net net' : Network} (h : step super net .connect = some net') :
    net' = ⟨net.server, net.peers ++ [launched]⟩ := by
  simp only [step] at h
  split at h
  · exact (Option.some.inj h).symm
  · cases h

theorem step_accept {net net' : Network} {env : AcceptResults} {j : ℕ}
    (h : step super net (.accept env j) = some net') :
    ∃ sys, ClientAcceptor.step net.server (.accept env) = some sys ∧
      (net' = ⟨sys, net.peers⟩ ∨
        (env.allocated = true ∧ env.accepted = true) ∧ ∃ p, net.peers[j]? = some p ∧ p.servedAs = none ∧
          net' = ⟨sys, net.peers.set j (p.accepted net.server.clients.length)⟩) := by
  obtain ⟨sys, hsys, h⟩ := Option.bind_eq_some_iff.mp h
  refine ⟨sys, hsys, ?_⟩
  split at h
  · rename_i hac
    obtain ⟨p, hp, h⟩ := Option.bind_eq_some_iff.mp h
    split at h
    · rename_i hwaits
      exact Or.inr ⟨by rwa [Bool.and_eq_true] at hac, p, hp, hwaits, (Option.some.inj h).symm⟩
    · cases h
  · exact Or.inl (Option.some.inj h).symm

theorem step_client {net net' : Network} {j : ℕ} {d : Client5.Dispatch}
    (h : step super net (.client j d) = some net') :
    ∃ p c, net.peers[j]? = some p ∧ Client5.step super p.client d = some c ∧ clientMay net.server p d c = true ∧
      net' = ⟨net.server, net.peers.set j (p.clientTurn d c)⟩ := by
  obtain ⟨p, hp, h⟩ := Option.bind_eq_some_iff.mp h
  obtain ⟨c, hc, h⟩ := Option.bind_eq_some_iff.mp h
  split at h
  · rename_i hmay
    exact ⟨p, c, hp, hc, hmay, (Option.some.inj h).symm⟩
  · cases h

theorem step_serve {net net' : Network} {j : ℕ} {d : ClientService.Dispatch Char}
    (h : step super net (.serve j d) = some net') :
    ∃ p i sys, net.peers[j]? = some p ∧ p.servedAs = some i ∧
      ClientAcceptor.step net.server (.client i d) = some sys ∧ serverMay p d = true ∧
      net' = ⟨sys, net.peers.set j (p.serverTurn d)⟩ := by
  obtain ⟨p, hp, h⟩ := Option.bind_eq_some_iff.mp h
  obtain ⟨i, hi, h⟩ := Option.bind_eq_some_iff.mp h
  obtain ⟨sys, hsys, h⟩ := Option.bind_eq_some_iff.mp h
  split at h
  · rename_i hmay
    exact ⟨p, i, sys, hp, hi, hsys, hmay, (Option.some.inj h).symm⟩
  · cases h

theorem step_endLoop {net net' : Network} (h : step super net .endLoop = some net') :
    ∃ sys, ClientAcceptor.step net.server .endLoop = some sys ∧ net' = ⟨sys, net.peers⟩ := by
  obtain ⟨sys, hsys, h⟩ := Option.bind_eq_some_iff.mp h
  exact ⟨sys, hsys, (Option.some.inj h).symm⟩

/-! ### One connection -/

/-- A connection as a session. -/
def view (p : Peer) (v : Service Char) : Session := ⟨p.client, v, p.atServer, p.atClient⟩

/-- What is known of one connection. -/
def Sound (super : SvcHandler) (sys : System Char) (p : Peer) : Prop :=
  ∀ v, serverSide sys p = some v →
    Linked super .server3 p.turns (view p v) ∧
      (sys.running = true →
        run (Client5Session.step super .server3) (connected .server3) p.turns = some (view p v))

theorem sound_launched (sys : System Char) : Sound super sys launched := by
  intro v hv
  obtain rfl : ClientService.opened .server3 = v := Option.some.inj hv
  exact ⟨connected_linked, fun _ => rfl⟩

/-- A connection does not notice what happens elsewhere. -/
theorem Sound.elsewhere {sys sys' : System Char} {p : Peer} (hs : Sound super sys p)
    (hside : serverSide sys' p = serverSide sys p) (hrunning : sys'.running = true → sys.running = true) :
    Sound super sys' p := by
  intro v hv
  rw [hside] at hv
  obtain ⟨hlinked, hsession⟩ := hs v hv
  exact ⟨hlinked, fun h => hsession (hrunning h)⟩

/-- What a client reads is the next piece of what it has been sent. -/
theorem clientMay_stream {sys : System Char} {p : Peer} {v : Service Char} {d : Client5.Dispatch} {c : Client}
    (hv : serverSide sys p = some v) (hmay : clientMay sys p d c = true) (hread : p.atClient <+: v.sent) :
    p.atClient ++ readBy d <+: v.sent := by
  rw [clientMay, Bool.and_eq_true] at hmay
  apply readBy_prefix hread
  intro env henv
  subst henv
  have hrecv := hmay.1
  rw [clientRecvMay, hv] at hrecv
  exact arrives_prefix hrecv hread

/-- While the server runs, the end of the stream is that of its handler. -/
theorem clientMay_running {sys : System Char} {p : Peer} {v : Service Char} (hv : serverSide sys p = some v)
    (hrunning : sys.running = true) (d : Client5.Dispatch) (c : Client) :
    Client5Session.clientMay (view p v) d c = clientMay sys p d c := by
  have hrecv : Client5Session.clientRecvMay (view p v) d = clientRecvMay sys p d := by
    cases d with
    | readable env =>
      rw [clientRecvMay, hv]
      show arrives v.sent p.atClient (!v.socketOpen) env.recv
        = arrives v.sent p.atClient (!v.socketOpen || !sys.running) env.recv
      rw [hrunning, Bool.not_true, Bool.or_false]
    | _ => rfl
  rw [Client5Session.clientMay, hrecv]
  rfl

theorem Sound.clientTurn {sys : System Char} {p : Peer} {d : Client5.Dispatch} {c : Client} (hs : Sound super sys p)
    (hc : Client5.step super p.client d = some c) (hmay : clientMay sys p d c = true) :
    Sound super sys (p.clientTurn d c) := by
  intro v hv
  replace hv : serverSide sys p = some v := hv
  obtain ⟨hlinked, hsession⟩ := hs v hv
  refine ⟨hlinked.client_moves hc (clientMay_stream hv hmay hlinked.toClient), ?_⟩
  intro hrunning
  have hstep : Client5Session.step super .server3 (view p v) (.client d) = some (view (p.clientTurn d c) v) := by
    simp only [Client5Session.step]
    rw [show Client5.step super (view p v).client d = some c from hc]
    exact if_pos ((clientMay_running hv hrunning d c).trans hmay)
  exact run_snoc (hsession hrunning) hstep

/-- What `serverSide` is once the connection has been accepted. -/
theorem serverSide_served {sys : System Char} {p : Peer} {i : ℕ} {c : ClientAcceptor.Client Char}
    (hi : p.servedAs = some i) (hc : sys.clients[i]? = some c) :
    serverSide sys p = if c.openFailed then none else some c.service := by
  unfold serverSide
  rw [hi]
  simp only [hc]

/-- A dispatch to a client of the acceptor. -/
theorem acceptor_client {sys sys' : System Char} {i : ℕ} {d : ClientService.Dispatch Char}
    (h : ClientAcceptor.step sys (.client i d) = some sys') :
    sys.running = true ∧ ∃ c c', sys.clients[i]? = some c ∧ ClientAcceptor.serve c d = some c' ∧
      sys' = { sys with clients := sys.clients.set i c' } := by
  have hrunning := ClientAcceptor.step_client_running h
  refine ⟨hrunning, ?_⟩
  rw [ClientAcceptor.step_client_eq hrunning] at h
  obtain ⟨cs, hcs, rfl⟩ := Option.map_eq_some_iff.mp h
  obtain ⟨c, c', hc, hc', rfl⟩ := Interleaving.stepAt_eq_some.mp hcs
  exact ⟨c, c', hc, hc', rfl⟩

theorem Sound.serverTurn {sys sys' : System Char} {p : Peer} {i : ℕ} {d : ClientService.Dispatch Char}
    (hs : Sound super sys p) (hi : p.servedAs = some i) (h : ClientAcceptor.step sys (.client i d) = some sys')
    (hmay : serverMay p d = true) : Sound super sys' (p.serverTurn d) := by
  obtain ⟨hrunning, c, c', hc, hserve, rfl⟩ := acceptor_client h
  obtain ⟨hservice, _, hopen⟩ := ClientAcceptor.serve_eq_some hserve
  have hlt : i < sys.clients.length := (List.getElem?_eq_some_iff.mp hc).1
  intro v hv
  rw [serverSide_served (p := p.serverTurn d) (c := c') hi (List.getElem?_set_self hlt)] at hv
  split at hv
  · cases hv
  · rename_i hopened
    obtain rfl : c'.service = v := Option.some.inj hv
    rw [hopen] at hopened
    have hbefore : serverSide sys p = some c.service := by
      rw [serverSide_served hi hc, if_neg hopened]
    obtain ⟨hlinked, hsession⟩ := hs c.service hbefore
    have hread : p.atServer ++ receivedBy d <+: p.client.sent := by
      apply receivedBy_prefix hlinked.toServer
      intro env henv
      subst henv
      exact arrives_prefix hmay hlinked.toServer
    refine ⟨hlinked.server_moves hservice hread, ?_⟩
    intro _
    have hstep : Client5Session.step super .server3 (view p c.service) (.server d)
        = some (view (p.serverTurn d) c'.service) := by
      have hallowed : Client5Session.serverMay (view p c.service) d = true := by
        cases d with
        | input env => exact hmay
        | output env => rfl
      simp only [Client5Session.step]
      rw [show ClientService.step .server3 (view p c.service).server d = some c'.service from hservice]
      exact if_pos hallowed
    exact run_snoc (hsession hrunning) hstep

/-- A connection is accepted: the acceptor has one more client. -/
theorem acceptor_accept {sys sys' : System Char} {env : AcceptResults} (hal : env.allocated = true)
    (hac : env.accepted = true) (h : ClientAcceptor.step sys (.accept env) = some sys') :
    ∃ c, ClientAcceptor.newClient env = some c ∧ c.acceptFailed = false ∧ sys'.clients = sys.clients ++ [c] := by
  obtain ⟨_, _, rfl⟩ := ClientAcceptor.step_accept h
  have hnew : ∃ c : ClientAcceptor.Client Char, ClientAcceptor.newClient env = some c ∧ c.acceptFailed = false := by
    have haccept : (!env.accepted) = false := by rw [hac]; rfl
    unfold ClientAcceptor.newClient
    cases hreg : env.registered with
    | true =>
      rw [ClientAcceptor.handleInput_opened hal hac hreg]
      exact ⟨_, rfl, haccept⟩
    | false =>
      rw [ClientAcceptor.handleInput_openFailed hal hac hreg]
      exact ⟨_, rfl, haccept⟩
  obtain ⟨c, hc, haccept⟩ := hnew
  refine ⟨c, hc, haccept, ?_⟩
  show ClientAcceptor.addClient env sys.clients = sys.clients ++ [c]
  rw [ClientAcceptor.addClient_eq, hc]
  rfl

theorem Sound.accepted {sys sys' : System Char} {p : Peer} {env : AcceptResults} (hs : Sound super sys p)
    (hwaits : p.servedAs = none) (hal : env.allocated = true) (hac : env.accepted = true)
    (h : ClientAcceptor.step sys (.accept env) = some sys') :
    Sound super sys' (p.accepted sys.clients.length) := by
  obtain ⟨c, hnew, haccept, hclients⟩ := acceptor_accept hal hac h
  obtain ⟨hrunning, _, _⟩ := ClientAcceptor.step_accept h
  have hget : sys'.clients[sys.clients.length]? = some c := by
    rw [hclients, List.getElem?_append_right (Nat.le_refl _), Nat.sub_self]
    rfl
  intro v hv
  rw [serverSide_served (p := p.accepted sys.clients.length) rfl hget] at hv
  split at hv
  · cases hv
  · rename_i hopened
    rw [Bool.not_eq_true] at hopened
    obtain rfl : c.service = v := Option.some.inj hv
    have hfresh : c.service = ClientService.opened .server3 := ClientAcceptor.newClient_opened hnew haccept hopened
    have hbefore : serverSide sys p = some c.service := by
      unfold serverSide
      rw [hwaits, hfresh]
    obtain ⟨hlinked, hsession⟩ := hs c.service hbefore
    exact ⟨hlinked, fun _ => hsession hrunning⟩

/-! ### All connections -/

/-- **The invariant.** -/
structure Wired (super : SvcHandler) (net : Network) : Prop where
  inRange : ∀ (j : ℕ) (p : Peer) (i : ℕ), net.peers[j]? = some p → p.servedAs = some i →
    i < net.server.clients.length
  apart : ∀ (j k : ℕ) (p q : Peer) (i : ℕ), net.peers[j]? = some p → net.peers[k]? = some q →
    p.servedAs = some i → q.servedAs = some i → j = k
  sound : ∀ (j : ℕ) (p : Peer), net.peers[j]? = some p → Sound super net.server p

theorem start_wired : Wired super start where
  inRange _ _ _ hp := nomatch hp
  apart _ _ _ _ _ hp := nomatch hp
  sound _ _ hp := nomatch hp

/-- Handlers that are added are not those of the connections that are there. -/
theorem serverSide_append {sys sys' : System Char} {p : Peer} {cs : List (ClientAcceptor.Client Char)}
    (hclients : sys'.clients = sys.clients ++ cs) (hin : ∀ i, p.servedAs = some i → i < sys.clients.length) :
    serverSide sys' p = serverSide sys p := by
  cases hi : p.servedAs with
  | none => simp only [serverSide, hi]
  | some i => simp only [serverSide, hi, hclients, List.getElem?_append_left (hin i hi)]

/-- Nor is the handler of another connection. -/
theorem serverSide_set {sys : System Char} {p : Peer} {i : ℕ} {c : ClientAcceptor.Client Char}
    (hne : p.servedAs ≠ some i) :
    serverSide { sys with clients := sys.clients.set i c } p = serverSide sys p := by
  cases hk : p.servedAs with
  | none => simp only [serverSide, hk]
  | some k =>
    have hik : i ≠ k := fun h => hne (h ▸ hk)
    simp only [serverSide, hk, List.getElem?_set_ne hik]

/-- The connection of one client changes. -/
theorem Wired.update {net : Network} {sys : System Char} {j : ℕ} {p p' : Peer} (hw : Wired super net)
    (hp : net.peers[j]? = some p) (hlen : net.server.clients.length ≤ sys.clients.length)
    (hslot : p'.servedAs = p.servedAs ∨
      p'.servedAs = some net.server.clients.length ∧ net.server.clients.length < sys.clients.length)
    (hown : Sound super sys p') (hothers : ∀ (k : ℕ) (q : Peer), k ≠ j → net.peers[k]? = some q → Sound super sys q) :
    Wired super ⟨sys, net.peers.set j p'⟩ := by
  have hcases : ∀ (k : ℕ) (q : Peer), (net.peers.set j p')[k]? = some q →
      k = j ∧ q = p' ∨ k ≠ j ∧ net.peers[k]? = some q := by
    intro k q hq
    by_cases hkj : k = j
    · subst hkj
      rw [List.getElem?_set_self (List.getElem?_eq_some_iff.mp hp).1] at hq
      exact Or.inl ⟨rfl, (Option.some.inj hq).symm⟩
    · rw [List.getElem?_set_ne (Ne.symm hkj)] at hq
      exact Or.inr ⟨hkj, hq⟩
  -- no other connection has the handler of this one
  have hapart : ∀ (k : ℕ) (q : Peer) (i : ℕ), k ≠ j → net.peers[k]? = some q → p'.servedAs = some i →
      q.servedAs ≠ some i := by
    intro k q i hkj hq hi hqi
    obtain hsame | ⟨hnew, _⟩ := hslot
    · exact hkj (hw.apart k j q p i hq hp hqi (hsame ▸ hi))
    · obtain rfl : net.server.clients.length = i := Option.some.inj (hnew.symm.trans hi)
      exact Nat.lt_irrefl _ (hw.inRange k q _ hq hqi)
  constructor
  · intro k q i hq hi
    obtain ⟨rfl, rfl⟩ | ⟨_, hq'⟩ := hcases k q hq
    · obtain hsame | ⟨hnew, hlt⟩ := hslot
      · exact Nat.lt_of_lt_of_le (hw.inRange k p i hp (hsame ▸ hi)) hlen
      · obtain rfl : net.server.clients.length = i := Option.some.inj (hnew.symm.trans hi)
        exact hlt
    · exact Nat.lt_of_lt_of_le (hw.inRange k q i hq' hi) hlen
  · intro k l q r i hq hr hqi hri
    obtain ⟨rfl, rfl⟩ | ⟨hk, hq'⟩ := hcases k q hq
    · obtain ⟨rfl, rfl⟩ | ⟨hl, hr'⟩ := hcases l r hr
      · rfl
      · exact absurd hri (hapart l r i hl hr' hqi)
    · obtain ⟨rfl, rfl⟩ | ⟨_, hr'⟩ := hcases l r hr
      · exact absurd hqi (hapart k q i hk hq' hri)
      · exact hw.apart k l q r i hq' hr' hqi hri
  · intro k q hq
    obtain ⟨rfl, rfl⟩ | ⟨hk, hq'⟩ := hcases k q hq
    · exact hown
    · exact hothers k q hk hq'

/-- Only the server changes, and no handler of a connection. -/
theorem Wired.server {net : Network} {sys : System Char} (hw : Wired super net)
    (hlen : net.server.clients.length ≤ sys.clients.length)
    (hothers : ∀ (k : ℕ) (q : Peer), net.peers[k]? = some q → Sound super sys q) : Wired super ⟨sys, net.peers⟩ :=
  ⟨fun j p i hp hi => Nat.lt_of_lt_of_le (hw.inRange j p i hp hi) hlen, hw.apart, hothers⟩

/-- **The step lemma.** -/
theorem step_wired {net net' : Network} {e : Event} (hw : Wired super net) (h : step super net e = some net') :
    Wired super net' := by
  cases e with
  | connect =>
    rw [step_connect h]
    have hcases : ∀ (k : ℕ) (q : Peer), (net.peers ++ [launched])[k]? = some q →
        net.peers[k]? = some q ∨ q = launched := by
      intro k q hq
      by_cases hk : k < net.peers.length
      · rw [List.getElem?_append_left hk] at hq
        exact Or.inl hq
      · rw [List.getElem?_append_right (Nat.le_of_not_lt hk)] at hq
        exact Or.inr (List.mem_singleton.mp (List.mem_of_getElem? hq))
    have hserved : ∀ (k : ℕ) (q : Peer) (i : ℕ), (net.peers ++ [launched])[k]? = some q → q.servedAs = some i →
        net.peers[k]? = some q := by
      intro k q i hq hi
      obtain hq | rfl := hcases k q hq
      · exact hq
      · cases hi
    constructor
    · intro k q i hq hi
      exact hw.inRange k q i (hserved k q i hq hi) hi
    · intro k l q r i hq hr hqi hri
      exact hw.apart k l q r i (hserved k q i hq hqi) (hserved l r i hr hri) hqi hri
    · intro k q hq
      obtain hq | rfl := hcases k q hq
      · exact hw.sound k q hq
      · exact sound_launched _
  | accept env j =>
    obtain ⟨sys, hsys, hcases⟩ := step_accept h
    obtain ⟨hrunning, _, hsys'⟩ := ClientAcceptor.step_accept hsys
    have hclients : sys.clients = net.server.clients ++ (ClientAcceptor.newClient env).toList := by
      rw [hsys', ← ClientAcceptor.addClient_eq]
    have hlen : net.server.clients.length ≤ sys.clients.length := by
      rw [hclients, List.length_append]
      omega
    have hothers : ∀ (k : ℕ) (q : Peer), net.peers[k]? = some q → Sound super sys q := by
      intro k q hq
      exact (hw.sound k q hq).elsewhere (serverSide_append hclients fun i => hw.inRange k q i hq)
        fun _ => hrunning
    obtain rfl | ⟨⟨hal, hac⟩, p, hp, hwaits, rfl⟩ := hcases
    · exact hw.server hlen hothers
    · obtain ⟨c, hnew, _, _⟩ := acceptor_accept hal hac hsys
      have hlt : net.server.clients.length < sys.clients.length := by
        rw [hclients, hnew, List.length_append]
        exact Nat.lt_succ_self _
      exact hw.update hp hlen (Or.inr ⟨rfl, hlt⟩) ((hw.sound j p hp).accepted hwaits hal hac hsys)
        fun k q _ hq => hothers k q hq
  | client j d =>
    obtain ⟨p, c, hp, hc, hmay, rfl⟩ := step_client h
    exact hw.update hp (Nat.le_refl _) (Or.inl rfl) ((hw.sound j p hp).clientTurn hc hmay)
      fun k q _ hq => hw.sound k q hq
  | serve j d =>
    obtain ⟨p, i, sys, hp, hi, hsys, hmay, rfl⟩ := step_serve h
    obtain ⟨hrunning, c, c', _, _, hsys'⟩ := acceptor_client hsys
    have hlen : net.server.clients.length ≤ sys.clients.length := by
      rw [hsys']
      exact Nat.le_of_eq List.length_set.symm
    refine hw.update hp hlen (Or.inl rfl) ((hw.sound j p hp).serverTurn hi hsys hmay) ?_
    intro k q hkj hq
    have hne : q.servedAs ≠ some i := fun hqi => hkj (hw.apart k j q p i hq hp hqi hi)
    refine (hw.sound k q hq).elsewhere ?_ fun _ => hrunning
    rw [hsys']
    exact serverSide_set hne
  | endLoop =>
    obtain ⟨sys, hsys, rfl⟩ := step_endLoop h
    have hsys' := ClientAcceptor.step_endLoop hsys
    have hlen : net.server.clients.length ≤ sys.clients.length := by
      rw [hsys']
    apply hw.server hlen
    intro k q hq
    have hside : serverSide sys q = serverSide net.server q := by
      rw [hsys']
      rfl
    refine (hw.sound k q hq).elsewhere hside ?_
    intro hrunning
    rw [hsys'] at hrunning
    cases hrunning

/-- **The run lemma.** -/
theorem run_wired {es : List Event} {net : Network} (hrun : run (step super) start es = some net) :
    Wired super net :=
  run_invariant (fun _ _ _ hw h => step_wired hw h) start_wired hrun

/-! ### What holds of every connection -/

/-- How a client and a handler of the server are wired: what the client has received is a piece from the front of what
this handler has sent, the handler has received a piece from the front of what this client has sent, and its state is
the one to which its dispatches with these bytes lead. -/
structure Wiring (p : Peer) (v : Service Char) : Prop where
  toClient : p.atClient <+: v.sent
  toServer : p.atServer <+: p.client.sent
  received : received (serverPart p.turns) = p.atServer
  served : run (ClientService.step .server3) (ClientService.opened .server3) (serverPart p.turns) = some v

theorem wiring_of_linked {p : Peer} {v : Service Char} (h : Linked super .server3 p.turns (view p v)) : Wiring p v :=
  ⟨h.toClient, h.toServer, h.received.symm, h.server⟩

/-- **Every connection.**  In every state of the network, with any number of clients and any order of events, for every
connection whose handler the server has not failed to open:

* the client and this handler are wired to each other, and no other connection has this handler;
* the bytes received by the client, those on the wire back, those queued at the server, those on the wire to the
  server and those queued at the client compare with the text that this client has built as they do in a session of
  its own. -/
theorem network_pipeline (super : SvcHandler) (es : List Event) (net : Network) (j : ℕ) (p : Peer) (v : Service Char)
    (hrun : run (step super) start es = some net) (hp : net.peers[j]? = some p)
    (hv : serverSide net.server p = some v) :
    (Wiring p v ∧ ∀ (k : ℕ) (q : Peer) (i : ℕ), net.peers[k]? = some q → p.servedAs = some i → q.servedAs = some i →
        k = j) ∧
      (pipeline (view p v)).Subperm p.client.built ∧
      (Along (ClientService.step .server3) NoOvertaking (ClientService.opened .server3) (serverPart p.turns) →
        (pipeline (view p v)).Sublist p.client.built) ∧
      (Faithful .server3 p.turns (view p v) → pipeline (view p v) = p.client.built) := by
  have hw := run_wired hrun
  have hlinked := (hw.sound j p hp v hv).1
  refine ⟨⟨wiring_of_linked hlinked, ?_⟩, hlinked.compares⟩
  intro k q i hq hi hqi
  exact hw.apart k j q p i hq hp hqi hi

/-- The turn of a session as an event on the `j`-th connection. -/
def onConnection (j : ℕ) : Turn → Event
  | .client d => .client j d
  | .server d => .serve j d

/-- Two clients send their first text before either is accepted, and the second one is accepted first. -/
def crowd : List Event :=
  [.connect, .connect] ++ (echoedText.take 2).map (onConnection 0) ++ (echoedText.take 2).map (onConnection 1)
    ++ [.accept ⟨true, true, true⟩ 1, .accept ⟨true, true, true⟩ 0] ++ (echoedText.drop 2).map (onConnection 0)

theorem network_pipeline_crowd :
    ∃ net p v, run (step svcHandler) start crowd = some net ∧ net.peers[0]? = some p ∧ p.servedAs = some 1 ∧
      p.atClient = ['I', 't'] ∧ p.atServer = ['I', 't', 'e', 'r', 'a', 't'] ∧
      (Wiring p v ∧ ∀ (k : ℕ) (q : Peer) (i : ℕ), net.peers[k]? = some q → p.servedAs = some i →
        q.servedAs = some i → k = 0) ∧
      (pipeline (view p v)).Subperm p.client.built ∧
      (Along (ClientService.step .server3) NoOvertaking (ClientService.opened .server3) (serverPart p.turns) →
        (pipeline (view p v)).Sublist p.client.built) ∧
      (Faithful .server3 p.turns (view p v) → pipeline (view p v) = p.client.built) :=
  ⟨_, _, _, rfl, rfl, rfl, rfl, rfl, network_pipeline svcHandler crowd _ 0 _ _ rfl rfl rfl⟩

/-- **Every client gets everything back.**  While the event loop of the server runs, whatever happens on the other
connections: a client whose own connection has been faithful and without a failed `recv`, and whose event loop has
ended, has received back exactly what it has sent, which is the text it has built, less what is still in its queue. -/
theorem network_complete (super : SvcHandler) (es : List Event) (net : Network) (j : ℕ) (p : Peer) (v : Service Char)
    (hrun : run (step super) start es = some net) (hp : net.peers[j]? = some p)
    (hv : serverSide net.server p = some v) (hrunning : net.server.running = true)
    (hf : Faithful .server3 p.turns (view p v))
    (hno : NoRecvFails p.turns) (hended : p.client.loopEnded = true) :
    p.atClient = p.client.sent ∧ p.client.sent ++ p.client.queue.unread = p.client.built :=
  run_complete (((run_wired hrun).sound j p hp v hv).2 hrunning) hf hno hended

/-- One client waits to be accepted for ever, and another one is served. -/
def neglected : List Event :=
  [.connect, .connect, .accept ⟨true, true, true⟩ 1, .client 0 (.timeout ⟨true, fun _ => true⟩)]
    ++ wholeSession.map (onConnection 1)

theorem network_complete_neglected :
    ∃ net p, run (step svcHandler) start neglected = some net ∧ net.peers[1]? = some p ∧ p.client.loopEnded = true ∧
      p.atClient = p.client.sent ∧ p.client.sent ++ p.client.queue.unread = p.client.built := by
  obtain ⟨hflow, hlossless, hno, hrecv⟩ := wholeSession_orderly
  exact ⟨_, _, rfl, rfl, rfl, network_complete svcHandler neglected _ 1 _ _ rfl rfl rfl rfl
    ⟨⟨hlossless, hno, rfl⟩, hflow, by decide⟩ hrecv rfl⟩

end AceSamples.EchoNetwork
