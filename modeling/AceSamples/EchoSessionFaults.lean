import AceSamples.Client4
import AceSamples.Server1EchoLoop
import Mathlib.Data.List.TakeDrop

/-!
# Client4-msdn-client against Server1-msdn when calls fail

The two programs run on one connection, in any interleaving; any call may fail, any `send` may take a part of its
buffer, and any `recv` may deliver a piece of what has arrived.  Both programs call `send` once for each buffer and
look at its result for `SOCKET_ERROR` only, and the client does not report a `recv` that fails.

* `Session`, `step` — the two programs, and the bytes accepted and received at either end;
* `ClientMove`, `ServerMove` — what a program does with an answer, once the connection is established;
* `Flows` — **the invariant**: each place holds bytes of the place before, in order; `step_flows`, `run_flows`;
* `received_sublist` — whatever fails, the client receives a subsequence of its text;
* `success_echo_iff` — when both programs return `0`, that is the whole text if and only if every `send` took its
  whole buffer.
-/

set_option autoImplicit false

namespace AceSamples.EchoSessionFaults

open AceSamples.AceSocket AceSamples.Winsock AceSamples.ScriptedRun

/-! ### The session -/

/-- The two programs; what the socket of either has accepted, and what the other has received of it; whether either
has closed its end; and whether a `recv` of the client has failed. -/
structure Session where
  client : Client4.Point
  server : Server1.Point
  toServer : List UInt8
  atServer : List UInt8
  toClient : List UInt8
  atClient : List UInt8
  clientEnd : Bool
  serverEnd : Bool
  broken : Bool

/-- The client is past `connect`, the server past `accept`. -/
def connected : Session := ⟨.send, .recv, [], [], [], [], false, false, false⟩

/-- One of the programs gets the answer to its call. -/
inductive Turn where
  | client (a : Answer)
  | server (a : Answer)

/-- Whether the connection can give an answer. -/
def answers (given taken : List UInt8) (closed : Bool) : Answer → Bool
  | .received r => arrives given taken closed r
  | _ => true

/-- The bytes that the client's `send` gets through. -/
def clientPuts (data : List UInt8) : Client4.Point → Answer → List UInt8
  | .send, .sent r => (Client4.payload data).take (r.accepted (Client4.payload data).length)
  | _, _ => []

/-- Whether a call of the client closes its end of the connection. -/
def clientFinishes : Client4.Point → Answer → Bool
  | .shutdown, .ok => true
  | .shutdownAgain, .ok => true
  | .exiting (.closeConnectSocket :: _) _, _ => true
  | _, _ => false

/-- Whether a call of the server closes its end of the connection. -/
def serverFinishes : Server1.Point → Answer → Bool
  | .shutdown, .ok => true
  | .exiting (.closeClientSocket :: _) _, _ => true
  | _, _ => false

def recvFails : Answer → Bool
  | .received .failed => true
  | _ => false

/-- The client goes on at `p`. -/
def Session.clientTurn (data : List UInt8) (s : Session) (p : Client4.Point) (a : Answer) : Session :=
  { s with
    client := p
    toServer := s.toServer ++ clientPuts data s.client a
    atClient := s.atClient ++ Server1.delivered a
    clientEnd := s.clientEnd || clientFinishes s.client a
    broken := s.broken || recvFails a }

/-- The server goes on at `p`. -/
def Session.serverTurn (s : Session) (p : Server1.Point) (a : Answer) : Session :=
  { s with
    server := p
    toClient := s.toClient ++ Server1.acceptedBy s.server a
    atServer := s.atServer ++ Server1.delivered a
    serverEnd := s.serverEnd || serverFinishes s.server a }

/-- One turn; `none` when it cannot happen. -/
def step (data : List UInt8) (s : Session) : Turn → Option Session
  | .client a =>
    match Client4.resume data s.client a with
    | none => none
    | some p => if answers s.toClient s.atClient s.serverEnd a then some (s.clientTurn data p a) else none
  | .server a =>
    match Server1.resume s.server a with
    | none => none
    | some p => if answers s.toServer s.atServer s.clientEnd a then some (s.serverTurn p a) else none

variable {data : List UInt8}

theorem step_client {s s' : Session} {a : Answer} (h : step data s (.client a) = some s') :
    ∃ p, Client4.resume data s.client a = some p ∧ answers s.toClient s.atClient s.serverEnd a = true ∧
      s' = s.clientTurn data p a := by
  simp only [step] at h
  split at h
  · cases h
  · rename_i p hp
    split at h
    · rename_i hmay
      exact ⟨p, hp, hmay, (Option.some.inj h).symm⟩
    · cases h

theorem step_server {s s' : Session} {a : Answer} (h : step data s (.server a) = some s') :
    ∃ p, Server1.resume s.server a = some p ∧ answers s.toServer s.atServer s.clientEnd a = true ∧
      s' = s.serverTurn p a := by
  simp only [step] at h
  split at h
  · cases h
  · rename_i p hp
    split at h
    · rename_i hmay
      exact ⟨p, hp, hmay, (Option.some.inj h).symm⟩
    · cases h

/-- What has been received is the front of what has been accepted, before and after an answer. -/
theorem answers_prefix {given taken : List UInt8} {closed : Bool} {a : Answer} (h : answers given taken closed a = true)
    (htaken : taken <+: given) : taken ++ Server1.delivered a <+: given := by
  cases a with
  | received r => exact arrives_prefix h htaken
  | _ =>
    rw [show taken ++ Server1.delivered _ = taken from List.append_nil _]
    exact htaken

theorem answers_closed {given taken : List UInt8} {closed : Bool}
    (h : answers given taken closed (.received .closed) = true) : closed = true ∧ taken = given :=
  arrives_closed (show arrives given taken closed (.closed : RecvResult UInt8 bufferSize) = true from h)

/-! ### The moves -/

/-- The client is past `connect`. -/
def ClientConnected : Client4.Point → Prop
  | .send => True
  | .shutdown => True
  | .recv => True
  | .shutdownAgain => True
  | .exiting _ _ => True
  | _ => False

/-- What the client does with an answer. -/
inductive ClientMove (data : List UInt8) : Client4.Point → Answer → Client4.Point → Prop
  | sent (r : SendResult) : ClientMove data .send (.sent r) .shutdown
  | unsent (r : SendResult) :
      ClientMove data .send (.sent r) (.exiting [.closeConnectSocket, .wsaCleanup] eFail)
  | shut : ClientMove data .shutdown .ok .recv
  | unshut : ClientMove data .shutdown .error (.exiting [.closeConnectSocket, .wsaCleanup] eFail)
  | data (c : Chunk UInt8 bufferSize) : ClientMove data .recv (.received (.data c)) .recv
  | closed : ClientMove data .recv (.received .closed) .shutdownAgain
  | failed : ClientMove data .recv (.received .failed) .shutdownAgain
  | shutAgain : ClientMove data .shutdownAgain .ok (.exiting [.closeConnectSocket, .wsaCleanup] 0)
  | unshutAgain : ClientMove data .shutdownAgain .error (.exiting [.closeConnectSocket, .wsaCleanup] eFail)
  | releases (r : Client4.Release) (todo : List Client4.Release) (hr : ℤ) (a : Answer)
      (ha : a = .ok ∨ a = .error) : ClientMove data (.exiting (r :: todo) hr) a (.exiting todo hr)

theorem client_move {p p' : Client4.Point} {a : Answer} (hp : ClientConnected p)
    (h : Client4.resume data p a = some p') : ClientMove data p a p' := by
  cases p with
  | send =>
    cases a with
    | sent r =>
      simp only [Client4.resume] at h
      split at h
      · cases h
        exact .unsent r
      · cases h
        exact .sent r
    | _ => cases h
  | shutdown =>
    cases a with
    | ok => cases h; exact .shut
    | error => cases h; exact .unshut
    | _ => cases h
  | recv =>
    cases a with
    | received r =>
      cases r with
      | data c =>
        rw [Client4.resume_data] at h
        cases h
        exact .data c
      | closed => cases h; exact .closed
      | failed => cases h; exact .failed
    | _ => cases h
  | shutdownAgain =>
    cases a with
    | ok => cases h; exact .shutAgain
    | error => cases h; exact .unshutAgain
    | _ => cases h
  | exiting todo hr =>
    cases todo with
    | nil => cases a <;> cases h
    | cons r todo =>
      cases a with
      | ok => cases h; exact .releases r todo hr _ (Or.inl rfl)
      | error => cases h; exact .releases r todo hr _ (Or.inr rfl)
      | _ => cases h
  | _ => exact hp.elim

/-- The server is past `accept`. -/
def ServerConnected : Server1.Point → Prop
  | .recv => True
  | .send _ => True
  | .shutdown => True
  | .exiting _ _ => True
  | _ => False

/-- What the server does with an answer. -/
inductive ServerMove : Server1.Point → Answer → Server1.Point → Prop
  | data (c : Chunk UInt8 bufferSize) : ServerMove .recv (.received (.data c)) (.send c.bytes)
  | closed : ServerMove .recv (.received .closed) .shutdown
  | failed : ServerMove .recv (.received .failed) (.exiting [.closeClientSocket, .wsaCleanup] eFail)
  | sent (buffer : List UInt8) (r : SendResult) : ServerMove (.send buffer) (.sent r) .recv
  | unsent (buffer : List UInt8) (r : SendResult) :
      ServerMove (.send buffer) (.sent r) (.exiting [.closeClientSocket, .wsaCleanup] eFail)
  | shut : ServerMove .shutdown .ok (.exiting [.closeClientSocket, .wsaCleanup] 0)
  | unshut : ServerMove .shutdown .error (.exiting [.closeClientSocket, .wsaCleanup] eFail)
  | releases (r : Server1.Release) (todo : List Server1.Release) (hr : ℤ) (a : Answer)
      (ha : a = .ok ∨ a = .error) : ServerMove (.exiting (r :: todo) hr) a (.exiting todo hr)

theorem server_move {p p' : Server1.Point} {a : Answer} (hp : ServerConnected p)
    (h : Server1.resume p a = some p') : ServerMove p a p' := by
  cases p with
  | recv =>
    cases a with
    | received r =>
      cases r with
      | data c =>
        rw [Server1.resume_data] at h
        cases h
        exact .data c
      | closed => cases h; exact .closed
      | failed => cases h; exact .failed
    | _ => cases h
  | send buffer =>
    cases a with
    | sent r =>
      simp only [Server1.resume] at h
      split at h
      · cases h
        exact .unsent buffer r
      · cases h
        exact .sent buffer r
    | _ => cases h
  | shutdown =>
    cases a with
    | ok => cases h; exact .shut
    | error => cases h; exact .unshut
    | _ => cases h
  | exiting todo hr =>
    cases todo with
    | nil => cases a <;> cases h
    | cons r todo =>
      cases a with
      | ok => cases h; exact .releases r todo hr _ (Or.inl rfl)
      | error => cases h; exact .releases r todo hr _ (Or.inr rfl)
      | _ => cases h
  | _ => exact hp.elim

/-! ### The invariant -/

/-- What is known when the client is at a point: it has sent nothing yet; or, once it has left its receive loop
without a failed `recv`, the server has closed its end and everything has been received. -/
def ClientAt (s : Session) : Client4.Point → Prop
  | .send => s.toServer = [] ∧ s.clientEnd = false
  | .shutdown => True
  | .recv => True
  | .shutdownAgain => s.broken = false → s.serverEnd = true ∧ s.atClient = s.toClient
  | .exiting _ hr => hr = 0 → s.broken = false → s.serverEnd = true ∧ s.atClient = s.toClient
  | _ => False

/-- What is known when the server is at a point. -/
def ServerAt (s : Session) : Server1.Point → Prop
  | .recv => s.serverEnd = false
  | .send _ => s.serverEnd = false
  | .shutdown => s.serverEnd = false ∧ s.clientEnd = true ∧ s.atServer = s.toServer
  | .exiting _ hr => hr = 0 → s.clientEnd = true ∧ s.atServer = s.toServer
  | _ => False

/-- **The invariant.** -/
structure Flows (data : List UInt8) (s : Session) : Prop where
  client : ClientAt s s.client
  server : ServerAt s s.server
  toServer : s.toServer <+: Client4.payload data
  atServer : s.atServer <+: s.toServer
  toClient : (s.toClient ++ Server1.waiting s.server).Sublist s.atServer
  atClient : s.atClient <+: s.toClient

theorem connected_flows : Flows data connected :=
  ⟨⟨rfl, rfl⟩, rfl, List.nil_prefix, List.prefix_rfl, List.Sublist.refl _, List.prefix_rfl⟩

theorem ClientAt.connected {s : Session} {p : Client4.Point} (h : ClientAt s p) : ClientConnected p := by
  cases p with
  | send => trivial
  | shutdown => trivial
  | recv => trivial
  | shutdownAgain => trivial
  | exiting todo hr => trivial
  | _ => exact h

theorem ServerAt.connected {s : Session} {p : Server1.Point} (h : ServerAt s p) : ServerConnected p := by
  cases p with
  | recv => trivial
  | send buffer => trivial
  | shutdown => trivial
  | exiting todo hr => trivial
  | _ => exact h

/-- A client that has closed its end sends nothing more. -/
theorem ClientAt.puts_nil {s : Session} (h : ClientAt s s.client) (hend : s.clientEnd = true) (a : Answer) :
    clientPuts data s.client a = [] := by
  generalize s.client = p at h ⊢
  cases p with
  | send =>
    rw [h.2] at hend
    cases hend
  | _ => rfl

/-- A server that has closed its end sends nothing more. -/
theorem ServerAt.accepted_nil {s : Session} (h : ServerAt s s.server) (hend : s.serverEnd = true) (a : Answer) :
    Server1.acceptedBy s.server a = [] := by
  generalize s.server = p at h ⊢
  cases p with
  | send buffer =>
    have hopen : s.serverEnd = false := h
    rw [hopen] at hend
    cases hend
  | _ => rfl

/-! ### A turn of the client -/

section client

variable {s : Session} {p : Client4.Point} {a : Answer}

/-- What is known after the receive loop stays true in a call that receives nothing. -/
theorem clientTurn_received (h : s.broken = false → s.serverEnd = true ∧ s.atClient = s.toClient)
    (ha : a = .ok ∨ a = .error) (hbroken : (s.clientTurn data p a).broken = false) :
    (s.clientTurn data p a).serverEnd = true ∧ (s.clientTurn data p a).atClient = (s.clientTurn data p a).toClient := by
  have hbefore : s.broken = false := (Bool.or_eq_false_iff.mp hbroken).1
  obtain ⟨hend, hall⟩ := h hbefore
  refine ⟨hend, ?_⟩
  have hnone : Server1.delivered a = [] := by
    obtain rfl | rfl := ha <;> rfl
  show s.atClient ++ Server1.delivered a = s.toClient
  rw [hnone, List.append_nil, hall]

theorem clientTurn_clientAt (hs : Flows data s) (hmove : ClientMove data s.client a p)
    (hmay : answers s.toClient s.atClient s.serverEnd a = true) : ClientAt (s.clientTurn data p a) p := by
  have hclient := hs.client
  generalize s.client = q at hmove hclient
  cases hmove with
  | sent r => trivial
  | unsent r => exact fun hzero => absurd hzero eFail_ne_zero
  | shut => trivial
  | unshut => exact fun hzero => absurd hzero eFail_ne_zero
  | data c => trivial
  | closed =>
    intro _
    obtain ⟨hend, hall⟩ := answers_closed hmay
    refine ⟨hend, ?_⟩
    show s.atClient ++ [] = s.toClient
    rw [List.append_nil, hall]
  | failed =>
    intro hbroken
    exact absurd (Bool.or_eq_false_iff.mp hbroken).2 (by decide)
  | shutAgain => exact fun _ => clientTurn_received hclient (Or.inl rfl)
  | unshutAgain => exact fun hzero => absurd hzero eFail_ne_zero
  | releases r todo hr a ha => exact fun hzero => clientTurn_received (hclient hzero) ha

theorem clientTurn_serverAt (hs : Flows data s) : ServerAt (s.clientTurn data p a) s.server := by
  have hserver := hs.server
  have hframe : s.clientEnd = true ∧ s.atServer = s.toServer →
      (s.clientTurn data p a).clientEnd = true ∧ s.atServer = (s.clientTurn data p a).toServer := by
    intro h
    refine ⟨Bool.or_eq_true_iff.mpr (Or.inl h.1), ?_⟩
    show s.atServer = s.toServer ++ clientPuts data s.client a
    rw [hs.client.puts_nil h.1 a, List.append_nil, h.2]
  generalize s.server = q at hserver ⊢
  cases q with
  | recv => exact hserver
  | send buffer => exact hserver
  | shutdown => exact ⟨hserver.1, hframe hserver.2⟩
  | exiting todo hr => exact fun hzero => hframe (hserver hzero)
  | _ => exact hserver

/-- The one `send` of the client gets the front of the text through. -/
theorem clientTurn_toServer (hs : Flows data s) (hmove : ClientMove data s.client a p) :
    (s.clientTurn data p a).toServer <+: Client4.payload data := by
  have hclient := hs.client
  show s.toServer ++ clientPuts data s.client a <+: Client4.payload data
  generalize s.client = q at hmove hclient
  cases hmove with
  | sent r =>
    rw [hclient.1]
    exact List.take_prefix _ _
  | unsent r =>
    rw [hclient.1]
    exact List.take_prefix _ _
  | _ =>
    rw [show s.toServer ++ clientPuts data _ _ = s.toServer from List.append_nil _]
    exact hs.toServer

theorem clientTurn_flows (hs : Flows data s) (hp : Client4.resume data s.client a = some p)
    (hmay : answers s.toClient s.atClient s.serverEnd a = true) : Flows data (s.clientTurn data p a) := by
  have hmove := client_move hs.client.connected hp
  exact ⟨clientTurn_clientAt hs hmove hmay, clientTurn_serverAt hs, clientTurn_toServer hs hmove,
    hs.atServer.trans (List.prefix_append _ _), hs.toClient, answers_prefix hmay hs.atClient⟩

end client

/-! ### A turn of the server -/

section server

variable {s : Session} {p : Server1.Point} {a : Answer}

/-- What is known after the echo loop stays true in a call that receives nothing. -/
theorem serverTurn_received (h : s.clientEnd = true ∧ s.atServer = s.toServer) (ha : a = .ok ∨ a = .error) :
    (s.serverTurn p a).clientEnd = true ∧ (s.serverTurn p a).atServer = (s.serverTurn p a).toServer := by
  refine ⟨h.1, ?_⟩
  have hnone : Server1.delivered a = [] := by
    obtain rfl | rfl := ha <;> rfl
  show s.atServer ++ Server1.delivered a = s.toServer
  rw [hnone, List.append_nil, h.2]

theorem serverTurn_serverAt (hs : Flows data s) (hmove : ServerMove s.server a p)
    (hmay : answers s.toServer s.atServer s.clientEnd a = true) : ServerAt (s.serverTurn p a) p := by
  have hserver := hs.server
  -- the loop goes on with its end open
  have hopen : s.serverEnd = false → serverFinishes s.server a = false →
      (s.serverTurn p a).serverEnd = false := fun h h' => Bool.or_eq_false_iff.mpr ⟨h, h'⟩
  generalize s.server = q at hmove hserver hopen
  cases hmove with
  | data c => exact hopen hserver rfl
  | closed =>
    obtain ⟨hend, hall⟩ := answers_closed hmay
    refine ⟨hopen hserver rfl, hend, ?_⟩
    show s.atServer ++ [] = s.toServer
    rw [List.append_nil, hall]
  | failed => exact fun hzero => absurd hzero eFail_ne_zero
  | sent buffer r => exact hopen hserver rfl
  | unsent buffer r => exact fun hzero => absurd hzero eFail_ne_zero
  | shut => exact fun _ => serverTurn_received hserver.2 (Or.inl rfl)
  | unshut => exact fun hzero => absurd hzero eFail_ne_zero
  | releases r todo hr a ha => exact fun hzero => serverTurn_received (hserver hzero) ha

theorem serverTurn_clientAt (hs : Flows data s) : ClientAt (s.serverTurn p a) s.client := by
  have hclient := hs.client
  have hframe : s.serverEnd = true ∧ s.atClient = s.toClient →
      (s.serverTurn p a).serverEnd = true ∧ s.atClient = (s.serverTurn p a).toClient := by
    intro h
    refine ⟨Bool.or_eq_true_iff.mpr (Or.inl h.1), ?_⟩
    show s.atClient = s.toClient ++ Server1.acceptedBy s.server a
    rw [hs.server.accepted_nil h.1 a, List.append_nil, h.2]
  generalize s.client = q at hclient ⊢
  cases q with
  | send => exact hclient
  | shutdown => trivial
  | recv => trivial
  | shutdownAgain => exact fun hbroken => hframe (hclient hbroken)
  | exiting todo hr => exact fun hzero hbroken => hframe (hclient hzero hbroken)
  | _ => exact hclient

/-- What waits in the server's buffer has been received last; of it, `send` gets the front through. -/
theorem serverTurn_toClient (hs : Flows data s) (hmove : ServerMove s.server a p) :
    ((s.serverTurn p a).toClient ++ Server1.waiting p).Sublist (s.serverTurn p a).atServer := by
  have htoClient := hs.toClient
  show (s.toClient ++ Server1.acceptedBy s.server a ++ Server1.waiting p).Sublist
    (s.atServer ++ Server1.delivered a)
  generalize s.server = q at hmove htoClient
  have hsame : (s.toClient ++ []).Sublist s.atServer → ∀ a : Answer,
      (s.toClient ++ [] ++ []).Sublist (s.atServer ++ Server1.delivered a) := by
    intro h a
    rw [List.append_nil]
    exact h.trans (List.sublist_append_left _ _)
  have htake : ∀ (buffer : List UInt8) (k : ℕ), (s.toClient ++ buffer).Sublist s.atServer →
      (s.toClient ++ buffer.take k ++ []).Sublist (s.atServer ++ []) := by
    intro buffer k h
    rw [List.append_nil, List.append_nil]
    exact ((List.take_sublist k buffer).append_left _).trans h
  cases hmove with
  | data c =>
    rw [show Server1.waiting .recv = [] from rfl, List.append_nil] at htoClient
    rw [show s.toClient ++ Server1.acceptedBy .recv _ = s.toClient from List.append_nil _]
    exact htoClient.append_right _
  | closed => exact hsame htoClient _
  | failed => exact hsame htoClient _
  | sent buffer r => exact htake buffer _ htoClient
  | unsent buffer r => exact htake buffer _ htoClient
  | shut => exact hsame htoClient _
  | unshut => exact hsame htoClient _
  | releases r todo hr a ha => exact hsame htoClient a

theorem serverTurn_flows (hs : Flows data s) (hp : Server1.resume s.server a = some p)
    (hmay : answers s.toServer s.atServer s.clientEnd a = true) : Flows data (s.serverTurn p a) := by
  have hmove := server_move hs.server.connected hp
  exact ⟨serverTurn_clientAt hs, serverTurn_serverAt hs hmove hmay, hs.toServer, answers_prefix hmay hs.atServer,
    serverTurn_toClient hs hmove, hs.atClient.trans (List.prefix_append _ _)⟩

end server

/-- **The step lemma.** -/
theorem step_flows {s s' : Session} {t : Turn} (hs : Flows data s) (h : step data s t = some s') :
    Flows data s' := by
  cases t with
  | client a =>
    obtain ⟨p, hp, hmay, rfl⟩ := step_client h
    exact clientTurn_flows hs hp hmay
  | server a =>
    obtain ⟨p, hp, hmay, rfl⟩ := step_server h
    exact serverTurn_flows hs hp hmay

/-- **The run lemma.** -/
theorem run_flows {ts : List Turn} {s : Session} (hrun : run (step data) connected ts = some s) : Flows data s :=
  run_invariant (I := Flows data) (fun _ _ _ hs h => step_flows hs h) connected_flows hrun

/-- **Whatever fails**, and however little each `send` takes: in every state of every session the client has received
a subsequence of its text.  Nothing comes back twice, out of order, or from elsewhere. -/
theorem received_sublist (data : List UInt8) (ts : List Turn) (s : Session)
    (hrun : run (step data) connected ts = some s) : s.atClient.Sublist (Client4.payload data) := by
  have hs := run_flows hrun
  have hserver : s.toClient.Sublist s.atServer := (List.sublist_append_left _ _).trans hs.toClient
  exact hs.atClient.sublist.trans (hserver.trans (hs.atServer.trans hs.toServer).sublist)

/-- The client's socket takes two bytes of three, and the server's `recv` fails after the first. -/
def cutShort : List Turn :=
  [.client (.sent (.part 2)), .server (.received (.data ⟨[119], by decide, by decide⟩)), .server (.sent .all),
    .client .error, .server (.received .failed)]

theorem received_sublist_cutShort :
    ∃ s, run (step [119, 120, 121]) connected cutShort = some s ∧ s.toServer = [119, 120] ∧ s.toClient = [119] ∧
      s.atClient.Sublist (Client4.payload [119, 120, 121]) :=
  ⟨_, rfl, rfl, rfl, received_sublist [119, 120, 121] cutShort _ rfl⟩

/-! ### When both programs succeed -/

/-- The answer is not that of a `send` that has taken less than its buffer. -/
def TakesAll (buffer : List UInt8) : Answer → Prop
  | .sent r => r.accepted buffer.length = buffer.length
  | _ => True

/-- A turn in which no `send` takes less than its buffer. -/
def Whole (data : List UInt8) (s : Session) : Turn → Prop
  | .client a => TakesAll (Client4.payload data) a
  | .server a => TakesAll (Server1.waiting s.server) a

/-- The client has called `send`, and not all of its text has been accepted. -/
def Missing (data : List UInt8) (p : Client4.Point) (toServer : List UInt8) : Prop :=
  p ≠ .send ∧ toServer ≠ Client4.payload data

/-- A byte has been left behind, by the `send` of the client or by one of the server. -/
def LeftBehind (data : List UInt8) (s : Session) : Prop :=
  Missing data s.client s.toServer ∨ s.toClient ++ Server1.waiting s.server ≠ s.atServer

/-- Nothing of a buffer is left behind if the whole of it has been accepted. -/
theorem take_accepted_eq_iff (buffer : List UInt8) (r : SendResult) :
    buffer.take (r.accepted buffer.length) = buffer ↔ r.accepted buffer.length = buffer.length := by
  have hle := r.accepted_le buffer.length
  rw [List.take_eq_self_iff]
  omega

/-- The same behind earlier bytes, of which some may have been left behind already. -/
theorem append_take_eq_iff {earlier buffer all : List UInt8} (hsub : (earlier ++ buffer).Sublist all)
    (r : SendResult) : earlier ++ buffer.take (r.accepted buffer.length) = all ↔
      earlier ++ buffer = all ∧ r.accepted buffer.length = buffer.length := by
  constructor
  · intro h
    have hlen := congrArg List.length h
    have hle := hsub.length_le
    have hwhole : r.accepted buffer.length = buffer.length := by
      have := r.accepted_le buffer.length
      simp only [List.length_append, List.length_take] at hlen hle
      omega
    rw [(take_accepted_eq_iff buffer r).mpr hwhole] at h
    exact ⟨h, hwhole⟩
  · intro h
    rw [(take_accepted_eq_iff buffer r).mpr h.2]
    exact h.1

theorem missing_move {q p : Client4.Point} {a : Answer} {toServer : List UInt8} (hmove : ClientMove data q a p)
    (hq : q = .send → toServer = []) :
    Missing data p (toServer ++ clientPuts data q a) ↔
      Missing data q toServer ∨ ¬TakesAll (Client4.payload data) a := by
  -- the one `send` of the client
  have hsend : ∀ (p : Client4.Point) (r : SendResult), p ≠ .send → toServer = [] →
      (Missing data p (toServer ++ clientPuts data .send (.sent r)) ↔
        Missing data .send toServer ∨ ¬TakesAll (Client4.payload data) (.sent r)) := by
    intro p r hp hnone
    have htake : TakesAll (Client4.payload data) (.sent r) ↔
        toServer ++ clientPuts data .send (.sent r) = Client4.payload data := by
      rw [hnone]
      exact (take_accepted_eq_iff (Client4.payload data) r).symm
    rw [Missing, and_iff_right hp, htake, Missing, or_iff_right (fun h => h.1 rfl)]
  -- the other calls put nothing
  have hquiet : ∀ (q p : Client4.Point) (a : Answer), q ≠ .send → p ≠ .send → TakesAll (Client4.payload data) a →
      (Missing data p (toServer ++ []) ↔ Missing data q toServer ∨ ¬TakesAll (Client4.payload data) a) := by
    intro q p a hq hp ha
    rw [Missing, and_iff_right hp, List.append_nil, Missing, and_iff_right hq, or_iff_left (not_not_intro ha)]
  cases hmove with
  | sent r => exact hsend _ r nofun (hq rfl)
  | unsent r => exact hsend _ r nofun (hq rfl)
  | releases r todo hr a ha =>
    refine hquiet _ _ a nofun nofun ?_
    obtain rfl | rfl := ha <;> trivial
  | _ => exact hquiet _ _ _ nofun nofun trivial

theorem waiting_move {q p : Server1.Point} {a : Answer} {toClient atServer : List UInt8} (hmove : ServerMove q a p)
    (hsub : (toClient ++ Server1.waiting q).Sublist atServer) :
    toClient ++ Server1.acceptedBy q a ++ Server1.waiting p ≠ atServer ++ Server1.delivered a ↔
      toClient ++ Server1.waiting q ≠ atServer ∨ ¬TakesAll (Server1.waiting q) a := by
  have hsend : ∀ (buffer : List UInt8) (r : SendResult), (toClient ++ buffer).Sublist atServer →
      (toClient ++ buffer.take (r.accepted buffer.length) ++ [] ≠ atServer ++ [] ↔
        toClient ++ buffer ≠ atServer ∨ ¬r.accepted buffer.length = buffer.length) := by
    intro buffer r hsub
    rw [List.append_nil, List.append_nil, ne_eq, append_take_eq_iff hsub r, not_and_or]
  have hquiet : ∀ a : Answer, TakesAll [] a → Server1.delivered a = [] →
      (toClient ++ [] ++ [] ≠ atServer ++ Server1.delivered a ↔
        toClient ++ [] ≠ atServer ∨ ¬TakesAll [] a) := by
    intro a ha hnone
    rw [hnone, List.append_nil, List.append_nil, List.append_nil, or_iff_left (not_not_intro ha)]
  cases hmove with
  | data c =>
    show toClient ++ [] ++ c.bytes ≠ atServer ++ c.bytes ↔ toClient ++ [] ≠ atServer ∨ ¬True
    rw [or_iff_left (not_not_intro trivial), ne_eq, List.append_left_inj]
  | sent buffer r => exact hsend buffer r hsub
  | unsent buffer r => exact hsend buffer r hsub
  | releases r todo hr a ha =>
    refine hquiet a ?_ ?_
    · obtain rfl | rfl := ha <;> trivial
    · obtain rfl | rfl := ha <;> rfl
  | _ => exact hquiet _ trivial rfl

/-- **The step lemma for bytes left behind.** -/
theorem step_leftBehind {s s' : Session} {t : Turn} (hs : Flows data s) (h : step data s t = some s') :
    LeftBehind data s' ↔ LeftBehind data s ∨ ¬Whole data s t := by
  cases t with
  | client a =>
    obtain ⟨p, hp, _, rfl⟩ := step_client h
    have hnone : s.client = .send → s.toServer = [] := by
      intro hsend
      have hclient := hs.client
      rw [hsend] at hclient
      exact hclient.1
    have hmissing := missing_move (client_move hs.client.connected hp) hnone
    show Missing data p (s.toServer ++ clientPuts data s.client a) ∨ _ ↔ (_ ∨ _) ∨ ¬TakesAll _ a
    rw [hmissing, or_right_comm]
    rfl
  | server a =>
    obtain ⟨p, hp, _, rfl⟩ := step_server h
    have hwaiting := waiting_move (server_move hs.server.connected hp) hs.toClient
    show _ ∨ s.toClient ++ Server1.acceptedBy s.server a ++ Server1.waiting p ≠ s.atServer ++ Server1.delivered a
      ↔ (_ ∨ _) ∨ ¬TakesAll _ a
    rw [hwaiting, or_assoc]
    rfl

/-- **What success is worth.**  When both programs have returned `0` and no `recv` of the client has failed, the
client has received its whole text if and only if its own `send` and every `send` of the server took the whole
buffer.  Otherwise the text has come back with bytes missing, and neither program has reported it. -/
theorem success_echo_iff (data : List UInt8) (ts : List Turn) (s : Session)
    (hrun : run (step data) connected ts = some s) (hclient : s.client = .exiting [] 0)
    (hserver : s.server = .exiting [] 0) (hbroken : s.broken = false) :
    s.atClient = Client4.payload data ↔ Along (step data) (Whole data) connected ts := by
  have hstep : ∀ s t s', Flows data s → step data s t = some s' →
      Flows data s' ∧ (LeftBehind data s' ↔ LeftBehind data s ∨ ¬Whole data s t) :=
    fun s t s' hs h => ⟨step_flows hs h, step_leftBehind hs h⟩
  obtain ⟨hs, hlatch⟩ := run_latch hstep connected_flows hrun
  have hstart : ¬LeftBehind data connected := fun h => h.elim (fun h => h.1 rfl) (fun h => h rfl)
  simp only [not_not] at hlatch
  rw [or_iff_right hstart] at hlatch
  rw [← not_iff_not, ← hlatch]
  -- everything that has been accepted has been received
  have hc := hs.client
  rw [hclient] at hc
  obtain ⟨_, hread⟩ := hc rfl hbroken
  have hv := hs.server
  rw [hserver] at hv
  obtain ⟨_, hall⟩ := hv rfl
  have hsub := hs.toClient
  have hbehind : LeftBehind data s ↔ ¬s.atServer = Client4.payload data ∨ ¬s.atClient = s.atServer := by
    rw [LeftBehind, Missing, hclient, hserver, ← hall, ← hread, and_iff_right nofun]
    show _ ∨ ¬s.atClient ++ [] = s.atServer ↔ _
    rw [List.append_nil]
  rw [hbehind, ← not_and_or, not_iff_not]
  rw [hserver, ← hread] at hsub
  constructor
  · intro hecho
    have hback : (Client4.payload data).Sublist s.atServer := by
      rw [← hecho]
      exact (List.sublist_append_left _ _).trans hsub
    have hforth : s.atServer <+: Client4.payload data := hall ▸ hs.toServer
    have heq := hforth.sublist.antisymm hback
    exact ⟨heq, hecho.trans heq.symm⟩
  · intro h
    exact h.2.trans h.1

/-- The server's `send` takes one byte of two; both programs return `0`. -/
def cutReply : List Turn :=
  [.client (.sent .all), .client .ok, .server (.received (.data ⟨[122, 123], by decide, by decide⟩)),
    .server (.sent (.part 1)), .server (.received .closed), .server .ok, .server .ok, .server .ok,
    .client (.received (.data ⟨[122], by decide, by decide⟩)), .client (.received .closed), .client .ok, .client .ok,
    .client .ok]

theorem success_echo_cutReply :
    ∃ s, run (step [122, 123]) connected cutReply = some s ∧ s.client = .exiting [] 0 ∧ s.server = .exiting [] 0 ∧
      s.atClient = [122] ∧
      (s.atClient = Client4.payload [122, 123] ↔
        Along (step [122, 123]) (Whole [122, 123]) connected cutReply) :=
  ⟨_, rfl, rfl, rfl, rfl, success_echo_iff [122, 123] cutReply _ rfl rfl rfl rfl⟩

end AceSamples.EchoSessionFaults
