import AceSamples.Client5Session
import AceSamples.ClientServiceCatchUp

/-!
# How a session of Client5 ends

The client closes its end of the connection after five expiries of the timer, the server's handler is destroyed when
it has read the end of the stream, and the client's event loop ends when it has read the end in its turn.

* `echo_returned_iff` — the client has everything back if and only if the server never had to queue;
* `Writing`, `step_writing` — until the client closes its end, fewer than five expiries have been counted;
* `closes_writer`, `server_reads`, `client_reads` — the three parts of the way to the end;
* `session_can_end` — from every state in which the client's handler is open, the session can be brought to its end.
-/

set_option autoImplicit false

namespace AceSamples.Client5Session

open AceSamples.AceSocket AceSamples.AceMessageQueue AceSamples.ScriptedRun
open AceSamples.Client5 (Client Alive SvcHandler svcHandler)
open AceSamples.ClientService (Server Service Serving Gone Lossless TakenWhole received receivedBy)

variable {super : SvcHandler} {srv : Server}

/-! ### What comes back -/

/-- **What comes back in the end.**  In every session without a failed `recv` in which the client's event loop has
ended, the client has received exactly what it has sent if and only if every direct send of the server has taken its
whole chunk. -/
theorem echo_returned_iff (super : SvcHandler) (srv : Server) (ts : List Turn) (s : Session)
    (hrun : run (step super srv) (connected srv) ts = some s) (hno : NoRecvFails ts)
    (hended : s.client.loopEnded = true) :
    s.atClient = s.client.sent ↔ ∀ d ∈ serverPart ts, TakenWhole d := by
  have hs := run_linked hrun
  have hclosing := run_closing hrun
  obtain ⟨hgone, hclient⟩ := hclosing.client hended hno
  have hiff := ClientService.run_sent_eq_received_iff hs.server
  rw [← hs.received] at hiff
  have hout := ClientService.length_outgoing_le hs.server
  rw [← hs.received, ClientService.outgoing, hgone.queue, MessageQueue.unread_nil, List.append_nil] at hout
  rw [hclient, ← hiff]
  constructor
  · intro hreturned
    have hall : s.atServer = s.client.sent :=
      hs.toServer.eq_of_length_le (by rw [← hreturned]; exact hout)
    exact hreturned.trans hall.symm
  · intro hsent
    have hlen : (ClientService.outgoing s.server).length = (received (serverPart ts)).length := by
      rw [← hs.received, ClientService.outgoing, hgone.queue, MessageQueue.unread_nil, List.append_nil, hsent]
    obtain ⟨hlossless, hflushed⟩ := ClientService.lossless_of_length hs.server hlen
    exact hsent.trans (hclosing.server hgone hflushed hlossless hno).2

/-- The server's socket is full when the first message arrives, and takes the others. -/
def firstMessageLost : List Turn :=
  [expiry, expiry, expiry, expiry, .client (.notified ⟨[.all, .all, .all, .all], (· < Client5.highWaterMark)⟩),
    expiry,
    .server (.input ⟨.data ⟨Client5.iterationText 1, by decide, by decide⟩, .wouldBlock, true, fun _ => true, true⟩),
    .server (.input ⟨.data ⟨Client5.iterationText 2 ++ Client5.iterationText 3 ++ Client5.iterationText 4,
      by decide, by decide⟩, .all, true, fun _ => true, true⟩),
    .server (.input ⟨.closed, .all, true, fun _ => true, true⟩),
    .client (.readable ⟨.data ⟨Client5.iterationText 2 ++ Client5.iterationText 3 ++ Client5.iterationText 4,
      by decide, by decide⟩, .other⟩),
    .client (.readable ⟨.closed, .other⟩)]

theorem echo_returned_firstMessageLost :
    ∃ s, run (step svcHandler .server4) (connected .server4) firstMessageLost = some s ∧
      s.client.sent = Client5.iterationText 1 ++ s.atClient ∧
      (s.atClient = s.client.sent ↔ ∀ d ∈ serverPart firstMessageLost, TakenWhole d) := by
  have hno : NoRecvFails firstMessageLost := by
    simp [NoRecvFails, clientPart, serverPart, firstMessageLost, expiry]
  exact ⟨_, rfl, rfl, echo_returned_iff svcHandler .server4 firstMessageLost _ rfl hno rfl⟩

/-! ### The way to the end -/

/-- Some turns, in which no `recv` fails, lead from one state of the session to another. -/
def Leads (super : SvcHandler) (srv : Server) (s s' : Session) : Prop :=
  ∃ ts, NoRecvFails ts ∧ run (step super srv) s ts = some s'

theorem Leads.refl (s : Session) : Leads super srv s s := ⟨[], by simp [NoRecvFails, clientPart, serverPart], rfl⟩

theorem Leads.trans {s s' s'' : Session} (h : Leads super srv s s') (h' : Leads super srv s' s'') :
    Leads super srv s s'' := by
  obtain ⟨ts, hno, hrun⟩ := h
  obtain ⟨ts', hno', hrun'⟩ := h'
  refine ⟨ts ++ ts', ⟨?_, ?_⟩, run_append_eq_some.mpr ⟨s', hrun, hrun'⟩⟩
  · intro env henv
    rw [clientPart, List.filterMap_append, List.mem_append] at henv
    exact henv.elim (hno.1 env) (hno'.1 env)
  · intro env henv
    rw [serverPart, List.filterMap_append, List.mem_append] at henv
    exact henv.elim (hno.2 env) (hno'.2 env)

/-- A turn of the client. -/
theorem Leads.client (super : SvcHandler) (srv : Server) {s : Session} {c : Client} {d : Client5.Dispatch}
    (hc : Client5.step super s.client d = some c) (hmay : clientMay s d c = true)
    (hno : ∀ env, d = .readable env → env.recv ≠ .failed) :
    Leads super srv s { s with client := c, atClient := s.atClient ++ readBy d } := by
  refine ⟨[.client d], ⟨?_, ?_⟩, run_cons_eq_some.mpr ⟨_, ?_, rfl⟩⟩
  · intro env henv
    exact hno env (List.mem_singleton.mp henv).symm
  · intro env henv
    exact absurd henv List.not_mem_nil
  · simp only [step, hc, hmay, if_true]

/-- A turn of the server's handler. -/
theorem Leads.server (super : SvcHandler) {s : Session} {v : Service Char} {d : ClientService.Dispatch Char}
    (hv : ClientService.step srv s.server d = some v) (hmay : serverMay s d = true)
    (hno : ∀ env, d = .input env → env.recv ≠ .failed) :
    Leads super srv s { s with server := v, atServer := s.atServer ++ receivedBy d } := by
  refine ⟨[.server d], ⟨?_, ?_⟩, run_cons_eq_some.mpr ⟨_, ?_, rfl⟩⟩
  · intro env henv
    exact absurd henv List.not_mem_nil
  · intro env henv
    exact hno env (List.mem_singleton.mp henv).symm
  · simp only [step, hv, hmay, if_true]

/-! ### The client closes its end -/

/-- Until the client closes its end, fewer than five expiries of the timer have been counted. -/
def Writing (c : Client) : Prop := c.closings = [] → ∃ n : ℕ, c.numIterations.toInt = n ∧ n < 5

/-- An expiry that does not close the writer is one of the first four. -/
theorem tick_writing {c : Client} {n : ℕ} (hn : c.numIterations.toInt = n) (hlt : n < 5)
    (hi : ¬c.numIterations + 1 ≥ Client5.maxIterations) :
    (c.numIterations + 1).toInt = (n + 1 : ℕ) ∧ n + 1 < 5 := by
  have htick := Client5.toInt_tick hn (by omega)
  exact ⟨htick, (Client5.not_maxIterations_iff htick).mp hi⟩

theorem step_writing {c c' : Client} {d : Client5.Dispatch} (hwf : Client5.WellFormed c) (hs : Writing c)
    (h : Client5.step super c d = some c') : Writing c' := by
  have hcount : ∀ c'' : Client, c''.closings = c.closings → c''.numIterations = c.numIterations + 1 →
      ¬c.numIterations + 1 ≥ Client5.maxIterations → Writing c'' := by
    intro c'' hclosings hcounter hi hnone
    rw [hclosings] at hnone
    obtain ⟨n, hn, hlt⟩ := hs hnone
    rw [hcounter]
    exact ⟨n + 1, tick_writing hn hlt hi⟩
  cases Client5.step_effect hwf.noneEmpty h with
  | writerClosed env hi =>
    intro hnone
    simp [Client.closeWriter] at hnone
  | unallocated env hi ha => exact hcount _ rfl rfl hi
  | refused env hi ha hr => exact hcount _ rfl rfl hi
  | enqueued env hi ha hr => exact hcount _ rfl rfl hi
  | output d env s₀ t hcall ht =>
    rw [Client5.adjustWakeup_eq]
    cases hcall <;> cases ht <;> exact hs
  | idle env _ => exact hs
  | ended env _ => exact hs

theorem run_writing {ds : List Client5.Dispatch} {c : Client}
    (hrun : run (Client5.step super) Client5.opened ds = some c) : Writing c := by
  have hinv := run_invariant (I := fun c => Client5.WellFormed c ∧ Writing c)
    (fun _ _ _ hs h => ⟨Client5.step_wellFormed hs.1 h, step_writing hs.1 hs.2 h⟩)
    ⟨Client5.opened_wellFormed, fun _ => ⟨0, by decide, by decide⟩⟩ hrun
  exact hinv.2

/-- One expiry of the timer: the writer is closed, or a message is queued. -/
theorem step_expiry (super : SvcHandler) {c : Client} (halive : Alive c) {n : ℕ} (hn : c.numIterations.toInt = n)
    (hlt : n < 5) :
    ∃ c', Client5.step super c (.timeout ⟨true, fun _ => true⟩) = some c' ∧ Alive c' ∧ c'.sent = c.sent ∧
      (writerClosed c' = true ∨ c'.numIterations.toInt = (n + 1 : ℕ) ∧ n + 1 < 5) := by
  have hstep : Client5.step super c (.timeout ⟨true, fun _ => true⟩)
      = some (Client5.closeOnError super .cancelTimer (Client5.handleTimeout ⟨true, fun _ => true⟩ c)) := by
    simp only [Client5.step, halive.timer, halive.loopEnded]
    rfl
  have heff := Client5.timeout_effect super ⟨true, fun _ => true⟩ c
  generalize Client5.closeOnError super .cancelTimer (Client5.handleTimeout ⟨true, fun _ => true⟩ c) = c' at hstep heff
  refine ⟨c', hstep, ?_⟩
  cases heff with
  | writerClosed _ hi =>
    refine ⟨⟨halive.closed, halive.timer, halive.loopEnded, halive.read⟩, rfl, Or.inl ?_⟩
    simp [writerClosed, Client.closeWriter]
  | unallocated _ _ ha => cases ha
  | refused _ _ _ hr => cases hr
  | enqueued _ hi _ _ =>
    exact ⟨⟨halive.closed, halive.timer, halive.loopEnded, halive.read⟩, rfl, Or.inr (tick_writing hn hlt hi)⟩
  | output d env s₀ t hcall ht => cases hcall

/-- **The client closes its end**, after as many expiries of the timer as it takes. -/
theorem closes_writer (k : ℕ) {s : Session} (halive : Alive s.client) {n : ℕ}
    (hn : s.client.numIterations.toInt = n) (hk : n + k = 4) :
    ∃ c, Leads super srv s { s with client := c } ∧ Alive c ∧ writerClosed c = true ∧ c.sent = s.client.sent := by
  induction k generalizing s n with
  | zero =>
    obtain ⟨c, hc, halive', hsent, hclosed | ⟨_, hlt⟩⟩ := step_expiry super halive hn (by omega)
    · have hlead := Leads.client super srv hc (by simp [clientMay, clientRecvMay, hsent]) nofun
      rw [show s.atClient ++ readBy _ = s.atClient from List.append_nil _] at hlead
      exact ⟨c, hlead, halive', hclosed, hsent⟩
    · omega
  | succ k ih =>
    obtain ⟨c, hc, halive', hsent, hnext⟩ := step_expiry super halive hn (by omega)
    have hlead := Leads.client super srv hc (by simp [clientMay, clientRecvMay, hsent]) nofun
    rw [show s.atClient ++ readBy _ = s.atClient from List.append_nil _] at hlead
    obtain hclosed | ⟨hn', _⟩ := hnext
    · exact ⟨c, hlead, halive', hclosed, hsent⟩
    · obtain ⟨c', hlead', halive'', hclosed, hsent'⟩ := ih (s := { s with client := c }) halive' hn' (by omega)
      exact ⟨c', hlead.trans hlead', halive'', hclosed, hsent'.trans hsent⟩

/-! ### The server reads the rest -/

/-- **The server reads what is on the wire to it**, a byte at a time, and then the end of the stream. -/
theorem server_reads (super : SvcHandler) (srv : Server) (rest : List Char) {s : Session} (hs : Serving s.server)
    (hclosed : writerClosed s.client = true) (hsent : s.client.sent = s.atServer ++ rest) :
    ∃ v, Leads super srv s { s with server := v, atServer := s.client.sent } ∧ Gone v ∧ s.server.sent <+: v.sent := by
  induction rest generalizing s with
  | nil =>
    let env : ClientService.InputResults Char := ⟨.closed, .all, true, fun _ => true, true⟩
    have hv : ClientService.step srv s.server (.input env) = some (ClientService.dispatchInput srv env s.server) := by
      simp only [ClientService.step, hs.read, hs.live, if_true]
    have hmay : serverMay s (.input env) = true := by
      rw [List.append_nil] at hsent
      simp [serverMay, arrives, env, hclosed, hsent]
    have hno : env.recv ≠ .failed := by
      intro h
      cases h
    have hlead := Leads.server super hv hmay (fun env' h => by cases h; exact hno)
    rw [show s.atServer ++ receivedBy (.input env) = s.client.sent from hsent.symm] at hlead
    have hrc : (ClientService.handleInput srv env s.server).1 = -1 := by
      rw [ClientService.handleInput_ended env s.server fun c hc => by cases hc]
    exact ⟨_, hlead, (ClientService.dispatchInput_spec srv env hs).1 hrc, ClientService.step_sent_prefix hs hv⟩
  | cons b rest ih =>
    let env : ClientService.InputResults Char :=
      ⟨.data ⟨[b], by simp, by simp [ClientService.inputSize]⟩, .all, true, fun _ => true, true⟩
    have hv : ClientService.step srv s.server (.input env) = some (ClientService.dispatchInput srv env s.server) := by
      simp only [ClientService.step, hs.read, hs.live, if_true]
    have hmay : serverMay s (.input env) = true := by
      show (s.atServer ++ [b]).isPrefixOf s.client.sent = true
      rw [List.isPrefixOf_iff_prefix, hsent]
      exact ⟨rest, by simp⟩
    have hno : env.recv ≠ .failed := by
      intro h
      cases h
    have hlead := Leads.server super hv hmay (fun env' h => by cases h; exact hno)
    have hrc : (ClientService.handleInput srv env s.server).1 ≠ -1 := by
      rw [ClientService.handleInput_whole env s.server rfl rfl]
      show (0 : ℤ) ≠ -1
      decide
    obtain ⟨hserving, _⟩ := (ClientService.dispatchInput_spec srv env hs).2 hrc
    obtain ⟨v, hlead', hgone, hprefix⟩ := ih
      (s := { s with
        server := ClientService.dispatchInput srv env s.server
        atServer := s.atServer ++ receivedBy (.input env) })
      hserving hclosed (by rw [hsent]; exact (List.append_cons _ _ _))
    exact ⟨v, hlead.trans hlead', hgone, (ClientService.step_sent_prefix hs hv).trans hprefix⟩

/-! ### The client reads the rest -/

/-- **The client reads what is on the wire back**, a byte at a time, and then the end of the stream. -/
theorem client_reads (super : SvcHandler) (srv : Server) (rest : List Char) {s : Session}
    (halive : Alive s.client) (hgone : Gone s.server) (hsent : s.server.sent = s.atClient ++ rest) :
    ∃ c, Leads super srv s { s with client := c, atClient := s.server.sent } ∧ c.loopEnded = true ∧
      c.sent = s.client.sent := by
  induction rest generalizing s with
  | nil =>
    let env : Client5.InputResults := ⟨.closed, .other⟩
    let c := super.leave (s.client.endEventLoop.cancelWakeup .readMask)
    have hc : Client5.step super s.client (.readable env) = some c := by
      simp only [Client5.step, halive.read, halive.loopEnded]
      exact congrArg some (super.close_eq _)
    have hmay : clientMay s (.readable env) c = true := by
      rw [List.append_nil] at hsent
      simp [clientMay, clientRecvMay, arrives, env, hgone.socketOpen, hsent, c, SvcHandler.leave,
        Client.cancelWakeup, Client.endEventLoop]
    have hno : env.recv ≠ .failed := by
      intro h
      cases h
    have hlead := Leads.client super srv hc hmay (fun env' h => by cases h; exact hno)
    rw [show s.atClient ++ readBy (.readable env) = s.server.sent from hsent.symm] at hlead
    exact ⟨_, hlead, rfl, rfl⟩
  | cons b rest ih =>
    let env : Client5.InputResults := ⟨.data ⟨[b], by simp, by simp⟩, .other⟩
    have hc : Client5.step super s.client (.readable env) = some s.client := by
      simp only [Client5.step, halive.read, halive.loopEnded]
      rfl
    have hmay : clientMay s (.readable env) s.client = true := by
      have hpiece : (s.atClient ++ [b]).isPrefixOf s.server.sent = true := by
        rw [List.isPrefixOf_iff_prefix, hsent]
        exact ⟨rest, by simp⟩
      simpa [clientMay, clientRecvMay, arrives, env] using hpiece
    have hno : env.recv ≠ .failed := by
      intro h
      cases h
    have hlead := Leads.client super srv hc hmay (fun env' h => by cases h; exact hno)
    obtain ⟨c, hlead', hended, hsame⟩ := ih (s := { s with atClient := s.atClient ++ readBy (.readable env) })
      halive hgone (by rw [hsent]; exact (List.append_cons _ _ _))
    exact ⟨c, hlead.trans hlead', hended, hsame⟩

/-- **A session can always be brought to its end.**  From every state of every session in which the client's handler
is open there are turns, without a failed `recv`, after which the client's event loop has ended, the server's handler
is destroyed, and the wires are empty: the client has received all that the server has sent, and the server, if it was
still being served, all that the client has sent. -/
theorem session_can_end (super : SvcHandler) (srv : Server) (ts : List Turn) (s : Session)
    (hrun : run (step super srv) (connected srv) ts = some s) (hopen : s.client.closed = false) :
    ∃ s', Leads super srv s s' ∧ s'.client.loopEnded = true ∧ Gone s'.server ∧ s'.atClient = s'.server.sent ∧
      (s.server.live = true → s'.atServer = s'.client.sent) := by
  have hlinked := run_linked hrun
  have halive : Alive s.client := Client5.run_alive hlinked.client hopen
  -- the client closes its end
  obtain ⟨c, hlead, halive', hclosed, hsent⟩ : ∃ c, Leads super srv s { s with client := c } ∧ Alive c ∧
      writerClosed c = true ∧ c.sent = s.client.sent := by
    by_cases hnone : s.client.closings = []
    · obtain ⟨n, hn, hlt⟩ := run_writing hlinked.client hnone
      exact closes_writer (4 - n) halive hn (by omega)
    · refine ⟨s.client, Leads.refl s, halive, ?_, rfl⟩
      simp [writerClosed, hnone]
  -- the server's handler is destroyed
  obtain ⟨v, taken, hlead', hgone, hpiece, hall⟩ : ∃ v taken,
      Leads super srv { s with client := c } { s with client := c, server := v, atServer := taken } ∧ Gone v ∧
        s.server.sent <+: v.sent ∧ (s.server.live = true → taken = c.sent) := by
    obtain hserving | hgone := ClientService.run_serving_or_gone hlinked.server
    · obtain ⟨rest, hrest⟩ := hlinked.toServer
      obtain ⟨v, hlead', hgone, hpiece⟩ := server_reads super srv rest (s := { s with client := c }) hserving
        hclosed (hsent.trans hrest.symm)
      exact ⟨v, c.sent, hlead', hgone, hpiece, fun _ => rfl⟩
    · refine ⟨s.server, s.atServer, Leads.refl _, hgone, List.prefix_rfl, ?_⟩
      intro hlive
      rw [hgone.not_live] at hlive
      cases hlive
  -- the client reads the end of the stream
  obtain ⟨rest, hrest⟩ := hlinked.toClient.trans hpiece
  obtain ⟨c', hlead'', hended, hsame⟩ := client_reads super srv rest
    (s := { s with client := c, server := v, atServer := taken }) halive' hgone hrest.symm
  refine ⟨_, (hlead.trans hlead').trans hlead'', hended, hgone, rfl, ?_⟩
  intro hlive
  exact (hall hlive).trans hsame.symm

/-- After `echoedText`, where the server has queued bytes and the client has closed nothing yet. -/
theorem session_can_end_echoedText :
    ∃ s s', run (step svcHandler .server4) (connected .server4) echoedText = some s ∧ s.client.closings = [] ∧
      Leads svcHandler .server4 s s' ∧ s'.client.loopEnded = true ∧ Gone s'.server ∧ s'.atClient = s'.server.sent ∧
      (s.server.live = true → s'.atServer = s'.client.sent) := by
  obtain ⟨s', hlead, hend⟩ := session_can_end svcHandler .server4 echoedText _ rfl rfl
  exact ⟨_, s', rfl, rfl, hlead, hend⟩

end AceSamples.Client5Session
