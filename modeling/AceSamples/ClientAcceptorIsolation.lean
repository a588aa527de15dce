import AceSamples.ClientAcceptorLifecycle
import AceSamples.ClientServiceFlowControl
import AceSamples.ClientServiceTally
import AceSamples.Interleaving

/-!
# The connections of Server3-ace do not interfere

The server multiplexes any number of connections in one thread.  Each `ClientService` only reaches itself, its own
socket and its own queue, so the run of the whole server is an interleaving of runs of single connections, in the
sense of `Interleaving`.

* `growth`, `run_growth` — the events of the server as creations and moves of clients;
* `run_dispatchesOf` — the state of a connection is the one to which its own dispatches alone lead;
* `connections_do_not_mix`, `backlog_total_bounded` — what has been proved of a single connection holds of each of
  them, and the memory for the backlogs is bounded by the number of live connections.
-/

set_option autoImplicit false

namespace AceSamples.ClientAcceptor

open AceSamples.AceSocket AceSamples.AceMessageQueue AceSamples.ScriptedRun AceSamples.Interleaving
open AceSamples.ClientService (Service Dispatch Serving Gone inputSize received outgoing NoOvertaking Lossless)

variable {β : Type*}

/-! ### The server as a growing system -/

/-- One client carries out a dispatch. -/
def serve (c : Client β) (d : Dispatch β) : Option (Client β) := dispatchClient d c

/-- The client that `handle_input` of the acceptor allocates. -/
def newClient (env : AcceptResults) : Option (Client β) :=
  (handleInput env).2.map fun s => ⟨s, !env.accepted, env.accepted && !env.registered, false⟩

/-- What an event does to the clients. -/
def growthOf : Event β → List (Growth (Client β) (Dispatch β))
  | .accept env => (newClient env).toList.map .create
  | .client i d => [.move i d]
  | .endLoop => []

/-- What the events of a script do to the clients. -/
def growth (es : List (Event β)) : List (Growth (Client β) (Dispatch β)) := es.flatMap growthOf

/-- The dispatches to the `i`-th client. -/
def dispatchesOf (i : ℕ) (es : List (Event β)) : List (Dispatch β) := projection i (moves (growth es))

theorem growth_snoc (es : List (Event β)) (e : Event β) : growth (es ++ [e]) = growth es ++ growthOf e := by
  simp [growth]

theorem addClient_eq (env : AcceptResults) (clients : List (Client β)) :
    addClient env clients = clients ++ (newClient env).toList := by
  unfold addClient newClient
  split
  · rename_i h
    rw [h]
    exact (List.append_nil clients).symm
  · rename_i s h
    rw [h]
    rfl

theorem step_client_eq {sys : System β} (hrunning : sys.running = true) (i : ℕ) (d : Dispatch β) :
    step sys (.client i d) = (stepAt serve sys.clients i d).map fun cs => { sys with clients := cs } := by
  have hstep : ∀ c, sys.clients[i]? = some c → step sys (.client i d) =
      (dispatchClient d c).map fun c' => { sys with clients := sys.clients.set i c' } := by
    intro c hc
    simp only [step, hrunning, if_true, hc]
    cases dispatchClient d c <;> rfl
  cases hc : sys.clients[i]? with
  | none =>
    rw [stepAt_none hc]
    simp only [step, hrunning, if_true, hc]
    rfl
  | some c =>
    rw [stepAt_some hc, hstep c hc, Option.map_map]
    rfl

theorem step_client_running {sys sys' : System β} {i : ℕ} {d : Dispatch β}
    (h : step sys (.client i d) = some sys') : sys.running = true := by
  cases hrunning : sys.running with
  | true => rfl
  | false =>
    simp only [step, hrunning, Bool.false_eq_true, if_false] at h
    cases h

/-- Every event is a growth of the clients. -/
theorem step_growth {sys sys' : System β} {e : Event β} (h : step sys e = some sys') :
    run (grow serve) sys.clients (growthOf e) = some sys'.clients := by
  cases e with
  | accept env =>
    obtain ⟨_, _, rfl⟩ := step_accept h
    show _ = some (addClient env sys.clients)
    rw [addClient_eq, growthOf]
    cases newClient (β := β) env with
    | none =>
      show some sys.clients = some (sys.clients ++ [])
      rw [List.append_nil]
    | some c => rfl
  | client i d =>
    rw [step_client_eq (step_client_running h)] at h
    obtain ⟨cs, hcs, rfl⟩ := Option.map_eq_some_iff.mp h
    exact run_cons_eq_some.mpr ⟨cs, hcs, rfl⟩
  | endLoop =>
    rw [step_endLoop h]
    rfl

/-- **The run lemma.** -/
theorem run_growth {es : List (Event β)} {sys : System β} (hrun : run step started es = some sys) :
    run (grow serve) [] (growth es) = some sys.clients := by
  refine run_history (I := fun es sys => run (grow serve) [] (growth es) = some sys.clients) rfl ?step hrun
  intro es sys e sys' hI h
  rw [growth_snoc, run_append hI]
  exact step_growth h

/-! ### One connection -/

/-- What `serve` does to a client. -/
theorem serve_eq_some {c c' : Client β} {d : Dispatch β} (h : serve c d = some c') :
    ClientService.step .server3 c.service d = some c'.service ∧
      c'.acceptFailed = c.acceptFailed ∧ c'.openFailed = c.openFailed := by
  obtain ⟨s, hs, rfl⟩ := dispatchClient_eq_some h
  exact ⟨hs, rfl, rfl⟩

theorem run_serve {ds : List (Dispatch β)} {c c' : Client β} (h : run serve c ds = some c') :
    run (ClientService.step .server3) c.service ds = some c'.service ∧
      c'.acceptFailed = c.acceptFailed ∧ c'.openFailed = c.openFailed := by
  induction ds generalizing c with
  | nil =>
    rw [run_nil, Option.some.injEq] at h
    rw [← h]
    exact ⟨rfl, rfl, rfl⟩
  | cons d ds ih =>
    obtain ⟨c₁, hstep, htail⟩ := run_cons_eq_some.mp h
    obtain ⟨hservice, haccept, hopen⟩ := serve_eq_some hstep
    obtain ⟨hrest, haccept', hopen'⟩ := ih htail
    exact ⟨run_cons_eq_some.mpr ⟨c₁.service, hservice, hrest⟩, haccept'.trans haccept, hopen'.trans hopen⟩

/-- A new client that has been accepted and opened. -/
theorem newClient_opened {env : AcceptResults} {c : Client β} (h : newClient env = some c)
    (haccept : c.acceptFailed = false) (hopen : c.openFailed = false) :
    c.service = ClientService.opened .server3 := by
  obtain ⟨s, hs, rfl⟩ := Option.map_eq_some_iff.mp h
  have hac : env.accepted = true := by simpa using haccept
  have hreg : env.registered = true := by simpa [hac] using hopen
  cases hal : env.allocated with
  | false => simp [handleInput, hal] at hs
  | true =>
    rw [handleInput_opened hal hac hreg, Option.some.injEq] at hs
    exact hs.symm

/-- Every client has been allocated in an accept event. -/
theorem created_newClient {es : List (Event β)} {c : Client β} (h : c ∈ created (growth es)) :
    ∃ env, newClient env = some c := by
  obtain ⟨g, hg, hgc⟩ := List.mem_filterMap.mp h
  obtain ⟨e, _, he⟩ := List.mem_flatMap.mp hg
  cases e with
  | accept env =>
    obtain ⟨c', hc', rfl⟩ := List.mem_map.mp he
    cases hgc
    exact ⟨env, Option.mem_toList.mp hc'⟩
  | client i d =>
    rw [growthOf, List.mem_singleton] at he
    subst he
    cases hgc
  | endLoop => cases he

/-- The state of a connection that has been accepted and opened is reached by its own dispatches. -/
theorem run_dispatchesOf {es : List (Event β)} {sys : System β} {i : ℕ} {c : Client β}
    (hrun : run step started es = some sys) (hc : sys.clients[i]? = some c)
    (haccept : c.acceptFailed = false) (hopen : c.openFailed = false) :
    run (ClientService.step .server3) (ClientService.opened .server3) (dispatchesOf i es)
      = some c.service := by
  have hgrowth := run_growth hrun
  have hlt : i < (created (growth es)).length := by
    rw [← run_grow_length hgrowth]
    exact (List.getElem?_eq_some_iff.mp hc).1
  have hnew : (created (growth es))[i]? = some (created (growth es))[i] := List.getElem?_eq_getElem hlt
  have hown := run_grow_component hgrowth hnew
  rw [hc] at hown
  obtain ⟨hservice, haccept', hopen'⟩ := run_serve hown
  obtain ⟨env, henv⟩ := created_newClient (List.getElem_mem hlt)
  rw [newClient_opened henv (haccept'.symm.trans haccept) (hopen'.symm.trans hopen)] at hservice
  exact hservice

/-! ### What holds of every connection -/

theorem mem_dispatchesOf {i : ℕ} {d : Dispatch β} {es : List (Event β)} (h : d ∈ dispatchesOf i es) :
    Event.client i d ∈ es := by
  obtain ⟨⟨j, d'⟩, hp, hd⟩ := List.mem_filterMap.mp h
  obtain ⟨g, hg, hgp⟩ := List.mem_filterMap.mp hp
  obtain ⟨e, he, hge⟩ := List.mem_flatMap.mp hg
  cases e with
  | accept env =>
    obtain ⟨c, _, rfl⟩ := List.mem_map.mp hge
    cases hgp
  | client k d'' =>
    rw [growthOf, List.mem_singleton] at hge
    subst hge
    cases hgp
    split at hd
    · rename_i hji
      cases hd
      exact hji ▸ he
    · cases hd
  | endLoop => cases hge

/-- **Connections do not mix.**  In every run of the server, for every connection that has been accepted and opened:
the bytes received on it are those sent on it, queued for it, thrown away with its queue, or lost; and where no direct
send on it has overtaken its queue, the bytes sent on it are a subsequence of those received on it. -/
theorem connections_do_not_mix (es : List (Event β)) (sys : System β) (i : ℕ) (c : Client β)
    (hrun : run step started es = some sys) (hc : sys.clients[i]? = some c)
    (haccept : c.acceptFailed = false) (hopen : c.openFailed = false) :
    (∃ lost : Multiset β,
      (c.service.sent : Multiset β) + c.service.queue.unread + c.service.flushed + lost
        = (received (dispatchesOf i es) : Multiset β)) ∧
      (Along (ClientService.step .server3) NoOvertaking (ClientService.opened .server3) (dispatchesOf i es) →
        c.service.sent.Sublist (received (dispatchesOf i es))) := by
  have hown := run_dispatchesOf hrun hc haccept hopen
  obtain ⟨lost, hbalance, _⟩ := ClientService.run_conserves_bytes hown
  refine ⟨⟨lost, hbalance⟩, ?_⟩
  intro hno
  exact (List.sublist_append_left _ _).trans (ClientService.run_sublist hno hown)

/-- Two connections whose dispatches alternate; the second one is sent to directly and from its queue. -/
def twoConnections : List (Event ℕ) :=
  [.accept ⟨true, true, true⟩, .accept ⟨true, true, true⟩,
    .client 1 (ClientService.arrival ⟨[20, 21], by decide, by decide⟩ (.part 1)),
    .client 0 (ClientService.arrival ⟨[22], by decide, by decide⟩ .all),
    .client 1 (ClientService.arrival ⟨[23], by decide, by decide⟩ .wouldBlock),
    .client 0 (ClientService.arrival ⟨[24], by decide, by decide⟩ .all),
    .client 1 (.output ⟨[.all], fun _ => true⟩)]

theorem connections_do_not_mix_twoConnections :
    ∃ sys c, run step started twoConnections = some sys ∧ sys.clients[1]? = some c ∧
      received (dispatchesOf 1 twoConnections) = [20, 21, 23] ∧ c.service.sent = [20, 21] ∧
      (∃ lost : Multiset ℕ,
        (c.service.sent : Multiset ℕ) + c.service.queue.unread + c.service.flushed + lost
          = (received (dispatchesOf 1 twoConnections) : Multiset ℕ)) ∧
      c.service.sent.Sublist (received (dispatchesOf 1 twoConnections)) := by
  have hno : Along (ClientService.step .server3) NoOvertaking (ClientService.opened .server3)
      (dispatchesOf 1 twoConnections) :=
    ⟨Or.inl rfl, fun _ _ => ⟨Or.inr rfl, fun _ _ => ⟨trivial, fun _ _ => trivial⟩⟩⟩
  obtain ⟨hbytes, hsublist⟩ := connections_do_not_mix twoConnections _ 1 _ rfl rfl rfl rfl
  exact ⟨_, _, rfl, rfl, rfl, rfl, hbytes, hsublist hno⟩

/-- The memory taken by the queues of all clients. -/
def backlog : List (Client β) → ℕ
  | [] => 0
  | c :: cs => c.service.queue.totalSize + backlog cs

/-- The number of clients that have not been destroyed. -/
def liveCount : List (Client β) → ℕ
  | [] => 0
  | c :: cs => (if c.service.live then 1 else 0) + liveCount cs

theorem Settled.queue_of_not_live {c : Client β} (h : Settled c) (hlive : c.service.live = false) :
    c.service.queue = [] := by
  cases h with
  | unaccepted _ hs =>
    rw [hs]
    rfl
  | gone _ _ hs => exact hs.queue
  | serving _ _ _ hs =>
    rw [hs.live] at hlive
    cases hlive

theorem backlog_le {bound : ℕ} {clients : List (Client β)}
    (hlive : ∀ c ∈ clients, c.service.live = true → c.service.queue.totalSize ≤ bound)
    (hgone : ∀ c ∈ clients, c.service.live = false → c.service.queue = []) :
    backlog clients ≤ liveCount clients * bound := by
  induction clients with
  | nil => exact Nat.zero_le _
  | cons c cs ih =>
    have hrest := ih (fun c' hc' => hlive c' (List.mem_cons_of_mem c hc'))
      (fun c' hc' => hgone c' (List.mem_cons_of_mem c hc'))
    show c.service.queue.totalSize + backlog cs ≤ _
    cases h : c.service.live with
    | true =>
      have hown := hlive c List.mem_cons_self h
      have hcount : liveCount (c :: cs) = liveCount cs + 1 := by
        rw [liveCount, h, if_pos rfl, Nat.add_comm]
      rw [hcount, Nat.succ_mul]
      omega
    | false =>
      have hown : c.service.queue.totalSize = 0 := by
        rw [hgone c List.mem_cons_self h]
        rfl
      have hcount : liveCount (c :: cs) = liveCount cs := by
        rw [liveCount, h, if_neg Bool.false_ne_true, Nat.zero_add]
      rw [hcount]
      omega

/-- **Memory of the whole server.**  Let every queue reject insertions at the high-water mark only.  In every state
of every run the queues of all clients together take at most `highWaterMark + 4095` bytes for each client that has
not been destroyed, whatever the peers do. -/
theorem backlog_total_bounded (highWaterMark : ℕ) (es : List (Event β)) (sys : System β)
    (hflow : ∀ i d, Event.client i d ∈ es → ClientService.FlowControlled highWaterMark d)
    (hrun : run step started es = some sys) :
    backlog sys.clients ≤ liveCount sys.clients * (highWaterMark + 4095) := by
  apply backlog_le
  · intro c hc hlive
    obtain ⟨i, hi, hget⟩ := List.mem_iff_getElem.mp hc
    have hat : sys.clients[i]? = some c := by rw [List.getElem?_eq_getElem hi, hget]
    cases run_settled hrun c hc with
    | unaccepted _ hs =>
      rw [hs]
      exact Nat.zero_le _
    | gone _ _ hs =>
      rw [hs.queue]
      exact Nat.zero_le _
    | serving haccept hopen _ _ =>
      have hown := run_dispatchesOf hrun hat haccept hopen
      have hbound := (ClientService.run_bounded (fun d hd => hflow i d (mem_dispatchesOf hd)) hown).2.total
      rw [inputSize] at hbound
      omega
  · intro c hc hlive
    exact (run_settled hrun c hc).queue_of_not_live hlive

/-- Two clients that never read, with a mark of `2`: the second one is full. -/
def fullBacklog : List (Event ℕ) :=
  [.accept ⟨true, true, true⟩, .accept ⟨true, true, true⟩,
    .client 1 (.input ⟨.data ⟨[24, 25], by decide, by decide⟩, .wouldBlock, true, MessageQueue.belowMark 2, true⟩),
    .client 0 (.input ⟨.data ⟨[26], by decide, by decide⟩, .wouldBlock, true, MessageQueue.belowMark 2, true⟩),
    .client 1 (.input ⟨.data ⟨[27], by decide, by decide⟩, .wouldBlock, true, MessageQueue.belowMark 2, true⟩)]

theorem backlog_total_bounded_fullBacklog :
    ∃ sys, run step started fullBacklog = some sys ∧ backlog sys.clients = 3 ∧
      backlog sys.clients ≤ liveCount sys.clients * (2 + 4095) := by
  have hflow : ∀ i d, Event.client i d ∈ fullBacklog → ClientService.FlowControlled 2 d := by
    intro i d h
    simp only [fullBacklog, List.mem_cons, reduceCtorEq, Event.client.injEq, List.not_mem_nil, false_or,
      or_false] at h
    obtain ⟨_, rfl⟩ | ⟨_, rfl⟩ | ⟨_, rfl⟩ := h <;> rfl
  exact ⟨_, rfl, rfl, backlog_total_bounded 2 fullBacklog _ hflow rfl⟩

end AceSamples.ClientAcceptor
