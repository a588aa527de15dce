import AceSamples.ClientAcceptor
import AceSamples.ClientServiceRegistration

/-!
# Connections come and go, the listener only goes

Two results about every run of Server3-ace, with any number of connections and any outcome of every call.

* `connection_lifecycle` — a `ClientService` is destroyed at most once, exactly when its `accept` failed, its
  `open` failed or its `handle_input` returned `-1`, with everything released; until then it is registered
  for `READ_MASK` with its socket open.  `Settled` is the invariant of one client, `dispatchClient_settled`
  and `addClient_settled` are the step lemmas.
* `listening_iff_accepts_succeed` — the acceptor keeps its registration and its listening handle exactly as
  long as no `accept` has failed: for a failed `accept`, unlike for a failed `open` of the new client,
  `handle_input` returns `-1`, and `handle_close` closes the listener (`listener_lost`).
-/

set_option autoImplicit false

namespace AceSamples.ClientAcceptor

open AceSamples.AceSocket AceSamples.AceMessageQueue AceSamples.ScriptedRun
open AceSamples.ClientService (Service Dispatch Serving Gone Intact openService teardown)

variable {β : Type*}

/-! ### One client -/

/-- A client between two callbacks: deleted by the `auto_ptr`, torn down, or being served. -/
inductive Settled (c : Client β) : Prop
  | unaccepted (haccept : c.acceptFailed = true) (hs : c.service = Service.fresh.delete)
  | gone (haccept : c.acceptFailed = false) (h : c.openFailed = true ∨ c.inputFailed = true)
      (hs : Gone c.service)
  | serving (haccept : c.acceptFailed = false) (hopen : c.openFailed = false)
      (hinput : c.inputFailed = false) (hs : Serving c.service)

/-- Nothing is registered for a client that has been destroyed. -/
theorem Settled.mask_of_not_live {c : Client β} (h : Settled c) (hlive : c.service.live = false) :
    c.service.mask = .null := by
  cases h with
  | unaccepted _ hs =>
    rw [hs]
    rfl
  | gone _ _ hs => exact hs.mask
  | serving _ _ _ hs =>
    rw [hs.live] at hlive
    cases hlive

theorem step_of_mask_null {s : Service β} (hs : s.mask = .null) (d : Dispatch β) :
    ClientService.step .server3 s d = none := by
  cases d <;> simp [ClientService.step, hs, Mask.null]

/-- What `dispatchClient` does when the event is dispatched. -/
theorem dispatchClient_eq_some {c c' : Client β} {d : Dispatch β} (h : dispatchClient d c = some c') :
    ∃ s, ClientService.step .server3 c.service d = some s ∧
      c' = { c with service := s, inputFailed := c.inputFailed || inputFails c.service d } := by
  unfold dispatchClient at h
  cases hstep : ClientService.step .server3 c.service d with
  | none =>
    rw [hstep] at h
    cases h
  | some s =>
    rw [hstep] at h
    exact ⟨s, rfl, (Option.some.inj h).symm⟩

/-- **The step lemma for a callback.**  Only a `handle_input` that returns `-1` destroys the client. -/
theorem dispatchClient_settled {c c' : Client β} {d : Dispatch β} (hc : Settled c)
    (h : dispatchClient d c = some c') : Settled c' := by
  obtain ⟨s, hstep, rfl⟩ := dispatchClient_eq_some h
  cases hc with
  | unaccepted _ hs =>
    rw [step_of_mask_null (by rw [hs]; rfl) d] at hstep
    cases hstep
  | gone _ _ hs =>
    rw [step_of_mask_null hs.mask d] at hstep
    cases hstep
  | serving haccept hopen hinput hs =>
    cases d with
    | input env =>
      rw [ClientService.step_input hs hstep]
      obtain ⟨hgone, hserving⟩ := ClientService.dispatchInput_spec .server3 env hs
      by_cases hrc : (ClientService.handleInput .server3 env c.service).1 = -1
      · exact .gone haccept (Or.inr (by simp [inputFails, hrc])) (hgone hrc)
      · exact .serving haccept hopen (by simp [inputFails, hrc, hinput]) (hserving hrc).1
    | output env =>
      obtain ⟨hw, rfl⟩ := ClientService.step_output hs hstep
      exact .serving haccept hopen (by simp [inputFails, hinput])
        (ClientService.dispatchOutput_serving env hs hw)

/-- A client that has been accepted, before its `open`. -/
theorem acceptPeer_intact : Intact (Service.fresh.acceptPeer : Service β) := ⟨rfl, rfl, rfl, rfl, rfl⟩

theorem handleInput_unaccepted {env : AcceptResults} (hal : env.allocated = true)
    (hac : env.accepted = false) :
    handleInput env = (-1, some (Service.fresh.delete : Service β)) := by
  simp [handleInput, hal, hac]

theorem handleInput_openFailed {env : AcceptResults} (hal : env.allocated = true)
    (hac : env.accepted = true) (hreg : env.registered = false) :
    handleInput env = (0, some (teardown Service.fresh.acceptPeer : Service β)) := by
  have hclose : ClientService.handleClose .server3 .null (Service.fresh.acceptPeer : Service β) = _ :=
    ClientService.handleClose_of_ne _ (by decide)
  simp only [handleInput, hal, hac, hreg, openService, Service.registerHandler, Bool.true_eq_false,
    Bool.false_eq_true, if_false, if_true, hclose]

theorem handleInput_opened {env : AcceptResults} (hal : env.allocated = true)
    (hac : env.accepted = true) (hreg : env.registered = true) :
    handleInput env = (0, some (ClientService.opened .server3 : Service β)) := by
  have hrc : ((0 : ℤ) = -1) = False := by decide
  simp only [handleInput, hal, hac, hreg, openService, Service.registerHandler, Bool.true_eq_false,
    if_false, if_true, hrc, ClientService.opened]

/-- **The step lemma for an accept event.**  The new client is deleted, torn down or served. -/
theorem addClient_settled {clients : List (Client β)} (hall : ∀ c ∈ clients, Settled c)
    (env : AcceptResults) : ∀ c ∈ addClient env clients, Settled c := by
  have hnew : ∀ s : Service β, (handleInput env).2 = some s →
      Settled ⟨s, !env.accepted, env.accepted && !env.registered, false⟩ := by
    intro s hs
    cases hal : env.allocated with
    | false => simp [handleInput, hal] at hs
    | true =>
      cases hac : env.accepted with
      | false =>
        rw [handleInput_unaccepted hal hac, Option.some.injEq] at hs
        exact .unaccepted rfl hs.symm
      | true =>
        cases hreg : env.registered with
        | false =>
          rw [handleInput_openFailed hal hac hreg, Option.some.injEq] at hs
          exact .gone rfl (Or.inl rfl) (hs ▸ acceptPeer_intact.teardown)
        | true =>
          rw [handleInput_opened hal hac hreg, Option.some.injEq] at hs
          exact .serving rfl rfl rfl (hs ▸ ClientService.opened_serving)
  intro c hc
  unfold addClient at hc
  split at hc
  · exact hall c hc
  · rename_i s hs
    rcases List.mem_append.mp hc with hc | hc
    · exact hall c hc
    · rw [List.mem_singleton.mp hc]
      exact hnew s hs

/-! ### The events of a run -/

theorem step_accept {sys sys' : System β} {env : AcceptResults} (h : step sys (.accept env) = some sys') :
    sys.running = true ∧ sys.acceptor.mask.accept = true ∧
      sys' = { sys with
        acceptor := dispatchAccept (β := β) env sys.acceptor, clients := addClient env sys.clients } := by
  simp only [step] at h
  split at h
  · rename_i hen
    rw [Bool.and_eq_true] at hen
    exact ⟨hen.1, hen.2, (Option.some.inj h).symm⟩
  · cases h

theorem step_client {sys sys' : System β} {i : ℕ} {d : Dispatch β}
    (h : step sys (.client i d) = some sys') :
    ∃ c c', c ∈ sys.clients ∧ dispatchClient d c = some c' ∧
      sys' = { sys with clients := sys.clients.set i c' } := by
  simp only [step] at h
  split at h
  · split at h
    · cases h
    · rename_i c hget
      split at h
      · cases h
      · rename_i c' hd
        exact ⟨c, c', List.mem_of_getElem? hget, hd, (Option.some.inj h).symm⟩
  · cases h

theorem step_endLoop {sys sys' : System β} (h : step sys .endLoop = some sys') :
    sys' = { sys with acceptor := handleClose sys.acceptor, running := false } := by
  simp only [step] at h
  split at h
  · exact (Option.some.inj h).symm
  · cases h

theorem step_settled {sys sys' : System β} (e : Event β) (hall : ∀ c ∈ sys.clients, Settled c)
    (h : step sys e = some sys') : ∀ c ∈ sys'.clients, Settled c := by
  cases e with
  | accept env =>
    obtain ⟨_, _, rfl⟩ := step_accept h
    exact addClient_settled hall env
  | client i d =>
    obtain ⟨c, c', hmem, hd, rfl⟩ := step_client h
    intro c'' hc''
    rcases List.mem_or_eq_of_mem_set hc'' with hc'' | rfl
    · exact hall c'' hc''
    · exact dispatchClient_settled (hall c hmem) hd
  | endLoop =>
    rw [step_endLoop h]
    exact hall

/-- **The run lemma for the clients.** -/
theorem run_settled {es : List (Event β)} {sys : System β} (hrun : run step started es = some sys) :
    ∀ c ∈ sys.clients, Settled c :=
  run_invariant (I := fun sys : System β => ∀ c ∈ sys.clients, Settled c)
    (fun _ e _ hall h => step_settled e hall h) (fun _ hc => absurd hc List.not_mem_nil) hrun

/-- **Connection lifecycle.**  In every state that the event loop can reach, every `ClientService` allocated
so far

* has been destroyed at most once;
* while it exists, is registered for `READ_MASK` and has its socket open;
* has been destroyed if and only if its `accept` failed, its `open` failed or its `handle_input` has returned
  `-1`; no WRITE dispatch destroys it;
* when destroyed after a successful `accept`, had its socket closed once, its queue emptied and nothing
  registered at that moment;
* receives no callback once it has been destroyed, and nothing undefined has happened in one. -/
theorem connection_lifecycle (es : List (Event β)) (sys : System β)
    (hrun : run step started es = some sys) (c : Client β) (hc : c ∈ sys.clients) :
    c.service.remains.length ≤ 1 ∧
      (c.service.live = true → c.service.mask.read = true ∧ c.service.socketOpen = true) ∧
      (c.service.live = false ↔
        c.acceptFailed = true ∨ c.openFailed = true ∨ c.inputFailed = true) ∧
      (∀ env c', dispatchClient (.output env) c = some c' →
        c'.service.remains = c.service.remains) ∧
      (c.acceptFailed = false →
        ∀ r ∈ c.service.remains, r.closes = 1 ∧ r.queue = [] ∧ r.mask = .null) ∧
      (c.service.live = false → ∀ d, dispatchClient d c = none) ∧
      c.service.misused = false := by
  have hset := run_settled hrun c hc
  have hcalls : c.service.live = false → ∀ d, dispatchClient d c = none := by
    intro hlive d
    simp only [dispatchClient, step_of_mask_null (hset.mask_of_not_live hlive) d]
  cases hset with
  | unaccepted haccept hs =>
    have hlive : c.service.live = false := by
      rw [hs]
      rfl
    refine ⟨?_, ?_, ?_, ?_, ?_, hcalls, ?_⟩
    · rw [hs]
      exact Nat.le_refl 1
    · simp [hlive]
    · simp [hlive, haccept]
    · intro env c' h
      rw [hcalls hlive] at h
      cases h
    · simp [haccept]
    · rw [hs]
      rfl
  | gone haccept h hs =>
    refine ⟨?_, ?_, ?_, ?_, ?_, hcalls, hs.misused⟩
    · rw [hs.remains]
      exact Nat.le_refl 1
    · simp [hs.not_live]
    · simp [hs.not_live, h]
    · intro env c' h
      rw [hcalls hs.not_live] at h
      cases h
    · intro _ r hr
      rw [hs.remains, List.mem_singleton] at hr
      rw [hr]
      exact ⟨rfl, rfl, rfl⟩
  | serving haccept hopen hinput hs =>
    refine ⟨?_, fun _ => ⟨hs.read, hs.socketOpen⟩, ?_, ?_, ?_, hcalls, hs.misused⟩
    · rw [hs.remains]
      exact Nat.zero_le 1
    · simp [hs.live, haccept, hopen, hinput]
    · intro env c' h
      obtain ⟨s, hstep, rfl⟩ := dispatchClient_eq_some h
      obtain ⟨hw, rfl⟩ := ClientService.step_output hs hstep
      rw [hs.remains]
      exact (ClientService.dispatchOutput_serving env hs hw).remains
    · intro _ r hr
      rw [hs.remains] at hr
      cases hr

/-- One client whose `open` succeeds, one whose `open` fails; then the first reaches the end of its stream. -/
def comeAndGo : List (Event ℕ) :=
  [.accept ⟨true, true, true⟩, .accept ⟨true, true, false⟩,
    .client 0 (.input ⟨.closed, .all, true, fun _ => true, true⟩)]

/-- The first client of `comeAndGo` at the end. -/
def goneClient : Client ℕ :=
  ⟨teardown ((ClientService.opened .server3).removeHandler .readMask), false, false, true⟩

theorem connection_lifecycle_comeAndGo :
    ∃ sys, run step started comeAndGo = some sys ∧ goneClient ∈ sys.clients ∧
      goneClient.service.remains.length ≤ 1 ∧
      (goneClient.service.live = true →
        goneClient.service.mask.read = true ∧ goneClient.service.socketOpen = true) ∧
      (goneClient.service.live = false ↔
        goneClient.acceptFailed = true ∨ goneClient.openFailed = true ∨ goneClient.inputFailed = true) ∧
      (∀ env c', dispatchClient (.output env) goneClient = some c' →
        c'.service.remains = goneClient.service.remains) ∧
      (goneClient.acceptFailed = false →
        ∀ r ∈ goneClient.service.remains, r.closes = 1 ∧ r.queue = [] ∧ r.mask = .null) ∧
      (goneClient.service.live = false → ∀ d, dispatchClient d goneClient = none) ∧
      goneClient.service.misused = false :=
  ⟨_, rfl, List.mem_cons_self, connection_lifecycle comeAndGo _ rfl goneClient List.mem_cons_self⟩

/-! ### The listener -/

/-- The acceptor is registered for `ACCEPT_MASK` and its listening handle is open. -/
def Accepting (a : Acceptor) : Prop := a.mask.accept = true ∧ a.listening = true

instance (a : Acceptor) : Decidable (Accepting a) := inferInstanceAs (Decidable (_ ∧ _))

/-- The acceptor has neither a registration for `ACCEPT_MASK` nor a handle. -/
def Closed (a : Acceptor) : Prop := a.mask.accept = false ∧ a.listening = false

theorem handleClose_closed (a : Acceptor) (h : a.listening = true) : Closed (handleClose a) := by
  unfold handleClose
  rw [if_pos h]
  refine ⟨?_, rfl⟩
  show (a.mask.accept && !(Mask.acceptMask.union .dontCallMask).accept) = false
  simp [Mask.acceptMask, Mask.union]

/-- With the client allocated, `handle_input` of the acceptor returns `-1` exactly when `accept` fails. -/
theorem handleInput_returns_neg {env : AcceptResults} (hal : env.allocated = true) :
    (handleInput (β := β) env).1 = -1 ↔ env.accepted = false := by
  cases hac : env.accepted with
  | false => simp [handleInput_unaccepted hal hac]
  | true =>
    cases hreg : env.registered with
    | false => simp [handleInput_openFailed hal hac hreg]
    | true => simp [handleInput_opened hal hac hreg]

/-- A failed `accept` closes the listener, and any other outcome leaves the acceptor alone. -/
theorem dispatchAccept_eq {env : AcceptResults} (hal : env.allocated = true) (a : Acceptor) :
    dispatchAccept (β := β) env a =
      if env.accepted = false then handleClose (a.removeHandler .acceptMask) else a := by
  unfold dispatchAccept
  simp only [handleInput_returns_neg hal]

/-- Every `accept` of the script has succeeded. -/
def AcceptsSucceed (es : List (Event β)) : Prop := ∀ env, .accept env ∈ es → env.accepted = true

theorem acceptsSucceed_snoc {es : List (Event β)} {e : Event β} :
    AcceptsSucceed (es ++ [e]) ↔
      AcceptsSucceed es ∧ ∀ env, e = .accept env → env.accepted = true := by
  constructor
  · intro h
    refine ⟨fun env henv => h env (List.mem_append_left _ henv), ?_⟩
    rintro env rfl
    exact h env (List.mem_append_right _ List.mem_cons_self)
  · rintro ⟨h, he⟩ env henv
    rcases List.mem_append.mp henv with henv | henv
    · exact h env henv
    · exact he env (List.mem_singleton.mp henv).symm

/-- While the event loop runs, the acceptor is accepting if every `accept` has succeeded, and closed if one
has failed. -/
def FollowsAccepts (es : List (Event β)) (sys : System β) : Prop :=
  sys.running = true →
    AcceptsSucceed es ∧ Accepting sys.acceptor ∨ ¬AcceptsSucceed es ∧ Closed sys.acceptor

/-- **The step lemma for the listener.** -/
theorem step_followsAccepts {es : List (Event β)} {sys sys' : System β} {e : Event β}
    (hal : ∀ env, e = .accept env → env.allocated = true) (hI : FollowsAccepts es sys)
    (h : step sys e = some sys') : FollowsAccepts (es ++ [e]) sys' := by
  intro hrunning
  rw [acceptsSucceed_snoc]
  cases e with
  | accept env =>
    obtain ⟨hrun, hmask, rfl⟩ := step_accept h
    rcases hI hrun with ⟨hes, ha⟩ | ⟨_, ha⟩
    · rw [dispatchAccept_eq (hal env rfl)]
      cases hac : env.accepted with
      | true =>
        refine Or.inl ⟨⟨hes, ?_⟩, ha⟩
        intro env' henv'
        cases henv'
        exact hac
      | false =>
        refine Or.inr ⟨?_, handleClose_closed _ ha.2⟩
        intro hall
        have := hall.2 env rfl
        rw [hac] at this
        cases this
    · -- a closed acceptor is not dispatched
      rw [ha.1] at hmask
      cases hmask
  | client i d =>
    obtain ⟨c, c', _, _, rfl⟩ := step_client h
    rcases hI hrunning with ⟨hes, ha⟩ | ⟨hes, ha⟩
    · exact Or.inl ⟨⟨hes, fun env henv => nomatch henv⟩, ha⟩
    · exact Or.inr ⟨fun hall => hes hall.1, ha⟩
  | endLoop =>
    rw [step_endLoop h] at hrunning
    cases hrunning

/-- **The listener.**  Let every allocation succeed.  In every state of the running event loop the acceptor
is registered for `ACCEPT_MASK` with its listening handle open if and only if every `accept` so far has
succeeded; what happens to the accepted connections makes no difference. -/
theorem listening_iff_accepts_succeed (es : List (Event β)) (sys : System β)
    (hal : ∀ env, .accept env ∈ es → env.allocated = true) (hrun : run step started es = some sys)
    (hrunning : sys.running = true) : Accepting sys.acceptor ↔ AcceptsSucceed es := by
  have hinv := run_history (I := fun es (sys : System β) =>
    (∀ env, .accept env ∈ es → env.allocated = true) → FollowsAccepts es sys) ?start ?step hrun
  case start =>
    intro _ _
    exact Or.inl ⟨fun env henv => absurd henv List.not_mem_nil, rfl, rfl⟩
  case step =>
    intro es sys e sys' hI h hal
    refine step_followsAccepts ?_ (hI fun env henv => hal env (List.mem_append_left _ henv)) h
    rintro env rfl
    exact hal env (List.mem_append_right _ List.mem_cons_self)
  rcases hinv hal hrunning with ⟨hes, ha⟩ | ⟨hes, ha⟩
  · exact iff_of_true ha hes
  · refine iff_of_false ?_ hes
    intro hacc
    have hmask := ha.1
    rw [hacc.1] at hmask
    cases hmask

/-- The peer aborts its connection before it is accepted. -/
def abortedConnection : Event ℕ := .accept ⟨true, false, true⟩

theorem listener_lost :
    (run step started [abortedConnection]).map (fun sys => (sys.running, sys.acceptor))
        = some (true, ⟨.null, false, 1⟩) ∧
      ¬Accepting ⟨.null, false, 1⟩ := by
  decide

theorem listening_iff_accepts_succeed_aborted :
    ∃ sys, run step started [.accept ⟨true, true, false⟩, abortedConnection] = some sys ∧
      (Accepting sys.acceptor ↔ AcceptsSucceed [.accept ⟨true, true, false⟩, abortedConnection]) :=
  ⟨_, rfl, listening_iff_accepts_succeed _ _ (by simp [abortedConnection]) rfl rfl⟩

end AceSamples.ClientAcceptor
