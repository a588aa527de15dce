import AceSamples.ClientServiceRegistration

/-!
# The end of the stream and the backlog

When `recv` returns `0`, `handle_input` returns `-1` and `handle_close` destroys the handler together with
whatever is still queued.  A peer that has shut down only its sending side is still waiting for those bytes.

How many messages are queued at that moment is fixed by the results of the earlier calls alone: `backlog`
computes it from the script of dispatches, without the code.  A chunk that is not sent whole adds a message,
a WRITE dispatch removes the messages whose sends were whole — and the last one in any case, since the loop
in `handle_output` leaves when no message is behind it.

* `step_backlog`, `run_backlog` — the queue has `backlog` messages, as long as no insertion is rejected and no
  send fails;
* `end_of_stream_drops_nothing_iff` — the teardown after the end of the stream throws nothing away exactly
  when that number is `0`;
* `end_of_stream_drops_backlog` — otherwise the queued bytes are lost, in both servers.
-/

set_option autoImplicit false

namespace AceSamples.ClientService

open AceSamples.AceSocket AceSamples.AceMessageQueue AceSamples.ScriptedRun

variable {β : Type*} {srv : Server}

/-! ### Counting the backlog from the script -/

/-- The messages left by a WRITE dispatch that finds `n` of them and makes `whole` whole sends. -/
def leftAfter (whole n : ℕ) : ℕ := if n ≤ whole + 1 then 0 else n - whole

/-- The number of queued messages after a dispatch that finds `n` of them. -/
def backlogStep (n : ℕ) : Dispatch β → ℕ
  | .input env =>
    match env.recv with
    | .data _ => if env.send = .all then n else n + 1
    | .closed => n
    | .failed => n
  | .output env => leftAfter (wholeSends env.sends) n

/-- The number of messages queued by a script of dispatches. -/
def backlog (ds : List (Dispatch β)) : ℕ := ds.foldl backlogStep 0

/-- No direct send fails otherwise than with `EWOULDBLOCK`, and neither the queueing of what is left of a
chunk nor the put-back of a message is rejected. -/
def Orderly (s : Service β) : Dispatch β → Prop
  | .input env => env.send ≠ .failed ∧ (env.send = .all ∨ env.accepts s.queue = true)
  | .output env =>
    s.queue.length ≤ wholeSends env.sends + 1 ∨
      env.accepts (s.queue.drop (wholeSends env.sends + 1)) = true

theorem InputEffect.queue_length {env : InputResults β} {s s' : Service β} {rc : ℤ}
    (h : InputEffect env s rc s') (hd : Orderly s (.input env)) (hrc : rc ≠ -1) :
    s'.queue.length = backlogStep s.queue.length (.input env) := by
  obtain ⟨hsend, haccepts⟩ := hd
  cases h with
  | ended _ => exact absurd rfl hrc
  | whole c hc hs => simp [backlogStep, hc, hs]
  | sendFailed c _ hs => exact absurd hs hsend
  | unallocated c _ _ _ _ => exact absurd rfl hrc
  | rejected c _ hs _ _ hr =>
    rw [haccepts.resolve_left hs] at hr
    cases hr
  | queuedBehind c hc hs _ _ _ _ => simp [backlogStep, hc, hs]
  | queuedFirst c hc hs _ _ _ hq =>
    have hlen : backlogStep s.queue.length (.input env) = 1 := by simp [backlogStep, hc, hs, hq]
    rw [hlen]
    cases env.registered <;> rfl

theorem OutputEffect.queue_length {env : OutputResults β} {s s' : Service β} {rc : ℤ}
    (h : OutputEffect env s rc s') (hd : Orderly s (.output env)) :
    s'.queue.length = leftAfter (wholeSends env.sends) s.queue.length := by
  cases h with
  | drained front last hq hs =>
    have hlen : s.queue.length = front.length + 1 := by simp [hq]
    rw [leftAfter, if_pos (by omega)]
    rfl
  | putBack front m rest r hq hrest hs _ _ =>
    have hpos := List.length_pos_iff.mpr hrest
    have hlen : s.queue.length = front.length + (rest.length + 1) := by simp [hq]
    rw [leftAfter, if_neg (by omega), hlen, hs]
    show rest.length + 1 = _
    omega
  | refused front m rest r hq hrest hs _ ha =>
    -- the put-back finds the queue `rest`, and `Orderly` says that it is accepted there
    exfalso
    have hpos := List.length_pos_iff.mpr hrest
    have hlen : s.queue.length = front.length + (rest.length + 1) := by simp [hq]
    have hdrop : s.queue.drop (wholeSends env.sends + 1) = rest := by
      rw [hq, hs, ← List.drop_drop, List.drop_left]
      rfl
    rcases hd with hle | hacc
    · omega
    · rw [hdrop, ha] at hacc
      cases hacc

theorem dispatchOutput_queue {env : OutputResults β} {s t : Service β} {rc : ℤ}
    (h : handleOutput srv env s = .ok (rc, t)) : (dispatchOutput srv env s).queue = t.queue := by
  rw [dispatchOutput_eq h]
  by_cases hrc : rc = -1
  · rw [if_pos hrc, Service.removeHandler_queue]
  · rw [if_neg hrc]

/-- A connection that is gone, or is being served and has `n` messages queued. -/
def HasBacklog (s : Service β) (n : ℕ) : Prop := Gone s ∨ Serving s ∧ s.queue.length = n

/-- **The step lemma.**  An orderly dispatch keeps the count and the queue in step. -/
theorem step_backlog {s s' : Service β} {d : Dispatch β} {n : ℕ} (hs : HasBacklog s n)
    (hd : Orderly s d) (h : step srv s d = some s') : HasBacklog s' (backlogStep n d) := by
  rcases hs with hs | ⟨hs, rfl⟩
  · rw [step_gone hs d] at h
    cases h
  cases d with
  | input env =>
    rw [step_input hs h]
    obtain ⟨hgone, hserving⟩ := dispatchInput_spec srv env hs
    by_cases hrc : (handleInput srv env s).1 = -1
    · exact Or.inl (hgone hrc)
    · obtain ⟨hs', heq⟩ := hserving hrc
      refine Or.inr ⟨hs', ?_⟩
      rw [heq]
      exact (handleInput_effect srv env s).queue_length hd hrc
  | output env =>
    obtain ⟨hw, rfl⟩ := step_output hs h
    obtain ⟨rc, t, hout, heff⟩ := handleOutput_effect srv env s (hs.write.mp hw) hs.noneEmpty
    refine Or.inr ⟨dispatchOutput_serving env hs hw, ?_⟩
    rw [dispatchOutput_queue hout]
    exact heff.queue_length hd

/-- **The run lemma.**  After an orderly script the count is the number of queued messages. -/
theorem run_backlog {ds : List (Dispatch β)} {s : Service β}
    (hord : Along (step srv) Orderly (opened srv) ds)
    (hrun : run (step srv) (opened srv) ds = some s) : HasBacklog s (backlog ds) := by
  have hstart : HasBacklog (opened srv : Service β) 0 := by
    refine Or.inr ⟨opened_serving, ?_⟩
    cases srv <;> rfl
  have hstep : ∀ (s : Service β) (d : Dispatch β) (s' : Service β) (n : ℕ), HasBacklog s n →
      Orderly s d → step srv s d = some s' → HasBacklog s' (backlogStep n d) :=
    fun _ _ _ _ hs hd h => step_backlog hs hd h
  exact run_simulates hstep hstart hord hrun

/-! ### The end of the stream -/

/-- The dispatch that reads the end of the stream destroys the handler and drops its queue. -/
theorem dispatchInput_closed {env : InputResults β} (s : Service β) (hc : env.recv = .closed) :
    dispatchInput srv env s = teardown (s.removeHandler .readMask) := by
  have hin : handleInput srv env s = (-1, s) := handleInput_ended env s (by simp [hc])
  simp only [dispatchInput, hin, if_true, handleClose_read]

/-- **The end of the stream.**  Let an orderly script be followed by the dispatch that reads the end of the
stream.  The handler is destroyed, and its queue is empty at that moment, so that no received byte is thrown
away, if and only if the script has left no backlog. -/
theorem end_of_stream_drops_nothing_iff (srv : Server) (ds : List (Dispatch β)) (s s' : Service β)
    (env : InputResults β) (hord : Along (step srv) Orderly (opened srv) ds)
    (hrun : run (step srv) (opened srv) ds = some s) (heof : env.recv = .closed)
    (h : step srv s (.input env) = some s') :
    s'.live = false ∧ (s.queue = [] ∧ s'.flushed = [] ↔ backlog ds = 0) := by
  rcases run_backlog hord hrun with hs | ⟨hs, hlen⟩
  · rw [step_gone hs (.input env)] at h
    cases h
  have hs' : s' = teardown (s.removeHandler .readMask) := by
    rw [step_input hs h]
    exact dispatchInput_closed s heof
  have hflushed : s'.flushed = s.queue.unread := by
    rw [hs', teardown_flushed]
    show s.flushed ++ s.queue.unread = _
    rw [hs.flushed, List.nil_append]
  refine ⟨by rw [hs', teardown_live], ?_⟩
  rw [hflushed, hs.noneEmpty.unread_eq_nil, and_self, ← List.length_eq_zero_iff, hlen]

/-- The peer has shut down its sending side. -/
def endOfStream : InputResults ℕ := ⟨.closed, .all, true, fun _ => true, true⟩

theorem heldBack_orderly (srv : Server) :
    Along (step srv) Orderly (opened srv) [heldBackInput] :=
  ⟨⟨by decide, Or.inr rfl⟩, fun _ _ => trivial⟩

theorem end_of_stream_drops_backlog :
    Along (step .server3) Orderly (opened .server3) [heldBackInput] ∧
      (run (step .server3) (opened .server3) [heldBackInput, .input endOfStream]).map
        (fun s => (s.live, s.sent, s.flushed)) = some (false, [], [7]) ∧
      Along (step .server4) Orderly (opened .server4) [heldBackInput] ∧
      (run (step .server4) (opened .server4) [heldBackInput, .input endOfStream]).map
        (fun s => (s.live, s.sent, s.flushed)) = some (false, [], [7]) :=
  ⟨heldBack_orderly .server3, by decide, heldBack_orderly .server4, by decide⟩

theorem end_of_stream_drops_nothing_heldBack :
    ∃ s', step .server4 heldBack (.input endOfStream) = some s' ∧
      s'.live = false ∧ (heldBack.queue = [] ∧ s'.flushed = [] ↔ backlog [heldBackInput] = 0) :=
  ⟨_, rfl, end_of_stream_drops_nothing_iff .server4 [heldBackInput] heldBack _ endOfStream
    (heldBack_orderly .server4) rfl rfl rfl⟩

end AceSamples.ClientService
