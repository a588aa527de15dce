import AceSamples.Client5Effects

/-!
# Client5-ace loses no wakeup

`handle_output` is called for a pending notification or because the handler is registered for `WRITE_MASK`.
Between two dispatches a handler is `Awake`: every queued message has a notification of its own, and the
registration for `WRITE_MASK` is never left behind by an emptied queue.

* `drain_notified` — a notification that is taken pays for a message that leaves the queue, or for the put-back,
  which queues another one;
* `adjustWakeup_write` — a call of `handle_output` sets the registration from the queue it leaves, whatever the
  loop has done;
* `step_awake`, `run_awake` — every dispatch keeps the handler awake, also one after which `handle_close` is called;
* `no_lost_wakeup` — so there is no lost wakeup in any state of any run.
-/

set_option autoImplicit false

namespace AceSamples.Client5

open AceSamples.AceSocket AceSamples.AceMessageQueue AceSamples.ScriptedRun

variable {super : SvcHandler}

/-- Every queued message will be looked at, and nothing else is waited for. -/
structure Awake (s : Client) : Prop where
  notified : s.queue.length ≤ s.notifications
  backlog : s.mask.write = true → s.queue ≠ []

theorem opened_awake : Awake opened := ⟨Nat.le_refl 0, fun h => nomatch h⟩

/-- With one notification taken, there are still enough of them after the loop of `handle_output`. -/
theorem drain_notified {env : OutputResults} {s t : Client} (h : DrainEffect env s t)
    (hs : s.queue.length ≤ s.notifications + 1) : t.queue.length ≤ t.notifications := by
  cases h with
  | drained _ => exact Nat.zero_le _
  | putBack front m rest r hq _ _ _ =>
    have hlen : s.queue.length = front.length + (rest.length + 1) := by simp [hq]
    show rest.length + 1 ≤ s.notifications + 1
    omega
  | rejected front m rest r hq _ _ _ =>
    have hlen : s.queue.length = front.length + (rest.length + 1) := by simp [hq]
    show rest.length ≤ s.notifications
    omega

/-- A call of `handle_output` takes one notification or none. -/
theorem OutputCall.notified_succ {s s₀ : Client} {d : Dispatch} {env : OutputResults} (h : OutputCall s d env s₀)
    (hs : s.queue.length ≤ s.notifications) : s₀.queue.length ≤ s₀.notifications + 1 := by
  cases h with
  | notified _ hne =>
    show s.queue.length ≤ s.notifications - 1 + 1
    omega
  | writable _ _ => exact Nat.le_succ_of_le hs

/-- After `handle_output` the registration says whether the queue has a message. -/
theorem adjustWakeup_write (s : Client) :
    (adjustWakeup s).mask.write = true ↔ (adjustWakeup s).queue ≠ [] := by
  rw [adjustWakeup_eq]
  cases hq : s.queue with
  | nil => simp [Mask.remove, Mask.writeMask]
  | cons m q => simp [Mask.union, Mask.writeMask]

/-- `handle_close` does not register for `WRITE_MASK`. -/
theorem SvcHandler.leave_write {s : Client} (h : (super.leave s).mask.write = true) : s.mask.write = true := by
  have hmask := super.registersNothing s
  have hwrite : (super.handleClose s).mask.write = true := h
  rw [← hmask]
  show (s.mask.write || (super.handleClose s).mask.write) = true
  rw [hwrite, Bool.or_true]

/-- `handle_close` leaves the handler awake. -/
theorem Awake.leave {s : Client} (hs : Awake s) : Awake (super.leave s) :=
  ⟨hs.notified, fun hwrite => hs.backlog (super.leave_write hwrite)⟩

/-- **The step lemma.** -/
theorem step_awake {s s' : Client} {d : Dispatch} (hwf : WellFormed s) (hs : Awake s)
    (h : step super s d = some s') : Awake s' := by
  cases step_effect hwf.noneEmpty h with
  | writerClosed _ _ => exact ⟨hs.notified, hs.backlog⟩
  | unallocated _ _ _ =>
    have hcancelled : Awake s.tick.cancelTimer := ⟨hs.notified, hs.backlog⟩
    exact hcancelled.leave
  | refused _ _ _ _ => exact ⟨hs.notified, hs.backlog⟩
  | enqueued _ _ _ _ =>
    -- the insertion has queued a notification
    refine ⟨?_, fun _ => ?_⟩
    · show (s.queue ++ [iterationMessage (s.numIterations + 1)]).length ≤ s.notifications + 1
      rw [List.length_append]
      exact Nat.succ_le_succ hs.notified
    · show s.queue ++ [iterationMessage (s.numIterations + 1)] ≠ []
      simp
  | output _ _ _ t hcall ht =>
    have hnotified := drain_notified ht (hcall.notified_succ hs.notified)
    refine ⟨?_, (adjustWakeup_write t).mp⟩
    rw [adjustWakeup_eq]
    exact hnotified
  | idle _ _ => exact hs
  | ended _ _ =>
    have hremoved : Awake (s.endEventLoop.cancelWakeup .readMask) := by
      refine ⟨hs.notified, fun hwrite => hs.backlog ?_⟩
      have hboth : (s.mask.write && !Mask.readMask.write) = true := hwrite
      exact (Bool.and_eq_true _ _ ▸ hboth).1
    exact hremoved.leave

/-- **The run lemma.** -/
theorem run_awake {ds : List Dispatch} {s : Client} (hrun : run (step super) opened ds = some s) : Awake s := by
  have hinv := run_invariant (I := fun s => WellFormed s ∧ Awake s)
    (fun _ _ _ hs h => ⟨step_wellFormed hs.1 h, step_awake hs.1 hs.2 h⟩) ⟨opened_wellFormed, opened_awake⟩ hrun
  exact hinv.2

/-- **No lost wakeup.**  In every state between two dispatches a non-empty queue implies that a notification is
pending or the handler is registered for `WRITE_MASK`; with no notification pending it is registered for
`WRITE_MASK` if and only if the queue is non-empty; and while the queue is empty it is not dispatched for
writability. -/
theorem no_lost_wakeup (super : SvcHandler) (ds : List Dispatch) (s : Client)
    (hrun : run (step super) opened ds = some s) :
    (s.queue ≠ [] → s.notifications ≠ 0 ∨ s.mask.write = true) ∧
      (s.notifications = 0 → (s.mask.write = true ↔ s.queue ≠ [])) ∧
      (s.queue = [] → ∀ env, step super s (.writable env) = none) := by
  have hs := run_awake hrun
  refine ⟨?_, ?_, ?_⟩
  · intro hne
    have hpos := List.length_pos_iff.mpr hne
    have hnotified := hs.notified
    exact Or.inl (by omega)
  · intro hnone
    have hempty : s.queue = [] := List.length_eq_zero_iff.mp (Nat.le_zero.mp (hnone ▸ hs.notified))
    exact ⟨hs.backlog, absurd hempty⟩
  · intro hempty env
    have hw : s.mask.write = false := by
      by_contra hw
      exact hs.backlog (by simpa using hw) hempty
    simp [step, hw]

/-- The first message finds the socket full, the second one cannot be allocated, so that `handle_close` is called,
and the notification for the put-back is taken afterwards. -/
def closedInBetween : List Dispatch :=
  [.timeout ⟨true, fun _ => true⟩, .notified ⟨[.wouldBlock], fun _ => true⟩, .timeout ⟨false, fun _ => true⟩,
    .notified ⟨[.part 3], fun _ => true⟩]

theorem no_lost_wakeup_closedInBetween :
    ∃ s, run (step svcHandler) opened closedInBetween = some s ∧ s.closed = true ∧ s.queue.length = 1 ∧
      s.notifications = 1 ∧
      (s.queue ≠ [] → s.notifications ≠ 0 ∨ s.mask.write = true) ∧
      (s.notifications = 0 → (s.mask.write = true ↔ s.queue ≠ [])) ∧
      (s.queue = [] → ∀ env, step svcHandler s (.writable env) = none) :=
  ⟨_, rfl, rfl, rfl, rfl, no_lost_wakeup svcHandler closedInBetween _ rfl⟩

end AceSamples.Client5
