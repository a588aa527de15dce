import AceSamples.Client5
import AceSamples.ScriptedRun
import Mathlib.Tactic.Basic

/-!
# What a dispatch does to Client5-ace

* `handleOutput_effect` — **the drain loop ends**, in one of the outcomes of `DrainEffect`: everything is
  sent, or the first message that is not taken whole is put back, or the queue refuses the put-back;
* `step_effect` — a dispatch has one of the effects of `StepEffect`, from which the invariants are read off;
* `run_wellFormed` — every queued block has `128` bytes allocated and something left to send.
-/

set_option autoImplicit false

namespace AceSamples.Client5

open AceSamples.AceSocket AceSamples.AceMessageQueue AceSamples.WhileLoop AceSamples.ScriptedRun

variable {super : SvcHandler}

/-! ### Combining updates -/

namespace Client

variable (s : Client)

theorem setQueue_self : s.setQueue s.queue = s := rfl

theorem deliver_nil : s.deliver [] = s := by simp [deliver]

theorem deliver_deliver (bs bs' : List Char) : (s.deliver bs).deliver bs' = s.deliver (bs ++ bs') := by
  simp [deliver]

theorem setQueue_deliver (bs : List Char) (q : MessageQueue Char) :
    (s.setQueue q).deliver bs = (s.deliver bs).setQueue q := rfl

theorem setQueue_setQueue (q q' : MessageQueue Char) : (s.setQueue q).setQueue q' = s.setQueue q' := rfl

theorem transmit_all (bs : List Char) : s.transmit .all bs = s.deliver bs := by
  simp [transmit]

end Client

/-! ### The loop of `handle_output` -/

/-- The outcomes of the loop: `front` are the messages whose sends were whole. -/
inductive DrainEffect (env : OutputResults) (s : Client) : Client → Prop
  | drained (hs : s.queue.length ≤ wholeSends env.sends) :
      DrainEffect env s ((s.deliver s.queue.unread).setQueue [])
  | putBack (front : MessageQueue Char) (m : MessageBlock Char) (rest : MessageQueue Char) (r : SendResult)
      (hq : s.queue = front ++ m :: rest) (hs : wholeSends env.sends = front.length) (hr : r ≠ .all)
      (ha : env.accepts rest.totalSize = true) :
      DrainEffect env s ((s.deliver (front.unread ++ m.unread.take (r.accepted m.length))).insert
        (m.rdPtr (r.accepted m.length) :: rest))
  | rejected (front : MessageQueue Char) (m : MessageBlock Char) (rest : MessageQueue Char) (r : SendResult)
      (hq : s.queue = front ++ m :: rest) (hs : wholeSends env.sends = front.length) (hr : r ≠ .all)
      (ha : env.accepts rest.totalSize = false) :
      DrainEffect env s
        ((s.deliver (front.unread ++ m.unread.take (r.accepted m.length))).setQueue rest).countRejected

theorem outputPass_nil (accepts : ℕ → Bool) (s : Client) (sends : List SendResult) (hq : s.queue = []) :
    outputPass accepts (s, sends) = .leave s := by
  have hs : s.setQueue [] = s := by
    rw [← hq]
    rfl
  simp [outputPass, hq, MessageQueue.getq, MessageQueue.dequeueHead, hs]

/-- A trip with a message: send it, and go round again or put it back. -/
theorem outputPass_cons (accepts : ℕ → Bool) (s : Client) (sends : List SendResult)
    {m : MessageBlock Char} {rest : MessageQueue Char} (hq : s.queue = m :: rest) :
    outputPass accepts (s, sends) =
      let r := sends.headD .wouldBlock
      let s' := (s.setQueue rest).transmit r m.unread
      let m' := m.rdPtr (r.accepted m.length)
      if m'.length > 0 then
        .leave (if accepts rest.totalSize then s'.insert (m' :: rest) else s'.countRejected)
      else .again (s', sends.tail) := by
  have hrc : ((rest.length : ℕ) : ℤ) ≠ -1 := by omega
  have htotal : ∀ r bs, ((s.setQueue rest).transmit r bs).queue = rest := fun _ _ => rfl
  simp only [outputPass, hq, MessageQueue.getq, MessageQueue.dequeueHead, if_neg hrc, sendMessage_eq,
    htotal]
  cases ha : accepts rest.totalSize with
  | false => rfl
  | true =>
    have hne : ((rest.length : ℤ) + 1) ≠ -1 := by omega
    simp only [MessageQueue.ungetq, MessageQueue.enqueueHead, if_true, if_neg hne]

/-- The state of the loop after the messages `front` have been sent whole. -/
def DrainedSoFar (env : OutputResults) (s : Client) (t : Client × List SendResult) : Prop :=
  ∃ front rest : MessageQueue Char, s.queue = front ++ rest ∧
    t.1 = (s.deliver front.unread).setQueue rest ∧
    env.sends = List.replicate front.length .all ++ t.2

/-- **Inversion of `handle_output`.**  The loop ends, in one of the outcomes of `DrainEffect`. -/
theorem handleOutput_effect (env : OutputResults) (s : Client) (hfull : s.queue.NoneEmpty) :
    ∃ t, handleOutput env s = (0, adjustWakeup t) ∧ DrainEffect env s t := by
  have hstart : DrainedSoFar env s (s, env.sends) := by
    refine ⟨[], s.queue, rfl, ?_, rfl⟩
    show s = (s.deliver []).setQueue s.queue
    rw [Client.deliver_nil, Client.setQueue_self]
  -- the loop: `DrainedSoFar` is its invariant, the length of the queue its measure
  have hloop := iterate_ends (outputPass env.accepts) (I := DrainedSoFar env s) (Q := DrainEffect env s)
    (fun t => t.1.queue.length) ?again ?leave (n := s.queue.length + 1) (s := (s, env.sends))
    hstart (Nat.lt_succ_self _)
  case again =>
    rintro ⟨t, sends⟩ t' ⟨front, rest, hq, ht, hs⟩ hpass
    simp only at ht hs
    have htq : t.queue = rest := by rw [ht]; rfl
    cases rest with
    | nil =>
      rw [outputPass_nil _ _ _ htq] at hpass
      cases hpass
    | cons m rest =>
      have hm : 0 < m.length := List.length_pos_iff.mpr (hfull m (by rw [hq]; simp))
      rw [outputPass_cons _ _ _ htq] at hpass
      simp only [MessageBlock.length_rdPtr] at hpass
      split at hpass
      · cases hpass
      · rename_i hlen
        -- nothing of the message is left, so its send was whole
        have hall := SendResult.eq_all_of_none_left hm hlen
        rw [hall, Client.transmit_all] at hpass
        cases hpass
        refine ⟨⟨front ++ [m], rest, by simp [hq], ?_, ?_⟩, ?_⟩
        · rw [ht, Client.setQueue_setQueue, Client.setQueue_deliver, Client.deliver_deliver]
          simp
        · rw [List.length_append]
          exact replicate_all_snoc hs hall
        · show rest.length < t.queue.length
          rw [htq]
          exact Nat.lt_succ_self _
  case leave =>
    rintro ⟨t, sends⟩ r ⟨front, rest, hq, ht, hs⟩ hpass
    simp only at ht hs
    have htq : t.queue = rest := by rw [ht]; rfl
    have hwhole : wholeSends env.sends = front.length + wholeSends sends := by
      rw [hs, wholeSends_replicate]
    cases rest with
    | nil =>
      rw [outputPass_nil _ _ _ htq] at hpass
      cases hpass
      rw [List.append_nil] at hq
      rw [ht, ← hq]
      exact .drained (by rw [hq]; omega)
    | cons m rest =>
      rw [outputPass_cons _ _ _ htq] at hpass
      simp only [MessageBlock.length_rdPtr] at hpass
      split at hpass
      · rename_i hlen
        have hall := SendResult.ne_all_of_left hlen
        have hzero := wholeSends_headD hall
        cases hpass
        rw [ht, Client.setQueue_setQueue, Client.transmit, Client.setQueue_deliver,
          Client.deliver_deliver]
        cases ha : env.accepts (MessageQueue.totalSize rest) with
        | true => exact .putBack front m rest _ hq (by omega) hall ha
        | false => exact .rejected front m rest _ hq (by omega) hall ha
      · cases hpass
  obtain ⟨t, ht, heff⟩ := hloop
  refine ⟨t, ?_, heff⟩
  unfold handleOutput
  rw [ht]

/-! ### A dispatch -/

/-- The handler after `handle_close`: closed, with the registrations and the timer as they have been left. -/
def SvcHandler.leave (super : SvcHandler) (s : Client) : Client :=
  { s with mask := (super.handleClose s).mask, timer := (super.handleClose s).timer, closed := true }

theorem SvcHandler.close_eq (super : SvcHandler) (s : Client) : (super.handleClose s).close = super.leave s := by
  rw [Client.close, super.frame s]
  rfl

/-- A dispatch of `handle_output`, with the state in which it is called. -/
inductive OutputCall (s : Client) : Dispatch → OutputResults → Client → Prop
  | notified (env : OutputResults) (h : s.notifications ≠ 0) :
      OutputCall s (.notified env) env s.takeNotification
  | writable (env : OutputResults) (h : s.mask.write = true) : OutputCall s (.writable env) env s

/-- `recv` has met the end of the stream, or an error other than that there is nothing to receive. -/
def InputResults.Ends (env : InputResults) : Prop :=
  env.recv.returned ≤ 0 ∧ (env.recv.returned = 0 ∨ env.lastError ≠ .ewouldblock)

/-- The effects of a dispatch. -/
inductive StepEffect (super : SvcHandler) (s : Client) : Dispatch → Client → Prop
  | writerClosed (env : TimeoutResults) (hi : s.numIterations + 1 ≥ maxIterations) :
      StepEffect super s (.timeout env) s.tick.closeWriter
  | unallocated (env : TimeoutResults) (hi : ¬s.numIterations + 1 ≥ maxIterations)
      (ha : env.allocated = false) : StepEffect super s (.timeout env) (super.leave s.tick.cancelTimer)
  | refused (env : TimeoutResults) (hi : ¬s.numIterations + 1 ≥ maxIterations)
      (ha : env.allocated = true) (hr : env.accepts s.queue.totalSize = false) :
      StepEffect super s (.timeout env) (s.tick.build (iterationText (s.numIterations + 1))).countRejected
  | enqueued (env : TimeoutResults) (hi : ¬s.numIterations + 1 ≥ maxIterations)
      (ha : env.allocated = true) (hr : env.accepts s.queue.totalSize = true) :
      StepEffect super s (.timeout env)
        (((s.tick.build (iterationText (s.numIterations + 1))).insert
          (s.queue ++ [iterationMessage (s.numIterations + 1)])).countEnqueued
            (iterationText (s.numIterations + 1)))
  | output (d : Dispatch) (env : OutputResults) (s₀ t : Client) (hcall : OutputCall s d env s₀)
      (ht : DrainEffect env s₀ t) : StepEffect super s d (adjustWakeup t)
  | idle (env : InputResults) (hends : ¬env.Ends) : StepEffect super s (.readable env) s
  | ended (env : InputResults) (hends : env.Ends) :
      StepEffect super s (.readable env) (super.leave (s.endEventLoop.cancelWakeup .readMask))

theorem timeout_effect (super : SvcHandler) (env : TimeoutResults) (s : Client) :
    StepEffect super s (.timeout env) (closeOnError super .cancelTimer (handleTimeout env s)) := by
  have htick : s.tick.numIterations = s.numIterations + 1 := rfl
  unfold handleTimeout
  simp only [htick]
  by_cases hi : s.numIterations + 1 ≥ maxIterations
  · rw [if_pos hi]
    exact .writerClosed env hi
  rw [if_neg hi]
  cases ha : env.allocated with
  | false =>
    show StepEffect super s (.timeout env) (super.handleClose s.tick.cancelTimer).close
    rw [super.close_eq]
    exact .unallocated env hi ha
  | true =>
    rw [if_neg (by decide)]
    have hq : (s.tick.build (iterationMessage (s.numIterations + 1)).unread).queue = s.queue := rfl
    simp only [hq]
    cases hr : env.accepts s.queue.totalSize with
    | false => exact .refused env hi ha hr
    | true =>
      obtain ⟨hrc, hqueue⟩ :=
        MessageQueue.enqueueTail_accepted s.queue (iterationMessage (s.numIterations + 1))
      simp only [MessageQueue.putq, if_neg hrc, hqueue]
      exact .enqueued env hi ha hr

theorem readable_effect (super : SvcHandler) (env : InputResults) (s : Client) :
    StepEffect super s (.readable env) (closeOnError super (.cancelWakeup .readMask) (handleInput env s)) := by
  unfold handleInput
  by_cases hpos : env.recv.returned > 0
  · simp only [if_pos hpos]
    exact .idle env fun hends => absurd hends.1 (by omega)
  by_cases hend : env.recv.returned = 0 ∨ env.lastError ≠ .ewouldblock
  · simp only [if_neg hpos, if_pos hend]
    show StepEffect super s (.readable env) (super.handleClose (s.endEventLoop.cancelWakeup .readMask)).close
    rw [super.close_eq]
    exact .ended env ⟨Int.not_lt.mp hpos, hend⟩
  · simp only [if_neg hpos, if_neg hend]
    exact .idle env fun hends => hend hends.2

/-- **Inversion of a dispatch.** -/
theorem step_effect {s s' : Client} {d : Dispatch} (hfull : s.queue.NoneEmpty)
    (h : step super s d = some s') : StepEffect super s d s' := by
  cases d with
  | timeout env =>
    simp only [step] at h
    split at h
    · cases h
    · exact Option.some.inj h ▸ timeout_effect super env s
  | notified env =>
    simp only [step] at h
    split at h
    · cases h
    · rename_i hen
      have hne : s.notifications ≠ 0 := by
        intro h0
        simp [h0] at hen
      obtain ⟨t, ht, heff⟩ := handleOutput_effect env s.takeNotification hfull
      rw [ht] at h
      exact Option.some.inj h ▸ .output _ env _ t (.notified env hne) heff
  | writable env =>
    simp only [step] at h
    split at h
    · cases h
    · rename_i hen
      have hw : s.mask.write = true := by
        by_contra hw
        simp [hw] at hen
      obtain ⟨t, ht, heff⟩ := handleOutput_effect env s hfull
      rw [ht] at h
      exact Option.some.inj h ▸ .output _ env _ t (.writable env hw) heff
  | readable env =>
    simp only [step] at h
    split at h
    · cases h
    · exact Option.some.inj h ▸ readable_effect super env s

/-! ### The queue -/

/-- The updates of `handle_output` after its loop concern the mask only. -/
theorem adjustWakeup_eq (s : Client) :
    adjustWakeup s = { s with mask :=
      if s.queue.isEmpty then s.mask.remove .writeMask else s.mask.union .writeMask } := by
  unfold adjustWakeup
  split <;> rfl

/-- A block that `handle_timeout` has built and whose text has not been sent whole. -/
structure Pending (m : MessageBlock Char) : Prop where
  size : m.size = blockSize
  unread : m.unread ≠ []

theorem pending_iterationMessage (n : Int32) : Pending (iterationMessage n) :=
  ⟨rfl, iterationText_ne_nil n⟩

theorem Pending.rdPtr {m : MessageBlock Char} (hm : Pending m) {r : SendResult} (hr : r ≠ .all) :
    Pending (m.rdPtr (r.accepted m.length)) :=
  ⟨hm.size, rdPtr_accepted_ne_nil hr hm.unread⟩

/-- Nothing undefined has happened, and every queued block is pending. -/
structure WellFormed (s : Client) : Prop where
  misused : s.misused = false
  pending : ∀ m ∈ s.queue, Pending m

theorem WellFormed.noneEmpty {s : Client} (h : WellFormed s) : s.queue.NoneEmpty :=
  fun m hm => (h.pending m hm).unread

theorem totalSize_of_pending {q : MessageQueue Char} (h : ∀ m ∈ q, Pending m) :
    q.totalSize = blockSize * q.length := by
  induction q with
  | nil => rfl
  | cons m q ih =>
    have hm := (h m List.mem_cons_self).size
    have hq := ih fun m' hm' => h m' (List.mem_cons_of_mem m hm')
    rw [MessageQueue.totalSize_cons, hm, hq, List.length_cons, Nat.mul_succ, Nat.add_comm]

theorem DrainEffect.wellFormed {env : OutputResults} {s t : Client} (h : DrainEffect env s t)
    (hs : WellFormed s) : WellFormed t := by
  cases h with
  | drained _ => exact ⟨hs.misused, fun m hm => absurd hm List.not_mem_nil⟩
  | putBack front m rest r hq _ hr _ =>
    refine ⟨hs.misused, ?_⟩
    intro m' hm'
    rcases List.mem_cons.mp hm' with rfl | hm'
    · exact (hs.pending m (by rw [hq]; simp)).rdPtr hr
    · exact hs.pending m' (by rw [hq]; simp [hm'])
  | rejected front m rest r hq _ _ _ =>
    refine ⟨hs.misused, ?_⟩
    intro m' hm'
    have hrest : m' ∈ rest := hm'
    exact hs.pending m' (by rw [hq]; simp [hrest])

theorem OutputCall.wellFormed {s s₀ : Client} {d : Dispatch} {env : OutputResults}
    (h : OutputCall s d env s₀) (hs : WellFormed s) : WellFormed s₀ := by
  cases h with
  | notified _ _ => exact ⟨hs.misused, hs.pending⟩
  | writable _ _ => exact hs

theorem step_wellFormed {s s' : Client} {d : Dispatch} (hs : WellFormed s) (h : step super s d = some s') :
    WellFormed s' := by
  cases step_effect hs.noneEmpty h with
  | writerClosed _ _ => exact ⟨hs.misused, hs.pending⟩
  | unallocated _ _ _ => exact ⟨hs.misused, hs.pending⟩
  | refused _ _ _ _ => exact ⟨hs.misused, hs.pending⟩
  | enqueued _ _ _ _ =>
    refine ⟨hs.misused, ?_⟩
    intro m hm
    rcases List.mem_append.mp hm with hm | hm
    · exact hs.pending m hm
    · rw [List.mem_singleton.mp hm]
      exact pending_iterationMessage _
  | output _ _ _ t hcall ht =>
    have ht' := ht.wellFormed (hcall.wellFormed hs)
    rw [adjustWakeup_eq]
    exact ⟨ht'.misused, ht'.pending⟩
  | idle _ _ => exact hs
  | ended _ _ => exact ⟨hs.misused, hs.pending⟩

theorem opened_wellFormed : WellFormed opened := ⟨rfl, fun _ hm => absurd hm List.not_mem_nil⟩

/-- **The run lemma for the queue.** -/
theorem run_wellFormed {ds : List Dispatch} {s : Client} (hrun : run (step super) opened ds = some s) :
    WellFormed s :=
  run_invariant (I := WellFormed) (fun _ _ _ hs h => step_wellFormed hs h) opened_wellFormed hrun

/-! ### The outgoing bytes -/

/-- What has been sent, followed by what waits to be sent. -/
def outgoing (s : Client) : List Char := s.sent ++ s.queue.unread

/-- A message that `putq` accepts is added at the end. -/
theorem outgoing_enqueued (s : Client) (n : Int32) :
    outgoing (((s.tick.build (iterationText n)).insert
      (s.queue ++ [iterationMessage n])).countEnqueued (iterationText n))
      = outgoing s ++ iterationText n := by
  show s.sent ++ MessageQueue.unread (s.queue ++ [iterationMessage n]) = _
  rw [MessageQueue.unread_append, ← List.append_assoc]
  simp [outgoing, iterationMessage]

/-- The outgoing bytes, cut inside the message whose send was not whole. -/
theorem outgoing_split {s : Client} {front rest : MessageQueue Char} {m : MessageBlock Char}
    (hq : s.queue = front ++ m :: rest) (k : ℕ) :
    outgoing s = s.sent ++ (front.unread ++ m.unread.take k)
      ++ MessageQueue.unread (m.rdPtr k :: rest) := by
  rw [outgoing, hq, MessageQueue.unread_split _ _ _ k]
  simp only [List.append_assoc]

/-- The loop of `handle_output` moves bytes from the queue to the socket, as long as no put-back is rejected. -/
theorem DrainEffect.outgoing_eq {env : OutputResults} {s t : Client} (h : DrainEffect env s t)
    (hr : t.rejected = s.rejected) : outgoing t = outgoing s := by
  cases h with
  | drained _ =>
    show s.sent ++ s.queue.unread ++ [] = s.sent ++ s.queue.unread
    exact List.append_nil _
  | putBack front m rest r hq _ _ _ =>
    rw [outgoing_split hq]
    rfl
  | rejected front m rest r _ _ _ _ => exact absurd hr (Nat.succ_ne_self _)

/-- A rejected put-back loses bytes. -/
theorem DrainEffect.outgoing_lt {env : OutputResults} {s t : Client} (h : DrainEffect env s t)
    (hfull : s.queue.NoneEmpty) (hr : t.rejected = s.rejected + 1) :
    (outgoing t).length < (outgoing s).length := by
  cases h with
  | drained _ => exact absurd hr.symm (Nat.succ_ne_self _)
  | putBack front m rest r _ _ _ _ => exact absurd hr.symm (Nat.succ_ne_self _)
  | rejected front m rest r hq _ hshort _ =>
    have hm : m.unread ≠ [] := hfull m (by rw [hq]; simp)
    have hlt := SendResult.accepted_lt hshort (List.length_pos_iff.mpr hm)
    rw [outgoing_split hq (r.accepted m.length)]
    show (s.sent ++ (front.unread ++ m.unread.take (r.accepted m.length))
      ++ MessageQueue.unread rest).length < _
    simp only [List.length_append, MessageQueue.unread_cons, MessageBlock.rdPtr_unread,
      List.length_drop, MessageBlock.length]
    omega

end AceSamples.Client5
