import AceSamples.ClientServiceRegistration

/-!
# In which order a connection is echoed

`handle_input` offers a new chunk to the socket without looking at the queue.  While earlier bytes are still
queued, whatever the socket takes of the new chunk overtakes them (`echo_overtaken`, for both servers).

The overtaking is the only way to lose the order.  Where no direct send takes a byte while the queue is
non-empty (`NoOvertaking`), each dispatch keeps "what has been sent, followed by what is queued" a subsequence
of "what was sent, followed by what was queued, followed by what has been received" (`step_sublist`), although
messages may be dropped, refused or thrown away; so the bytes sent by a whole run are a subsequence of the
bytes received (`run_sublist`), and their positions in the received stream increase (`echo_in_order`).
-/

set_option autoImplicit false

namespace AceSamples.ClientService

open AceSamples.AceSocket AceSamples.AceMessageQueue AceSamples.ScriptedRun

variable {β : Type*} {srv : Server}

/-- The bytes that a dispatch reads from the connection. -/
def receivedBy : Dispatch β → List β
  | .input env => env.recv.bytes
  | .output _ => []

/-- The received stream of a script of dispatches. -/
def received (ds : List (Dispatch β)) : List β := ds.flatMap receivedBy

/-- Every received byte is tagged with its position in the received stream. -/
def Tagged (pos : β → ℕ) (ds : List (Dispatch β)) : Prop :=
  (received ds).map pos = List.range (received ds).length

instance (pos : β → ℕ) (ds : List (Dispatch β)) : Decidable (Tagged pos ds) :=
  inferInstanceAs (Decidable (_ = _))

/-- The direct send of a received chunk takes nothing while earlier bytes are queued. -/
def NoOvertaking (s : Service β) : Dispatch β → Prop
  | .input env => s.queue = [] ∨ env.send.accepted env.recv.bytes.length = 0
  | .output _ => True

/-- What has been sent, followed by what waits to be sent. -/
def outgoing (s : Service β) : List β := s.sent ++ s.queue.unread

theorem outgoing_teardown_sublist (s : Service β) : (outgoing (teardown s)).Sublist (outgoing s) := by
  simp [outgoing]

/-! ### One dispatch -/

/-- The part of the chunk that the socket takes, followed by the part that is queued, is the chunk. -/
theorem take_append_leftover (r : SendResult) (c : Chunk β inputSize) :
    c.bytes.take (r.accepted c.bytes.length) ++ (leftover r c).unread = c.bytes :=
  List.take_append_drop _ _

theorem InputEffect.outgoing_sublist {env : InputResults β} {s s' : Service β} {rc : ℤ}
    (h : InputEffect env s rc s') (hno : NoOvertaking s (.input env)) :
    (outgoing s').Sublist (outgoing s ++ env.recv.bytes) := by
  -- with nothing queued, or nothing taken, the new bytes stand behind the queued ones
  have hdirect : (outgoing (s.transmit env.send env.recv.bytes)).Sublist
      (outgoing s ++ env.recv.bytes) := by
    unfold outgoing
    rw [Service.transmit_sent, Service.transmit_queue]
    rcases hno with hq | h0
    · rw [hq, MessageQueue.unread_nil, List.append_nil, List.append_nil]
      exact (List.take_sublist _ _).append_left _
    · rw [h0, List.take_zero, List.append_nil]
      exact List.sublist_append_left _ _
  have hbytes : ∀ c, env.recv = .data c → env.recv.bytes = c.bytes := by
    intro c hc
    rw [hc]
    rfl
  cases h with
  | ended _ => exact List.sublist_append_left _ _
  | whole c hc _ =>
    rw [← hbytes c hc]
    exact hdirect
  | sendFailed c _ _ => exact List.sublist_append_left _ _
  | unallocated c hc _ _ _ =>
    rw [← hbytes c hc]
    exact hdirect
  | rejected c hc _ _ _ _ =>
    rw [← hbytes c hc]
    exact hdirect
  | queuedBehind c hc _ _ _ _ hq =>
    have h0 : env.send.accepted c.bytes.length = 0 := by
      rw [← hbytes c hc]
      exact hno.resolve_left hq
    have heq : outgoing ((s.transmit env.send c.bytes).setQueue (s.queue ++ [leftover env.send c]))
        = outgoing s ++ c.bytes := by
      simp [outgoing, leftover, h0]
    rw [hbytes c hc, heq]
  | queuedFirst c hc _ _ _ _ hq =>
    have heq : outgoing (((s.transmit env.send c.bytes).setQueue
        [leftover env.send c]).registerHandler env.registered .writeMask).2 = outgoing s ++ c.bytes := by
      have hsplit := take_append_leftover env.send c
      cases env.registered <;>
        simp [outgoing, Service.registerHandler, hq, hsplit]
    rw [hbytes c hc, heq]

/-- Sending messages and putting one back moves bytes from the queue to the socket; dropping a message
removes bytes. -/
theorem OutputEffect.outgoing_sublist {env : OutputResults β} {s s' : Service β} {rc : ℤ}
    (h : OutputEffect env s rc s') : (outgoing s').Sublist (outgoing s) := by
  cases h with
  | drained front last hq _ =>
    have heq : outgoing s = s.sent ++ front.unread ++ last.unread := by
      simp [outgoing, hq]
    rw [heq]
    show (s.sent ++ front.unread ++ []).Sublist _
    exact (List.nil_sublist _).append_left _
  | putBack front m rest r hq _ _ _ _ =>
    have heq : outgoing s = s.sent ++ (front.unread ++ m.unread.take (r.accepted m.length))
        ++ MessageQueue.unread (m.rdPtr (r.accepted m.length) :: rest) := by
      rw [outgoing, hq, MessageQueue.unread_split _ _ _ (r.accepted m.length)]
      simp only [List.append_assoc]
    rw [heq]
    exact List.Sublist.refl _
  | refused front m rest r hq _ _ _ _ =>
    have heq : outgoing s = s.sent ++ (front.unread ++ m.unread.take (r.accepted m.length))
        ++ ((m.rdPtr (r.accepted m.length)).unread ++ rest.unread) := by
      rw [outgoing, hq, MessageQueue.unread_split _ _ _ (r.accepted m.length)]
      simp only [List.append_assoc, MessageQueue.unread_cons]
    rw [heq]
    exact (List.sublist_append_right _ _).append_left _

/-- **The step lemma.**  Without overtaking, a dispatch keeps the outgoing bytes a subsequence of the ones
that were outgoing before, followed by the ones it has received. -/
theorem step_sublist {s s' : Service β} {d : Dispatch β} (hs : Serving s) (hno : NoOvertaking s d)
    (h : step srv s d = some s') : (outgoing s').Sublist (outgoing s ++ receivedBy d) := by
  cases d with
  | input env =>
    rw [step_input hs h]
    have heff := (handleInput_effect srv env s).outgoing_sublist hno
    unfold dispatchInput
    split
    rename_i rc t hout
    rw [hout] at heff
    split
    · rw [handleClose_read]
      exact (outgoing_teardown_sublist _).trans heff
    · exact heff
  | output env =>
    obtain ⟨hw, rfl⟩ := step_output hs h
    obtain ⟨rc, t, hout, heff⟩ :=
      handleOutput_effect srv env s (hs.write.mp hw) hs.noneEmpty
    have ht : outgoing (dispatchOutput srv env s) = outgoing t := by
      rw [dispatchOutput_eq hout]
      by_cases hrc : rc = -1
      · rw [if_pos hrc]
        rfl
      · rw [if_neg hrc]
    rw [ht]
    exact heff.outgoing_sublist.trans (List.sublist_append_left _ _)

/-! ### Whole runs -/

theorem received_snoc (ds : List (Dispatch β)) (d : Dispatch β) :
    received (ds ++ [d]) = received ds ++ receivedBy d := by simp [received]

/-- **The run lemma.**  Without overtaking, everything sent or still queued is a subsequence of what has been
received. -/
theorem run_sublist {ds : List (Dispatch β)} {s : Service β}
    (hno : Along (step srv) NoOvertaking (opened srv) ds)
    (hrun : run (step srv) (opened srv) ds = some s) : (outgoing s).Sublist (received ds) := by
  have hinv := run_history_along
    (I := fun ds s => (Serving s ∨ Gone s) ∧ (outgoing s).Sublist (received ds)) ?start ?step hno hrun
  case start =>
    refine ⟨Or.inl opened_serving, ?_⟩
    cases srv <;> exact List.Sublist.refl _
  case step =>
    rintro ds s d s' ⟨hs, hsub⟩ hd h
    refine ⟨step_serving_or_gone d hs h, ?_⟩
    rcases hs with hs | hs
    · rw [received_snoc]
      exact (step_sublist hs hd h).trans (hsub.append_right _)
    · rw [step_gone hs d] at h
      cases h
  exact hinv.2

/-- **Echo order.**  In every run in which no direct send takes a byte of a chunk while earlier bytes are
queued, the positions of the bytes sent so far are strictly increasing. -/
theorem echo_in_order (srv : Server) (pos : β → ℕ) (ds : List (Dispatch β)) (s : Service β)
    (htag : Tagged pos ds) (hrun : run (step srv) (opened srv) ds = some s)
    (hno : Along (step srv) NoOvertaking (opened srv) ds) :
    (s.sent.map pos).Pairwise (· < ·) := by
  have hsub : s.sent.Sublist (received ds) :=
    (List.sublist_append_left _ _).trans (run_sublist hno hrun)
  have hpos := hsub.map pos
  rw [htag] at hpos
  exact List.pairwise_lt_range.sublist hpos

/-! ### The overtaking -/

/-- A chunk with the results of sending it; nothing else fails. -/
def arrival (c : Chunk β inputSize) (r : SendResult) : Dispatch β :=
  .input ⟨.data c, r, true, fun _ => true, true⟩

/-- Bytes that are their own positions: `0 1` find the socket full, `2` arrives when it has room again, `3`
finds it full, and the queue is drained. -/
def overtaking : List (Dispatch ℕ) :=
  [arrival ⟨[0, 1], by decide, by decide⟩ .wouldBlock, arrival ⟨[2], by decide, by decide⟩ .all,
    arrival ⟨[3], by decide, by decide⟩ .wouldBlock, .output ⟨[.all], fun _ => true⟩]

theorem echo_overtaken :
    Tagged id overtaking ∧
      (run (step .server3) (opened .server3) overtaking).map (·.sent) = some [2, 0, 1] ∧
      (run (step .server4) (opened .server4) overtaking).map (·.sent) = some [2, 0, 1] ∧
      ¬([2, 0, 1].map id).Pairwise (· < ·) := by
  decide

/-- No overtaking on either path: `0` is sent directly, `1`, `2` and `3` are queued, `handle_output` sends `1` and `2`
and drops the last message, and `4` and `5` are sent directly again. -/
def queueing : List (Dispatch ℕ) :=
  [arrival ⟨[0, 1], by decide, by decide⟩ (.part 1), arrival ⟨[2], by decide, by decide⟩ .wouldBlock,
    arrival ⟨[3], by decide, by decide⟩ .wouldBlock, .output ⟨[.all, .all], fun _ => true⟩,
    arrival ⟨[4, 5], by decide, by decide⟩ .all]

theorem echo_in_order_queueing :
    ∃ s, run (step .server3) (opened .server3) queueing = some s ∧ s.sent = [0, 1, 2, 4, 5] ∧
      (s.sent.map id).Pairwise (· < ·) := by
  have hno : Along (step .server3) NoOvertaking (opened .server3) queueing := by
    refine ⟨Or.inl rfl, fun s₁ h₁ => ⟨Or.inr rfl, fun s₂ h₂ => ⟨Or.inr rfl, fun s₃ h₃ => ⟨trivial, fun s₄ h₄ => ?_⟩⟩⟩⟩
    cases h₁
    cases h₂
    cases h₃
    cases h₄
    exact ⟨Or.inl rfl, fun _ _ => trivial⟩
  exact ⟨_, rfl, rfl, echo_in_order .server3 id queueing _ (by decide) rfl hno⟩

end AceSamples.ClientService
