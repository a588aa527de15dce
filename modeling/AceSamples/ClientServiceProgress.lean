import AceSamples.ClientServiceTally
import Mathlib.Algebra.Order.Group.Nat

/-!
# The drain of a connection makes progress

A handler that stays registered for `WRITE_MASK` with nothing to do would keep the reactor busy.  `handle_output` of
`ClientService` takes bytes from the queue each time, unless the socket takes none of the first message.

* `OutputEffect.progress` — after a `handle_output` there is less in the queue, or nothing has changed;
* `effort` — the WRITE dispatches after which there is less in the queue;
* `write_dispatches_bounded` — over a whole connection there are at most as many of them as bytes received.
-/

set_option autoImplicit false

namespace AceSamples.ClientService

open AceSamples.AceSocket AceSamples.AceMessageQueue AceSamples.ScriptedRun AceSamples.Conservation

variable {β : Type*} {srv : Server}

/-- The number of bytes that wait to be sent. -/
def waiting (s : Service β) : ℕ := s.queue.unread.length

/-- A WRITE dispatch counts when it leaves less in the queue. -/
def effort (srv : Server) (s : Service β) : Dispatch β → ℕ
  | .input _ => 0
  | .output env => if waiting (dispatchOutput srv env s) < waiting s then 1 else 0

/-- The bytes of a queue, by its parts. -/
theorem length_unread_parts (front : MessageQueue β) (m : MessageBlock β) (rest : MessageQueue β) :
    (MessageQueue.unread (front ++ m :: rest)).length
      = front.unread.length + (m.unread.length + rest.unread.length) := by
  rw [MessageQueue.unread_append, MessageQueue.unread_cons, List.length_append, List.length_append]

/-- **Progress of one drain.**  It leaves less in the queue; or the socket has taken nothing of the first message,
which is not the only one, and nothing has changed. -/
theorem OutputEffect.progress {env : OutputResults β} {s s' : Service β} {rc : ℤ} (h : OutputEffect env s rc s')
    (hfull : s.queue.NoneEmpty) : waiting s' < waiting s ∨ rc = 0 ∧ s' = s ∧ 2 ≤ s.queue.length := by
  cases h with
  | drained front last hq _ =>
    refine Or.inl ?_
    have hlast : 0 < last.unread.length := List.length_pos_iff.mpr (hfull last (by rw [hq]; simp))
    show 0 < waiting s
    rw [waiting, hq, length_unread_parts]
    omega
  | putBack front m rest r hq hrest _ hr _ =>
    have hm : 0 < m.unread.length := List.length_pos_iff.mpr (hfull m (by rw [hq]; simp))
    have hrestlen : 0 < rest.length := List.length_pos_iff.mpr hrest
    cases front with
    | cons m₁ front =>
      refine Or.inl ?_
      have hm₁ : 0 < m₁.unread.length := List.length_pos_iff.mpr (hfull m₁ (by rw [hq]; simp))
      show (MessageQueue.unread (m.rdPtr (r.accepted m.length) :: rest)).length < waiting s
      rw [waiting, hq, length_unread_parts, MessageQueue.unread_cons, MessageQueue.unread_cons, List.length_append,
        List.length_append, MessageBlock.rdPtr_unread, List.length_drop]
      omega
    | nil =>
      by_cases hzero : r.accepted m.length = 0
      · refine Or.inr ⟨rfl, ?_, ?_⟩
        · rw [hzero, MessageBlock.rdPtr_zero, List.take_zero, MessageQueue.unread_nil, List.append_nil,
            Service.deliver_nil]
          show s.setQueue ([] ++ m :: rest) = s
          rw [← hq]
          rfl
        · rw [hq]
          show 2 ≤ rest.length + 1
          omega
      · refine Or.inl ?_
        have hlen : m.length = m.unread.length := rfl
        show (MessageQueue.unread (m.rdPtr (r.accepted m.length) :: rest)).length < waiting s
        rw [waiting, hq, length_unread_parts, MessageQueue.unread_cons, List.length_append,
          MessageBlock.rdPtr_unread, List.length_drop, MessageQueue.unread_nil, List.length_nil]
        omega
  | refused front m rest r hq _ _ _ _ =>
    refine Or.inl ?_
    have hm : 0 < m.unread.length := List.length_pos_iff.mpr (hfull m (by rw [hq]; simp))
    show rest.unread.length < waiting s
    rw [waiting, hq, length_unread_parts]
    omega

/-- A WRITE dispatch, with the registration that the reactor takes back. -/
theorem dispatchOutput_progress (env : OutputResults β) {s : Service β} (hs : Serving s)
    (hw : s.mask.write = true) :
    waiting (dispatchOutput srv env s) < waiting s ∨ dispatchOutput srv env s = s ∧ 2 ≤ s.queue.length := by
  obtain ⟨rc, t, hout, heff⟩ := handleOutput_effect srv env s (hs.write.mp hw) hs.noneEmpty
  rw [dispatchOutput_eq hout]
  obtain hless | ⟨hrc, ht, hlen⟩ := heff.progress hs.noneEmpty
  · refine Or.inl ?_
    split
    · exact hless
    · exact hless
  · refine Or.inr ⟨?_, hlen⟩
    rw [if_neg (by omega), ht]

/-- A READ dispatch adds at most what it has received. -/
theorem waiting_dispatchInput (env : InputResults β) {s : Service β} (hs : Serving s) :
    waiting (dispatchInput srv env s) ≤ waiting s + env.recv.bytes.length := by
  obtain ⟨hgone, hserving⟩ := dispatchInput_spec srv env hs
  by_cases hrc : (handleInput srv env s).1 = -1
  · rw [waiting, (hgone hrc).queue]
    exact Nat.zero_le _
  · obtain ⟨appended, lost, hchunk, _, hqueue⟩ := (handleInput_effect srv env s).splits
    have hlen := congrArg List.length hchunk
    rw [List.length_append, List.length_append] at hlen
    rw [(hserving hrc).2, waiting, hqueue, List.length_append, waiting]
    omega

/-- **The step lemma.** -/
theorem step_effort {s s' : Service β} {d : Dispatch β} (hs : Serving s ∨ Gone s) (h : step srv s d = some s') :
    (Serving s' ∨ Gone s') ∧ effort srv s d + waiting s' ≤ waiting s + (receivedBy d).length := by
  refine ⟨step_serving_or_gone d hs h, ?_⟩
  obtain hs | hs := hs
  · cases d with
    | input env =>
      rw [step_input hs h, effort, Nat.zero_add]
      exact waiting_dispatchInput env hs
    | output env =>
      obtain ⟨hw, rfl⟩ := step_output hs h
      show (if waiting (dispatchOutput srv env s) < waiting s then 1 else 0) + _ ≤ waiting s + 0
      obtain hless | ⟨hsame, _⟩ := dispatchOutput_progress env hs hw
      · rw [if_pos hless]
        omega
      · rw [hsame, if_neg (Nat.lt_irrefl _)]
        omega
  · rw [step_gone hs d] at h
    cases h

theorem collected_length (ds : List (Dispatch β)) :
    collected (fun d => (receivedBy d).length) ds = (received ds).length := by
  induction ds with
  | nil => rfl
  | cons d ds ih =>
    rw [collected_cons, ih]
    exact List.length_append.symm

/-- **No busy loop.**  In every run, a WRITE dispatch that is possible leaves less in the queue, or it changes nothing
and the queue has two messages at least.  Those of the first kind are, together with the bytes still queued, at most
as many as bytes have been received. -/
theorem write_dispatches_bounded (srv : Server) (ds : List (Dispatch β)) (s : Service β)
    (hrun : run (step srv) (opened srv) ds = some s) :
    spent (step srv) (effort srv) (opened srv) ds + waiting s ≤ (received ds).length ∧
      ∀ env s', step srv s (.output env) = some s' →
        effort srv s (.output env) = 1 ∨ s' = s ∧ 2 ≤ s.queue.length := by
  constructor
  · have hstep : ∀ (s : Service β) (d : Dispatch β) (s' : Service β), Serving s ∨ Gone s → step srv s d = some s' →
        (Serving s' ∨ Gone s') ∧ effort srv s d + waiting s' ≤ waiting s + (receivedBy d).length :=
      fun _ _ _ hs h => step_effort hs h
    have hbound := run_amortized hstep (Or.inl opened_serving) hrun
    have hstart : waiting (opened srv : Service β) = 0 := by
      cases srv <;> rfl
    rw [hstart, Nat.zero_add, collected_length] at hbound
    exact hbound
  · intro env s' h
    obtain hs | hs := run_serving_or_gone hrun
    · obtain ⟨hw, rfl⟩ := step_output hs h
      obtain hless | hsame := dispatchOutput_progress env hs hw
      · exact Or.inl (if_pos hless)
      · exact Or.inr hsame
    · rw [step_gone hs (.output env)] at h
      cases h

/-- `partlyEchoed` ends with one WRITE dispatch, in which the socket takes one of the three queued bytes. -/
theorem write_dispatches_bounded_partlyEchoed :
    ∃ s, run (step .server4) (opened .server4) partlyEchoed = some s ∧
      spent (step .server4) (effort .server4) (opened .server4) partlyEchoed = 1 ∧ waiting s = 2 ∧
      spent (step .server4) (effort .server4) (opened .server4) partlyEchoed + waiting s
        ≤ (received partlyEchoed).length :=
  ⟨_, rfl, rfl, rfl, (write_dispatches_bounded .server4 partlyEchoed _ rfl).1⟩

end AceSamples.ClientService
