import AceSamples.ClientAcceptorLifecycle

/-!
# The program Server3-ace around its event loop

`main` opens a local `ClientAcceptor`, runs the event loop, and destroys the acceptor when it returns, by whatever
way; the destructor calls `handle_close`, so that no registration and no listening handle is left behind.  The event
`endLoop` is the end of the loop for whatever reason: an error of the reactor, or a call of `end_reactor_event_loop`,
as `LoopStopper::handle_signal` makes it for any signal that it is registered for.  No program of the samples creates
a `LoopStopper`.

* `main`, `handleSignal` — the program, and the signal handler of a program that has a `LoopStopper`;
* `Held`, `ClosedOnce` — the acceptor while it has its handle and after it has lost it;
* `closed_once` — `handle_close` has an effect once: the handle is closed exactly once on every way out of `main`,
  also when it was lost to a failed `accept` before.
-/

set_option autoImplicit false

namespace AceSamples.ClientAcceptor

open AceSamples.AceSocket AceSamples.ScriptedRun

variable {β : Type*}

/-! ### The program -/

/-- `LoopStopper::handle_signal`, with the event that it brings about in a server that has registered it. -/
def handleSignal : ℤ × Event β := (0, .endLoop)

/-- `ACE_TMAIN`: whether `m_acceptor.open` and `register_handler` succeed in `ClientAcceptor::open`, and the events of
the loop.  The result is the returned value with the state that is left; `none` when the loop has not ended. -/
def main (bound registered : Bool) (es : List (Event β)) : Option (ℤ × System β) :=
  let (hr, acceptor) := openAcceptor bound registered .fresh
  if hr = -1 then some (1, ⟨handleClose acceptor, [], false⟩)
  else
    match run step ⟨acceptor, [], true⟩ es with
    | none => none
    | some sys => if sys.running then none else some (0, sys)

/-! ### The listening handle -/

/-- The acceptor has its handle, and nothing but its registration for `ACCEPT_MASK`. -/
structure Held (a : Acceptor) : Prop where
  listening : a.listening = true
  closes : a.closes = 0
  mask : a.mask = .acceptMask

/-- The acceptor has closed its handle once, and nothing is registered. -/
structure ClosedOnce (a : Acceptor) : Prop where
  listening : a.listening = false
  closes : a.closes = 1
  mask : a.mask = .null

theorem Held.handleClose {a : Acceptor} (h : Held a) : ClosedOnce (handleClose a) := by
  unfold ClientAcceptor.handleClose
  rw [if_pos h.listening]
  refine ⟨rfl, ?_, ?_⟩
  · show a.closes + 1 = 1
    rw [h.closes]
  · show a.mask.remove (Mask.acceptMask.union .dontCallMask) = .null
    rw [h.mask]
    decide

/-- Closing again does nothing. -/
theorem ClosedOnce.handleClose {a : Acceptor} (h : ClosedOnce a) : ClosedOnce (handleClose a) := by
  unfold ClientAcceptor.handleClose
  rw [if_neg (by rw [h.listening]; decide)]
  exact h

/-- The reactor takes the registration back and calls `handle_close`. -/
theorem Held.removed {a : Acceptor} (h : Held a) :
    ClosedOnce (ClientAcceptor.handleClose (a.removeHandler .acceptMask)) := by
  unfold ClientAcceptor.handleClose
  rw [if_pos (show (a.removeHandler .acceptMask).listening = true from h.listening)]
  refine ⟨rfl, ?_, ?_⟩
  · show a.closes + 1 = 1
    rw [h.closes]
  · show (a.mask.remove Mask.acceptMask).remove (Mask.acceptMask.union .dontCallMask) = .null
    rw [h.mask]
    decide

/-- While the loop runs the acceptor has its handle or has closed it once; afterwards it has closed it once. -/
def HeldOrClosed (sys : System β) : Prop :=
  if sys.running then Held sys.acceptor ∨ ClosedOnce sys.acceptor else ClosedOnce sys.acceptor

theorem HeldOrClosed.cases {sys : System β} (h : HeldOrClosed sys) :
    Held sys.acceptor ∧ sys.running = true ∨ ClosedOnce sys.acceptor := by
  unfold HeldOrClosed at h
  split at h
  · rename_i hrunning
    exact h.imp (fun h => ⟨h, hrunning⟩) id
  · exact Or.inr h

theorem heldOrClosed_of_closedOnce {sys : System β} (h : ClosedOnce sys.acceptor) : HeldOrClosed sys := by
  unfold HeldOrClosed
  split
  · exact Or.inr h
  · exact h

/-- **The step lemma.** -/
theorem step_heldOrClosed {sys sys' : System β} {e : Event β} (hs : HeldOrClosed sys)
    (h : step sys e = some sys') : HeldOrClosed sys' := by
  cases e with
  | accept env =>
    obtain ⟨hrunning, hmask, rfl⟩ := step_accept h
    obtain ⟨hheld, _⟩ | hclosed := hs.cases
    · unfold HeldOrClosed
      rw [if_pos hrunning]
      show Held (dispatchAccept (β := β) env sys.acceptor) ∨ ClosedOnce (dispatchAccept (β := β) env sys.acceptor)
      unfold dispatchAccept
      split
      · exact Or.inr hheld.removed
      · exact Or.inl hheld
    · -- nothing is dispatched to a closed acceptor
      rw [hclosed.mask] at hmask
      cases hmask
  | client i d =>
    obtain ⟨c, c', _, _, rfl⟩ := step_client h
    exact hs
  | endLoop =>
    rw [step_endLoop h]
    obtain ⟨hheld, _⟩ | hclosed := hs.cases
    · exact heldOrClosed_of_closedOnce hheld.handleClose
    · exact heldOrClosed_of_closedOnce hclosed.handleClose

/-- **The run lemma.** -/
theorem run_heldOrClosed {es : List (Event β)} {sys : System β} (hrun : run step started es = some sys) :
    HeldOrClosed sys := by
  have hstart : HeldOrClosed (started : System β) := by
    show Held _ ∨ ClosedOnce _
    exact Or.inl ⟨rfl, rfl, rfl⟩
  exact run_invariant (fun _ _ _ hs h => step_heldOrClosed hs h) hstart hrun

/-- **The listening handle is closed once.**  Whatever the events of the loop and the results of the calls, when
`main` returns nothing is registered for the acceptor, its handle is not open, and it has been closed exactly once if
it was ever opened.  The returned value is `1` if `open` failed and `0` otherwise. -/
theorem closed_once (bound registered : Bool) (es : List (Event β)) (hr : ℤ) (sys : System β)
    (hmain : main bound registered es = some (hr, sys)) :
    sys.acceptor.mask = .null ∧ sys.acceptor.listening = false ∧
      sys.acceptor.closes = (if bound then 1 else 0) ∧
      hr = (if bound && registered then 0 else 1) := by
  cases bound with
  | false =>
    obtain ⟨rfl, rfl⟩ : 1 = hr ∧ (⟨.fresh, [], false⟩ : System β) = sys := by
      rw [← Prod.mk.injEq]
      exact Option.some.inj hmain
    exact ⟨rfl, rfl, rfl, rfl⟩
  | true =>
    cases registered with
    | false =>
      obtain ⟨rfl, rfl⟩ : 1 = hr ∧ (⟨handleClose ⟨.null, true, 0⟩, [], false⟩ : System β) = sys := by
        rw [← Prod.mk.injEq]
        exact Option.some.inj hmain
      exact ⟨rfl, rfl, rfl, rfl⟩
    | true =>
      have hloop : main true true es = match run step started es with
        | none => none
        | some sys => if sys.running then none else some (0, sys) := rfl
      rw [hloop] at hmain
      split at hmain
      · cases hmain
      · rename_i sys' hrun
        split at hmain
        · cases hmain
        · rename_i hrunning
          obtain ⟨rfl, rfl⟩ : 0 = hr ∧ sys' = sys := by
            rw [← Prod.mk.injEq]
            exact Option.some.inj hmain
          have hclosed : ClosedOnce sys'.acceptor := by
            obtain ⟨_, htrue⟩ | hclosed := (run_heldOrClosed hrun).cases
            · exact absurd htrue hrunning
            · exact hclosed
          exact ⟨hclosed.mask, hclosed.listening, hclosed.closes, rfl⟩

/-- The listener is lost to an aborted connection, and then the loop ends, as a `LoopStopper` ends it. -/
def lostAndStopped : List (Event ℕ) := [.accept ⟨true, false, true⟩, handleSignal.2]

theorem closed_once_lostAndStopped :
    ∃ sys, main true true lostAndStopped = some (0, sys) ∧ sys.acceptor.mask = .null ∧
      sys.acceptor.listening = false ∧ sys.acceptor.closes = 1 ∧ (0 : ℤ) = (if true && true then 0 else 1) :=
  ⟨_, rfl, closed_once true true lostAndStopped 0 _ rfl⟩

end AceSamples.ClientAcceptor
