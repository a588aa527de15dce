import AceSamples.ClientServiceEffects
import AceSamples.ScriptedRun

/-!
# A connection between two dispatches: serving or gone

Every state that the dispatches of the reactor can bring an opened `ClientService` into is of one of two
kinds.

* `Serving` — alive, registered for `READ_MASK`, its socket open, no empty message in its queue, and
  registered for `WRITE_MASK` exactly while the queue has a message.  The last clause is kept up from two
  places: `handle_input` registers on the transition from empty to non-empty, and the `-1` that
  `handle_output` returns for an empty queue makes the reactor take the registration back.
* `Gone` — destroyed once, socket closed once, queue emptied, nothing registered.

`dispatchInput_spec` and `dispatchOutput_serving` are the step lemmas, `run_serving_or_gone` is the run lemma,
and `write_registered_iff_backlog` draws the conclusions for the drain loop: it is only entered with a message
in the queue, so the `-1` that its condition lets through never occurs.
-/

set_option autoImplicit false

namespace AceSamples.ClientService

open AceSamples.AceSocket AceSamples.AceMessageQueue AceSamples.ScriptedRun

variable {β : Type*} {srv : Server}

/-- A connection that is being served. -/
structure Serving (s : Service β) : Prop where
  misused : s.misused = false
  remains : s.remains = []
  socketOpen : s.socketOpen = true
  closes : s.closes = 0
  flushed : s.flushed = []
  read : s.mask.read = true
  noneEmpty : s.queue.NoneEmpty
  write : s.mask.write = true ↔ s.queue ≠ []

/-- A connection that has been torn down. -/
structure Gone (s : Service β) : Prop where
  misused : s.misused = false
  remains : s.remains = [⟨1, [], .null⟩]
  socketOpen : s.socketOpen = false
  closes : s.closes = 1
  mask : s.mask = .null
  queue : s.queue = []

theorem Serving.live {s : Service β} (h : Serving s) : s.live = true := by
  rw [Service.live, h.remains]
  rfl

theorem Gone.not_live {s : Service β} (h : Gone s) : s.live = false := by
  rw [Service.live, h.remains]
  rfl

theorem opened_serving : Serving (opened srv : Service β) := by
  have heq : (opened srv : Service β) = { Service.fresh with mask := .readMask, socketOpen := true } := by
    cases srv <;> rfl
  rw [heq]
  exact ⟨rfl, rfl, rfl, rfl, rfl, rfl, (fun m hm => nomatch hm), by simp [Service.fresh, Mask.readMask]⟩

/-! ### What a callback may change without ending the service -/

/-- The parts that only `handle_close` touches. -/
structure Intact (s : Service β) : Prop where
  misused : s.misused = false
  remains : s.remains = []
  socketOpen : s.socketOpen = true
  closes : s.closes = 0
  flushed : s.flushed = []

theorem Serving.intact {s : Service β} (h : Serving s) : Intact s :=
  ⟨h.misused, h.remains, h.socketOpen, h.closes, h.flushed⟩

theorem Intact.deliver {s : Service β} (h : Intact s) (bs : List β) : Intact (s.deliver bs) :=
  ⟨h.misused, h.remains, h.socketOpen, h.closes, h.flushed⟩

theorem Intact.setQueue {s : Service β} (h : Intact s) (q : MessageQueue β) : Intact (s.setQueue q) :=
  ⟨h.misused, h.remains, h.socketOpen, h.closes, h.flushed⟩

theorem Intact.removeHandler {s : Service β} (h : Intact s) (m : Mask) : Intact (s.removeHandler m) :=
  ⟨h.misused, h.remains, h.socketOpen, h.closes, h.flushed⟩

theorem Intact.teardown {s : Service β} (h : Intact s) : Gone (teardown s) := by
  rw [teardown_eq, h.remains, h.socketOpen, h.closes]
  exact ⟨h.misused, rfl, rfl, rfl, rfl, rfl⟩

/-- Sending bytes changes nothing but what has been sent. -/
theorem Serving.deliver {s : Service β} (h : Serving s) (bs : List β) : Serving (s.deliver bs) :=
  ⟨h.misused, h.remains, h.socketOpen, h.closes, h.flushed, h.read, h.noneEmpty, h.write⟩

/-! ### The step lemmas -/

theorem InputEffect.intact {env : InputResults β} {s s' : Service β} {rc : ℤ}
    (h : InputEffect env s rc s') (hs : Intact s) : Intact s' := by
  cases h with
  | ended _ => exact hs
  | whole c _ _ => exact hs.deliver _
  | sendFailed c _ _ => exact hs
  | unallocated c _ _ _ _ => exact hs.deliver _
  | rejected c _ _ _ _ _ => exact hs.deliver _
  | queuedBehind c _ _ _ _ _ _ => exact (hs.deliver _).setQueue _
  | queuedFirst c _ _ _ _ _ _ =>
    have h' := (hs.deliver (c.bytes.take (env.send.accepted c.bytes.length))).setQueue
      [leftover env.send c]
    cases env.registered with
    | false => exact h'
    | true => exact ⟨h'.misused, h'.remains, h'.socketOpen, h'.closes, h'.flushed⟩

/-- A `handle_input` that does not return `-1` leaves the connection in service: the registration follows
the queue in each of its branches. -/
theorem InputEffect.serving {env : InputResults β} {s s' : Service β} {rc : ℤ}
    (h : InputEffect env s rc s') (hrc : rc ≠ -1) (hs : Serving s) : Serving s' := by
  cases h with
  | ended _ => exact absurd rfl hrc
  | whole c _ _ => exact hs.deliver _
  | sendFailed c _ _ => exact hs
  | unallocated c _ _ _ _ => exact absurd rfl hrc
  | rejected c _ _ _ _ _ => exact hs.deliver _
  | queuedBehind c _ hall _ _ _ hq =>
    have hw : s.mask.write = true := hs.write.mpr hq
    refine ⟨hs.misused, hs.remains, hs.socketOpen, hs.closes, hs.flushed, hs.read, ?_, ?_⟩
    · intro m hm
      rcases List.mem_append.mp hm with hm | hm
      · exact hs.noneEmpty m hm
      · rw [List.mem_singleton.mp hm]
        exact leftover_ne_nil hall c
    · simp [hw]
  | queuedFirst c _ hall _ _ _ _ =>
    cases hreg : env.registered with
    | false => simp [hreg] at hrc
    | true =>
      refine ⟨hs.misused, hs.remains, hs.socketOpen, hs.closes, hs.flushed, ?_, ?_, ?_⟩
      · show (s.mask.read || Mask.writeMask.read) = true
        rw [hs.read]
        rfl
      · intro m hm
        rw [List.mem_singleton.mp hm]
        exact leftover_ne_nil hall c
      · simp [Service.registerHandler, Mask.union, Mask.writeMask]

/-- **A READ dispatch.**  The handler is destroyed exactly when `handle_input` returned `-1`. -/
theorem dispatchInput_spec (srv : Server) (env : InputResults β) {s : Service β} (hs : Serving s) :
    ((handleInput srv env s).1 = -1 → Gone (dispatchInput srv env s)) ∧
      ((handleInput srv env s).1 ≠ -1 →
        Serving (dispatchInput srv env s) ∧ dispatchInput srv env s = (handleInput srv env s).2) := by
  have heff := handleInput_effect srv env s
  constructor
  · intro hrc
    simp only [dispatchInput, if_pos hrc, handleClose_read]
    exact ((heff.intact hs.intact).removeHandler _).teardown
  · intro hrc
    simp only [dispatchInput, if_neg hrc]
    exact ⟨heff.serving hrc hs, trivial⟩

/-- **A WRITE dispatch.**  The loop is entered with a message in the queue and ends without a fault; the
connection stays in service, whatever `handle_output` returned. -/
theorem dispatchOutput_serving (env : OutputResults β) {s : Service β} (hs : Serving s)
    (hw : s.mask.write = true) : Serving (dispatchOutput srv env s) := by
  have hne : s.queue ≠ [] := hs.write.mp hw
  obtain ⟨rc, s', hout, heff⟩ := handleOutput_effect srv env s hne hs.noneEmpty
  rw [dispatchOutput_eq hout]
  cases heff with
  | drained front last hq _ =>
    rw [if_pos rfl]
    refine ⟨hs.misused, hs.remains, hs.socketOpen, hs.closes, hs.flushed, ?_, ?_, ?_⟩
    · show (s.mask.read && !Mask.writeMask.read) = true
      rw [hs.read]
      rfl
    · intro m hm
      cases hm
    · simp [Mask.remove, Mask.writeMask]
  | putBack front m rest r hq hrest _ hr _ =>
    have hmem : m ∈ s.queue := by rw [hq]; simp
    have hrestNe : MessageQueue.NoneEmpty rest := by
      intro m' hm'
      exact hs.noneEmpty m' (by rw [hq]; simp [hm'])
    refine ⟨hs.misused, hs.remains, hs.socketOpen, hs.closes, hs.flushed, hs.read, ?_, ?_⟩
    · intro m' hm'
      rcases List.mem_cons.mp hm' with rfl | hm'
      · exact rdPtr_accepted_ne_nil hr (hs.noneEmpty m hmem)
      · exact hrestNe m' hm'
    · show s.mask.write = true ↔ _ :: rest ≠ []
      simp [hw]
  | refused front m rest r hq hrest _ _ _ =>
    refine ⟨hs.misused, hs.remains, hs.socketOpen, hs.closes, hs.flushed, hs.read, ?_, ?_⟩
    · intro m' hm'
      exact hs.noneEmpty m' (by
        have : m' ∈ rest := hm'
        rw [hq]
        simp [this])
    · show s.mask.write = true ↔ rest ≠ []
      simp [hw, hrest]

theorem step_input {env : InputResults β} {s s' : Service β} (hs : Serving s)
    (h : step srv s (.input env) = some s') : s' = dispatchInput srv env s := by
  simp only [step, hs.read, hs.live, if_true, Option.some.injEq] at h
  exact h.symm

theorem step_output {env : OutputResults β} {s s' : Service β} (hs : Serving s)
    (h : step srv s (.output env) = some s') :
    s.mask.write = true ∧ s' = dispatchOutput srv env s := by
  simp only [step, hs.live, if_true] at h
  split at h
  · rename_i hw
    exact ⟨hw, (Option.some.inj h).symm⟩
  · cases h

/-- No event is dispatched to a handler that is gone. -/
theorem step_gone {s : Service β} (hs : Gone s) (d : Dispatch β) : step srv s d = none := by
  cases d <;> simp [step, hs.mask, Mask.null]

theorem step_serving_or_gone {s s' : Service β} (d : Dispatch β) (hs : Serving s ∨ Gone s)
    (h : step srv s d = some s') : Serving s' ∨ Gone s' := by
  rcases hs with hs | hs
  · cases d with
    | input env =>
      rw [step_input hs h]
      obtain ⟨hgone, hserving⟩ := dispatchInput_spec srv env hs
      by_cases hrc : (handleInput srv env s).1 = -1
      · exact Or.inr (hgone hrc)
      · exact Or.inl (hserving hrc).1
    | output env =>
      obtain ⟨hw, rfl⟩ := step_output hs h
      exact Or.inl (dispatchOutput_serving env hs hw)
  · rw [step_gone hs d] at h
    cases h

/-! ### Whole runs -/

/-- **The run lemma.**  Between two dispatches an opened handler is serving or gone. -/
theorem run_serving_or_gone {ds : List (Dispatch β)} {s : Service β}
    (hrun : run (step srv) (opened srv) ds = some s) : Serving s ∨ Gone s :=
  run_invariant (I := fun s => Serving s ∨ Gone s)
    (fun _ d _ hs h => step_serving_or_gone d hs h) (Or.inl opened_serving) hrun

theorem run_serving {ds : List (Dispatch β)} {s : Service β}
    (hrun : run (step srv) (opened srv) ds = some s) (hlive : s.live = true) : Serving s := by
  rcases run_serving_or_gone hrun with h | h
  · exact h
  · rw [h.not_live] at hlive
    cases hlive

/-- **Write registration tracks the backlog.**  In every state of a live handler between two dispatches it
is registered for `WRITE_MASK` if and only if its queue is non-empty.  Hence `handle_output` is only dispatched
with a message in the queue, its loop then ends and never runs its body on a pointer that was not set, and
nothing undefined has happened so far. -/
theorem write_registered_iff_backlog (srv : Server) (ds : List (Dispatch β)) (s : Service β)
    (hrun : run (step srv) (opened srv) ds = some s) (hlive : s.live = true) :
    (s.mask.write = true ↔ s.queue ≠ []) ∧ s.misused = false ∧
      ∀ env s', step srv s (.output env) = some s' →
        s.queue ≠ [] ∧ ∃ rc t, handleOutput srv env s = .ok (rc, t) := by
  have hs := run_serving hrun hlive
  refine ⟨hs.write, hs.misused, ?_⟩
  intro env s' h
  have hne : s.queue ≠ [] := hs.write.mp (step_output hs h).1
  obtain ⟨rc, t, hout, _⟩ := handleOutput_effect srv env s hne hs.noneEmpty
  exact ⟨hne, rc, t, hout⟩

/-- A chunk of one byte, for which the socket has no room. -/
def heldBackInput : Dispatch ℕ :=
  .input ⟨.data ⟨[7], by decide, by decide⟩, .wouldBlock, true, fun _ => true, true⟩

/-- The handler after `heldBackInput`: the byte is queued, and the handler waits to write. -/
def heldBack : Service ℕ :=
  { opened .server4 with queue := [⟨1, [7], by decide⟩], mask := ⟨true, true, false, false⟩ }

theorem write_registered_iff_backlog_heldBack :
    run (step .server4) (opened .server4) [heldBackInput] = some heldBack ∧
      (heldBack.mask.write = true ↔ heldBack.queue ≠ []) ∧ heldBack.misused = false ∧
      ∀ env s', step .server4 heldBack (.output env) = some s' →
        heldBack.queue ≠ [] ∧ ∃ rc t, handleOutput .server4 env heldBack = .ok (rc, t) :=
  ⟨rfl, write_registered_iff_backlog .server4 [heldBackInput] heldBack rfl rfl⟩

end AceSamples.ClientService
