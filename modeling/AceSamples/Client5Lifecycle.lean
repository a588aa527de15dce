import AceSamples.Client5Effects

/-!
# How long Client5-ace runs

The handler is opened by the connector, and from then on it waits for READ events and for its timer.  There are two
ways to have `handle_close` called: `handle_input` meets the end of the stream or an error, ends the event loop and
returns `-1`; or `handle_timeout` cannot allocate a message and returns `-1`, which leaves the event loop running.

* `connect`, `main` — the program around the handler;
* `EndsLoop`, `FailsToAllocate` — the two kinds of dispatch that close the handler;
* `step_flags`, `run_closed`, `run_loopEnded` — the handler has been closed exactly when one of the two has
  happened, and the event loop has ended exactly when the first has;
* `Alive`, `run_alive` — until then the handler is registered for `READ_MASK` and its timer is scheduled;
* `Unregistered`, `run_unregistered` — afterwards neither, if `handle_close` does what it is documented to do;
* `client_lifecycle` — the three together;
* `main_returns_zero_iff` — so a failed allocation leaves `main` waiting for ever;
* `step_sent_prefix`, `run_outgoing_sublist` — the socket never gives back a byte, and no byte is sent that was not
  built, whatever the results of the calls.
-/

set_option autoImplicit false

namespace AceSamples.Client5

open AceSamples.AceSocket AceSamples.AceMessageQueue AceSamples.ScriptedRun

variable {super : SvcHandler}

/-! ### The program around the handler -/

/-- `socket.connect(p, server)`: whether the connection is established, and the results of the calls in
`Client::open`.  When `open` returns `-1` the connector closes the handler. -/
def connect (super : SvcHandler) (established registered scheduled : Bool) : ℤ × Client :=
  if established = false then (-1, .fresh)
  else
    let (rc, s) := openClient registered scheduled .fresh
    if rc = -1 then (-1, (super.handleClose s).close) else (0, s)

/-- `ACE_TMAIN`, with the dispatches of its event loop; `none` when the loop has not ended. -/
def main (super : SvcHandler) (established registered scheduled : Bool) (ds : List Dispatch) : Option ℤ :=
  let (rc, s) := connect super established registered scheduled
  if rc = -1 then some 1
  else
    match run (step super) s ds with
    | none => none
    | some s => if s.loopEnded then some 0 else none

/-! ### How the handler is closed -/

/-- A dispatch in which `handle_input` meets the end of the stream or an error. -/
def EndsLoop : Dispatch → Prop
  | .readable env => env.Ends
  | .timeout _ => False
  | .notified _ => False
  | .writable _ => False

/-- A dispatch in which `handle_timeout` cannot allocate a message. -/
def FailsToAllocate (s : Client) : Dispatch → Prop
  | .timeout env => ¬s.numIterations + 1 ≥ maxIterations ∧ env.allocated = false
  | .notified _ => False
  | .writable _ => False
  | .readable _ => False

/-- A dispatch that closes nothing. -/
def Continues (s : Client) (d : Dispatch) : Prop := ¬(EndsLoop d ∨ FailsToAllocate s d)

/-- Nothing is dispatched once the event loop has ended. -/
theorem step_running {s s' : Client} {d : Dispatch} (h : step super s d = some s') : s.loopEnded = false := by
  by_contra hended
  rw [Bool.not_eq_false] at hended
  cases d <;> simp [step, hended] at h

theorem DrainEffect.flags {env : OutputResults} {s t : Client} (h : DrainEffect env s t) :
    t.closed = s.closed ∧ t.loopEnded = s.loopEnded ∧ t.mask = s.mask ∧ t.timer = s.timer := by
  cases h with
  | drained _ => exact ⟨rfl, rfl, rfl, rfl⟩
  | putBack front m rest r _ _ _ _ => exact ⟨rfl, rfl, rfl, rfl⟩
  | rejected front m rest r _ _ _ _ => exact ⟨rfl, rfl, rfl, rfl⟩

theorem OutputCall.flags {s s₀ : Client} {d : Dispatch} {env : OutputResults} (h : OutputCall s d env s₀) :
    s₀.closed = s.closed ∧ s₀.loopEnded = s.loopEnded ∧ s₀.mask = s.mask ∧ s₀.timer = s.timer := by
  cases h with
  | notified _ _ => exact ⟨rfl, rfl, rfl, rfl⟩
  | writable _ _ => exact ⟨rfl, rfl, rfl, rfl⟩

/-- A call of `handle_output` closes nothing. -/
theorem OutputCall.continues {s s₀ : Client} {d : Dispatch} {env : OutputResults} (h : OutputCall s d env s₀) :
    ¬EndsLoop d ∧ Continues s d := by
  cases h with
  | notified _ _ => exact ⟨id, fun hcloses => hcloses.elim id id⟩
  | writable _ _ => exact ⟨id, fun hcloses => hcloses.elim id id⟩

/-- Waiting for writability, or no longer, leaves the registration for READ events alone. -/
theorem adjustWakeup_read (s : Client) : (adjustWakeup s).mask.read = s.mask.read := by
  rw [adjustWakeup_eq]
  show Mask.read (if s.queue.isEmpty then s.mask.remove .writeMask else s.mask.union .writeMask) = s.mask.read
  split
  · show (s.mask.read && !Mask.writeMask.read) = s.mask.read
    exact Bool.and_true _
  · show (s.mask.read || Mask.writeMask.read) = s.mask.read
    exact Bool.or_false _

/-- What a call of `handle_output` leaves alone. -/
theorem output_flags {s s₀ t : Client} {d : Dispatch} {env : OutputResults} (hcall : OutputCall s d env s₀)
    (ht : DrainEffect env s₀ t) :
    (adjustWakeup t).closed = s.closed ∧ (adjustWakeup t).loopEnded = s.loopEnded ∧
      (adjustWakeup t).mask.read = s.mask.read ∧ (adjustWakeup t).timer = s.timer := by
  obtain ⟨hclosed, hloop, hmask, htimer⟩ := ht.flags
  obtain ⟨hclosed₀, hloop₀, hmask₀, htimer₀⟩ := hcall.flags
  rw [adjustWakeup_read]
  rw [adjustWakeup_eq]
  refine ⟨hclosed.trans hclosed₀, hloop.trans hloop₀, ?_, htimer.trans htimer₀⟩
  rw [hmask, hmask₀]

/-- **The step lemma.**  A dispatch closes the handler or ends the loop exactly if it is of one of the two kinds. -/
theorem step_flags {s s' : Client} {d : Dispatch} (hwf : WellFormed s) (h : step super s d = some s') :
    (s'.closed = true ↔ s.closed = true ∨ ¬Continues s d) ∧
      (s'.loopEnded = true ↔ s.loopEnded = true ∨ EndsLoop d) := by
  -- a dispatch that goes on, and a dispatch after which `handle_close` is called
  have hgoes : ∀ {s' : Client}, ¬EndsLoop d → Continues s d → s'.closed = s.closed → s'.loopEnded = s.loopEnded →
      (s'.closed = true ↔ s.closed = true ∨ ¬Continues s d) ∧
        (s'.loopEnded = true ↔ s.loopEnded = true ∨ EndsLoop d) := by
    intro s' hends hc hclosed hloop
    rw [hclosed, hloop]
    exact ⟨(or_iff_left (not_not_intro hc)).symm, (or_iff_left hends).symm⟩
  cases step_effect hwf.noneEmpty h with
  | writerClosed env hi => exact hgoes id (fun hcloses => hcloses.elim id fun hfails => hfails.1 hi) rfl rfl
  | unallocated env hi ha =>
    exact ⟨iff_of_true rfl (Or.inr fun hc => hc (Or.inr ⟨hi, ha⟩)), (or_iff_left id).symm⟩
  | refused env hi ha hr =>
    exact hgoes id (fun hcloses => hcloses.elim id fun hfails => absurd (ha.symm.trans hfails.2) (by decide)) rfl rfl
  | enqueued env hi ha hr =>
    exact hgoes id (fun hcloses => hcloses.elim id fun hfails => absurd (ha.symm.trans hfails.2) (by decide)) rfl rfl
  | output d env s₀ t hcall ht =>
    obtain ⟨hclosed, hloop, _, _⟩ := output_flags hcall ht
    exact hgoes hcall.continues.1 hcall.continues.2 hclosed hloop
  | idle env hends => exact hgoes hends (fun hcloses => hcloses.elim hends id) rfl rfl
  | ended env hends => exact ⟨iff_of_true rfl (Or.inr fun hc => hc (Or.inl hends)), iff_of_true rfl (Or.inr hends)⟩

/-- **The run lemma for `handle_close`.** -/
theorem run_closed {ds : List Dispatch} {s : Client} (hrun : run (step super) opened ds = some s) :
    s.closed = true ↔ ¬Along (step super) Continues opened ds := by
  refine run_history_reached (I := fun ds s => s.closed = true ↔ ¬Along (step super) Continues opened ds)
    ?start ?step hrun
  case start => exact iff_of_false Bool.false_ne_true (not_not_intro trivial)
  case step =>
    intro ds s d s' hrun hs h
    rw [(step_flags (run_wellFormed hrun) h).1, hs, along_snoc hrun, not_and_or]

/-- **The run lemma for the event loop.** -/
theorem run_loopEnded {ds : List Dispatch} {s : Client} (hrun : run (step super) opened ds = some s) :
    s.loopEnded = true ↔ ∃ d ∈ ds, EndsLoop d := by
  refine run_history_reached (I := fun ds s => s.loopEnded = true ↔ ∃ d ∈ ds, EndsLoop d) ?start ?step hrun
  case start => exact iff_of_false Bool.false_ne_true fun ⟨_, hd, _⟩ => absurd hd List.not_mem_nil
  case step =>
    intro ds s d s' hrun hs h
    rw [(step_flags (run_wellFormed hrun) h).2, hs]
    simp only [List.mem_append, List.mem_singleton, or_and_right, exists_or, exists_eq_left]

/-! ### Before and after -/

/-- A handler that waits for READ events and for its timer. -/
structure Alive (s : Client) : Prop where
  closed : s.closed = false
  timer : s.timer = true
  loopEnded : s.loopEnded = false
  read : s.mask.read = true

theorem opened_alive : Alive opened := ⟨rfl, rfl, rfl, rfl⟩

/-- A dispatch that closes nothing leaves the handler alive. -/
theorem step_alive {s s' : Client} {d : Dispatch} (hwf : WellFormed s) (hs : Alive s) (hc : Continues s d)
    (h : step super s d = some s') : Alive s' := by
  cases step_effect hwf.noneEmpty h with
  | writerClosed env hi => exact ⟨hs.closed, hs.timer, hs.loopEnded, hs.read⟩
  | unallocated env hi ha => exact absurd (Or.inr ⟨hi, ha⟩) hc
  | refused env hi ha hr => exact ⟨hs.closed, hs.timer, hs.loopEnded, hs.read⟩
  | enqueued env hi ha hr => exact ⟨hs.closed, hs.timer, hs.loopEnded, hs.read⟩
  | output d env s₀ t hcall ht =>
    obtain ⟨hclosed, hloop, hread, htimer⟩ := output_flags hcall ht
    exact ⟨hclosed.trans hs.closed, htimer.trans hs.timer, hloop.trans hs.loopEnded, hread.trans hs.read⟩
  | idle env hends => exact hs
  | ended env hends => exact absurd (Or.inl hends) hc

/-- **The run lemma for the registration.**  Until it is closed, the handler is alive. -/
theorem run_alive {ds : List Dispatch} {s : Client} (hrun : run (step super) opened ds = some s)
    (hopen : s.closed = false) : Alive s := by
  have hinv := run_history_reached (I := fun _ s => s.closed = false → Alive s) ?start ?step hrun
  case start => exact fun _ => opened_alive
  case step =>
    intro ds s d s' hrun hs h hopen
    have hwf := run_wellFormed hrun
    have hclosed : ¬(s.closed = true ∨ ¬Continues s d) := by
      rw [← (step_flags hwf h).1, hopen]
      exact Bool.false_ne_true
    rw [not_or, not_not, Bool.not_eq_true] at hclosed
    exact step_alive hwf (hs hclosed.1) hclosed.2 h
  exact hinv hopen

/-- A handler that waits for neither. -/
structure Unregistered (s : Client) : Prop where
  timer : s.timer = false
  read : s.mask.read = false

theorem SvcHandler.Unregisters.leave (hsuper : super.Unregisters) (s : Client) : Unregistered (super.leave s) := by
  refine ⟨hsuper.timer s, ?_⟩
  show (super.handleClose s).mask.read = false
  rw [hsuper.mask s]
  rfl

theorem step_unregistered (hsuper : super.Unregisters) {s s' : Client} {d : Dispatch} (hwf : WellFormed s)
    (hs : s.closed = true → Unregistered s) (h : step super s d = some s') :
    s'.closed = true → Unregistered s' := by
  intro hclosed
  cases step_effect hwf.noneEmpty h with
  | writerClosed env hi => exact ⟨(hs hclosed).timer, (hs hclosed).read⟩
  | unallocated env hi ha => exact hsuper.leave _
  | refused env hi ha hr => exact ⟨(hs hclosed).timer, (hs hclosed).read⟩
  | enqueued env hi ha hr => exact ⟨(hs hclosed).timer, (hs hclosed).read⟩
  | output d env s₀ t hcall ht =>
    obtain ⟨hsame, _, hread, htimer⟩ := output_flags hcall ht
    have hbefore := hs (hsame ▸ hclosed)
    exact ⟨htimer.trans hbefore.timer, hread.trans hbefore.read⟩
  | idle env hends => exact hs hclosed
  | ended env hends => exact hsuper.leave _

/-- **The run lemma for a documented `handle_close`.** -/
theorem run_unregistered (hsuper : super.Unregisters) {ds : List Dispatch} {s : Client}
    (hrun : run (step super) opened ds = some s) (hclosed : s.closed = true) : Unregistered s := by
  have hinv := run_history_reached (I := fun _ s => s.closed = true → Unregistered s)
    (fun hclosed => absurd hclosed Bool.false_ne_true)
    (fun _ _ _ _ hrun hs h => step_unregistered hsuper (run_wellFormed hrun) hs h) hrun
  exact hinv hclosed

/-- **The life of the handler.**  In every state that a run reaches:

* `handle_close` has been called if and only if `handle_input` has met the end of the stream or an error, or
  `handle_timeout` has failed to allocate a message;
* the event loop has ended if and only if the former has happened;
* until `handle_close` is called, the handler is registered for `READ_MASK` and its timer is scheduled;
* after that, neither a READ event nor an expiry of the timer can be dispatched, if `handle_close` unregisters the
  handler and cancels its timers. -/
theorem client_lifecycle (super : SvcHandler) (ds : List Dispatch) (s : Client)
    (hrun : run (step super) opened ds = some s) :
    (s.closed = true ↔ ¬Along (step super) Continues opened ds) ∧
      (s.loopEnded = true ↔ ∃ d ∈ ds, EndsLoop d) ∧
      (s.closed = false → s.mask.read = true ∧ s.timer = true) ∧
      (super.Unregisters → s.closed = true →
        (∀ env, step super s (.readable env) = none) ∧ ∀ env, step super s (.timeout env) = none) := by
  refine ⟨run_closed hrun, run_loopEnded hrun, ?_, ?_⟩
  · intro hopen
    have hs := run_alive hrun hopen
    exact ⟨hs.read, hs.timer⟩
  · intro hsuper hclosed
    have hs := run_unregistered hsuper hrun hclosed
    exact ⟨fun env => by simp [step, hs.read], fun env => by simp [step, hs.timer]⟩

/-- The second message cannot be allocated, and the notification for the first one is taken afterwards. -/
def outOfMemory : List Dispatch :=
  [.timeout ⟨true, fun _ => true⟩, .timeout ⟨false, fun _ => true⟩, .notified ⟨[.part 2], fun _ => true⟩]

theorem client_lifecycle_outOfMemory :
    ∃ s, run (step svcHandler) opened outOfMemory = some s ∧ s.closed = true ∧ s.loopEnded = false ∧
      s.mask.write = true ∧ ¬Along (step svcHandler) Continues opened outOfMemory ∧
      (¬∃ d ∈ outOfMemory, EndsLoop d) ∧ ∀ env, step svcHandler s (.readable env) = none := by
  obtain ⟨hclosed, hloop, _, hafter⟩ := client_lifecycle svcHandler outOfMemory _ rfl
  exact ⟨_, rfl, rfl, rfl, rfl, hclosed.mp rfl, (fun hends => absurd (hloop.mpr hends) Bool.false_ne_true),
    (hafter svcHandler_unregisters rfl).1⟩

/-! ### What `main` returns -/

/-- A dispatch in which no allocation fails. -/
def Allocates (s : Client) (d : Dispatch) : Prop := ¬FailsToAllocate s d

/-- After a failed allocation the event loop goes on without the READ events that could end it. -/
theorem run_outOfMemory (hsuper : super.Unregisters) {ds : List Dispatch} {s : Client}
    (hrun : run (step super) opened ds = some s) (hfails : ¬Along (step super) Allocates opened ds) :
    s.loopEnded = false := by
  have hinv := run_history_reached
    (I := fun ds s => ¬Along (step super) Allocates opened ds → s.closed = true ∧ s.loopEnded = false)
    (fun hfails => absurd trivial hfails) ?step hrun
  case step =>
    intro ds s d s' hrun hs h hfails
    obtain ⟨hclosed, hloop⟩ := step_flags (run_wellFormed hrun) h
    rw [along_snoc hrun, not_and_or] at hfails
    -- the handler has been closed before, or this dispatch closes it; it does not end the loop
    have hcloses : s.closed = true ∨ ¬Continues s d :=
      hfails.imp (fun hbefore => (hs hbefore).1) fun hnow hc => hc (Or.inr (not_not.mp hnow))
    have hends : ¬EndsLoop d := by
      intro hends
      cases d with
      | readable env =>
        obtain hbefore | hnow := hfails
        · have hread := (run_unregistered hsuper hrun (hs hbefore).1).read
          simp [step, hread] at h
        · exact hnow id
      | timeout env => exact hends
      | notified env => exact hends
      | writable env => exact hends
    refine ⟨hclosed.mpr hcloses, ?_⟩
    rw [← Bool.not_eq_true, hloop, step_running h]
    exact fun h => h.elim Bool.false_ne_true hends
  exact (hinv hfails).2

/-- **What `main` returns.**  It returns `1` exactly when the connection cannot be established or opened, and `0`
exactly when an opened handler has met the end of the stream or an error.  If `handle_close` unregisters the handler,
`main` does not return after a failed allocation, whatever follows. -/
theorem main_returns_zero_iff (super : SvcHandler) (established registered scheduled : Bool) (ds : List Dispatch) :
    (main super established registered scheduled ds = some 1 ↔
        ¬(established = true ∧ registered = true ∧ scheduled = true)) ∧
      (main super established registered scheduled ds = some 0 ↔
        (established = true ∧ registered = true ∧ scheduled = true) ∧
          (run (step super) opened ds).isSome = true ∧ ∃ d ∈ ds, EndsLoop d) ∧
      (super.Unregisters → established = true ∧ registered = true ∧ scheduled = true →
        ¬Along (step super) Allocates opened ds → main super established registered scheduled ds = none) := by
  have hloop : main super true true true ds =
      match run (step super) opened ds with
      | none => none
      | some s => if s.loopEnded then some 0 else none := rfl
  by_cases hall : established = true ∧ registered = true ∧ scheduled = true
  · obtain ⟨rfl, rfl, rfl⟩ := hall
    rw [hloop]
    cases hrun : run (step super) opened ds with
    | none => simp
    | some s =>
      have hends := run_loopEnded hrun
      refine ⟨?_, ?_, ?_⟩
      · cases s.loopEnded <;> simp
      · cases hl : s.loopEnded with
        | true => simp [← hends, hl]
        | false => simp [← hends, hl]
      · intro hsuper _ hfails
        simp [run_outOfMemory hsuper hrun hfails]
  · have hone : main super established registered scheduled ds = some 1 := by
      cases established <;> cases registered <;> cases scheduled <;>
        first | rfl | exact absurd ⟨rfl, rfl, rfl⟩ hall
    rw [hone]
    simp only [Option.some.injEq, hall, not_false_eq_true, true_and, false_and, iff_false, false_implies,
      implies_true, and_true]
    decide

theorem main_waits_outOfMemory :
    (∃ s, run (step svcHandler) opened outOfMemory = some s) ∧
      ¬Along (step svcHandler) Allocates opened outOfMemory ∧
      main svcHandler true true true outOfMemory = none := by
  have hfails : ¬Along (step svcHandler) Allocates opened outOfMemory := by
    intro hall
    exact (hall.2 _ rfl).1 ⟨by decide, rfl⟩
  exact ⟨⟨_, rfl⟩, hfails, (main_returns_zero_iff svcHandler true true true outOfMemory).2.2 svcHandler_unregisters
    ⟨rfl, rfl, rfl⟩ hfails⟩

/-! ### The bytes, whatever happens -/

theorem DrainEffect.sent_prefix {env : OutputResults} {s t : Client} (h : DrainEffect env s t) :
    s.sent <+: t.sent := by
  cases h with
  | drained _ => exact List.prefix_append _ _
  | putBack front m rest r _ _ _ _ => exact List.prefix_append _ _
  | rejected front m rest r _ _ _ _ => exact List.prefix_append _ _

theorem OutputCall.fields {s s₀ : Client} {d : Dispatch} {env : OutputResults} (h : OutputCall s d env s₀) :
    s₀.sent = s.sent ∧ s₀.queue = s.queue ∧ s₀.built = s.built := by
  cases h with
  | notified _ _ => exact ⟨rfl, rfl, rfl⟩
  | writable _ _ => exact ⟨rfl, rfl, rfl⟩

/-- What the socket has accepted is not taken back. -/
theorem step_sent_prefix {s s' : Client} {d : Dispatch} (hwf : WellFormed s) (h : step super s d = some s') :
    s.sent <+: s'.sent := by
  cases step_effect hwf.noneEmpty h with
  | output d env s₀ t hcall ht =>
    rw [adjustWakeup_eq, ← hcall.fields.1]
    exact ht.sent_prefix
  | _ => exact List.prefix_rfl

theorem DrainEffect.outgoing_sublist {env : OutputResults} {s t : Client} (h : DrainEffect env s t) :
    (outgoing t).Sublist (outgoing s) ∧ t.built = s.built := by
  have heq := h.outgoing_eq
  cases h with
  | drained _ => exact ⟨(heq rfl).symm ▸ List.Sublist.refl _, rfl⟩
  | putBack front m rest r _ _ _ _ => exact ⟨(heq rfl).symm ▸ List.Sublist.refl _, rfl⟩
  | rejected front m rest r hq _ _ _ =>
    refine ⟨?_, rfl⟩
    rw [outgoing_split hq (r.accepted m.length), MessageQueue.unread_cons]
    exact (List.sublist_append_right _ _).append_left _

theorem step_outgoing_sublist {s s' : Client} {d : Dispatch} (hwf : WellFormed s)
    (hs : (outgoing s).Sublist s.built) (h : step super s d = some s') : (outgoing s').Sublist s'.built := by
  cases step_effect hwf.noneEmpty h with
  | refused env hi ha hr => exact hs.trans (List.sublist_append_left _ _)
  | enqueued env hi ha hr =>
    rw [outgoing_enqueued]
    exact hs.append_right _
  | output d env s₀ t hcall ht =>
    obtain ⟨hsent, hqueue, hbuilt⟩ := hcall.fields
    obtain ⟨hsub, hbuilt'⟩ := ht.outgoing_sublist
    have hbefore : outgoing s₀ = outgoing s := by rw [outgoing, outgoing, hsent, hqueue]
    rw [adjustWakeup_eq]
    show (outgoing t).Sublist t.built
    rw [hbuilt', hbuilt]
    exact (hbefore ▸ hsub).trans hs
  | _ => exact hs

/-- No byte is sent or queued that was not built, and the order is the one in which they were built. -/
theorem run_outgoing_sublist {ds : List Dispatch} {s : Client} (hrun : run (step super) opened ds = some s) :
    (outgoing s).Sublist s.built := by
  have hinv := run_invariant (I := fun s => WellFormed s ∧ (outgoing s).Sublist s.built) ?step
    ⟨opened_wellFormed, List.Sublist.refl _⟩ hrun
  case step =>
    intro s d s' hs h
    exact ⟨step_wellFormed hs.1 h, step_outgoing_sublist hs.1 hs.2 h⟩
  exact hinv.2

end AceSamples.Client5
