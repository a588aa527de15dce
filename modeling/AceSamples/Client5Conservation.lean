import AceSamples.Client5Effects

/-!
# Client5-ace sends its texts in order, without loss

The results of `putq` and `ungetq` are ignored, so a refused insertion would lose a message.  There is none:
the counter lets at most `4` messages be built, and `4` blocks of `128` bytes stay far below the high-water
mark.  The bound is carried through a run by `Bounded`, whose clauses also say that the outgoing bytes are the
text built so far.

The counter itself would wrap around after `2 ^ 31` timer expiries; `ticks` counts them.
-/

set_option autoImplicit false

namespace AceSamples.Client5

open AceSamples.AceSocket AceSamples.AceMessageQueue AceSamples.ScriptedRun

variable {super : SvcHandler}

/-- The default high-water mark of `ACE_Message_Queue`. -/
def highWaterMark : ℕ := 16384

/-- An insertion is rejected only when the total size of the queued blocks has reached the mark. -/
def FlowControlled : Dispatch → Prop
  | .timeout env => ∀ total, total < highWaterMark → env.accepts total = true
  | .notified env => ∀ total, total < highWaterMark → env.accepts total = true
  | .writable env => ∀ total, total < highWaterMark → env.accepts total = true
  | .readable _ => True

/-- Whether a dispatch is an expiry of the timer. -/
def isTimeout : Dispatch → Bool
  | .timeout _ => true
  | .notified _ => false
  | .writable _ => false
  | .readable _ => false

/-- The number of timer expiries in a script. -/
def ticks (ds : List Dispatch) : ℕ := ds.countP isTimeout

theorem ticks_snoc (ds : List Dispatch) (d : Dispatch) :
    ticks (ds ++ [d]) = ticks ds + if isTimeout d then 1 else 0 := by
  simp [ticks, List.countP_append, List.countP_singleton]

/-- The handler after `n` expiries of the timer. -/
structure Bounded (n : ℕ) (s : Client) : Prop where
  counter : s.numIterations.toInt = n
  queued : s.queue.length ≤ n
  few : s.queue.length ≤ 4
  rejected : s.rejected = 0
  text : outgoing s = s.built

/-! ### The counter -/

/-- Below the wrap-around the counter counts. -/
theorem toInt_tick {i : Int32} {n : ℕ} (hi : i.toInt = n) (hn : n + 1 < 2 ^ 31) :
    (i + 1).toInt = (n + 1 : ℕ) := by
  have hone : (1 : Int32).toInt = 1 := by decide
  rw [Int32.toInt_add, hi, hone]
  have hb : ((n : ℤ) + 1).bmod (2 ^ 32) = (n : ℤ) + 1 := by
    apply Int.bmod_eq_of_le <;> omega
  rw [hb]
  rfl

theorem not_maxIterations_iff {i : Int32} {n : ℕ} (hi : i.toInt = n) : ¬i ≥ maxIterations ↔ n < 5 := by
  have hfive : maxIterations.toInt = 5 := by decide
  show ¬maxIterations ≤ i ↔ n < 5
  rw [Int32.le_iff_toInt_le, hfive, hi]
  omega

/-! ### The step lemma -/

/-- A queue of at most four pending blocks accepts an insertion. -/
theorem accepts_of_few {accepts : ℕ → Bool} (hacc : ∀ total, total < highWaterMark → accepts total = true)
    {q : MessageQueue Char} (hq : ∀ m ∈ q, Pending m) (hlen : q.length ≤ 4) :
    accepts q.totalSize = true := by
  apply hacc
  rw [totalSize_of_pending hq]
  show 128 * q.length < 16384
  omega

/-- The loop of `handle_output` keeps the bound; its put-back is accepted. -/
theorem DrainEffect.bounded {env : OutputResults} {s t : Client} {n : ℕ} (h : DrainEffect env s t)
    (hacc : ∀ total, total < highWaterMark → env.accepts total = true) (hwf : WellFormed s)
    (hs : Bounded n s) : Bounded n t := by
  have hout := h.outgoing_eq
  cases h with
  | drained _ =>
    exact ⟨hs.counter, Nat.zero_le n, Nat.zero_le 4, hs.rejected, (hout rfl).trans hs.text⟩
  | putBack front m rest r hq _ _ _ =>
    have hlen : s.queue.length = front.length + (rest.length + 1) := by simp [hq]
    have hn := hs.queued
    have hfew := hs.few
    refine ⟨hs.counter, ?_, ?_, hs.rejected, (hout rfl).trans hs.text⟩
    · show rest.length + 1 ≤ n
      omega
    · show rest.length + 1 ≤ 4
      omega
  | rejected front m rest r hq _ _ ha =>
    exfalso
    have hlen : s.queue.length = front.length + (rest.length + 1) := by simp [hq]
    have hfew := hs.few
    have hrest : ∀ m' ∈ rest, Pending m' := fun m' hm' => hwf.pending m' (by rw [hq]; simp [hm'])
    have htrue := accepts_of_few hacc hrest (by omega)
    rw [ha] at htrue
    cases htrue

theorem OutputCall.bounded {s s₀ : Client} {d : Dispatch} {env : OutputResults} {n : ℕ}
    (h : OutputCall s d env s₀) (hs : Bounded n s) : Bounded n s₀ := by
  cases h with
  | notified _ _ => exact ⟨hs.counter, hs.queued, hs.few, hs.rejected, hs.text⟩
  | writable _ _ => exact hs

/-- A callback of `handle_output` is flow-controlled as its dispatch is, and is no expiry. -/
theorem OutputCall.dispatch {s s₀ : Client} {d : Dispatch} {env : OutputResults}
    (h : OutputCall s d env s₀) : isTimeout d = false ∧
      (FlowControlled d → ∀ total, total < highWaterMark → env.accepts total = true) := by
  cases h with
  | notified _ _ => exact ⟨rfl, id⟩
  | writable _ _ => exact ⟨rfl, id⟩

/-- **The step lemma.** -/
theorem step_bounded {s s' : Client} {d : Dispatch} {n : ℕ} (hwf : WellFormed s) (hs : Bounded n s)
    (hflow : FlowControlled d) (hn : n + (if isTimeout d then 1 else 0) < 2 ^ 31)
    (h : step super s d = some s') :
    Bounded (n + if isTimeout d then 1 else 0) s' := by
  have hqueued := hs.queued
  cases step_effect hwf.noneEmpty h with
  | writerClosed _ _ =>
    exact ⟨toInt_tick hs.counter hn, Nat.le_succ_of_le hqueued, hs.few, hs.rejected, hs.text⟩
  | unallocated _ _ _ =>
    exact ⟨toInt_tick hs.counter hn, Nat.le_succ_of_le hqueued, hs.few, hs.rejected, hs.text⟩
  | refused env _ _ hr =>
    have htrue := accepts_of_few hflow hwf.pending hs.few
    rw [hr] at htrue
    cases htrue
  | enqueued env hi _ _ =>
    have hcounter := toInt_tick hs.counter hn
    have hlt := (not_maxIterations_iff hcounter).mp hi
    have hlen : (s.queue ++ [iterationMessage (s.numIterations + 1)]).length = s.queue.length + 1 := by
      simp
    refine ⟨hcounter, ?_, ?_, hs.rejected, ?_⟩
    · show (s.queue ++ [iterationMessage (s.numIterations + 1)]).length ≤ n + 1
      omega
    · show (s.queue ++ [iterationMessage (s.numIterations + 1)]).length ≤ 4
      omega
    · rw [outgoing_enqueued, hs.text]
      rfl
  | output _ env _ t hcall ht =>
    obtain ⟨htimeout, hacc⟩ := hcall.dispatch
    have ht' := ht.bounded (hacc hflow) (hcall.wellFormed hwf) (hcall.bounded hs)
    rw [htimeout, adjustWakeup_eq]
    exact ⟨ht'.counter, ht'.queued, ht'.few, ht'.rejected, ht'.text⟩
  | idle _ _ => exact hs
  | ended _ _ => exact ⟨hs.counter, hs.queued, hs.few, hs.rejected, hs.text⟩

/-! ### Whole runs -/

theorem opened_bounded : Bounded 0 opened := ⟨by decide, Nat.le_refl 0, Nat.zero_le 4, rfl, rfl⟩

/-- **The run lemma.** -/
theorem run_bounded {ds : List Dispatch} {s : Client} (hflow : ∀ d ∈ ds, FlowControlled d)
    (hticks : ticks ds < 2 ^ 31) (hrun : run (step super) opened ds = some s) : Bounded (ticks ds) s := by
  have hinv := run_history (I := fun ds s => WellFormed s ∧
    ((∀ d ∈ ds, FlowControlled d) → ticks ds < 2 ^ 31 → Bounded (ticks ds) s)) ?start ?step hrun
  case start => exact ⟨opened_wellFormed, fun _ _ => opened_bounded⟩
  case step =>
    rintro ds s d s' ⟨hwf, hI⟩ h
    refine ⟨step_wellFormed hwf h, ?_⟩
    intro hflow hticks
    rw [ticks_snoc] at hticks ⊢
    have hs := hI (fun d' hd' => hflow d' (List.mem_append_left _ hd')) (by omega)
    exact step_bounded hwf hs (hflow d (List.mem_append_right _ List.mem_cons_self)) (by omega) h
  exact hinv.2 hflow hticks

/-- **Conservation.**  Let insertions be rejected only at the high-water mark, and let the timer expire fewer
than `2 ^ 31` times.  In every state that a run reaches, the bytes accepted by `send`, followed by the unread
bytes of the queued messages in queue order, are the texts of all messages built so far in the order in which
they were built, and neither `putq` nor `ungetq` has been rejected. -/
theorem sends_in_order_without_loss (super : SvcHandler) (ds : List Dispatch) (s : Client)
    (hflow : ∀ d ∈ ds, FlowControlled d) (hticks : ticks ds < 2 ^ 31)
    (hrun : run (step super) opened ds = some s) :
    s.sent ++ s.queue.unread = s.built ∧ s.rejected = 0 :=
  have hs := run_bounded hflow hticks hrun
  ⟨hs.text, hs.rejected⟩

/-- Two messages, the first of which is sent in part and put back before the second is built. -/
def putBackBetween : List Dispatch :=
  [.timeout ⟨true, (· < highWaterMark)⟩, .notified ⟨[.part 3], (· < highWaterMark)⟩,
    .timeout ⟨true, (· < highWaterMark)⟩, .writable ⟨[.all, .part 1], (· < highWaterMark)⟩]

theorem sends_in_order_putBackBetween :
    ∃ s, run (step svcHandler) opened putBackBetween = some s ∧ s.queue.length = 1 ∧
      s.sent ++ s.queue.unread = s.built ∧ s.rejected = 0 :=
  ⟨_, rfl, rfl, sends_in_order_without_loss svcHandler putBackBetween _
    (by simp [putBackBetween, FlowControlled]) (by decide) rfl⟩

end AceSamples.Client5
