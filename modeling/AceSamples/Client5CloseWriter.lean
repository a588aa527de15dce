import AceSamples.Client5Effects
import Mathlib.Data.List.Forall2

/-!
# When Client5-ace closes its writer

`handle_timeout` closes the writing side of the connection from its fifth call on, whatever the queue holds.
How many messages are queued at that moment is fixed by the results of the calls alone.  `tally` counts them
from the script, without the code: an accepted message of a timer expiry adds one, a call of `handle_output`
removes those whose sends were whole, and one more where the put-back is rejected.

* `step_tally` — a dispatch keeps the handler and the tally in step (`Tallied`);
* `writer_closed_after_all_sent_iff` — every `close_writer` of a run finds an empty queue, with all enqueued
  bytes sent, exactly when the tally was zero at each of them;
* `writer_closed_early` — four expiries that the socket does not keep up with are enough to violate it.
-/

set_option autoImplicit false

namespace AceSamples.Client5

open AceSamples.AceSocket AceSamples.AceMessageQueue AceSamples.ScriptedRun

variable {super : SvcHandler}

/-! ### Counting from the script -/

/-- The counter, the number of queued messages, the number of messages lost by a rejected put-back, and the
last two at each `close_writer`. -/
structure Tally where
  iterations : Int32
  queued : ℕ
  lost : ℕ
  closings : List (ℕ × ℕ)
  deriving DecidableEq

/-- A call of `handle_output`. -/
def tallyOutput (env : OutputResults) (t : Tally) : Tally :=
  let whole := wholeSends env.sends
  if t.queued ≤ whole then { t with queued := 0 }
  else if env.accepts (blockSize * (t.queued - whole - 1)) then { t with queued := t.queued - whole }
  else { t with queued := t.queued - whole - 1, lost := t.lost + 1 }

/-- An expiry of the timer. -/
def tallyTimeout (env : TimeoutResults) (t : Tally) : Tally :=
  let i := t.iterations + 1
  if i ≥ maxIterations then { t with iterations := i, closings := t.closings ++ [(t.queued, t.lost)] }
  else if env.allocated && env.accepts (blockSize * t.queued) then
    { t with iterations := i, queued := t.queued + 1 }
  else { t with iterations := i }

def tallyStep (t : Tally) : Dispatch → Tally
  | .timeout env => tallyTimeout env t
  | .notified env => tallyOutput env t
  | .writable env => tallyOutput env t
  | .readable _ => t

/-- The tally of a script. -/
def tally (ds : List Dispatch) : Tally := ds.foldl tallyStep ⟨0, 0, 0, []⟩

/-! ### The handler and its tally -/

/-- Nothing is left to send at a `close_writer`. -/
def AllSent (c : Closing) : Prop := c.queue = [] ∧ c.sent = c.enqueued

/-- With nothing lost the outgoing bytes are those that have been enqueued; otherwise they are fewer. -/
def Accounted (s : Client) (lost : ℕ) : Prop :=
  (lost = 0 → outgoing s = s.enqueued) ∧ (lost ≠ 0 → (outgoing s).length < s.enqueued.length)

/-- The handler and its tally agree. -/
structure Tallied (s : Client) (t : Tally) : Prop where
  wellFormed : WellFormed s
  iterations : s.numIterations = t.iterations
  queued : s.queue.length = t.queued
  accounted : Accounted s t.lost
  closings : List.Forall₂ (fun c k => AllSent c ↔ k = (0, 0)) s.closings t.closings

/-- What a closing shows now. -/
theorem Tallied.allSent_iff {s : Client} {t : Tally} (h : Tallied s t) :
    AllSent ⟨s.queue, s.sent, s.enqueued⟩ ↔ (t.queued, t.lost) = (0, 0) := by
  have hqueue : s.queue = [] ↔ t.queued = 0 := by
    rw [← h.queued]
    exact List.length_eq_zero_iff.symm
  rw [Prod.mk.injEq, ← hqueue]
  constructor
  · rintro ⟨hq, hsent⟩
    refine ⟨hq, ?_⟩
    by_contra hlost
    have hlt := h.accounted.2 hlost
    have hout : outgoing s = s.enqueued := by
      rw [outgoing, show s.queue = [] from hq, MessageQueue.unread_nil, List.append_nil]
      exact hsent
    rw [hout] at hlt
    exact Nat.lt_irrefl _ hlt
  · rintro ⟨hq, hlost⟩
    refine ⟨hq, ?_⟩
    have hout := h.accounted.1 hlost
    rw [outgoing, hq, MessageQueue.unread_nil, List.append_nil] at hout
    exact hout

/-- The effect of the loop on the number of queued messages is the one that `tallyOutput` computes. -/
theorem DrainEffect.tallied {env : OutputResults} {s t : Client} {k : Tally} (h : DrainEffect env s t)
    (hs : Tallied s k) : Tallied t (tallyOutput env k) := by
  have hwf := h.wellFormed hs.wellFormed
  have hout := h.outgoing_eq
  have hless := h.outgoing_lt hs.wellFormed.noneEmpty
  have hqueued := hs.queued
  cases h with
  | drained hle =>
    have heq : tallyOutput env k = { k with queued := 0 } := by
      unfold tallyOutput
      exact if_pos (by omega)
    rw [heq]
    refine ⟨hwf, hs.iterations, rfl, ?_, hs.closings⟩
    simp only [Accounted, hout rfl]
    exact hs.accounted
  | putBack front m rest r hq hwhole _ ha =>
    have hlen : s.queue.length = front.length + (rest.length + 1) := by simp [hq]
    have hrest : ∀ m' ∈ rest, Pending m' :=
      fun m' hm' => hs.wellFormed.pending m' (by rw [hq]; simp [hm'])
    have hleft : k.queued - wholeSends env.sends - 1 = rest.length := by omega
    have heq : tallyOutput env k = { k with queued := k.queued - wholeSends env.sends } := by
      rw [totalSize_of_pending hrest] at ha
      simp only [tallyOutput, hleft, ha, if_true]
      exact if_neg (by omega)
    rw [heq]
    refine ⟨hwf, hs.iterations, ?_, ?_, hs.closings⟩
    · show rest.length + 1 = k.queued - wholeSends env.sends
      omega
    · simp only [Accounted, hout rfl]
      exact hs.accounted
  | rejected front m rest r hq hwhole _ ha =>
    have hlen : s.queue.length = front.length + (rest.length + 1) := by simp [hq]
    have hrest : ∀ m' ∈ rest, Pending m' :=
      fun m' hm' => hs.wellFormed.pending m' (by rw [hq]; simp [hm'])
    have hleft : k.queued - wholeSends env.sends - 1 = rest.length := by omega
    have heq : tallyOutput env k = { k with queued := rest.length, lost := k.lost + 1 } := by
      rw [totalSize_of_pending hrest] at ha
      simp only [tallyOutput, hleft, ha, Bool.false_eq_true, if_false]
      exact if_neg (by omega)
    rw [heq]
    refine ⟨hwf, hs.iterations, rfl, ⟨fun h => absurd h (Nat.succ_ne_zero _), fun _ => ?_⟩, hs.closings⟩
    -- what was there before did not exceed what has been enqueued
    have hle : (outgoing s).length ≤ s.enqueued.length := by
      by_cases hlost : k.lost = 0
      · rw [hs.accounted.1 hlost]
      · exact Nat.le_of_lt (hs.accounted.2 hlost)
    exact Nat.lt_of_lt_of_le (hless rfl) hle

theorem OutputCall.tallied {s s₀ : Client} {d : Dispatch} {env : OutputResults} {k : Tally}
    (h : OutputCall s d env s₀) (hs : Tallied s k) :
    Tallied s₀ k ∧ tallyStep k d = tallyOutput env k := by
  cases h with
  | notified _ _ =>
    have hwf : WellFormed s.takeNotification := ⟨hs.wellFormed.misused, hs.wellFormed.pending⟩
    exact ⟨⟨hwf, hs.iterations, hs.queued, hs.accounted, hs.closings⟩, rfl⟩
  | writable _ _ => exact ⟨hs, rfl⟩

/-- **The step lemma.** -/
theorem step_tally {s s' : Client} {d : Dispatch} {k : Tally} (hs : Tallied s k)
    (h : step super s d = some s') : Tallied s' (tallyStep k d) := by
  have hwf := step_wellFormed hs.wellFormed h
  have htotal : s.queue.totalSize = blockSize * k.queued := by
    rw [totalSize_of_pending hs.wellFormed.pending, hs.queued]
  cases step_effect hs.wellFormed.noneEmpty h with
  | writerClosed env hi =>
    rw [hs.iterations] at hi
    have heq : tallyStep k (.timeout env) =
        { k with iterations := k.iterations + 1, closings := k.closings ++ [(k.queued, k.lost)] } := by
      simp only [tallyStep, tallyTimeout, if_pos hi]
    rw [heq]
    refine ⟨hwf, congrArg (· + 1) hs.iterations, hs.queued, hs.accounted, ?_⟩
    exact List.rel_append hs.closings (.cons hs.allSent_iff .nil)
  | unallocated env hi ha =>
    rw [hs.iterations] at hi
    have heq : tallyStep k (.timeout env) = { k with iterations := k.iterations + 1 } := by
      simp only [tallyStep, tallyTimeout, if_neg hi, ha, Bool.false_and, Bool.false_eq_true, if_false]
    rw [heq]
    exact ⟨hwf, congrArg (· + 1) hs.iterations, hs.queued, hs.accounted, hs.closings⟩
  | refused env hi ha hr =>
    rw [hs.iterations] at hi
    rw [htotal] at hr
    have heq : tallyStep k (.timeout env) = { k with iterations := k.iterations + 1 } := by
      simp only [tallyStep, tallyTimeout, if_neg hi, hr, Bool.and_false, Bool.false_eq_true, if_false]
    rw [heq]
    exact ⟨hwf, congrArg (· + 1) hs.iterations, hs.queued, hs.accounted, hs.closings⟩
  | enqueued env hi ha hr =>
    rw [hs.iterations] at hi
    rw [htotal] at hr
    have heq : tallyStep k (.timeout env) =
        { k with iterations := k.iterations + 1, queued := k.queued + 1 } := by
      simp only [tallyStep, tallyTimeout, if_neg hi, ha, hr, Bool.and_self, if_true]
    rw [heq]
    refine ⟨hwf, congrArg (· + 1) hs.iterations, ?_, ?_, hs.closings⟩
    · show (s.queue ++ [iterationMessage (s.numIterations + 1)]).length = k.queued + 1
      rw [List.length_append, hs.queued]
      rfl
    · -- the text is added to what is outgoing and to what has been enqueued
      unfold Accounted
      rw [outgoing_enqueued]
      refine ⟨fun h0 => congrArg (· ++ _) (hs.accounted.1 h0), ?_⟩
      intro h0
      have hlt := hs.accounted.2 h0
      show _ < (s.enqueued ++ iterationText (s.numIterations + 1)).length
      simp only [List.length_append]
      omega
  | output _ env _ t hcall ht =>
    obtain ⟨hs₀, heq⟩ := hcall.tallied hs
    have ht' := ht.tallied hs₀
    rw [heq]
    rw [adjustWakeup_eq] at hwf ⊢
    exact ⟨hwf, ht'.iterations, ht'.queued, ht'.accounted, ht'.closings⟩
  | idle _ _ => exact hs
  | ended _ _ => exact ⟨hwf, hs.iterations, hs.queued, hs.accounted, hs.closings⟩

/-! ### Whole runs -/

/-- **The run lemma.** -/
theorem run_tally {ds : List Dispatch} {s : Client} (hrun : run (step super) opened ds = some s) :
    Tallied s (tally ds) := by
  have hstart : Tallied opened ⟨0, 0, 0, []⟩ :=
    ⟨opened_wellFormed, rfl, rfl, ⟨fun _ => rfl, fun h => absurd rfl h⟩, .nil⟩
  have hstep : ∀ (s : Client) (d : Dispatch) (s' : Client) (k : Tally), Tallied s k → True →
      step super s d = some s' → Tallied s' (tallyStep k d) := fun _ _ _ _ hs _ h => step_tally hs h
  exact run_simulates hstep hstart (along_of_forall (fun _ _ => trivial) ds opened) hrun

theorem forall_iff_of_forall₂ {α γ : Type*} {p : α → Prop} {q : γ → Prop} {as : List α} {cs : List γ}
    (h : List.Forall₂ (fun a c => p a ↔ q c) as cs) : (∀ a ∈ as, p a) ↔ ∀ c ∈ cs, q c := by
  induction h with
  | nil => simp
  | cons h _ ih => simp only [List.forall_mem_cons, h, ih]

/-- **Closing the writer.**  In every run, every `close_writer` finds the queue empty with all enqueued bytes
accepted by the socket, if and only if at each of the timer expiries that close the writer the script has
left no message queued and lost none. -/
theorem writer_closed_after_all_sent_iff (super : SvcHandler) (ds : List Dispatch) (s : Client)
    (hrun : run (step super) opened ds = some s) :
    (∀ c ∈ s.closings, AllSent c) ↔ ∀ k ∈ (tally ds).closings, k = (0, 0) :=
  forall_iff_of_forall₂ (run_tally hrun).closings

/-- An expiry of the timer at which nothing fails. -/
def expiry : Dispatch := .timeout ⟨true, fun _ => true⟩

/-- Four messages are enqueued while the socket is full; the fifth expiry closes the writer. -/
def slowPeer : List Dispatch :=
  [expiry, .notified ⟨[.wouldBlock], fun _ => true⟩, expiry, expiry, expiry, expiry]

theorem writer_closed_early :
    (run (step svcHandler) opened slowPeer).map (fun s => s.closings.map fun c => (c.queue.length, c.sent))
      = some [(4, [])] := by
  decide

/-- The same expiries with a peer that reads: every message is sent at once. -/
def fastPeer : List Dispatch :=
  [expiry, .notified ⟨[.all], fun _ => true⟩, expiry, expiry, expiry,
    .notified ⟨[.all, .all, .all], fun _ => true⟩, expiry]

theorem writer_closed_after_all_sent_fastPeer :
    ∃ s, run (step svcHandler) opened fastPeer = some s ∧ s.closings.length = 1 ∧
      ((∀ c ∈ s.closings, AllSent c) ↔ ∀ k ∈ (tally fastPeer).closings, k = (0, 0)) :=
  ⟨_, rfl, rfl, writer_closed_after_all_sent_iff svcHandler fastPeer _ rfl⟩

end AceSamples.Client5
