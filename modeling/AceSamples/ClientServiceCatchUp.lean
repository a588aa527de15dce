import AceSamples.ClientServiceTally

/-!
# The drain of a connection never catches up

What the socket does not take of a received chunk is queued, and `handle_output` sends it later; but it never sends
the last message of the queue, which stays for as long as no other one stands behind it, or is dropped.  So a
connection that has fallen behind once stays behind.

* `TakenWhole` — the direct send of a dispatch takes the whole chunk;
* `dispatchInput_sent_lt`, `OutputEffect.sent_lt` — a callback that leaves something unsent;
* `sent_eq_received_iff` — everything received has been sent if and only if every direct send took its whole chunk.
-/

set_option autoImplicit false

namespace AceSamples.ClientService

open AceSamples.AceSocket AceSamples.AceMessageQueue AceSamples.ScriptedRun

variable {β : Type*} {srv : Server}

/-- The direct send of a dispatch takes the whole chunk. -/
def TakenWhole : Dispatch β → Prop
  | .input env => ∀ c, env.recv = .data c → env.send = .all
  | .output _ => True

/-! ### One callback -/

/-- A whole send takes what has been received. -/
theorem taken_whole {env : InputResults β} (h : TakenWhole (.input env)) : taken env = env.recv.bytes := by
  cases hr : env.recv with
  | data c =>
    rw [taken, h c hr, SendResult.accepted_all, List.take_length, hr]
  | closed =>
    rw [taken, hr]
    exact List.take_nil
  | failed =>
    rw [taken, hr]
    exact List.take_nil

/-- Any other send leaves a byte. -/
theorem taken_short {env : InputResults β} (h : ¬TakenWhole (.input env)) :
    (taken env).length < env.recv.bytes.length := by
  have hchunk : ∃ c, env.recv = .data c ∧ env.send ≠ .all := by
    by_contra hnone
    refine h fun c hc => ?_
    by_contra hall
    exact hnone ⟨c, hc, hall⟩
  obtain ⟨c, hc, hall⟩ := hchunk
  have hlt : env.send.accepted c.bytes.length < c.bytes.length := SendResult.accepted_lt hall c.pos
  rw [taken, hc, List.length_take]
  show min (env.send.accepted c.bytes.length) c.bytes.length < c.bytes.length
  omega

theorem dispatchInput_sent_lt (srv : Server) {env : InputResults β} (s : Service β) (h : ¬TakenWhole (.input env)) :
    (dispatchInput srv env s).sent.length < s.sent.length + env.recv.bytes.length := by
  have hshort := taken_short h
  rw [dispatchInput_sent, List.length_append]
  omega

/-- **One drain.**  The last message is not sent. -/
theorem OutputEffect.sent_lt {env : OutputResults β} {s s' : Service β} {rc : ℤ} (h : OutputEffect env s rc s')
    (hfull : s.queue.NoneEmpty) : s'.sent.length < (outgoing s).length := by
  -- there is a message behind, or in the place of, those that have been sent
  have hbehind : ∀ (front : MessageQueue β) (m : MessageBlock β) (rest : MessageQueue β) (k : ℕ),
      s.queue = front ++ m :: rest → k < m.unread.length →
      (s.sent ++ (front.unread ++ m.unread.take k)).length < (outgoing s).length := by
    intro front m rest k hq hk
    rw [outgoing, hq, MessageQueue.unread_append, MessageQueue.unread_cons]
    simp only [List.length_append, List.length_take]
    omega
  cases h with
  | drained front last hq _ =>
    have hlast : 0 < last.unread.length := List.length_pos_iff.mpr (hfull last (by rw [hq]; simp))
    have hlt := hbehind front last [] 0 hq hlast
    rw [List.take_zero, List.append_nil] at hlt
    exact hlt
  | putBack front m rest r hq _ _ hr _ =>
    have hm : 0 < m.unread.length := List.length_pos_iff.mpr (hfull m (by rw [hq]; simp))
    exact hbehind front m rest _ hq (SendResult.accepted_lt hr hm)
  | refused front m rest r hq _ _ hr _ =>
    have hm : 0 < m.unread.length := List.length_pos_iff.mpr (hfull m (by rw [hq]; simp))
    exact hbehind front m rest _ hq (SendResult.accepted_lt hr hm)

/-! ### Whole runs -/

/-- A connection that has sent everything without using its queue, or that is behind. -/
def EvenOrBehind (ds : List (Dispatch β)) (s : Service β) : Prop :=
  (∀ d ∈ ds, TakenWhole d) ∧ s.sent = received ds ∧ s.queue = [] ∨
    ¬(∀ d ∈ ds, TakenWhole d) ∧ s.sent.length < (received ds).length

/-- A READ dispatch whose direct send takes the whole chunk does not use the queue. -/
theorem dispatchInput_queue {env : InputResults β} {s : Service β} (hs : Serving s)
    (h : TakenWhole (.input env)) (hq : s.queue = []) : (dispatchInput srv env s).queue = [] := by
  obtain ⟨hgone, hserving⟩ := dispatchInput_spec srv env hs
  by_cases hrc : (handleInput srv env s).1 = -1
  · exact (hgone hrc).queue
  · obtain ⟨hserved, hsame⟩ := hserving hrc
    obtain ⟨appended, lost, hchunk, _, hqueue⟩ := (handleInput_effect srv env s).splits
    rw [← taken_whole h, List.append_assoc, List.append_right_eq_self, List.append_eq_nil_iff] at hchunk
    rw [hq, hchunk.1, MessageQueue.unread_nil, List.append_nil, ← hsame] at hqueue
    exact hserved.noneEmpty.unread_eq_nil.mp hqueue

/-- **The step lemma.** -/
theorem step_evenOrBehind {ds : List (Dispatch β)} {s s' : Service β} {d : Dispatch β} (hs : Serving s)
    (hle : (outgoing s).length ≤ (received ds).length) (hinv : EvenOrBehind ds s)
    (h : step srv s d = some s') : EvenOrBehind (ds ++ [d]) s' := by
  have hsnoc : (∀ d' ∈ ds ++ [d], TakenWhole d') ↔ (∀ d' ∈ ds, TakenWhole d') ∧ TakenWhole d := by
    simp only [List.forall_mem_append, List.forall_mem_singleton]
  have hsent : s.sent.length ≤ (received ds).length := by
    rw [outgoing, List.length_append] at hle
    omega
  rw [EvenOrBehind, hsnoc, received_snoc, List.length_append]
  cases d with
  | input env =>
    rw [step_input hs h]
    show _ ∧ _ = received ds ++ env.recv.bytes ∧ _ ∨ _ ∧ _ < _ + env.recv.bytes.length
    by_cases hwhole : TakenWhole (.input env)
    · rw [dispatchInput_sent, taken_whole hwhole]
      obtain ⟨hall, heven, hq⟩ | ⟨hnot, hlt⟩ := hinv
      · rw [heven]
        exact Or.inl ⟨⟨hall, hwhole⟩, rfl, dispatchInput_queue hs hwhole hq⟩
      · rw [List.length_append]
        exact Or.inr ⟨fun hall => hnot hall.1, Nat.add_lt_add_right hlt _⟩
    · have hlt := dispatchInput_sent_lt srv s hwhole
      exact Or.inr ⟨fun hall => hwhole hall.2, by omega⟩
  | output env =>
    obtain ⟨hw, rfl⟩ := step_output hs h
    obtain ⟨rc, t, hout, heff⟩ := handleOutput_effect srv env s (hs.write.mp hw) hs.noneEmpty
    obtain ⟨_, _, hq⟩ | ⟨hnot, _⟩ := hinv
    · exact absurd hq (hs.write.mp hw)
    · refine Or.inr ⟨fun hall => hnot hall.1, ?_⟩
      rw [dispatchOutput_sent hout]
      exact Nat.lt_of_lt_of_le (heff.sent_lt hs.noneEmpty) (hle.trans (Nat.le_add_right _ _))

/-- **The run lemma.** -/
theorem run_evenOrBehind {ds : List (Dispatch β)} {s : Service β}
    (hrun : run (step srv) (opened srv) ds = some s) : EvenOrBehind ds s := by
  refine run_history_reached (I := EvenOrBehind) ?start ?step hrun
  case start =>
    refine Or.inl ⟨fun d hd => absurd hd List.not_mem_nil, ?_⟩
    cases srv <;> exact ⟨rfl, rfl⟩
  case step =>
    intro ds s d s' hrun hI h
    obtain hs | hs := run_serving_or_gone hrun
    · exact step_evenOrBehind hs (length_outgoing_le hrun) hI h
    · rw [step_gone hs d] at h
      cases h

theorem run_sent_eq_received_iff {ds : List (Dispatch β)} {s : Service β}
    (hrun : run (step srv) (opened srv) ds = some s) : s.sent = received ds ↔ ∀ d ∈ ds, TakenWhole d := by
  obtain ⟨hall, heven, _⟩ | ⟨hnot, hlt⟩ := run_evenOrBehind hrun
  · exact iff_of_true heven hall
  · refine iff_of_false ?_ hnot
    intro heq
    rw [heq] at hlt
    exact Nat.lt_irrefl _ hlt

/-- **Once behind, always behind.**  In every state of every run, what has been sent is what has been received if and
only if every direct send so far has taken its whole chunk.  A byte that had to wait in the queue, or was lost, keeps
the echo incomplete for ever, however the run goes on. -/
theorem sent_eq_received_iff (srv : Server) (ds : List (Dispatch β)) (s : Service β)
    (hrun : run (step srv) (opened srv) ds = some s) :
    s.sent = received ds ↔ ∀ d ∈ ds, TakenWhole d :=
  run_sent_eq_received_iff hrun

/-- The socket takes all that is asked of it from the second chunk on, and yet the first byte is missing. -/
def firstByteMissing : List (Dispatch ℕ) :=
  [arrival ⟨[16], by decide, by decide⟩ .wouldBlock, arrival ⟨[17], by decide, by decide⟩ .all,
    .output ⟨[.all, .all], fun _ => true⟩, arrival ⟨[18], by decide, by decide⟩ .all]

theorem sent_eq_received_firstByteMissing :
    ∃ s, run (step .server3) (opened .server3) firstByteMissing = some s ∧ s.sent = [17, 18] ∧ s.queue = [] ∧
      (s.sent = received firstByteMissing ↔ ∀ d ∈ firstByteMissing, TakenWhole d) :=
  ⟨_, rfl, rfl, rfl, sent_eq_received_iff .server3 firstByteMissing _ rfl⟩

end AceSamples.ClientService
