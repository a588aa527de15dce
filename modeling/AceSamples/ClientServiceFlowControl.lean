import AceSamples.ClientServiceEndOfStream

/-!
# The backlog of a connection is bounded

A queue with a high-water mark rejects an insertion once the total size of its blocks has reached the mark, and
accepts it otherwise, whatever its size.  A peer that keeps sending and never reads can therefore fill the
queue up to the mark and by one more block, and no further: a message that is put back was in the queue before.

* `FlowControlled` — the queue decides every insertion of a dispatch by its mark;
* `Bounded` — no block is larger than what one `recv` delivers, and the total exceeds the mark by less than
  that;
* `InputEffect.bounded`, `OutputEffect.bounded`, `step_bounded` — each dispatch preserves it;
* `backlog_bounded` — it holds in every state of every run.
-/

set_option autoImplicit false

namespace AceSamples.ClientService

open AceSamples.AceSocket AceSamples.AceMessageQueue AceSamples.ScriptedRun

variable {β : Type*} {srv : Server} {highWaterMark : ℕ}

/-- The insertions of a dispatch are accepted exactly while the queue is below its high-water mark. -/
def FlowControlled (highWaterMark : ℕ) : Dispatch β → Prop
  | .input env => env.accepts = MessageQueue.belowMark highWaterMark
  | .output env => env.accepts = MessageQueue.belowMark highWaterMark

/-- The bounds on the blocks of a queue and on their total. -/
structure Bounded (highWaterMark : ℕ) (q : MessageQueue β) : Prop where
  block : ∀ m ∈ q, m.size ≤ inputSize
  total : q.totalSize < highWaterMark + inputSize

theorem bounded_nil : Bounded highWaterMark ([] : MessageQueue β) := by
  refine ⟨(fun m hm => nomatch hm), ?_⟩
  show 0 < highWaterMark + 4096
  omega

/-- An insertion at the tail is only accepted below the mark. -/
theorem Bounded.append {q : MessageQueue β} (h : Bounded highWaterMark q) {m : MessageBlock β}
    (hm : m.size ≤ inputSize) (haccepts : MessageQueue.belowMark highWaterMark q = true) :
    Bounded highWaterMark (q ++ [m]) := by
  refine ⟨?_, ?_⟩
  · intro m' hm'
    obtain hm' | hm' := List.mem_append.mp hm'
    · exact h.block m' hm'
    · rw [List.mem_singleton.mp hm']
      exact hm
  · have hbelow : q.totalSize < highWaterMark := of_decide_eq_true haccepts
    have hsize : MessageQueue.totalSize [m] = m.size := Nat.add_zero _
    rw [MessageQueue.totalSize_append, hsize]
    omega

/-- What is left behind the messages sent is within the bounds. -/
theorem Bounded.suffix {front rest : MessageQueue β} (h : Bounded highWaterMark (front ++ rest)) :
    Bounded highWaterMark rest := by
  refine ⟨fun m hm => h.block m (List.mem_append_right front hm), ?_⟩
  have htotal := h.total
  rw [MessageQueue.totalSize_append] at htotal
  omega

/-- A message that has been sent in part still takes the whole of its block. -/
theorem Bounded.rdPtr {m : MessageBlock β} {rest : MessageQueue β}
    (h : Bounded highWaterMark (m :: rest)) (k : ℕ) : Bounded highWaterMark (m.rdPtr k :: rest) := by
  refine ⟨?_, h.total⟩
  intro m' hm'
  obtain rfl | hm' := List.mem_cons.mp hm'
  · exact h.block m List.mem_cons_self
  · exact h.block m' (List.mem_cons_of_mem m hm')

/-! ### The step lemma -/

theorem leftover_size_le (r : SendResult) (c : Chunk β inputSize) : (leftover r c).size ≤ inputSize := by
  have hle := c.le
  show c.bytes.length - r.accepted c.bytes.length ≤ inputSize
  omega

theorem InputEffect.bounded {env : InputResults β} {s s' : Service β} {rc : ℤ}
    (h : InputEffect env s rc s') (hs : Bounded highWaterMark s.queue)
    (hflow : FlowControlled highWaterMark (.input env)) : Bounded highWaterMark s'.queue := by
  have happend : env.accepts s.queue = true → ∀ c, Bounded highWaterMark (s.queue ++ [leftover env.send c]) := by
    intro haccepts c
    rw [show env.accepts = MessageQueue.belowMark highWaterMark from hflow] at haccepts
    exact hs.append (leftover_size_le env.send c) haccepts
  cases h with
  | ended _ => exact hs
  | whole c _ _ => exact hs
  | sendFailed c _ _ => exact hs
  | unallocated c _ _ _ _ => exact hs
  | rejected c _ _ _ _ _ => exact hs
  | queuedBehind c _ _ _ _ hr _ => exact happend hr c
  | queuedFirst c _ _ _ _ hr hq =>
    have hqueue := happend hr c
    rw [hq] at hqueue
    cases env.registered <;> exact hqueue

theorem OutputEffect.bounded {env : OutputResults β} {s s' : Service β} {rc : ℤ}
    (h : OutputEffect env s rc s') (hs : Bounded highWaterMark s.queue) : Bounded highWaterMark s'.queue := by
  cases h with
  | drained front last hq _ => exact bounded_nil
  | putBack front m rest r hq _ _ _ _ =>
    rw [hq] at hs
    exact hs.suffix.rdPtr _
  | refused front m rest r hq _ _ _ _ =>
    rw [hq, ← List.singleton_append, ← List.append_assoc] at hs
    exact hs.suffix

/-- **The step lemma.** -/
theorem step_bounded {s s' : Service β} {d : Dispatch β} (hs : Serving s)
    (hb : Bounded highWaterMark s.queue) (hflow : FlowControlled highWaterMark d)
    (h : step srv s d = some s') : Bounded highWaterMark s'.queue := by
  cases d with
  | input env =>
    rw [step_input hs h]
    obtain ⟨hgone, hserving⟩ := dispatchInput_spec srv env hs
    by_cases hrc : (handleInput srv env s).1 = -1
    · rw [(hgone hrc).queue]
      exact bounded_nil
    · rw [(hserving hrc).2]
      exact (handleInput_effect srv env s).bounded hb hflow
  | output env =>
    obtain ⟨hw, rfl⟩ := step_output hs h
    obtain ⟨rc, t, hout, heff⟩ := handleOutput_effect srv env s (hs.write.mp hw) hs.noneEmpty
    rw [dispatchOutput_queue hout]
    exact heff.bounded hb

/-! ### Whole runs -/

/-- **The run lemma.** -/
theorem run_bounded {ds : List (Dispatch β)} {s : Service β}
    (hflow : ∀ d ∈ ds, FlowControlled highWaterMark d)
    (hrun : run (step srv) (opened srv) ds = some s) :
    (Serving s ∨ Gone s) ∧ Bounded highWaterMark s.queue := by
  have hstep : ∀ (s : Service β) (d : Dispatch β) (s' : Service β),
      (Serving s ∨ Gone s) ∧ Bounded highWaterMark s.queue → FlowControlled highWaterMark d →
        step srv s d = some s' → (Serving s' ∨ Gone s') ∧ Bounded highWaterMark s'.queue := by
    intro s d s' hinv hd h
    obtain ⟨hs, hb⟩ := hinv
    refine ⟨step_serving_or_gone d hs h, ?_⟩
    obtain hs | hs := hs
    · exact step_bounded hs hb hd h
    · rw [step_gone hs d] at h
      cases h
  have hstart : Bounded highWaterMark (opened srv : Service β).queue := by
    cases srv <;> exact bounded_nil
  exact run_invariant_along hstep ⟨Or.inl opened_serving, hstart⟩ (along_of_mem hflow _) hrun

/-- **The backlog is bounded whatever the peer does.**  In every state of a connection between two dispatches,
each queued message has between `1` and `inputSize` bytes to send, in a block of at most `inputSize`, and the
total size of the blocks is below the high-water mark plus `inputSize`. -/
theorem backlog_bounded (srv : Server) (highWaterMark : ℕ) (ds : List (Dispatch β)) (s : Service β)
    (hflow : ∀ d ∈ ds, FlowControlled highWaterMark d)
    (hrun : run (step srv) (opened srv) ds = some s) :
    (∀ m ∈ s.queue, 1 ≤ m.length ∧ m.length ≤ inputSize ∧ m.size ≤ inputSize)
      ∧ s.queue.totalSize < highWaterMark + inputSize := by
  obtain ⟨hs, hb⟩ := run_bounded hflow hrun
  have hnone : s.queue.NoneEmpty := by
    obtain hs | hs := hs
    · exact hs.noneEmpty
    · rw [hs.queue]
      exact fun m hm => nomatch hm
  refine ⟨?_, hb.total⟩
  intro m hm
  have hpos : 1 ≤ m.length := List.length_pos_iff.mpr (hnone m hm)
  have hblock := hb.block m hm
  exact ⟨hpos, Nat.le_trans m.fits hblock, hblock⟩

/-- The chunks `[1]`, `[2, 3]` and `[4]` arrive at a full socket, and the mark is reached by the second. -/
def overMark : List (Dispatch ℕ) :=
  [.input ⟨.data ⟨[1], by decide, by decide⟩, .wouldBlock, true, MessageQueue.belowMark 2, true⟩,
    .input ⟨.data ⟨[2, 3], by decide, by decide⟩, .wouldBlock, true, MessageQueue.belowMark 2, true⟩,
    .input ⟨.data ⟨[4], by decide, by decide⟩, .wouldBlock, true, MessageQueue.belowMark 2, true⟩]

theorem backlog_bounded_overMark :
    ∃ s, run (step .server3) (opened .server3) overMark = some s ∧ s.queue.unread = [1, 2, 3]
      ∧ (∀ m ∈ s.queue, 1 ≤ m.length ∧ m.length ≤ inputSize ∧ m.size ≤ inputSize)
      ∧ s.queue.totalSize < 2 + inputSize :=
  ⟨_, rfl, rfl, backlog_bounded .server3 2 overMark _ (by simp [overMark, FlowControlled]) rfl⟩

end AceSamples.ClientService
