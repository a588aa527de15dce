import AceSamples.ClientServiceAccounting
import AceSamples.ClientServiceFlowControl

/-!
# Whether `handle_output` can put a message back

`handle_output` ignores the result of the insertion that puts a partly sent message back, and the queue may
reject it: an insertion is accepted whatever its size as long as the total is below the mark, so the blocks
*behind* the message taken out can reach the mark by themselves.

Whether that happens in a run is fixed by the lengths of the chunks and the results of the sends.

* `sizesAfter` — the sizes of the queued blocks, computed from the script of dispatches without the code;
* `Fits` — the blocks behind the message to be put back stay below the mark, and `PutBacksFit` — at every WRITE
  dispatch of a script;
* `putBacks_kept_iff` — every put-back of a run is accepted exactly when its script meets `PutBacksFit`;
* `putBack_rejected` — with the default mark, five chunks are enough to have one rejected.
-/

set_option autoImplicit false

namespace AceSamples.ClientService

open AceSamples.AceSocket AceSamples.AceMessageQueue AceSamples.ScriptedRun

variable {β : Type*} {srv : Server} {highWaterMark : ℕ}

/-! ### The property -/

/-- A WRITE dispatch has no put-back rejected, and what is left of the message that was not sent whole is at the
head of the queue again.  (The last message of the queue is never sent and never put back.) -/
def PutBackKept (srv : Server) (s : Service β) : Dispatch β → Prop
  | .input _ => True
  | .output env =>
    (dispatchOutput srv env s).refused = s.refused
      ∧ (wholeSends env.sends + 1 < s.queue.length →
        ∃ front m rest k, front.length = wholeSends env.sends
          ∧ PutBack s (dispatchOutput srv env s) front m rest k)

/-! ### The sizes of the queued blocks -/

/-- The sizes of the blocks of a queue. -/
def blockSizes (q : MessageQueue β) : List ℕ := q.map MessageBlock.size

/-- The total of a list of sizes. -/
def total : List ℕ → ℕ
  | [] => 0
  | n :: ns => n + total ns

theorem total_blockSizes (q : MessageQueue β) : total (blockSizes q) = q.totalSize := by
  induction q with
  | nil => rfl
  | cons m q ih =>
    show m.size + total (blockSizes q) = m.size + MessageQueue.totalSize q
    rw [ih]

/-- The sizes of the queued blocks after a dispatch that finds the sizes `ns`. -/
def sizesAfter (highWaterMark : ℕ) (ns : List ℕ) : Dispatch β → List ℕ
  | .input env =>
    match env.recv with
    | .data c =>
      if env.send = .all ∨ env.send = .failed ∨ highWaterMark ≤ total ns then ns
      else ns ++ [c.bytes.length - env.send.accepted c.bytes.length]
    | .closed => ns
    | .failed => ns
  | .output env =>
    if ns.length ≤ wholeSends env.sends + 1 then []
    else if total (ns.drop (wholeSends env.sends + 1)) < highWaterMark then ns.drop (wholeSends env.sends)
    else ns.drop (wholeSends env.sends + 1)

/-- The dispatch puts no message back, or the blocks behind it are below the mark. -/
def Fits (highWaterMark : ℕ) (ns : List ℕ) : Dispatch β → Prop
  | .input _ => True
  | .output env =>
    ns.length ≤ wholeSends env.sends + 1
      ∨ total (ns.drop (wholeSends env.sends + 1)) < highWaterMark

/-- Every dispatch of the script fits, with the sizes computed from the script. -/
def PutBacksFit (highWaterMark : ℕ) (ds : List (Dispatch β)) : Prop :=
  Along (fun ns d => some (sizesAfter highWaterMark ns d)) (Fits highWaterMark) [] ds

/-! ### The step lemma -/

/-- A connection that is gone, or is being served with blocks of these sizes queued. -/
def HasSizes (s : Service β) (ns : List ℕ) : Prop := Gone s ∨ Serving s ∧ blockSizes s.queue = ns

theorem InputEffect.sizes {env : InputResults β} {s s' : Service β} {rc : ℤ}
    (h : InputEffect env s rc s') (hflow : FlowControlled highWaterMark (.input env)) (hrc : rc ≠ -1) :
    blockSizes s'.queue = sizesAfter highWaterMark (blockSizes s.queue) (.input env) := by
  have hflow' : env.accepts = MessageQueue.belowMark highWaterMark := hflow
  have hunchanged : ∀ c, env.recv = .data c →
      (env.send = .all ∨ env.send = .failed ∨ env.accepts s.queue = false) →
      sizesAfter highWaterMark (blockSizes s.queue) (.input env) = blockSizes s.queue := by
    intro c hc hcase
    rw [hflow', MessageQueue.belowMark, decide_eq_false_iff_not, Nat.not_lt, ← total_blockSizes] at hcase
    simp only [sizesAfter, hc]
    rw [if_pos hcase]
  have hqueued : ∀ c, env.recv = .data c → env.send ≠ .all → env.send ≠ .failed →
      env.accepts s.queue = true →
      sizesAfter highWaterMark (blockSizes s.queue) (.input env)
        = blockSizes s.queue ++ [(leftover env.send c).size] := by
    intro c hc hall hfailed haccepts
    rw [hflow', MessageQueue.belowMark, decide_eq_true_iff, ← total_blockSizes] at haccepts
    simp only [sizesAfter, hc]
    rw [if_neg]
    · rfl
    · intro hcases
      obtain h | h | h := hcases
      · exact hall h
      · exact hfailed h
      · omega
  cases h with
  | ended _ => exact absurd rfl hrc
  | whole c hc hs => rw [hunchanged c hc (Or.inl hs)]; rfl
  | sendFailed c hc hs => rw [hunchanged c hc (Or.inr (Or.inl hs))]
  | unallocated c _ _ _ _ => exact absurd rfl hrc
  | rejected c hc _ _ _ hr => rw [hunchanged c hc (Or.inr (Or.inr hr))]; rfl
  | queuedBehind c hc hs hf _ hr _ =>
    rw [hqueued c hc hs hf hr]
    exact List.map_append
  | queuedFirst c hc hs hf _ hr hq =>
    rw [hqueued c hc hs hf hr, hq]
    cases env.registered <;> rfl

theorem putBack_removeHandler {s t : Service β} {mask : Mask} {front rest : MessageQueue β}
    {m : MessageBlock β} {k : ℕ} :
    PutBack s (t.removeHandler mask) front m rest k ↔ PutBack s t front m rest k :=
  ⟨fun h => ⟨h.before, h.queue, h.sent, h.short⟩, fun h => ⟨h.before, h.queue, h.sent, h.short⟩⟩

/-- The sizes behind the messages sent, seen from the script. -/
theorem drop_blockSizes {q front rest : MessageQueue β} {m : MessageBlock β}
    (hq : q = front ++ m :: rest) (hrest : rest ≠ []) :
    ¬(blockSizes q).length ≤ front.length + 1
      ∧ (blockSizes q).drop front.length = m.size :: blockSizes rest
      ∧ (blockSizes q).drop (front.length + 1) = blockSizes rest := by
  have hpos := List.length_pos_iff.mpr hrest
  have hsizes : blockSizes q = blockSizes front ++ m.size :: blockSizes rest := by
    rw [hq]
    exact List.map_append
  have hlen : (blockSizes front).length = front.length := List.length_map _
  have hlen' : (blockSizes rest).length = rest.length := List.length_map _
  have hdrop : (blockSizes q).drop front.length = m.size :: blockSizes rest := by
    rw [hsizes, ← hlen, List.drop_left]
  refine ⟨?_, hdrop, ?_⟩
  · rw [hsizes, List.length_append, List.length_cons, hlen, hlen']
    omega
  · rw [← List.drop_drop, hdrop]
    rfl

theorem OutputEffect.sizes {env : OutputResults β} {s s' : Service β} {rc : ℤ}
    (h : OutputEffect env s rc s') (hflow : FlowControlled highWaterMark (.output env)) :
    blockSizes s'.queue = sizesAfter highWaterMark (blockSizes s.queue) (.output env) := by
  have hflow' : env.accepts = MessageQueue.belowMark highWaterMark := hflow
  cases h with
  | drained front last hq hs =>
    have hlen : (blockSizes s.queue).length = front.length + 1 := by simp [hq, blockSizes]
    simp only [sizesAfter]
    rw [if_pos (by omega)]
    rfl
  | putBack front m rest r hq hrest hs _ ha =>
    obtain ⟨hlen, hdrop, hdrop'⟩ := drop_blockSizes hq hrest
    rw [hflow', MessageQueue.belowMark, decide_eq_true_iff, ← total_blockSizes] at ha
    simp only [sizesAfter, hs]
    rw [if_neg hlen, hdrop', if_pos ha, hdrop]
    rfl
  | refused front m rest r hq hrest hs _ ha =>
    obtain ⟨hlen, _, hdrop'⟩ := drop_blockSizes hq hrest
    rw [hflow', MessageQueue.belowMark, decide_eq_false_iff_not, ← total_blockSizes] at ha
    simp only [sizesAfter, hs]
    rw [if_neg hlen, hdrop', if_neg ha]
    rfl

/-- A put-back is rejected exactly when the blocks behind it have reached the mark. -/
theorem OutputEffect.kept_iff {env : OutputResults β} {s s' : Service β} {rc : ℤ}
    (h : OutputEffect env s rc s') (hfull : s.queue.NoneEmpty)
    (hflow : FlowControlled highWaterMark (.output env)) :
    (s'.refused = s.refused
        ∧ (wholeSends env.sends + 1 < s.queue.length →
          ∃ front m rest k, front.length = wholeSends env.sends ∧ PutBack s s' front m rest k))
      ↔ Fits highWaterMark (blockSizes s.queue) (.output env) := by
  have hflow' : env.accepts = MessageQueue.belowMark highWaterMark := hflow
  cases h with
  | drained front last hq hs =>
    have hlen : s.queue.length = front.length + 1 := by simp [hq]
    have hlen' : (blockSizes s.queue).length = s.queue.length := List.length_map _
    refine iff_of_true ⟨rfl, fun hbehind => ?_⟩ (Or.inl (by omega))
    omega
  | putBack front m rest r hq hrest hs hr ha =>
    obtain ⟨_, _, hdrop⟩ := drop_blockSizes hq hrest
    have hshort : r.accepted m.length < m.length :=
      SendResult.accepted_lt hr (List.length_pos_iff.mpr (hfull m (by rw [hq]; simp)))
    rw [hflow', MessageQueue.belowMark, decide_eq_true_iff, ← total_blockSizes] at ha
    refine iff_of_true ⟨rfl, fun _ => ?_⟩ (Or.inr ?_)
    · exact ⟨front, m, rest, r.accepted m.length, hs.symm, hq, rfl, rfl, hshort⟩
    · rw [hs, hdrop]
      exact ha
  | refused front m rest r hq hrest hs _ ha =>
    obtain ⟨hlen, _, hdrop⟩ := drop_blockSizes hq hrest
    rw [hflow', MessageQueue.belowMark, decide_eq_false_iff_not, ← total_blockSizes] at ha
    refine iff_of_false (fun hkept => ?_) ?_
    · exact Nat.succ_ne_self _ hkept.1
    · show ¬((blockSizes s.queue).length ≤ wholeSends env.sends + 1
        ∨ total ((blockSizes s.queue).drop (wholeSends env.sends + 1)) < highWaterMark)
      rw [hs, hdrop, not_or]
      exact ⟨hlen, ha⟩

/-- **The step lemma.**  A dispatch keeps the computed sizes and the queue in step, and its put-back is accepted
exactly when the script says so. -/
theorem step_sizes {s s' : Service β} {d : Dispatch β} {ns : List ℕ} (hs : HasSizes s ns)
    (hflow : FlowControlled highWaterMark d) (h : step srv s d = some s') :
    HasSizes s' (sizesAfter highWaterMark ns d) ∧ (PutBackKept srv s d ↔ Fits highWaterMark ns d) := by
  obtain hs | ⟨hs, rfl⟩ := hs
  · rw [step_gone hs d] at h
    cases h
  cases d with
  | input env =>
    refine ⟨?_, Iff.rfl⟩
    rw [step_input hs h]
    obtain ⟨hgone, hserving⟩ := dispatchInput_spec srv env hs
    by_cases hrc : (handleInput srv env s).1 = -1
    · exact Or.inl (hgone hrc)
    · obtain ⟨hs', heq⟩ := hserving hrc
      refine Or.inr ⟨hs', ?_⟩
      rw [heq]
      exact (handleInput_effect srv env s).sizes hflow hrc
  | output env =>
    obtain ⟨hw, rfl⟩ := step_output hs h
    obtain ⟨rc, t, hout, heff⟩ := handleOutput_effect srv env s (hs.write.mp hw) hs.noneEmpty
    refine ⟨Or.inr ⟨dispatchOutput_serving env hs hw, ?_⟩, ?_⟩
    · rw [dispatchOutput_queue hout]
      exact heff.sizes hflow
    · rw [← heff.kept_iff hs.noneEmpty hflow, PutBackKept, dispatchOutput_eq hout]
      -- the registration that the reactor takes back is no part of the property
      by_cases hrc : rc = -1
      · rw [if_pos hrc]
        simp only [putBack_removeHandler]
        rfl
      · rw [if_neg hrc]

/-! ### Whole runs -/

/-- **When put-backs are never rejected.**  In a run with flow control every put-back is accepted, and leaves
the unsent rest of the message at the head of the queue, if and only if the sizes computed from the script fit:
at no WRITE dispatch have the blocks behind the first message that is not sent whole reached the high-water
mark. -/
theorem putBacks_kept_iff (srv : Server) (highWaterMark : ℕ) (ds : List (Dispatch β)) (s : Service β)
    (hflow : ∀ d ∈ ds, FlowControlled highWaterMark d)
    (hrun : run (step srv) (opened srv) ds = some s) :
    Along (step srv) (PutBackKept srv) (opened srv) ds ↔ PutBacksFit highWaterMark ds := by
  have hstep : ∀ (s : Service β) (d : Dispatch β) (s' : Service β) (ns : List ℕ), HasSizes s ns →
      FlowControlled highWaterMark d → step srv s d = some s' →
      HasSizes s' (sizesAfter highWaterMark ns d) ∧ (PutBackKept srv s d ↔ Fits highWaterMark ns d) :=
    fun _ _ _ _ hs hd h => step_sizes hs hd h
  have hstart : HasSizes (opened srv : Service β) [] := by
    refine Or.inr ⟨opened_serving, ?_⟩
    cases srv <;> rfl
  exact along_iff_of_simulates hstep hstart hflow hrun

/-- The chunks `[5, 6]` and `[8]` arrive at a full socket, which then takes one byte. -/
def takesOneByte : List (Dispatch ℕ) :=
  [.input ⟨.data ⟨[5, 6], by decide, by decide⟩, .wouldBlock, true, MessageQueue.belowMark 4, true⟩,
    .input ⟨.data ⟨[8], by decide, by decide⟩, .wouldBlock, true, MessageQueue.belowMark 4, true⟩,
    .output ⟨[.part 1], MessageQueue.belowMark 4⟩]

theorem putBacks_kept_takesOneByte :
    ∃ s, run (step .server3) (opened .server3) takesOneByte = some s ∧ s.queue.unread = [6, 8]
      ∧ (Along (step .server3) (PutBackKept .server3) (opened .server3) takesOneByte
        ↔ PutBacksFit 4 takesOneByte) :=
  ⟨_, rfl, rfl, putBacks_kept_iff .server3 4 takesOneByte _ (by simp [takesOneByte, FlowControlled]) rfl⟩

/-! ### Counting the put-backs that were rejected -/

theorem handleInput_refused (env : InputResults β) (s : Service β) :
    (handleInput srv env s).2.refused = s.refused := by
  have heff := handleInput_effect srv env s
  generalize (handleInput srv env s).1 = rc at heff
  generalize (handleInput srv env s).2 = s' at heff ⊢
  cases heff with
  | queuedFirst c _ _ _ _ _ _ => cases env.registered <;> rfl
  | ended _ => rfl
  | whole c _ _ => rfl
  | sendFailed c _ _ => rfl
  | unallocated c _ _ _ _ => rfl
  | rejected c _ _ _ _ _ => rfl
  | queuedBehind c _ _ _ _ _ _ => rfl

theorem dispatchInput_refused (env : InputResults β) (s : Service β) :
    (dispatchInput srv env s).refused = s.refused := by
  unfold dispatchInput
  split
  rename_i rc t hin
  have ht : t.refused = s.refused := by
    rw [← handleInput_refused env s, hin]
  split
  · rw [handleClose_read, teardown_eq]
    exact ht
  · exact ht

/-- While put-backs are kept, none is counted as refused. -/
theorem run_refused {ds : List (Dispatch β)} {s : Service β}
    (hkept : Along (step srv) (PutBackKept srv) (opened srv) ds)
    (hrun : run (step srv) (opened srv) ds = some s) : s.refused = 0 := by
  have hstep : ∀ (s : Service β) (d : Dispatch β) (s' : Service β), s.refused = 0 →
      PutBackKept srv s d → step srv s d = some s' → s'.refused = 0 := by
    intro s d s' hs hd h
    cases d with
    | input env =>
      simp only [step] at h
      split at h
      · cases h
        split
        · exact (dispatchInput_refused env s).trans hs
        · exact hs
      · cases h
    | output env =>
      simp only [step] at h
      split at h
      · cases h
        split
        · exact hd.1.trans hs
        · exact hs
      · cases h
  have hstart : (opened srv : Service β).refused = 0 := by
    cases srv <;> rfl
  exact run_invariant_along hstep hstart hkept hrun

/-- One put-back has been rejected. -/
theorem not_kept {ds : List (Dispatch β)}
    (hrun : (run (step srv) (opened srv) ds).map (·.refused) = some 1) :
    ∃ s, run (step srv) (opened srv) ds = some s
      ∧ ¬Along (step srv) (PutBackKept srv) (opened srv) ds := by
  obtain ⟨s, hs, hrefused⟩ := Option.map_eq_some_iff.mp hrun
  refine ⟨s, hs, fun hkept => ?_⟩
  rw [run_refused hkept hs] at hrefused
  cases hrefused

/-! ### A put-back that is rejected -/

/-- The default high-water mark of `ACE_Message_Queue`. -/
def defaultMark : ℕ := 16384

/-- A chunk of `n + 1` bytes that finds the socket full. -/
def fullChunk (n : ℕ) (hn : n + 1 ≤ inputSize) : Dispatch ℕ :=
  .input ⟨.data ⟨List.replicate (n + 1) 0, by rw [List.length_replicate]; exact Nat.succ_pos n,
    by rw [List.length_replicate]; exact hn⟩, .wouldBlock, true, MessageQueue.belowMark defaultMark, true⟩

/-- One byte, then four chunks of `4096`, and a WRITE dispatch that finds the socket still full. -/
def fillingUp : List (Dispatch ℕ) :=
  [fullChunk 0 (by decide), fullChunk 4095 (by decide), fullChunk 4095 (by decide),
    fullChunk 4095 (by decide), fullChunk 4095 (by decide),
    .output ⟨[.wouldBlock], MessageQueue.belowMark defaultMark⟩]

theorem fillingUp_flowControlled : ∀ d ∈ fillingUp, FlowControlled defaultMark d := by
  intro d hd
  simp only [fillingUp, List.mem_cons, List.not_mem_nil, or_false] at hd
  obtain rfl | rfl | rfl | rfl | rfl | rfl := hd <;> rfl

/-- With the default mark: the byte is taken out, the four blocks behind it have reached the mark, and the byte
is lost when it is put back. -/
theorem putBack_rejected :
    (∀ d ∈ fillingUp, FlowControlled defaultMark d)
      ∧ (∃ s, run (step .server3) (opened .server3) fillingUp = some s
        ∧ ¬Along (step .server3) (PutBackKept .server3) (opened .server3) fillingUp)
      ∧ ∃ s, run (step .server4) (opened .server4) fillingUp = some s
        ∧ ¬Along (step .server4) (PutBackKept .server4) (opened .server4) fillingUp :=
  ⟨fillingUp_flowControlled, not_kept (by decide +kernel), not_kept (by decide +kernel)⟩

end AceSamples.ClientService
