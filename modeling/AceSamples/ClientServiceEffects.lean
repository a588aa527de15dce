import AceSamples.ClientService
import Mathlib.Tactic.Basic

/-!
# What the callbacks of `ClientService` can do

The invariants of a connection are read off two inversion lemmas instead of the code:

* `handleInput_effect` — `handle_input` has one of the outcomes of `InputEffect`;
* `handleOutput_effect` — **the drain loop ends**, without touching a message pointer that was not set, in one
  of the outcomes of `OutputEffect`, whenever it is entered with a message in the queue;
* `handleOutput_nil` — entered with an empty queue it would run its body on an unset pointer.

`teardown` is the effect of `handle_close` for any mask but `WRITE_MASK`.
-/

set_option autoImplicit false

namespace AceSamples.ClientService

open AceSamples.AceSocket AceSamples.AceMessageQueue AceSamples.WhileLoop

variable {β : Type*} {srv : Server}

/-! ### Field lemmas of the state updates -/

namespace Service

variable (s : Service β)

@[simp] theorem transmit_queue (r : SendResult) (bs : List β) : (s.transmit r bs).queue = s.queue := rfl

@[simp] theorem transmit_mask (r : SendResult) (bs : List β) : (s.transmit r bs).mask = s.mask := rfl

@[simp] theorem transmit_sent (r : SendResult) (bs : List β) :
    (s.transmit r bs).sent = s.sent ++ bs.take (r.accepted bs.length) := rfl

@[simp] theorem setQueue_queue (q : MessageQueue β) : (s.setQueue q).queue = q := rfl

@[simp] theorem setQueue_mask (q : MessageQueue β) : (s.setQueue q).mask = s.mask := rfl

@[simp] theorem setQueue_sent (q : MessageQueue β) : (s.setQueue q).sent = s.sent := rfl

@[simp] theorem setQueue_setQueue (q q' : MessageQueue β) :
    (s.setQueue q).setQueue q' = s.setQueue q' := rfl

@[simp] theorem removeHandler_queue (m : Mask) : (s.removeHandler m).queue = s.queue := rfl

@[simp] theorem removeHandler_mask (m : Mask) : (s.removeHandler m).mask = s.mask.remove m := rfl

@[simp] theorem removeHandler_sent (m : Mask) : (s.removeHandler m).sent = s.sent := rfl

@[simp] theorem deliver_queue (bs : List β) : (s.deliver bs).queue = s.queue := rfl

@[simp] theorem deliver_mask (bs : List β) : (s.deliver bs).mask = s.mask := rfl

@[simp] theorem deliver_sent (bs : List β) : (s.deliver bs).sent = s.sent ++ bs := rfl

@[simp] theorem deliver_nil : s.deliver [] = s := by simp [deliver]

theorem deliver_deliver (bs bs' : List β) : (s.deliver bs).deliver bs' = s.deliver (bs ++ bs') := by
  simp [deliver]

theorem deliver_setQueue (bs : List β) (q : MessageQueue β) :
    (s.setQueue q).deliver bs = (s.deliver bs).setQueue q := rfl

theorem transmit_failed (bs : List β) : s.transmit .failed bs = s := by
  simp [transmit]

theorem transmit_all (bs : List β) : s.transmit .all bs = s.deliver bs := by
  simp [transmit]

end Service

/-! ### `handle_close` -/

/-- Everything released, the queue dropped, the object gone. -/
def teardown (s : Service β) : Service β :=
  ((s.removeHandler (Mask.allEventsMask.union .dontCallMask)).closeSocket).flushQueue.delete

theorem handleClose_write (s : Service β) : handleClose srv .writeMask s = s := if_pos rfl

theorem handleClose_of_ne (s : Service β) {m : Mask} (hm : m ≠ .writeMask) :
    handleClose srv m s = teardown s := by
  unfold handleClose
  rw [if_neg hm]
  cases srv <;> rfl

theorem handleClose_read (s : Service β) : handleClose srv .readMask s = teardown s :=
  handleClose_of_ne s (by decide)

/-- The components of a handler after its teardown. -/
theorem teardown_eq (s : Service β) :
    teardown s =
      { queue := [], mask := .null, socketOpen := false, sent := s.sent,
        closes := if s.socketOpen then s.closes + 1 else s.closes,
        flushed := s.flushed ++ s.queue.unread, refused := s.refused,
        remains := s.remains ++ [⟨if s.socketOpen then s.closes + 1 else s.closes, [], .null⟩],
        misused := s.misused } := by
  cases h : s.socketOpen <;>
    simp [teardown, Service.delete, Service.flushQueue, Service.closeSocket, Service.removeHandler, h]

@[simp] theorem teardown_queue (s : Service β) : (teardown s).queue = [] := rfl

@[simp] theorem teardown_sent (s : Service β) : (teardown s).sent = s.sent := by rw [teardown_eq]

@[simp] theorem teardown_flushed (s : Service β) :
    (teardown s).flushed = s.flushed ++ s.queue.unread := by rw [teardown_eq]

@[simp] theorem teardown_live (s : Service β) : (teardown s).live = false := by
  simp [teardown_eq, Service.live]

/-! ### `handle_input` -/

/-- The block that `handle_input` queues: the bytes of the chunk that `send` did not take. -/
def leftover (r : SendResult) (c : Chunk β inputSize) : MessageBlock β :=
  ⟨c.bytes.length - r.accepted c.bytes.length, c.bytes.drop (r.accepted c.bytes.length),
    Nat.le_of_eq List.length_drop⟩

theorem leftover_ne_nil {r : SendResult} (hr : r ≠ .all) (c : Chunk β inputSize) :
    (leftover r c).unread ≠ [] := by
  have hlt := SendResult.accepted_lt hr c.pos
  simp only [leftover, ne_eq, List.drop_eq_nil_iff]
  omega

/-- The outcomes of `handle_input`: the returned value and the state it leaves. -/
inductive InputEffect (env : InputResults β) (s : Service β) : ℤ → Service β → Prop
  | ended (h : ∀ c, env.recv ≠ .data c) : InputEffect env s (-1) s
  | whole (c : Chunk β inputSize) (hc : env.recv = .data c) (hs : env.send = .all) :
      InputEffect env s 0 (s.transmit env.send c.bytes)
  | sendFailed (c : Chunk β inputSize) (hc : env.recv = .data c) (hs : env.send = .failed) :
      InputEffect env s 0 s
  | unallocated (c : Chunk β inputSize) (hc : env.recv = .data c) (hs : env.send ≠ .all)
      (hf : env.send ≠ .failed) (ha : env.allocated = false) :
      InputEffect env s (-1) (s.transmit env.send c.bytes)
  | rejected (c : Chunk β inputSize) (hc : env.recv = .data c) (hs : env.send ≠ .all)
      (hf : env.send ≠ .failed) (ha : env.allocated = true) (hr : env.accepts s.queue = false) :
      InputEffect env s 0 (s.transmit env.send c.bytes)
  | queuedBehind (c : Chunk β inputSize) (hc : env.recv = .data c) (hs : env.send ≠ .all)
      (hf : env.send ≠ .failed) (ha : env.allocated = true) (hr : env.accepts s.queue = true)
      (hq : s.queue ≠ []) :
      InputEffect env s 0
        ((s.transmit env.send c.bytes).setQueue (s.queue ++ [leftover env.send c]))
  | queuedFirst (c : Chunk β inputSize) (hc : env.recv = .data c) (hs : env.send ≠ .all)
      (hf : env.send ≠ .failed) (ha : env.allocated = true) (hr : env.accepts s.queue = true)
      (hq : s.queue = []) :
      InputEffect env s (if env.registered then 0 else -1)
        (((s.transmit env.send c.bytes).setQueue [leftover env.send c]).registerHandler
          env.registered .writeMask).2

theorem handleInput_ended (env : InputResults β) (s : Service β) (h : ∀ c, env.recv ≠ .data c) :
    handleInput srv env s = (-1, s) := by
  have hr : env.recv.returned ≤ 0 := by
    cases hc : env.recv with
    | data c => exact absurd hc (h c)
    | closed => exact Int.le_refl 0
    | failed => simp only [RecvResult.returned]; omega
  simp only [handleInput, if_pos hr]

theorem handleInput_whole (env : InputResults β) (s : Service β) {c : Chunk β inputSize}
    (hc : env.recv = .data c) (hs : env.send = .all) :
    handleInput srv env s = (0, s.transmit env.send c.bytes) := by
  have hpos := RecvResult.returned_data_pos c
  have heq : SendResult.all.returned c.bytes.length = (RecvResult.data c).returned := rfl
  simp only [handleInput, hc, hs, if_neg (Int.not_le.mpr hpos), RecvResult.bytes, heq, if_true]

theorem handleInput_sendFailed (env : InputResults β) (s : Service β) {c : Chunk β inputSize}
    (hc : env.recv = .data c) (hs : env.send = .failed) : handleInput srv env s = (0, s) := by
  have hpos := RecvResult.returned_data_pos c
  have hne : SendResult.failed.returned c.bytes.length ≠ (RecvResult.data c).returned := by
    simp only [SendResult.returned]
    omega
  have hfail := (SendResult.failed_iff .failed c.bytes.length).mpr rfl
  simp only [handleInput, hc, hs, if_neg (Int.not_le.mpr hpos), RecvResult.bytes, if_neg hne,
    if_pos hfail, Service.transmit_failed]

/-- The branch that queues the rest of the chunk, with the integers read as lengths. -/
theorem handleInput_short (env : InputResults β) (s : Service β) {c : Chunk β inputSize}
    (hc : env.recv = .data c) (hs : env.send ≠ .all) (hf : env.send ≠ .failed) :
    handleInput srv env s =
      if env.allocated = false then (-1, s.transmit env.send c.bytes)
      else if env.accepts s.queue = false then (0, s.transmit env.send c.bytes)
      else if s.queue.isEmpty then
        ((s.transmit env.send c.bytes).setQueue (s.queue ++ [leftover env.send c])).registerHandler
          env.registered .writeMask
      else (0, (s.transmit env.send c.bytes).setQueue (s.queue ++ [leftover env.send c])) := by
  have hpos := RecvResult.returned_data_pos c
  have hle := env.send.accepted_le c.bytes.length
  have hne : env.send.returned c.bytes.length ≠ (RecvResult.data c).returned :=
    fun h => hs ((SendResult.returned_eq_length c.pos).mp h)
  have hfail : ¬(env.send.returned c.bytes.length = -1 ∧ env.send.lastError ≠ .ewouldblock) :=
    fun h => hf ((SendResult.failed_iff _ _).mp h)
  have hrem : ((RecvResult.data c).returned - (env.send.accepted c.bytes.length : ℤ)).toNat
      = c.bytes.length - env.send.accepted c.bytes.length := by
    simp only [RecvResult.returned]
    omega
  have hdrop : (c.bytes.drop (env.send.accepted c.bytes.length)).take
      (c.bytes.length - env.send.accepted c.bytes.length)
      = c.bytes.drop (env.send.accepted c.bytes.length) := by
    rw [← List.length_drop, List.take_length]
  have hmsg : (MessageBlock.create (c.bytes.length - env.send.accepted c.bytes.length)).copy
      (c.bytes.drop (env.send.accepted c.bytes.length)) = leftover env.send c :=
    MessageBlock.copy_create _ List.length_drop
  simp only [handleInput, hc, if_neg (Int.not_le.mpr hpos), RecvResult.bytes, if_neg hne,
    if_neg hfail, SendResult.returned_normalised, Int.toNat_natCast, hrem, hdrop, hmsg,
    Server.enqueueTail_eq, Service.transmit_queue]
  cases ha : env.accepts s.queue with
  | false => simp only [MessageQueue.enqueueTail_refused, if_true]
  | true =>
    obtain ⟨hrc, hq⟩ := MessageQueue.enqueueTail_accepted s.queue (leftover env.send c)
    simp only [if_neg hrc, hq, Bool.true_eq_false, if_false]

/-- **Inversion of `handle_input`.** -/
theorem handleInput_effect (srv : Server) (env : InputResults β) (s : Service β) :
    InputEffect env s (handleInput srv env s).1 (handleInput srv env s).2 := by
  by_cases hdata : ∃ c, env.recv = .data c
  · obtain ⟨c, hc⟩ := hdata
    by_cases hs : env.send = .all
    · rw [handleInput_whole env s hc hs]
      exact .whole c hc hs
    by_cases hf : env.send = .failed
    · rw [handleInput_sendFailed env s hc hf]
      exact .sendFailed c hc hf
    rw [handleInput_short env s hc hs hf]
    cases ha : env.allocated with
    | false => exact .unallocated c hc hs hf ha
    | true =>
      cases hr : env.accepts s.queue with
      | false => exact .rejected c hc hs hf ha hr
      | true =>
        cases hq : s.queue with
        | cons m q =>
          have h := InputEffect.queuedBehind c hc hs hf ha hr (by simp [hq])
          rw [hq] at h
          exact h
        | nil =>
          have h := InputEffect.queuedFirst c hc hs hf ha hr hq
          cases hw : env.registered <;> rw [hw] at h <;> exact h
  · have h : ∀ c, env.recv ≠ .data c := fun c hc => hdata ⟨c, hc⟩
    rw [handleInput_ended env s h]
    exact .ended h

/-! ### `handle_output` -/

/-- The outcomes of `handle_output`: `front` are the messages whose sends were whole. -/
inductive OutputEffect (env : OutputResults β) (s : Service β) : ℤ → Service β → Prop
  | drained (front : MessageQueue β) (last : MessageBlock β) (hq : s.queue = front ++ [last])
      (hs : front.length ≤ wholeSends env.sends) :
      OutputEffect env s (-1) ((s.deliver front.unread).setQueue [])
  | putBack (front : MessageQueue β) (m : MessageBlock β) (rest : MessageQueue β) (r : SendResult)
      (hq : s.queue = front ++ m :: rest) (hrest : rest ≠ []) (hs : wholeSends env.sends = front.length)
      (hr : r ≠ .all) (ha : env.accepts rest = true) :
      OutputEffect env s 0
        ((s.deliver (front.unread ++ m.unread.take (r.accepted m.length))).setQueue
          (m.rdPtr (r.accepted m.length) :: rest))
  | refused (front : MessageQueue β) (m : MessageBlock β) (rest : MessageQueue β) (r : SendResult)
      (hq : s.queue = front ++ m :: rest) (hrest : rest ≠ []) (hs : wholeSends env.sends = front.length)
      (hr : r ≠ .all) (ha : env.accepts rest = false) :
      OutputEffect env s 0
        ((s.deliver (front.unread ++ m.unread.take (r.accepted m.length))).setQueue rest).countRefused

/-- The trip that finds the last message: the condition is `0`, and the message is dropped. -/
theorem outputPass_last (accepts : MessageQueue β → Bool) (s : Service β) (sends : List SendResult)
    {m : MessageBlock β} (hq : s.queue = [m]) :
    outputPass srv accepts (s, sends) = .leave (.ok (s.setQueue [])) := by
  simp [outputPass, hq, MessageQueue.dequeueHead]

/-- The trip that finds no message at all: the body runs on a pointer that was not set. -/
theorem outputPass_nil (accepts : MessageQueue β → Bool) (s : Service β) (sends : List SendResult)
    (hq : s.queue = []) :
    outputPass srv accepts (s, sends) = .leave (.error .staleMessage) := by
  simp [outputPass, hq, MessageQueue.dequeueHead]

/-- A trip with a message behind the first: send it, and go round again or put it back. -/
theorem outputPass_more (accepts : MessageQueue β → Bool) (s : Service β) (sends : List SendResult)
    {m : MessageBlock β} {rest : MessageQueue β} (hq : s.queue = m :: rest) (hrest : rest ≠ []) :
    outputPass srv accepts (s, sends) =
      let r := sends.headD .wouldBlock
      let s' := (s.setQueue rest).transmit r m.unread
      let m' := m.rdPtr (r.accepted m.length)
      if m'.length > 0 then
        .leave (.ok (if accepts rest then s'.setQueue (m' :: rest) else (s'.setQueue rest).countRefused))
      else .again (s', sends.tail) := by
  have hrc : ((rest.length : ℕ) : ℤ) ≠ 0 := by
    have := List.length_pos_iff.mpr hrest
    omega
  simp only [outputPass, hq, Server.dequeueHead_eq, Server.enqueueHead_eq, MessageQueue.dequeueHead,
    if_neg hrc, sendMessage_eq, Service.transmit_queue, Service.setQueue_queue]
  cases ha : accepts rest with
  | false => rfl
  | true =>
    have hne : ((rest.length : ℤ) + 1) ≠ -1 := by omega
    simp only [MessageQueue.enqueueHead, if_true, if_neg hne]

/-- Entered with an empty queue, the loop runs its body on a message pointer that was never set. -/
theorem handleOutput_nil (env : OutputResults β) (s : Service β) (hq : s.queue = []) :
    handleOutput srv env s = .error .staleMessage := by
  unfold handleOutput
  rw [iterate_leave (outputPass_nil env.accepts s env.sends hq)]

/-- The state of the loop after the messages `front` have been sent whole. -/
def DrainedSoFar (env : OutputResults β) (s : Service β) (t : Service β × List SendResult) : Prop :=
  ∃ front rest : MessageQueue β, s.queue = front ++ rest ∧ rest ≠ [] ∧
    t.1 = (s.deliver front.unread).setQueue rest ∧
    env.sends = List.replicate front.length .all ++ t.2

/-- **Inversion of `handle_output`.**  Entered with a message in the queue, and none of them empty, the loop
ends without a fault, in one of the outcomes of `OutputEffect`. -/
theorem handleOutput_effect (srv : Server) (env : OutputResults β) (s : Service β) (hne : s.queue ≠ [])
    (hfull : MessageQueue.NoneEmpty s.queue) :
    ∃ rc s', handleOutput srv env s = .ok (rc, s') ∧ OutputEffect env s rc s' := by
  -- the loop: `DrainedSoFar` is its invariant, the length of the queue its measure
  have hloop := iterate_ends (outputPass srv env.accepts) (I := DrainedSoFar env s)
    (Q := fun r => ∃ s', r = .ok s' ∧ OutputEffect env s (if s'.queue.isEmpty then -1 else 0) s')
    (fun t => t.1.queue.length) ?again ?leave (n := s.queue.length + 1) (s := (s, env.sends))
    ⟨[], s.queue, rfl, hne, by simp [Service.setQueue], rfl⟩ (Nat.lt_succ_self _)
  case again =>
    rintro ⟨t, sends⟩ t' ⟨front, rest, hq, hrest, ht, hs⟩ hpass
    simp only at ht hs
    obtain ⟨m, rest, rfl⟩ := List.exists_cons_of_ne_nil hrest
    have hm : 0 < m.length := List.length_pos_iff.mpr (hfull m (by rw [hq]; simp))
    have htq : t.queue = m :: rest := by rw [ht]; rfl
    by_cases hr : rest = []
    · rw [outputPass_last _ _ _ (by rw [htq, hr])] at hpass
      cases hpass
    rw [outputPass_more _ _ _ htq hr] at hpass
    simp only [MessageBlock.length_rdPtr] at hpass
    split at hpass
    · cases hpass
    · rename_i hlen
      -- nothing of the message is left, so its send was whole
      have hall := SendResult.eq_all_of_none_left hm hlen
      rw [hall, Service.transmit_all] at hpass
      cases hpass
      refine ⟨⟨front ++ [m], rest, by simp [hq], hr, ?_, ?_⟩, ?_⟩
      · rw [ht, Service.setQueue_setQueue, Service.deliver_setQueue, Service.deliver_deliver]
        simp
      · rw [List.length_append]
        exact replicate_all_snoc hs hall
      · rw [htq]
        simp [Service.deliver]
  case leave =>
    rintro ⟨t, sends⟩ r ⟨front, rest, hq, hrest, ht, hs⟩ hpass
    simp only at ht hs
    obtain ⟨m, rest, rfl⟩ := List.exists_cons_of_ne_nil hrest
    have hm : 0 < m.length := List.length_pos_iff.mpr (hfull m (by rw [hq]; simp))
    have htq : t.queue = m :: rest := by rw [ht]; rfl
    have hwhole : wholeSends env.sends = front.length + wholeSends sends := by
      rw [hs, wholeSends_replicate]
    by_cases hr : rest = []
    · subst hr
      rw [outputPass_last _ _ _ htq] at hpass
      cases hpass
      refine ⟨_, rfl, ?_⟩
      rw [ht, Service.setQueue_setQueue]
      exact .drained front m hq (by omega)
    rw [outputPass_more _ _ _ htq hr] at hpass
    simp only [MessageBlock.length_rdPtr] at hpass
    split at hpass
    · rename_i hlen
      have hall := SendResult.ne_all_of_left hlen
      have hzero := wholeSends_headD hall
      cases hpass
      refine ⟨_, rfl, ?_⟩
      rw [ht, Service.setQueue_setQueue, Service.transmit, Service.deliver_setQueue,
        Service.deliver_deliver]
      cases ha : env.accepts rest with
      | true =>
        exact .putBack front m rest _ hq hr (by omega) hall ha
      | false =>
        obtain ⟨m', rest, rfl⟩ := List.exists_cons_of_ne_nil hr
        exact .refused front m (m' :: rest) _ hq hr (by omega) hall ha
    · cases hpass
  obtain ⟨r, hr, s', rfl, heff⟩ := hloop
  refine ⟨_, s', ?_, heff⟩
  unfold handleOutput
  rw [hr]

/-- A WRITE dispatch, apart from the registration, is its `handle_output`. -/
theorem dispatchOutput_eq {env : OutputResults β} {s t : Service β} {rc : ℤ}
    (h : handleOutput srv env s = .ok (rc, t)) :
    dispatchOutput srv env s = if rc = -1 then t.removeHandler .writeMask else t := by
  unfold dispatchOutput
  rw [h]
  simp only [handleClose_write]

end AceSamples.ClientService
