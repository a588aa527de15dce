import AceSamples.ClientServiceAccounting
import AceSamples.Conservation
import Mathlib.Data.Multiset.OrderedMonoid
import Mathlib.Tactic.Abel

/-!
# Where the bytes of a whole connection are

At any moment of a connection a received byte has been sent, is queued, was thrown away with the queue when the
handler was torn down, or has been lost.

* `stock` — the bytes in the first three places, as a multiset;
* `Lossless` — a dispatch that loses nothing: no failed send, no block that could not be allocated or queued, no
  put-back that was refused, and a drain that stops before the last message;
* `step_conserves`, `run_conserves_bytes` — every dispatch, hence every run, is balanced, and the balance has no
  losses exactly when every dispatch was lossless;
* `outgoing_eq_received_iff` — the echo is exact, byte for byte and in order, if and only if nothing was lost,
  nothing was overtaken and nothing was thrown away at the end.
-/

set_option autoImplicit false

namespace AceSamples.ClientService

open AceSamples.AceSocket AceSamples.AceMessageQueue AceSamples.ScriptedRun AceSamples.Conservation

variable {β : Type*} {srv : Server}

/-- The bytes of a handler that have not been lost. -/
def stock (s : Service β) : Multiset β := s.sent + s.queue.unread + s.flushed

/-- A dispatch that loses no byte. -/
def Lossless (s : Service β) : Dispatch β → Prop
  | .input env => ∀ c, env.recv = .data c →
      env.send = .all ∨ env.send ≠ .failed ∧ env.allocated = true ∧ env.accepts s.queue = true
  | .output env => wholeSends env.sends + 1 < s.queue.length ∧
      env.accepts (s.queue.drop (wholeSends env.sends + 1)) = true

/-! ### One callback -/

theorem stock_removeHandler (m : Mask) (s : Service β) : stock (s.removeHandler m) = stock s := rfl

/-- A teardown moves the queue to the bytes that were thrown away. -/
theorem stock_teardown (s : Service β) : stock (teardown s) = stock s := by
  rw [stock, teardown_sent, teardown_queue, teardown_flushed, stock]
  simp only [MessageQueue.unread_nil, Multiset.coe_nil, ← Multiset.coe_add]
  abel

/-- A balance of one chunk is one of the stock. -/
theorem Accounts.stock_add {c : Chunk β inputSize} {s s' : Service β} {taken lost : List β}
    {appended : MessageQueue β} (h : Accounts c s s' taken appended lost) (hf : s'.flushed = s.flushed) :
    stock s' + lost = stock s + c.bytes := by
  rw [stock, stock, h.sent, h.queue, hf, ← h.chunk, MessageQueue.unread_append]
  simp only [← Multiset.coe_add]
  abel

/-- The balance of `handle_input`: it loses bytes exactly when it is not lossless. -/
theorem InputEffect.conserves {env : InputResults β} {s s' : Service β} {rc : ℤ}
    (h : InputEffect env s rc s') :
    ∃ lost : Multiset β, stock s' + lost = stock s + env.recv.bytes ∧
      (lost = 0 ↔ Lossless s (.input env)) := by
  have hlossless : ∀ c, env.recv = .data c → (Lossless s (.input env) ↔
      env.send = .all ∨ env.send ≠ .failed ∧ env.allocated = true ∧ env.accepts s.queue = true) := by
    intro c hc
    constructor
    · intro h
      exact h c hc
    · intro h c' _
      exact h
  -- what the send has left is gone
  have hgone : ∀ c, env.recv = .data c → env.send ≠ .all → ¬Lossless s (.input env) →
      ∃ lost : Multiset β, stock (s.transmit env.send c.bytes) + lost = stock s + env.recv.bytes ∧
        (lost = 0 ↔ Lossless s (.input env)) := by
    intro c hc hs hno
    have haccounts : Accounts c s (s.transmit env.send c.bytes) (acceptedBytes env.send c) []
        (unacceptedBytes env.send c) := accounts_unqueued rfl rfl
    refine ⟨unacceptedBytes env.send c, ?_, ?_⟩
    · rw [haccounts.stock_add rfl, hc]
      rfl
    · rw [Multiset.coe_eq_zero]
      exact iff_of_false (unacceptedBytes_ne_nil hs c) hno
  -- what the send has left is queued
  have hkept : ∀ (c : Chunk β inputSize) (t : Service β), env.recv = .data c → env.send ≠ .all →
      Lossless s (.input env) →
      t.sent = s.sent ++ acceptedBytes env.send c → t.queue = s.queue ++ [leftover env.send c] →
      t.flushed = s.flushed →
      ∃ lost : Multiset β, stock t + lost = stock s + env.recv.bytes ∧
        (lost = 0 ↔ Lossless s (.input env)) := by
    intro c t hc hs hyes hsent hqueue hflushed
    have haccounts := accounts_queued hs hsent hqueue
    refine ⟨0, ?_, iff_of_true rfl hyes⟩
    rw [show (0 : Multiset β) = (([] : List β) : Multiset β) from rfl, haccounts.stock_add hflushed, hc]
    rfl
  cases h with
  | ended h =>
    refine ⟨0, ?_, iff_of_true rfl fun c hc => absurd hc (h c)⟩
    have hbytes : env.recv.bytes = [] := by
      cases hr : env.recv with
      | data c => exact absurd hr (h c)
      | closed => rfl
      | failed => rfl
    rw [hbytes]
    rfl
  | whole c hc hs =>
    refine ⟨0, ?_, iff_of_true rfl ((hlossless c hc).mpr (Or.inl hs))⟩
    have haccounts : Accounts c s (s.transmit env.send c.bytes) (acceptedBytes env.send c) []
        (unacceptedBytes env.send c) := accounts_unqueued rfl rfl
    have hnone : unacceptedBytes env.send c = [] := by rw [hs, unacceptedBytes_all]
    rw [hnone] at haccounts
    rw [show (0 : Multiset β) = (([] : List β) : Multiset β) from rfl, haccounts.stock_add rfl, hc]
    rfl
  | sendFailed c hc hs =>
    have hne : env.send ≠ .all := by
      rw [hs]
      nofun
    have hno : ¬Lossless s (.input env) := by
      rw [hlossless c hc]
      exact fun h => h.elim hne fun h => h.1 hs
    have hlost := hgone c hc hne hno
    rw [show s.transmit env.send c.bytes = s by rw [hs, Service.transmit_failed]] at hlost
    exact hlost
  | unallocated c hc hs hf ha =>
    refine hgone c hc hs ?_
    rw [hlossless c hc]
    intro h
    obtain h | ⟨_, h, _⟩ := h
    · exact hs h
    · rw [ha] at h
      cases h
  | rejected c hc hs hf ha hr =>
    refine hgone c hc hs ?_
    rw [hlossless c hc]
    intro h
    obtain h | ⟨_, _, h⟩ := h
    · exact hs h
    · rw [hr] at h
      cases h
  | queuedBehind c hc hs hf ha hr hq =>
    refine hkept c _ hc hs ((hlossless c hc).mpr (Or.inr ⟨hf, ha, hr⟩)) ?_ ?_ ?_ <;> rfl
  | queuedFirst c hc hs hf ha hr hq =>
    have hqueue : [leftover env.send c] = s.queue ++ [leftover env.send c] := by rw [hq, List.nil_append]
    refine hkept c _ hc hs ((hlossless c hc).mpr (Or.inr ⟨hf, ha, hr⟩)) ?_ ?_ ?_
    · exact Service.registerHandler_sent _ _ _
    · rw [Service.registerHandler_queue]
      exact hqueue
    · cases env.registered <;> rfl

/-- The bytes of the chunk that a dispatch sends directly. -/
def taken (env : InputResults β) : List β := env.recv.bytes.take (env.send.accepted env.recv.bytes.length)

/-- What has been sent and queued comes from the front of the chunk, in this order. -/
def Splits (env : InputResults β) (s s' : Service β) : Prop :=
  ∃ appended lost, taken env ++ appended ++ lost = env.recv.bytes ∧ s'.sent = s.sent ++ taken env ∧
    s'.queue.unread = s.queue.unread ++ appended

theorem InputEffect.splits {env : InputResults β} {s s' : Service β} {rc : ℤ} (h : InputEffect env s rc s') :
    Splits env s s' := by
  have htaken : ∀ c, env.recv = .data c → taken env = acceptedBytes env.send c := by
    intro c hc
    rw [taken, hc]
    rfl
  -- the socket takes what it takes, and nothing is queued
  have hunqueued : ∀ s' : Service β, s'.sent = s.sent ++ taken env → s'.queue = s.queue →
      Splits env s s' := by
    intro s' hsent hqueue
    refine ⟨[], env.recv.bytes.drop (env.send.accepted env.recv.bytes.length), ?_, hsent, ?_⟩
    · rw [List.append_nil]
      exact List.take_append_drop _ _
    · rw [hqueue, List.append_nil]
  -- the rest of the chunk is queued
  have hqueued : ∀ (c : Chunk β inputSize) (s' : Service β), env.recv = .data c →
      s'.sent = s.sent ++ acceptedBytes env.send c → s'.queue = s.queue ++ [leftover env.send c] →
      Splits env s s' := by
    intro c s' hc hsent hqueue
    refine ⟨unacceptedBytes env.send c, [], ?_, ?_, ?_⟩
    · rw [htaken c hc, List.append_nil, acceptedBytes_append, hc]
      rfl
    · rw [htaken c hc]
      exact hsent
    · rw [hqueue, MessageQueue.unread_append, MessageQueue.unread_cons, MessageQueue.unread_nil, List.append_nil]
      rfl
  cases h with
  | ended h =>
    have hbytes : taken env = [] := by
      rw [taken]
      cases hr : env.recv with
      | data c => exact absurd hr (h c)
      | closed => exact List.take_nil
      | failed => exact List.take_nil
    exact hunqueued s (by rw [hbytes, List.append_nil]) rfl
  | whole c hc hs => exact hunqueued _ (by rw [htaken c hc]; rfl) rfl
  | sendFailed c hc hs =>
    have hbytes : taken env = [] := by
      rw [htaken c hc, hs]
      exact List.take_zero
    exact hunqueued s (by rw [hbytes, List.append_nil]) rfl
  | unallocated c hc hs hf ha => exact hunqueued _ (by rw [htaken c hc]; rfl) rfl
  | rejected c hc hs hf ha hr => exact hunqueued _ (by rw [htaken c hc]; rfl) rfl
  | queuedBehind c hc hs hf ha hr hq => exact hqueued c _ hc rfl rfl
  | queuedFirst c hc hs hf ha hr hq =>
    refine hqueued c _ hc (Service.registerHandler_sent _ _ _) ?_
    rw [Service.registerHandler_queue, hq]
    rfl

/-- The balance of `handle_output`. -/
theorem OutputEffect.conserves {env : OutputResults β} {s s' : Service β} {rc : ℤ}
    (h : OutputEffect env s rc s') (hfull : s.queue.NoneEmpty) :
    ∃ lost : Multiset β, stock s' + lost = stock s ∧ (lost = 0 ↔ Lossless s (.output env)) := by
  -- what is behind the message that was not sent whole
  have hdrop : ∀ (front rest : MessageQueue β) (m : MessageBlock β), s.queue = front ++ m :: rest →
      wholeSends env.sends = front.length → s.queue.drop (wholeSends env.sends + 1) = rest := by
    intro front rest m hq hs
    have hlen : (front ++ [m]).length = wholeSends env.sends + 1 := by
      rw [hs]
      simp
    rw [hq, ← List.singleton_append, ← List.append_assoc, ← hlen, List.drop_left]
  cases h with
  | drained front last hq hs =>
    have hlast : last.unread ≠ [] := hfull last (by rw [hq]; simp)
    refine ⟨last.unread, ?_, ?_⟩
    · rw [stock, stock, hq]
      simp only [Service.setQueue_queue, Service.setQueue_sent, Service.deliver_sent, MessageQueue.unread_append,
        MessageQueue.unread_cons, MessageQueue.unread_nil, List.append_nil, ← Multiset.coe_add,
        Multiset.coe_nil]
      show _ + _ + 0 + (s.flushed : Multiset β) + _ = _
      abel
    · rw [Multiset.coe_eq_zero]
      refine iff_of_false hlast ?_
      intro h
      have hlen : s.queue.length = front.length + 1 := by simp [hq]
      have hbehind : wholeSends env.sends + 1 < s.queue.length := h.1
      omega
  | putBack front m rest r hq hrest hs hr ha =>
    refine ⟨0, ?_, iff_of_true rfl ⟨?_, ?_⟩⟩
    · rw [add_zero, stock, stock, hq, MessageQueue.unread_split front m rest (r.accepted m.length)]
      simp only [Service.setQueue_queue, Service.setQueue_sent, Service.deliver_sent, ← Multiset.coe_add]
      show _ + _ + _ + (s.flushed : Multiset β) = _
      abel
    · have hpos := List.length_pos_iff.mpr hrest
      have hlen : s.queue.length = front.length + (rest.length + 1) := by simp [hq]
      omega
    · rw [hdrop front rest m hq hs]
      exact ha
  | refused front m rest r hq hrest hs hr ha =>
    have hm : m.unread ≠ [] := hfull m (by rw [hq]; simp)
    refine ⟨(m.rdPtr (r.accepted m.length)).unread, ?_, ?_⟩
    · rw [stock, stock, hq, MessageQueue.unread_split front m rest (r.accepted m.length)]
      simp only [MessageQueue.unread_cons, ← Multiset.coe_add]
      show (((s.sent ++ (front.unread ++ m.unread.take (r.accepted m.length)) : List β) : Multiset β)
        + (rest.unread : Multiset β) + (s.flushed : Multiset β)) + _ = _
      simp only [← Multiset.coe_add]
      abel
    · rw [Multiset.coe_eq_zero]
      refine iff_of_false (rdPtr_accepted_ne_nil hr hm) ?_
      intro h
      have haccepts : env.accepts (s.queue.drop (wholeSends env.sends + 1)) = true := h.2
      rw [hdrop front rest m hq hs, ha] at haccepts
      cases haccepts

/-- **The step lemma.** -/
theorem step_conserves {s s' : Service β} {d : Dispatch β} (hs : Serving s)
    (h : step srv s d = some s') :
    ∃ lost : Multiset β, stock s' + lost = stock s + receivedBy d ∧ (lost = 0 ↔ Lossless s d) := by
  cases d with
  | input env =>
    rw [step_input hs h]
    obtain ⟨lost, hbalance, hiff⟩ := (handleInput_effect srv env s).conserves
    refine ⟨lost, ?_, hiff⟩
    have hstock : stock (dispatchInput srv env s) = stock (handleInput srv env s).2 := by
      unfold dispatchInput
      split
      rename_i rc t hout
      rw [hout]
      split
      · rw [handleClose_read, stock_teardown, stock_removeHandler]
      · rfl
    rw [hstock]
    exact hbalance
  | output env =>
    obtain ⟨hw, rfl⟩ := step_output hs h
    obtain ⟨rc, t, hout, heff⟩ := handleOutput_effect srv env s (hs.write.mp hw) hs.noneEmpty
    obtain ⟨lost, hbalance, hiff⟩ := heff.conserves hs.noneEmpty
    refine ⟨lost, ?_, hiff⟩
    have hstock : stock (dispatchOutput srv env s) = stock t := by
      rw [dispatchOutput_eq hout]
      split <;> rfl
    rw [hstock, hbalance]
    show stock s = stock s + (([] : List β) : Multiset β)
    rw [Multiset.coe_nil, add_zero]

/-- A READ dispatch sends what its direct send takes. -/
theorem dispatchInput_sent (env : InputResults β) (s : Service β) :
    (dispatchInput srv env s).sent = s.sent ++ taken env := by
  obtain ⟨_, _, _, hsent, _⟩ := (handleInput_effect srv env s).splits
  have hdispatch : (dispatchInput srv env s).sent = (handleInput srv env s).2.sent := by
    unfold dispatchInput
    split
    rename_i rc t hout
    rw [hout]
    split
    · rw [handleClose_read, teardown_sent]
      rfl
    · rfl
  rw [hdispatch, hsent]

theorem dispatchOutput_sent {env : OutputResults β} {s t : Service β} {rc : ℤ}
    (h : handleOutput srv env s = .ok (rc, t)) : (dispatchOutput srv env s).sent = t.sent := by
  rw [dispatchOutput_eq h]
  split <;> rfl

/-- What the socket has accepted is not taken back. -/
theorem step_sent_prefix {s s' : Service β} {d : Dispatch β} (hs : Serving s) (h : step srv s d = some s') :
    s.sent <+: s'.sent := by
  cases d with
  | input env =>
    rw [step_input hs h, dispatchInput_sent]
    exact List.prefix_append _ _
  | output env =>
    obtain ⟨hw, rfl⟩ := step_output hs h
    obtain ⟨rc, t, hout, heff⟩ := handleOutput_effect srv env s (hs.write.mp hw) hs.noneEmpty
    rw [dispatchOutput_sent hout]
    cases heff with
    | drained front last _ _ => exact List.prefix_append _ _
    | putBack front m rest r _ _ _ _ _ => exact List.prefix_append _ _
    | refused front m rest r _ _ _ _ _ => exact List.prefix_append _ _

/-- A dispatch that loses nothing and after which nothing has been thrown away destroys the handler only for want of
a chunk. -/
theorem gone_without_chunk {s s' : Service β} {env : InputResults β} (hs : Serving s)
    (h : step srv s (.input env) = some s') (hgone : Gone s') (hflushed : s'.flushed = [])
    (hlossless : Lossless s (.input env)) : ∀ c, env.recv ≠ .data c := by
  obtain ⟨_, hserving⟩ := dispatchInput_spec srv env hs
  have hrc : (handleInput srv env s).1 = -1 := by
    by_contra hne
    have hlive := (hserving hne).1.live
    rw [← step_input hs h, hgone.not_live] at hlive
    cases hlive
  have hs' : s' = teardown ((handleInput srv env s).2.removeHandler .readMask) := by
    rw [step_input hs h]
    simp only [dispatchInput, if_pos hrc, handleClose_read]
  rw [hs', teardown_flushed] at hflushed
  have hqueue : (handleInput srv env s).2.queue.unread = [] := (List.append_eq_nil_iff.mp hflushed).2
  have heff := handleInput_effect srv env s
  generalize (handleInput srv env s).1 = rc at heff hrc
  generalize (handleInput srv env s).2 = t at heff hqueue
  cases heff with
  | ended hnone => exact hnone
  | unallocated c hc hall _ ha =>
    obtain hall' | ⟨_, ha', _⟩ := hlossless c hc
    · exact absurd hall' hall
    · rw [ha] at ha'
      cases ha'
  | queuedFirst c _ hall _ _ _ _ =>
    rw [Service.registerHandler_queue, Service.setQueue_queue, MessageQueue.unread_cons, MessageQueue.unread_nil,
      List.append_nil] at hqueue
    exact absurd hqueue (leftover_ne_nil hall c)
  | _ => exact absurd hrc (by decide)

/-! ### Whole runs -/

theorem collected_receivedBy (ds : List (Dispatch β)) :
    collected (fun d => (receivedBy d : Multiset β)) ds = (received ds : Multiset β) := by
  induction ds with
  | nil => rfl
  | cons d ds ih =>
    rw [collected_cons, ih, Multiset.coe_add]
    rfl

theorem stock_opened : stock (opened srv : Service β) = 0 := by
  cases srv <;> rfl

/-- **The run lemma.** -/
theorem run_conserves_bytes {ds : List (Dispatch β)} {s : Service β}
    (hrun : run (step srv) (opened srv) ds = some s) :
    ∃ lost : Multiset β, stock s + lost = (received ds : Multiset β) ∧
      (lost = 0 ↔ Along (step srv) Lossless (opened srv) ds) := by
  have hstep : ∀ (s : Service β) (d : Dispatch β) (s' : Service β), Serving s ∨ Gone s →
      step srv s d = some s' → (Serving s' ∨ Gone s') ∧
        ∃ lost : Multiset β, stock s' + lost = stock s + receivedBy d ∧ (lost = 0 ↔ Lossless s d) := by
    intro s d s' hs h
    refine ⟨step_serving_or_gone d hs h, ?_⟩
    obtain hs | hs := hs
    · exact step_conserves hs h
    · rw [step_gone hs d] at h
      cases h
  obtain ⟨lost, hbalance, hiff⟩ := run_conserves hstep (Or.inl opened_serving) hrun
  refine ⟨lost, ?_, hiff⟩
  rw [hbalance, stock_opened, zero_add, collected_receivedBy]

/-- **Every received byte is in exactly one place.**  In every run, whatever the results of the calls, the bytes
received are those sent, those queued, those thrown away with the queue at the end, and the lost ones: none is
invented or duplicated.  None is lost exactly when every dispatch was lossless. -/
theorem every_byte_in_one_place (srv : Server) (ds : List (Dispatch β)) (s : Service β)
    (hrun : run (step srv) (opened srv) ds = some s) :
    ∃ lost : Multiset β, (s.sent : Multiset β) + s.queue.unread + s.flushed + lost = (received ds : Multiset β) ∧
      (lost = 0 ↔ Along (step srv) Lossless (opened srv) ds) :=
  run_conserves_bytes hrun

/-- Three bytes, of which the socket takes one; the other two are queued, and dropped by the drain. -/
def droppedByDrain : List (Dispatch ℕ) :=
  [arrival ⟨[10, 11, 12], by decide, by decide⟩ (.part 1), .output ⟨[.all], fun _ => true⟩]

theorem every_byte_in_one_place_dropped :
    ∃ s, run (step .server3) (opened .server3) droppedByDrain = some s ∧ s.sent = [10] ∧
      ∃ lost : Multiset ℕ,
        (s.sent : Multiset ℕ) + s.queue.unread + s.flushed + lost = (received droppedByDrain : Multiset ℕ) ∧
          (lost = 0 ↔ Along (step .server3) Lossless (opened .server3) droppedByDrain) :=
  ⟨_, rfl, rfl, every_byte_in_one_place .server3 droppedByDrain _ rfl⟩

/-! ### The exact echo -/

/-- What is outgoing has been received: as multisets, and so in number. -/
theorem length_outgoing_le {ds : List (Dispatch β)} {s : Service β}
    (hrun : run (step srv) (opened srv) ds = some s) : (outgoing s).length ≤ (received ds).length := by
  obtain ⟨lost, hbalance, _⟩ := run_conserves_bytes hrun
  have hcard := congrArg Multiset.card hbalance
  simp only [stock, Multiset.card_add, Multiset.coe_card] at hcard
  rw [outgoing, List.length_append]
  omega

/-- After a READ dispatch the queue is still there, or nothing is. -/
theorem outgoing_dispatchInput (env : InputResults β) (s : Service β) :
    outgoing (dispatchInput srv env s) = outgoing (handleInput srv env s).2 ∨
      outgoing (dispatchInput srv env s) = (handleInput srv env s).2.sent := by
  unfold dispatchInput
  split
  rename_i rc t hout
  rw [hout]
  split
  · refine Or.inr ?_
    rw [handleClose_read, outgoing, teardown_queue, teardown_sent, MessageQueue.unread_nil, List.append_nil]
    rfl
  · exact Or.inl rfl

/-- If a piece that comes out before `queued` comes from behind `queued`, a byte occurs twice. -/
theorem overtaken_mem {earlier sent queued piece rest : List β}
    (h : sent ++ piece ++ (queued ++ rest) = earlier ++ (piece ++ rest))
    (hpiece : piece ≠ []) (hqueued : queued ≠ []) : ∃ b ∈ piece, b ∈ earlier := by
  obtain ⟨b, piece', rfl⟩ := List.exists_cons_of_ne_nil hpiece
  have hlen := congrArg List.length h
  have hpos := List.length_pos_iff.mpr hqueued
  simp only [List.length_append, List.length_cons] at hlen
  rw [List.append_assoc, List.append_eq_append_iff] at h
  obtain ⟨front, rfl, hfront⟩ | ⟨back, rfl, _⟩ := h
  · refine ⟨b, List.mem_cons_self, List.mem_append_right _ ?_⟩
    rw [List.length_append] at hlen
    cases front with
    | nil =>
      rw [List.length_nil] at hlen
      omega
    | cons b' front =>
      rw [List.cons_append, List.cons_append, List.cons.injEq] at hfront
      rw [hfront.1]
      exact List.mem_cons_self
  · rw [List.length_append] at hlen
    omega

/-- **Backwards over one dispatch.**  If the echo is exact after a dispatch, it was exact before, and the dispatch
has not overtaken anything. -/
theorem step_exact {s s' : Service β} {d : Dispatch β} {earlier : List β} (hs : Serving s)
    (hlen : (outgoing s).length ≤ earlier.length) (hnodup : (earlier ++ receivedBy d).Nodup)
    (h : step srv s d = some s') (hexact : outgoing s' = earlier ++ receivedBy d) :
    outgoing s = earlier ∧ NoOvertaking s d := by
  cases d with
  | output env =>
    obtain ⟨hw, rfl⟩ := step_output hs h
    obtain ⟨rc, t, hout, heff⟩ := handleOutput_effect srv env s (hs.write.mp hw) hs.noneEmpty
    have ht : outgoing (dispatchOutput srv env s) = outgoing t := by
      rw [dispatchOutput_eq hout]
      split <;> rfl
    have hsub := heff.outgoing_sublist
    rw [ht] at hexact
    rw [hexact] at hsub
    rw [show receivedBy (.output env : Dispatch β) = [] from rfl, List.append_nil] at hsub
    exact ⟨(hsub.eq_of_length (Nat.le_antisymm hsub.length_le hlen)).symm, trivial⟩
  | input env =>
    rw [step_input hs h] at hexact
    obtain ⟨appended, lost, hchunk, hsent, hqueue⟩ := (handleInput_effect srv env s).splits
    have hout : outgoing (dispatchInput srv env s) = outgoing (handleInput srv env s).2 ∨
        outgoing (dispatchInput srv env s) = (handleInput srv env s).2.sent := outgoing_dispatchInput env s
    rw [hexact, outgoing, hsent, hqueue] at hout
    rw [show receivedBy (.input env) = env.recv.bytes from rfl, ← hchunk] at hout hnodup
    rw [outgoing, List.length_append] at hlen
    -- there are so many bytes that nothing has been lost or thrown away
    have hall : s.sent ++ taken env ++ (s.queue.unread ++ appended) = earlier ++ (taken env ++ appended) := by
      obtain hout | hout := hout
      all_goals
        have hcount := congrArg List.length hout
        simp only [List.length_append] at hcount
        have hlost : lost = [] := List.eq_nil_of_length_eq_zero (by omega)
        subst hlost
      · rw [← hout, List.append_nil]
      · have hempty : s.queue.unread ++ appended = [] := by
          apply List.eq_nil_of_length_eq_zero
          rw [List.length_append]
          omega
        rw [hempty, List.append_nil, ← hout, List.append_nil]
    by_cases htaken : taken env = []
    · rw [htaken, List.append_nil, List.nil_append, ← List.append_assoc] at hall
      have hzero : env.send.accepted env.recv.bytes.length = 0 := by
        have hle := env.send.accepted_le env.recv.bytes.length
        have hcount := congrArg List.length htaken
        rw [taken, List.length_take, List.length_nil] at hcount
        omega
      exact ⟨List.append_cancel_right hall, Or.inr hzero⟩
    · by_cases hwaiting : s.queue.unread = []
      · rw [hwaiting, List.nil_append, List.append_assoc] at hall
        have heq : outgoing s = earlier := by
          rw [outgoing, hwaiting, List.append_nil]
          exact List.append_cancel_right hall
        exact ⟨heq, Or.inl (hs.noneEmpty.unread_eq_nil.mp hwaiting)⟩
      · obtain ⟨b, hb, hearlier⟩ := overtaken_mem hall htaken hwaiting
        have hdisjoint := List.disjoint_of_nodup_append hnodup
        exact absurd (List.mem_append_left _ (List.mem_append_left _ hb)) (hdisjoint hearlier)

/-- **Backwards over a run.** -/
theorem run_exact {ds : List (Dispatch β)} {s : Service β} (hnodup : (received ds).Nodup)
    (hrun : run (step srv) (opened srv) ds = some s) (hexact : outgoing s = received ds) :
    Along (step srv) NoOvertaking (opened srv) ds := by
  refine run_history_reached (I := fun ds s => (received ds).Nodup → outgoing s = received ds →
    Along (step srv) NoOvertaking (opened srv) ds) ?start ?step hrun hnodup hexact
  case start => exact fun _ _ => trivial
  case step =>
    intro ds s d s' hrun hI h hnodup hexact
    rw [received_snoc] at hnodup hexact
    obtain hs | hs := run_serving_or_gone hrun
    · obtain ⟨hbefore, hno⟩ := step_exact hs (length_outgoing_le hrun) hnodup h hexact
      exact (along_snoc hrun).mpr ⟨hI (List.Nodup.of_append_left hnodup) hbefore, hno⟩
    · rw [step_gone hs d] at h
      cases h

/-- Without losses, overtaking and a queue thrown away at the end, the echo is exact. -/
theorem outgoing_of_faithful {ds : List (Dispatch β)} {s : Service β}
    (hrun : run (step srv) (opened srv) ds = some s) (hlossless : Along (step srv) Lossless (opened srv) ds)
    (hno : Along (step srv) NoOvertaking (opened srv) ds) (hflushed : s.flushed = []) :
    outgoing s = received ds := by
  obtain ⟨lost, hbalance, hiff⟩ := run_conserves_bytes hrun
  rw [hiff.mpr hlossless, add_zero] at hbalance
  have hcard := congrArg Multiset.card hbalance
  simp only [stock, hflushed, Multiset.card_add, Multiset.coe_card, List.length_nil, add_zero] at hcard
  apply (run_sublist hno hrun).eq_of_length
  rw [outgoing, List.length_append]
  exact hcard

/-- Where as many bytes are outgoing as have been received, none has been lost or thrown away. -/
theorem lossless_of_length {ds : List (Dispatch β)} {s : Service β}
    (hrun : run (step srv) (opened srv) ds = some s) (hlen : (outgoing s).length = (received ds).length) :
    Along (step srv) Lossless (opened srv) ds ∧ s.flushed = [] := by
  obtain ⟨lost, hbalance, hiff⟩ := run_conserves_bytes hrun
  have hcard := congrArg Multiset.card hbalance
  simp only [stock, Multiset.card_add, Multiset.coe_card] at hcard
  rw [outgoing, List.length_append] at hlen
  refine ⟨hiff.mp (Multiset.card_eq_zero.mp (by omega)), ?_⟩
  exact List.eq_nil_of_length_eq_zero (by omega)

/-- **When the echo is exact.**  Let the received bytes be distinguishable.  What has been sent, followed by what is
queued, is what has been received, if and only if no dispatch has lost a byte, no direct send has overtaken queued
bytes, and no queue has been thrown away. -/
theorem outgoing_eq_received_iff (srv : Server) (ds : List (Dispatch β)) (s : Service β)
    (hnodup : (received ds).Nodup) (hrun : run (step srv) (opened srv) ds = some s) :
    outgoing s = received ds ↔
      Along (step srv) Lossless (opened srv) ds ∧ Along (step srv) NoOvertaking (opened srv) ds
        ∧ s.flushed = [] := by
  constructor
  · intro hexact
    obtain ⟨hlossless, hflushed⟩ := lossless_of_length hrun (congrArg List.length hexact)
    exact ⟨hlossless, run_exact hnodup hrun hexact, hflushed⟩
  · intro h
    exact outgoing_of_faithful hrun h.1 h.2.1 h.2.2

/-- Two chunks find the socket full; then it takes one byte, and the rest stays queued in order. -/
def partlyEchoed : List (Dispatch ℕ) :=
  [arrival ⟨[13, 14], by decide, by decide⟩ .wouldBlock, arrival ⟨[15], by decide, by decide⟩ .wouldBlock,
    .output ⟨[.part 1], fun _ => true⟩]

theorem outgoing_eq_received_partlyEchoed :
    ∃ s, run (step .server4) (opened .server4) partlyEchoed = some s ∧ outgoing s = received partlyEchoed ∧
      (outgoing s = received partlyEchoed ↔
        Along (step .server4) Lossless (opened .server4) partlyEchoed
          ∧ Along (step .server4) NoOvertaking (opened .server4) partlyEchoed ∧ s.flushed = []) :=
  ⟨_, rfl, rfl, outgoing_eq_received_iff .server4 partlyEchoed _ (by decide) rfl⟩

end AceSamples.ClientService
