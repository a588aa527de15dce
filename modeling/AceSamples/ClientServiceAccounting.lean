import AceSamples.ClientServiceEchoOrder

/-!
# Where the bytes of one callback go

Both callbacks of `ClientService` move bytes between the connection and the queue.  This file says which bytes
end up where, and which ones end up nowhere.

* `handleInput_accounting` — a received chunk is split into what the socket takes, what is queued and what is
  lost; something is lost exactly when the send failed or the insertion was rejected (`Lossy`);
* `PutBack`, `NothingDropped` — what `handle_output` should leave behind: everything sent, or the first message
  that was not sent whole back at the head, cut by what the socket took of it;
* `handleOutput_conserves_iff` — it does so exactly when its loop stops before the last message.  The count
  that the dequeue returns is the loop's condition, so with nothing left behind it the last message is dropped
  and not sent.
-/

set_option autoImplicit false

namespace AceSamples.ClientService

open AceSamples.AceSocket AceSamples.AceMessageQueue

variable {β : Type*} {srv : Server}

namespace Service

variable (ok : Bool) (m : Mask) (s : Service β)

theorem registerHandler_queue : (s.registerHandler ok m).2.queue = s.queue := by
  cases ok <;> rfl

theorem registerHandler_sent : (s.registerHandler ok m).2.sent = s.sent := by
  cases ok <;> rfl

end Service

/-! ### A received chunk -/

/-- The two ways to lose bytes of a chunk: `send` fails otherwise than with `EWOULDBLOCK`, or the queue rejects
what `send` has left. -/
def Lossy (env : InputResults β) (s : Service β) : Prop :=
  env.send = .failed ∨ env.send ≠ .all ∧ env.accepts s.queue = false

/-- `handle_input` has turned `s` into `s'`: of the chunk `c`, the socket has taken `taken`, the messages
`appended` have been queued behind the others, none of them empty, and `lost` is the rest. -/
structure Accounts (c : Chunk β inputSize) (s s' : Service β) (taken : List β)
    (appended : MessageQueue β) (lost : List β) : Prop where
  chunk : taken ++ appended.unread ++ lost = c.bytes
  sent : s'.sent = s.sent ++ taken
  queue : s'.queue = s.queue ++ appended
  noneEmpty : appended.NoneEmpty

/-- The bytes of the chunk that `send` accepts. -/
def acceptedBytes (r : SendResult) (c : Chunk β inputSize) : List β :=
  c.bytes.take (r.accepted c.bytes.length)

/-- The bytes of the chunk that `send` does not accept. -/
def unacceptedBytes (r : SendResult) (c : Chunk β inputSize) : List β :=
  c.bytes.drop (r.accepted c.bytes.length)

theorem acceptedBytes_append (r : SendResult) (c : Chunk β inputSize) :
    acceptedBytes r c ++ unacceptedBytes r c = c.bytes := List.take_append_drop _ _

@[simp] theorem unacceptedBytes_all (c : Chunk β inputSize) : unacceptedBytes .all c = [] := by
  simp [unacceptedBytes]

theorem unacceptedBytes_ne_nil {r : SendResult} (hr : r ≠ .all) (c : Chunk β inputSize) :
    unacceptedBytes r c ≠ [] := leftover_ne_nil hr c

/-- What is not lost has been queued. -/
theorem accounts_queued {c : Chunk β inputSize} {s s' : Service β} {r : SendResult} (hr : r ≠ .all)
    (hsent : s'.sent = s.sent ++ acceptedBytes r c) (hqueue : s'.queue = s.queue ++ [leftover r c]) :
    Accounts c s s' (acceptedBytes r c) [leftover r c] [] := by
  refine ⟨?_, hsent, hqueue, ?_⟩
  · rw [List.append_nil, MessageQueue.unread_cons, MessageQueue.unread_nil, List.append_nil]
    exact acceptedBytes_append r c
  · intro m hm
    rw [List.mem_singleton.mp hm]
    exact leftover_ne_nil hr c

/-- Nothing has been queued. -/
theorem accounts_unqueued {c : Chunk β inputSize} {s s' : Service β} {r : SendResult}
    (hsent : s'.sent = s.sent ++ acceptedBytes r c) (hqueue : s'.queue = s.queue) :
    Accounts c s s' (acceptedBytes r c) [] (unacceptedBytes r c) := by
  refine ⟨?_, hsent, by rw [hqueue, List.append_nil], fun m hm => nomatch hm⟩
  rw [MessageQueue.unread_nil, List.append_nil]
  exact acceptedBytes_append r c

/-- `handle_input` has received the chunk `c`, returned `rc` and turned `s` into `s'`.  Something is lost exactly
when the send failed or the insertion was rejected; then nothing is appended, the queue and the registration are
as they were, the returned value is `0`, and the loss is all that `send` did not accept.  It returns `-1` exactly
when it had to register for writing and could not. -/
def Accounted (env : InputResults β) (c : Chunk β inputSize) (s : Service β) (rc : ℤ) (s' : Service β) :
    Prop :=
  ∃ appended lost, Accounts c s s' (acceptedBytes env.send c) appended lost
    ∧ (lost = [] ↔ ¬Lossy env s)
    ∧ (Lossy env s → appended = [] ∧ lost = unacceptedBytes env.send c
      ∧ s'.queue = s.queue ∧ s'.mask = s.mask ∧ rc = 0)
    ∧ (rc = -1 ↔ ¬Lossy env s ∧ env.send ≠ .all ∧ s.queue = [] ∧ env.registered = false)

/-- The outcomes of `handle_input` that lose something. -/
theorem accounted_lossy {env : InputResults β} {c : Chunk β inputSize} {s : Service β}
    (hlossy : Lossy env s) (hne : env.send ≠ .all) :
    Accounted env c s 0 (s.transmit env.send c.bytes) := by
  refine ⟨[], unacceptedBytes env.send c, accounts_unqueued rfl rfl, ?_, ?_, ?_⟩
  · exact iff_of_false (unacceptedBytes_ne_nil hne c) (not_not_intro hlossy)
  · exact fun _ => ⟨rfl, rfl, rfl, rfl, rfl⟩
  · exact iff_of_false (by decide) (fun h => h.1 hlossy)

/-- The outcomes of `handle_input` that queue what `send` has left. -/
theorem accounted_queued {env : InputResults β} {c : Chunk β inputSize} {s s' : Service β} {rc : ℤ}
    (hlossy : ¬Lossy env s) (hne : env.send ≠ .all) (hsent : s'.sent = s.sent ++ acceptedBytes env.send c)
    (hqueue : s'.queue = s.queue ++ [leftover env.send c])
    (hrc : rc = -1 ↔ s.queue = [] ∧ env.registered = false) : Accounted env c s rc s' := by
  refine ⟨[leftover env.send c], [], accounts_queued hne hsent hqueue, iff_of_true rfl hlossy, ?_, ?_⟩
  · exact fun h => absurd h hlossy
  · rw [and_iff_right hlossy, and_iff_right hne]
    exact hrc

/-- Nothing is left of the chunk to be queued. -/
theorem accounted_whole {env : InputResults β} {c : Chunk β inputSize} {s : Service β}
    (hall : env.send = .all) : Accounted env c s 0 (s.transmit env.send c.bytes) := by
  have hlossy : ¬Lossy env s := by
    intro h
    obtain h | h := h
    · rw [hall] at h
      cases h
    · exact h.1 hall
  have haccounts : Accounts c s (s.transmit env.send c.bytes) (acceptedBytes env.send c) []
      (unacceptedBytes env.send c) := accounts_unqueued rfl rfl
  rw [show unacceptedBytes env.send c = [] by rw [hall, unacceptedBytes_all]] at haccounts
  refine ⟨[], [], haccounts, iff_of_true rfl hlossy, fun h => absurd h hlossy, ?_⟩
  exact iff_of_false (by decide) (fun h => h.2.1 hall)

/-- Every outcome of `handle_input` on a chunk accounts for its bytes. -/
theorem InputEffect.accounted {env : InputResults β} {c : Chunk β inputSize} {s s' : Service β} {rc : ℤ}
    (h : InputEffect env s rc s') (hc : env.recv = .data c) (ha : env.allocated = true) :
    Accounted env c s rc s' := by
  have hchunk : ∀ c', env.recv = .data c' → c' = c := by
    intro c' hc'
    rw [hc] at hc'
    cases hc'
    rfl
  have hqueued : env.send ≠ .failed → env.accepts s.queue = true → ¬Lossy env s := by
    intro hf hr h
    obtain h | ⟨_, h⟩ := h
    · exact hf h
    · rw [hr] at h
      cases h
  cases h with
  | ended h => exact absurd hc (h c)
  | whole c' hc' hs =>
    obtain rfl := hchunk c' hc'
    exact accounted_whole hs
  | sendFailed c' hc' hs =>
    have hlossy : Accounted env c s 0 (s.transmit env.send c.bytes) :=
      accounted_lossy (Or.inl hs) (by rw [hs]; nofun)
    rw [hs, Service.transmit_failed] at hlossy
    exact hlossy
  | unallocated c' _ _ _ hunallocated =>
    rw [ha] at hunallocated
    cases hunallocated
  | rejected c' hc' hs _ _ hr =>
    obtain rfl := hchunk c' hc'
    exact accounted_lossy (Or.inr ⟨hs, hr⟩) hs
  | queuedBehind c' hc' hs hf _ hr hq =>
    obtain rfl := hchunk c' hc'
    exact accounted_queued (hqueued hf hr) hs rfl rfl (iff_of_false (by decide) (fun h => hq h.1))
  | queuedFirst c' hc' hs hf _ hr hq =>
    obtain rfl := hchunk c' hc'
    refine accounted_queued (hqueued hf hr) hs (Service.registerHandler_sent _ _ _) ?_ ?_
    · rw [Service.registerHandler_queue, hq]
      rfl
    · rw [and_iff_right hq]
      cases env.registered <;> decide

/-- **Exact accounting of a received chunk.**  For every queue and every result of `send`, of the insertion and of
the registration, with memory for the message block: the chunk is what the socket accepts, followed by what is
appended to the queue, followed by what is lost. -/
theorem handleInput_accounting (srv : Server) (env : InputResults β) (s : Service β)
    (c : Chunk β inputSize) (hc : env.recv = .data c) (ha : env.allocated = true) :
    Accounted env c s (handleInput srv env s).1 (handleInput srv env s).2 :=
  (handleInput_effect srv env s).accounted hc ha

/-- Three bytes, of which the socket takes one, and a queue that rejects the other two. -/
def rejectedInput : InputResults ℕ :=
  ⟨.data ⟨[1, 2, 3], by decide, by decide⟩, .part 1, true, fun _ => false, true⟩

theorem handleInput_accounting_rejected :
    ∃ appended lost,
      Accounts ⟨[1, 2, 3], by decide, by decide⟩ heldBack (handleInput .server4 rejectedInput heldBack).2
        [1] appended lost ∧ appended = [] ∧ lost = [2, 3] := by
  obtain ⟨appended, lost, haccounts, _, hlossy, _⟩ :=
    handleInput_accounting .server4 rejectedInput heldBack ⟨[1, 2, 3], by decide, by decide⟩ rfl rfl
  obtain ⟨happended, hlost, _⟩ := hlossy (Or.inr ⟨by decide, rfl⟩)
  exact ⟨appended, lost, haccounts, happended, hlost⟩

/-! ### Draining the queue -/

/-- `handle_output` has turned `s` into `s'`: the messages `front` have been sent whole, `m` up to its first
`k` bytes, and what is left of `m` is at the head of the queue again. -/
structure PutBack (s s' : Service β) (front : MessageQueue β) (m : MessageBlock β) (rest : MessageQueue β)
    (k : ℕ) : Prop where
  before : s.queue = front ++ m :: rest
  queue : s'.queue = m.rdPtr k :: rest
  sent : s'.sent = s.sent ++ (front.unread ++ m.unread.take k)
  short : k < m.length

/-- Every dequeued message has been sent in full or put back. -/
def NothingDropped (s s' : Service β) : Prop :=
  s'.queue = [] ∧ s'.sent = s.sent ++ s.queue.unread ∨ ∃ front m rest k, PutBack s s' front m rest k

theorem PutBack.conserves {s s' : Service β} {front rest : MessageQueue β} {m : MessageBlock β} {k : ℕ}
    (h : PutBack s s' front m rest k) : outgoing s' = outgoing s := by
  rw [outgoing, outgoing, h.queue, h.sent, h.before, MessageQueue.unread_split front m rest k]
  simp only [List.append_assoc]

/-- The message that is put back keeps the bytes that were not sent. -/
theorem OutputEffect.putBack_of {env : OutputResults β} {s s' : Service β} {rc : ℤ}
    (h : OutputEffect env s rc s') (hfull : s.queue.NoneEmpty)
    (haccepts : ∀ front rest, s.queue = front ++ rest → env.accepts rest = true)
    (hbehind : wholeSends env.sends + 1 < s.queue.length) :
    ∃ front m rest k, front.length = wholeSends env.sends ∧ PutBack s s' front m rest k := by
  cases h with
  | drained front last hq hs =>
    have hlen : s.queue.length = front.length + 1 := by simp [hq]
    omega
  | putBack front m rest r hq hrest hs hr ha =>
    refine ⟨front, m, rest, r.accepted m.length, hs.symm, hq, rfl, rfl, ?_⟩
    exact SendResult.accepted_lt hr (List.length_pos_iff.mpr (hfull m (by rw [hq]; simp)))
  | refused front m rest r hq hrest hs hr ha =>
    rw [haccepts (front ++ [m]) rest (by rw [hq]; simp)] at ha
    cases ha

/-- When the loop reaches the last message, the message is gone and has not been sent. -/
theorem OutputEffect.drops_last {env : OutputResults β} {s s' : Service β} {rc : ℤ}
    (h : OutputEffect env s rc s') (hfull : s.queue.NoneEmpty)
    (hlast : ¬wholeSends env.sends + 1 < s.queue.length) : outgoing s' ≠ outgoing s := by
  have hcontra : ∀ (front rest : MessageQueue β) (m : MessageBlock β), s.queue = front ++ m :: rest →
      rest ≠ [] → wholeSends env.sends = front.length → False := by
    intro front rest m hq hrest hs
    have hpos := List.length_pos_iff.mpr hrest
    have hlen : s.queue.length = front.length + (rest.length + 1) := by simp [hq]
    omega
  cases h with
  | putBack front m rest r hq hrest hs _ _ => exact (hcontra front rest m hq hrest hs).elim
  | refused front m rest r hq hrest hs _ _ => exact (hcontra front rest m hq hrest hs).elim
  | drained front last hq _ =>
    intro heq
    have hlost : last.unread = [] := by
      have hout : outgoing s = s.sent ++ front.unread ++ last.unread := by simp [outgoing, hq]
      have hout' : outgoing ((s.deliver front.unread).setQueue []) = s.sent ++ front.unread := by
        simp [outgoing]
      rw [hout, hout'] at heq
      exact List.self_eq_append_right.mp heq
    exact hfull last (by rw [hq]; simp) hlost

/-- **When draining loses nothing.**  Entered with messages whose total size is below the high-water mark, so
that every put-back is accepted, the loop of `handle_output` ends.  What has been sent, followed by what is
queued, is then the same as before, with every dequeued message sent in full or put back, if and only if one of
the sends before the last message was not whole. -/
theorem handleOutput_conserves_iff (srv : Server) (highWaterMark : ℕ) (env : OutputResults β)
    (s : Service β) (hne : s.queue ≠ []) (hfull : s.queue.NoneEmpty)
    (hbelow : s.queue.totalSize < highWaterMark)
    (haccepts : ∀ q : MessageQueue β, q.totalSize < highWaterMark → env.accepts q = true) :
    ∃ rc s', handleOutput srv env s = .ok (rc, s')
      ∧ (outgoing s' = outgoing s ∧ NothingDropped s s' ↔ wholeSends env.sends + 1 < s.queue.length) := by
  obtain ⟨rc, s', hout, heff⟩ := handleOutput_effect srv env s hne hfull
  refine ⟨rc, s', hout, ?_, ?_⟩
  · intro hboth
    obtain ⟨heq, _⟩ := hboth
    by_contra hlast
    exact heff.drops_last hfull hlast heq
  · intro hbehind
    have hrest : ∀ front rest, s.queue = front ++ rest → env.accepts rest = true := by
      intro front rest hq
      apply haccepts
      rw [hq, MessageQueue.totalSize_append] at hbelow
      omega
    obtain ⟨front, m, rest, k, _, hput⟩ := heff.putBack_of hfull hrest hbehind
    exact ⟨hput.conserves, Or.inr ⟨front, m, rest, k, hput⟩⟩

/-- The socket is full again, and the queue accepts the put-back. -/
def stillFull : OutputResults ℕ := ⟨[.wouldBlock], fun _ => true⟩

/-- The single queued byte is dropped, although the socket has not taken it. -/
theorem handleOutput_drops_last :
    (∃ s', handleOutput .server3 stillFull heldBack = .ok (-1, s') ∧ outgoing s' ≠ outgoing heldBack)
      ∧ ∃ s', handleOutput .server4 stillFull heldBack = .ok (-1, s') ∧ outgoing s' ≠ outgoing heldBack :=
  ⟨⟨_, rfl, by decide⟩, ⟨_, rfl, by decide⟩⟩

/-- The handler of `heldBack` with a second message queued. -/
def heldBackTwice : Service ℕ := { heldBack with queue := heldBack.queue ++ heldBack.queue }

theorem handleOutput_conserves_heldBackTwice :
    ∃ rc s', handleOutput .server4 stillFull heldBackTwice = .ok (rc, s')
      ∧ (outgoing s' = outgoing heldBackTwice ∧ NothingDropped heldBackTwice s'
        ↔ wholeSends stillFull.sends + 1 < heldBackTwice.queue.length) :=
  handleOutput_conserves_iff .server4 16384 stillFull heldBackTwice (by decide)
    (by intro m hm; simp [heldBackTwice, heldBack] at hm; subst hm; decide) (by decide)
    (fun _ _ => rfl)

end AceSamples.ClientService
