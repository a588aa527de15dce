import AceSamples.ScriptedRun
import AceSamples.Udp

/-!
# The UDP programs on an unreliable network

Any number of runs of UdpSender1-ace and UdpSender-Broadcast-ace send to one run of UdpReceiver1-ace.  The network
loses, duplicates and reorders datagrams: what has once been sent may arrive at any time, any number of times, or
never.  All senders use the port `27016`, so that a reply may reach any of them.

* `Sender`, `Listener`, `Network`, `step` — the programs, and the datagrams that have been sent to either port;
* `reply` — the request followed by what the receiver's stack held behind it;
* `Answered` — **the invariant**: only requests have been sent to the receiver, and only `reply` has been sent back;
* `step_answered`, `run_answered`, `one_reply_for_all` — every event keeps it, and whatever a sender receives is this
  reply.
-/

set_option autoImplicit false

namespace AceSamples.Udp

open AceSamples.AceSocket AceSamples.ByteBuffer AceSamples.ScriptedRun

variable {bufsiz : ℕ}

/-! ### The network -/

/-- `SendDatagram` before its `send`, in its `recv` with what `send` has returned, or with its return value and what
it has received. -/
inductive SenderPoint where
  | sending
  | waiting (sent : ℤ)
  | returned (hr : ℤ) (received : List UInt8)

/-- A run of UdpSender1-ace. -/
structure Sender (bufsiz : ℕ) where
  buffer : Buffer UInt8 bufsiz
  point : SenderPoint

/-- `EchoDatagram` in its `recv`, or with what it prints. -/
inductive Listener where
  | waiting
  | returned (received : ℤ)

/-- The programs, and the datagrams that have been sent to the receiver and to the senders. -/
structure Network (bufsiz : ℕ) where
  senders : List (Sender bufsiz)
  listener : Listener
  requests : List (List UInt8)
  replies : List (List UInt8)

/-- What happens next.  A `recv` gets the `k`-th datagram that has been sent to it, or it fails. -/
inductive Event where
  | broadcast
  | send (i : ℕ) (ok : Bool)
  | listen (k : Option ℕ)
  | receive (i : ℕ) (k : Option ℕ)

/-- What `recv` comes to. -/
def arrival (datagrams : List (List UInt8)) : Option ℕ → Option (RecvResult UInt8 bufsiz)
  | none => some .failed
  | some k => (datagrams[k]?).map deliver

/-- One event, where the receiver's buffer held `buffer`; `none` when it cannot happen. -/
def step (buffer : Buffer UInt8 bufsiz) (net : Network bufsiz) : Event → Option (Network bufsiz)
  -- `SendBroadcast`
  | .broadcast => some { net with requests := net.requests ++ [request message] }
  | .send i ok =>
    match net.senders[i]? with
    | some ⟨b, .sending⟩ =>
      if ok then
        some { net with
          senders := net.senders.set i ⟨b, .waiting (request message).length⟩
          requests := net.requests ++ [request message] }
      else some { net with senders := net.senders.set i ⟨b, .waiting (-1)⟩ }
    | _ => none
  | .listen k =>
    match net.listener, (arrival net.requests k : Option (RecvResult UInt8 bufsiz)) with
    | .waiting, some r =>
      some { net with listener := .returned r.returned, replies := net.replies ++ (echoDatagram buffer r).toList }
    | _, _ => none
  | .receive i k =>
    match net.senders[i]?, (arrival net.replies k : Option (RecvResult UInt8 bufsiz)) with
    | some ⟨b, .waiting sent⟩, some r =>
      let (hr, received) := sendDatagram b sent r
      some { net with senders := net.senders.set i ⟨b, .returned hr received⟩ }
    | _, _ => none

/-- The senders are started. -/
def start (buffers : List (Buffer UInt8 bufsiz)) : Network bufsiz :=
  ⟨buffers.map fun b => ⟨b, .sending⟩, .waiting, [], []⟩

/-- What happens in an event. -/
inductive StepEffect (buffer : Buffer UInt8 bufsiz) (net : Network bufsiz) : Event → Network bufsiz → Prop
  | broadcast : StepEffect buffer net .broadcast { net with requests := net.requests ++ [request message] }
  | sent (i : ℕ) (b : Buffer UInt8 bufsiz) :
      StepEffect buffer net (.send i true)
        { net with
          senders := net.senders.set i ⟨b, .waiting (request message).length⟩
          requests := net.requests ++ [request message] }
  | unsent (i : ℕ) (b : Buffer UInt8 bufsiz) :
      StepEffect buffer net (.send i false) { net with senders := net.senders.set i ⟨b, .waiting (-1)⟩ }
  | listened (k : Option ℕ) (r : RecvResult UInt8 bufsiz) (hwaits : net.listener = .waiting)
      (hr : arrival net.requests k = some r) :
      StepEffect buffer net (.listen k)
        { net with listener := .returned r.returned, replies := net.replies ++ (echoDatagram buffer r).toList }
  | received (i : ℕ) (k : Option ℕ) (b : Buffer UInt8 bufsiz) (sent : ℤ) (r : RecvResult UInt8 bufsiz)
      (hr : arrival net.replies k = some r) :
      StepEffect buffer net (.receive i k)
        { net with
          senders := net.senders.set i ⟨b, .returned (sendDatagram b sent r).1 (sendDatagram b sent r).2⟩ }

theorem step_effect {buffer : Buffer UInt8 bufsiz} {net net' : Network bufsiz} {e : Event}
    (h : step buffer net e = some net') : StepEffect buffer net e net' := by
  cases e with
  | broadcast =>
    cases h
    exact .broadcast
  | send i ok =>
    simp only [step] at h
    split at h
    · rename_i b _
      cases ok with
      | true =>
        cases h
        exact .sent i b
      | false =>
        cases h
        exact .unsent i b
    · cases h
  | listen k =>
    simp only [step] at h
    split at h
    · rename_i r hwaits hr
      cases h
      exact .listened k r hwaits hr
    · cases h
  | receive i k =>
    simp only [step] at h
    split at h
    · rename_i b sent r _ hr
      cases h
      exact .received i k b sent r hr
    · cases h

/-! ### The invariant -/

/-- The request, and what the receiver's buffer held behind it. -/
def reply (buffer : Buffer UInt8 bufsiz) : List UInt8 :=
  request message ++ buffer.bytes.drop (request message).length

/-- What a sender that has returned has to show. -/
def Satisfied (buffer : Buffer UInt8 bufsiz) : SenderPoint → Prop
  | .returned hr received => (hr = 0 ∨ hr = -1) ∧ (received = [] ∨ received = reply buffer)
  | _ => True

/-- **The invariant.** -/
structure Answered (buffer : Buffer UInt8 bufsiz) (net : Network bufsiz) : Prop where
  requests : ∀ d ∈ net.requests, d = request message
  replies : ∀ d ∈ net.replies, d = reply buffer
  once : net.replies.length ≤ match net.listener with | .waiting => 0 | .returned _ => 1
  senders : ∀ s ∈ net.senders, Satisfied buffer s.point

/-- The receiver answers a request with `reply`, if it is not too long for its buffer. -/
theorem echoDatagram_request (buffer : Buffer UInt8 bufsiz) :
    ∀ d ∈ echoDatagram buffer (deliver (request message)), d = reply buffer := by
  have hpos : 0 < (request message).length := by decide
  intro d hd
  by_cases hle : (request message).length ≤ bufsiz
  · have hchunk : deliver (request message) = RecvResult.data (⟨request message, hpos, hle⟩ : Chunk UInt8 bufsiz) :=
      deliver_chunk ⟨request message, hpos, hle⟩
    rw [hchunk, echoDatagram_data, Option.mem_some_iff, Buffer.front_size] at hd
    exact hd.symm
  · have hfailed : (deliver (request message) : RecvResult UInt8 bufsiz) = .failed := by
      rw [deliver, dif_neg (fun h => hle h.2), if_neg (by omega)]
    rw [hfailed] at hd
    cases hd

/-- A reply is received as it was sent, if it is received at all. -/
theorem sendDatagram_reply (buffer b : Buffer UInt8 bufsiz) (sent : ℤ) :
    (sendDatagram b sent (deliver (reply buffer))).2 = [] ∨
      (sendDatagram b sent (deliver (reply buffer))).2 = reply buffer := by
  by_cases hfits : 0 < (reply buffer).length ∧ (reply buffer).length ≤ bufsiz
  · refine Or.inr ?_
    have hchunk : deliver (reply buffer)
        = RecvResult.data (⟨reply buffer, hfits.1, hfits.2⟩ : Chunk UInt8 bufsiz) :=
      deliver_chunk ⟨reply buffer, hfits.1, hfits.2⟩
    rw [hchunk]
    exact (Buffer.front_fill_eq_iff b hfits.2 hfits.2).mpr rfl
  · refine Or.inl ?_
    rw [deliver, dif_neg hfits]
    split <;> rfl

theorem start_answered (buffer : Buffer UInt8 bufsiz) (buffers : List (Buffer UInt8 bufsiz)) :
    Answered buffer (start buffers) := by
  refine ⟨fun d hd => absurd hd List.not_mem_nil, fun d hd => absurd hd List.not_mem_nil, Nat.le_refl 0, ?_⟩
  intro s hs
  obtain ⟨b, _, rfl⟩ := List.mem_map.mp hs
  trivial

/-- One sender goes on. -/
theorem Answered.senders_set {buffer : Buffer UInt8 bufsiz} {net : Network bufsiz} (hs : Answered buffer net) (i : ℕ)
    {s : Sender bufsiz} (hsatisfied : Satisfied buffer s.point) :
    ∀ s' ∈ net.senders.set i s, Satisfied buffer s'.point := by
  intro s' hs'
  obtain hs' | rfl := List.mem_or_eq_of_mem_set hs'
  · exact hs.senders s' hs'
  · exact hsatisfied

/-- One more request. -/
theorem Answered.requests_snoc {buffer : Buffer UInt8 bufsiz} {net : Network bufsiz} (hs : Answered buffer net) :
    ∀ d ∈ net.requests ++ [request message], d = request message := by
  intro d hd
  obtain hd | hd := List.mem_append.mp hd
  · exact hs.requests d hd
  · exact List.mem_singleton.mp hd

/-- **The step lemma.** -/
theorem step_answered {buffer : Buffer UInt8 bufsiz} {net net' : Network bufsiz} {e : Event}
    (hs : Answered buffer net) (h : step buffer net e = some net') : Answered buffer net' := by
  cases step_effect h with
  | broadcast => exact ⟨hs.requests_snoc, hs.replies, hs.once, hs.senders⟩
  | sent i b => exact ⟨hs.requests_snoc, hs.replies, hs.once, hs.senders_set i trivial⟩
  | unsent i b => exact ⟨hs.requests, hs.replies, hs.once, hs.senders_set i trivial⟩
  | listened k r hwaits hr =>
    -- nothing has been sent back before
    have hnone : net.replies = [] := by
      have honce := hs.once
      rw [hwaits] at honce
      exact List.length_eq_zero_iff.mp (Nat.le_zero.mp honce)
    have hecho : ∀ d ∈ echoDatagram buffer r, d = reply buffer := by
      cases k with
      | none =>
        cases hr
        exact fun d hd => nomatch hd
      | some k =>
        obtain ⟨d, hd, rfl⟩ := Option.map_eq_some_iff.mp hr
        rw [hs.requests d (List.mem_of_getElem? hd)]
        exact echoDatagram_request buffer
    refine ⟨hs.requests, ?_, ?_, hs.senders⟩
    · intro d hd
      rw [show _ = net.replies ++ (echoDatagram buffer r).toList from rfl, hnone, List.nil_append] at hd
      exact hecho d (Option.mem_toList.mp hd)
    · show (net.replies ++ (echoDatagram buffer r).toList).length ≤ 1
      rw [hnone, List.nil_append]
      exact Option.length_toList_le
  | received i k b sent r hr =>
    refine ⟨hs.requests, hs.replies, hs.once, hs.senders_set i ?_⟩
    refine ⟨?_, ?_⟩
    · show (if sent = -1 then (-1 : ℤ) else 0) = 0 ∨ (if sent = -1 then (-1 : ℤ) else 0) = -1
      split
      · exact Or.inr rfl
      · exact Or.inl rfl
    · cases k with
      | none =>
        cases hr
        exact Or.inl rfl
      | some k =>
        obtain ⟨d, hd, rfl⟩ := Option.map_eq_some_iff.mp hr
        rw [hs.replies d (List.mem_of_getElem? hd)]
        exact sendDatagram_reply buffer b sent

/-- **The run lemma.** -/
theorem run_answered {buffer : Buffer UInt8 bufsiz} {buffers : List (Buffer UInt8 bufsiz)} {es : List Event}
    {net : Network bufsiz} (hrun : run (step buffer) (start buffers) es = some net) : Answered buffer net :=
  run_invariant (fun _ _ _ hs h => step_answered hs h) (start_answered buffer buffers) hrun

/-- **One reply for all.**  For any number of senders, and whatever the network does with the datagrams: the receiver
sends at most one reply; and a sender that has returned has received nothing, or exactly this reply, which is the text
followed by what the receiver's buffer held behind it. -/
theorem one_reply_for_all (buffer : Buffer UInt8 bufsiz) (buffers : List (Buffer UInt8 bufsiz)) (es : List Event)
    (net : Network bufsiz) (hrun : run (step buffer) (start buffers) es = some net) :
    net.replies.length ≤ 1 ∧ (∀ d ∈ net.replies, d = reply buffer) ∧
      ∀ s ∈ net.senders, ∀ hr received, s.point = .returned hr received →
        (hr = 0 ∨ hr = -1) ∧ (received = [] ∨ received = reply buffer) := by
  have hs := run_answered hrun
  refine ⟨?_, hs.replies, ?_⟩
  · have honce := hs.once
    cases hlistener : net.listener with
    | waiting =>
      rw [hlistener] at honce
      exact Nat.le_succ_of_le honce
    | returned received =>
      rw [hlistener] at honce
      exact honce
  · intro s hmem hr received hpoint
    have hsatisfied := hs.senders s hmem
    rw [hpoint] at hsatisfied
    exact hsatisfied

/-- Two senders and a broadcast; the receiver answers the second datagram it could get, and both senders get the
answer, although the `send` of one of them has failed. -/
def sharedReply : List Event :=
  [.broadcast, .send 0 true, .send 1 false, .listen (some 1), .receive 1 (some 0), .receive 0 (some 0)]

theorem one_reply_for_all_sharedReply :
    ∃ net, run (step (.replicate 22 170 : Buffer UInt8 22)) (start [.replicate 22 0, .replicate 22 0]) sharedReply
        = some net ∧ net.replies = [request message ++ [170, 170]] ∧ net.replies.length ≤ 1 ∧
      ∀ s ∈ net.senders, ∀ hr received, s.point = .returned hr received →
        (hr = 0 ∨ hr = -1) ∧ (received = [] ∨ received = reply (.replicate 22 170 : Buffer UInt8 22)) := by
  obtain ⟨hlen, _, hsenders⟩ :=
    one_reply_for_all (.replicate 22 170 : Buffer UInt8 22) [.replicate 22 0, .replicate 22 0] sharedReply _ rfl
  exact ⟨_, rfl, rfl, hlen, hsenders⟩

end AceSamples.Udp
