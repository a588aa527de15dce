import AceSamples.ScriptedRun
import AceSamples.Server2
import Mathlib.Algebra.Group.Int.Defs
import Mathlib.Algebra.Group.Nat.Defs

/-!
# Client1 against Server2-ace

`main` of Client1 passes seven characters to `send_n`, calls `recv` once and passes what it has got to `write`, and
it looks at the result of none of these calls.  Server2-ace sends one byte for each chunk it receives, and goes on
sending after the end of the stream.

* `Point`, `Session`, `step` — the two programs on one connection, in any interleaving; a trip of the server's loop
  is `Server2.pass`;
* `stale` — the byte that the server sends when it has not received one;
* `Going` — **the invariant**: the server has sent the first byte of each chunk, followed by stale bytes only when
  the client has closed its end, and the client has printed a part of the former;
* `step_going`, `run_going` — every turn keeps it;
* `printed_text`, `server_sends_stale` — what the client prints, and what the server sends.
-/

set_option autoImplicit false

namespace AceSamples.Client1

open AceSamples.AceSocket AceSamples.ByteBuffer AceSamples.ScriptedRun AceSamples.WhileLoop
open AceSamples.Server2 (Echo Ending pass)

/-! ### The session -/

/-- The text that `main` passes to `send_n`. -/
def text : List Char := ['u', 'p', 't', 'i', 'm', 'e', '\n']

/-- `bufferSize` of Client1 -/
def bufferSize : ℕ := 512

/-- Where `main` is: in one of its calls, or past the `write` of `count` bytes of its buffer, or returned with `1`. -/
inductive Point where
  | connecting
  | sending
  | receiving
  | written (buffer : Buffer Char bufferSize) (count : ℕ)
  | refused

/-- The client has closed its end of the connection. -/
def Point.closed : Point → Bool
  | .written _ _ => true
  | _ => false

/-- The third argument of `write`, which is unsigned. -/
def writeCount (bytesReceived : ℤ) : ℕ := (bytesReceived % 2 ^ 32).toNat

/-- The two programs: the client with its buffer and the number of characters that its socket has accepted, and the
chunks that the server has received, with the state of its loop. -/
structure Session where
  point : Point
  buffer : Buffer Char bufferSize
  put : ℕ
  chunks : List (Chunk Char Server2.bufferSize)
  echo : Echo Char
  ended : Bool

/-- The two programs when the server waits for the client; the contents of their buffers are arbitrary. -/
def start (clientBuffer : Buffer Char bufferSize) (serverBuffer : Buffer Char Server2.bufferSize) : Session :=
  ⟨.connecting, clientBuffer, 0, [], ⟨[], serverBuffer, []⟩, false⟩

/-- What happens next: `connect` returns, `send_n` gets some characters through, `send_n` returns, the client's
`recv` returns, or the server goes round its loop. -/
inductive Turn where
  | connect (ok : Bool)
  | put (k : ℕ)
  | sent
  | recv (r : RecvResult Char bufferSize)
  | serve (r : RecvResult Char Server2.bufferSize)

/-- The characters that the client's socket has accepted. -/
def Session.given (s : Session) : List Char := text.take s.put

/-- The characters that the server has received. -/
def Session.taken (s : Session) : List Char := s.chunks.flatMap Chunk.bytes

/-- One trip of the server's loop, with what its `recv` comes to.  How the stream ends only matters when there is no
chunk. -/
def trip (r : RecvResult Char Server2.bufferSize) (e : Echo Char) : Pass (Echo Char) (Echo Char) :=
  match r with
  | .data c => pass .closed { e with incoming := [c] }
  | .closed => pass .closed { e with incoming := [] }
  | .failed => pass .failed { e with incoming := [] }

/-- The chunk that a `recv` of the server delivers. -/
def chunkOf : RecvResult Char Server2.bufferSize → List (Chunk Char Server2.bufferSize)
  | .data c => [c]
  | _ => []

/-- One turn; `none` when it cannot happen. -/
def step (s : Session) : Turn → Option Session
  | .connect ok =>
    match s.point with
    | .connecting => some { s with point := if ok then .sending else .refused }
    | _ => none
  | .put k =>
    match s.point with
    | .sending => if s.put + k ≤ text.length then some { s with put := s.put + k } else none
    | _ => none
  | .sent =>
    match s.point with
    | .sending => some { s with point := .receiving }
    | _ => none
  | .recv r =>
    match s.point with
    | .receiving =>
      if arrives s.echo.ranges.flatten [] s.ended r then
        some { s with point := .written (s.buffer.fill r.bytes r.bytes_length_le) (writeCount r.returned) }
      else none
    | _ => none
  | .serve r =>
    if !s.ended && arrives s.given s.taken s.point.closed r then
      match trip r s.echo with
      | .again e => some { s with chunks := s.chunks ++ chunkOf r, echo := e }
      | .leave e => some { s with echo := e, ended := true }
    else none

/-! ### One trip of the server's loop -/

theorem trip_data (c : Chunk Char Server2.bufferSize) (e : Echo Char) :
    trip (.data c) e = .again ⟨[], e.buffer.fill c.bytes c.le, e.ranges ++ [c.bytes.take 1]⟩ :=
  Server2.pass_chunk .closed { e with incoming := [c] } rfl

theorem trip_closed (e : Echo Char) :
    trip .closed e = .again ⟨[], e.buffer, e.ranges ++ [e.buffer.front 1]⟩ :=
  Server2.pass_closed { e with incoming := [] } rfl

theorem trip_failed (e : Echo Char) : trip .failed e = .leave ⟨[], e.buffer, e.ranges⟩ :=
  Server2.pass_failed { e with incoming := [] } rfl

/-- What one turn does. -/
inductive TurnEffect (s : Session) : Turn → Session → Prop
  | connected (h : s.point = .connecting) : TurnEffect s (.connect true) { s with point := .sending }
  | refused (h : s.point = .connecting) : TurnEffect s (.connect false) { s with point := .refused }
  | put (k : ℕ) (h : s.point = .sending) : TurnEffect s (.put k) { s with put := s.put + k }
  | sent (h : s.point = .sending) : TurnEffect s .sent { s with point := .receiving }
  | recv (r : RecvResult Char bufferSize) (h : s.point = .receiving)
      (harrives : arrives s.echo.ranges.flatten [] s.ended r = true) :
      TurnEffect s (.recv r)
        { s with point := .written (s.buffer.fill r.bytes r.bytes_length_le) (writeCount r.returned) }
  | chunk (c : Chunk Char Server2.bufferSize) (harrives : s.taken ++ c.bytes <+: s.given) :
      TurnEffect s (.serve (.data c))
        { s with chunks := s.chunks ++ [c],
                 echo := ⟨[], s.echo.buffer.fill c.bytes c.le, s.echo.ranges ++ [c.bytes.take 1]⟩ }
  | endOfStream (hclosed : s.point.closed = true) (hall : s.taken = s.given) :
      TurnEffect s (.serve .closed)
        { s with echo := ⟨[], s.echo.buffer, s.echo.ranges ++ [s.echo.buffer.front 1]⟩ }
  | failed : TurnEffect s (.serve .failed) { s with echo := ⟨[], s.echo.buffer, s.echo.ranges⟩, ended := true }

theorem step_effect {s s' : Session} {t : Turn} (h : step s t = some s') : TurnEffect s t s' := by
  cases t with
  | connect ok =>
    simp only [step] at h
    split at h
    · rename_i hpoint
      cases h
      cases ok with
      | true => exact .connected hpoint
      | false => exact .refused hpoint
    · cases h
  | put k =>
    simp only [step] at h
    split at h
    · rename_i hpoint
      split at h
      · cases h
        exact .put k hpoint
      · cases h
    · cases h
  | sent =>
    simp only [step] at h
    split at h
    · rename_i hpoint
      cases h
      exact .sent hpoint
    · cases h
  | recv r =>
    simp only [step] at h
    split at h
    · rename_i hpoint
      split at h
      · rename_i harrives
        cases h
        exact .recv r hpoint harrives
      · cases h
    · cases h
  | serve r =>
    simp only [step] at h
    split at h
    · rename_i hen
      rw [Bool.and_eq_true] at hen
      cases r with
      | data c =>
        rw [trip_data] at h
        cases h
        exact .chunk c (List.isPrefixOf_iff_prefix.mp hen.2)
      | closed =>
        rw [trip_closed] at h
        obtain ⟨hclosed, hall⟩ := arrives_closed hen.2
        rw [show s.chunks ++ chunkOf .closed = s.chunks from List.append_nil _] at h
        cases h
        exact .endOfStream hclosed hall
      | failed =>
        rw [trip_failed] at h
        cases h
        exact .failed
    · cases h

/-! ### The invariant -/

/-- What the server sends for each chunk. -/
def firsts (chunks : List (Chunk Char Server2.bufferSize)) : List (List Char) :=
  chunks.map fun c => c.bytes.take 1

/-- What the server sends when it has not received anything: the first byte of its buffer. -/
def stale (serverBuffer : Buffer Char Server2.bufferSize) (chunks : List (Chunk Char Server2.bufferSize)) :
    List Char :=
  match chunks.getLast? with
  | none => serverBuffer.front 1
  | some c => c.bytes.take 1

theorem stale_snoc (serverBuffer : Buffer Char Server2.bufferSize) (chunks : List (Chunk Char Server2.bufferSize))
    (c : Chunk Char Server2.bufferSize) : stale serverBuffer (chunks ++ [c]) = c.bytes.take 1 := by
  simp only [stale, List.getLast?_concat]

theorem firsts_snoc (chunks : List (Chunk Char Server2.bufferSize)) (c : Chunk Char Server2.bufferSize) :
    firsts (chunks ++ [c]) = firsts chunks ++ [c.bytes.take 1] := List.map_append

/-- What has been printed is a part of what the server has sent for the chunks; or `recv` has failed, and `write` has
been asked for more than there is. -/
def Printed (chunks : List (Chunk Char Server2.bufferSize)) : Point → Prop
  | .written buffer count => count = 2 ^ 32 - 1 ∨ buffer.front count <+: (firsts chunks).flatten
  | _ => True

/-- **The invariant.** -/
structure Going (serverBuffer : Buffer Char Server2.bufferSize) (s : Session) : Prop where
  taken : s.taken <+: s.given
  front : s.echo.buffer.front 1 = stale serverBuffer s.chunks
  sends : ∃ m, s.echo.ranges = firsts s.chunks ++ List.replicate m (stale serverBuffer s.chunks) ∧
    (m ≠ 0 → s.point.closed = true ∧ s.taken = s.given)
  printed : Printed s.chunks s.point

theorem start_going (clientBuffer : Buffer Char bufferSize) (serverBuffer : Buffer Char Server2.bufferSize) :
    Going serverBuffer (start clientBuffer serverBuffer) :=
  ⟨List.nil_prefix, rfl, ⟨0, rfl, fun h => absurd rfl h⟩, trivial⟩

/-- Before the client has closed its end, the server has only sent the first bytes of chunks. -/
theorem Going.ranges_of_open {serverBuffer : Buffer Char Server2.bufferSize} {s : Session}
    (hs : Going serverBuffer s) (hopen : s.point.closed = false) : s.echo.ranges = firsts s.chunks := by
  obtain ⟨m, hranges, hclosed⟩ := hs.sends
  cases m with
  | zero => rw [hranges, List.replicate_zero, List.append_nil]
  | succ m =>
    obtain ⟨h, _⟩ := hclosed (Nat.succ_ne_zero m)
    rw [hopen] at h
    cases h

/-- The client goes on before it has closed its end. -/
theorem Going.proceed {serverBuffer : Buffer Char Server2.bufferSize} {s s' : Session} (hs : Going serverBuffer s)
    (hopen : s.point.closed = false) (hchunks : s'.chunks = s.chunks) (hecho : s'.echo = s.echo)
    (hgiven : s.given <+: s'.given) (hprinted : Printed s.chunks s'.point) : Going serverBuffer s' := by
  have htaken : s'.taken = s.taken := by rw [Session.taken, Session.taken, hchunks]
  refine ⟨?_, ?_, ⟨0, ?_, fun h => absurd rfl h⟩, ?_⟩
  · rw [htaken]
    exact hs.taken.trans hgiven
  · rw [hecho, hchunks]
    exact hs.front
  · rw [hecho, hchunks, List.replicate_zero, List.append_nil]
    exact hs.ranges_of_open hopen
  · rw [hchunks]
    exact hprinted

theorem writeCount_length {n : ℕ} (hn : n ≤ bufferSize) : writeCount n = n := by
  have hlt : (n : ℤ) % 2 ^ 32 = n := by
    apply Int.emod_eq_of_lt
    · omega
    · rw [bufferSize] at hn
      omega
  rw [writeCount, hlt]
  rfl

/-- What the client prints is at the front of the stream. -/
theorem printed_recv {chunks : List (Chunk Char Server2.bufferSize)} {ended : Bool} (buffer : Buffer Char bufferSize)
    (r : RecvResult Char bufferSize) (harrives : arrives (firsts chunks).flatten [] ended r = true) :
    Printed chunks (.written (buffer.fill r.bytes r.bytes_length_le) (writeCount r.returned)) := by
  cases r with
  | data c =>
    have hfront : (buffer.fill c.bytes c.le).front (writeCount c.bytes.length) = c.bytes := by
      rw [writeCount_length c.le]
      exact (Buffer.front_fill_eq_iff buffer c.le c.le).mpr rfl
    refine Or.inr ?_
    show (buffer.fill c.bytes c.le).front (writeCount c.bytes.length) <+: _
    rw [hfront]
    exact List.isPrefixOf_iff_prefix.mp harrives
  | closed => exact Or.inr List.nil_prefix
  | failed => exact Or.inl rfl

/-- **The step lemma.** -/
theorem step_going {serverBuffer : Buffer Char Server2.bufferSize} {s s' : Session} {t : Turn}
    (hs : Going serverBuffer s) (h : step s t = some s') : Going serverBuffer s' := by
  cases step_effect h with
  | connected hpoint => exact hs.proceed (by rw [hpoint]; rfl) rfl rfl List.prefix_rfl trivial
  | refused hpoint => exact hs.proceed (by rw [hpoint]; rfl) rfl rfl List.prefix_rfl trivial
  | put k hpoint =>
    refine hs.proceed (by rw [hpoint]; rfl) rfl rfl ?_ hs.printed
    exact List.take_prefix_take_left (Nat.le_add_right s.put k)
  | sent hpoint => exact hs.proceed (by rw [hpoint]; rfl) rfl rfl List.prefix_rfl trivial
  | recv r hpoint harrives =>
    have hopen : s.point.closed = false := by rw [hpoint]; rfl
    rw [hs.ranges_of_open hopen] at harrives
    exact hs.proceed hopen rfl rfl List.prefix_rfl (printed_recv s.buffer r harrives)
  | chunk c harrives =>
    obtain ⟨m, hranges, hclosed⟩ := hs.sends
    -- a chunk arrives, so the stream has not ended
    have hm : m = 0 := by
      by_contra hne
      rw [(hclosed hne).2] at harrives
      have hlen := harrives.length_le
      have hpos := c.pos
      rw [List.length_append] at hlen
      omega
    subst hm
    rw [List.replicate_zero, List.append_nil] at hranges
    refine ⟨?_, ?_, ⟨0, ?_, fun h => absurd rfl h⟩, ?_⟩
    · show (s.chunks ++ [c]).flatMap Chunk.bytes <+: s.given
      rw [List.flatMap_append, List.flatMap_singleton]
      exact harrives
    · show (s.echo.buffer.fill c.bytes c.le).front 1 = stale serverBuffer (s.chunks ++ [c])
      rw [Buffer.front_fill s.echo.buffer c.le c.pos, stale_snoc]
    · show s.echo.ranges ++ [c.bytes.take 1] = firsts (s.chunks ++ [c]) ++ []
      rw [hranges, firsts_snoc, List.append_nil]
    · have hprinted := hs.printed
      show Printed (s.chunks ++ [c]) s.point
      cases hpoint : s.point with
      | written buffer count =>
        rw [hpoint] at hprinted
        obtain hcount | hpiece := hprinted
        · exact Or.inl hcount
        · refine Or.inr (hpiece.trans ?_)
          rw [firsts_snoc, List.flatten_append]
          exact List.prefix_append _ _
      | _ => trivial
  | endOfStream hclosed hall =>
    obtain ⟨m, hranges, _⟩ := hs.sends
    refine ⟨hs.taken, hs.front, ⟨m + 1, ?_, fun _ => ⟨hclosed, hall⟩⟩, hs.printed⟩
    show s.echo.ranges ++ [s.echo.buffer.front 1] = _
    rw [hranges, hs.front, List.append_assoc, List.replicate_succ']
  | failed => exact ⟨hs.taken, hs.front, hs.sends, hs.printed⟩

/-- **The run lemma.** -/
theorem run_going {clientBuffer : Buffer Char bufferSize} {serverBuffer : Buffer Char Server2.bufferSize}
    {ts : List Turn} {s : Session} (hrun : run step (start clientBuffer serverBuffer) ts = some s) :
    Going serverBuffer s :=
  run_invariant (fun _ _ _ hs h => step_going hs h) (start_going clientBuffer serverBuffer) hrun

/-! ### What is printed and what is sent -/

theorem flatten_firsts (chunks : List (Chunk Char Server2.bufferSize)) :
    (firsts chunks).flatten = chunks.flatMap fun c => c.bytes.take 1 := rfl

theorem firsts_sublist (chunks : List (Chunk Char Server2.bufferSize)) :
    (firsts chunks).flatten.Sublist (chunks.flatMap Chunk.bytes) := by
  induction chunks with
  | nil => exact List.Sublist.refl _
  | cons c chunks ih =>
    show (c.bytes.take 1 ++ (firsts chunks).flatten).Sublist (c.bytes ++ chunks.flatMap Chunk.bytes)
    exact (List.take_sublist 1 c.bytes).append ih

/-- Both begin with the first byte of the first chunk. -/
theorem firsts_head (chunks : List (Chunk Char Server2.bufferSize)) :
    (firsts chunks).flatten.head? = (chunks.flatMap Chunk.bytes).head? := by
  cases chunks with
  | nil => rfl
  | cons c chunks =>
    show (c.bytes.take 1 ++ (firsts chunks).flatten).head? = (c.bytes ++ chunks.flatMap Chunk.bytes).head?
    have hpos := c.pos
    cases hbytes : c.bytes with
    | nil =>
      rw [hbytes] at hpos
      cases hpos
    | cons b bytes => rfl

/-- The head of a part is that of the whole. -/
theorem head_of_prefix {l l' : List Char} (h : l <+: l') {b : Char} (hb : l.head? = some b) :
    l'.head? = some b := by
  obtain ⟨rest, rfl⟩ := h
  rw [List.head?_append, hb]
  rfl

/-- **What Client1 prints.**  In every run in which it has called `write`, either `recv` has failed, and `write` was
asked for `2³² - 1` characters, or it prints some of the characters of its text in their order, beginning with the
first one; and it prints the whole text only if every chunk that the server has received has one character. -/
theorem printed_text (clientBuffer : Buffer Char bufferSize) (serverBuffer : Buffer Char Server2.bufferSize)
    (ts : List Turn) (s : Session) (buffer : Buffer Char bufferSize) (count : ℕ)
    (hrun : run step (start clientBuffer serverBuffer) ts = some s) (hwritten : s.point = .written buffer count) :
    count = 2 ^ 32 - 1 ∨
      (buffer.front count).Sublist text ∧ (∀ b, (buffer.front count).head? = some b → b = 'u') ∧
        (buffer.front count = text → ∀ c ∈ s.chunks, c.bytes.length = 1) := by
  have hs := run_going hrun
  have hprinted := hs.printed
  rw [hwritten] at hprinted
  obtain hcount | hpiece := hprinted
  · exact Or.inl hcount
  · have htaken : s.taken <+: text := hs.taken.trans (List.take_prefix s.put text)
    have hfirsts : (firsts s.chunks).flatten.Sublist s.taken := firsts_sublist s.chunks
    refine Or.inr ⟨hpiece.sublist.trans (hfirsts.trans htaken.sublist), ?_, ?_⟩
    · intro b hb
      have hhead := head_of_prefix hpiece hb
      rw [firsts_head] at hhead
      have htext := head_of_prefix htaken hhead
      exact (Option.some.inj htext).symm
    · intro hall
      -- the whole text has come back, so no byte of a chunk is missing
      have hlen := hpiece.length_le
      rw [hall] at hlen
      have hwhole : (s.chunks.flatMap fun c => c.bytes.take 1) = s.chunks.flatMap Chunk.bytes := by
        rw [← flatten_firsts]
        apply hfirsts.eq_of_length_le
        exact Nat.le_trans htaken.length_le hlen
      intro c hc
      have hle := (flatMap_take_eq_iff Chunk.bytes (fun _ => 1) s.chunks).mp hwhole c hc
      have hpos := c.pos
      omega

/-- What Server2-ace receives in one piece is answered by one character. -/
def onePiece : List Turn :=
  [.connect true, .put 7, .sent, .serve (.data ⟨text, by decide, by decide⟩),
    .recv (.data ⟨['u'], by decide, by decide⟩), .serve .closed, .serve .closed]

theorem printed_text_onePiece :
    ∃ s buffer count, run step (start (.replicate 512 ' ') (.replicate 4096 ' ')) onePiece = some s ∧
      s.point = .written buffer count ∧ count = 1 ∧
      (count = 2 ^ 32 - 1 ∨
        (buffer.front count).Sublist text ∧ (∀ b, (buffer.front count).head? = some b → b = 'u') ∧
          (buffer.front count = text → ∀ c ∈ s.chunks, c.bytes.length = 1)) :=
  ⟨_, _, _, rfl, rfl, rfl, printed_text (.replicate 512 ' ') (.replicate 4096 ' ') onePiece _ _ _ rfl rfl⟩

/-- **What Server2-ace sends to Client1.**  In every run it has sent the first character of each chunk that it has
received, followed by any number of copies of the last of these, or of what its buffer held before if it has not
received anything; and the copies only when the client has closed its end and everything has been received. -/
theorem server_sends_stale (clientBuffer : Buffer Char bufferSize) (serverBuffer : Buffer Char Server2.bufferSize)
    (ts : List Turn) (s : Session) (hrun : run step (start clientBuffer serverBuffer) ts = some s) :
    ∃ m, s.echo.ranges = firsts s.chunks ++ List.replicate m (stale serverBuffer s.chunks) ∧
      (m ≠ 0 → s.point.closed = true ∧ s.taken = s.given) :=
  (run_going hrun).sends

theorem server_sends_stale_onePiece :
    ∃ s, run step (start (.replicate 512 ' ') (.replicate 4096 ' ')) onePiece = some s ∧
      s.echo.ranges = [['u'], ['u'], ['u']] ∧
      ∃ m, s.echo.ranges = firsts s.chunks ++ List.replicate m (stale (.replicate 4096 ' ') s.chunks) ∧
        (m ≠ 0 → s.point.closed = true ∧ s.taken = s.given) :=
  ⟨_, rfl, rfl, server_sends_stale (.replicate 512 ' ') (.replicate 4096 ' ') onePiece _ rfl⟩

end AceSamples.Client1
